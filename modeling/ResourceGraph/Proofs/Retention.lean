import Mathlib.Data.List.Nodup
import ResourceGraph.Proofs.Accounting

/-! # Retention

Which of the declared resolvers are there in the end, and which are lost without a word.

A resolver takes the place of an earlier one of its bucket if `Resolver.Displaces` holds: models
share a place if they answer fields of one name, resolvers by key if type and field run together
alike.  A bucket has the resolvers that were not displaced (`Holds.mem_members_iff`).  Only the
loss of a model is warned of.  `ofResources_retains_iff` has the exact conditions for both, to be
kept and to be kept or warned of; the first field in `twinResources_loses` is neither.
-/

namespace ResourceGraph

/-- Two resolvers of a bucket have one place. -/
def Bucket.Clash (bucket : Bucket) (later r : Resolver) : Prop :=
  match bucket with
  | .model => later.fieldName = r.fieldName
  | .secondaryIndex | .dropped => later.key = r.key
  | .http | .function => False

/-- A resolver takes the place of an earlier one. -/
def Resolver.Displaces (roots : List String) (later r : Resolver) : Prop :=
  later.bucket roots = r.bucket roots ∧ (r.bucket roots).Clash later r

theorem Bucket.Clash.symm {bucket : Bucket} {r s : Resolver} (h_clash : bucket.Clash r s) :
    bucket.Clash s r := by
  cases bucket with
  | model | secondaryIndex | dropped => exact Eq.symm h_clash
  | http | function => exact h_clash

theorem Resolver.Displaces.symm {roots : List String} {r s : Resolver}
    (displaces : r.Displaces roots s) : s.Displaces roots r := by
  obtain ⟨h_bucket, h_clash⟩ := displaces
  exact ⟨h_bucket.symm, h_bucket.symm ▸ h_clash.symm⟩

namespace Bundle

open Declaration

def members (b : Bundle) : Bucket → List Resolver
  | .model => b.models.values
  | .secondaryIndex => b.secondary.values
  | .http => listed b.endpoints
  | .function => listed b.functions
  | .dropped => b.dropped.values

variable {stack : String} {roots : List String} {ts : List Table} {ds : List Declaration}
  {b : Bundle} {r : Resolver}

/-! ## Who is there -/

theorem Holds.mem_members_iff (h_b : b.Holds roots ts ds) {bucket : Bucket} :
    r ∈ b.members bucket ↔
      ∃ before after, filed roots bucket ds = before ++ r :: after ∧
        ∀ later ∈ after, ¬ bucket.Clash later r := by
  cases bucket with
  | model => exact h_b.models.mem_values_iff
  | secondaryIndex => exact h_b.secondary.mem_values_iff
  | dropped => exact h_b.dropped.mem_values_iff
  | http =>
    simp only [members, listed, h_b.endpoints.flatten_perm.mem_iff, List.mem_iff_append,
      Bucket.Clash, not_false_eq_true, implies_true, and_true]
  | function =>
    simp only [members, listed, h_b.functions.flatten_perm.mem_iff, List.mem_iff_append,
      Bucket.Clash, not_false_eq_true, implies_true, and_true]

/-- No resolver is in a bucket where it does not belong. -/
theorem Holds.existsUnique_iff (h_b : b.Holds roots ts ds) :
    (∃! bucket, r ∈ b.members bucket) ↔ r ∈ b.members (r.bucket roots) := by
  have h_own : ∀ bucket, r ∈ b.members bucket → bucket = r.bucket roots := by
    intro bucket member
    obtain ⟨before, after, h_filed, -⟩ := h_b.mem_members_iff.1 member
    have h_member : r ∈ filed roots bucket ds := by simp [h_filed]
    exact (of_decide_eq_true (List.mem_filter.1 h_member).2).symm
  constructor
  · rintro ⟨bucket, member, -⟩
    exact h_own bucket member ▸ member
  · intro member
    exact ⟨r.bucket roots, member, h_own⟩

/-- A resolver that is declared once is there unless a later one takes its place. -/
theorem Holds.mem_own_iff {before after : List Declaration}
    (h_b : b.Holds roots ts (before ++ .resolver r :: after))
    (distinct : (resolversOf (before ++ .resolver r :: after)).Nodup) :
    r ∈ b.members (r.bucket roots) ↔ ∀ later ∈ resolversOf after, ¬ later.Displaces roots r := by
  have h_filed : filed roots (r.bucket roots) (before ++ .resolver r :: after) =
      filed roots (r.bucket roots) before ++ r :: filed roots (r.bucket roots) after := by
    simp [filed, resolversOf, resolver?]
  have h_once : (filed roots (r.bucket roots) (before ++ .resolver r :: after)).Nodup :=
    distinct.filter _
  rw [h_b.mem_members_iff, h_filed]
  rw [h_filed, List.nodup_middle, List.nodup_cons, List.mem_append, not_or] at h_once
  constructor
  · rintro ⟨earlier, rest, h_split, h_last⟩ later member ⟨h_bucket, h_clash⟩
    rw [List.append_cons_inj_of_notMem h_once.1.1 h_once.1.2] at h_split
    obtain ⟨-, -, rfl⟩ := h_split
    exact h_last later (List.mem_filter.2 ⟨member, decide_eq_true h_bucket⟩) h_clash
  · intro h_last
    refine ⟨_, _, rfl, ?_⟩
    intro later member h_clash
    obtain ⟨h_later, h_bucket⟩ := List.mem_filter.1 member
    exact h_last later h_later ⟨of_decide_eq_true h_bucket, h_clash⟩

/-! ## Who is warned of -/

theorem mem_repeats_of_displaces {before after : List Declaration} {later : Resolver}
    (h_model : r.bucket roots = .model) (h_later : later ∈ resolversOf after)
    (displaces : later.Displaces roots r) :
    Warning.modelTwice stack r.fieldName ∈
      repeats stack roots [] (before ++ .resolver r :: after) := by
  obtain ⟨h_bucket, h_clash⟩ := displaces
  rw [h_model] at h_bucket h_clash
  obtain ⟨between, rest, rfl⟩ := List.append_of_mem (mem_resolversOf_iff.1 h_later)
  have h_repeat : repeat? stack roots (before ++ .resolver r :: between) (.resolver later) =
      some (.modelTwice stack r.fieldName) := by
    have h_earlier : r ∈ filed roots .model (before ++ .resolver r :: between) :=
      mem_filed_iff.2 ⟨by simp, h_model⟩
    have h_field : later.fieldName = r.fieldName := h_clash
    rw [repeat?, if_pos ⟨h_bucket, List.mem_map.2 ⟨r, h_earlier, h_field.symm⟩⟩, h_field]
  have h_split : before ++ .resolver r :: (between ++ .resolver later :: rest) =
      (before ++ .resolver r :: between) ++ .resolver later :: rest := by simp
  rw [h_split]
  exact mem_repeats h_repeat

theorem Holds.kept_or_warned_iff {before after : List Declaration}
    (h_b : b.Holds roots ts (before ++ .resolver r :: after))
    (distinct : (resolversOf (before ++ .resolver r :: after)).Nodup) {warnings : List Warning}
    (h_said : warnings = repeats stack roots [] (before ++ .resolver r :: after)) :
    (∃! bucket, r ∈ b.members bucket) ∨ .modelTwice stack r.fieldName ∈ warnings ↔
      .modelTwice stack r.fieldName ∈ warnings ∨
        ∀ later ∈ resolversOf after, later.Displaces roots r → r.bucket roots = .model := by
  rw [h_b.existsUnique_iff, h_b.mem_own_iff distinct]
  constructor
  · rintro (h_kept | h_warned)
    · exact Or.inr fun later member displaces => absurd displaces (h_kept later member)
    · exact Or.inl h_warned
  · rintro (h_warned | h_model)
    · exact Or.inr h_warned
    · by_cases h_lost : ∃ later ∈ resolversOf after, later.Displaces roots r
      · obtain ⟨later, member, displaces⟩ := h_lost
        refine Or.inr ?_
        rw [h_said]
        exact mem_repeats_of_displaces (h_model later member displaces) member displaces
      · exact Or.inl fun later member displaces => h_lost ⟨later, member, displaces⟩

/-! ## Who is lost -/

/-- A resolver is there unless a later one takes its place, and it is there or warned of unless
    that happens outside the models. -/
theorem ofResources_retains_iff {options : Options} {resources : ResourceMap}
    {warnings : List Warning}
    (accepted : ofResources stack options resources = ⟨warnings, .ok b⟩)
    (distinct : ((resources.entries.filter fun entry =>
      entry.2.kind = Resource.resolverKind).map fun entry =>
        (entry.2.property "TypeName", entry.2.property "FieldName")).Nodup)
    {before after : List (String × Resource)} {entry : String × Resource}
    (h_entries : resources.entries = before ++ entry :: after)
    (h_kind : entry.2.kind = Resource.resolverKind) :
    ∃ r, Declares stack options resources entry (.resolver r) ∧
      ((∃! bucket, r ∈ b.members bucket) ↔
        ∀ other ∈ after, ∀ later, Declares stack options resources other (.resolver later) →
          ¬ later.Displaces options.roots r) ∧
      ((∃! bucket, r ∈ b.members bucket) ∨ .modelTwice stack r.fieldName ∈ warnings ↔
        .modelTwice stack r.fieldName ∈ warnings ∨
          ∀ other ∈ after, ∀ later, Declares stack options resources other (.resolver later) →
            later.Displaces options.roots r → r.bucket options.roots = .model) := by
  obtain ⟨ds, declared, h_holds, h_said, -⟩ := ofResources_holds accepted
  have h_names := names_resolversOf declared
  rw [h_entries] at declared
  obtain ⟨earlier, d, later, rfl, declares, h_later⟩ :=
    declared_split declared (by simp [declaring, h_kind])
  obtain ⟨r, rfl⟩ : ∃ r, d = .resolver r := by
    cases declares with
    | table h_table _ => exact absurd (h_kind.symm.trans h_table) (by decide)
    | resolver _ _ => exact ⟨_, rfl⟩
  have h_once : (resolversOf (earlier ++ .resolver r :: later)).Nodup := by
    rw [← h_names] at distinct
    exact distinct.of_map _
  refine ⟨r, declares, ?_, ?_⟩
  · rw [h_holds.existsUnique_iff, h_holds.mem_own_iff h_once, forall_resolversOf_iff h_later]
  · rw [h_holds.kept_or_warned_iff h_once h_said, forall_resolversOf_iff h_later]

theorem blogResources_retains :
    ∃ b r, ofResources "Blog" Options.standard blogResources =
        ⟨[.tableTwice "Blog" "PostTable", .modelTwice "Blog" "post"], .ok b⟩ ∧
      Declares "Blog" Options.standard blogResources
        ("First", pipelineResource "Query" "post" ["ReadPost"]) (.resolver r) ∧
      ((∃! bucket, r ∈ b.members bucket) ∨
        .modelTwice "Blog" r.fieldName ∈
          [Warning.tableTwice "Blog" "PostTable", .modelTwice "Blog" "post"]) := by
  have h_accepted : ∃ b, ofResources "Blog" Options.standard blogResources =
      ⟨[.tableTwice "Blog" "PostTable", .modelTwice "Blog" "post"], .ok b⟩ := ⟨_, rfl⟩
  have h_names : ((blogResources.entries.filter fun entry =>
      entry.2.kind = Resource.resolverKind).map fun entry =>
        (entry.2.property "TypeName", entry.2.property "FieldName")) =
      [(.string "Query", .string "post"), (.string "Query", .string "ping"),
        (.string "Mutation", .string "post")] := rfl
  have h_entries : blogResources.entries = blogResources.entries.take 2 ++
      ("First", pipelineResource "Query" "post" ["ReadPost"]) ::
        blogResources.entries.drop 3 := rfl
  obtain ⟨b, accepted⟩ := h_accepted
  obtain ⟨r, declares, -, h_iff⟩ :=
    ofResources_retains_iff accepted (by rw [h_names]; simp) h_entries rfl
  refine ⟨b, r, accepted, declares, h_iff.2 (Or.inl ?_)⟩
  cases declares with
  | resolver _ h_built =>
    have h_field := (Resolver.ofResource_eq_ok h_built).2.1
    rw [← Value.string.inj h_field]
    simp

/-- A stack with two fields whose types and names run together alike and that nothing backs. -/
def twinResources : ResourceMap :=
  .ofList [("First", pipelineResource "AB" "C" []), ("Second", pipelineResource "A" "BC" [])]

theorem twinResources_loses :
    ∃ b r, ofResources "Twins" Options.standard twinResources = ⟨[], .ok b⟩ ∧
      ((twinResources.entries.filter fun entry =>
        entry.2.kind = Resource.resolverKind).map fun entry =>
          (entry.2.property "TypeName", entry.2.property "FieldName")).Nodup ∧
      Declares "Twins" Options.standard twinResources
        ("First", pipelineResource "AB" "C" []) (.resolver r) ∧
      ∀ bucket, r ∉ b.members bucket := by
  have h_left : ∃ b, ofResources "Twins" Options.standard twinResources = ⟨[], .ok b⟩ ∧
      ∀ bucket, ((b.members bucket).all fun r => r.typeName = "A") = true :=
    ⟨_, rfl, fun bucket => by cases bucket <;> rfl⟩
  have h_names : ((twinResources.entries.filter fun entry =>
      entry.2.kind = Resource.resolverKind).map fun entry =>
        (entry.2.property "TypeName", entry.2.property "FieldName")) =
      [(.string "AB", .string "C"), (.string "A", .string "BC")] := rfl
  obtain ⟨b, accepted, h_members⟩ := h_left
  refine ⟨b, ⟨"AB", "C", [], none, none⟩, accepted, ?_, .resolver rfl rfl, ?_⟩
  · rw [h_names]
    simp
  · intro bucket member
    have h_type := List.all_eq_true.1 (h_members bucket) _ member
    exact absurd h_type (by decide)

end Bundle

end ResourceGraph
