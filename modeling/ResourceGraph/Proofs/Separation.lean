import ResourceGraph.Proofs.Declarations
import ResourceGraph.Proofs.Reading

/-! # Separate stacks

The stacks of a document are loaded first, and then each is taken by itself.  The relation
`Bundle.Separately` is the account of that: the stacks are taken one by one up to the first
failure, and the bundle of a stack depends on nothing but the stack.  All documents are taken as
they are loaded, with one exception: a document of empty objects of which one is called `stacks`
(`Document.Hollow`).
-/

namespace ResourceGraph

/-- Items related one by one to items that are related to further ones. -/
theorem forall₂_trans {α β γ : Type} {R : α → β → Prop} {S : β → γ → Prop} {T : α → γ → Prop}
    {xs : List α} {ys : List β} {zs : List γ} (first : List.Forall₂ R xs ys)
    (second : List.Forall₂ S ys zs) (h_trans : ∀ a b c, R a b → S b c → T a c) :
    List.Forall₂ T xs zs := by
  induction first generalizing zs with
  | nil =>
    cases second
    exact .nil
  | cons h_head _ ih =>
    cases second with
    | cons h_next h_rest => exact .cons (h_trans _ _ _ h_head h_next) (ih h_rest)

namespace Bundle

variable {options : Options} {loaded : List (String × ResourceMap)}
  {bundles : List (String × Bundle)}

/-! ## Stacks one by one -/

/-- All that is warned of when every one of several stacks is taken. -/
def warningsOf (options : Options) (loaded : List (String × ResourceMap)) : List Warning :=
  loaded.flatMap fun stack => (ofResources stack.1 options stack.2).warnings

@[simp] theorem warningsOf_nil : warningsOf options [] = [] := rfl

@[simp] theorem warningsOf_cons (stack : String × ResourceMap) :
    warningsOf options (stack :: loaded) =
      (ofResources stack.1 options stack.2).warnings ++ warningsOf options loaded := rfl

/-- What becomes of a document whose stacks are loaded and then taken one by one. -/
inductive Separately (options : Options) :
    Except Problem (List (String × ResourceMap)) → Logged (List (String × Bundle)) → Prop where
  /-- No stack is taken unless all are loaded. -/
  | unloaded (p : Problem) : Separately options (.error p) ⟨[], .error (.problem p)⟩
  /-- The first stack that fails is the last one that is taken. -/
  | failed {earlier later : List (String × ResourceMap)} {stack : String × ResourceMap}
      {failure : Failure}
      (h_earlier : ∀ other ∈ earlier, ∃ b, (ofResources other.1 options other.2).outcome = .ok b)
      (h_stack : (ofResources stack.1 options stack.2).outcome = .error failure) :
      Separately options (.ok (earlier ++ stack :: later))
        ⟨warningsOf options (earlier ++ [stack]), .error failure⟩
  | accepted {loaded : List (String × ResourceMap)} {bundles : List (String × Bundle)}
      (h_each : List.Forall₂
        (fun stack bundle => bundle.1 = stack.1 ∧
          (ofResources stack.1 options stack.2).outcome = .ok bundle.2)
        loaded bundles) :
      Separately options (.ok loaded) ⟨warningsOf options loaded, .ok bundles⟩

theorem separately_ofStacks (options : Options) (loaded : List (String × ResourceMap)) :
    Separately options (.ok loaded) (ofStacks options loaded) := by
  induction loaded with
  | nil => exact .accepted .nil
  | cons stack rest ih =>
    cases h_first : (ofResources stack.1 options stack.2).outcome with
    | error failure =>
      have h_none : ∀ other ∈ ([] : List (String × ResourceMap)),
          ∃ b, (ofResources other.1 options other.2).outcome = .ok b := by simp
      have h_failed : Separately options (.ok ([] ++ stack :: rest)) _ := .failed h_none h_first
      rw [ofStacks, Logged.bind_error h_first]
      simpa using h_failed
    | ok b =>
      rw [ofStacks, Logged.bind_ok h_first]
      generalize ofStacks options rest = taken at ih
      cases ih with
      | @failed earlier later other failure h_earlier h_other =>
        have h_all : ∀ first ∈ stack :: earlier,
            ∃ b, (ofResources first.1 options first.2).outcome = .ok b :=
          List.forall_mem_cons.2 ⟨⟨b, h_first⟩, h_earlier⟩
        have h_failed : Separately options (.ok (stack :: earlier ++ other :: later)) _ :=
          .failed h_all h_other
        simpa [Logged.bind] using h_failed
      | @accepted _ more h_each =>
        have h_accepted : Separately options (.ok (stack :: rest))
            ⟨_, .ok ((stack.1, b) :: more)⟩ := .accepted (.cons ⟨rfl, h_first⟩ h_each)
        simpa [Logged.bind, Logged.pure] using h_accepted

/-- Each stack of a document is accepted by itself and gives the bundle under its name. -/
theorem forall₂_ofStacks (accepted : (ofStacks options loaded).outcome = .ok bundles) :
    List.Forall₂
      (fun stack bundle => bundle.1 = stack.1 ∧
        (ofResources stack.1 options stack.2).outcome = .ok bundle.2)
      loaded bundles := by
  have h_taken := separately_ofStacks options loaded
  generalize ofStacks options loaded = taken at accepted h_taken
  cases h_taken with
  | failed => cases accepted
  | accepted h_each =>
    cases accepted
    exact h_each

end Bundle

/-! ## Documents -/

namespace Document

variable {members : List (String × Value)}

/-- A document of empty objects of which one is called `stacks`. -/
def Hollow (members : List (String × Value)) : Prop :=
  "stacks" ∈ members.map Prod.fst ∧ ∀ member ∈ members, member.2 = .object []

/-- The stacks of a document as they stand in it. -/
def bodiesOf (members : List (String × Value)) : List (String × Value) :=
  match OrderedMap.lookup "stacks" members with
  | some (.object bodies) => bodies
  | _ => members

theorem loadMembers_of_hollow (hollow : Hollow members) : loadMembers members = .ok [] := by
  obtain ⟨h_named, h_empty⟩ := hollow
  cases h_stacks : OrderedMap.lookup "stacks" members with
  | none => exact absurd h_named (OrderedMap.lookup_eq_none_iff.1 h_stacks)
  | some bodies =>
    have h_bodies : bodies = .object [] := h_empty _ (OrderedMap.mem_of_lookup h_stacks)
    rw [loadMembers, h_stacks, h_bodies]
    rfl

/-- What is loaded from a document is each of its stacks. -/
theorem forall₂_loadMembers {loaded : List (String × ResourceMap)}
    (h_loaded : loadMembers members = .ok loaded) :
    List.Forall₂ (fun body stack => readNamed body = .ok stack) (bodiesOf members) loaded := by
  rw [← mapM_eq_ok_iff, ← readStacks_eq_mapM, ← h_loaded, loadMembers, bodiesOf]
  cases h_stacks : OrderedMap.lookup "stacks" members with
  | none => rfl
  | some bodies =>
    rw [loadMembers, h_stacks] at h_loaded
    cases bodies with
    | object => rfl
    | null | bool _ | integer _ | decimal _ | string _ | array _ => cases h_loaded

end Document

namespace Bundle

variable {options : Options} {members : List (String × Value)}

/-- The bundle of a stack as it stands in a document. -/
def ofBody (options : Options) (stack : String) (body : Value) : Logged Bundle :=
  match Document.readStack stack body with
  | .ok resources => ofResources stack options resources
  | .error p => .ofOutcome (.error (.problem p))

theorem ofBody_of_readNamed {body : String × Value} {stack : String × ResourceMap}
    {bundle : String × Bundle} (h_read : Document.readNamed body = .ok stack)
    (h_bundle : bundle.1 = stack.1 ∧ (ofResources stack.1 options stack.2).outcome = .ok bundle.2) :
    bundle.1 = body.1 ∧ (ofBody options body.1 body.2).outcome = .ok bundle.2 := by
  rw [Document.readNamed] at h_read
  cases h_body : Document.readStack body.1 body.2 with
  | error p =>
    rw [h_body] at h_read
    cases h_read
  | ok resources =>
    rw [h_body, Except.ok.injEq] at h_read
    subst h_read
    rw [ofBody, h_body]
    exact h_bundle

theorem isEmptyObject_iff {v : Value} : isEmptyObject v = true ↔ v = .object [] := by
  cases v with
  | object inner => cases inner <;> simp [isEmptyObject]
  | null | bool _ | integer _ | decimal _ | string _ | array _ => simp [isEmptyObject]

theorem all_isEmptyObject_iff :
    (members.all fun member => isEmptyObject member.2) = true ↔
      ∀ member ∈ members, member.2 = .object [] := by
  simp only [List.all_eq_true, isEmptyObject_iff]

theorem ofStacks_of_empty (options : Options) (members : List (String × Value)) :
    ofStacks options (members.map fun member => (member.1, .empty)) =
      ⟨[], .ok (members.map fun member => (member.1, empty member.1))⟩ := by
  induction members with
  | nil => rfl
  | cons member rest ih =>
    have h_first : ofResources member.1 options .empty = ⟨[], .ok (empty member.1)⟩ := rfl
    rw [List.map_cons, ofStacks, h_first, ih]
    rfl

/-- Empty objects are stacks without resources to the loader as well, unless one is `stacks`. -/
theorem readStacks_of_empty (h_empty : ∀ member ∈ members, member.2 = .object []) :
    Document.readStacks members = .ok (members.map fun member => (member.1, .empty)) := by
  rw [Document.readStacks_eq_mapM, mapM_eq_ok_iff, List.forall₂_map_right_iff, List.forall₂_same]
  intro member h_member
  rw [Document.readNamed, h_empty member h_member]
  rfl

theorem stacksOf_of_full (full : ¬ Document.Hollow members) :
    stacksOf members = Document.loadMembers members := by
  unfold stacksOf
  split
  next h_all =>
    have h_empty := all_isEmptyObject_iff.1 h_all
    have h_named : "stacks" ∉ members.map Prod.fst := fun named => full ⟨named, h_empty⟩
    rw [Document.loadMembers, OrderedMap.lookup_eq_none_iff.2 h_named]
    exact (readStacks_of_empty h_empty).symm
  next => rfl

/-- All documents but the hollow ones are taken as they are loaded, stack by stack, and the bundle
    of a stack depends on nothing but the stack.  A hollow document has no stacks, and each of its
    members is taken for one without resources. -/
theorem ofDocument_separately (options : Options) (members : List (String × Value)) :
    (Document.Hollow members →
      Document.load (.object members) = .ok [] ∧
      ofDocument options (.object members) =
        ⟨[], .ok (members.map fun member => (member.1, empty member.1))⟩) ∧
    (¬ Document.Hollow members →
      Separately options (Document.load (.object members))
        (ofDocument options (.object members)) ∧
      ∀ bundles, (ofDocument options (.object members)).outcome = .ok bundles →
        List.Forall₂
          (fun body bundle => bundle.1 = body.1 ∧
            (ofBody options body.1 body.2).outcome = .ok bundle.2)
          (Document.bodiesOf members) bundles) := by
  refine ⟨fun hollow => ⟨Document.loadMembers_of_hollow hollow, ?_⟩, fun full => ?_⟩
  · have h_stacks : stacksOf members = .ok (members.map fun member => (member.1, .empty)) := by
      rw [stacksOf, if_pos (all_isEmptyObject_iff.2 hollow.2)]
    rw [ofDocument, h_stacks]
    exact ofStacks_of_empty options members
  · cases h_load : Document.loadMembers members with
    | error p =>
      have h_result : ofDocument options (.object members) = ⟨[], .error (.problem p)⟩ := by
        rw [ofDocument, stacksOf_of_full full, h_load]
        rfl
      rw [h_result, Document.load, h_load]
      refine ⟨.unloaded p, fun bundles accepted => ?_⟩
      cases accepted
    | ok loaded =>
      have h_result : ofDocument options (.object members) = ofStacks options loaded := by
        rw [ofDocument, stacksOf_of_full full, h_load]
      rw [h_result, Document.load, h_load]
      refine ⟨separately_ofStacks options loaded, fun bundles accepted => ?_⟩
      exact forall₂_trans (Document.forall₂_loadMembers h_load) (forall₂_ofStacks accepted)
        fun _ _ _ => ofBody_of_readNamed

/-! ## A stack beside another -/

/-- A stack with a function that reads a table. -/
def lendingResources : ResourceMap :=
  .ofList
    [("PostSource", ⟨"AWS::AppSync::DataSource",
        [("Type", .string "AMAZON_DYNAMODB"), ("Name", .string "PostTable")], []⟩),
      ("ReadPost", ⟨Resource.functionKind,
        [("DataSourceName", .string "PostSource"), ("RequestMappingTemplate", .string ""),
          ("ResponseMappingTemplate", .string "")], []⟩)]

/-- A stack with a field that calls a function which the stack does not have. -/
def borrowingResources : ResourceMap :=
  .ofList [("Post", pipelineResource "Query" "post" ["ReadPost"])]

def lendingMembers : List (String × Value) :=
  [("Data", .object (recordsOf lendingResources)),
    ("Fields", .object (recordsOf borrowingResources))]

def hollowMembers : List (String × Value) := [("stacks", .object []), ("Data", .object [])]

theorem lendingMembers_separately :
    (Document.load (.object hollowMembers) = .ok [] ∧
      ofDocument Options.standard (.object hollowMembers) =
        ⟨[], .ok [("stacks", empty "stacks"), ("Data", empty "Data")]⟩) ∧
    Separately Options.standard (Document.load (.object lendingMembers))
      (ofDocument Options.standard (.object lendingMembers)) ∧
    ∃ data fields, (ofDocument Options.standard (.object lendingMembers)).outcome =
        .ok [("Data", data), ("Fields", fields)] ∧
      (ofBody Options.standard "Fields" (.object (recordsOf borrowingResources))).outcome =
        .ok fields ∧
      fields.dropped.size = 1 := by
  have h_hollow : Document.Hollow hollowMembers :=
    ⟨List.mem_cons_self, by simp [hollowMembers]⟩
  have h_full : ¬ Document.Hollow lendingMembers := by
    rintro ⟨h_named, -⟩
    exact absurd h_named (by decide)
  have h_accepted : ∃ data fields, (ofDocument Options.standard (.object lendingMembers)).outcome =
      .ok [("Data", data), ("Fields", fields)] ∧ fields.dropped.size = 1 := ⟨_, _, rfl, rfl⟩
  obtain ⟨data, fields, accepted, h_dropped⟩ := h_accepted
  obtain ⟨h_taken, h_each⟩ := (ofDocument_separately Options.standard lendingMembers).2 h_full
  have h_bundles := h_each _ accepted
  cases h_bundles with
  | cons _ h_rest =>
    cases h_rest with
    | cons h_fields _ =>
      exact ⟨(ofDocument_separately Options.standard hollowMembers).1 h_hollow, h_taken,
        data, fields, accepted, h_fields.2, h_dropped⟩

end Bundle

end ResourceGraph
