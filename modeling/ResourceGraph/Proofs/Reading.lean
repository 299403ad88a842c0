import Mathlib.Data.List.Forall2
import ResourceGraph.Resolver.Pipeline
import ResourceGraph.Table.Declaration
import ResourceGraph.Template.Document

/-! # Reading one after the other

Records, stacks, the parts of tables and the stages of pipelines are read one after the other, up
to the first bad one.  All these readers turn out to be `List.mapM` over their items, and the two
inversions `mapM_eq_ok_iff` and `mapM_eq_error_iff` serve them all: either every item is read, or
there is a first one that is not.
-/

namespace ResourceGraph

/-! ## Lists up to a first failure -/

theorem exists_left_of_forall₂ {α β : Type} {R : α → β → Prop} {xs : List α} {ys : List β}
    {y : β} (related : List.Forall₂ R xs ys) (member : y ∈ ys) : ∃ x ∈ xs, R x y := by
  induction related with
  | nil => cases member
  | @cons x _ _ _ h_first _ ih =>
    rcases List.mem_cons.1 member with rfl | later
    · exact ⟨x, List.mem_cons_self, h_first⟩
    · obtain ⟨x', h_x', h_related⟩ := ih later
      exact ⟨x', List.mem_cons_of_mem _ h_x', h_related⟩

section

variable {α β ε : Type} {f : α → Except ε β} {items : List α}

/-- A property holds of all items of a list, or there is a first one without it. -/
theorem forall_or_exists_first (P : α → Prop) [DecidablePred P] (items : List α) :
    (∀ a ∈ items, P a) ∨
      ∃ before a after, items = before ++ a :: after ∧ (∀ b ∈ before, P b) ∧ ¬ P a := by
  cases h_found : items.find? fun a => ¬ P a with
  | none =>
    rw [List.find?_eq_none] at h_found
    exact Or.inl fun a member => by simpa using h_found a member
  | some a =>
    obtain ⟨h_a, before, after, h_split, h_before⟩ := List.find?_eq_some_iff_append.1 h_found
    exact Or.inr ⟨before, a, after, h_split, fun b member => by simpa using h_before b member,
      by simpa using h_a⟩

theorem mapM_eq_ok_iff {results : List β} :
    items.mapM f = .ok results ↔ List.Forall₂ (fun a b => f a = .ok b) items results := by
  induction items generalizing results with
  | nil => simp [pure, Except.pure, eq_comm]
  | cons a rest ih =>
    rw [List.mapM_cons, List.forall₂_cons_left_iff]
    cases h_first : f a with
    | error e => simp [bind, Except.bind]
    | ok b =>
      cases h_rest : rest.mapM f with
      | error e => simp [bind, Except.bind, ← ih, h_rest]
      | ok more =>
        simp only [bind, Except.bind, pure, Except.pure, ← ih, h_rest, Except.ok.injEq]
        constructor
        · rintro rfl
          exact ⟨b, more, rfl, rfl, rfl⟩
        · rintro ⟨_, _, rfl, rfl, rfl⟩
          rfl

/-- The failure of a list is that of its first item that fails. -/
theorem mapM_eq_error_iff {e : ε} :
    items.mapM f = .error e ↔
      ∃ before a after, items = before ++ a :: after ∧ (∀ b ∈ before, ∃ result, f b = .ok result) ∧
        f a = .error e := by
  induction items with
  | nil => simp [pure, Except.pure]
  | cons first rest ih =>
    rw [List.mapM_cons]
    cases h_first : f first with
    | error e' =>
      simp only [bind, Except.bind, Except.error.injEq]
      constructor
      · rintro rfl
        exact ⟨[], first, rest, rfl, nofun, h_first⟩
      · rintro ⟨before, a, after, h_split, h_before, h_failed⟩
        cases before with
        | nil =>
          cases h_split
          rw [h_first, Except.error.injEq] at h_failed
          exact h_failed
        | cons b more =>
          cases h_split
          obtain ⟨result, h_result⟩ := h_before first List.mem_cons_self
          rw [h_first] at h_result
          cases h_result
    | ok b =>
      have h_rest : (Except.ok b >>= fun b => do let more ← rest.mapM f; pure (b :: more)) =
          .error e ↔ rest.mapM f = .error e := by
        cases rest.mapM f <;> simp [bind, Except.bind, pure, Except.pure]
      rw [h_rest, ih]
      constructor
      · rintro ⟨before, a, after, rfl, h_before, h_failed⟩
        refine ⟨first :: before, a, after, rfl, ?_, h_failed⟩
        exact List.forall_mem_cons.2 ⟨⟨b, h_first⟩, h_before⟩
      · rintro ⟨before, a, after, h_split, h_before, h_failed⟩
        cases before with
        | nil =>
          cases h_split
          rw [h_first] at h_failed
          cases h_failed
        | cons _ more =>
          cases h_split
          exact ⟨more, a, after, rfl, fun b' member => h_before b' (List.mem_cons_of_mem _ member),
            h_failed⟩

end

/-! ## Parts of tables -/

theorem KeySchema.readEntries_eq_mapM {resource : Option String}
    {definitions : AttributeDefinitions} {entries : List Value} :
    readEntries resource definitions entries = entries.mapM (readEntry resource definitions) := by
  induction entries with
  | nil => rfl
  | cons entry rest ih =>
    rw [readEntries, List.mapM_cons, ih]
    cases readEntry resource definitions entry with
    | error failure => rfl
    | ok key => cases rest.mapM (readEntry resource definitions) <;> rfl

theorem SecondaryIndex.readEach_eq_mapM {read : Value → Outcome SecondaryIndex}
    {items : List Value} : readEach read items = items.mapM read := by
  induction items with
  | nil => rfl
  | cons item rest ih =>
    rw [readEach, List.mapM_cons, ih]
    cases read item with
    | error failure => rfl
    | ok index => cases rest.mapM read <;> rfl

/-! ## Pipelines -/

/-- The functions of a pipeline, without the entries that lead to none. -/
theorem Pipeline.readEntries_eq_map_mapM {resources : ResourceMap} {stack : Option String}
    {entries : List Value} :
    readEntries resources stack entries =
      (entries.mapM (readEntry resources stack)).map fun found => found.filterMap id := by
  induction entries with
  | nil => rfl
  | cons entry rest ih =>
    rw [readEntries, List.mapM_cons, ih]
    cases readEntry resources stack entry with
    | error p => rfl
    | ok function =>
      cases rest.mapM (readEntry resources stack) with
      | error p => rfl
      | ok more => cases function <;> rfl

theorem Stage.ofFunctions_eq_mapM {resources : ResourceMap} {extension : String}
    {stack : Option String} {functions : List (String × Resource)} :
    ofFunctions resources extension stack functions =
      functions.mapM fun function =>
        ofFunction resources extension stack function.1 function.2 := by
  induction functions with
  | nil => rfl
  | cons function rest ih =>
    rw [ofFunctions, List.mapM_cons, ih]
    cases ofFunction resources extension stack function.1 function.2 with
    | error failure => rfl
    | ok stage =>
      cases rest.mapM fun function =>
        ofFunction resources extension stack function.1 function.2 <;> rfl

/-- Each stage of a pipeline is made by one of its functions, in order. -/
theorem Stage.ofFunctions_eq_ok_iff {resources : ResourceMap} {extension : String}
    {stack : Option String} {functions : List (String × Resource)} {stages : List Stage} :
    ofFunctions resources extension stack functions = .ok stages ↔
      List.Forall₂
        (fun function stage =>
          ofFunction resources extension stack function.1 function.2 = .ok stage)
        functions stages := by
  rw [ofFunctions_eq_mapM, mapM_eq_ok_iff]

/-! ## Records -/

namespace Resource

variable {raw : Value} {members : List (String × Value)}

theorem readKind_ne_error_nil : readKind members ≠ .error [] := by
  unfold readKind
  split
  · split <;> simp
  · simp
  · simp

theorem readProperties_ne_error_nil : readProperties members ≠ .error [] := by
  unfold readProperties
  split <;> simp

theorem readDependencies_ne_error_nil : readDependencies members ≠ .error [] := by
  unfold readDependencies
  split
  · simp
  · simp
  · simp
  · split <;> simp
  · simp

theorem read_ne_error_nil : read raw ≠ .error [] := by
  cases raw with
  | object members =>
    intro h_read
    simp only [read] at h_read
    split at h_read
    next => cases h_read
    next h_partly =>
      rw [Except.error.injEq, List.append_eq_nil_iff, List.append_eq_nil_iff,
        flawsOf_eq_nil_iff readKind_ne_error_nil, flawsOf_eq_nil_iff readProperties_ne_error_nil,
        flawsOf_eq_nil_iff readDependencies_ne_error_nil] at h_read
      obtain ⟨⟨⟨kind, h_kind⟩, properties, h_properties⟩, dependencies, h_dependencies⟩ := h_read
      exact h_partly kind properties dependencies h_kind h_properties h_dependencies
  | null | bool _ | integer _ | decimal _ | string _ | array _ => simp [read]

/-- What has no flaw is a record. -/
theorem flaws_eq_nil_iff : flaws raw = [] ↔ ∃ resource, read raw = .ok resource :=
  flawsOf_eq_nil_iff read_ne_error_nil

theorem read_eq_error_flaws (h_flawed : flaws raw ≠ []) : read raw = .error (flaws raw) := by
  cases h_read : read raw with
  | ok resource => exact absurd (flaws_eq_nil_iff.2 ⟨resource, h_read⟩) h_flawed
  | error found => simp [flaws, h_read, flawsOf]

end Resource

/-! ## The resources of a stack -/

namespace ResourceMap

variable {stack : Option String} {members : List (String × Value)}

theorem readEntries_eq_mapM : readEntries stack members = members.mapM (readEntry stack) := by
  induction members with
  | nil => rfl
  | cons member rest ih =>
    rw [readEntries, List.mapM_cons, ih]
    cases readEntry stack member with
    | error problem => rfl
    | ok entry => cases rest.mapM (readEntry stack) <;> rfl

theorem readEntries_eq_ok_iff {entries : List (String × Resource)} :
    readEntries stack members = .ok entries ↔
      List.Forall₂ (fun member entry => readEntry stack member = .ok entry) members entries := by
  rw [readEntries_eq_mapM, mapM_eq_ok_iff]

/-- Records with names of their own are kept as they stand. -/
theorem readMembers_eq_ok_iff {resources : ResourceMap}
    (distinct : (members.map Prod.fst).Nodup) :
    readMembers stack members = .ok resources ↔
      readEntries stack members = .ok resources.entries := by
  unfold readMembers
  cases h_entries : readEntries stack members with
  | error problem => simp
  | ok entries =>
    have h_kept : (OrderedMap.ofList entries).entries = entries := by
      rw [← keys_readEntries h_entries] at distinct
      exact OrderedMap.entries_insertAll distinct
    simp only [Except.ok.injEq]
    constructor
    · rintro rfl
      exact h_kept.symm
    · rintro rfl
      exact OrderedMap.ofList_entries resources

end ResourceMap

/-! ## The stacks of a document -/

namespace Document

/-- One named stack. -/
def readNamed (named : String × Value) : Except Problem (String × ResourceMap) :=
  match readStack named.1 named.2 with
  | .ok resources => .ok (named.1, resources)
  | .error problem => .error problem

theorem readStacks_eq_mapM {bodies : List (String × Value)} :
    readStacks bodies = bodies.mapM readNamed := by
  induction bodies with
  | nil => rfl
  | cons body rest ih =>
    rw [readStacks, List.mapM_cons, ih, readNamed]
    cases readStack body.1 body.2 with
    | error problem => rfl
    | ok resources => cases rest.mapM readNamed <;> rfl

end Document

end ResourceGraph
