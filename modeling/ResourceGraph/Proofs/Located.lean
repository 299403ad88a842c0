import ResourceGraph.Proofs.KeyedMaps
import ResourceGraph.Proofs.Separation

/-! # Located problems

Every problem of a stack says where it arose: in the stack, and at one of its resources.

Two properties of a place are carried through all readers.  `Problem.IsWithin` says that the place
is in the stack as far as it is known; readers deep inside a resource, which may have been led to
another resource on the way, can promise no more.  `Problem.IsAt` says that the place is known,
and once the readers of whole resources have filled in what was missing, it holds.  The places of
the problems of a stack and of a document are in `Bundle.problems_located`.
-/

namespace ResourceGraph

/-! ## Places -/

namespace Problem

/-- The place is a stack and one of several names, as far as it is known. -/
structure IsWithin (stack : String) (names : List String) (p : Problem) : Prop where
  stack : ∀ known ∈ p.stack, known = stack
  resource : ∀ known ∈ p.resource, known ∈ names

structure IsAt (stack : String) (names : List String) (p : Problem) : Prop where
  stack : p.stack = some stack
  resource : ∃ name ∈ names, p.resource = some name

variable {stack name : String} {names : List String} {cause : Cause} {p : Problem}

theorem isWithin_of_unknown : IsWithin stack names ⟨cause, none, none⟩ := ⟨nofun, nofun⟩

theorem isWithin_of_stack : IsWithin stack names ⟨cause, some stack, none⟩ :=
  ⟨fun _ known => (Option.mem_some_iff.1 known).symm, nofun⟩

theorem isWithin_of_resource (member : name ∈ names) :
    IsWithin stack names ⟨cause, none, some name⟩ :=
  ⟨nofun, fun _ known => Option.mem_some_iff.1 known ▸ member⟩

theorem IsAt.isWithin (h_at : p.IsAt stack names) : p.IsWithin stack names := by
  obtain ⟨name, member, h_resource⟩ := h_at.resource
  constructor
  · rw [h_at.stack]
    exact fun _ known => (Option.mem_some_iff.1 known).symm
  · rw [h_resource]
    exact fun _ known => Option.mem_some_iff.1 known ▸ member

theorem isAt_mk (member : name ∈ names) : IsAt stack names ⟨cause, some stack, some name⟩ :=
  ⟨rfl, name, member, rfl⟩

theorem IsAt.mono {more : List String} (h_at : p.IsAt stack names)
    (h_names : ∀ name ∈ names, name ∈ more) : p.IsAt stack more := by
  obtain ⟨name, member, h_resource⟩ := h_at.resource
  exact ⟨h_at.stack, name, h_names name member, h_resource⟩

/-- What is missing of a place is filled in. -/
theorem IsWithin.isAt_within (h_within : p.IsWithin stack names) (member : name ∈ names) :
    (p.within stack name).IsAt stack names := by
  constructor
  · rw [within_stack]
    cases h_stack : p.stack with
    | none => rfl
    | some known => exact congrArg some (h_within.stack known h_stack)
  · rw [within_resource]
    cases h_resource : p.resource with
    | none => exact ⟨name, member, rfl⟩
    | some known => exact ⟨known, h_within.resource known h_resource, rfl⟩

end Problem

/-! ## Results that fail -/

/-- All failures of a result have a property. -/
def FailsOnly {ε α : Type} (P : ε → Prop) (result : Except ε α) : Prop :=
  ∀ e, result = .error e → P e

section

variable {ε α β : Type} {P : ε → Prop}

@[simp] theorem failsOnly_ok {a : α} : FailsOnly P (.ok a) := nofun

@[simp] theorem failsOnly_error {e : ε} : FailsOnly P (.error e : Except ε α) ↔ P e :=
  ⟨fun h_all => h_all e rfl, fun h_e _ same => Except.error.inj same ▸ h_e⟩

theorem FailsOnly.mapM {items : List α} {f : α → Except ε β}
    (h_each : ∀ a ∈ items, FailsOnly P (f a)) : FailsOnly P (items.mapM f) := by
  intro e failed
  obtain ⟨before, a, after, rfl, -, h_a⟩ := mapM_eq_error_iff.1 failed
  exact h_each a (by simp) e h_a

theorem FailsOnly.mono {Q : ε → Prop} {result : Except ε α} (h_only : FailsOnly P result)
    (h_imp : ∀ e, P e → Q e) : FailsOnly Q result := fun e failed => h_imp e (h_only e failed)

end

/-- What the problem of a failure has to be like; a fault says nothing of its place. -/
def Failure.Satisfies (P : Problem → Prop) : Failure → Prop
  | problem p => P p
  | fault _ => True

theorem Failure.Satisfies.mono {P Q : Problem → Prop} (h_imp : ∀ p, P p → Q p) {failure : Failure}
    (h_failure : failure.Satisfies P) : failure.Satisfies Q := by
  cases failure with
  | problem p => exact h_imp p h_failure
  | fault f => trivial

/-- An outcome has no problems but those within a stack. -/
abbrev Outcome.StaysWithin {α : Type} (stack : String) (names : List String)
    (outcome : Outcome α) : Prop :=
  FailsOnly (Failure.Satisfies (Problem.IsWithin stack names)) outcome

/-- Every problem of an outcome has a place within a stack. -/
abbrev Outcome.IsPlaced {α : Type} (stack : String) (names : List String)
    (outcome : Outcome α) : Prop :=
  FailsOnly (Failure.Satisfies (Problem.IsAt stack names)) outcome

namespace Outcome

variable {α : Type} {stack : String} {names : List String} {result : Except Problem α}

theorem IsPlaced.staysWithin {outcome : Outcome α} (placed : outcome.IsPlaced stack names) :
    outcome.StaysWithin stack names :=
  placed.mono fun _ => Failure.Satisfies.mono fun _ => Problem.IsAt.isWithin

theorem ofProblem_eq_ok_iff {a : α} : ofProblem result = .ok a ↔ result = .ok a := by
  cases result <;> simp [ofProblem]

theorem staysWithin_ofProblem (h_within : FailsOnly (Problem.IsWithin stack names) result) :
    (ofProblem result).StaysWithin stack names := by
  cases result with
  | ok a => exact failsOnly_ok
  | error p => exact failsOnly_error.2 (h_within p rfl)

end Outcome

section

variable {stack name : String} {names : List String} {resources : ResourceMap}

/-! ## Tables -/

namespace KeySchema

variable {definitions : AttributeDefinitions}

theorem staysWithin_problem {α : Type} {cause : Cause} (member : name ∈ names) :
    (problem (some name) cause : Outcome α).StaysWithin stack names :=
  failsOnly_error.2 (Problem.isWithin_of_resource member)

theorem staysWithin_readEntry (member : name ∈ names) (entry : Value) :
    (readEntry (some name) definitions entry).StaysWithin stack names := by
  unfold readEntry
  split
  next members =>
    dsimp only
    split
    next => exact failsOnly_error.2 trivial
    next =>
      split
      next => exact staysWithin_problem member
      next definition _ =>
        have h_type : (readType (some name) definition).StaysWithin stack names := by
          unfold readType
          dsimp only
          split
          next => exact failsOnly_ok
          next => exact staysWithin_problem member
        have h_role (key : Value) : (readRole (some name) key members).StaysWithin stack names := by
          unfold readRole
          dsimp only
          split
          next => exact failsOnly_ok
          next => exact staysWithin_problem member
        split
        next h_failed => exact failsOnly_error.2 (h_type _ h_failed)
        next =>
          split
          next h_failed => exact failsOnly_error.2 (h_role _ _ h_failed)
          next => exact failsOnly_ok
  next => exact failsOnly_error.2 trivial

theorem staysWithin_readEntries (member : name ∈ names) (entries : List Value) :
    (readEntries (some name) definitions entries).StaysWithin stack names := by
  rw [readEntries_eq_mapM]
  exact FailsOnly.mapM fun entry _ => staysWithin_readEntry member entry

theorem staysWithin_readWith (member : name ∈ names) (schema : Value) :
    (readWith (some name) definitions schema).StaysWithin stack names := by
  unfold readWith
  split
  next => exact failsOnly_error.2 trivial
  next entries _ =>
    split
    next h_entries => exact failsOnly_error.2 (staysWithin_readEntries member entries _ h_entries)
    next => exact failsOnly_ok

end KeySchema

namespace SecondaryIndex

variable {definitions : AttributeDefinitions}

theorem staysWithin_readLocal (member : name ∈ names) (v : Value) :
    (readLocal name definitions v).StaysWithin stack names := by
  unfold readLocal
  split
  next members =>
    split
    next h_keys => exact failsOnly_error.2 (KeySchema.staysWithin_readWith member _ _ h_keys)
    next => exact failsOnly_ok
  next => exact failsOnly_error.2 trivial

theorem staysWithin_readGlobal (member : name ∈ names) (v : Value) :
    (readGlobal name definitions v).StaysWithin stack names := by
  unfold readGlobal
  split
  next members =>
    split
    next h_keys => exact failsOnly_error.2 (KeySchema.staysWithin_readWith member _ _ h_keys)
    next => exact KeySchema.staysWithin_problem member
    next => exact failsOnly_ok
  next => exact failsOnly_error.2 trivial

theorem staysWithin_readAll {read : Value → Outcome SecondaryIndex}
    (h_read : ∀ v, (read v).StaysWithin stack names) (v : Value) :
    (readAll read v).StaysWithin stack names := by
  unfold readAll
  split
  next => exact failsOnly_error.2 trivial
  next items _ =>
    rw [readEach_eq_mapM]
    exact FailsOnly.mapM fun item _ => h_read item

end SecondaryIndex

theorem Table.staysWithin_ofResource (member : name ∈ names) (suffix : String)
    (resource : Resource) : (ofResource name suffix resource).StaysWithin stack names := by
  unfold ofResource
  split
  next => exact failsOnly_error.2 trivial
  next definitions _ =>
    split
    next h_keys => exact failsOnly_error.2 (KeySchema.staysWithin_readWith member _ _ h_keys)
    next => exact KeySchema.staysWithin_problem member
    next =>
      split
      next => exact failsOnly_error.2 trivial
      next =>
        split
        next h_failed =>
          exact failsOnly_error.2
            (SecondaryIndex.staysWithin_readAll (SecondaryIndex.staysWithin_readLocal member) _ _
              h_failed)
        next =>
          split
          next h_failed =>
            exact failsOnly_error.2
              (SecondaryIndex.staysWithin_readAll (SecondaryIndex.staysWithin_readGlobal member) _ _
                h_failed)
          next => exact failsOnly_ok

/-! ## Pipelines -/

/-- A reference that leads nowhere says at most in which stack. -/
theorem Reference.isWithin_of_resolveValue (mode : Strictness) (v : Value) :
    FailsOnly (Problem.IsWithin stack names) (resolveValue mode resources (some stack) v) := by
  unfold resolveValue
  split
  next reference _ =>
    cases reference with
    | none => exact failsOnly_ok
    | some reference =>
      unfold resolveOption resolve
      cases reference with
      | literal _ | named _ | interpolated _ _ => exact failsOnly_ok
      | attributeOf resource member =>
        dsimp only
        split
        next => exact failsOnly_ok
        next =>
          cases mode with
          | strict => exact failsOnly_error.2 Problem.isWithin_of_stack
          | lenient => exact failsOnly_ok
  next =>
    cases mode with
    | strict => exact failsOnly_error.2 Problem.isWithin_of_unknown
    | lenient => exact failsOnly_ok

theorem Reference.mem_keys_of_fetch {found : String × Resource} {given : Option String}
    (h_found : fetch resources given = some found) : found.1 ∈ resources.keys := by
  obtain ⟨name, -, h_named⟩ := Option.bind_eq_some_iff.1 h_found
  obtain ⟨record, h_record, rfl⟩ := Option.map_eq_some_iff.1 h_named
  exact OrderedMap.mem_keys_iff.2 ⟨_, h_record⟩

namespace Pipeline

theorem mem_keys_of_function? {found : String × Resource}
    (h_found : function? resources name = some found) : found.1 ∈ resources.keys := by
  obtain ⟨rfl, h_record, -⟩ := function?_eq_some_iff.1 h_found
  exact OrderedMap.mem_keys_iff.2 ⟨_, h_record⟩

/-- The functions of a pipeline are resources of the stack. -/
theorem mem_keys_of_readEntries {entries : List Value} {found : List (String × Resource)}
    (h_found : readEntries resources (some stack) entries = .ok found) :
    ∀ function ∈ found, function.1 ∈ resources.keys := by
  rw [readEntries_eq_map_mapM] at h_found
  cases h_read : entries.mapM (readEntry resources (some stack)) with
  | error p =>
    rw [h_read] at h_found
    cases h_found
  | ok read =>
    rw [h_read] at h_found
    cases h_found
    intro function member
    obtain ⟨_, h_member, rfl⟩ := List.mem_filterMap.1 member
    obtain ⟨entry, -, h_entry⟩ := exists_left_of_forall₂ (mapM_eq_ok_iff.1 h_read) h_member
    rw [readEntry] at h_entry
    split at h_entry
    next =>
      obtain ⟨name, -, h_function⟩ := Option.bind_eq_some_iff.1 (Except.ok.inj h_entry)
      exact mem_keys_of_function? h_function
    next => cases h_entry

theorem isWithin_of_readEntries (entries : List Value) :
    FailsOnly (Problem.IsWithin stack names) (readEntries resources (some stack) entries) := by
  have h_entry (entry : Value) :
      FailsOnly (Problem.IsWithin stack names) (readEntry resources (some stack) entry) := by
    unfold readEntry
    split
    next => exact failsOnly_ok
    next h_value =>
      exact failsOnly_error.2 (Reference.isWithin_of_resolveValue .strict entry _ h_value)
  rw [readEntries_eq_map_mapM]
  cases h_read : entries.mapM (readEntry resources (some stack)) with
  | error p => exact failsOnly_error.2 (FailsOnly.mapM (fun entry _ => h_entry entry) p h_read)
  | ok found => exact failsOnly_ok

theorem mem_keys_of_functions {resource : Resource} {found : List (String × Resource)}
    (h_found : functions resource resources (some stack) = .ok found) :
    ∀ function ∈ found, function.1 ∈ resources.keys := by
  unfold functions at h_found
  split at h_found
  next => cases h_found
  next =>
    split at h_found
    next =>
      cases h_found
      intro function member
      obtain ⟨name, -, h_function⟩ := List.mem_filterMap.1 member
      exact mem_keys_of_function? h_function
    next =>
      split at h_found
      next => cases h_found
      next => exact mem_keys_of_readEntries (Outcome.ofProblem_eq_ok_iff.1 h_found)

theorem staysWithin_functions (resource : Resource) :
    (functions resource resources (some stack)).StaysWithin stack names := by
  unfold functions
  split
  next => exact failsOnly_error.2 trivial
  next =>
    split
    next => exact failsOnly_ok
    next =>
      split
      next => exact failsOnly_error.2 trivial
      next items _ => exact Outcome.staysWithin_ofProblem (isWithin_of_readEntries items)

end Pipeline

/-! ## Resolvers -/

/-- A data source that is no good is itself the place. -/
theorem Binding.isPlaced_ofFunction (function : Resource) :
    (ofFunction resources (some stack) name function).IsPlaced stack resources.keys := by
  unfold ofFunction
  split
  next source record h_source =>
    have member : source ∈ resources.keys := Reference.mem_keys_of_fetch h_source
    unfold ofSource
    split
    next =>
      unfold ofTable
      split
      next => exact failsOnly_ok
      next => exact failsOnly_error.2 (Problem.isAt_mk member)
    next =>
      unfold ofLambda
      split
      next => exact failsOnly_error.2 trivial
      next =>
        split
        next => exact failsOnly_ok
        next => exact failsOnly_error.2 (Problem.isAt_mk member)
    next =>
      unfold ofHttp
      split
      next => exact failsOnly_error.2 trivial
      next =>
        split
        next => exact failsOnly_ok
        next => exact failsOnly_error.2 (Problem.isAt_mk member)
    next => exact failsOnly_ok
    next => exact failsOnly_error.2 (Problem.isAt_mk member)
  next => exact failsOnly_ok

namespace MappingTemplate

variable {direction extension : String} {properties : List (String × Value)}

theorem isAt_of_readOptional (member : name ∈ names) :
    FailsOnly (Problem.IsAt stack names)
      (readOptional direction extension (some stack) name properties) := by
  unfold readOptional
  split
  next => exact failsOnly_ok
  next => exact failsOnly_error.2 (Problem.isAt_mk member)

theorem isAt_of_readRequired (member : name ∈ names) :
    FailsOnly (Problem.IsAt stack names)
      (readRequired direction extension (some stack) name properties) := by
  unfold readRequired
  split
  next => exact failsOnly_ok
  next => exact failsOnly_error.2 (Problem.isAt_mk member)
  next => exact failsOnly_error.2 (Problem.isAt_mk member)

end MappingTemplate

namespace Stage

variable {extension : String}

/-- A stage fails at its function or at the data source of the function. -/
theorem isPlaced_ofFunction (member : name ∈ resources.keys) (function : Resource) :
    (ofFunction resources extension (some stack) name function).IsPlaced stack resources.keys := by
  unfold ofFunction
  split
  next h_binding => exact failsOnly_error.2 (Binding.isPlaced_ofFunction function _ h_binding)
  next =>
    split
    next h_request =>
      exact failsOnly_error.2 (MappingTemplate.isAt_of_readRequired member _ h_request)
    next =>
      split
      next h_response =>
        exact failsOnly_error.2 (MappingTemplate.isAt_of_readRequired member _ h_response)
      next => exact failsOnly_ok

theorem isPlaced_ofFunctions {functions : List (String × Resource)}
    (h_members : ∀ function ∈ functions, function.1 ∈ resources.keys) :
    (ofFunctions resources extension (some stack) functions).IsPlaced stack resources.keys := by
  rw [ofFunctions_eq_mapM]
  exact FailsOnly.mapM fun function member =>
    isPlaced_ofFunction (h_members function member) function.2

end Stage

/-- A resolver fails at itself, at a resource to which its pipeline leads, or at a place that is not
    known yet. -/
theorem Resolver.staysWithin_ofResource (member : name ∈ resources.keys) (extension : String)
    (resource : Resource) :
    (ofResource name resource resources extension (some stack)).StaysWithin stack
      resources.keys := by
  have h_optional {direction : String} {p : Problem}
      (h_failed : MappingTemplate.readOptional direction extension (some stack) name
        resource.properties = .error p) : p.IsWithin stack resources.keys :=
    (MappingTemplate.isAt_of_readOptional member p h_failed).isWithin
  unfold ofResource
  split
  next => exact failsOnly_error.2 (Problem.isAt_mk member).isWithin
  next =>
    split
    next => exact failsOnly_error.2 (Problem.isAt_mk member).isWithin
    next =>
      split
      next h_request => exact failsOnly_error.2 (h_optional h_request)
      next =>
        split
        next h_response => exact failsOnly_error.2 (h_optional h_response)
        next =>
          split
          next h_functions =>
            exact failsOnly_error.2 (Pipeline.staysWithin_functions resource _ h_functions)
          next h_functions =>
            have h_members := Pipeline.mem_keys_of_functions h_functions
            split
            next failure h_stages =>
              exact failsOnly_error.2
                ((Stage.isPlaced_ofFunctions h_members).staysWithin failure h_stages)
            next => exact failsOnly_ok

end

/-! ## Stacks -/

namespace Bundle

variable {stack : String} {options : Options} {resources : ResourceMap}

/-- What is missing of the place of a failure is filled in. -/
theorem isPlaced_within {α : Type} {name : String} {names : List String} {outcome : Outcome α}
    (h_within : outcome.StaysWithin stack names) (member : name ∈ names) :
    (outcome.within stack name).IsPlaced stack names := by
  cases outcome with
  | ok a => exact failsOnly_ok
  | error failure =>
    cases failure with
    | problem p =>
      exact failsOnly_error.2 (Problem.IsWithin.isAt_within (h_within _ rfl) member)
    | fault f => exact failsOnly_error.2 trivial

theorem isPlaced_declare {b : Bundle} {entry : String × Resource}
    (member : entry.1 ∈ resources.keys) :
    (declare stack options resources b entry).outcome.IsPlaced stack resources.keys := by
  unfold declare
  split
  next =>
    unfold declareTable
    split
    next => exact failsOnly_ok
    next h_failed =>
      exact failsOnly_error.2
        (isPlaced_within (Table.staysWithin_ofResource member _ _) member _ h_failed)
  next =>
    split
    next =>
      unfold declareResolver
      split
      next => exact failsOnly_ok
      next h_failed =>
        exact failsOnly_error.2
          (isPlaced_within (Resolver.staysWithin_ofResource member _ _) member _ h_failed)
    next => exact failsOnly_ok

theorem isPlaced_declareAll {b : Bundle} {entries : List (String × Resource)}
    (h_members : ∀ entry ∈ entries, entry.1 ∈ resources.keys) :
    (declareAll stack options resources b entries).outcome.IsPlaced stack resources.keys := by
  unfold declareAll
  induction entries generalizing b with
  | nil => exact failsOnly_ok
  | cons entry rest ih =>
    obtain ⟨member, h_rest⟩ := List.forall_mem_cons.1 h_members
    rw [Logged.foldl_cons]
    cases h_first : (declare stack options resources b entry).outcome with
    | error failure =>
      rw [Logged.bind_error h_first]
      exact failsOnly_error.2 (isPlaced_declare member _ h_first)
    | ok c =>
      rw [Logged.bind_ok h_first]
      exact ih h_rest

theorem isPlaced_ofResources (stack : String) (options : Options) (resources : ResourceMap) :
    (ofResources stack options resources).outcome.IsPlaced stack resources.keys := by
  have h_members : ∀ entry ∈ resources.entries, entry.1 ∈ resources.keys :=
    fun _ member => List.mem_map_of_mem member
  unfold ofResources
  cases h_declared : (declareAll stack options resources (empty stack) resources.entries).outcome with
  | error failure =>
    rw [Logged.bind_error h_declared]
    exact failsOnly_error.2 (isPlaced_declareAll h_members _ h_declared)
  | ok b =>
    rw [Logged.bind_ok h_declared]
    exact failsOnly_ok

end Bundle

namespace ResourceMap

variable {stack : String} {members : List (String × Value)}

theorem isAt_of_readMembers :
    FailsOnly (Problem.IsAt stack (members.map Prod.fst)) (readMembers (some stack) members) := by
  have h_entry (member : String × Value) (h_member : member ∈ members) :
      FailsOnly (Problem.IsAt stack (members.map Prod.fst)) (readEntry (some stack) member) := by
    unfold readEntry
    split
    next => exact failsOnly_ok
    next => exact failsOnly_error.2 (Problem.isAt_mk (List.mem_map_of_mem h_member))
  unfold readMembers
  split
  next => exact failsOnly_ok
  next h_entries =>
    rw [readEntries_eq_mapM] at h_entries
    exact failsOnly_error.2 (FailsOnly.mapM h_entry _ h_entries)

/-- The resources of a stack bear names that stand in the stack. -/
theorem keys_readMembers {resources : ResourceMap}
    (h_read : readMembers (some stack) members = .ok resources) :
    ∀ name ∈ resources.keys, name ∈ members.map Prod.fst := by
  unfold readMembers at h_read
  split at h_read
  next entries h_entries =>
    cases h_read
    intro name member
    rw [OrderedMap.ofList, OrderedMap.mem_keys_insertAll, keys_readEntries h_entries] at member
    exact member.resolve_left List.not_mem_nil
  next => cases h_read

end ResourceMap

/-! ## Documents -/

namespace Document

variable {members : List (String × Value)}

theorem stack_of_readNamed (body : String × Value) :
    FailsOnly (fun p => p.stack = some body.1) (readNamed body) := by
  unfold readNamed readStack
  cases body.2 with
  | object members =>
    dsimp only
    split
    next => exact failsOnly_ok
    next h_failed =>
      split at h_failed
      next =>
        split at h_failed
        next => cases h_failed
        next =>
          cases h_failed
          exact failsOnly_error.2 rfl
      next => exact failsOnly_error.2 (ResourceMap.isAt_of_readMembers _ h_failed).stack
  | null | bool _ | integer _ | decimal _ | string _ | array _ => exact failsOnly_error.2 rfl

theorem keys_loadMembers {loaded : List (String × ResourceMap)}
    (h_loaded : loadMembers members = .ok loaded) :
    loaded.map Prod.fst = (bodiesOf members).map Prod.fst := by
  have h_each := forall₂_loadMembers h_loaded
  have h_names : List.Forall₂ (fun body stack => body = stack)
      ((bodiesOf members).map Prod.fst) (loaded.map Prod.fst) := by
    rw [List.forall₂_map_left_iff, List.forall₂_map_right_iff]
    refine h_each.imp fun body stack h_read => ?_
    unfold readNamed at h_read
    split at h_read
    next =>
      cases h_read
      rfl
    next => cases h_read
  exact (List.forall₂_eq_eq_eq ▸ h_names : _ = _).symm

/-- A document that cannot be loaded fails at one of its stacks, or has no stacks to fail at. -/
theorem stack_of_loadMembers {p : Problem} (h_failed : loadMembers members = .error p) :
    (∃ name ∈ (bodiesOf members).map Prod.fst, p.stack = some name) ∨
      p = ⟨.stacksNotObject, none, none⟩ := by
  have h_bodies {bodies : List (String × Value)} (h_read : readStacks bodies = .error p) :
      ∃ name ∈ bodies.map Prod.fst, p.stack = some name := by
    rw [readStacks_eq_mapM, mapM_eq_error_iff] at h_read
    obtain ⟨before, body, after, rfl, -, h_body⟩ := h_read
    exact ⟨body.1, by simp, stack_of_readNamed body p h_body⟩
  unfold loadMembers at h_failed
  unfold bodiesOf
  split at h_failed
  next h_stacks =>
    rw [h_stacks]
    exact Or.inl (h_bodies h_failed)
  next =>
    cases h_failed
    exact Or.inr rfl
  next h_stacks =>
    rw [h_stacks]
    exact Or.inl (h_bodies h_failed)

end Document

namespace Bundle

variable {options : Options} {p : Problem}

theorem isAt_of_ofValue {stack : String} {members : List (String × Value)}
    (h_failed : (ofValue stack options (.object members)).outcome = .error (.problem p)) :
    p.IsAt stack (members.map Prod.fst) := by
  unfold ofValue at h_failed
  dsimp only at h_failed
  split at h_failed
  next resources h_read =>
    have h_at : p.IsAt stack resources.keys := isPlaced_ofResources stack options resources _ h_failed
    exact h_at.mono (ResourceMap.keys_readMembers h_read)
  next h_read =>
    cases h_failed
    exact ResourceMap.isAt_of_readMembers p h_read

theorem stack_of_ofStacks {loaded : List (String × ResourceMap)}
    (h_failed : (ofStacks options loaded).outcome = .error (.problem p)) :
    ∃ name ∈ loaded.map Prod.fst, p.stack = some name := by
  have h_taken := separately_ofStacks options loaded
  generalize ofStacks options loaded = taken at h_failed h_taken
  cases h_taken with
  | @failed earlier later stack failure h_earlier h_stack =>
    cases h_failed
    exact ⟨stack.1, by simp, (isPlaced_ofResources _ _ _ _ h_stack).stack⟩
  | accepted => cases h_failed

theorem stack_of_ofDocument {members : List (String × Value)}
    (h_failed : (ofDocument options (.object members)).outcome = .error (.problem p)) :
    (∃ name ∈ (Document.bodiesOf members).map Prod.fst, p.stack = some name) ∨
      p = ⟨.stacksNotObject, none, none⟩ := by
  by_cases h_hollow : Document.Hollow members
  · rw [ofDocument, stacksOf, if_pos (all_isEmptyObject_iff.2 h_hollow.2)] at h_failed
    dsimp only at h_failed
    rw [ofStacks_of_empty] at h_failed
    cases h_failed
  · rw [ofDocument, stacksOf_of_full h_hollow] at h_failed
    cases h_load : Document.loadMembers members with
    | error q =>
      rw [h_load] at h_failed
      cases h_failed
      exact Document.stack_of_loadMembers h_load
    | ok loaded =>
      rw [h_load] at h_failed
      obtain ⟨name, member, h_stack⟩ := stack_of_ofStacks h_failed
      rw [Document.keys_loadMembers h_load] at member
      exact Or.inl ⟨name, member, h_stack⟩

/-- Every problem of a stack is placed in it, at one of its resources.  Every problem of a document
    is placed in one of its stacks, unless what stands for its stacks is no object. -/
theorem problems_located (options : Options) :
    (∀ stack members p,
      (ofValue stack options (.object members)).outcome = .error (.problem p) →
      p.stack = some stack ∧ ∃ name ∈ members.map Prod.fst, p.resource = some name) ∧
    ∀ members p,
      (ofDocument options (.object members)).outcome = .error (.problem p) →
      (∃ name ∈ (Document.bodiesOf members).map Prod.fst, p.stack = some name) ∨
        (p = ⟨.stacksNotObject, none, none⟩ ∧ p.cause.message = "'stacks' must be an object") := by
  refine ⟨fun stack members p h_failed => ?_, fun members p h_failed => ?_⟩
  · have h_at := isAt_of_ofValue h_failed
    exact ⟨h_at.stack, h_at.resource⟩
  · obtain h_stack | rfl := stack_of_ofDocument h_failed
    · exact Or.inl h_stack
    · exact Or.inr ⟨rfl, rfl⟩

/-- A field whose function looks up a data source that has a table without a name. -/
def namelessMembers : List (String × Value) :=
  recordsOf (.ofList
    [("Post", pipelineResource "Query" "post" ["ReadPost"]),
      ("ReadPost", ⟨Resource.functionKind, [("DataSourceName", .string "PostSource")], []⟩),
      ("PostSource", ⟨"AWS::AppSync::DataSource", [("Type", .string "AMAZON_DYNAMODB")], []⟩)])

theorem namelessMembers_located :
    (∃ p, (ofValue "Blog" Options.standard (.object namelessMembers)).outcome =
        .error (.problem p) ∧
      p.cause = .unnamedTable ∧ p.stack = some "Blog" ∧
      ∃ name ∈ namelessMembers.map Prod.fst, p.resource = some name) ∧
    (∃ p, (ofDocument Options.standard
        (.object [("Empty", .object []), ("Blog", .object namelessMembers)])).outcome =
        .error (.problem p) ∧
      ∃ name ∈ ["Empty", "Blog"], p.stack = some name) ∧
    ∃ p, (ofDocument Options.standard (.object [("stacks", .integer 5)])).outcome =
        .error (.problem p) ∧
      p.cause.message = "'stacks' must be an object" := by
  obtain ⟨h_resource, h_stack⟩ := problems_located Options.standard
  have h_deep : ∃ p, (ofValue "Blog" Options.standard (.object namelessMembers)).outcome =
      .error (.problem p) ∧ p.cause = .unnamedTable := ⟨_, rfl, rfl⟩
  have h_second : ∃ p, (ofDocument Options.standard
      (.object [("Empty", .object []), ("Blog", .object namelessMembers)])).outcome =
      .error (.problem p) ∧ p.stack.isSome = true := ⟨_, rfl, rfl⟩
  have h_number : ∃ p, (ofDocument Options.standard (.object [("stacks", .integer 5)])).outcome =
      .error (.problem p) ∧ p.stack = none := ⟨_, rfl, rfl⟩
  obtain ⟨p, h_p, h_cause⟩ := h_deep
  obtain ⟨q, h_q, h_placed⟩ := h_second
  obtain ⟨r, h_r, h_unplaced⟩ := h_number
  refine ⟨⟨p, h_p, h_cause, h_resource _ _ p h_p⟩, ⟨q, h_q, ?_⟩, r, h_r, ?_⟩
  · obtain h_name | ⟨rfl, -⟩ := h_stack _ q h_q
    · exact h_name
    · cases h_placed
  · obtain ⟨name, -, h_name⟩ | ⟨-, h_message⟩ := h_stack _ r h_r
    · rw [h_unplaced] at h_name
      cases h_name
    · exact h_message

end Bundle

end ResourceGraph
