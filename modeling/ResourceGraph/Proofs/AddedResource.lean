import ResourceGraph.Proofs.Reordering

/-! # An added resource

A stack takes one more resource, of a kind of which nothing is known, at any place among the
others.  Whether anything changes hangs on data sources alone: `Bundle.Disregards` says that no
pipeline of the stack has the new name for a data source, unless for one that talks to nothing.

Each reader is taken through the insertion by a lemma of its own, from references up to resolvers.
Together they give `ofResources_insertAt`, that a stack which disregards the resource has the same
bundle and the same warnings with it and without it.  In `bucketResource_fails` a stack is
accepted only without the resource.
-/

namespace ResourceGraph

/-! ## One more entry -/

namespace OrderedMap

universe u v

variable {κ : Type u} {β : Type v}

/-- The map with a new entry before the one at a position, or at the end. -/
def insertAt (m : OrderedMap κ β) (position : Nat) (key : κ) (value : β) (absent : key ∉ m.keys) :
    OrderedMap κ β where
  entries := m.entries.take position ++ (key, value) :: m.entries.drop position
  nodup := by
    have h_perm : (m.entries.take position ++ (key, value) :: m.entries.drop position).Perm
        ((key, value) :: (m.entries.take position ++ m.entries.drop position)) :=
      List.perm_middle
    rw [List.take_append_drop] at h_perm
    rw [(h_perm.map Prod.fst).nodup_iff, List.map_cons, List.nodup_cons]
    exact ⟨absent, m.nodup⟩

variable [DecidableEq κ]

theorem lookup_append_cons {key other : κ} {value : β} {before after : List (κ × β)}
    (absent : key ∉ before.map Prod.fst) :
    lookup other (before ++ (key, value) :: after) =
      if other = key then some value else lookup other (before ++ after) := by
  induction before with
  | nil => simp only [List.nil_append, lookup, eq_comm]
  | cons entry rest ih =>
    obtain ⟨k, held⟩ := entry
    rw [List.map_cons, List.mem_cons, not_or] at absent
    by_cases h_here : k = other
    · have h_other : other ≠ key := fun same => absent.1 (same ▸ h_here).symm
      simp [lookup, h_here, h_other]
    · simp only [List.cons_append, lookup, h_here, if_false]
      exact ih absent.2

variable {m : OrderedMap κ β} {position : Nat} {key other : κ} {value : β} {absent : key ∉ m.keys}

theorem get?_insertAt :
    (m.insertAt position key value absent).get? other =
      if other = key then some value else m.get? other := by
  have h_before : key ∉ (m.entries.take position).map Prod.fst := by
    intro held
    rw [List.map_take] at held
    exact absent (List.mem_of_mem_take held)
  have h_lookup : (m.insertAt position key value absent).get? other =
      if other = key then some value
      else lookup other (m.entries.take position ++ m.entries.drop position) :=
    lookup_append_cons h_before
  rwa [List.take_append_drop] at h_lookup

@[simp] theorem get?_insertAt_self :
    (m.insertAt position key value absent).get? key = some value := by
  rw [get?_insertAt, if_pos rfl]

theorem get?_insertAt_of_ne (h_other : other ≠ key) :
    (m.insertAt position key value absent).get? other = m.get? other := by
  rw [get?_insertAt, if_neg h_other]

theorem contains_insertAt_of_ne (h_other : other ≠ key) :
    (m.insertAt position key value absent).contains other = m.contains other := by
  unfold contains
  rw [get?_insertAt_of_ne h_other]

theorem contains_insertAt (h_known : m.contains other = true) :
    (m.insertAt position key value absent).contains other = true := by
  unfold contains at h_known ⊢
  rw [get?_insertAt]
  split
  · rfl
  · exact h_known

end OrderedMap

/-! ## What is read of the added resource -/

section
open OrderedMap

variable {resources : ResourceMap} {position : Nat} {name : String} {added : Resource}
  {absent : name ∉ resources.keys} {stack : Option String}

theorem Reference.resolveValue_insertAt {v : Value} {target : Option String}
    (resolved : resolveValue .strict resources stack v = .ok target) :
    resolveValue .strict (resources.insertAt position name added absent) stack v = .ok target := by
  unfold resolveValue at resolved ⊢
  cases h_spelled : ofValue v with
  | error cause => simp [h_spelled] at resolved
  | ok reference =>
    simp only [h_spelled] at resolved
    cases reference with
    | none => exact resolved
    | some reference =>
      cases reference with
      | literal _ | named _ | interpolated _ _ => exact resolved
      | attributeOf resource member =>
        simp only [resolveOption, resolve] at resolved ⊢
        cases h_known : resources.contains resource with
        | true =>
          rw [if_pos h_known] at resolved
          rw [if_pos (contains_insertAt h_known)]
          exact resolved
        | false => simp [h_known] at resolved

variable (position added absent) in
/-- Only an attribute of the added resource resolves where it did not before. -/
theorem Reference.resolveValue_lenient_insertAt (stack : Option String) (v : Value) :
    (resolveValue .lenient (resources.insertAt position name added absent) stack v =
          .ok (some name) ∧
        resolveValue .lenient resources stack v = .ok none) ∨
      resolveValue .lenient (resources.insertAt position name added absent) stack v =
        resolveValue .lenient resources stack v := by
  unfold resolveValue
  cases ofValue v with
  | error cause => exact Or.inr rfl
  | ok reference =>
    cases reference with
    | none => exact Or.inr rfl
    | some reference =>
      cases reference with
      | literal _ | named _ | interpolated _ _ => exact Or.inr rfl
      | attributeOf resource member =>
        by_cases h_added : resource = name
        · have h_unknown : resources.get? name = none := get?_eq_none_iff.2 absent
          subst h_added
          simp [resolveOption, resolve, contains, h_unknown]
        · refine Or.inr ?_
          simp only [resolveOption, resolve, contains_insertAt_of_ne h_added]

namespace Binding

/-- The resource that a function has for its data source, whatever its kind. -/
def source? (resources : ResourceMap) (function : Resource) : Option (String × Resource) :=
  Reference.fetch resources (sourceName? resources function)

/-- A function has the resource of a name for its data source only if that one talks to nothing. -/
def Disregards (resources : ResourceMap) (name : String) (function : Resource) : Prop :=
  ∀ record, source? resources function = some (name, record) → declaredKind? record = some .none

theorem source?_ne_of_absent (absent : name ∉ resources.keys) {function record : Resource} :
    source? resources function ≠ some (name, record) := by
  intro h_source
  rw [source?, Reference.fetch, Option.bind_eq_some_iff] at h_source
  obtain ⟨source, -, h_found⟩ := h_source
  obtain ⟨held, h_held, h_same⟩ := Option.map_eq_some_iff.1 h_found
  cases h_same
  rw [get?_eq_none_iff.2 absent] at h_held
  cases h_held

variable (position added absent) in
/-- A function has the added resource for its data source and had none before, or it has the one
    that it had. -/
theorem source?_insertAt (function : Resource) :
    (source? (resources.insertAt position name added absent) function = some (name, added) ∧
        source? resources function = .none) ∨
      source? (resources.insertAt position name added absent) function =
        source? resources function := by
  have h_unknown : resources.get? name = .none := get?_eq_none_iff.2 absent
  unfold source?
  rcases Reference.resolveValue_lenient_insertAt position added absent .none
    (function.property "DataSourceName") with ⟨h_after, h_before⟩ | h_same
  · have h_none : sourceName? resources function = .none := by simp [sourceName?, h_before]
    have h_some : sourceName? (resources.insertAt position name added absent) function =
        MappingTemplate.nonempty? name := by
      simp [sourceName?, h_after]
    rw [h_none, h_some]
    cases h_name : MappingTemplate.nonempty? name with
    | none => exact Or.inr rfl
    | some found =>
      rw [← (MappingTemplate.nonempty?_eq_some_iff.1 h_name).1]
      exact Or.inl ⟨by simp [Reference.fetch], rfl⟩
  · have h_source : sourceName? (resources.insertAt position name added absent) function =
        sourceName? resources function := by
      simp only [sourceName?, h_same]
    rw [h_source]
    cases sourceName? resources function with
    | none => exact Or.inr rfl
    | some source =>
      by_cases h_added : source = name
      · subst h_added
        exact Or.inl ⟨by simp [Reference.fetch], by simp [Reference.fetch, h_unknown]⟩
      · exact Or.inr (by simp [Reference.fetch, get?_insertAt_of_ne h_added])

theorem lambdaName?_insertAt (h_lambda : added.kind ≠ Resource.lambdaKind) :
    lambdaName? (resources.insertAt position name added absent) = lambdaName? resources := by
  have h_declared : lambdaName?.declared (resources.insertAt position name added absent) =
      lambdaName?.declared resources := by
    funext resource
    unfold lambdaName?.declared
    by_cases h_added : resource = name
    · have h_unknown : resources.get? name = .none := get?_eq_none_iff.2 absent
      simp [h_added, h_unknown, h_lambda]
    · rw [get?_insertAt_of_ne h_added]
  funext address
  simp only [lambdaName?, h_declared]

theorem ofSource_insertAt (h_lambda : added.kind ≠ Resource.lambdaKind) :
    ofSource (resources.insertAt position name added absent) = ofSource resources := by
  funext stack function source record
  simp only [ofSource, ofLambda, lambdaName?_insertAt h_lambda]

theorem ofSource_eq_none_iff {function source : String} {record : Resource} :
    ofSource resources stack function source record = .ok none ↔
      declaredKind? record = some .none := by
  constructor
  · intro bound
    exact declaredKind?_eq_some_iff.2 (makes_of_ofSource bound).type
  · intro h_kind
    simp only [ofSource, h_kind]

/-- A function is bound as before exactly if it disregards the added resource. -/
theorem ofFunction_insertAt_iff (h_lambda : added.kind ≠ Resource.lambdaKind) {owner : String}
    {function : Resource} :
    ofFunction (resources.insertAt position name added absent) stack owner function =
        ofFunction resources stack owner function ↔
      Disregards (resources.insertAt position name added absent) name function := by
  unfold ofFunction Disregards
  rw [← source?, ← source?]
  rcases source?_insertAt position added absent function with ⟨h_after, h_before⟩ | h_same
  · rw [h_after, h_before, ofSource_eq_none_iff]
    constructor
    · rintro h_kind record h_record
      cases h_record
      exact h_kind
    · intro h_each
      exact h_each added rfl
  · rw [h_same, ofSource_insertAt h_lambda]
    exact iff_of_true rfl fun record h_record => absurd h_record (source?_ne_of_absent absent)

end Binding

namespace Pipeline

variable {functions : List (String × Resource)}

/-- No function in the pipeline of a resolver has the resource of a name for its data source, unless
    that resource is a data source that talks to nothing. -/
def Disregards (resources : ResourceMap) (stack : Option String) (name : String)
    (resource : Resource) : Prop :=
  ∀ functions, Pipeline.functions resource resources stack = .ok functions →
    ∀ function ∈ functions, Binding.Disregards resources name function.2

theorem function?_insertAt (h_function : added.kind ≠ Resource.functionKind) :
    function? (resources.insertAt position name added absent) = function? resources := by
  funext entry
  unfold function?
  by_cases h_added : entry = name
  · have h_unknown : resources.get? name = none := get?_eq_none_iff.2 absent
    simp [h_added, h_unknown, h_function]
  · rw [get?_insertAt_of_ne h_added]

theorem readEntries_insertAt (h_function : added.kind ≠ Resource.functionKind)
    {entries : List Value} (found : readEntries resources stack entries = .ok functions) :
    readEntries (resources.insertAt position name added absent) stack entries = .ok functions := by
  induction entries generalizing functions with
  | nil => exact found
  | cons entry rest ih =>
    unfold readEntries readEntry at found ⊢
    cases h_entry : Reference.resolveValue .strict resources stack entry with
    | error problem => simp [h_entry] at found
    | ok target =>
      cases h_rest : readEntries resources stack rest with
      | error problem => simp [h_entry, h_rest] at found
      | ok more =>
        rw [Reference.resolveValue_insertAt h_entry, ih h_rest, function?_insertAt h_function]
        rw [h_entry, h_rest] at found
        exact found

theorem functions_insertAt (h_function : added.kind ≠ Resource.functionKind) {resource : Resource}
    (found : Pipeline.functions resource resources stack = .ok functions) :
    Pipeline.functions resource (resources.insertAt position name added absent) stack =
      .ok functions := by
  unfold Pipeline.functions at found ⊢
  rw [function?_insertAt h_function]
  cases h_config : (resource.property "PipelineConfig").fieldIfGiven "Functions" with
  | error fault => simp [h_config] at found
  | ok entries =>
    simp only [h_config] at found ⊢
    split at found
    next h_vacant => rwa [if_pos h_vacant]
    next h_given =>
      rw [if_neg h_given]
      cases h_items : entries.items with
      | error fault => simp [h_items] at found
      | ok items =>
        simp only [h_items] at found ⊢
        cases h_read : readEntries resources stack items with
        | error problem => simp [h_read, Outcome.ofProblem] at found
        | ok read =>
          rw [readEntries_insertAt h_function h_read]
          rwa [h_read] at found

end Pipeline

namespace Stage

variable {extension : String} {owner : String} {function : Resource} {stage : Stage}

/-- A stage is the binding of its function with its two templates and its name. -/
theorem ofFunction_eq_ok_iff :
    ofFunction resources extension stack owner function = .ok stage ↔
      Binding.ofFunction resources stack owner function = .ok stage.binding ∧
        MappingTemplate.readRequired MappingTemplate.request extension stack owner
            function.properties = .ok stage.request ∧
        MappingTemplate.readRequired MappingTemplate.response extension stack owner
            function.properties = .ok stage.response ∧
        nameOf owner function = stage.name := by
  obtain ⟨declared, binding, request, response⟩ := stage
  unfold ofFunction
  cases Binding.ofFunction resources stack owner function with
  | error failure => simp
  | ok bound =>
    cases MappingTemplate.readRequired MappingTemplate.request extension stack owner
      function.properties with
    | error problem => simp
    | ok first =>
      cases MappingTemplate.readRequired MappingTemplate.response extension stack owner
        function.properties with
      | error problem => simp
      | ok second =>
        simp only [Except.ok.injEq, Stage.mk.injEq]
        constructor
        · rintro ⟨h_name, h_binding, h_request, h_response⟩
          exact ⟨h_binding, h_request, h_response, h_name⟩
        · rintro ⟨h_binding, h_request, h_response, h_name⟩
          exact ⟨h_name, h_binding, h_request, h_response⟩

/-- A pipeline has the stages that it had exactly if each of its functions disregards the added
    resource. -/
theorem ofFunctions_insertAt_iff (h_lambda : added.kind ≠ Resource.lambdaKind)
    {functions : List (String × Resource)} {stages : List Stage}
    (built : ofFunctions resources extension stack functions = .ok stages) :
    ofFunctions (resources.insertAt position name added absent) extension stack functions =
        .ok stages ↔
      ∀ function ∈ functions,
        Binding.Disregards (resources.insertAt position name added absent) name function.2 := by
  rw [ofFunctions_eq_ok_iff] at built ⊢
  induction built with
  | nil => simp
  | @cons function stage rest stages h_first _ ih =>
    rw [List.forall₂_cons, List.forall_mem_cons]
    refine and_congr ?_ ih
    rw [ofFunction_eq_ok_iff] at h_first
    obtain ⟨h_bound, h_request, h_response, h_name⟩ := h_first
    rw [ofFunction_eq_ok_iff, ← Binding.ofFunction_insertAt_iff h_lambda, h_bound]
    exact and_iff_left ⟨h_request, h_response, h_name⟩

end Stage

theorem Resolver.ofResource_insertAt_iff (h_lambda : added.kind ≠ Resource.lambdaKind)
    (h_function : added.kind ≠ Resource.functionKind) {owner extension : String}
    {resource : Resource} {r : Resolver}
    (built : ofResource owner resource resources extension stack = .ok r) :
    ofResource owner resource (resources.insertAt position name added absent) extension stack =
        .ok r ↔
      Pipeline.Disregards (resources.insertAt position name added absent) stack name resource := by
  obtain ⟨-, -, functions, h_functions, h_stages⟩ := ofResource_eq_ok built
  have h_after : Pipeline.functions resource (resources.insertAt position name added absent) stack =
      .ok functions := Pipeline.functions_insertAt h_function h_functions
  simp only [Pipeline.Disregards, h_after, Except.ok.injEq, forall_eq']
  rw [← Stage.ofFunctions_insertAt_iff h_lambda h_stages]
  constructor
  · intro rebuilt
    obtain ⟨-, -, functions', h_functions', h_stages'⟩ := ofResource_eq_ok rebuilt
    rw [h_after, Except.ok.injEq] at h_functions'
    rwa [← h_functions'] at h_stages'
  · intro h_rebuilt
    unfold ofResource at built ⊢
    simp only [h_functions, h_stages] at built
    simp only [h_after, h_rebuilt]
    exact built

end

/-! ## Stacks that disregard a resource -/

/-- The pipeline of every resolver disregards the resource of a name. -/
def Bundle.Disregards (stack : String) (resources : ResourceMap) (name : String) : Prop :=
  ∀ entry ∈ resources.entries, entry.2.kind = Resource.resolverKind →
    Pipeline.Disregards resources (some stack) name entry.2

/-- The kinds of which something is known. -/
def Resource.knownKinds : List String :=
  [tableKind, resolverKind, functionKind, "AWS::AppSync::DataSource", lambdaKind]

section

variable {stack : String} {options : Options} {resources : ResourceMap} {position : Nat}
  {name : String} {added : Resource} {absent : name ∉ resources.keys}
  {entry : String × Resource} {d : Declaration}

theorem OrderedMap.mem_entries_insertAt :
    entry ∈ (resources.insertAt position name added absent).entries ↔
      entry = (name, added) ∨ entry ∈ resources.entries := by
  have h_split : entry ∈ resources.entries ↔
      entry ∈ resources.entries.take position ∨ entry ∈ resources.entries.drop position := by
    rw [← List.mem_append, List.take_append_drop]
  simp only [insertAt, List.mem_append, List.mem_cons, h_split]
  exact or_left_comm

/-- A resource declares what it declared exactly if its pipeline, if it has one, disregards the
    added resource. -/
theorem declares_insertAt_iff (h_kind : added.kind ∉ Resource.knownKinds)
    (declares : Declares stack options resources entry d) :
    Declares stack options (resources.insertAt position name added absent) entry d ↔
      (entry.2.kind = Resource.resolverKind →
        Pipeline.Disregards (resources.insertAt position name added absent) (some stack) name
          entry.2) := by
  simp only [Resource.knownKinds, List.mem_cons, List.not_mem_nil, not_or] at h_kind
  obtain ⟨-, -, h_function, -, h_lambda, -⟩ := h_kind
  cases declares with
  | table h_table h_built =>
    refine iff_of_true (.table h_table h_built) fun h_resolver => ?_
    exact absurd (h_table.symm.trans h_resolver) (by decide)
  | resolver h_resolver h_built =>
    rw [← Resolver.ofResource_insertAt_iff h_lambda h_function h_built]
    constructor
    · intro declares' _
      cases declares' with
      | resolver _ h_rebuilt => exact h_rebuilt
    · intro h_rebuilt
      exact .resolver h_resolver (h_rebuilt h_resolver)

end

namespace Bundle

variable {stack : String} {options : Options} {resources resources' : ResourceMap}
  {b c : Bundle} {warnings : List Warning}

theorem declareAll_congr {entries : List (String × Resource)}
    (h_each : ∀ entry ∈ entries, ∀ d, Declares stack options resources entry d →
      Declares stack options resources' entry d)
    (accepted : declareAll stack options resources b entries = ⟨warnings, .ok c⟩) :
    declareAll stack options resources' b entries = ⟨warnings, .ok c⟩ := by
  induction entries generalizing b warnings with
  | nil => exact accepted
  | cons entry rest ih =>
    rw [List.forall_mem_cons] at h_each
    obtain ⟨h_entry, h_rest⟩ := h_each
    rw [declareAll, Logged.foldl_cons] at accepted ⊢
    cases h_first : declare stack options resources b entry with
    | mk first outcome =>
      cases outcome with
      | error failure => simp [h_first, Logged.bind] at accepted
      | ok next =>
        have h_again : declare stack options resources' b entry = ⟨first, .ok next⟩ := by
          rw [declare_eq_ok_iff] at h_first ⊢
          rcases h_first with ⟨h_declaring, d, declares, h_next⟩ | h_passed
          · exact Or.inl ⟨h_declaring, d, h_entry d declares, h_next⟩
          · exact Or.inr h_passed
        rw [h_first, Logged.bind_ok rfl, Logged.mk.injEq] at accepted
        rw [h_again, Logged.bind_ok rfl, Logged.mk.injEq]
        obtain ⟨h_warnings, h_later⟩ := accepted
        have h_all := ih h_rest (Logged.ext rfl h_later)
        rw [declareAll] at h_all
        rw [h_all]
        exact ⟨h_warnings, rfl⟩

/-- A resource that declares nothing itself is passed over. -/
theorem declareAll_append_cons {before after : List (String × Resource)}
    {entry : String × Resource} (h_table : entry.2.kind ≠ Resource.tableKind)
    (h_resolver : entry.2.kind ≠ Resource.resolverKind) :
    declareAll stack options resources b (before ++ entry :: after) =
      declareAll stack options resources b (before ++ after) := by
  unfold declareAll
  rw [Logged.foldl_append, Logged.foldl_append]
  congr 1
  funext next
  rw [Logged.foldl_cons, declare_eq_pure h_table h_resolver, Logged.pure_bind]

/-- Where every resource declares what it declared, the bundle and the warnings are the same. -/
theorem ofResources_insertAt_of_declares
    (accepted : ofResources stack options resources = ⟨warnings, .ok b⟩)
    {position : Nat} {name : String} {added : Resource} {absent : name ∉ resources.keys}
    (h_kind : added.kind ∉ Resource.knownKinds)
    (h_each : ∀ entry ∈ resources.entries, ∀ d, Declares stack options resources entry d →
      Declares stack options (resources.insertAt position name added absent) entry d) :
    ofResources stack options (resources.insertAt position name added absent) =
      ⟨warnings, .ok b⟩ := by
  simp only [Resource.knownKinds, List.mem_cons, not_or] at h_kind
  unfold ofResources at accepted ⊢
  have h_skipped : declareAll stack options (resources.insertAt position name added absent)
        (empty stack) (resources.insertAt position name added absent).entries =
      declareAll stack options (resources.insertAt position name added absent) (empty stack)
        resources.entries := by
    have h_split : declareAll stack options (resources.insertAt position name added absent)
          (empty stack) (resources.insertAt position name added absent).entries =
        declareAll stack options (resources.insertAt position name added absent) (empty stack)
          (resources.entries.take position ++ resources.entries.drop position) :=
      declareAll_append_cons h_kind.1 h_kind.2.1
    rwa [List.take_append_drop] at h_split
  rw [h_skipped]
  cases h_all : declareAll stack options resources (empty stack) resources.entries with
  | mk said outcome =>
    cases outcome with
    | error failure => simp [h_all, Logged.bind] at accepted
    | ok c =>
      rw [declareAll_congr h_each h_all]
      rwa [h_all] at accepted

end Bundle

theorem ResourceMap.readMembers_insertAt {stack : Option String} {members : List (String × Value)}
    {resources : ResourceMap} {position : Nat} {name : String} {raw : Value} {added : Resource}
    {absent : name ∉ resources.keys} (distinct : (members.map Prod.fst).Nodup)
    (h_read : readMembers stack members = .ok resources) (h_raw : Resource.read raw = .ok added) :
    readMembers stack (members.take position ++ (name, raw) :: members.drop position) =
      .ok (resources.insertAt position name added absent) := by
  rw [readMembers_eq_ok_iff distinct, readEntries_eq_ok_iff] at h_read
  have h_added : readEntry stack (name, raw) = .ok (name, added) := by simp only [readEntry, h_raw]
  have h_entries : List.Forall₂ (fun member entry => readEntry stack member = .ok entry)
      (members.take position ++ (name, raw) :: members.drop position)
      (resources.insertAt position name added absent).entries :=
    List.rel_append (List.forall₂_take position h_read)
      (.cons h_added (List.forall₂_drop position h_read))
  rw [← readEntries_eq_ok_iff] at h_entries
  refine (readMembers_eq_ok_iff ?_).2 h_entries
  rw [← keys_readEntries h_entries]
  exact (resources.insertAt position name added absent).nodup

namespace Bundle

variable {stack : String} {options : Options} {resources : ResourceMap} {warnings : List Warning}
  {b : Bundle}

/-! ## Kinds of which nothing is known -/

/-- Among the resources of a stack that is accepted, one of an unknown kind changes what none of
    them declares exactly if the stack disregards it.  Then the stack is accepted with it, wherever
    it stands, with the same bundle and the same warnings. -/
theorem ofResources_insertAt (accepted : ofResources stack options resources = ⟨warnings, .ok b⟩)
    {name : String} (absent : name ∉ resources.keys) {added : Resource}
    (h_kind : added.kind ∉ Resource.knownKinds) (position : Nat) :
    ((∀ entry ∈ resources.entries, ∀ d, Declares stack options resources entry d →
        Declares stack options (resources.insertAt position name added absent) entry d) ↔
      Disregards stack (resources.insertAt position name added absent) name) ∧
    (Disregards stack (resources.insertAt position name added absent) name →
      ofResources stack options (resources.insertAt position name added absent) =
          ⟨warnings, .ok b⟩ ∧
        ∀ members raw, (members.map Prod.fst).Nodup →
          ResourceMap.readMembers (some stack) members = .ok resources →
          Resource.read raw = .ok added →
            ofValue stack options
                (.object (members.take position ++ (name, raw) :: members.drop position)) =
              ⟨warnings, .ok b⟩) := by
  have h_iff : (∀ entry ∈ resources.entries, ∀ d, Declares stack options resources entry d →
        Declares stack options (resources.insertAt position name added absent) entry d) ↔
      Disregards stack (resources.insertAt position name added absent) name := by
    constructor
    · intro h_each entry member h_resolver
      rcases OrderedMap.mem_entries_insertAt.1 member with rfl | h_entry
      · rw [Resource.knownKinds, h_resolver] at h_kind
        exact absurd (by decide) h_kind
      · obtain ⟨d, declares⟩ := exists_ofResources_iff.1 ⟨b, by rw [accepted]⟩ entry h_entry
          (by simp [declaring, h_resolver])
        exact (declares_insertAt_iff h_kind declares).1 (h_each entry h_entry d declares) h_resolver
    · intro h_disregards entry h_entry d declares
      rw [declares_insertAt_iff h_kind declares]
      exact h_disregards entry (OrderedMap.mem_entries_insertAt.2 (Or.inr h_entry))
  refine ⟨h_iff, fun h_disregards => ?_⟩
  have h_same := ofResources_insertAt_of_declares accepted h_kind (h_iff.2 h_disregards)
  refine ⟨h_same, fun members raw distinct h_read h_raw => ?_⟩
  have h_grown : ResourceMap.readMembers (some stack)
        (members.take position ++ (name, raw) :: members.drop position) =
      .ok (resources.insertAt position name added absent) :=
    ResourceMap.readMembers_insertAt distinct h_read h_raw
  simp only [ofValue, h_grown]
  exact h_same

/-- A record of a kind of which nothing is known. -/
def bucketRecord : Value := .object [("Type", .string "AWS::S3::Bucket")]

def bucketResource : Resource := ⟨"AWS::S3::Bucket", [], []⟩

/-- A stack with one field, whose pipeline has a function with a data source of the given name and
    goes on to a resource that the stack does not have. -/
def uploadingResources (source : String) : ResourceMap :=
  .ofList
    [("Photo", pipelineResource "Query" "photo" ["Reader", "Uploads"]),
      ("Reader", ⟨Resource.functionKind,
        [("DataSourceName", .string source), ("RequestMappingTemplate", .string ""),
          ("ResponseMappingTemplate", .string "")], []⟩)]

theorem uploads_absent (source : String) : "Uploads" ∉ (uploadingResources source).keys := by
  have h_keys : (uploadingResources source).keys = ["Photo", "Reader"] := rfl
  rw [h_keys]
  decide

/-- The same stack with a bucket of the name that is missing. -/
def uploadedResources (source : String) : ResourceMap :=
  (uploadingResources source).insertAt 1 "Uploads" bucketResource (uploads_absent source)

theorem uploadingResources_keeps :
    ∃ b, ofResources "Blog" Options.standard (uploadingResources "Archive") = ⟨[], .ok b⟩ ∧
      b.dropped.keys = ["Queryphoto"] ∧ bucketResource.kind ∉ Resource.knownKinds ∧
      Disregards "Blog" (uploadedResources "Archive") "Uploads" ∧
      ofResources "Blog" Options.standard (uploadedResources "Archive") = ⟨[], .ok b⟩ ∧
      ofValue "Blog" Options.standard (.object
        ((recordsOf (uploadingResources "Archive")).take 1 ++
          ("Uploads", bucketRecord) :: (recordsOf (uploadingResources "Archive")).drop 1)) =
        ⟨[], .ok b⟩ := by
  have h_left : ∃ b, ofResources "Blog" Options.standard (uploadingResources "Archive") =
      ⟨[], .ok b⟩ ∧ b.dropped.keys = ["Queryphoto"] := ⟨_, rfl, rfl⟩
  have h_kind : bucketResource.kind ∉ Resource.knownKinds := by decide
  have h_reached : ((uploadedResources "Archive").entries.all fun entry =>
      match Pipeline.functions entry.2 (uploadedResources "Archive") (some "Blog") with
      | .ok functions => functions.all fun function =>
        Binding.sourceName? (uploadedResources "Archive") function.2 = some "Archive"
      | .error _ => true) = true := rfl
  have h_disregards : Disregards "Blog" (uploadedResources "Archive") "Uploads" := by
    intro entry member _ functions h_functions function h_function record h_record
    have h_entry := List.all_eq_true.1 h_reached entry member
    rw [h_functions] at h_entry
    have h_source := of_decide_eq_true (List.all_eq_true.1 h_entry function h_function)
    rw [Binding.source?, h_source] at h_record
    cases h_record
  have h_read : ResourceMap.readMembers (some "Blog") (recordsOf (uploadingResources "Archive")) =
      .ok (uploadingResources "Archive") := rfl
  have h_distinct : ((recordsOf (uploadingResources "Archive")).map Prod.fst).Nodup := by
    rw [recordsOf, List.map_map]
    exact (uploadingResources "Archive").nodup
  obtain ⟨b, accepted, h_dropped⟩ := h_left
  obtain ⟨h_same, h_value⟩ :=
    (ofResources_insertAt accepted (uploads_absent "Archive") h_kind 1).2 h_disregards
  exact ⟨b, accepted, h_dropped, h_kind, h_disregards, h_same,
    h_value _ bucketRecord h_distinct h_read rfl⟩

/-- A stack is accepted with a data source that it does not have, but not with a resource of that
    name which is no data source at all. -/
theorem bucketResource_fails :
    ∃ b, ofResources "Blog" Options.standard (uploadingResources "Uploads") = ⟨[], .ok b⟩ ∧
      Resource.read bucketRecord = .ok bucketResource ∧
      bucketResource.kind ∉ Resource.knownKinds ∧
      ofResources "Blog" Options.standard (uploadedResources "Uploads") =
        ⟨[], .error (.problem
          ⟨.unsupportedDataSource .null, some "Blog", some "Uploads"⟩)⟩ :=
  ⟨_, rfl, rfl, by decide, rfl⟩

end Bundle

end ResourceGraph
