import ResourceGraph.Proofs.Reading
import ResourceGraph.Proofs.Resolution

/-! # The order of a pipeline

The stages of a resolver follow the functions that its pipeline lists, or its dependencies if it
lists none.

An entry either leads to a function of the stack, or is passed over, or fails for one of the
reasons of strict resolution (`Pipeline.Leads`, `Pipeline.Passed`).  `Pipeline.Reads` extends this
to lists of entries in order, and the reader is proved sound and complete for it.  The
dependencies of a resource may be written down in several ways, all of which `Resource.DependsOn`
covers; read as entries they give the pipeline of a resolver that lists none.  The whole is
`Resolver.stages_follow`.
-/

namespace ResourceGraph

namespace Pipeline

open Reference (FailsBy Spells resolveValue)

/-! ## Entries -/

/-- An entry leads to a pipeline function of the stack. -/
structure Leads (resources : ResourceMap) (stack : Option String) (entry : Value)
    (function : String × Resource) : Prop where
  resolved : resolveValue .strict resources stack entry = .ok (some function.1)
  named : function.1 ≠ ""
  found : resources.get? function.1 = some function.2
  h_kind : function.2.kind = Resource.functionKind

/-- An entry is passed over.  The empty name counts as no name, even where a resource has it. -/
inductive Passed (resources : ResourceMap) (stack : Option String) (entry : Value) : Prop where
  | null (h_null : entry = .null)
  | unresolved (resolved : resolveValue .strict resources stack entry = .ok none)
  | unnamed (resolved : resolveValue .strict resources stack entry = .ok (some ""))
  | unknown (name : String)
      (resolved : resolveValue .strict resources stack entry = .ok (some name))
      (absent : name ∉ resources.keys)
  | foreign (name : String) (record : Resource)
      (resolved : resolveValue .strict resources stack entry = .ok (some name))
      (found : resources.get? name = some record) (h_kind : record.kind ≠ Resource.functionKind)

/-- The functions to which entries lead, in order and as often as the entries come. -/
inductive Reads (resources : ResourceMap) (stack : Option String) :
    List Value → List (String × Resource) → Prop where
  | nil : Reads resources stack [] []
  | keep {entry : Value} {entries : List Value} {function : String × Resource}
      {functions : List (String × Resource)} (leads : Leads resources stack entry function)
      (rest : Reads resources stack entries functions) :
      Reads resources stack (entry :: entries) (function :: functions)
  | skip {entry : Value} {entries : List Value} {functions : List (String × Resource)}
      (passed : Passed resources stack entry) (rest : Reads resources stack entries functions) :
      Reads resources stack (entry :: entries) functions

variable {resources : ResourceMap} {stack : Option String} {entry : Value} {entries : List Value}
  {function : String × Resource} {functions : List (String × Resource)} {problem : Problem}
  {name : String}

theorem function?_eq_none_of_unknown (absent : name ∉ resources.keys) :
    function? resources name = none := by
  rw [function?, OrderedMap.get?_eq_none_iff.2 absent]

theorem function?_eq_none_of_foreign {record : Resource}
    (found : resources.get? name = some record) (h_kind : record.kind ≠ Resource.functionKind) :
    function? resources name = none := by
  rw [function?, found]
  exact if_neg h_kind

theorem readEntry_of_resolved {found : Option String}
    (resolved : resolveValue .strict resources stack entry = .ok found) :
    readEntry resources stack entry =
      .ok ((found.bind MappingTemplate.nonempty?).bind (function? resources)) := by
  rw [readEntry, resolved]

theorem readEntry_of_leads (leads : Leads resources stack entry function) :
    readEntry resources stack entry = .ok (some function) := by
  rw [readEntry_of_resolved leads.resolved, Option.bind_some,
    MappingTemplate.nonempty?_eq_some_iff.2 ⟨rfl, leads.named⟩, Option.bind_some,
    function?_eq_some_iff.2 ⟨rfl, leads.found, leads.h_kind⟩]

theorem readEntry_of_passed (passed : Passed resources stack entry) :
    readEntry resources stack entry = .ok none := by
  have h_unled : ∀ {name : String}, resolveValue .strict resources stack entry = .ok (some name) →
      function? resources name = none → readEntry resources stack entry = .ok none := by
    intro name resolved h_none
    rw [readEntry_of_resolved resolved, Option.bind_some, Except.ok.injEq,
      Option.bind_eq_none_iff]
    intro _ h_named
    rw [← (MappingTemplate.nonempty?_eq_some_iff.1 h_named).1]
    exact h_none
  cases passed with
  | null h_null =>
    subst h_null
    rfl
  | unresolved resolved => exact readEntry_of_resolved resolved
  | unnamed resolved => exact readEntry_of_resolved resolved
  | unknown name resolved absent => exact h_unled resolved (function?_eq_none_of_unknown absent)
  | foreign name record resolved found h_kind =>
    exact h_unled resolved (function?_eq_none_of_foreign found h_kind)

theorem readEntry_of_failsBy (fails : FailsBy resources stack entry problem) :
    readEntry resources stack entry = .error problem := by
  rw [readEntry, Reference.resolveValue_strict_of_failsBy fails]

/-- What an entry is read as: a function, nothing, or what is wrong with it. -/
inductive ReadsEntry (resources : ResourceMap) (stack : Option String) (entry : Value) :
    Except Problem (Option (String × Resource)) → Prop where
  | function {function : String × Resource} (leads : Leads resources stack entry function) :
      ReadsEntry resources stack entry (.ok (some function))
  | nothing (passed : Passed resources stack entry) : ReadsEntry resources stack entry (.ok none)
  | failure {problem : Problem} (fails : FailsBy resources stack entry problem) :
      ReadsEntry resources stack entry (.error problem)

theorem readsEntry_of_readEntry {outcome : Except Problem (Option (String × Resource))}
    (read : readEntry resources stack entry = outcome) :
    ReadsEntry resources stack entry outcome := by
  subst read
  rcases Reference.resolveValue_cases resources stack entry with
    ⟨found, h_found⟩ | ⟨problem, fails, -⟩
  · have resolved := h_found .strict
    have h_passed : Passed resources stack entry →
        ReadsEntry resources stack entry (readEntry resources stack entry) := by
      intro passed
      rw [readEntry_of_passed passed]
      exact .nothing passed
    cases found with
    | none => exact h_passed (.unresolved resolved)
    | some name =>
      by_cases h_empty : name = ""
      · subst h_empty
        exact h_passed (.unnamed resolved)
      · cases h_held : resources.get? name with
        | none => exact h_passed (.unknown name resolved (OrderedMap.get?_eq_none_iff.1 h_held))
        | some record =>
          by_cases h_kind : record.kind = Resource.functionKind
          · have leads : Leads resources stack entry (name, record) :=
              ⟨resolved, h_empty, h_held, h_kind⟩
            rw [readEntry_of_leads leads]
            exact .function leads
          · exact h_passed (.foreign name record resolved h_held h_kind)
  · rw [readEntry_of_failsBy fails]
    exact .failure fails

theorem leads_of_readEntry (read : readEntry resources stack entry = .ok (some function)) :
    Leads resources stack entry function := by
  cases readsEntry_of_readEntry read with
  | function leads => exact leads

theorem passed_of_readEntry (read : readEntry resources stack entry = .ok none) :
    Passed resources stack entry := by
  cases readsEntry_of_readEntry read with
  | nothing passed => exact passed

theorem readEntry_eq_error_iff :
    readEntry resources stack entry = .error problem ↔ FailsBy resources stack entry problem := by
  refine ⟨fun failed => ?_, readEntry_of_failsBy⟩
  cases readsEntry_of_readEntry failed with
  | failure fails => exact fails

/-- An entry is read if and only if it does not fail. -/
theorem exists_readEntry_iff :
    (∃ found, readEntry resources stack entry = .ok found) ↔
      ∀ problem, ¬ FailsBy resources stack entry problem := by
  simp only [← readEntry_eq_error_iff]
  cases readEntry resources stack entry <;> simp

/-! ## Lists of entries -/

theorem readEntries_of_reads (reads : Reads resources stack entries functions) :
    readEntries resources stack entries = .ok functions := by
  induction reads with
  | nil => rfl
  | keep leads _ ih =>
    rw [readEntries, readEntry_of_leads leads, ih]
    rfl
  | skip passed _ ih =>
    rw [readEntries, readEntry_of_passed passed, ih]
    rfl

theorem reads_of_readEntries (read : readEntries resources stack entries = .ok functions) :
    Reads resources stack entries functions := by
  induction entries generalizing functions with
  | nil =>
    cases read
    exact .nil
  | cons entry rest ih =>
    rw [readEntries] at read
    split at read
    next => cases read
    next function h_entry =>
      split at read
      next => cases read
      next more h_rest =>
        cases read
        cases function with
        | none => exact .skip (passed_of_readEntry h_entry) (ih h_rest)
        | some function => exact .keep (leads_of_readEntry h_entry) (ih h_rest)

theorem readEntries_eq_ok_iff :
    readEntries resources stack entries = .ok functions ↔ Reads resources stack entries functions :=
  ⟨reads_of_readEntries, readEntries_of_reads⟩

/-- The first entry that fails decides the problem. -/
theorem readEntries_eq_error_iff :
    readEntries resources stack entries = .error problem ↔
      ∃ before entry after, entries = before ++ entry :: after ∧
        (∀ earlier ∈ before, ∀ other, ¬ FailsBy resources stack earlier other) ∧
        FailsBy resources stack entry problem := by
  -- which functions are kept does not matter to a failure, so the entries are read one by one
  have h_map : readEntries resources stack entries = .error problem ↔
      entries.mapM (readEntry resources stack) = .error problem := by
    rw [readEntries_eq_map_mapM]
    cases entries.mapM (readEntry resources stack) <;> simp [Except.map]
  rw [h_map, mapM_eq_error_iff]
  simp only [exists_readEntry_iff, readEntry_eq_error_iff]

/-- A list is read unless one of its entries fails. -/
theorem exists_readEntries_eq_error_iff :
    (∃ problem, readEntries resources stack entries = .error problem) ↔
      ∃ entry ∈ entries, ∃ problem, FailsBy resources stack entry problem := by
  constructor
  · rintro ⟨problem, failed⟩
    obtain ⟨before, entry, after, rfl, -, fails⟩ := readEntries_eq_error_iff.1 failed
    exact ⟨entry, by simp, problem, fails⟩
  · rintro ⟨entry, member, problem, fails⟩
    classical
    rcases forall_or_exists_first (fun entry => ∀ other, ¬ FailsBy resources stack entry other)
        entries with h_none | ⟨before, first, after, h_split, h_before, h_first⟩
    · exact absurd fails (h_none entry member problem)
    · obtain ⟨other, fails⟩ := not_forall_not.1 h_first
      exact ⟨other, readEntries_eq_error_iff.2 ⟨before, first, after, h_split, h_before, fails⟩⟩

/-! ## Refused entries -/

/-- An entry is refused, with a problem of that kind. -/
inductive Refused (resources : ResourceMap) (entry : Value) : ProblemKind → Prop where
  /-- The entry is there, but it is no well-formed expression for a reference. -/
  | malformed (given : entry ≠ .null) (unspelled : ∀ reference, ¬ Spells entry reference) :
      Refused resources entry .invalidTemplate
  | dangling (target member : String) (spells : Spells entry (.attributeOf target member))
      (absent : target ∉ resources.keys) : Refused resources entry .danglingReference

theorem refused_of_failsBy (fails : FailsBy resources stack entry problem) :
    Refused resources entry problem.cause.kind := by
  cases fails with
  | unrecognised given unspelled _ => exact .malformed given unspelled
  | malformed payload h_lookup unspelled => exact .malformed (by simp [h_lookup]) unspelled
  | dangling target member spells absent => exact .dangling target member spells absent

theorem exists_failsBy_iff :
    (∃ problem, FailsBy resources stack entry problem) ↔ ∃ kind, Refused resources entry kind := by
  constructor
  · rintro ⟨problem, fails⟩
    exact ⟨_, refused_of_failsBy fails⟩
  · rintro ⟨kind, refused⟩
    cases refused with
    | malformed given unspelled => exact ⟨_, Reference.failsBy_blame given unspelled⟩
    | dangling target member spells absent => exact ⟨_, .dangling target member spells absent⟩

/-- The functions of a pipeline follow its entries: those that lead to functions are kept in order,
    those that lead nowhere are passed over, and the first one that is refused is the problem. -/
structure Follows (resources : ResourceMap) (stack : Option String) (entries : List Value)
    (outcome : Outcome (List (String × Resource))) : Prop where
  read : ∀ functions, outcome = .ok functions ↔ Reads resources stack entries functions
  first : ∀ failure, outcome = .error failure ↔
    ∃ problem before entry after, failure = .problem problem ∧
      entries = before ++ entry :: after ∧
      (∀ earlier ∈ before, ∀ kind, ¬ Refused resources earlier kind) ∧
      FailsBy resources stack entry problem ∧ Refused resources entry problem.cause.kind
  refused : (∃ failure, outcome = .error failure) ↔
    ∃ entry ∈ entries, ∃ kind, Refused resources entry kind

theorem follows_readEntries (resources : ResourceMap) (stack : Option String)
    (entries : List Value) :
    Follows resources stack entries (Outcome.ofProblem (readEntries resources stack entries)) where
  read functions := by
    rw [← readEntries_eq_ok_iff]
    cases readEntries resources stack entries <;> simp [Outcome.ofProblem]
  first failure := by
    have h_before : ∀ earlier : Value, (∀ kind, ¬ Refused resources earlier kind) ↔
        ∀ other, ¬ FailsBy resources stack earlier other := by
      intro earlier
      rw [← not_exists, ← not_exists, exists_failsBy_iff]
    have h_problem : Outcome.ofProblem (readEntries resources stack entries) = .error failure ↔
        ∃ problem, failure = .problem problem ∧
          readEntries resources stack entries = .error problem := by
      cases readEntries resources stack entries <;> simp [Outcome.ofProblem, eq_comm]
    rw [h_problem]
    simp only [h_before, readEntries_eq_error_iff, and_iff_left_of_imp refused_of_failsBy,
      exists_and_left]
  refused := by
    have h_problem : (∃ failure, Outcome.ofProblem (readEntries resources stack entries) =
        .error failure) ↔ ∃ problem, readEntries resources stack entries = .error problem := by
      cases readEntries resources stack entries <;> simp [Outcome.ofProblem]
    rw [h_problem, exists_readEntries_eq_error_iff]
    simp only [exists_failsBy_iff]

/-! ## Lists of functions and dependencies -/

/-- A pipeline resolver lists entries for its functions. -/
def Lists (resource : Resource) (entries : List Value) : Prop :=
  ∃ config, resource.property "PipelineConfig" = .object config ∧
    Value.member config "Functions" = .array entries

/-- A pipeline resolver lists no functions, or an empty list of them. -/
def ListsNothing (resource : Resource) : Prop :=
  ∃ v, (resource.property "PipelineConfig").fieldIfGiven "Functions" = .ok v ∧ v.isVacant = true

def refTo (name : String) : Value := .object [("Ref", .string name)]

theorem functions_of_lists {resource : Resource} (lists : Lists resource entries)
    (h_some : entries ≠ []) :
    Pipeline.functions resource resources stack =
      Outcome.ofProblem (readEntries resources stack entries) := by
  obtain ⟨config, h_config, h_functions⟩ := lists
  have h_given : (Value.object config).isVacant = false := by
    cases config with
    | nil => cases h_functions
    | cons _ _ => rfl
  have h_entries : (Value.array entries).isVacant = false := by simpa [Value.isVacant] using h_some
  simp [Pipeline.functions, h_config, Value.fieldIfGiven, h_given, Value.field, h_functions,
    h_entries, Value.items]

theorem functions_of_listsNothing {resource : Resource} (lists : ListsNothing resource) :
    Pipeline.functions resource resources stack =
      .ok (resource.dependencies.filterMap (function? resources)) := by
  obtain ⟨v, h_functions, vacant⟩ := lists
  simp [Pipeline.functions, h_functions, vacant]

theorem readEntries_refTo {names : List String} (named : "" ∉ names) :
    readEntries resources stack (names.map refTo) =
      .ok (names.filterMap (function? resources)) := by
  induction names with
  | nil => rfl
  | cons name rest ih =>
    rw [List.mem_cons, not_or] at named
    have resolved : resolveValue .strict resources stack (refTo name) = .ok (some name) := rfl
    rw [List.map_cons, readEntries, readEntry_of_resolved resolved, ih named.2, Option.bind_some,
      MappingTemplate.nonempty?_eq_some_iff.2 ⟨rfl, Ne.symm named.1⟩, Option.bind_some,
      List.filterMap_cons]
    cases function? resources name <;> rfl

end Pipeline

/-- Dependencies are written down as one name or as a list of names. -/
inductive Resource.DependsOn : Value → List String → Prop where
  | name (name : String) : DependsOn (.string name) [name]
  | names (names : List String) : DependsOn (.array (names.map .string)) names

theorem Resource.dependencies_of_read {members : List (String × Value)} {resource : Resource}
    {value : Value} {names : List String} (accepted : read (.object members) = .ok resource)
    (written : memberEither members "DependsOn" "depends_on" = some value)
    (depends : DependsOn value names) : resource.dependencies = names := by
  have h_names : readDependencies members = .ok names := by
    unfold readDependencies
    rw [written]
    cases depends with
    | name name => rfl
    | names names =>
      have h_flaws : dependencyFlaws (names.map .string) = [] := by
        simp [dependencyFlaws, List.filterMap_map]
      simp [h_flaws, List.filterMap_map, Function.comp_def]
  simp only [read] at accepted
  split at accepted
  next h_dependencies =>
    cases accepted
    rw [h_names, Except.ok.injEq] at h_dependencies
    exact h_dependencies.symm
  next => cases accepted

namespace Resolver

/-- A pipeline resolver follows the functions that it lists, whatever its dependencies are.  If it
    lists none, its dependencies stand in for a list of references to them.  The stages of the
    resolver are made of its functions one by one. -/
theorem stages_follow (resource : Resource) (resources : ResourceMap) (stack : Option String) :
    (∀ entries, Pipeline.Lists resource entries → entries ≠ [] →
        Pipeline.Follows resources stack entries (Pipeline.functions resource resources stack) ∧
          ∀ dependencies,
            Pipeline.functions { resource with dependencies := dependencies } resources stack =
              Pipeline.functions resource resources stack) ∧
      (∀ members value names, Resource.read (.object members) = .ok resource →
        Resource.memberEither members "DependsOn" "depends_on" = some value →
        Resource.DependsOn value names → names ≠ [] → "" ∉ names →
        Pipeline.ListsNothing resource →
        ∀ other, Pipeline.Lists other (names.map Pipeline.refTo) →
          Pipeline.functions resource resources stack =
            Pipeline.functions other resources stack) ∧
      ∀ name extension r, ofResource name resource resources extension stack = .ok r →
        ∃ functions, Pipeline.functions resource resources stack = .ok functions ∧
          List.Forall₂
            (fun function stage =>
              Stage.ofFunction resources extension stack function.1 function.2 = .ok stage)
            functions r.stages := by
  refine ⟨?_, ?_, ?_⟩
  · intro entries lists h_some
    rw [Pipeline.functions_of_lists lists h_some]
    refine ⟨Pipeline.follows_readEntries resources stack entries, fun dependencies => ?_⟩
    have lists' : Pipeline.Lists { resource with dependencies := dependencies } entries := lists
    exact Pipeline.functions_of_lists lists' h_some
  · intro members value names accepted written depends h_some named listsNothing other lists
    rw [Pipeline.functions_of_listsNothing listsNothing,
      Resource.dependencies_of_read accepted written depends,
      Pipeline.functions_of_lists lists (by simpa using h_some), Pipeline.readEntries_refTo named]
    rfl
  · intro name extension r built
    obtain ⟨-, -, functions, h_functions, h_stages⟩ := ofResource_eq_ok built
    exact ⟨functions, h_functions, Stage.ofFunctions_eq_ok_iff.1 h_stages⟩

/-- A stack with a function to read posts and one to write them. -/
def postFunctions : ResourceMap :=
  let functionOf (source : String) : Resource := ⟨Resource.functionKind,
    [("DataSourceName", .string source), ("RequestMappingTemplate", .string ""),
      ("ResponseMappingTemplate", .string "")], []⟩
  .ofList
    [("Read", functionOf "Posts"), ("Write", functionOf "Posts"),
      ("Posts", ⟨"AWS::AppSync::DataSource", [("Type", .string "NONE")], []⟩)]

def listing (entries : List Value) : Resource :=
  ⟨Resource.resolverKind,
    [("Kind", .string "PIPELINE"), ("TypeName", .string "Query"), ("FieldName", .string "post"),
      ("PipelineConfig", .object [("Functions", .array entries)])], ["Posts"]⟩

/-- A record of a resolver that lists no functions and depends on some. -/
def dependingRecord : List (String × Value) :=
  [("Type", .string Resource.resolverKind),
    ("DependsOn", .array (["Write", "Posts", "Read"].map .string))]

theorem listing_followed :
    let entries := [.null, .string "Write", Pipeline.refTo "Posts", Pipeline.refTo "Missing",
      Reference.lookUp "Read" "FunctionId", .string "Write"]
    let refused := [.string "Write", Reference.lookUp "Missing" "FunctionId", .integer 3]
    (∃ functions, Pipeline.functions (listing entries) postFunctions (some "Blog") =
        .ok functions ∧ Pipeline.Reads postFunctions (some "Blog") entries functions ∧
      functions.map Prod.fst = ["Write", "Read", "Write"]) ∧
      Pipeline.functions (listing refused) postFunctions (some "Blog") =
        .error (.problem ⟨.danglingLookup "Missing" "FunctionId", some "Blog", none⟩) ∧
      (∃ resource, Resource.read (.object dependingRecord) = .ok resource ∧
        Pipeline.functions resource postFunctions (some "Blog") =
          Pipeline.functions (listing (["Write", "Posts", "Read"].map Pipeline.refTo))
            postFunctions (some "Blog")) ∧
      ∃ r functions,
        ofResource "Post" (listing entries) postFunctions ".vtl" (some "Blog") = .ok r ∧
        Pipeline.functions (listing entries) postFunctions (some "Blog") = .ok functions ∧
        r.stages.length = functions.length := by
  intro entries refused
  have h_functions : ∃ functions, Pipeline.functions (listing entries) postFunctions (some "Blog") =
      .ok functions ∧ functions.map Prod.fst = ["Write", "Read", "Write"] := ⟨_, rfl, rfl⟩
  have h_built : ∃ r, ofResource "Post" (listing entries) postFunctions ".vtl" (some "Blog") =
      .ok r := ⟨_, rfl⟩
  have h_read : ∃ resource, Resource.read (.object dependingRecord) = .ok resource ∧
      Pipeline.ListsNothing resource := ⟨_, rfl, .null, rfl, rfl⟩
  obtain ⟨functions, h_ok, h_names⟩ := h_functions
  obtain ⟨r, built⟩ := h_built
  obtain ⟨resource, accepted, listsNothing⟩ := h_read
  obtain ⟨h_follows, -, h_stages⟩ := stages_follow (listing entries) postFunctions (some "Blog")
  obtain ⟨h_refused, -, -⟩ := stages_follow (listing refused) postFunctions (some "Blog")
  obtain ⟨-, h_depends, -⟩ := stages_follow resource postFunctions (some "Blog")
  obtain ⟨follows, -⟩ := h_follows entries ⟨_, rfl, rfl⟩ (by simp [entries])
  obtain ⟨refuses, -⟩ := h_refused refused ⟨_, rfl, rfl⟩ (by simp [refused])
  obtain ⟨functions', h_ok', related⟩ := h_stages "Post" ".vtl" r built
  refine ⟨⟨functions, h_ok, (follows.read functions).1 h_ok, h_names⟩, ?_, ⟨resource, accepted, ?_⟩,
    r, functions', built, h_ok', related.length_eq.symm⟩
  · have dangling : Reference.FailsBy postFunctions (some "Blog")
        (Reference.lookUp "Missing" "FunctionId")
        ⟨.danglingLookup "Missing" "FunctionId", some "Blog", none⟩ :=
      .dangling "Missing" "FunctionId" (.dotted _ _ (by decide)) (by decide)
    refine (refuses.first _).2 ⟨_, [.string "Write"], _, [.integer 3], rfl, rfl, ?_, dangling,
      Pipeline.refused_of_failsBy dangling⟩
    rw [List.forall_mem_singleton]
    rintro kind refused
    cases refused with
    | malformed _ unspelled => exact unspelled _ (.literal "Write")
    | dangling _ _ spells _ => cases spells
  · exact h_depends dependingRecord _ _ accepted rfl (.names _) (by decide) (by decide) listsNothing
      _ ⟨_, rfl, rfl⟩

end Resolver

end ResourceGraph
