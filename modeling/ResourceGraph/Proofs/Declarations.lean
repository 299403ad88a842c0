import Mathlib.Data.List.Forall2
import ResourceGraph.Bundle.Normalization

/-! # Declarations

A stack is normalized by reading its resources in declared order and filing what each declares.

The relation `Declares` says which resource makes which `Declaration`, a table or a resolver, and
`declare_eq_ok_iff` inverts one step: a resource that is accepted declares one thing or nothing.
From this come the induction principles by which the other modules reason about bundles.  Whatever
one declaration preserves holds of the bundle of a stack by `ofResources_induction`, and of
resources as they stand in a value by `outcome_ofValue_induction`.
-/

namespace ResourceGraph

/-- What a resource of a stack declares. -/
inductive Declaration where
  | table (t : Table)
  | resolver (r : Resolver)

namespace Declaration

def table? : Declaration → Option Table
  | table t => some t
  | resolver _ => none

def resolver? : Declaration → Option Resolver
  | table _ => none
  | resolver r => some r

def tablesOf (ds : List Declaration) : List Table := ds.filterMap table?

def resolversOf (ds : List Declaration) : List Resolver := ds.filterMap resolver?

/-- The declared resolvers of one bucket in order. -/
def filed (roots : List String) (bucket : Bucket) (ds : List Declaration) : List Resolver :=
  (resolversOf ds).filter fun r => r.bucket roots = bucket

@[simp] theorem tablesOf_concat_table (ds : List Declaration) (t : Table) :
    tablesOf (ds ++ [table t]) = tablesOf ds ++ [t] := by
  simp [tablesOf, table?]

@[simp] theorem tablesOf_concat_resolver (ds : List Declaration) (r : Resolver) :
    tablesOf (ds ++ [resolver r]) = tablesOf ds := by
  simp [tablesOf, table?]

@[simp] theorem filed_concat_table (roots : List String) (bucket : Bucket)
    (ds : List Declaration) (t : Table) :
    filed roots bucket (ds ++ [table t]) = filed roots bucket ds := by
  simp [filed, resolversOf, resolver?]

@[simp] theorem filed_concat_resolver (roots : List String) (bucket : Bucket)
    (ds : List Declaration) (r : Resolver) :
    filed roots bucket (ds ++ [resolver r]) =
      filed roots bucket ds ++ if r.bucket roots = bucket then [r] else [] := by
  simp [filed, resolversOf, resolver?, List.filter_cons]

theorem table?_eq_some_iff {d : Declaration} {t : Table} : d.table? = some t ↔ d = table t := by
  cases d <;> simp [table?]

theorem resolver?_eq_some_iff {d : Declaration} {r : Resolver} :
    d.resolver? = some r ↔ d = resolver r := by
  cases d <;> simp [resolver?]

theorem mem_tablesOf_iff {ds : List Declaration} {t : Table} : t ∈ tablesOf ds ↔ table t ∈ ds := by
  simp [tablesOf, table?_eq_some_iff]

theorem mem_resolversOf_iff {ds : List Declaration} {r : Resolver} :
    r ∈ resolversOf ds ↔ resolver r ∈ ds := by
  simp [resolversOf, resolver?_eq_some_iff]

theorem mem_filed_iff {roots : List String} {bucket : Bucket} {ds : List Declaration}
    {r : Resolver} : r ∈ filed roots bucket ds ↔ resolver r ∈ ds ∧ r.bucket roots = bucket := by
  simp [filed, mem_resolversOf_iff]

end Declaration

inductive Declares (stack : String) (options : Options) (resources : ResourceMap) :
    String × Resource → Declaration → Prop
  | table {name : String} {resource : Resource} {t : Table}
      (h_kind : resource.kind = Resource.tableKind)
      (h_built : Table.ofResource name options.tableSuffix resource = .ok t) :
      Declares stack options resources (name, resource) (.table t)
  | resolver {name : String} {resource : Resource} {r : Resolver}
      (h_kind : resource.kind = Resource.resolverKind)
      (h_built : Resolver.ofResource name resource resources options.extension (some stack) =
        .ok r) :
      Declares stack options resources (name, resource) (.resolver r)

/-- Whether a resource is of a kind that declares something itself. -/
def declaring (entry : String × Resource) : Bool :=
  entry.2.kind = Resource.tableKind ∨ entry.2.kind = Resource.resolverKind

section
open Declaration

variable {stack : String} {options : Options} {resources : ResourceMap}
  {entry : String × Resource} {entries : List (String × Resource)}
  {d e : Declaration} {ds : List Declaration}

theorem Declares.declaring_eq (declares : Declares stack options resources entry d) :
    declaring entry = true := by
  cases declares with
  | table h_kind _ | resolver h_kind _ => simp [declaring, h_kind]

/-- The stages of a declared resolver are made of the functions in its pipeline. -/
theorem Declares.stages {r : Resolver}
    (declares : Declares stack options resources entry (.resolver r)) :
    ∃ functions, Pipeline.functions entry.2 resources (some stack) = .ok functions ∧
      Stage.ofFunctions resources options.extension (some stack) functions = .ok r.stages := by
  cases declares with
  | resolver _ h_built =>
    obtain ⟨-, -, h_stages⟩ := Resolver.ofResource_eq_ok h_built
    exact h_stages

theorem Declares.unique (first : Declares stack options resources entry d)
    (second : Declares stack options resources entry e) : d = e := by
  cases first with
  | table h_kind h_built =>
    cases second with
    | table _ h_again =>
      rw [h_built, Except.ok.injEq] at h_again
      rw [h_again]
    | resolver h_other _ => exact absurd (h_kind.symm.trans h_other) (by decide)
  | resolver h_kind h_built =>
    cases second with
    | table h_other _ => exact absurd (h_kind.symm.trans h_other) (by decide)
    | resolver _ h_again =>
      rw [h_built, Except.ok.injEq] at h_again
      rw [h_again]

/-- What holds of the functions in the pipeline of a declared resolver is what they make of its
    stages. -/
theorem Declares.exists_functions_iff {r : Resolver} {P : List (String × Resource) → Prop}
    {Q : Prop} (member : entry ∈ resources.entries)
    (declares : Declares stack options resources entry (.resolver r))
    (h_stages : ∀ functions, Stage.ofFunctions resources options.extension (some stack) functions =
      .ok r.stages → (P functions ↔ Q)) :
    (∃ entry ∈ resources.entries, Declares stack options resources entry (.resolver r) ∧
      ∃ functions, Pipeline.functions entry.2 resources (some stack) = .ok functions ∧
        P functions) ↔ Q := by
  constructor
  · rintro ⟨_, -, declares', functions, h_functions, h_P⟩
    obtain ⟨functions', h_functions', built⟩ := declares'.stages
    rw [h_functions, Except.ok.injEq] at h_functions'
    subst h_functions'
    exact (h_stages functions built).1 h_P
  · intro h_Q
    obtain ⟨functions, h_functions, built⟩ := declares.stages
    exact ⟨entry, member, declares, functions, h_functions, (h_stages functions built).2 h_Q⟩

/-- The declarations of a list of resources are those of its members. -/
theorem mem_declared_iff
    (declared : List.Forall₂ (Declares stack options resources) (entries.filter declaring) ds) :
    d ∈ ds ↔ ∃ entry ∈ entries, Declares stack options resources entry d := by
  have h_filter : (∃ entry ∈ entries, Declares stack options resources entry d) ↔
      ∃ entry ∈ entries.filter declaring, Declares stack options resources entry d := by
    constructor
    · rintro ⟨entry, member, declares⟩
      exact ⟨entry, List.mem_filter.2 ⟨member, declares.declaring_eq⟩, declares⟩
    · rintro ⟨entry, member, declares⟩
      exact ⟨entry, (List.mem_filter.1 member).1, declares⟩
  rw [h_filter]
  clear h_filter
  generalize entries.filter declaring = kept at declared
  induction declared with
  | nil => simp
  | @cons first d' _ _ declares _ ih =>
    have h_first : d = d' ↔ Declares stack options resources first d :=
      ⟨fun same => same ▸ declares, fun again => again.unique declares⟩
    rw [List.mem_cons, List.exists_mem_cons_iff, h_first]
    exact or_congr_right ih

/-- What holds between what any two resources declare holds between any two declarations. -/
theorem pairwise_declared_iff {R : Declaration → Declaration → Prop}
    (declared : List.Forall₂ (Declares stack options resources) (entries.filter declaring) ds) :
    (entries.Pairwise fun first second =>
        ∀ d e, Declares stack options resources first d →
          Declares stack options resources second e → R d e) ↔
      ds.Pairwise R := by
  induction entries generalizing ds with
  | nil =>
    cases declared
    simp
  | cons entry rest ih =>
    rw [List.pairwise_cons]
    by_cases h_declaring : declaring entry = true
    · rw [List.filter_cons_of_pos h_declaring] at declared
      obtain ⟨d, later, declares, h_later, rfl⟩ := List.forall₂_cons_left_iff.1 declared
      rw [ih h_later, List.pairwise_cons]
      refine and_congr_left fun _ => ?_
      constructor
      · intro h_all e member
        obtain ⟨other, h_other, h_e⟩ := (mem_declared_iff h_later).1 member
        exact h_all other h_other d e declares h_e
      · intro h_all other h_other d' e h_d' h_e
        rw [h_d'.unique declares]
        exact h_all e ((mem_declared_iff h_later).2 ⟨other, h_other, h_e⟩)
    · rw [List.filter_cons_of_neg h_declaring] at declared
      rw [ih declared]
      exact and_iff_right fun _ _ d _ h_d => absurd h_d.declaring_eq h_declaring

theorem forall_resolversOf_iff {P : Resolver → Prop}
    (declared : List.Forall₂ (Declares stack options resources) (entries.filter declaring) ds) :
    (∀ r ∈ resolversOf ds, P r) ↔
      ∀ entry ∈ entries, ∀ r, Declares stack options resources entry (.resolver r) → P r := by
  constructor
  · intro h_all entry member r declares
    exact h_all r (mem_resolversOf_iff.2 ((mem_declared_iff declared).2 ⟨entry, member, declares⟩))
  · intro h_all r member
    obtain ⟨entry, h_entry, declares⟩ :=
      (mem_declared_iff declared).1 (mem_resolversOf_iff.1 member)
    exact h_all entry h_entry r declares

theorem filter_declaring {kind : String}
    (h_kind : kind = Resource.tableKind ∨ kind = Resource.resolverKind)
    (entries : List (String × Resource)) :
    (entries.filter declaring).filter (fun entry => entry.2.kind = kind) =
      entries.filter fun entry => entry.2.kind = kind := by
  rw [List.filter_filter]
  refine List.filter_congr fun entry _ => ?_
  by_cases h_entry : entry.2.kind = kind
  · simp [declaring, h_entry, h_kind]
  · simp [h_entry]

theorem names_tablesOf
    (declared : List.Forall₂ (Declares stack options resources) (entries.filter declaring) ds) :
    (tablesOf ds).map Table.name =
      (entries.filter fun entry => entry.2.kind = Resource.tableKind).map fun entry =>
        Table.deriveName entry.1 options.tableSuffix := by
  rw [← filter_declaring (.inl rfl)]
  generalize entries.filter declaring = kept at declared
  induction declared with
  | nil => rfl
  | cons declares _ ih =>
    cases declares with
    | table h_kind h_built =>
      rw [List.filter_cons_of_pos (by simp [h_kind]), List.map_cons, ← ih,
        ← (Table.ofResource_eq_ok h_built).1]
      rfl
    | resolver h_kind _ =>
      rw [List.filter_cons_of_neg (by simp [h_kind, Resource.resolverKind, Resource.tableKind]),
        ← ih]
      rfl

theorem names_resolversOf
    (declared : List.Forall₂ (Declares stack options resources) (entries.filter declaring) ds) :
    ((resolversOf ds).map fun r => (Value.string r.typeName, Value.string r.fieldName)) =
      (entries.filter fun entry => entry.2.kind = Resource.resolverKind).map fun entry =>
        (entry.2.property "TypeName", entry.2.property "FieldName") := by
  rw [← filter_declaring (.inr rfl)]
  generalize entries.filter declaring = kept at declared
  induction declared with
  | nil => rfl
  | cons declares _ ih =>
    cases declares with
    | table h_kind _ =>
      rw [List.filter_cons_of_neg (by simp [h_kind, Resource.resolverKind, Resource.tableKind]),
        ← ih]
      rfl
    | resolver h_kind h_built =>
      obtain ⟨h_type, h_field, -⟩ := Resolver.ofResource_eq_ok h_built
      rw [List.filter_cons_of_pos (by simp [h_kind]), List.map_cons, ← ih, h_type, h_field]
      rfl

/-- A resource among others declares something between what they declare. -/
theorem declared_split {before after : List (String × Resource)}
    (declared : List.Forall₂ (Declares stack options resources)
      ((before ++ entry :: after).filter declaring) ds)
    (h_declaring : declaring entry = true) :
    ∃ earlier d later, ds = earlier ++ d :: later ∧ Declares stack options resources entry d ∧
      List.Forall₂ (Declares stack options resources) (after.filter declaring) later := by
  rw [List.filter_append, List.filter_cons_of_pos h_declaring] at declared
  have h_rest := (List.forall₂_drop_append _ _ _ declared.flip).flip
  obtain ⟨d, later, declares, h_later, h_split⟩ := List.forall₂_cons_left_iff.1 h_rest
  have h_ds := List.take_append_drop (before.filter declaring).length ds
  rw [h_split] at h_ds
  exact ⟨_, d, later, h_ds.symm, declares, h_later⟩

end

namespace Bundle

/-! ## One declaration -/

def file (roots : List String) (b : Bundle) : Declaration → Bundle
  | .table t => b.addTable t
  | .resolver r => b.addResolver roots r

def fileWarnings (stack : String) (roots : List String) (b : Bundle) :
    Declaration → List Warning
  | .table t => b.tableWarnings stack t
  | .resolver r => b.resolverWarnings roots r

theorem name_file (roots : List String) (b : Bundle) (d : Declaration) :
    (b.file roots d).name = b.name := by
  cases d with
  | table t => rfl
  | resolver r => exact name_addResolver b roots r

section
variable {stack : String} {options : Options} {resources : ResourceMap}
  {b c : Bundle} {warnings : List Warning} {entry : String × Resource}

theorem declareTable_eq_ok_iff {name : String} {resource : Resource} :
    declareTable stack options b name resource = ⟨warnings, .ok c⟩ ↔
      ∃ t, Table.ofResource name options.tableSuffix resource = .ok t ∧
        c = b.addTable t ∧ warnings = b.tableWarnings stack t := by
  unfold declareTable
  cases h_read : Table.ofResource name options.tableSuffix resource with
  | error failure => simp [Outcome.within, Logged.ofOutcome]
  | ok t =>
    simp only [Outcome.within, Logged.after, Logged.mk.injEq, Except.ok.injEq, exists_eq_left']
    exact ⟨fun h => ⟨h.2.symm, h.1.symm⟩, fun h => ⟨h.2.symm, h.1.symm⟩⟩

theorem declareResolver_eq_ok_iff {name : String} {resource : Resource} :
    declareResolver stack options resources b name resource = ⟨warnings, .ok c⟩ ↔
      ∃ r, Resolver.ofResource name resource resources options.extension (some stack) = .ok r ∧
        c = b.addResolver options.roots r ∧ warnings = b.resolverWarnings options.roots r := by
  unfold declareResolver
  cases h_read : Resolver.ofResource name resource resources options.extension (some stack) with
  | error failure => simp [Outcome.within, Logged.ofOutcome]
  | ok r =>
    simp only [Outcome.within, Logged.after, Logged.mk.injEq, Except.ok.injEq, exists_eq_left']
    exact ⟨fun h => ⟨h.2.symm, h.1.symm⟩, fun h => ⟨h.2.symm, h.1.symm⟩⟩

/-- A resource that is accepted is of a declaring kind and its declaration is filed, or it is of
    another kind and changes nothing. -/
theorem declare_eq_ok_iff :
    declare stack options resources b entry = ⟨warnings, .ok c⟩ ↔
      (declaring entry = true ∧ ∃ d, Declares stack options resources entry d ∧
        c = b.file options.roots d ∧ warnings = b.fileWarnings stack options.roots d) ∨
      (declaring entry = false ∧ c = b ∧ warnings = []) := by
  obtain ⟨name, resource⟩ := entry
  by_cases h_table : resource.kind = Resource.tableKind
  · have h_declaring : declaring (name, resource) = true := by simp [declaring, h_table]
    rw [declare, if_pos h_table, declareTable_eq_ok_iff]
    constructor
    · rintro ⟨t, h_read, rfl, rfl⟩
      exact Or.inl ⟨h_declaring, .table t, .table h_table h_read, rfl, rfl⟩
    · rintro (⟨-, d, declared, rfl, rfl⟩ | ⟨h_other, -⟩)
      · cases declared with
        | table _ h_read => exact ⟨_, h_read, rfl, rfl⟩
        | resolver h_kind _ => exact absurd (h_table.symm.trans h_kind) (by decide)
      · rw [h_declaring] at h_other
        cases h_other
  · by_cases h_resolver : resource.kind = Resource.resolverKind
    · have h_declaring : declaring (name, resource) = true := by simp [declaring, h_resolver]
      rw [declare, if_neg h_table, if_pos h_resolver, declareResolver_eq_ok_iff]
      constructor
      · rintro ⟨r, h_read, rfl, rfl⟩
        exact Or.inl ⟨h_declaring, .resolver r, .resolver h_resolver h_read, rfl, rfl⟩
      · rintro (⟨-, d, declared, rfl, rfl⟩ | ⟨h_other, -⟩)
        · cases declared with
          | table h_kind _ => exact absurd h_kind h_table
          | resolver _ h_read => exact ⟨_, h_read, rfl, rfl⟩
        · rw [h_declaring] at h_other
          cases h_other
    · have h_declaring : declaring (name, resource) = false := by
        simp [declaring, h_table, h_resolver]
      rw [declare_eq_pure h_table h_resolver, h_declaring, Logged.pure, Logged.mk.injEq,
        Except.ok.injEq]
      constructor
      · rintro ⟨rfl, rfl⟩
        exact Or.inr ⟨rfl, rfl, rfl⟩
      · rintro (⟨h_other, -⟩ | ⟨-, rfl, rfl⟩)
        · cases h_other
        · exact ⟨rfl, rfl⟩

/-- A resource that is accepted changes nothing or is filed as what it declares. -/
theorem file_of_declare (accepted : (declare stack options resources b entry).outcome = .ok c) :
    c = b ∨ ∃ d, Declares stack options resources entry d ∧ c = b.file options.roots d := by
  have h_logged : declare stack options resources b entry =
      ⟨(declare stack options resources b entry).warnings, .ok c⟩ := Logged.ext rfl accepted
  rcases declare_eq_ok_iff.1 h_logged with ⟨-, d, declares, rfl, -⟩ | ⟨-, rfl, -⟩
  · exact Or.inr ⟨d, declares, rfl⟩
  · exact Or.inl rfl

theorem file_of_declareLabelled {labelled : Value × Resource}
    (accepted : (declareLabelled stack options resources b labelled).outcome = .ok c) :
    c = b ∨ ∃ entry d, Declares stack options resources entry d ∧ c = b.file options.roots d := by
  unfold declareLabelled at accepted
  cases h_label : labelled.1.text? with
  | some name =>
    rw [h_label] at accepted
    exact (file_of_declare accepted).imp_right fun filed => ⟨_, filed⟩
  | none =>
    rw [h_label] at accepted
    cases h_outcome : (declare stack options resources b ("", labelled.2)).outcome with
    | error failure => simp [h_outcome, Logged.ofOutcome] at accepted
    | ok next =>
      simp only [h_outcome] at accepted
      split at accepted
      next => cases accepted
      next =>
        rw [h_outcome, Except.ok.injEq] at accepted
        exact accepted ▸ (file_of_declare h_outcome).imp_right fun filed => ⟨_, filed⟩

/-! ## All declarations of a stack -/

/-- Whatever filing one declaration preserves is preserved by the resources of a stack.  Each
    resource of a declaring kind makes one declaration, in order. -/
theorem declareAll_induction {P : List Declaration → List Warning → Bundle → Prop}
    (h_file : ∀ ds said b entry d, Declares stack options resources entry d → P ds said b →
      P (ds ++ [d]) (said ++ b.fileWarnings stack options.roots d) (b.file options.roots d))
    {entries : List (String × Resource)} {ds : List Declaration} {said : List Warning}
    (h_before : P ds said b)
    (accepted : declareAll stack options resources b entries = ⟨warnings, .ok c⟩) :
    ∃ more, List.Forall₂ (Declares stack options resources)
        (entries.filter declaring) more ∧
      P (ds ++ more) (said ++ warnings) c := by
  induction entries generalizing b ds said warnings with
  | nil =>
    rw [declareAll, Logged.foldl_nil, Logged.pure, Logged.mk.injEq, Except.ok.injEq] at accepted
    obtain ⟨rfl, rfl⟩ := accepted
    refine ⟨[], .nil, ?_⟩
    rwa [List.append_nil, List.append_nil]
  | cons entry rest ih =>
    rw [declareAll, Logged.foldl_cons] at accepted
    cases h_first : declare stack options resources b entry with
    | mk first outcome =>
      cases outcome with
      | error failure => simp [h_first, Logged.bind] at accepted
      | ok next =>
        rw [h_first, Logged.bind_ok rfl, Logged.mk.injEq] at accepted
        obtain ⟨rfl, h_rest⟩ := accepted
        have h_later : declareAll stack options resources next rest =
            ⟨(declareAll stack options resources next rest).warnings, .ok c⟩ :=
          Logged.ext rfl h_rest
        rcases declare_eq_ok_iff.1 h_first with
          ⟨h_declaring, d, declared, rfl, rfl⟩ | ⟨h_other, rfl, rfl⟩
        · have h_filed := h_file ds said b entry d declared h_before
          obtain ⟨more, h_more, h_after⟩ := ih h_filed h_later
          refine ⟨d :: more, ?_, ?_⟩
          · rw [List.filter_cons_of_pos h_declaring]
            exact .cons declared h_more
          · rwa [List.append_assoc, List.append_assoc] at h_after
        · obtain ⟨more, h_more, h_after⟩ := ih h_before h_later
          refine ⟨more, ?_, h_after⟩
          rwa [List.filter_cons_of_neg (by simp [h_other])]

/-- The bundle of a stack is what its declarations leave, linked. -/
theorem ofResources_induction {P : List Declaration → List Warning → Bundle → Prop}
    (h_empty : P [] [] (empty stack))
    (h_file : ∀ ds said b entry d, Declares stack options resources entry d → P ds said b →
      P (ds ++ [d]) (said ++ b.fileWarnings stack options.roots d) (b.file options.roots d))
    (accepted : ofResources stack options resources = ⟨warnings, .ok b⟩) :
    ∃ ds c, List.Forall₂ (Declares stack options resources)
        (resources.entries.filter declaring) ds ∧
      P ds warnings c ∧ b = c.link := by
  unfold ofResources at accepted
  cases h_all : declareAll stack options resources (empty stack) resources.entries with
  | mk said outcome =>
    cases outcome with
    | error failure => simp [h_all, Logged.bind] at accepted
    | ok c =>
      rw [h_all, Logged.bind_ok rfl, Logged.pure, Logged.mk.injEq, Except.ok.injEq,
        List.append_nil] at accepted
      obtain ⟨rfl, rfl⟩ := accepted
      obtain ⟨ds, h_ds, h_after⟩ := declareAll_induction h_file h_empty h_all
      exact ⟨ds, c, h_ds, h_after, rfl⟩

/-! ## Any accepted stack -/

section
variable {P : Bundle → Prop} (h_empty : P (empty stack))
  (h_file : ∀ resources entry d b, Declares stack options resources entry d → P b →
    P (b.file options.roots d))
include h_empty h_file

theorem link_of_fold {α : Type} {step : Bundle → α → Logged Bundle} {items : List α}
    (h_step : ∀ start a next, (step start a).outcome = .ok next →
      next = start ∨ ∃ resources entry d, Declares stack options resources entry d ∧
        next = start.file options.roots d)
    (accepted : ((Logged.foldl step (empty stack) items).bind fun b =>
      Logged.pure b.link).outcome = .ok b) : ∃ c, P c ∧ b = c.link := by
  obtain ⟨filed, h_filed, h_linked⟩ := Logged.outcome_bind_eq_ok_iff.1 accepted
  rw [Logged.pure, Except.ok.injEq] at h_linked
  refine ⟨filed, Logged.outcome_foldl_induction ?_ h_empty h_filed, h_linked.symm⟩
  intro start a next h_start h_next
  rcases h_step start a next h_next with rfl | ⟨resources, entry, d, declares, rfl⟩
  · exact h_start
  · exact h_file resources entry d start declares h_start

/-- Whatever filing a declaration preserves holds of an accepted stack before it is linked. -/
theorem outcome_ofResources_induction
    (accepted : (ofResources stack options resources).outcome = .ok b) :
    ∃ c, P c ∧ b = c.link := by
  refine link_of_fold h_empty h_file ?_ accepted
  exact fun _ _ _ h_next => (file_of_declare h_next).imp_right fun filed => ⟨_, _, filed⟩

/-- The same holds of resources as they stand in a value, in whichever form. -/
theorem outcome_ofValue_induction {raw : Value}
    (accepted : (ofValue stack options raw).outcome = .ok b) : ∃ c, P c ∧ b = c.link := by
  unfold ofValue at accepted
  split at accepted
  · split at accepted
    next => exact outcome_ofResources_induction h_empty h_file accepted
    next => cases accepted
  · split at accepted
    next => cases accepted
    next =>
      split at accepted
      next => cases accepted
      next =>
        refine link_of_fold h_empty h_file ?_ accepted
        exact fun _ _ _ h_next => (file_of_declareLabelled h_next).imp_right fun filed => ⟨_, filed⟩

end

end

end Bundle

/-! ## Small stacks -/

def keyedResource : Resource :=
  let key := .string "id"
  ⟨Resource.tableKind,
    [("AttributeDefinitions",
        .array [.object [("AttributeName", key), ("AttributeType", .string "S")]]),
      ("KeySchema", .array [.object [("AttributeName", key), ("KeyType", .string "HASH")]])], []⟩

def pipelineResource (typeName fieldName : String) (functions : List String) : Resource :=
  ⟨Resource.resolverKind,
    [("Kind", .string "PIPELINE"), ("TypeName", .string typeName),
      ("FieldName", .string fieldName),
      ("PipelineConfig", .object [("Functions", .array (functions.map .string))])], []⟩

def boundResolver (typeName fieldName : String) (bindings : List Binding) : Resolver :=
  let template := MappingTemplate.inline (.string "")
  ⟨typeName, fieldName,
    bindings.map fun binding => ⟨.null, binding, template, template⟩, none, none⟩

/-- The records of a stack as they stand in an object. -/
def recordsOf (resources : ResourceMap) : List (String × Value) :=
  resources.entries.map fun entry =>
    (entry.1,
      .object [("Type", .string entry.2.kind), ("Properties", .object entry.2.properties)])

/-- A stack in which a table and a field are declared twice and one field is not backed by
    anything. -/
def blogResources : ResourceMap :=
  .ofList
    [("PostSource", ⟨"AWS::AppSync::DataSource",
        [("Type", .string "AMAZON_DYNAMODB"), ("Name", .string "PostTable")], []⟩),
      ("ReadPost", ⟨Resource.functionKind,
        [("DataSourceName", .string "PostSource"), ("RequestMappingTemplate", .string ""),
          ("ResponseMappingTemplate", .string "")], []⟩),
      ("First", pipelineResource "Query" "post" ["ReadPost"]),
      ("PostTable1A", keyedResource),
      ("Ping", pipelineResource "Query" "ping" []),
      ("PostTable2B", keyedResource),
      ("Second", pipelineResource "Mutation" "post" ["ReadPost", "ReadPost"])]

end ResourceGraph
