import ResourceGraph.Bundle.Filing
import ResourceGraph.Bundle.Linkage
import ResourceGraph.Resolver.Pipeline
import ResourceGraph.Table.Declaration
import ResourceGraph.Template.Document

/-! # Normalization

From the resources of stacks to their bundles.  `Bundle.declare` is the step: it files what one
resource declares, which `declare_eq_pure` shows to be nothing for all but tables and resolvers.
`Bundle.ofResources` takes the step for every resource in declared order and links the tables at
the end; `Bundle.ofDocument` does so for several stacks, up to the first failure.

Resources may also stand in a value that is a list of pairs instead of an object, and then a label
need not be text.  `Bundle.ofValue` covers both.
-/

namespace ResourceGraph

structure Options where
  roots : List String
  tableSuffix : String
  extension : String

/-- The options unless others are given. -/
def Options.standard : Options :=
  ⟨defaultRoots, Table.defaultSuffix, MappingTemplate.defaultExtension⟩

namespace Bundle

/-! ## One stack -/

def declareTable (stack : String) (options : Options) (b : Bundle) (name : String)
    (resource : Resource) : Logged Bundle :=
  match (Table.ofResource name options.tableSuffix resource).within stack name with
  | .ok table => .after (b.tableWarnings stack table) (b.addTable table)
  | .error failure => .ofOutcome (.error failure)

def declareResolver (stack : String) (options : Options) (resources : ResourceMap) (b : Bundle)
    (name : String) (resource : Resource) : Logged Bundle :=
  match (Resolver.ofResource name resource resources options.extension (some stack)).within
      stack name with
  | .ok resolver =>
    .after (b.resolverWarnings options.roots resolver) (b.addResolver options.roots resolver)
  | .error failure => .ofOutcome (.error failure)

/-- A bundle with what one resource of a stack declares; most kinds declare nothing themselves. -/
def declare (stack : String) (options : Options) (resources : ResourceMap) (b : Bundle)
    (entry : String × Resource) : Logged Bundle :=
  if entry.2.kind = Resource.tableKind then declareTable stack options b entry.1 entry.2
  else if entry.2.kind = Resource.resolverKind then
    declareResolver stack options resources b entry.1 entry.2
  else Logged.pure b

/-- A bundle with what several resources declare, in order. -/
def declareAll (stack : String) (options : Options) (resources : ResourceMap) (b : Bundle)
    (entries : List (String × Resource)) : Logged Bundle :=
  Logged.foldl (declare stack options resources) b entries

def ofResources (stack : String) (options : Options) (resources : ResourceMap) :
    Logged Bundle :=
  (declareAll stack options resources (empty stack) resources.entries).bind fun b =>
    Logged.pure b.link

/-- A resource that is neither a table nor a resolver declares nothing itself. -/
theorem declare_eq_pure {stack : String} {options : Options} {resources : ResourceMap}
    {b : Bundle} {entry : String × Resource} (h_table : entry.2.kind ≠ Resource.tableKind)
    (h_resolver : entry.2.kind ≠ Resource.resolverKind) :
    declare stack options resources b entry = Logged.pure b := by
  simp [declare, h_table, h_resolver]

/-- What a resource declares does not rename the bundle. -/
theorem name_declare {stack : String} {options : Options} {resources : ResourceMap}
    {b c : Bundle} {entry : String × Resource}
    (declared : (declare stack options resources b entry).outcome = .ok c) : c.name = b.name := by
  unfold declare at declared
  split at declared
  · unfold declareTable at declared
    split at declared
    · simp only [Logged.after, Except.ok.injEq] at declared
      subst declared; rfl
    · simp [Logged.ofOutcome] at declared
  · split at declared
    · unfold declareResolver at declared
      split at declared
      · simp only [Logged.after, Except.ok.injEq] at declared
        subst declared; exact name_addResolver _ _ _
      · simp [Logged.ofOutcome] at declared
    · simp only [Logged.pure, Except.ok.injEq] at declared
      rw [declared]

/-! ## Several stacks -/

/-- The bundles of several stacks, each by itself and under its name. -/
def ofStacks (options : Options) : List (String × ResourceMap) → Logged (List (String × Bundle))
  | [] => Logged.pure []
  | (stack, resources) :: rest =>
    (ofResources stack options resources).bind fun b =>
      (ofStacks options rest).bind fun bundles => Logged.pure ((stack, b) :: bundles)

/-- Whether a value is an object without members. -/
def isEmptyObject : Value → Bool
  | .object [] => true
  | _ => false

/-- The stacks of a document.  Where every member is an empty object, the members are the stacks,
    whatever they are called. -/
def stacksOf (members : List (String × Value)) : Except Problem (List (String × ResourceMap)) :=
  if members.all fun entry => isEmptyObject entry.2 then
    .ok (members.map fun entry => (entry.1, .empty))
  else Document.loadMembers members

/-- The bundles of a document; a document without members to speak of has no stacks. -/
def ofDocument (options : Options) : Value → Logged (List (String × Bundle))
  | .object members =>
    match stacksOf members with
    | .ok loaded => ofStacks options loaded
    | .error problem => .ofOutcome (.error (.problem problem))
  | _ => .ofOutcome (.error (.fault .lacksOperation))

/-! ## Resources in pairs

A list of pairs may give a resource a label that is not text.  No reference leads to such a
resource, no table can take its name from it, and no problem can be placed at it unless the label
counts as not given. -/

/-- Labelled records by key; a label that comes again keeps its place and takes the new record. -/
def labelled (pairs : List (Value × Value)) : Except Fault (List (Value × Value)) := do
  let keyed ← pairs.mapM fun entry => (·, entry) <$> entry.1.scalar?
  return (keyed.foldl
    (fun (acc : OrderedMap Scalar (Value × Value)) entry =>
      acc.upsert entry.1 fun held => ((held.map Prod.fst).getD entry.2.1, entry.2.2))
    .empty).values

/-- The failure at a label that is not text, for a failure at the empty name. -/
def unplaced (label : Value) : Failure → Failure
  | .problem p =>
    if p.resource = some "" ∧ !label.isVacant then .fault .wrongType else .problem p
  | .fault fault => .fault fault

/-- Records under their labels, up to the first bad one. -/
def readLabelled (stack : String) : List (Value × Value) → Outcome (List (Value × Resource))
  | [] => .ok []
  | (label, raw) :: rest =>
    match ResourceMap.readEntry (some stack) (label.text?.getD "", raw) with
    | .error problem =>
      .error (if label.text?.isSome then .problem problem else unplaced label (.problem problem))
    | .ok (_, resource) =>
      match readLabelled stack rest with
      | .error failure => .error failure
      | .ok resources => .ok ((label, resource) :: resources)

def declareLabelled (stack : String) (options : Options) (resources : ResourceMap) (b : Bundle)
    (entry : Value × Resource) : Logged Bundle :=
  match entry.1.text? with
  | some name => declare stack options resources b (name, entry.2)
  | none =>
    let declared := declare stack options resources b ("", entry.2)
    match declared.outcome with
    | .error failure => .ofOutcome (.error (unplaced entry.1 failure))
    | .ok _ =>
      if entry.2.kind = Resource.tableKind then .ofOutcome (.error (.fault .lacksOperation))
      else declared

def ofLabelled (stack : String) (options : Options) (entries : List (Value × Resource)) :
    Logged Bundle :=
  let resources := OrderedMap.ofList (entries.filterMap fun entry =>
    entry.1.text?.map (·, entry.2))
  (Logged.foldl (declareLabelled stack options resources) (empty stack) entries).bind fun b =>
    Logged.pure b.link

def ofValue (stack : String) (options : Options) (raw : Value) : Logged Bundle :=
  match raw with
  | .object members =>
    match ResourceMap.readMembers (some stack) members with
    | .ok resources => ofResources stack options resources
    | .error problem => .ofOutcome (.error (.problem problem))
  | _ =>
    match Outcome.ofShape (do labelled (← raw.pairs)) with
    | .error failure => .ofOutcome (.error failure)
    | .ok pairs =>
      match readLabelled stack pairs with
      | .error failure => .ofOutcome (.error failure)
      | .ok entries => ofLabelled stack options entries

end Bundle

end ResourceGraph
