import ResourceGraph.Proofs.KeyedMaps
import ResourceGraph.Proofs.Reading

/-! # Keys of declared tables

A table and each of its indexes have a key schema, whose entries take their types from one list of
definitions.  When is a table accepted, and what is it then?

An outcome that is settled, `Settles`, is a success with a given property if a condition holds,
and a malformed key schema if not.  There is a lemma of this form for each reader,
`settles_readType` and so on up to `settles_ofResource`, and since `Settles.mapM` takes the form
through lists, success and refusal never have to be proved apart.
-/

namespace ResourceGraph

/-! ## Lists of objects -/

/-- A list of objects, or nothing at all. -/
def Value.IsListing (v : Value) : Prop :=
  v = .null ∨ ∃ records : List (List (String × Value)), v = .array (records.map .object)

/-- The objects in a list. -/
def Value.records : Value → List (List (String × Value))
  | .array items => items.filterMap Value.members?
  | _ => []

theorem Value.records_array (records : List (List (String × Value))) :
    (Value.array (records.map .object)).records = records := by
  rw [Value.records, List.filterMap_map]
  exact List.filterMap_some

theorem Value.IsListing.itemsIfGiven_eq {v : Value} (listing : v.IsListing) :
    v.itemsIfGiven = .ok (v.records.map .object) := by
  rcases listing with rfl | ⟨records, rfl⟩
  · rfl
  · rw [records_array]
    cases records with
    | nil => rfl
    | cons record rest => rfl

/-! ## Outcomes that are settled -/

/-- A result has a property, and what it was made of is complete; or that is incomplete, and a
    malformed key schema is reported at the resource. -/
inductive Settles {α : Type} (resource : Option String) (complete : Prop) (P : α → Prop) :
    Outcome α → Prop where
  | accepted {a : α} (h_complete : complete) (h_a : P a) : Settles resource complete P (.ok a)
  | malformed {cause : Cause} (incomplete : ¬ complete) (kind : cause.kind = .malformedKeySchema) :
      Settles resource complete P (.error (.problem ⟨cause, none, resource⟩))

/-- What settles each item of a list settles the list. -/
theorem Settles.mapM {α β : Type} {resource : Option String} {complete : α → Prop}
    {made : α → β → Prop} {f : α → Outcome β} {items : List α}
    (h_each : ∀ a ∈ items, Settles resource (complete a) (made a) (f a)) :
    Settles resource (∀ a ∈ items, complete a) (List.Forall₂ made items) (items.mapM f) := by
  cases h_read : items.mapM f with
  | error failure =>
    obtain ⟨before, a, after, rfl, -, h_failed⟩ := mapM_eq_error_iff.1 h_read
    have h_a := h_each a (by simp)
    rw [h_failed] at h_a
    cases h_a with
    | malformed incomplete kind => exact .malformed (fun all => incomplete (all a (by simp))) kind
  | ok results =>
    have h_results := mapM_eq_ok_iff.1 h_read
    clear h_read
    induction h_results with
    | nil => exact .accepted (List.forall_mem_nil _) .nil
    | @cons a b rest _ h_first _ ih =>
      rw [List.forall_mem_cons] at h_each
      obtain ⟨h_a, h_rest⟩ := h_each
      rw [h_first] at h_a
      cases h_a with
      | accepted complete_a made_a =>
        cases ih h_rest with
        | accepted complete_rest made_rest =>
          exact .accepted (List.forall_mem_cons.2 ⟨complete_a, complete_rest⟩)
            (.cons made_a made_rest)

/-! ## Key schemas -/

/-- The word for a role. -/
def KeyRole.name : KeyRole → String
  | partition => "HASH"
  | sort => "RANGE"

theorem KeyRole.ofName?_eq_some_iff {name : String} {role : KeyRole} :
    ofName? name = some role ↔ name = role.name := by
  unfold ofName?
  by_cases h_partition : name = "HASH"
  · cases role <;> simp [KeyRole.name, h_partition]
  · by_cases h_sort : name = "RANGE" <;> cases role <;> simp [KeyRole.name, h_partition, h_sort]

theorem AttributeType.ofLetter?_eq_some_iff {letter : String} {type : AttributeType} :
    ofLetter? letter = some type ↔ letter = type.letter := by
  constructor
  · intro found
    have h_found := List.find?_some (p := fun t : AttributeType => decide (t.letter = letter)) found
    exact (of_decide_eq_true h_found).symm
  · rintro rfl
    exact ofLetter?_letter type

namespace KeySchema

/-- A definition or an entry of a key schema is about an attribute. -/
def Names (name : String) (record : List (String × Value)) : Prop :=
  Value.member record "AttributeName" = .string name

def HasRole (role : KeyRole) (entry : List (String × Value)) : Prop :=
  Value.member entry "KeyType" = .string role.name

/-- A value lists records that are about attributes. -/
structure ListsAttributes (v : Value) : Prop where
  listing : v.IsListing
  named : ∀ record ∈ v.records, ∃ name, Names name record

variable (definitions schema : List (List (String × Value)))

/-- The type of an attribute is the type that its last definition gives. -/
def Defines (name : String) (type : AttributeType) : Prop :=
  ∃ definition, IsLast (Names name) definitions definition ∧
    Value.member definition "AttributeType" = .string type.letter

/-- An entry is about a defined attribute and has a role. -/
structure IsKey (entry : List (String × Value)) : Prop where
  defined : ∃ name type, Names name entry ∧ Defines definitions name type
  role : ∃ role, HasRole role entry

/-- All entries of a schema are keys. -/
def IsComplete : Prop := ∀ entry ∈ schema, IsKey definitions entry

def HasPartition : Prop := ∃ entry ∈ schema, HasRole .partition entry

/-- An entry makes a key of a role. -/
structure Makes (entry : List (String × Value)) (key : KeyRole × TableKey) : Prop where
  defined : ∃ name, Names name entry ∧ key.2.name = .string name ∧
    Defines definitions name key.2.type
  role : HasRole key.1 entry

/-- The key of a role is the one that the last entry of the role makes, and there is none if no
    entry has the role. -/
inductive KeyOf (role : KeyRole) : Option TableKey → Prop where
  | last {entry : List (String × Value)} {key : TableKey}
      (last : IsLast (HasRole role) schema entry) (makes : Makes definitions entry (role, key)) :
      KeyOf role (some key)
  | absent (none_has : ∀ entry ∈ schema, ¬ HasRole role entry) : KeyOf role none

structure KeysOf (keys : KeySchema) : Prop where
  partition : KeyOf definitions schema .partition keys.partition
  sort : KeyOf definitions schema .sort keys.sort

variable {definitions schema} {entry : List (String × Value)} {name : String}
  {role : KeyRole} {v : Value}

/-! ### Definitions -/

theorem Names.unique {other : String} (names : Names name entry) (h_other : Names other entry) :
    name = other := by
  rw [Names, names, Value.string.injEq] at h_other
  exact h_other

theorem Names.scalar?_eq (names : Names name entry) :
    (Value.member entry "AttributeName").scalar? = .ok (.text name) := by
  rw [names]
  rfl

/-- A map holds the last definition of every attribute. -/
def Holds (m : AttributeDefinitions) (definitions : List (List (String × Value))) : Prop :=
  ∀ name definition,
    m.get? (.text name) = some definition ↔ IsLast (Names name) definitions definition

/-- The key under which a definition is kept. -/
def keyOf (definition : List (String × Value)) : Scalar :=
  match Value.member definition "AttributeName" with
  | .string name => .text name
  | _ => .null

theorem keyOf_eq_text_iff : keyOf entry = .text name ↔ Names name entry := by
  unfold keyOf Names
  split
  next other h_name => rw [h_name, Scalar.text.injEq, Value.string.injEq]
  next h_other => exact ⟨nofun, fun h_name => absurd h_name (h_other name)⟩

theorem readEntries_definitions {records : List (List (String × Value))}
    (named : ∀ record ∈ records, ∃ name, Names name record) :
    AttributeDefinitions.readEntries (records.map .object) =
      .ok (records.map fun record => (keyOf record, record)) := by
  induction records with
  | nil => rfl
  | cons record rest ih =>
    obtain ⟨⟨name, h_name⟩, h_rest⟩ := List.forall_mem_cons.1 named
    rw [List.map_cons, AttributeDefinitions.readEntries, AttributeDefinitions.readEntry,
      h_name.scalar?_eq]
    dsimp only
    rw [ih h_rest, List.map_cons, keyOf_eq_text_iff.2 h_name]

/-- Definitions are read, and the last one of an attribute is kept. -/
theorem exists_read_definitions (lists : ListsAttributes v) :
    ∃ m, AttributeDefinitions.read v = .ok m ∧ Holds m v.records := by
  refine ⟨OrderedMap.ofList (v.records.map fun record => (keyOf record, record)), ?_, ?_⟩
  · rw [AttributeDefinitions.read, lists.listing.itemsIfGiven_eq]
    dsimp only
    rw [readEntries_definitions lists.named]
  · intro name definition
    have h_latest := (OrderedMap.Latest.empty keyOf).insertAll v.records
    rw [OrderedMap.ofList, h_latest.get?, List.nil_append, getLast?_filter_eq_some_iff_isLast]
    simp only [keyOf_eq_text_iff]

/-! ### Entries -/

theorem settles_readType (resource : Option String) (definition : List (String × Value)) :
    Settles resource (∃ type : AttributeType,
        Value.member definition "AttributeType" = .string type.letter)
      (fun type => Value.member definition "AttributeType" = .string type.letter)
      (readType resource definition) := by
  unfold readType
  dsimp only
  split
  next type h_type =>
    obtain ⟨letter, h_letter, h_found⟩ := Option.bind_eq_some_iff.1 h_type
    rw [Value.text?_eq_some_iff] at h_letter
    rw [AttributeType.ofLetter?_eq_some_iff] at h_found
    subst h_found
    exact .accepted ⟨type, h_letter⟩ h_letter
  next h_none =>
    refine .malformed ?_ rfl
    rintro ⟨type, h_type⟩
    simp [h_type, AttributeType.ofLetter?_letter] at h_none

theorem settles_readRole (resource : Option String) (subject : Value)
    (entry : List (String × Value)) :
    Settles resource (∃ role, HasRole role entry) (fun role => HasRole role entry)
      (readRole resource subject entry) := by
  unfold readRole
  dsimp only
  split
  next role h_role =>
    obtain ⟨word, h_word, h_found⟩ := Option.bind_eq_some_iff.1 h_role
    rw [Value.text?_eq_some_iff] at h_word
    rw [KeyRole.ofName?_eq_some_iff] at h_found
    subst h_found
    exact .accepted ⟨role, h_word⟩ h_word
  next h_none =>
    refine .malformed ?_ rfl
    rintro ⟨role, h_role⟩
    rw [HasRole] at h_role
    simp [h_role, KeyRole.ofName?_eq_some_iff.2 rfl] at h_none

theorem settles_readEntry (resource : Option String) {m : AttributeDefinitions}
    (holds : Holds m definitions) (named : ∃ name, Names name entry) :
    Settles resource (IsKey definitions entry) (Makes definitions entry)
      (readEntry resource m (.object entry)) := by
  obtain ⟨name, names⟩ := named
  rw [readEntry, names.scalar?_eq]
  dsimp only
  cases h_definition : m.get? (.text name) with
  | none =>
    refine .malformed ?_ rfl
    rintro ⟨⟨other, type, h_other, definition, last, -⟩, -⟩
    rw [names.unique h_other, (holds other definition).2 last] at h_definition
    cases h_definition
  | some definition =>
    have last := (holds name definition).1 h_definition
    dsimp only
    have h_type := settles_readType resource definition
    generalize readType resource definition = type at h_type
    cases h_type with
    | malformed untyped kind =>
      refine .malformed ?_ kind
      rintro ⟨⟨other, type, h_other, definition', last', h_type⟩, -⟩
      rw [← names.unique h_other, ← holds, h_definition, Option.some.injEq] at last'
      exact untyped ⟨type, last' ▸ h_type⟩
    | accepted typed h_type =>
      dsimp only
      have h_role := settles_readRole resource (Value.member entry "AttributeName") entry
      generalize readRole resource (Value.member entry "AttributeName") entry = role at h_role
      cases h_role with
      | malformed h_none kind => exact .malformed (fun isKey => h_none isKey.role) kind
      | accepted h_some h_role =>
        have defines : Defines definitions name _ := ⟨definition, last, h_type⟩
        exact .accepted ⟨⟨name, _, names, defines⟩, h_some⟩ ⟨⟨name, names, names, defines⟩, h_role⟩

/-! ### Schemas -/

theorem lastOfRole_cons (key : KeyRole × TableKey) (keys : List (KeyRole × TableKey)) :
    lastOfRole role (key :: keys) =
      (lastOfRole role keys).or (if key.1 = role then some key.2 else none) := by
  unfold lastOfRole
  by_cases h_role : key.1 = role
  · simp [h_role, List.getLast?_cons]
  · simp [h_role]

theorem keyOf_lastOfRole {keys : List (KeyRole × TableKey)}
    (makes : List.Forall₂ (Makes definitions) schema keys) (role : KeyRole) :
    KeyOf definitions schema role (lastOfRole role keys) := by
  induction makes with
  | nil => exact .absent (List.forall_mem_nil _)
  | @cons entry key rest keys h_first _ ih =>
    rw [lastOfRole_cons]
    generalize lastOfRole role keys = found at ih
    cases ih with
    | @last later key' last h_key =>
      obtain ⟨before, after, rfl, h_role, h_after⟩ := last
      exact .last ⟨entry :: before, after, rfl, h_role, h_after⟩ h_key
    | absent none_has =>
      by_cases h_role : key.1 = role
      · subst h_role
        simp only [if_true, Option.none_or]
        exact .last ⟨[], rest, rfl, h_first.role, none_has⟩ h_first
      · rw [if_neg h_role]
        refine .absent (List.forall_mem_cons.2 ⟨fun h_other => h_role ?_, none_has⟩)
        have h_same := h_first.role.symm.trans h_other
        revert h_same
        cases key.1 <;> cases role <;> simp [KeyRole.name]

theorem settles_readEntries (resource : Option String) {m : AttributeDefinitions}
    (holds : Holds m definitions) (named : ∀ entry ∈ schema, ∃ name, Names name entry) :
    Settles resource (IsComplete definitions schema) (List.Forall₂ (Makes definitions) schema)
      (readEntries resource m (schema.map .object)) := by
  rw [readEntries_eq_mapM, List.mapM_map]
  exact Settles.mapM fun entry member => settles_readEntry resource holds (named entry member)

theorem settles_readWith (resource : Option String) {m : AttributeDefinitions}
    (holds : Holds m definitions) (lists : ListsAttributes v) :
    Settles resource (IsComplete definitions v.records) (KeysOf definitions v.records)
      (readWith resource m v) := by
  have h_entries := settles_readEntries resource holds lists.named
  rw [readWith, lists.listing.itemsIfGiven_eq]
  dsimp only
  generalize readEntries resource m _ = keys at h_entries ⊢
  cases h_entries with
  | malformed incomplete kind => exact .malformed incomplete kind
  | accepted complete makes =>
    exact .accepted complete ⟨keyOf_lastOfRole makes .partition, keyOf_lastOfRole makes .sort⟩

theorem KeyOf.hasPartition_iff {key : Option TableKey}
    (keyOf : KeyOf definitions schema .partition key) : HasPartition schema ↔ key ≠ none := by
  cases keyOf with
  | last last _ =>
    obtain ⟨before, after, rfl, h_role, -⟩ := last
    exact iff_of_true ⟨_, by simp, h_role⟩ nofun
  | absent none_has =>
    exact iff_of_false (fun ⟨entry, member, h_role⟩ => none_has entry member h_role)
      fun given => given rfl

end KeySchema

open KeySchema (HasPartition ListsAttributes KeyOf Holds settles_readWith)

/-! ## Indexes -/

namespace SecondaryIndex

/-- The entries of the key schema of an index. -/
def entries (declared : List (String × Value)) : List (List (String × Value)) :=
  (Value.member declared "KeySchema").records

section

variable (definitions : List (List (String × Value))) (declared : List (String × Value))
  (index : SecondaryIndex)

/-- What an index keeps of its declaration apart from its keys. -/
structure IsNamed : Prop where
  name : index.name = Value.member declared "IndexName"
  projection : index.projection = readProjection declared

/-- A local index has a sort key of its own and no partition key. -/
structure IsLocal : Prop extends IsNamed declared index where
  partitionKey : index.partitionKey = none
  sortKey : KeyOf definitions (entries declared) .sort index.sortKey

/-- A global index has both keys of its own, the partition key in any case. -/
structure IsGlobal : Prop extends IsNamed declared index where
  hasPartition : index.partitionKey ≠ none
  partitionKey : KeyOf definitions (entries declared) .partition index.partitionKey
  sortKey : KeyOf definitions (entries declared) .sort index.sortKey

end

variable {definitions : List (List (String × Value))} {m : AttributeDefinitions}
  {declared : List (String × Value)}

theorem settles_readLocal (resource : String) (holds : Holds m definitions)
    (lists : ListsAttributes (Value.member declared "KeySchema")) :
    Settles (some resource) (KeySchema.IsComplete definitions (entries declared))
      (IsLocal definitions declared) (readLocal resource m (.object declared)) := by
  have h_keys := settles_readWith (some resource) holds lists
  rw [readLocal]
  generalize KeySchema.readWith (some resource) m _ = keys at h_keys ⊢
  cases h_keys with
  | malformed incomplete kind => exact .malformed incomplete kind
  | accepted complete h_keys => exact .accepted complete ⟨⟨rfl, rfl⟩, rfl, h_keys.sort⟩

theorem settles_readGlobal (resource : String) (holds : Holds m definitions)
    (lists : ListsAttributes (Value.member declared "KeySchema")) :
    Settles (some resource)
      (KeySchema.IsComplete definitions (entries declared) ∧ HasPartition (entries declared))
      (IsGlobal definitions declared) (readGlobal resource m (.object declared)) := by
  have h_keys := settles_readWith (some resource) holds lists
  rw [readGlobal]
  generalize KeySchema.readWith (some resource) m _ = keys at h_keys ⊢
  cases h_keys with
  | malformed incomplete kind => exact .malformed (fun complete => incomplete complete.1) kind
  | @accepted keys complete h_keys =>
    have h_partition := h_keys.partition.hasPartition_iff
    obtain ⟨partition, sort⟩ := keys
    cases partition with
    | none => exact .malformed (fun complete => h_partition.1 complete.2 rfl) rfl
    | some partition =>
      exact .accepted ⟨complete, h_partition.2 nofun⟩
        ⟨⟨rfl, rfl⟩, nofun, h_keys.partition, h_keys.sort⟩

theorem settles_readAll {resource : String} {complete : List (String × Value) → Prop}
    {made : List (String × Value) → SecondaryIndex → Prop}
    {read : Value → Outcome SecondaryIndex} {v : Value} (listing : v.IsListing)
    (h_read : ∀ declared ∈ v.records,
      Settles (some resource) (complete declared) (made declared) (read (.object declared))) :
    Settles (some resource) (∀ declared ∈ v.records, complete declared)
      (List.Forall₂ made v.records) (readAll read v) := by
  rw [readAll, listing.itemsIfGiven_eq]
  dsimp only
  rw [readEach_eq_mapM, List.mapM_map]
  exact Settles.mapM h_read

end SecondaryIndex

/-! ## Tables -/

namespace Table

open SecondaryIndex (IsLocal IsGlobal entries settles_readLocal settles_readGlobal settles_readAll)

section

variable (resource : Resource)

def definitions : List (List (String × Value)) :=
  (resource.property "AttributeDefinitions").records

/-- The entries of the key schema of a table. -/
def keyEntries : List (List (String × Value)) := (resource.property "KeySchema").records

def localDeclarations : List (List (String × Value)) :=
  (resource.property "LocalSecondaryIndexes").records

def globalDeclarations : List (List (String × Value)) :=
  (resource.property "GlobalSecondaryIndexes").records

/-- The parts of a table are lists of objects or not there, keys and definitions are about
    attributes, and the time to live is an object or not there. -/
structure IsShaped : Prop where
  definitions : ListsAttributes (resource.property "AttributeDefinitions")
  keys : ListsAttributes (resource.property "KeySchema")
  locals : (resource.property "LocalSecondaryIndexes").IsListing
  globals : (resource.property "GlobalSecondaryIndexes").IsListing
  localKeys : ∀ declared ∈ localDeclarations resource,
    ListsAttributes (Value.member declared "KeySchema")
  globalKeys : ∀ declared ∈ globalDeclarations resource,
    ListsAttributes (Value.member declared "KeySchema")
  timeToLive : resource.property "TimeToLiveSpecification" = .null ∨
    ∃ members, resource.property "TimeToLiveSpecification" = .object members

/-- Every entry of a key schema is a key, and a table and its global indexes have partition keys. -/
structure IsComplete : Prop where
  keys : KeySchema.IsComplete (definitions resource) (keyEntries resource)
  partition : HasPartition (keyEntries resource)
  locals : ∀ declared ∈ localDeclarations resource,
    KeySchema.IsComplete (definitions resource) (entries declared)
  globals : ∀ declared ∈ globalDeclarations resource,
    KeySchema.IsComplete (definitions resource) (entries declared) ∧ HasPartition (entries declared)

/-- The table that a resource declares, with an index for each index that it declares, in order. -/
structure IsTable (name suffix : String) (t : Table) : Prop where
  name : t.name = deriveName name suffix
  partitionKey : KeyOf (definitions resource) (keyEntries resource) .partition (some t.partitionKey)
  sortKey : KeyOf (definitions resource) (keyEntries resource) .sort t.sortKey
  localIndexes : List.Forall₂ (IsLocal (definitions resource)) (localDeclarations resource)
    t.localIndexes
  globalIndexes : List.Forall₂ (IsGlobal (definitions resource)) (globalDeclarations resource)
    t.globalIndexes
  resolverNames : t.resolverNames = []
  secondaryIndexResolverNames : t.secondaryIndexResolverNames = []

end

variable {resource : Resource}

theorem IsShaped.exists_timeToLive (shaped : IsShaped resource) :
    ∃ ttl, TimeToLive.read (resource.property "TimeToLiveSpecification") = .ok ttl := by
  rcases shaped.timeToLive with h_ttl | ⟨members, h_ttl⟩
  · exact ⟨none, by rw [h_ttl]; rfl⟩
  · rw [h_ttl, TimeToLive.read]
    split <;> exact ⟨_, rfl⟩

theorem settles_ofResource (name suffix : String) (shaped : IsShaped resource) :
    Settles (some name) (IsComplete resource) (IsTable resource name suffix)
      (ofResource name suffix resource) := by
  obtain ⟨m, h_definitions, holds⟩ := KeySchema.exists_read_definitions shaped.definitions
  obtain ⟨ttl, h_ttl⟩ := shaped.exists_timeToLive
  have h_keys := settles_readWith (some name) holds shaped.keys
  have h_locals := settles_readAll shaped.locals fun declared member =>
    settles_readLocal name holds (shaped.localKeys declared member)
  have h_globals := settles_readAll shaped.globals fun declared member =>
    settles_readGlobal name holds (shaped.globalKeys declared member)
  rw [ofResource, h_definitions, h_ttl]
  dsimp only
  generalize KeySchema.readWith (some name) m _ = keys at h_keys ⊢
  generalize SecondaryIndex.readAll _ (resource.property "LocalSecondaryIndexes") = locals
    at h_locals ⊢
  generalize SecondaryIndex.readAll _ (resource.property "GlobalSecondaryIndexes") = globals
    at h_globals ⊢
  cases h_keys with
  | malformed incomplete kind => exact .malformed (fun complete => incomplete complete.keys) kind
  | @accepted keys complete h_keys =>
    have h_partition := h_keys.partition.hasPartition_iff
    obtain ⟨partition, sort⟩ := keys
    cases partition with
    | none => exact .malformed (fun complete => h_partition.1 complete.partition rfl) rfl
    | some partition =>
      cases h_locals with
      | malformed incomplete kind =>
        exact .malformed (fun complete => incomplete complete.locals) kind
      | accepted locals_complete h_locals =>
        cases h_globals with
        | malformed incomplete kind =>
          exact .malformed (fun complete => incomplete complete.globals) kind
        | accepted globals_complete h_globals =>
          exact .accepted ⟨complete, h_partition.2 nofun, locals_complete, globals_complete⟩
            ⟨rfl, h_keys.partition, h_keys.sort, h_locals, h_globals, rfl, rfl⟩

/-- A table is accepted if and only if all its key schemas are complete and a malformed one is
    reported otherwise, and what is accepted has the keys and the indexes that were declared. -/
theorem ofResource_exact (name suffix : String) (shaped : IsShaped resource) :
    ((∃ t, ofResource name suffix resource = .ok t) ↔ IsComplete resource) ∧
      (¬ IsComplete resource → ∃ cause,
        ofResource name suffix resource = .error (.problem ⟨cause, none, some name⟩) ∧
          cause.kind = .malformedKeySchema) ∧
      ∀ t, ofResource name suffix resource = .ok t → IsTable resource name suffix t := by
  have settles := settles_ofResource name suffix shaped
  generalize ofResource name suffix resource = outcome at settles
  cases settles with
  | accepted complete isTable =>
    refine ⟨iff_of_true ⟨_, rfl⟩ complete, fun incomplete => absurd complete incomplete, ?_⟩
    rintro _ ⟨⟩
    exact isTable
  | malformed incomplete kind =>
    exact ⟨iff_of_false nofun incomplete, fun _ => ⟨_, rfl, kind⟩, nofun⟩

/-! ## A small table -/

/-- Records about attributes, each with one more member. -/
def attributeList (member : String) (pairs : List (String × String)) : Value :=
  .array ((pairs.map fun pair =>
    [("AttributeName", .string pair.1), (member, .string pair.2)]).map .object)

theorem listsAttributes_attributeList (member : String) (pairs : List (String × String)) :
    ListsAttributes (attributeList member pairs) where
  listing := Or.inr ⟨_, rfl⟩
  named := by
    rw [attributeList, Value.records_array, List.forall_mem_map]
    exact fun pair _ => ⟨pair.1, rfl⟩

/-- A table in which an attribute is defined twice and two entries have the same role. -/
def versionedResource : Resource :=
  ⟨Resource.tableKind,
    [("AttributeDefinitions", attributeList "AttributeType"
        [("id", "N"), ("slug", "S"), ("id", "S"), ("version", "N"), ("owner", "B")]),
      ("KeySchema", attributeList "KeyType"
        [("slug", "HASH"), ("version", "RANGE"), ("id", "HASH")]),
      ("LocalSecondaryIndexes", .array [.object [("IndexName", .string "bySlug"),
        ("KeySchema", attributeList "KeyType" [("id", "HASH"), ("slug", "RANGE")])]]),
      ("GlobalSecondaryIndexes", .array [.object [("IndexName", .string "byOwner"),
        ("KeySchema", attributeList "KeyType" [("owner", "HASH")])]]),
      ("TimeToLiveSpecification", .object [("AttributeName", .string "expires")])], []⟩

theorem isShaped_versionedResource : IsShaped versionedResource where
  definitions := listsAttributes_attributeList _ _
  keys := listsAttributes_attributeList _ _
  locals := Or.inr ⟨[_], rfl⟩
  globals := Or.inr ⟨[_], rfl⟩
  localKeys := List.forall_mem_singleton.2 (listsAttributes_attributeList _ _)
  globalKeys := List.forall_mem_singleton.2 (listsAttributes_attributeList _ _)
  timeToLive := Or.inr ⟨_, rfl⟩

theorem versionedResource_exact :
    IsShaped versionedResource ∧ IsComplete versionedResource ∧
      ∃ t, ofResource "PostTable8A" "Table" versionedResource = .ok t ∧
        t.partitionKey = ⟨.string "id", .text⟩ ∧
        IsTable versionedResource "PostTable8A" "Table" t := by
  have h_read : ∃ t, ofResource "PostTable8A" "Table" versionedResource = .ok t ∧
      t.partitionKey = ⟨.string "id", .text⟩ := ⟨_, rfl, rfl⟩
  obtain ⟨t, h_t, h_partition⟩ := h_read
  obtain ⟨h_complete, -, h_table⟩ :=
    ofResource_exact "PostTable8A" "Table" isShaped_versionedResource
  exact ⟨isShaped_versionedResource, h_complete.1 ⟨t, h_t⟩, t, h_t, h_partition, h_table t h_t⟩

end Table

end ResourceGraph
