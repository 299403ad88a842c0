import ResourceGraph.Proofs.Declarations
import ResourceGraph.Proofs.KeyedMaps

/-! # Classification

Where a resolver is kept is decided by the data sources of its stages, tables before endpoints and
endpoints before functions.

* `Slot` — a bucket with the key in it, and the table recorded beside a secondary-index resolver.
* `Resolver.Leads`, `Resolver.Lacks` — the first binding of its kind, and kinds without a binding.
* `Resolver.Belongs` — the slot of a resolver by these, and by nothing else that its stages say.
* `Bundle.Stores` — a bundle with a resolver in a slot and everything else as it was.
-/

namespace ResourceGraph

/-! ## One write to a map -/

/-- A map is another one in which one key holds a new value, at the place that the key had. -/
structure OrderedMap.Written {κ β : Type} [DecidableEq κ] (m n : OrderedMap κ β) (key : κ)
    (value : β) : Prop where
  here : n.get? key = some value
  elsewhere : ∀ other, other ≠ key → n.get? other = m.get? other
  keys : n.keys = if key ∈ m.keys then m.keys else m.keys ++ [key]

theorem OrderedMap.written_upsert {κ β : Type} [DecidableEq κ] (m : OrderedMap κ β) (key : κ)
    (f : Option β → β) : m.Written (m.upsert key f) key (f (m.get? key)) where
  here := by simp [get?_upsert]
  elsewhere other h_other := by simp [get?_upsert, h_other]
  keys := keys_upsert m key f

theorem OrderedMap.written_insert {κ β : Type} [DecidableEq κ] (m : OrderedMap κ β) (key : κ)
    (value : β) : m.Written (m.insert key value) key value :=
  m.written_upsert key fun _ => value

/-! ## Slots -/

/-- A place for a resolver in a bundle. -/
inductive Slot where
  | model (field : String)
  | secondaryIndex (key : String) (table : Option String)
  | http (endpoint : Option String)
  | function (name : Option String)
  | dropped (key : String)

def Slot.bucket : Slot → Bucket
  | model _ => .model
  | secondaryIndex _ _ => .secondaryIndex
  | http _ => .http
  | function _ => .function
  | dropped _ => .dropped

namespace Resolver

/-- A stage has that binding, and no stage before it has one of the same kind. -/
def Leads (r : Resolver) (binding : Binding) : Prop :=
  ∃ before stage after, r.stages = before ++ stage :: after ∧ stage.binding = binding ∧
    ∀ earlier ∈ before, earlier.binding.kind ≠ binding.kind

/-- No stage has a binding of that kind. -/
def Lacks (r : Resolver) (kind : DataSourceKind) : Prop :=
  ∀ stage ∈ r.stages, stage.binding.kind ≠ kind

/-- The slot of a resolver: the first table decides, without tables the first endpoint, without
    either the first function. -/
inductive Belongs (roots : List String) (r : Resolver) : Slot → Prop where
  | model {table : Option String} (first : r.Leads (.dynamodb table)) (root : r.typeName ∈ roots) :
      Belongs roots r (.model r.fieldName)
  | secondaryIndex {table : Option String} (first : r.Leads (.dynamodb table))
      (nested : r.typeName ∉ roots) :
      Belongs roots r (.secondaryIndex (r.typeName ++ r.fieldName) table)
  | http {endpoint : Option String} (no_table : r.Lacks .dynamodb)
      (first : r.Leads (.http endpoint)) : Belongs roots r (.http endpoint)
  | function {name : Option String} (no_table : r.Lacks .dynamodb) (no_endpoint : r.Lacks .http)
      (first : r.Leads (.lambda name)) : Belongs roots r (.function name)
  | dropped (no_table : r.Lacks .dynamodb) (no_endpoint : r.Lacks .http)
      (no_function : r.Lacks .lambda) : Belongs roots r (.dropped (r.typeName ++ r.fieldName))

variable {r r' : Resolver} {kind : DataSourceKind} {binding : Binding} {roots roots' : List String}
  {place : Slot}

theorem lacks_iff : r.Lacks kind ↔ r.uses kind = false := by
  simp [Lacks, uses]

theorem leads_iff : r.Leads binding ↔ ∃ more, r.bindings binding.kind = binding :: more := by
  simp only [Leads, bindings, List.filter_map, List.map_eq_cons_iff, List.filter_eq_cons_iff,
    Function.comp_apply, decide_eq_true_eq]
  constructor
  · rintro ⟨before, stage, after, h_stages, h_binding, h_earlier⟩
    exact ⟨_, stage, _, ⟨before, after, h_stages, h_earlier, by rw [h_binding], rfl⟩, h_binding,
      rfl⟩
  · rintro ⟨_, stage, _, ⟨before, after, h_stages, h_earlier, -, -⟩, h_binding, -⟩
    exact ⟨before, stage, after, h_stages, h_binding, h_earlier⟩

theorem Leads.uses (first : r.Leads binding) : r.uses binding.kind = true := by
  obtain ⟨before, stage, after, h_stages, h_binding, -⟩ := first
  simp [Resolver.uses, h_stages, h_binding]

theorem Leads.head? (first : r.Leads binding) :
    (r.bindings binding.kind).head? = some binding := by
  obtain ⟨more, h_bindings⟩ := leads_iff.1 first
  rw [h_bindings, List.head?_cons]

/-- The slot that a resolver is filed in. -/
def slot (roots : List String) (r : Resolver) : Slot :=
  match r.bucket roots with
  | .model => .model r.fieldName
  | .secondaryIndex => .secondaryIndex r.key r.firstTable?
  | .http => .http r.firstEndpoint?
  | .function => .function r.firstFunction?
  | .dropped => .dropped r.key

theorem bucket_slot (roots : List String) (r : Resolver) :
    (r.slot roots).bucket = r.bucket roots := by
  unfold slot
  split <;> simp_all [Slot.bucket]

theorem belongs_slot (roots : List String) (r : Resolver) : r.Belongs roots (r.slot roots) := by
  have h_spec := r.bucket_spec roots
  unfold slot
  cases h_bucket : r.bucket roots <;> simp only [h_bucket] at h_spec ⊢
  case model => exact .model (leads_iff.2 (bindings_dynamodb h_spec.1)) h_spec.2
  case secondaryIndex => exact .secondaryIndex (leads_iff.2 (bindings_dynamodb h_spec.1)) h_spec.2
  case http => exact .http (lacks_iff.2 h_spec.1) (leads_iff.2 (bindings_http h_spec.2))
  case function =>
    exact .function (lacks_iff.2 h_spec.1) (lacks_iff.2 h_spec.2.1)
      (leads_iff.2 (bindings_lambda h_spec.2.2))
  case dropped =>
    exact .dropped (lacks_iff.2 h_spec.1) (lacks_iff.2 h_spec.2.1) (lacks_iff.2 h_spec.2.2)

/-- A resolver belongs in one slot only. -/
theorem Belongs.eq_slot (belongs : r.Belongs roots place) : place = r.slot roots := by
  cases belongs with
  | model first root =>
    have h_table : r.uses .dynamodb = true := first.uses
    simp [slot, bucket, h_table, root]
  | secondaryIndex first nested =>
    have h_table : r.uses .dynamodb = true := first.uses
    have h_first : (r.bindings .dynamodb).head? = _ := first.head?
    simp [slot, bucket, h_table, nested, key, firstTable?, h_first, Binding.table?]
  | http no_table first =>
    have h_endpoint : r.uses .http = true := first.uses
    have h_first : (r.bindings .http).head? = _ := first.head?
    simp [slot, bucket, lacks_iff.1 no_table, h_endpoint, firstEndpoint?, h_first,
      Binding.endpoint?]
  | function no_table no_endpoint first =>
    have h_function : r.uses .lambda = true := first.uses
    have h_first : (r.bindings .lambda).head? = _ := first.head?
    simp [slot, bucket, lacks_iff.1 no_table, lacks_iff.1 no_endpoint, h_function, firstFunction?,
      h_first, Binding.function?]
  | dropped no_table no_endpoint no_function =>
    simp [slot, bucket, lacks_iff.1 no_table, lacks_iff.1 no_endpoint, lacks_iff.1 no_function, key]

theorem belongs_iff : r.Belongs roots place ↔ place = r.slot roots := by
  constructor
  · exact Belongs.eq_slot
  · rintro rfl
    exact belongs_slot roots r

/-! ## What does not matter to the slot -/

/-- The bucket depends on the kinds among the stages and on whether the type is a root type. -/
theorem bucket_congr (h_kinds : ∀ kind, kind ≠ .none → (r'.Lacks kind ↔ r.Lacks kind))
    (h_root : r'.typeName ∈ roots' ↔ r.typeName ∈ roots) : r'.bucket roots' = r.bucket roots := by
  have h_uses : ∀ kind, kind ≠ .none → r'.uses kind = r.uses kind := by
    intro kind h_some
    have h_same := h_kinds kind h_some
    rw [lacks_iff, lacks_iff] at h_same
    cases h_left : r'.uses kind <;> cases h_right : r.uses kind <;> simp_all
  simp [bucket, h_uses, h_root]

/-- Stages without a data source do not count among the bindings of any other kind. -/
theorem bindings_congr (h_stages : r'.stages.filter (fun s => s.binding.kind ≠ .none) =
    r.stages.filter fun s => s.binding.kind ≠ .none) (h_kind : kind ≠ .none) :
    r'.bindings kind = r.bindings kind := by
  have h_bound : ∀ r : Resolver, r.bindings kind =
      ((r.stages.filter fun s => s.binding.kind ≠ .none).map Stage.binding).filter
        fun b => b.kind = kind := by
    intro r
    simp only [bindings, List.filter_map, List.filter_filter, Function.comp_def]
    congr 1
    refine List.filter_congr fun s _ => ?_
    by_cases h_here : s.binding.kind = kind
    · simp [h_here, h_kind]
    · simp [h_here]
  rw [h_bound r', h_bound r, h_stages]

theorem slot_congr (h_type : r'.typeName = r.typeName) (h_field : r'.fieldName = r.fieldName)
    (h_stages : r'.stages.filter (fun s => s.binding.kind ≠ .none) =
      r.stages.filter fun s => s.binding.kind ≠ .none) : r'.slot roots = r.slot roots := by
  have h_bindings : ∀ kind, kind ≠ .none → r'.bindings kind = r.bindings kind :=
    fun _ => bindings_congr h_stages
  have h_bucket : r'.bucket roots = r.bucket roots := by
    apply bucket_congr
    · intro kind h_kind
      rw [lacks_iff, lacks_iff, ← bindings_eq_nil_iff, ← bindings_eq_nil_iff, h_bindings kind h_kind]
    · rw [h_type]
  simp only [slot, h_bucket, h_field, key, h_type, firstTable?, firstEndpoint?, firstFunction?,
    h_bindings _ (by decide : DataSourceKind.dynamodb ≠ .none),
    h_bindings _ (by decide : DataSourceKind.http ≠ .none),
    h_bindings _ (by decide : DataSourceKind.lambda ≠ .none)]

end Resolver

/-! ## What filing changes -/

namespace Bundle

/-- A bundle is another one with a resolver in a slot: written over what a key of a resolver held,
    put at the end of what a key of a list held. -/
def Stores (r : Resolver) (b c : Bundle) : Slot → Prop
  | .model field => c = { b with models := c.models } ∧ b.models.Written c.models field r
  | .secondaryIndex key table =>
    c = { b with secondary := c.secondary, secondaryTables := c.secondaryTables } ∧
      b.secondary.Written c.secondary key r ∧
      b.secondaryTables.Written c.secondaryTables key table
  | .http endpoint =>
    c = { b with endpoints := c.endpoints } ∧
      b.endpoints.Written c.endpoints endpoint ((b.endpoints.get? endpoint).getD [] ++ [r])
  | .function name =>
    c = { b with functions := c.functions } ∧
      b.functions.Written c.functions name ((b.functions.get? name).getD [] ++ [r])
  | .dropped key => c = { b with dropped := c.dropped } ∧ b.dropped.Written c.dropped key r

theorem stores_slot (b : Bundle) (roots : List String) (r : Resolver) :
    b.Stores r (b.addResolver roots r) (r.slot roots) := by
  unfold addResolver Resolver.slot
  cases r.bucket roots with
  | model => exact ⟨rfl, b.models.written_insert _ _⟩
  | secondaryIndex =>
    exact ⟨rfl, b.secondary.written_insert _ _, b.secondaryTables.written_insert _ _⟩
  | http => exact ⟨rfl, b.endpoints.written_upsert _ _⟩
  | function => exact ⟨rfl, b.functions.written_upsert _ _⟩
  | dropped => exact ⟨rfl, b.dropped.written_insert _ _⟩

/-- A resolver is stored in the one slot where it belongs, with a warning if that is a model field
    that is taken.  The bucket depends on the kinds of data sources and the root types only, so the
    order and the repetition of stages do not matter to it; stages without a data source do not
    matter to the slot at all. -/
theorem addResolver_classifies (b : Bundle) (roots : List String) (r : Resolver) :
    (∃! slot, r.Belongs roots slot) ∧
      (∀ slot, r.Belongs roots slot →
        r.bucket roots = slot.bucket ∧ b.Stores r (b.addResolver roots r) slot ∧
          b.resolverWarnings roots r =
            if slot.bucket = .model ∧ r.fieldName ∈ b.models.keys then
              [.modelTwice b.name r.fieldName] else []) ∧
      (∀ (roots' : List String) (r' : Resolver),
        (∀ kind, kind ≠ .none → (r'.Lacks kind ↔ r.Lacks kind)) →
        (r'.typeName ∈ roots' ↔ r.typeName ∈ roots) → r'.bucket roots' = r.bucket roots) ∧
      (∀ stages, (∀ stage, stage ∈ stages ↔ stage ∈ r.stages) →
        { r with stages := stages }.bucket roots = r.bucket roots) ∧
      ∀ stages, stages.filter (fun s => s.binding.kind ≠ .none) =
          r.stages.filter (fun s => s.binding.kind ≠ .none) →
        ∀ slot, { r with stages := stages }.Belongs roots slot ↔ r.Belongs roots slot := by
  refine ⟨⟨r.slot roots, Resolver.belongs_slot roots r, ?_⟩, ?_, ?_, ?_, ?_⟩
  · intro slot belongs
    exact Resolver.belongs_iff.1 belongs
  · intro slot belongs
    rw [Resolver.belongs_iff] at belongs
    subst belongs
    refine ⟨(Resolver.bucket_slot roots r).symm, b.stores_slot roots r, ?_⟩
    simp only [resolverWarnings, Resolver.bucket_slot, OrderedMap.contains_iff_mem_keys]
  · exact fun _ _ => Resolver.bucket_congr
  · intro stages h_same
    apply Resolver.bucket_congr
    · intro kind _
      simp only [Resolver.Lacks, h_same]
    · exact Iff.rfl
  · intro stages h_bound slot
    have h_slot : { r with stages := stages }.slot roots = r.slot roots :=
      Resolver.slot_congr rfl rfl h_bound
    rw [Resolver.belongs_iff, Resolver.belongs_iff, h_slot]

/-- A resolver with an endpoint and a stage without a data source before its tables. -/
def mixedResolver : Resolver :=
  boundResolver "Query" "post"
    [.http (some "https://posts"), .none, .dynamodb (some "PostTable"), .dynamodb (some "TagTable")]

def postBundle : Bundle :=
  (empty "Blog").addResolver ["Query"] (boundResolver "Query" "post" [.dynamodb (some "TagTable")])

theorem mixedResolver_classified :
    mixedResolver.Belongs ["Query"] (.model "post") ∧
      mixedResolver.bucket ["Query"] = .model ∧
      postBundle.Stores mixedResolver (postBundle.addResolver ["Query"] mixedResolver)
        (.model "post") ∧
      postBundle.resolverWarnings ["Query"] mixedResolver = [.modelTwice "Blog" "post"] ∧
      (boundResolver "Root" "page" [.dynamodb none, .http none]).bucket ["Root"] = .model ∧
      { mixedResolver with stages := mixedResolver.stages.reverse }.bucket ["Query"] = .model ∧
      { mixedResolver with stages := mixedResolver.stages.eraseIdx 1 }.Belongs ["Query"]
        (.model "post") := by
  have belongs : mixedResolver.Belongs ["Query"] (.model "post") := Resolver.belongs_iff.2 rfl
  obtain ⟨-, h_slot, h_kinds, h_members, h_bound⟩ :=
    addResolver_classifies postBundle ["Query"] mixedResolver
  obtain ⟨h_bucket, h_stores, h_warnings⟩ := h_slot _ belongs
  rw [if_pos ⟨rfl, by decide⟩] at h_warnings
  refine ⟨belongs, h_bucket, h_stores, h_warnings, ?_, ?_, ?_⟩
  · rw [h_kinds ["Root"] _ _ (by decide), h_bucket]
    · rfl
    · intro kind h_kind
      rw [Resolver.lacks_iff, Resolver.lacks_iff]
      cases kind with
      | dynamodb | lambda | http => decide
      | none => exact absurd rfl h_kind
  · rw [h_members _ fun _ => List.mem_reverse, h_bucket]
    rfl
  · exact (h_bound (mixedResolver.stages.eraseIdx 1) rfl _).2 belongs

end Bundle

end ResourceGraph
