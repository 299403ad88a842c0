import Mathlib.Data.List.Basic
import ResourceGraph.OrderedMap

/-! # Keyed maps

What an ordered map is after a run of writes, when each item is written under a key of its own.

* `Latest` — items written one over the other: keys where they first came, values that came last.
  `Latest.insert` is one more write, and `Latest.mem_values_iff` tells which items are still
  there.
* `Grouped` — items collected in lists by target, in order of arrival.  `Grouped.collect` is one
  more item, and by `Grouped.flatten_perm` none is lost.
* `Every` — a property of all entries, kept by every way of writing that keeps it entry by entry.
* `IsLast` — an item is the last one of a list with a property.
-/

namespace ResourceGraph

/-! ## The last item of a list -/

section

variable {α β : Type} {items : List α}

/-- The last value that a function finds in a list is found at one item and not after it. -/
theorem getLast?_filterMap_eq_some_iff {f : α → Option β} {value : β} :
    (items.filterMap f).getLast? = some value ↔
      ∃ before a after, items = before ++ a :: after ∧ f a = some value ∧
        ∀ later ∈ after, f later = none := by
  rw [List.getLast?_eq_some_iff]
  constructor
  · rintro ⟨found, h_found⟩
    obtain ⟨before, rest, rfl, -, h_rest⟩ := List.filterMap_eq_append_iff.1 h_found
    obtain ⟨skipped, a, after, rfl, -, h_a, h_after⟩ := List.filterMap_eq_cons_iff.1 h_rest
    exact ⟨before ++ skipped, a, after, by simp, h_a, List.filterMap_eq_nil_iff.1 h_after⟩
  · rintro ⟨before, a, after, rfl, h_a, h_after⟩
    refine ⟨before.filterMap f, ?_⟩
    rw [List.filterMap_append, List.filterMap_cons_some h_a, List.filterMap_eq_nil_iff.2 h_after]

/-- An item has a property, and no later item of the list has it. -/
def IsLast (P : α → Prop) (items : List α) (a : α) : Prop :=
  ∃ before after, items = before ++ a :: after ∧ P a ∧ ∀ later ∈ after, ¬ P later

theorem getLast?_filter_eq_some_iff_isLast {P : α → Prop} [DecidablePred P] {a : α} :
    (items.filter fun b => P b).getLast? = some a ↔ IsLast P items a := by
  rw [← List.filterMap_eq_filter, getLast?_filterMap_eq_some_iff]
  constructor
  · rintro ⟨before, b, after, rfl, h_b, h_after⟩
    obtain ⟨rfl, h_P⟩ := Option.guard_eq_some_iff.1 h_b
    exact ⟨before, after, rfl, of_decide_eq_true h_P, fun later member => by
      simpa using h_after later member⟩
  · rintro ⟨before, after, rfl, h_a, h_after⟩
    exact ⟨before, a, after, rfl, by simpa using h_a, fun later member => by
      simpa using h_after later member⟩

end

namespace OrderedMap

variable {κ β γ : Type} [DecidableEq κ]

/-! ## Views of the same map -/

theorem entries_eq_filterMap_keys (m : OrderedMap κ β) :
    m.entries = m.keys.filterMap fun key => (m.get? key).map (key, ·) := by
  have h_each : ∀ entry ∈ m.entries, (m.get? entry.1).map (entry.1, ·) = some entry := by
    intro entry member
    rw [get?_eq_some_iff.2 member]
    rfl
  unfold keys
  rw [List.filterMap_map, Function.comp_def, List.filterMap_congr h_each, List.filterMap_some]

theorem ext_get? {m n : OrderedMap κ β} (h_keys : m.keys = n.keys)
    (h_get? : ∀ key, m.get? key = n.get? key) : m = n := by
  apply ext
  rw [entries_eq_filterMap_keys m, entries_eq_filterMap_keys n, h_keys]
  exact List.filterMap_congr fun key _ => by rw [h_get? key]

theorem mem_keys_iff {m : OrderedMap κ β} {key : κ} :
    key ∈ m.keys ↔ ∃ value, m.get? key = some value := by
  rw [← contains_iff_mem_keys, contains, Option.isSome_iff_exists]

theorem mem_values_iff {m : OrderedMap κ β} {value : β} :
    value ∈ m.values ↔ ∃ key, m.get? key = some value := by
  unfold values
  rw [List.mem_map]
  constructor
  · rintro ⟨⟨key, held⟩, member, rfl⟩
    exact ⟨key, get?_eq_some_iff.2 member⟩
  · rintro ⟨key, found⟩
    exact ⟨(key, value), get?_eq_some_iff.1 found, rfl⟩

theorem values_eq_filterMap_keys (m : OrderedMap κ β) :
    m.values = m.keys.filterMap m.get? := by
  unfold values
  rw [entries_eq_filterMap_keys m, List.map_filterMap]
  refine List.filterMap_congr fun key _ => ?_
  cases m.get? key <;> rfl

/-- The keys whose values have a property, read off the entries or looked up one by one. -/
theorem filterMap_entries (m : OrderedMap κ β) (P : β → Prop) [DecidablePred P] :
    (m.entries.filterMap fun entry => if P entry.2 then some entry.1 else none) =
      m.keys.filter fun key => (m.get? key).any fun value => P value := by
  have h_each : ∀ entry ∈ m.entries,
      ((m.get? entry.1).any fun value => P value) = decide (P entry.2) := by
    intro entry member
    rw [get?_eq_some_iff.2 member, Option.any_some]
  rw [keys, List.filter_map, Function.comp_def, List.filter_congr h_each, ← List.filterMap_eq_map',
    List.filterMap_filter]
  simp only [decide_eq_true_eq]

theorem size_insert (m : OrderedMap κ β) (key : κ) (value : β) :
    (m.insert key value).size = if m.contains key = true then m.size else m.size + 1 := by
  simp only [← length_keys, keys_insert, contains_iff_mem_keys]
  split
  · rfl
  · rw [List.length_append, List.length_singleton]

theorem mapValues_insert (m : OrderedMap κ β) (f : κ → β → γ) (key : κ) (value : β) :
    (m.insert key value).mapValues f = (m.mapValues f).insert key (f key value) := by
  apply ext_get?
  · rw [keys_mapValues, keys_insert, keys_insert, keys_mapValues]
  · intro other
    rw [get?_mapValues, get?_insert, get?_insert, get?_mapValues]
    split
    next same => rw [same]; rfl
    next => rfl

theorem mapValues_insertAll (m : OrderedMap κ β) (f : κ → β → γ) (written : List (κ × β)) :
    (m.insertAll written).mapValues f =
      (m.mapValues f).insertAll (written.map fun entry => (entry.1, f entry.1 entry.2)) := by
  induction written generalizing m with
  | nil => rfl
  | cons entry rest ih => rw [insertAll_cons, ih, mapValues_insert, List.map_cons, insertAll_cons]

/-! ## Properties of all entries -/

/-- A property that every entry has. -/
def Every (m : OrderedMap κ β) (P : κ → β → Prop) : Prop :=
  ∀ key value, m.get? key = some value → P key value

variable {P : κ → β → Prop} {m n : OrderedMap κ β}

theorem every_empty : (empty : OrderedMap κ β).Every P := by
  intro key value found
  rw [get?_empty] at found
  cases found

theorem Every.upsert (h_every : m.Every P) {key : κ} {f : Option β → β}
    (h_none : P key (f none)) (h_some : ∀ held, P key held → P key (f (some held))) :
    (m.upsert key f).Every P := by
  intro other value found
  rw [get?_upsert] at found
  split at found
  next same =>
    rw [Option.some.injEq] at found
    subst same found
    cases h_held : m.get? other with
    | none => exact h_none
    | some held => exact h_some held (h_every other held h_held)
  next => exact h_every other value found

theorem Every.insert (h_every : m.Every P) {key : κ} {value : β} (h_new : P key value) :
    (m.insert key value).Every P :=
  h_every.upsert h_new fun _ _ => h_new

theorem Every.insertAll (h_every : m.Every P) {written : List (κ × β)}
    (h_written : ∀ entry ∈ written, P entry.1 entry.2) : (m.insertAll written).Every P := by
  induction written generalizing m with
  | nil => exact h_every
  | cons entry rest ih =>
    rw [List.forall_mem_cons] at h_written
    exact ih (h_every.insert h_written.1) h_written.2

theorem Every.mem_entries (h_every : m.Every P) : ∀ entry ∈ m.entries, P entry.1 entry.2 :=
  fun entry member => h_every entry.1 entry.2 (get?_eq_some_iff.2 member)

theorem Every.mapValues (h_every : m.Every P) {Q : κ → γ → Prop} {f : κ → β → γ}
    (h_map : ∀ key value, P key value → Q key (f key value)) : (m.mapValues f).Every Q := by
  intro key value found
  rw [get?_mapValues, Option.map_eq_some_iff] at found
  obtain ⟨held, h_held, rfl⟩ := found
  exact h_map key held (h_every key held h_held)

theorem Every.mono (h_every : m.Every P) {Q : κ → β → Prop}
    (h_imp : ∀ key value, P key value → Q key value) : m.Every Q :=
  fun key value found => h_imp key value (h_every key value found)

/-! ## The last item of each key -/

theorem eraseDups_concat (keys : List κ) (key : κ) :
    (keys ++ [key]).eraseDups =
      if key ∈ keys then keys.eraseDups else keys.eraseDups ++ [key] := by
  rw [List.eraseDups_append, List.cons_removeAll]
  by_cases h_known : key ∈ keys
  · simp [h_known]
  · simp [h_known, List.eraseDups_cons]

/-- Items written one over the other, each under its key. -/
structure Latest (key : β → κ) (items : List β) (m : OrderedMap κ β) : Prop where
  /-- A key stands where it first came. -/
  keys : m.keys = (items.map key).eraseDups
  /-- A key holds the item that came last. -/
  get? : ∀ k, m.get? k = (items.filter fun a => key a = k).getLast?

theorem Latest.empty (key : β → κ) : Latest key [] (empty : OrderedMap κ β) :=
  ⟨rfl, fun _ => rfl⟩

theorem Latest.mem_keys_iff {key : β → κ} {items : List β} (h_latest : Latest key items m)
    {k : κ} : k ∈ m.keys ↔ k ∈ items.map key := by
  rw [h_latest.keys, List.mem_eraseDups]

/-- One more item goes over what its key held, or to the end under a new key. -/
theorem Latest.insert {key : β → κ} {items : List β} (h_latest : Latest key items m) (a : β) :
    Latest key (items ++ [a]) (m.insert (key a) a) where
  keys := by
    rw [keys_insert, List.map_append, List.map_cons, List.map_nil, eraseDups_concat,
      ← h_latest.keys]
    simp only [h_latest.mem_keys_iff]
  get? k := by
    rw [get?_insert, List.filter_append, List.getLast?_append]
    by_cases h_key : k = key a
    · simp [h_key]
    · simp [h_key, Ne.symm h_key, h_latest.get? k]

theorem Latest.insertAll {key : β → κ} {items : List β} (h_latest : Latest key items m)
    (more : List β) : Latest key (items ++ more) (m.insertAll (more.map fun a => (key a, a))) := by
  induction more generalizing items m with
  | nil => simpa using h_latest
  | cons a rest ih =>
    rw [List.map_cons, insertAll_cons, List.append_cons]
    exact ih (h_latest.insert a)

theorem Latest.mapValues {key : β → κ} {items : List β} (h_latest : Latest key items m)
    {key' : γ → κ} {f : κ → β → γ} (h_key : ∀ k a, key' (f k a) = key a) :
    Latest key' (items.map fun a => f (key a) a) (m.mapValues f) where
  keys := by
    rw [keys_mapValues, h_latest.keys, List.map_map]
    simp only [Function.comp_def, h_key]
  get? k := by
    rw [get?_mapValues, h_latest.get? k, List.filter_map, List.getLast?_map]
    simp only [Function.comp_def, h_key]
    apply Option.map_congr
    intro a h_last
    have h_held := (List.mem_filter.1 (List.mem_of_getLast? h_last)).2
    rw [of_decide_eq_true h_held]

theorem Latest.size_le {key : β → κ} {items : List β} (h_latest : Latest key items m) :
    m.size ≤ items.length := by
  rw [← length_keys, ← List.length_map key]
  exact m.nodup_keys.length_le_of_subset fun _ => h_latest.mem_keys_iff.1

/-- The items still there are those with no later item of their key. -/
theorem Latest.mem_values_iff {key : β → κ} {items : List β} (h_latest : Latest key items m)
    {a : β} :
    a ∈ m.values ↔
      ∃ before after, items = before ++ a :: after ∧ ∀ later ∈ after, key later ≠ key a := by
  rw [OrderedMap.mem_values_iff]
  simp only [h_latest.get?, getLast?_filter_eq_some_iff_isLast]
  constructor
  · rintro ⟨_, before, after, rfl, rfl, h_after⟩
    exact ⟨before, after, rfl, h_after⟩
  · rintro ⟨before, after, rfl, h_after⟩
    exact ⟨key a, before, after, rfl, rfl, h_after⟩

/-! ## Items in lists by target -/

structure Grouped (target : β → κ) (items : List β) (m : OrderedMap κ (List β)) : Prop where
  /-- A target stands where it first came. -/
  keys : m.keys = (items.map target).eraseDups
  /-- A target that came holds its items in order of arrival. -/
  get? : ∀ k ∈ m.keys, m.get? k = some (items.filter fun a => target a = k)

variable {lists : OrderedMap κ (List β)} {target : β → κ} {items : List β}

theorem Grouped.empty (target : β → κ) :
    Grouped target [] (empty : OrderedMap κ (List β)) :=
  ⟨rfl, fun _ member => by cases member⟩

theorem Grouped.mem_keys_iff (h_grouped : Grouped target items lists) {k : κ} :
    k ∈ lists.keys ↔ k ∈ items.map target := by
  rw [h_grouped.keys, List.mem_eraseDups]

theorem Grouped.getD (h_grouped : Grouped target items lists) (k : κ) :
    (lists.get? k).getD [] = items.filter fun a => target a = k := by
  by_cases h_known : k ∈ lists.keys
  · rw [h_grouped.get? k h_known]
    rfl
  · rw [get?_eq_none_iff.2 h_known, Option.getD_none, eq_comm, List.filter_eq_nil_iff]
    intro a member same
    rw [h_grouped.mem_keys_iff] at h_known
    exact h_known (List.mem_map.2 ⟨a, member, of_decide_eq_true same⟩)

/-- The items in the list of a target are those with that target. -/
theorem Grouped.mem_list_iff (h_grouped : Grouped target items lists) {k : κ} {a : β} :
    (∃ list, lists.get? k = some list ∧ a ∈ list) ↔ a ∈ items ∧ target a = k := by
  have h_list := h_grouped.getD k
  cases h_held : lists.get? k with
  | none =>
    rw [h_held, Option.getD_none, eq_comm, List.filter_eq_nil_iff] at h_list
    simpa using h_list a
  | some list =>
    rw [h_held, Option.getD_some] at h_list
    simp [h_list]

theorem Grouped.collect (h_grouped : Grouped target items lists) (a : β) :
    Grouped target (items ++ [a]) (lists.upsert (target a) fun held => held.getD [] ++ [a]) where
  keys := by
    rw [keys_upsert, List.map_append, List.map_cons, List.map_nil, eraseDups_concat,
      ← h_grouped.keys]
    simp only [h_grouped.mem_keys_iff]
  get? k member := by
    rw [get?_upsert, h_grouped.getD, List.filter_append]
    by_cases h_target : k = target a
    · simp [h_target]
    · have h_held : k ∈ lists.keys := by
        rw [keys_upsert] at member
        split at member
        next => exact member
        next => simpa [h_target] using member
      simp [h_target, Ne.symm h_target, h_grouped.get? k h_held]

/-- The lists of a map of distinct targets, one after the other, hold every item whose target is
    among them once. -/
theorem flatMap_filter_perm {targets : List κ} (distinct : targets.Nodup)
    (h_cover : ∀ a ∈ items, target a ∈ targets) :
    (targets.flatMap fun k => items.filter fun a => target a = k).Perm items := by
  induction targets generalizing items with
  | nil =>
    have h_items : items = [] := List.eq_nil_iff_forall_not_mem.2 fun a member => by
      simpa using h_cover a member
    simp [h_items]
  | cons k rest ih =>
    rw [List.nodup_cons] at distinct
    rw [List.flatMap_cons]
    have h_rest : ∀ a ∈ items.filter (fun a => !decide (target a = k)), target a ∈ rest := by
      intro a member
      obtain ⟨h_item, h_other⟩ := List.mem_filter.1 member
      exact (List.mem_cons.1 (h_cover a h_item)).resolve_left (by simpa using h_other)
    have h_same : (rest.flatMap fun k' => items.filter fun a => target a = k') =
        rest.flatMap fun k' =>
          (items.filter fun a => !decide (target a = k)).filter fun a => target a = k' := by
      refine List.flatMap_congr fun k' member => ?_
      rw [List.filter_filter]
      refine List.filter_congr fun a _ => ?_
      by_cases h_target : target a = k'
      · have h_ne : k' ≠ k := fun same => distinct.1 (same ▸ member)
        simp [h_target, h_ne]
      · simp [h_target]
    rw [h_same]
    exact ((ih distinct.2 h_rest).append_left _).trans (List.filter_append_perm _ items)

theorem Grouped.flatten_perm (h_grouped : Grouped target items lists) :
    lists.values.flatten.Perm items := by
  have h_values : lists.values =
      lists.keys.map fun k => items.filter fun a => target a = k := by
    rw [values_eq_filterMap_keys, ← List.filterMap_eq_map]
    exact List.filterMap_congr fun k member => h_grouped.get? k member
  rw [h_values, ← List.flatMap_def]
  exact flatMap_filter_perm lists.nodup_keys fun a member =>
    h_grouped.mem_keys_iff.2 (List.mem_map_of_mem member)

end OrderedMap

end ResourceGraph
