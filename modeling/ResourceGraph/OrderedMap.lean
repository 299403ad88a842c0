/-! # Ordered maps

A map that remembers the order in which its keys first came.  Writing to a key that is already
there keeps its position, so the last value stands where the first one stood.

There is one write operation, `upsert`, of which `insert` and `ofList` are made, and two lemmas
say all about it: `keys_upsert`, which keys are left and in which order, and `get?_upsert`, what
every key holds afterwards.  Since keys are distinct, entries written again leave the same map
(`ofList_entries`).
-/

namespace ResourceGraph

universe u v w

/-- Entries in order of first arrival, no key twice. -/
structure OrderedMap (κ : Type u) (β : Type v) where
  entries : List (κ × β)
  nodup : (entries.map Prod.fst).Nodup

namespace OrderedMap

variable {κ : Type u} {β : Type v} {γ : Type w}

/-- Two maps with the same entries in the same order are the same map. -/
@[ext] theorem ext {m n : OrderedMap κ β} (h_entries : m.entries = n.entries) : m = n := by
  cases m; cases n; cases h_entries; rfl

/-! ## Views -/

/-- The map without entries. -/
def empty : OrderedMap κ β := ⟨[], List.nodup_nil⟩

instance : Inhabited (OrderedMap κ β) := ⟨empty⟩

/-- The keys in order of first arrival. -/
def keys (m : OrderedMap κ β) : List κ := m.entries.map Prod.fst

/-- The values in the order of their keys. -/
def values (m : OrderedMap κ β) : List β := m.entries.map Prod.snd

def size (m : OrderedMap κ β) : Nat := m.entries.length

@[simp] theorem entries_empty : (empty : OrderedMap κ β).entries = [] := rfl

@[simp] theorem keys_empty : (empty : OrderedMap κ β).keys = [] := rfl

theorem nodup_keys (m : OrderedMap κ β) : m.keys.Nodup := m.nodup

theorem length_keys (m : OrderedMap κ β) : m.keys.length = m.size := List.length_map _

variable [DecidableEq κ]

/-- The value of a key in a list of entries, the first one if there are several. -/
def lookup (key : κ) : List (κ × β) → Option β
  | [] => none
  | (k, value) :: rest => if k = key then some value else lookup key rest

def get? (m : OrderedMap κ β) (key : κ) : Option β := lookup key m.entries

def contains (m : OrderedMap κ β) (key : κ) : Bool := (m.get? key).isSome

theorem lookup_eq_none_iff {key : κ} {entries : List (κ × β)} :
    lookup key entries = none ↔ key ∉ entries.map Prod.fst := by
  induction entries with
  | nil => simp [lookup]
  | cons entry rest ih =>
    obtain ⟨k, value⟩ := entry
    by_cases h : k = key
    · simp [lookup, h]
    · simp [lookup, h, ih, Ne.symm h]

@[simp] theorem get?_empty (key : κ) : (empty : OrderedMap κ β).get? key = none := rfl

theorem get?_eq_none_iff {m : OrderedMap κ β} {key : κ} : m.get? key = none ↔ key ∉ m.keys :=
  lookup_eq_none_iff

theorem contains_iff_mem_keys {m : OrderedMap κ β} {key : κ} :
    m.contains key = true ↔ key ∈ m.keys := by
  unfold contains
  cases h : m.get? key with
  | none => simpa using get?_eq_none_iff.1 h
  | some value =>
    have h_known : ¬ m.get? key = none := by simp [h]
    simpa [get?_eq_none_iff] using h_known

theorem mem_of_lookup {key : κ} {value : β} {entries : List (κ × β)}
    (found : lookup key entries = some value) : (key, value) ∈ entries := by
  induction entries with
  | nil => simp [lookup] at found
  | cons entry rest ih =>
    obtain ⟨k, held⟩ := entry
    by_cases h : k = key
    · simp only [lookup, h, if_true, Option.some.injEq] at found
      simp [h, found]
    · simp only [lookup, h, if_false] at found
      exact List.mem_cons_of_mem _ (ih found)

theorem lookup_of_mem {key : κ} {value : β} {entries : List (κ × β)}
    (distinct : (entries.map Prod.fst).Nodup) (member : (key, value) ∈ entries) :
    lookup key entries = some value := by
  induction entries with
  | nil => simp at member
  | cons entry rest ih =>
    obtain ⟨k, held⟩ := entry
    simp only [List.map_cons, List.nodup_cons] at distinct
    rcases List.mem_cons.1 member with same | later
    · cases same; simp [lookup]
    · have h_key : k ≠ key := fun h => distinct.1 (h ▸ List.mem_map_of_mem later)
      simp [lookup, h_key, ih distinct.2 later]

theorem get?_eq_some_iff {m : OrderedMap κ β} {key : κ} {value : β} :
    m.get? key = some value ↔ (key, value) ∈ m.entries :=
  ⟨mem_of_lookup, lookup_of_mem m.nodup⟩

/-! ## Writing -/

/-- Give `key` the value that `f` makes of what it held before, at the key's place if it has one
    and at the end if not. -/
def upsertEntries (key : κ) (f : Option β → β) : List (κ × β) → List (κ × β)
  | [] => [(key, f none)]
  | (k, value) :: rest =>
    if k = key then (k, f (some value)) :: rest else (k, value) :: upsertEntries key f rest

theorem keys_upsertEntries (key : κ) (f : Option β → β) (entries : List (κ × β)) :
    (upsertEntries key f entries).map Prod.fst =
      if key ∈ entries.map Prod.fst then entries.map Prod.fst
      else entries.map Prod.fst ++ [key] := by
  induction entries with
  | nil => simp [upsertEntries]
  | cons entry rest ih =>
    obtain ⟨k, value⟩ := entry
    by_cases h : k = key
    · simp [upsertEntries, h]
    · simp only [upsertEntries, h, if_false, List.map_cons, ih, List.mem_cons, Ne.symm h,
        false_or]
      split <;> simp

theorem lookup_upsertEntries (key other : κ) (f : Option β → β) (entries : List (κ × β)) :
    lookup other (upsertEntries key f entries) =
      if other = key then some (f (lookup key entries)) else lookup other entries := by
  induction entries with
  | nil =>
    by_cases h : other = key
    · simp [upsertEntries, lookup, h]
    · simp [upsertEntries, lookup, h, Ne.symm h]
  | cons entry rest ih =>
    obtain ⟨k, value⟩ := entry
    by_cases h : k = key
    · subst h
      by_cases h_other : other = k
      · simp [upsertEntries, lookup, h_other]
      · simp [upsertEntries, lookup, h_other, Ne.symm h_other]
    · by_cases h_here : k = other
      · subst h_here
        simp [upsertEntries, lookup, h]
      · simp [upsertEntries, lookup, h, h_here, ih]

theorem upsertEntries_of_not_mem {key : κ} {f : Option β → β} {entries : List (κ × β)}
    (absent : key ∉ entries.map Prod.fst) :
    upsertEntries key f entries = entries ++ [(key, f none)] := by
  induction entries with
  | nil => rfl
  | cons entry rest ih =>
    obtain ⟨k, value⟩ := entry
    rw [List.map_cons, List.mem_cons, not_or] at absent
    simp [upsertEntries, Ne.symm absent.1, ih absent.2]

/-- Write to a key, looking at what it held. -/
def upsert (m : OrderedMap κ β) (key : κ) (f : Option β → β) : OrderedMap κ β where
  entries := upsertEntries key f m.entries
  nodup := by
    rw [keys_upsertEntries]
    split
    · exact m.nodup
    · rename_i h_new
      refine List.nodup_append.2 ⟨m.nodup, by simp, ?_⟩
      intro held h_held new h_new' same
      simp only [List.mem_singleton] at h_new'
      exact h_new (h_new' ▸ same ▸ h_held)

/-- Write to a key, whatever it held. -/
def insert (m : OrderedMap κ β) (key : κ) (value : β) : OrderedMap κ β :=
  m.upsert key fun _ => value

/-- Write a list of entries one after the other. -/
def insertAll (m : OrderedMap κ β) (entries : List (κ × β)) : OrderedMap κ β :=
  entries.foldl (fun acc entry => acc.insert entry.1 entry.2) m

def ofList (entries : List (κ × β)) : OrderedMap κ β := empty.insertAll entries

theorem keys_upsert (m : OrderedMap κ β) (key : κ) (f : Option β → β) :
    (m.upsert key f).keys = if key ∈ m.keys then m.keys else m.keys ++ [key] :=
  keys_upsertEntries key f m.entries

theorem get?_upsert (m : OrderedMap κ β) (key other : κ) (f : Option β → β) :
    (m.upsert key f).get? other = if other = key then some (f (m.get? key)) else m.get? other :=
  lookup_upsertEntries key other f m.entries

theorem keys_insert (m : OrderedMap κ β) (key : κ) (value : β) :
    (m.insert key value).keys = if key ∈ m.keys then m.keys else m.keys ++ [key] :=
  keys_upsert m key _

theorem get?_insert (m : OrderedMap κ β) (key other : κ) (value : β) :
    (m.insert key value).get? other = if other = key then some value else m.get? other :=
  get?_upsert m key other _

/-! ## Writing many entries -/

@[simp] theorem insertAll_nil (m : OrderedMap κ β) : m.insertAll [] = m := rfl

@[simp] theorem insertAll_cons (m : OrderedMap κ β) (entry : κ × β) (rest : List (κ × β)) :
    m.insertAll (entry :: rest) = (m.insert entry.1 entry.2).insertAll rest := rfl

theorem insertAll_append (m : OrderedMap κ β) (first second : List (κ × β)) :
    m.insertAll (first ++ second) = (m.insertAll first).insertAll second :=
  List.foldl_append

/-- A key is there afterwards if it was before or if an entry brings it. -/
theorem mem_keys_insertAll {m : OrderedMap κ β} {entries : List (κ × β)} {key : κ} :
    key ∈ (m.insertAll entries).keys ↔ key ∈ m.keys ∨ key ∈ entries.map Prod.fst := by
  induction entries generalizing m with
  | nil => simp
  | cons entry rest ih =>
    rw [insertAll_cons, ih, keys_insert, List.map_cons, List.mem_cons]
    by_cases h_known : entry.1 ∈ m.keys
    · rw [if_pos h_known]
      constructor
      · rintro (held | later)
        · exact Or.inl held
        · exact Or.inr (Or.inr later)
      · rintro (held | same | later)
        · exact Or.inl held
        · exact Or.inl (same ▸ h_known)
        · exact Or.inr later
    · rw [if_neg h_known, List.mem_append, List.mem_singleton, or_assoc]

/-- A key that no entry brings holds what it held. -/
theorem get?_insertAll_of_not_mem {m : OrderedMap κ β} {entries : List (κ × β)} {key : κ}
    (absent : key ∉ entries.map Prod.fst) : (m.insertAll entries).get? key = m.get? key := by
  induction entries generalizing m with
  | nil => rfl
  | cons entry rest ih =>
    rw [List.map_cons, List.mem_cons, not_or] at absent
    rw [insertAll_cons, ih absent.2, get?_insert, if_neg absent.1]

/-- A key that entries bring holds what the last of them says. -/
theorem get?_insertAll_append_cons {m : OrderedMap κ β} {first rest : List (κ × β)} {key : κ}
    {value : β} (last : key ∉ rest.map Prod.fst) :
    (m.insertAll (first ++ (key, value) :: rest)).get? key = some value := by
  rw [insertAll_append, insertAll_cons, get?_insertAll_of_not_mem last, get?_insert, if_pos rfl]

/-- Entries whose keys are all new are put at the end as they stand. -/
theorem entries_insertAll {m : OrderedMap κ β} {entries : List (κ × β)}
    (distinct : ((m.entries ++ entries).map Prod.fst).Nodup) :
    (m.insertAll entries).entries = m.entries ++ entries := by
  induction entries generalizing m with
  | nil => simp
  | cons entry rest ih =>
    have h_new : entry.1 ∉ m.entries.map Prod.fst := by
      rw [List.map_append, List.nodup_append] at distinct
      exact fun held => distinct.2.2 _ held _ (by simp) rfl
    have h_entries : (m.insert entry.1 entry.2).entries = m.entries ++ [entry] :=
      upsertEntries_of_not_mem h_new
    rw [insertAll_cons, ih (by simpa [h_entries] using distinct), h_entries, List.append_assoc]
    rfl

/-- The entries of a map, written in turn, leave the map. -/
theorem ofList_entries (m : OrderedMap κ β) : ofList m.entries = m :=
  ext (entries_insertAll m.nodup)

/-! ## Changing values in place -/

omit [DecidableEq κ] in
/-- Change every value and no key. -/
def mapValues (m : OrderedMap κ β) (f : κ → β → γ) : OrderedMap κ γ where
  entries := m.entries.map fun entry => (entry.1, f entry.1 entry.2)
  nodup := by simpa [List.map_map, Function.comp_def] using m.nodup

omit [DecidableEq κ] in
@[simp] theorem keys_mapValues (m : OrderedMap κ β) (f : κ → β → γ) :
    (m.mapValues f).keys = m.keys := by
  simp [keys, mapValues, List.map_map, Function.comp_def]

theorem get?_mapValues (m : OrderedMap κ β) (f : κ → β → γ) (key : κ) :
    (m.mapValues f).get? key = (m.get? key).map (f key) := by
  obtain ⟨entries, distinct⟩ := m
  simp only [get?, mapValues]
  clear distinct
  induction entries with
  | nil => rfl
  | cons entry rest ih =>
    obtain ⟨k, value⟩ := entry
    by_cases h : k = key
    · simp [lookup, h]
    · simp [lookup, h, ih]

end OrderedMap

end ResourceGraph
