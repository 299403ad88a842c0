import Mathlib.Data.List.Nodup
import ResourceGraph.Proofs.KeyedMaps

/-! # Pairs of maps

What two ordered maps make together, and when two of them hold the same.

Plain overriding and the joining of lists are both cases of `writeAll`, by which the entries of
one map are written over another, each combined with what its key held before.  `keys_writeAll`
and `get?_writeAll` describe the result, and the grouping of several maps does not matter if it
does not matter to the combination (`writeAll_assoc`).  Two maps with the same entries in whatever
order are related by `Reorders`; items that are written in another order leave such maps
(`Latest.reorders`, `Grouped.rel_perm`).
-/

namespace ResourceGraph

namespace OrderedMap

variable {κ β γ : Type} [DecidableEq κ]

/-! ## One map written over another -/

/-- The entries of a list written one after the other, each combined with what its key held. -/
def writeAll (combine : Option β → γ → β) (m : OrderedMap κ β) (written : List (κ × γ)) :
    OrderedMap κ β :=
  written.foldl (fun acc entry => acc.upsert entry.1 fun held => combine held entry.2) m

variable {combine : Option β → γ → β}

theorem writeAll_cons (m : OrderedMap κ β) (entry : κ × γ) (rest : List (κ × γ)) :
    m.writeAll combine (entry :: rest) =
      (m.upsert entry.1 fun held => combine held entry.2).writeAll combine rest := rfl

theorem contains_upsert (m : OrderedMap κ β) (key other : κ) (f : Option β → β) :
    (m.upsert key f).contains other = (decide (other = key) || m.contains other) := by
  unfold contains
  rw [get?_upsert]
  by_cases h_key : other = key <;> simp [h_key]

/-- New keys go to the end in their order. -/
theorem keys_writeAll (m : OrderedMap κ β) {written : List (κ × γ)}
    (distinct : (written.map Prod.fst).Nodup) :
    (m.writeAll combine written).keys =
      m.keys ++ (written.map Prod.fst).filter fun key => !m.contains key := by
  induction written generalizing m with
  | nil => simp [writeAll]
  | cons entry rest ih =>
    rw [List.map_cons, List.nodup_cons] at distinct
    have h_rest : ((rest.map Prod.fst).filter fun key =>
          !(m.upsert entry.1 fun held => combine held entry.2).contains key) =
        (rest.map Prod.fst).filter fun key => !m.contains key := by
      refine List.filter_congr fun key member => ?_
      have h_other : key ≠ entry.1 := fun same => distinct.1 (same ▸ member)
      simp [contains_upsert, h_other]
    rw [writeAll_cons, ih _ distinct.2, h_rest, keys_upsert, List.map_cons]
    by_cases h_known : entry.1 ∈ m.keys
    · rw [if_pos h_known,
        List.filter_cons_of_neg (by simpa [contains_iff_mem_keys] using h_known)]
    · rw [if_neg h_known,
        List.filter_cons_of_pos (by simpa [← contains_iff_mem_keys] using h_known),
        List.append_assoc, List.singleton_append]

theorem get?_writeAll (m : OrderedMap κ β) {written : List (κ × γ)}
    (distinct : (written.map Prod.fst).Nodup) (key : κ) :
    (m.writeAll combine written).get? key =
      match lookup key written with
      | none => m.get? key
      | some value => some (combine (m.get? key) value) := by
  induction written generalizing m with
  | nil => rfl
  | cons entry rest ih =>
    rw [List.map_cons, List.nodup_cons] at distinct
    rw [writeAll_cons, ih _ distinct.2, get?_upsert]
    by_cases h_key : key = entry.1
    · rw [← h_key] at distinct ⊢
      simp [lookup, lookup_eq_none_iff.2 distinct.1, ← h_key]
    · simp [lookup, h_key, Ne.symm h_key]

theorem contains_writeAll (m : OrderedMap κ β) (n : OrderedMap κ γ) (key : κ) :
    (m.writeAll combine n.entries).contains key = (m.contains key || n.contains key) := by
  have h_found : lookup key n.entries = n.get? key := rfl
  unfold contains
  rw [get?_writeAll m n.nodup, h_found]
  cases n.get? key <;> simp

/-- Maps may be written over one another in any grouping if their values may be combined so. -/
theorem writeAll_assoc {combine : Option β → β → β}
    (h_none : ∀ x z, combine x (combine none z) = combine x z)
    (h_some : ∀ x y z, combine (some (combine x y)) z = combine x (combine (some y) z))
    (m n p : OrderedMap κ β) :
    (m.writeAll combine n.entries).writeAll combine p.entries =
      m.writeAll combine (n.writeAll combine p.entries).entries := by
  apply ext_get?
  · have h_keys : ∀ m n : OrderedMap κ β, (m.writeAll combine n.entries).keys =
        m.keys ++ n.keys.filter fun key => !m.contains key :=
      fun m n => keys_writeAll m n.nodup
    simp only [h_keys, contains_writeAll, List.filter_append, List.filter_filter,
      List.append_assoc, Bool.not_or]
  · intro key
    have h_get? : ∀ m n : OrderedMap κ β, (m.writeAll combine n.entries).get? key =
        match n.get? key with
        | none => m.get? key
        | some value => some (combine (m.get? key) value) :=
      fun m n => get?_writeAll m n.nodup key
    rw [h_get?, h_get?, h_get?, h_get?]
    cases n.get? key with
    | none => cases p.get? key <;> simp [h_none]
    | some y => cases p.get? key <;> simp [h_some]

theorem writeAll_empty {combine : Option β → β → β} (h_new : ∀ z, combine none z = z)
    (m : OrderedMap κ β) : (empty : OrderedMap κ β).writeAll combine m.entries = m := by
  apply ext_get?
  · rw [keys_writeAll _ m.nodup]
    exact List.filter_true _
  · intro key
    have h_found : lookup key m.entries = m.get? key := rfl
    rw [get?_writeAll _ m.nodup, h_found, get?_empty]
    cases m.get? key <;> simp [h_new]

/-! ## Plain overriding -/

theorem insertAll_eq_writeAll (m : OrderedMap κ β) (written : List (κ × β)) :
    m.insertAll written = m.writeAll (fun _ value => value) written := rfl

theorem insertAll_assoc (m n p : OrderedMap κ β) :
    (m.insertAll n.entries).insertAll p.entries = m.insertAll (n.insertAll p.entries).entries := by
  simp only [insertAll_eq_writeAll]
  exact writeAll_assoc (fun _ _ => rfl) (fun _ _ _ => rfl) m n p

theorem contains_insertAll (m n : OrderedMap κ β) (key : κ) :
    (m.insertAll n.entries).contains key = (m.contains key || n.contains key) := by
  rw [insertAll_eq_writeAll, contains_writeAll]

theorem get?_insertAll (m n : OrderedMap κ β) (key : κ) :
    (m.insertAll n.entries).get? key = (n.get? key).or (m.get? key) := by
  have h_found : lookup key n.entries = n.get? key := rfl
  rw [insertAll_eq_writeAll, get?_writeAll m n.nodup, h_found]
  cases n.get? key <;> rfl

/-! ## Joined lists -/

/-- A list put at the end of what a key held is added to the members of all lists. -/
theorem flatten_upsert_perm (lists : OrderedMap κ (List β)) (key : κ) (more : List β) :
    (lists.upsert key fun held => held.getD [] ++ more).values.flatten.Perm
      (lists.values.flatten ++ more) := by
  obtain ⟨entries, distinct⟩ := lists
  simp only [values, upsert]
  clear distinct
  induction entries with
  | nil => simp [upsertEntries]
  | cons entry rest ih =>
    obtain ⟨k, held⟩ := entry
    by_cases h_key : k = key
    · simp only [upsertEntries, h_key, if_true, Option.getD_some, List.map_cons,
        List.flatten_cons, List.append_assoc]
      exact List.perm_append_comm.append_left held
    · simp only [upsertEntries, h_key, if_false, List.map_cons, List.flatten_cons,
        List.append_assoc]
      exact ih.append_left held

theorem flatten_writeAll_perm (lists : OrderedMap κ (List β)) (written : List (κ × List β)) :
    (lists.writeAll (fun held more => held.getD [] ++ more) written).values.flatten.Perm
      (lists.values.flatten ++ (written.map Prod.snd).flatten) := by
  induction written generalizing lists with
  | nil => simp [writeAll]
  | cons entry rest ih =>
    rw [writeAll_cons, List.map_cons, List.flatten_cons, ← List.append_assoc]
    exact (ih _).trans ((flatten_upsert_perm lists entry.1 entry.2).append_right _)

/-! ## The same entries in another order -/

/-- Two maps have the same entries, in whatever order. -/
def Reorders (m n : OrderedMap κ β) : Prop := m.entries.Perm n.entries

theorem reorders_iff {m n : OrderedMap κ β} :
    m.Reorders n ↔ ∀ key, m.get? key = n.get? key := by
  constructor
  · intro h_perm key
    apply Option.ext
    intro value
    rw [get?_eq_some_iff, get?_eq_some_iff, h_perm.mem_iff]
  · intro h_get?
    refine (List.perm_ext_iff_of_nodup m.nodup.of_map n.nodup.of_map).2 fun entry => ?_
    rw [← get?_eq_some_iff, ← get?_eq_some_iff, h_get?]

theorem Reorders.get?_eq {m n : OrderedMap κ β} (same : m.Reorders n) : m.get? = n.get? :=
  funext (reorders_iff.1 same)

theorem Reorders.contains_eq {m n : OrderedMap κ β} (same : m.Reorders n) (key : κ) :
    m.contains key = n.contains key := by
  rw [contains, contains, same.get?_eq]

/-- Of items with keys of their own, the last one of a key is the only one. -/
theorem getLast?_filter_eq_some_iff {key : β → κ} {items : List β}
    (distinct : (items.map key).Nodup) {k : κ} {a : β} :
    (items.filter fun b => key b = k).getLast? = some a ↔ a ∈ items ∧ key a = k := by
  constructor
  · intro h_last
    obtain ⟨member, h_key⟩ := List.mem_filter.1 (List.mem_of_getLast? h_last)
    exact ⟨member, of_decide_eq_true h_key⟩
  · rintro ⟨member, rfl⟩
    have h_kept : a ∈ items.filter fun b => key b = key a :=
      List.mem_filter.2 ⟨member, decide_eq_true rfl⟩
    have h_last := List.getLast?_eq_some_getLast (List.ne_nil_of_mem h_kept)
    obtain ⟨h_other, h_key⟩ := List.mem_filter.1 (List.mem_of_getLast? h_last)
    rw [h_last, List.inj_on_of_nodup_map distinct h_other member (of_decide_eq_true h_key)]

theorem getLast?_filter_eq_of_perm {key : β → κ} {xs ys : List β} (same : xs.Perm ys)
    (distinct : (xs.map key).Nodup) (k : κ) :
    (xs.filter fun a => key a = k).getLast? = (ys.filter fun a => key a = k).getLast? := by
  have distinct' : (ys.map key).Nodup := (same.map key).nodup_iff.1 distinct
  apply Option.ext
  intro a
  rw [getLast?_filter_eq_some_iff distinct, getLast?_filter_eq_some_iff distinct', same.mem_iff]

theorem Latest.reorders {key : β → κ} {xs ys : List β} {m n : OrderedMap κ β}
    (h_m : Latest key xs m) (h_n : Latest key ys n) (same : xs.Perm ys)
    (distinct : (xs.map key).Nodup) : m.Reorders n := by
  rw [reorders_iff]
  intro k
  rw [h_m.get?, h_n.get?, getLast?_filter_eq_of_perm same distinct]

theorem Latest.size_eq {key : β → κ} {items : List β} {m : OrderedMap κ β}
    (h_latest : Latest key items m) (distinct : (items.map key).Nodup) :
    m.size = items.length := by
  refine Nat.le_antisymm h_latest.size_le ?_
  rw [← length_keys, ← List.length_map key]
  exact distinct.length_le_of_subset fun _ => h_latest.mem_keys_iff.2

theorem Grouped.rel_perm {target : β → κ} {xs ys : List β} {m n : OrderedMap κ (List β)}
    (h_m : Grouped target xs m) (h_n : Grouped target ys n) (same : xs.Perm ys) (k : κ) :
    Option.Rel List.Perm (m.get? k) (n.get? k) := by
  have h_keys : k ∈ m.keys ↔ k ∈ n.keys := by
    rw [h_m.mem_keys_iff, h_n.mem_keys_iff, (same.map target).mem_iff]
  by_cases h_known : k ∈ m.keys
  · rw [h_m.get? k h_known, h_n.get? k (h_keys.1 h_known)]
    exact .some (same.filter _)
  · rw [get?_eq_none_iff.2 h_known, get?_eq_none_iff.2 (mt h_keys.2 h_known)]
    exact .none

end OrderedMap

end ResourceGraph
