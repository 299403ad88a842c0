import Mathlib.Algebra.GroupWithZero.Nat
import Mathlib.Data.List.Nodup
import ResourceGraph.Bundle.Merging
import ResourceGraph.Proofs.MapPairs

/-! # Merging in any grouping

Bundles merge to the same bundle however they are grouped on the way, for absorbing one bundle
after another is absorbing them merged.  The maps are treated alike, as pairs of maps.  What a
merged bundle has of each of its sources is gathered in `Bundle.Gathers`: the last value of a key,
all resolvers of the lists, and a warning for each time a key came again.
-/

namespace ResourceGraph

/-! ## Keys that come again -/

def Warning.overrides (part : MergedPart) (key : String) : Warning → Bool
  | .overridden _ part' key' => part' = part ∧ key' = key
  | .tableTwice _ _ | .modelTwice _ _ => false

/-- How often it was said that a key of a part is overridden. -/
def overrideCount (part : MergedPart) (key : String) (said : List Warning) : Nat :=
  said.countP (Warning.overrides part key)

/-- Whether a bundle has a key in a part. -/
def MergedPart.has (part : MergedPart) (key : String) (b : Bundle) : Bool :=
  match part with
  | table => b.tables.contains key
  | modelResolver => b.models.contains key
  | secondaryIndexResolver => b.secondary.contains key

namespace Bundle

open OrderedMap

/-- A bundle under another name. -/
def renamed (b : Bundle) (name : String) : Bundle := { b with name := name }

/-! ## Grouping -/

theorem joinLists_eq_writeAll (first second : OrderedMap (Option String) (List Resolver)) :
    joinLists first second =
      first.writeAll (fun held more => held.getD [] ++ more) second.entries := rfl

theorem joinLists_assoc (m n p : OrderedMap (Option String) (List Resolver)) :
    joinLists (joinLists m n) p = joinLists m (joinLists n p) := by
  simp only [joinLists_eq_writeAll]
  exact writeAll_assoc (fun _ _ => rfl) (fun _ _ _ => List.append_assoc _ _ _) m n p

theorem listed_joinLists_perm (m n : OrderedMap (Option String) (List Resolver)) :
    (listed (joinLists m n)).Perm (listed m ++ listed n) :=
  flatten_writeAll_perm m n.entries

theorem absorb_assoc (b c d : Bundle) : (b.absorb c).absorb d = b.absorb (c.absorb d) := by
  simp only [absorb, insertAll_assoc, joinLists_assoc]

theorem empty_absorb (name : String) (b : Bundle) : (empty name).absorb b = b.renamed name := by
  have h_maps : ∀ {β : Type} (m : OrderedMap String β), OrderedMap.empty.insertAll m.entries = m :=
    ofList_entries
  have h_lists : ∀ lists, joinLists OrderedMap.empty lists = lists :=
    fun lists => writeAll_empty (fun _ => rfl) lists
  simp only [absorb, empty, renamed, h_maps, h_lists]

/-- Absorbing bundles in turn is absorbing what they merge to. -/
theorem absorbAll_eq (b : Bundle) (name : String) (others : List Bundle) :
    b.absorbAll others = b.absorb (merge name others) := by
  induction others generalizing b with
  | nil => rfl
  | cons other rest ih =>
    have h_merge : merge name (other :: rest) = (other.absorb (merge name rest)).renamed name := by
      rw [merge, absorbAll, List.foldl_cons, ← absorbAll, ih, absorb_assoc, empty_absorb]
    rw [absorbAll, List.foldl_cons, ← absorbAll, ih, absorb_assoc, h_merge]
    rfl

theorem renamed_merge (name other : String) (bundles : List Bundle) :
    (merge name bundles).renamed other = merge other bundles := by
  rw [← empty_absorb, ← absorbAll_eq, merge]

/-! ## What is overridden -/

theorem has_absorb (part : MergedPart) (key : String) (b other : Bundle) :
    part.has key (b.absorb other) = (part.has key b || part.has key other) := by
  cases part <;> exact contains_insertAll _ _ key

theorem has_absorbAll (part : MergedPart) (key : String) (b : Bundle) (others : List Bundle) :
    part.has key (b.absorbAll others) = (part.has key b || others.any (part.has key)) := by
  induction others generalizing b with
  | nil => simp [absorbAll]
  | cons other rest ih =>
    rw [absorbAll, List.foldl_cons, ← absorbAll, ih, has_absorb, List.any_cons, Bool.or_assoc]

theorem overrideCount_partWarnings {β : Type} (bundle : String) (part part' : MergedPart)
    (key : String) (held incoming : OrderedMap String β) :
    overrideCount part key (partWarnings bundle part' held incoming) =
      if part' = part then (held.contains key && incoming.contains key).toNat else 0 := by
  unfold overrideCount partWarnings
  rw [List.countP_map]
  by_cases h_part : part' = part
  · have h_count : (incoming.keys.filter held.contains).countP
          (Warning.overrides part key ∘ Warning.overridden bundle part') =
        (incoming.keys.filter held.contains).count key := by
      refine List.countP_congr fun other _ => ?_
      simp [Warning.overrides, h_part]
    have h_mem : key ∈ incoming.keys.filter held.contains ↔
        (held.contains key && incoming.contains key) = true := by
      rw [List.mem_filter, Bool.and_eq_true, ← contains_iff_mem_keys, and_comm]
    rw [h_count, if_pos h_part, List.Nodup.count (incoming.nodup_keys.filter _)]
    simp only [h_mem]
    cases held.contains key && incoming.contains key <;> rfl
  · have h_other : Warning.overrides part key ∘ Warning.overridden bundle part' =
        fun _ => false := by
      funext other
      simp [Warning.overrides, h_part]
    rw [h_other, if_neg h_part, List.countP_false]
    rfl

/-- A key is overridden once if both bundles have it. -/
theorem overrideCount_absorbWarnings (part : MergedPart) (key : String) (b other : Bundle) :
    overrideCount part key (b.absorbWarnings other) =
      (part.has key b && part.has key other).toNat := by
  have h_append : ∀ first second, overrideCount part key (first ++ second) =
      overrideCount part key first + overrideCount part key second :=
    fun _ _ => List.countP_append
  rw [absorbWarnings, h_append, h_append]
  simp only [overrideCount_partWarnings]
  cases part <;> simp [MergedPart.has]

theorem overrideCount_absorbAllWarnings (part : MergedPart) (key : String) (b : Bundle)
    (others : List Bundle) :
    overrideCount part key (b.absorbAllWarnings others) =
      others.countP (part.has key) - (!part.has key b).toNat := by
  induction others generalizing b with
  | nil => simp [absorbAllWarnings, overrideCount]
  | cons other rest ih =>
    have h_append : overrideCount part key (b.absorbAllWarnings (other :: rest)) =
        overrideCount part key (b.absorbWarnings other) +
          overrideCount part key ((b.absorb other).absorbAllWarnings rest) := List.countP_append
    rw [h_append, ih, overrideCount_absorbWarnings, has_absorb, List.countP_cons]
    cases part.has key b <;> cases part.has key other <;> simp
    omega

theorem overrideCount_mergeWarnings (part : MergedPart) (key name : String)
    (bundles : List Bundle) :
    overrideCount part key (mergeWarnings name bundles) = bundles.countP (part.has key) - 1 := by
  have h_empty : part.has key (empty name) = false := by cases part <;> rfl
  rw [mergeWarnings, overrideCount_absorbAllWarnings, h_empty]
  rfl

/-- Bundles that are merged in two groups first are warned of as often. -/
theorem overrideCount_grouped (part : MergedPart) (key name first second : String)
    (xs ys : List Bundle) :
    overrideCount part key (mergeWarnings first xs) +
        overrideCount part key (mergeWarnings second ys) +
        overrideCount part key (mergeWarnings name [merge first xs, merge second ys]) =
      overrideCount part key (mergeWarnings name (xs ++ ys)) := by
  have h_has : ∀ name bundles, part.has key (merge name bundles) = true ↔
      0 < bundles.countP (part.has key) := by
    intro name bundles
    have h_empty : part.has key (empty name) = false := by cases part <;> rfl
    rw [merge, has_absorbAll, h_empty, Bool.false_or, List.any_eq_true, List.countP_pos_iff]
  simp only [overrideCount_mergeWarnings, List.countP_cons, List.countP_nil, h_has,
    List.countP_append]
  split <;> split <;> omega

/-! ## What stays -/

/-- In a part that is overridden key by key, the last bundle with a key decides. -/
theorem get?_absorbAll {κ β : Type} [DecidableEq κ] {part : Bundle → OrderedMap κ β}
    (h_part : ∀ b other, part (b.absorb other) = (part b).insertAll (part other).entries)
    (b : Bundle) (others : List Bundle) (key : κ) :
    (part (b.absorbAll others)).get? key =
      (others.filterMap fun other => (part other).get? key).getLast?.or ((part b).get? key) := by
  induction others generalizing b with
  | nil => rfl
  | cons other rest ih =>
    rw [absorbAll, List.foldl_cons, ← absorbAll, ih, h_part, get?_insertAll]
    cases h_first : (part other).get? key with
    | none => simp [h_first]
    | some value =>
      cases h_rest : (rest.filterMap fun other => (part other).get? key).getLast? <;>
        simp [h_first, h_rest, List.getLast?_cons]

theorem get?_merge {κ β : Type} [DecidableEq κ] {part : Bundle → OrderedMap κ β}
    (h_part : ∀ b other, part (b.absorb other) = (part b).insertAll (part other).entries)
    (h_empty : ∀ name, part (empty name) = .empty) (name : String) (bundles : List Bundle)
    (key : κ) :
    (part (merge name bundles)).get? key =
      (bundles.filterMap fun b => (part b).get? key).getLast? := by
  rw [merge, get?_absorbAll h_part, h_empty, get?_empty, Option.or_none]

/-- In a part that holds lists, every resolver of every bundle is there. -/
theorem listed_merge_perm {part : Bundle → OrderedMap (Option String) (List Resolver)}
    (h_part : ∀ b other, part (b.absorb other) = joinLists (part b) (part other))
    (h_empty : ∀ name, part (empty name) = .empty) (name : String) (bundles : List Bundle) :
    (listed (part (merge name bundles))).Perm (bundles.flatMap fun b => listed (part b)) := by
  have h_absorbed : ∀ b, (listed (part (b.absorbAll bundles))).Perm
      (listed (part b) ++ bundles.flatMap fun b => listed (part b)) := by
    induction bundles with
    | nil => intro b; simp [absorbAll]
    | cons other rest ih =>
      intro b
      rw [List.flatMap_cons, ← List.append_assoc]
      refine (ih (b.absorb other)).trans (List.Perm.append_right _ ?_)
      rw [h_part]
      exact listed_joinLists_perm _ _
  have h_start := h_absorbed (empty name)
  rw [h_empty] at h_start
  exact h_start

/-! ## The merged bundle -/

/-- What a bundle and the warnings on the way to it have of the bundles merged into it. -/
structure Gathers (bundles : List Bundle) (m : Bundle) (said : List Warning) : Prop where
  /-- Of the bundles with a key every one but the first is warned of. -/
  overridden : ∀ part key, overrideCount part key said = bundles.countP (part.has key) - 1
  tables : ∀ key, m.tables.get? key = (bundles.filterMap fun b => b.tables.get? key).getLast?
  models : ∀ key, m.models.get? key = (bundles.filterMap fun b => b.models.get? key).getLast?
  secondary : ∀ key,
    m.secondary.get? key = (bundles.filterMap fun b => b.secondary.get? key).getLast?
  secondaryTables : ∀ key,
    m.secondaryTables.get? key = (bundles.filterMap fun b => b.secondaryTables.get? key).getLast?
  dropped : ∀ key, m.dropped.get? key = (bundles.filterMap fun b => b.dropped.get? key).getLast?
  functions : (listed m.functions).Perm (bundles.flatMap fun b => listed b.functions)
  functionCount : m.summary.functions = (bundles.map fun b => b.summary.functions).sum
  endpoints : (listed m.endpoints).Perm (bundles.flatMap fun b => listed b.endpoints)
  endpointCount : m.summary.endpoints = (bundles.map fun b => b.summary.endpoints).sum

theorem gathers_merge (name : String) (bundles : List Bundle) :
    Gathers bundles (merge name bundles) (mergeWarnings name bundles) := by
  have h_functions : (listed (merge name bundles).functions).Perm
      (bundles.flatMap fun b => listed b.functions) :=
    listed_merge_perm (fun _ _ => rfl) (fun _ => rfl) name bundles
  have h_endpoints : (listed (merge name bundles).endpoints).Perm
      (bundles.flatMap fun b => listed b.endpoints) :=
    listed_merge_perm (fun _ _ => rfl) (fun _ => rfl) name bundles
  exact
    { overridden := fun part key => overrideCount_mergeWarnings part key name bundles
      tables := get?_merge (fun _ _ => rfl) (fun _ => rfl) name bundles
      models := get?_merge (fun _ _ => rfl) (fun _ => rfl) name bundles
      secondary := get?_merge (fun _ _ => rfl) (fun _ => rfl) name bundles
      secondaryTables := get?_merge (fun _ _ => rfl) (fun _ => rfl) name bundles
      dropped := get?_merge (fun _ _ => rfl) (fun _ => rfl) name bundles
      functions := h_functions
      functionCount := h_functions.length_eq.trans List.length_flatMap
      endpoints := h_endpoints
      endpointCount := h_endpoints.length_eq.trans List.length_flatMap }

/-- Bundles merge to one bundle in any grouping and with as many warnings.  No bundles merge to the
    empty one, and one bundle to itself, each under the name of the merged bundle. -/
theorem merge_fold (name first second other : String) (xs ys : List Bundle) :
    (merge name [merge first xs, merge second ys]).renamed other = merge other (xs ++ ys) ∧
      merge name [] = empty name ∧
      (∀ b, merge name [b] = b.renamed name) ∧
      Gathers xs (merge name xs) (mergeWarnings name xs) ∧
      ∀ part key,
        overrideCount part key (mergeWarnings first xs) +
            overrideCount part key (mergeWarnings second ys) +
            overrideCount part key (mergeWarnings name [merge first xs, merge second ys]) =
          overrideCount part key (mergeWarnings other (xs ++ ys)) := by
  refine ⟨?_, rfl, empty_absorb name, gathers_merge name xs, ?_⟩
  · calc (merge name [merge first xs, merge second ys]).renamed other
        = merge other [merge first xs, merge second ys] := renamed_merge name other _
      _ = ((empty other).absorbAll xs).absorbAll ys := by
        rw [absorbAll_eq _ first xs, absorbAll_eq _ second ys]
        rfl
      _ = merge other (xs ++ ys) := (absorbAll_append (empty other) xs ys).symm
  · intro part key
    rw [overrideCount_grouped, overrideCount_mergeWarnings, overrideCount_mergeWarnings]

end Bundle

end ResourceGraph
