/-
# Grouped rows and dictionaries

`groupBy` lists the keys that occur among some rows, each with its rows, as a
`GROUP BY` does.  A query may return the groups in any order, so the facts about
sums hold for every rearrangement.  A `Dict` is a dictionary seen through its
lookups, filled from pairs with distinct keys or by accumulating amounts under
keys.
-/
import Mathlib.Algebra.BigOperators.Group.List.Basic
import Mathlib.Data.List.Dedup
import Mathlib.Logic.Function.Basic

namespace Grouping

/-! ## Groups -/

section groupBy

variable {V K M : Type} [DecidableEq K]

/-- The rows with a key. -/
def rowsOf (key : V → K) (rows : List V) (k : K) : List V := rows.filter (fun v => key v = k)

/-- The keys that occur, each with its rows. -/
def groupBy (key : V → K) (rows : List V) : List (K × List V) :=
  (rows.map key).dedup.map (fun k => (k, rowsOf key rows k))

theorem keys_groupBy (key : V → K) (rows : List V) :
    (groupBy key rows).map Prod.fst = (rows.map key).dedup := by
  rw [groupBy, List.map_map]
  exact List.map_id _

theorem nodup_keys_groupBy (key : V → K) (rows : List V) :
    ((groupBy key rows).map Prod.fst).Nodup := by
  rw [keys_groupBy]
  exact List.nodup_dedup _

/-- A group has the rows of its key, and there is one for every key that occurs. -/
theorem mem_groupBy {key : V → K} {rows : List V} {g : K × List V} :
    g ∈ groupBy key rows ↔ (∃ v ∈ rows, key v = g.1) ∧ g.2 = rowsOf key rows g.1 := by
  rw [groupBy, List.mem_map]
  constructor
  · rintro ⟨k, hk, rfl⟩
    rw [List.mem_dedup, List.mem_map] at hk
    exact ⟨hk, rfl⟩
  · rintro ⟨hk, hrows⟩
    refine ⟨g.1, ?_, ?_⟩
    · rw [List.mem_dedup, List.mem_map]
      exact hk
    · rw [← hrows]

theorem rowsOf_cons (key : V → K) (v : V) (rows : List V) (k : K) :
    rowsOf key (v :: rows) k = if key v = k then v :: rowsOf key rows k else rowsOf key rows k := by
  rw [rowsOf, List.filter_cons]
  by_cases h : key v = k
  · rw [if_pos (by simpa using h), if_pos h]
    rfl
  · rw [if_neg (by simpa using h), if_neg h]
    rfl

/-- The group of a key, among the groups that pass a test no empty group passes. -/
theorem filter_groupBy_key (key : V → K) (rows : List V) (k : K) {p : List V → Bool}
    (hp : p [] = false) :
    ((groupBy key rows).filter (fun g => p g.2)).filter (fun g => g.1 = k) =
      if p (rowsOf key rows k) = true then [(k, rowsOf key rows k)] else [] := by
  have hkeys : (rows.map key).dedup.filter (fun j => j = k) =
      if k ∈ (rows.map key).dedup then [k] else [] := by
    rw [List.filter_eq, (List.nodup_dedup _).count]
    split <;> rfl
  have hgroup : (groupBy key rows).filter (fun g => g.1 = k) =
      if k ∈ (rows.map key).dedup then [(k, rowsOf key rows k)] else [] := by
    rw [groupBy, List.filter_map]
    show ((rows.map key).dedup.filter (fun j => j = k)).map _ = _
    rw [hkeys]
    split <;> rfl
  rw [List.filter_comm, hgroup]
  by_cases hk : k ∈ (rows.map key).dedup
  · rw [if_pos hk, List.filter_cons]
    rfl
  · have hempty : rowsOf key rows k = [] := by
      rw [rowsOf, List.filter_eq_nil_iff]
      intro v hv hkey
      apply hk
      rw [List.mem_dedup]
      exact List.mem_map.2 ⟨v, hv, of_decide_eq_true hkey⟩
    rw [if_neg hk, hempty, hp]
    rfl

variable [AddCommMonoid M]

/-- An amount at one key of a list without repetitions. -/
theorem sum_single {ks : List K} (hks : ks.Nodup) {k : K} (hk : k ∈ ks) (m : M) :
    (ks.map (fun j => if k = j then m else 0)).sum = m := by
  induction ks with
  | nil => cases hk
  | cons j ks ih =>
      rw [List.nodup_cons] at hks
      rw [List.map_cons, List.sum_cons]
      by_cases hj : k = j
      · have hzero : ks.map (fun i => if k = i then m else 0) = ks.map (fun _ => 0) := by
          apply List.map_congr_left
          intro i hi
          rw [if_neg]
          rintro rfl
          exact hks.1 (hj ▸ hi)
        rw [if_pos hj, hzero, List.map_const', List.sum_replicate, nsmul_zero, add_zero]
      · rw [if_neg hj, zero_add]
        exact ih hks.2 ((List.mem_cons.1 hk).resolve_left hj)

/-- **Nothing is lost and nothing is counted twice**: the sums by key add up to the sum,
for every list of keys without repetitions that has all that occur. -/
theorem sum_rowsOf (key : V → K) (f : V → M) {ks : List K} (hks : ks.Nodup) :
    ∀ {rows : List V}, (∀ v ∈ rows, key v ∈ ks) →
      (ks.map (fun k => ((rowsOf key rows k).map f).sum)).sum = (rows.map f).sum
  | [], _ => by simp [rowsOf]
  | v :: rows, h => by
      have ih := sum_rowsOf key f hks (fun u hu => h u (List.mem_cons_of_mem _ hu))
      have hsplit : ks.map (fun k => ((rowsOf key (v :: rows) k).map f).sum) =
          ks.map (fun k => (if key v = k then f v else 0) + ((rowsOf key rows k).map f).sum) := by
        apply List.map_congr_left
        intro k _
        rw [rowsOf_cons]
        by_cases hk : key v = k
        · rw [if_pos hk, if_pos hk, List.map_cons, List.sum_cons]
        · rw [if_neg hk, if_neg hk, zero_add]
      rw [hsplit, List.sum_map_add, ih, sum_single hks (h v List.mem_cons_self), List.map_cons,
        List.sum_cons]

/-- The sums of the groups add up to the sum. -/
theorem sum_groupBy (key : V → K) (f : V → M) (rows : List V) :
    ((groupBy key rows).map (fun g => (g.2.map f).sum)).sum = (rows.map f).sum := by
  rw [groupBy, List.map_map]
  refine sum_rowsOf key f (List.nodup_dedup _) (fun v hv => ?_)
  rw [List.mem_dedup]
  exact List.mem_map_of_mem hv

end groupBy

/-! ## Dictionaries -/

/-- A dictionary, by its lookups. -/
def Dict (K V : Type) : Type := K → Option V

namespace Dict

variable {K V R M : Type} [DecidableEq K]

def empty : Dict K V := fun _ => none

/-- `d[k] = v`. -/
def set (d : Dict K V) (k : K) (v : V) : Dict K V := Function.update d k (some v)

/-- `d.get(k, default)`. -/
def getD (d : Dict K V) (k : K) (default : V) : V := (d k).getD default

omit [DecidableEq K] in
@[simp] theorem getD_empty (k : K) (v : V) : (empty : Dict K V).getD k v = v := rfl

theorem set_self (d : Dict K V) (k : K) (v : V) : d.set k v k = some v := Function.update_self _ _ _

theorem set_of_ne (d : Dict K V) {k j : K} (v : V) (h : j ≠ k) : d.set k v j = d j :=
  Function.update_of_ne h _ _

/-- Fill a dictionary from pairs. -/
def ofPairs (pairs : List (K × V)) : Dict K V := pairs.foldl (fun d p => d.set p.1 p.2) empty

theorem foldl_set_of_not_mem {pairs : List (K × V)} {k : K} (hk : k ∉ pairs.map Prod.fst) :
    ∀ d : Dict K V, pairs.foldl (fun d p => d.set p.1 p.2) d k = d k := by
  induction pairs with
  | nil => intro d; rfl
  | cons p pairs ih =>
      intro d
      rw [List.map_cons, List.mem_cons, not_or] at hk
      rw [List.foldl_cons, ih hk.2]
      exact set_of_ne d p.2 hk.1

/-- A key that is not among the pairs. -/
theorem ofPairs_of_not_mem {pairs : List (K × V)} {k : K} (hk : k ∉ pairs.map Prod.fst) :
    ofPairs pairs k = none :=
  foldl_set_of_not_mem hk empty

/-- The value of a key, if no key is repeated. -/
theorem ofPairs_of_mem {pairs : List (K × V)} (hnd : (pairs.map Prod.fst).Nodup) {k : K} {v : V}
    (hmem : (k, v) ∈ pairs) : ofPairs pairs k = some v := by
  have key : ∀ d : Dict K V, pairs.foldl (fun d p => d.set p.1 p.2) d k = some v := by
    induction pairs with
    | nil => cases hmem
    | cons p pairs ih =>
        intro d
        rw [List.map_cons, List.nodup_cons] at hnd
        rw [List.foldl_cons]
        rcases List.mem_cons.1 hmem with rfl | hmem
        · rw [foldl_set_of_not_mem hnd.1]
          exact set_self d _ _
        · exact ih hnd.2 hmem _
  exact key empty

/-- **A dictionary of group values** looks up the value of the rows of a key, in whatever
order the groups are entered. -/
theorem getD_ofPairs_groupBy {W : Type} {key : R → K} {rows : List R} {groups : List (K × List R)}
    (h : groups.Perm (groupBy key rows)) (f : List R → W) (k : K) :
    (ofPairs (groups.map (fun g => (g.1, f g.2)))).getD k (f []) = f (rowsOf key rows k) := by
  have hfst : (groups.map (fun g => (g.1, f g.2))).map Prod.fst = groups.map Prod.fst := by
    rw [List.map_map]
    rfl
  have hkeys : (groups.map Prod.fst).Perm ((groupBy key rows).map Prod.fst) := h.map _
  by_cases hk : ∃ v ∈ rows, key v = k
  · have hmem : (k, rowsOf key rows k) ∈ groups := h.mem_iff.2 (mem_groupBy.2 ⟨hk, rfl⟩)
    have hnd : ((groups.map (fun g => (g.1, f g.2))).map Prod.fst).Nodup := by
      rw [hfst]
      exact hkeys.nodup_iff.2 (nodup_keys_groupBy key rows)
    have hval := ofPairs_of_mem hnd (List.mem_map_of_mem hmem)
    rw [getD, hval, Option.getD_some]
  · have hrows : rowsOf key rows k = [] := by
      rw [rowsOf, List.filter_eq_nil_iff]
      intro v hv heq
      exact hk ⟨v, hv, by simpa using heq⟩
    have hnot : k ∉ (groups.map (fun g => (g.1, f g.2))).map Prod.fst := by
      rw [hfst, hkeys.mem_iff, keys_groupBy, List.mem_dedup, List.mem_map]
      exact hk
    rw [getD, ofPairs_of_not_mem hnot, hrows, Option.getD_none]

variable [AddCommMonoid M]

/-- Add up amounts under keys. -/
def accumulate (key : R → K) (f : R → M) (rows : List R) : Dict K M :=
  rows.foldl (fun d r => d.set (key r) (d.getD (key r) 0 + f r)) empty

/-- **What is accumulated under a key** is the sum of its rows. -/
theorem getD_accumulate (key : R → K) (f : R → M) (rows : List R) (k : K) :
    (accumulate key f rows).getD k 0 = ((rowsOf key rows k).map f).sum := by
  have hfold : ∀ d : Dict K M,
      (rows.foldl (fun d r => d.set (key r) (d.getD (key r) 0 + f r)) d).getD k 0 =
        d.getD k 0 + ((rowsOf key rows k).map f).sum := by
    induction rows with
    | nil => intro d; exact (add_zero _).symm
    | cons r rows ih =>
        intro d
        rw [List.foldl_cons, ih, rowsOf_cons]
        by_cases hk : key r = k
        · subst hk
          rw [if_pos rfl, List.map_cons, List.sum_cons, ← add_assoc]
          congr 1
          rw [getD, set_self]
          rfl
        · rw [if_neg hk]
          congr 1
          rw [getD, set_of_ne _ _ (Ne.symm hk)]
          rfl
  rw [accumulate, hfold, getD_empty, zero_add]

end Dict

end Grouping
