/-
# Keyed tables

A table is a list of rows, in storage order, whose keys are distinct; the
distinctness is a field, so every operation below carries its own proof.  `get`
reads by key, `put` inserts or replaces in place, `erase` deletes.  The three
`get_…` equations are all a proof about single rows needs; `rows_put_of_new` and
`filter_key` serve the statements about lists of rows.
-/
import Mathlib.Data.List.Nodup

/-- Rows with pairwise distinct keys. -/
structure Table (V K : Type) (key : V → K) where
  rows : List V
  nodup : (rows.map key).Nodup

namespace Table

variable {V K : Type} {key : V → K}

@[ext] theorem ext {T U : Table V K key} (h : T.rows = U.rows) : T = U := by
  cases T; cases U; cases h; rfl

/-- The table without rows. -/
def empty : Table V K key := ⟨[], List.nodup_nil⟩

variable [DecidableEq K]

instance [DecidableEq V] : DecidableEq (Table V K key) := fun T U =>
  decidable_of_iff (T.rows = U.rows) ⟨Table.ext, fun h => h ▸ rfl⟩

/-- The row with key `k`. -/
def get (T : Table V K key) (k : K) : Option V :=
  T.rows.find? (fun v => key v = k)

/-- Replace the row that has the key of `v`, wherever it stands. -/
def replaceRow (key : V → K) (v : V) (rows : List V) : List V :=
  rows.map (fun u => if key u = key v then v else u)

theorem map_key_replaceRow (v : V) (rows : List V) :
    (replaceRow key v rows).map key = rows.map key := by
  rw [replaceRow, List.map_map]
  apply List.map_congr_left
  intro u _
  by_cases h : key u = key v
  · simp [h]
  · simp [h]

/-- Insert a row, or replace the one with the same key in place. -/
def put (T : Table V K key) (v : V) : Table V K key :=
  if h : key v ∈ T.rows.map key then
    ⟨replaceRow key v T.rows, by rw [map_key_replaceRow]; exact T.nodup⟩
  else
    ⟨T.rows ++ [v], by
      rw [List.map_append, List.map_singleton]
      exact List.nodup_append.2 ⟨T.nodup, List.nodup_singleton _, by
        intro a ha b hb hab
        rw [List.mem_singleton] at hb
        exact h (hb ▸ hab ▸ ha)⟩⟩

/-- Delete the row with key `k`. -/
def erase (T : Table V K key) (k : K) : Table V K key :=
  ⟨T.rows.filter (fun v => key v ≠ k), T.nodup.sublist (List.filter_sublist.map key)⟩

/-! ## Reading by key -/

theorem key_of_get {T : Table V K key} {k : K} {v : V} (h : T.get k = some v) : key v = k := by
  have := List.find?_some h
  simpa using this

theorem mem_of_get {T : Table V K key} {k : K} {v : V} (h : T.get k = some v) : v ∈ T.rows :=
  List.mem_of_find?_eq_some h

omit [DecidableEq K] in
/-- Two rows with one key are one row. -/
theorem eq_of_mem_of_key {T : Table V K key} {u v : V} (hu : u ∈ T.rows) (hv : v ∈ T.rows)
    (h : key u = key v) : u = v :=
  List.inj_on_of_nodup_map T.nodup hu hv h

theorem get_of_mem {T : Table V K key} {v : V} (h : v ∈ T.rows) : T.get (key v) = some v := by
  cases hf : T.get (key v) with
  | none =>
      have := List.find?_eq_none.1 hf v h
      simp at this
  | some u => rw [eq_of_mem_of_key (mem_of_get hf) h (key_of_get hf)]

theorem get_eq_none_iff {T : Table V K key} {k : K} : T.get k = none ↔ k ∉ T.rows.map key := by
  rw [get, List.find?_eq_none, List.mem_map]
  constructor
  · rintro h ⟨v, hv, rfl⟩
    simpa using h v hv
  · intro h v hv
    simpa using fun hk => h ⟨v, hv, hk⟩

@[simp] theorem get_empty (k : K) : (empty : Table V K key).get k = none := rfl

theorem rows_put_of_new {T : Table V K key} {v : V} (h : T.get (key v) = none) :
    (T.put v).rows = T.rows ++ [v] := by
  rw [put, dif_neg (get_eq_none_iff.1 h)]

theorem mem_put {T : Table V K key} {u v : V} :
    u ∈ (T.put v).rows ↔ u = v ∨ (key u ≠ key v ∧ u ∈ T.rows) := by
  by_cases h : key v ∈ T.rows.map key
  · rw [put, dif_pos h]
    simp only [replaceRow, List.mem_map]
    constructor
    · rintro ⟨w, hw, rfl⟩
      by_cases hk : key w = key v
      · exact Or.inl (if_pos hk)
      · rw [if_neg hk]
        exact Or.inr ⟨hk, hw⟩
    · rintro (rfl | ⟨hk, hu⟩)
      · obtain ⟨w, hw, hk⟩ := List.mem_map.1 h
        exact ⟨w, hw, if_pos hk⟩
      · exact ⟨u, hu, if_neg hk⟩
  · rw [put, dif_neg h]
    simp only [List.mem_append, List.mem_singleton]
    constructor
    · rintro (hu | rfl)
      · exact Or.inr ⟨fun hk => h (hk ▸ List.mem_map_of_mem hu), hu⟩
      · exact Or.inl rfl
    · rintro (rfl | ⟨-, hu⟩)
      · exact Or.inr rfl
      · exact Or.inl hu

/-- What a read by key finds is determined by membership. -/
theorem get_eq_some_iff {T : Table V K key} {k : K} {v : V} :
    T.get k = some v ↔ v ∈ T.rows ∧ key v = k :=
  ⟨fun h => ⟨mem_of_get h, key_of_get h⟩, fun ⟨hv, hk⟩ => hk ▸ get_of_mem hv⟩

@[simp] theorem get_put (T : Table V K key) (v : V) (k : K) :
    (T.put v).get k = if key v = k then some v else T.get k := by
  apply Option.ext
  intro u
  rw [get_eq_some_iff, mem_put]
  by_cases h : key v = k
  · rw [if_pos h]
    constructor
    · rintro ⟨rfl | ⟨hne, -⟩, hk⟩
      · rfl
      · exact absurd (hk.trans h.symm) hne
    · intro hu
      cases hu
      exact ⟨Or.inl rfl, h⟩
  · rw [if_neg h, get_eq_some_iff]
    constructor
    · rintro ⟨rfl | ⟨-, hu⟩, hk⟩
      · exact absurd hk h
      · exact ⟨hu, hk⟩
    · rintro ⟨hu, hk⟩
      exact ⟨Or.inr ⟨fun he => h (he ▸ hk), hu⟩, hk⟩

/-- Putting a row that is there changes nothing. -/
theorem put_of_mem {T : Table V K key} {v : V} (h : v ∈ T.rows) : T.put v = T := by
  have hkey : key v ∈ T.rows.map key := List.mem_map_of_mem h
  apply Table.ext
  rw [put, dif_pos hkey]
  show replaceRow key v T.rows = T.rows
  conv_rhs => rw [← List.map_id T.rows]
  apply List.map_congr_left
  intro u hu
  by_cases hk : key u = key v
  · rw [if_pos hk, id_eq]
    exact (eq_of_mem_of_key hu h hk).symm
  · rw [if_neg hk, id_eq]

@[simp] theorem get_erase (T : Table V K key) (k' k : K) :
    (T.erase k').get k = if k' = k then none else T.get k := by
  apply Option.ext
  intro u
  rw [get_eq_some_iff, erase]
  simp only [List.mem_filter, decide_not, Bool.not_eq_eq_eq_not, Bool.not_true,
    decide_eq_false_iff_not]
  by_cases h : k' = k
  · subst h
    rw [if_pos rfl]
    simp only [reduceCtorEq, iff_false]
    rintro ⟨⟨-, hne⟩, hk⟩
    exact hne hk
  · rw [if_neg h, get_eq_some_iff]
    constructor
    · rintro ⟨⟨hu, -⟩, hk⟩
      exact ⟨hu, hk⟩
    · rintro ⟨hu, hk⟩
      exact ⟨⟨hu, fun he => h (he.symm.trans hk)⟩, hk⟩

/-! ## Selecting rows -/

/-- A list without repetitions whose only member is `u`. -/
theorem eq_singleton_of_nodup {l : List V} {u : V} (hnd : l.Nodup) (hu : u ∈ l)
    (hall : ∀ v ∈ l, v = u) : l = [u] := by
  match l, hnd, hu, hall with
  | [], _, hu, _ => cases hu
  | [a], _, _, hall => rw [hall a List.mem_cons_self]
  | a :: b :: rest, hnd, _, hall =>
      have ha := hall a List.mem_cons_self
      have hb := hall b (List.mem_cons_of_mem _ List.mem_cons_self)
      rw [ha, hb] at hnd
      exact absurd List.mem_cons_self (List.nodup_cons.1 hnd).1

/-- `SELECT … WHERE key = k AND p` finds the row with that key, if `p` holds of it. -/
theorem filter_key (T : Table V K key) (k : K) (p : V → Bool) :
    T.rows.filter (fun v => key v = k && p v) = ((T.get k).filter p).toList := by
  cases h : T.get k with
  | none =>
      rw [Option.filter_none, Option.toList_none, List.filter_eq_nil_iff]
      intro v hv
      have hk : key v ≠ k := by
        rintro rfl
        rw [get_of_mem hv] at h
        cases h
      simp [hk]
  | some u =>
      have hu := get_eq_some_iff.1 h
      cases hp : p u with
      | true =>
          rw [Option.filter_some_pos hp, Option.toList_some]
          apply eq_singleton_of_nodup (T.nodup.of_map.filter _)
          · rw [List.mem_filter]
            exact ⟨hu.1, by simp [hu.2, hp]⟩
          · intro v hv
            rw [List.mem_filter, Bool.and_eq_true, decide_eq_true_eq] at hv
            exact eq_of_mem_of_key hv.1 hu.1 (hv.2.1.trans hu.2.symm)
      | false =>
          rw [Option.filter_some_neg (by simp [hp]), Option.toList_none,
            List.filter_eq_nil_iff]
          intro v hv hc
          rw [Bool.and_eq_true, decide_eq_true_eq] at hc
          have := eq_of_mem_of_key hv hu.1 (hc.1.trans hu.2.symm)
          rw [this, hp] at hc
          cases hc.2

end Table
