/-
# One owner's share of a table

Some rows of a keyed table belong to an owner, the rest to others.  As long as all open
transactions write rows of the owner only, under keys that no other row has, the owner's share
evolves as if it were the whole table: what is read from it is read from the whole table, and the
rest stays as it is.
-/
import SpendLens.Lib.RowLocks

namespace Table

variable {V K : Type} {key : V → K} {own : V → Bool}

/-- The owner's rows, as a table. -/
def only (own : V → Bool) (T : Table V K key) : Table V K key :=
  ⟨T.rows.filter own, T.nodup.sublist (List.filter_sublist.map key)⟩

/-- The rows of the others. -/
def rest (own : V → Bool) (T : Table V K key) : List V := T.rows.filter (fun v => !own v)

/-- None of these rows has the key. -/
def Unused (key : V → K) (others : List V) (k : K) : Prop := ∀ v ∈ others, key v ≠ k

/-- A row of the owner shares its key with nobody else's. -/
theorem unused_of_mem {T : Table V K key} {v : V} (hv : v ∈ T.rows) (hown : own v = true) :
    Unused key (T.rest own) (key v) := by
  intro u hu hkey
  obtain ⟨hu, hother⟩ := List.mem_filter.1 hu
  rw [eq_of_mem_of_key hu hv hkey, hown] at hother
  exact Bool.noConfusion hother

/-- An owner's rows are among those that are not another one's. -/
theorem only_eq_of_rest_eq {own' : V → Bool} (hne : ∀ v, own v = true → own' v = false)
    {T T' : Table V K key} (h : T.rest own' = T'.rest own') : T.only own = T'.only own := by
  have hrows : ∀ T : Table V K key, (T.rest own').filter own = T.rows.filter own := by
    intro T
    rw [rest, List.filter_filter]
    refine List.filter_congr (fun v _ => ?_)
    cases hv : own v with
    | true => rw [hne v hv]; rfl
    | false => rfl
  apply ext
  show T.rows.filter own = T'.rows.filter own
  rw [← hrows T, ← hrows T', h]

variable [DecidableEq K]

/-- Under a key that nobody else uses there is a row of the owner, if any. -/
theorem own_of_get {T : Table V K key} {k : K} {v : V} (hk : Unused key (T.rest own) k)
    (h : T.get k = some v) : own v = true := by
  by_contra hother
  refine hk v (List.mem_filter.2 ⟨mem_of_get h, ?_⟩) (key_of_get h)
  rw [Bool.not_eq_true] at hother
  rw [hother]
  rfl

/-- The owner finds the row. -/
theorem get_only {T : Table V K key} {k : K} (hk : Unused key (T.rest own) k) :
    (T.only own).get k = T.get k := by
  cases h : T.get k with
  | none =>
      rw [get_eq_none_iff] at h ⊢
      exact fun hc => h ((List.filter_sublist.map key).subset hc)
  | some v =>
      rw [get_eq_some_iff]
      exact ⟨List.mem_filter.2 ⟨mem_of_get h, own_of_get hk h⟩, key_of_get h⟩

theorem mem_map_key_only {T : Table V K key} {k : K} (hk : Unused key (T.rest own) k) :
    k ∈ (T.only own).rows.map key ↔ k ∈ T.rows.map key := by
  rw [← not_iff_not, ← get_eq_none_iff, ← get_eq_none_iff, get_only hk]

/-- Replacing a row of the owner replaces it in the share. -/
theorem filter_replaceRow {v : V} (hv : own v = true) {rows : List V}
    (hk : ∀ u ∈ rows, key u = key v → own u = true) :
    (replaceRow key v rows).filter own = replaceRow key v (rows.filter own) := by
  induction rows with
  | nil => rfl
  | cons u rows ih =>
      have ih := ih (fun w hw => hk w (List.mem_cons_of_mem _ hw))
      rw [replaceRow, List.map_cons, ← replaceRow]
      by_cases hu : key u = key v
      · rw [if_pos hu, List.filter_cons_of_pos hv, ih,
          List.filter_cons_of_pos (hk u List.mem_cons_self hu), replaceRow, replaceRow,
          List.map_cons, if_pos hu]
      · rw [if_neg hu]
        cases hown : own u with
        | true =>
            rw [List.filter_cons_of_pos hown, ih, List.filter_cons_of_pos hown, replaceRow,
              replaceRow, List.map_cons, if_neg hu]
        | false =>
            have hnot : ¬own u = true := by rw [hown]; exact Bool.false_ne_true
            rw [List.filter_cons_of_neg hnot, ih, List.filter_cons_of_neg hnot]

/-- And leaves the rest. -/
theorem filter_not_replaceRow {v : V} (hv : own v = true) {rows : List V}
    (hk : ∀ u ∈ rows, key u = key v → own u = true) :
    (replaceRow key v rows).filter (fun u => !own u) = rows.filter (fun u => !own u) := by
  induction rows with
  | nil => rfl
  | cons u rows ih =>
      have ih := ih (fun w hw => hk w (List.mem_cons_of_mem _ hw))
      rw [replaceRow, List.map_cons, ← replaceRow]
      by_cases hu : key u = key v
      · have hown := hk u List.mem_cons_self hu
        rw [if_pos hu, List.filter_cons_of_neg (by simp [hv]), ih,
          List.filter_cons_of_neg (by simp [hown])]
      · rw [if_neg hu, List.filter_cons, List.filter_cons, ih]

variable {T : Table V K key} {v : V} {k : K}

theorem own_of_key (hk : Unused key (T.rest own) (key v)) :
    ∀ u ∈ T.rows, key u = key v → own u = true :=
  fun _ hu hkey => own_of_get hk (get_eq_some_iff.2 ⟨hu, hkey⟩)

theorem rows_put_of_mem (h : key v ∈ T.rows.map key) :
    (T.put v).rows = replaceRow key v T.rows := by
  rw [put, dif_pos h]

theorem rows_put_of_not_mem (h : key v ∉ T.rows.map key) : (T.put v).rows = T.rows ++ [v] := by
  rw [put, dif_neg h]

/-- **Writing a row of the owner** writes it into the share. -/
theorem only_put (hv : own v = true) (hk : Unused key (T.rest own) (key v)) :
    (T.put v).only own = (T.only own).put v := by
  apply ext
  by_cases hmem : key v ∈ T.rows.map key
  · show (T.put v).rows.filter own = ((T.only own).put v).rows
    rw [rows_put_of_mem hmem, rows_put_of_mem ((mem_map_key_only hk).2 hmem)]
    exact filter_replaceRow hv (own_of_key hk)
  · show (T.put v).rows.filter own = ((T.only own).put v).rows
    rw [rows_put_of_not_mem hmem, rows_put_of_not_mem (fun hc => hmem ((mem_map_key_only hk).1 hc)),
      List.filter_append, List.filter_cons_of_pos hv, List.filter_nil]
    rfl

theorem rest_put (hv : own v = true) (hk : Unused key (T.rest own) (key v)) :
    (T.put v).rest own = T.rest own := by
  by_cases hmem : key v ∈ T.rows.map key
  · rw [rest, rows_put_of_mem hmem]
    exact filter_not_replaceRow hv (own_of_key hk)
  · rw [rest, rows_put_of_not_mem hmem, List.filter_append, List.filter_cons_of_neg (by simp [hv]),
      List.filter_nil, List.append_nil]
    rfl

/-- **Deleting a row** deletes it from the share. -/
theorem only_erase : (T.erase k).only own = (T.only own).erase k := by
  apply ext
  show (T.rows.filter _).filter own = (T.rows.filter own).filter _
  rw [List.filter_filter, List.filter_filter]
  congr 1
  funext u
  rw [Bool.and_comm]

theorem rest_erase (hk : Unused key (T.rest own) k) : (T.erase k).rest own = T.rest own := by
  show (T.rows.filter _).filter (fun u => !own u) = T.rows.filter (fun u => !own u)
  rw [List.filter_filter]
  refine List.filter_congr (fun u hu => ?_)
  cases hown : own u with
  | true => rfl
  | false =>
      have hne : key u ≠ k := hk u (List.mem_filter.2 ⟨hu, by rw [hown]; rfl⟩)
      simp [hne]

end Table

/-! ## Open transactions -/

namespace Store

variable {Tx V K X : Type} {key : V → K} {own : V → Bool}

/-- The owner's rows, with what is being written. -/
def only (own : V → Bool) (s : Store Tx V K key) : Store Tx V K key :=
  ⟨s.committed.only own, s.pending⟩

/-- A write of the owner's: of a row of his, under a key that nobody else uses. -/
def Proper (key : V → K) (own : V → Bool) (others : List V) (w : Write V K) : Prop :=
  Table.Unused key others (w.key key) ∧ ∀ v, w = .put v → own v = true

/-- **The others have these rows**, and all that is being written is the owner's. -/
structure Apart (own : V → Bool) (others : List V) (s : Store Tx V K key) : Prop where
  rest : s.committed.rest own = others
  proper : ∀ p ∈ s.pending, Proper key own others p.2

/-- Between transactions an owner's share is among the rows that are not another one's. -/
theorem only_eq_of_rest_eq {own' : V → Bool} (hne : ∀ v, own v = true → own' v = false)
    {s s' : Store Tx V K key} (hpending : s.pending = []) (hpending' : s'.pending = [])
    (h : s.committed.rest own' = s'.committed.rest own') : s.only own = s'.only own := by
  rw [only, only, hpending, hpending', Table.only_eq_of_rest_eq hne h]

theorem apart_of_pending_nil {s : Store Tx V K key} (h : s.pending = []) :
    s.Apart own (s.committed.rest own) := by
  refine ⟨rfl, fun p hp => ?_⟩
  rw [h] at hp
  exact absurd hp List.not_mem_nil

variable [DecidableEq K]

/-- Writes of the owner, seen by the owner and by the others. -/
theorem only_foldl_apply {T : Table V K key} {ws : List (Write V K)}
    (hws : ∀ w ∈ ws, Proper key own (T.rest own) w) :
    (ws.foldl Write.apply T).only own = ws.foldl Write.apply (T.only own) ∧
      (ws.foldl Write.apply T).rest own = T.rest own := by
  induction ws generalizing T with
  | nil => exact ⟨rfl, rfl⟩
  | cons w ws ih =>
      obtain ⟨hkey, hown⟩ := hws w List.mem_cons_self
      have hboth : (w.apply T).only own = w.apply (T.only own) ∧
          (w.apply T).rest own = T.rest own := by
        cases w with
        | put v => exact ⟨Table.only_put (hown v rfl) hkey, Table.rest_put (hown v rfl) hkey⟩
        | del k => exact ⟨Table.only_erase, Table.rest_erase hkey⟩
      rw [List.foldl_cons, List.foldl_cons, ← hboth.1]
      have hrest := ih (T := w.apply T) (fun u hu => by
        rw [hboth.2]
        exact hws u (List.mem_cons_of_mem _ hu))
      exact ⟨hrest.1, hrest.2.trans hboth.2⟩

variable [DecidableEq Tx] {others : List V} {s : Store Tx V K key}

/-- Locks are taken by what is being written. -/
@[simp] theorem locked_only (t : Tx) (k : K) :
    (s.only own).locked t k = s.locked t k := rfl

omit [DecidableEq K] in
theorem Apart.writes (h : s.Apart own others) (t : Tx) :
    ∀ w ∈ s.writes t, Proper key own (s.committed.rest own) w := by
  intro w hw
  obtain ⟨p, hp, rfl⟩ := List.mem_map.1 hw
  rw [h.rest]
  exact h.proper p (List.mem_filter.1 hp).1

/-- The owner sees his share of what there is to see. -/
theorem Apart.view_only (h : s.Apart own others) (t : Tx) :
    (s.only own).view t = (s.view t).only own :=
  (only_foldl_apply (h.writes t)).1.symm

theorem Apart.rest_view (h : s.Apart own others) (t : Tx) : (s.view t).rest own = others :=
  (only_foldl_apply (h.writes t)).2.trans h.rest

theorem Apart.get_view (h : s.Apart own others) (t : Tx) {k : K}
    (hk : Table.Unused key others k) : ((s.only own).view t).get k = (s.view t).get k := by
  rw [h.view_only]
  exact Table.get_only (by rw [h.rest_view]; exact hk)

omit [DecidableEq K] [DecidableEq Tx] in
/-- The rows of the others are not the owner's. -/
theorem Apart.other (h : s.Apart own others) {v : V} (hv : v ∈ others) : own v = false := by
  rw [← h.rest] at hv
  have hother := (List.mem_filter.1 hv).2
  rwa [Bool.not_eq_true'] at hother

omit [DecidableEq K] [DecidableEq Tx] in
theorem Apart.mem_others (h : s.Apart own others) {v : V} (hv : v ∈ s.committed.rows)
    (hown : own v = false) : v ∈ others := by
  rw [← h.rest]
  exact List.mem_filter.2 ⟨hv, by rw [hown]; rfl⟩

/-- A selection of rows of the owner, from his share. -/
theorem Apart.filter_view (h : s.Apart own others) (t : Tx) {p : V → Bool}
    (hp : ∀ v ∈ (s.view t).rows, p v = true → own v = true) :
    ((s.only own).view t).rows.filter p = (s.view t).rows.filter p := by
  rw [h.view_only]
  show ((s.view t).rows.filter own).filter p = _
  rw [List.filter_filter]
  refine List.filter_congr (fun v hv => ?_)
  cases hpv : p v with
  | true => rw [hp v hv hpv, Bool.true_and]
  | false => rw [Bool.false_and]

/-- A row of the owner's that is seen shares its key with nobody else's. -/
theorem Apart.unused_of_mem (h : s.Apart own others) {t : Tx} {v : V} (hv : v ∈ (s.view t).rows)
    (hown : own v = true) : Table.Unused key others (key v) := by
  have hunused := Table.unused_of_mem hv hown
  rwa [h.rest_view] at hunused

theorem Apart.own_of_get (h : s.Apart own others) {t : Tx} {k : K} {v : V}
    (hk : Table.Unused key others k) (hv : (s.view t).get k = some v) : own v = true :=
  Table.own_of_get (by rw [h.rest_view]; exact hk) hv

/-- A row that is seen under a key that nobody else uses is the owner's. -/
theorem Apart.own_of_mem (h : s.Apart own others) {t : Tx} {v : V} (hv : v ∈ (s.view t).rows)
    (hk : Table.Unused key others (key v)) : own v = true :=
  h.own_of_get hk (Table.get_of_mem hv)

omit [DecidableEq K] [DecidableEq Tx] in
theorem Apart.stage (h : s.Apart own others) (t : Tx) {w : Write V K}
    (hw : Proper key own others w) : (s.stage t w).Apart own others := by
  refine ⟨h.rest, fun p hp => ?_⟩
  rcases List.mem_append.1 hp with hp | hp
  · exact h.proper p hp
  · rw [List.mem_singleton.1 hp]
    exact hw

omit [DecidableEq K] [DecidableEq Tx] in
theorem Apart.stageAll (h : s.Apart own others) (t : Tx) {ws : List (Write V K)}
    (hws : ∀ w ∈ ws, Proper key own others w) : (s.stageAll t ws).Apart own others := by
  induction ws generalizing s with
  | nil => exact h
  | cons w ws ih =>
      exact ih (h.stage t (hws w List.mem_cons_self))
        (fun u hu => hws u (List.mem_cons_of_mem _ hu))

omit [DecidableEq K] [DecidableEq Tx] in
theorem only_stageAll (t : Tx) (ws : List (Write V K)) :
    (s.stageAll t ws).only own = (s.only own).stageAll t ws := by
  induction ws generalizing s with
  | nil => rfl
  | cons w ws ih => exact ih

theorem Apart.commit (h : s.Apart own others) (t : Tx) : (s.commit t).Apart own others :=
  ⟨h.rest_view t, fun p hp => h.proper p (List.mem_filter.1 hp).1⟩

omit [DecidableEq K] in
theorem Apart.rollback (h : s.Apart own others) (t : Tx) : (s.rollback t).Apart own others :=
  ⟨h.rest, fun p hp => h.proper p (List.mem_filter.1 hp).1⟩

theorem Apart.only_commit (h : s.Apart own others) (t : Tx) :
    (s.commit t).only own = (s.only own).commit t := by
  show Store.mk ((s.view t).only own) _ = Store.mk ((s.only own).view t) _
  rw [h.view_only]
  rfl

section entries

variable [DecidableEq X] {f : V → Option X}

/-- Index entries that only rows of the owner have are found in his share. -/
theorem Apart.duplicate_only (h : s.Apart own others) (t : Tx) {entry : Option X}
    (hown : ∀ x, entry = some x → ∀ v, f v = some x → own v = true) :
    entry.any (fun x => (s.only own).duplicate t f x) =
      entry.any (fun x => s.duplicate t f x) := by
  cases entry with
  | none => rfl
  | some x =>
      show (s.only own).duplicate t f x = s.duplicate t f x
      rw [duplicate, duplicate, h.view_only]
      show ((s.view t).rows.filter own).any _ = _
      rw [List.any_filter]
      congr 1
      funext v
      cases hv : own v with
      | true => rw [Bool.true_and]
      | false =>
          have hne : f v ≠ some x := fun hf => by
            rw [hown x rfl v hf] at hv
            cases hv
          rw [Bool.false_and, decide_eq_false hne]

/-- What an entry waits for is being written by the owner. -/
theorem Apart.contended_only (h : s.Apart own others) (t : Tx) (entry : Option X) :
    entry.any (fun x => (s.only own).contended t f x) =
      entry.any (fun x => s.contended t f x) := by
  have hget : ∀ p ∈ s.pending,
      (s.committed.only own).get (p.2.key key) = s.committed.get (p.2.key key) :=
    fun p hp => Table.get_only (by rw [h.rest]; exact (h.proper p hp).1)
  cases entry with
  | none => rfl
  | some x =>
      show (s.only own).contended t f x = s.contended t f x
      rw [contended, contended, Bool.eq_iff_iff, List.any_eq_true, List.any_eq_true]
      constructor
      · rintro ⟨p, hp, htest⟩
        refine ⟨p, hp, ?_⟩
        rwa [show (s.only own).committed = s.committed.only own from rfl, hget p hp] at htest
      · rintro ⟨p, hp, htest⟩
        refine ⟨p, hp, ?_⟩
        rwa [show (s.only own).committed = s.committed.only own from rfl, hget p hp]

end entries

end Store
