/-
# Tables under READ COMMITTED with row locks

A `Store` is a committed table together with the row writes that open
transactions have made and not yet committed.  A transaction sees the committed
rows overlaid with its own writes (`view`), statement by statement, and holds a
lock on every row it has written: another transaction that wants to write the
row waits (`locked`).  `commit` publishes a transaction's writes, `rollback`
discards them.

The single fact every proof about interleaved transactions rests on is
`Exclusive`: no row is written by two open transactions.  A row that a
transaction has written therefore cannot change under it.  `UniqueOn` is the
same for a unique index.
-/
import SpendLens.Lib.Table

/-- One row write. -/
inductive Write (V K : Type) where
  | put (v : V)
  | del (k : K)
  deriving DecidableEq

namespace Write

variable {V K : Type}

/-- The key of the row that is written. -/
def key (f : V → K) : Write V K → K
  | put v => f v
  | del k => k

/-- What the row is afterwards. -/
def result : Write V K → Option V
  | put v => some v
  | del _ => none

/-- The effect on a table. -/
def apply {f : V → K} [DecidableEq K] (T : Table V K f) : Write V K → Table V K f
  | put v => T.put v
  | del k => T.erase k

theorem get_apply {f : V → K} [DecidableEq K] (T : Table V K f) (w : Write V K) (k : K) :
    (w.apply T).get k = if w.key f = k then w.result else T.get k := by
  cases w with
  | put v => exact Table.get_put T v k
  | del k' => exact Table.get_erase T k' k

end Write

/-- A committed table and the uncommitted writes of the transactions `Tx`, in
the order they were made. -/
structure Store (Tx V K : Type) (key : V → K) where
  committed : Table V K key
  pending : List (Tx × Write V K)

namespace Store

variable {Tx V K : Type} {key : V → K}

/-- A store no transaction has written to. -/
def ofTable (T : Table V K key) : Store Tx V K key := ⟨T, []⟩

variable [DecidableEq Tx] [DecidableEq K]

/-- The uncommitted writes of a transaction, oldest first. -/
def writes (s : Store Tx V K key) (t : Tx) : List (Write V K) :=
  (s.pending.filter (fun p => p.1 = t)).map Prod.snd

/-- What the next statement of a transaction sees. -/
def view (s : Store Tx V K key) (t : Tx) : Table V K key :=
  (s.writes t).foldl Write.apply s.committed

/-- Does another open transaction hold the lock on row `k`? -/
def locked (s : Store Tx V K key) (t : Tx) (k : K) : Bool :=
  s.pending.any (fun p => p.1 ≠ t && p.2.key key = k)

/-- Does another open transaction hold an index entry `x`, either because it has
written a row with it or because it has changed a committed row that has it? -/
def contended {X : Type} [DecidableEq X] (s : Store Tx V K key) (t : Tx) (f : V → Option X)
    (x : X) : Bool :=
  s.pending.any (fun p => p.1 ≠ t &&
    (p.2.result.bind f = some x || (s.committed.get (p.2.key key)).bind f = some x))

/-- Does a row the transaction sees have index entry `x`? -/
def duplicate {X : Type} [DecidableEq X] (s : Store Tx V K key) (t : Tx) (f : V → Option X)
    (x : X) : Bool :=
  (s.view t).rows.any (fun v => f v = some x)

/-- Record a row write. -/
def stage (s : Store Tx V K key) (t : Tx) (w : Write V K) : Store Tx V K key :=
  { s with pending := s.pending ++ [(t, w)] }

/-- Record several row writes. -/
def stageAll (s : Store Tx V K key) (t : Tx) (ws : List (Write V K)) : Store Tx V K key :=
  ws.foldl (fun s w => s.stage t w) s

/-- Publish the writes of a transaction and release its locks. -/
def commit (s : Store Tx V K key) (t : Tx) : Store Tx V K key :=
  ⟨s.view t, s.pending.filter (fun p => p.1 ≠ t)⟩

/-- Discard the writes of a transaction and release its locks. -/
def rollback (s : Store Tx V K key) (t : Tx) : Store Tx V K key :=
  { s with pending := s.pending.filter (fun p => p.1 ≠ t) }

/-! ## Rows by key -/

/-- The last uncommitted write of a transaction to row `k`, as the row it leaves. -/
def staged (s : Store Tx V K key) (t : Tx) (k : K) : Option (Option V) :=
  ((s.writes t).reverse.find? (fun w => w.key key = k)).map Write.result

theorem get_foldl_apply (T : Table V K key) (ws : List (Write V K)) (k : K) :
    (ws.foldl Write.apply T).get k =
      ((ws.reverse.find? (fun w => w.key key = k)).map Write.result).getD (T.get k) := by
  induction ws generalizing T with
  | nil => rfl
  | cons w ws ih =>
      rw [List.foldl_cons, ih, List.reverse_cons, List.find?_append, Write.get_apply]
      cases h : ws.reverse.find? (fun w => w.key key = k) with
      | some u => rfl
      | none =>
          by_cases hk : w.key key = k
          · simp [hk]
          · simp [hk]

/-- A transaction sees its own last write to a row, else the committed row. -/
theorem get_view (s : Store Tx V K key) (t : Tx) (k : K) :
    (s.view t).get k = (s.staged t k).getD (s.committed.get k) :=
  get_foldl_apply s.committed (s.writes t) k

omit [DecidableEq Tx] [DecidableEq K] in
@[simp] theorem committed_stage (s : Store Tx V K key) (t : Tx) (w : Write V K) :
    (s.stage t w).committed = s.committed := rfl

omit [DecidableEq Tx] [DecidableEq K] in
@[simp] theorem committed_stageAll (s : Store Tx V K key) (t : Tx) (ws : List (Write V K)) :
    (s.stageAll t ws).committed = s.committed := by
  induction ws generalizing s with
  | nil => rfl
  | cons w ws ih => exact ih (s.stage t w)

omit [DecidableEq K] in
@[simp] theorem committed_rollback (s : Store Tx V K key) (t : Tx) :
    (s.rollback t).committed = s.committed := rfl

@[simp] theorem committed_commit (s : Store Tx V K key) (t : Tx) :
    (s.commit t).committed = s.view t := rfl

omit [DecidableEq K] in
theorem writes_stage (s : Store Tx V K key) (t t' : Tx) (w : Write V K) :
    (s.stage t w).writes t' = s.writes t' ++ if t = t' then [w] else [] := by
  rw [writes, writes, stage, List.filter_append, List.map_append]
  by_cases h : t = t'
  · simp [h]
  · simp [h]

omit [DecidableEq K] in
theorem writes_filter_ne (s : Store Tx V K key) (t t' : Tx) (T : Table V K key) :
    (⟨T, s.pending.filter (fun p => p.1 ≠ t)⟩ : Store Tx V K key).writes t' =
      if t' = t then [] else s.writes t' := by
  rw [writes, writes, List.filter_filter]
  by_cases h : t' = t
  · subst h
    rw [if_pos rfl, List.map_eq_nil_iff, List.filter_eq_nil_iff]
    intro p _
    by_cases hp : p.1 = t' <;> simp [hp]
  · rw [if_neg h]
    congr 1
    apply List.filter_congr
    intro p _
    by_cases hp : p.1 = t'
    · simp [hp, h]
    · simp [hp]

/-- Recording a write changes what is staged on that row, for that transaction. -/
theorem staged_stage (s : Store Tx V K key) (t t' : Tx) (w : Write V K) (k : K) :
    (s.stage t w).staged t' k =
      if t = t' ∧ w.key key = k then some w.result else s.staged t' k := by
  rw [staged, writes_stage]
  by_cases h : t = t'
  · subst h
    rw [if_pos rfl, List.reverse_append, List.reverse_singleton, List.singleton_append,
      List.find?_cons]
    by_cases hk : w.key key = k
    · simp [hk]
    · simp [hk, staged]
  · rw [if_neg h, List.append_nil, if_neg (fun hc => h hc.1), staged]

/-- What several writes leave staged on a row is the row of one of them, or was staged
before. -/
theorem staged_stageAll_cases {s : Store Tx V K key} {t t' : Tx} {ws : List (Write V K)} {k : K}
    {y : Option V} (h : (s.stageAll t ws).staged t' k = some y) :
    s.staged t' k = some y ∨ t' = t ∧ ∃ w ∈ ws, w.key key = k ∧ w.result = y := by
  induction ws generalizing s with
  | nil => exact Or.inl h
  | cons w ws ih =>
      rcases ih h with hs | ⟨ht, x, hx, hk, hy⟩
      · rw [staged_stage] at hs
        split at hs
        · rename_i hc
          cases hs
          exact Or.inr ⟨hc.1.symm, w, List.mem_cons_self, hc.2, rfl⟩
        · exact Or.inl hs
      · exact Or.inr ⟨ht, x, List.mem_cons_of_mem _ hx, hk, hy⟩

@[simp] theorem staged_commit (s : Store Tx V K key) (t t' : Tx) (k : K) :
    (s.commit t).staged t' k = if t' = t then none else s.staged t' k := by
  rw [staged, commit, writes_filter_ne]
  by_cases h : t' = t
  · rw [if_pos h, if_pos h]; rfl
  · rw [if_neg h, if_neg h]; rfl

@[simp] theorem staged_rollback (s : Store Tx V K key) (t t' : Tx) (k : K) :
    (s.rollback t).staged t' k = if t' = t then none else s.staged t' k := by
  rw [staged, rollback, writes_filter_ne]
  by_cases h : t' = t
  · rw [if_pos h, if_pos h]; rfl
  · rw [if_neg h, if_neg h]; rfl

/-- What a commit leaves in a row. -/
theorem get_commit (s : Store Tx V K key) (t : Tx) (k : K) :
    (s.commit t).committed.get k = (s.staged t k).getD (s.committed.get k) :=
  get_view s t k

theorem isSome_staged_iff (s : Store Tx V K key) (t : Tx) (k : K) :
    (s.staged t k).isSome ↔ ∃ p ∈ s.pending, p.1 = t ∧ p.2.key key = k := by
  rw [staged, Option.isSome_map, List.find?_isSome]
  constructor
  · rintro ⟨w, hw, hk⟩
    rw [List.mem_reverse, writes, List.mem_map] at hw
    obtain ⟨p, hp, rfl⟩ := hw
    rw [List.mem_filter, decide_eq_true_eq] at hp
    exact ⟨p, hp.1, hp.2, by simpa using hk⟩
  · rintro ⟨p, hp, ht, hk⟩
    refine ⟨p.2, ?_, by simpa using hk⟩
    rw [List.mem_reverse, writes, List.mem_map]
    exact ⟨p, by rw [List.mem_filter, decide_eq_true_eq]; exact ⟨hp, ht⟩, rfl⟩

/-- A row is locked against a transaction exactly if another one has written it. -/
theorem locked_iff (s : Store Tx V K key) (t : Tx) (k : K) :
    s.locked t k = true ↔ ∃ t', t' ≠ t ∧ (s.staged t' k).isSome := by
  rw [locked, List.any_eq_true]
  constructor
  · rintro ⟨p, hp, h⟩
    rw [Bool.and_eq_true, decide_eq_true_eq, decide_eq_true_eq] at h
    exact ⟨p.1, h.1, (isSome_staged_iff s p.1 k).2 ⟨p, hp, rfl, h.2⟩⟩
  · rintro ⟨t', hne, h⟩
    obtain ⟨p, hp, rfl, hk⟩ := (isSome_staged_iff s t' k).1 h
    exact ⟨p, hp, by rw [Bool.and_eq_true, decide_eq_true_eq, decide_eq_true_eq]; exact ⟨hne, hk⟩⟩

omit [DecidableEq Tx] [DecidableEq K] in
/-- A store without uncommitted writes is its committed table. -/
theorem eq_ofTable {s : Store Tx V K key} (h : s.pending = []) : s = ofTable s.committed := by
  cases s
  cases h
  rfl

/-- A transaction that has written nothing sees the committed table. -/
theorem view_of_pending_nil {s : Store Tx V K key} (h : s.pending = []) (t : Tx) :
    s.view t = s.committed := by
  rw [view, writes, h]
  rfl

/-! ## Transactions that have written nothing -/

omit [DecidableEq K] in
/-- There is nothing to discard exactly if the transaction has written nothing. -/
theorem rollback_eq_self_iff {s : Store Tx V K key} {t : Tx} :
    s.rollback t = s ↔ ∀ p ∈ s.pending, p.1 ≠ t := by
  constructor
  · intro h p hp
    rw [← h] at hp
    exact of_decide_eq_true (List.mem_filter.1 hp).2
  · intro h
    obtain ⟨T, pending⟩ := s
    show Store.mk T (pending.filter (fun p => p.1 ≠ t)) = _
    rw [List.filter_eq_self.2 (fun p hp => decide_eq_true (h p hp))]

/-- It sees the committed table. -/
theorem view_of_rollback_eq_self {s : Store Tx V K key} {t : Tx} (h : s.rollback t = s) :
    s.view t = s.committed := by
  have hnone : s.pending.filter (fun p => p.1 = t) = [] :=
    List.filter_eq_nil_iff.2 (fun p hp => by
      rw [decide_eq_true_eq]
      exact rollback_eq_self_iff.1 h p hp)
  rw [view, writes, hnone]
  rfl

omit [DecidableEq K] in
/-- What another transaction writes is not its own. -/
theorem rollback_stage_eq_self {s : Store Tx V K key} {t t' : Tx} (h : s.rollback t = s)
    (hne : t' ≠ t) (w : Write V K) : (s.stage t' w).rollback t = s.stage t' w := by
  rw [rollback_eq_self_iff] at h ⊢
  intro p hp
  obtain hp | hp := List.mem_append.1 hp
  · exact h p hp
  · rw [List.mem_singleton.1 hp]
    exact hne

/-- Nor does a commit make it write. -/
theorem rollback_commit_eq_self {s : Store Tx V K key} {t : Tx} (h : s.rollback t = s) (t' : Tx) :
    (s.commit t').rollback t = s.commit t' := by
  rw [rollback_eq_self_iff] at h ⊢
  exact fun p hp => h p (List.mem_filter.1 hp).1

/-- A transaction has written nothing after its commit. -/
theorem rollback_commit_self (s : Store Tx V K key) (t : Tx) :
    (s.commit t).rollback t = s.commit t :=
  rollback_eq_self_iff.2 (fun _ hp => of_decide_eq_true (List.mem_filter.1 hp).2)

/-- No row is locked for a transaction while every other one has written nothing. -/
theorem locked_eq_false {s : Store Tx V K key} {t : Tx} (h : ∀ t', t' ≠ t → s.rollback t' = s)
    (k : K) : s.locked t k = false := by
  rw [locked, List.any_eq_false]
  intro p hp hlock
  rw [Bool.and_eq_true, decide_eq_true_eq] at hlock
  exact rollback_eq_self_iff.1 (h p.1 hlock.1) p hp rfl

/-! ## Locks are exclusive -/

/-- No row is written by two open transactions. -/
def Exclusive (s : Store Tx V K key) : Prop :=
  ∀ t t' k, (s.staged t k).isSome → (s.staged t' k).isSome → t = t'

theorem exclusive_ofTable (T : Table V K key) : (ofTable T : Store Tx V K key).Exclusive := by
  intro t t' k h
  simp [staged, writes, ofTable] at h

/-- Writing a row that is not locked keeps the locks exclusive. -/
theorem Exclusive.stage {s : Store Tx V K key} (h : s.Exclusive) {t : Tx} {w : Write V K}
    (hl : s.locked t (w.key key) = false) : (s.stage t w).Exclusive := by
  have hfree : ∀ t', (s.staged t' (w.key key)).isSome → t' = t := by
    intro t' ht'
    by_contra hne
    rw [(locked_iff s t _).2 ⟨t', hne, ht'⟩] at hl
    cases hl
  intro t₁ t₂ k h₁ h₂
  rw [staged_stage] at h₁ h₂
  by_cases hc₁ : t = t₁ ∧ w.key key = k
  · by_cases hc₂ : t = t₂ ∧ w.key key = k
    · exact hc₁.1.symm.trans hc₂.1
    · rw [if_neg hc₂] at h₂
      exact hc₁.1.symm.trans (hfree t₂ (hc₁.2 ▸ h₂)).symm
  · rw [if_neg hc₁] at h₁
    by_cases hc₂ : t = t₂ ∧ w.key key = k
    · exact (hfree t₁ (hc₂.2 ▸ h₁)).trans hc₂.1
    · rw [if_neg hc₂] at h₂
      exact h t₁ t₂ k h₁ h₂

/-- Several writes to rows that are not locked. -/
theorem Exclusive.stageAll {s : Store Tx V K key} (h : s.Exclusive) {t : Tx}
    {ws : List (Write V K)} (hl : ∀ w ∈ ws, s.locked t (w.key key) = false) :
    (s.stageAll t ws).Exclusive := by
  induction ws generalizing s with
  | nil => exact h
  | cons w ws ih =>
      refine ih (h.stage (hl w List.mem_cons_self)) (fun x hx => ?_)
      rw [Bool.eq_false_iff]
      intro hlocked
      obtain ⟨t', hne, hsome⟩ := (locked_iff _ _ _).1 hlocked
      rw [staged_stage, if_neg (fun hc => hne hc.1.symm)] at hsome
      have hfree := hl x (List.mem_cons_of_mem _ hx)
      rw [(locked_iff s t _).2 ⟨t', hne, hsome⟩] at hfree
      cases hfree

theorem exclusive_of_staged {s s' : Store Tx V K key} {t : Tx} (h : s.Exclusive)
    (hs : ∀ t' k, s'.staged t' k = if t' = t then none else s.staged t' k) : s'.Exclusive := by
  intro t₁ t₂ k h₁ h₂
  rw [hs] at h₁ h₂
  by_cases hc₁ : t₁ = t
  · rw [if_pos hc₁] at h₁; cases h₁
  · by_cases hc₂ : t₂ = t
    · rw [if_pos hc₂] at h₂; cases h₂
    · rw [if_neg hc₁] at h₁
      rw [if_neg hc₂] at h₂
      exact h t₁ t₂ k h₁ h₂

theorem Exclusive.commit {s : Store Tx V K key} (h : s.Exclusive) (t : Tx) :
    (s.commit t).Exclusive :=
  exclusive_of_staged h (fun t' k => staged_commit s t t' k)

theorem Exclusive.rollback {s : Store Tx V K key} (h : s.Exclusive) (t : Tx) :
    (s.rollback t).Exclusive :=
  exclusive_of_staged h (fun t' k => staged_rollback s t t' k)

/-- **A written row does not change under its writer**: a commit by another
transaction leaves the committed row as it was. -/
theorem Exclusive.get_commit_of_staged {s : Store Tx V K key} (h : s.Exclusive) {t t' : Tx}
    {k : K} (hne : t' ≠ t) (hs : (s.staged t k).isSome) :
    (s.commit t').committed.get k = s.committed.get k := by
  rw [get_commit]
  cases hs' : s.staged t' k with
  | none => rfl
  | some r => exact absurd (h t' t k (by rw [hs']; rfl) hs) hne

/-! ## Rows that only move up -/

/-- What is staged on a committed row is a row above it. -/
def Rising (rel : V → V → Prop) (s : Store Tx V K key) : Prop :=
  ∀ t k u x, s.committed.get k = some u → s.staged t k = some x → ∃ v, x = some v ∧ rel u v

section Rising

variable {rel : V → V → Prop} {s : Store Tx V K key}

theorem rising_of_pending_nil (h : s.pending = []) : s.Rising rel := by
  intro t k u x _ hx
  rw [eq_ofTable h] at hx
  cases hx

/-- Staging a row above the committed one. -/
theorem Rising.stage (h : s.Rising rel) (t : Tx) {v : V}
    (hv : ∀ u, s.committed.get (key v) = some u → rel u v) : (s.stage t (.put v)).Rising rel := by
  intro t' k u x hu hx
  rw [staged_stage] at hx
  split at hx
  · rename_i hc
    cases hx
    have hk : key v = k := hc.2
    exact ⟨v, rfl, hv u (hk ▸ hu)⟩
  · exact h t' k u x hu hx

theorem Rising.rollback (h : s.Rising rel) (t : Tx) : (s.rollback t).Rising rel := by
  intro t' k u x hu hx
  rw [staged_rollback] at hx
  split at hx
  · cases hx
  · exact h t' k u x hu hx

/-- A commit publishes rows above the committed ones, and nobody else has staged those. -/
theorem Rising.commit (h : s.Rising rel) (hex : s.Exclusive) (t : Tx) : (s.commit t).Rising rel := by
  intro t' k u x hu hx
  rw [staged_commit] at hx
  split at hx
  · cases hx
  · rename_i hne
    rw [hex.get_commit_of_staged (Ne.symm hne) (by rw [hx]; rfl)] at hu
    exact h t' k u x hu hx

/-- **A commit moves committed rows up** or leaves them. -/
theorem Rising.get_commit (h : s.Rising rel) (t : Tx) {k : K} {u : V}
    (hu : s.committed.get k = some u) :
    ∃ v, (s.commit t).committed.get k = some v ∧ (v = u ∨ rel u v) := by
  rw [Store.get_commit]
  cases hx : s.staged t k with
  | none => exact ⟨u, hu, Or.inl rfl⟩
  | some x =>
      obtain ⟨v, rfl, hv⟩ := h t k u x hu hx
      exact ⟨v, rfl, Or.inr hv⟩

/-- The row a transaction sees is the committed one or above it. -/
theorem Rising.get_view (h : s.Rising rel) (t : Tx) {k : K} {u : V}
    (hu : s.committed.get k = some u) : ∃ v, (s.view t).get k = some v ∧ (v = u ∨ rel u v) :=
  h.get_commit t hu

end Rising

/-! ## Rows satisfying a predicate -/

/-- Every committed and every staged row satisfies `P`. -/
def All (P : V → Prop) (s : Store Tx V K key) : Prop :=
  (∀ k v, s.committed.get k = some v → P v) ∧ ∀ t k v, s.staged t k = some (some v) → P v

variable {P : V → Prop}

/-- With nothing staged, what holds of the committed rows holds of all. -/
theorem all_of_pending_nil {s : Store Tx V K key} (h : s.pending = [])
    (hrows : ∀ v ∈ s.committed.rows, P v) : s.All P := by
  rw [eq_ofTable h]
  refine ⟨fun k v hv => hrows v (Table.mem_of_get hv), fun t k v hv => ?_⟩
  cases hv

theorem All.imp {Q : V → Prop} {s : Store Tx V K key} (h : s.All P) (hPQ : ∀ v, P v → Q v) :
    s.All Q :=
  ⟨fun k v hv => hPQ v (h.1 k v hv), fun t k v hv => hPQ v (h.2 t k v hv)⟩

theorem All.view {s : Store Tx V K key} (h : s.All P) {t : Tx} {k : K} {v : V}
    (hv : (s.view t).get k = some v) : P v := by
  rw [get_view] at hv
  cases hs : s.staged t k with
  | none =>
      rw [hs] at hv
      exact h.1 k v hv
  | some r =>
      rw [hs, Option.getD_some] at hv
      exact h.2 t k v (by rw [hs, hv])

theorem All.of_mem_view {s : Store Tx V K key} (h : s.All P) {t : Tx} {v : V}
    (hv : v ∈ (s.view t).rows) : P v :=
  h.view (Table.get_of_mem hv)

theorem All.put {s : Store Tx V K key} (h : s.All P) (t : Tx) {v : V} (hv : P v) :
    (s.stage t (.put v)).All P := by
  refine ⟨h.1, fun t' k u hu => ?_⟩
  rw [staged_stage] at hu
  by_cases hc : t = t' ∧ (Write.put v).key key = k
  · rw [if_pos hc] at hu
    cases hu
    exact hv
  · rw [if_neg hc] at hu
    exact h.2 t' k u hu

theorem All.del {s : Store Tx V K key} (h : s.All P) (t : Tx) (k : K) :
    (s.stage t (.del k)).All P := by
  refine ⟨h.1, fun t' k' u hu => ?_⟩
  rw [staged_stage] at hu
  by_cases hc : t = t' ∧ (Write.del k : Write V K).key key = k'
  · rw [if_pos hc] at hu
    cases hu
  · rw [if_neg hc] at hu
    exact h.2 t' k' u hu

theorem All.stageAll {ws : List (Write V K)} (t : Tx) (hws : ∀ w ∈ ws, ∀ v, w = .put v → P v) :
    ∀ {s : Store Tx V K key}, s.All P → (s.stageAll t ws).All P := by
  induction ws with
  | nil => exact fun h => h
  | cons w ws ih =>
      intro s h
      have hs : (s.stage t w).All P := by
        cases w with
        | put v => exact h.put t (hws _ List.mem_cons_self v rfl)
        | del k => exact h.del t k
      exact ih (fun w' hw' => hws w' (List.mem_cons_of_mem _ hw')) hs

theorem All.commit {s : Store Tx V K key} (h : s.All P) (t : Tx) : (s.commit t).All P := by
  refine ⟨fun k v hv => h.view hv, fun t' k v hv => ?_⟩
  rw [staged_commit] at hv
  by_cases hc : t' = t
  · rw [if_pos hc] at hv; cases hv
  · rw [if_neg hc] at hv
    exact h.2 t' k v hv

theorem All.rollback {s : Store Tx V K key} (h : s.All P) (t : Tx) : (s.rollback t).All P := by
  refine ⟨h.1, fun t' k v hv => ?_⟩
  rw [staged_rollback] at hv
  by_cases hc : t' = t
  · rw [if_pos hc] at hv; cases hv
  · rw [if_neg hc] at hv
    exact h.2 t' k v hv

/-! ## Unique indexes -/

/-- A unique index `f` (rows with `f v = none` are not indexed).  An entry that an
open transaction has staged belongs to it alone, and a committed row with that
entry has been overwritten by the same transaction. -/
structure UniqueOn {X : Type} (f : V → Option X) (s : Store Tx V K key) : Prop where
  committed : ∀ {k k' u v x}, s.committed.get k = some u → s.committed.get k' = some v →
    f u = some x → f v = some x → k = k'
  view : ∀ {t k k' u v x}, (s.view t).get k = some u → (s.view t).get k' = some v →
    f u = some x → f v = some x → k = k'
  entry : ∀ {t t' k k' u v x}, s.staged t k = some (some u) → s.staged t' k' = some (some v) →
    f u = some x → f v = some x → t = t'
  covers : ∀ {t k k' u v x}, s.staged t k = some (some u) → f u = some x →
    s.committed.get k' = some v → f v = some x → (s.staged t k').isSome

section UniqueOn

variable {X : Type} {f : V → Option X} {s : Store Tx V K key}

theorem get_view_stage (s : Store Tx V K key) (t t' : Tx) (w : Write V K) (k : K) :
    ((s.stage t w).view t').get k =
      if t = t' ∧ w.key key = k then w.result else (s.view t').get k := by
  rw [get_view, get_view, staged_stage, committed_stage]
  by_cases h : t = t' ∧ w.key key = k
  · rw [if_pos h, if_pos h, Option.getD_some]
  · rw [if_neg h, if_neg h]

/-- A table without repeated entries is uniquely indexed. -/
theorem UniqueOn.ofTable {T : Table V K key}
    (h : ∀ {k k' u v x}, T.get k = some u → T.get k' = some v →
      f u = some x → f v = some x → k = k') :
    (ofTable T : Store Tx V K key).UniqueOn f where
  committed := h
  view := h
  entry := by
    intro t t' k k' u v x hu
    simp [staged, writes, Store.ofTable] at hu
  covers := by
    intro t k k' u v x hu
    simp [staged, writes, Store.ofTable] at hu

/-- Staging a row write keeps a unique index, if no row the transaction sees and
no other transaction holds the entry of the new row. -/
theorem UniqueOn.stage (h : s.UniqueOn f) {t : Tx} {w : Write V K}
    (hview : ∀ {k u v x}, w.result = some v → f v = some x → (s.view t).get k = some u →
      f u = some x → k = w.key key)
    (hother : ∀ {t' k u v x}, w.result = some v → f v = some x → s.staged t' k = some (some u) →
      f u = some x → t' = t)
    (hover : ∀ {k u v x}, w.result = some v → f v = some x → s.committed.get k = some u →
      f u = some x → k = w.key key ∨ (s.staged t k).isSome) :
    (s.stage t w).UniqueOn f where
  committed := h.committed
  view := by
    intro t' k k' u v x hu hv hfu hfv
    rw [get_view_stage] at hu hv
    by_cases hk : t = t' ∧ w.key key = k
    · rw [if_pos hk] at hu
      by_cases hk' : t = t' ∧ w.key key = k'
      · exact hk.2.symm.trans hk'.2
      · rw [if_neg hk'] at hv
        exact (hview hu hfu (hk.1 ▸ hv) hfv ▸ hk.2).symm
    · rw [if_neg hk] at hu
      by_cases hk' : t = t' ∧ w.key key = k'
      · rw [if_pos hk'] at hv
        exact (hview hv hfv (hk'.1 ▸ hu) hfu).trans hk'.2
      · rw [if_neg hk'] at hv
        exact h.view hu hv hfu hfv
  entry := by
    intro t₁ t₂ k k' u v x hu hv hfu hfv
    rw [staged_stage] at hu hv
    by_cases hk : t = t₁ ∧ w.key key = k
    · rw [if_pos hk, Option.some.injEq] at hu
      by_cases hk' : t = t₂ ∧ w.key key = k'
      · exact hk.1.symm.trans hk'.1
      · rw [if_neg hk'] at hv
        exact hk.1.symm.trans (hother hu hfu hv hfv).symm
    · rw [if_neg hk] at hu
      by_cases hk' : t = t₂ ∧ w.key key = k'
      · rw [if_pos hk', Option.some.injEq] at hv
        exact (hother hv hfv hu hfu).trans hk'.1
      · rw [if_neg hk'] at hv
        exact h.entry hu hv hfu hfv
  covers := by
    intro t' k k' u v x hu hfu hv hfv
    rw [committed_stage] at hv
    rw [staged_stage] at hu ⊢
    by_cases hk : t = t' ∧ w.key key = k
    · rw [if_pos hk, Option.some.injEq] at hu
      rcases hover hu hfu hv hfv with rfl | hs
      · rw [if_pos ⟨hk.1, rfl⟩]; rfl
      · by_cases hk' : t = t' ∧ w.key key = k'
        · rw [if_pos hk']; rfl
        · rw [if_neg hk']; exact hk.1 ▸ hs
    · rw [if_neg hk] at hu
      have hs := h.covers hu hfu hv hfv
      by_cases hk' : t = t' ∧ w.key key = k'
      · rw [if_pos hk']; rfl
      · rw [if_neg hk']; exact hs

/-- Writing a row without an index entry, or deleting one. -/
theorem UniqueOn.stage_none (h : s.UniqueOn f) (t : Tx) {w : Write V K}
    (hw : w.result.bind f = none) : (s.stage t w).UniqueOn f := by
  have hnone : ∀ {v x}, w.result = some v → f v = some x → False := by
    intro v x hv hx
    rw [hv, Option.bind_some, hx] at hw
    cases hw
  exact h.stage (fun hv hx => (hnone hv hx).elim) (fun hv hx => (hnone hv hx).elim)
    (fun hv hx => (hnone hv hx).elim)

/-- Several such writes. -/
theorem UniqueOn.stageAll_none (h : s.UniqueOn f) (t : Tx) {ws : List (Write V K)}
    (hws : ∀ w ∈ ws, w.result.bind f = none) : (s.stageAll t ws).UniqueOn f := by
  induction ws generalizing s with
  | nil => exact h
  | cons w ws ih =>
      exact ih (h.stage_none t (hws w List.mem_cons_self))
        (fun x hx => hws x (List.mem_cons_of_mem _ hx))

theorem contended_of_staged {t t' : Tx} {k : K} {u : V} {x : X} [DecidableEq X] (hne : t' ≠ t)
    (hu : s.staged t' k = some (some u)) (hx : f u = some x) : s.contended t f x = true := by
  rw [staged, Option.map_eq_some_iff] at hu
  obtain ⟨w, hw, hres⟩ := hu
  have hmem := List.mem_of_find?_eq_some hw
  rw [List.mem_reverse, writes, List.mem_map] at hmem
  obtain ⟨p, hp, rfl⟩ := hmem
  rw [List.mem_filter, decide_eq_true_eq] at hp
  rw [contended, List.any_eq_true]
  refine ⟨p, hp.1, ?_⟩
  simp [hp.2, hne, hres, hx]

/-- An entry that no other transaction holds and no visible row has: if a
committed row has it, this transaction has overwritten that row. -/
theorem isSome_staged_of_not_duplicate {t : Tx} {k : K} {u : V} {x : X} [DecidableEq X]
    (hd : s.duplicate t f x = false) (hu : s.committed.get k = some u) (hx : f u = some x) :
    (s.staged t k).isSome := by
  by_contra hs
  rw [Option.not_isSome_iff_eq_none] at hs
  have hv : (s.view t).get k = some u := by rw [get_view, hs]; exact hu
  have : s.duplicate t f x = true := by
    rw [duplicate, List.any_eq_true]
    exact ⟨u, Table.mem_of_get hv, by simp [hx]⟩
  rw [hd] at this
  cases this

/-- The check of an `INSERT` against a unique index is enough to keep it. -/
theorem UniqueOn.stage_of_free [DecidableEq X] (h : s.UniqueOn f) {t : Tx} {w : Write V K}
    (hfree : ∀ v x, w.result = some v → f v = some x →
      s.contended t f x = false ∧ s.duplicate t f x = false) : (s.stage t w).UniqueOn f := by
  apply h.stage
  · intro k u v x hv hx hu hux
    have hd := (hfree v x hv hx).2
    have : s.duplicate t f x = true := by
      rw [duplicate, List.any_eq_true]
      exact ⟨u, Table.mem_of_get hu, by simp [hux]⟩
    rw [hd] at this
    cases this
  · intro t' k u v x hv hx hu hux
    by_contra hne
    have hc := (hfree v x hv hx).1
    rw [contended_of_staged hne hu hux] at hc
    cases hc
  · intro k u v x hv hx hu hux
    exact Or.inr (isSome_staged_of_not_duplicate (hfree v x hv hx).2 hu hux)

/-- Overwriting an unlocked row without changing its index entry. -/
theorem UniqueOn.stage_of_same (h : s.UniqueOn f) {t : Tx} {u v : V}
    (hl : s.locked t (key v) = false) (hu : (s.view t).get (key v) = some u) (hf : f v = f u) :
    (s.stage t (.put v)).UniqueOn f := by
  have hfree : ∀ t', (s.staged t' (key v)).isSome → t' = t := by
    intro t' ht'
    by_contra hne
    rw [(locked_iff s t _).2 ⟨t', hne, ht'⟩] at hl
    cases hl
  -- either the transaction has staged the row already, or it sees the committed one
  have hcases : s.staged t (key v) = some (some u) ∨
      (s.staged t (key v) = none ∧ s.committed.get (key v) = some u) := by
    rw [get_view] at hu
    cases hs : s.staged t (key v) with
    | none => exact Or.inr ⟨rfl, by rwa [hs] at hu⟩
    | some r => rw [hs, Option.getD_some] at hu; exact Or.inl (by rw [hu])
  apply h.stage
  · intro k u' v' x hv' hx hu' hux
    cases hv'
    exact h.view hu' hu hux (hf ▸ hx)
  · intro t' k u' v' x hv' hx hu' hux
    cases hv'
    rcases hcases with hs | ⟨-, hc⟩
    · exact h.entry hu' hs hux (hf ▸ hx)
    · exact hfree t' (h.covers hu' hux hc (hf ▸ hx))
  · intro k u' v' x hv' hx hu' hux
    cases hv'
    rcases hcases with hs | ⟨-, hc⟩
    · exact Or.inr (h.covers hs (hf ▸ hx) hu' hux)
    · exact Or.inl (h.committed hu' hc hux (hf ▸ hx))

theorem UniqueOn.commit (h : s.UniqueOn f) (t : Tx) : (s.commit t).UniqueOn f where
  committed := h.view
  view := by
    intro t' k k' u v x hu hv hfu hfv
    -- a row seen by `t'` afterwards is a row `t'` saw before or one that `t` has staged
    have hsplit : ∀ {k u}, ((s.commit t).view t').get k = some u →
        (s.view t).get k = some u ∧ (t' ≠ t → s.staged t' k = none) ∨
          t' ≠ t ∧ s.staged t' k = some (some u) := by
      intro k u hu
      rw [get_view, staged_commit, committed_commit] at hu
      by_cases ht : t' = t
      · rw [if_pos ht, Option.getD_none] at hu
        exact Or.inl ⟨hu, fun hne => absurd ht hne⟩
      · rw [if_neg ht] at hu
        cases hs : s.staged t' k with
        | none => rw [hs, Option.getD_none] at hu; exact Or.inl ⟨hu, fun _ => rfl⟩
        | some r => rw [hs, Option.getD_some] at hu; exact Or.inr ⟨ht, by rw [hu]⟩
    -- a row of `t` and a staged row of `t'` do not share an entry
    have hcross : ∀ {k k' u v}, (s.view t).get k = some u → s.staged t' k = none → t' ≠ t →
        s.staged t' k' = some (some v) → f u = some x → f v = some x → k = k' := by
      intro k k' u v hu hnone hne hv hfu hfv
      rw [get_view] at hu
      cases hs : s.staged t k with
      | none =>
          rw [hs, Option.getD_none] at hu
          have hov := h.covers hv hfv hu hfu
          rw [hnone] at hov
          cases hov
      | some r =>
          rw [hs, Option.getD_some] at hu
          exact absurd (h.entry hv (by rw [hs, hu]) hfv hfu) hne
    rcases hsplit hu with ⟨hu, hu'⟩ | ⟨hne, hu⟩
    · rcases hsplit hv with ⟨hv, -⟩ | ⟨hne, hv⟩
      · exact h.view hu hv hfu hfv
      · exact hcross hu (hu' hne) hne hv hfu hfv
    · rcases hsplit hv with ⟨hv, hv'⟩ | ⟨-, hv⟩
      · exact (hcross hv (hv' hne) hne hu hfv hfu).symm
      · have hvu : (s.view t').get k = some u := by rw [get_view, hu]; rfl
        have hvv : (s.view t').get k' = some v := by rw [get_view, hv]; rfl
        exact h.view hvu hvv hfu hfv
  entry := by
    intro t₁ t₂ k k' u v x hu hv hfu hfv
    rw [staged_commit] at hu hv
    split at hu
    · cases hu
    · split at hv
      · cases hv
      · exact h.entry hu hv hfu hfv
  covers := by
    intro t' k k' u v x hu hfu hv hfv
    rw [committed_commit, get_view] at hv
    rw [staged_commit] at hu ⊢
    split at hu
    · cases hu
    · rename_i hne
      rw [if_neg hne]
      cases hs : s.staged t k' with
      | none => rw [hs, Option.getD_none] at hv; exact h.covers hu hfu hv hfv
      | some r =>
          rw [hs, Option.getD_some] at hv
          exact absurd (h.entry hu (by rw [hs, hv]) hfu hfv) hne

theorem UniqueOn.rollback (h : s.UniqueOn f) (t : Tx) : (s.rollback t).UniqueOn f where
  committed := h.committed
  view := by
    intro t' k k' u v x hu hv hfu hfv
    rw [get_view, staged_rollback, committed_rollback] at hu hv
    by_cases ht : t' = t
    · rw [if_pos ht] at hu hv
      exact h.committed hu hv hfu hfv
    · rw [if_neg ht, ← get_view] at hu hv
      exact h.view hu hv hfu hfv
  entry := by
    intro t₁ t₂ k k' u v x hu hv hfu hfv
    rw [staged_rollback] at hu hv
    split at hu
    · cases hu
    · split at hv
      · cases hv
      · exact h.entry hu hv hfu hfv
  covers := by
    intro t' k k' u v x hu hfu hv hfv
    rw [staged_rollback] at hu ⊢
    split at hu
    · cases hu
    · rename_i hne
      rw [if_neg hne]
      exact h.covers hu hfu hv hfv

/-- A table without two rows of one entry, and without uncommitted writes, is indexed. -/
theorem uniqueOn_of_pending_nil (hpending : s.pending = [])
    (h : ∀ u ∈ s.committed.rows, ∀ v ∈ s.committed.rows, ∀ x, f u = some x → f v = some x → u = v) :
    s.UniqueOn f := by
  rw [eq_ofTable hpending]
  refine UniqueOn.ofTable (fun {k k' u v x} hu hv hfu hfv => ?_)
  rw [← Table.key_of_get hu, ← Table.key_of_get hv,
    h u (Table.mem_of_get hu) v (Table.mem_of_get hv) x hfu hfv]

/-- Rows with one entry are one row. -/
theorem UniqueOn.length_filter_le (h : s.UniqueOn f) {x : X} {p : V → Bool}
    (hp : ∀ v, p v = true → f v = some x) : (s.committed.rows.filter p).length ≤ 1 := by
  cases hrows : s.committed.rows.filter p with
  | nil => exact Nat.zero_le 1
  | cons u rest =>
      have hmem : ∀ v ∈ s.committed.rows.filter p, v ∈ s.committed.rows ∧ f v = some x :=
        fun v hv => ⟨(List.mem_filter.1 hv).1, hp v (List.mem_filter.1 hv).2⟩
      have hu : u ∈ s.committed.rows.filter p := by
        rw [hrows]
        exact List.mem_cons_self
      have hone : s.committed.rows.filter p = [u] := by
        apply Table.eq_singleton_of_nodup
        · exact s.committed.nodup.of_map.filter _
        · exact hu
        · intro v hv
          have hkey := h.committed (Table.get_of_mem (hmem v hv).1) (Table.get_of_mem (hmem u hu).1)
            (hmem v hv).2 (hmem u hu).2
          exact Table.eq_of_mem_of_key (hmem v hv).1 (hmem u hu).1 hkey
      rw [← hrows, hone]
      exact Nat.le_of_eq (List.length_singleton (a := u))

end UniqueOn

end Store
