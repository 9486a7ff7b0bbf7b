/-
# Read-modify-write under row locks

Transactions that update a row by a function of the row they see, and hold its lock until they
end.  Beside the store runs a log: the updates that were committed, in the order of the commits,
and the ones that are still open.  The committed table is at every moment what the committed log
makes of the table at the start: no update is lost and none counts twice.
-/
import Mathlib.Data.List.Induction
import SpendLens.Lib.RowLocks

/-- The updates that transactions have made: `(k, a)` is the update `a` of row `k`. -/
structure UpdateLog (Tx K A : Type) where
  /-- What was committed and by whom, oldest first. -/
  committed : List (Tx × K × A)
  /-- What a transaction has made and not committed yet, oldest first. -/
  pending : Tx → List (K × A)

namespace UpdateLog

variable {Tx K A : Type}

/-- Nothing has been updated. -/
def empty : UpdateLog Tx K A := ⟨[], fun _ => []⟩

/-- The updates a transaction has committed. -/
def of [DecidableEq Tx] (log : UpdateLog Tx K A) (t : Tx) : List (K × A) :=
  (log.committed.filter (fun u => u.1 = t)).map Prod.snd

/-- The updates of one row in a list of updates. -/
def on [DecidableEq K] (k : K) (us : List (K × A)) : List A :=
  (us.filter (fun u => u.1 = k)).map Prod.snd

/-- The committed updates of one row. -/
def row [DecidableEq K] (log : UpdateLog Tx K A) (k : K) : List A :=
  on k (log.committed.map Prod.snd)

variable [DecidableEq Tx]

/-- A transaction makes an update. -/
def stage (log : UpdateLog Tx K A) (t : Tx) (u : K × A) : UpdateLog Tx K A :=
  { log with pending := Function.update log.pending t (log.pending t ++ [u]) }

/-- A transaction publishes its updates. -/
def commit (log : UpdateLog Tx K A) (t : Tx) : UpdateLog Tx K A :=
  ⟨log.committed ++ (log.pending t).map (fun u => (t, u)), Function.update log.pending t []⟩

/-- A transaction discards its updates. -/
def rollback (log : UpdateLog Tx K A) (t : Tx) : UpdateLog Tx K A :=
  { log with pending := Function.update log.pending t [] }

section pending

variable (log : UpdateLog Tx K A) (t t' : Tx) (u : K × A)

theorem pending_stage : (log.stage t u).pending t' =
    if t' = t then log.pending t ++ [u] else log.pending t' := by
  show Function.update _ _ _ _ = _
  rw [Function.update_apply]

@[simp] theorem pending_commit :
    (log.commit t).pending t' = if t' = t then [] else log.pending t' := by
  show Function.update _ _ _ _ = _
  rw [Function.update_apply]

@[simp] theorem pending_rollback :
    (log.rollback t).pending t' = if t' = t then [] else log.pending t' := by
  show Function.update _ _ _ _ = _
  rw [Function.update_apply]

/-- A commit leaves nothing to discard. -/
theorem rollback_commit : (log.commit t).rollback t = log.commit t := by
  show UpdateLog.mk _ (Function.update (Function.update log.pending t []) t []) = _
  rw [Function.update_idem]
  rfl

@[simp] theorem of_stage : (log.stage t u).of t' = log.of t' := rfl

@[simp] theorem of_rollback : (log.rollback t).of t' = log.of t' := rfl

/-- A commit adds the transaction's updates to its own, and to no other's. -/
theorem of_commit : (log.commit t).of t' =
    log.of t' ++ if t' = t then log.pending t else [] := by
  rw [of, commit, List.filter_append, List.map_append, of]
  congr 1
  by_cases h : t' = t
  · subst h
    rw [if_pos rfl, List.filter_map, List.map_map]
    have hall : (log.pending t').filter ((fun v => decide (v.1 = t')) ∘ fun u => (t', u)) =
        log.pending t' := by
      rw [List.filter_eq_self]
      intro u _
      simp
    rw [hall]
    exact List.map_id _
  · rw [if_neg h, List.map_eq_nil_iff, List.filter_eq_nil_iff]
    intro v hv
    obtain ⟨u, -, rfl⟩ := List.mem_map.1 hv
    simp only [decide_eq_true_eq]
    exact fun hc => h hc.symm

end pending

variable [DecidableEq K]

omit [DecidableEq Tx] in
theorem on_append (k : K) (us vs : List (K × A)) : on k (us ++ vs) = on k us ++ on k vs := by
  rw [on, List.filter_append, List.map_append, on, on]

omit [DecidableEq Tx] in
theorem on_singleton (k : K) (u : K × A) : on k [u] = if u.1 = k then [u.2] else [] := by
  by_cases h : u.1 = k
  · simp [on, h]
  · simp [on, h]

/-- The committed updates of a row, after a commit. -/
theorem row_commit (log : UpdateLog Tx K A) (t : Tx) (k : K) :
    (log.commit t).row k = log.row k ++ on k (log.pending t) := by
  rw [row, commit, List.map_append, on_append, row, List.map_map]
  congr 2
  exact List.map_id _

end UpdateLog

/-! ## The store is what the log says -/

section Replays

variable {Tx V K A : Type} {key : V → K}

/-- What updates make of a row, oldest first. -/
def replayRow (f : Option V → A → V) (row : Option V) (as : List A) : Option V :=
  as.foldl (fun row a => some (f row a)) row

@[simp] theorem replayRow_nil (f : Option V → A → V) (row : Option V) :
    replayRow f row [] = row := rfl

theorem replayRow_append (f : Option V → A → V) (row : Option V) (as bs : List A) :
    replayRow f row (as ++ bs) = replayRow f (replayRow f row as) bs :=
  List.foldl_append

variable [DecidableEq Tx] [DecidableEq K]

/-- **The store replays its log** from the table `T`: the committed rows are what the committed
updates make of it, and what a transaction has staged on a row is what its own updates make of
the committed row. -/
structure Replays (f : K → Option V → A → V) (T : Table V K key) (s : Store Tx V K key)
    (log : UpdateLog Tx K A) : Prop where
  exclusive : s.Exclusive
  committed : ∀ k, s.committed.get k = replayRow (f k) (T.get k) (log.row k)
  staged : ∀ t k, s.staged t k = if UpdateLog.on k (log.pending t) = [] then none
    else some (replayRow (f k) (s.committed.get k) (UpdateLog.on k (log.pending t)))

variable {f : K → Option V → A → V} {T : Table V K key} {s : Store Tx V K key}
  {log : UpdateLog Tx K A}

/-- At the start. -/
theorem Replays.start (T : Table V K key) :
    Replays f T (Store.ofTable T : Store Tx V K key) (UpdateLog.empty : UpdateLog Tx K A) where
  exclusive := Store.exclusive_ofTable T
  committed _ := rfl
  staged _ _ := rfl

/-- What a transaction sees in a row: the committed row and its own updates. -/
theorem Replays.get_view (h : Replays f T s log) (t : Tx) (k : K) :
    (s.view t).get k =
      replayRow (f k) (s.committed.get k) (UpdateLog.on k (log.pending t)) := by
  rw [Store.get_view, h.staged]
  split
  · rename_i hnil
    rw [hnil, Option.getD_none, replayRow_nil]
  · rw [Option.getD_some]

/-- **An update of a row that is not locked.** -/
theorem Replays.stage (h : Replays f T s log) {t : Tx} {k : K} {a : A} {v : V}
    (hv : v = f k ((s.view t).get k) a) (hkey : key v = k) (hlock : s.locked t k = false) :
    Replays f T (s.stage t (.put v)) (log.stage t (k, a)) where
  exclusive := h.exclusive.stage (by rw [show (Write.put v).key key = k from hkey]; exact hlock)
  committed := h.committed
  staged t' k' := by
    rw [Store.staged_stage, UpdateLog.pending_stage]
    by_cases ht : t' = t
    · subst ht
      rw [if_pos rfl, UpdateLog.on_append, UpdateLog.on_singleton]
      by_cases hk : k = k'
      · subst hk
        have hne : UpdateLog.on k (log.pending t') ++ [a] ≠ [] := by simp
        rw [if_pos ⟨rfl, hkey⟩, if_pos rfl, if_neg hne, Store.committed_stage, replayRow_append,
          ← h.get_view, hv]
        rfl
      · rw [if_neg (fun hc => hk (hkey.symm.trans hc.2)), if_neg hk, List.append_nil,
          Store.committed_stage]
        exact h.staged t' k'
    · rw [if_neg (fun hc => ht hc.1.symm), if_neg ht, Store.committed_stage]
      exact h.staged t' k'

/-- **A commit** moves the transaction's updates to the end of the log.  The locks keep the rows
that others have updated from changing under them. -/
theorem Replays.commit (h : Replays f T s log) (t : Tx) :
    Replays f T (s.commit t) (log.commit t) where
  exclusive := h.exclusive.commit t
  committed k := by
    rw [Store.committed_commit, h.get_view, h.committed, UpdateLog.row_commit, replayRow_append]
  staged t' k := by
    rw [Store.staged_commit, UpdateLog.pending_commit]
    by_cases ht : t' = t
    · rw [if_pos ht, if_pos ht]
      rfl
    · rw [if_neg ht, if_neg ht, h.staged]
      split
      · rfl
      · rename_i hne
        have hsome : (s.staged t' k).isSome := by
          rw [h.staged, if_neg hne]
          rfl
        rw [h.exclusive.get_commit_of_staged (fun hc => ht hc.symm) hsome]

/-- **A rollback** forgets the transaction's updates. -/
theorem Replays.rollback (h : Replays f T s log) (t : Tx) :
    Replays f T (s.rollback t) (log.rollback t) where
  exclusive := h.exclusive.rollback t
  committed := h.committed
  staged t' k := by
    rw [Store.staged_rollback, UpdateLog.pending_rollback]
    by_cases ht : t' = t
    · rw [if_pos ht, if_pos ht]
      rfl
    · rw [if_neg ht, if_neg ht, Store.committed_rollback]
      exact h.staged t' k

end Replays
