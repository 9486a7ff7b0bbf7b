/-
# The outcome of processing a receipt

Once a receipt is marked `processing`, everything depends on the next write: the one that stores
what was read, or that stores a failure.  A failure is written by the session that has just
failed, and together with what has been assigned to the receipt before.  So the outcome is
recorded exactly if that one write is accepted, and a text with a NUL character leaves the
receipt `processing`.
-/
import SpendLens.ReceiptLifecycle

namespace SpendLens

/-- Does the column hold the value? -/
def ReceiptColumn.storable : ReceiptColumn → Bool
  | status _ => true
  | ocrMethod _ => true
  | ocrConfidence v => v.natAbs < 10 ^ 5
  | rawText v => textOk v
  | parsedPayload v => v.allText textOk
  | errorMessage v => v.all textOk

theorem ReceiptColumn.exists_store_iff (r : Receipt) (c : ReceiptColumn) :
    (∃ r', c.store r = .ok r') ↔ c.storable = true := by
  have hchecked : ∀ (b : Bool) (stored : Receipt),
      (∃ r', (if b then Except.ok stored else .error PyExc.dataError) = .ok r') ↔ b = true := by
    intro b stored
    cases b <;> simp
  cases c with
  | status v => exact iff_of_true ⟨_, rfl⟩ rfl
  | ocrMethod v => exact iff_of_true ⟨_, rfl⟩ rfl
  | ocrConfidence v =>
      rw [← hchecked _ { r with ocrConfidence := some v }]
      simp only [store, storable, decide_eq_true_eq]
  | rawText v => exact hchecked _ _
  | parsedPayload v => exact hchecked _ _
  | errorMessage v => exact hchecked _ _

/-- Assignments are stored exactly if each of them is. -/
theorem exists_storeAll_iff (r : Receipt) (cols : List ReceiptColumn) :
    (∃ r', storeAll ReceiptColumn.store r cols = .ok r') ↔ ∀ c ∈ cols, c.storable = true := by
  induction cols generalizing r with
  | nil => exact iff_of_true ⟨r, rfl⟩ (fun c hc => nomatch hc)
  | cons c cols ih =>
      rw [storeAll, List.forall_mem_cons, ← ReceiptColumn.exists_store_iff r c]
      cases hc : c.store r with
      | error e => simp
      | ok r₁ =>
          show (∃ r', storeAll _ r₁ cols = _) ↔ _
          rw [ih r₁]
          simp

namespace Outcome

/-! ## What is to be recorded -/

/-- The row of a receipt, if it is still there, says how its processing has ended. -/
def RecordsOutcome (id : UUID) (w : World Unit) : Prop :=
  ∀ r, w.db.receipts.committed.get id = some r → r.status = .parsed ∨ r.status = .failed

/-- The session has written nothing yet, and may work. -/
structure Idle (w : World Unit) : Prop where
  pending : w.db.receipts.pending = []
  working : w.failed () = false

/-- The first part of the body: find the receipt, and commit that it is being processed. -/
def markProcessing (receiptId : UUID) : Service (Option Receipt) := do
  let rows ← sql (.selectReceipts [] (fun r => r.id = receiptId))
  match ← scalarOneOrNone rows with
  | none => return none
  | some receipt => do
      saveColumns receipt [.status .processing]
      return some receipt

/-- What the rest of the body assigns to the receipt, once `ocrAndParse` has ended. -/
def outcomeColumns (readers : Readers) (cols : List ReceiptColumn) :
    Except PyExc Unit → List ReceiptColumn
  | .ok () => cols
  | .error e => cols ++ [.status .failed,
      .errorMessage (some (String.ofList ((readers.str e).toList.take 500)))]

/-- **A write of assignments is accepted**: its `UPDATE` is struck by no fault and every new value
fits its column, and its `COMMIT` takes effect, even if the answer is lost. -/
structure Accepted (env : Env) (w : World Unit) (receipt : Receipt) (cols : List ReceiptColumn) :
    Prop where
  update : env.fault w.calls = .none
  fits : ∀ c ∈ cols, c.changes receipt = true → c.storable = true
  commit : env.fault (w.calls + 1) ≠ .before

variable {env : Env} {readers : Readers} {id : UUID} {w : World Unit}

theorem processReceipt_eq (id : UUID) :
    processReceipt env readers id = (markProcessing id).bind (fun marked =>
      marked.elim (.ret ()) (fun receipt =>
        runPipeline env readers { receipt with status := .processing })) := by
  unfold processReceipt markProcessing
  simp only [Prog.bind_eq, Prog.bind_assoc]
  congr 1
  funext rows
  congr 1
  funext found
  cases found with
  | none => rfl
  | some receipt =>
      simp only [Prog.bind_assoc]
      rfl

/-! ## One write -/

/-- The write of a status has been committed, though its answer may be lost. -/
structure Written (id : UUID) (s : ReceiptStatus) (x : Except PyExc Unit × World Unit) : Prop where
  status : (x.2.db.receipts.committed.get id).map Receipt.status = some s
  session : x.1 = .ok () ∧ Idle x.2 ∨ (∃ e, x.1 = .error e) ∧ x.2.failed () = true

/-- The write has failed, and left the rows as they were and the session unusable. -/
structure Refused (w : World Unit) (x : Except PyExc Unit × World Unit) : Prop where
  raises : ∃ e, x.1 = .error e
  failed : x.2.failed () = true
  rows : x.2.db.receipts.committed = w.db.receipts.committed

/-- A failed session commits nothing. -/
theorem run_commit_failed (hf : w.failed () = true) :
    Prog.run (alone env) commit w = (.error .pendingRollback, w.tick) := by
  rw [commit, Prog.run_perform]
  simp [alone, Machine.alone, backend, exec, hf]

/-- A failed session refuses every write. -/
theorem refused_of_failed (receipt : Receipt) (cols : List ReceiptColumn)
    (hf : w.failed () = true) :
    Refused w (Prog.run (alone env) (saveColumns receipt cols) w) := by
  unfold saveColumns flushColumns
  rw [Prog.bind_eq]
  by_cases hcols : (cols.filter (ReceiptColumn.changes receipt)).isEmpty = true
  · simp only [hcols, if_true, Prog.bind_ret]
    rw [run_commit_failed hf]
    exact ⟨⟨_, rfl⟩, hf, rfl⟩
  · simp only [hcols]
    have hsql : Prog.run (alone env) (sql (.updateReceipt receipt.id
        (cols.filter (ReceiptColumn.changes receipt)))) w = (.error .pendingRollback, w.tick) := by
      rw [sql, Prog.run_perform]
      simp [alone, Machine.alone, backend, exec, hf]
    rw [if_neg (by simp), Prog.run_bind_error _ hsql]
    exact ⟨⟨_, rfl⟩, hf, rfl⟩

theorem pending_commit (w : World Unit) : (w.db.commit ()).receipts.pending = [] := by
  show w.db.receipts.pending.filter _ = []
  simp

/-- The commit of a session that works, by the fault that strikes it. -/
theorem run_commit (env : Env) (hf : w.failed () = false) :
    (env.fault w.calls ≠ .before ∧
        (Prog.run (alone env) commit w).2.db.receipts.committed = w.db.receipts.view () ∧
        ((Prog.run (alone env) commit w).1 = .ok () ∧ Idle (Prog.run (alone env) commit w).2 ∨
          (∃ e, (Prog.run (alone env) commit w).1 = .error e) ∧
            (Prog.run (alone env) commit w).2.failed () = true)) ∨
      env.fault w.calls = .before ∧ Refused w (Prog.run (alone env) commit w) := by
  rw [commit, Prog.run_perform]
  cases hfault : env.fault w.calls with
  | none =>
      rw [alone_commit env hf hfault]
      exact Or.inl ⟨nofun, rfl, Or.inl ⟨rfl, pending_commit w, hf⟩⟩
  | before =>
      rw [alone_commit_before env hf hfault]
      exact Or.inr ⟨rfl, ⟨_, rfl⟩, rfl, rfl⟩
  | after =>
      rw [alone_commit_after env hf hfault]
      exact Or.inl ⟨nofun, rfl, Or.inr ⟨⟨_, rfl⟩, rfl⟩⟩

/-- The update of a row that is there. -/
theorem run_updateReceipt (env : Env) {row receipt : Receipt} (cols : List ReceiptColumn)
    (hidle : Idle w)
    (hrow : w.db.receipts.committed.get receipt.id = some row) :
    (env.fault w.calls = .none ∧ ∃ stored, storeAll ReceiptColumn.store row cols = .ok stored ∧
        Prog.run (alone env) (sql (.updateReceipt receipt.id cols)) w =
          (.ok (), { w with db := { w.db with receipts := w.db.receipts.stage () (.put
            { stored with id := row.id, updatedAt := env.clock w.calls }) } }.tick)) ∨
      ¬(env.fault w.calls = .none ∧ ∀ c ∈ cols, c.storable = true) ∧
        Refused w (Prog.run (alone env) (sql (.updateReceipt receipt.id cols)) w) := by
  rw [sql, Prog.run_perform]
  by_cases hfault : env.fault w.calls = .none
  · have hview : (w.db.receipts.view ()).get receipt.id = some row := by
      rw [Store.view_of_pending_nil hidle.pending]
      exact hrow
    cases hstore : storeAll ReceiptColumn.store row cols with
    | ok stored =>
        refine Or.inl ⟨hfault, stored, rfl, alone_sql_ok env hidle.working hfault ?_⟩
        simp [Stmt.exec, update, hview, locked_unit, hstore, Except.map]
    | error e =>
        refine Or.inr ⟨?_, ?_⟩
        · rintro ⟨-, hfits⟩
          obtain ⟨r', hr'⟩ := (exists_storeAll_iff row cols).2 hfits
          rw [hstore] at hr'
          cases hr'
        · have hexec : (Stmt.updateReceipt receipt.id cols).exec (env.clock w.calls) () w.db =
              some (.error e, w.db) := by
            simp [Stmt.exec, update, hview, locked_unit, hstore, Except.map]
          rw [alone_sql_error env hidle.working hfault hexec]
          exact ⟨⟨_, rfl⟩, rfl, rfl⟩
  · rw [alone_sql_fault env hidle.working hfault]
    exact Or.inr ⟨fun h => hfault h.1, ⟨_, rfl⟩, rfl, rfl⟩

/-- **One write**: if it is accepted the status is committed, and if not the row stays as it
was. -/
theorem run_saveColumns (env : Env) (receipt : Receipt) (cols : List ReceiptColumn) {row : Receipt}
    {s : ReceiptStatus}
    (hidle : Idle w) (hrow : w.db.receipts.committed.get receipt.id = some row)
    (hcols : statuses cols = [s]) (hne : s ≠ receipt.status) :
    Accepted env w receipt cols ∧
        Written receipt.id s (Prog.run (alone env) (saveColumns receipt cols) w) ∨
      ¬Accepted env w receipt cols ∧
        Refused w (Prog.run (alone env) (saveColumns receipt cols) w) := by
  have hfilter := statuses_filter hcols hne
  have hnonempty : (cols.filter (ReceiptColumn.changes receipt)).isEmpty = false := by
    rw [List.isEmpty_eq_false_iff]
    intro hnil
    rw [hnil] at hfilter
    cases hfilter
  have hfits : (∀ c ∈ cols.filter (ReceiptColumn.changes receipt), c.storable = true) ↔
      ∀ c ∈ cols, c.changes receipt = true → c.storable = true := by
    simp only [List.mem_filter, and_imp]
  unfold saveColumns flushColumns
  simp only [hnonempty, Prog.bind_eq]
  rw [if_neg (by simp)]
  rcases run_updateReceipt env (cols.filter (ReceiptColumn.changes receipt)) hidle hrow with
    ⟨hfault, stored, hstored, hrun⟩ | ⟨hno, hrefused⟩
  · rw [Prog.run_bind_ok _ hrun]
    have hstatus : stored.status = s := by
      rw [storeAll_status hstored, hfilter]
      rfl
    have hid : row.id = receipt.id := Table.key_of_get hrow
    rcases run_commit env (w := World.tick { w with db := { w.db with
        receipts := w.db.receipts.stage () (.put
          { stored with id := row.id, updatedAt := env.clock w.calls }) } }) hidle.working with
      ⟨hcommit, hrows, hsession⟩ | ⟨hcommit, hrefused⟩
    · refine Or.inl ⟨⟨hfault, hfits.1 ((exists_storeAll_iff row _).1 ⟨_, hstored⟩), hcommit⟩, ?_,
        hsession⟩
      rw [hrows]
      show Option.map _ (((w.db.receipts.stage () _).view ()).get receipt.id) = _
      rw [Store.get_view_stage, if_pos ⟨rfl, hid⟩]
      exact congrArg some hstatus
    · exact Or.inr ⟨fun h => h.commit hcommit, hrefused.raises, hrefused.failed, hrefused.rows⟩
  · obtain ⟨e, he⟩ := hrefused.raises
    have hrun : Prog.run (alone env) (sql (.updateReceipt receipt.id
        (cols.filter (ReceiptColumn.changes receipt)))) w = (.error e, (Prog.run (alone env)
          (sql (.updateReceipt receipt.id (cols.filter (ReceiptColumn.changes receipt)))) w).2) :=
      Prod.ext he rfl
    rw [Prog.run_bind_error _ hrun]
    exact Or.inr ⟨fun h => hno ⟨h.update, hfits.2 h.fits⟩, ⟨e, rfl⟩, hrefused.failed, hrefused.rows⟩

/-! ## The whole body -/

theorem alone_leavesDb (env : Env) {o : Op} (ho : LeavesDb o) (w : World Unit) :
    (alone env o w).2.db = w.db ∧ (alone env o w).2.failed = w.failed := by
  have heffect : ∀ (f : Fault) (e : PyExc) (v : World Unit), v.db = w.db → v.failed = w.failed →
      (w.effect f e v).2.db = w.db ∧ (w.effect f e v).2.failed = w.failed := by
    intro f e v hdb hfailed
    cases f with
    | none => exact ⟨hdb, hfailed⟩
    | before => exact ⟨rfl, rfl⟩
    | after => exact ⟨hdb, hfailed⟩
  cases o with
  | sql s => exact ho.elim
  | commit => exact ho.elim
  | rollback => exact ho.elim
  | putObject key body mime => exact heffect _ _ _ rfl rfl
  | deleteObject key => exact heffect _ _ _ rfl rfl
  | delay task => exact heffect _ _ _ rfl rfl
  | getObject key =>
      simp only [alone, Machine.alone, backend, exec]
      split <;> exact ⟨rfl, rfl⟩
  | _ => exact ⟨rfl, rfl⟩

/-- What is done outside the database changes neither the rows nor the session. -/
theorem run_outsideDb (env : Env) {α : Type} {p : Service α} {post : α → Prop} {exc : PyExc → Prop}
    (hp : p.Respects LeavesDb (fun _ _ => True) post exc) (w : World Unit) :
    (Prog.run (alone env) p w).2.db = w.db ∧ (Prog.run (alone env) p w).2.failed = w.failed := by
  have hstep : ∀ o (v : World Unit), LeavesDb o → (v.db = w.db ∧ v.failed = w.failed) →
      True ∧ (alone env o v).2.db = w.db ∧ (alone env o v).2.failed = w.failed := by
    intro o v ho hv
    obtain ⟨hdb, hfailed⟩ := alone_leavesDb env ho v
    exact ⟨trivial, hdb.trans hv.1, hfailed.trans hv.2⟩
  exact hp.run hstep ⟨rfl, rfl⟩

theorem Idle.of_eq {v : World Unit} (h : Idle w) (hdb : v.db = w.db) (hfailed : v.failed = w.failed) :
    Idle v :=
  ⟨by rw [hdb]; exact h.pending, by rw [hfailed]; exact h.working⟩

theorem RecordsOutcome.of_rows {v : World Unit} (h : RecordsOutcome id w)
    (hrows : v.db.receipts.committed = w.db.receipts.committed) : RecordsOutcome id v := by
  rw [RecordsOutcome, hrows]
  exact h

/-- A committed outcome is recorded. -/
theorem Written.recordsOutcome {s : ReceiptStatus} {x : Except PyExc Unit × World Unit}
    (h : Written id s x) (hs : s = .parsed ∨ s = .failed) : RecordsOutcome id x.2 := by
  intro r hr
  have hstatus := h.status
  rw [hr] at hstatus
  cases hstatus
  exact hs

/-- The rows that a session that has written nothing reads. -/
theorem run_selectReceipts {p : Receipt → Bool} {rows : List Receipt} {v : World Unit}
    (hidle : Idle w)
    (h : Prog.run (alone env) (sql (.selectReceipts [] p)) w = (.ok rows, v)) :
    rows = w.db.receipts.committed.rows.filter p ∧ v.db = w.db ∧ v.failed = w.failed := by
  have hexec : (Stmt.selectReceipts [] p).exec (env.clock w.calls) () w.db =
      some (.ok (w.db.receipts.committed.rows.filter p), w.db) := by
    rw [← Store.view_of_pending_nil hidle.pending ()]
    rfl
  rw [sql, Prog.run_perform] at h
  by_cases hfault : env.fault w.calls = .none
  · rw [alone_sql_ok env hidle.working hfault hexec] at h
    cases h
    exact ⟨rfl, rfl, rfl⟩
  · rw [alone_sql_fault env hidle.working hfault] at h
    cases h

theorem run_scalarOneOrNone {α : Type} {rows : List α} {a : α} {v : World Unit}
    (h : Prog.run (alone env) (scalarOneOrNone rows) w = (.ok (some a), v)) :
    rows = [a] ∧ v = w := by
  unfold scalarOneOrNone at h
  split at h
  · cases h
  · cases h
    exact ⟨rfl, rfl⟩
  · cases h

/-- A receipt that is marked, or that was already. -/
theorem saved_processing {receipt : Receipt} {v : World Unit} (hidle : Idle w)
    (hrow : w.db.receipts.committed.get receipt.id = some receipt)
    (h : Prog.run (alone env) (saveColumns receipt [.status .processing]) w = (.ok (), v)) :
    Idle v ∧ ∃ row, v.db.receipts.committed.get receipt.id = some row ∧ row.status = .processing := by
  by_cases hstatus : receipt.status = .processing
  · have hnone : [ReceiptColumn.status .processing].filter (ReceiptColumn.changes receipt) = [] := by
      simp [ReceiptColumn.changes, hstatus]
    unfold saveColumns flushColumns at h
    simp only [hnone, List.isEmpty_nil, if_true, Prog.bind_eq, Prog.bind_ret] at h
    rcases run_commit env hidle.working with ⟨-, hrows, hsession⟩ | ⟨-, hrefused⟩
    · rw [h] at hrows hsession
      rcases hsession with ⟨-, hidle'⟩ | ⟨⟨e, he⟩, -⟩
      · refine ⟨hidle', receipt, ?_, hstatus⟩
        rw [hrows, Store.view_of_pending_nil hidle.pending]
        exact hrow
      · cases he
    · obtain ⟨e, he⟩ := hrefused.raises
      rw [h] at he
      cases he
  · rcases run_saveColumns env receipt [.status .processing] hidle hrow rfl (Ne.symm hstatus) with
      ⟨-, hwritten⟩ | ⟨-, hrefused⟩
    · rw [h] at hwritten
      rcases hwritten.session with ⟨-, hidle'⟩ | ⟨⟨e, he⟩, -⟩
      · exact ⟨hidle', Option.map_eq_some_iff.1 hwritten.status⟩
      · cases he
    · obtain ⟨e, he⟩ := hrefused.raises
      rw [h] at he
      cases he

/-- The first part of the body leaves the row marked, and a session that may go on. -/
theorem marked_processing {receipt : Receipt} {v : World Unit} (hidle : Idle w)
    (h : Prog.run (alone env) (markProcessing id) w = (.ok (some receipt), v)) :
    receipt.id = id ∧ Idle v ∧
      ∃ row, v.db.receipts.committed.get id = some row ∧ row.status = .processing := by
  obtain ⟨rows, w₁, hselect, h⟩ := Prog.run_bind_eq_ok _ h
  obtain ⟨found, w₂, hfound, h⟩ := Prog.run_bind_eq_ok _ h
  obtain ⟨hrows, hw₁⟩ := run_selectReceipts hidle hselect
  cases found with
  | none => cases h
  | some a =>
      obtain ⟨u, w₃, hsave, h⟩ := Prog.run_bind_eq_ok _ h
      cases h
      obtain ⟨rfl, rfl⟩ := run_scalarOneOrNone hfound
      have hmem : receipt ∈ w.db.receipts.committed.rows.filter (fun r => r.id = id) := by
        rw [← hrows]
        exact List.mem_singleton_self _
      obtain ⟨hmem, hid⟩ := List.mem_filter.1 hmem
      have hid : receipt.id = id := of_decide_eq_true hid
      have hidle : Idle w₂ := hidle.of_eq hw₁.1 hw₁.2
      have hrow : w₂.db.receipts.committed.get receipt.id = some receipt := by
        rw [hw₁.1]
        exact Table.get_of_mem hmem
      subst hid
      exact ⟨rfl, saved_processing hidle hrow hsave⟩

/-- The error arms store their outcome by one write. -/
theorem run_markFailed (receipt : Receipt) (cols : List ReceiptColumn) (e : PyExc)
    (w : World Unit) :
    (Prog.run (alone env) (markFailed readers receipt cols e) w).2 =
      (Prog.run (alone env) (saveColumns receipt (outcomeColumns readers cols (.error e))) w).2 := by
  refine Prog.run_bind_snd _ (fun _ v => ?_) w
  cases e <;> rfl

/-- An error after the outcome has been recorded leaves one that is. -/
theorem recordsOutcome_markFailed {receipt row : Receipt} (e : PyExc)
    (hrec : RecordsOutcome receipt.id w) (hs : receipt.status ≠ .failed)
    (hrow : w.db.receipts.committed.get receipt.id = some row)
    (hsession : Idle w ∨ w.failed () = true) :
    RecordsOutcome receipt.id (Prog.run (alone env) (markFailed readers receipt [] e) w).2 := by
  rw [run_markFailed]
  rcases hsession with hidle | hfailed
  · rcases run_saveColumns env receipt (outcomeColumns readers [] (.error e)) hidle hrow rfl
      hs.symm with ⟨-, hwritten⟩ | ⟨-, hrefused⟩
    · exact hwritten.recordsOutcome (Or.inr rfl)
    · exact hrec.of_rows hrefused.rows
  · exact hrec.of_rows (refused_of_failed receipt _ hfailed).rows

theorem run_attempt_ok {α : Type} {p : Service α} {a : α} {v : World Unit}
    (h : Prog.run (alone env) p w = (.ok a, v)) :
    Prog.run (alone env) (attempt p) w = (.ok (.ok a), v) :=
  Prog.run_handle_ok _ (Prog.run_bind_ok _ h)

theorem run_attempt_error {α : Type} {p : Service α} {e : PyExc} {v : World Unit}
    (h : Prog.run (alone env) p w = (.error e, v)) :
    Prog.run (alone env) (attempt p) w = (.ok (.error e), v) :=
  Prog.run_handle_error _ (Prog.run_bind_error _ h)

/-- Handing the receipt over does not undo what has been recorded, also where it fails. -/
theorem recordsOutcome_enqueue {receipt parsed : Receipt} (hidle : Idle w)
    (hrec : RecordsOutcome receipt.id w)
    (hrow : w.db.receipts.committed.get receipt.id = some parsed) :
    RecordsOutcome receipt.id (Prog.run (alone env) (do
      match ← attempt (enqueueCategorisation env receipt.id) with
      | .error e => markFailed readers { receipt with status := .parsed, errorMessage := none } [] e
      | .ok () => return ()) w).2 := by
  have hquiet := run_outsideDb env (outsideDb_enqueueCategorisation env receipt.id) w
  rcases henqueue : Prog.run (alone env) (enqueueCategorisation env receipt.id) w with ⟨e | a, v⟩
  · rw [henqueue] at hquiet
    rw [Prog.bind_eq, Prog.run_bind_ok _ (run_attempt_error henqueue)]
    have hdb : v.db = w.db := hquiet.1
    exact recordsOutcome_markFailed e (hrec.of_rows (by rw [hdb])) nofun (by rw [hdb]; exact hrow)
      (Or.inl (hidle.of_eq hquiet.1 hquiet.2))
  · rw [henqueue] at hquiet
    rw [Prog.bind_eq, Prog.run_bind_ok _ (run_attempt_ok henqueue)]
    exact hrec.of_rows (congrArg (fun db => db.receipts.committed) hquiet.1)

/-- **The outcome of `process_receipt` is recorded exactly if the write of it is accepted.** -/
theorem recordsOutcome_iff {receipt : Receipt} {v u : World Unit} {cols : List ReceiptColumn}
    {ended : Except PyExc Unit} (hidle : Idle w)
    (hmarked : Prog.run (alone env) (markProcessing id) w = (.ok (some receipt), v))
    (hread : Prog.run (alone env)
      (ocrAndParse env readers { receipt with status := .processing }) v = (.ok (cols, ended), u)) :
    RecordsOutcome id (Prog.run (alone env) (processReceipt env readers id) w).2 ↔
      Accepted env u { receipt with status := .processing } (outcomeColumns readers cols ended) := by
  obtain ⟨rfl, hidle, row, hrow, hstatus⟩ := marked_processing hidle hmarked
  have hquiet := run_outsideDb env
    (respects_ocrAndParse env readers { receipt with status := .processing }) v
  have hcols := (respects_ocrAndParse env readers { receipt with status := .processing }).run_post
    (fun _ _ _ => trivial) (congrArg Prod.fst hread)
  rw [hread] at hquiet
  have hidle : Idle u := hidle.of_eq hquiet.1 hquiet.2
  have hrow : u.db.receipts.committed.get receipt.id = some row := by
    rw [show u.db = v.db from hquiet.1]
    exact hrow
  have hnot : ∀ {x : World Unit}, x.db.receipts.committed = u.db.receipts.committed →
      ¬RecordsOutcome receipt.id x := by
    intro x hrows h
    rcases h row (by rw [hrows]; exact hrow) with h | h <;> rw [hstatus] at h <;> cases h
  rw [processReceipt_eq, Prog.run_bind_ok _ hmarked]
  show RecordsOutcome _ (Prog.run (alone env) (runPipeline env readers _) v).2 ↔ _
  rw [runPipeline, Prog.bind_eq, Prog.run_bind_ok _ hread]
  cases ended with
  | error e =>
      have hstatuses : statuses (outcomeColumns readers cols (.error e)) = [.failed] := by
        show statuses (cols ++ _) = _
        rw [statuses, List.filterMap_append, ← statuses, show statuses cols = [] from hcols]
        rfl
      show RecordsOutcome _ (Prog.run (alone env) (markFailed readers _ cols e) u).2 ↔ _
      rw [run_markFailed]
      rcases run_saveColumns env { receipt with status := .processing } _ hidle hrow hstatuses
        (by rintro ⟨⟩) with ⟨haccepted, hwritten⟩ | ⟨haccepted, hrefused⟩
      · exact iff_of_true (hwritten.recordsOutcome (Or.inr rfl)) haccepted
      · exact iff_of_false (hnot hrefused.rows) haccepted
  | ok a =>
      show RecordsOutcome _ (Prog.run (alone env) (Prog.bind (attempt (saveColumns _ cols)) _) u).2 ↔
        Accepted env u _ cols
      rcases run_saveColumns env { receipt with status := .processing } cols hidle hrow hcols
        (by rintro ⟨⟩) with ⟨haccepted, hwritten⟩ | ⟨haccepted, hrefused⟩
      · refine iff_of_true ?_ haccepted
        obtain ⟨parsed, hparsed, -⟩ := Option.map_eq_some_iff.1 hwritten.status
        rcases hwritten.session with ⟨hok, hidle⟩ | ⟨⟨e, he⟩, hfailed⟩
        · rw [Prog.run_bind_ok _ (run_attempt_ok (Prod.ext hok rfl))]
          exact recordsOutcome_enqueue hidle (hwritten.recordsOutcome (Or.inl rfl)) hparsed
        · rw [Prog.run_bind_ok _ (run_attempt_error (Prod.ext he rfl))]
          exact recordsOutcome_markFailed e (hwritten.recordsOutcome (Or.inl rfl)) (by rintro ⟨⟩)
            hparsed (Or.inr hfailed)
      · refine iff_of_false ?_ haccepted
        obtain ⟨e, he⟩ := hrefused.raises
        rw [Prog.run_bind_ok _ (run_attempt_error (Prod.ext he rfl))]
        show ¬RecordsOutcome _ (Prog.run (alone env) (markFailed readers _ [] e) _).2
        rw [run_markFailed]
        exact hnot ((refused_of_failed _ _ hrefused.failed).rows.trans hrefused.rows)

/-! ## A text with a NUL character -/

/-- Surroundings in which every blob is an image, on which this text is recognised. -/
def recognising (text : String) : Env :=
  { Env.quiet with
    external := fun _ x => match x with
      | .imageOpen body => .ok ⟨"RGB", body⟩
      | .imageConvert img mode => .ok { img with mode := mode }
      | .runTesseract _ => .ok ⟨text, 90⟩
      | _ => .error .httpError }

/-- The sample receipt with its blob. -/
def blobWorld : World Unit :=
  { uploadedWorld Unit with blobs := [(sampleReceipt.storageKey, [])] }

/-- The receipt after the first part of the body. -/
def markedWorld (text : String) : World Unit :=
  (Prog.run (alone (recognising text)) (markProcessing 1005) blobWorld).2

/-- The receipt once its text has been read. -/
def readWorld (text : String) : World Unit :=
  (Prog.run (alone (recognising text)) (ocrAndParse (recognising text) blindReaders
    { sampleReceipt with status := .processing }) (markedWorld text)).2

/-- What has been read then. -/
def readColumns (text : String) : List ReceiptColumn :=
  [.rawText text, .ocrConfidence (roundHundredths 90),
    .parsedPayload (ParsedReceipt.mk none none none).toJsonable, .ocrMethod .tesseract,
    .status .parsed, .errorMessage none]

theorem recordsOutcome_iff_sample :
    RecordsOutcome 1005 (Prog.run (alone (recognising "Total 5.00"))
        (processReceipt (recognising "Total 5.00") blindReaders 1005) blobWorld).2 ↔
      Accepted (recognising "Total 5.00") (readWorld "Total 5.00")
        { sampleReceipt with status := .processing }
        (outcomeColumns blindReaders (readColumns "Total 5.00") (.ok ())) := by
  have hmarked : Prog.run (alone (recognising "Total 5.00")) (markProcessing 1005) blobWorld =
      (.ok (some sampleReceipt), markedWorld "Total 5.00") := rfl
  exact recordsOutcome_iff ⟨rfl, rfl⟩ hmarked rfl

/-- The database refuses the text, the session refuses to store the failure, and the receipt
stays `processing`. -/
theorem not_recordsOutcome_of_nul :
    ¬RecordsOutcome 1005 (Prog.run (alone (recognising "\x00"))
      (processReceipt (recognising "\x00") blindReaders 1005) blobWorld).2 := by
  have hstatus : ((Prog.run (alone (recognising "\x00"))
      (processReceipt (recognising "\x00") blindReaders 1005) blobWorld).2.db.receipts.committed.get
        1005).map Receipt.status = some .processing := by
    decide
  obtain ⟨row, hrow, hprocessing⟩ := Option.map_eq_some_iff.1 hstatus
  intro h
  rcases h row hrow with h | h <;> rw [hprocessing] at h <;> cases h

end Outcome

end SpendLens
