/-
# The threads behind the queue

A thread is one delivery of a message or one request.  A delivery follows its duty: it receives
its message, sees to the receipt of the message, and acknowledges when nothing is left to see to.
A request brings in uploaded receipts, marks failed ones as uploaded again, or deletes.

What a thread has written and not committed is known from its duty; that is what a commit makes
visible to everybody else.
-/
import SpendLens.Ingestion
import SpendLens.ReceiptDuties

namespace SpendLens.Duties

/-! ## The threads -/

/-- What a request may do to receipts: bring in uploaded ones, mark failed ones as uploaded again,
delete. -/
def Resets : Op → Prop
  | .sql (.insertReceipt r) => r.status = .uploaded
  | .sql (.updateReceipt _ cols) => (statuses cols).getLast? = some .uploaded
  | _ => True

theorem Ingests.resets {o : Op} (h : Ingests o) : Resets o := by
  cases o with
  | sql s => cases s <;> first | exact h | trivial
  | _ => trivial

/-- A thread: one delivery of a message, or a request, which keeps to what a request may do. -/
inductive Role where
  | delivery (m : Message)
  | request (program : Service Unit) (keeps : program.Asks Resets)

def Role.program (env : Env) (readers : Readers) (pages : ℕ) : Role → Prog WorkerOp.Res PyExc Unit
  | delivery m => SpendLens.delivery env readers pages m
  | request p _ => onWorker p

/-- The receipt of a task on a receipt. -/
def subject : Task → Option UUID
  | .processReceipt id => some id
  | .categoriseReceipt id => some id
  | .gmailHistorySync _ _ => none

/-- What the body of a task may ask for. -/
def BodyMay (task : Task) (q : Duty) (o : Op) : Prop :=
  match subject task with
  | some k => MayDo task k q o
  | none => Resets o

/-- There is nothing the task could still see to, and nothing to commit. -/
structure Done (task : Task) (q : Duty) : Prop where
  uncovered : ∀ k s, takesOn k s task = true → q.burden.covers s = false
  written : q.writing = none

/-- What a thread may ask for. -/
def Role.May (role : Role) (q : Duty) (o : WorkerOp) : Prop :=
  match role, o with
  | .request _ _, .service o => Resets o
  | .request _ _, _ => False
  | .delivery m, .service o => q.received = true ∧ BodyMay m.task q o
  | .delivery m, .receive m' => m' = m ∧ q.writing = none
  | .delivery m, .retry m' => m'.task = m.task ∧ q.writing = none
  | .delivery m, .giveUp m' => m' = m ∧ q.writing = none
  | .delivery m, .acknowledge => Done m.task q

/-- How an answer changes the duty of a delivery. -/
def Duty.next (m : Message) (q : Duty) : (o : WorkerOp) → Except PyExc o.Res → Duty
  | .service o, r => q.answered m.task o r
  | .receive _, _ => ⟨true, .all, none⟩
  | .retry _, _ => { q with burden := .nothing }
  | .giveUp _, _ => { q with burden := .nothing }
  | .acknowledge, _ => ⟨false, .nothing, none⟩

/-- The answers to a service are those of the backend. -/
def Sound : (o : WorkerOp) → Except PyExc o.Res → Prop
  | .service o, r => SoundRows o r
  | _, _ => True

/-- How a thread goes on. -/
def Role.Next (role : Role) (q : Duty) (o : WorkerOp) (r : Except PyExc o.Res) (q' : Duty) : Prop :=
  match role with
  | .request _ _ => q' = q
  | .delivery m => q' = q.next m o r ∧ Sound o r

section threads

variable {env : Env} {readers : Readers} {pages : ℕ} {m : Message}

theorem received_answered (task : Task) (q : Duty) (o : Op) (r : Except PyExc o.Res) :
    (q.answered task o r).received = q.received := by
  cases o with
  | sql s =>
      cases s <;> cases r <;> first | rfl | skip
      all_goals
        show (if _ then _ else _ : Duty).received = _
        split <;> rfl
  | commit => cases r <;> rfl
  | delay t =>
      cases t <;> cases r <;> first | rfl | skip
      all_goals
        show (if _ then _ else _ : Duty).received = _
        split <;> rfl
  | _ => cases r <;> rfl

/-- **The body of a task** sees to its receipt, or raises. -/
theorem body_sees_to (henv : env.settings.environment ≠ "test") (task : Task) :
    (task.body env readers pages).Follows (BodyMay task) (NextDuty task)
      (fun q _ => ∀ k s, takesOn k s task = true → q.burden.covers s = false) (fun _ _ => True)
      ⟨true, .all, none⟩ := by
  have hdone : ∀ q : Duty, q.burden = .nothing →
      ∀ k s, takesOn k s task = true → q.burden.covers s = false := by
    intro q hq k s _
    rw [hq]
    rfl
  cases task with
  | processReceipt id =>
      exact (seesTo_processReceipt env readers henv id).mono (fun q _ h => hdone q h)
        (fun _ _ h => h)
  | categoriseReceipt id =>
      exact (seesTo_categoriseReceipt env id).mono (fun q _ h => hdone q h) (fun _ _ h => h)
  | gmailHistorySync connectionId pushHistoryId =>
      have hsync : (runHistorySync env pages connectionId pushHistoryId).Asks Ingests :=
        ingests_runHistorySync pages connectionId pushHistoryId
      exact Prog.Respects.follows hsync (fun _ _ h => Ingests.resets h) (fun _ _ _ _ _ => trivial)
        (fun _ _ _ _ _ h => absurd h Bool.false_ne_true) (fun _ _ _ => trivial)

/-- Closing the session of the body changes nothing in what there is to see to. -/
theorem follows_close {rest : Prog WorkerOp.Res PyExc Unit} {post : Duty → Unit → Prop}
    {exc : Duty → PyExc → Prop} {q : Duty} (hq : q.received = true)
    (hrest : ∀ q' : Duty, q'.writing = none → q'.burden = q.burden →
      rest.Follows (Role.delivery m).May (Role.delivery m).Next post exc q')
    (hexc : ∀ (q' : Duty) (e : PyExc), q'.received = true → exc q' e) :
    ((Prog.perform (WorkerOp.service .rollback)).bind fun _ => rest).Follows
      (Role.delivery m).May (Role.delivery m).Next post exc q := by
  have hbody : BodyMay m.task q .rollback := by
    unfold BodyMay
    split <;> trivial
  refine Prog.Follows.step ⟨hq, hbody⟩ ?_ ?_
  · rintro a q' ⟨rfl, -⟩
    exact hrest _ rfl rfl
  · rintro e q' ⟨rfl, -⟩
    exact hexc _ e hq

theorem done_of_nothing {task : Task} {q : Duty} (h : q.burden = .nothing)
    (hw : q.writing = none) : Done task q := by
  refine ⟨fun k s _ => ?_, hw⟩
  rw [h]
  rfl

/-- What is retried, or given up, is seen to by nobody here. -/
theorem follows_retryLater (m : Message) {q : Duty} (hw : q.writing = none) :
    (retryLater m).Follows (Role.delivery m).May (Role.delivery m).Next
      (fun q _ => Done m.task q) (fun _ _ => True) q := by
  have hretry : (Role.delivery m).May q (.retry ⟨m.task, m.retries + 1⟩) := ⟨rfl, hw⟩
  have hgiveUp : (Role.delivery m).May q (.giveUp m) := ⟨rfl, hw⟩
  unfold retryLater
  split
  · refine Prog.Follows.handle (Prog.Follows.perform hretry ?_ ?_)
    · rintro a q' ⟨rfl, -⟩
      exact done_of_nothing rfl hw
    · rintro e q' ⟨rfl, -⟩
      exact (Prog.follows_ret ()).2 (done_of_nothing rfl hw)
  · refine Prog.Follows.perform hgiveUp ?_ (fun _ _ _ => trivial)
    rintro a q' ⟨rfl, -⟩
    exact done_of_nothing rfl hw

/-- **A delivery** acknowledges its message when there is nothing left to see to. -/
theorem follows_delivery (henv : env.settings.environment ≠ "test") (m : Message) :
    (delivery env readers pages m).Follows (Role.delivery m).May (Role.delivery m).Next
      (fun _ _ => True) (fun _ _ => True) Duty.idle := by
  have hbody : (onWorker (m.task.body env readers pages)).Follows (Role.delivery m).May
      (Role.delivery m).Next
      (fun q _ => (∀ k s, takesOn k s m.task = true → q.burden.covers s = false) ∧
        q.received = true)
      (fun q _ => q.received = true) ⟨true, .all, none⟩ := by
    refine (follows_onWorker (I := fun q => q.received = true) (body_sees_to henv m.task) rfl
      (fun q o hq h => (⟨hq, h⟩ : (Role.delivery m).May q (.service o)))
      (fun q o r q' hq _ h => ⟨h, ?_⟩)).mono (fun _ _ h => h) (fun _ _ h => h.2)
    rw [h.1]
    exact (received_answered _ _ _ _).trans hq
  have hafter : ∀ q : Duty, q.received = true →
      ((Prog.perform (WorkerOp.service .rollback)).bind fun _ => retryLater m).Follows
        (Role.delivery m).May (Role.delivery m).Next (fun q _ => Done m.task q)
        (fun _ _ => True) q :=
    fun q hq => follows_close hq (fun q' hw _ => follows_retryLater m hw) (fun _ _ _ => trivial)
  refine Prog.Follows.step (⟨rfl, rfl⟩ : (Role.delivery m).May Duty.idle (.receive m)) ?_
    (fun _ _ _ => trivial)
  rintro a q ⟨rfl, -⟩
  have htry : (tryCatch
      (Prog.bind (onWorker (m.task.body env readers pages)) fun _ =>
        Prog.perform (WorkerOp.service .rollback))
      (fun _ => (Prog.perform (WorkerOp.service .rollback)).bind fun _ => retryLater m)).Follows
      (Role.delivery m).May (Role.delivery m).Next (fun q _ => Done m.task q) (fun _ _ => True)
      ⟨true, .all, none⟩ := by
    refine Prog.Follows.handle (Prog.Follows.bind (hbody.mono (fun q _ hq => ?_)
      (fun q _ hq => hafter q hq)))
    have hclose : ((Prog.perform (WorkerOp.service .rollback)).bind fun _ =>
        (.ret () : Prog WorkerOp.Res PyExc Unit)).Follows (Role.delivery m).May
        (Role.delivery m).Next (fun q _ => Done m.task q)
        (fun q _ => ((Prog.perform (WorkerOp.service .rollback)).bind fun _ =>
          retryLater m).Follows (Role.delivery m).May (Role.delivery m).Next
            (fun q _ => Done m.task q) (fun _ _ => True) q) q :=
      follows_close hq.2 (fun q' hw hb => (Prog.follows_ret ()).2 ⟨fun k s hks => by
        rw [hb]
        exact hq.1 k s hks, hw⟩) (fun q' _ hq' => hafter q' hq')
    rwa [Prog.bind_ret_right] at hclose
  refine Prog.Follows.bind (htry.mono (fun q _ hq => ?_) (fun _ _ _ => trivial))
  have hack : (Role.delivery m).May q .acknowledge := hq
  exact Prog.Follows.perform hack (fun _ _ _ => trivial) (fun _ _ _ => trivial)

end threads

/-! ## What a session has written -/

section written

variable {ι : Type} [DecidableEq ι] {env : Env}

/-- The rows a request is about to commit are uploaded. -/
def Uploading (w : World ι) (i : ι) : Prop :=
  ∀ k v, w.db.receipts.staged i k = some (some v) → v.status = .uploaded

/-- The body of a task on `k` is about to commit what its duty says, and nothing else. -/
structure Writing (task : Task) (k : UUID) (w : World ι) (i : ι) (q : Duty) : Prop where
  others : ∀ k', k' ≠ k → w.db.receipts.staged i k' = none
  idle : q.writing = none → w.db.receipts.staged i k = none
  busy : ∀ s, q.writing = some s → w.failed i = false ∧
    (∃ v, w.db.receipts.staged i k = some (some v) ∧ v.status = s) ∧
      (inFlight s = true → task = .processReceipt k ∧ q.burden = .all ∧ q.received = true)

/-- What the duty of a thread says of its session. -/
def Knows (role : Role) (w : World ι) (i : ι) (q : Duty) : Prop :=
  match role with
  | .request _ _ => Uploading w i
  | .delivery m =>
    match subject m.task with
    | some k => Writing m.task k w i q
    | none => Uploading w i

theorem Uploading.of_staged {w w' : World ι} {i : ι} (h : Uploading w i)
    (hstaged : ∀ k, w'.db.receipts.staged i k = w.db.receipts.staged i k) : Uploading w' i := by
  intro k v hv
  rw [hstaged] at hv
  exact h k v hv

/-- Steps that leave the session alone, and a worker with everything to see to as one. -/
theorem Writing.of_staged {task : Task} {k : UUID} {w w' : World ι} {i : ι} {q q' : Duty}
    (h : Writing task k w i q)
    (hstaged : ∀ k, w'.db.receipts.staged i k = w.db.receipts.staged i k)
    (hfailed : w'.failed i = w.failed i) (hwriting : q'.writing = q.writing)
    (hall : q.burden = .all → q'.burden = .all) (hreceived : q'.received = q.received) :
    Writing task k w' i q' where
  others k' hk := (hstaged k').trans (h.others k' hk)
  idle hq := (hstaged k).trans (h.idle (hwriting ▸ hq))
  busy s hs := by
    obtain ⟨hf, hv, hflight⟩ := h.busy s (hwriting ▸ hs)
    rw [hfailed, hstaged]
    refine ⟨hf, hv, fun hin => ?_⟩
    obtain ⟨htask, hb, hr⟩ := hflight hin
    exact ⟨htask, hall hb, hreceived.trans hr⟩

/-- A session that has nothing to commit. -/
theorem Writing.of_none {task : Task} {k : UUID} {w : World ι} {i : ι} {q : Duty}
    (h : ∀ k, w.db.receipts.staged i k = none) (hq : q.writing = none) : Writing task k w i q where
  others k' _ := h k'
  idle _ := h k
  busy s hs := by
    rw [hq] at hs
    cases hs

theorem knows_some {m : Message} {k : UUID} {w : World ι} {i : ι} {q : Duty}
    (hk : subject m.task = some k) : Knows (.delivery m) w i q ↔ Writing m.task k w i q := by
  unfold Knows
  dsimp only
  rw [hk]

theorem knows_none {m : Message} {w : World ι} {i : ι} {q : Duty}
    (hk : subject m.task = none) : Knows (.delivery m) w i q ↔ Uploading w i := by
  unfold Knows
  dsimp only
  rw [hk]

theorem bodyMay_some {task : Task} {k : UUID} {q : Duty} {o : Op} (hk : subject task = some k) :
    BodyMay task q o ↔ MayDo task k q o := by
  unfold BodyMay
  rw [hk]

theorem bodyMay_none {task : Task} {q : Duty} {o : Op} (hk : subject task = none) :
    BodyMay task q o ↔ Resets o := by
  unfold BodyMay
  rw [hk]

/-- What a session has written stays known while another one moves. -/
theorem Knows.of_staged {role : Role} {w w' : World ι} {i : ι} {q : Duty} (h : Knows role w i q)
    (hstaged : ∀ k, w'.db.receipts.staged i k = w.db.receipts.staged i k)
    (hfailed : w'.failed i = w.failed i) : Knows role w' i q := by
  unfold Knows at h ⊢
  split at h
  · exact Uploading.of_staged h hstaged
  · split at h
    · exact Writing.of_staged h hstaged hfailed rfl id rfl
    · exact Uploading.of_staged h hstaged

/-- A session at its start or its end. -/
theorem knows_of_none {role : Role} {w : World ι} {i : ι} {q : Duty}
    (h : ∀ k, w.db.receipts.staged i k = none) (hq : q.writing = none) : Knows role w i q := by
  have hup : Uploading w i := by
    intro k v hv
    rw [h] at hv
    cases hv
  unfold Knows
  split
  · exact hup
  · split
    · exact Writing.of_none h hq
    · exact hup

/-- A duty without anything written may be replaced by another one. -/
theorem Knows.of_idle {m : Message} {w : World ι} {i : ι} {q q' : Duty}
    (h : Knows (.delivery m) w i q) (hq : q.writing = none) (hq' : q'.writing = none) :
    Knows (.delivery m) w i q' := by
  cases hsubject : subject m.task with
  | some k =>
      have hw := (knows_some hsubject).1 h
      refine (knows_some hsubject).2 (Writing.of_none (fun k' => ?_) hq')
      by_cases hk : k' = k
      · rw [hk]
        exact hw.idle hq
      · exact hw.others k' hk
  | none => exact (knows_none hsubject).2 ((knows_none hsubject).1 h)

/-- A session whose transaction has ended has nothing staged. -/
theorem staged_commit_eq_none (db : Db ι) (i : ι) (k : UUID) :
    (db.commit i).receipts.staged i k = none :=
  (Store.staged_commit _ _ _ _).trans (if_pos rfl)

theorem staged_rollback_eq_none (db : Db ι) (i : ι) (k : UUID) :
    (db.rollback i).receipts.staged i k = none :=
  (Store.staged_rollback _ _ _ _).trans (if_pos rfl)

/-- **One operation of a request.** -/
theorem Uploading.step {w w' : World ι} {i : ι} {o : Op} {r : Except PyExc o.Res}
    (h : Uploading w i) (hresets : Resets o) (hx : exec env i o w = some (r, w')) :
    Uploading w' i := by
  refine exec_db (I := fun db => ∀ k v, db.receipts.staged i k = some (some v) →
    v.status = .uploaded) (fun db _ k v hv => ?_) (fun db _ k v hv => ?_) hx
    (fun s a db ho hs => ?_) h
  · rw [staged_commit_eq_none] at hv
    cases hv
  · rw [staged_rollback_eq_none] at hv
    cases hv
  · subst ho
    rcases Stmt.exec_receipts hs with heq | hw
    · rw [heq]
      exact h
    · generalize db.receipts = st at hw
      intro k v hv
      cases hw with
      | insert u hlock hnew hfree =>
          rw [Store.staged_stage] at hv
          split at hv
          · cases hv
            exact hresets
          · exact h k v hv
      | update id cols u u' hget hlock hstore =>
          rw [Store.staged_stage] at hv
          split at hv
          · cases hv
            show u'.status = .uploaded
            rw [storeAll_status hstore, show (statuses cols).getLast? = some .uploaded from hresets]
            rfl
          · exact h k v hv
      | delete id u hget hlock =>
          rw [Store.staged_stage] at hv
          split at hv
          · cases hv
          · exact h k v hv

/-- An `UPDATE` of the body of a task, when it has taken effect. -/
theorem Writing.update {task : Task} {k : UUID} {w : World ι} {i : ι} {q : Duty}
    {cols : List ReceiptColumn} {a : Unit} {db : Db ι} {s : ReceiptStatus}
    (h : Writing task k w i q) (hf : w.failed i = false) (hcols : statuses cols = [s])
    (hs : (Stmt.updateReceipt k cols).exec (env.clock w.calls) i w.db = some (.ok a, db))
    (hmay : inFlight s = true → task = .processReceipt k ∧ q.burden = .all ∧ q.received = true) :
    Writing task k ({ w with db := db } : World ι).tick i { q with writing := some s } := by
  rcases Stmt.exec_receipts hs with heq | hw
  · -- an update that takes effect writes the receipt
    exfalso
    obtain ⟨⟨r, st⟩, hupd, hmap⟩ := Option.map_eq_some_iff.1 hs
    obtain ⟨hr, hdb⟩ := Prod.mk.inj hmap
    subst hr hdb
    obtain ⟨v, v', -, -, -, rfl⟩ := update_ok hupd
    have hlen := congrArg (fun st => st.pending.length) heq
    simp [Store.stage] at hlen
  · refine ⟨fun k' hk => ?_, fun hq => ?_, fun s' hs' => ?_⟩
    · show db.receipts.staged i k' = none
      generalize db.receipts = st at hw
      cases hw with
      | update _ _ u u' hget hlock hstore =>
          have huk : u.id = k := Table.key_of_get hget
          rw [Store.staged_stage, if_neg (fun hc => hk ((show u.id = k' from hc.2).symm.trans huk))]
          exact h.others k' hk
    · cases hq
    · cases hs'
      refine ⟨hf, ?_, hmay⟩
      show ∃ v, db.receipts.staged i k = some (some v) ∧ v.status = s
      generalize db.receipts = st at hw
      cases hw with
      | update _ _ u u' hget hlock hstore =>
          have huk : u.id = k := Table.key_of_get hget
          refine ⟨{ u' with id := u.id, updatedAt := env.clock w.calls }, ?_, ?_⟩
          · rw [Store.staged_stage, if_pos ⟨rfl, huk⟩]
            rfl
          · show u'.status = s
            rw [storeAll_status hstore, hcols]
            rfl

/-- A step that touches neither the receipts nor the session. -/
theorem Writing.same {task : Task} {k : UUID} {w w' : World ι} {i : ι} {q q' : Duty}
    (h : Writing task k w i q) (hdb : w'.db.receipts = w.db.receipts)
    (hfailed : w'.failed = w.failed) (hwriting : q'.writing = q.writing)
    (hburden : q.burden = .all → q'.burden = .all) (hreceived : q'.received = q.received) :
    Writing task k w' i q' :=
  h.of_staged (fun k' => by rw [hdb]) (by rw [hfailed]) hwriting hburden hreceived

/-- A session that has failed has nothing written. -/
theorem Writing.idle_of_failed {task : Task} {k : UUID} {w : World ι} {i : ι} {q : Duty}
    (h : Writing task k w i q) (hf : w.failed i = true) : q.writing = none := by
  cases hq : q.writing with
  | none => rfl
  | some s =>
      rw [(h.busy s hq).1] at hf
      cases hf

/-- **One statement of the body of a task.** -/
theorem Writing.stmt {task : Task} {k : UUID} {w w' : World ι} {i : ι} {q : Duty} {s : Stmt}
    {r : Except PyExc s.Res} (h : Writing task k w i q) (hmay : MayDo task k q (.sql s))
    (hreceived : q.received = true) (hx : exec env i (.sql s) w = some (r, w')) :
    Writing task k w' i (q.answered task (.sql s) r) := by
  rcases exec_sql_cases hx with ⟨hf, rfl, rfl⟩ | ⟨-, ⟨e, rfl⟩, rfl⟩ | ⟨a, db, hf, rfl, hs, rfl⟩
  · have hans : q.answered task (.sql s) (.error .pendingRollback) =
        { q with writing := none } := by
      cases s <;> rfl
    rw [hans]
    exact h.same rfl rfl (by rw [h.idle_of_failed hf]) id rfl
  · have hans : q.answered task (.sql s) (.error e) = { q with writing := none } := by
      cases s <;> rfl
    rw [hans]
    exact Writing.of_none (fun k' => staged_rollback_eq_none _ _ k') rfl
  · have hframe := Stmt.exec_frame hs
    cases s with
    | insertReceipt v => exact hmay.elim
    | deleteReceipt id => exact hmay.elim
    | updateReceipt id cols =>
        obtain ⟨rfl, -, s, hcols, hwhich⟩ := hmay
        have hans : q.answered task (.sql (.updateReceipt id cols)) (.ok a) =
            { q with writing := some s } := by
          show ({ q with writing := (statuses cols).getLast? } : Duty) = _
          rw [hcols]
          rfl
        rw [hans]
        -- a status in flight is one of the two that `process_receipt` writes
        refine h.update hf hcols hs (fun hflight => ?_)
        rcases hwhich with rfl | rfl | ⟨htask, hburden, -⟩
        · cases hflight
        · cases hflight
        · exact ⟨htask, hburden, hreceived⟩
    | selectReceipts params p =>
        refine Writing.of_none (fun k' => ?_) ?_
        · show db.receipts.staged i k' = none
          rw [hframe.receipts rfl]
          by_cases hk : k' = k
          · rw [hk]
            exact h.idle hmay.1
          · exact h.others k' hk
        · show (if _ then _ else _ : Duty).writing = none
          split <;> exact hmay.1
    | _ => exact h.same (hframe.receipts rfl) rfl rfl id rfl

/-- **One operation of the body of a task.** -/
theorem Writing.step {task : Task} {k : UUID} {w w' : World ι} {i : ι} {q : Duty} {o : Op}
    {r : Except PyExc o.Res} (h : Writing task k w i q) (hmay : MayDo task k q o)
    (hreceived : q.received = true) (hx : exec env i o w = some (r, w')) :
    Writing task k w' i (q.answered task o r) := by
  cases o with
  | sql s => exact h.stmt hmay hreceived hx
  | commit =>
      rcases exec_commit_cases hx with ⟨hf, rfl, rfl⟩ | ⟨-, rfl, rfl⟩ | ⟨-, rfl, rfl⟩ | ⟨-, rfl, rfl⟩
      · exact h.same rfl rfl (by rw [h.idle_of_failed hf]; rfl) id rfl
      · exact Writing.of_none (fun k' => staged_commit_eq_none _ _ k') rfl
      · exact Writing.of_none (fun k' => staged_rollback_eq_none _ _ k') rfl
      · exact Writing.of_none (fun k' => staged_rollback_eq_none _ _ k') rfl
  | rollback =>
      cases hx
      exact Writing.of_none (fun k' => staged_rollback_eq_none _ _ k') rfl
  | delay t =>
      obtain ⟨hdb, hf⟩ := exec_outside hx (by simp) (by simp) (by simp)
      refine h.same (by rw [hdb]) hf ?_ (fun hb => ?_) (received_answered _ _ _ _)
      · cases t <;> cases r <;> first | rfl | skip
        show (if _ then _ else _ : Duty).writing = _
        split <;> rfl
      · -- only a task with nothing left but the next one sheds its burden by enqueueing it
        cases t <;> cases r <;> first | exact hb | skip
        show (if _ then _ else _ : Duty).burden = _
        rw [if_neg (by simp [hb])]
        exact hb
  | _ =>
      obtain ⟨hdb, hf⟩ := exec_outside hx (by simp) (by simp) (by simp)
      refine h.same (by rw [hdb]) hf ?_ (fun hb => ?_) (received_answered _ _ _ _) <;> cases r <;>
        first | rfl | exact hb

end written

end SpendLens.Duties
