/-
# Uploads across the bucket and the database

`create_receipt` changes three systems that share no transaction: it puts the
blob, commits the row and hands the receipt to the queue.  Until the commit a
failure is undone, because the row has not been written and the blob is wiped.
After the commit nothing is undone any more: a refresh or an enqueue that fails
leaves both the row and the blob behind an exception.
-/
import SpendLens.ReceiptService

namespace SpendLens

section upload

variable {env : Env} {w : World Unit} {userId : UUID} {key mime : String} {size : ℕ}
  {mid : Option String} {body : List UInt8}

/-! ## A save that does not land -/

/-- Wiping a blob, when the bucket answers. -/
theorem run_wipe_ok (env : Env) (w : World Unit) (key : String) (e : PyExc)
    (hf : env.fault w.calls = .none) :
    Prog.run (alone env) (do Prog.perform (Op.deleteObject key); throw e : Service UUID) w =
      (.error e, ({ w with blobs := w.blobs.filter (fun b => b.1 ≠ key) } : World Unit).tick) :=
  Prog.run_perform_ok (alone env) ((alone_deleteObject env).trans (World.effect_of_none hf))

/-- The insert of `saveReceipt` is answered and takes the row. -/
def Inserts (env : Env) (w : World Unit) (userId : UUID) (key mime : String) (size : ℕ)
    (mid : Option String) : Prop :=
  env.fault (w.calls + 1) = .none ∧ Insertable w (landedReceipt env w.calls userId key mime size mid)

/-- A save whose insert fails wipes the blob. -/
theorem run_saveReceipt_not_inserted (hidle : Idle w)
    (hins : ¬Inserts env w userId key mime size mid) (hwipe : env.fault (w.calls + 2) = .none) :
    ∃ e w', Prog.run (alone env) (saveReceipt userId key mime size mid) w = (.error e, w') ∧
      w'.db.receipts.committed = w.db.receipts.committed ∧
      w'.blobs = w.blobs.filter (fun b => b.1 ≠ key) := by
  have h₁ : alone env .uuid4 w = (.ok (env.uuid4 w.calls), w.tick) := alone_uuid4 env
  -- the insert is struck, or the database refuses the row
  have hbody : ∃ e, alone env (.sql (.insertReceipt
      (newReceipt (env.uuid4 w.calls) userId key mime size mid))) w.tick =
        (.error e, (w.tick.abort ()).tick) := by
    by_cases hfault : env.fault (w.calls + 1) = .none
    · have hno : ¬Insertable w (landedReceipt env w.calls userId key mime size mid) :=
        fun h => hins ⟨hfault, h⟩
      obtain ⟨e, db, hexec, -⟩ :=
        exec_insertReceipt_refused (w := w.tick) hidle.pending _ _ hno
      exact ⟨e, alone_sql_error env hidle.tick.failed hfault hexec⟩
    · exact ⟨_, alone_sql_fault env hidle.tick.failed hfault⟩
  obtain ⟨e, h₂⟩ := hbody
  have hrun : Prog.run (alone env) (do
      let id ← uuid4
      sql (.insertReceipt (newReceipt id userId key mime size mid))
      commit
      return id : Service UUID) w = (.error e, (w.tick.abort ()).tick) :=
    (Prog.run_perform_ok (alone env) h₁).trans (Prog.run_perform_error (alone env) h₂)
  have hw := run_wipe_ok env (w.tick.abort ()).tick key e hwipe
  exact ⟨e, _, (Prog.run_handle_error (alone env) hrun).trans hw, rfl, rfl⟩

/-- A save whose commit fails wipes the blob. -/
theorem run_saveReceipt_not_committed (hidle : Idle w)
    (hins : Inserts env w userId key mime size mid) (hc : env.fault (w.calls + 2) = .before)
    (hwipe : env.fault (w.calls + 3) = .none) :
    ∃ e w', Prog.run (alone env) (saveReceipt userId key mime size mid) w = (.error e, w') ∧
      w'.db.receipts.committed = w.db.receipts.committed ∧
      w'.blobs = w.blobs.filter (fun b => b.1 ≠ key) := by
  have hcommit := alone_commit_before env (w := inserted env w userId key mime size mid)
    hidle.failed hc
  have hrun := (run_insert_ok (f := fun id => do commit; return id) hidle hins.1 hins.2).trans
    (Prog.run_perform_error (alone env) hcommit)
  have hw := run_wipe_ok env ((inserted env w userId key mime size mid).abort ()).tick key
    .dbapiError hwipe
  exact ⟨_, _, (Prog.run_handle_error (alone env) hrun).trans hw, rfl, rfl⟩

/-! ## All or nothing -/

/-- A call that raises has changed neither the receipts nor the bucket; a call that
returns has added one row, one blob with the body, and one task. -/
def AllOrNothing (env : Env) (w : World Unit) (userId : UUID) (body : List UInt8)
    (mid : Option String) : Prop :=
  match Prog.run (alone env) (createReceipt env userId body mid) w with
  | (.error _, w') =>
      w'.db.receipts.committed = w.db.receipts.committed ∧ w'.blobs = w.blobs
  | (.ok r, w') =>
      w'.db.receipts.committed.rows = w.db.receipts.committed.rows ++ [r] ∧
        w'.blobs = (r.storageKey, body) :: w.blobs ∧ (∀ b ∈ w.blobs, b.1 ≠ r.storageKey) ∧
        w'.queue = w.queue ++ [.processReceipt r.id]

/-- The key the upload of a body goes to. -/
def uploadKey (env : Env) (w : World Unit) (userId : UUID) (mime : String) : String :=
  receiptKey env w.calls userId ((extensionFor env.unicode mime).getD "")

/-- What is taken for granted about the failures of an upload: operation 5 is the commit,
which does not commit when it raises, and the operation after a failed insert
(operation 5) or a failed commit (operation 6) wipes the blob, which succeeds. -/
structure CleansUp (env : Env) (w : World Unit) (userId : UUID) (body : List UInt8)
    (mime : String) (mid : Option String) : Prop where
  commit : env.fault (w.calls + 5) ≠ .after
  insert : ¬Inserts env (uploaded env w userId body mime) userId (uploadKey env w userId mime) mime
    body.length mid → env.fault (w.calls + 5) = .none
  wipe : env.fault (w.calls + 5) = .before → env.fault (w.calls + 6) = .none

/-- The refresh and the enqueue that follow the commit are answered, outside the test
environment, which enqueues nothing. -/
def Handed (env : Env) (n : ℕ) : Prop :=
  env.fault (n + 6) = .none ∧ env.settings.environment ≠ "test" ∧ env.fault (n + 7) = .none

/-- The blobs once the blob under a new key has been wiped. -/
theorem wiped_blobs (hkey : ∀ b ∈ w.blobs, b.1 ≠ uploadKey env w userId mime) :
    (uploaded env w userId body mime).blobs.filter
      (fun b => b.1 ≠ uploadKey env w userId mime) = w.blobs := by
  show ((uploadKey env w userId mime, body) :: w.blobs).filter _ = w.blobs
  rw [List.filter_cons_of_neg (by simp), List.filter_eq_self]
  intro b hb
  simpa using hkey b hb

/-- The tail of an upload whose row is committed and handed on. -/
theorem run_finish_handed (hidle : Idle w) (hfault : env.fault w.calls = .none)
    (htest : env.settings.environment ≠ "test") (henq : env.fault (w.calls + 1) = .none)
    {r : Receipt} (hr : w.db.receipts.committed.get r.id = some r) :
    Prog.run (alone env) (do
      let receipt ← refreshReceipt r.id
      enqueueProcessing env receipt.id
      return receipt) w =
        (.ok r, ({ w.tick with queue := w.queue ++ [.processReceipt r.id] } : World Unit).tick) := by
  refine (Prog.run_bind_ok (alone env) (run_refreshReceipt_ok env hidle hfault hr)).trans ?_
  rw [enqueueProcessing, if_neg htest]
  exact Prog.run_perform_ok (alone env) ((alone_delay env).trans (World.effect_of_none henq))

/-- The tail in the test environment. -/
theorem run_finish_test (hidle : Idle w) (hfault : env.fault w.calls = .none)
    (htest : env.settings.environment = "test") {r : Receipt}
    (hr : w.db.receipts.committed.get r.id = some r) :
    Prog.run (alone env) (do
      let receipt ← refreshReceipt r.id
      enqueueProcessing env receipt.id
      return receipt) w = (.ok r, w.tick) := by
  refine (Prog.run_bind_ok (alone env) (run_refreshReceipt_ok env hidle hfault hr)).trans ?_
  rw [enqueueProcessing, if_pos htest]
  rfl

/-- An upload that is undone: the blob is stored, and then the insert or the commit fails. -/
theorem run_persistReceipt_undone {data : List UInt8} (hidle : Idle w)
    (hsniff : sniffMime data = some mime)
    (hkey : ∀ b ∈ w.blobs, b.1 ≠ uploadKey env w userId mime)
    (hclean : CleansUp env w userId body mime mid) (hput : env.fault (w.calls + 2) = .none)
    (hp : ¬Persists env w userId body mime mid) :
    ∃ e w', Prog.run (alone env) (persistReceipt env userId body mime mid) w = (.error e, w') ∧
      w'.db.receipts.committed = w.db.receipts.committed ∧ w'.blobs = w.blobs := by
  have hidle' : Idle (uploaded env w userId body mime) := idle_uploaded env userId body mime hidle
  have hsave : ∃ e w', Prog.run (alone env) (saveReceipt userId (uploadKey env w userId mime) mime
      body.length mid) (uploaded env w userId body mime) = (.error e, w') ∧
      w'.db.receipts.committed = w.db.receipts.committed ∧
      w'.blobs = (uploaded env w userId body mime).blobs.filter
        (fun b => b.1 ≠ uploadKey env w userId mime) := by
    by_cases hins : Inserts env (uploaded env w userId body mime) userId
        (uploadKey env w userId mime) mime body.length mid
    · have hbefore : env.fault (w.calls + 5) = .before := by
        by_contra hne
        exact hp ⟨hput, hins.1, hne, hins.2⟩
      exact run_saveReceipt_not_committed hidle' hins hbefore (hclean.wipe hbefore)
    · exact run_saveReceipt_not_inserted hidle' hins (hclean.insert hins)
  obtain ⟨e, w', hrun, hcom, hblobs⟩ := hsave
  refine ⟨e, w', (run_upload_ok hsniff hput).trans (Prog.run_bind_error (alone env) hrun), hcom, ?_⟩
  rw [hblobs, wiped_blobs hkey]

/-- An upload whose blob is not stored, or is stored by a call that raises. -/
theorem run_put_struck {α : Type} {f : String → Service α} (userId : UUID) (body : List UInt8)
    {data : List UInt8} (hsniff : sniffMime data = some mime)
    (hput : env.fault (w.calls + 2) ≠ .none) :
    ∃ w', Prog.run (alone env) (do
        let key ← buildReceiptKey env userId mime env.settings.jwtSecret
        Prog.perform (Op.putObject key body mime)
        f key) w = (.error .storageError, w') ∧ w'.db = w.db ∧
      w'.blobs = if env.fault (w.calls + 2) = .after then
        (uploadKey env w userId mime, body) :: w.blobs else w.blobs := by
  have hkey := run_buildReceiptKey (w := w) env userId hsniff
  have hraise := @alone_putObject env w.tick.tick (uploadKey env w userId mime) body mime
  change _ = w.tick.tick.effect (env.fault (w.calls + 2)) _ _ at hraise
  cases hf : env.fault (w.calls + 2) with
  | none => exact absurd hf hput
  | before =>
      rw [hf] at hraise
      refine ⟨w.tick.tick.tick, (Prog.run_bind_ok (alone env) hkey).trans
        (Prog.run_perform_error (alone env) hraise), rfl, ?_⟩
      rw [if_neg (by decide)]
      rfl
  | after =>
      rw [hf] at hraise
      refine ⟨uploaded env w userId body mime, (Prog.run_bind_ok (alone env) hkey).trans
        (Prog.run_perform_error (alone env) hraise), rfl, ?_⟩
      rw [if_pos rfl]
      rfl

/-- A committed upload, up to its refresh. -/
theorem run_persistReceipt_landed {data : List UInt8} (hidle : Idle w)
    (hsniff : sniffMime data = some mime) (hp : Persists env w userId body mime mid)
    (hc : env.fault (w.calls + 5) = .none) :
    Prog.run (alone env) (persistReceipt env userId body mime mid) w =
      Prog.run (alone env) (do
        let receipt ← refreshReceipt (persistedReceipt env w userId body mime mid).id
        enqueueProcessing env receipt.id
        return receipt)
        { (uploaded env w userId body mime).landed
          (persistedReceipt env w userId body mime mid) with calls := w.calls + 6 } := by
  obtain ⟨hput, hinsert, hcommit, hins⟩ := hp
  have hl : Lands env (uploaded env w userId body mime) userId
      (receiptKey env w.calls userId ((extensionFor env.unicode mime).getD "")) mime body.length
      mid := ⟨hinsert, hcommit, hins⟩
  have hsave := run_saveReceipt_ok (idle_uploaded env userId body mime hidle) hl hc
  exact (run_upload_ok hsniff hput).trans (Prog.run_bind_ok (alone env) hsave)

/-- **An upload is all or nothing, exactly when.**  The put has not stored a blob if it
raises, and a row that gets committed is handed on. -/
theorem allOrNothing_iff (hidle : Idle w)
    (hkey : ∀ mime, ∀ b ∈ w.blobs, b.1 ≠ uploadKey env w userId mime)
    (hclean : ∀ mime, vetUpload body = .ok mime → CleansUp env w userId body mime mid) :
    AllOrNothing env w userId body mid ↔
      ∀ mime, vetUpload body = .ok mime →
        env.fault (w.calls + 2) ≠ .after ∧
          (Persists env w userId body mime mid → Handed env w.calls) := by
  cases hvet : vetUpload body with
  | error e =>
      refine ⟨fun _ mime h => ?_, fun _ => ?_⟩
      · cases h
      · rw [AllOrNothing, createReceipt_of_vet_error hvet]
        exact ⟨rfl, rfl⟩
  | ok mime =>
      obtain ⟨hsniff, hcreate⟩ := createReceipt_of_vet_ok env userId mid hvet
      rw [AllOrNothing, hcreate]
      have hclean := hclean mime hvet
      have hgoal : ∀ P : Prop, (P ↔ env.fault (w.calls + 2) ≠ .after ∧
          (Persists env w userId body mime mid → Handed env w.calls)) →
          (P ↔ ∀ m, (Except.ok mime : Except PyExc String) = .ok m →
            env.fault (w.calls + 2) ≠ .after ∧
              (Persists env w userId body m mid → Handed env w.calls)) := by
        intro P hP
        rw [hP]
        constructor
        · intro h m hm
          cases hm
          exact h
        · exact fun h => h mime rfl
      apply hgoal
      by_cases hput : env.fault (w.calls + 2) = .none
      · by_cases hp : Persists env w userId body mime mid
        · have hc : env.fault (w.calls + 5) = .none := by
            cases hf : env.fault (w.calls + 5) with
            | none => rfl
            | before => exact absurd hf hp.2.2.1
            | after => exact absurd hf hclean.commit
          have hl := (idle_uploaded env userId body mime hidle).landed
            (persistedReceipt env w userId body mime mid)
          have hget := get_landed (idle_uploaded env userId body mime hidle) hp.2.2.2
          have hrows : ((uploaded env w userId body mime).landed
              (persistedReceipt env w userId body mime mid)).db.receipts.committed.rows =
                w.db.receipts.committed.rows ++ [persistedReceipt env w userId body mime mid] :=
            rows_landed (idle_uploaded env userId body mime hidle) hp.2.2.2
          rw [run_persistReceipt_landed hidle hsniff hp hc]
          by_cases hret : env.fault (w.calls + 6) = .none ∧
              (env.settings.environment = "test" ∨ env.fault (w.calls + 7) = .none)
          · by_cases htest : env.settings.environment = "test"
            · -- the row is added and no task is
              rw [run_finish_test (w := { (uploaded env w userId body mime).landed
                (persistedReceipt env w userId body mime mid) with calls := w.calls + 6 })
                ⟨hl.pending, hl.failed⟩ hret.1 htest hget]
              refine iff_of_false (fun h => ?_) (fun h => (h.2 hp).2.1 htest)
              have hq := congrArg List.length h.2.2.2
              rw [List.length_append, List.length_singleton] at hq
              exact absurd hq (by show w.queue.length ≠ w.queue.length + 1; omega)
            · have henq := hret.2.resolve_left htest
              rw [run_finish_handed (w := { (uploaded env w userId body mime).landed
                (persistedReceipt env w userId body mime mid) with calls := w.calls + 6 })
                ⟨hl.pending, hl.failed⟩ hret.1 htest henq hget]
              refine iff_of_true ⟨hrows, rfl, hkey mime, rfl⟩ ⟨?_, fun _ => ⟨hret.1, htest, henq⟩⟩
              rw [hput]
              exact fun h => nomatch h
          · -- the row stays behind an exception
            obtain ⟨e, w', hrun, -, hcom⟩ := run_finish_error env
              (w := { (uploaded env w userId body mime).landed
                (persistedReceipt env w userId body mime mid) with calls := w.calls + 6 })
              ⟨hl.pending, hl.failed⟩ hget hret
            rw [hrun]
            refine iff_of_false (fun h => ?_)
              (fun h => hret ⟨(h.2 hp).1, Or.inr (h.2 hp).2.2⟩)
            have hlen := congrArg (fun T => T.rows.length) (hcom.symm.trans h.1)
            change ((uploaded env w userId body mime).landed
              (persistedReceipt env w userId body mime mid)).db.receipts.committed.rows.length = _
              at hlen
            rw [hrows, List.length_append, List.length_singleton] at hlen
            omega
        · obtain ⟨e, w', hrun, hcom, hblobs⟩ :=
            run_persistReceipt_undone hidle hsniff (hkey mime) hclean hput hp
          rw [hrun]
          refine iff_of_true ⟨hcom, hblobs⟩ ⟨?_, fun h => absurd h hp⟩
          rw [hput]
          exact fun h => nomatch h
      · obtain ⟨w', hrun, hdb, hblobs⟩ :=
          run_put_struck (f := fun key => do
            let id ← saveReceipt userId key mime body.length mid
            let receipt ← refreshReceipt id
            enqueueProcessing env receipt.id
            return receipt) userId body hsniff hput
        rw [persistReceipt, hrun]
        have hp : ¬Persists env w userId body mime mid := fun h => hput h.1
        by_cases hafter : env.fault (w.calls + 2) = .after
        · -- the blob is stored and nothing wipes it
          rw [if_pos hafter] at hblobs
          refine iff_of_false (fun h => ?_) (fun h => h.1 hafter)
          have hlen := congrArg List.length (hblobs.symm.trans h.2)
          rw [List.length_cons] at hlen
          omega
        · rw [if_neg hafter] at hblobs
          exact iff_of_true ⟨by rw [hdb], hblobs⟩ ⟨hafter, fun h => absurd h hp⟩

end upload

/-- A JPEG in three bytes. -/
def jpegBytes : List UInt8 := [0xff, 0xd8, 0xff]

theorem cleansUp_quiet (mime : String) (mid : Option String) :
    CleansUp Env.quiet (World.ofDb (Db.ofUsers [])) 7 jpegBytes mime mid where
  commit := fun h => nomatch h
  insert := fun _ => rfl
  wipe := fun h => nomatch h

theorem allOrNothing_iff_jpeg :
    AllOrNothing Env.quiet (World.ofDb (Db.ofUsers [])) 7 jpegBytes none ↔
      ∀ mime, vetUpload jpegBytes = .ok mime →
        Env.quiet.fault 2 ≠ .after ∧ (Persists Env.quiet (World.ofDb (Db.ofUsers [])) 7 jpegBytes
          mime none → Handed Env.quiet 0) :=
  allOrNothing_iff ⟨rfl, rfl⟩ (fun _ _ hb => nomatch hb)
    (fun mime _ => cleansUp_quiet mime none)

/-- Surroundings in which the broker is down. -/
def Env.brokerDown : Env := { Env.quiet with fault := fun n => if n = 7 then .before else .none }

/-- The broker is down when the upload is handed on: the call raises, and its row and its
blob stay. -/
theorem not_allOrNothing_broker_down :
    (∀ n, n ≠ 7 → Env.brokerDown.fault n = .none) ∧
      ¬AllOrNothing Env.brokerDown (World.ofDb (Db.ofUsers [])) 7 jpegBytes none := by
  refine ⟨fun n hn => if_neg hn, fun h => ?_⟩
  have hraise : (Prog.run (alone Env.brokerDown) (createReceipt Env.brokerDown 7 jpegBytes none)
      (World.ofDb (Db.ofUsers []))).1.isOk = false := by
    decide
  have hblobs : (Prog.run (alone Env.brokerDown) (createReceipt Env.brokerDown 7 jpegBytes none)
      (World.ofDb (Db.ofUsers []))).2.blobs.length = 1 := by
    decide
  rw [AllOrNothing] at h
  split at h
  · rename_i e w' hrun
    rw [hrun, h.2] at hblobs
    exact absurd hblobs (by decide)
  · rename_i r w' hrun
    rw [hrun] at hraise
    cases hraise

end SpendLens
