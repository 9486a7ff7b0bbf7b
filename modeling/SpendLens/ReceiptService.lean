/-
# Receipts: persistence and object storage

`createReceipt` puts the blob under a fresh key, inserts the row, commits, and
hands the receipt to the worker queue; when the insert or the commit raises it
removes the blob and re-raises.  What it does with a body before it touches
anything is the pure `vetUpload`, and `run_createReceipt` says what becomes of an
admitted body under every fault.
-/
import SpendLens.Statement

namespace SpendLens

/-! ## Sniffing -/

/-- 10 MiB. -/
def maxUploadBytes : ℕ := 10 * 1024 * 1024

/-- The bytes of an ASCII text. -/
def asciiBytes (s : String) : List UInt8 := s.toList.map (fun c => UInt8.ofNat c.toNat)

/-- Magic-byte prefixes of the types that have one. -/
def magicRules : List (List UInt8 × String) :=
  [([0xff, 0xd8, 0xff], "image/jpeg"),
    ([0x89, 0x50, 0x4e, 0x47, 0x0d, 0x0a, 0x1a, 0x0a], "image/png"),
    (asciiBytes "%PDF-", "application/pdf")]

def isoBmffHeaderLen : ℕ := 12

/-- The detected MIME type, or `none` if unsupported. -/
def sniffMime (data : List UInt8) : Option String :=
  match magicRules.find? (fun r => r.1.isPrefixOf data) with
  | some r => some r.2
  | none =>
      -- ISO BMFF: bytes 4..8 are the box type, bytes 8..12 the major brand
      if isoBmffHeaderLen ≤ data.length && (data.drop 4).take 4 = asciiBytes "ftyp" then
        let brand := (data.drop 8).take 4
        if brand ∈ ["heic", "heix", "hevc", "heim", "heis", "mif1"].map asciiBytes then
          some "image/heic"
        else if brand ∈ ["WEBP"].map asciiBytes then some "image/webp"
        else none
      else none

/-! ## Storage keys -/

def mimeToExt : List (String × String) :=
  [("image/jpeg", "jpg"), ("image/jpg", "jpg"), ("image/png", "png"), ("image/webp", "webp"),
    ("image/heic", "heic"), ("image/heif", "heif"), ("application/pdf", "pdf")]

/-- The file extension for a MIME type. -/
def extensionFor (U : Unicode) (mimeType : String) : Option String :=
  mimeToExt.lookup (strip (U.lower mimeType))

/-- The storage key under which a receipt is written. -/
def buildReceiptKey (env : Env) (userId : UUID) (mimeType secret : String) : Service String :=
  match extensionFor env.unicode mimeType with
  | none => throw (.valueError ("unsupported mime_type for storage key: " ++ mimeType))
  | some extension => do
      let now ← Prog.perform Op.utcnow
      let objectId ← uuid4
      return "receipts/" ++ env.userPrefix userId secret ++ "/" ++
        String.ofList (Date.pad4 now.year) ++ "/" ++ String.ofList (Date.pad2 now.month) ++ "/" ++
        uuidStr objectId ++ "." ++ extension

/-! ## Creating -/

/-- Hand a receipt to the OCR worker, except in the test environment. -/
def enqueueProcessing (env : Env) (receiptId : UUID) : Service Unit :=
  if env.settings.environment = "test" then .ret ()
  else Prog.perform (Op.delay (.processReceipt receiptId))

def refreshReceipt (id : UUID) : Service Receipt := do
  let rows ← sql (.selectReceipts [] (fun r => r.id = id))
  refreshed rows

/-- The row of a new upload; the database sets the timestamps. -/
def newReceipt (id userId : UUID) (key mimeType : String) (size : ℕ)
    (externalMessageId : Option String) : Receipt where
  id := id
  userId := userId
  storageKey := key
  mimeType := mimeType
  fileSizeBytes := size
  status := .uploaded
  ocrMethod := none
  ocrConfidence := none
  rawText := none
  parsedPayload := none
  errorMessage := none
  externalMessageId := externalMessageId
  createdAt := 0
  updatedAt := 0

/-- Flush and commit a new receipt; on failure wipe its blob and re-raise. -/
def saveReceipt (userId : UUID) (key mimeType : String) (size : ℕ)
    (externalMessageId : Option String) : Service UUID :=
  tryCatch
    (do
      let id ← uuid4
      sql (.insertReceipt (newReceipt id userId key mimeType size externalMessageId))
      commit
      return id)
    (fun e => do
      Prog.perform (Op.deleteObject key)
      throw e)

/-- Upload and persist a validated body. -/
def persistReceipt (env : Env) (userId : UUID) (body : List UInt8) (mimeType : String)
    (externalMessageId : Option String) : Service Receipt := do
  let key ← buildReceiptKey env userId mimeType env.settings.jwtSecret
  Prog.perform (Op.putObject key body mimeType)
  let id ← saveReceipt userId key mimeType body.length externalMessageId
  let receipt ← refreshReceipt id
  enqueueProcessing env receipt.id
  return receipt

/-- Validate, upload and persist a new receipt. -/
def createReceipt (env : Env) (userId : UUID) (body : List UInt8)
    (externalMessageId : Option String) : Service Receipt :=
  if maxUploadBytes < body.length then throw (.payloadTooLarge (toString body.length))
  else if body.isEmpty then throw (.unsupportedMediaType "empty upload")
  else
    match sniffMime (body.take 32) with
    | none => throw (.unsupportedMediaType "unknown magic bytes")
    | some mimeType => persistReceipt env userId body mimeType externalMessageId

/-! ## Reading, deleting, retrying -/

/-- A receipt the user owns. -/
def getReceipt (userId receiptId : UUID) : Service Receipt := do
  let rows ← sql (.selectReceipts [] (fun r => r.id = receiptId && r.userId = userId))
  match ← scalarOneOrNone rows with
  | none => throw (.receiptNotFound receiptId)
  | some receipt => return receipt

/-- The user's most recent receipts, newest first. -/
def listReceipts (userId : UUID) (limit : ℤ) : Service (List Receipt) := do
  let rows ← sql (.selectReceipts [] (fun r => r.userId = userId))
  return (rows.mergeSort (fun a b => b.createdAt ≤ a.createdAt)).take (max 1 (min limit 100)).toNat

/-- Delete a receipt row and its blob.  The flush loads the linked expense, whoever
owns it, and clears its `receipt_id` before the row goes. -/
def deleteReceipt (userId receiptId : UUID) : Service Unit := do
  let receipt ← getReceipt userId receiptId
  let linked ← sql (.selectExpenses [] (fun e => e.receiptId = some receiptId))
  linked.forM (fun e => sql (.updateExpense e.id [.receiptId none]))
  sql (.deleteReceipt receiptId)
  commit
  tryCatch (Prog.perform (Op.deleteObject receipt.storageKey)) (fun _ => return ())

/-- Reset a failed receipt and re-enqueue it. -/
def retryReceipt (env : Env) (userId receiptId : UUID) : Service Receipt := do
  let receipt ← getReceipt userId receiptId
  if receipt.status ≠ .failed then throw (.receiptNotRetryable receipt.status.value)
  else
    flushColumns ReceiptColumn.changes (fun cols => sql (.updateReceipt receiptId cols)) receipt
      [.status .uploaded, .errorMessage none]
    commit
    let receipt ← refreshReceipt receiptId
    enqueueProcessing env receipt.id
    return receipt

/-! ## What becomes of an upload -/

/-- What `create_receipt` makes of a body before it touches anything: the MIME type
it goes on with, or the exception. -/
def vetUpload (body : List UInt8) : Except PyExc String :=
  if maxUploadBytes < body.length then .error (.payloadTooLarge (toString body.length))
  else if body.isEmpty then .error (.unsupportedMediaType "empty upload")
  else
    match sniffMime (body.take 32) with
    | none => .error (.unsupportedMediaType "unknown magic bytes")
    | some mimeType => .ok mimeType

/-- The sniffer knows five types. -/
theorem sniffMime_mem {data : List UInt8} {mime : String} (h : sniffMime data = some mime) :
    mime ∈ ["image/jpeg", "image/png", "application/pdf", "image/heic", "image/webp"] := by
  unfold sniffMime at h
  split at h
  · rename_i r hr
    have hmem := List.mem_of_find?_eq_some hr
    rw [Option.some.injEq] at h
    subst h
    simp only [magicRules, List.mem_cons, List.not_mem_nil, or_false] at hmem
    rcases hmem with rfl | rfl | rfl <;> decide
  · dsimp only at h
    split at h
    · split at h
      · cases h; decide
      · split at h
        · cases h; decide
        · cases h
    · cases h

/-- Every type the sniffer knows has a file extension. -/
theorem extensionFor_of_sniffMime (U : Unicode) {data : List UInt8} {mime : String}
    (h : sniffMime data = some mime) : ∃ extension, extensionFor U mime = some extension := by
  have hmem := sniffMime_mem h
  have key : ["image/jpeg", "image/png", "application/pdf", "image/heic", "image/webp"].all
      (fun m => m.toList.all (fun c => c.toNat < 128 && c.toLower = c) &&
        (mimeToExt.lookup (strip m)).isSome) = true := by decide
  have hm := List.all_eq_true.1 key mime hmem
  rw [Bool.and_eq_true, List.all_eq_true] at hm
  have hascii : ∀ c ∈ mime.toList, c.toNat < 128 ∧ c.toLower = c := by
    intro c hc
    simpa using hm.1 c hc
  rw [extensionFor, U.lower_of_ascii hascii]
  exact Option.isSome_iff_exists.1 hm.2

/-- A body that is not admitted raises before anything is touched. -/
theorem createReceipt_of_vet_error {env : Env} {userId : UUID} {body : List UInt8}
    {mid : Option String} {e : PyExc} (h : vetUpload body = .error e) :
    createReceipt env userId body mid = .raise e := by
  unfold vetUpload at h
  unfold createReceipt
  split at h
  · rename_i hlen
    rw [if_pos hlen]
    cases h
    rfl
  · rename_i hlen
    rw [if_neg hlen]
    split at h
    · rename_i hempty
      rw [if_pos hempty]
      cases h
      rfl
    · rename_i hempty
      rw [if_neg hempty]
      split at h
      · cases h
        rfl
      · cases h

/-- An admitted body is persisted under the type it sniffs to. -/
theorem createReceipt_of_vet_ok (env : Env) (userId : UUID) (mid : Option String)
    {body : List UInt8} {mime : String} (h : vetUpload body = .ok mime) :
    sniffMime (body.take 32) = some mime ∧
      createReceipt env userId body mid = persistReceipt env userId body mime mid := by
  unfold vetUpload at h
  unfold createReceipt
  split at h
  · cases h
  · rename_i hlen
    rw [if_neg hlen]
    split at h
    · cases h
    · rename_i hempty
      rw [if_neg hempty]
      split at h
      · cases h
      · rename_i m hm
        cases h
        exact ⟨hm, rfl⟩

/-- The exception the inbound-email loop skips an attachment on. -/
def PyExc.isUnsupported : PyExc → Bool
  | unsupportedMediaType _ => true
  | _ => false

/-- The session has no open work on receipts and no failed transaction. -/
structure Idle (w : World Unit) : Prop where
  pending : w.db.receipts.pending = []
  failed : w.failed () = false

/-- The row a statement at operation `n` inserts. -/
def landedReceipt (env : Env) (n : ℕ) (userId : UUID) (key mime : String) (size : ℕ)
    (mid : Option String) : Receipt :=
  (newReceipt (env.uuid4 n) userId key mime size mid).stamp (env.clock (n + 1))

/-- The database takes the row: its id and its message are new, and the message id
is a text it can store. -/
def Insertable (w : World Unit) (r : Receipt) : Prop :=
  r.externalMessageId.all (fun m => textOk m && m.length ≤ 255) = true ∧
    w.db.receipts.committed.get r.id = none ∧
      ∀ m, r.messageKey = some m → ∀ u ∈ w.db.receipts.committed.rows, u.messageKey ≠ some m

section run

variable {env : Env} {w : World Unit} {userId : UUID} {key mime : String} {size : ℕ}
  {mid : Option String}

/-- An `INSERT` of an idle session, under the checks of `Insertable`. -/
theorem exec_insertReceipt (hidle : w.db.receipts.pending = []) (now : Timestamp) (r : Receipt)
    (hr : Insertable w (r.stamp now)) :
    (Stmt.insertReceipt r).exec now () w.db =
      some (.ok (), { w.db with
        receipts := w.db.receipts.stage () (.put (r.stamp now)) }) := by
  obtain ⟨htext, hid, hmsg⟩ := hr
  change r.externalMessageId.all (fun m => textOk m && m.length ≤ 255) = true at htext
  simp only [Stmt.exec]
  rw [if_pos htext]
  have hview := Store.view_of_pending_nil hidle ()
  have hdup : (r.stamp now).messageKey.any
      (fun x => w.db.receipts.duplicate () Receipt.messageKey x) = false := by
    rw [Option.any_eq_false]
    intro m hm
    rw [Store.duplicate, hview, List.any_eq_false]
    intro u hu
    simpa using hmsg m hm u hu
  have hcont : (r.stamp now).messageKey.any
      (fun x => w.db.receipts.contended () Receipt.messageKey x) = false := by
    rw [Option.any_eq_false]
    intro m _
    simp [contended_unit]
  rw [insert, locked_unit, hview, hid, hdup, hcont]
  rfl

/-- An `INSERT` the database refuses. -/
theorem exec_insertReceipt_refused (hidle : w.db.receipts.pending = []) (now : Timestamp)
    (r : Receipt) (hr : ¬Insertable w (r.stamp now)) :
    ∃ e db, (Stmt.insertReceipt r).exec now () w.db = some (.error e, db) ∧
      e.isUnsupported = false := by
  simp only [Stmt.exec]
  by_cases htext : r.externalMessageId.all (fun m => textOk m && m.length ≤ 255) = true
  · rw [if_pos htext]
    have hview := Store.view_of_pending_nil hidle ()
    have hcont : (r.stamp now).messageKey.any
        (fun x => w.db.receipts.contended () Receipt.messageKey x) = false := by
      rw [Option.any_eq_false]
      intro m _
      simp [contended_unit]
    rw [insert, locked_unit, hcont, hview]
    refine ⟨.integrityError, w.db, ?_, rfl⟩
    rw [if_neg (by decide), if_pos, Option.map_some]
    rw [Bool.or_eq_true]
    by_contra hno
    rw [not_or, Bool.not_eq_true, Bool.not_eq_true, Option.isSome_eq_false_iff,
      Option.isNone_iff_eq_none, Option.any_eq_false] at hno
    refine hr ⟨htext, hno.1, fun m hm u hu => ?_⟩
    have := hno.2 m hm
    rw [Store.duplicate, hview, List.any_eq_false] at this
    simpa using this u hu
  · rw [if_neg htext]
    exact ⟨_, _, rfl, rfl⟩

/-- The database once the row at operation `n` has been committed. -/
def World.landed (w : World Unit) (r : Receipt) : World Unit :=
  { w with db := ({ w.db with receipts := w.db.receipts.stage () (.put r) }).commit () }

theorem Idle.tick (h : Idle w) : Idle w.tick := ⟨h.pending, h.failed⟩

theorem Idle.landed (h : Idle w) (r : Receipt) : Idle (w.landed r) := by
  refine ⟨?_, h.failed⟩
  simp [World.landed, Db.commit, Store.commit, Store.stage]

/-- What a landed row adds to the committed table. -/
theorem rows_landed (h : Idle w) {r : Receipt} (hr : Insertable w r) :
    (w.landed r).db.receipts.committed.rows = w.db.receipts.committed.rows ++ [r] := by
  have hw : (w.db.receipts.stage () (.put r)).view () = w.db.receipts.committed.put r := by
    simp [Store.view, Store.writes, Store.stage, h.pending, Write.apply]
  rw [World.landed, Db.commit]
  change ((w.db.receipts.stage () (.put r)).view ()).rows = _
  rw [hw, Table.rows_put_of_new hr.2.1]

theorem get_landed (h : Idle w) {r : Receipt} (hr : Insertable w r) :
    (w.landed r).db.receipts.committed.get r.id = some r := by
  apply Table.get_of_mem
  rw [rows_landed h hr]
  exact List.mem_append_right _ (List.mem_singleton_self r)

/-- Removing the blob and re-raising raises, and leaves the database alone. -/
theorem run_wipe (env : Env) (w : World Unit) (key : String) {e : PyExc}
    (he : e.isUnsupported = false) :
    ∃ e' w', Prog.run (alone env)
        (do Prog.perform (Op.deleteObject key); throw e : Service UUID) w = (.error e', w') ∧
      e'.isUnsupported = false ∧ w'.db = w.db := by
  by_cases hf : env.fault w.calls = .none
  · exact ⟨e, _, Prog.run_perform_ok (alone env)
      ((alone_deleteObject env).trans (World.effect_of_none hf)), he, rfl⟩
  · obtain ⟨v, hv, hcases⟩ := World.effect_of_ne (w := w) (e := .storageError)
      (v := { w with blobs := w.blobs.filter (fun b => b.1 ≠ key) }) hf
    refine ⟨.storageError, v, Prog.run_perform_error (alone env) ((alone_deleteObject env).trans hv),
      rfl, ?_⟩
    rcases hcases with rfl | rfl <;> rfl

/-- When the row of `saveReceipt` gets committed: the insert is answered and takes
the row, and the commit takes effect. -/
def Lands (env : Env) (w : World Unit) (userId : UUID) (key mime : String) (size : ℕ)
    (mid : Option String) : Prop :=
  env.fault (w.calls + 1) = .none ∧ env.fault (w.calls + 2) ≠ .before ∧
    Insertable w (landedReceipt env w.calls userId key mime size mid)

/-- The session after the insert of `saveReceipt`. -/
def inserted (env : Env) (w : World Unit) (userId : UUID) (key mime : String) (size : ℕ)
    (mid : Option String) : World Unit :=
  { w with
    db := { w.db with
      receipts := w.db.receipts.stage ()
        (.put (landedReceipt env w.calls userId key mime size mid)) }
    calls := w.calls + 2 }

/-- The insert of `saveReceipt`, in front of what follows. -/
theorem run_insert_ok {α : Type} {f : UUID → Service α} (hidle : Idle w)
    (hfault : env.fault (w.calls + 1) = .none)
    (hins : Insertable w (landedReceipt env w.calls userId key mime size mid)) :
    Prog.run (alone env) (do
      let id ← uuid4
      sql (.insertReceipt (newReceipt id userId key mime size mid))
      f id) w =
    Prog.run (alone env) (f (env.uuid4 w.calls)) (inserted env w userId key mime size mid) := by
  have h₁ : alone env .uuid4 w = (.ok (env.uuid4 w.calls), w.tick) := alone_uuid4 env
  have h₂ := alone_sql_ok env (w := w.tick) hidle.tick.failed hfault
    (exec_insertReceipt (w := w.tick) hidle.pending _ _ hins)
  exact (Prog.run_perform_ok (alone env) h₁).trans (Prog.run_perform_ok (alone env) h₂)

/-- A save that lands and is answered. -/
theorem run_saveReceipt_ok (hidle : Idle w) (hl : Lands env w userId key mime size mid)
    (hc : env.fault (w.calls + 2) = .none) :
    Prog.run (alone env) (saveReceipt userId key mime size mid) w =
      (.ok (env.uuid4 w.calls),
        { w.landed (landedReceipt env w.calls userId key mime size mid) with
          calls := w.calls + 3 }) := by
  have hcommit := alone_commit env (w := inserted env w userId key mime size mid)
    hidle.failed hc
  apply Prog.run_handle_ok
  exact (run_insert_ok hidle hl.1 hl.2.2).trans (Prog.run_perform_ok (alone env) hcommit)

/-- A save that lands and whose commit is not answered: it raises, and the row stays. -/
theorem run_saveReceipt_lost (hidle : Idle w) (hl : Lands env w userId key mime size mid)
    (hc : env.fault (w.calls + 2) ≠ .none) :
    ∃ e w', Prog.run (alone env) (saveReceipt userId key mime size mid) w = (.error e, w') ∧
      e.isUnsupported = false ∧ w'.db.receipts.committed =
        (w.landed (landedReceipt env w.calls userId key mime size mid)).db.receipts.committed := by
  have hafter : env.fault (w.calls + 2) = .after := by
    cases h : env.fault (w.calls + 2) with
    | none => exact absurd h hc
    | before => exact absurd h hl.2.1
    | after => rfl
  have hcommit := alone_commit_after env (w := inserted env w userId key mime size mid)
    hidle.failed hafter
  have hbody := (run_insert_ok (f := fun id => do commit; return id) hidle hl.1 hl.2.2).trans
    (Prog.run_perform_error (alone env) hcommit)
  obtain ⟨e, w', hrun, he, hdb⟩ := run_wipe env _ key (e := .dbapiError) rfl
  refine ⟨e, w', (Prog.run_handle_error (alone env) hbody).trans hrun, he, ?_⟩
  rw [hdb]
  rfl

/-- A save that does not land raises and leaves the committed rows as they were. -/
theorem run_saveReceipt_not (hidle : Idle w) (hl : ¬Lands env w userId key mime size mid) :
    ∃ e w', Prog.run (alone env) (saveReceipt userId key mime size mid) w = (.error e, w') ∧
      e.isUnsupported = false ∧ w'.db.receipts.committed = w.db.receipts.committed := by
  -- the failing body, wherever it fails
  have hbody : ∃ e v, Prog.run (alone env) (do
      let id ← uuid4
      sql (.insertReceipt (newReceipt id userId key mime size mid))
      commit
      return id : Service UUID) w = (.error e, v) ∧ e.isUnsupported = false ∧
        v.db.receipts.committed = w.db.receipts.committed := by
    have h₁ : alone env .uuid4 w = (.ok (env.uuid4 w.calls), w.tick) := alone_uuid4 env
    by_cases hfault : env.fault (w.calls + 1) = .none
    · by_cases hins : Insertable w (landedReceipt env w.calls userId key mime size mid)
      · have hbefore : env.fault (w.calls + 2) = .before := by
          by_contra hne
          exact hl ⟨hfault, hne, hins⟩
        have hcommit := alone_commit_before env
          (w := inserted env w userId key mime size mid) hidle.failed hbefore
        exact ⟨_, _, (run_insert_ok (f := fun id => do commit; return id) hidle hfault hins).trans
          (Prog.run_perform_error (alone env) hcommit), rfl, rfl⟩
      · obtain ⟨e, db, hexec, he⟩ := exec_insertReceipt_refused (w := w.tick) hidle.pending _ _ hins
        have h₂ := alone_sql_error env (w := w.tick) hidle.tick.failed hfault hexec
        exact ⟨_, _, (Prog.run_perform_ok (alone env) h₁).trans
          (Prog.run_perform_error (alone env) h₂), he, rfl⟩
    · have h₂ := alone_sql_fault env (w := w.tick)
        (s := .insertReceipt (newReceipt (env.uuid4 w.calls) userId key mime size mid))
        hidle.tick.failed hfault
      exact ⟨_, _, (Prog.run_perform_ok (alone env) h₁).trans
        (Prog.run_perform_error (alone env) h₂), rfl, rfl⟩
  obtain ⟨e₁, v, hv, he₁, hcom⟩ := hbody
  obtain ⟨e, w', hrun, he, hdb⟩ := run_wipe env v key he₁
  refine ⟨e, w', (Prog.run_handle_error (alone env) hv).trans hrun, he, ?_⟩
  rw [hdb, hcom]

/-- The key `build_receipt_key` builds at operation `n`. -/
def receiptKey (env : Env) (n : ℕ) (userId : UUID) (extension : String) : String :=
  "receipts/" ++ env.userPrefix userId env.settings.jwtSecret ++ "/" ++
    String.ofList (Date.pad4 (env.utcnow n).year) ++ "/" ++
    String.ofList (Date.pad2 (env.utcnow n).month) ++ "/" ++
    uuidStr (env.uuid4 (n + 1)) ++ "." ++ extension

/-- The row `persistReceipt` inserts. -/
def persistedReceipt (env : Env) (w : World Unit) (userId : UUID) (body : List UInt8)
    (mime : String) (mid : Option String) : Receipt :=
  landedReceipt env (w.calls + 3) userId
    (receiptKey env w.calls userId ((extensionFor env.unicode mime).getD "")) mime body.length mid

/-- When the row of an upload gets committed: the blob is stored, the insert is
answered and takes the row, and the commit takes effect. -/
def Persists (env : Env) (w : World Unit) (userId : UUID) (body : List UInt8) (mime : String)
    (mid : Option String) : Prop :=
  env.fault (w.calls + 2) = .none ∧ env.fault (w.calls + 4) = .none ∧
    env.fault (w.calls + 5) ≠ .before ∧ Insertable w (persistedReceipt env w userId body mime mid)

/-- When a committed upload returns: the commit, the refresh and the enqueue are
answered. -/
def Returns (env : Env) (n : ℕ) : Prop :=
  env.fault (n + 5) = .none ∧ env.fault (n + 6) = .none ∧
    (env.settings.environment = "test" ∨ env.fault (n + 7) = .none)

variable {body : List UInt8}

/-- The session after the blob has been stored. -/
def uploaded (env : Env) (w : World Unit) (userId : UUID) (body : List UInt8) (mime : String) :
    World Unit :=
  { w with
    blobs := (receiptKey env w.calls userId ((extensionFor env.unicode mime).getD ""), body) ::
      w.blobs
    calls := w.calls + 3 }

theorem run_buildReceiptKey (env : Env) (userId : UUID) {data : List UInt8}
    (hsniff : sniffMime data = some mime) :
    Prog.run (alone env) (buildReceiptKey env userId mime env.settings.jwtSecret) w =
      (.ok (receiptKey env w.calls userId ((extensionFor env.unicode mime).getD "")),
        w.tick.tick) := by
  obtain ⟨extension, hext⟩ := extensionFor_of_sniffMime env.unicode hsniff
  rw [buildReceiptKey, hext]
  have h₁ : alone env .utcnow w = (.ok (env.utcnow w.calls), w.tick) := alone_utcnow env
  have h₂ : alone env .uuid4 w.tick = (.ok (env.uuid4 (w.calls + 1)), w.tick.tick) := alone_uuid4 env
  exact (Prog.run_perform_ok (alone env) h₁).trans (Prog.run_perform_ok (alone env) h₂)

/-- The steps up to the upload, in front of what follows. -/
theorem run_upload_ok {α : Type} {f : String → Service α} {data : List UInt8}
    (hsniff : sniffMime data = some mime) (hfault : env.fault (w.calls + 2) = .none) :
    Prog.run (alone env) (do
      let key ← buildReceiptKey env userId mime env.settings.jwtSecret
      Prog.perform (Op.putObject key body mime)
      f key) w =
    Prog.run (alone env)
      (f (receiptKey env w.calls userId ((extensionFor env.unicode mime).getD "")))
      (uploaded env w userId body mime) := by
  have hkey := run_buildReceiptKey (w := w) env userId hsniff
  have hput : alone env (.putObject (receiptKey env w.calls userId
      ((extensionFor env.unicode mime).getD "")) body mime) w.tick.tick =
      (.ok (), uploaded env w userId body mime) :=
    (alone_putObject env).trans (World.effect_of_none hfault)
  exact (Prog.run_bind_ok (alone env) hkey).trans (Prog.run_perform_ok (alone env) hput)

/-- An upload whose blob is not stored raises. -/
theorem run_upload_error {α : Type} {f : String → Service α} (userId : UUID) (body : List UInt8)
    {data : List UInt8} (hsniff : sniffMime data = some mime) (hfault : env.fault (w.calls + 2) ≠ .none) :
    ∃ e w', Prog.run (alone env) (do
      let key ← buildReceiptKey env userId mime env.settings.jwtSecret
      Prog.perform (Op.putObject key body mime)
      f key) w = (.error e, w') ∧ e.isUnsupported = false ∧ w'.db = w.db := by
  have hkey := run_buildReceiptKey (w := w) env userId hsniff
  obtain ⟨v, hv, hcases⟩ := World.effect_of_ne (w := w.tick.tick) (e := .storageError)
    (v := { w.tick.tick with
      blobs := (receiptKey env w.calls userId ((extensionFor env.unicode mime).getD ""), body) ::
        w.blobs }) hfault
  refine ⟨.storageError, v, (Prog.run_bind_ok (alone env) hkey).trans
    (Prog.run_perform_error (alone env) ((alone_putObject env).trans hv)), rfl, ?_⟩
  rcases hcases with rfl | rfl <;> rfl

/-- Re-reading a committed row. -/
theorem run_refreshReceipt_ok (env : Env) (hidle : Idle w) (hfault : env.fault w.calls = .none)
    {r : Receipt} (hr : w.db.receipts.committed.get r.id = some r) :
    Prog.run (alone env) (refreshReceipt r.id) w = (.ok r, w.tick) := by
  have hrows : (w.db.receipts.view ()).rows.filter (fun u => u.id = r.id) = [r] := by
    have := Table.filter_key (w.db.receipts.view ()) r.id (fun _ => true)
    rw [Store.view_of_pending_nil hidle.pending, hr] at this
    rw [Option.filter_some_pos rfl, Option.toList_some] at this
    rw [Store.view_of_pending_nil hidle.pending, ← this]
    apply List.filter_congr
    intro u _
    rw [Bool.and_true]
  have hexec : (Stmt.selectReceipts [] (fun u => u.id = r.id)).exec (env.clock w.calls) () w.db =
      some (.ok [r], w.db) := by
    simp only [Stmt.exec, select, List.all_nil, if_true]
    rw [hrows]
  exact Prog.run_perform_ok (alone env) (alone_sql_ok env hidle.failed hfault hexec)

/-- The tail of an upload whose row is committed. -/
theorem run_finish_ok (env : Env) (hidle : Idle w) (hfault : env.fault w.calls = .none)
    (henq : env.settings.environment = "test" ∨ env.fault (w.calls + 1) = .none) {r : Receipt}
    (hr : w.db.receipts.committed.get r.id = some r) :
    ∃ w', Prog.run (alone env) (do
      let receipt ← refreshReceipt r.id
      enqueueProcessing env receipt.id
      return receipt) w = (.ok r, w') ∧ Idle w' ∧ w'.db = w.db := by
  have hrefresh := run_refreshReceipt_ok env hidle hfault hr
  by_cases htest : env.settings.environment = "test"
  · refine ⟨w.tick, (Prog.run_bind_ok (alone env) hrefresh).trans ?_, hidle.tick, rfl⟩
    rw [enqueueProcessing, if_pos htest]
    rfl
  · have hf := henq.resolve_left htest
    refine ⟨({ w.tick with queue := w.queue ++ [.processReceipt r.id] } : World Unit).tick,
      (Prog.run_bind_ok (alone env) hrefresh).trans ?_, ⟨hidle.pending, hidle.failed⟩, rfl⟩
    rw [enqueueProcessing, if_neg htest]
    exact Prog.run_perform_ok (alone env) ((alone_delay env).trans (World.effect_of_none hf))

/-- The tail of an upload whose row is committed, struck by a fault. -/
theorem run_finish_error (env : Env) (hidle : Idle w) {r : Receipt}
    (hr : w.db.receipts.committed.get r.id = some r)
    (hno : ¬(env.fault w.calls = .none ∧
      (env.settings.environment = "test" ∨ env.fault (w.calls + 1) = .none))) :
    ∃ e w', Prog.run (alone env) (do
      let receipt ← refreshReceipt r.id
      enqueueProcessing env receipt.id
      return receipt) w = (.error e, w') ∧ e.isUnsupported = false ∧
      w'.db.receipts.committed = w.db.receipts.committed := by
  by_cases hfault : env.fault w.calls = .none
  · have hrefresh := run_refreshReceipt_ok env hidle hfault hr
    have htest : env.settings.environment ≠ "test" := fun h => hno ⟨hfault, Or.inl h⟩
    have hf : env.fault (w.calls + 1) ≠ .none := fun h => hno ⟨hfault, Or.inr h⟩
    obtain ⟨v, hv, hcases⟩ := World.effect_of_ne (w := w.tick) (e := .brokerError)
      (v := { w.tick with queue := w.queue ++ [.processReceipt r.id] }) hf
    refine ⟨.brokerError, v, (Prog.run_bind_ok (alone env) hrefresh).trans ?_, rfl, ?_⟩
    · rw [enqueueProcessing, if_neg htest]
      exact Prog.run_perform_error (alone env) ((alone_delay env).trans hv)
    · rcases hcases with rfl | rfl <;> rfl
  · have hsql := alone_sql_fault env (w := w)
      (s := .selectReceipts [] (fun u => u.id = r.id)) hidle.failed hfault
    refine ⟨.dbapiError, _, Prog.run_bind_error (alone env)
      (Prog.run_perform_error (alone env) hsql), rfl, ?_⟩
    rfl

theorem idle_uploaded (env : Env) (userId : UUID) (body : List UInt8) (mime : String) (h : Idle w) :
    Idle (uploaded env w userId body mime) :=
  ⟨h.pending, h.failed⟩

/-- **An upload that lands and is answered** returns the row it has committed. -/
theorem run_persistReceipt_ok {data : List UInt8} (hidle : Idle w)
    (hsniff : sniffMime data = some mime) (hp : Persists env w userId body mime mid)
    (hr : Returns env w.calls) :
    ∃ w', Prog.run (alone env) (persistReceipt env userId body mime mid) w =
        (.ok (persistedReceipt env w userId body mime mid), w') ∧ Idle w' ∧
      w'.db.receipts.committed.rows =
        w.db.receipts.committed.rows ++ [persistedReceipt env w userId body mime mid] := by
  obtain ⟨hput, hinsert, hcommit, hins⟩ := hp
  have hl : Lands env (uploaded env w userId body mime) userId
      (receiptKey env w.calls userId ((extensionFor env.unicode mime).getD "")) mime body.length
      mid := ⟨hinsert, hcommit, hins⟩
  have hsave := run_saveReceipt_ok (idle_uploaded env userId body mime hidle) hl hr.1
  have hrows : ((uploaded env w userId body mime).landed
      (persistedReceipt env w userId body mime mid)).db.receipts.committed.rows =
        w.db.receipts.committed.rows ++ [persistedReceipt env w userId body mime mid] :=
    rows_landed (idle_uploaded env userId body mime hidle) hl.2.2
  have hget := get_landed (idle_uploaded env userId body mime hidle) hl.2.2
  have hidle' := (idle_uploaded env userId body mime hidle).landed
    (persistedReceipt env w userId body mime mid)
  obtain ⟨w', hrun, hidle'', hdb⟩ := run_finish_ok env
    (w := { (uploaded env w userId body mime).landed
      (persistedReceipt env w userId body mime mid) with calls := w.calls + 6 })
    ⟨hidle'.pending, hidle'.failed⟩ hr.2.1 hr.2.2 hget
  refine ⟨w', ?_, hidle'', ?_⟩
  · exact (run_upload_ok hsniff hput).trans ((Prog.run_bind_ok (alone env) hsave).trans hrun)
  · rw [hdb]
    exact hrows

/-- **An upload that lands and is not answered** raises, and its row stays. -/
theorem run_persistReceipt_lost {data : List UInt8} (hidle : Idle w)
    (hsniff : sniffMime data = some mime) (hp : Persists env w userId body mime mid)
    (hr : ¬Returns env w.calls) :
    ∃ e w', Prog.run (alone env) (persistReceipt env userId body mime mid) w = (.error e, w') ∧
      e.isUnsupported = false ∧ w'.db.receipts.committed.rows =
        w.db.receipts.committed.rows ++ [persistedReceipt env w userId body mime mid] := by
  obtain ⟨hput, hinsert, hcommit, hins⟩ := hp
  have hl : Lands env (uploaded env w userId body mime) userId
      (receiptKey env w.calls userId ((extensionFor env.unicode mime).getD "")) mime body.length
      mid := ⟨hinsert, hcommit, hins⟩
  have hrows : ((uploaded env w userId body mime).landed
      (persistedReceipt env w userId body mime mid)).db.receipts.committed.rows =
        w.db.receipts.committed.rows ++ [persistedReceipt env w userId body mime mid] :=
    rows_landed (idle_uploaded env userId body mime hidle) hl.2.2
  by_cases hc : env.fault (w.calls + 5) = .none
  · have hsave := run_saveReceipt_ok (idle_uploaded env userId body mime hidle) hl hc
    have hget := get_landed (idle_uploaded env userId body mime hidle) hl.2.2
    have hidle' := (idle_uploaded env userId body mime hidle).landed
      (persistedReceipt env w userId body mime mid)
    obtain ⟨e, w', hrun, he, hcom⟩ := run_finish_error env
      (w := { (uploaded env w userId body mime).landed
        (persistedReceipt env w userId body mime mid) with calls := w.calls + 6 })
      ⟨hidle'.pending, hidle'.failed⟩ hget (fun h => hr ⟨hc, h⟩)
    refine ⟨e, w', ?_, he, ?_⟩
    · exact (run_upload_ok hsniff hput).trans ((Prog.run_bind_ok (alone env) hsave).trans hrun)
    · rw [hcom]
      exact hrows
  · obtain ⟨e, w', hsave, he, hcom⟩ :=
      run_saveReceipt_lost (idle_uploaded env userId body mime hidle) hl hc
    refine ⟨e, w', ?_, he, ?_⟩
    · exact (run_upload_ok hsniff hput).trans (Prog.run_bind_error (alone env) hsave)
    · rw [hcom]
      exact hrows

/-- **An upload that does not land** raises and leaves the committed rows as they were. -/
theorem run_persistReceipt_not {data : List UInt8} (hidle : Idle w)
    (hsniff : sniffMime data = some mime) (hp : ¬Persists env w userId body mime mid) :
    ∃ e w', Prog.run (alone env) (persistReceipt env userId body mime mid) w = (.error e, w') ∧
      e.isUnsupported = false ∧ w'.db.receipts.committed = w.db.receipts.committed := by
  by_cases hput : env.fault (w.calls + 2) = .none
  · have hl : ¬Lands env (uploaded env w userId body mime) userId
        (receiptKey env w.calls userId ((extensionFor env.unicode mime).getD "")) mime body.length
        mid := fun hl => hp ⟨hput, hl.1, hl.2.1, hl.2.2⟩
    obtain ⟨e, w', hsave, he, hcom⟩ := run_saveReceipt_not (idle_uploaded env userId body mime hidle) hl
    exact ⟨e, w', (run_upload_ok hsniff hput).trans (Prog.run_bind_error (alone env) hsave), he,
      hcom⟩
  · obtain ⟨e, w', hrun, he, hdb⟩ := run_upload_error (w := w)
      (f := fun key => do
        let id ← saveReceipt userId key mime body.length mid
        let receipt ← refreshReceipt id
        enqueueProcessing env receipt.id
        return receipt) userId body hsniff hput
    exact ⟨e, w', hrun, he, by rw [hdb]⟩

end run

end SpendLens
