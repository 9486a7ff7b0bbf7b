/-
# The life of a receipt

Which status changes the workers and the retry endpoint commit.  Every write of a
status is decided by what the session has read before, so the documented machine
is kept by every run in which a session writes over the status it has seen, and
`process_receipt` starts on uploaded or processing receipts only.  Under at-least-once delivery
and automatic retries neither is guaranteed by the code.
-/
import SpendLens.ReceiptBlobs
import SpendLens.ReceiptTasks

namespace SpendLens

/-! ## The documented machine -/

/-- The edges the workers may take. -/
def workerEdge : ReceiptStatus → ReceiptStatus → Bool
  | .uploaded, .processing => true
  | .processing, .parsed => true
  | .processing, .failed => true
  | .parsed, .categorised => true
  | .parsed, .failed => true
  | _, _ => false

/-- `FAILED` and `CATEGORISED` are terminal for workers. -/
theorem workerEdge_terminal {u v : ReceiptStatus} (h : u = .failed ∨ u = .categorised) :
    workerEdge u v = false := by
  rcases h with rfl | rfl <;> cases v <;> rfl

/-- The status columns among some assignments. -/
def statuses (cols : List ReceiptColumn) : List ReceiptStatus :=
  cols.filterMap (fun c => match c with | .status v => some v | _ => none)

/-- Assignments without a status leave it as it is. -/
theorem storeAll_status {cols : List ReceiptColumn} {r r' : Receipt}
    (h : storeAll ReceiptColumn.store r cols = .ok r') :
    r'.status = (statuses cols).getLast?.getD r.status := by
  induction cols generalizing r with
  | nil =>
      cases h
      rfl
  | cons c cols ih =>
      rw [storeAll] at h
      split at h
      · cases h
      · rename_i r₁ hr₁
        rw [ih h]
        cases c with
        | status v =>
            cases hr₁
            show _ = (v :: statuses cols).getLast?.getD _
            rw [List.getLast?_cons]
            rfl
        | _ =>
            have hs : r₁.status = r.status := by
              simp only [ReceiptColumn.store] at hr₁
              first | (cases hr₁; rfl) | (split at hr₁ <;> cases hr₁; rfl)
            rw [hs]
            rfl

/-- The assignment of another status is among those that change a row. -/
theorem statuses_filter {r : Receipt} {cols : List ReceiptColumn} {v : ReceiptStatus}
    (h : statuses cols = [v]) (hne : v ≠ r.status) :
    statuses (cols.filter (ReceiptColumn.changes r)) = [v] := by
  have hfilter : statuses (cols.filter (ReceiptColumn.changes r)) =
      (statuses cols).filter (fun s => s ≠ r.status) := by
    clear h
    induction cols with
    | nil => rfl
    | cons c cols ih =>
        cases c with
        | status s =>
            by_cases hs : s = r.status
            · rw [List.filter_cons_of_neg (by simp [ReceiptColumn.changes, hs]), ih]
              exact (List.filter_cons_of_neg (by simp [hs])).symm
            · rw [List.filter_cons_of_pos (by simp [ReceiptColumn.changes, hs])]
              show s :: statuses _ = _
              rw [ih]
              exact (List.filter_cons_of_pos (by simp [hs])).symm
        | _ =>
            rw [List.filter_cons]
            split
            · exact ih
            · exact ih
  rw [hfilter, h, List.filter_cons_of_pos (by simpa using hne), List.filter_nil]

/-! ## What a session knows of its receipt -/

/-- The status a session has last read or committed, and the one it is about to commit. -/
inductive Stage where
  | fresh
  | read (id : UUID) (s : ReceiptStatus)
  | wrote (id : UUID) (s s' : ReceiptStatus)
  deriving DecidableEq

/-- How an answer changes what the session knows. -/
def Stage.next : Stage → (o : Op) → Except PyExc o.Res → Stage
  | .wrote id _ s', .commit, .ok _ => .read id s'
  | .wrote id s _, .commit, .error _ => .read id s
  | .wrote id s _, .sql _, .error _ => .read id s
  | .wrote id s s', _, _ => .wrote id s s'
  | _, .sql (.selectReceipts _ _), .ok [v] => .read v.id v.status
  | .read id s, .sql (.updateReceipt _ cols), .ok _ => .wrote id s ((statuses cols).getLast?.getD s)
  | q, _, _ => q

/-- What runs on the receipts. -/
inductive PipelineCall where
  | process (id : UUID)
  | categorise (id : UUID)
  | retry (userId id : UUID)
  | other (program : Service Unit)

namespace PipelineCall

def run (env : Env) (readers : Readers) : PipelineCall → Service Unit
  | process id => processReceipt env readers id
  | categorise id => categoriseReceipt env id
  | retry userId id => do
      let _ ← retryReceipt env userId id
      return ()
  | other program => program

/-- The status changes the documentation allows a call. -/
def Edge : PipelineCall → ReceiptStatus → ReceiptStatus → Prop
  | process _, u, v => workerEdge u v = true
  | categorise _, u, v => workerEdge u v = true
  | retry _ _, u, v => u = .failed ∧ v = .uploaded
  | other _, _, _ => False

/-- A call that does not write the status of an existing receipt. -/
def isOther : PipelineCall → Bool
  | other _ => true
  | _ => false

end PipelineCall

/-- Everything but updates of receipts. -/
def LeavesStatus : Op → Prop
  | .sql (.updateReceipt _ _) => False
  | _ => True

/-- Operations that touch no receipt, write no expense and end no transaction. -/
def Quiet : Op → Prop
  | .sql (.insertExpense _) => False
  | .sql (.updateExpense _ _) => False
  | .sql (.deleteExpense _) => False
  | .sql (.selectReceipts _ _) => False
  | .sql (.insertReceipt _) => False
  | .sql (.updateReceipt _ _) => False
  | .sql (.deleteReceipt _) => False
  | .commit => False
  | .rollback => False
  | _ => True

/-- Operations outside the database. -/
def LeavesDb : Op → Prop
  | .sql _ => False
  | .commit => False
  | .rollback => False
  | _ => True

theorem LeavesDb.quiet {o : Op} (h : LeavesDb o) : Quiet o := by
  cases o with
  | sql s => exact h.elim
  | commit => exact h.elim
  | rollback => exact h.elim
  | _ => trivial

/-- What a pipeline call may ask for: it reads its receipt, writes one new status along an
edge of its own, and commits. -/
def MayStep (call : PipelineCall) : Stage → Op → Prop
  | q, .sql (.updateReceipt k cols) =>
      ∃ s s', q = .read k s ∧ statuses cols = [s'] ∧ call.Edge s s'
  | q, .sql (.selectReceipts _ _) => ∀ id s s', q ≠ .wrote id s s'
  | _, .sql (.insertReceipt _) => False
  | _, .sql (.deleteReceipt _) => False
  | _, .rollback => False
  | _, _ => True

/-- What is assumed of the receipts and expenses a call reads: `process_receipt` finds its
receipt uploaded or processing, and `categorise_receipt` finds an expense only for a receipt
that it has read as parsed or categorised. -/
def ReadsOk (call : PipelineCall) (q : Stage) : (o : Op) → Except PyExc o.Res → Prop
  | .sql (.selectReceipts _ _), .ok rows =>
      ∀ id, call = .process id → ∀ v ∈ rows, v.id = id →
        v.status = .uploaded ∨ v.status = .processing
  | .sql (.selectExpenses _ _), .ok rows =>
      ∀ id, call = .categorise id → (∃ e ∈ rows, e.receiptId = some id) →
        ∀ k s, q = .read k s → s = .parsed ∨ s = .categorised
  | _, _ => True

/-- How a call goes on. -/
def NextStage (call : PipelineCall) (q : Stage) (o : Op) (r : Except PyExc o.Res) (q' : Stage) :
    Prop :=
  q' = q.next o r ∧ SoundRows o r ∧ ReadsOk call q o r

/-- A pipeline call that follows its stages. -/
abbrev Stages {α : Type} (call : PipelineCall) (q : Stage) (p : Service α)
    (post : Stage → α → Prop) (exc : Stage → PyExc → Prop) : Prop :=
  p.Follows (MayStep call) (NextStage call) post exc q

section stages

variable {α β : Type} {call : PipelineCall} {q : Stage}

theorem Stages.ret {a : α} {post : Stage → α → Prop} {exc : Stage → PyExc → Prop} (h : post q a) :
    Stages call q (.ret a) post exc :=
  (Prog.follows_ret a).2 h

theorem Stages.raise {e : PyExc} {post : Stage → α → Prop} {exc : Stage → PyExc → Prop}
    (h : exc q e) : Stages call q (.raise e) post exc :=
  (Prog.follows_raise e).2 h

theorem Stages.bind {p : Service α} {f : α → Service β} {post : Stage → α → Prop}
    {post' : Stage → β → Prop} {exc : Stage → PyExc → Prop} (hp : Stages call q p post exc)
    (hf : ∀ q' a, post q' a → Stages call q' (f a) post' exc) :
    Stages call q (p.bind f) post' exc :=
  Prog.Follows.bind (hp.mono hf (fun _ _ h => h))

/-- An operation in front of what it is needed for. -/
theorem Stages.step {o : Op} {f : o.Res → Service α} {post : Stage → α → Prop}
    {exc : Stage → PyExc → Prop} (hmay : MayStep call q o)
    (hexc : ∀ e, exc (q.next o (.error e)) e)
    (hok : ∀ a, SoundRows o (.ok a) → ReadsOk call q o (.ok a) →
      Stages call (q.next o (.ok a)) (f a) post exc) :
    Stages call q ((Prog.perform o).bind f) post exc := by
  refine (Prog.follows_call o _).2 ⟨hmay, fun r q' h => ?_⟩
  obtain ⟨rfl, hs, hr⟩ := h
  cases r with
  | ok a => exact hok a hs hr
  | error e => exact Stages.raise (hexc e)

/-- A program whose exceptions are kept as values. -/
theorem Stages.attempt {p : Service α} {post : Stage → α → Prop} {exc exc' : Stage → PyExc → Prop}
    (hp : Stages call q p post exc) :
    Stages call q (attempt p) (fun q' r => match r with | .ok a => post q' a | .error e => exc q' e)
      exc' := by
  refine Prog.Follows.handle (Prog.Follows.bind (hp.mono (fun q' a ha => ?_) (fun q' e he => ?_)))
  · exact Stages.ret ha
  · exact Stages.ret he

/-- Quiet operations leave what a session has read as it is. -/
theorem Stages.quiet {p : Service α} {id : UUID} {s : ReceiptStatus} {post : α → Prop}
    (hp : p.Respects Quiet (fun _ _ => True) post (fun _ => True)) :
    Stages call (.read id s) p (fun q' a => q' = .read id s ∧ post a)
      (fun q' _ => q' = .read id s) := by
  induction p with
  | ret a => exact Stages.ret ⟨rfl, (Prog.respects_ret a).1 hp⟩
  | raise e => exact Stages.raise rfl
  | call o k ih =>
      rw [Prog.respects_call] at hp
      refine (Prog.follows_call o k).2 ⟨?_, fun r q' h => ?_⟩
      · cases o with
        | sql stmt => cases stmt <;> first | trivial | exact hp.1.elim
        | rollback => exact hp.1.elim
        | _ => trivial
      · obtain ⟨rfl, -, -⟩ := h
        have hnext : (Stage.read id s).next o r = .read id s := by
          cases o with
          | sql stmt => cases stmt <;> cases r <;> first | rfl | exact hp.1.elim
          | _ => cases r <;> rfl
        rw [hnext]
        exact ih r (hp.2 r trivial)

/-- **Saving a new status** along an edge of the call. -/
theorem stages_saveColumns (receipt : Receipt) (cols : List ReceiptColumn) {v : ReceiptStatus}
    (hcols : statuses cols = [v]) (hne : v ≠ receipt.status) (hedge : call.Edge receipt.status v) :
    Stages call (.read receipt.id receipt.status) (saveColumns receipt cols)
      (fun q' _ => q' = .read receipt.id v)
      (fun q' _ => q' = .read receipt.id receipt.status) := by
  have hfilter := statuses_filter hcols hne
  have hnonempty : (cols.filter (ReceiptColumn.changes receipt)).isEmpty = false := by
    rw [List.isEmpty_eq_false_iff]
    intro hnil
    rw [hnil] at hfilter
    cases hfilter
  unfold saveColumns flushColumns
  simp only [hnonempty]
  refine Stages.step ⟨_, _, rfl, hfilter, hedge⟩ (fun _ => rfl) (fun a _ _ => ?_)
  have hnext : (Stage.read receipt.id receipt.status).next (.sql (.updateReceipt receipt.id
      (cols.filter (ReceiptColumn.changes receipt)))) (.ok a) =
        .wrote receipt.id receipt.status v := by
    show Stage.wrote _ _ ((statuses _).getLast?.getD _) = _
    rw [hfilter]
    rfl
  rw [hnext]
  refine (Prog.follows_call _ _).2 ⟨trivial, fun r q' h => ?_⟩
  obtain ⟨rfl, -, -⟩ := h
  cases r with
  | ok a => exact Stages.ret rfl
  | error e => exact Stages.raise rfl

end stages

section tasks

variable (env : Env) (readers : Readers)

/-- The programs of the pipeline that only read. -/
abbrev IsQuiet {α : Type} (p : Service α) : Prop :=
  p.Respects Quiet (fun _ _ => True) (fun _ => True) (fun _ => True)

/-- A program whose exceptions are kept as values asks for what the program asks for. -/
theorem asks_attempt {α : Type} {guar : Op → Prop} {p : Service α} (hp : p.Asks guar) :
    (attempt p).Asks guar :=
  Prog.Asks.handle (Prog.Asks.bind hp (fun _ => Prog.Asks.ret)) (fun _ => Prog.Asks.ret)

/-- The programs that leave the database alone. -/
abbrev OutsideDb {α : Type} (p : Service α) : Prop := p.Asks LeavesDb

theorem OutsideDb.quiet {α : Type} {p : Service α} (hp : OutsideDb p) : IsQuiet p :=
  Prog.Asks.mono hp (fun _ => LeavesDb.quiet)

/-- Reading a blob's text leaves the database alone. -/
theorem outsideDb_readImage (receipt : Receipt) : OutsideDb (readImage readers receipt) := by
  have hraster : ∀ body, OutsideDb (rasteriseFirstPage readers body) := by
    intro body
    refine Prog.Asks.bind (asks_attempt (Prog.Asks.perform trivial)) (fun r => ?_)
    match r with
    | .error e => exact Prog.Asks.raise
    | .ok [] => exact Prog.Asks.raise
    | .ok (image :: _) =>
        show OutsideDb (if _ then _ else _)
        split
        · exact Prog.Asks.ret
        · exact Prog.Asks.perform trivial
  have hload : ∀ body, OutsideDb (loadImage readers body) := by
    intro body
    exact Prog.Asks.handle (Prog.Asks.step trivial (fun _ => Prog.Asks.perform trivial))
      (fun _ => Prog.Asks.raise)
  refine Prog.Asks.step trivial (fun body => Prog.Asks.bind ?_ (fun x => ?_))
  · unfold decodeBlob
    split
    · exact Prog.Asks.bind (hraster body)
        (fun _ => Prog.Asks.step trivial (fun _ => Prog.Asks.ret))
    · exact Prog.Asks.bind (hload body) (fun _ => Prog.Asks.ret)
  · obtain ⟨img, bytes, mime⟩ := x
    exact Prog.Asks.step trivial (fun _ => Prog.Asks.step trivial (fun _ => Prog.Asks.ret))

/-- Reading the fields leaves the database alone. -/
theorem outsideDb_readFields (ocr : OcrResult) (bytes : List UInt8) (mime : String) :
    OutsideDb (readFields env readers ocr bytes mime) := by
  have hvision : OutsideDb (extractWithVision env bytes mime env.settings.openaiModelVision) := by
    unfold extractWithVision
    split
    · refine (Prog.respects_call _ _).2 ⟨trivial, fun r _ => ?_⟩
      split
      · exact Prog.Asks.ret
      · exact Prog.Asks.raise
      · split
        · exact Prog.Asks.ret
        · exact Prog.Asks.raise
        · exact Prog.Asks.raise
        · split
          · exact Prog.Asks.raise
          · exact Prog.Asks.ret
    · exact Prog.Asks.ret
  unfold readFields
  split
  · refine Prog.Asks.bind hvision (fun r => ?_)
    cases r <;> exact Prog.Asks.ret
  · exact Prog.Asks.ret

/-- The hand-over to the next task leaves the database alone. -/
theorem outsideDb_enqueueCategorisation (id : UUID) : OutsideDb (enqueueCategorisation env id) := by
  unfold enqueueCategorisation
  split
  · exact Prog.Asks.ret
  · exact Prog.Asks.perform trivial

/-- What `ocrAndParse` assigns: no status if it failed, `parsed` if it did not. -/
theorem respects_ocrAndParse (receipt : Receipt) :
    (ocrAndParse env readers receipt).Respects LeavesDb (fun _ _ => True)
      (fun x => match x.2 with | .ok _ => statuses x.1 = [.parsed] | .error _ => statuses x.1 = [])
      (fun _ => True) := by
  refine Prog.Respects.bind (asks_attempt (outsideDb_readImage readers receipt)) (fun r _ => ?_)
  match r with
  | .error e => exact Prog.Respects.ret rfl
  | .ok (ocr, bytes, mime) =>
      refine Prog.Respects.bind
        (asks_attempt (outsideDb_readFields env readers ocr bytes mime)) (fun r _ => ?_)
      match r with
      | .error e => exact Prog.Respects.ret rfl
      | .ok (parsed, method) => exact Prog.Respects.ret rfl

/-- A call whose end does not matter. -/
abbrev Ends {α : Type} (call : PipelineCall) (q : Stage) (p : Service α) : Prop :=
  Stages call q p (fun _ _ => True) (fun _ _ => True)

/-- The failure arms take the edge to `failed`. -/
theorem stages_markFailed {id : UUID} (receipt : Receipt) {cols : List ReceiptColumn} (e : PyExc)
    (hcols : statuses cols = []) (hs : receipt.status = .processing ∨ receipt.status = .parsed) :
    Ends (.process id) (.read receipt.id receipt.status) (markFailed readers receipt cols e) := by
  have hall : statuses (cols ++ [.status .failed, .errorMessage
      (some (String.ofList ((readers.str e).toList.take 500)))]) = [.failed] := by
    rw [statuses, List.filterMap_append, ← statuses, hcols]
    rfl
  have hedge : (PipelineCall.process id).Edge receipt.status .failed := by
    rcases hs with hs | hs <;> rw [hs] <;> rfl
  have hne : ReceiptStatus.failed ≠ receipt.status := by
    rcases hs with hs | hs <;> rw [hs] <;> exact fun hc => nomatch hc
  refine Stages.bind ((stages_saveColumns receipt _ hall hne hedge).mono (fun _ _ h => h)
    (fun _ _ _ => trivial)) (fun q' a _ => ?_)
  split
  · exact Stages.ret trivial
  · exact Stages.raise trivial

/-- The rest of `process_receipt`, once the receipt is `processing`. -/
theorem stages_runPipeline {id : UUID} (receipt : Receipt) (hs : receipt.status = .processing) :
    Ends (.process id) (.read receipt.id receipt.status) (runPipeline env readers receipt) := by
  unfold runPipeline
  refine Stages.bind ((Stages.quiet ((respects_ocrAndParse env readers receipt).mono
    (fun _ => LeavesDb.quiet) (fun _ h => h) (fun _ h => h))).mono
    (fun _ _ h => h) (fun _ _ _ => trivial)) ?_
  rintro q ⟨cols, r⟩ ⟨rfl, hcols⟩
  cases r with
  | error e => exact stages_markFailed readers receipt e hcols (Or.inl hs)
  | ok u =>
      have hedge : (PipelineCall.process id).Edge receipt.status .parsed := by
        rw [hs]
        rfl
      refine Stages.bind (Stages.attempt
        (stages_saveColumns receipt cols hcols (by rw [hs]; exact fun hc => nomatch hc) hedge)) ?_
      rintro q (e | a) hq
      · have hq : q = .read receipt.id receipt.status := hq
        subst hq
        exact stages_markFailed readers receipt e rfl (Or.inl hs)
      · have hq : q = .read receipt.id .parsed := hq
        subst hq
        have henqueue := (outsideDb_enqueueCategorisation env receipt.id).quiet
        refine Stages.bind ((Stages.quiet (asks_attempt henqueue)).mono (fun _ _ h => h)
          (fun _ _ _ => trivial)) ?_
        rintro q (e | a) ⟨rfl, -⟩
        · exact stages_markFailed readers { receipt with status := .parsed, errorMessage := none } e
            rfl (Or.inr rfl)
        · exact Stages.ret trivial

/-- A select of one receipt by a session that has read nothing. -/
theorem next_select_fresh (params : List Param) (p : Receipt → Bool) (v : Receipt) :
    Stage.fresh.next (.sql (.selectReceipts params p)) (.ok [v]) = .read v.id v.status := rfl

/-- **`process_receipt`** keeps to its edges, if it finds its receipt uploaded or
processing. -/
theorem stages_processReceipt (id : UUID) :
    Ends (.process id) .fresh (processReceipt env readers id) := by
  unfold processReceipt
  refine Stages.step (fun _ _ _ hc => nomatch hc) (fun _ => trivial) (fun rows hsound hreads => ?_)
  match rows with
  | [] => exact Stages.ret trivial
  | _ :: _ :: _ => exact Stages.raise trivial
  | [v] =>
      have hv : v.id = id := by
        simpa using hsound v (List.mem_singleton_self v)
      rw [next_select_fresh]
      show Ends (.process id) (.read v.id v.status) (Prog.bind (saveColumns v _) _)
      have hsave : Stages (.process id) (.read v.id v.status) (saveColumns v [.status .processing])
          (fun q _ => q = .read v.id .processing) (fun _ _ => True) := by
        rcases hreads id rfl v (List.mem_singleton_self v) hv with hs | hs
        · have hedge : (PipelineCall.process id).Edge v.status .processing := by
            rw [hs]
            rfl
          exact (stages_saveColumns v [.status .processing] rfl
            (by rw [hs]; exact fun hc => nomatch hc) hedge).mono (fun _ _ h => h)
            (fun _ _ _ => trivial)
        · have hnone : [ReceiptColumn.status .processing].filter (ReceiptColumn.changes v) = [] := by
            simp [ReceiptColumn.changes, hs]
          rw [hs]
          unfold saveColumns flushColumns
          simp only [hnone]
          refine (Prog.follows_call _ _).2 ⟨trivial, fun r q' h => ?_⟩
          obtain ⟨rfl, -, -⟩ := h
          cases r with
          | ok a => exact Stages.ret rfl
          | error e => exact Stages.raise trivial
      refine Stages.bind hsave ?_
      rintro q a rfl
      exact stages_runPipeline env readers { v with status := .processing } rfl

/-- Reads of corrections, and everything outside the database. -/
def Consulting : Op → Prop
  | .sql (.selectCorrections _ _) => True
  | o => LeavesDb o

theorem Consulting.quiet {o : Op} (h : Consulting o) : Quiet o := by
  cases o with
  | sql s => cases s <;> trivial
  | commit => exact h.elim
  | rollback => exact h.elim
  | _ => trivial

theorem LeavesDb.consulting {o : Op} (h : LeavesDb o) : Consulting o := by
  cases o with
  | sql s => exact h.elim
  | commit => exact h.elim
  | rollback => exact h.elim
  | _ => trivial

/-- The programs that read corrections and nothing else of the database. -/
abbrev Consults {α : Type} (p : Service α) : Prop := p.Asks Consulting

theorem Consults.quiet {α : Type} {p : Service α} (hp : Consults p) : IsQuiet p :=
  Prog.Asks.mono hp (fun _ => Consulting.quiet)

/-- Picking a category consults the user's corrections. -/
theorem consults_categoriseMerchant (userId : UUID) (merchant : String) :
    Consults (categoriseMerchant env userId (some merchant)) := by
  have hrule : ∀ s n, Consults (categoriseByRule env s n) := by
    intro s n
    have hllm : ∀ model, Consults (categoriseWithLlm env s model) := by
      intro model
      unfold categoriseWithLlm
      split
      · exact Prog.Asks.ret
      · split
        · exact Prog.Asks.ret
        · refine (Prog.respects_call _ _).2 ⟨trivial, fun r _ => ?_⟩
          split
          · exact Prog.Asks.ret
          · exact Prog.Asks.ret
          · exact Prog.Asks.raise
    unfold categoriseByRule
    generalize lookupRule env.unicode n = rule
    cases rule with
    | some category => exact Prog.Asks.ret
    | none =>
        show Consults (if _ then _ else _)
        split
        · exact Prog.Asks.bind (hllm _) (fun _ => Prog.Asks.ret)
        · exact Prog.Asks.ret
  have hone : ∀ rows : List CategoryCorrection, Consults (scalarOneOrNone rows) := by
    intro rows
    rcases rows with _ | ⟨c, _ | ⟨c', rows⟩⟩
    · exact Prog.Asks.ret
    · exact Prog.Asks.ret
    · exact Prog.Asks.raise
  show Consults (if _ then _ else _)
  split
  · exact Prog.Asks.ret
  · refine Prog.Asks.step trivial (fun rows => Prog.Asks.bind (hone rows) (fun found => ?_))
    cases found with
    | none => exact hrule _ _
    | some correction => exact Prog.Asks.ret

theorem consults_categoriseJson (userId : UUID) (merchant : Json) :
    Consults (categoriseJson env userId merchant) := by
  unfold categoriseJson
  split
  · exact Prog.Asks.bind (consults_categoriseMerchant env userId _) (fun _ => Prog.Asks.ret)
  · exact Prog.Asks.raise

/-- Reading the payload leaves the database alone. -/
theorem outsideDb_coercePayload (payload : Json) : OutsideDb (coercePayload env payload) := by
  unfold coercePayload
  dsimp only
  split
  · exact Prog.Asks.raise
  · split
    · exact Prog.Asks.ret
    · exact Prog.Asks.step trivial (fun _ => Prog.Asks.ret)

/-- The transaction that inserts the expense takes the edge to `categorised`. -/
theorem stages_insertReceiptExpense {id : UUID} {receipt : Receipt} (merchant : String)
    (amount : Decimal) (category : ExpenseCategory) (expenseDate : Date)
    (hs : receipt.status = .parsed) :
    Ends (.categorise id) (.read receipt.id receipt.status)
      (insertReceiptExpense receipt merchant amount category expenseDate) := by
  unfold insertReceiptExpense
  refine Stages.step ⟨_, _, rfl, rfl, by rw [hs]; rfl⟩ (fun _ => trivial) (fun _ _ _ =>
    Stages.step trivial (fun _ => trivial) (fun _ _ _ =>
      Stages.step trivial (fun _ => trivial) (fun _ _ _ =>
        (Prog.follows_call _ _).2 ⟨trivial, fun r q' _ => ?_⟩)))
  cases r with
  | ok a => exact Stages.ret trivial
  | error e => exact Stages.raise trivial

/-- **`categorise_receipt`** keeps to its edges, if it finds an expense only for a receipt it
has read as parsed or categorised. -/
theorem stages_categoriseReceipt (id : UUID) :
    Ends (.categorise id) .fresh (categoriseReceipt env id) := by
  unfold categoriseReceipt
  refine Stages.step (fun _ _ _ hc => nomatch hc) (fun _ => trivial) (fun rows hsound _ => ?_)
  match rows with
  | [] => exact Stages.ret trivial
  | _ :: _ :: _ => exact Stages.raise trivial
  | [v] =>
      have hv : v.id = id := by
        simpa using hsound v (List.mem_singleton_self v)
      rw [next_select_fresh]
      refine Stages.step trivial (fun _ => trivial) (fun linked hlinked hreads => ?_)
      show Ends _ (.read v.id v.status) _
      match linked with
      | _ :: _ :: _ => exact Stages.raise trivial
      | [e] =>
          have he : e.receiptId = some id := by
            simpa using hlinked e (List.mem_singleton_self e)
          have hs := hreads id rfl ⟨e, List.mem_singleton_self e, he⟩ v.id v.status rfl
          show Ends _ _ (if _ then _ else _)
          split
          · rename_i hne
            have hparsed : v.status = .parsed := hs.resolve_right hne
            have hedge : (PipelineCall.categorise id).Edge v.status .categorised := by
              rw [hparsed]
              rfl
            exact (stages_saveColumns v [.status .categorised] rfl (Ne.symm hne)
              hedge).mono (fun _ _ _ => trivial) (fun _ _ _ => trivial)
          · exact Stages.ret trivial
      | [] =>
          show Ends _ _ (if _ then _ else _)
          split
          · exact Stages.ret trivial
          · rename_i hne
            rw [ne_eq, not_not] at hne
            refine Stages.bind ((Stages.quiet (outsideDb_coercePayload env _).quiet).mono
              (fun _ _ h => h) (fun _ _ _ => trivial)) ?_
            rintro q ⟨merchant, amount, expenseDate⟩ ⟨rfl, -⟩
            refine Stages.bind ((Stages.quiet
              (consults_categoriseJson env v.userId merchant).quiet).mono
                (fun _ _ h => h) (fun _ _ _ => trivial)) ?_
            rintro q ⟨merchant, category⟩ ⟨rfl, -⟩
            exact stages_insertReceiptExpense merchant amount category expenseDate hne

/-- Reading a row back ends with a status read. -/
theorem stages_refreshReceipt {call : PipelineCall} {id : UUID} {s : ReceiptStatus} (k : UUID) :
    Stages call (.read id s) (refreshReceipt k) (fun q _ => ∃ id s, q = .read id s)
      (fun _ _ => True) := by
  refine Stages.step (fun _ _ _ hc => nomatch hc) (fun _ => trivial) (fun rows _ _ => ?_)
  match rows with
  | [] => exact Stages.raise trivial
  | [v] => exact Stages.ret ⟨v.id, v.status, rfl⟩
  | v :: _ :: _ => exact Stages.ret ⟨id, s, rfl⟩

/-- **`retry_receipt`** only takes the edge from `failed` to `uploaded`. -/
theorem stages_retryReceipt (userId id : UUID) :
    Ends (.retry userId id) .fresh (retryReceipt env userId id) := by
  have hget : Stages (.retry userId id) .fresh (getReceipt userId id)
      (fun q v => q = .read v.id v.status ∧ v.id = id) (fun _ _ => True) := by
    refine Stages.step (fun _ _ _ hc => nomatch hc) (fun _ => trivial) (fun rows hsound _ => ?_)
    match rows with
    | [] => exact Stages.raise trivial
    | _ :: _ :: _ => exact Stages.raise trivial
    | [v] =>
        have hv := hsound v (List.mem_singleton_self v)
        rw [Bool.and_eq_true, decide_eq_true_eq] at hv
        exact Stages.ret ⟨rfl, hv.1⟩
  unfold retryReceipt
  refine Stages.bind hget ?_
  rintro q v ⟨rfl, rfl⟩
  show Ends _ _ (if _ then _ else _)
  split
  · exact Stages.raise trivial
  · rename_i hs
    rw [ne_eq, not_not] at hs
    have hedge : (PipelineCall.retry userId v.id).Edge v.status .uploaded := ⟨hs, rfl⟩
    have hcols : statuses [.status .uploaded, .errorMessage none] = [.uploaded] := rfl
    have hsave := stages_saveColumns v _ hcols (by rw [hs]; exact fun hc => nomatch hc) hedge
    have hrest : ∀ id s, Ends (.retry userId v.id) (.read id s) (do
        let receipt ← refreshReceipt v.id
        enqueueProcessing env receipt.id
        return receipt) := by
      intro id s
      refine Stages.bind (stages_refreshReceipt v.id) ?_
      rintro q receipt ⟨k, u, rfl⟩
      have henqueue : IsQuiet (enqueueProcessing env receipt.id) := by
        unfold enqueueProcessing
        split
        · exact Prog.Asks.ret
        · exact Prog.Asks.perform (show Quiet (.delay (.processReceipt receipt.id)) from trivial)
      exact (Stages.quiet (Prog.Asks.bind henqueue (fun _ => Prog.Asks.ret))).mono
        (fun _ _ _ => trivial) (fun _ _ _ => trivial)
    have hall := Stages.bind (hsave.mono (fun _ _ h => h) (fun _ _ _ => trivial))
      (fun q _ hq => hq ▸ hrest _ _)
    unfold saveColumns at hall
    rw [Prog.bind_eq, Prog.bind_assoc] at hall
    exact hall

end tasks

/-! ## Every status change is an edge -/

section runs

variable {ι : Type} [DecidableEq ι] {env : Env} {calls : ι → PipelineCall}

/-- The backend, with what each session knows of its receipt as a history variable. -/
def tracked (env : Env) : Machine ι Op.Res PyExc (World ι × (ι → Stage)) Empty :=
  (backend env).withGhost (fun i o r _ h => Function.update h i ((h i).next o r))

/-- What a call may ask for. -/
def PipelineCall.Guar (call : PipelineCall) (q : Stage) (o : Op) : Prop :=
  match call with
  | .other _ => LeavesStatus o
  | call => MayStep call q o

/-- The uncommitted receipts of a session, as far as its stage tells. -/
def Knows (call : PipelineCall) (w : World ι) (i : ι) (q : Stage) : Prop :=
  match call, q with
  | .other _, _ => ∀ k v, w.db.receipts.staged i k = some (some v) →
      w.db.receipts.committed.get k = none
  | call, .wrote id s s' => w.failed i = false ∧ call.Edge s s' ∧
      ∀ k v, w.db.receipts.staged i k = some (some v) → k = id ∧ v.status = s'
  | _, _ => ∀ k v, w.db.receipts.staged i k ≠ some (some v)

/-- What is assumed of a step: `process_receipt` finds its receipt uploaded or processing;
`categorise_receipt` finds an expense only for a receipt it has read as parsed or
categorised; the status a commit writes over is the one the session has seen, or the new
one already; and new receipts have new identifiers. -/
structure StatusOk (calls : ι → PipelineCall) (i : ι) (o : Op) (x : World ι × (ι → Stage)) :
    Prop where
  starts : ∀ id params p, calls i = .process id → o = .sql (.selectReceipts params p) →
    ∀ v, (x.1.db.receipts.view i).get id = some v →
      v.status = .uploaded ∨ v.status = .processing
  guards : ∀ id params p, calls i = .categorise id → o = .sql (.selectExpenses params p) →
    (∃ e ∈ (x.1.db.expenses.view i).rows, e.receiptId = some id) →
      ∀ k s, x.2 i = .read k s → s = .parsed ∨ s = .categorised
  current : o = .commit → ∀ id s s', x.2 i = .wrote id s s' →
    ∀ u, x.1.db.receipts.committed.get id = some u → u.status = s ∨ u.status = s'
  unused : ∀ v, o = .sql (.insertReceipt v) → x.1.db.receipts.committed.get v.id = none

/-- The sessions know what they have staged. -/
structure Lifecycle (calls : ι → PipelineCall) (g : ι → Stage) (x : World ι × (ι → Stage)) :
    Prop where
  history : g = x.2
  exclusive : x.1.db.receipts.Exclusive
  knows : ∀ i, Knows (calls i) x.1 i (g i)

/-- What a session has staged stays known while another one moves. -/
theorem Knows.mono {call : PipelineCall} {w w' : World ι} {i : ι} {q : Stage}
    (h : Knows call w i q)
    (hstaged : ∀ k, w'.db.receipts.staged i k = w.db.receipts.staged i k)
    (hfailed : w'.failed i = w.failed i)
    (hnone : ∀ k, (w.db.receipts.staged i k).isSome → w.db.receipts.committed.get k = none →
      w'.db.receipts.committed.get k = none) : Knows call w' i q := by
  have hputs : (∀ k v, w.db.receipts.staged i k ≠ some (some v)) →
      ∀ k v, w'.db.receipts.staged i k ≠ some (some v) := by
    intro hp k v
    rw [hstaged]
    exact hp k v
  cases call with
  | other p =>
      intro k v hv
      rw [hstaged] at hv
      exact hnone k (by rw [hv]; rfl) (h k v hv)
  | process id | categorise id | retry userId id =>
      cases q with
      | fresh => exact hputs h
      | read k s => exact hputs h
      | wrote k s s' =>
          refine ⟨hfailed.trans h.1, h.2.1, fun k v hv => ?_⟩
          rw [hstaged] at hv
          exact h.2.2 k v hv

/-- A session that has nothing staged. -/
theorem Knows.of_no_puts {call : PipelineCall} {w : World ι} {i : ι} {q : Stage}
    (h : ∀ k, w.db.receipts.staged i k = none) (hq : ∀ id s s', q ≠ .wrote id s s') :
    Knows call w i q := by
  have hputs : ∀ k v, w.db.receipts.staged i k ≠ some (some v) := by
    intro k v
    rw [h]
    exact fun hc => nomatch hc
  cases call with
  | other p => exact fun k v hv => absurd hv (hputs k v)
  | process id | categorise id | retry userId id =>
      cases q with
      | fresh => exact hputs
      | read k s => exact hputs
      | wrote k s s' => exact absurd rfl (hq k s s')

/-- **One operation** of a call that writes no status. -/
theorem Knows.other_step {program : Service Unit} {w w' : World ι} {i : ι} {q q' : Stage} {o : Op}
    {r : Except PyExc o.Res} (h : Knows (.other program) w i q) (hleaves : LeavesStatus o)
    (hunused : ∀ v, o = .sql (.insertReceipt v) → w.db.receipts.committed.get v.id = none)
    (hx : exec env i o w = some (r, w')) : Knows (.other program) w' i q' := by
  refine exec_db (I := fun db => ∀ k v, db.receipts.staged i k = some (some v) →
    db.receipts.committed.get k = none) (fun db _ k v hv => ?_) (fun db _ k v hv => ?_) hx
    (fun s a db ho hs => ?_) h
  · have hnone : (db.commit i).receipts.staged i k = none :=
      (Store.staged_commit _ _ _ _).trans (if_pos rfl)
    rw [hnone] at hv
    cases hv
  · have hnone : (db.rollback i).receipts.staged i k = none :=
      (Store.staged_rollback _ _ _ _).trans (if_pos rfl)
    rw [hnone] at hv
    cases hv
  · subst ho
    rcases Stmt.exec_receipts hs with heq | hw
    · rw [heq]
      exact h
    · generalize db.receipts = st at hw
      intro k v hv
      cases hw with
      | insert u hlock hnew hfree =>
          rw [Store.staged_stage] at hv
          split at hv
          · rename_i hc
            exact hc.2 ▸ hunused u rfl
          · exact h k v hv
      | update id cols u u' hget hlock hstore => exact hleaves.elim
      | delete id u hget hlock =>
          rw [Store.staged_stage] at hv
          split at hv
          · cases hv
          · exact h k v hv

/-- A stage that is not about to commit, seen as what it says of the uncommitted rows. -/
theorem Knows.no_puts {call : PipelineCall} {w : World ι} {i : ι} {q : Stage}
    (h : Knows call w i q) (hcall : call.isOther = false) (hq : ∀ id s s', q ≠ .wrote id s s') :
    ∀ k v, w.db.receipts.staged i k ≠ some (some v) := by
  cases call with
  | other p => cases hcall
  | process id | categorise id | retry userId id =>
      cases q with
      | fresh => exact h
      | read k s => exact h
      | wrote k s s' => exact absurd rfl (hq k s s')

theorem Knows.of_puts {call : PipelineCall} {w : World ι} {i : ι} {q : Stage}
    (h : ∀ k v, w.db.receipts.staged i k ≠ some (some v)) (hcall : call.isOther = false)
    (hq : ∀ id s s', q ≠ .wrote id s s') : Knows call w i q := by
  cases call with
  | other p => cases hcall
  | process id | categorise id | retry userId id =>
      cases q with
      | fresh => exact h
      | read k s => exact h
      | wrote k s s' => exact absurd rfl (hq k s s')

/-- What a session that is about to commit has staged. -/
theorem Knows.puts {call : PipelineCall} {w : World ι} {i : ι} {id : UUID} {s s' : ReceiptStatus}
    (h : Knows call w i (.wrote id s s')) (hcall : call.isOther = false) :
    w.failed i = false ∧ call.Edge s s' ∧
      ∀ k v, w.db.receipts.staged i k = some (some v) → k = id ∧ v.status = s' := by
  cases call with
  | other p => cases hcall
  | process id | categorise id | retry userId id => exact h

theorem Knows.wrote {call : PipelineCall} {w : World ι} {i : ι} {id : UUID} {s s' : ReceiptStatus}
    (hf : w.failed i = false) (hedge : call.Edge s s')
    (h : ∀ k v, w.db.receipts.staged i k = some (some v) → k = id ∧ v.status = s')
    (hcall : call.isOther = false) : Knows call w i (.wrote id s s') := by
  cases call with
  | other p => cases hcall
  | process id | categorise id | retry userId id => exact ⟨hf, hedge, h⟩

/-- An update of the receipt a session has read. -/
theorem Knows.update {call : PipelineCall} {w : World ι} {i : ι} {id : UUID}
    {s s' : ReceiptStatus} {cols : List ReceiptColumn} {a : Unit} {db : Db ι}
    (h : Knows call w i (.read id s)) (hcall : call.isOther = false) (hcols : statuses cols = [s'])
    (hedge : call.Edge s s') (hf : w.failed i = false)
    (hs : (Stmt.updateReceipt id cols).exec (env.clock w.calls) i w.db = some (.ok a, db)) :
    Knows call ({ w with db := db } : World ι).tick i (.wrote id s s') := by
  refine Knows.wrote hf hedge (fun k v hv => ?_) hcall
  have hputs := h.no_puts hcall (fun _ _ _ hc => nomatch hc)
  have hv : db.receipts.staged i k = some (some v) := hv
  rcases Stmt.exec_receipts hs with heq | hw
  · rw [heq] at hv
    exact absurd hv (hputs k v)
  · generalize db.receipts = st at hw hv
    cases hw with
    | update _ _ u u' hget hlock hstore =>
        rw [Store.staged_stage] at hv
        split at hv
        · rename_i hc
          have hk : u.id = k := hc.2
          have hid : u.id = id := Table.key_of_get hget
          cases hv
          refine ⟨hk.symm.trans hid, ?_⟩
          show u'.status = s'
          rw [storeAll_status hstore, hcols]
          rfl
        · exact absurd hv (hputs k v)

/-- **One operation** of a worker or of a retry. -/
theorem Knows.call_step {call : PipelineCall} {w w' : World ι} {i : ι} {q : Stage} {o : Op}
    {r : Except PyExc o.Res} (h : Knows call w i q) (hcall : call.isOther = false)
    (hmay : MayStep call q o) (hx : exec env i o w = some (r, w')) :
    Knows call w' i (q.next o r) := by
  -- a step that touches neither the receipts nor the session
  have hquiet : ∀ {w'' : World ι}, w''.db.receipts = w.db.receipts → w''.failed = w.failed →
      Knows call w'' i q := by
    intro w'' hdb hfailed
    exact h.mono (fun k => by rw [hdb]) (by rw [hfailed]) (fun k _ hn => by rw [hdb]; exact hn)
  have hrollback : ∀ {db : Db ι}, db.receipts = w.db.receipts.rollback i →
      ∀ k, db.receipts.staged i k = none := by
    intro db hdb k
    rw [hdb, Store.staged_rollback, if_pos rfl]
  cases o with
  | sql stmt =>
      rcases exec_sql_cases hx with ⟨hf, rfl, rfl⟩ | ⟨-, ⟨e, rfl⟩, rfl⟩ | ⟨a, db, hf, rfl, hs, rfl⟩
      · cases q with
        | wrote id s s' =>
            rw [(h.puts hcall).1] at hf
            cases hf
        | fresh => cases stmt <;> exact hquiet rfl rfl
        | read id s => cases stmt <;> exact hquiet rfl rfl
      · refine Knows.of_no_puts (hrollback rfl) (fun id s s' => ?_)
        cases q <;> cases stmt <;> exact fun hc => nomatch hc
      · have hframe := Stmt.exec_frame hs
        cases stmt with
        | insertReceipt v => exact hmay.elim
        | deleteReceipt id => exact hmay.elim
        | updateReceipt id cols =>
            obtain ⟨s, s', rfl, hcols, hedge⟩ := hmay
            have hnext : (Stage.read id s).next (.sql (.updateReceipt id cols)) (.ok a) =
                .wrote id s s' := by
              show Stage.wrote _ _ ((statuses cols).getLast?.getD _) = _
              rw [hcols]
              rfl
            rw [hnext]
            exact h.update hcall hcols hedge hf hs
        | selectReceipts params p =>
            have hputs := h.no_puts hcall hmay
            refine Knows.of_puts (fun k v => ?_) hcall (fun id s s' => ?_)
            · show db.receipts.staged i k ≠ some (some v)
              rw [hframe.receipts rfl]
              exact hputs k v
            · cases q with
              | wrote id s s' => exact absurd rfl (hmay id s s')
              | fresh =>
                  match a with
                  | [] => exact fun hc => nomatch hc
                  | [v] => exact fun hc => nomatch hc
                  | _ :: _ :: _ => exact fun hc => nomatch hc
              | read id s =>
                  match a with
                  | [] => exact fun hc => nomatch hc
                  | [v] => exact fun hc => nomatch hc
                  | _ :: _ :: _ => exact fun hc => nomatch hc
        | _ => cases q <;> exact hquiet (hframe.receipts rfl) rfl
  | commit =>
      rcases exec_commit_cases hx with ⟨hf, rfl, rfl⟩ | ⟨hf, rfl, rfl⟩ | ⟨hf, rfl, rfl⟩ | ⟨hf, rfl, rfl⟩
      · cases q with
        | wrote id s s' =>
            rw [(h.puts hcall).1] at hf
            cases hf
        | fresh => exact hquiet rfl rfl
        | read id s => exact hquiet rfl rfl
      · refine Knows.of_no_puts (fun k => ?_) (fun id s s' => ?_)
        · exact (Store.staged_commit _ _ _ _).trans (if_pos rfl)
        · cases q <;> exact fun hc => nomatch hc
      · refine Knows.of_no_puts (hrollback rfl) (fun id s s' => ?_)
        cases q <;> exact fun hc => nomatch hc
      · refine Knows.of_no_puts (fun k => ?_) (fun id s s' => ?_)
        · exact (Store.staged_rollback _ _ _ _).trans (if_pos rfl)
        · cases q <;> exact fun hc => nomatch hc
  | rollback => exact hmay.elim
  | _ =>
      obtain ⟨hdb, hf⟩ := exec_outside hx (by simp) (by simp) (by simp)
      cases q <;> exact hquiet (by rw [hdb]) hf

/-- **One operation** keeps what the sessions know. -/
theorem Lifecycle.step {g : ι → Stage} {x : World ι × (ι → Stage)} {w' : World ι} {i : ι} {o : Op}
    {r : Except PyExc o.Res} (h : Lifecycle calls g x) (hguar : (calls i).Guar (g i) o)
    (hok : StatusOk calls i o x) (hx : exec env i o x.1 = some (r, w')) :
    Lifecycle calls (Function.update g i ((g i).next o r))
      (w', Function.update x.2 i ((x.2 i).next o r)) := by
  refine ⟨by rw [h.history], exec_exclusive hx h.exclusive, fun j => ?_⟩
  by_cases hj : j = i
  · subst hj
    rw [Function.update_self]
    have hknows := h.knows j
    cases hcall : calls j with
    | other p =>
        rw [hcall] at hguar hknows
        exact hknows.other_step hguar (fun v hv => hok.unused v hv) hx
    | process id | categorise id | retry userId id =>
        rw [hcall] at hguar hknows
        exact hknows.call_step rfl hguar hx
  · rw [Function.update_of_ne hj]
    refine (h.knows j).mono (exec_staged_of_ne hx hj) (exec_failed_of_ne hx hj)
      (fun k hsome hnone => ?_)
    rcases exec_committed_receipts hx with heq | ⟨-, -, heq⟩
    · rw [heq]
      exact hnone
    · -- the row is written by `j`, so no commit of another session touches it
      rw [heq, h.exclusive.get_commit_of_staged (Ne.symm hj) hsome]
      exact hnone

/-- The end of a call. -/
theorem Lifecycle.close {g : ι → Stage} {x : World ι × (ι → Stage)} (h : Lifecycle calls g x)
    (i : ι) : Lifecycle calls g (x.1.close i, x.2) := by
  refine ⟨h.history, h.exclusive.rollback i, fun j => ?_⟩
  by_cases hj : j = i
  · subst hj
    have hnone : ∀ k, (x.1.close j).db.receipts.staged j k = none :=
      fun k => (Store.staged_rollback _ _ _ _).trans (if_pos rfl)
    cases hcall : (calls j).isOther with
    | true =>
        cases hc : calls j with
        | other p =>
            intro k v hv
            rw [hnone] at hv
            cases hv
        | process id | categorise id | retry userId id =>
            rw [hc] at hcall
            cases hcall
    | false =>
        have hknows := h.knows j
        cases hg : g j with
        | wrote id s s' =>
            rw [hg] at hknows
            refine Knows.wrote (if_pos rfl) (hknows.puts hcall).2.1 (fun k v hv => ?_) hcall
            rw [hnone] at hv
            cases hv
        | fresh => exact Knows.of_no_puts hnone (fun _ _ _ hc => nomatch hc)
        | read id s => exact Knows.of_no_puts hnone (fun _ _ _ hc => nomatch hc)
  · refine (h.knows j).mono (fun k => ?_) (if_neg hj) (fun k _ hn => hn)
    exact (Store.staged_rollback _ _ _ _).trans (if_neg hj)

/-- Every committed status change is one the call that commits it may make. -/
def StatusStep (calls : ι → PipelineCall) (w w' : World ι) (a : Machine.Action ι Empty) : Prop :=
  ∀ k u v, w.db.receipts.committed.get k = some u → w'.db.receipts.committed.get k = some v →
    u.status = v.status ∨ ∃ i, a = .step i ∧ (calls i).Edge u.status v.status

/-- **A status change is an edge** of the call whose commit makes it. -/
theorem Lifecycle.edge {g : ι → Stage} {x : World ι × (ι → Stage)} {w' : World ι} {i : ι} {o : Op}
    {r : Except PyExc o.Res} (h : Lifecycle calls g x) (hok : StatusOk calls i o x)
    (hx : exec env i o x.1 = some (r, w')) : StatusStep calls x.1 w' (.step i) := by
  intro k u v hu hv
  rcases exec_committed_receipts hx with heq | ⟨rfl, -, heq⟩
  · rw [heq, hu] at hv
    cases hv
    exact Or.inl rfl
  · rw [heq, Store.get_commit] at hv
    have hknows := h.knows i
    cases hs : x.1.db.receipts.staged i k with
    | none =>
        rw [hs, Option.getD_none, hu] at hv
        cases hv
        exact Or.inl rfl
    | some y =>
        rw [hs, Option.getD_some] at hv
        subst hv
        cases hcall : (calls i).isOther with
        | true =>
            cases hc : calls i with
            | other p =>
                rw [hc] at hknows
                rw [hknows k v hs] at hu
                cases hu
            | process id | categorise id | retry userId id =>
                rw [hc] at hcall
                cases hcall
        | false =>
            cases hg : g i with
            | wrote id s s' =>
                rw [hg] at hknows
                obtain ⟨-, hedge, hputs⟩ := hknows.puts hcall
                obtain ⟨rfl, hv'⟩ := hputs k v hs
                rcases hok.current rfl k s s' (by rw [← h.history]; exact hg) u hu with hus | hus
                · exact Or.inr ⟨i, rfl, by rw [hus, hv']; exact hedge⟩
                · exact Or.inl (hus.trans hv'.symm)
            | fresh =>
                rw [hg] at hknows
                exact absurd hs (hknows.no_puts hcall (fun _ _ _ hc => nomatch hc) k v)
            | read id s =>
                rw [hg] at hknows
                exact absurd hs (hknows.no_puts hcall (fun _ _ _ hc => nomatch hc) k v)

/-- What is assumed of a step, seen by the session that takes it. -/
theorem StatusOk.reads {x : World ι × (ι → Stage)} {w' : World ι} {i : ι} {o : Op}
    {r : Except PyExc o.Res} (hok : StatusOk calls i o x)
    (hx : exec env i o x.1 = some (r, w')) : ReadsOk (calls i) (x.2 i) o r := by
  cases r with
  | error e => cases o <;> first | trivial | (rename_i s; cases s <;> trivial)
  | ok a =>
      cases o with
      | sql s =>
          cases s with
          | selectReceipts params p =>
              intro id hcall v hv hid
              have hrows := exec_selectReceipts hx
              subst hrows
              have hget := Table.get_of_mem (List.mem_filter.1 hv).1
              exact hok.starts id params p hcall rfl v (hid ▸ hget)
          | selectExpenses params p =>
              rintro id hcall ⟨e, he, hid⟩ k s hg
              have hrows := exec_selectExpenses hx
              subst hrows
              exact hok.guards id params p hcall rfl ⟨e, (List.mem_filter.1 he).1, hid⟩ k s hg
          | _ => trivial
      | _ => trivial

/-- What is assumed of a step, tested. -/
def statusOk (calls : ι → PipelineCall) (i : ι) (o : Op) (x : World ι × (ι → Stage)) : Bool :=
  match o with
  | .sql (.selectReceipts _ _) =>
      match calls i with
      | .process id => ((x.1.db.receipts.view i).get id).all
          (fun v => v.status = .uploaded || v.status = .processing)
      | _ => true
  | .sql (.selectExpenses _ _) =>
      match calls i, x.2 i with
      | .categorise id, .read _ s => s = .parsed || s = .categorised ||
          (x.1.db.expenses.view i).rows.all (fun e => e.receiptId ≠ some id)
      | _, _ => true
  | .commit =>
      match x.2 i with
      | .wrote id s s' => (x.1.db.receipts.committed.get id).all
          (fun u => u.status = s || u.status = s')
      | _ => true
  | .sql (.insertReceipt v) => (x.1.db.receipts.committed.get v.id).isNone
  | _ => true

theorem StatusOk.of_test {i : ι} {o : Op} {x : World ι × (ι → Stage)}
    (h : statusOk calls i o x = true) : StatusOk calls i o x where
  starts := by
    rintro id params p hcall rfl v hv
    simp only [statusOk, hcall, hv, Option.all_some, Bool.or_eq_true, decide_eq_true_eq] at h
    exact h
  guards := by
    rintro id params p hcall rfl ⟨e, he, hid⟩ k s hg
    simp only [statusOk, hcall, hg, Bool.or_eq_true, decide_eq_true_eq, List.all_eq_true] at h
    exact h.resolve_right (fun hall => hall e he hid)
  current := by
    rintro rfl id s s' hg u hu
    simp only [statusOk, hg, hu, Option.all_some, Bool.or_eq_true, decide_eq_true_eq] at h
    exact h
  unused := by
    rintro v rfl
    exact Option.isNone_iff_eq_none.1 h

/-- The history machine answers as the backend does. -/
theorem exec_tracked {x x' : World ι × (ι → Stage)} {i : ι} {o : Op} {r : Except PyExc o.Res}
    (h : (tracked env).exec i o x = some (r, x')) :
    ∃ w', exec env i o x.1 = some (r, w') ∧
      x' = (w', Function.update x.2 i ((x.2 i).next o r)) := by
  obtain ⟨⟨r', w'⟩, hx, heq⟩ := Option.map_eq_some_iff.1 h
  cases heq
  exact ⟨w', hx, rfl⟩

/-- **What the sessions know is kept in every run** whose steps are as assumed. -/
theorem keeps_lifecycle :
    (tracked env : Machine ι Op.Res PyExc (World ι × (ι → Stage)) Empty).Keeps (Lifecycle calls)
      (fun i => (calls i).Guar) (fun i => NextStage (calls i)) (fun _ _ (_ : Unit) => True)
      (fun _ _ _ => True) (StatusOk calls) True where
  step := by
    intro g x i o r x' h hguar hok hx
    obtain ⟨w', hexec, rfl⟩ := exec_tracked hx
    have hreads := hok.reads hexec
    rw [← h.history] at hreads
    exact ⟨_, ⟨rfl, exec_soundRows hexec, hreads⟩, h.step hguar hok hexec⟩
  ret := fun {g x i _} h _ => ⟨g i, trivial, by rw [Function.update_eq_self]; exact h.close i⟩
  raise := fun {g x i _} h _ => ⟨g i, trivial, by rw [Function.update_eq_self]; exact h.close i⟩
  kill := fun {g x i} _ h => ⟨g i, trivial, by rw [Function.update_eq_self]; exact h.close i⟩
  event := fun {_ _ e} _ => e.elim

/-- The calls and the state they start from. -/
def pipeline (env : Env) (readers : Readers) (calls : ι → PipelineCall) (w : World ι) :
    Config ι Op.Res PyExc Unit (World ι × (ι → Stage)) :=
  ⟨fun i => (calls i).run env readers, (w, fun _ => .fresh)⟩

/-- A call keeps to its stages; other calls write no status. -/
theorem follows_run (env : Env) (readers : Readers) (call : PipelineCall)
    (hother : ∀ p, call = .other p →
      p.Respects LeavesStatus (fun o r => SoundRows o r) (fun _ => True) (fun _ => True)) :
    (call.run env readers).Follows call.Guar (NextStage call) (fun _ _ => True) (fun _ _ => True)
      Stage.fresh := by
  cases call with
  | process id => exact stages_processReceipt env readers id
  | categorise id => exact stages_categoriseReceipt env id
  | retry userId id =>
      exact Stages.bind (stages_retryReceipt env userId id) (fun _ _ _ => Stages.ret trivial)
  | other p =>
      exact (hother p rfl).follows (fun _ _ h => h) (fun _ _ _ _ h => h.2.1) (fun _ _ _ => trivial)
        (fun _ _ _ => trivial)

/-- Uploads and deletions write no status over another. -/
theorem leavesStatus_receiptCall (env : Env) (call : ReceiptCall) :
    (call.run env).Respects LeavesStatus (fun o r => SoundRows o r) (fun _ => True)
      (fun _ => True) := by
  refine (goes_run env call).respects (fun q o h => ?_) (fun q o r h => ⟨_, rfl, ?_⟩)
  · cases o with
    | sql s => cases s <;> cases q <;> trivial
    | _ => trivial
  · cases o with
    | sql s => cases s <;> cases r <;> trivial
    | _ => trivial

/-- **Every committed status change is an edge** of the documented machine, and only a retry
takes the one out of `FAILED`, in every run whose steps are as assumed. -/
theorem statusEdges_run {readers : Readers} {w : World ι} {as : List (Machine.Action ι Empty)}
    (hpending : w.db.receipts.pending = [])
    (hother : ∀ i p, calls i = .other p →
      p.Respects LeavesStatus (fun o r => SoundRows o r) (fun _ => True) (fun _ => True))
    (hsteps : (tracked env).Along (Machine.OpOk (StatusOk calls) True)
      (pipeline env readers calls w) as) :
    (tracked env).Along (fun c a => StatusStep calls c.shared.1 ((tracked env).act c a).shared.1 a)
      (pipeline env readers calls w) as := by
  refine Machine.along_of_step (fun c a hok hc => keeps_lifecycle.act c a hok hc)
    (fun c a hok hc => ?_) hsteps ⟨fun _ => .fresh, ⟨rfl, ?_, fun i => ?_⟩, fun i => ?_⟩
  · obtain ⟨g, hlife, -⟩ := hc
    -- only an answered operation changes committed rows
    have hsame : ∀ {w' : World ι}, w'.db.receipts.committed = c.shared.1.db.receipts.committed →
        StatusStep calls c.shared.1 w' a := by
      intro w' hw k u v hu hv
      rw [hw, hu] at hv
      cases hv
      exact Or.inl rfl
    rcases Machine.act_cases (tracked env) c a with
      hsh | ⟨i, hsh⟩ | ⟨e, -⟩ | ⟨i, o, k, r, x', rfl, hp, hx, hsh⟩
    · rw [hsh]
      exact hsame rfl
    · rw [hsh]
      exact hsame rfl
    · exact e.elim
    · obtain ⟨w', hexec, rfl⟩ := exec_tracked hx
      rw [hsh]
      exact hlife.edge (hok o k hp) hexec
  · show w.db.receipts.Exclusive
    rw [Store.eq_ofTable hpending]
    exact Store.exclusive_ofTable _
  · refine Knows.of_no_puts (fun k => ?_) (fun _ _ _ hc => nomatch hc)
    show w.db.receipts.staged i k = none
    rw [Store.eq_ofTable hpending]
    rfl
  · exact follows_run env readers (calls i) (hother i)

end runs

/-! ## A failed receipt is processed again -/

/-- A receipt that waits for its first worker, and whose blob is missing. -/
def sampleReceipt : Receipt where
  id := 1005
  userId := 7
  storageKey := "receipts/b83f6f2a8d9c1e7a/2026/04/00000000-0000-0000-0000-0000000003eb.jpg"
  mimeType := "image/jpeg"
  fileSizeBytes := 4
  status := .uploaded
  ocrMethod := none
  ocrConfidence := none
  rawText := none
  parsedPayload := none
  errorMessage := none
  externalMessageId := none
  createdAt := 1000
  updatedAt := 1000

/-- The database with this receipt. -/
def uploadedWorld (ι : Type) : World ι :=
  World.ofDb { Db.ofUsers [⟨7, "0123456789abcdef0123456789abcdef"⟩] with
    receipts := Store.ofTable ⟨[sampleReceipt], by decide⟩ }

/-- Readers that find nothing. -/
def blindReaders : Readers where
  parseReceiptText _ := ⟨none, none, none⟩
  libraryText _ := "error"

/-- A worker that fails, the user's retry, and the worker it starts. -/
def retriedTasks : Fin 3 → PipelineCall
  | 0 => .process 1005
  | 1 => .retry 7 1005
  | 2 => .process 1005

/-- One after the other, they take the documented edges. -/
theorem statusEdges_run_sample :
    (tracked Env.quiet).Along (fun c a => StatusStep retriedTasks c.shared.1
        ((tracked Env.quiet).act c a).shared.1 a)
      (pipeline Env.quiet blindReaders retriedTasks (uploadedWorld (Fin 3)))
      (List.replicate 8 (.step 0) ++ List.replicate 8 (.step 1) ++ List.replicate 8 (.step 2)) := by
  have hpasses : (tracked Env.quiet).passes (statusOk retriedTasks)
      (pipeline Env.quiet blindReaders retriedTasks (uploadedWorld (Fin 3)))
      (List.replicate 8 (.step 0) ++ List.replicate 8 (.step 1) ++ List.replicate 8 (.step 2)) =
        true := by
    decide
  refine statusEdges_run rfl (fun i p h => ?_)
    (Machine.along_of_passes (fun _ _ _ => StatusOk.of_test) hpasses)
  match i with
  | 0 => cases h
  | 1 => cases h
  | 2 => cases h

/-- A worker, and its automatic retry. -/
def retriedTask : Fin 2 → PipelineCall := fun _ => .process 1005

/-- The automatic retry of a worker that has marked its receipt failed takes it out of
`FAILED` by itself. -/
theorem not_statusEdges_retried :
    ¬(tracked Env.quiet).Along (fun c a => StatusStep retriedTask c.shared.1
        ((tracked Env.quiet).act c a).shared.1 a)
      (pipeline Env.quiet blindReaders retriedTask (uploadedWorld (Fin 2)))
      (List.replicate 7 (.step 0) ++ List.replicate 3 (.step 1)) := by
  intro h
  obtain ⟨-, -, -, h, -⟩ := (Machine.along_append _ _ _).1 h
  have hbefore : (((tracked Env.quiet).run (pipeline Env.quiet blindReaders retriedTask
      (uploadedWorld (Fin 2))) (List.replicate 7 (.step 0) ++ List.replicate 2 (.step 1))).shared.1
        |>.db.receipts.committed.get 1005).map Receipt.status = some .failed := by
    decide
  have hafter : (((tracked Env.quiet).run (pipeline Env.quiet blindReaders retriedTask
      (uploadedWorld (Fin 2))) (List.replicate 7 (.step 0) ++ List.replicate 3 (.step 1))).shared.1
        |>.db.receipts.committed.get 1005).map Receipt.status = some .processing := by
    decide
  obtain ⟨u, hu, hus⟩ := Option.map_eq_some_iff.1 hbefore
  obtain ⟨v, hv, hvs⟩ := Option.map_eq_some_iff.1 hafter
  rcases h 1005 u v hu hv with heq | ⟨i, hi, hedge⟩
  · rw [hus, hvs] at heq
    cases heq
  · have hi : workerEdge u.status v.status = true := hedge
    rw [hus, hvs] at hi
    cases hi

end SpendLens
