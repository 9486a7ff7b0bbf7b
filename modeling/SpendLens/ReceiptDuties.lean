/-
# No receipt is left lying

A receipt that is uploaded, processing or parsed needs somebody who takes it further.  That is a
message of the queue, waiting or in the hands of a worker; the request that has committed the
upload and is about to enqueue it; and nobody else.

There are four ways to lose the last of them.  A request can end between its commit and its
`delay`.  A task can use up its retries.  The message of a retry can fail to be published.  The
pool of a worker can lose the process of a task.  The ledger keeps account of these, and of nothing
more: in every interleaving of workers and requests, with crashes and faults, whatever is in flight
and not in the ledger has an outstanding task.

What each delivery still has to see to is the local state of its thread.
-/
import SpendLens.Celery
import SpendLens.ReceiptLifecycle

namespace SpendLens.Duties

/-! ## What is in flight -/

/-- Somebody has to take the receipt further. -/
def inFlight : ReceiptStatus → Bool
  | .uploaded | .processing | .parsed => true
  | .categorised | .failed => false

/-- The task takes receipt `k` further, if that has the status. -/
def takesOn (k : UUID) (s : ReceiptStatus) : Task → Bool
  | .processReceipt id => id = k && inFlight s
  | .categoriseReceipt id => id = k && s = .parsed
  | .gmailHistorySync _ _ => false

/-- The receipt a task is about. -/
def about (k : UUID) : Task → Bool
  | .processReceipt id => id = k
  | .categoriseReceipt id => id = k
  | .gmailHistorySync _ _ => false

/-! ## The ledger -/

/-- What the requests have uploaded and not enqueued yet, and what has been given up since it was
last enqueued. -/
structure Ledger (ι : Type) where
  owes : ι → UUID → Bool
  abandoned : UUID → Bool

section ledger

variable {ι : Type} [DecidableEq ι]

/-- The session is about to publish the receipt as uploaded. -/
def uploads (w : World ι) (i : ι) (k : UUID) : Bool :=
  match w.db.receipts.staged i k with
  | some (some v) => v.status = .uploaded
  | _ => false

/-- The committed receipt is in flight. -/
def isInFlight (w : World ι) (k : UUID) : Bool :=
  (w.db.receipts.committed.get k).any (fun r => inFlight r.status)

/-- A task is given up: its receipt is abandoned, if it is in flight. -/
def Ledger.giveUp (l : Ledger ι) (w : World ι) (m : Message) : Ledger ι :=
  { l with abandoned := fun k => l.abandoned k || about k m.task && isInFlight w k }

/-- What an answered operation changes in the ledger. -/
def Ledger.watch (env : Env) (i : ι) (o : WorkerOp) (_ : Except PyExc o.Res) (s : Plant ι)
    (l : Ledger ι) : Ledger ι :=
  match o with
  | .service .commit =>
      if s.world.failed i || env.fault s.world.calls = .before then l
      else
        { l with
          owes := Function.update l.owes i (fun k => l.owes i k || uploads s.world i k) }
  | .service (.delay (.processReceipt id)) =>
      if env.fault s.world.calls = .before then l
      else
        ⟨Function.update l.owes i (fun k => l.owes i k && k ≠ id),
          fun k => l.abandoned k && k ≠ id⟩
  | .retry m => if env.fault s.world.calls = .before then l.giveUp s.world m else l
  | .giveUp m => l.giveUp s.world m
  | _ => l

/-- The thread holds a task about the receipt, which is in flight. -/
def holdsTask (s : Plant ι) (i : ι) (k : UUID) : Bool :=
  (s.broker.held i).any (fun m => about k m.task && isInFlight s.world k)

/-- What a thread owes when it ends is abandoned, and the receipt of a task that the pool has
lost. -/
def Ledger.ended (poolLost : ι → Bool) (i : ι) (s : Plant ι) (l : Ledger ι) : Ledger ι :=
  ⟨Function.update l.owes i (fun _ => false),
    fun k => l.abandoned k || l.owes i k || poolLost i && holdsTask s i k⟩

/-- The workers and the requests, with the ledger as a history variable. -/
def accounted (env : Env) (poolLost : ι → Bool) :
    Machine ι WorkerOp.Res PyExc (Plant ι × Ledger ι) Empty where
  exec i o x := (Plant.exec env i o x.1).map (fun rs => (rs.1, (rs.2, x.2.watch env i o rs.1 x.1)))
  close i x := (x.1.close poolLost i, x.2.ended poolLost i x.1)
  event e _ := e.elim
  crashed := .workerLost

end ledger

/-! ## What a delivery still has to see to -/

/-- The receipt in any stage of flight, the parsed receipt, or nothing. -/
inductive Burden where
  | all
  | parsed
  | nothing
  deriving DecidableEq

/-- The burden extends to a receipt of this status. -/
def Burden.covers : Burden → ReceiptStatus → Bool
  | .all, s => inFlight s
  | .parsed, s => s = .parsed
  | .nothing, _ => false

/-- The burden after a commit that has published a status. -/
def Burden.after : Burden → Option ReceiptStatus → Burden
  | _, some .parsed => .parsed
  | _, some .failed => .nothing
  | _, some .categorised => .nothing
  | b, _ => b

/-- The local state of a delivery: has it got its message, what does it still have to see to,
and which status has it written and not committed? -/
structure Duty where
  received : Bool
  burden : Burden
  writing : Option ReceiptStatus
  deriving DecidableEq

/-- Nothing received, nothing to see to. -/
def Duty.idle : Duty := ⟨false, .nothing, none⟩

/-- The task goes on with a receipt it has read. -/
def goesOn : Task → Receipt → Bool
  | .categoriseReceipt _, v => v.status = .parsed
  | _, _ => true

/-- How an answer to the body of a task changes its duty. -/
def Duty.answered (task : Task) (q : Duty) : (o : Op) → Except PyExc o.Res → Duty
  | .sql (.selectReceipts _ _), .ok rows =>
      if rows.any (goesOn task) then q else { q with burden := .nothing }
  | .sql (.updateReceipt _ cols), .ok _ => { q with writing := (statuses cols).getLast? }
  | .sql _, .error _ => { q with writing := none }
  | .commit, .ok _ => ⟨q.received, q.burden.after q.writing, none⟩
  | .commit, .error _ => { q with writing := none }
  | .rollback, _ => { q with writing := none }
  | .delay (.categoriseReceipt id), .ok _ =>
      if about id task && q.burden = .parsed then { q with burden := .nothing } else q
  | _, _ => q

/-- What the body of a task on receipt `k` may ask for: it reads its receipt, writes one status
and commits it before it goes on.  Statuses in flight are written by `process_receipt` only, and
by one that has everything still to see to. -/
def MayDo (task : Task) (k : UUID) (q : Duty) : Op → Prop
  | .sql (.selectReceipts _ p) => q.writing = none ∧ ∀ v, p v = decide (v.id = k)
  | .sql (.updateReceipt id cols) =>
      id = k ∧ q.writing = none ∧ ∃ s, statuses cols = [s] ∧
        (s = .failed ∨ s = .categorised ∨
          task = .processReceipt k ∧ q.burden = .all ∧ (s = .processing ∨ s = .parsed))
  | .sql (.insertReceipt _) => False
  | .sql (.deleteReceipt _) => False
  | _ => True

/-- How the body of a task goes on. -/
def NextDuty (task : Task) (q : Duty) (o : Op) (r : Except PyExc o.Res) (q' : Duty) : Prop :=
  q' = q.answered task o r ∧ SoundRows o r

/-- The body of a task that keeps to its duty. -/
abbrev Keeps {α : Type} (task : Task) (k : UUID) (q : Duty) (p : Service α)
    (post : Duty → α → Prop) (exc : Duty → PyExc → Prop) : Prop :=
  p.Follows (MayDo task k) (NextDuty task) post exc q

section keeps

variable {α β : Type} {task : Task} {k : UUID} {q : Duty} {post : Duty → α → Prop}
  {exc : Duty → PyExc → Prop}

theorem Keeps.ret {a : α} (h : post q a) : Keeps task k q (.ret a) post exc :=
  (Prog.follows_ret a).2 h

theorem Keeps.raise {e : PyExc} (h : exc q e) : Keeps task k q (.raise e) post exc :=
  (Prog.follows_raise e).2 h

theorem Keeps.bind {p : Service α} {f : α → Service β} {post' : Duty → β → Prop}
    (hp : Keeps task k q p post exc) (hf : ∀ q' a, post q' a → Keeps task k q' (f a) post' exc) :
    Keeps task k q (p.bind f) post' exc :=
  Prog.Follows.bind (hp.mono hf (fun _ _ h => h))

/-- An operation in front of what it is needed for. -/
theorem Keeps.step {o : Op} {f : o.Res → Service α} (hmay : MayDo task k q o)
    (hexc : ∀ e, exc (q.answered task o (.error e)) e)
    (hok : ∀ a, SoundRows o (.ok a) → Keeps task k (q.answered task o (.ok a)) (f a) post exc) :
    Keeps task k q ((Prog.perform o).bind f) post exc := by
  refine (Prog.follows_call o _).2 ⟨hmay, fun r q' h => ?_⟩
  obtain ⟨rfl, hs⟩ := h
  cases r with
  | ok a => exact hok a hs
  | error e => exact Keeps.raise (hexc e)

/-- A program whose exceptions are kept as values. -/
theorem Keeps.attempt {p : Service α} {exc' : Duty → PyExc → Prop}
    (hp : Keeps task k q p post exc) :
    Keeps task k q (attempt p)
      (fun q' r => (∃ a, r = .ok a ∧ post q' a) ∨ ∃ e, r = .error e ∧ exc q' e) exc' := by
  refine Prog.Follows.handle (Prog.Follows.bind (hp.mono (fun q' a ha => ?_) (fun q' e he => ?_)))
  · exact Keeps.ret (Or.inl ⟨a, rfl, ha⟩)
  · exact Keeps.ret (Or.inr ⟨e, rfl, he⟩)

/-- Between two commits, what touches no receipt leaves the duty as it is, unless a parsed
receipt waits to be enqueued. -/
theorem answered_of_quiet {o : Op} (r : Except PyExc o.Res) (hquiet : Quiet o)
    (hb : q.burden ≠ .parsed) (hw : q.writing = none) : q.answered task o r = q := by
  have hsame : ({ q with writing := none } : Duty) = q := by
    cases q
    cases hw
    rfl
  cases o with
  | sql s =>
      cases r with
      | error e => cases s <;> exact hsame
      | ok a => cases s <;> first | rfl | exact hquiet.elim
  | commit => exact hquiet.elim
  | rollback => exact hquiet.elim
  | delay t =>
      cases r with
      | error e => cases t <;> rfl
      | ok a =>
          cases t with
          | categoriseReceipt id =>
              show (if _ then _ else _) = q
              rw [if_neg (by simp [hb])]
          | _ => rfl
  | _ => cases r <;> rfl

theorem Keeps.quiet {p : Service α} {post : α → Prop}
    (hp : p.Respects Quiet (fun _ _ => True) post (fun _ => True)) (hb : q.burden ≠ .parsed)
    (hw : q.writing = none) :
    Keeps task k q p (fun q' a => q' = q ∧ post a) (fun q' _ => q' = q) := by
  induction p with
  | ret a => exact Keeps.ret ⟨rfl, (Prog.respects_ret a).1 hp⟩
  | raise e => exact Keeps.raise rfl
  | call o f ih =>
      rw [Prog.respects_call] at hp
      refine (Prog.follows_call o f).2 ⟨?_, fun r q' h => ?_⟩
      · cases o with
        | sql s => cases s <;> first | trivial | exact hp.1.elim
        | _ => trivial
      · obtain ⟨rfl, -⟩ := h
        rw [answered_of_quiet r hp.1 hb hw]
        exact ih r (hp.2 r trivial)

/-- **Saving a status**: the commit settles the burden. -/
theorem keeps_saveColumns {v : ReceiptStatus} (receipt : Receipt) (cols : List ReceiptColumn)
    (hid : receipt.id = k) (hcols : statuses cols = [v]) (hne : v ≠ receipt.status)
    (hw : q.writing = none)
    (hmay : v = .failed ∨ v = .categorised ∨
      task = .processReceipt k ∧ q.burden = .all ∧ (v = .processing ∨ v = .parsed)) :
    Keeps task k q (saveColumns receipt cols)
      (fun q' _ => q' = ⟨q.received, q.burden.after (some v), none⟩) (fun q' _ => q' = q) := by
  have hfilter := statuses_filter hcols hne
  have hnonempty : (cols.filter (ReceiptColumn.changes receipt)).isEmpty = false := by
    rw [List.isEmpty_eq_false_iff]
    intro hnil
    rw [hnil] at hfilter
    cases hfilter
  have hsame : ({ q with writing := none } : Duty) = q := by
    cases q
    cases hw
    rfl
  unfold saveColumns flushColumns
  simp only [hnonempty]
  refine Keeps.step ⟨hid, hw, v, hfilter, hmay⟩ (fun _ => hsame) (fun a _ => ?_)
  have hnext : q.answered task (.sql (.updateReceipt receipt.id
      (cols.filter (ReceiptColumn.changes receipt)))) (.ok a) = { q with writing := some v } := by
    show ({ q with writing := (statuses _).getLast? } : Duty) = _
    rw [hfilter]
    rfl
  rw [hnext]
  refine (Prog.follows_call Op.commit _).2 ⟨trivial, fun r q' h => ?_⟩
  obtain ⟨rfl, -⟩ := h
  cases r with
  | ok a => exact Keeps.ret rfl
  | error e => exact Keeps.raise hsame

end keeps

/-! ## The bodies of the tasks -/

section tasks

variable (env : Env) (readers : Readers) {k : UUID} {q : Duty}

/-- Everything is seen to when the body returns. -/
abbrev SeesTo {α : Type} (task : Task) (k : UUID) (q : Duty) (p : Service α) : Prop :=
  Keeps task k q p (fun q' _ => q'.burden = .nothing) (fun _ _ => True)

/-- The failure arms see to everything, or raise. -/
theorem seesTo_markFailed (receipt : Receipt) {cols : List ReceiptColumn} (e : PyExc)
    (hid : receipt.id = k) (hcols : statuses cols = []) (hs : receipt.status ≠ .failed)
    (hw : q.writing = none) :
    SeesTo (.processReceipt k) k q (markFailed readers receipt cols e) := by
  have hall : statuses (cols ++ [.status .failed, .errorMessage
      (some (String.ofList ((readers.str e).toList.take 500)))]) = [.failed] := by
    rw [statuses, List.filterMap_append, ← statuses, hcols]
    rfl
  refine Keeps.bind ((keeps_saveColumns receipt _ hid hall (Ne.symm hs) hw (Or.inl rfl)).mono
    (fun _ _ h => h) (fun _ _ _ => trivial)) (fun q' a hq => ?_)
  subst hq
  split
  · exact Keeps.ret rfl
  · exact Keeps.raise trivial

/-- Enqueueing the next task is what is left to see to of a parsed receipt. -/
theorem keeps_enqueueCategorisation (henv : env.settings.environment ≠ "test")
    (hb : q.burden = .parsed) :
    Keeps (.processReceipt k) k q (enqueueCategorisation env k)
      (fun q' _ => q'.burden = .nothing) (fun q' _ => q' = q) := by
  unfold enqueueCategorisation
  rw [if_neg henv]
  refine Prog.Follows.perform (o := Op.delay (.categoriseReceipt k)) trivial ?_ ?_
  · rintro a q' ⟨rfl, -⟩
    show (if _ then _ else _ : Duty).burden = .nothing
    rw [if_pos (by simp [about, hb])]
  · rintro e q' ⟨rfl, -⟩
    rfl

/-- The rest of `process_receipt`, once the receipt is `processing`. -/
theorem seesTo_runPipeline (henv : env.settings.environment ≠ "test") (receipt : Receipt)
    (hid : receipt.id = k) (hs : receipt.status = .processing) (hb : q.burden = .all)
    (hw : q.writing = none) :
    SeesTo (.processReceipt k) k q (runPipeline env readers receipt) := by
  have hfailed : receipt.status ≠ .failed := by
    rw [hs]
    exact fun h => ReceiptStatus.noConfusion h
  unfold runPipeline
  refine Keeps.bind ((Keeps.quiet ((respects_ocrAndParse env readers receipt).mono
    (fun _ => LeavesDb.quiet) (fun _ h => h) (fun _ h => h)) (by rw [hb]; decide) hw).mono
    (fun _ _ h => h) (fun _ _ _ => trivial)) ?_
  rintro q' ⟨cols, r⟩ ⟨rfl, hcols⟩
  cases r with
  | error e => exact seesTo_markFailed readers receipt e hid hcols hfailed hw
  | ok u =>
      refine Keeps.bind (Keeps.attempt (keeps_saveColumns receipt cols hid hcols
        (by rw [hs]; decide) hw (Or.inr (Or.inr ⟨rfl, hb, Or.inr rfl⟩)))) ?_
      rintro q₁ r (⟨a, rfl, rfl⟩ | ⟨e, rfl, rfl⟩)
      · subst hid
        refine Keeps.bind (Keeps.attempt
          (keeps_enqueueCategorisation env (q := ⟨q'.received, .parsed, none⟩) henv rfl)) ?_
        rintro q₂ r (⟨a, rfl, hq⟩ | ⟨e, rfl, rfl⟩)
        · exact Keeps.ret hq
        · exact seesTo_markFailed readers { receipt with status := .parsed, errorMessage := none } e
            rfl rfl (fun h => ReceiptStatus.noConfusion h) rfl
      · exact seesTo_markFailed readers receipt e hid rfl hfailed hw

/-- **`process_receipt`** sees to its receipt, or raises. -/
theorem seesTo_processReceipt (henv : env.settings.environment ≠ "test") (k : UUID) :
    SeesTo (.processReceipt k) k ⟨true, .all, none⟩ (processReceipt env readers k) := by
  unfold processReceipt
  refine Keeps.step ⟨rfl, fun _ => rfl⟩ (fun _ => trivial) (fun rows hsound => ?_)
  rcases rows with _ | ⟨v, _ | ⟨u, rows⟩⟩
  · exact Keeps.ret rfl
  · have hv : v.id = k := by simpa using hsound v (List.mem_singleton_self v)
    have hq : Duty.answered (.processReceipt k) ⟨true, .all, none⟩
        (.sql (.selectReceipts [] (fun r => r.id = k))) (.ok [v]) = ⟨true, .all, none⟩ := rfl
    rw [hq]
    show SeesTo (.processReceipt k) k _ (Prog.bind (saveColumns v _) _)
    have hsave : Keeps (.processReceipt k) k ⟨true, .all, none⟩
        (saveColumns v [.status .processing]) (fun q' _ => q' = ⟨true, .all, none⟩)
        (fun _ _ => True) := by
      by_cases hs : ReceiptStatus.processing = v.status
      · -- the flush finds nothing to write
        have hnone : [ReceiptColumn.status .processing].filter (ReceiptColumn.changes v) = [] := by
          simp [ReceiptColumn.changes, ← hs]
        unfold saveColumns flushColumns
        simp only [hnone]
        refine (Prog.follows_call Op.commit _).2 ⟨trivial, fun r q' h => ?_⟩
        obtain ⟨rfl, -⟩ := h
        cases r with
        | ok a => exact Keeps.ret rfl
        | error e => exact Keeps.raise trivial
      · exact (keeps_saveColumns v [.status .processing] hv rfl hs rfl
          (Or.inr (Or.inr ⟨rfl, rfl, Or.inl rfl⟩))).mono (fun _ _ h => h) (fun _ _ _ => trivial)
    refine Keeps.bind hsave ?_
    rintro q a rfl
    exact seesTo_runPipeline env readers henv { v with status := .processing } hv rfl rfl rfl
  · exact Keeps.raise trivial

/-- The transaction that inserts the expense sees to the receipt. -/
theorem seesTo_insertReceiptExpense (receipt : Receipt) (merchant : String) (amount : Decimal)
    (category : ExpenseCategory) (expenseDate : Date) (hw : q.writing = none) :
    SeesTo (.categoriseReceipt receipt.id) receipt.id q
      (insertReceiptExpense receipt merchant amount category expenseDate) := by
  unfold insertReceiptExpense
  refine Keeps.step ⟨rfl, hw, .categorised, rfl, Or.inr (Or.inl rfl)⟩ (fun _ => trivial)
    (fun _ _ => Keeps.step trivial (fun _ => trivial) (fun _ _ =>
      Keeps.step trivial (fun _ => trivial) (fun _ _ =>
        (Prog.follows_call Op.commit _).2 ⟨trivial, fun r q' h => ?_⟩)))
  obtain ⟨rfl, -⟩ := h
  cases r with
  | ok a => exact Keeps.ret rfl
  | error e => exact Keeps.raise trivial

/-- The receipt `categorise_receipt` has read tells whether there is anything to see to. -/
theorem answered_select_categorise (v : Receipt) (params : List Param) (p : Receipt → Bool) :
    (v.status = .parsed → Duty.answered (.categoriseReceipt k) ⟨true, .all, none⟩
      (.sql (.selectReceipts params p)) (.ok [v]) = ⟨true, .all, none⟩) ∧
    (v.status ≠ .parsed → Duty.answered (.categoriseReceipt k) ⟨true, .all, none⟩
      (.sql (.selectReceipts params p)) (.ok [v]) = ⟨true, .nothing, none⟩) :=
  ⟨fun hs => if_pos (by simp [goesOn, hs]), fun hs => if_neg (by simp [goesOn, hs])⟩

/-- **`categorise_receipt`** sees to its receipt, or raises. -/
theorem seesTo_categoriseReceipt (k : UUID) :
    SeesTo (.categoriseReceipt k) k ⟨true, .all, none⟩ (categoriseReceipt env k) := by
  unfold categoriseReceipt
  refine Keeps.step ⟨rfl, fun _ => rfl⟩ (fun _ => trivial) (fun rows hsound => ?_)
  rcases rows with _ | ⟨v, _ | ⟨u, rows⟩⟩
  · exact Keeps.ret rfl
  · have hv : v.id = k := by simpa using hsound v (List.mem_singleton_self v)
    subst hv
    obtain ⟨hparsed, hother⟩ := answered_select_categorise (k := v.id) v []
      (fun r => r.id = v.id)
    by_cases hs : v.status = .parsed
    · rw [hparsed hs]
      refine Keeps.step trivial (fun _ => trivial) (fun linked _ => ?_)
      show SeesTo _ _ ⟨true, .all, none⟩ _
      rcases linked with _ | ⟨e, _ | ⟨e', linked⟩⟩
      · show SeesTo _ _ _ (if _ then _ else _)
        rw [if_neg (not_not_intro hs)]
        refine Keeps.bind ((Keeps.quiet (outsideDb_coercePayload env _).quiet (by decide)
          rfl).mono (fun _ _ h => h) (fun _ _ _ => trivial)) ?_
        rintro q ⟨merchant, amount, expenseDate⟩ ⟨rfl, -⟩
        refine Keeps.bind ((Keeps.quiet (consults_categoriseJson env v.userId merchant).quiet
          (by decide) rfl).mono (fun _ _ h => h) (fun _ _ _ => trivial)) ?_
        rintro q ⟨merchant, category⟩ ⟨rfl, -⟩
        exact seesTo_insertReceiptExpense v merchant amount category expenseDate rfl
      · show SeesTo _ _ _ (if _ then _ else _)
        have hne : v.status ≠ .categorised := by
          rw [hs]
          exact fun h => ReceiptStatus.noConfusion h
        rw [if_pos hne]
        exact (keeps_saveColumns v [.status .categorised] rfl rfl (Ne.symm hne) rfl
          (Or.inr (Or.inl rfl))).mono (fun _ _ h => by rw [h]; rfl) (fun _ _ _ => trivial)
      · exact Keeps.raise trivial
    · rw [hother hs]
      refine Keeps.step trivial (fun _ => trivial) (fun linked _ => ?_)
      show SeesTo _ _ ⟨true, .nothing, none⟩ _
      rcases linked with _ | ⟨e, _ | ⟨e', linked⟩⟩
      · show SeesTo _ _ _ (if _ then _ else _)
        rw [if_pos hs]
        exact Keeps.ret rfl
      · show SeesTo _ _ _ (if _ then _ else _)
        split
        · rename_i hne
          exact (keeps_saveColumns v [.status .categorised] rfl rfl (Ne.symm hne) rfl
            (Or.inr (Or.inl rfl))).mono (fun _ _ h => by rw [h]; rfl) (fun _ _ _ => trivial)
        · exact Keeps.ret rfl
      · exact Keeps.raise trivial
  · exact Keeps.raise trivial

end tasks

end SpendLens.Duties
