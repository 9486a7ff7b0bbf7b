/-
# One expense for a receipt

How many expenses a receipt gives rise to over its whole life.  The unique index on
`expenses.receipt_id` keeps a second one out while the first one is there, and the status
`CATEGORISED` keeps the workers from trying once the user has deleted it.  Neither guard
alone carries over a deletion, so a receipt has one expense in every run in which no
session writes a receipt whose expense is gone, and none takes the expense of a receipt
that is still under way.
-/
import SpendLens.ExpenseService
import SpendLens.ReceiptLifecycle

namespace SpendLens

/-! ## Sessions that create no expense of a receipt -/

/-- Operations that link no expense to a receipt. -/
def LeavesLinks : Op → Prop
  | .sql (.insertExpense e) => e.receiptId = none
  | .sql (.updateExpense _ cols) => ∀ id, ExpenseColumn.receiptId (some id) ∉ cols
  | _ => True

/-- A program that creates no expense of a receipt. -/
abbrev Unlinking {α : Type} (p : Service α) : Prop :=
  p.Respects LeavesLinks (fun _ _ => True) (fun _ => True) (fun _ => True)

namespace Unlinking

variable {α β : Type}

theorem ret {a : α} : Unlinking (.ret a : Service α) := Prog.Respects.ret trivial

theorem raise {e : PyExc} : Unlinking (.raise e : Service α) := Prog.Respects.raise trivial

theorem perform {o : Op} (ho : LeavesLinks o) : Unlinking (Prog.perform o) :=
  Prog.Respects.perform ho (fun _ _ => trivial) (fun _ _ => trivial)

theorem bind {p : Service α} {f : α → Service β} (hp : Unlinking p) (hf : ∀ a, Unlinking (f a)) :
    Unlinking (p.bind f) :=
  Prog.Respects.bind hp (fun a _ => hf a)

theorem step {o : Op} {f : o.Res → Service α} (ho : LeavesLinks o) (hf : ∀ a, Unlinking (f a)) :
    Unlinking ((Prog.perform o).bind f) :=
  bind (perform ho) hf

theorem handle {p : Service α} {f : PyExc → Service α} (hp : Unlinking p)
    (hf : ∀ e, Unlinking (f e)) : Unlinking (Prog.handle p f) :=
  Prog.Respects.handle hp (fun e _ => hf e)

end Unlinking

section programs

variable (env : Env)

/-- Reads and updates of receipts, and everything outside the database. -/
def OnReceipts : Op → Prop
  | .sql (.selectReceipts _ _) => True
  | .sql (.updateReceipt _ _) => True
  | .sql _ => False
  | .rollback => False
  | _ => True

theorem OnReceipts.leavesLinks {o : Op} (h : OnReceipts o) : LeavesLinks o := by
  cases o with
  | sql s => cases s <;> trivial
  | _ => trivial

theorem LeavesDb.onReceipts {o : Op} (h : LeavesDb o) : OnReceipts o := by
  cases o with
  | sql s => exact h.elim
  | rollback => exact h.elim
  | _ => trivial

/-- The programs that write receipts and nothing else. -/
abbrev ReceiptsOnly {α : Type} (p : Service α) : Prop := p.Asks OnReceipts

theorem ReceiptsOnly.unlinking {α : Type} {p : Service α} (hp : ReceiptsOnly p) : Unlinking p :=
  Prog.Asks.mono hp (fun _ => OnReceipts.leavesLinks)

theorem receiptsOnly_flush (receipt : Receipt) (cols : List ReceiptColumn) (id : UUID) :
    ReceiptsOnly (flushColumns ReceiptColumn.changes (fun cs => sql (.updateReceipt id cs)) receipt
      cols) :=
  asks_flushColumns (Prog.Asks.perform trivial)

theorem receiptsOnly_saveColumns (receipt : Receipt) (cols : List ReceiptColumn) :
    ReceiptsOnly (saveColumns receipt cols) :=
  Prog.Asks.bind (receiptsOnly_flush receipt cols receipt.id) (fun _ => Prog.Asks.perform trivial)

theorem receiptsOnly_markFailed (readers : Readers) (receipt : Receipt)
    (cols : List ReceiptColumn) (e : PyExc) : ReceiptsOnly (markFailed readers receipt cols e) := by
  refine Prog.Asks.bind (receiptsOnly_saveColumns receipt _) (fun _ => ?_)
  split
  · exact Prog.Asks.ret
  · exact Prog.Asks.raise

/-- Processing writes receipts and nothing else. -/
theorem receiptsOnly_processReceipt (readers : Readers) (id : UUID) :
    ReceiptsOnly (processReceipt env readers id) := by
  refine Prog.Asks.step trivial (fun rows =>
    Prog.Asks.bind (asks_scalarOneOrNone rows) (fun found => ?_))
  match found with
  | none => exact Prog.Asks.ret
  | some receipt =>
      refine Prog.Asks.bind (receiptsOnly_saveColumns receipt _) (fun _ =>
        Prog.Asks.bind ((respects_ocrAndParse env readers _).mono (fun _ => LeavesDb.onReceipts)
          (fun _ _ => trivial) (fun _ _ => trivial)) ?_)
      rintro ⟨cols, e | u⟩
      · exact receiptsOnly_markFailed readers _ _ e
      · refine Prog.Asks.bind (asks_attempt (receiptsOnly_saveColumns _ _)) ?_
        rintro (e | u)
        · exact receiptsOnly_markFailed readers _ _ e
        · have henqueue : ReceiptsOnly (enqueueCategorisation env receipt.id) := by
            unfold enqueueCategorisation
            split
            · exact Prog.Asks.ret
            · exact Prog.Asks.perform trivial
          refine Prog.Asks.bind (asks_attempt henqueue) ?_
          rintro (e | u)
          · exact receiptsOnly_markFailed readers _ _ e
          · exact Prog.Asks.ret

theorem receiptsOnly_getReceipt (userId id : UUID) : ReceiptsOnly (getReceipt userId id) := by
  refine Prog.Asks.step trivial (fun rows =>
    Prog.Asks.bind (asks_scalarOneOrNone rows) (fun found => ?_))
  match found with
  | none => exact Prog.Asks.raise
  | some receipt => exact Prog.Asks.ret

theorem receiptsOnly_enqueueProcessing (id : UUID) : ReceiptsOnly (enqueueProcessing env id) := by
  unfold enqueueProcessing
  split
  · exact Prog.Asks.ret
  · exact Prog.Asks.perform trivial

theorem receiptsOnly_refreshReceipt (id : UUID) : ReceiptsOnly (refreshReceipt id) :=
  Prog.Asks.step trivial asks_refreshed

/-- A retry writes receipts and nothing else. -/
theorem receiptsOnly_retryReceipt (userId id : UUID) :
    ReceiptsOnly (retryReceipt env userId id) := by
  refine Prog.Asks.bind (receiptsOnly_getReceipt userId id) (fun receipt => ?_)
  show ReceiptsOnly (if _ then _ else _)
  split
  · exact Prog.Asks.raise
  · exact Prog.Asks.bind (receiptsOnly_flush receipt _ id) (fun _ =>
      Prog.Asks.step trivial (fun _ =>
        Prog.Asks.bind (receiptsOnly_refreshReceipt id) (fun receipt =>
          Prog.Asks.bind (receiptsOnly_enqueueProcessing env receipt.id)
            (fun _ => Prog.Asks.ret))))

/-- An expense a user creates belongs to no receipt. -/
theorem unlinking_createExpense {U : Unicode} (userId : UUID) (payload : ExpenseCreate U) :
    Unlinking (createExpense U userId payload) :=
  Unlinking.step trivial (fun _ => Unlinking.step rfl (fun _ =>
    Unlinking.step trivial (fun _ => asks_refreshExpense (fun _ _ => trivial) _)))

/-- No patch assigns a receipt. -/
theorem receiptId_notMem_columns (patch : ExpensePatch) (id : Option UUID) :
    ExpenseColumn.receiptId id ∉ patch.columns := by
  simp [ExpensePatch.columns]

/-- A patch creates no expense and links none. -/
theorem unlinking_updateExpense (userId id : UUID) (patch : ExpensePatch)
    (ifMatch : Option String) : Unlinking (updateExpense env userId id patch ifMatch) := by
  refine Unlinking.bind (asks_getExpense (fun _ _ => trivial) userId id) (fun expense => ?_)
  show Unlinking (if _ then _ else _)
  split
  · exact Unlinking.raise
  · have hcols : LeavesLinks (.sql (.updateExpense expense.id
        (patch.columns.filter (ExpenseColumn.changes expense)))) :=
      fun id hid => receiptId_notMem_columns patch (some id) (List.mem_of_mem_filter hid)
    have hflush : Unlinking (flushColumns ExpenseColumn.changes
        (fun cols => sql (.updateExpense expense.id cols)) expense patch.columns) :=
      asks_flushColumns (Unlinking.perform hcols)
    refine Unlinking.bind (Unlinking.bind hflush (fun _ => ?_)) (fun _ =>
      Unlinking.step trivial (fun _ => asks_refreshExpense (fun _ _ => trivial) expense.id))
    cases patch.correction expense with
    | none => exact Unlinking.ret
    | some c => exact Unlinking.perform trivial

/-- Deleting an expense creates none. -/
theorem unlinking_deleteExpense (userId id : UUID) (ifMatch : Option String) :
    Unlinking (deleteExpense env userId id ifMatch) := by
  refine Unlinking.bind (asks_getExpense (fun _ _ => trivial) userId id) (fun expense => ?_)
  show Unlinking (if _ then _ else _)
  split
  · exact Unlinking.raise
  · exact Unlinking.step trivial (fun _ => Unlinking.perform trivial)

/-- Operations that create no expense and write nothing into one but the loss of its receipt. -/
def HandlesReceipts : Op → Prop
  | .sql (.insertExpense _) => False
  | .sql (.updateExpense _ cols) => cols = [.receiptId none]
  | .sql (.deleteExpense _) => False
  | _ => True

theorem HandlesReceipts.leavesLinks {o : Op} (h : HandlesReceipts o) : LeavesLinks o := by
  cases o with
  | sql s =>
      cases s with
      | insertExpense e => exact h.elim
      | updateExpense id cols =>
          intro k hk
          rw [show cols = [.receiptId none] from h, List.mem_singleton] at hk
          cases hk
      | _ => trivial
  | _ => trivial

theorem OnReceipts.handlesReceipts {o : Op} (h : OnReceipts o) : HandlesReceipts o := by
  cases o with
  | sql s => cases s <;> trivial
  | _ => trivial

/-- The programs that handle receipts. -/
abbrev HandlesOnly {α : Type} (p : Service α) : Prop := p.Asks HandlesReceipts

theorem ReceiptsOnly.handles {α : Type} {p : Service α} (hp : ReceiptsOnly p) : HandlesOnly p :=
  Prog.Asks.mono hp (fun _ => OnReceipts.handlesReceipts)

/-- Uploading and deleting receipts creates no expense; a deletion clears links only. -/
theorem handlesOnly_receiptCall (call : ReceiptCall) : HandlesOnly (call.run env) := by
  cases call with
  | create userId body messageId =>
      have hkey : ∀ mime secret, HandlesOnly (buildReceiptKey env userId mime secret) := by
        intro mime secret
        unfold buildReceiptKey
        split
        · exact Prog.Asks.raise
        · exact Prog.Asks.step trivial (fun _ => Prog.Asks.step trivial (fun _ => Prog.Asks.ret))
      have hsave : ∀ key mime size, HandlesOnly (saveReceipt userId key mime size messageId) :=
        fun key mime size => Prog.Asks.handle
          (Prog.Asks.step trivial (fun _ => Prog.Asks.step trivial (fun _ =>
            Prog.Asks.step trivial (fun _ => Prog.Asks.ret))))
          (fun _ => Prog.Asks.step trivial (fun _ => Prog.Asks.raise))
      have hcreate : HandlesOnly (createReceipt env userId body messageId) := by
        cases hvet : vetUpload body with
        | error e =>
            rw [createReceipt_of_vet_error hvet]
            exact Prog.Asks.raise
        | ok mime =>
            rw [(createReceipt_of_vet_ok env userId messageId hvet).2]
            exact Prog.Asks.bind (hkey _ _) (fun key => Prog.Asks.step trivial (fun _ =>
              Prog.Asks.bind (hsave key mime body.length) (fun id =>
                Prog.Asks.bind (receiptsOnly_refreshReceipt id).handles (fun receipt =>
                  Prog.Asks.bind (receiptsOnly_enqueueProcessing env receipt.id).handles
                    (fun _ => Prog.Asks.ret)))))
      exact Prog.Asks.bind hcreate (fun _ => Prog.Asks.ret)
  | delete userId id =>
      refine Prog.Asks.bind (receiptsOnly_getReceipt userId id).handles (fun receipt =>
        Prog.Asks.step trivial (fun linked => Prog.Asks.bind ?_ (fun _ =>
          Prog.Asks.step trivial (fun _ => Prog.Asks.step trivial (fun _ =>
            Prog.Asks.handle (Prog.Asks.perform trivial) (fun _ => Prog.Asks.ret))))))
      induction linked with
      | nil => exact Prog.Asks.ret
      | cons e linked ih => exact Prog.Asks.step rfl (fun _ => ih)

theorem unlinking_receiptCall (call : ReceiptCall) : Unlinking (call.run env) :=
  Prog.Asks.mono (handlesOnly_receiptCall env call) (fun _ => HandlesReceipts.leavesLinks)

end programs

/-! ## Sessions that create one -/

/-- Only `categorise_receipt` creates the expense of a receipt. -/
def PipelineCall.creates : PipelineCall → Bool
  | categorise _ => true
  | _ => false

/-- The receipt a session has marked and not committed yet. -/
def nextDraft : Option UUID → (o : Op) → Except PyExc o.Res → Option UUID
  | _, .sql (.updateReceipt id _), .ok _ => some id
  | _, .sql _, .error _ => none
  | _, .commit, _ => none
  | q, _, _ => q

/-- What `categorise_receipt` may ask for: it marks one receipt and then creates an expense
of no other. -/
def MayCreate (q : Option UUID) : Op → Prop
  | .sql (.updateReceipt _ _) => q = none
  | .sql (.insertExpense e) => ∀ k, e.receiptId = some k → q = some k
  | .sql (.insertReceipt _) => False
  | .sql (.deleteReceipt _) => False
  | .sql (.updateExpense _ _) => False
  | .sql (.deleteExpense _) => False
  | .rollback => False
  | _ => True

/-- What a call may ask for. -/
def PipelineCall.MayDraft (call : PipelineCall) (q : Option UUID) (o : Op) : Prop :=
  if call.creates then MayCreate q o else LeavesLinks o

/-- A program that creates expenses of marked receipts only. -/
abbrev Drafts {α : Type} (q : Option UUID) (p : Service α) (post : Option UUID → α → Prop) : Prop :=
  p.Follows MayCreate (fun q o r q' => q' = nextDraft q o r) post (fun _ _ => True) q

section drafts

variable {α β : Type} {q : Option UUID}

theorem Drafts.ret {a : α} {post : Option UUID → α → Prop} (h : post q a) :
    Drafts q (.ret a) post :=
  (Prog.follows_ret a).2 h

theorem Drafts.raise {e : PyExc} {post : Option UUID → α → Prop} : Drafts q (.raise e) post :=
  (Prog.follows_raise e).2 trivial

theorem Drafts.bind {p : Service α} {f : α → Service β} {post : Option UUID → α → Prop}
    {post' : Option UUID → β → Prop} (hp : Drafts q p post)
    (hf : ∀ q' a, post q' a → Drafts q' (f a) post') : Drafts q (p.bind f) post' :=
  Prog.Follows.bind (hp.mono hf (fun _ _ h => h))

theorem Drafts.step {o : Op} {f : o.Res → Service α} {post : Option UUID → α → Prop}
    (hmay : MayCreate q o) (hok : ∀ a, Drafts (nextDraft q o (.ok a)) (f a) post) :
    Drafts q ((Prog.perform o).bind f) post := by
  refine (Prog.follows_call o _).2 ⟨hmay, fun r q' h => ?_⟩
  subst h
  cases r with
  | ok a => exact hok a
  | error e => exact Drafts.raise

/-- The last operation. -/
theorem Drafts.perform {o : Op} (hmay : MayCreate q o) :
    Drafts q (Prog.perform o) (fun _ _ => True) :=
  Prog.Follows.perform hmay (fun _ _ _ => trivial) (fun _ _ _ => trivial)

/-- What only reads marks nothing. -/
theorem Drafts.quiet {p : Service α} (hp : IsQuiet p) : Drafts none p (fun q' _ => q' = none) := by
  induction p with
  | ret a => exact Drafts.ret rfl
  | raise e => exact Drafts.raise
  | call o k ih =>
      have hp := (Prog.respects_call o k).1 hp
      refine (Prog.follows_call o k).2 ⟨?_, fun r q' h => ?_⟩
      · cases o with
        | sql s => cases s <;> first | trivial | exact hp.1.elim
        | rollback => exact hp.1.elim
        | _ => trivial
      · subst h
        have hnone : nextDraft none o r = none := by
          cases o with
          | sql s => cases s <;> cases r <;> first | rfl | exact hp.1.elim
          | _ => cases r <;> rfl
        rw [hnone]
        exact ih r (hp.2 r trivial)

/-- A row found by its key, or none. -/
theorem Drafts.scalarOneOrNone {rows : List α} {f : Option α → Service β}
    {post : Option UUID → β → Prop} (hf : ∀ found, Drafts q (f found) post) :
    Drafts q ((scalarOneOrNone rows).bind f) post := by
  match rows with
  | [] => exact hf none
  | [v] => exact hf (some v)
  | _ :: _ :: _ => exact Drafts.raise

/-- **`categorise_receipt`** creates an expense of the receipt it has marked. -/
theorem drafts_categoriseReceipt (env : Env) (id : UUID) :
    Drafts none (categoriseReceipt env id) (fun _ _ => True) := by
  refine Drafts.step trivial (fun rows => Drafts.scalarOneOrNone (fun found => ?_))
  match found with
  | none => exact Drafts.ret trivial
  | some receipt =>
      refine Drafts.step trivial (fun linked => Drafts.scalarOneOrNone (fun existing => ?_))
      match existing with
      | some _ =>
          show Drafts none (if _ then _ else _) _
          split
          · unfold saveColumns flushColumns
            dsimp only
            split
            · exact Drafts.perform trivial
            · exact Drafts.step rfl (fun _ => Drafts.perform trivial)
          · exact Drafts.ret trivial
      | none =>
          show Drafts none (if _ then _ else _) _
          split
          · exact Drafts.ret trivial
          · refine Drafts.bind (Drafts.quiet (outsideDb_coercePayload env _).quiet) ?_
            rintro q ⟨merchant, amount, expenseDate⟩ rfl
            refine Drafts.bind (Drafts.quiet
              (consults_categoriseJson env receipt.userId merchant).quiet) ?_
            rintro q ⟨merchant, category⟩ rfl
            exact Drafts.step rfl (fun _ => Drafts.step trivial (fun expenseId =>
              Drafts.step (fun k hk => hk) (fun _ => Drafts.perform trivial)))

end drafts

/-! ## What the sessions have staged -/

section staged

variable {ι : Type} [DecidableEq ι] {env : Env} {w w' : World ι} {i : ι}

/-- What a session that creates expenses has staged: its expenses are new, and those of a
receipt come with a write of that receipt. -/
structure Creating (w : World ι) (i : ι) (q : Option UUID) : Prop where
  marked : ∀ k, q = some k →
    (∃ v, w.db.receipts.staged i k = some (some v)) ∧ w.failed i = false
  drafts : ∀ k y, w.db.expenses.staged i k = some y → w.db.expenses.committed.get k = none ∧
    ∃ e, y = some e ∧ ∀ m, e.receiptId = some m → q = some m

/-- What another session has staged: its expenses of the receipt were its expenses before. -/
def Linking (r : UUID) (w : World ι) (i : ι) : Prop :=
  ∀ k e, w.db.expenses.staged i k = some (some e) → e.receiptId = some r →
    ∃ u, w.db.expenses.committed.get k = some u ∧ u.receiptId = some r

/-- A session that has nothing staged. -/
theorem Creating.of_none (h : ∀ k, w.db.expenses.staged i k = none) : Creating w i none := by
  refine ⟨fun k hk => (nomatch hk), fun k y hy => ?_⟩
  rw [h] at hy
  cases hy

theorem Linking.of_none {r : UUID} (h : ∀ k, w.db.expenses.staged i k = none) : Linking r w i := by
  intro k e he
  rw [h] at he
  cases he

/-- What is staged stays so while other sessions move. -/
theorem Creating.mono {q : Option UUID} (h : Creating w i q)
    (hreceipts : ∀ k, w'.db.receipts.staged i k = w.db.receipts.staged i k)
    (hexpenses : ∀ k, w'.db.expenses.staged i k = w.db.expenses.staged i k)
    (hfailed : w'.failed i = w.failed i)
    (hcommitted : ∀ k, (w.db.expenses.staged i k).isSome →
      w'.db.expenses.committed.get k = w.db.expenses.committed.get k) : Creating w' i q := by
  refine ⟨fun k hk => ?_, fun k y hy => ?_⟩
  · rw [hreceipts, hfailed]
    exact h.marked k hk
  · rw [hexpenses] at hy
    rw [hcommitted k (by rw [hy]; rfl)]
    exact h.drafts k y hy

theorem Linking.mono {r : UUID} (h : Linking r w i)
    (hexpenses : ∀ k, w'.db.expenses.staged i k = w.db.expenses.staged i k)
    (hcommitted : ∀ k, (w.db.expenses.staged i k).isSome →
      w'.db.expenses.committed.get k = w.db.expenses.committed.get k) : Linking r w' i := by
  intro k e he hr
  rw [hexpenses] at he
  rw [hcommitted k (by rw [he]; rfl)]
  exact h k e he hr

/-- **One operation** of a session that creates no expense of a receipt. -/
theorem Linking.step {r : UUID} {o : Op} {a : Except PyExc o.Res} (h : Linking r w i)
    (hleaves : LeavesLinks o) (hx : exec env i o w = some (a, w')) : Linking r w' i := by
  refine exec_db (I := fun db => ∀ k e, db.expenses.staged i k = some (some e) →
    e.receiptId = some r → ∃ u, db.expenses.committed.get k = some u ∧ u.receiptId = some r)
    (fun db _ k e he => ?_) (fun db _ k e he => ?_) hx (fun s a db ho hs => ?_) h
  · have hnone : (db.commit i).expenses.staged i k = none :=
      (Store.staged_commit _ _ _ _).trans (if_pos rfl)
    rw [hnone] at he
    cases he
  · have hnone : (db.rollback i).expenses.staged i k = none :=
      (Store.staged_rollback _ _ _ _).trans (if_pos rfl)
    rw [hnone] at he
    cases he
  · subst ho
    rcases Stmt.exec_expenses hs with heq | hw
    · rw [heq]
      exact h
    · generalize db.expenses = st at hw
      -- a row with the link that the session sees is committed with it
      have hview : ∀ k v, (w.db.expenses.view i).get k = some v → v.receiptId = some r →
          ∃ u, w.db.expenses.committed.get k = some u ∧ u.receiptId = some r := by
        intro k v hv hr
        rw [Store.get_view] at hv
        cases hst : w.db.expenses.staged i k with
        | none =>
            rw [hst] at hv
            exact ⟨v, hv, hr⟩
        | some y =>
            rw [hst, Option.getD_some] at hv
            exact h k v (hv ▸ hst) hr
      intro k e he hr
      cases hw with
      | insert d row hrow hlock hnew hfree =>
          rw [Store.staged_stage] at he
          split at he
          · cases he
            have hnone : d.receiptId = none := hleaves
            rw [(NewExpense.store_ok hrow).2.1, hnone] at hr
            cases hr
          · exact h k e he hr
      | update id cols v v' hget hlock hstore =>
          rw [Store.staged_stage] at he
          split at he
          · rename_i hc
            cases he
            rcases storeAll_link hstore hleaves with hlink | hnone
            · have hid : v.id = id := Table.key_of_get hget
              have hk : v.id = k := hc.2
              exact hview k v (by rw [← hk, hid]; exact hget) (hlink.symm.trans hr)
            · have hr : v'.receiptId = some r := hr
              rw [hnone] at hr
              cases hr
          · exact h k e he hr
      | delete id v hget hlock =>
          rw [Store.staged_stage] at he
          split at he
          · cases he
          · exact h k e he hr
      | unlink id linked hlinked hlock =>
          rw [Store.committed_stageAll]
          rcases Store.staged_stageAll_cases he with he | ⟨-, x, hx, -, hres⟩
          · exact h k e he hr
          · obtain ⟨v, -, rfl⟩ := List.mem_map.1 hx
            cases hres
            cases hr

/-- **One operation** of a session that creates expenses. -/
theorem Creating.step {q : Option UUID} {o : Op} {a : Except PyExc o.Res} (h : Creating w i q)
    (hmay : MayCreate q o) (hx : exec env i o w = some (a, w')) :
    Creating w' i (nextDraft q o a) := by
  -- a failed session has marked nothing
  have hfailed : w.failed i = true → q = none := by
    intro hf
    cases q with
    | none => rfl
    | some k =>
        rw [(h.marked k rfl).2] at hf
        cases hf
  have hquiet : ∀ {v : World ι}, v.db.receipts = w.db.receipts → v.db.expenses = w.db.expenses →
      v.failed = w.failed → Creating v i q := by
    intro v hr he hf
    exact h.mono (fun k => by rw [hr]) (fun k => by rw [he]) (by rw [hf]) (fun k _ => by rw [he])
  have hrollback : ∀ {v : World ι}, v.db.expenses = w.db.expenses.rollback i →
      Creating v i none := by
    intro v hv
    refine Creating.of_none (fun k => ?_)
    rw [hv, Store.staged_rollback, if_pos rfl]
  cases o with
  | sql s =>
      rcases exec_sql_cases hx with ⟨hf, rfl, rfl⟩ | ⟨-, ⟨e, rfl⟩, rfl⟩ | ⟨a, db, hf, rfl, hs, rfl⟩
      · have hnext : nextDraft q (.sql s) (.error .pendingRollback) = q := by
          rw [hfailed hf]
          cases s <;> rfl
        rw [hnext]
        exact hquiet rfl rfl rfl
      · have hnext : nextDraft q (.sql s) (.error e) = none := by
          cases s <;> rfl
        rw [hnext]
        exact hrollback rfl
      · have hframe := Stmt.exec_frame hs
        cases s with
        | insertReceipt _ | deleteReceipt _ | updateExpense _ _ | deleteExpense _ => exact hmay.elim
        | updateReceipt id cols =>
            have hq : q = none := hmay
            subst hq
            have hexp : db.expenses = w.db.expenses := hframe.expenses rfl
            refine ⟨fun k hk => ?_, fun k y hy => ?_⟩
            · cases hk
              exact ⟨Stmt.exec_updateReceipt hs, hf⟩
            · have hy : db.expenses.staged i k = some y := hy
              rw [hexp] at hy
              obtain ⟨hnone, e, rfl, he⟩ := h.drafts k y hy
              refine ⟨?_, e, rfl, fun m hm => (nomatch he m hm)⟩
              show db.expenses.committed.get k = none
              rw [hexp, hnone]
        | insertExpense d =>
            have hrec : db.receipts = w.db.receipts := hframe.receipts rfl
            refine ⟨fun k hk => ?_, fun k y hy => ?_⟩
            · show (∃ v, db.receipts.staged i k = some (some v)) ∧ _
              rw [hrec]
              exact h.marked k hk
            · have hy : db.expenses.staged i k = some y := hy
              show db.expenses.committed.get k = none ∧ _
              rcases Stmt.exec_expenses hs with heq | hw
              · rw [heq] at hy ⊢
                exact h.drafts k y hy
              · generalize db.expenses = st at hw hy
                cases hw with
                | insert _ row hrow hlock hnew hfree =>
                    rw [Store.staged_stage] at hy
                    split at hy
                    · rename_i hc
                      cases hy
                      refine ⟨?_, row, rfl, fun m hm => hmay m ?_⟩
                      · have hk : row.id = k := hc.2
                        rw [hk, Store.get_view] at hnew
                        cases hst : w.db.expenses.staged i k with
                        | none =>
                            rw [hst] at hnew
                            exact hnew
                        | some y =>
                            obtain ⟨-, e, rfl, -⟩ := h.drafts k y hst
                            rw [hst] at hnew
                            cases hnew
                      · rw [← (NewExpense.store_ok hrow).2.1]
                        exact hm
                    · exact h.drafts k y hy
        | _ => exact hquiet (hframe.receipts rfl) (hframe.expenses rfl) rfl
  | commit =>
      have hnext : nextDraft q .commit a = none := by
        cases a <;> rfl
      rw [hnext]
      rcases exec_commit_cases hx with ⟨hf, -, rfl⟩ | ⟨-, -, rfl⟩ | ⟨-, -, rfl⟩ | ⟨-, -, rfl⟩
      · rw [← hfailed hf]
        exact hquiet rfl rfl rfl
      · exact Creating.of_none (fun k => (Store.staged_commit _ _ _ _).trans (if_pos rfl))
      · exact hrollback rfl
      · exact Creating.of_none (fun k => (Store.staged_rollback _ _ _ _).trans (if_pos rfl))
  | rollback => exact hmay.elim
  | _ =>
      obtain ⟨hdb, hf⟩ := exec_outside hx (by simp) (by simp) (by simp)
      exact hquiet (by rw [hdb]) (by rw [hdb]) hf

end staged

/-! ## A receipt has one expense -/

section once

variable {ι : Type} [DecidableEq ι] {env : Env} {calls : ι → PipelineCall} {r : UUID}

/-- Does the operation commit a deletion of the receipt? -/
def commitsDeletion (r : UUID) (i : ι) (o : Op) (w : World ι) : Bool :=
  match o with
  | .commit => (w.db.receipts.staged i r).elim false Option.isNone
  | _ => false

/-- The backend, with a history variable: has a deletion of the receipt been committed? -/
def remembering (env : Env) (r : UUID) : Machine ι Op.Res PyExc (World ι × Bool) Empty :=
  (backend env).withGhost (fun i o _ w gone => gone || commitsDeletion r i o w)

/-- Some expense of the table belongs to the receipt. -/
def Linked (r : UUID) (T : Table Expense UUID Expense.id) : Prop :=
  ∃ k e, T.get k = some e ∧ e.receiptId = some r

/-- The committed receipt is `CATEGORISED`. -/
def Settled (r : UUID) (w : World ι) : Prop :=
  ∃ u, w.db.receipts.committed.get r = some u ∧ u.status = .categorised

/-- The expenses of the receipt that an action has inserted. -/
def expensesCreated (r : UUID) (w w' : World ι) : List UUID :=
  (w'.db.expenses.committed.rows.filter (fun e =>
    e.receiptId = some r && (w.db.expenses.committed.get e.id).isNone)).map Expense.id

/-- What is assumed of a step: no session commits a write of the receipt while it is
`CATEGORISED` and its expense is gone; the expense is taken from the receipt only while it is
`CATEGORISED`, or with the receipt; and no new receipt gets the identifier of a deleted one. -/
structure LinkOk (r : UUID) (i : ι) (o : Op) (x : World ι × Bool) : Prop where
  terminal : o = .commit → Settled r x.1 → (∃ v, x.1.db.receipts.staged i r = some (some v)) →
    Linked r x.1.db.expenses.committed
  kept : o = .commit → Linked r x.1.db.expenses.committed → ¬Linked r (x.1.db.expenses.view i) →
    x.1.db.receipts.staged i r = some none ∨
      (x.1.db.receipts.staged i r = none ∧ Settled r x.1)
  unused : ∀ v, o = .sql (.insertReceipt v) → v.id = r → x.2 = false

/-- The sessions have staged what they may. -/
structure Drafting (r : UUID) (calls : ι → PipelineCall) (g : ι → Option UUID)
    (x : World ι × Bool) : Prop where
  receipts : x.1.db.receipts.Exclusive
  expenses : x.1.db.expenses.Exclusive
  unique : x.1.db.expenses.UniqueOn Expense.receiptId
  creating : ∀ i, (calls i).creates = true → Creating x.1 i (g i)
  linking : ∀ i, (calls i).creates = false → Linking r x.1 i
  present : x.2 = true → ∀ i v, x.1.db.receipts.staged i r = some (some v) →
    (x.1.db.receipts.committed.get r).isSome

/-- The receipt has had its expense: it has it still, or nobody is to create another one. -/
def Spent (r : UUID) (x : World ι × Bool) : Prop :=
  Linked r x.1.db.expenses.committed ∨ Settled r x.1 ∨
    (x.1.db.receipts.committed.get r = none ∧ x.2 = true)

omit [DecidableEq ι] in
/-- An action that leaves the expenses has inserted none. -/
theorem expensesCreated_of_same {w w' : World ι}
    (h : w'.db.expenses.committed = w.db.expenses.committed) : expensesCreated r w w' = [] := by
  rw [expensesCreated, List.map_eq_nil_iff, List.filter_eq_nil_iff]
  intro e he
  rw [h] at he
  rw [Table.get_of_mem he]
  simp

omit [DecidableEq ι] in
/-- An inserted expense belongs to the receipt, and was not there before. -/
theorem mem_expensesCreated {w w' : World ι} {k : UUID} (h : k ∈ expensesCreated r w w') :
    w.db.expenses.committed.get k = none ∧
      ∃ e, w'.db.expenses.committed.get k = some e ∧ e.receiptId = some r := by
  obtain ⟨e, he, rfl⟩ := List.mem_map.1 h
  rw [List.mem_filter, Bool.and_eq_true, decide_eq_true_eq, Option.isNone_iff_eq_none] at he
  exact ⟨he.2.2, e, Table.get_of_mem he.1, he.2.1⟩

/-- One action inserts at most one expense of the receipt. -/
theorem length_expensesCreated_le {w w' : World ι}
    (h : w'.db.expenses.UniqueOn Expense.receiptId) : (expensesCreated r w w').length ≤ 1 := by
  rw [expensesCreated, List.length_map]
  refine h.length_filter_le (x := r) (fun e he => ?_)
  rw [Bool.and_eq_true, decide_eq_true_eq] at he
  exact he.1

/-- What is assumed of a step, tested. -/
def linkOk (r : UUID) (i : ι) (o : Op) (x : World ι × Bool) : Bool :=
  match o with
  | .commit =>
      let settled := (x.1.db.receipts.committed.get r).any (fun u => u.status = .categorised)
      let linked := fun (T : Table Expense UUID Expense.id) =>
        T.rows.any (fun e => e.receiptId = some r)
      (!settled || !(x.1.db.receipts.staged i r).any Option.isSome ||
          linked x.1.db.expenses.committed) &&
        (!linked x.1.db.expenses.committed || linked (x.1.db.expenses.view i) ||
          (x.1.db.receipts.staged i r).any Option.isNone ||
          ((x.1.db.receipts.staged i r).isNone && settled))
  | .sql (.insertReceipt v) => v.id ≠ r || !x.2
  | _ => true

omit [DecidableEq ι] in
theorem linked_iff (T : Table Expense UUID Expense.id) :
    T.rows.any (fun e => e.receiptId = some r) = true ↔ Linked r T := by
  rw [List.any_eq_true]
  constructor
  · rintro ⟨e, he, hr⟩
    exact ⟨_, e, Table.get_of_mem he, of_decide_eq_true hr⟩
  · rintro ⟨k, e, he, hr⟩
    exact ⟨e, Table.mem_of_get he, decide_eq_true hr⟩

omit [DecidableEq ι] in
theorem settled_iff (w : World ι) :
    (w.db.receipts.committed.get r).any (fun u => u.status = .categorised) = true ↔
      Settled r w := by
  rw [Option.any_eq_true]
  constructor
  · rintro ⟨u, hu, hs⟩
    exact ⟨u, hu, of_decide_eq_true hs⟩
  · rintro ⟨u, hu, hs⟩
    exact ⟨u, hu, decide_eq_true hs⟩

theorem LinkOk.of_test {i : ι} {o : Op} {x : World ι × Bool} (h : linkOk r i o x = true) :
    LinkOk r i o x where
  terminal := by
    rintro rfl hset ⟨v, hv⟩
    have hset := (settled_iff x.1).2 hset
    simp only [linkOk, hset, hv, Option.any_some, Option.isSome_some, Bool.not_true,
      Bool.false_or, Bool.and_eq_true] at h
    exact (linked_iff _).1 h.1
  kept := by
    rintro rfl hl hafter
    have hl := (linked_iff _).2 hl
    have hafter : (x.1.db.expenses.view i).rows.any (fun e => e.receiptId = some r) = false := by
      rw [Bool.eq_false_iff]
      exact fun hc => hafter ((linked_iff _).1 hc)
    simp only [linkOk, hl, hafter, Bool.not_true, Bool.false_or, Bool.and_eq_true,
      Bool.or_eq_true] at h
    rcases h.2 with hdel | ⟨hnone, hset⟩
    · obtain ⟨y, hy, hnone⟩ := (Option.any_eq_true _ _).1 hdel
      exact Or.inl (hy.trans (congrArg some (Option.isNone_iff_eq_none.1 hnone)))
    · exact Or.inr ⟨Option.isNone_iff_eq_none.1 hnone, (settled_iff x.1).1 hset⟩
  unused := by
    rintro v rfl rfl
    simpa [linkOk] using h

/-- The history machine answers as the backend does. -/
theorem exec_remembering {x x' : World ι × Bool} {i : ι} {o : Op} {a : Except PyExc o.Res}
    (h : (remembering env r).exec i o x = some (a, x')) :
    ∃ w', exec env i o x.1 = some (a, w') ∧ x' = (w', x.2 || commitsDeletion r i o x.1) := by
  obtain ⟨⟨a', w'⟩, hx, heq⟩ := Option.map_eq_some_iff.1 h
  cases heq
  exact ⟨w', hx, rfl⟩

/-- The session that commits a deletion has the receipt's row to itself. -/
theorem Drafting.not_staged {g : ι → Option UUID} {x : World ι × Bool} {i : ι} {o : Op}
    (h : Drafting r calls g x) (hdel : commitsDeletion r i o x.1 = true) (j : ι) (v : Receipt) :
    x.1.db.receipts.staged j r ≠ some (some v) := by
  intro hj
  have hi : x.1.db.receipts.staged i r = some none := by
    cases o with
    | commit =>
        cases hst : x.1.db.receipts.staged i r with
        | none =>
            rw [commitsDeletion, hst] at hdel
            cases hdel
        | some y =>
            rw [commitsDeletion, hst] at hdel
            rw [Option.isNone_iff_eq_none.1 hdel]
    | _ => cases hdel
  have heq : j = i := h.receipts j i r (by rw [hj]; rfl) (by rw [hi]; rfl)
  rw [heq, hi] at hj
  cases hj

/-- A receipt with a staged write is there, once one with its identifier was deleted. -/
theorem Drafting.present_step {g : ι → Option UUID} {x : World ι × Bool} {w' : World ι} {i : ι}
    {o : Op} {a : Except PyExc o.Res} (h : Drafting r calls g x) (hok : LinkOk r i o x)
    (hx : exec env i o x.1 = some (a, w')) (hgone : (x.2 || commitsDeletion r i o x.1) = true)
    (j : ι) (v : Receipt) (hv : w'.db.receipts.staged j r = some (some v)) :
    (w'.db.receipts.committed.get r).isSome := by
  have hpre : ∀ j v, x.1.db.receipts.staged j r = some (some v) →
      (x.1.db.receipts.committed.get r).isSome := by
    intro j v hst
    rw [Bool.or_eq_true] at hgone
    rcases hgone with hgone | hdel
    · exact h.present hgone j v hst
    · exact absurd hst (h.not_staged hdel j v)
  by_cases hj : j = i
  · subst hj
    refine exec_db (I := fun db => db.receipts.staged j r = some (some v) →
      (db.receipts.committed.get r).isSome) (fun db _ hst => ?_) (fun db _ hst => ?_) hx
      (fun s b db ho hs => ?_) (hpre j v) hv
    · have hnone : (db.commit j).receipts.staged j r = none :=
        (Store.staged_commit _ _ _ _).trans (if_pos rfl)
      rw [hnone] at hst
      cases hst
    · have hnone : (db.rollback j).receipts.staged j r = none :=
        (Store.staged_rollback _ _ _ _).trans (if_pos rfl)
      rw [hnone] at hst
      cases hst
    · subst ho
      rcases Stmt.exec_receipts hs with heq | hw
      · rw [heq]
        exact hpre j v
      · generalize db.receipts = st at hw
        intro hst
        cases hw with
        | insert u hlock hnew hfree =>
            rw [Store.staged_stage] at hst
            split at hst
            · rename_i hc
              rw [hok.unused u rfl hc.2] at hgone
              cases hgone
            · exact hpre j v hst
        | update id cols u u' hget hlock hstore =>
            rw [Store.staged_stage] at hst
            split at hst
            · rename_i hc
              have hid : id = r := (Table.key_of_get hget).symm.trans hc.2
              rw [hid, Store.get_view] at hget
              cases hs : x.1.db.receipts.staged j r with
              | none =>
                  rw [hs, Option.getD_none] at hget
                  rw [Store.committed_stage, hget]
                  rfl
              | some y =>
                  rw [hs, Option.getD_some] at hget
                  exact hpre j u (hget ▸ hs)
            · exact hpre j v hst
        | delete id u hget hlock =>
            rw [Store.staged_stage] at hst
            split at hst
            · cases hst
            · exact hpre j v hst
  · rw [exec_staged_of_ne hx hj] at hv
    rcases exec_committed_receipts hx with heq | ⟨-, -, heq⟩
    · rw [heq]
      exact hpre j v hv
    · rw [heq, h.receipts.get_commit_of_staged (Ne.symm hj) (by rw [hv]; rfl)]
      exact hpre j v hv

/-- What is committed under a row stays while another session moves. -/
theorem Drafting.expenses_kept {g : ι → Option UUID} {x : World ι × Bool} {w' : World ι} {i j : ι}
    {o : Op} {a : Except PyExc o.Res} (h : Drafting r calls g x) (hx : exec env i o x.1 = some (a, w'))
    (hj : j ≠ i) (k : UUID) (hst : (x.1.db.expenses.staged j k).isSome) :
    w'.db.expenses.committed.get k = x.1.db.expenses.committed.get k := by
  rcases exec_committed hx with hsame | ⟨-, -, hsame⟩
  · rw [hsame.expenses]
  · rw [hsame.expenses]
    exact h.expenses.get_commit_of_staged (Ne.symm hj) hst

/-- **One operation** keeps what the sessions may have staged. -/
theorem Drafting.step {g : ι → Option UUID} {x : World ι × Bool} {w' : World ι} {i : ι} {o : Op}
    {a : Except PyExc o.Res} (h : Drafting r calls g x) (hguar : (calls i).MayDraft (g i) o)
    (hok : LinkOk r i o x) (hx : exec env i o x.1 = some (a, w')) :
    Drafting r calls (Function.update g i (nextDraft (g i) o a))
      (w', x.2 || commitsDeletion r i o x.1) := by
  have hkeeps : KeepsLinks o := by
    cases o with
    | sql s =>
        cases s with
        | updateExpense id cols =>
            unfold PipelineCall.MayDraft at hguar
            split at hguar
            · exact hguar.elim
            · exact hguar
        | _ => trivial
    | _ => trivial
  refine ⟨exec_exclusive hx h.receipts, exec_exclusiveExpenses hx h.expenses,
    exec_uniqueExpenses hx hkeeps h.unique, fun j hc => ?_, fun j hc => ?_,
    fun hgone j v hv => h.present_step hok hx hgone j v hv⟩
  · by_cases hj : j = i
    · subst hj
      rw [Function.update_self]
      rw [PipelineCall.MayDraft, if_pos hc] at hguar
      exact (h.creating j hc).step hguar hx
    · rw [Function.update_of_ne hj]
      exact (h.creating j hc).mono (exec_staged_of_ne hx hj) (exec_staged_expenses_of_ne hx hj)
        (exec_failed_of_ne hx hj) (h.expenses_kept hx hj)
  · by_cases hj : j = i
    · subst hj
      rw [PipelineCall.MayDraft, if_neg (by rw [hc]; exact Bool.false_ne_true)] at hguar
      exact (h.linking j hc).step hguar hx
    · exact (h.linking j hc).mono (exec_staged_expenses_of_ne hx hj) (h.expenses_kept hx hj)

/-- The end of a call. -/
theorem Drafting.close {g : ι → Option UUID} {x : World ι × Bool} (h : Drafting r calls g x)
    (i : ι) : Drafting r calls (Function.update g i none) (x.1.close i, x.2) := by
  have hnone : ∀ k, (x.1.close i).db.expenses.staged i k = none :=
    fun k => (Store.staged_rollback _ _ _ _).trans (if_pos rfl)
  have hexp : ∀ {j}, j ≠ i → ∀ k, (x.1.close i).db.expenses.staged j k =
      x.1.db.expenses.staged j k :=
    fun hj k => (Store.staged_rollback _ _ _ _).trans (if_neg hj)
  have hrec : ∀ {j}, j ≠ i → ∀ k, (x.1.close i).db.receipts.staged j k =
      x.1.db.receipts.staged j k :=
    fun hj k => (Store.staged_rollback _ _ _ _).trans (if_neg hj)
  refine ⟨h.receipts.rollback i, h.expenses.rollback i, h.unique.rollback i, fun j hc => ?_,
    fun j hc => ?_, fun hgone j v hv => ?_⟩
  · by_cases hj : j = i
    · subst hj
      rw [Function.update_self]
      exact Creating.of_none hnone
    · rw [Function.update_of_ne hj]
      exact (h.creating j hc).mono (hrec hj) (hexp hj) (if_neg hj) (fun _ _ => rfl)
  · by_cases hj : j = i
    · subst hj
      exact Linking.of_none hnone
    · exact (h.linking j hc).mono (hexp hj) (fun _ _ => rfl)
  · by_cases hj : j = i
    · subst hj
      have hst : (x.1.close j).db.receipts.staged j r = none :=
        (Store.staged_rollback _ _ _ _).trans (if_pos rfl)
      rw [hst] at hv
      cases hv
    · rw [hrec hj] at hv
      exact h.present hgone j v hv

/-- **What the sessions may have staged is kept in every run** whose steps are as assumed. -/
theorem keeps_drafting :
    (remembering env r : Machine ι Op.Res PyExc (World ι × Bool) Empty).Keeps (Drafting r calls)
      (fun i => (calls i).MayDraft) (fun _ q o a q' => q' = nextDraft q o a)
      (fun _ _ (_ : Unit) => True) (fun _ _ _ => True) (LinkOk r) True where
  step := by
    intro g x i o a x' h hguar hok hx
    obtain ⟨w', hexec, rfl⟩ := exec_remembering hx
    exact ⟨_, rfl, h.step hguar hok hexec⟩
  ret := fun h _ => ⟨none, trivial, h.close _⟩
  raise := fun h _ => ⟨none, trivial, h.close _⟩
  kill := fun _ h => ⟨none, trivial, h.close _⟩
  event := fun {_ _ e} _ => e.elim

/-- A session that commits an expense of the receipt it has created finds none there, and
has staged a write of the receipt. -/
theorem Drafting.created {g : ι → Option UUID} {x : World ι × Bool} {i : ι} {k : UUID} {e : Expense}
    (h : Drafting r calls g x) (hnone : x.1.db.expenses.committed.get k = none)
    (hst : x.1.db.expenses.staged i k = some (some e)) (hr : e.receiptId = some r) :
    ¬Linked r x.1.db.expenses.committed ∧ ∃ v, x.1.db.receipts.staged i r = some (some v) := by
  cases hc : (calls i).creates with
  | true =>
      have hcreating := h.creating i hc
      obtain ⟨-, e', he', hg⟩ := hcreating.drafts k _ hst
      cases he'
      refine ⟨?_, (hcreating.marked r (hg r hr)).1⟩
      rintro ⟨k', u, hu, hur⟩
      -- the index admits two rows only if this session has overwritten the other one
      have hsome := h.unique.covers hst hr hu hur
      obtain ⟨y, hy⟩ := Option.isSome_iff_exists.1 hsome
      rw [(hcreating.drafts k' y hy).1] at hu
      cases hu
  | false =>
      obtain ⟨u, hu, -⟩ := h.linking i hc k e hst hr
      rw [hnone] at hu
      cases hu

/-- **A receipt that has had its expense gets no other one** by any operation. -/
theorem Spent.step {g : ι → Option UUID} {x : World ι × Bool} {w' : World ι} {i : ι} {o : Op}
    {a : Except PyExc o.Res} (hs : Spent r x) (h : Drafting r calls g x) (hok : LinkOk r i o x)
    (hx : exec env i o x.1 = some (a, w')) :
    expensesCreated r x.1 w' = [] ∧ Spent r (w', x.2 || commitsDeletion r i o x.1) := by
  rcases exec_committed hx with hsame | ⟨rfl, -, hsame⟩
  · refine ⟨expensesCreated_of_same hsame.expenses, ?_⟩
    unfold Spent Settled
    rw [hsame.expenses, hsame.receipts]
    rcases hs with hl | hset | ⟨hnone, hgone⟩
    · exact Or.inl hl
    · exact Or.inr (Or.inl hset)
    · exact Or.inr (Or.inr ⟨hnone, by rw [hgone]; rfl⟩)
  · have hexp : w'.db.expenses.committed = x.1.db.expenses.view i := hsame.expenses
    have hrec : w'.db.receipts.committed.get r =
        (x.1.db.receipts.staged i r).getD (x.1.db.receipts.committed.get r) := by
      rw [hsame.receipts]
      exact Store.get_commit _ _ _
    constructor
    · rw [List.eq_nil_iff_forall_not_mem]
      intro k hk
      obtain ⟨hnone, e, he, hr⟩ := mem_expensesCreated hk
      have hst : x.1.db.expenses.staged i k = some (some e) := by
        rw [hexp, Store.get_view, hnone] at he
        cases hst : x.1.db.expenses.staged i k with
        | none =>
            rw [hst] at he
            cases he
        | some y =>
            rw [hst] at he
            exact congrArg some he
      obtain ⟨hfree, v, hv⟩ := h.created hnone hst hr
      rcases hs with hl | hset | ⟨habsent, hgone⟩
      · exact hfree hl
      · exact hfree (hok.terminal rfl hset ⟨v, hv⟩)
      · have hthere := h.present hgone i v hv
        rw [habsent] at hthere
        cases hthere
    · unfold Spent Settled
      rw [hexp, hrec]
      have hdeletes : x.1.db.receipts.staged i r = some none →
          (x.2 || commitsDeletion r i .commit x.1) = true := by
        intro hst
        rw [Bool.or_eq_true]
        exact Or.inr (by rw [commitsDeletion, hst]; rfl)
      by_cases hafter : Linked r (x.1.db.expenses.view i)
      · exact Or.inl hafter
      · refine Or.inr ?_
        by_cases hbefore : Linked r x.1.db.expenses.committed
        · rcases hok.kept rfl hbefore hafter with hst | ⟨hst, hset⟩
          · exact Or.inr ⟨by rw [hst]; rfl, hdeletes hst⟩
          · exact Or.inl (by rw [hst]; exact hset)
        · cases hst : x.1.db.receipts.staged i r with
          | none =>
              rcases hs.resolve_left hbefore with hset | ⟨habsent, hgone⟩
              · exact Or.inl hset
              · exact Or.inr ⟨habsent, by rw [hgone]; rfl⟩
          | some y =>
              cases y with
              | none => exact Or.inr ⟨rfl, hdeletes hst⟩
              | some v =>
                  rcases hs.resolve_left hbefore with hset | ⟨habsent, hgone⟩
                  · exact absurd (hok.terminal rfl hset ⟨v, hst⟩) hbefore
                  · have hthere := h.present hgone i v hst
                    rw [habsent] at hthere
                    cases hthere

/-- A call creates expenses of marked receipts only; other calls link none. -/
theorem follows_drafts (env : Env) (readers : Readers) (call : PipelineCall)
    (hother : ∀ p, call = .other p → Unlinking p) :
    (call.run env readers).Follows call.MayDraft (fun q o a q' => q' = nextDraft q o a)
      (fun _ _ => True) (fun _ _ => True) none := by
  have hunlinking : ∀ {p : Service Unit}, call.creates = false → Unlinking p →
      p.Follows call.MayDraft (fun q o a q' => q' = nextDraft q o a) (fun _ _ => True)
        (fun _ _ => True) none := by
    intro p hc hp
    refine hp.follows (fun q o ho => ?_) (fun _ _ _ _ _ => trivial) (fun _ _ _ => trivial)
      (fun _ _ _ => trivial)
    rw [PipelineCall.MayDraft, if_neg (by rw [hc]; exact Bool.false_ne_true)]
    exact ho
  cases call with
  | categorise id => exact drafts_categoriseReceipt env id
  | process id => exact hunlinking rfl (receiptsOnly_processReceipt env readers id).unlinking
  | retry userId id =>
      exact hunlinking rfl (Unlinking.bind (receiptsOnly_retryReceipt env userId id).unlinking
        (fun _ => Unlinking.ret))
  | other p => exact hunlinking rfl (hother p rfl)

/-- The calls and the state they start from. -/
def expensePipeline (env : Env) (readers : Readers) (calls : ι → PipelineCall) (w : World ι) :
    Config ι Op.Res PyExc Unit (World ι × Bool) :=
  ⟨fun i => (calls i).run env readers, (w, false)⟩

/-- The expenses of the receipt that the table has. -/
def expensesOf (r : UUID) (w : World ι) : List UUID :=
  (w.db.expenses.committed.rows.filter (fun e => e.receiptId = some r)).map Expense.id

/-- **A receipt gives rise to at most one expense**, in every run whose steps are as
assumed: the ones it starts with and the ones ever inserted are at most one. -/
theorem oneExpense_run {readers : Readers} {w : World ι} {as : List (Machine.Action ι Empty)}
    (hreceipts : w.db.receipts.pending = []) (hexpenses : w.db.expenses.pending = [])
    (hunique : ∀ u ∈ w.db.expenses.committed.rows, ∀ v ∈ w.db.expenses.committed.rows, ∀ x,
      u.receiptId = some x → v.receiptId = some x → u = v)
    (hother : ∀ i p, calls i = .other p → Unlinking p)
    (hsteps : (remembering env r).Along (Machine.OpOk (LinkOk r) True)
      (expensePipeline env readers calls w) as) :
    (expensesOf r w ++ (remembering env r).produced (fun x x' => expensesCreated r x.1 x'.1)
      (expensePipeline env readers calls w) as).length ≤ 1 := by
  have hstart : Machine.Followed (Drafting r calls) (fun i => (calls i).MayDraft)
      (fun _ q o a q' => q' = nextDraft q o a) (fun _ _ _ => True) (fun _ _ _ => True)
      (expensePipeline env readers calls w) := by
    have hnone : ∀ i k, w.db.expenses.staged i k = none := by
      intro i k
      rw [Store.eq_ofTable hexpenses]
      rfl
    refine ⟨fun _ => none, ⟨?_, ?_, ?_, fun i _ => Creating.of_none (hnone i),
      fun i _ => Linking.of_none (hnone i), fun hgone => (nomatch hgone)⟩,
      fun i => follows_drafts env readers (calls i) (hother i)⟩
    · show w.db.receipts.Exclusive
      rw [Store.eq_ofTable hreceipts]
      exact Store.exclusive_ofTable _
    · show w.db.expenses.Exclusive
      rw [Store.eq_ofTable hexpenses]
      exact Store.exclusive_ofTable _
    · exact Store.uniqueOn_of_pending_nil hexpenses hunique
  -- an action inserts an expense of the receipt only by an operation
  have hcases : ∀ (c : Config ι Op.Res PyExc Unit (World ι × Bool)) (a : Machine.Action ι Empty),
      Machine.OpOk (LinkOk r) True c a → ∀ g, Drafting r calls g c.shared →
      (Spent r c.shared → expensesCreated r c.shared.1 ((remembering env r).act c a).shared.1 = [] ∧
        Spent r ((remembering env r).act c a).shared) ∧
      (expensesCreated r c.shared.1 ((remembering env r).act c a).shared.1 ≠ [] →
        Spent r ((remembering env r).act c a).shared) := by
    intro c a hok g hg
    refine ⟨fun hs => ?_, fun hne => ?_⟩
    · rcases Machine.act_cases (remembering env r) c a with
        hsh | ⟨i, hsh⟩ | ⟨e, -⟩ | ⟨i, o, k, b, x', rfl, hp, hx, hsh⟩
      · rw [hsh]
        exact ⟨expensesCreated_of_same rfl, hs⟩
      · rw [hsh]
        exact ⟨expensesCreated_of_same rfl, hs⟩
      · exact e.elim
      · obtain ⟨w', hexec, rfl⟩ := exec_remembering hx
        rw [hsh]
        exact hs.step hg (hok o k hp) hexec
    · obtain ⟨k, hk⟩ := List.exists_mem_of_ne_nil _ hne
      obtain ⟨-, e, he, hr⟩ := mem_expensesCreated hk
      exact Or.inl ⟨k, e, he, hr⟩
  have hspent : ∀ (c : Config ι Op.Res PyExc Unit (World ι × Bool)) (a : Machine.Action ι Empty),
      Machine.OpOk (LinkOk r) True c a → Machine.Followed (Drafting r calls)
        (fun i => (calls i).MayDraft) (fun _ q o a q' => q' = nextDraft q o a) (fun _ _ _ => True)
        (fun _ _ _ => True) c → Spent r c.shared →
      expensesCreated r c.shared.1 ((remembering env r).act c a).shared.1 = [] ∧
        Spent r ((remembering env r).act c a).shared := by
    rintro c a hok ⟨g, hg, -⟩ hs
    exact (hcases c a hok g hg).1 hs
  rw [List.length_append]
  by_cases hempty : expensesOf r w = []
  · rw [hempty, List.length_nil, Nat.zero_add]
    refine Machine.length_produced_le_one (P := Spent r)
      (fun c a hok hc => keeps_drafting.act c a hok hc) hspent (fun c a hok hc => ?_) hsteps hstart
    by_cases hnil : expensesCreated r c.shared.1 ((remembering env r).act c a).shared.1 = []
    · exact Or.inl hnil
    · have hindexed : ((remembering env r).act c a).shared.1.db.expenses.UniqueOn
          Expense.receiptId := by
        obtain ⟨g, hg, -⟩ := keeps_drafting.act c a hok hc
        exact hg.unique
      obtain ⟨g, hg, -⟩ := hc
      refine Or.inr ⟨?_, (hcases c a hok g hg).2 hnil⟩
      have hle := length_expensesCreated_le (r := r) (w := c.shared.1) hindexed
      have hpos := List.length_pos_iff.2 hnil
      omega
  · obtain ⟨k, hk⟩ := List.exists_mem_of_ne_nil _ hempty
    obtain ⟨e, he, rfl⟩ := List.mem_map.1 hk
    rw [List.mem_filter, decide_eq_true_eq] at he
    have hlinked : Spent r (expensePipeline env readers calls w).shared :=
      Or.inl ⟨_, e, Table.get_of_mem he.1, he.2⟩
    rw [Machine.produced_eq_nil (fun c a hok hc => keeps_drafting.act c a hok hc) hspent hsteps
      hstart hlinked, List.length_nil, Nat.add_zero, expensesOf, List.length_map]
    have hindexed : w.db.expenses.UniqueOn Expense.receiptId :=
      Store.uniqueOn_of_pending_nil hexpenses hunique
    exact hindexed.length_filter_le (fun e he => of_decide_eq_true he)

end once

/-! ## A deleted expense comes back -/

/-- Surroundings in which images open and have no text. -/
def Env.reading : Env :=
  { Env.quiet with
    external := fun _ x =>
      match x with
      | .imageOpen _ => .ok ⟨"RGB", []⟩
      | .imageConvert img mode => .ok { img with mode := mode }
      | .runTesseract _ => .ok ⟨"", 90⟩
      | _ => .error .httpError }

/-- The database with a receipt that has been parsed, and its blob. -/
def parsedWorld (ι : Type) : World ι :=
  { uploadedWorld ι with
    db := { (uploadedWorld ι).db with
      receipts := Store.ofTable ⟨[{ sampleReceipt with status := .parsed }], by decide⟩ }
    blobs := [(sampleReceipt.storageKey, [255, 216, 255, 224])] }

/-- A categorisation, and its redelivery. -/
def categorisedTwice : Fin 2 → PipelineCall := fun _ => .categorise 1005

/-- The redelivery finds the expense. -/
theorem oneExpense_run_sample :
    (expensesOf 1005 (parsedWorld (Fin 2)) ++
      (remembering Env.reading 1005).produced (fun x x' => expensesCreated 1005 x.1 x'.1)
        (expensePipeline Env.reading blindReaders categorisedTwice (parsedWorld (Fin 2)))
        (List.replicate 9 (.step 0) ++ List.replicate 4 (.step 1))).length ≤ 1 := by
  have hpasses : (remembering Env.reading 1005).passes (linkOk 1005)
      (expensePipeline Env.reading blindReaders categorisedTwice (parsedWorld (Fin 2)))
      (List.replicate 9 (.step 0) ++ List.replicate 4 (.step 1)) = true := by
    decide +kernel
  exact oneExpense_run rfl rfl (by rintro u ⟨⟩) (by rintro i p ⟨⟩)
    (Machine.along_of_passes (fun _ _ _ => LinkOk.of_test) hpasses)

/-- A categorisation, the deletion of its expense by the user, a redelivery of the finished
`process_receipt`, and the categorisation it starts. -/
def deletedExpense : Fin 4 → PipelineCall
  | 0 => .categorise 1005
  | 1 => .other (deleteExpense Env.reading 7 1005 none)
  | 2 => .process 1005
  | 3 => .categorise 1005

/-- The expense the user has deleted is created again. -/
theorem not_oneExpense_deleted :
    (∀ i p, deletedExpense i = .other p → Unlinking p) ∧
      ¬(expensesOf 1005 (parsedWorld (Fin 4)) ++
        (remembering Env.reading 1005).produced (fun x x' => expensesCreated 1005 x.1 x'.1)
          (expensePipeline Env.reading blindReaders deletedExpense (parsedWorld (Fin 4)))
          (List.replicate 9 (.step 0) ++ List.replicate 4 (.step 1) ++
            List.replicate 10 (.step 2) ++ List.replicate 9 (.step 3))).length ≤ 1 := by
  refine ⟨fun i p h => ?_, by decide +kernel⟩
  match i with
  | 0 => cases h
  | 1 =>
      cases h
      exact unlinking_deleteExpense Env.reading 7 1005 none
  | 2 => cases h
  | 3 => cases h

end SpendLens
