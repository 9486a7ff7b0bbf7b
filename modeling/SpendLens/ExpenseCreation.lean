/-
# The expense and the status of a receipt

Whatever the workers and the retries of a receipt do to each other, it has one expense at
most, no step of the pipeline touches an expense that is there, and the commit by which
`categorise_receipt` makes the receipt `CATEGORISED` has the expense in it or behind it.

A categorisation goes through the stages of `Draft`: it reads, it finds an expense or writes
the receipt first and the expense after it, and it commits.  What the session has staged at
each stage is `Drafted`; nothing is committed between the two writes.
-/
import SpendLens.ReceiptExpense

namespace SpendLens

namespace ExpenseCreation

/-! ## The stages of a categorisation -/

/-- What a categorisation has seen or written since its transaction began. -/
inductive Draft where
  /-- It has written nothing. -/
  | reading
  /-- It has found an expense of the receipt. -/
  | linked (id : UUID)
  /-- It has written the receipt, whose expense is still to come. -/
  | marked (id : UUID)
  /-- It has written both. -/
  | drafted (id : UUID)
  deriving DecidableEq

/-- How an answer moves a categorisation. -/
def Draft.next : Draft → (o : Op) → Except PyExc o.Res → Draft
  | .reading, .sql (.selectExpenses _ _), .ok [e] => e.receiptId.elim .reading .linked
  | .reading, .sql (.updateReceipt id _), .ok _ => .marked id
  | .marked id, .sql (.insertExpense _), .ok _ => .drafted id
  | _, .sql _, .error _ => .reading
  | _, .commit, _ => .reading
  | q, _, _ => q

/-- What a categorisation may ask for: it writes a receipt whose expense it has found, or it
writes a receipt and inserts its expense before anything else. -/
def MayDraft : Draft → Op → Prop
  | q, .sql (.updateReceipt id _) => q = .reading ∨ q = .linked id
  | q, .sql (.insertExpense e) => ∃ id, q = .marked id ∧ e.receiptId = some id
  | q, .commit => ∀ id, q ≠ .marked id
  | _, .sql (.insertReceipt _) => False
  | _, .sql (.deleteReceipt _) => False
  | _, .sql (.updateExpense _ _) => False
  | _, .sql (.deleteExpense _) => False
  | _, .rollback => False
  | _, _ => True

/-- How a categorisation goes on. -/
def NextDraft (q : Draft) (o : Op) (r : Except PyExc o.Res) (q' : Draft) : Prop :=
  q' = q.next o r ∧ SoundRows o r

/-- A program that follows the stages. -/
abbrev Drafting {α : Type} (q : Draft) (p : Service α) (post : Draft → α → Prop) : Prop :=
  p.Follows MayDraft NextDraft post (fun _ _ => True) q

section drafting

variable {α β : Type} {q : Draft} {post : Draft → α → Prop}

theorem Drafting.ret {a : α} (h : post q a) : Drafting q (.ret a) post :=
  (Prog.follows_ret a).2 h

theorem Drafting.raise {e : PyExc} : Drafting q (.raise e) post :=
  (Prog.follows_raise e).2 trivial

theorem Drafting.bind {p : Service α} {f : α → Service β} {post' : Draft → β → Prop}
    (hp : Drafting q p post) (hf : ∀ q' a, post q' a → Drafting q' (f a) post') :
    Drafting q (p.bind f) post' :=
  Prog.Follows.bind (hp.mono hf (fun _ _ h => h))

/-- An operation in front of what it is needed for. -/
theorem Drafting.step {o : Op} {f : o.Res → Service α} (hmay : MayDraft q o)
    (hok : ∀ a, SoundRows o (.ok a) → Drafting (q.next o (.ok a)) (f a) post) :
    Drafting q ((Prog.perform o).bind f) post := by
  refine (Prog.follows_call o _).2 ⟨hmay, fun r q' h => ?_⟩
  obtain ⟨rfl, hsound⟩ := h
  cases r with
  | ok a => exact hok a hsound
  | error e => exact Drafting.raise

/-- The last operation. -/
theorem Drafting.perform {o : Op} (hmay : MayDraft q o) :
    Drafting q (Prog.perform o) (fun _ _ => True) :=
  Prog.Follows.perform hmay (fun _ _ _ => trivial) (fun _ _ _ => trivial)

/-- Consulting the corrections moves nothing. -/
theorem Drafting.consults {p : Service α} (hp : Consults p) :
    Drafting .reading p (fun q' _ => q' = .reading) := by
  induction p with
  | ret a => exact Drafting.ret rfl
  | raise e => exact Drafting.raise
  | call o k ih =>
      have hp := (Prog.respects_call o k).1 hp
      refine (Prog.follows_call o k).2 ⟨?_, fun r q' h => ?_⟩
      · cases o with
        | sql s => cases s <;> first | trivial | exact hp.1.elim
        | commit => exact hp.1.elim
        | rollback => exact hp.1.elim
        | _ => trivial
      · obtain ⟨rfl, -⟩ := h
        have hsame : Draft.next .reading o r = .reading := by
          cases o with
          | sql s => cases s <;> cases r <;> first | rfl | exact hp.1.elim
          | _ => cases r <;> rfl
        rw [hsame]
        exact ih r (hp.2 r trivial)

/-- **`categorise_receipt` writes the receipt with its expense**, found or inserted. -/
theorem drafting_categoriseReceipt (env : Env) (id : UUID) :
    Drafting .reading (categoriseReceipt env id) (fun _ _ => True) := by
  refine Drafting.step trivial (fun rows hrows => ?_)
  match rows with
  | [] => exact Drafting.ret trivial
  | _ :: _ :: _ => exact Drafting.raise
  | [v] =>
      have hv : v.id = id := by
        simpa using hrows v (List.mem_singleton_self v)
      refine Drafting.step trivial (fun linked hlinked => ?_)
      match linked with
      | _ :: _ :: _ => exact Drafting.raise
      | [e] =>
          have he : e.receiptId = some v.id := by
            rw [hv]
            simpa using hlinked e (List.mem_singleton_self e)
          have hnext : Draft.next .reading (.sql (.selectExpenses []
              (fun e => e.receiptId = some id))) (.ok [e]) = .linked v.id := by
            show e.receiptId.elim _ _ = _
            rw [he]
            rfl
          show Drafting (Draft.next .reading _ _) (if _ then _ else _) _
          rw [hnext]
          split
          · unfold saveColumns flushColumns
            dsimp only
            split
            · exact Drafting.perform (fun k hk => (nomatch hk))
            · exact Drafting.step (Or.inr rfl)
                (fun _ _ => Drafting.perform (fun k hk => (nomatch hk)))
          · exact Drafting.ret trivial
      | [] =>
          show Drafting .reading (if _ then _ else _) _
          split
          · exact Drafting.ret trivial
          · refine Drafting.bind (Drafting.consults ?_) ?_
            · exact Prog.Asks.mono (outsideDb_coercePayload env _) (fun _ => LeavesDb.consulting)
            rintro q ⟨merchant, amount, expenseDate⟩ rfl
            refine Drafting.bind (Drafting.consults
              (consults_categoriseJson env v.userId merchant)) ?_
            rintro q ⟨merchant, category⟩ rfl
            exact Drafting.step (Or.inl rfl) (fun _ _ => Drafting.step trivial (fun expenseId _ =>
              Drafting.step ⟨v.id, rfl, rfl⟩ (fun _ _ =>
                Drafting.perform (fun k hk => (nomatch hk)))))

end drafting

/-! ## What a categorisation has staged -/

section staged

variable {ι : Type} [DecidableEq ι] {env : Env} {w w' : World ι} {i : ι} {q : Draft}

/-- What a session has staged at a stage, and what it knows to be committed. -/
structure Drafted (w : World ι) (i : ι) (q : Draft) : Prop where
  failed : w.failed i = true → q = .reading
  receipts : ∀ k y, w.db.receipts.staged i k = some y →
    q = .linked k ∨ q = .marked k ∨ q = .drafted k
  expenses : ∀ k y, w.db.expenses.staged i k = some y → ∃ id, q = .drafted id
  found : ∀ id, q = .linked id → Linked id w.db.expenses.committed
  inserted : ∀ id, q = .drafted id →
    ∃ k e, w.db.expenses.staged i k = some (some e) ∧ e.receiptId = some id

/-- A session that has staged nothing. -/
theorem Drafted.of_none (hreceipts : ∀ k, w.db.receipts.staged i k = none)
    (hexpenses : ∀ k, w.db.expenses.staged i k = none) : Drafted w i .reading := by
  refine ⟨fun _ => rfl, fun k y hy => ?_, fun k y hy => ?_, fun _ h => (nomatch h),
    fun _ h => (nomatch h)⟩
  · rw [hreceipts] at hy
    cases hy
  · rw [hexpenses] at hy
    cases hy

/-- What stays while the session's own writes do. -/
theorem Drafted.mono (h : Drafted w i q)
    (hreceipts : ∀ k, w'.db.receipts.staged i k = w.db.receipts.staged i k)
    (hexpenses : ∀ k, w'.db.expenses.staged i k = w.db.expenses.staged i k)
    (hfailed : w'.failed i = w.failed i)
    (hlinked : ∀ id, Linked id w.db.expenses.committed → Linked id w'.db.expenses.committed) :
    Drafted w' i q := by
  refine ⟨fun hf => h.failed (hfailed ▸ hf), fun k y hy => h.receipts k y (hreceipts k ▸ hy),
    fun k y hy => h.expenses k y (hexpenses k ▸ hy), fun id hq => hlinked id (h.found id hq),
    fun id hq => ?_⟩
  obtain ⟨k, e, he, hr⟩ := h.inserted id hq
  exact ⟨k, e, (hexpenses k).trans he, hr⟩

section stmt

variable {now : Timestamp} {db : Db ι}

/-- A statement that writes neither receipts nor expenses. -/
theorem Drafted.of_frame {st : Stmt} (h : Drafted w i q) (hframe : st.Frame w.db db)
    (hreceipts : st.writesReceipts = false) (hexpenses : st.writesExpenses = false) :
    Drafted ({ w with db := db }.tick) i q := by
  have hr : db.receipts = w.db.receipts := hframe.receipts hreceipts
  have he : db.expenses = w.db.expenses := hframe.expenses hexpenses
  refine h.mono (fun k => ?_) (fun k => ?_) rfl (fun id hl => ?_)
  · show db.receipts.staged i k = _
    rw [hr]
  · show db.expenses.staged i k = _
    rw [he]
  · show Linked id db.expenses.committed
    rw [he]
    exact hl

/-- **Finding an expense**: the session has staged none, so a committed one is linked. -/
theorem Drafted.selectExpenses {params : List Param} {p : Expense → Bool} {a : List Expense}
    (h : Drafted w i q) (hf : w.failed i = false)
    (hs : (Stmt.selectExpenses params p).exec now i w.db = some (.ok a, db)) :
    Drafted ({ w with db := db }.tick) i (q.next (.sql (.selectExpenses params p)) (.ok a)) := by
  have hsame := h.of_frame (Stmt.exec_frame hs) rfl rfl
  match q, a with
  | .linked _, _ | .marked _, _ | .drafted _, _ => exact hsame
  | .reading, [] | .reading, _ :: _ :: _ => exact hsame
  | .reading, [e] =>
      show Drafted _ i (e.receiptId.elim .reading .linked)
      cases hr : e.receiptId with
      | none => exact hsame
      | some id =>
          show Drafted _ i (.linked id)
          refine ⟨fun hc => absurd (hf.symm.trans hc) Bool.false_ne_true, fun k y hy => ?_,
            fun k y hy => ?_, fun m hm => ?_, fun m hm => (nomatch hm)⟩
          · rcases hsame.receipts k y hy with hc | hc | hc <;> cases hc
          · obtain ⟨m, hc⟩ := hsame.expenses k y hy
            cases hc
          · cases hm
            simp only [Stmt.exec, Option.some.injEq, Prod.mk.injEq] at hs
            obtain ⟨hrows, rfl⟩ := hs
            have hin : e ∈ (w.db.expenses.view i).rows.filter p := by
              rw [← select_ok hrows]
              exact List.mem_singleton_self e
            have hget := Table.get_of_mem (List.mem_filter.1 hin).1
            rw [Store.get_view] at hget
            cases hst : w.db.expenses.staged i e.id with
            | none =>
                rw [hst] at hget
                exact ⟨e.id, e, hget, hr⟩
            | some y =>
                obtain ⟨m, hc⟩ := h.expenses e.id y hst
                cases hc

/-- **Writing the receipt**: it is the only one staged, and no expense is. -/
theorem Drafted.updateReceipt {id : UUID} {cols : List ReceiptColumn} {a : Unit}
    (h : Drafted w i q) (hmay : q = .reading ∨ q = .linked id) (hf : w.failed i = false)
    (hs : (Stmt.updateReceipt id cols).exec now i w.db = some (.ok a, db)) :
    Drafted ({ w with db := db }.tick) i (q.next (.sql (.updateReceipt id cols)) (.ok a)) := by
  have hexpenses : db.expenses = w.db.expenses := (Stmt.exec_frame hs).expenses rfl
  have hbefore : ∀ k y, w.db.receipts.staged i k = some y → k = id := by
    intro k y hy
    rcases hmay with rfl | rfl
    · rcases h.receipts k y hy with hc | hc | hc <;> cases hc
    · rcases h.receipts k y hy with hc | hc | hc <;> cases hc
      rfl
  have honly : ∀ k y, db.receipts.staged i k = some y → k = id := by
    intro k y hy
    rcases Stmt.exec_receipts hs with hsame | hwrite
    · rw [hsame] at hy
      exact hbefore k y hy
    · revert hy
      generalize db.receipts = s' at hwrite
      intro hy
      cases hwrite with
      | update _ _ v v' hget hlock hstore =>
          rw [Store.staged_stage] at hy
          split at hy
          · rename_i hc
            have hid : v.id = id := Table.key_of_get hget
            exact hc.2.symm.trans hid
          · exact hbefore k y hy
  have hnone : ∀ k y, db.expenses.staged i k = some y → False := by
    intro k y hy
    rw [hexpenses] at hy
    obtain ⟨m, hc⟩ := h.expenses k y hy
    rcases hmay with hq | hq <;> rw [hq] at hc <;> cases hc
  have hfailed : ∀ q' : Draft, w.failed i = true → q' = .reading :=
    fun q' hc => absurd (hf.symm.trans hc) Bool.false_ne_true
  rcases hmay with rfl | rfl
  · exact ⟨hfailed _, fun k y hy => Or.inr (Or.inl (by rw [honly k y hy]; rfl)),
      fun k y hy => (hnone k y hy).elim, by rintro m ⟨⟩, by rintro m ⟨⟩⟩
  · refine ⟨hfailed _, fun k y hy => Or.inl (by rw [honly k y hy]; rfl),
      fun k y hy => (hnone k y hy).elim, fun m hm => ?_, by rintro m ⟨⟩⟩
    show Linked m db.expenses.committed
    rw [hexpenses]
    exact h.found m hm

/-- **Inserting the expense** of the receipt that is written. -/
theorem Drafted.insertExpense {e : NewExpense} {a : Unit} {id : UUID} (h : Drafted w i (.marked id))
    (hid : e.receiptId = some id) (hf : w.failed i = false)
    (hs : (Stmt.insertExpense e).exec now i w.db = some (.ok a, db)) :
    Drafted ({ w with db := db }.tick) i (.drafted id) := by
  have hreceipts : db.receipts = w.db.receipts := (Stmt.exec_frame hs).receipts rfl
  refine ⟨fun hc => absurd (hf.symm.trans hc) Bool.false_ne_true, fun k y hy => ?_,
    fun k y hy => ⟨id, rfl⟩, fun _ hc => (nomatch hc), fun m hm => ?_⟩
  · have hy : db.receipts.staged i k = some y := hy
    rw [hreceipts] at hy
    rcases h.receipts k y hy with hc | hc | hc <;> cases hc
    exact Or.inr (Or.inr rfl)
  · cases hm
    simp only [Stmt.exec] at hs
    split at hs
    · cases hs
    · rename_i row hrow
      split at hs
      · obtain ⟨⟨x, s'⟩, hins, heq⟩ := Option.map_eq_some_iff.1 hs
        cases heq
        obtain ⟨-, -, -, rfl⟩ := insert_ok hins
        refine ⟨row.id, row, ?_, (NewExpense.store_ok hrow).2.1.trans hid⟩
        exact (Store.staged_stage _ _ _ _ _).trans (if_pos ⟨rfl, rfl⟩)
      · cases hs

/-- A statement that takes effect in a categorisation. -/
theorem Drafted.stmt {st : Stmt} {a : st.Res} (h : Drafted w i q) (hmay : MayDraft q (.sql st))
    (hf : w.failed i = false) (hs : st.exec now i w.db = some (.ok a, db)) :
    Drafted ({ w with db := db }.tick) i (q.next (.sql st) (.ok a)) := by
  have hframe := Stmt.exec_frame hs
  cases st with
  | selectExpenses params p => exact h.selectExpenses hf hs
  | updateReceipt id cols => exact h.updateReceipt hmay hf hs
  | insertExpense e =>
      obtain ⟨id, rfl, hid⟩ := hmay
      exact h.insertExpense hid hf hs
  | insertReceipt _ | deleteReceipt _ | updateExpense _ _ | deleteExpense _ => exact hmay.elim
  | _ =>
      have hsame := h.of_frame hframe rfl rfl
      cases q <;> exact hsame

end stmt

/-- **One operation** of a categorisation. -/
theorem Drafted.step {o : Op} {r : Except PyExc o.Res} (h : Drafted w i q) (hmay : MayDraft q o)
    (hx : exec env i o w = some (r, w')) : Drafted w' i (q.next o r) := by
  have hrolled : Drafted (w.abort i).tick i .reading := by
    refine Drafted.of_none (fun k => ?_) (fun k => ?_)
    · exact (Store.staged_rollback _ _ _ _).trans (if_pos rfl)
    · exact (Store.staged_rollback _ _ _ _).trans (if_pos rfl)
  have hsame : ∀ {v : World ι}, v.db = w.db → v.failed = w.failed → Drafted v i q := by
    intro v hdb hf
    exact h.mono (fun k => by rw [hdb]) (fun k => by rw [hdb]) (by rw [hf])
      (fun id hl => by rw [hdb]; exact hl)
  cases o with
  | sql st =>
      rcases exec_sql_cases hx with ⟨hf, rfl, rfl⟩ | ⟨-, ⟨e, rfl⟩, rfl⟩ | ⟨a, db, hf, rfl, hs, rfl⟩
      · have hq := h.failed hf
        subst hq
        cases st <;> exact hsame rfl rfl
      · cases q <;> cases st <;> exact hrolled
      · exact h.stmt hmay hf hs
  | commit =>
      have hnext : q.next .commit r = .reading := by
        cases q <;> cases r <;> rfl
      rw [hnext]
      rcases exec_commit_cases hx with ⟨hf, -, rfl⟩ | ⟨-, -, rfl⟩ | ⟨-, -, rfl⟩ | ⟨-, -, rfl⟩
      · rw [← h.failed hf]
        exact hsame rfl rfl
      · refine Drafted.of_none (fun k => ?_) (fun k => ?_)
        · exact (Store.staged_commit _ _ _ _).trans (if_pos rfl)
        · exact (Store.staged_commit _ _ _ _).trans (if_pos rfl)
      · exact hrolled
      · refine Drafted.of_none (fun k => ?_) (fun k => ?_)
        · exact (Store.staged_rollback _ _ _ _).trans (if_pos rfl)
        · exact (Store.staged_rollback _ _ _ _).trans (if_pos rfl)
  | rollback => exact hmay.elim
  | _ =>
      obtain ⟨hdb, hf⟩ := exec_outside hx (by simp) (by simp) (by simp)
      cases q <;> exact hsame hdb hf

end staged

/-! ## The expenses that are there -/

section runs

variable {ι : Type} [DecidableEq ι] {env : Env} {calls : ι → PipelineCall} {w w' : World ι}

/-- What the pipeline does to expenses: it inserts. -/
def Inserts : Op → Prop
  | .sql (.updateExpense _ _) => False
  | .sql (.deleteExpense _) => False
  | .sql (.deleteReceipt _) => False
  | _ => True

/-- What a call may ask for. -/
def MayAsk (call : PipelineCall) (q : Draft) (o : Op) : Prop :=
  if call.creates then MayDraft q o else OnReceipts o

theorem MayAsk.inserts {call : PipelineCall} {q : Draft} {o : Op} (h : MayAsk call q o) :
    Inserts o := by
  unfold MayAsk at h
  cases o with
  | sql s => cases s <;> first | trivial | (split at h <;> exact h.elim)
  | _ => trivial

/-- The expenses: no two sessions hold one, no two belong to one receipt, and what is staged
over a committed one is the same. -/
structure Kept (s : Store ι Expense UUID Expense.id) : Prop where
  exclusive : s.Exclusive
  unique : s.UniqueOn Expense.receiptId
  rising : s.Rising (· = ·)

/-- **Insertions touch no expense that is there.** -/
theorem Kept.step {i : ι} {o : Op} {r : Except PyExc o.Res} (h : Kept w.db.expenses)
    (hinserts : Inserts o) (hx : exec env i o w = some (r, w')) : Kept w'.db.expenses := by
  have hkeeps : KeepsLinks o := by
    cases o with
    | sql s => cases s <;> trivial
    | _ => trivial
  refine ⟨exec_exclusiveExpenses hx h.exclusive, exec_uniqueExpenses hx hkeeps h.unique, ?_⟩
  have hboth := exec_db (I := fun db => db.expenses.Exclusive ∧ db.expenses.Rising (· = ·))
    (fun db hdb => ⟨hdb.1.commit i, hdb.2.commit hdb.1 i⟩)
    (fun db hdb => ⟨hdb.1.rollback i, hdb.2.rollback i⟩) hx (fun st a db ho hs => ?_)
    ⟨h.exclusive, h.rising⟩
  · exact hboth.2
  · subst ho
    rcases Stmt.exec_expenses hs with hsame | hwrite
    · rw [hsame]
      exact ⟨h.exclusive, h.rising⟩
    · generalize db.expenses = s' at hwrite
      cases hwrite with
      | insert e row hrow hlock hnew hfree =>
          refine ⟨h.exclusive.stage hlock, h.rising.stage i (fun u hu => ?_)⟩
          -- a committed row would be seen
          obtain ⟨v, hv, -⟩ := h.rising.get_view i hu
          rw [hnew] at hv
          cases hv
      | update id cols v v' hget hlock hstore => exact hinserts.elim
      | delete id v hget hlock => exact hinserts.elim
      | unlink id linked hlinked hlock => exact hinserts.elim

/-- Committed expenses stay as they are. -/
theorem Kept.get_of_step {i : ι} {o : Op} {r : Except PyExc o.Res} (h : Kept w.db.expenses)
    (hx : exec env i o w = some (r, w')) {k : UUID} {e : Expense}
    (he : w.db.expenses.committed.get k = some e) : w'.db.expenses.committed.get k = some e := by
  rcases exec_committed hx with hsame | ⟨-, -, hsame⟩
  · rw [hsame.expenses]
    exact he
  · obtain ⟨v, hv, heq⟩ := h.rising.get_commit i he
    rw [hsame.expenses, show (w.db.commit i).expenses = w.db.expenses.commit i from rfl, hv]
    rcases heq with heq | heq <;> rw [heq]

/-! ## Runs -/

/-- Where the sessions are, and what the expenses are. -/
structure Creation (calls : ι → PipelineCall) (g : ι → Draft) (w : World ι) : Prop where
  kept : Kept w.db.expenses
  drafted : ∀ i, (calls i).creates = true → Drafted w i (g i)
  idle : ∀ i, (calls i).creates = false → ∀ k, w.db.expenses.staged i k = none

/-- **One operation** keeps where the sessions are. -/
theorem Creation.step {g : ι → Draft} {i : ι} {o : Op} {r : Except PyExc o.Res}
    (h : Creation calls g w) (hmay : MayAsk (calls i) (g i) o)
    (hx : exec env i o w = some (r, w')) :
    Creation calls (Function.update g i ((g i).next o r)) w' := by
  have hlinked : ∀ id, Linked id w.db.expenses.committed → Linked id w'.db.expenses.committed :=
    fun id ⟨k, e, he, hr⟩ => ⟨k, e, h.kept.get_of_step hx he, hr⟩
  refine ⟨h.kept.step hmay.inserts hx, fun j hj => ?_, fun j hj k => ?_⟩
  · by_cases hji : j = i
    · subst hji
      rw [MayAsk, if_pos hj] at hmay
      rw [Function.update_self]
      exact (h.drafted j hj).step hmay hx
    · rw [Function.update_of_ne hji]
      exact (h.drafted j hj).mono (exec_staged_of_ne hx hji) (exec_staged_expenses_of_ne hx hji)
        (exec_failed_of_ne hx hji) hlinked
  · by_cases hji : j = i
    · subst hji
      rw [MayAsk, if_neg (by rw [hj]; exact Bool.false_ne_true)] at hmay
      refine exec_db (I := fun db => db.expenses.staged j k = none)
        (fun db _ => (Store.staged_commit _ _ _ _).trans (if_pos rfl))
        (fun db _ => (Store.staged_rollback _ _ _ _).trans (if_pos rfl)) hx
        (fun st a db ho hs => ?_) (h.idle j hj k)
      subst ho
      have hwrites : st.writesExpenses = false := by
        cases st <;> first | rfl | exact hmay.elim
      rw [(Stmt.exec_frame hs).expenses hwrites]
      exact h.idle j hj k
    · rw [exec_staged_expenses_of_ne hx hji]
      exact h.idle j hj k

/-- The end of a session. -/
theorem Creation.close {g : ι → Draft} (h : Creation calls g w) (i : ι) :
    Creation calls (Function.update g i .reading) (w.close i) := by
  have hnone : ∀ k, (w.close i).db.expenses.staged i k = none :=
    fun k => (Store.staged_rollback _ _ _ _).trans (if_pos rfl)
  have hother : ∀ {j}, j ≠ i → ∀ k, (w.close i).db.expenses.staged j k =
      w.db.expenses.staged j k := fun hj k => (Store.staged_rollback _ _ _ _).trans (if_neg hj)
  refine ⟨⟨h.kept.exclusive.rollback i, h.kept.unique.rollback i, h.kept.rising.rollback i⟩,
    fun j hj => ?_, fun j hj k => ?_⟩
  · by_cases hji : j = i
    · subst hji
      rw [Function.update_self]
      exact Drafted.of_none (fun k => (Store.staged_rollback _ _ _ _).trans (if_pos rfl)) hnone
    · rw [Function.update_of_ne hji]
      exact (h.drafted j hj).mono (fun k => (Store.staged_rollback _ _ _ _).trans (if_neg hji))
        (hother hji) (if_neg hji) (fun _ hl => hl)
  · by_cases hji : j = i
    · subst hji
      exact hnone k
    · rw [hother hji]
      exact h.idle j hj k

/-- What one action does to the expenses and to the status of a receipt. -/
structure CreatesOnce (r : UUID) (calls : ι → PipelineCall) (w w' : World ι)
    (a : Machine.Action ι Empty) : Prop where
  /-- At most one expense belongs to the receipt. -/
  one : (expensesOf r w').length ≤ 1
  /-- No expense is changed. -/
  unchanged : ∀ k e, w.db.expenses.committed.get k = some e →
    w'.db.expenses.committed.get k = some e
  /-- The commit by which a categorisation makes the receipt `CATEGORISED` inserts its expense,
  or the expense is there. -/
  together : ∀ i id, a = .step i → calls i = .categorise id → ¬Settled r w → Settled r w' →
    Linked r w.db.expenses.committed ∨ ∃ k e, w.db.expenses.committed.get k = none ∧
      w'.db.expenses.committed.get k = some e ∧ e.receiptId = some r

/-- **The status is committed with the expense**, or after it. -/
theorem Creation.together {g : ι → Draft} {r : UUID} {i : ι} {o : Op}
    {a : Except PyExc o.Res} (h : Creation calls g w) (hcreates : (calls i).creates = true) (hmay : MayDraft (g i) o)
    (hx : exec env i o w = some (a, w')) (hbefore : ¬Settled r w) (hafter : Settled r w') :
    Linked r w.db.expenses.committed ∨ ∃ k e, w.db.expenses.committed.get k = none ∧
      w'.db.expenses.committed.get k = some e ∧ e.receiptId = some r := by
  obtain ⟨v, hv, hstatus⟩ := hafter
  rcases exec_committed hx with hsame | ⟨rfl, -, hsame⟩
  · rw [hsame.receipts] at hv
    exact absurd ⟨v, hv, hstatus⟩ hbefore
  · have hdrafted := h.drafted i hcreates
    have hget : (w.db.receipts.commit i).committed.get r = some v := by
      rw [← show (w.db.commit i).receipts = w.db.receipts.commit i from rfl, ← hsame.receipts]
      exact hv
    rw [Store.get_commit] at hget
    cases hst : w.db.receipts.staged i r with
    | none =>
        rw [hst] at hget
        exact absurd ⟨v, hget, hstatus⟩ hbefore
    | some y =>
        rcases hdrafted.receipts r y hst with hq | hq | hq
        · exact Or.inl (hdrafted.found r hq)
        · exact absurd hq (hmay r)
        · obtain ⟨k, e, he, hr⟩ := hdrafted.inserted r hq
          cases hk : w.db.expenses.committed.get k with
          | some u =>
              obtain ⟨x, hx, hux⟩ := h.kept.rising i k u (some e) hk he
              cases hx
              exact Or.inl ⟨k, u, hk, hux ▸ hr⟩
          | none =>
              refine Or.inr ⟨k, e, hk, ?_, hr⟩
              rw [hsame.expenses, show (w.db.commit i).expenses = w.db.expenses.commit i from rfl,
                Store.get_commit, he]
              rfl

/-- What the sessions have staged is kept in every run. -/
theorem keeps_creation :
    (backend env : Machine ι Op.Res PyExc (World ι) Empty).Keeps (Creation calls)
      (fun i => MayAsk (calls i)) (fun _ => NextDraft) (fun _ _ (_ : Unit) => True)
      (fun _ _ _ => True) (fun _ _ _ => True) True where
  step := by
    intro g w i o r w' h hmay _ hx
    exact ⟨_, ⟨rfl, exec_soundRows hx⟩, h.step hmay hx⟩
  ret := fun h _ => ⟨.reading, trivial, h.close _⟩
  raise := fun h _ => ⟨.reading, trivial, h.close _⟩
  kill := fun _ h => ⟨.reading, trivial, h.close _⟩
  event := fun {_ _ e} _ => e.elim

/-- Every call keeps to its stages; processing and retries write receipts only. -/
theorem follows_mayAsk (env : Env) (readers : Readers) {call : PipelineCall}
    (hcall : call.isOther = false) :
    (call.run env readers).Follows (MayAsk call) NextDraft (fun _ _ => True) (fun _ _ => True)
      .reading := by
  have honly : ∀ {p : Service Unit}, call.creates = false → ReceiptsOnly p →
      p.Follows (MayAsk call) NextDraft (fun _ _ => True) (fun _ _ => True) .reading := by
    intro p hc hp
    refine hp.follows (fun q o ho => ?_) (fun _ _ _ _ _ => trivial) (fun _ _ _ => trivial)
      (fun _ _ _ => trivial)
    rw [MayAsk, if_neg (by rw [hc]; exact Bool.false_ne_true)]
    exact ho
  cases call with
  | categorise id => exact drafting_categoriseReceipt env id
  | process id => exact honly rfl (receiptsOnly_processReceipt env readers id)
  | retry userId id =>
      exact honly rfl (Prog.Asks.bind (receiptsOnly_retryReceipt env userId id)
        (fun _ => Prog.Asks.ret))
  | other p => cases hcall

/-- The calls and the state they start from. -/
def executions (env : Env) (readers : Readers) (calls : ι → PipelineCall) (w : World ι) :
    Config ι Op.Res PyExc Unit (World ι) :=
  ⟨fun i => (calls i).run env readers, w⟩

/-- **At most one expense for a receipt, created with its status**: so every action of every run
of the pipeline, whatever its interleaving, its crashes and its failures. -/
theorem createsOnce_run {readers : Readers} {r : UUID} (as : List (Machine.Action ι Empty))
    (hreceipts : w.db.receipts.pending = []) (hexpenses : w.db.expenses.pending = [])
    (hunique : ∀ u ∈ w.db.expenses.committed.rows, ∀ v ∈ w.db.expenses.committed.rows, ∀ x,
      u.receiptId = some x → v.receiptId = some x → u = v)
    (hcalls : ∀ i, (calls i).isOther = false) :
    (expensesOf r w).length ≤ 1 ∧
      (backend env).Along
        (fun c a => CreatesOnce r calls c.shared ((backend env).act c a).shared a)
        (executions env readers calls w) as := by
  have hone : ∀ {v : World ι}, v.db.expenses.UniqueOn Expense.receiptId →
      (expensesOf r v).length ≤ 1 := by
    intro v hv
    rw [expensesOf, List.length_map]
    exact hv.length_filter_le (fun e he => of_decide_eq_true he)
  have hstart : Machine.Followed (Creation calls) (fun i => MayAsk (calls i)) (fun _ => NextDraft)
      (fun _ _ _ => True) (fun _ _ _ => True) (executions env readers calls w) := by
    have hr : ∀ i k, w.db.receipts.staged i k = none := by
      intro i k
      rw [Store.eq_ofTable hreceipts]
      rfl
    have he : ∀ i k, w.db.expenses.staged i k = none := by
      intro i k
      rw [Store.eq_ofTable hexpenses]
      rfl
    refine ⟨fun _ => .reading, ⟨⟨?_, Store.uniqueOn_of_pending_nil hexpenses hunique,
      Store.rising_of_pending_nil hexpenses⟩, fun i _ => Drafted.of_none (hr i) (he i),
      fun i _ => he i⟩, fun i => follows_mayAsk env readers (hcalls i)⟩
    show w.db.expenses.Exclusive
    rw [Store.eq_ofTable hexpenses]
    exact Store.exclusive_ofTable _
  have hok : (backend env).Along (Machine.OpOk (fun _ _ _ => True) True)
      (executions env readers calls w) as := by
    refine Machine.along_of_forall (fun c a => ?_) _ as
    cases a with
    | step i => exact fun _ _ _ => trivial
    | kill i => trivial
    | event e => trivial
  refine ⟨hone (Store.uniqueOn_of_pending_nil hexpenses hunique),
    Machine.along_of_step (fun c a hok hc => keeps_creation.act c a hok hc)
      (fun c a hok hc => ?_) hok hstart⟩
  obtain ⟨g', hcreation', -⟩ : Machine.Followed (Creation calls) (fun i => MayAsk (calls i))
    (fun _ => NextDraft) (fun _ _ _ => True) (fun _ _ _ => True) ((backend env).act c a) :=
      keeps_creation.act c a hok hc
  have hlast := hone hcreation'.kept.unique
  obtain ⟨g, hcreation, hfollows⟩ := hc
  have hclose : ∀ i, ((backend env).act c a).shared = c.shared.close i →
      CreatesOnce r calls c.shared ((backend env).act c a).shared a := by
    intro i hsh
    refine ⟨hlast, fun k e he => ?_, fun _ _ _ _ hbefore hset => ?_⟩
    · rw [hsh]
      exact he
    · rw [hsh] at hset
      exact absurd hset hbefore
  rcases Machine.act_cases (backend env) c a with
    hsh | ⟨i, hsh⟩ | ⟨e, -⟩ | ⟨i, o, k, x, w', rfl, hp, hx, hsh⟩
  · rw [hsh] at hlast ⊢
    exact ⟨hlast, fun _ _ he => he, fun _ _ _ _ hbefore hset => absurd hset hbefore⟩
  · exact hclose i hsh
  · exact e.elim
  · rw [hsh] at hlast ⊢
    refine ⟨hlast, fun _ _ he => hcreation.kept.get_of_step hx he, fun j id hj hcall => ?_⟩
    cases hj
    have hcreates : (calls i).creates = true := by
      rw [hcall]
      rfl
    have hfollow := hfollows i
    rw [hp, Prog.follows_call] at hfollow
    have hmay : MayAsk (calls i) (g i) o := hfollow.1
    rw [MayAsk, if_pos hcreates] at hmay
    exact hcreation.together hcreates hmay hx

end runs

/-- A worker, two racing categorisations and a retry of the user. -/
def racingTasks : Fin 4 → PipelineCall
  | 0 => .process 1005
  | 1 => .categorise 1005
  | 2 => .categorise 1005
  | 3 => .retry 7 1005

theorem createsOnce_run_sample :
    (expensesOf 1005 (uploadedWorld (Fin 4))).length ≤ 1 ∧
      (backend Env.reading).Along (fun c a => CreatesOnce 1005 racingTasks c.shared
          ((backend Env.reading).act c a).shared a)
        (executions Env.reading blindReaders racingTasks (uploadedWorld (Fin 4)))
        (List.replicate 10 (.step 0) ++ List.replicate 5 (.step 1) ++ List.replicate 9 (.step 2) ++
          List.replicate 5 (.step 1) ++ List.replicate 3 (.step 3)) := by
  refine createsOnce_run _ rfl rfl (fun u hu => (nomatch hu)) (fun i => ?_)
  match i with
  | 0 | 1 | 2 | 3 => rfl

end ExpenseCreation

end SpendLens
