/-
# Redelivered emails

The memory of which messages have been ingested is the receipts table itself: the
dedup read and the unique index both look for a row that carries the message.  As
long as no such row is deleted, one that is committed stays the only one, whatever
any other session does.  Deleting it is what forgets the message.
-/
import SpendLens.ConcurrentDelivery

namespace SpendLens

/-! ## A row for the message stays -/

section marked

variable {ι : Type} [DecidableEq ι] {env : Env} {m : UUID × String}

/-- No session is about to delete or to rename a row for the message. -/
structure Marked (m : UUID × String) (s : Store ι Receipt UUID Receipt.id) : Prop where
  unique : s.UniqueOn Receipt.messageKey
  exclusive : s.Exclusive
  stays : ∀ {k u t x}, s.committed.get k = some u → u.messageKey = some m →
    s.staged t k = some x → ∃ v, x = some v ∧ v.messageKey = some m

/-- The committed row with this key carries the message. -/
def Carries (m : UUID × String) (id : UUID) (s : Store ι Receipt UUID Receipt.id) : Prop :=
  ∃ u, s.committed.get id = some u ∧ u.messageKey = some m

theorem Marked.rollback {s : Store ι Receipt UUID Receipt.id} (h : Marked m s) (t : ι) :
    Marked m (s.rollback t) := by
  refine ⟨h.unique.rollback t, h.exclusive.rollback t, fun {k u t' x} hu hm hx => ?_⟩
  rw [Store.staged_rollback] at hx
  split at hx
  · cases hx
  · exact h.stays hu hm hx

theorem Marked.commit {s : Store ι Receipt UUID Receipt.id} (h : Marked m s) (t : ι) :
    Marked m (s.commit t) := by
  refine ⟨h.unique.commit t, h.exclusive.commit t, fun {k u t' x} hu hm hx => ?_⟩
  rw [Store.staged_commit] at hx
  split at hx
  · cases hx
  · rename_i hne
    -- the row is written by `t'`, so the commit of `t` has left it as it was
    have hsome : (s.staged t' k).isSome := by rw [hx]; rfl
    rw [h.exclusive.get_commit_of_staged (Ne.symm hne) hsome] at hu
    exact h.stays hu hm hx

/-- A committed row for the message is seen by every session. -/
theorem Marked.view {s : Store ι Receipt UUID Receipt.id} (h : Marked m s) {k : UUID} {u : Receipt}
    (t : ι) (hu : s.committed.get k = some u) (hm : u.messageKey = some m) :
    ∃ v, (s.view t).get k = some v ∧ v.messageKey = some m := by
  rw [Store.get_view]
  cases hx : s.staged t k with
  | none => exact ⟨u, hu, hm⟩
  | some x =>
      obtain ⟨v, rfl, hv⟩ := h.stays hu hm hx
      exact ⟨v, rfl, hv⟩

/-- A statement that deletes no committed row for the message keeps it. -/
theorem Marked.write {now : Timestamp} {t : ι} {db : Db ι} {stmt : Stmt}
    {s : Store ι Receipt UUID Receipt.id} (h : Marked m db.receipts)
    (hw : ReceiptWrite now t db stmt s)
    (hkept : ∀ id, stmt = .deleteReceipt id → ¬Carries m id db.receipts) : Marked m s := by
  cases hw with
  | insert r hlock hnew hfree =>
      refine ⟨h.unique.stage_of_free (fun v x hv hx => ?_), h.exclusive.stage hlock,
        fun {k u t' x} hu hm hx => ?_⟩
      · cases hv
        exact hfree x hx
      · rw [Store.staged_stage] at hx
        split at hx
        · rename_i hc
          obtain ⟨v, hv, -⟩ := h.view t hu hm
          have hk : r.id = k := hc.2
          rw [← hk, hnew] at hv
          cases hv
        · exact h.stays hu hm hx
  | update id cols v v' hget hlock hstore =>
      have hv : v.id = id := Table.key_of_get hget
      have hkey : ({ v' with id := v.id, updatedAt := now } : Receipt).messageKey = v.messageKey :=
        (storeAll_receipt hstore).2.1
      refine ⟨h.unique.stage_of_same (u := v) ?_ ?_ hkey, h.exclusive.stage ?_,
        fun {k u t' x} hu hm hx => ?_⟩
      · show db.receipts.locked t v.id = false
        rw [hv, hlock]
      · show (db.receipts.view t).get v.id = some v
        rw [hv, hget]
      · show db.receipts.locked t v.id = false
        rw [hv, hlock]
      · rw [Store.staged_stage] at hx
        split at hx
        · rename_i hc
          have hk : v.id = k := hc.2
          obtain ⟨u', hu', hm'⟩ := h.view t hu hm
          rw [← hk, hv, hget, Option.some.injEq] at hu'
          cases hx
          exact ⟨_, rfl, hkey.trans (hu' ▸ hm')⟩
        · exact h.stays hu hm hx
  | delete id v hget hlock =>
      refine ⟨h.unique.stage_none t rfl, h.exclusive.stage hlock, fun {k u t' x} hu hm hx => ?_⟩
      rw [Store.staged_stage] at hx
      split at hx
      · rename_i hc
        have hk : id = k := hc.2
        exact absurd ⟨u, hk ▸ hu, hm⟩ (hkept id rfl)
      · exact h.stays hu hm hx

/-- A committed row for the message is there after every commit. -/
theorem Carries.commit {s : Store ι Receipt UUID Receipt.id} {id : UUID} (hm : Marked m s)
    (h : Carries m id s) (t : ι) : Carries m id (s.commit t) := by
  obtain ⟨u, hu, hkey⟩ := h
  obtain ⟨v, hv, hv'⟩ := hm.view t hu hkey
  exact ⟨v, by rw [Store.committed_commit, hv], hv'⟩

/-- No row for the message is deleted. -/
def KeepsRows (m : UUID × String) (_ : ι) (o : Op) (w : World ι) : Prop :=
  ∀ id, o = .sql (.deleteReceipt id) → ¬Carries m id w.db.receipts

/-- **One operation** of any session keeps the rows for the message. -/
theorem Marked.exec {P : UUID → Prop} {w w' : World ι} {t : ι} {o : Op} {r : Except PyExc o.Res}
    (h : Marked m w.db.receipts) (hP : ∀ id, P id → Carries m id w.db.receipts)
    (hok : KeepsRows m t o w) (hx : exec env t o w = some (r, w')) :
    Marked m w'.db.receipts ∧ ∀ id, P id → Carries m id w'.db.receipts := by
  refine exec_db (I := fun db => Marked m db.receipts ∧ ∀ id, P id → Carries m id db.receipts)
    (fun db hdb => ⟨hdb.1.commit t, fun id hid => (hdb.2 id hid).commit hdb.1 t⟩)
    (fun db hdb => ⟨hdb.1.rollback t, hdb.2⟩) hx (fun s a db ho hs => ?_) ⟨h, hP⟩
  rcases Stmt.exec_receipts hs with heq | hw
  · rw [heq]
    exact ⟨h, hP⟩
  · refine ⟨h.write hw (fun id hid => hok id (by rw [ho, hid])), fun id hid => ?_⟩
    have hcom : db.receipts.committed = w.db.receipts.committed := by
      generalize db.receipts = st at hw
      cases hw <;> rfl
    obtain ⟨u, hu, hkey⟩ := hP id hid
    exact ⟨u, by rw [hcom, hu], hkey⟩

/-! ## What a call knows about its row -/

/-- What a call has done for the message: nothing yet, staged a row, committed one. -/
inductive Mark where
  | start
  | staged
  | done
  deriving DecidableEq

/-- A row for the message counts until something else happens before its commit. -/
def Mark.next (m : UUID × String) : Mark → (o : Op) → Except PyExc o.Res → Mark
  | done, _, _ => done
  | _, .sql (.insertReceipt r), .ok _ => if r.messageKey = some m then staged else start
  | staged, .commit, .ok _ => done
  | _, _, _ => start

/-- A row for the message that is inserted is staged. -/
theorem Mark.next_insert (q : Mark) {r : Receipt} {a : Unit} (hr : r.messageKey = some m) :
    q.next m (.sql (.insertReceipt r)) (.ok a) = .done ∨
      q.next m (.sql (.insertReceipt r)) (.ok a) = .staged := by
  cases q with
  | done => exact Or.inl rfl
  | start => exact Or.inr (if_pos hr)
  | staged => exact Or.inr (if_pos hr)

/-- What is known of the calls while the rows for the message are kept; `P` are the rows
that are already known. -/
structure Ingesting (m : UUID × String) (users : List User) (P : UUID → Prop) (g : ι → Mark)
    (w : World ι) : Prop where
  users : w.db.users = users
  marked : Marked m w.db.receipts
  known : ∀ id, P id → Carries m id w.db.receipts
  staged : ∀ i, g i = .staged → w.failed i = false ∧
    ∃ k v, w.db.receipts.staged i k = some (some v) ∧ v.messageKey = some m
  done : ∀ i, g i = .done → ∃ id, Carries m id w.db.receipts

/-- A call moves on: what is to be shown of it. -/
theorem Ingesting.move {users : List User} {P : UUID → Prop} {g : ι → Mark} {w w' : World ι}
    {i : ι} {q : Mark} (h : Ingesting m users P g w) (husers : w'.db.users = w.db.users)
    (hmarked : Marked m w'.db.receipts)
    (hknown : ∀ id, Carries m id w.db.receipts → Carries m id w'.db.receipts)
    (hstaged : ∀ j, j ≠ i → ∀ k, w'.db.receipts.staged j k = w.db.receipts.staged j k)
    (hfailed : ∀ j, j ≠ i → w'.failed j = w.failed j)
    (hq : q = .staged → w'.failed i = false ∧
      ∃ k v, w'.db.receipts.staged i k = some (some v) ∧ v.messageKey = some m)
    (hdone : q = .done → ∃ id, Carries m id w'.db.receipts) :
    Ingesting m users P (Function.update g i q) w' := by
  refine ⟨husers.trans h.users, hmarked, fun id hid => hknown id (h.known id hid), fun j hj => ?_,
    fun j hj => ?_⟩
  · by_cases hji : j = i
    · subst hji
      rw [Function.update_self] at hj
      exact hq hj
    · rw [Function.update_of_ne hji] at hj
      obtain ⟨hf, k, v, hv, hm⟩ := h.staged j hj
      exact ⟨(hfailed j hji).trans hf, k, v, (hstaged j hji k).trans hv, hm⟩
  · by_cases hji : j = i
    · subst hji
      rw [Function.update_self] at hj
      exact hdone hj
    · rw [Function.update_of_ne hji] at hj
      obtain ⟨id, hid⟩ := h.done j hj
      exact ⟨id, hknown id hid⟩

/-- **One operation** of any call. -/
theorem Ingesting.step {users : List User} {P : UUID → Prop} {g : ι → Mark} {w w' : World ι}
    {i : ι} {o : Op} {r : Except PyExc o.Res} (h : Ingesting m users P g w)
    (hok : KeepsRows m i o w) (hx : exec env i o w = some (r, w')) :
    Ingesting m users P (Function.update g i ((g i).next m o r)) w' := by
  have hkeep := h.marked.exec (P := fun id => Carries m id w.db.receipts) (fun _ hid => hid) hok hx
  refine h.move (exec_users hx) hkeep.1 hkeep.2 (fun j hj => exec_staged_of_ne hx hj)
    (fun j hj => exec_failed_of_ne hx hj) (fun hq => ?_) (fun hq => ?_)
  · -- only an insert of a row for the message leads here
    cases o with
    | sql s =>
        cases s with
        | insertReceipt v =>
            cases r with
            | error e => cases hg : g i <;> rw [hg] at hq <;> cases hq
            | ok a =>
                have hm : v.messageKey = some m := by
                  by_contra hne
                  cases hg : g i <;> rw [hg] at hq <;> simp [Mark.next, hne] at hq
                rcases exec_sql_cases hx with ⟨-, hr, -⟩ | ⟨-, ⟨e, hr⟩, -⟩ | ⟨a, db, hf, -, hs, rfl⟩
                · cases hr
                · cases hr
                · refine ⟨hf, v.id, v.stamp (env.clock w.calls), ?_, hm⟩
                  simp only [Stmt.exec] at hs
                  split at hs
                  · obtain ⟨⟨x, st⟩, hins, heq⟩ := Option.map_eq_some_iff.1 hs
                    cases heq
                    obtain ⟨-, -, -, rfl⟩ := insert_ok hins
                    exact (Store.staged_stage _ _ _ _ _).trans (if_pos ⟨rfl, rfl⟩)
                  · cases hs
        | _ => cases r <;> cases hg : g i <;> rw [hg] at hq <;> cases hq
    | _ => cases r <;> cases hg : g i <;> rw [hg] at hq <;> cases hq
  · cases hg : g i with
    | done =>
        obtain ⟨id, hid⟩ := h.done i hg
        exact ⟨id, hkeep.2 id hid⟩
    | start =>
        rw [hg] at hq
        cases o with
        | sql s =>
            cases s with
            | insertReceipt v => cases r <;> simp [Mark.next] at hq; split at hq <;> cases hq
            | _ => cases r <;> cases hq
        | _ => cases r <;> cases hq
    | staged =>
        rw [hg] at hq
        cases o with
        | sql s =>
            cases s with
            | insertReceipt v => cases r <;> simp [Mark.next] at hq; split at hq <;> cases hq
            | _ => cases r <;> cases hq
        | commit =>
            cases r with
            | error e => cases hq
            | ok a =>
                obtain ⟨hf, k, v, hv, hm⟩ := h.staged i hg
                rcases exec_commit_cases hx with ⟨-, hr, -⟩ | ⟨-, -, rfl⟩ | ⟨-, hr, -⟩ | ⟨-, hr, -⟩
                · cases hr
                · exact ⟨k, v, (Store.get_commit _ _ _).trans (by rw [hv]; rfl), hm⟩
                · cases hr
                · cases hr
        | _ => cases r <;> cases hq

/-- How a call's mark moves. -/
def NextStep (m : UUID × String) (users : List User) (q : Mark) (o : Op) (r : Except PyExc o.Res)
    (q' : Mark) : Prop :=
  q' = q.next m o r ∧ UsersAre users o r

/-- The end of a call. -/
theorem Ingesting.close {users : List User} {P : UUID → Prop} {g : ι → Mark} {w : World ι}
    (h : Ingesting m users P g w) (i : ι) {q : Mark} (hq : q = .done → g i = .done)
    (hne : q ≠ .staged) : Ingesting m users P (Function.update g i q) (w.close i) := by
  refine h.move rfl (h.marked.rollback i) (fun id hid => hid) (fun j hj k => ?_)
    (fun j hj => if_neg hj) (fun hc => absurd hc hne) (fun hc => h.done i (hq hc))
  exact (Store.staged_rollback _ _ _ _).trans (if_neg hj)

/-- **What is known of the calls is kept in every run** in which no row for the message
is deleted. -/
theorem keeps_ingesting {α : Type} (users : List User) (P : UUID → Prop) (post : ι → α → Prop) :
    (backend env : Machine ι Op.Res PyExc (World ι) Empty).Keeps (Ingesting m users P)
      (fun _ _ _ => True) (fun _ => NextStep m users) (fun i q a => post i a → q = .done)
      (fun _ _ _ => True) (KeepsRows m) True where
  step := by
    intro g w i o r w' h _ hok hx
    have husers := (exec_reads hx).2
    rw [h.users] at husers
    exact ⟨_, ⟨rfl, husers⟩, h.step hok hx⟩
  ret := by
    intro g w i a h hpost
    cases hg : g i with
    | done => exact ⟨.done, fun _ => rfl, h.close i (fun _ => hg) (fun hc => nomatch hc)⟩
    | start =>
        refine ⟨.start, fun ha => ?_, h.close i (fun hc => nomatch hc) (fun hc => nomatch hc)⟩
        exact (nomatch (hg.symm.trans (hpost ha)))
    | staged =>
        refine ⟨.start, fun ha => ?_, h.close i (fun hc => nomatch hc) (fun hc => nomatch hc)⟩
        exact (nomatch (hg.symm.trans (hpost ha)))
  raise := fun h _ => ⟨.start, trivial, h.close _ (fun hc => nomatch hc) (fun hc => nomatch hc)⟩
  kill := fun _ h => ⟨.start, trivial, h.close _ (fun hc => nomatch hc) (fun hc => nomatch hc)⟩
  event := fun {_ _ e} _ => e.elim

end marked

/-! ## What a delivery has done when it returns -/

/-- A program whose mark is followed; what it raises does not matter. -/
abbrev Marks {α : Type} (m : UUID × String) (users : List User) (q : Mark) (p : Service α)
    (post : Mark → α → Prop) : Prop :=
  p.Follows (fun _ _ => True) (NextStep m users) post (fun _ _ => True) q

section marks

variable {m : UUID × String} {users : List User}

theorem Marks.any {α : Type} (q : Mark) (p : Service α) : Marks m users q p (fun _ _ => True) :=
  Prog.follows_of_forall (fun _ _ => trivial) (fun _ _ => trivial) (fun _ _ => trivial) p

theorem Marks.ret {α : Type} {q : Mark} {a : α} {post : Mark → α → Prop} (h : post q a) :
    Marks m users q (.ret a) post :=
  (Prog.follows_ret a).2 h

theorem Marks.raise {α : Type} {q : Mark} {e : PyExc} {post : Mark → α → Prop} :
    Marks m users q (.raise e) post :=
  (Prog.follows_raise e).2 trivial

/-- The sequencing rule, with what the first program is known to do. -/
theorem Marks.bind {α β : Type} {q : Mark} {p : Service α} {f : α → Service β}
    {post : Mark → α → Prop} {post' : Mark → β → Prop} (hp : Marks m users q p post)
    (hf : ∀ q' a, post q' a → Marks m users q' (f a) post') : Marks m users q (p.bind f) post' :=
  Prog.Follows.bind (hp.mono hf (fun _ _ h => h))

/-- An operation in front of what it is needed for. -/
theorem Marks.step {α : Type} {q : Mark} {o : Op} {f : o.Res → Service α}
    {post : Mark → α → Prop}
    (hok : ∀ a, UsersAre users o (.ok a) → Marks m users (q.next m o (.ok a)) (f a) post) :
    Marks m users q ((Prog.perform o).bind f) post := by
  refine (Prog.follows_call o _).2 ⟨trivial, fun r q' h => ?_⟩
  obtain ⟨rfl, hu⟩ := h
  cases r with
  | ok a => exact hok a hu
  | error e => exact Marks.raise

/-- What has been done for the message stays done. -/
theorem Marks.of_done {α : Type} (p : Service α) : Marks m users .done p (fun q _ => q = .done) := by
  induction p with
  | ret a => exact Marks.ret rfl
  | raise e => exact Marks.raise
  | call o k ih =>
      refine (Prog.follows_call o k).2 ⟨trivial, fun r q h => ?_⟩
      obtain ⟨rfl, -⟩ := h
      exact ih r

/-- A program and its handler. -/
theorem Marks.handle {α : Type} {q : Mark} {p : Service α} {f : PyExc → Service α}
    {post : Mark → α → Prop} (hp : Marks m users q p post)
    (hf : ∀ q' e, Marks m users q' (f e) post) : Marks m users q (Prog.handle p f) post :=
  Prog.Follows.handle (hp.mono (fun _ _ h => h) (fun q' e _ => hf q' e))

/-- An upload that returns has committed its row. -/
theorem marks_createReceipt (env : Env) (userId : UUID) (messageId : String) (users : List User)
    (body : List UInt8) (q : Mark) :
    Marks (userId, messageId) users q (createReceipt env userId body (some messageId))
      (fun q' _ => q' = .done) := by
  have hsave : ∀ key mime q, Marks (userId, messageId) users q
      (saveReceipt userId key mime body.length (some messageId)) (fun q' _ => q' = .done) := by
    intro key mime q
    refine Marks.handle ?_ (fun q' e => Marks.step (fun _ _ => Marks.raise))
    refine Marks.step (fun id _ => Marks.step (fun a _ => ?_))
    -- the row that has been staged is for the message
    have hkey : (newReceipt id userId key mime body.length (some messageId)).messageKey =
        some (userId, messageId) := rfl
    rcases Mark.next_insert (a := a) (q.next (userId, messageId) .uuid4 (.ok id)) hkey with
      heq | heq
    · rw [heq]
      exact Marks.of_done _
    · rw [heq]
      exact Marks.step (fun _ _ => Marks.ret rfl)
  cases hvet : vetUpload body with
  | error e =>
      rw [createReceipt_of_vet_error hvet]
      exact Marks.raise
  | ok mime =>
      rw [(createReceipt_of_vet_ok env userId (some messageId) hvet).2]
      unfold persistReceipt
      refine Marks.bind (Marks.any _ _) (fun q₁ key _ => Marks.step (fun _ _ => ?_))
      refine Marks.bind (hsave key mime _) ?_
      rintro q₂ id rfl
      exact Marks.of_done _

/-- The loop of a delivery that has created receipts has committed one. -/
theorem marks_processAttachments (env : Env) (userId : UUID) (messageId : String)
    (users : List User) (atts : List InboundAttachment) : ∀ (created : List UUID) (q : Mark),
      (created ≠ [] → q = .done) → Marks (userId, messageId) users q
        (processAttachments env userId messageId created atts)
        (fun q' created' => created' ≠ [] → q' = .done) := by
  induction atts with
  | nil => exact fun created q h => Marks.ret h
  | cons a rest ih =>
      intro created q h
      unfold processAttachments
      split
      · exact ih created q h
      · split
        · exact ih created q h
        · exact Marks.raise
        · rename_i body _
          have hskip : Marks (userId, messageId) users q
              (createOrSkip env userId messageId body)
              (fun q' r => r.isSome ∨ created ≠ [] → q' = .done) := by
            by_cases hq : q = .done
            · subst hq
              exact (Marks.of_done _).mono (fun _ _ h _ => h) (fun _ _ h => h)
            · have hnil : ¬created ≠ [] := fun hc => hq (h hc)
              refine Marks.handle (Marks.bind (marks_createReceipt env userId messageId users body q)
                (fun _ _ hq' => Marks.ret (fun _ => hq'))) (fun q' e => ?_)
              cases e with
              | unsupportedMediaType msg =>
                  refine Marks.ret (fun hc => ?_)
                  rcases hc with hc | hc
                  · cases hc
                  · exact absurd hc hnil
              | _ => exact Marks.raise
          refine Marks.bind hskip (fun q' r hq' => ?_)
          cases r with
          | none => exact ih created q' (fun hc => hq' (Or.inr hc))
          | some receipt => exact ih (created ++ [receipt.id]) q' (fun _ => hq' (Or.inl rfl))

/-- A delivery that returns with receipts it has created has committed one. -/
theorem marks_processInboundEmail (env : Env) (payload : InboundEmail) {users : List User}
    {user : User} (h : resolvedUser env.unicode users payload.toAddress = some user) :
    Marks (user.id, payload.messageId) users .start (processInboundEmail env payload)
      (fun q r => r.deduped = false → r.receiptsCreated ≠ [] → q = .done) := by
  have hresolve : Marks (user.id, payload.messageId) users .start
      (resolveUserByToAddress env payload.toAddress) (fun _ u => u = user) := by
    rw [resolvedUser, Option.bind_eq_some_iff] at h
    obtain ⟨token, htoken, hmatch⟩ := h
    unfold resolveUserByToAddress
    rw [htoken]
    refine Marks.step (fun rows hrows => ?_)
    have hrows : rows = users.filter (fun u => u.inboxToken = token) := hrows
    subst hrows
    split at hmatch
    · rename_i u heq
      cases hmatch
      rw [heq]
      exact Marks.ret rfl
    · cases hmatch
  unfold processInboundEmail
  refine Marks.bind hresolve ?_
  rintro q u rfl
  refine Marks.step (fun existing _ => ?_)
  split
  · exact Marks.ret (by rintro ⟨⟩)
  · exact Marks.bind (marks_processAttachments env u.id payload.messageId users
      payload.attachments [] _ (fun hc => absurd rfl hc))
      (fun _ _ hq => Marks.ret (fun _ => hq))

end marks

/-! ## An email is ingested once -/

/-- What may run beside each other: deliveries, by webhook or by a replay of a mailbox's
history, and whatever else a user or a worker does. -/
inductive InboxCall where
  | deliver (payload : InboundEmail)
  | other (program : Service Unit)

def InboxCall.run (env : Env) : InboxCall → Service (Option InboundEmailResult)
  | deliver payload => do
      let result ← processInboundEmail env payload
      return some result
  | other program => do
      program
      return none

section once

variable {ι : Type} [DecidableEq ι] {env : Env} {m : UUID × String}

/-- The calls and the state they start from. -/
def inbox (env : Env) (calls : ι → InboxCall) (w : World ι) :
    Config ι Op.Res PyExc (Option InboundEmailResult) (World ι) :=
  ⟨fun i => (calls i).run env, w⟩

/-- The call is a delivery of the message, and this is what it returns once it has created
receipts. -/
def CreatedBy (env : Env) (users : List User) (m : UUID × String) (call : InboxCall)
    (a : Option InboundEmailResult) : Prop :=
  ∃ payload user r, call = .deliver payload ∧
    resolvedUser env.unicode users payload.toAddress = some user ∧
    (user.id, payload.messageId) = m ∧ a = some r ∧ r.deduped = false ∧ r.receiptsCreated ≠ []

/-- Some delivery of the message has returned with receipts it has created. -/
def Ingested (env : Env) (calls : ι → InboxCall) (users : List User) (m : UUID × String)
    (c : Config ι Op.Res PyExc (Option InboundEmailResult) (World ι)) : Prop :=
  ∃ i a, c.threads i = .ret a ∧ CreatedBy env users m (calls i) a

omit [DecidableEq ι] in
/-- A delivery that returns with receipts it has created has committed one. -/
theorem marks_run (env : Env) (users : List User) (m : UUID × String) (call : InboxCall) :
    Marks m users .start (call.run env) (fun q a => CreatedBy env users m call a → q = .done) := by
  by_cases h : ∃ payload user, call = .deliver payload ∧
      resolvedUser env.unicode users payload.toAddress = some user ∧
      (user.id, payload.messageId) = m
  · obtain ⟨payload, user, rfl, hres, rfl⟩ := h
    refine Marks.bind (marks_processInboundEmail env payload hres) (fun q r hq => Marks.ret ?_)
    rintro ⟨-, -, r', -, -, -, heq, hd, hne⟩
    cases heq
    exact hq hd hne
  · refine (Marks.any .start _).mono (fun q a _ ha => ?_) (fun _ _ h => h)
    obtain ⟨payload, user, -, hcall, hres, hm, -⟩ := ha
    exact absurd ⟨payload, user, hcall, hres, hm⟩ h

/-- The only row for the message. -/
theorem map_id_markedRows {w : World ι} {id : UUID}
    (h : w.db.receipts.UniqueOn Receipt.messageKey) (hc : Carries m id w.db.receipts) :
    (markedRows m w).map Receipt.id = [id] := by
  obtain ⟨u, hu, hm⟩ := hc
  have hmem : u ∈ markedRows m w := by
    rw [markedRows, List.mem_filter, decide_eq_true_eq]
    exact ⟨Table.mem_of_get hu, hm⟩
  have hle := length_markedRows_le (m := m) h
  have hid : u.id = id := Table.key_of_get hu
  rcases hrows : markedRows m w with _ | ⟨v, _ | ⟨v', rows⟩⟩
  · rw [hrows] at hmem
    cases hmem
  · rw [hrows, List.mem_singleton] at hmem
    rw [List.map_singleton, ← hmem, hid]
  · rw [hrows] at hle
    simp at hle

/-- Every row for the message was there before. -/
def NothingCreated (m : UUID × String) (w w' : World ι) : Prop :=
  ∀ id ∈ (markedRows m w').map Receipt.id, id ∈ (markedRows m w).map Receipt.id

/-- **An email is ingested once**: once a delivery has returned with receipts it has
created, no later call adds one for the message, in every run of deliveries and of anything
else in which no receipt that carries the message is deleted. -/
theorem ingestedOnce_run {calls : ι → InboxCall} {w : World ι}
    {before after : List (Machine.Action ι Empty)} (hpending : w.db.receipts.pending = [])
    (hunique : ∀ u ∈ w.db.receipts.committed.rows, ∀ v ∈ w.db.receipts.committed.rows, ∀ x,
      u.messageKey = some x → v.messageKey = some x → u = v)
    (hsteps : (backend env).Along (Machine.OpOk (KeepsRows m) True) (inbox env calls w)
      (before ++ after))
    (hcreated : Ingested env calls w.db.users m ((backend env).run (inbox env calls w) before)) :
    NothingCreated m ((backend env).run (inbox env calls w) before).shared
      ((backend env).run (inbox env calls w) (before ++ after)).shared := by
  have hstart : Ingesting m w.db.users (fun _ => False) (fun _ => .start) w := by
    have hindexed := indexed_start hpending hunique
    refine ⟨rfl, ⟨hindexed.unique, hindexed.exclusive, fun {k u t x} _ _ hx => ?_⟩,
      fun _ h => h.elim, fun _ h => (nomatch h), fun _ h => (nomatch h)⟩
    have hsome : (w.db.receipts.staged t k).isSome := by rw [hx]; rfl
    rw [Store.isSome_staged_iff, hpending] at hsome
    obtain ⟨p, hp, -⟩ := hsome
    cases hp
  obtain ⟨hbefore, hafter⟩ := (Machine.along_append _ _ _).1 hsteps
  obtain ⟨g, hJ, hat⟩ := (keeps_ingesting w.db.users (fun _ => False)
    (fun i => CreatedBy env w.db.users m (calls i))).run hbefore
    ⟨fun _ => .start, hstart, fun i => marks_run env w.db.users m (calls i)⟩
  -- the delivery that has returned has committed a row
  obtain ⟨i, a, hret, ha⟩ := hcreated
  have hi := hat i
  rw [hret, Prog.follows_ret] at hi
  obtain ⟨id, hid⟩ := hJ.done i (hi ha)
  have hknown : Ingesting m w.db.users (fun k => k = id) g
      ((backend env).run (inbox env calls w) before).shared :=
    ⟨hJ.users, hJ.marked, fun k hk => hk ▸ hid, hJ.staged, hJ.done⟩
  obtain ⟨g', hJ', -⟩ := (keeps_ingesting w.db.users (fun k => k = id)
    (fun i => CreatedBy env w.db.users m (calls i))).run hafter ⟨g, hknown, hat⟩
  intro k hk
  rw [Machine.run_append, map_id_markedRows hJ'.marked.unique (hJ'.known id rfl)] at hk
  rw [map_id_markedRows hJ.marked.unique hid]
  exact hk

/-- Deliveries of one message alone delete no row for it. -/
theorem along_keepsRows {calls : ι → InboxCall} {w : World ι} (as : List (Machine.Action ι Empty))
    (h : ∀ i, ∃ payload user, calls i = .deliver payload ∧
      resolvedUser env.unicode w.db.users payload.toAddress = some user ∧
      (user.id, payload.messageId) = m) :
    (backend env).Along (Machine.OpOk (KeepsRows m) True) (inbox env calls w) as := by
  have hout : (backend env : Machine ι Op.Res PyExc (World ι) Empty).Outline
      (fun v => v.db.users = w.db.users)
      (fun _ p _ => p.Respects (MarksAs m) (UsersAre w.db.users)
        (fun _ : Option InboundEmailResult => True) (fun _ => True)) (fun _ _ _ => True) True := by
    refine Machine.outline_of_respects (fun {i o v r v'} hv _ hx => ?_) (fun hv => hv)
      (fun {e _} => e.elim) (fun _ _ => trivial)
    refine ⟨(exec_users hx).trans hv, ?_⟩
    rw [← hv]
    exact (exec_reads hx).2
  refine Machine.along_of_invariant (I := fun c => c.shared.db.users = w.db.users ∧
    ∀ i, (c.threads i).Respects (MarksAs m) (UsersAre w.db.users) (fun _ => True) (fun _ => True))
    (fun c a hc => ?_) as (fun c a _ hc => hout.act c a (by cases a <;> trivial) hc)
    ⟨rfl, fun i => ?_⟩
  · cases a with
    | step i =>
        rintro o k hk id rfl
        have hi := hc.2 i
        rw [hk, Prog.respects_call] at hi
        exact hi.1.elim
    | kill i => trivial
    | event e => trivial
  · obtain ⟨payload, user, hcall, hres, rfl⟩ := h i
    show (InboxCall.run env (calls i)).Respects _ _ _ _
    rw [hcall]
    exact Marking.bind (marking_processInboundEmail env payload hres)
      (fun _ => Marking.ret trivial)

end once

/-! ## A deleted receipt comes back -/

/-- A delivery, and a redelivery of the same email. -/
def redelivered : Fin 2 → InboxCall :=
  fun _ => .deliver (sampleEmail [jpegAttachment] length_jpegAttachment)

/-- A redelivery adds nothing. -/
theorem ingestedOnce_run_sample :
    NothingCreated (7, "m-1")
      ((backend Env.quiet).run (inbox Env.quiet redelivered (World.ofDb (Db.ofUsers [sampleUser])))
        (List.replicate 12 (.step 0))).shared
      ((backend Env.quiet).run (inbox Env.quiet redelivered (World.ofDb (Db.ofUsers [sampleUser])))
        (List.replicate 12 (.step 0) ++ List.replicate 12 (.step 1))).shared := by
  have hreturned : (((backend Env.quiet).run (inbox Env.quiet redelivered
      (World.ofDb (Db.ofUsers [sampleUser]))) (List.replicate 12 (.step 0))).threads 0).returned? =
        some (some ⟨"m-1", [1005], false⟩) := by
    decide
  refine ingestedOnce_run rfl (fun _ hu => (nomatch hu)) (along_keepsRows _ (fun i => ?_)) ?_
  · exact ⟨_, sampleUser, rfl, sampleAddress_resolves, rfl⟩
  · exact ⟨0, _, Prog.eq_ret_of_returned? hreturned, _, sampleUser, _, rfl, sampleAddress_resolves,
      rfl, rfl, rfl, List.cons_ne_nil _ _⟩

/-- A delivery, the deletion of its receipt by the user, and a redelivery. -/
def deletedBetween : Fin 3 → InboxCall
  | 0 => .deliver (sampleEmail [jpegAttachment] length_jpegAttachment)
  | 1 => .other (deleteReceipt 7 1005)
  | 2 => .deliver (sampleEmail [jpegAttachment] length_jpegAttachment)

/-- The receipt the user has deleted comes back with the next delivery. -/
theorem not_ingestedOnce_deleted :
    Ingested Env.quiet deletedBetween [sampleUser] (7, "m-1")
        ((backend Env.quiet).run (inbox Env.quiet deletedBetween
          (World.ofDb (Db.ofUsers [sampleUser]))) (List.replicate 12 (.step 0))) ∧
      ¬NothingCreated (7, "m-1")
        ((backend Env.quiet).run (inbox Env.quiet deletedBetween
          (World.ofDb (Db.ofUsers [sampleUser]))) (List.replicate 12 (.step 0))).shared
        ((backend Env.quiet).run (inbox Env.quiet deletedBetween
          (World.ofDb (Db.ofUsers [sampleUser]))) (List.replicate 12 (.step 0) ++
            (List.replicate 8 (.step 1) ++ List.replicate 12 (.step 2)))).shared := by
  have hreturned : (((backend Env.quiet).run (inbox Env.quiet deletedBetween
      (World.ofDb (Db.ofUsers [sampleUser]))) (List.replicate 12 (.step 0))).threads 0).returned? =
        some (some ⟨"m-1", [1005], false⟩) := by
    decide
  refine ⟨⟨0, _, Prog.eq_ret_of_returned? hreturned, _, sampleUser, _, rfl, sampleAddress_resolves,
    rfl, rfl, rfl, List.cons_ne_nil _ _⟩, fun h => ?_⟩
  have hbefore : (markedRows (7, "m-1") ((backend Env.quiet).run (inbox Env.quiet deletedBetween
      (World.ofDb (Db.ofUsers [sampleUser]))) (List.replicate 12 (.step 0))).shared).map Receipt.id =
        [1005] := by
    decide
  have hafter : (markedRows (7, "m-1") ((backend Env.quiet).run (inbox Env.quiet deletedBetween
      (World.ofDb (Db.ofUsers [sampleUser]))) (List.replicate 12 (.step 0) ++
        (List.replicate 8 (.step 1) ++ List.replicate 12 (.step 2)))).shared).map Receipt.id =
          [1020] := by
    decide
  have hmem := h 1020 (by rw [hafter]; exact List.mem_singleton_self _)
  rw [hbefore, List.mem_singleton] at hmem
  exact absurd hmem (by decide)

end SpendLens
