/-
# Concurrent deliveries of one email

Any number of calls of `process_inbound_email` for one user and one message run
interleaved.  All of them may pass the dedup read before any commits, and each may
have put a blob by then; the unique index lets one row through, and every call that
loses wipes its own blob.  So the bucket and the table grow by the same number, as
long as a `put_object` that raises has not stored its blob: nothing wipes that one.
-/
import SpendLens.ReceiptBlobs
import SpendLens.InboundDelivery
import Mathlib.Algebra.BigOperators.Group.Finset.Basic
import Mathlib.Data.Fintype.Basic

namespace SpendLens

/-! ## What a delivery asks for -/

/-- The loop of a delivery keeps to its holds. -/
theorem goes_processAttachments (env : Env) (userId : UUID) (messageId : String)
    (atts : List InboundAttachment) : ∀ (created : List UUID) {q : Hold}, q.passive = true →
      Goes q (processAttachments env userId messageId created atts) (fun q' _ => q'.passive = true) := by
  induction atts with
  | nil => exact fun created q hq => Goes.ret hq
  | cons a rest ih =>
      intro created q hq
      unfold processAttachments
      split
      · exact ih created hq
      · split
        · exact ih created hq
        · exact Goes.raise hq
        · rename_i body _
          have hskip : Goes q (createOrSkip env userId messageId body)
              (fun q' _ => q'.passive = true) := by
            unfold createOrSkip
            have hcreate : Goes q (do
                let receipt ← createReceipt env userId body (some messageId)
                return some receipt) (fun q' _ => q'.passive = true) :=
              Goes.bind (goes_createReceipt env hq userId body _) (fun _ _ hq' => Goes.ret hq')
            refine Prog.Follows.handle (hcreate.mono (fun _ _ h => h) (fun q' e hq' => ?_))
            cases e with
            | unsupportedMediaType msg => exact Goes.ret hq'
            | _ => exact Goes.raise hq'
          refine Goes.bind hskip (fun q' r hq' => ?_)
          cases r with
          | none => exact ih created hq'
          | some receipt => exact ih (created ++ [receipt.id]) hq'

/-- A delivery keeps to its holds. -/
theorem goes_processInboundEmail (env : Env) (payload : InboundEmail) :
    Goes .idle (processInboundEmail env payload) (fun q _ => q.passive = true) := by
  have hresolve : Goes .idle (resolveUserByToAddress env payload.toAddress)
      (fun q _ => q = .idle) := by
    unfold resolveUserByToAddress
    split
    · exact Goes.raise rfl
    · refine Goes.step ?_ (fun _ => rfl) (fun rows _ => ?_)
      · trivial
      · match rows with
        | [] => exact Goes.raise rfl
        | [user] => exact Goes.ret rfl
        | _ :: _ :: _ => exact Goes.raise rfl
  unfold processInboundEmail
  refine Goes.bind hresolve ?_
  rintro q user rfl
  refine Goes.step ?_ (fun _ => rfl) (fun existing _ => ?_)
  · trivial
  have hq : (Hold.idle.next (.sql (.selectReceipts [.text payload.messageId] (fun r =>
      r.userId = user.id && r.externalMessageId = some payload.messageId))) (.ok existing)).passive =
        true := Hold.passive_next_select rfl existing
  split
  · exact Goes.ret hq
  · exact Goes.bind (goes_processAttachments env user.id payload.messageId payload.attachments [] hq)
      (fun _ _ hq' => Goes.ret hq')

/-- Receipts are inserted for a user and a message, and never deleted. -/
def MarksAs (m : UUID × String) : Op → Prop
  | .sql (.insertReceipt r) => r.messageKey = some m
  | .sql (.deleteReceipt _) => False
  | _ => True

/-- The users are read as they are stored. -/
def UsersAre (users : List User) : (o : Op) → Except PyExc o.Res → Prop
  | .sql (.selectUsers _ p), .ok rows => rows = users.filter p
  | _, _ => True

/-- A program that inserts receipts only for one user and message. -/
abbrev Marking {α : Type} (m : UUID × String) (users : List User) (p : Service α)
    (post : α → Prop) : Prop :=
  p.Respects (MarksAs m) (UsersAre users) post (fun _ => True)

section marking

variable {α : Type} {m : UUID × String} {users : List User} {post : α → Prop}

theorem Marking.ret {a : α} (h : post a) : Marking m users (.ret a) post :=
  Prog.Respects.ret h

theorem Marking.raise {e : PyExc} : Marking m users (.raise e : Service α) post :=
  Prog.Respects.raise trivial

/-- An operation in front of what it is needed for. -/
theorem Marking.step {o : Op} {f : o.Res → Service α} (h : MarksAs m o)
    (hf : ∀ a, UsersAre users o (.ok a) → Marking m users (f a) post) :
    Marking m users ((Prog.perform o).bind f) post :=
  Prog.Respects.bind (Prog.Respects.perform h (fun _ ha => ha) (fun _ _ => trivial)) hf

/-- A program in front of what it is needed for. -/
theorem Marking.bind {β : Type} {p : Service β} {f : β → Service α}
    (hp : Marking m users p (fun _ => True)) (hf : ∀ a, Marking m users (f a) post) :
    Marking m users (p.bind f) post :=
  Prog.Respects.bind hp (fun a _ => hf a)

/-- A program and its handler. -/
theorem Marking.handle {p : Service α} {f : PyExc → Service α} (hp : Marking m users p post)
    (hf : ∀ e, Marking m users (f e) post) : Marking m users (Prog.handle p f) post :=
  Prog.Respects.handle hp (fun e _ => hf e)

theorem Marking.perform {o : Op} (h : MarksAs m o) :
    Marking m users (Prog.perform o) (fun _ => True) :=
  Prog.Respects.perform h (fun _ _ => trivial) (fun _ _ => trivial)

end marking

/-- Building a key inserts nothing. -/
theorem marking_buildReceiptKey (env : Env) (m : UUID × String) (users : List User) (userId : UUID)
    (mime secret : String) :
    Marking m users (buildReceiptKey env userId mime secret) (fun _ => True) := by
  unfold buildReceiptKey
  split
  · exact Marking.raise
  · refine Marking.step ?_ (fun _ _ => Marking.step ?_ (fun _ _ => Marking.ret trivial)) <;> trivial

/-- A save inserts the receipt for its user and message. -/
theorem marking_saveReceipt (users : List User) (userId : UUID) (key mime : String) (size : ℕ)
    (messageId : String) : Marking (userId, messageId) users
      (saveReceipt userId key mime size (some messageId)) (fun _ => True) := by
  have hsave : ∀ id, Marking (userId, messageId) users (do
      sql (.insertReceipt (newReceipt id userId key mime size (some messageId)))
      commit
      return id : Service UUID) (fun _ => True) := by
    intro id
    refine Marking.step ?_ (fun _ _ => Marking.step ?_ (fun _ _ => Marking.ret trivial))
    · exact (rfl : some (userId, messageId) = some (userId, messageId))
    · trivial
  refine Marking.handle (Marking.step ?_ (fun id _ => hsave id))
    (fun e => Marking.step ?_ (fun _ _ => Marking.raise)) <;> trivial

/-- An upload inserts its receipt for its user and message. -/
theorem marking_createReceipt (env : Env) (userId : UUID) (messageId : String) (users : List User)
    (body : List UInt8) : Marking (userId, messageId) users
      (createReceipt env userId body (some messageId)) (fun _ => True) := by
  have hfinish : ∀ id, Marking (userId, messageId) users (do
      let receipt ← refreshReceipt id
      enqueueProcessing env receipt.id
      return receipt) (fun _ => True) := by
    intro id
    refine Marking.bind ?_ (fun receipt => ?_)
    · refine Marking.step ?_ (fun rows _ => ?_)
      · trivial
      · cases rows with
        | nil => exact Marking.raise
        | cons v vs => exact Marking.ret trivial
    · unfold enqueueProcessing
      split
      · exact Marking.ret trivial
      · exact Marking.step (by trivial) (fun _ _ => Marking.ret trivial)
  cases hvet : vetUpload body with
  | error e =>
      rw [createReceipt_of_vet_error hvet]
      exact Marking.raise
  | ok mime =>
      rw [(createReceipt_of_vet_ok env userId (some messageId) hvet).2]
      unfold persistReceipt
      refine Prog.Respects.bind (marking_buildReceiptKey env _ users userId mime _) (fun key _ => ?_)
      refine Marking.step ?_ (fun _ _ => ?_)
      · trivial
      exact Prog.Respects.bind
        (marking_saveReceipt users userId key mime body.length messageId) (fun id _ => hfinish id)

/-- The loop of a delivery inserts receipts for its user and message. -/
theorem marking_processAttachments (env : Env) (userId : UUID) (messageId : String)
    (users : List User) (atts : List InboundAttachment) : ∀ created : List UUID,
      Marking (userId, messageId) users
        (processAttachments env userId messageId created atts) (fun _ => True) := by
  induction atts with
  | nil => exact fun _ => Marking.ret trivial
  | cons a rest ih =>
      intro created
      unfold processAttachments
      split
      · exact ih created
      · split
        · exact ih created
        · exact Marking.raise
        · rename_i body _
          have hskip : Marking (userId, messageId) users
              (createOrSkip env userId messageId body) (fun _ => True) := by
            refine Marking.handle (Marking.bind
              (marking_createReceipt env userId messageId users body)
                (fun _ => Marking.ret trivial)) (fun e => ?_)
            cases e with
            | unsupportedMediaType msg => exact Marking.ret trivial
            | _ => exact Marking.raise
          refine Prog.Respects.bind hskip (fun r _ => ?_)
          cases r with
          | none => exact ih created
          | some receipt => exact ih (created ++ [receipt.id])

/-- A delivery inserts receipts for the user it resolves to. -/
theorem marking_processInboundEmail (env : Env) (payload : InboundEmail) {users : List User}
    {user : User} (h : resolvedUser env.unicode users payload.toAddress = some user) :
    Marking (user.id, payload.messageId) users (processInboundEmail env payload)
      (fun _ => True) := by
  have hresolve : Marking (user.id, payload.messageId) users
      (resolveUserByToAddress env payload.toAddress) (fun u => u = user) := by
    rw [resolvedUser, Option.bind_eq_some_iff] at h
    obtain ⟨token, htoken, hmatch⟩ := h
    unfold resolveUserByToAddress
    rw [htoken]
    refine Marking.step ?_ (fun rows hrows => ?_)
    · trivial
    · have hrows : rows = users.filter (fun u => u.inboxToken = token) := hrows
      subst hrows
      split at hmatch
      · rename_i u heq
        cases hmatch
        rw [heq]
        exact Marking.ret rfl
      · cases hmatch
  unfold processInboundEmail
  refine Prog.Respects.bind hresolve ?_
  rintro u rfl
  refine Marking.step ?_ (fun existing _ => ?_)
  · trivial
  split
  · exact Marking.ret trivial
  · exact Prog.Respects.bind
      (marking_processAttachments env u.id payload.messageId users payload.attachments [])
      (fun _ _ => Marking.ret trivial)

/-! ## Blobs and rows -/

section counts

variable {ι : Type} [DecidableEq ι] {env : Env} {m : UUID × String} {users : List User} {B R : ℕ}

/-- The object id a call has drawn for a blob of its own. -/
def Hold.object? : Hold → Option UUID
  | .object id => some id
  | .stored key _ => objectOf key
  | .staged key _ => objectOf key
  | _ => none

/-- How often the bucket has a key. -/
def copies (blobs : List (String × List UInt8)) (key : String) : ℕ :=
  (blobs.filter (fun b => b.1 = key)).length

/-- What a delivery holds on to, counted: a stored blob is there once, and a staged row
is new and for the message. -/
def Hold.Counted (m : UUID × String) (w : World ι) (i : ι) : Hold → Prop
  | .idle => w.db.receipts.writes i = []
  | .loaded _ _ => w.db.receipts.writes i = []
  | .object id => w.db.receipts.writes i = [] ∧ ∀ b ∈ w.blobs, objectOf b.1 ≠ some id
  | .stored key _ => w.db.receipts.writes i = [] ∧ (objectOf key).isSome ∧ copies w.blobs key = 1
  | .staged key _ => (objectOf key).isSome ∧ copies w.blobs key = 1 ∧ w.failed i = false ∧
      ∃ v : Receipt, w.db.receipts.writes i = [.put v] ∧ v.messageKey = some m ∧
        w.db.receipts.committed.get v.id = none
  | .deleting _ _ => False
  | .gone _ => False

/-- The deliveries of one message, from a bucket of `B` blobs and a table of `R` rows. -/
structure Delivering [Fintype ι] (env : Env) (m : UUID × String) (users : List User) (B R : ℕ)
    (g : ι → Hold) (w : World ι) : Prop where
  users : w.db.users = users
  unique : w.db.receipts.UniqueOn Receipt.messageKey
  exclusive : w.db.receipts.Exclusive
  drawn : ∀ i id, (g i).object? = some id → ∃ n < w.calls, env.uuid4 n = id
  apart : ∀ i j id, i ≠ j → (g i).object? = some id → (g j).object? ≠ some id
  absent : ∀ b ∈ w.blobs, ∀ n, w.calls ≤ n → FreshAt env n → objectOf b.1 ≠ some (env.uuid4 n)
  counted : ∀ i, (g i).Counted m w i
  count : w.blobs.length + R = B + w.db.receipts.committed.rows.length + ∑ i, (g i).held

omit [DecidableEq ι] in
theorem copies_cons_self (blobs : List (String × List UInt8)) (key : String) (body : List UInt8) :
    copies ((key, body) :: blobs) key = copies blobs key + 1 := by
  simp [copies]

theorem copies_cons_of_ne {key key' : String} (h : key' ≠ key) (blobs : List (String × List UInt8))
    (body : List UInt8) : copies ((key', body) :: blobs) key = copies blobs key := by
  simp [copies, h]

/-- A key nothing in the bucket has. -/
theorem copies_eq_zero {blobs : List (String × List UInt8)} {key : String}
    (h : ∀ b ∈ blobs, b.1 ≠ key) : copies blobs key = 0 := by
  rw [copies, List.length_eq_zero_iff, List.filter_eq_nil_iff]
  intro b hb
  simpa using h b hb

/-- Wiping a key removes its copies. -/
theorem length_wiped (blobs : List (String × List UInt8)) (key : String) :
    (blobs.filter (fun b => b.1 ≠ key)).length + copies blobs key = blobs.length := by
  rw [copies]
  induction blobs with
  | nil => rfl
  | cons b blobs ih =>
      by_cases hb : b.1 = key
      · rw [List.filter_cons_of_neg (by simpa using hb), List.filter_cons_of_pos (by simpa using hb),
          List.length_cons, List.length_cons]
        omega
      · rw [List.filter_cons_of_pos (by simpa using hb), List.filter_cons_of_neg (by simpa using hb),
          List.length_cons, List.length_cons]
        omega

theorem copies_wiped_of_ne {key key' : String} (h : key' ≠ key)
    (blobs : List (String × List UInt8)) :
    copies (blobs.filter (fun b => b.1 ≠ key')) key = copies blobs key := by
  rw [copies, copies, List.filter_filter]
  congr 1
  apply List.filter_congr
  intro b _
  by_cases hb : b.1 = key
  · simp [hb, Ne.symm h]
  · simp [hb]

/-- Only the local state of the call that moves changes the sum. -/
theorem sum_held_update [Fintype ι] (g : ι → Hold) (i : ι) (q : Hold) :
    ∑ j, (Function.update g i q j).held + (g i).held = ∑ j, (g j).held + q.held := by
  rw [← Finset.add_sum_erase Finset.univ (fun j => (Function.update g i q j).held)
    (Finset.mem_univ i), ← Finset.add_sum_erase Finset.univ (fun j => (g j).held)
    (Finset.mem_univ i), Function.update_self]
  have hrest : ∑ j ∈ Finset.univ.erase i, (Function.update g i q j).held =
      ∑ j ∈ Finset.univ.erase i, (g j).held := by
    apply Finset.sum_congr rfl
    intro j hj
    rw [Function.update_of_ne (Finset.ne_of_mem_erase hj)]
  omega

/-- What a delivery has counted stays, while nobody else writes its rows or its blobs. -/
theorem Hold.Counted.mono {w w' : World ι} {i : ι} {q : Hold} (h : q.Counted m w i)
    (hwrites : w'.db.receipts.writes i = w.db.receipts.writes i)
    (hfailed : w'.failed i = w.failed i)
    (hblobs : ∀ id, q.object? = some id → (∀ b ∈ w.blobs, objectOf b.1 ≠ some id) →
      ∀ b ∈ w'.blobs, objectOf b.1 ≠ some id)
    (hcopies : ∀ key, q.object? = objectOf key → (objectOf key).isSome → copies w.blobs key = 1 →
      copies w'.blobs key = 1)
    (hget : ∀ v, w.db.receipts.writes i = [.put v] → w.db.receipts.committed.get v.id = none →
      w'.db.receipts.committed.get v.id = none) : q.Counted m w' i := by
  cases q with
  | idle => exact hwrites.trans h
  | loaded id key => exact hwrites.trans h
  | object id => exact ⟨hwrites.trans h.1, hblobs id rfl h.2⟩
  | stored key size => exact ⟨hwrites.trans h.1, h.2.1, hcopies key rfl h.2.1 h.2.2⟩
  | staged key size =>
      obtain ⟨hkey, hc, hf, v, hv, hm, hnone⟩ := h
      exact ⟨hkey, hcopies key rfl hkey hc, hfailed.trans hf, v, hwrites.trans hv, hm,
        hget v hv hnone⟩
  | deleting id key => exact h
  | gone key => exact h

variable [Fintype ι]

/-- What a step of a delivery does to the bucket: nothing, or it stores or wipes a blob
under its own object id. -/
def OwnBlob (q : Hold) (blobs blobs' : List (String × List UInt8)) : Prop :=
  blobs' = blobs ∨ ∃ key body id, objectOf key = some id ∧ q.object? = some id ∧
    (blobs' = (key, body) :: blobs ∨ blobs' = blobs.filter (fun b => b.1 ≠ key))

/-- The receipts keep their indexes. -/
structure Indexed (s : Store ι Receipt UUID Receipt.id) : Prop where
  unique : s.UniqueOn Receipt.messageKey
  exclusive : s.Exclusive

omit [Fintype ι] in
theorem Indexed.rollback {s : Store ι Receipt UUID Receipt.id} (h : Indexed s) (i : ι) :
    Indexed (s.rollback i) := ⟨h.unique.rollback i, h.exclusive.rollback i⟩

omit [Fintype ι] in
theorem Indexed.commit {s : Store ι Receipt UUID Receipt.id} (h : Indexed s) (i : ι) :
    Indexed (s.commit i) := ⟨h.unique.commit i, h.exclusive.commit i⟩

/-- **A step of one delivery** that moves it to `q`: what is to be shown of it. -/
theorem Delivering.move {g : ι → Hold} {w w' : World ι} {i : ι} {q : Hold}
    (h : Delivering env m users B R g w) (husers : w'.db.users = w.db.users)
    (hindexed : Indexed w'.db.receipts) (hcalls : w.calls ≤ w'.calls)
    (hobject : ∀ id, q.object? = some id → (g i).object? = some id ∨
      id = env.uuid4 w.calls ∧ FreshAt env w.calls ∧ w.calls < w'.calls)
    (hblobs : OwnBlob (g i) w.blobs w'.blobs) (hown : q.Counted m w' i)
    (hwrites : ∀ j, j ≠ i → w'.db.receipts.writes j = w.db.receipts.writes j)
    (hfailed : ∀ j, j ≠ i → w'.failed j = w.failed j)
    (hcom : w'.db.receipts.committed = w.db.receipts.committed ∨
      w'.db.receipts.committed = (w.db.receipts.commit i).committed)
    (hcount : w'.blobs.length + w.db.receipts.committed.rows.length + (g i).held =
      w.blobs.length + w'.db.receipts.committed.rows.length + q.held) :
    Delivering env m users B R (Function.update g i q) w' := by
  refine ⟨husers.trans h.users, hindexed.unique, hindexed.exclusive, fun j id hid => ?_,
    fun j k id hjk hj hk => ?_, fun b hb n hn hnew hkey => ?_, fun j => ?_, ?_⟩
  · have hold : ∀ {j}, (g j).object? = some id → ∃ n < w'.calls, env.uuid4 n = id := by
      intro j hj
      obtain ⟨n, hn, heq⟩ := h.drawn j id hj
      exact ⟨n, by omega, heq⟩
    by_cases hj : j = i
    · subst hj
      rw [Function.update_self] at hid
      rcases hobject id hid with ho | ⟨rfl, -, hlt⟩
      · exact hold ho
      · exact ⟨w.calls, hlt, rfl⟩
    · rw [Function.update_of_ne hj] at hid
      exact hold hid
  · -- a new object id is none of those drawn before
    have hnew : ∀ {j}, j ≠ i → q.object? = some id → (g j).object? ≠ some id := by
      intro j hj hq hgj
      rcases hobject id hq with ho | ⟨rfl, hfresh, -⟩
      · exact h.apart i j id (Ne.symm hj) ho hgj
      · obtain ⟨n, hn, heq⟩ := h.drawn j _ hgj
        exact hfresh n hn heq
    by_cases hj' : j = i
    · subst hj'
      rw [Function.update_self] at hj
      rw [Function.update_of_ne (Ne.symm hjk)] at hk
      exact hnew (Ne.symm hjk) hj hk
    · rw [Function.update_of_ne hj'] at hj
      by_cases hk' : k = i
      · subst hk'
        rw [Function.update_self] at hk
        exact hnew hj' hk hj
      · rw [Function.update_of_ne hk'] at hk
        exact h.apart j k id hjk hj hk
  · have hold : ∀ b ∈ w.blobs, objectOf b.1 ≠ some (env.uuid4 n) :=
      fun b hb => h.absent b hb n (by omega) hnew
    rcases hblobs with heq | ⟨key, body, id, hkey', hid, heq | heq⟩
    · rw [heq] at hb
      exact hold b hb hkey
    · rw [heq, List.mem_cons] at hb
      rcases hb with rfl | hb
      · obtain ⟨n', hn', hn''⟩ := h.drawn i id hid
        have : objectOf key = some (env.uuid4 n) := hkey
        rw [hkey', Option.some.injEq] at this
        exact hnew n' (by omega) (hn''.trans this)
      · exact hold b hb hkey
    · rw [heq, List.mem_filter] at hb
      exact hold b hb.1 hkey
  · by_cases hj : j = i
    · subst hj
      rwa [Function.update_self]
    · rw [Function.update_of_ne hj]
      refine (h.counted j).mono (hwrites j hj) (hfailed j hj) (fun id hid hno => ?_)
        (fun key hkey hsome hone => ?_) (fun v hv hnone => ?_)
      · rcases hblobs with heq | ⟨key, body, id', hkey', hid', heq | heq⟩
        · rwa [heq]
        · rw [heq]
          intro b hb hbid
          rcases List.mem_cons.1 hb with rfl | hb
          · have : objectOf key = some id := hbid
            rw [hkey', Option.some.injEq] at this
            exact h.apart i j id' (Ne.symm hj) hid' (this ▸ hid)
          · exact hno b hb hbid
        · rw [heq]
          exact fun b hb => hno b (List.mem_filter.1 hb).1
      · have hne : ∀ key' id', objectOf key' = some id' → (g i).object? = some id' →
            key' ≠ key := by
          rintro key' id' hk hid' rfl
          rw [hk] at hkey
          exact h.apart i j id' (Ne.symm hj) hid' hkey
        rcases hblobs with heq | ⟨key', body, id', hkey', hid', heq | heq⟩
        · rwa [heq]
        · rw [heq, copies_cons_of_ne (hne key' id' hkey' hid')]
          exact hone
        · rw [heq, copies_wiped_of_ne (hne key' id' hkey' hid')]
          exact hone
      · rcases hcom with heq | heq
        · rwa [heq]
        · rw [heq]
          have hstaged : (w.db.receipts.staged j v.id).isSome := by
            rw [Store.staged, hv]
            simp [Write.key]
          rw [h.exclusive.get_commit_of_staged (Ne.symm hj) hstaged]
          exact hnone
  · have := h.count
    have := sum_held_update g i q
    omega

/-- A step that touches neither receipts nor blobs. -/
theorem Delivering.quiet {g : ι → Hold} {w w' : World ι} (h : Delivering env m users B R g w)
    (husers : w'.db.users = w.db.users) (hdb : w'.db.receipts = w.db.receipts)
    (hblobs : w'.blobs = w.blobs) (hcalls : w.calls ≤ w'.calls) (hfailed : w'.failed = w.failed) :
    Delivering env m users B R g w' where
  users := husers.trans h.users
  unique := by rw [hdb]; exact h.unique
  exclusive := by rw [hdb]; exact h.exclusive
  drawn i id hid := by
    obtain ⟨n, hn, heq⟩ := h.drawn i id hid
    exact ⟨n, by omega, heq⟩
  apart := h.apart
  absent b hb n hn := h.absent b (hblobs ▸ hb) n (by omega)
  counted i := by
    refine (h.counted i).mono (by rw [hdb]) (by rw [hfailed]) (fun id _ hno => ?_)
      (fun key _ _ hone => ?_) (fun v _ hnone => ?_)
    · rwa [hblobs]
    · rwa [hblobs]
    · rwa [hdb]
  count := by
    rw [hblobs, hdb]
    exact h.count

omit [Fintype ι] in
/-- A delivery whose transaction is rolled back keeps its blob, if it has one. -/
theorem Hold.Counted.rolledBack {w w' : World ι} {i : ι} {q : Hold} (h : q.Counted m w i)
    (hq : q.may .commit → False) (hwrites : w'.db.receipts.writes i = [])
    (hblobs : w'.blobs = w.blobs) : q.Counted m w' i := by
  cases q with
  | idle => exact hwrites
  | loaded id key => exact hwrites
  | object id => exact ⟨hwrites, by rw [hblobs]; exact h.2⟩
  | stored key size => exact ⟨hwrites, h.2.1, by rw [hblobs]; exact h.2.2⟩
  | staged key size => exact (hq trivial).elim
  | deleting id key => exact h
  | gone key => exact h

/-- A delivery is rolled back, and gives up nothing it has in the bucket. -/
theorem Delivering.rolledBack {g : ι → Hold} {w w' : World ι} {i : ι} {q : Hold}
    (h : Delivering env m users B R g w) (hdb : w'.db = w.db.rollback i)
    (hblobs : w'.blobs = w.blobs) (hcalls : w.calls ≤ w'.calls)
    (hfailed : ∀ j, j ≠ i → w'.failed j = w.failed j)
    (hobject : ∀ id, q.object? = some id → (g i).object? = some id)
    (hheld : q.held = (g i).held) (hq : w'.db.receipts.writes i = [] → q.Counted m w' i) :
    Delivering env m users B R (Function.update g i q) w' := by
  have hreceipts : w'.db.receipts = w.db.receipts.rollback i := by rw [hdb]; rfl
  have hwrites : ∀ j, w'.db.receipts.writes j = if j = i then [] else w.db.receipts.writes j := by
    intro j
    rw [hreceipts]
    exact Store.writes_filter_ne _ _ _ _
  refine h.move (by rw [hdb]; rfl) ?_ hcalls (fun id hid => Or.inl (hobject id hid)) (Or.inl hblobs)
    (hq ?_) (fun j hj => ?_) hfailed ?_ ?_
  · rw [hreceipts]
    exact Indexed.rollback ⟨h.unique, h.exclusive⟩ i
  · rw [hwrites, if_pos rfl]
  · rw [hwrites, if_neg hj]
  · rw [hreceipts]
    exact Or.inl rfl
  · rw [hblobs, hreceipts, hheld]
    rfl

/-- A delivery inserts its row. -/
theorem Delivering.insert {g : ι → Hold} {w w' : World ι} {i : ι} {key : String} {size : ℕ}
    {v : Receipt} (h : Delivering env m users B R g w) (hg : g i = .stored key size)
    (hm : v.messageKey = some m) (hlock : w.db.receipts.locked i v.id = false)
    (hnone : (w.db.receipts.view i).get v.id = none)
    (hfree : ∀ x, v.messageKey = some x →
      w.db.receipts.contended i Receipt.messageKey x = false ∧
        w.db.receipts.duplicate i Receipt.messageKey x = false)
    (husers : w'.db.users = w.db.users)
    (hdb : w'.db.receipts = w.db.receipts.stage i (.put v)) (hblobs : w'.blobs = w.blobs)
    (hcalls : w.calls ≤ w'.calls) (hfailed : w'.failed = w.failed) (hi : w.failed i = false) :
    Delivering env m users B R (Function.update g i (.staged key size)) w' := by
  have hown := h.counted i
  rw [hg] at hown
  obtain ⟨hwrites, hkey, hone⟩ := hown
  have hcommitted : w.db.receipts.committed.get v.id = none := by
    have hview : w.db.receipts.view i = w.db.receipts.committed := by
      rw [Store.view, hwrites]
      rfl
    rw [hview] at hnone
    exact hnone
  have hindexed : Indexed w'.db.receipts := by
    rw [hdb]
    refine ⟨h.unique.stage_of_free (fun u x hu hx => ?_), h.exclusive.stage hlock⟩
    cases hu
    exact hfree x hx
  have hobject : ∀ id, (Hold.staged key size).object? = some id → (g i).object? = some id := by
    intro id hid
    rw [hg]
    exact hid
  refine h.move husers hindexed hcalls (fun id hid => Or.inl (hobject id hid)) (Or.inl hblobs)
    ⟨hkey, by rwa [hblobs], by rw [hfailed, hi], v, ?_, hm, by rw [hdb]; exact hcommitted⟩
    (fun j hj => ?_) (fun j _ => by rw [hfailed]) ?_ ?_
  · rw [hdb, Store.writes_stage, hwrites, if_pos rfl, List.nil_append]
  · rw [hdb, Store.writes_stage, if_neg (Ne.symm hj), List.append_nil]
  · rw [hdb]
    exact Or.inl rfl
  · rw [hblobs, hdb, hg]
    rfl

/-- A delivery publishes its row: the blob is no longer its own. -/
theorem Delivering.publish {g : ι → Hold} {w w' : World ι} {i : ι} {key : String} {size : ℕ}
    (h : Delivering env m users B R g w) (hg : g i = .staged key size)
    (hdb : w'.db = w.db.commit i) (hblobs : w'.blobs = w.blobs) (hcalls : w.calls ≤ w'.calls)
    (hfailed : w'.failed = w.failed) :
    Delivering env m users B R (Function.update g i .idle) w' ∧
      ∃ v ∈ w'.db.receipts.committed.rows, v.messageKey = some m := by
  have hown := h.counted i
  rw [hg] at hown
  obtain ⟨-, -, -, v, hv, hm, hnone⟩ := hown
  have hreceipts : w'.db.receipts = w.db.receipts.commit i := by rw [hdb]; rfl
  have hrows : w'.db.receipts.committed.rows = w.db.receipts.committed.rows ++ [v] := by
    have hput : w'.db.receipts.committed = w.db.receipts.committed.put v := by
      rw [hreceipts, Store.committed_commit, Store.view, hv]
      rfl
    rw [hput, Table.rows_put_of_new hnone]
  have hwrites : ∀ j, w'.db.receipts.writes j = if j = i then [] else w.db.receipts.writes j := by
    intro j
    rw [hreceipts]
    exact Store.writes_filter_ne _ _ _ _
  refine ⟨h.move (by rw [hdb]; rfl) ?_ hcalls (by rintro id ⟨⟩) (Or.inl hblobs) ?_
    (fun j hj => ?_) (fun j _ => by rw [hfailed]) (Or.inr (by rw [hreceipts])) ?_, v, ?_, hm⟩
  · rw [hreceipts]
    exact Indexed.commit ⟨h.unique, h.exclusive⟩ i
  · show w'.db.receipts.writes i = []
    rw [hwrites, if_pos rfl]
  · rw [hwrites, if_neg hj]
  · rw [hblobs, hrows, hg, List.length_append]
    show _ + _ + 1 = _ + (_ + 1) + 0
    omega
  · rw [hrows]
    exact List.mem_append_right _ (List.mem_singleton_self v)

/-- A delivery draws an object id for its blob. -/
theorem Delivering.draw {g : ι → Hold} {w : World ι} {i : ι} (h : Delivering env m users B R g w)
    (hg : (g i).passive = true) (hdraw : FreshAt env w.calls) :
    Delivering env m users B R (Function.update g i (.object (env.uuid4 w.calls))) w.tick := by
  have hwrites : w.db.receipts.writes i = [] := by
    have hown := h.counted i
    rcases Hold.passive_cases hg with hg | ⟨id, key, hg⟩ <;> rwa [hg] at hown
  refine h.move rfl ⟨h.unique, h.exclusive⟩ (Nat.le_succ _) (fun id hid => Or.inr ?_) (Or.inl rfl)
    ⟨hwrites, fun b hb => h.absent b hb w.calls le_rfl hdraw⟩ (fun _ _ => rfl) (fun _ _ => rfl)
    (Or.inl rfl) ?_
  · cases hid
    exact ⟨rfl, hdraw, Nat.lt_succ_self _⟩
  · rw [Hold.held_of_passive hg]
    rfl

/-- A delivery stores its blob, or fails to. -/
theorem Delivering.put {g : ι → Hold} {w w' : World ι} {i : ι} {id : UUID} {key : String}
    {b : List UInt8} {q : Hold} (h : Delivering env m users B R g w) (hg : g i = .object id)
    (hkey : objectOf key = some id) (hdb : w'.db = w.db) (hcalls : w.calls ≤ w'.calls)
    (hfailed : w'.failed = w.failed)
    (hq : q = .idle ∧ w'.blobs = w.blobs ∨
      q = .stored key b.length ∧ w'.blobs = (key, b) :: w.blobs) :
    Delivering env m users B R (Function.update g i q) w' := by
  have hown := h.counted i
  rw [hg] at hown
  obtain ⟨hwrites, habsent⟩ := hown
  have hindexed : Indexed w'.db.receipts := by
    rw [hdb]
    exact ⟨h.unique, h.exclusive⟩
  rcases hq with ⟨rfl, hblobs⟩ | ⟨rfl, hblobs⟩
  · refine h.move (by rw [hdb]) hindexed hcalls (fun id hid => nomatch hid) (Or.inl hblobs) ?_
      (fun j _ => by rw [hdb]) (fun j _ => by rw [hfailed]) (Or.inl (by rw [hdb])) ?_
    · show w'.db.receipts.writes i = []
      rw [hdb, hwrites]
    · rw [hblobs, hdb, hg]
      rfl
  · refine h.move (by rw [hdb]) hindexed hcalls (fun id' hid => Or.inl ?_)
      (Or.inr ⟨key, b, id, hkey, by rw [hg]; rfl, Or.inl hblobs⟩)
      ⟨by rw [hdb, hwrites], by rw [hkey]; rfl, ?_⟩
      (fun j _ => by rw [hdb]) (fun j _ => by rw [hfailed]) (Or.inl (by rw [hdb])) ?_
    · rw [hg]
      exact hkey.symm.trans hid
    · rw [hblobs, copies_cons_self, copies_eq_zero]
      rintro p hp rfl
      exact habsent p hp hkey
    · rw [hblobs, hdb, hg, List.length_cons]
      show _ + 1 + _ + 0 = _ + _ + 1
      omega

/-- A delivery that has lost wipes its own blob. -/
theorem Delivering.wipe {g : ι → Hold} {w w' : World ι} {i : ι} {key : String} {size : ℕ}
    (h : Delivering env m users B R g w) (hg : g i = .stored key size) (hdb : w'.db = w.db)
    (hcalls : w.calls ≤ w'.calls) (hfailed : w'.failed = w.failed)
    (hblobs : w'.blobs = w.blobs.filter (fun b => b.1 ≠ key)) :
    Delivering env m users B R (Function.update g i .idle) w' := by
  have hown := h.counted i
  rw [hg] at hown
  obtain ⟨hwrites, hkey, hone⟩ := hown
  obtain ⟨id, hid⟩ := Option.isSome_iff_exists.1 hkey
  refine h.move (by rw [hdb]) ?_ hcalls (fun id hid => nomatch hid)
    (Or.inr ⟨key, [], id, hid, by rw [hg]; exact hid, Or.inr hblobs⟩) ?_
    (fun j _ => by rw [hdb]) (fun j _ => by rw [hfailed]) (Or.inl (by rw [hdb])) ?_
  · rw [hdb]
    exact ⟨h.unique, h.exclusive⟩
  · show w'.db.receipts.writes i = []
    rw [hdb, hwrites]
  · have hlen := length_wiped w.blobs key
    rw [hblobs, hdb, hg]
    show _ + _ + 1 = _ + _ + 0
    omega

/-- A delivery has read a row, or none. -/
theorem Delivering.load {g : ι → Hold} {w : World ι} {i : ι} {q : Hold}
    (h : Delivering env m users B R g w) (hg : (g i).passive = true) (hq : q.passive = true) :
    Delivering env m users B R (Function.update g i q) w := by
  have hwrites : w.db.receipts.writes i = [] := by
    have hown := h.counted i
    rcases Hold.passive_cases hg with hg | ⟨id, key, hg⟩ <;> rwa [hg] at hown
  refine h.move rfl ⟨h.unique, h.exclusive⟩ le_rfl (fun id hid => ?_) (Or.inl rfl) ?_
    (fun _ _ => rfl) (fun _ _ => rfl) (Or.inl rfl) ?_
  · rcases Hold.passive_cases hq with rfl | ⟨id', key, rfl⟩ <;> cases hid
  · rcases Hold.passive_cases hq with rfl | ⟨id', key, rfl⟩ <;> exact hwrites
  · rw [Hold.held_of_passive hg, Hold.held_of_passive hq]

/-- A delivery that holds on to what it did. -/
theorem Delivering.stay {g : ι → Hold} {w : World ι} {i : ι} {q : Hold}
    (h : Delivering env m users B R g w) (hq : q = g i) :
    Delivering env m users B R (Function.update g i q) w := by
  rw [hq, Function.update_eq_self]
  exact h

omit [Fintype ι] in
/-- A `SELECT` answers with rows that meet its condition, and with the users stored. -/
theorem exec_reads {w w' : World ι} {i : ι} {o : Op} {r : Except PyExc o.Res}
    (hx : exec env i o w = some (r, w')) : Sound o r ∧ UsersAre w.db.users o r := by
  cases o with
  | sql s =>
      rcases exec_sql_cases hx with ⟨-, rfl, -⟩ | ⟨-, ⟨e, rfl⟩, -⟩ | ⟨a, db, -, rfl, hs, -⟩
      · exact ⟨Sound.error, by cases s <;> trivial⟩
      · exact ⟨Sound.error, by cases s <;> trivial⟩
      · cases s with
        | selectReceipts params p =>
            simp only [Stmt.exec, Option.some.injEq, Prod.mk.injEq] at hs
            refine ⟨fun v hv => ?_, trivial⟩
            rw [select_ok hs.1, List.mem_filter] at hv
            exact hv.2
        | selectUsers params p =>
            simp only [Stmt.exec, Option.some.injEq, Prod.mk.injEq] at hs
            refine ⟨trivial, ?_⟩
            obtain ⟨hs, -⟩ := hs
            split at hs
            · cases hs
              rfl
            · cases hs
        | _ => exact ⟨trivial, trivial⟩
  | _ => exact ⟨by cases r <;> trivial, by cases r <;> trivial⟩

/-- What is assumed of a step of a delivery: no commit takes effect and raises, every
identifier drawn is new, and blobs are deleted when asked. -/
structure AssumedSound (env : Env) (i : ι) (o : Op) (w : World ι) : Prop where
  steps : StepsSound env i o w
  wiped : ∀ key, o = .deleteObject key → env.fault w.calls = .none

/-- And no blob is stored by a `put_object` that raises. -/
structure DeliverySound (env : Env) (i : ι) (o : Op) (w : World ι) : Prop
    extends AssumedSound env i o w where
  stored : ∀ key body mime, o = .putObject key body mime → env.fault w.calls ≠ .after

/-- The rows are as before, or there is one for the message. -/
def SameOrMarked (m : UUID × String) (w w' : World ι) : Prop :=
  w'.db.receipts.committed = w.db.receipts.committed ∨
    ∃ v ∈ w'.db.receipts.committed.rows, v.messageKey = some m

/-- **One statement** of a delivery. -/
theorem Delivering.sql {g : ι → Hold} {w w' : World ι} {i : ι} {s : Stmt} {r : Except PyExc s.Res}
    (h : Delivering env m users B R g w) (hmay : (g i).may (.sql s)) (hmark : MarksAs m (.sql s))
    (hx : exec env i (.sql s) w = some (r, w')) :
    Delivering env m users B R (Function.update g i ((g i).next (.sql s) r)) w' ∧
      w'.db.receipts.committed = w.db.receipts.committed := by
  have hcommit : (g i).may .commit → False := by
    intro hc
    cases hg : g i <;> rw [hg] at hmay hc <;> first | exact hc | (cases s <;> exact hmay)
  rcases exec_sql_cases hx with ⟨-, rfl, rfl⟩ | ⟨-, ⟨e, rfl⟩, rfl⟩ | ⟨a, db, hf, rfl, hs, rfl⟩
  · rw [Hold.next_sql_error, Function.update_eq_self]
    exact ⟨h.quiet rfl rfl rfl (Nat.le_succ _) rfl, rfl⟩
  · rw [Hold.next_sql_error]
    exact ⟨h.rolledBack rfl rfl (Nat.le_succ _) (fun j hj => if_neg hj) (fun id hid => hid) rfl
      (fun hputs => (h.counted i).rolledBack hcommit hputs rfl), rfl⟩
  · have hframe := Stmt.exec_frame hs
    -- a statement that does not write receipts
    have hquiet : s.writesReceipts = false →
        Delivering env m users B R g ({ w with db := db } : World ι).tick ∧
          db.receipts.committed = w.db.receipts.committed := by
      intro hw
      exact ⟨h.quiet hframe.users (hframe.receipts hw) rfl (Nat.le_succ _) rfl,
        congrArg Store.committed (hframe.receipts hw)⟩
    cases s with
    | insertReceipt v =>
        cases hg : g i with
        | stored key size =>
            simp only [Stmt.exec] at hs
            split at hs
            · obtain ⟨⟨r, st⟩, hins, heq⟩ := Option.map_eq_some_iff.1 hs
              cases heq
              obtain ⟨hlock, hnone, hfree, rfl⟩ := insert_ok hins
              exact ⟨h.insert hg (v := v.stamp _) hmark hlock hnone hfree rfl rfl rfl
                (Nat.le_succ _) rfl hf, rfl⟩
            · cases hs
        | _ => rw [hg] at hmay; exact hmay.elim
    | deleteReceipt k => exact hmark.elim
    | updateReceipt k cols => cases hg : g i <;> rw [hg] at hmay <;> exact hmay.elim
    | selectReceipts params p =>
        obtain ⟨hstay, hcom⟩ := hquiet rfl
        refine ⟨?_, hcom⟩
        cases hg : g i with
        | idle =>
            refine hstay.load (by rw [hg]; rfl) ?_
            exact Hold.passive_next_select rfl a
        | loaded id key =>
            refine hstay.load (by rw [hg]; rfl) ?_
            exact Hold.passive_next_select rfl a
        | staged key size => rw [hg] at hmay; exact hmay.elim
        | deleting id key => rw [hg] at hmay; exact hmay.elim
        | _ => exact hstay.stay hg.symm
    | _ =>
        obtain ⟨hstay, hcom⟩ := hquiet rfl
        refine ⟨hstay.stay ?_, hcom⟩
        cases g i <;> rfl

/-- **One operation** of a delivery. -/
theorem Delivering.step {g : ι → Hold} {w w' : World ι} {i : ι} {o : Op} {r : Except PyExc o.Res}
    (h : Delivering env m users B R g w) (hmay : (g i).may o) (hmark : MarksAs m o)
    (hok : DeliverySound env i o w) (hx : exec env i o w = some (r, w')) :
    Delivering env m users B R (Function.update g i ((g i).next o r)) w' ∧ SameOrMarked m w w' := by
  -- a step that the call does not notice
  have hstay : ∀ {w'' : World ι}, (g i).next o r = g i → w''.db = w.db → w''.blobs = w.blobs →
      w.calls ≤ w''.calls → w''.failed = w.failed →
      Delivering env m users B R (Function.update g i ((g i).next o r)) w'' ∧
        SameOrMarked m w w'' := by
    intro w'' hnext hdb hblobs hcalls hfailed
    rw [hnext, Function.update_eq_self]
    exact ⟨h.quiet (by rw [hdb]) (by rw [hdb]) hblobs hcalls hfailed, Or.inl (by rw [hdb])⟩
  cases o with
  | sql s =>
      obtain ⟨hd, hcom⟩ := h.sql hmay hmark hx
      exact ⟨hd, Or.inl hcom⟩
  | commit =>
      cases hg : g i with
      | staged key size =>
          have hown := h.counted i
          rw [hg] at hown
          rcases exec_commit_sound (hok.steps.1 rfl) hx with
            ⟨hf, -, -⟩ | ⟨-, rfl, rfl⟩ | ⟨-, rfl, rfl⟩
          · rw [hown.2.2.1] at hf
            cases hf
          · have hpub : Delivering env m users B R (Function.update g i .idle)
                { w with db := w.db.commit i }.tick ∧
                ∃ v ∈ (w.db.commit i).receipts.committed.rows, v.messageKey = some m :=
              h.publish hg rfl rfl (Nat.le_succ _) rfl
            exact ⟨hpub.1, Or.inr hpub.2⟩
          · refine ⟨h.rolledBack rfl rfl (Nat.le_succ _) (fun j hj => if_neg hj) (fun id hid => ?_)
              (by rw [hg]; rfl) (fun hputs => ⟨hputs, hown.1, hown.2.1⟩), Or.inl rfl⟩
            rw [hg]
            exact hid
      | deleting id key =>
          have hown := h.counted i
          rw [hg] at hown
          exact hown.elim
      | _ => rw [hg] at hmay; exact hmay.elim
  | rollback => cases hg : g i <;> rw [hg] at hmay <;> exact hmay.elim
  | putObject key body mime =>
      cases hg : g i with
      | object id =>
          rw [hg] at hmay
          have hput := hok.stored key body mime rfl
          cases hf : env.fault w.calls <;> simp only [exec, hf, World.effect] at hx <;> cases hx
          · exact ⟨h.put hg hmay rfl (Nat.le_succ _) rfl (Or.inr ⟨rfl, rfl⟩), Or.inl rfl⟩
          · exact ⟨h.put (b := body) hg hmay rfl (Nat.le_succ _) rfl (Or.inl ⟨rfl, rfl⟩), Or.inl rfl⟩
          · exact absurd hf hput
      | _ => rw [hg] at hmay; exact hmay.elim
  | deleteObject key =>
      cases hg : g i with
      | stored key' size =>
          rw [hg] at hmay
          have hk : key = key' := hmay
          subst hk
          have hf := hok.wiped key rfl
          simp only [exec, hf, World.effect] at hx
          cases hx
          exact ⟨h.wipe hg rfl (Nat.le_succ _) rfl rfl, Or.inl rfl⟩
      | gone key' =>
          have hown := h.counted i
          rw [hg] at hown
          exact hown.elim
      | _ => rw [hg] at hmay; exact hmay.elim
  | delay task =>
      cases hf : env.fault w.calls <;> simp only [exec, hf, World.effect] at hx <;> cases hx
      all_goals
        refine hstay ?_ rfl rfl (Nat.le_succ _) rfl
        cases g i <;> rfl
  | getObject key =>
      simp only [exec] at hx
      split at hx
      all_goals
        cases hx
        refine hstay ?_ rfl rfl (Nat.le_succ _) rfl
        cases g i <;> rfl
  | uuid4 =>
      cases hx
      refine ⟨?_, Or.inl rfl⟩
      cases hg : g i with
      | idle => exact h.draw (by rw [hg]; rfl) (hok.steps.2 rfl)
      | loaded id key => exact h.draw (by rw [hg]; rfl) (hok.steps.2 rfl)
      | staged key size => rw [hg] at hmay; exact hmay.elim
      | deleting id key => rw [hg] at hmay; exact hmay.elim
      | _ =>
          have htick : Delivering env m users B R g w.tick :=
            h.quiet rfl rfl rfl (Nat.le_succ _) rfl
          exact htick.stay hg.symm
  | today | utcnow | ext x =>
      cases hx
      refine hstay ?_ rfl rfl (Nat.le_succ _) rfl
      cases g i <;> rfl

/-- The assertion of the deliveries; once `E` has happened, there is a row for the message. -/
def Delivered (env : Env) (m : UUID × String) (users : List User) (B R : ℕ) (E : Prop)
    (g : ι → Hold) (w : World ι) : Prop :=
  Delivering env m users B R g w ∧ (E → ∃ v ∈ w.db.receipts.committed.rows, v.messageKey = some m)

/-- What a delivery may ask for. -/
def MayMark (m : UUID × String) (q : Hold) (o : Op) : Prop := q.may o ∧ MarksAs m o

/-- How a delivery goes on. -/
def NextMark (users : List User) (q : Hold) (o : Op) (r : Except PyExc o.Res) (q' : Hold) : Prop :=
  (q' = q.next o r ∧ Sound o r) ∧ UsersAre users o r

/-- **The deliveries keep their count in every run** whose steps are sound and in which
no call dies. -/
theorem keeps_delivered (E : Prop) :
    (backend env : Machine ι Op.Res PyExc (World ι) Empty).Keeps (Delivered env m users B R E)
      (fun _ => MayMark m) (fun _ => NextMark users)
      (fun _ q (_ : InboundEmailResult) => q.passive = true ∧ True)
      (fun _ q _ => q.passive = true ∧ True) (DeliverySound env) False where
  step := by
    intro g w i o r w' h hmay hok hx
    obtain ⟨hd, hrow⟩ := h
    obtain ⟨hd', hsame⟩ := hd.step hmay.1 hmay.2 hok hx
    obtain ⟨hsound, husers⟩ := exec_reads hx
    refine ⟨_, ⟨⟨rfl, hsound⟩, hd.users ▸ husers⟩, hd', fun he => ?_⟩
    rcases hsame with heq | hex
    · rw [heq]
      exact hrow he
    · exact hex
  ret := fun {g w i _} h hq => ⟨.idle, ⟨rfl, trivial⟩,
    h.1.rolledBack rfl rfl le_rfl (fun _ hj => if_neg hj) (fun id hid => nomatch hid)
      (Hold.held_of_passive hq.1).symm (fun hputs => hputs), h.2⟩
  raise := fun {g w i _} h hq => ⟨.idle, ⟨rfl, trivial⟩,
    h.1.rolledBack rfl rfl le_rfl (fun _ hj => if_neg hj) (fun id hid => nomatch hid)
      (Hold.held_of_passive hq.1).symm (fun hputs => hputs), h.2⟩
  kill := fun hm _ => hm.elim
  event := fun {_ _ e} _ => e.elim

/-! ## One receipt, and no blob without one -/

/-- `N` calls of `process_inbound_email`, about to start. -/
def deliveries (env : Env) (payload : ι → InboundEmail) (w : World ι) :
    Config ι Op.Res PyExc InboundEmailResult (World ι) :=
  ⟨fun i => processInboundEmail env (payload i), w⟩

/-- Some call's commit has been answered without an error. -/
def SomeCommit (env : Env) {α : Type} (c : Config ι Op.Res PyExc α (World ι))
    (as : List (Machine.Action ι Empty)) : Prop :=
  ∃ before i after k w', as = before ++ .step i :: after ∧
    ((backend env).run c before).threads i = .call .commit k ∧
    exec env i .commit ((backend env).run c before).shared = some (.ok (), w')

/-- The rows that carry the message. -/
def markedRows (m : UUID × String) (w : World ι) : List Receipt :=
  w.db.receipts.committed.rows.filter (fun v => v.messageKey = some m)

/-- What the deliveries of one message are to leave behind. -/
structure OneReceiptNoOrphan (m : UUID × String) (w w' : World ι) (committed : Prop) : Prop where
  atMostOne : (markedRows m w').length ≤ 1
  exactlyOne : committed → (markedRows m w').length = 1
  noOrphan : w'.blobs.length + w.db.receipts.committed.rows.length =
    w.blobs.length + w'.db.receipts.committed.rows.length

omit [Fintype ι] in
/-- Rows with one message are one row. -/
theorem length_markedRows_le {w : World ι}
    (h : w.db.receipts.UniqueOn Receipt.messageKey) : (markedRows m w).length ≤ 1 :=
  h.length_filter_le (fun _ hv => of_decide_eq_true hv)

omit [Fintype ι] in
/-- A table without two rows for one message, and without uncommitted writes, is indexed. -/
theorem indexed_start {w : World ι} (hpending : w.db.receipts.pending = [])
    (hunique : ∀ u ∈ w.db.receipts.committed.rows, ∀ v ∈ w.db.receipts.committed.rows, ∀ x,
      u.messageKey = some x → v.messageKey = some x → u = v) : Indexed w.db.receipts := by
  refine ⟨Store.uniqueOn_of_pending_nil hpending hunique, ?_⟩
  rw [Store.eq_ofTable hpending]
  exact Store.exclusive_ofTable _

/-- The deliveries, about to start. -/
theorem delivering_start {w : World ι} (hpending : w.db.receipts.pending = [])
    (hunique : ∀ u ∈ w.db.receipts.committed.rows, ∀ v ∈ w.db.receipts.committed.rows, ∀ x,
      u.messageKey = some x → v.messageKey = some x → u = v)
    (hfresh : ∀ b ∈ w.blobs, ∀ n, w.calls ≤ n → objectOf b.1 ≠ some (env.uuid4 n)) :
    Delivering env m w.db.users w.blobs.length w.db.receipts.committed.rows.length
      (fun _ => .idle) w := by
  refine ⟨rfl, ?_, ?_, fun i id hid => (nomatch hid), fun i j id _ hid => (nomatch hid),
    fun b hb n hn _ => hfresh b hb n hn, fun i => ?_, ?_⟩
  · exact (indexed_start hpending hunique).unique
  · exact (indexed_start hpending hunique).exclusive
  · show w.db.receipts.writes i = []
    rw [Store.writes, hpending]
    rfl
  · show _ = _ + _ + ∑ _ : ι, 0
    rw [Finset.sum_const_zero]
    omega

/-- The deliveries are where their holds say, and the counts are right. -/
abbrev Tracked (env : Env) (m : UUID × String) (users : List User) (B R : ℕ) (E : Prop)
    (c : Config ι Op.Res PyExc InboundEmailResult (World ι)) : Prop :=
  Machine.Followed (Delivered env m users B R E) (fun _ => MayMark m) (fun _ => NextMark users)
    (fun _ q _ => q.passive = true ∧ True) (fun _ q _ => q.passive = true ∧ True) c

/-- Once a call's commit has been answered, there is a row for the message to the end. -/
theorem exists_marked_of_commit {c : Config ι Op.Res PyExc InboundEmailResult (World ι)}
    {as : List (Machine.Action ι Empty)}
    (hsteps : (backend env).Along (Machine.OpOk (DeliverySound env) False) c as)
    (hc : Tracked env m users B R False c) (hcommit : SomeCommit env c as) :
    ∃ v ∈ ((backend env).run c as).shared.db.receipts.committed.rows, v.messageKey = some m := by
  obtain ⟨before, i, after, k, w', rfl, hcall, hx⟩ := hcommit
  obtain ⟨hbefore, hrest⟩ := (Machine.along_append _ _ _).1 hsteps
  obtain ⟨hstep, hafter⟩ := hrest
  have hmid := (keeps_delivered False).run hbefore hc
  have hact := (keeps_delivered False).act _ _ hstep hmid
  have hrow : ∃ v ∈ w'.db.receipts.committed.rows, v.messageKey = some m := by
    obtain ⟨g, ⟨hd, -⟩, hat⟩ := hmid
    have hi := hat i
    rw [hcall, Prog.follows_call] at hi
    have hmay := hi.1.1
    cases hg : g i with
    | staged key size =>
        rcases exec_commit_cases hx with ⟨-, h, -⟩ | ⟨-, -, rfl⟩ | ⟨-, h, -⟩ | ⟨-, h, -⟩
        · cases h
        · have hpub : Delivering env m users B R (Function.update g i .idle)
              { ((backend env).run c before).shared with
                db := ((backend env).run c before).shared.db.commit i }.tick ∧
              ∃ v ∈ (((backend env).run c before).shared.db.commit i).receipts.committed.rows,
                v.messageKey = some m :=
            hd.publish hg rfl rfl (Nat.le_succ _) rfl
          exact hpub.2
        · cases h
        · cases h
    | deleting id key =>
        have hown := hd.counted i
        rw [hg] at hown
        exact hown.elim
    | _ => rw [hg] at hmay; exact hmay.elim
  have hshared : ((backend env).act ((backend env).run c before) (.step i)).shared = w' := by
    rw [Machine.act_step_call hcall hx]
  have hmarked : Tracked env m users B R True
      ((backend env).act ((backend env).run c before) (.step i)) := by
    obtain ⟨g, ⟨hd, -⟩, hat⟩ := hact
    refine ⟨g, ⟨hd, fun _ => ?_⟩, hat⟩
    rw [hshared]
    exact hrow
  obtain ⟨g, ⟨-, hend⟩, -⟩ := (keeps_delivered True).run hafter hmarked
  rw [Machine.run_append]
  exact hend trivial

/-- **Concurrent deliveries of one email** leave one receipt and no blob without one: in
every run to the end of any number of calls that resolve to one user and carry one
message id, in which no `put_object` that raises has stored its blob. -/
theorem oneReceiptNoOrphan_run (payload : ι → InboundEmail) {u : User} {messageId : String}
    {w : World ι} {as : List (Machine.Action ι Empty)}
    (hmessage : ∀ i, (payload i).messageId = messageId)
    (hresolve : ∀ i, resolvedUser env.unicode w.db.users (payload i).toAddress = some u)
    (hpending : w.db.receipts.pending = [])
    (hunique : ∀ u ∈ w.db.receipts.committed.rows, ∀ v ∈ w.db.receipts.committed.rows, ∀ x,
      u.messageKey = some x → v.messageKey = some x → u = v)
    (hfresh : ∀ b ∈ w.blobs, ∀ n, w.calls ≤ n → objectOf b.1 ≠ some (env.uuid4 n))
    (hsteps : (backend env).Along (Machine.OpOk (DeliverySound env) False)
      (deliveries env payload w) as)
    (hended : ∀ i, (((backend env).run (deliveries env payload w) as).threads i).ended = true) :
    OneReceiptNoOrphan (u.id, messageId) w
      ((backend env).run (deliveries env payload w) as).shared
      (SomeCommit env (deliveries env payload w) as) := by
  have hstart := @delivering_start ι _ env (u.id, messageId) _ w hpending hunique hfresh
  have hcalls : ∀ i, ((deliveries env payload w).threads i).Follows
      (MayMark (u.id, messageId)) (NextMark w.db.users) (fun q _ => q.passive = true ∧ True)
      (fun q _ => q.passive = true ∧ True) Hold.idle := by
    intro i
    have hmark := marking_processInboundEmail env (payload i) (hresolve i)
    rw [hmessage i] at hmark
    exact (goes_processInboundEmail env (payload i)).and hmark
  have hfirst : Tracked env (u.id, messageId) w.db.users w.blobs.length
      w.db.receipts.committed.rows.length False (deliveries env payload w) :=
    ⟨fun _ => .idle, ⟨hstart, False.elim⟩, hcalls⟩
  obtain ⟨g, ⟨hd, -⟩, hat⟩ := (keeps_delivered False).run hsteps hfirst
  have hheld : ∀ i, (g i).held = 0 := by
    intro i
    have hi := hat i
    have he := hended i
    cases hp : ((backend env).run (deliveries env payload w) as).threads i with
    | ret a =>
        rw [hp, Prog.follows_ret] at hi
        exact Hold.held_of_passive hi.1
    | raise e =>
        rw [hp, Prog.follows_raise] at hi
        exact Hold.held_of_passive hi.1
    | call o k =>
        rw [hp] at he
        cases he
  have hle := length_markedRows_le (m := (u.id, messageId)) hd.unique
  refine ⟨hle, fun hcommit => ?_, ?_⟩
  · have hrow := exists_marked_of_commit hsteps hfirst hcommit
    obtain ⟨v, hv, hm⟩ := hrow
    have hmem : v ∈ markedRows (u.id, messageId)
        ((backend env).run (deliveries env payload w) as).shared := by
      rw [markedRows, List.mem_filter, decide_eq_true_eq]
      exact ⟨hv, hm⟩
    exact le_antisymm hle (List.length_pos_of_mem hmem)
  · have hcount := hd.count
    rw [Finset.sum_eq_zero (fun i _ => hheld i)] at hcount
    exact hcount

end counts

/-- Two deliveries that take turns: both pass the dedup read, and one of them loses. -/
def takingTurns : List (Machine.Action (Fin 2) Empty) :=
  (List.replicate 15 [.step 0, .step 1]).flatten

/-- Two deliveries of an email with one image. -/
theorem oneReceiptNoOrphan_run_sample :
    OneReceiptNoOrphan (7, "m-1") (World.ofDb (Db.ofUsers [sampleUser]))
      ((backend Env.quiet).run (deliveries Env.quiet
        (fun _ : Fin 2 => sampleEmail [jpegAttachment] (by decide))
        (World.ofDb (Db.ofUsers [sampleUser]))) takingTurns).shared
      (SomeCommit Env.quiet (deliveries Env.quiet
        (fun _ : Fin 2 => sampleEmail [jpegAttachment] (by decide))
        (World.ofDb (Db.ofUsers [sampleUser]))) takingTurns) := by
  refine oneReceiptNoOrphan_run (fun _ => sampleEmail [jpegAttachment] (by decide))
    (u := sampleUser) (fun _ => rfl) (fun _ => sampleAddress_resolves) rfl
    (fun _ hu => (nomatch hu)) (fun _ hb => (nomatch hb)) ?_ (by decide +kernel)
  refine along_of_calls_lt (n := 1000) (fun _ _ _ hw => ⟨⟨⟨fun _ h => (nomatch h),
    fun _ => freshAt_quiet hw⟩, fun _ _ => rfl⟩, fun _ _ _ _ h => (nomatch h)⟩) ?_ (by decide)
  intro i hi
  simp [takingTurns] at hi

/-- Surroundings in which the first blob is stored by a `put_object` that raises. -/
def Env.lostPut : Env := { Env.quiet with fault := fun n => if n = 4 then .after else .none }

/-- One delivery whose blob is stored by a `put_object` that raises. -/
def lostDelivery : Config (Fin 1) Op.Res PyExc InboundEmailResult (World (Fin 1)) :=
  deliveries Env.lostPut (fun _ => sampleEmail [jpegAttachment] length_jpegAttachment)
    (World.ofDb (Db.ofUsers [sampleUser]))

/-- The program asks for a blob to be stored. -/
def asksPut {α : Type} : Service α → Bool
  | .call (.putObject _ _ _) _ => true
  | _ => false

/-- The blob that is stored by a `put_object` that raises stays, and no row names it. -/
theorem not_oneReceiptNoOrphan_lost_put :
    (backend Env.lostPut).Along (Machine.OpOk (AssumedSound Env.lostPut) False) lostDelivery
        (List.replicate 6 (.step 0)) ∧
      (((backend Env.lostPut).run lostDelivery (List.replicate 6 (.step 0))).threads 0).ended = true ∧
      ¬OneReceiptNoOrphan (sampleUser.id, "m-1") lostDelivery.shared
        ((backend Env.lostPut).run lostDelivery (List.replicate 6 (.step 0))).shared
        (SomeCommit Env.lostPut lostDelivery (List.replicate 6 (.step 0))) := by
  refine ⟨?_, by decide, fun h => ?_⟩
  · -- only the fifth operation is struck, and it is the `put_object`
    have hquiet : ∀ (i : Fin 1) (o : Op) (w : World (Fin 1)), w.calls < 6 → w.calls ≠ 4 →
        AssumedSound Env.lostPut i o w := by
      intro i o w hlt hne
      have hnone : Env.lostPut.fault w.calls = .none := if_neg hne
      refine ⟨⟨fun _ h => ?_, fun _ => freshAt_quiet (by omega)⟩, fun _ _ => hnone⟩
      rw [hnone] at h
      cases h
    have hput : asksPut (((backend Env.lostPut).run lostDelivery
        (List.replicate 4 (.step 0))).threads 0) = true := by
      decide
    have hafter : ((backend Env.lostPut).run lostDelivery
        (List.replicate 5 (.step 0))).shared.calls = 5 := by
      decide
    rw [show List.replicate 6 (Machine.Action.step (0 : Fin 1)) = List.replicate 4 (.step 0) ++
      (.step 0 :: [.step 0]) from rfl, Machine.along_append]
    refine ⟨along_of_calls_lt (n := 4) (fun i o w hw => hquiet i o w (by omega) (by omega)) ?_
      (by decide), fun o k hcall => ?_, fun o k _ => hquiet 0 o _ ?_ ?_, trivial⟩
    · intro i hi
      simp at hi
    · rw [hcall] at hput
      cases o with
      | putObject key body mime =>
          exact ⟨⟨fun h => (nomatch h), fun h => (nomatch h)⟩, fun _ h => (nomatch h)⟩
      | _ => cases hput
    · exact lt_of_eq_of_lt hafter (by decide)
    · exact ne_of_eq_of_ne hafter (by decide)
  · have hblobs : ((backend Env.lostPut).run lostDelivery
        (List.replicate 6 (.step 0))).shared.blobs.length = 1 := by
      decide
    have hrows : ((backend Env.lostPut).run lostDelivery
        (List.replicate 6 (.step 0))).shared.db.receipts.committed.rows.length = 0 := by
      decide
    have hcount := h.noOrphan
    rw [hblobs, hrows] at hcount
    cases hcount

end SpendLens
