/-
# Two registrations of one email

`create_user` makes no check before its `INSERT`: it leaves the unique indexes of the users' table
to refuse a second row, so that of two registrations at once only one can win.  Here registrations
and logins run interleaved over one table.  The one that wins is told so after its row is committed,
and the row stays; whoever is told that the email is taken has a committed row against him.
-/
import SpendLens.Accounts
import SpendLens.Statement

namespace SpendLens.Registering

/-! ## The table of the users -/

/-- What a session of the sign-in asks its database for. -/
inductive AccountOp where
  | insertUser (user : Account)
  | selectUsers (email : String)
  | refreshUser (id : UUID)
  | commit
  | rollback

@[reducible] def AccountOp.Res : AccountOp → Type
  | selectUsers _ => List Account
  | refreshUser _ => List Account
  | _ => Unit

/-- The unique index on the emails. -/
def emailEntry (a : Account) : Option String := some a.email

/-- The unique index on the tokens of the inboxes. -/
def tokenEntry (a : Account) : Option String := some a.inboxToken

/-- The table with what open transactions have written, and the operations answered so far. -/
structure SignIns (ι : Type) where
  users : Store ι Account UUID Account.id
  calls : ℕ

section machine

variable {ι : Type} [DecidableEq ι]

/-- `INSERT` under the primary key and two unique indexes: it waits for an open transaction that
holds one of the entries and fails on an existing one. -/
def insertUser (users : Store ι Account UUID Account.id) (i : ι) (a : Account) :
    Option (Except SignInError Unit × Store ι Account UUID Account.id) :=
  if users.locked i a.id || users.contended i emailEntry a.email ||
      users.contended i tokenEntry a.inboxToken then none
  else if ((users.view i).get a.id).isSome || users.duplicate i emailEntry a.email ||
      users.duplicate i tokenEntry a.inboxToken then
    some (.error (.other .integrityError), users.rollback i)
  else some (.ok (), users.stage i (.put a))

/-- An answer that depends on a fault; a statement that fails rolls its transaction back. -/
def SignIns.answer {α : Type} (s : SignIns ι) (i : ι) (f : Fault) (r : Except SignInError α)
    (users : Store ι Account UUID Account.id) : Option (Except SignInError α × SignIns ι) :=
  match f with
  | .none => some (r, ⟨users, s.calls + 1⟩)
  | .before => some (.error (.other .dbapiError), ⟨s.users.rollback i, s.calls + 1⟩)
  | .after => some (.error (.other .dbapiError), ⟨users.rollback i, s.calls + 1⟩)

/-- Answer one operation of session `i`; `none` while it waits for a lock. -/
def SignIns.exec (fault : ℕ → Fault) (i : ι) :
    (o : AccountOp) → SignIns ι → Option (Except SignInError o.Res × SignIns ι)
  | .insertUser a, s =>
      if (storeText 255 (some a.email)).isOk then
        (insertUser s.users i a).bind (fun x => s.answer i (fault s.calls) x.1 x.2)
      else s.answer i (fault s.calls) (.error (.other .dataError)) (s.users.rollback i)
  | .selectUsers email, s =>
      if textOk email then
        s.answer i (fault s.calls) (.ok ((s.users.view i).rows.filter (fun a => a.email = email)))
          s.users
      else s.answer i (fault s.calls) (.error (.other .dataError)) (s.users.rollback i)
  | .refreshUser id, s =>
      s.answer i (fault s.calls) (.ok ((s.users.view i).rows.filter (fun a => a.id = id))) s.users
  | .commit, s => s.answer i (fault s.calls) (.ok ()) (s.users.commit i)
  | .rollback, s => some (.ok (), ⟨s.users.rollback i, s.calls + 1⟩)

/-- The sessions `ι` on one table. -/
def signIns (fault : ℕ → Fault) : Machine ι AccountOp.Res SignInError (SignIns ι) Empty where
  exec := SignIns.exec fault
  close i s := { s with users := s.users.rollback i }
  event e _ := e.elim
  crashed := .other .workerLost

end machine

/-! ## The services -/

section services

variable {Salt : Type} (B : Bcrypt Salt) (U : Unicode)

/-- Flush the new row; a unique index that refuses it says that the email is registered. -/
def flushUser (user : Account) : Prog AccountOp.Res SignInError Unit :=
  tryCatch (Prog.perform (AccountOp.insertUser user)) (fun e =>
    if e = .other .integrityError then
      (Prog.perform AccountOp.rollback).bind fun _ => .raise .emailAlreadyRegistered
    else .raise e)

/-- The row of `session.refresh`. -/
def refreshed : List Account → Prog AccountOp.Res SignInError Account
  | a :: _ => .ret a
  | [] => .raise (.other .invalidRequest)

/-- `create_user`. -/
def createUser (r : Registration Salt) : Prog AccountOp.Res SignInError Account :=
  (Prog.ofExcept (hashPassword B r.salt r.password)).bind fun hash =>
  (flushUser ⟨r.id, normaliseEmail U r.email, hash, r.inboxToken⟩).bind fun _ =>
  (Prog.perform AccountOp.commit).bind fun _ =>
  (Prog.perform (AccountOp.refreshUser r.id)).bind refreshed

/-- The verdict on the user that is found. -/
def verified (password : String) : List Account → Except SignInError Account
  | [] => do
      -- the answer takes as long as with an account
      let _ ← verifyPassword B password dummyHash
      .error .invalidCredentials
  | [user] => do
      if ← verifyPassword B password user.passwordHash then .ok user
      else .error .invalidCredentials
  | _ => .error (.other .multipleResultsFound)

/-- `authenticate`. -/
def authenticate (email password : String) : Prog AccountOp.Res SignInError Account :=
  (Prog.perform (AccountOp.selectUsers (normaliseEmail U email))).bind fun users =>
  Prog.ofExcept (verified B password users)

/-- A registration or a login. -/
inductive Call (Salt : Type) where
  | register (r : Registration Salt)
  | login (email password : String)

def Call.program : Call Salt → Prog AccountOp.Res SignInError Account
  | register r => createUser B U r
  | login email password => authenticate B U email password

end services

/-! ## How far a registration has come -/

/-- The stages of a registration.  A row that has been committed stays, whatever its session runs
into afterwards. -/
inductive Stage where
  | fresh
  | inserted (a : Account)
  | won (a : Account)
  | refused
  | failed
  deriving DecidableEq

/-- What a session has written and not committed. -/
def Stage.staged : Stage → UUID → Option (Option Account)
  | inserted a, k => if a.id = k then some (some a) else none
  | _, _ => none

/-- The session has lost what it had not committed. -/
def Stage.undone : Stage → Stage
  | inserted _ => failed
  | q => q

def Stage.committed : Stage → Stage
  | inserted a => won a
  | q => q

/-- How an answer moves a registration on. -/
def Stage.next (q : Stage) : (o : AccountOp) → Except SignInError o.Res → Stage
  | .insertUser a, .ok _ => .inserted a
  | .insertUser _, .error e => if e = .other .integrityError then .refused else .failed
  | .commit, .ok _ => q.committed
  | .commit, .error _ => q.undone
  | .rollback, _ => q.undone
  | .selectUsers _, .error _ => q.undone
  | .refreshUser _, .error _ => q.undone
  | _, _ => q

section calls

variable {Salt : Type} {B : Bcrypt Salt} {U : Unicode} {call : Call Salt} {q : Stage}

/-- A registration inserts its row, once. -/
def Call.May (B : Bcrypt Salt) (U : Unicode) (call : Call Salt) (q : Stage) (o : AccountOp) :
    Prop :=
  match o with
  | .insertUser a => q = .fresh ∧ ∃ r, call = .register r ∧ a = r.user B U
  | _ => True

/-- The answers of the table: its errors, and the rows that are found. -/
def Sound (q : Stage) : (o : AccountOp) → Except SignInError o.Res → Prop
  | _, .error e => e ≠ .emailAlreadyRegistered
  | .selectUsers email, .ok rows => ∀ a ∈ rows, a.email = email
  | .refreshUser id, .ok rows => ∀ a ∈ rows, ∀ b, q = .won b → b.id = id → a = b
  | _, .ok _ => True

def Next (q : Stage) (o : AccountOp) (r : Except SignInError o.Res) (q' : Stage) : Prop :=
  q' = q.next o r ∧ Sound q o r

/-- What a call has done when it returns: a registration has won. -/
def Call.Returns (B : Bcrypt Salt) (U : Unicode) (call : Call Salt) (q : Stage) (a : Account) :
    Prop :=
  match call with
  | .register r => q = .won a ∧ a = r.user B U
  | .login email password =>
      a.email = normaliseEmail U email ∧ verifyPassword B password a.passwordHash = .ok true

/-- Only who has been refused is told that the email is registered. -/
def Call.Raises (call : Call Salt) (q : Stage) (e : SignInError) : Prop :=
  match call with
  | .register _ => e = .emailAlreadyRegistered → q = .refused
  | .login _ _ => True

end calls

/-! ## What a call asks for -/

section follows

variable {Salt : Type} {B : Bcrypt Salt} {U : Unicode}

theorem ne_registered_of_hashPassword {salt : Salt} {plain : String} {e : SignInError}
    (h : hashPassword B salt plain = .error e) : e ≠ .emailAlreadyRegistered := by
  unfold hashPassword at h
  split at h
  · cases h
  · cases h
    exact fun hc => SignInError.noConfusion hc

/-- The flush of a registration. -/
theorem follows_flushUser (r : Registration Salt) :
    (flushUser (r.user B U)).Follows (Call.May B U (.register r)) Next
      (fun q _ => q = .inserted (r.user B U)) (Call.Raises (.register r)) .fresh := by
  have hmay : (Call.register r).May B U .fresh (.insertUser (r.user B U)) := ⟨rfl, r, rfl, rfl⟩
  unfold flushUser
  refine Prog.Follows.handle (Prog.Follows.perform hmay ?_ ?_)
  · rintro a q ⟨rfl, -⟩
    rfl
  · rintro e q ⟨rfl, hsound⟩
    show Prog.Follows _ _ _ _ (if _ then _ else _) (if _ then _ else _)
    split
    · -- the session is rolled back, and has been refused
      refine Prog.Follows.step trivial ?_ ?_
      · rintro a q ⟨rfl, -⟩
        exact (Prog.follows_raise _).2 (fun _ => rfl)
      · rintro e q ⟨rfl, -⟩
        exact fun _ => rfl
    · exact (Prog.follows_raise _).2 (fun he => absurd he hsound)

/-- **A registration** returns its own row when it has won, and is told that the email is registered
only when it has been refused. -/
theorem follows_createUser (r : Registration Salt) :
    (createUser B U r).Follows (Call.May B U (.register r)) Next (Call.Returns B U (.register r))
      (Call.Raises (.register r)) .fresh := by
  unfold createUser
  cases hhash : hashPassword B r.salt r.password with
  | error e =>
      exact (Prog.follows_raise e).2 (fun he => absurd he (ne_registered_of_hashPassword hhash))
  | ok hash =>
      obtain ⟨-, rfl⟩ := hashPassword_eq_ok.1 hhash
      show Prog.Follows _ _ _ _ _ ((flushUser (r.user B U)).bind _)
      refine Prog.Follows.bind ((follows_flushUser r).mono ?_ (fun _ _ h => h))
      rintro q u rfl
      refine Prog.Follows.step trivial ?_ ?_
      · rintro a q ⟨rfl, -⟩
        refine Prog.Follows.step trivial ?_ ?_
        · rintro rows q ⟨rfl, hrows⟩
          cases rows with
          | nil => exact (Prog.follows_raise _).2 (fun he => SignInError.noConfusion he)
          | cons a rows =>
              have ha : a = r.user B U := hrows a List.mem_cons_self (r.user B U) rfl rfl
              exact (Prog.follows_ret a).2 ⟨by rw [ha]; rfl, ha⟩
        · rintro e q ⟨rfl, hsound⟩
          exact fun he => absurd he hsound
      · rintro e q ⟨rfl, hsound⟩
        exact fun he => absurd he hsound

/-- Signing in verifies the one row that is found. -/
theorem verified_eq_ok {password : String} {users : List Account} {a : Account}
    (h : verified B password users = .ok a) :
    a ∈ users ∧ verifyPassword B password a.passwordHash = .ok true := by
  unfold verified at h
  split at h
  · obtain ⟨_, -, h⟩ := Fallible.bind_eq_ok.1 h
    cases h
  · obtain ⟨b, hverify, h⟩ := Fallible.bind_eq_ok.1 h
    split at h
    · rename_i hb
      cases h
      exact ⟨List.mem_singleton_self _, by rw [hverify, hb]⟩
    · cases h
  · cases h

theorem follows_authenticate (email password : String) {q : Stage} :
    (authenticate B U email password).Follows (Call.May B U (.login email password)) Next
      (Call.Returns B U (.login email password)) (Call.login email password : Call Salt).Raises q := by
  refine Prog.Follows.step trivial ?_ (fun _ _ _ => trivial)
  rintro users q ⟨rfl, hsound⟩
  cases hverified : verified B password users with
  | error e => exact (Prog.follows_raise e).2 trivial
  | ok a =>
      obtain ⟨hmem, hverify⟩ := verified_eq_ok hverified
      exact (Prog.follows_ret a).2 ⟨hsound a hmem, hverify⟩

/-- A call keeps to its stages. -/
theorem follows_program (call : Call Salt) :
    (call.program B U).Follows (call.May B U) Next (call.Returns B U) call.Raises .fresh := by
  cases call with
  | register r => exact follows_createUser r
  | login email password => exact follows_authenticate email password

end follows

/-! ## The race -/

section race

variable {ι Salt : Type} [DecidableEq ι] {B : Bcrypt Salt} {U : Unicode} {calls : ι → Call Salt}
  {g : ι → Stage} {users users' : Store ι Account UUID Account.id} {i : ι} {q : Stage}

/-- A committed row has one of the unique entries of the account. -/
def HasRival (users : Store ι Account UUID Account.id) (a : Account) : Prop :=
  ∃ b, users.committed.get b.id = some b ∧ a.conflicts b = true

/-- Where the registrations are, and what that says of the table. -/
structure Racing (B : Bcrypt Salt) (U : Unicode) (calls : ι → Call Salt) (g : ι → Stage)
    (users : Store ι Account UUID Account.id) : Prop where
  exclusive : users.Exclusive
  emails : users.UniqueOn emailEntry
  tokens : users.UniqueOn tokenEntry
  staged : ∀ i k, users.staged i k = (g i).staged k
  new : ∀ i a, g i = .inserted a → users.committed.get a.id = none
  won : ∀ i a, g i = .won a → users.committed.get a.id = some a
  apart : ∀ i j a b, i ≠ j → g i = .won a → g j = .won b → a.id ≠ b.id
  refused : ∀ i, g i = .refused → ∃ r, calls i = .register r ∧ HasRival users (r.user B U)

omit [DecidableEq ι] in
theorem HasRival.grows {a : Account} (h : HasRival users a)
    (hgrows : ∀ k b, users.committed.get k = some b → users'.committed.get k = some b) :
    HasRival users' a := by
  obtain ⟨b, hb, hconflicts⟩ := h
  exact ⟨b, hgrows _ _ hb, hconflicts⟩

/-- **A move of one session**: no committed row changes, and what has been won is new. -/
theorem Racing.move (h : Racing B U calls g users) (hexclusive : users'.Exclusive)
    (hemails : users'.UniqueOn emailEntry) (htokens : users'.UniqueOn tokenEntry)
    (hstaged : ∀ k, users'.staged i k = q.staged k)
    (hothers : ∀ j, j ≠ i → ∀ k, users'.staged j k = users.staged j k)
    (hgrows : ∀ k b, users.committed.get k = some b → users'.committed.get k = some b)
    (hnew : ∀ a, q = .inserted a → users'.committed.get a.id = none)
    (hnewOthers : ∀ j, j ≠ i → ∀ a, g j = .inserted a → users'.committed.get a.id = none)
    (hwon : ∀ a, q = .won a → g i = .won a ∨
      users.committed.get a.id = none ∧ users'.committed.get a.id = some a)
    (hrefused : q = .refused → g i = .refused ∨
      ∃ r, calls i = .register r ∧ HasRival users' (r.user B U)) :
    Racing B U calls (Function.update g i q) users' := by
  have hapart : ∀ j a b, j ≠ i → q = .won a → g j = .won b → a.id ≠ b.id := by
    intro j a b hj hq hb
    rcases hwon a hq with hold | ⟨hnone, -⟩
    · exact h.apart i j a b (Ne.symm hj) hold hb
    · -- what is new was not there before, and what `j` has won was
      intro hid
      rw [hid, h.won j b hb] at hnone
      cases hnone
  refine ⟨hexclusive, hemails, htokens, ?_, ?_, ?_, fun j j' a b hne ha hb => ?_, ?_⟩
  · apply (Function.forall_update_iff g
      (fun j q => ∀ k, users'.staged j k = Stage.staged q k)).2
    refine ⟨hstaged, fun j hj k => ?_⟩
    rw [hothers j hj]
    exact h.staged j k
  · apply (Function.forall_update_iff g
      (fun _ q => ∀ a, q = .inserted a → users'.committed.get a.id = none)).2
    exact ⟨hnew, hnewOthers⟩
  · apply (Function.forall_update_iff g
      (fun _ q => ∀ a, q = .won a → users'.committed.get a.id = some a)).2
    refine ⟨fun a ha => ?_, fun j _ a ha => hgrows _ _ (h.won j a ha)⟩
    rcases hwon a ha with hold | ⟨-, hget⟩
    · exact hgrows _ _ (h.won i a hold)
    · exact hget
  · -- at most one of the two sessions has moved
    by_cases hji : j = i
    · subst hji
      rw [Function.update_self] at ha
      rw [Function.update_of_ne (Ne.symm hne)] at hb
      exact hapart j' a b (Ne.symm hne) ha hb
    · rw [Function.update_of_ne hji] at ha
      by_cases hji' : j' = i
      · subst hji'
        rw [Function.update_self] at hb
        exact (hapart j b a hji hb ha).symm
      · rw [Function.update_of_ne hji'] at hb
        exact h.apart j j' a b hne ha hb
  · have hstill : ∀ j, g j = .refused →
        ∃ r, calls j = .register r ∧ HasRival users' (r.user B U) := by
      intro j hj
      obtain ⟨r, hr, hrival⟩ := h.refused j hj
      exact ⟨r, hr, hrival.grows hgrows⟩
    apply (Function.forall_update_iff g
      (fun j q => q = .refused → ∃ r, calls j = .register r ∧ HasRival users' (r.user B U))).2
    exact ⟨fun hq => (hrefused hq).elim (hstill i) id, fun j _ => hstill j⟩

/-- **A rollback** publishes nothing. -/
theorem Racing.rollback (h : Racing B U calls g users) (hstaged : ∀ k, q.staged k = none)
    (hwon : ∀ a, q = .won a → g i = .won a)
    (hrefused : q = .refused → g i = .refused ∨
      ∃ r, calls i = .register r ∧ HasRival users (r.user B U)) :
    Racing B U calls (Function.update g i q) (users.rollback i) := by
  refine h.move (h.exclusive.rollback i) (h.emails.rollback i) (h.tokens.rollback i) (fun k => ?_)
    (fun j hj k => ?_) (fun _ _ hb => hb) (fun a hq => ?_) (fun j _ => h.new j)
    (fun a ha => Or.inl (hwon a ha)) hrefused
  · rw [Store.staged_rollback, if_pos rfl, hstaged]
  · rw [Store.staged_rollback, if_neg hj]
  · subst hq
    exact absurd (hstaged a.id) (by simp [Stage.staged])

/-- What a session has lost, it has not won. -/
theorem Racing.undone (h : Racing B U calls g users) (i : ι) :
    Racing B U calls (Function.update g i (g i).undone) (users.rollback i) := by
  refine h.rollback (fun k => ?_) (fun a ha => ?_) (fun hq => Or.inl ?_)
  · cases g i <;> rfl
  · cases hg : g i with
    | won b =>
        rw [hg] at ha
        exact ha
    | _ =>
        rw [hg] at ha
        cases ha
  · cases hg : g i with
    | refused => rfl
    | _ =>
        rw [hg] at hq
        cases hq

/-- **A commit** wins, if there is a row to commit. -/
theorem Racing.commit (h : Racing B U calls g users) (i : ι) :
    Racing B U calls (Function.update g i (g i).committed) (users.commit i) := by
  have hget : ∀ k, (users.commit i).committed.get k =
      ((g i).staged k).getD (users.committed.get k) := by
    intro k
    rw [Store.get_commit, h.staged]
  refine h.move (h.exclusive.commit i) (h.emails.commit i) (h.tokens.commit i) (fun k => ?_)
    (fun j hj k => ?_) (fun k b hb => ?_) (fun a hq => ?_) (fun j hji a hj => ?_)
    (fun a ha => ?_) (fun hq => ?_)
  · rw [Store.staged_commit, if_pos rfl]
    cases g i <;> rfl
  · rw [Store.staged_commit, if_neg hj]
  · rw [hget]
    cases hg : g i with
    | inserted a =>
        have hne : a.id ≠ k := by
          rintro rfl
          rw [h.new i a hg] at hb
          cases hb
        show (if a.id = k then _ else _ : Option (Option Account)).getD _ = _
        rw [if_neg hne]
        exact hb
    | _ => exact hb
  · -- after a commit nothing is inserted that is not won
    cases hg : g i <;> rw [hg] at hq <;> cases hq
  · have hsome : (users.staged j a.id).isSome := by
      rw [h.staged, hj]
      simp [Stage.staged]
    exact (h.exclusive.get_commit_of_staged (Ne.symm hji) hsome).trans (h.new j a hj)
  · cases hg : g i with
    | inserted b =>
        rw [hg] at ha
        cases ha
        refine Or.inr ⟨h.new i a hg, ?_⟩
        rw [hget, hg]
        show (if a.id = a.id then _ else _ : Option (Option Account)).getD _ = _
        rw [if_pos rfl]
        rfl
    | won b =>
        rw [hg] at ha
        exact Or.inl ha
    | _ =>
        rw [hg] at ha
        cases ha
  · cases hg : g i with
    | refused => exact Or.inl rfl
    | _ =>
        rw [hg] at hq
        cases hq

/-- **An insertion** takes the entries of the new row, which nobody else has. -/
theorem Racing.insert {a : Account} (h : Racing B U calls g users) (hfresh : g i = .fresh)
    (hx : insertUser users i a = some (.ok (), users')) :
    Racing B U calls (Function.update g i (.inserted a)) users' := by
  unfold insertUser at hx
  split at hx
  · cases hx
  · rename_i hlocks
    split at hx
    · cases hx
    · rename_i hrows
      obtain ⟨-, rfl⟩ := Prod.mk.inj (Option.some.inj hx)
      simp only [Bool.or_eq_true, not_or, Bool.not_eq_true] at hlocks hrows
      obtain ⟨⟨hlocked, hemail⟩, htoken⟩ := hlocks
      obtain ⟨⟨hid, hemail'⟩, htoken'⟩ := hrows
      have hnone : users.committed.get a.id = none := by
        have hview : (users.view i).get a.id = none := by
          rw [← Option.not_isSome_iff_eq_none, hid]
          exact Bool.false_ne_true
        rw [Store.get_view, h.staged, hfresh] at hview
        exact hview
      refine h.move (h.exclusive.stage hlocked)
        (h.emails.stage_of_free (fun v x hv hx => ?_))
        (h.tokens.stage_of_free (fun v x hv hx => ?_)) (fun k => ?_) (fun j hj k => ?_) (fun _ _ hb => hb) (fun b hb => ?_) (fun j _ => h.new j)
        (fun b hb => Stage.noConfusion hb) (fun hb => Stage.noConfusion hb)
      · cases hv
        cases hx
        exact ⟨hemail, hemail'⟩
      · cases hv
        cases hx
        exact ⟨htoken, htoken'⟩
      · rw [Store.staged_stage, h.staged, hfresh]
        show (if i = i ∧ a.id = k then some (some a) else none) = if a.id = k then _ else _
        by_cases hk : a.id = k
        · rw [if_pos ⟨rfl, hk⟩, if_pos hk]
        · rw [if_neg (fun hc => hk hc.2), if_neg hk]
      · rw [Store.staged_stage, if_neg (fun hc => hj hc.1.symm)]
      · cases hb
        exact hnone

/-- **A refusal** has a committed row for its reason. -/
theorem hasRival_of_refused {a : Account} {e : SignInError} (h : Racing B U calls g users)
    (hfresh : g i = .fresh) (hx : insertUser users i a = some (.error e, users')) :
    e = .other .integrityError ∧ users' = users.rollback i ∧ HasRival users a := by
  have hcommitted : ∀ k, (users.view i).get k = users.committed.get k := by
    intro k
    rw [Store.get_view, h.staged, hfresh]
    rfl
  have hrow : ∀ b ∈ (users.view i).rows, a.conflicts b = true → HasRival users a :=
    fun b hb hconflicts => ⟨b, (hcommitted _).symm.trans (Table.get_of_mem hb), hconflicts⟩
  unfold insertUser at hx
  split at hx
  · cases hx
  · split at hx
    · rename_i hrows
      obtain ⟨he, rfl⟩ := Prod.mk.inj (Option.some.inj hx)
      refine ⟨(Except.error.inj he).symm, rfl, ?_⟩
      simp only [Bool.or_eq_true, Store.duplicate, List.any_eq_true, decide_eq_true_eq] at hrows
      rcases hrows with (hid | ⟨b, hb, hemail⟩) | ⟨b, hb, htoken⟩
      · obtain ⟨b, hb⟩ := Option.isSome_iff_exists.1 hid
        refine hrow b (Table.mem_of_get hb) ?_
        have hkey : b.id = a.id := Table.key_of_get hb
        simp [Account.conflicts, hkey]
      · have heq : b.email = a.email := Option.some.inj hemail
        exact hrow b hb (by simp [Account.conflicts, heq])
      · have heq : b.inboxToken = a.inboxToken := Option.some.inj htoken
        exact hrow b hb (by simp [Account.conflicts, heq])
    · obtain ⟨he, -⟩ := Prod.mk.inj (Option.some.inj hx)
      cases he

end race

/-! ## One operation -/

section race

variable {ι Salt : Type} [DecidableEq ι] {B : Bcrypt Salt} {U : Unicode} {calls : ι → Call Salt}
  {g : ι → Stage} {users : Store ι Account UUID Account.id} {s s' : SignIns ι} {i : ι}

/-- An answer is the one that is due, or struck by a fault. -/
theorem answer_cases {α : Type} {f : Fault} {r r' : Except SignInError α}
    (h : s.answer i f r users = some (r', s')) :
    (r' = r ∧ s'.users = users) ∨
      (r' = .error (.other .dbapiError) ∧
        (s'.users = s.users.rollback i ∨ s'.users = users.rollback i)) := by
  unfold SignIns.answer at h
  split at h
  · obtain ⟨rfl, rfl⟩ := Prod.mk.inj (Option.some.inj h)
    exact Or.inl ⟨rfl, rfl⟩
  · obtain ⟨rfl, rfl⟩ := Prod.mk.inj (Option.some.inj h)
    exact Or.inr ⟨rfl, Or.inl rfl⟩
  · obtain ⟨rfl, rfl⟩ := Prod.mk.inj (Option.some.inj h)
    exact Or.inr ⟨rfl, Or.inr rfl⟩

theorem rollback_rollback (users : Store ι Account UUID Account.id) (i : ι) :
    (users.rollback i).rollback i = users.rollback i := by
  simp [Store.rollback]

/-- A registration that fails has written nothing. -/
theorem Racing.fail (h : Racing B U calls g users) (i : ι) :
    Racing B U calls (Function.update g i .failed) (users.rollback i) :=
  h.rollback (fun _ => rfl) (fun _ hq => Stage.noConfusion hq) (fun hq => Stage.noConfusion hq)

/-- A read that fails rolls the session back; one that is answered changes nothing. -/
theorem Racing.read {α : Type} {f : Fault} {rows : α} {r : Except SignInError α}
    (h : Racing B U calls g s.users)
    (hx : s.answer i f (.ok rows) s.users = some (r, s')) :
    (r = .ok rows ∧ Racing B U calls (Function.update g i (g i)) s'.users) ∨
      (∃ e, r = .error (.other e)) ∧
        Racing B U calls (Function.update g i (g i).undone) s'.users := by
  rcases answer_cases hx with ⟨hr, hu⟩ | ⟨hr, hu | hu⟩
  · refine Or.inl ⟨hr, ?_⟩
    rw [hu, Function.update_eq_self]
    exact h
  · exact Or.inr ⟨⟨_, hr⟩, by rw [hu]; exact h.undone i⟩
  · exact Or.inr ⟨⟨_, hr⟩, by rw [hu]; exact h.undone i⟩

/-- **The insertion of a registration.** -/
theorem Racing.step_insert {fault : ℕ → Fault} {reg : Registration Salt}
    {r : Except SignInError Unit} (h : Racing B U calls g s.users) (hfresh : g i = .fresh)
    (hcall : calls i = .register reg)
    (hx : SignIns.exec fault i (.insertUser (reg.user B U)) s = some (r, s')) :
    Next (g i) (.insertUser (reg.user B U)) r ((g i).next (.insertUser (reg.user B U)) r) ∧
      Racing B U calls (Function.update g i ((g i).next (.insertUser (reg.user B U)) r))
        s'.users := by
  -- every error but one fails the registration
  have hfail : ∀ {e : PyExc}, e ≠ .integrityError → r = .error (.other e) →
      Racing B U calls (Function.update g i .failed) s'.users →
      Next (g i) (.insertUser (reg.user B U)) r ((g i).next (.insertUser (reg.user B U)) r) ∧
        Racing B U calls (Function.update g i ((g i).next (.insertUser (reg.user B U)) r))
          s'.users := by
    rintro e hne rfl hracing
    have hnext : (g i).next (.insertUser (reg.user B U)) (.error (.other e)) = .failed :=
      if_neg (fun hc => hne (SignInError.other.inj hc))
    refine ⟨⟨rfl, fun hc => SignInError.noConfusion hc⟩, ?_⟩
    rw [hnext]
    exact hracing
  have hdbapi : PyExc.dbapiError ≠ .integrityError := fun hc => PyExc.noConfusion hc
  have hx : (if (storeText 255 (some (reg.user B U).email)).isOk then
      (insertUser s.users i (reg.user B U)).bind (fun x => s.answer i (fault s.calls) x.1 x.2)
    else s.answer i (fault s.calls) (.error (.other .dataError)) (s.users.rollback i)) =
      some (r, s') := hx
  split at hx
  · obtain ⟨⟨r₁, users₁⟩, hinsert, hanswer⟩ := Option.bind_eq_some_iff.1 hx
    cases r₁ with
    | ok u =>
        have hinserted := h.insert hfresh hinsert
        rcases answer_cases hanswer with ⟨rfl, hu⟩ | ⟨hr, hu | hu⟩
        · exact ⟨⟨rfl, trivial⟩, by rw [hu]; exact hinserted⟩
        · exact hfail hdbapi hr (by rw [hu]; exact h.fail i)
        · refine hfail hdbapi hr ?_
          have hundone := hinserted.fail i
          rw [Function.update_idem] at hundone
          rw [hu]
          exact hundone
    | error e =>
        obtain ⟨rfl, rfl, hrival⟩ := hasRival_of_refused h hfresh hinsert
        rcases answer_cases hanswer with ⟨rfl, hu⟩ | ⟨hr, hu | hu⟩
        · refine ⟨⟨rfl, fun hc => SignInError.noConfusion hc⟩, ?_⟩
          rw [hu]
          exact h.rollback (fun _ => rfl) (fun _ hq => Stage.noConfusion hq)
            (fun _ => Or.inr ⟨reg, hcall, hrival⟩)
        · exact hfail hdbapi hr (by rw [hu]; exact h.fail i)
        · exact hfail hdbapi hr (by rw [hu, rollback_rollback]; exact h.fail i)
  · rcases answer_cases hx with ⟨hr, hu⟩ | ⟨hr, hu | hu⟩
    · exact hfail (fun hc => PyExc.noConfusion hc) hr (by rw [hu]; exact h.fail i)
    · exact hfail hdbapi hr (by rw [hu]; exact h.fail i)
    · exact hfail hdbapi hr (by rw [hu, rollback_rollback]; exact h.fail i)

/-- A commit whose answer is lost: the row is there, but its session has not won with it. -/
theorem Racing.commit_lost (h : Racing B U calls g users) (i : ι) :
    Racing B U calls (Function.update g i (g i).undone) ((users.commit i).rollback i) := by
  have hrolled : Racing B U calls (Function.update (Function.update g i (g i).committed) i
      (g i).undone) ((users.commit i).rollback i) := by
    refine (h.commit i).rollback (fun k => ?_) (fun a ha => ?_) (fun hq => Or.inl ?_)
    · cases g i <;> rfl
    · rw [Function.update_self]
      cases hg : g i <;> rw [hg] at ha <;> first | exact ha | cases ha
    · rw [Function.update_self]
      cases hg : g i <;> rw [hg] at hq <;> first | exact hq | cases hq
  rw [Function.update_idem] at hrolled
  exact hrolled

/-- **One operation of a call.** -/
theorem Racing.step {fault : ℕ → Fault} {o : AccountOp} {r : Except SignInError o.Res}
    (h : Racing B U calls g s.users) (hmay : (calls i).May B U (g i) o)
    (hx : SignIns.exec fault i o s = some (r, s')) :
    Next (g i) o r ((g i).next o r) ∧
      Racing B U calls (Function.update g i ((g i).next o r)) s'.users := by
  cases o with
  | insertUser a =>
      obtain ⟨hfresh, reg, hcall, rfl⟩ := hmay
      exact h.step_insert hfresh hcall hx
  | selectUsers email =>
      have hx : (if textOk email then s.answer i (fault s.calls)
          (.ok ((s.users.view i).rows.filter (fun a => a.email = email))) s.users
        else s.answer i (fault s.calls) (.error (.other .dataError)) (s.users.rollback i)) =
          some (r, s') := hx
      split at hx
      · rcases h.read hx with ⟨rfl, hracing⟩ | ⟨⟨e, rfl⟩, hracing⟩
        · refine ⟨⟨rfl, fun a ha => ?_⟩, hracing⟩
          exact of_decide_eq_true (List.mem_filter.1 ha).2
        · exact ⟨⟨rfl, fun hc => SignInError.noConfusion hc⟩, hracing⟩
      · have hundone : r = .error (.other .dataError) ∨ r = .error (.other .dbapiError) := by
          rcases answer_cases hx with ⟨hr, -⟩ | ⟨hr, -⟩
          · exact Or.inl hr
          · exact Or.inr hr
        have husers : s'.users = s.users.rollback i := by
          rcases answer_cases hx with ⟨-, hu⟩ | ⟨-, hu | hu⟩
          · exact hu
          · exact hu
          · rw [hu, rollback_rollback]
        rw [husers]
        rcases hundone with rfl | rfl
        · exact ⟨⟨rfl, fun hc => SignInError.noConfusion hc⟩, h.undone i⟩
        · exact ⟨⟨rfl, fun hc => SignInError.noConfusion hc⟩, h.undone i⟩
  | refreshUser id =>
      rcases h.read hx with ⟨rfl, hracing⟩ | ⟨⟨e, rfl⟩, hracing⟩
      · refine ⟨⟨rfl, fun a ha b hb hid => ?_⟩, hracing⟩
        obtain ⟨hmem, haid⟩ := List.mem_filter.1 ha
        have hview : (s.users.view i).get a.id = some a := Table.get_of_mem hmem
        rw [Store.get_view, h.staged, hb, of_decide_eq_true haid, ← hid] at hview
        exact Option.some.inj (hview.symm.trans (h.won i b hb))
      · exact ⟨⟨rfl, fun hc => SignInError.noConfusion hc⟩, hracing⟩
  | commit =>
      rcases answer_cases hx with ⟨rfl, hu⟩ | ⟨rfl, hu | hu⟩
      · exact ⟨⟨rfl, trivial⟩, by rw [hu]; exact h.commit i⟩
      · exact ⟨⟨rfl, fun hc => SignInError.noConfusion hc⟩, by rw [hu]; exact h.undone i⟩
      · exact ⟨⟨rfl, fun hc => SignInError.noConfusion hc⟩, by rw [hu]; exact h.commit_lost i⟩
  | rollback =>
      obtain ⟨rfl, rfl⟩ := Prod.mk.inj (Option.some.inj hx)
      exact ⟨⟨rfl, trivial⟩, h.undone i⟩

theorem Call.Returns.undone {call : Call Salt} {q : Stage} {a : Account}
    (h : call.Returns B U q a) : call.Returns B U q.undone a := by
  cases call with
  | register r =>
      obtain ⟨rfl, ha⟩ := h
      exact ⟨rfl, ha⟩
  | login email password => exact h

theorem Call.Raises.undone {call : Call Salt} {q : Stage} {e : SignInError}
    (h : call.Raises q e) : call.Raises q.undone e := by
  cases call with
  | register r =>
      intro he
      rw [h he]
      rfl
  | login email password => trivial

/-- **Where the registrations are is kept in every run.** -/
theorem keeps_racing (fault : ℕ → Fault) :
    (signIns fault).Keeps (fun g s => Racing B U calls g s.users) (fun i => (calls i).May B U)
      (fun _ => Next) (fun i => (calls i).Returns B U) (fun i => (calls i).Raises)
      (fun _ _ _ => True) True where
  step := fun h hmay _ hx => ⟨_, (h.step hmay hx).1, (h.step hmay hx).2⟩
  ret := fun {g _ i _} h hpost => ⟨(g i).undone, hpost.undone, h.undone i⟩
  raise := fun {g _ i _} h hexc => ⟨(g i).undone, hexc.undone, h.undone i⟩
  kill := by
    intro g s i _ h
    refine ⟨(g i).undone, ?_, h.undone i⟩
    cases calls i with
    | register r => exact fun hc => SignInError.noConfusion hc
    | login email password => trivial
  event := fun {_ _ e} _ => e.elim

/-! ## Every run -/

/-- **One registration of an email wins**, and nobody is refused for nothing. -/
structure OneWinner (B : Bcrypt Salt) (U : Unicode) (calls : ι → Call Salt)
    (c : Config ι AccountOp.Res SignInError Account (SignIns ι)) : Prop where
  created : ∀ i r a, calls i = .register r → c.threads i = .ret a →
    a = r.user B U ∧ c.shared.users.committed.get a.id = some a
  one : ∀ i j r r' a b, i ≠ j → calls i = .register r → calls j = .register r' →
    c.threads i = .ret a → c.threads j = .ret b → a.email ≠ b.email
  refused : ∀ i r, calls i = .register r → c.threads i = .raise .emailAlreadyRegistered →
    HasRival c.shared.users (r.user B U)
  signedIn : ∀ i email password a, calls i = .login email password → c.threads i = .ret a →
    a.email = normaliseEmail U email ∧ verifyPassword B password a.passwordHash = .ok true

end race

/-- Ann registers twice at once, under two spellings of her email. -/
def bothRegister : Bool → Call Char
  | false => .register ⟨"ann@example.com", "correct horse", 's', 1, "a1"⟩
  | true => .register ⟨" Ann@Example.com", "battery staple", 't', 2, "b2"⟩

/-- No user is registered. -/
def nobody : SignIns Bool := ⟨Store.ofTable Table.empty, 0⟩

/-- The second insertion waits for the first commit. -/
def atOnce : List (Machine.Action Bool Empty) :=
  [.step false, .step true, .step false, .step true, .step false, .step true]

/-- The first one has the email. -/
example : (((signIns fun _ => .none).run
    ⟨fun i => (bothRegister i).program legibleBcrypt .ascii, nobody⟩
      atOnce).shared.users.committed.rows.map Account.id) = [1] := by decide +kernel

end SpendLens.Registering
