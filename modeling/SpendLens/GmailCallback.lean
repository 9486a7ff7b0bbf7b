/-
# What the OAuth callback answers

The callback runs through a verification, two calls to Google, an encryption and an
upsert, and turns a fixed set of exceptions into redirects.  The first part says what
each stage leaves behind; `run_callback_error` and `run_callback_ok` put them together.
The second part is about the answer: which states, which answers of Google and which
accounts keep the callback within its redirects.
-/
import SpendLens.GmailOAuth
import SpendLens.Lib.Fallible

namespace SpendLens

open Fallible

/-! ## The exchange -/

/-- What the exchange comes to, when the answers of Google are those of the surroundings
from operation `n` on. -/
def exchangeOutcome (env : Env) (n : ℕ) (now : ℚ) (code state : String) :
    Except PyExc (UUID × TokenExchangeResult) := do
  let userId ← verifyState env env.settings.jwtSecret now state
  let tokens ← env.external n (tokenRequest env code) >>= readTokens
  let email ← env.external (n + 1) (userinfoRequest tokens.2) >>= readEmail
  return (userId, ⟨tokens.1, tokens.2, email⟩)

/-- **How an exchange fails**: in the state, at the token endpoint or at the userinfo
endpoint. -/
theorem exchangeOutcome_eq_error {env : Env} {n : ℕ} {now : ℚ} {code state : String} {e : PyExc} :
    exchangeOutcome env n now code state = .error e ↔
      verifyState env env.settings.jwtSecret now state = .error e ∨
      ∃ userId, verifyState env env.settings.jwtSecret now state = .ok userId ∧
        (env.external n (tokenRequest env code) >>= readTokens = .error e ∨
        ∃ tokens, env.external n (tokenRequest env code) >>= readTokens = .ok tokens ∧
          env.external (n + 1) (userinfoRequest tokens.2) >>= readEmail = .error e) := by
  rw [exchangeOutcome, bind_eq_error]
  refine or_congr_right (exists_congr fun userId => and_congr_right fun _ => ?_)
  rw [bind_eq_error]
  refine or_congr_right (exists_congr fun tokens => and_congr_right fun _ => ?_)
  rw [bind_eq_error]
  refine or_iff_left ?_
  rintro ⟨email, -, h⟩
  cases h

theorem exchangeOutcome_eq_ok {env : Env} {n : ℕ} {now : ℚ} {code state : String} {userId : UUID}
    {tokens : TokenExchangeResult} :
    exchangeOutcome env n now code state = .ok (userId, tokens) ↔
      verifyState env env.settings.jwtSecret now state = .ok userId ∧
      env.external n (tokenRequest env code) >>= readTokens =
        .ok (tokens.refreshToken, tokens.accessToken) ∧
      env.external (n + 1) (userinfoRequest tokens.accessToken) >>= readEmail =
        .ok tokens.googleEmail := by
  rw [exchangeOutcome]
  constructor
  · intro h
    obtain ⟨u, hu, h⟩ := bind_eq_ok.1 h
    obtain ⟨t, ht, h⟩ := bind_eq_ok.1 h
    obtain ⟨email, hemail, h⟩ := bind_eq_ok.1 h
    cases h
    exact ⟨hu, ht, hemail⟩
  · rintro ⟨hu, ht, hemail⟩
    exact bind_eq_ok.2 ⟨_, hu, bind_eq_ok.2 ⟨_, ht, bind_eq_ok.2
      ⟨_, hemail, rfl⟩⟩⟩

section

variable {env : Env} {w : World Unit}

theorem alone_ext (x : Ext) : alone env (.ext x) w = (env.external w.calls x, w.tick) := rfl

theorem run_ofExcept {α : Type} (r : Except PyExc α) :
    Prog.run (alone env) (Prog.ofExcept r) w = (r, w) := by
  cases r <;> rfl

theorem isSet_of_configured (h : gmailConfigured env = true) :
    isSet env.settings.gmailOauthClientId = true ∧
      isSet env.settings.gmailOauthClientSecret = true ∧
      isSet env.settings.gmailTokenEncryptionKey = true := by
  rw [gmailConfigured, Bool.and_eq_true, Bool.and_eq_true] at h
  exact ⟨h.1.1, h.1.2, h.2⟩

/-- **The exchange** asks Google twice at most, and touches nothing else. -/
theorem run_exchangeCode (now : ℚ) (code state : String) (h : gmailConfigured env = true) :
    ∃ w', Prog.run (alone env) (exchangeCode env now code state) w =
        (exchangeOutcome env w.calls now code state, w') ∧
      w'.db = w.db ∧ w'.failed = w.failed := by
  obtain ⟨hid, hsecret, -⟩ := isSet_of_configured h
  rw [exchangeCode, if_pos (by rw [hid, hsecret]; rfl), exchangeOutcome, Prog.run_bind,
    run_ofExcept]
  cases verifyState env env.settings.jwtSecret now state with
  | error e => exact ⟨w, rfl, rfl, rfl⟩
  | ok userId =>
      simp only [Prog.run_bind, Prog.run_perform, alone_ext]
      cases ht : env.external w.calls (tokenRequest env code) with
      | error e => exact ⟨w.tick, rfl, rfl, rfl⟩
      | ok tokenResp =>
          simp only [run_ofExcept]
          cases hread : readTokens tokenResp with
          | error e => exact ⟨w.tick, by simp [bind, Except.bind, hread], rfl, rfl⟩
          | ok tokens =>
              have hcalls : w.tick.calls = w.calls + 1 := rfl
              simp only [hcalls]
              cases hu : env.external (w.calls + 1) (userinfoRequest tokens.2) with
              | error e => exact ⟨w.tick.tick, by simp [bind, Except.bind, hread, hu], rfl, rfl⟩
              | ok userinfoResp =>
                  refine ⟨w.tick.tick, ?_, rfl, rfl⟩
                  cases hemail : readEmail userinfoResp with
                  | error e => simp [bind, Except.bind, hread, hu, hemail]
                  | ok email => simp [bind, Except.bind, pure, Except.pure, hread, hu, hemail]

end

/-! ## The upsert -/

/-- The row an upsert leaves. -/
def connectionRow (rows : List GmailConnection) (id userId : UUID) (googleEmail encrypted : String)
    (now : Timestamp) : GmailConnection :=
  match rows.find? (fun c => c.accountKey = some (userId, googleEmail)) with
  | some c => { c with encryptedRefreshToken := encrypted }
  | none => ⟨id, userId, googleEmail, encrypted, none, now, now⟩

theorem userId_connectionRow (rows : List GmailConnection) (id userId : UUID)
    (googleEmail encrypted : String) (now : Timestamp) :
    (connectionRow rows id userId googleEmail encrypted now).userId = userId := by
  unfold connectionRow
  split
  · rename_i c hfind
    have hkey := List.find?_some hfind
    simp only [GmailConnection.accountKey, Option.some.injEq, Prod.mk.injEq,
      decide_eq_true_eq] at hkey
    exact hkey.1
  · rfl

/-- Has the account a row already, or the user one of its own? -/
def KnownAccount (w : World Unit) (userId : UUID) (googleEmail : String) : Prop :=
  (∃ c ∈ w.db.connections.committed.rows, c.userId = userId ∧ c.googleEmail = googleEmail) ∨
    ∃ u ∈ w.db.users, u.id = userId

/-- An address the column holds. -/
def FitsEmail (googleEmail : String) : Prop :=
  textOk googleEmail = true ∧ googleEmail.length ≤ 255

section

variable {env : Env} {w : World Unit} {userId : UUID} {googleEmail encrypted : String}

/-- An upsert of a session of its own, whose identifier is new. -/
theorem exec_upsertConnection {id : UUID} (now : Timestamp) (hidle : w.db.connections.pending = [])
    (hfresh : w.db.connections.committed.get id = none) (htext : textOk encrypted = true)
    (hfits : FitsEmail googleEmail) (hknown : KnownAccount w userId googleEmail) :
    (Stmt.upsertConnection id userId googleEmail encrypted).exec now () w.db =
      some (.ok (connectionRow w.db.connections.committed.rows id userId googleEmail encrypted now),
        { w.db with connections := w.db.connections.stage () (.put
          (connectionRow w.db.connections.committed.rows id userId googleEmail encrypted now)) }) := by
  have hview := Store.view_of_pending_nil hidle ()
  simp only [Stmt.exec, hfits.1, hfits.2, htext, decide_true, Bool.and_self, if_true,
    contended_unit, locked_unit, Bool.false_eq_true, if_false, hview]
  unfold connectionRow
  cases hfind : w.db.connections.committed.rows.find?
      (fun c => c.accountKey = some (userId, googleEmail)) with
  | some c => rfl
  | none =>
      rw [List.find?_eq_none] at hfind
      have huser : w.db.users.any (fun u => u.id = userId) = true := by
        rcases hknown with ⟨c, hc, rfl, rfl⟩ | ⟨u, hu, hid⟩
        · exact absurd (decide_eq_true rfl) (hfind c hc)
        · exact List.any_eq_true.2 ⟨u, hu, decide_eq_true hid⟩
      have hdup : w.db.connections.duplicate () GmailConnection.accountKey (userId, googleEmail) =
          false := by
        rw [Store.duplicate, hview, List.any_eq_false]
        exact hfind
      simp [huser, insert, locked_unit, contended_unit, hview, hfresh, hdup,
        GmailConnection.accountKey, Except.map]

/-- An upsert that the column or the foreign key refuses. -/
theorem exec_upsertConnection_refused (id : UUID) (now : Timestamp) (encrypted : String)
    (hidle : w.db.connections.pending = [])
    (h : ¬ FitsEmail googleEmail ∨ ¬ KnownAccount w userId googleEmail) :
    ∃ e, (Stmt.upsertConnection id userId googleEmail encrypted).exec now () w.db =
        some (.error e, w.db) ∧ callbackErrorReason e = none := by
  by_cases hfits : textOk googleEmail = true ∧ googleEmail.length ≤ 255 ∧ textOk encrypted = true
  · have hknown : ¬ KnownAccount w userId googleEmail :=
      h.resolve_left (not_not.2 ⟨hfits.1, hfits.2.1⟩)
    rw [KnownAccount, not_or] at hknown
    have hview := Store.view_of_pending_nil hidle ()
    have hfind : w.db.connections.committed.rows.find?
        (fun c => c.accountKey = some (userId, googleEmail)) = none := by
      rw [List.find?_eq_none]
      intro c hc hkey
      simp only [GmailConnection.accountKey, Option.some.injEq, Prod.mk.injEq,
        decide_eq_true_eq] at hkey
      exact hknown.1 ⟨c, hc, hkey⟩
    have huser : w.db.users.any (fun u => u.id = userId) = false := by
      rw [List.any_eq_false]
      intro u hu hid
      exact hknown.2 ⟨u, hu, of_decide_eq_true hid⟩
    refine ⟨.integrityError, ?_, rfl⟩
    simp [Stmt.exec, hfits.1, hfits.2.1, hfits.2.2, contended_unit, hview, hfind, huser]
  · refine ⟨.dataError, ?_, rfl⟩
    have hcond : (textOk googleEmail && decide (googleEmail.length ≤ 255) && textOk encrypted) =
        false := by
      rw [Bool.eq_false_iff]
      intro hc
      rw [Bool.and_eq_true, Bool.and_eq_true, decide_eq_true_eq] at hc
      exact hfits ⟨hc.1.1, hc.1.2, hc.2⟩
    simp [Stmt.exec, hcond]

end

/-! ## The run of a callback -/

theorem textOk_of_encryptSecret {env : Env} {plaintext encrypted : String}
    (h : encryptSecret env plaintext = .ok encrypted) : textOk encrypted = true := by
  rw [encryptSecret] at h
  cases hbox : loadBox env with
  | error e =>
      rw [hbox] at h
      cases h
  | ok box =>
      rw [hbox] at h
      cases h
      exact box.textOk_encrypt plaintext

/-- With a key in the settings, only a malformed one keeps a secret from being encrypted. -/
theorem reason_of_encryptSecret {env : Env} {plaintext : String} {e : PyExc}
    (h : encryptSecret env plaintext = .error e) : (callbackErrorReason e).isSome = true := by
  rw [encryptSecret, loadBox] at h
  split at h
  · split at h
    · cases h
    · cases h
      rfl
  · cases h
    rfl

section

variable {env : Env} {w : World Unit} {userId : UUID} {googleEmail refreshToken encrypted : String}

/-- A session that has just begun, on a database that is available. -/
structure FreshSession (env : Env) (w : World Unit) : Prop where
  noFault : ∀ n, env.fault n = .none
  notFailed : w.failed () = false
  idle : w.db.connections.pending = []
  freshId : ∀ n, w.db.connections.committed.get (env.uuid4 n) = none

/-- A world that a session has left as it was. -/
def SameDb (w w' : World Unit) : Prop := w'.db = w.db ∧ w'.failed = w.failed

theorem FreshSession.of_same {w' : World Unit} (h : FreshSession env w) (hsame : SameDb w w') :
    FreshSession env w' where
  noFault := h.noFault
  notFailed := by rw [hsame.2]; exact h.notFailed
  idle := by rw [hsame.1]; exact h.idle
  freshId := by rw [hsame.1]; exact h.freshId

/-- The table after an upsert. -/
def upserted (env : Env) (w : World Unit) (userId : UUID) (googleEmail encrypted : String) :
    Table GmailConnection UUID GmailConnection.id :=
  w.db.connections.committed.put
    (connectionRow w.db.connections.committed.rows (env.uuid4 w.calls) userId googleEmail encrypted
      (env.clock (w.calls + 1)))

/-- **An upsert that goes through** leaves its row, and the refreshed row is found. -/
theorem run_upsertConnection_ok (h : FreshSession env w)
    (henc : encryptSecret env refreshToken = .ok encrypted) (hfits : FitsEmail googleEmail)
    (hknown : KnownAccount w userId googleEmail) :
    ∃ c w', Prog.run (alone env) (upsertConnection env userId googleEmail refreshToken) w =
        (.ok c, w') ∧
      w'.db.connections.committed = upserted env w userId googleEmail encrypted := by
  have hexec := exec_upsertConnection (w := w.tick) (env.clock w.tick.calls) h.idle
    (h.freshId w.calls) (textOk_of_encryptSecret henc) hfits hknown
  generalize hrow : connectionRow _ _ _ _ _ _ = row at hexec
  obtain ⟨w₁, hw₁⟩ : ∃ w₁ : World Unit, w₁ = World.tick { w.tick with
      db := { w.db with connections := w.db.connections.stage () (.put row) } } := ⟨_, rfl⟩
  have hsql : alone env (.sql (.upsertConnection (env.uuid4 w.calls) userId googleEmail encrypted))
      w.tick = (.ok row, w₁) := by
    rw [hw₁]
    exact alone_sql_ok env h.notFailed (h.noFault _) hexec
  have hcommit : alone env .commit w₁ = (.ok (), World.tick { w₁ with db := w₁.db.commit () }) :=
    alone_commit env (by rw [hw₁]; exact h.notFailed) (h.noFault _)
  obtain ⟨last, hlast⟩ : ∃ last, last = World.tick { w₁ with db := w₁.db.commit () } := ⟨_, rfl⟩
  rw [← hlast] at hcommit
  -- the table the commit publishes
  have hcommitted : ((w.db.connections.stage () (.put row)).commit ()).committed =
      w.db.connections.committed.put row := by
    show (w.db.connections.stage () (.put row)).view () = _
    rw [Store.view, Store.writes, Store.stage, h.idle]
    rfl
  have hlastdb : last.db.connections = (w.db.connections.stage () (.put row)).commit () := by
    rw [hlast, hw₁]
    rfl
  have hview : last.db.connections.view () = w.db.connections.committed.put row := by
    rw [Store.view_of_pending_nil, hlastdb, hcommitted]
    rw [hlastdb, Store.commit]
    exact List.filter_eq_nil_iff.2 (fun p _ => by simp)
  have hfound : ∃ c rows, (last.db.connections.view ()).rows.filter (fun c => c.id = row.id) =
      c :: rows := by
    have hmem : row ∈ (last.db.connections.view ()).rows.filter (fun c => c.id = row.id) := by
      rw [List.mem_filter, hview]
      exact ⟨Table.mem_put.2 (Or.inl rfl), decide_eq_true rfl⟩
    exact List.exists_cons_of_ne_nil (List.ne_nil_of_mem hmem)
  obtain ⟨c, rows, hrows⟩ := hfound
  have hselect : alone env (.sql (.selectConnections [] (fun c => c.id = row.id))) last =
      (.ok (c :: rows), last.tick) := by
    rw [← hrows]
    exact alone_sql_ok env (by rw [hlast, hw₁]; exact h.notFailed) (h.noFault _) rfl
  refine ⟨c, last.tick, ?_, ?_⟩
  · rw [upsertConnection, Prog.run_bind, run_ofExcept, henc]
    simp only [uuid4, sql, commit]
    rw [Prog.run_perform_ok _ (alone_uuid4 env), Prog.run_perform_ok _ hsql,
      Prog.run_perform_ok _ hcommit, Prog.run_perform_ok _ hselect]
    rfl
  · show last.db.connections.committed = _
    rw [hlastdb, hcommitted, ← hrow]
    rfl

/-- An upsert that the database refuses leaves the table as it was. -/
theorem run_upsertConnection_refused (h : FreshSession env w)
    (henc : encryptSecret env refreshToken = .ok encrypted)
    (hrefused : ¬ FitsEmail googleEmail ∨ ¬ KnownAccount w userId googleEmail) :
    ∃ e w', Prog.run (alone env) (upsertConnection env userId googleEmail refreshToken) w =
        (.error e, w') ∧ callbackErrorReason e = none ∧
      w'.db.connections.committed = w.db.connections.committed := by
  obtain ⟨e, hexec, hreason⟩ := exec_upsertConnection_refused (w := w.tick)
    (env.uuid4 w.calls) (env.clock w.tick.calls) encrypted h.idle hrefused
  have hsql := alone_sql_error env (w := w.tick) h.notFailed (h.noFault _) hexec
  refine ⟨e, (w.tick.abort ()).tick, ?_, hreason, rfl⟩
  rw [upsertConnection, Prog.run_bind, run_ofExcept, henc]
  simp only [uuid4, sql]
  rw [Prog.run_perform_ok _ (alone_uuid4 env), Prog.run_perform_error _ hsql]

/-- An exception of the exchange, turned into a redirect if it is one of the listed. -/
theorem run_callback_of_exchange_error {now : ℚ} {code state : String} {e : PyExc}
    (hconf : gmailConfigured env = true)
    (h : exchangeOutcome env w.calls now code state = .error e) :
    ∃ w', Prog.run (alone env) (callback env now code state) w =
        ((match callbackErrorReason e with
          | some reason => .ok (frontendError reason)
          | none => .error e), w') ∧
      w'.db = w.db ∧ w'.failed = w.failed := by
  obtain ⟨w₁, hrun, hdb, hfailed⟩ := run_exchangeCode (w := w) now code state hconf
  rw [h] at hrun
  refine ⟨w₁, ?_, hdb, hfailed⟩
  rw [callback, if_pos hconf, Prog.run_handle_error _ (Prog.run_bind_error _ hrun)]
  cases callbackErrorReason e with
  | some reason => rfl
  | none => rfl

/-- A key that cannot be used. -/
theorem run_callback_of_encrypt_error {now : ℚ} {code state : String} {tokens : TokenExchangeResult}
    {e : PyExc} (hconf : gmailConfigured env = true)
    (h : exchangeOutcome env w.calls now code state = .ok (userId, tokens))
    (henc : encryptSecret env tokens.refreshToken = .error e) :
    ∃ reason w', callbackErrorReason e = some reason ∧
      Prog.run (alone env) (callback env now code state) w = (.ok (frontendError reason), w') ∧
      w'.db = w.db ∧ w'.failed = w.failed := by
  obtain ⟨w₁, hrun, hdb, hfailed⟩ := run_exchangeCode (w := w) now code state hconf
  rw [h] at hrun
  obtain ⟨reason, hreason⟩ := Option.isSome_iff_exists.1 (reason_of_encryptSecret henc)
  have hupsert : Prog.run (alone env)
      (upsertConnection env userId tokens.googleEmail tokens.refreshToken) w₁ = (.error e, w₁) := by
    rw [upsertConnection, Prog.run_bind, run_ofExcept, henc]
  refine ⟨reason, w₁, hreason, ?_, hdb, hfailed⟩
  rw [callback, if_pos hconf, Prog.run_handle_error _ ((Prog.run_bind_ok _ hrun).trans
    (Prog.run_bind_error _ hupsert)), hreason]
  rfl

/-- A row that the database refuses. -/
theorem run_callback_of_refused {now : ℚ} {code state : String} {tokens : TokenExchangeResult}
    (hconf : gmailConfigured env = true) (hs : FreshSession env w)
    (h : exchangeOutcome env w.calls now code state = .ok (userId, tokens))
    (henc : encryptSecret env tokens.refreshToken = .ok encrypted)
    (hrefused : ¬ FitsEmail tokens.googleEmail ∨ ¬ KnownAccount w userId tokens.googleEmail) :
    ∃ e w', Prog.run (alone env) (callback env now code state) w = (.error e, w') ∧
      w'.db.connections.committed = w.db.connections.committed := by
  obtain ⟨w₁, hrun, hsame⟩ := run_exchangeCode (w := w) now code state hconf
  rw [h] at hrun
  have hrefused₁ : ¬ FitsEmail tokens.googleEmail ∨
      ¬ KnownAccount w₁ userId tokens.googleEmail := by
    rw [KnownAccount, hsame.1]
    exact hrefused
  obtain ⟨e, w₂, hupsert, hreason, htable⟩ :=
    run_upsertConnection_refused (hs.of_same hsame) henc hrefused₁
  refine ⟨e, w₂, ?_, htable.trans (by rw [hsame.1])⟩
  rw [callback, if_pos hconf, Prog.run_handle_error _ ((Prog.run_bind_ok _ hrun).trans
    (Prog.run_bind_error _ hupsert)), hreason]
  rfl

/-- **A callback that stores a connection** redirects to the success path. -/
theorem run_callback_of_stored {now : ℚ} {code state : String} {tokens : TokenExchangeResult}
    (hconf : gmailConfigured env = true) (hs : FreshSession env w)
    (h : exchangeOutcome env w.calls now code state = .ok (userId, tokens))
    (henc : encryptSecret env tokens.refreshToken = .ok encrypted)
    (hfits : FitsEmail tokens.googleEmail) (hknown : KnownAccount w userId tokens.googleEmail) :
    ∃ w' v, Prog.run (alone env) (callback env now code state) w =
        (.ok frontendSuccessPath, w') ∧ SameDb w v ∧
      w'.db.connections.committed = upserted env v userId tokens.googleEmail encrypted := by
  obtain ⟨w₁, hrun, hsame⟩ := run_exchangeCode (w := w) now code state hconf
  rw [h] at hrun
  have hknown₁ : KnownAccount w₁ userId tokens.googleEmail := by
    rw [KnownAccount, hsame.1]
    exact hknown
  obtain ⟨c, w₂, hupsert, htable⟩ :=
    run_upsertConnection_ok (hs.of_same hsame) henc hfits hknown₁
  refine ⟨w₂, w₁, ?_, hsame, htable⟩
  rw [callback, if_pos hconf, Prog.run_handle_ok _ ((Prog.run_bind_ok _ hrun).trans
    (Prog.run_bind_ok _ hupsert))]

end

/-! ## Exceptions that escape -/

/-- The state cannot make the verification raise anything but its own error: a state of
four fields has a signature in ASCII, and if that is the right one, a numeral for a time
that is no integer beyond the floating-point range. -/
def StateReadable (env : Env) (state : String) : Prop :=
  ∀ userId nonce issuedAt signature, splitFields state = [userId, nonce, issuedAt, signature] →
    isAscii signature = true ∧
    (signature = env.hmacSha256 env.settings.jwtSecret (statePayload userId nonce issuedAt) →
      ∀ n, intBaseTen env.unicode issuedAt.toList = some n → n.natAbs < floatLimit)

/-- Hexadecimal text is ASCII. -/
theorem isAscii_of_hex {s : String} (h : ∀ c ∈ s.toList, c.isDigit ∨ 'a' ≤ c ∧ c ≤ 'f') :
    isAscii s = true := by
  rw [isAscii, List.all_eq_true]
  intro c hc
  rw [decide_eq_true_eq]
  rcases h c hc with hd | ⟨-, hf⟩
  · exact Unicode.toNat_lt_of_isDigit hd
  · have h₁ : c.toNat = c.val.toNat := rfl
    have h₂ : 'f'.val.toNat = 102 := rfl
    have h₃ : c.val ≤ 'f'.val := hf
    rw [UInt32.le_iff_toNat_le] at h₃
    omega

theorem isAscii_hmacSha256 (env : Env) (secret payload : String) :
    isAscii (env.hmacSha256 secret payload) = true :=
  isAscii_of_hex (env.hmacSha256_hex secret payload)

/-- **Verification** raises only its own error exactly if the state is readable. -/
theorem stateReadable_iff {env : Env} (now : ℚ) {state : String} :
    StateReadable env state ↔ ∀ e, verifyState env env.settings.jwtSecret now state = .error e →
      (callbackErrorReason e).isSome = true := by
  constructor
  · intro h e hverify
    rw [verifyState] at hverify
    split at hverify
    · rename_i userId nonce issuedAt signature hsplit
      obtain ⟨hascii, hnumber⟩ := h _ _ _ _ hsplit
      simp only [compareDigest, isAscii_hmacSha256, hascii, Bool.and_self, if_true] at hverify
      by_cases hmac : signature =
          env.hmacSha256 env.settings.jwtSecret (statePayload userId nonce issuedAt)
      · rw [decide_eq_true hmac.symm] at hverify
        simp only at hverify
        cases hint : intBaseTen env.unicode issuedAt.toList with
        | none =>
            simp only [hint, Except.error.injEq] at hverify
            rw [← hverify]
            rfl
        | some n =>
            simp only [hint, floatOfInt, if_pos (hnumber hmac n hint)] at hverify
            split at hverify
            · cases hverify
              rfl
            · split at hverify
              · cases hverify
                rfl
              · split at hverify
                · cases hverify
                  rfl
                · cases hverify
      · rw [decide_eq_false (fun hc => hmac hc.symm)] at hverify
        cases hverify
        rfl
    · cases hverify
      rfl
  · intro h userId nonce issuedAt signature hsplit
    have hverify : ∀ e, verifyState env env.settings.jwtSecret now state = .error e →
        (callbackErrorReason e).isSome = true := h
    simp only [verifyState, hsplit] at hverify
    by_cases hascii : isAscii signature = true
    · refine ⟨hascii, fun hmac n hint => ?_⟩
      simp only [compareDigest, isAscii_hmacSha256, hascii, Bool.and_self, if_true,
        decide_eq_true hmac.symm, hint] at hverify
      by_contra hlimit
      simp only [floatOfInt, if_neg hlimit] at hverify
      exact absurd (hverify _ rfl) (by decide)
    · simp only [compareDigest, Bool.eq_false_iff.2 hascii, Bool.and_false, Bool.false_eq_true,
        if_false] at hverify
      exact absurd (hverify _ rfl) (by decide)

/-- What the client of the HTTP calls and the reader of their bodies raise is their own:
no exception of the application. -/
def Foreign (a : Except PyExc Response) : Prop :=
  (∀ e, a = .error e → callbackErrorReason e = none) ∧
    ∀ r e, a = .ok r → r.json = .error e → callbackErrorReason e = none

/-- The calls of the callback raise no exception of the application. -/
structure ForeignExceptions (env : Env) : Prop where
  post : ∀ n code, Foreign (env.external n (tokenRequest env code))
  get : ∀ n accessToken, Foreign (env.external n (userinfoRequest accessToken))

/-- Google answers, and an answer of status 200 is a JSON object. -/
def Answers (a : Except PyExc Response) : Prop :=
  ∃ r, a = .ok r ∧ (r.statusCode = 200 → ∃ kvs, r.json = .ok (.obj kvs))

/-- A reader of an answer that expects status 200 and a JSON object. -/
structure ReadsObject {α : Type} (read : Response → Except PyExc α) : Prop where
  status : ∀ r, r.statusCode ≠ 200 → ∃ e, read r = .error e ∧ (callbackErrorReason e).isSome
  body : ∀ r e, r.statusCode = 200 → r.object = .error e → read r = .error e
  fields : ∀ r v e, r.statusCode = 200 → r.object = .ok v → read r = .error e →
    (callbackErrorReason e).isSome

theorem readsObject_readTokens : ReadsObject readTokens where
  status r h := ⟨_, if_pos h, rfl⟩
  body r e h hobj := by
    rw [readTokens, if_neg (not_not.2 h), hobj]
  fields r v e h hobj hread := by
    rw [readTokens, if_neg (not_not.2 h), hobj] at hread
    simp only at hread
    split at hread
    · cases hread
    · cases hread
      rfl

theorem readsObject_readEmail : ReadsObject readEmail where
  status r h := ⟨_, if_pos h, rfl⟩
  body r e h hobj := by
    rw [readEmail, if_neg (not_not.2 h), hobj]
  fields r v e h hobj hread := by
    rw [readEmail, if_neg (not_not.2 h), hobj] at hread
    simp only at hread
    split at hread
    · split at hread
      · cases hread
        rfl
      · cases hread
    · cases hread
      rfl

/-- The exception of a body that is no JSON object. -/
theorem object_of_not_object {r : Response} (h : ¬ ∃ kvs, r.json = .ok (.obj kvs)) :
    ∃ e, r.object = .error e ∧ (r.json = .error e ∨ e = .attributeError) := by
  rw [Response.object]
  cases hjson : r.json with
  | error e => exact ⟨e, rfl, Or.inl rfl⟩
  | ok v =>
      cases v with
      | obj kvs => exact absurd ⟨kvs, hjson⟩ h
      | null | bool | int | float | special | str | arr => exact ⟨_, rfl, Or.inr rfl⟩

/-- **An answer that is no answer** lets an exception escape. -/
theorem escapes_of_not_answers {α : Type} {a : Except PyExc Response}
    {read : Response → Except PyExc α} (hread : ReadsObject read) (hforeign : Foreign a)
    (h : ¬ Answers a) : ∃ e, a >>= read = .error e ∧ callbackErrorReason e = none := by
  cases a with
  | error e => exact ⟨e, rfl, hforeign.1 e rfl⟩
  | ok r =>
      have hstatus : r.statusCode = 200 := by
        by_contra hne
        exact h ⟨r, rfl, fun hc => absurd hc hne⟩
      have hobj : ¬ ∃ kvs, r.json = .ok (.obj kvs) := fun hobj => h ⟨r, rfl, fun _ => hobj⟩
      obtain ⟨e, herr, hcase⟩ := object_of_not_object hobj
      refine ⟨e, hread.body r e hstatus herr, ?_⟩
      rcases hcase with hjson | rfl
      · exact hforeign.2 r e rfl hjson
      · rfl

/-- The exceptions an answer causes are listed. -/
theorem reason_of_answers {α : Type} {a : Except PyExc Response}
    {read : Response → Except PyExc α} (hread : ReadsObject read) (h : Answers a) {e : PyExc}
    (herr : a >>= read = .error e) : (callbackErrorReason e).isSome = true := by
  obtain ⟨r, rfl, hobj⟩ := h
  have herr : read r = .error e := herr
  by_cases hstatus : r.statusCode = 200
  · obtain ⟨kvs, hjson⟩ := hobj hstatus
    exact hread.fields r (.obj kvs) e hstatus (by rw [Response.object, hjson]) herr
  · obtain ⟨e', herr', hreason⟩ := hread.status r hstatus
    rw [herr, Except.error.injEq] at herr'
    rw [herr']
    exact hreason

/-! ## A configured server -/

/-- The secret the server signs with. -/
def sampleSecret : String := "0123456789abcdef0123456789abcdef"

def sampleNonce : Fin (2 ^ 128) := 0xffeeddccbbaa99887766554433221100

/-- The first seconds of 2026. -/
def sampleTime : ℤ := 1767225600

/-- The signatures of the payloads the examples sign. -/
def sampleHmac (key message : String) : String :=
  if key = sampleSecret ∧ message =
      "00000000-0000-0000-0000-000000000001.ffeeddccbbaa99887766554433221100.1767225600" then
    "82927ef6d19e4d0cc7aae1c07f9a7aa324611d3387dd1f21fd529e19e013e42c"
  else if key = sampleSecret ∧ message =
      "00000000-0000-0000-0000-000000000002.ffeeddccbbaa99887766554433221100.1767225600" then
    "e82f5ce53f0ed700f79815c632212baad63f6038b240d0e4d2df3e51b8501a2c"
  else if key = sampleSecret ∧ message = "a.b.c" then
    "4091b86f15f21ac943778fad18e568a7d1959eef9130e109b20627be8236684a"
  else "0000000000000000000000000000000000000000000000000000000000000000"

theorem sampleHmac_hex (key message : String) :
    ∀ c ∈ (sampleHmac key message).toList, c.isDigit ∨ 'a' ≤ c ∧ c ≤ 'f' := by
  unfold sampleHmac
  split
  · exact forall_mem_of_all (by decide)
  · split
    · exact forall_mem_of_all (by decide)
    · split
      · exact forall_mem_of_all (by decide)
      · exact forall_mem_of_all (by decide)

/-- The token `1//refresh` under the key of the examples. -/
def sampleCiphertext : String :=
  "gAAAAABpVbk8AAECAwQFBgcICQoLDA0OD-JaQ7145YwCnDxxvQEkW-02myW7Obqf97RID-8c8CRrdhdnwSvteKhsHuFJu_uFeA=="

def sampleFernet : Fernet where
  encrypt plaintext := if plaintext = "1//refresh" then sampleCiphertext else "gAAAAA=="
  decrypt ciphertext := if ciphertext = sampleCiphertext then some "1//refresh" else none
  textOk_encrypt plaintext := by
    split
    · decide
    · decide

/-- Google, when the account of a code is `carol@gmail.com`. -/
def sampleGoogle (_ : ℕ) : (x : Ext) → Except PyExc x.Res
  | .httpPost _ _ _ => .ok ⟨200, "", .ok (.obj [("access_token", .str "ya29.a0"),
      ("expires_in", .int 3599), ("refresh_token", .str "1//refresh")])⟩
  | .httpGet _ _ _ => .ok ⟨200, "", .ok (.obj [("sub", .str "1"),
      ("email", .str "carol@gmail.com")])⟩
  | _ => .error .httpError

/-- A server with the integration configured, and Google up. -/
def sampleServer : Env :=
  { Env.quiet with
    settings := { Env.quiet.settings with
      jwtSecret := sampleSecret
      gmailOauthClientId := some "client-id"
      gmailOauthClientSecret := some "client-secret"
      gmailTokenEncryptionKey := some "AAECAwQFBgcICQoLDA0ODxAREhMUFRYXGBkaGxwdHh8=" }
    hmacSha256 := sampleHmac
    hmacSha256_hex := sampleHmac_hex
    fernet := fun _ => .ok sampleFernet
    external := sampleGoogle }

/-- Two users and no connection. -/
def connectWorld : World Unit :=
  World.ofDb (Db.ofUsers [⟨1, "0123456789abcdef0123456789abcdef"⟩,
    ⟨2, "fedcba9876543210fedcba9876543210"⟩])

theorem freshSession_sample : FreshSession sampleServer connectWorld where
  noFault _ := rfl
  notFailed := rfl
  idle := rfl
  freshId _ := rfl

theorem foreignExceptions_sample : ForeignExceptions sampleServer where
  post _ _ := ⟨fun _ h => (nomatch h), fun r e h hjson => by
    cases h
    cases hjson⟩
  get _ _ := ⟨fun _ h => (nomatch h), fun r e h hjson => by
    cases h
    cases hjson⟩

/-- The state `/connect` signs for the second user. -/
def sampleState : String := signState sampleServer 2 (tokenHex sampleNonce) sampleTime sampleSecret

theorem splitFields_sampleState : splitFields sampleState =
    ["00000000-0000-0000-0000-000000000002", "ffeeddccbbaa99887766554433221100", "1767225600",
      "e82f5ce53f0ed700f79815c632212baad63f6038b240d0e4d2df3e51b8501a2c"] := by
  decide +kernel

theorem verifyState_sampleState :
    verifyState sampleServer sampleSecret (sampleTime + 60) sampleState = .ok 2 := by
  decide +kernel

/-- The verification asks nobody. -/
theorem verifyState_external (env : Env) (ext : ℕ → (x : Ext) → Except PyExc x.Res)
    (secret : String) (now : ℚ) (state : String) :
    verifyState { env with external := ext } secret now state =
      verifyState env secret now state := by
  simp only [verifyState]

/-! ## The answer of a callback -/

/-- The callback ends in one of its redirects, and stores nothing unless it is the one to
the success path. -/
def AnswersRedirect (env : Env) (now : ℚ) (code state : String) (w : World Unit) : Prop :=
  (∃ url ∈ callbackUrls, (Prog.run (alone env) (callback env now code state) w).1 = .ok url) ∧
    ((Prog.run (alone env) (callback env now code state) w).1 ≠ .ok frontendSuccessPath →
      (Prog.run (alone env) (callback env now code state) w).2.db.connections.committed =
        w.db.connections.committed)

/-- The callback is ready for what it gets: the state is readable, and for a state that
verifies Google answers both calls with JSON objects, and the account it names fits its
column and belongs to a user that exists. -/
def CallbackReady (env : Env) (now : ℚ) (code state : String) (w : World Unit) : Prop :=
  StateReadable env state ∧
    ∀ userId, verifyState env env.settings.jwtSecret now state = .ok userId →
      Answers (env.external w.calls (tokenRequest env code)) ∧
      ∀ refreshToken accessToken,
        env.external w.calls (tokenRequest env code) >>= readTokens =
          .ok (refreshToken, accessToken) →
        Answers (env.external (w.calls + 1) (userinfoRequest accessToken)) ∧
        ∀ googleEmail encrypted,
          env.external (w.calls + 1) (userinfoRequest accessToken) >>= readEmail =
            .ok googleEmail →
          encryptSecret env refreshToken = .ok encrypted →
          FitsEmail googleEmail ∧ KnownAccount w userId googleEmail

theorem mem_callbackUrls_of_reason {e : PyExc} {reason : String}
    (h : callbackErrorReason e = some reason) : frontendError reason ∈ callbackUrls := by
  have hmem : reason ∈ ["bad_state", "not_configured", "exchange_failed", "encryption_failed"] := by
    cases e <;> cases h <;> simp
  exact List.mem_cons_of_mem _ (List.mem_map_of_mem hmem)

section

variable {env : Env} {now : ℚ} {code state : String} {w : World Unit}

/-- An exception of the exchange that is not listed reaches the browser. -/
theorem reason_of_answersRedirect (hconf : gmailConfigured env = true)
    (hans : AnswersRedirect env now code state w) {e : PyExc}
    (herr : exchangeOutcome env w.calls now code state = .error e) :
    (callbackErrorReason e).isSome = true := by
  obtain ⟨w', hrun, -⟩ := run_callback_of_exchange_error hconf herr
  obtain ⟨url, -, hurl⟩ := hans.1
  rw [hrun] at hurl
  cases hreason : callbackErrorReason e with
  | some reason => rfl
  | none =>
      rw [hreason] at hurl
      cases hurl

/-- What a callback that answers must have been ready for. -/
theorem callbackReady_of_answersRedirect (hconf : gmailConfigured env = true)
    (hs : FreshSession env w) (hf : ForeignExceptions env)
    (hans : AnswersRedirect env now code state w) : CallbackReady env now code state w := by
  have hescape : ∀ e, exchangeOutcome env w.calls now code state = .error e →
      callbackErrorReason e ≠ none := by
    intro e herr hnone
    have := reason_of_answersRedirect hconf hans herr
    rw [hnone] at this
    cases this
  refine ⟨(stateReadable_iff now).2 fun e hverify => ?_, fun userId hverify => ⟨?_, ?_⟩⟩
  · exact reason_of_answersRedirect hconf hans (exchangeOutcome_eq_error.2 (Or.inl hverify))
  · by_contra hno
    obtain ⟨e, herr, hreason⟩ :=
      escapes_of_not_answers readsObject_readTokens (hf.post w.calls code) hno
    exact hescape e (exchangeOutcome_eq_error.2 (Or.inr ⟨userId, hverify, Or.inl herr⟩)) hreason
  · intro refreshToken accessToken htokens
    refine ⟨?_, fun googleEmail encrypted hemail henc => ?_⟩
    · by_contra hno
      obtain ⟨e, herr, hreason⟩ :=
        escapes_of_not_answers readsObject_readEmail (hf.get (w.calls + 1) accessToken) hno
      exact hescape e (exchangeOutcome_eq_error.2
        (Or.inr ⟨userId, hverify, Or.inr ⟨_, htokens, herr⟩⟩)) hreason
    · by_contra hno
      have hok : exchangeOutcome env w.calls now code state =
          .ok (userId, ⟨refreshToken, accessToken, googleEmail⟩) :=
        exchangeOutcome_eq_ok.2 ⟨hverify, htokens, hemail⟩
      obtain ⟨e, w', hrun, -⟩ := run_callback_of_refused hconf hs hok henc (not_and_or.1 hno)
      obtain ⟨url, -, hurl⟩ := hans.1
      rw [hrun] at hurl
      cases hurl

/-- What fails in an exchange that the callback is ready for is listed. -/
theorem reason_of_callbackReady (h : CallbackReady env now code state w) {e : PyExc}
    (herr : exchangeOutcome env w.calls now code state = .error e) :
    (callbackErrorReason e).isSome = true := by
  obtain ⟨hread, hready⟩ := h
  rcases exchangeOutcome_eq_error.1 herr with hverify | ⟨userId, hverify, herr⟩
  · exact (stateReadable_iff now).1 hread e hverify
  obtain ⟨hpost, htail⟩ := hready userId hverify
  rcases herr with htokens | ⟨tokens, htokens, hemail⟩
  · exact reason_of_answers readsObject_readTokens hpost htokens
  · exact reason_of_answers readsObject_readEmail (htail tokens.1 tokens.2 htokens).1 hemail

end

end SpendLens
