/-
# Who may make the backend work

Two endpoints know no user.  A push of Google is authenticated by the token in its header, a
delivery of the mail provider by the signature over its body.  A request that fails its check does
nothing at all.  So, in every interleaving of these requests with syncs, with uploads and with
whatever else neither starts a sync nor marks a receipt with a message, each sync in the queue
stems from a push that was verified, and each receipt of a message from a delivery that was signed
and addressed to its user, or from a sync.
-/
import SpendLens.PubsubBody
import SpendLens.WebhookSignature
import SpendLens.ConcurrentDelivery
import SpendLens.Ingestion

namespace SpendLens.Webhooks

/-! ## The endpoints -/

/-- The settings of the two endpoints, and the libraries they call. -/
structure Gate where
  gmailPubsubAudience : Option String
  gmailPubsubServiceAccount : Option String
  inboundEmailSecret : Option String
  /-- `verify_oauth2_token` of a token and an audience: the claims. -/
  verifyToken : String → String → Except PyExc Json
  mac : Mac
  /-- `InboundEmail.model_validate_json`. -/
  modelValidateJson : List UInt8 → Option InboundEmail

/-- Why there is no message: `PushNotConfiguredError`, or another exception. -/
inductive PushError where
  | notConfigured
  | raised (e : PyExc)

def googleOidcIssuer : String := "https://accounts.google.com"

/-- A setting or a header that is there and not empty. -/
def present (s : Option String) : Option String := s.filter (fun s => s ≠ "")

/-- The token of the `Authorization` header. -/
def bearerToken (authorizationHeader : Option String) : Except PyExc String :=
  match present authorizationHeader with
  | none => .error (.pushVerificationError "missing Authorization header")
  | some header =>
      if "Bearer ".toList.isPrefixOf header.toList then
        if strip (String.ofList (header.toList.drop 7)) = "" then
          .error (.pushVerificationError "empty bearer token")
        else .ok (strip (String.ofList (header.toList.drop 7)))
      else .error (.pushVerificationError "malformed Authorization header")

/-- The claims of a token; the library raises a `ValueError` for each one it refuses. -/
def tokenClaims (G : Gate) (token audience : String) : Except PyExc Json :=
  match G.verifyToken token audience with
  | .error (.valueError msg) => .error (.pushVerificationError ("JWT verification failed: " ++ msg))
  | r => r

/-- The value is this text. -/
def isText (s : String) : Json → Bool
  | .str t => t = s
  | _ => false

/-- The issuer and the service account are those expected. -/
def checkClaims (env : Env) (serviceAccount : String) (claims : Json) : Except PyExc Unit :=
  if isText googleOidcIssuer (field claims "iss") then
    if isText serviceAccount (field claims "email") then .ok ()
    else .error (.pushVerificationError "JWT email claim does not match configured service account")
  else
    .error (.pushVerificationError ("unexpected issuer: " ++ env.reprJson (field claims "iss")))

/-- `verify_push_request`. -/
def verifyPushRequest (env : Env) (G : Gate) (authorizationHeader : Option String)
    (rawBody : List UInt8) : Except PushError PubSubMessage :=
  match present G.gmailPubsubAudience, present G.gmailPubsubServiceAccount with
  | some audience, some serviceAccount =>
      Except.mapError .raised (do
        let token ← bearerToken authorizationHeader
        let claims ← tokenClaims G token audience
        checkClaims env serviceAccount claims
        decodePubsubBody env rawBody)
  | _, _ => .error .notConfigured

/-- `push`, with the status it answers. -/
def pushEndpoint (env : Env) (G : Gate) (authorization : Option String) (rawBody : List UInt8) :
    Service ℕ :=
  match verifyPushRequest env G authorization rawBody with
  | .error .notConfigured => .ret 503
  | .error (.raised (.pushVerificationError _)) => .ret 401
  | .error (.raised e) => .raise e
  | .ok message => (push message.emailAddress message.historyId).bind fun _ => .ret 204

/-- A token that no user has is not found. -/
def answerUnknown : PyExc → Service ℕ
  | .unknownInboxToken _ => .ret 404
  | e => .raise e

/-- `inbound_email`, with the status it answers. -/
def inboundEmail (env : Env) (G : Gate) (now : ℚ) (signature : Option String)
    (rawBody : List UInt8) : Service ℕ :=
  match present G.inboundEmailSecret with
  | none => .ret 503
  | some secret =>
      match verifyWebhookSignature env.unicode G.mac now rawBody signature secret with
      | .error (.invalidSignature _) => .ret 401
      | .error e => .raise e
      | .ok () =>
          match G.modelValidateJson rawBody with
          | none => .ret 400
          | some payload =>
              Prog.handle ((processInboundEmail env payload).bind fun _ => .ret 202) answerUnknown

/-! ## The visits -/

/-- What neither starts a sync nor marks a receipt with a message. -/
def Unmarked : Op → Prop
  | .sql (.insertReceipt r) => r.externalMessageId = none
  | .delay (.gmailHistorySync _ _) => False
  | _ => True

/-- A request of one of the two endpoints, a sync, an upload, or something else. -/
inductive Visit where
  | push (authorization : Option String) (rawBody : List UInt8)
  | delivery (now : ℚ) (signature : Option String) (rawBody : List UInt8)
  | sync (connectionId : UUID) (pushHistoryId : String)
  | upload (userId : UUID) (body : List UInt8)
  | other (program : Service ℕ) (keeps : program.Asks Unmarked)

def Visit.program (env : Env) (G : Gate) (pages : ℕ) : Visit → Service ℕ
  | push authorization rawBody => pushEndpoint env G authorization rawBody
  | delivery now signature rawBody => inboundEmail env G now signature rawBody
  | sync connectionId pushHistoryId =>
      (runHistorySync env pages connectionId pushHistoryId).bind fun _ => .ret 0
  | upload userId body => (createReceipt env userId body none).bind fun _ => .ret 201
  | other program _ => program

/-- A push that is verified and announces the history id. -/
def Visit.Announces (env : Env) (G : Gate) (v : Visit) (historyId : String) : Prop :=
  ∃ authorization rawBody message, v = .push authorization rawBody ∧
    verifyPushRequest env G authorization rawBody = .ok message ∧ message.historyId = historyId

/-- A delivery that is signed, of a message to the user. -/
def Visit.Delivers (env : Env) (G : Gate) (users : List User) (v : Visit) (key : UUID × String) :
    Prop :=
  ∃ now signature rawBody secret payload user, v = .delivery now signature rawBody ∧
    present G.inboundEmailSecret = some secret ∧
    verifyWebhookSignature env.unicode G.mac now rawBody signature secret = .ok () ∧
    G.modelValidateJson rawBody = some payload ∧
    resolvedUser env.unicode users payload.toAddress = some user ∧
    key = (user.id, payload.messageId)

/-! ## What the visits ask for -/

/-- The message of a receipt, if it has one, is within `Q`. -/
def FiledWithin (Q : UUID × String → Prop) (r : Receipt) : Prop :=
  ∀ key, r.messageKey = some key → Q key

/-- Tasks are enqueued within `P`, and receipts of messages inserted within `Q`. -/
def Within (P : Task → Prop) (Q : UUID × String → Prop) : Op → Prop
  | .delay t => P t
  | .sql (.insertReceipt r) => FiledWithin Q r
  | _ => True

section visits

variable {env : Env} {G : Gate} {users : List User} {P : Task → Prop} {Q : UUID × String → Prop}

/-- What a program asks for under two guarantees. -/
theorem respects_inter {α : Type} {guar guar' : Op → Prop}
    {rely : (o : Op) → Except PyExc o.Res → Prop} {post : α → Prop} {exc : PyExc → Prop}
    {p : Service α} (h : p.Respects guar rely post exc) (h' : p.Asks guar') :
    p.Respects (fun o => guar o ∧ guar' o) rely post exc := by
  induction p with
  | ret a => exact (Prog.respects_ret a).2 ((Prog.respects_ret a).1 h)
  | raise e => exact (Prog.respects_raise e).2 ((Prog.respects_raise e).1 h)
  | call o k ih =>
      obtain ⟨ho, hk⟩ := (Prog.respects_call o k).1 h
      obtain ⟨ho', hk'⟩ := (Prog.respects_call o k).1 h'
      exact (Prog.respects_call o k).2
        ⟨⟨ho, ho'⟩, fun r hr => ih r (hk r hr) (hk' r trivial)⟩

theorem within_of_unmarked (hP : ∀ id, P (.processReceipt id))
    (hP' : ∀ id, P (.categoriseReceipt id)) {o : Op} (h : Unmarked o) : Within P Q o := by
  cases o with
  | sql s =>
      cases s with
      | insertReceipt r =>
          intro key hkey
          have hmark : r.externalMessageId = none := h
          rw [Receipt.messageKey, hmark] at hkey
          cases hkey
      | _ => trivial
  | delay t =>
      cases t with
      | processReceipt id => exact hP id
      | categoriseReceipt id => exact hP' id
      | gmailHistorySync c p => exact h.elim
  | _ => trivial

/-- Bringing receipts in enqueues no sync. -/
theorem within_of_ingests (hP : ∀ id, P (.processReceipt id)) {o : Op} (h : Ingests o)
    (hQ : ∀ r, o = .sql (.insertReceipt r) → FiledWithin Q r) : Within P Q o := by
  cases o with
  | sql s =>
      cases s with
      | insertReceipt r => exact hQ r rfl
      | _ => trivial
  | delay t =>
      cases t with
      | processReceipt id => exact hP id
      | categoriseReceipt id => exact h.elim
      | gmailHistorySync c p => exact h.elim
  | _ => trivial

/-- An upload marks its receipt with no message. -/
theorem unmarked_createReceipt (userId : UUID) (body : List UInt8) :
    (createReceipt env userId body none).Asks Unmarked := by
  cases hvet : vetUpload body with
  | error e =>
      rw [createReceipt_of_vet_error hvet]
      exact Prog.Asks.raise
  | ok mime =>
      rw [(createReceipt_of_vet_ok env userId none hvet).2]
      have hkey : (buildReceiptKey env userId mime env.settings.jwtSecret).Asks Unmarked := by
        unfold buildReceiptKey
        split
        · exact Prog.Asks.raise
        · exact Prog.Asks.step trivial (fun _ => Prog.Asks.step trivial (fun _ => Prog.Asks.ret))
      have hsave : ∀ key, (saveReceipt userId key mime body.length none).Asks Unmarked := by
        intro key
        refine Prog.Asks.handle ?_ (fun e => Prog.Asks.step trivial (fun _ => Prog.Asks.raise))
        refine Prog.Asks.step trivial (fun id => Prog.Asks.step rfl (fun _ => ?_))
        exact Prog.Asks.step trivial (fun _ => Prog.Asks.ret)
      have henqueue : ∀ id, (enqueueProcessing env id).Asks Unmarked := by
        intro id
        unfold enqueueProcessing
        split
        · exact Prog.Asks.ret
        · exact Prog.Asks.perform trivial
      refine Prog.Asks.bind hkey (fun key => Prog.Asks.step trivial (fun _ => ?_))
      refine Prog.Asks.bind (hsave key) (fun id => ?_)
      refine Prog.Asks.bind (Prog.Asks.step trivial (fun rows => asks_refreshed rows))
        (fun receipt => ?_)
      exact Prog.Asks.bind (henqueue receipt.id) (fun _ => Prog.Asks.ret)

/-- A push that is verified enqueues syncs with its history id; another one asks for nothing. -/
theorem within_pushEndpoint (authorization : Option String) (rawBody : List UInt8)
    (hP : ∀ message, verifyPushRequest env G authorization rawBody = .ok message →
      ∀ c, P (.gmailHistorySync c message.historyId)) :
    (pushEndpoint env G authorization rawBody).Asks (Within P Q) := by
  unfold pushEndpoint
  split
  · exact Prog.Asks.ret
  · exact Prog.Asks.ret
  · exact Prog.Asks.raise
  · rename_i message hverified
    have hsyncs : ∀ connections : List GmailConnection,
        (enqueueSyncs message.historyId connections).Asks (Within P Q) := by
      intro connections
      induction connections with
      | nil => exact Prog.Asks.ret
      | cons connection rest ih =>
          exact Prog.Asks.step (hP message hverified connection.id) (fun _ => ih)
    exact Prog.Asks.bind (Prog.Asks.step trivial hsyncs) (fun _ => Prog.Asks.ret)

/-- A delivery to nobody inserts nothing. -/
theorem respects_processInboundEmail_unresolved {payload : InboundEmail}
    (h : resolvedUser env.unicode users payload.toAddress = none) :
    (processInboundEmail env payload).Respects Unmarked (UsersAre users) (fun _ => True)
      (fun _ => True) := by
  have hresolve : (resolveUserByToAddress env payload.toAddress).Respects Unmarked (UsersAre users)
      (fun _ => False) (fun _ => True) := by
    unfold resolveUserByToAddress
    split
    · exact Prog.Respects.raise trivial
    · rename_i token htoken
      rw [resolvedUser, htoken, Option.bind_some] at h
      have hread : (sql (.selectUsers [.text token] (fun u => u.inboxToken = token))).Respects
          Unmarked (UsersAre users)
          (fun rows => rows = users.filter (fun u => u.inboxToken = token)) (fun _ => True) := by
        refine Prog.Respects.perform
          (o := Op.sql (.selectUsers [.text token] (fun u => u.inboxToken = token))) trivial
          (fun rows hrows => ?_) (fun _ _ => trivial)
        exact hrows
      refine Prog.Respects.bind hread (fun rows hrows => ?_)
      rw [← hrows] at h
      rcases rows with _ | ⟨u, _ | ⟨v, rows⟩⟩
      · exact Prog.Respects.raise trivial
      · cases h
      · exact Prog.Respects.raise trivial
  exact Prog.Respects.bind hresolve (fun _ hfalse => hfalse.elim)

/-- **A delivery** that is signed files receipts of its message under the user it is addressed to;
another one asks for nothing. -/
theorem within_inboundEmail (now : ℚ) (signature : Option String) (rawBody : List UInt8)
    (hP : ∀ id, P (.processReceipt id)) (hP' : ∀ id, P (.categoriseReceipt id))
    (hQ : ∀ key, (Visit.delivery now signature rawBody).Delivers env G users key → Q key) :
    (inboundEmail env G now signature rawBody).Respects (Within P Q) (UsersAre users)
      (fun _ => True) (fun _ => True) := by
  unfold inboundEmail
  split
  · exact Prog.Respects.ret trivial
  · rename_i secret hsecret
    split
    · exact Prog.Respects.ret trivial
    · exact Prog.Respects.raise trivial
    · rename_i hsigned
      split
      · exact Prog.Respects.ret trivial
      · rename_i payload hpayload
        have hprocess : (processInboundEmail env payload).Respects (Within P Q) (UsersAre users)
            (fun _ => True) (fun _ => True) := by
          cases huser : resolvedUser env.unicode users payload.toAddress with
          | none =>
              -- nobody has the address, so the delivery ends before its first receipt
              exact (respects_processInboundEmail_unresolved huser).mono
                (fun _ => within_of_unmarked hP hP') (fun _ h => h) (fun _ h => h)
          | some user =>
              have hkey : Q (user.id, payload.messageId) := hQ _ ⟨now, signature, rawBody, secret,
                payload, user, rfl, hsecret, hsigned, hpayload, huser, rfl⟩
              -- its receipts have the user's message, and nothing else is enqueued or inserted
              refine (respects_inter (marking_processInboundEmail env payload huser)
                (ingests_processInboundEmail payload)).mono (fun o ho => ?_) (fun _ h => h)
                (fun _ h => h)
              refine within_of_ingests hP ho.2 (fun r hr key hmessage => ?_)
              subst hr
              have hmark : r.messageKey = some (user.id, payload.messageId) := ho.1
              rw [hmark] at hmessage
              exact Option.some.inj hmessage ▸ hkey
        refine Prog.Respects.handle (Prog.Respects.bind hprocess
          (fun _ _ => Prog.Respects.ret trivial)) (fun e _ => ?_)
        unfold answerUnknown
        split
        · exact Prog.Respects.ret trivial
        · exact Prog.Respects.raise trivial

/-- A sync enqueues no sync. -/
theorem within_runHistorySync (pages : ℕ) (connectionId : UUID) (pushHistoryId : String)
    (hP : ∀ id, P (.processReceipt id)) (hQ : ∀ key, Q key) :
    (runHistorySync env pages connectionId pushHistoryId).Asks (Within P Q) := by
  exact (ingests_runHistorySync pages connectionId pushHistoryId).mono
    (fun o ho => within_of_ingests hP ho (fun r _ key _ => hQ key))

/-- **What a visit may do**: it starts the syncs it announces, and files the messages it
delivers. -/
theorem within_visit (pages : ℕ) (v : Visit) (hP : ∀ id, P (.processReceipt id))
    (hP' : ∀ id, P (.categoriseReceipt id))
    (hannounced : ∀ c historyId, v.Announces env G historyId → P (.gmailHistorySync c historyId))
    (hdelivered : ∀ key, v.Delivers env G users key → Q key)
    (hsynced : ∀ c historyId, v = .sync c historyId → ∀ key, Q key) :
    (v.program env G pages).Respects (Within P Q) (UsersAre users) (fun _ => True)
      (fun _ => True) := by
  cases v with
  | push authorization rawBody =>
      refine (within_pushEndpoint authorization rawBody (fun message hverified c => ?_)).relying
      exact hannounced c _ ⟨authorization, rawBody, message, rfl, hverified, rfl⟩
  | delivery now signature rawBody =>
      exact within_inboundEmail now signature rawBody hP hP' hdelivered
  | sync connectionId pushHistoryId =>
      have hsync : (runHistorySync env pages connectionId pushHistoryId).Asks (Within P Q) :=
        within_runHistorySync pages connectionId pushHistoryId hP
          (hsynced connectionId pushHistoryId rfl)
      exact (Prog.Asks.bind hsync (fun _ => Prog.Asks.ret)).relying
  | upload userId body =>
      have hupload : (createReceipt env userId body none).Asks (Within P Q) :=
        (unmarked_createReceipt userId body).mono (fun _ => within_of_unmarked hP hP')
      exact (Prog.Asks.bind hupload (fun _ => Prog.Asks.ret)).relying
  | other program keeps =>
      exact (keeps.mono (fun _ => within_of_unmarked hP hP')).relying

end visits

/-! ## Every run -/

section runs

variable {ι : Type} [DecidableEq ι] {env : Env} {G : Gate} {visits : ι → Visit}

/-- The syncs in the queue that are known to be announced. -/
def Announced (env : Env) (G : Gate) (visits : ι → Visit) (w : World ι) (t : Task) : Prop :=
  ∀ c historyId, t = .gmailHistorySync c historyId →
    t ∈ w.queue ∨ ∃ i, (visits i).Announces env G historyId

/-- The messages with receipts that are known to be delivered. -/
def Delivered (env : Env) (G : Gate) (visits : ι → Visit) (w : World ι) (key : UUID × String) :
    Prop :=
  (∃ u ∈ w.db.receipts.committed.rows, u.messageKey = some key) ∨
    (∃ i, (visits i).Delivers env G w.db.users key) ∨ ∃ i c historyId, visits i = .sync c historyId

/-- **Nothing comes from nobody**: each sync in the queue of `w'` and each receipt of a message in
its table has been there in `w` or stems from an authenticated visit. -/
structure Authenticated (env : Env) (G : Gate) (visits : ι → Visit) (w w' : World ι) : Prop where
  syncs : ∀ t ∈ w'.queue, Announced env G visits w t
  receipts : ∀ r ∈ w'.db.receipts.committed.rows, ∀ key, r.messageKey = some key →
    Delivered env G visits w key

/-- An operation enqueues what it delays, and nothing else. -/
theorem exec_queue {i : ι} {o : Op} {r : Except PyExc o.Res} {w w' : World ι}
    (hx : exec env i o w = some (r, w')) :
    w'.queue = w.queue ∨ ∃ t, o = .delay t ∧ w'.queue = w.queue ++ [t] := by
  have heffect : ∀ {f : Fault} {e : PyExc} {v : World ι} {r : Except PyExc Unit},
      w.effect f e v = (r, w') → w'.queue = w.queue ∨ w'.queue = v.queue := by
    intro f e v r he
    cases f <;> cases he <;> first | exact Or.inl rfl | exact Or.inr rfl
  cases o with
  | sql s =>
      rcases exec_sql_cases hx with ⟨-, -, rfl⟩ | ⟨-, -, rfl⟩ | ⟨a, db, -, -, -, rfl⟩ <;>
        exact Or.inl rfl
  | commit =>
      rcases exec_commit_cases hx with ⟨-, -, rfl⟩ | ⟨-, -, rfl⟩ | ⟨-, -, rfl⟩ | ⟨-, -, rfl⟩ <;>
        exact Or.inl rfl
  | putObject key body mime =>
      rcases heffect (Option.some.inj hx) with h | h <;> exact Or.inl h
  | deleteObject key =>
      rcases heffect (Option.some.inj hx) with h | h <;> exact Or.inl h
  | delay t =>
      -- a fault strikes before the task is in the queue, or after
      rcases heffect (Option.some.inj hx) with h | h
      · exact Or.inl h
      · exact Or.inr ⟨t, rfl, h⟩
  | getObject key =>
      simp only [exec] at hx
      split at hx <;> cases hx <;> exact Or.inl rfl
  | _ =>
      cases hx
      exact Or.inl rfl

/-- **One operation** within the guarantee enqueues and inserts within it. -/
theorem exec_within {P : Task → Prop} {Q : UUID × String → Prop} {i : ι} {o : Op}
    {r : Except PyExc o.Res} {w w' : World ι} (ho : Within P Q o)
    (hqueue : ∀ t ∈ w.queue, P t)
    (hreceipts : w.db.receipts.All (FiledWithin Q))
    (hx : exec env i o w = some (r, w')) :
    (∀ t ∈ w'.queue, P t) ∧ w'.db.receipts.All (FiledWithin Q) := by
  constructor
  · intro t ht
    rcases exec_queue hx with h | ⟨t', rfl, h⟩
    · exact hqueue t (h ▸ ht)
    · rw [h, List.mem_append, List.mem_singleton] at ht
      rcases ht with ht | rfl
      · exact hqueue t ht
      · exact ho
  · refine exec_db (I := fun db => db.receipts.All (FiledWithin Q))
      (fun db hdb => hdb.commit i) (fun db hdb => hdb.rollback i) hx ?_ hreceipts
    intro s a db hs hdb
    subst hs
    rcases Stmt.exec_receipts hdb with hsame | hwrite
    · rw [hsame]
      exact hreceipts
    · revert hwrite ho
      generalize db.receipts = st
      intro ho hwrite
      cases hwrite with
      | insert v hlock hnew hfree => exact hreceipts.put i ho
      | update id cols v v' hget hlock hstore =>
          refine hreceipts.put i (fun key hkey => ?_)
          -- no update touches the message of a receipt
          have hsame : v'.messageKey = v.messageKey := (storeAll_receipt hstore).2.1
          exact hreceipts.view hget key (hsame.symm.trans hkey)
      | delete id v hget hlock => exact hreceipts.del i id

/-- **Only authenticated visits start syncs and bring in messages**, in every interleaving, with
faults and crashes. -/
theorem authenticated_run (env : Env) (G : Gate) (pages : ℕ) (visits : ι → Visit) {w : World ι}
    (hpending : w.db.receipts.pending = []) (as : List (Machine.Action ι Empty)) :
    Authenticated env G visits w
      ((backend env).run ⟨fun i => (visits i).program env G pages, w⟩ as).shared := by
  have hP : ∀ id, Announced env G visits w (.processReceipt id) :=
    fun id c h heq => Task.noConfusion heq
  have hP' : ∀ id, Announced env G visits w (.categoriseReceipt id) :=
    fun id c h heq => Task.noConfusion heq
  have hvisits : ∀ i, ((visits i).program env G pages).Respects
      (Within (Announced env G visits w) (Delivered env G visits w)) (UsersAre w.db.users)
      (fun _ => True) (fun _ => True) := by
    intro i
    refine within_visit pages (visits i) hP hP' (fun c historyId hannounced => ?_)
      (fun key hdelivers => Or.inr (Or.inl ⟨i, hdelivers⟩))
      (fun c historyId hsync key => Or.inr (Or.inr ⟨i, c, historyId, hsync⟩))
    rintro _ _ ⟨⟩
    exact Or.inr ⟨i, hannounced⟩
  have hstart : w.db.receipts.All (FiledWithin (Delivered env G visits w)) :=
    Store.all_of_pending_nil hpending (fun r hr key hkey => Or.inl ⟨r, hr, hkey⟩)
  have hinvariant := Machine.holds_run_of_respects (M := backend env)
    (I := fun w' => w'.db.users = w.db.users ∧ (∀ t ∈ w'.queue, Announced env G visits w t) ∧
      w'.db.receipts.All (FiledWithin (Delivered env G visits w)))
    (fun hI ho hx => ⟨⟨(exec_users hx).trans hI.1, exec_within ho hI.2.1 hI.2.2 hx⟩,
      hI.1 ▸ (exec_reads hx).2⟩)
    (fun {i s} hI => ⟨hI.1, hI.2.1, hI.2.2.rollback i⟩) (fun {e} _ => e.elim)
    (c := ⟨fun i => (visits i).program env G pages, w⟩) as
    ⟨rfl, fun t ht c h heq => Or.inl ht, hstart⟩ hvisits
  obtain ⟨⟨-, hqueue, hreceipts⟩, -⟩ := hinvariant
  exact ⟨hqueue, fun r hr key hkey => hreceipts.1 r.id r (Table.get_of_mem hr) key hkey⟩

end runs

/-- The settings of the examples; Google's token is the word `token`. -/
def sampleGate : Gate where
  gmailPubsubAudience := some "https://api.spendlens.local/push"
  gmailPubsubServiceAccount := some "push@spendlens.local"
  inboundEmailSecret := some webhookSecret
  verifyToken token _ :=
    if token = "token" then
      .ok (.obj [("iss", .str googleOidcIssuer), ("email", .str "push@spendlens.local")])
    else .error (.valueError "Could not verify token signature.")
  mac := webhookMac
  modelValidateJson _ := none

/-- The mailbox `a@b.c` has changed up to the history id 7. -/
def sampleBody : List UInt8 :=
  ("\x7b\"message\": \x7b\"data\": \"eyJlbWFpbEFkZHJlc3MiOiJhQGIuYyIsImhpc3RvcnlJZCI6N30=\", " ++
    "\"messageId\": \"1\"\x7d\x7d").toList.map (fun c => UInt8.ofNat c.toNat)

/-- A push and a forged one. -/
def twoPushes : Bool → Visit
  | true => .push (some "Bearer token") sampleBody
  | false => .push (some "Bearer forged") sampleBody

/-- One user with the mailbox `a@b.c`. -/
def linkedWorld : World Bool :=
  World.ofDb { Db.ofUsers [sampleUser] with
    connections := Store.ofTable
      (Table.empty.put ⟨3, sampleUser.id, "a@b.c", "ciphertext", none, 0, 0⟩) }

/-- The two pushes take turns. -/
def pushTurns : List (Machine.Action Bool Empty) :=
  [.step true, .step false, .step true, .step false]

theorem authenticated_run_sample :
    Authenticated Env.quiet sampleGate twoPushes linkedWorld
      ((backend Env.quiet).run
        ⟨fun i => (twoPushes i).program Env.quiet sampleGate 1, linkedWorld⟩ pushTurns).shared :=
  authenticated_run Env.quiet sampleGate 1 twoPushes rfl pushTurns

/-- Only the first one starts a sync. -/
example : ((backend Env.quiet).run
    ⟨fun i => (twoPushes i).program Env.quiet sampleGate 1, linkedWorld⟩
      pushTurns).shared.queue = [.gmailHistorySync 3 "7"] := by decide +kernel

end SpendLens.Webhooks
