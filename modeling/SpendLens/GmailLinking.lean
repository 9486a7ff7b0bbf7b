/-
# Who a mailbox is linked to

Runs of browsers, the server and Google.  A state that verifies says which user asked for
it, and only that: `stored_under_verified` is what a callback can store.  Whose browser
brings the state back is up to whoever opens the URL, so a mailbox is linked by the flow of
its own user as long as no browser requests a callback with a state that was handed to
another.
-/
import SpendLens.GmailCallback
import SpendLens.Steps
import SpendLens.Lib.EventRuns

namespace SpendLens

open EventRuns

/-! ## What a callback stores -/

/-- The operations of a callback whose state names `userId` if it verifies. -/
def CallbackOp (owner : UUID → Prop) : Op → Prop
  | .sql (.upsertConnection _ userId _ _) => owner userId
  | .sql (.selectConnections _ _) => True
  | .sql _ => False
  | _ => True

section

variable {owner : UUID → Prop}

/-- A program that only asks for these operations. -/
abbrev Calls {α : Type} (owner : UUID → Prop) (p : Service α) (post : α → Prop) : Prop :=
  p.Respects (CallbackOp owner) (fun _ _ => True) post (fun _ => True)

theorem calls_ofExcept {α : Type} {r : Except PyExc α} {post : α → Prop}
    (h : ∀ a, r = .ok a → post a) : Calls owner (Prog.ofExcept r) post :=
  Prog.Respects.ofExcept h (fun _ _ => trivial)

theorem calls_perform (owner : UUID → Prop) (o : Op) (h : CallbackOp owner o) :
    Calls owner (Prog.perform o) (fun _ => True) :=
  Prog.Respects.perform h (fun _ _ => trivial) (fun _ _ => trivial)

/-- The user a state names, if it verifies. -/
def Names (env : Env) (now : ℚ) (state : String) (userId : UUID) : Prop :=
  verifyState env env.settings.jwtSecret now state = .ok userId

/-- The exchange answers with the user of the state. -/
theorem calls_exchangeCode (env : Env) (now : ℚ) (code state : String) :
    Calls owner (exchangeCode env now code state)
      (fun exchanged => Names env now state exchanged.1) := by
  rw [exchangeCode]
  split
  · refine (calls_ofExcept fun userId h => h).bind fun userId huser => ?_
    refine (calls_perform owner (.ext (tokenRequest env code)) trivial).bind fun tokenResp _ => ?_
    refine (calls_ofExcept fun _ _ => trivial).bind fun tokens _ => ?_
    refine (calls_perform owner (.ext (userinfoRequest tokens.2)) trivial).bind
      fun userinfoResp _ => ?_
    refine (calls_ofExcept fun _ _ => trivial).bind fun email _ => ?_
    exact Prog.Respects.ret huser
  · exact Prog.Respects.raise trivial

theorem calls_upsertConnection (env : Env) (owner : UUID → Prop) {userId : UUID}
    (googleEmail refreshToken : String)
    (h : owner userId) :
    Calls owner (upsertConnection env userId googleEmail refreshToken) (fun _ => True) := by
  refine (calls_ofExcept fun _ _ => trivial).bind fun encrypted _ => ?_
  refine (calls_perform owner .uuid4 trivial).bind fun id _ => ?_
  refine (calls_perform owner (.sql (.upsertConnection id userId googleEmail encrypted)) h).bind
    fun connection _ => ?_
  refine (calls_perform owner .commit trivial).bind fun _ _ => ?_
  refine (calls_perform owner (.sql (.selectConnections [] (fun c => c.id = connection.id)))
    trivial).bind fun rows _ => ?_
  cases rows with
  | nil => exact Prog.Respects.raise trivial
  | cons c rows => exact Prog.Respects.ret trivial

/-- A callback upserts under the user of its state, and writes nothing else. -/
theorem calls_callback (env : Env) (now : ℚ) (code state : String) :
    Calls (Names env now state) (callback env now code state) (fun _ => True) := by
  rw [callback]
  split
  · have hbody := (calls_exchangeCode env now code state).bind
      fun exchanged huser => (calls_upsertConnection env (Names env now state)
        exchanged.2.googleEmail exchanged.2.refreshToken huser).bind fun _ _ =>
          (Prog.Respects.ret trivial : Calls _ (.ret frontendSuccessPath) (fun _ => True))
    refine hbody.handle fun e _ => ?_
    split
    · exact Prog.Respects.ret trivial
    · exact Prog.Respects.raise trivial
  · exact Prog.Respects.ret trivial

/-- Every connection, stored or staged, was there before or is of an owner. -/
def OwnedRows (before : GmailConnection → Prop) (owner : UUID → Prop) (w : World Unit) : Prop :=
  w.db.connections.All (fun c => before c ∨ owner c.userId)

/-- One operation of a callback keeps the rows owned. -/
theorem ownedRows_alone (env : Env) {before : GmailConnection → Prop} {o : Op} {w : World Unit}
    (ho : CallbackOp owner o) (h : OwnedRows before owner w) :
    OwnedRows before owner (alone env o w).2 := by
  have hexec : alone env o w = (exec env () o w).getD (.error .workerLost, w) := rfl
  rw [hexec]
  cases hr : exec env () o w with
  | none => exact h
  | some x =>
      obtain ⟨r, w'⟩ := x
      refine exec_db (I := fun db => db.connections.All (fun c => before c ∨ owner c.userId))
        (fun db hdb => hdb.commit ()) (fun db hdb => hdb.rollback ()) hr ?_ h
      intro s a db hs hdb
      subst hs
      rcases Stmt.exec_connections hdb with hsame | hwrite
      · rw [hsame]
        exact h
      · revert hwrite ho
        generalize db.connections = st
        intro ho hwrite
        cases hwrite with
        | insert id userId googleEmail encrypted hlock hnew => exact h.put () (Or.inr ho)
        | renew id userId googleEmail encrypted c hkey hget hlock =>
            refine h.put () (Or.inr ?_)
            rw [hkey.1]
            exact ho
        | update id lastHistoryId c hget hlock => exact ho.elim
        | delete id c hget hlock => exact ho.elim

/-- **What a callback stores is under the user of its state**: whatever the surroundings
answer, every row it leaves was there before or belongs to that user. -/
theorem stored_under_verified (env : Env) (now : ℚ) (code state : String) {w : World Unit}
    (hidle : w.db.connections.pending = []) {c : GmailConnection}
    (hc : c ∈ (Prog.run (alone env) (callback env now code state) w).2.db.connections.committed.rows) :
    c ∈ w.db.connections.committed.rows ∨ Names env now state c.userId := by
  have hstart : OwnedRows (fun c => c ∈ w.db.connections.committed.rows)
      (Names env now state) w :=
    Store.all_of_pending_nil hidle (fun v hv => Or.inl hv)
  have hend := (calls_callback env now code state).run
    (fun o s ho h => ⟨trivial, ownedRows_alone env ho h⟩) hstart
  exact hend.1 c.id c (Table.get_of_mem hc)

end

/-! ## Whom a state names -/

/-- A state that verifies names its user in its first field. -/
theorem verifyState_eq_ok {env : Env} {secret state : String} {now : ℚ} {userId : UUID}
    (h : verifyState env secret now state = .ok userId) :
    ∃ userIdRaw nonce issuedAt signature, splitFields state =
      [userIdRaw, nonce, issuedAt, signature] ∧ parseUUID env.unicode userIdRaw = some userId := by
  unfold verifyState at h
  split at h
  · rename_i userIdRaw nonce issuedAt signature hsplit
    refine ⟨_, _, _, _, hsplit, ?_⟩
    simp only at h
    repeat' split at h
    all_goals first | (cases h; assumption) | cases h
  · cases h

/-- **A state that `/connect` signed for a user** verifies as that user's, if at all. -/
theorem userId_of_verifyState {env : Env} {userId verified : UUID} {nonce secret : String}
    {issuedAt : ℤ} {now : ℚ}
    (h : verifyState env secret now (signState env userId nonce issuedAt secret) = .ok verified) :
    verified = userId := by
  -- an identifier has no dot, so it is the first field
  have hdot : '.' ∉ uuidChars userId := by
    intro hmem
    have hhex : '.' ∉ hexAlphabet := by decide
    rcases mem_uuidChars hmem with hc | hc
    · exact hhex hc
    · exact absurd hc (by decide)
  have hfields : ∃ rest, splitFields (signState env userId nonce issuedAt secret) =
      uuidStr userId :: rest := by
    have hchars : (signState env userId nonce issuedAt secret).toList =
        uuidChars userId ++ '.' :: (nonce ++ "." ++ toString issuedAt ++ "." ++
          env.hmacSha256 secret (statePayload (uuidStr userId) nonce (toString issuedAt))).toList := by
      simp [signState, statePayload, uuidStr]
    rw [splitFields, hchars, List.splitOn_append_cons_self_of_not_mem hdot]
    exact ⟨_, rfl⟩
  obtain ⟨rest, hfields⟩ := hfields
  obtain ⟨_, _, _, _, hsplit, hparse⟩ := verifyState_eq_ok h
  rw [hfields, List.cons.injEq] at hsplit
  rw [← hsplit.1, parseUUID_uuidStr, Option.some.injEq] at hparse
  exact hparse.symm

/-! ## Browsers, the server and Google -/

/-- What happens to the flows: whose session a browser holds changes, a session asks for a
consent URL, a browser opens such a URL, its Google account agrees and Google sends it to
the callback with a code, or a browser opens a callback URL.  Nothing says where a browser
has the URLs from. -/
inductive OAuthEvent (B : Type) where
  | login (b : B) (userId : UUID)
  | logout (b : B)
  | connect (b : B) (nonce : Fin (2 ^ 128)) (now : ℚ)
  | openConsent (b : B) (state : String)
  | agree (b : B) (state code : String) (now : ℚ)
  | openCallback (b : B) (state code : String) (now : ℚ)

/-- The server's world, the sessions of the browsers, the states `/connect` has handed out
with the browser and the user that asked, and the consent pages that are open. -/
structure Flows (B : Type) where
  world : World Unit
  sessions : B → Option UUID
  started : List (B × UUID × String)
  pages : List (B × String)

namespace Flows

variable {B : Type} [DecidableEq B]

/-- Nobody is logged in and nothing has been started. -/
def fresh (w : World Unit) : Flows B := ⟨w, fun _ => none, [], []⟩

/-- The state in the answer of `/connect`. -/
def consentState (env : Env) (userId : UUID) (nonce : Fin (2 ^ 128)) (now : ℚ) : Option String :=
  match consentParams env userId nonce now with
  | .ok params => params.lookup "state"
  | .error _ => none

/-- A request of the callback, in a session of its own. -/
def visit (env : Env) (code state : String) (now : ℚ) (s : Flows B) : Flows B :=
  { s with world := (Prog.run (alone env) (callback env now code state) s.world).2.close () }

/-- The callback request an event makes: by which browser, with which state and when. -/
def request? (s : Flows B) : OAuthEvent B → Option (B × String × ℚ)
  | .agree b state _ now => if (b, state) ∈ s.pages then some (b, state, now) else none
  | .openCallback b state _ now => some (b, state, now)
  | _ => none

def step (env : Env) (s : Flows B) : OAuthEvent B → Flows B
  | .login b userId => { s with sessions := Function.update s.sessions b (some userId) }
  | .logout b => { s with sessions := Function.update s.sessions b none }
  | .connect b nonce now =>
      match (s.sessions b).bind (fun userId =>
          (consentState env userId nonce now).map (fun state => (b, userId, state))) with
      | some started => { s with started := s.started ++ [started] }
      | none => s
  | .openConsent b state => { s with pages := s.pages ++ [(b, state)] }
  | .agree b state code now => if (b, state) ∈ s.pages then s.visit env code state now else s
  | .openCallback _ state code now => s.visit env code state now

/-- The stored connections. -/
def connections (s : Flows B) : List GmailConnection := s.world.db.connections.committed.rows

/-- Has browser `b`, under a session of the user, been handed this state in the run `es`? -/
def StartedBy (env : Env) (w : World Unit) (es : List (OAuthEvent B)) (b : B) (userId : UUID)
    (state : String) : Prop :=
  ∃ es₁ nonce now es₂, es = es₁ ++ .connect b nonce now :: es₂ ∧
    (run (step env) (fresh w) es₁).sessions b = some userId ∧
    consentState env userId nonce now = some state

/-- **A mailbox is linked by its own flow**: whenever a step stores a connection under a
user, it is a callback request of a browser in which a session of that user has started
the flow of its state. -/
def LinkedByOwnFlow (env : Env) (w : World Unit) (es : List (OAuthEvent B)) : Prop :=
  ∀ es₁ e es₂, es = es₁ ++ e :: es₂ →
    ∀ c ∈ (run (step env) (fresh w) (es₁ ++ [e])).connections,
      c ∉ (run (step env) (fresh w) es₁).connections →
      ∃ b state now, request? (run (step env) (fresh w) es₁) e = some (b, state, now) ∧
        StartedBy env w es₁ b c.userId state

/-- No signature is forged: a state that verifies is one `/connect` has handed out. -/
def Unforged (env : Env) (s : Flows B) (e : OAuthEvent B) : Prop :=
  ∀ b state now, s.request? e = some (b, state, now) →
    (∃ userId, Names env now state userId) → ∃ b' userId, (b', userId, state) ∈ s.started

/-- A state that `/connect` has handed out comes back in a browser it was handed to. -/
def OwnBrowser (s : Flows B) (e : OAuthEvent B) : Prop :=
  ∀ b state now, s.request? e = some (b, state, now) →
    (∃ b' userId, (b', userId, state) ∈ s.started) → ∃ userId, (b, userId, state) ∈ s.started

/-! ## Steps -/

section

variable {env : Env} {w : World Unit} {s : Flows B}

/-- What `/connect` hands out is signed for its user. -/
theorem consentState_eq_some {userId : UUID} {nonce : Fin (2 ^ 128)} {now : ℚ} {state : String}
    (h : consentState env userId nonce now = some state) :
    state = signState env userId (tokenHex nonce) (truncate now) env.settings.jwtSecret := by
  unfold consentState consentParams at h
  split at h
  · rename_i params hparams
    split at hparams
    · cases hparams
      cases h
      rfl
    · cases hparams
  · cases h

/-- The states that have been handed out are signed, and no session is open. -/
structure Signed (env : Env) (s : Flows B) : Prop where
  signed : ∀ b userId state, (b, userId, state) ∈ s.started →
    ∃ nonce issuedAt, state = signState env userId nonce issuedAt env.settings.jwtSecret
  idle : s.world.db.connections.pending = []

omit [DecidableEq B] in
theorem signed_fresh (hidle : w.db.connections.pending = []) :
    Signed env (fresh w : Flows B) where
  signed b userId state h := by cases h
  idle := hidle

omit [DecidableEq B] in
theorem pending_visit (code state : String) (now : ℚ) :
    (s.visit env code state now).world.db.connections.pending = [] :=
  List.filter_eq_nil_iff.2 (fun p _ => by simp)

/-- What a `/connect` adds. -/
theorem started_step_connect {b : B} {nonce : Fin (2 ^ 128)} {now : ℚ} {x : B × UUID × String} :
    x ∈ (s.step env (.connect b nonce now)).started ↔
      x ∈ s.started ∨ ∃ userId state, x = (b, userId, state) ∧ s.sessions b = some userId ∧
        consentState env userId nonce now = some state := by
  simp only [step]
  cases hb : s.sessions b with
  | none => simp
  | some userId =>
      cases hstate : consentState env userId nonce now with
      | none => simp [hstate]
      | some state =>
          simp only [Option.bind_some, hstate, Option.map_some, List.mem_append,
            List.mem_singleton, Option.some.injEq]
          constructor
          · rintro (h | rfl)
            · exact Or.inl h
            · exact Or.inr ⟨userId, state, rfl, rfl, hstate⟩
          · rintro (h | ⟨u, t, rfl, rfl, ht⟩)
            · exact Or.inl h
            · rw [hstate, Option.some.injEq] at ht
              rw [ht]
              exact Or.inr rfl

/-- Only `/connect` hands out states. -/
theorem started_step {e : OAuthEvent B} (h : ∀ b nonce now, e ≠ .connect b nonce now) :
    (s.step env e).started = s.started := by
  cases e with
  | connect b nonce now => exact absurd rfl (h b nonce now)
  | agree b state code now =>
      rw [step]
      split <;> rfl
  | login | logout | openConsent | openCallback => rfl

theorem world_step_connect (b : B) (nonce : Fin (2 ^ 128)) (now : ℚ) :
    (s.step env (.connect b nonce now)).world = s.world := by
  rw [step]
  split <;> rfl

/-- **One step keeps the states signed.** -/
theorem Signed.step (h : Signed env s) (e : OAuthEvent B) : Signed env (s.step env e) where
  signed b userId state hmem := by
    cases e with
    | connect b' nonce now =>
        rcases started_step_connect.1 hmem with hold | ⟨u, t, heq, -, hstate⟩
        · exact h.signed b userId state hold
        · cases heq
          exact ⟨_, _, consentState_eq_some hstate⟩
    | login | logout | openConsent | agree | openCallback =>
        rw [started_step (by intro _ _ _ hc; cases hc)] at hmem
        exact h.signed b userId state hmem
  idle := by
    cases e with
    | login | logout | openConsent => exact h.idle
    | connect b nonce now =>
        rw [world_step_connect]
        exact h.idle
    | agree b state code now =>
        rw [Flows.step]
        split
        · exact pending_visit code state now
        · exact h.idle
    | openCallback b state code now => exact pending_visit code state now

/-- A new connection comes from a callback request, and is under the user its state names. -/
theorem names_of_new_connection (hidle : s.world.db.connections.pending = []) {e : OAuthEvent B}
    {c : GmailConnection} (hc : c ∈ (s.step env e).connections) (hnew : c ∉ s.connections) :
    ∃ b state now, s.request? e = some (b, state, now) ∧ Names env now state c.userId := by
  have hvisit : ∀ {b : B} {code state : String} {now : ℚ}, s.request? e = some (b, state, now) →
      c ∈ (s.visit env code state now).connections →
      ∃ b state now, s.request? e = some (b, state, now) ∧ Names env now state c.userId := by
    intro b code state now hrequest hc
    rcases stored_under_verified env now code state hidle hc with hold | hnames
    · exact absurd hold hnew
    · exact ⟨b, state, now, hrequest, hnames⟩
  cases e with
  | login b userId => exact absurd hc hnew
  | logout b => exact absurd hc hnew
  | openConsent b state => exact absurd hc hnew
  | connect b nonce now =>
      rw [connections, world_step_connect] at hc
      exact absurd hc hnew
  | agree b state code now =>
      rw [step] at hc
      split at hc
      · rename_i hpage
        exact hvisit (if_pos hpage) hc
      · exact absurd hc hnew
  | openCallback b state code now => exact hvisit rfl hc

/-! ## Runs -/

/-- A state in the log was handed out in the run. -/
theorem startedBy_of_mem {es : List (OAuthEvent B)} {b : B} {userId : UUID} {state : String}
    (h : (b, userId, state) ∈ (run (step env) (fresh w) es).started) :
    StartedBy env w es b userId state := by
  induction es using List.reverseRecOn with
  | nil => cases h
  | append_singleton es e ih =>
      have hearlier : (b, userId, state) ∈ (run (step env) (fresh w) es).started →
          StartedBy env w (es ++ [e]) b userId state := by
        intro hmem
        obtain ⟨es₁, nonce, now, es₂, rfl, hsession, hstate⟩ := ih hmem
        exact ⟨es₁, nonce, now, es₂ ++ [e], by simp, hsession, hstate⟩
      rw [run_concat] at h
      cases e with
      | connect b' nonce now =>
          rcases started_step_connect.1 h with hold | ⟨u, t, heq, hsession, hstate⟩
          · exact hearlier hold
          · cases heq
            exact ⟨es, nonce, now, [], rfl, hsession, hstate⟩
      | login | logout | openConsent | agree | openCallback =>
          rw [started_step (by intro _ _ _ hc; cases hc)] at h
          exact hearlier h

end

/-- **Every mailbox is linked by a flow of its user's own session**, in every run in which
no signature is forged and no browser requests a callback with a state that was handed to
others only. -/
theorem linked_by_own_flow (env : Env) {w : World Unit} (hidle : w.db.connections.pending = [])
    {es : List (OAuthEvent B)}
    (h : Along (step env) (fun s e => Unforged env s e ∧ OwnBrowser s e) (fresh w) es) :
    LinkedByOwnFlow env w es := by
  rintro es₁ e es₂ rfl c hc hnew
  have hsigned : Signed env (run (step env) (fresh w) es₁) :=
    holds_of_append (fun s e hs _ => hs.step e) (signed_fresh hidle) h
  obtain ⟨⟨hunforged, hown⟩, -⟩ := (along_append.1 h).2
  rw [run_concat] at hc
  obtain ⟨b, state, now, hrequest, hnames⟩ := names_of_new_connection hsigned.idle hc hnew
  -- the state has been handed out, and to this browser
  obtain ⟨userId, hmem⟩ :=
    hown b state now hrequest (hunforged b state now hrequest ⟨_, hnames⟩)
  obtain ⟨nonce, issuedAt, rfl⟩ := hsigned.signed b userId state hmem
  have huser : c.userId = userId := userId_of_verifyState hnames
  refine ⟨b, _, now, hrequest, ?_⟩
  rw [huser]
  exact startedBy_of_mem hmem

theorem consentState_sample :
    consentState sampleServer 2 sampleNonce sampleTime = some sampleState := by
  have htruncate : truncate sampleTime = sampleTime := by decide +kernel
  rw [consentState, consentParams, if_pos (by decide), htruncate]
  rfl

/-- The second user connects in the browser that holds the session. -/
theorem linked_by_own_flow_sample :
    LinkedByOwnFlow sampleServer connectWorld [.login 2 2, .connect 2 sampleNonce sampleTime,
      .openConsent 2 sampleState, .agree 2 sampleState "4/code" (sampleTime + 60)] := by
  have hstarted : (2, 2, sampleState) ∈ (run (step sampleServer) (fresh connectWorld)
      [.login 2 2, .connect 2 sampleNonce sampleTime, .openConsent 2 sampleState]).started :=
    started_step_connect.2 (Or.inr ⟨2, sampleState, rfl, rfl, consentState_sample⟩)
  apply linked_by_own_flow sampleServer rfl
  refine ⟨⟨?_, ?_⟩, ⟨?_, ?_⟩, ⟨?_, ?_⟩, ⟨?_, ?_⟩, trivial⟩
  iterate 6
    · intro b state now hrequest
      cases hrequest
  · intro b state now hrequest _
    rw [request?] at hrequest
    split at hrequest
    · cases hrequest
      exact ⟨_, _, hstarted⟩
    · cases hrequest
  · intro b state now hrequest _
    rw [request?] at hrequest
    split at hrequest
    · cases hrequest
      exact ⟨_, hstarted⟩
    · cases hrequest

/-- The second user is handed a state, and has another browser open the consent URL with
it: the mailbox of whoever agrees there is stored under the second user. -/
theorem not_linked_of_opened_elsewhere :
    ¬ LinkedByOwnFlow sampleServer connectWorld [.login 2 2, .login 1 1,
      .connect 2 sampleNonce sampleTime, .openConsent 1 sampleState,
      .agree 1 sampleState "4/code" (sampleTime + 60)] := by
  intro hlinked
  obtain ⟨before, hbefore⟩ : ∃ es : List (OAuthEvent ℕ), es = [.login 2 2, .login 1 1,
      .connect 2 sampleNonce sampleTime, .openConsent 1 sampleState] := ⟨_, rfl⟩
  have hworld : (run (step sampleServer) (fresh connectWorld) before).world = connectWorld := by
    rw [hbefore]
    exact world_step_connect _ _ _
  have hpage : (1, sampleState) ∈ (run (step sampleServer) (fresh connectWorld) before).pages := by
    rw [hbefore]
    exact List.mem_append_right _ List.mem_cons_self
  -- what the callback of the other browser stores
  have hexchange : exchangeOutcome sampleServer connectWorld.calls (sampleTime + 60) "4/code"
      sampleState = .ok (2, ⟨"1//refresh", "ya29.a0", "carol@gmail.com"⟩) :=
    exchangeOutcome_eq_ok.2 ⟨verifyState_sampleState, rfl, rfl⟩
  have henc : encryptSecret sampleServer "1//refresh" = .ok sampleCiphertext := by decide
  obtain ⟨w', v, hrun, hsame, hstored⟩ := run_callback_of_stored (by decide) freshSession_sample
    hexchange henc ⟨by decide, by decide⟩
    (Or.inr ⟨_, List.mem_cons_of_mem _ List.mem_cons_self, rfl⟩)
  have hafter : ∃ c ∈ (run (step sampleServer) (fresh connectWorld)
      (before ++ [.agree 1 sampleState "4/code" (sampleTime + 60)])).connections,
        c.userId = 2 := by
    rw [run_concat, step, if_pos hpage, connections, visit, hworld, hrun]
    show ∃ c ∈ w'.db.connections.committed.rows, c.userId = 2
    rw [hstored]
    exact ⟨_, Table.mem_put.2 (Or.inl rfl), userId_connectionRow _ _ _ _ _ _⟩
  obtain ⟨c, hc, huser⟩ := hafter
  have hnone : c ∉ (run (step sampleServer) (fresh connectWorld) before).connections := by
    rw [connections, hworld]
    exact List.not_mem_nil
  obtain ⟨b, state, now, hrequest, es₁, nonce, t, es₂, hes, -⟩ :=
    hlinked before _ [] (by rw [hbefore]; rfl) c hc hnone
  rw [request?, if_pos hpage] at hrequest
  cases hrequest
  -- the other browser has asked for nothing
  have hmem : OAuthEvent.connect 1 nonce t ∈ before := by
    rw [hes]
    exact List.mem_append_right _ List.mem_cons_self
  rw [hbefore] at hmem
  simp at hmem

end Flows

end SpendLens
