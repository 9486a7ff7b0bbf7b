/-
# One delivery, and what a failed one leaves behind

Two results about `processInboundEmail`.  The first says for which deliveries it
creates exactly one receipt per acceptable attachment: a second acceptable
attachment violates the unique index on the message id, and a poisonous
attachment raises.  The second says when a delivery that raises leaves a
receipt behind: exactly when the commit of its first acceptable attachment takes
effect and something goes wrong afterwards.

Both rest on what the loop does once a receipt with the message id is stored
(`run_attachments_stored`).
-/
import SpendLens.InboundEmail

namespace SpendLens

section loop

variable {env : Env} {w : World Unit} {userId : UUID} {messageId : String} {created : List UUID}

/-! ## One attachment -/

/-- An upload that returns, inside the loop. -/
theorem run_attachments_accept_ok {a : InboundAttachment} {rest : List InboundAttachment}
    {body : List UInt8} {mime : String} {r : Receipt} {w' : World Unit}
    (h : verdict a = .accept body mime)
    (hp : Prog.run (alone env) (persistReceipt env userId body mime (some messageId)) w =
      (.ok r, w')) :
    Prog.run (alone env) (processAttachments env userId messageId created (a :: rest)) w =
      Prog.run (alone env) (processAttachments env userId messageId (created ++ [r.id]) rest)
        w' := by
  have hsome : Prog.run (alone env) (createOrSkip env userId messageId body) w =
      (.ok (some r), w') := by
    rw [createOrSkip_accept env userId messageId h]
    apply Prog.run_handle_ok
    exact Prog.run_bind_ok (alone env) hp
  rw [processAttachments_accept env userId messageId created rest h]
  exact Prog.run_bind_ok (alone env) hsome

/-- An upload that raises, inside the loop. -/
theorem run_attachments_accept_error {a : InboundAttachment} {rest : List InboundAttachment}
    {body : List UInt8} {mime : String} {e : PyExc} {w' : World Unit}
    (h : verdict a = .accept body mime) (he : e.isUnsupported = false)
    (hp : Prog.run (alone env) (persistReceipt env userId body mime (some messageId)) w =
      (.error e, w')) :
    Prog.run (alone env) (processAttachments env userId messageId created (a :: rest)) w =
      (.error e, w') := by
  have hraise : Prog.run (alone env) (createOrSkip env userId messageId body) w =
      (.error e, w') := by
    rw [createOrSkip_accept env userId messageId h]
    refine (Prog.run_handle_error (alone env) (Prog.run_bind_error (alone env) hp)).trans ?_
    cases e <;> first | rfl | cases he
  rw [processAttachments_accept env userId messageId created rest h]
  exact Prog.run_bind_error (alone env) hraise

/-! ## The loop once the message is stored -/

/-- Some receipt of the user carries the message id. -/
def Stored (w : World Unit) (userId : UUID) (messageId : String) : Prop :=
  ∃ r ∈ w.db.receipts.committed.rows, r.messageKey = some (userId, messageId)

/-- The unique index refuses a second receipt with the message id. -/
theorem not_persists_of_stored (env : Env) (body : List UInt8) (mime : String)
    (h : Stored w userId messageId) :
    ¬Persists env w userId body mime (some messageId) := by
  rintro ⟨-, -, -, -, -, hmsg⟩
  obtain ⟨r, hr, hkey⟩ := h
  exact hmsg (userId, messageId) rfl r hr hkey

/-- Once the message is stored, the loop returns if it skips every attachment;
otherwise it raises and stores nothing more. -/
theorem run_attachments_stored (env : Env) (created : List UUID) (hidle : Idle w)
    (hst : Stored w userId messageId) (atts : List InboundAttachment) :
    ((∀ a ∈ atts, verdict a = .skip) →
      Prog.run (alone env) (processAttachments env userId messageId created atts) w =
        (.ok created, w)) ∧
    ((¬∀ a ∈ atts, verdict a = .skip) →
      ∃ e w', Prog.run (alone env) (processAttachments env userId messageId created atts) w =
        (.error e, w') ∧ w'.db.receipts.committed = w.db.receipts.committed) := by
  induction atts with
  | nil => exact ⟨fun _ => rfl, fun h => absurd (fun a ha => (by cases ha)) h⟩
  | cons a rest ih =>
      cases hv : verdict a with
      | skip =>
          rw [processAttachments_skip hv]
          refine ⟨fun h => ih.1 (fun b hb => h b (List.mem_cons_of_mem _ hb)), fun h => ih.2 ?_⟩
          intro hrest
          apply h
          intro b hb
          rcases List.mem_cons.1 hb with rfl | hb
          · exact hv
          · exact hrest b hb
      | poison e =>
          refine ⟨fun h => ?_, fun _ => ?_⟩
          · rw [h a List.mem_cons_self] at hv
            cases hv
          · rw [processAttachments_poison hv]
            exact ⟨e, w, rfl, rfl⟩
      | accept body mime =>
          refine ⟨fun h => ?_, fun _ => ?_⟩
          · rw [h a List.mem_cons_self] at hv
            cases hv
          · have hsniff := sniffMime_of_verdict hv
            obtain ⟨e, w', hrun, he, hcom⟩ := run_persistReceipt_not hidle hsniff
              (not_persists_of_stored env body mime hst)
            exact ⟨e, w', run_attachments_accept_error hv he hrun, hcom⟩

/-- A persisted row stores the message. -/
theorem stored_of_rows {w' : World Unit} {body : List UInt8} {mime : String}
    (h : w'.db.receipts.committed.rows = w.db.receipts.committed.rows ++
      [persistedReceipt env w userId body mime (some messageId)]) :
    Stored w' userId messageId :=
  ⟨persistedReceipt env w userId body mime (some messageId), by rw [h]; simp, rfl⟩

/-! ## The loop up to the first upload -/

/-- The delivery swallows an attachment: the first one it does not skip is
acceptable and its row gets committed, and then something goes wrong: the commit,
the refresh or the enqueue is not answered, or a later attachment is not skipped. -/
def Swallows (env : Env) (w : World Unit) (userId : UUID) (messageId : String) :
    List InboundAttachment → Prop
  | [] => False
  | a :: rest =>
      match verdict a with
      | .skip => Swallows env w userId messageId rest
      | .poison _ => False
      | .accept body mime =>
          Persists env w userId body mime (some messageId) ∧
            ¬(Returns env w.calls ∧ ∀ b ∈ rest, verdict b = .skip)

/-- A loop that swallows an attachment raises and leaves one more row. -/
theorem run_attachments_swallows (created : List UUID) (hidle : Idle w) {atts : List InboundAttachment}
    (h : Swallows env w userId messageId atts) :
    ∃ e w' r, Prog.run (alone env) (processAttachments env userId messageId created atts) w =
        (.error e, w') ∧
      w'.db.receipts.committed.rows = w.db.receipts.committed.rows ++ [r] := by
  induction atts with
  | nil => exact h.elim
  | cons a rest ih =>
      unfold Swallows at h
      cases hv : verdict a with
      | skip =>
          rw [hv] at h
          rw [processAttachments_skip hv]
          exact ih h
      | poison e =>
          rw [hv] at h
          exact h.elim
      | accept body mime =>
          rw [hv] at h
          obtain ⟨hp, hno⟩ := h
          have hsniff := sniffMime_of_verdict hv
          by_cases hret : Returns env w.calls
          · have hskip : ¬∀ b ∈ rest, verdict b = .skip := fun hs => hno ⟨hret, hs⟩
            obtain ⟨w', hrun, hidle', hrows⟩ := run_persistReceipt_ok hidle hsniff hp hret
            obtain ⟨e, w'', hrest, hcom⟩ := (run_attachments_stored env
              (created ++ [(persistedReceipt env w userId body mime
                (some messageId)).id]) hidle' (stored_of_rows hrows) rest).2 hskip
            refine ⟨e, w'', persistedReceipt env w userId body mime (some messageId),
              (run_attachments_accept_ok hv hrun).trans hrest, ?_⟩
            rw [hcom, hrows]
          · obtain ⟨e, w', hrun, he, hrows⟩ := run_persistReceipt_lost hidle hsniff hp hret
            exact ⟨e, w', _, run_attachments_accept_error hv he hrun, hrows⟩

/-- A loop that swallows nothing and raises leaves the rows as they were. -/
theorem run_attachments_not_swallows (hidle : Idle w) {atts : List InboundAttachment}
    (h : ¬Swallows env w userId messageId atts) {e : PyExc} {w' : World Unit}
    (hrun : Prog.run (alone env) (processAttachments env userId messageId created atts) w =
      (.error e, w')) :
    w'.db.receipts.committed = w.db.receipts.committed := by
  induction atts with
  | nil => cases hrun
  | cons a rest ih =>
      unfold Swallows at h
      cases hv : verdict a with
      | skip =>
          rw [hv] at h
          rw [processAttachments_skip hv] at hrun
          exact ih h hrun
      | poison e' =>
          rw [processAttachments_poison hv] at hrun
          cases hrun
          rfl
      | accept body mime =>
          rw [hv] at h
          have hsniff := sniffMime_of_verdict hv
          by_cases hp : Persists env w userId body mime (some messageId)
          · have hgood : Returns env w.calls ∧ ∀ b ∈ rest, verdict b = .skip := by
              by_contra hno
              exact h ⟨hp, hno⟩
            obtain ⟨v, hv', hidle', hrows⟩ := run_persistReceipt_ok hidle hsniff hp hgood.1
            have hrest := (run_attachments_stored env
              (created ++ [(persistedReceipt env w userId body mime
                (some messageId)).id]) hidle' (stored_of_rows hrows) rest).1 hgood.2
            rw [run_attachments_accept_ok hv hv', hrest] at hrun
            cases hrun
          · obtain ⟨e', v, hv', he, hcom⟩ := run_persistReceipt_not hidle hsniff hp
            rw [run_attachments_accept_error hv he hv'] at hrun
            cases hrun
            exact hcom

end loop

/-! ## Up to the loop -/

section delivery

variable {env : Env} {w : World Unit}

/-- The steps in front of the loop go well: the address resolves to `user`, the
message id is a text the database takes, and it is not stored yet. -/
structure Ready (env : Env) (w : World Unit) (payload : InboundEmail) (user : User) : Prop where
  resolve_answered : env.fault w.calls = .none
  resolves : resolvedUser env.unicode w.db.users payload.toAddress = some user
  dedup_answered : env.fault (w.calls + 1) = .none
  messageId_ok : textOk payload.messageId = true
  not_stored : ¬Stored w user.id payload.messageId

/-- Resolving an address that names one user. -/
theorem run_resolve_ok (hidle : Idle w) (hfault : env.fault w.calls = .none)
    {toAddress : String} {user : User}
    (h : resolvedUser env.unicode w.db.users toAddress = some user) :
    Prog.run (alone env) (resolveUserByToAddress env toAddress) w = (.ok user, w.tick) := by
  rw [resolvedUser, Option.bind_eq_some_iff] at h
  obtain ⟨token, htoken, h⟩ := h
  have hrows : w.db.users.filter (fun u => u.inboxToken = token) = [user] := by
    split at h
    · rename_i u hu
      cases h
      exact hu
    · cases h
  have hexec : (Stmt.selectUsers [.text token] (fun u => u.inboxToken = token)).exec
      (env.clock w.calls) () w.db = some (.ok [user], w.db) := by
    simp only [Stmt.exec, List.all_cons, List.all_nil, Param.ok, textOk_of_searchToken htoken,
      Bool.and_self, if_true, hrows]
  rw [resolveUserByToAddress, htoken]
  exact (Prog.run_perform_ok (alone env) (alone_sql_ok env hidle.failed hfault hexec))

/-- Resolving otherwise raises and changes no table. -/
theorem run_resolve_error (hidle : Idle w) {toAddress : String}
    (h : ¬(env.fault w.calls = .none ∧
      (resolvedUser env.unicode w.db.users toAddress).isSome)) :
    ∃ e w', Prog.run (alone env) (resolveUserByToAddress env toAddress) w = (.error e, w') ∧
      w'.db.receipts.committed = w.db.receipts.committed := by
  rw [resolveUserByToAddress]
  cases htoken : searchToken (env.unicode.lower toAddress).toList with
  | none => exact ⟨_, w, rfl, rfl⟩
  | some token =>
      by_cases hfault : env.fault w.calls = .none
      · have hexec : (Stmt.selectUsers [.text token] (fun u => u.inboxToken = token)).exec
            (env.clock w.calls) () w.db =
            some (.ok (w.db.users.filter (fun u => u.inboxToken = token)), w.db) := by
          simp only [Stmt.exec, List.all_cons, List.all_nil, Param.ok,
            textOk_of_searchToken htoken, Bool.and_self, if_true]
        rcases hrows : w.db.users.filter (fun u => u.inboxToken = token) with _ | ⟨u, _ | ⟨u', us⟩⟩
        · rw [hrows] at hexec
          exact ⟨_, _, Prog.run_perform_ok (alone env)
            (alone_sql_ok env hidle.failed hfault hexec), rfl⟩
        · refine absurd ⟨hfault, ?_⟩ h
          rw [resolvedUser, htoken, Option.bind_some, hrows]
          rfl
        · rw [hrows] at hexec
          exact ⟨_, _, Prog.run_perform_ok (alone env)
            (alone_sql_ok env hidle.failed hfault hexec), rfl⟩
      · exact ⟨_, _, Prog.run_perform_error (alone env)
          (alone_sql_fault env hidle.failed hfault), rfl⟩

/-- The rows the dedup query finds. -/
theorem dedup_rows_eq_nil_iff {userId : UUID} {messageId : String} :
    w.db.receipts.committed.rows.filter
        (fun r => r.userId = userId && r.externalMessageId = some messageId) = [] ↔
      ¬Stored w userId messageId := by
  rw [List.filter_eq_nil_iff, Stored]
  constructor
  · rintro h ⟨r, hr, hkey⟩
    apply h r hr
    rw [Receipt.messageKey, Option.map_eq_some_iff] at hkey
    obtain ⟨m, hm, hk⟩ := hkey
    cases hk
    simp [hm]
  · intro h r hr hcond
    rw [Bool.and_eq_true, decide_eq_true_eq, decide_eq_true_eq] at hcond
    exact h ⟨r, hr, by rw [Receipt.messageKey, hcond.2, Option.map_some, hcond.1]⟩

/-- A delivery whose first steps go well is its loop. -/
theorem run_process_ready (hidle : Idle w) {payload : InboundEmail} {user : User}
    (h : Ready env w payload user) :
    Prog.run (alone env) (processInboundEmail env payload) w =
      Prog.run (alone env) (do
        let created ← processAttachments env user.id payload.messageId [] payload.attachments
        return ⟨payload.messageId, created, false⟩) w.tick.tick := by
  have hresolve := run_resolve_ok hidle h.resolve_answered h.resolves
  have hview := Store.view_of_pending_nil hidle.pending ()
  have hexec : (Stmt.selectReceipts [.text payload.messageId]
      (fun r => r.userId = user.id && r.externalMessageId = some payload.messageId)).exec
      (env.clock w.tick.calls) () w.tick.db = some (.ok [], w.tick.db) := by
    change some (select w.db.receipts () _ _, w.db) = _
    rw [select, hview, dedup_rows_eq_nil_iff.2 h.not_stored]
    simp only [List.all_cons, List.all_nil, Param.ok, h.messageId_ok, Bool.and_self, if_true]
    rfl
  have hsql := alone_sql_ok env (w := w.tick) hidle.tick.failed h.dedup_answered hexec
  exact (Prog.run_bind_ok (alone env) hresolve).trans (Prog.run_perform_ok (alone env) hsql)

/-- A delivery that is not ready returns, or raises and changes no table. -/
theorem run_process_not_ready (hidle : Idle w) {payload : InboundEmail}
    (h : ∀ user, ¬Ready env w payload user) {e : PyExc} {w' : World Unit}
    (hrun : Prog.run (alone env) (processInboundEmail env payload) w = (.error e, w')) :
    w'.db.receipts.committed = w.db.receipts.committed := by
  by_cases hres : env.fault w.calls = .none ∧
      (resolvedUser env.unicode w.db.users payload.toAddress).isSome
  · obtain ⟨user, huser⟩ := Option.isSome_iff_exists.1 hres.2
    have hresolve := run_resolve_ok hidle hres.1 huser
    rw [processInboundEmail, Prog.bind_eq, Prog.run_bind_ok (alone env) hresolve] at hrun
    by_cases hfault : env.fault (w.calls + 1) = .none
    · have hview := Store.view_of_pending_nil hidle.pending ()
      by_cases htext : textOk payload.messageId = true
      · by_cases hst : Stored w user.id payload.messageId
        · -- deduped
          have hne := mt dedup_rows_eq_nil_iff.1 (not_not.2 hst)
          have hexec : (Stmt.selectReceipts [.text payload.messageId]
              (fun r => r.userId = user.id &&
                r.externalMessageId = some payload.messageId)).exec
              (env.clock w.tick.calls) () w.tick.db =
              some (.ok (w.db.receipts.committed.rows.filter (fun r => r.userId = user.id &&
                r.externalMessageId = some payload.messageId)), w.tick.db) := by
            change some (select w.db.receipts () _ _, w.db) = _
            rw [select, hview]
            simp only [List.all_cons, List.all_nil, Param.ok, htext, Bool.and_self, if_true]
            rfl
          have hsql := alone_sql_ok env (w := w.tick) hidle.tick.failed hfault hexec
          rw [sql, Prog.bind_eq, Prog.run_perform_ok (alone env) hsql, if_pos hne] at hrun
          cases hrun
        · exact absurd ⟨hres.1, huser, hfault, htext, hst⟩ (h user)
      · have hexec : (Stmt.selectReceipts [.text payload.messageId]
            (fun r => r.userId = user.id &&
              r.externalMessageId = some payload.messageId)).exec
            (env.clock w.tick.calls) () w.tick.db = some (.error .dataError, w.tick.db) := by
          change some (select w.db.receipts () _ _, w.db) = _
          rw [select, if_neg (by simpa [Param.ok] using htext)]
          rfl
        have hsql := alone_sql_error env (w := w.tick) hidle.tick.failed hfault hexec
        rw [sql, Prog.bind_eq, Prog.run_perform_error (alone env) hsql] at hrun
        cases hrun
        rfl
    · have hsql := alone_sql_fault env (w := w.tick)
        (s := .selectReceipts [.text payload.messageId]
          (fun r => r.userId = user.id && r.externalMessageId = some payload.messageId))
        hidle.tick.failed hfault
      rw [sql, Prog.bind_eq, Prog.run_perform_error (alone env) hsql] at hrun
      cases hrun
      rfl
  · obtain ⟨e', v, hv, hcom⟩ := run_resolve_error hidle hres
    rw [processInboundEmail, Prog.bind_eq, Prog.run_bind_error (alone env) hv] at hrun
    cases hrun
    exact hcom

/-! ## One receipt per acceptable attachment -/

/-- The acceptable attachments, decoded and sniffed, in order. -/
def accepted (atts : List InboundAttachment) : List (List UInt8 × String) :=
  atts.filterMap (fun a =>
    match verdict a with
    | .accept body mime => some (body, mime)
    | _ => none)

/-- The row of an acceptable attachment. -/
def IsReceiptOf (userId : UUID) (messageId : String) (r : Receipt) (x : List UInt8 × String) :
    Prop :=
  r.userId = userId ∧ r.externalMessageId = some messageId ∧ r.mimeType = x.2 ∧
    r.fileSizeBytes = x.1.length

/-- One call returns after creating exactly one receipt for each acceptable
attachment, in order, and lists their ids. -/
def OneReceiptEach (env : Env) (w : World Unit) (payload : InboundEmail) (user : User) : Prop :=
  ∃ new w', Prog.run (alone env) (processInboundEmail env payload) w =
      (.ok ⟨payload.messageId, new.map Receipt.id, false⟩, w') ∧
    w'.db.receipts.committed.rows = w.db.receipts.committed.rows ++ new ∧
    List.Forall₂ (IsReceiptOf user.id payload.messageId) new (accepted payload.attachments)

/-- The attachments the loop can handle in one delivery: none is poisonous, and at
most one is acceptable. -/
def Deliverable (atts : List InboundAttachment) : Prop :=
  (∀ a ∈ atts, ∀ e, verdict a ≠ .poison e) ∧ (accepted atts).length ≤ 1

/-- Storage, broker and database are available. -/
def Available (env : Env) : Prop := ∀ n, env.fault n = .none

/-- Fresh identifiers are new to the receipts table. -/
def FreshIds (env : Env) (w : World Unit) : Prop :=
  ∀ n, w.calls ≤ n → w.db.receipts.committed.get (env.uuid4 n) = none

theorem accepted_cons_skip {a : InboundAttachment} {rest : List InboundAttachment}
    (h : verdict a = .skip) : accepted (a :: rest) = accepted rest := by
  rw [accepted, List.filterMap_cons, h]
  rfl

theorem accepted_cons_accept {a : InboundAttachment} {rest : List InboundAttachment}
    {body : List UInt8} {mime : String} (h : verdict a = .accept body mime) :
    accepted (a :: rest) = (body, mime) :: accepted rest := by
  rw [accepted, List.filterMap_cons, h]
  rfl

/-- Attachments that are neither poisonous nor acceptable are skipped. -/
theorem forall_skip_iff {atts : List InboundAttachment} :
    (∀ a ∈ atts, verdict a = .skip) ↔
      (∀ a ∈ atts, ∀ e, verdict a ≠ .poison e) ∧ accepted atts = [] := by
  induction atts with
  | nil => simp [accepted]
  | cons a rest ih =>
      rw [List.forall_mem_cons, List.forall_mem_cons, ih]
      cases hv : verdict a with
      | skip => rw [accepted_cons_skip hv]; simp
      | poison e => simp
      | accept body mime => rw [accepted_cons_accept hv]; simp

theorem deliverable_cons_accept {a : InboundAttachment} {rest : List InboundAttachment}
    {body : List UInt8} {mime : String} (h : verdict a = .accept body mime) :
    Deliverable (a :: rest) ↔ ∀ b ∈ rest, verdict b = .skip := by
  rw [Deliverable, forall_skip_iff, accepted_cons_accept h, List.forall_mem_cons, h,
    List.length_cons]
  constructor
  · rintro ⟨⟨-, hp⟩, hlen⟩
    exact ⟨hp, List.length_eq_zero_iff.1 (by omega)⟩
  · rintro ⟨hp, hnil⟩
    exact ⟨⟨fun e he => (by cases he), hp⟩, by rw [hnil]; simp⟩

theorem persists_of_available (henv : Available env) (hids : FreshIds env w) {userId : UUID}
    {messageId : String} (htext : textOk messageId = true) (hlen : messageId.length ≤ 255)
    (hst : ¬Stored w userId messageId) (body : List UInt8) (mime : String) :
    Persists env w userId body mime (some messageId) := by
  refine ⟨henv _, henv _, by rw [henv]; decide, ?_, hids _ (by omega), ?_⟩
  · change (textOk messageId && decide (messageId.length ≤ 255)) = true
    rw [htext, decide_eq_true hlen]
    rfl
  · rintro m hm u hu hkey
    cases hm
    exact hst ⟨u, hu, hkey⟩

theorem returns_of_available (henv : Available env) (n : ℕ) : Returns env n :=
  ⟨henv _, henv _, Or.inr (henv _)⟩

/-- The loop in available surroundings, on a message that is not stored. -/
theorem run_attachments_available (henv : Available env) (hids : FreshIds env w) (hidle : Idle w)
    {userId : UUID} {messageId : String} (htext : textOk messageId = true)
    (hlen : messageId.length ≤ 255) (hst : ¬Stored w userId messageId)
    (atts : List InboundAttachment) :
    (Deliverable atts → ∃ new w',
      Prog.run (alone env) (processAttachments env userId messageId [] atts) w =
        (.ok (new.map Receipt.id), w') ∧
      w'.db.receipts.committed.rows = w.db.receipts.committed.rows ++ new ∧
      List.Forall₂ (IsReceiptOf userId messageId) new (accepted atts)) ∧
    (¬Deliverable atts → ∃ e w',
      Prog.run (alone env) (processAttachments env userId messageId [] atts) w =
        (.error e, w')) := by
  induction atts with
  | nil =>
      refine ⟨fun _ => ⟨[], w, rfl, (List.append_nil _).symm, List.Forall₂.nil⟩, fun h => ?_⟩
      exact absurd ⟨fun a ha => (by cases ha), by simp [accepted]⟩ h
  | cons a rest ih =>
      cases hv : verdict a with
      | skip =>
          have hd : Deliverable (a :: rest) ↔ Deliverable rest := by
            rw [Deliverable, Deliverable, accepted_cons_skip hv, List.forall_mem_cons, hv]
            simp
          rw [processAttachments_skip hv, accepted_cons_skip hv, hd]
          exact ih
      | poison e =>
          refine ⟨fun h => absurd hv (h.1 a List.mem_cons_self e), fun _ => ?_⟩
          rw [processAttachments_poison hv]
          exact ⟨e, w, rfl⟩
      | accept body mime =>
          have hsniff := sniffMime_of_verdict hv
          obtain ⟨w', hrun, hidle', hrows⟩ := run_persistReceipt_ok hidle hsniff
            (persists_of_available henv hids htext hlen hst body mime)
            (returns_of_available henv w.calls)
          have hstored := run_attachments_stored env
            ([] ++ [(persistedReceipt env w userId body mime (some messageId)).id])
            hidle' (stored_of_rows hrows) rest
          rw [deliverable_cons_accept hv, accepted_cons_accept hv,
            run_attachments_accept_ok hv hrun]
          refine ⟨fun hskip => ?_, fun hskip => ?_⟩
          · refine ⟨[persistedReceipt env w userId body mime (some messageId)], w',
              hstored.1 hskip, hrows, ?_⟩
            rw [(forall_skip_iff.1 hskip).2]
            exact List.Forall₂.cons ⟨rfl, rfl, rfl, rfl⟩ List.Forall₂.nil
          · obtain ⟨e, w'', hrest, -⟩ := hstored.2 hskip
            exact ⟨e, w'', hrest⟩

/-- **One receipt per acceptable attachment, exactly when.**  A delivery of a
message that is not stored yet, to an address that resolves, with everything it
needs available, creates one receipt for each acceptable attachment if and only if
the message id has no NUL character, no attachment is poisonous and at most one is
acceptable. -/
theorem oneReceiptEach_iff (payload : InboundEmail) (henv : Available env)
    (hids : FreshIds env w) (hidle : Idle w) {user : User}
    (hres : resolvedUser env.unicode w.db.users payload.toAddress = some user)
    (hst : ¬Stored w user.id payload.messageId) :
    OneReceiptEach env w payload user ↔
      textOk payload.messageId = true ∧ Deliverable payload.attachments := by
  by_cases htext : textOk payload.messageId = true
  · have hready : Ready env w payload user := ⟨henv _, hres, henv _, htext, hst⟩
    have hprocess := run_process_ready hidle hready
    have hids' : FreshIds env w.tick.tick := fun n hn =>
      hids n (by change w.calls + 1 + 1 ≤ n at hn; omega)
    have hloop := run_attachments_available (w := w.tick.tick) henv hids' hidle.tick.tick htext
      payload.messageId_length.2 hst payload.attachments
    constructor
    · rintro ⟨new, w', hrun, -, -⟩
      refine ⟨htext, ?_⟩
      by_contra hno
      obtain ⟨e, w'', herr⟩ := hloop.2 hno
      rw [hprocess, Prog.bind_eq, Prog.run_bind_error (alone env) herr] at hrun
      cases hrun
    · rintro ⟨-, hd⟩
      obtain ⟨new, w', hrun, hrows, hall⟩ := hloop.1 hd
      exact ⟨new, w', hprocess.trans (Prog.run_bind_ok (alone env) hrun), hrows, hall⟩
  · -- the dedup query refuses the message id
    constructor
    · rintro ⟨new, w', hrun, -, -⟩
      have hresolve := run_resolve_ok hidle (henv _) hres
      have hexec : (Stmt.selectReceipts [.text payload.messageId]
          (fun r => r.userId = user.id &&
            r.externalMessageId = some payload.messageId)).exec
          (env.clock w.tick.calls) () w.tick.db = some (.error .dataError, w.tick.db) := by
        change some (select w.db.receipts () _ _, w.db) = _
        rw [select, if_neg (by simpa [Param.ok] using htext)]
        rfl
      have hsql := alone_sql_error env (w := w.tick) hidle.tick.failed (henv _) hexec
      rw [processInboundEmail, Prog.bind_eq, Prog.run_bind_ok (alone env) hresolve, sql,
        Prog.bind_eq, Prog.run_perform_error (alone env) hsql] at hrun
      cases hrun
    · rintro ⟨h, -⟩
      exact absurd h htext

/-! ## Sample deliveries -/

def sampleUser : User := ⟨7, "0123456789abcdef0123456789abcdef"⟩

/-- A database with one user and no receipts. -/
def sampleWorld : World Unit := World.ofDb (Db.ofUsers [sampleUser])

/-- The smallest file the sniffer takes for a JPEG. -/
def jpegAttachment : InboundAttachment :=
  ⟨"receipt.jpg", "image/jpeg", "/9j/", by decide, by decide⟩

theorem length_jpegAttachment : [jpegAttachment].length ≤ 10 := by decide

/-- A signature pixel the loop skips. -/
def gifAttachment : InboundAttachment :=
  ⟨"pixel.gif", "image/gif", "R0lG", by decide, by decide⟩

def sampleAddress : String := "receipts+0123456789abcdef0123456789abcdef@inbox.spendlens.local"

/-- A delivery to the sample user. -/
def sampleEmail (attachments : List InboundAttachment) (h : attachments.length ≤ 10) :
    InboundEmail where
  messageId := "m-1"
  toAddress := sampleAddress
  sender := "shop@example.com"
  subject := ""
  bodyPlain := ""
  attachments := attachments
  messageId_length := by decide
  to_length := by decide
  sender_length := by decide
  subject_length := by decide
  bodyPlain_length := by decide
  attachments_length := h

theorem idle_sampleWorld : Idle sampleWorld := ⟨rfl, rfl⟩

theorem sampleAddress_resolves :
    resolvedUser Unicode.ascii [sampleUser] sampleAddress = some sampleUser := by
  decide

theorem sampleWorld_not_stored (userId : UUID) (messageId : String) :
    ¬Stored sampleWorld userId messageId := by
  rintro ⟨r, hr, -⟩
  cases hr

/-- A delivery of one image next to a signature pixel. -/
theorem oneReceiptEach_iff_sample :
    OneReceiptEach Env.quiet sampleWorld (sampleEmail [gifAttachment, jpegAttachment] (by decide))
        sampleUser ↔
      textOk "m-1" = true ∧ Deliverable [gifAttachment, jpegAttachment] :=
  oneReceiptEach_iff (sampleEmail [gifAttachment, jpegAttachment] (by decide)) (fun _ => rfl)
    (fun _ _ => rfl) idle_sampleWorld sampleAddress_resolves (sampleWorld_not_stored _ _)

/-- Two images in one email: both are acceptable, and the second one's insert violates
the unique index on the message id. -/
theorem not_oneReceiptEach_two_images :
    Available Env.quiet ∧ FreshIds Env.quiet sampleWorld ∧ Idle sampleWorld ∧
      ¬Stored sampleWorld sampleUser.id "m-1" ∧
      (accepted [jpegAttachment, jpegAttachment]).length = 2 ∧
      ¬OneReceiptEach Env.quiet sampleWorld
        (sampleEmail [jpegAttachment, jpegAttachment] (by decide)) sampleUser := by
  refine ⟨fun _ => rfl, fun _ _ => rfl, idle_sampleWorld, sampleWorld_not_stored _ _,
    by decide, ?_⟩
  rintro ⟨new, w', hrun, -, -⟩
  have hraise : (Prog.run (alone Env.quiet) (processInboundEmail Env.quiet
      (sampleEmail [jpegAttachment, jpegAttachment] (by decide))) sampleWorld).1 =
      .error .integrityError := by
    decide
  rw [hrun] at hraise
  cases hraise

/-! ## What a failed delivery leaves -/

/-- A call that raises leaves the receipts as they were. -/
def NothingLeft (env : Env) (w : World Unit) (payload : InboundEmail) : Prop :=
  ∀ e w', Prog.run (alone env) (processInboundEmail env payload) w = (.error e, w') →
    w'.db.receipts.committed.rows = w.db.receipts.committed.rows

/-- **A failed delivery leaves nothing, exactly when.**  Under every fault, a call
that raises leaves no receipt behind if and only if it does not swallow an
attachment: it never gets as far as a committed receipt that is followed by an
unanswered commit, refresh or enqueue, or by an attachment the loop does not skip. -/
theorem nothingLeft_iff (hidle : Idle w) (payload : InboundEmail) :
    NothingLeft env w payload ↔
      ¬∃ user, Ready env w payload user ∧
        Swallows env w.tick.tick user.id payload.messageId payload.attachments := by
  constructor
  · rintro h ⟨user, hready, hsw⟩
    obtain ⟨e, w', r, hrun, hrows⟩ := run_attachments_swallows []
      hidle.tick.tick hsw
    have hleft := h e w' ((run_process_ready hidle hready).trans
      (Prog.run_bind_error (alone env) hrun))
    rw [hrows] at hleft
    have hlen := congrArg List.length hleft
    rw [List.length_append, List.length_singleton] at hlen
    change w.db.receipts.committed.rows.length + 1 = _ at hlen
    omega
  · intro h e w' hrun
    by_cases hready : ∃ user, Ready env w payload user
    · obtain ⟨user, hready⟩ := hready
      have hsw : ¬Swallows env w.tick.tick user.id payload.messageId payload.attachments :=
        fun hs => h ⟨user, hready, hs⟩
      rw [run_process_ready hidle hready, Prog.bind_eq, Prog.run_bind] at hrun
      cases hloop : Prog.run (alone env)
          (processAttachments env user.id payload.messageId [] payload.attachments)
          w.tick.tick with
      | mk r v =>
          rw [hloop] at hrun
          cases r with
          | ok created => cases hrun
          | error e' =>
              cases hrun
              have := run_attachments_not_swallows hidle.tick.tick hsw hloop
              rw [this]
              rfl
    · rw [run_process_not_ready hidle (fun user hr => hready ⟨user, hr⟩) hrun]

theorem nothingLeft_iff_sample :
    NothingLeft Env.quiet sampleWorld (sampleEmail [jpegAttachment] (by decide)) ↔
      ¬∃ user, Ready Env.quiet sampleWorld (sampleEmail [jpegAttachment] (by decide)) user ∧
        Swallows Env.quiet sampleWorld.tick.tick user.id "m-1" [jpegAttachment] :=
  nothingLeft_iff idle_sampleWorld (sampleEmail [jpegAttachment] (by decide))

/-- Two images again: the call raises on the second one and leaves the receipt of the
first, so the redelivery is answered as a duplicate. -/
theorem not_nothingLeft_two_images :
    ¬NothingLeft Env.quiet sampleWorld
        (sampleEmail [jpegAttachment, jpegAttachment] (by decide)) ∧
      ∃ w', Prog.run (alone Env.quiet) (processInboundEmail Env.quiet
          (sampleEmail [jpegAttachment, jpegAttachment] (by decide))) sampleWorld =
          (.error .integrityError, w') ∧
        (Prog.run (alone Env.quiet) (processInboundEmail Env.quiet
          (sampleEmail [jpegAttachment, jpegAttachment] (by decide))) (w'.close ())).1 =
          .ok ⟨"m-1", [1005], true⟩ := by
  have hraise : (Prog.run (alone Env.quiet) (processInboundEmail Env.quiet
      (sampleEmail [jpegAttachment, jpegAttachment] (by decide))) sampleWorld).1 =
      .error .integrityError := by
    decide
  have hrows : (Prog.run (alone Env.quiet) (processInboundEmail Env.quiet
      (sampleEmail [jpegAttachment, jpegAttachment] (by decide))) sampleWorld
      ).2.db.receipts.committed.rows.length = 1 := by
    decide
  refine ⟨fun h => ?_, _, Prod.ext hraise rfl, by decide⟩
  have hleft := congrArg List.length (h _ _ (Prod.ext hraise rfl))
  exact absurd (hrows.symm.trans hleft) (by decide)

end delivery

end SpendLens
