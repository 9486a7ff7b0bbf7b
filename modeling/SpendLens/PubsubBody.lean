/-
# The body of a push

A push carries a JSON envelope whose data is a JSON notification in base64.
`_decode_pubsub_body` reads both and answers what is not of the format with its own
error, as far as the JSON reader reports it as malformed.
-/
import SpendLens.InboundEmail
import SpendLens.Lib.Fallible
import SpendLens.Lib.JsonText

namespace SpendLens

/-- `PubSubMessage`. -/
structure PubSubMessage where
  emailAddress : String
  historyId : String
  pubsubMessageId : String
  deriving DecidableEq

/-! ## Reading JSON -/

/-- `json.loads` of a byte string. -/
def loadsBytes (env : Env) (bytes : List UInt8) : Except PyExc Json :=
  match TextEncoding.decodeGuessed bytes with
  | none => .error .unicodeDecodeError
  | some text =>
      match Json.loads env.jsonDepth text with
      | .error .malformed => .error .jsonDecodeError
      | .error .tooManyDigits =>
          .error (.valueError "Exceeds the limit (4300 digits) for integer string conversion")
      | .error .tooDeep => .error .recursionError
      | .ok v => .ok v

/-- `json.loads` with a `JSONDecodeError` turned into the error of the module. -/
def loadsOr (env : Env) (bytes : List UInt8) (msg : String) : Except PyExc Json :=
  match loadsBytes env bytes with
  | .error .jsonDecodeError => .error (.pushVerificationError msg)
  | r => r

/-- A value that has to be an object. -/
def asObject (msg : String) : Json → Except PyExc Json
  | .obj kvs => .ok (.obj kvs)
  | _ => .error (.pushVerificationError msg)

/-- A value that has to be a text with something in it. -/
def asText (msg : String) : Json → Except PyExc String
  | .str s => if s = "" then .error (.pushVerificationError msg) else .ok s
  | _ => .error (.pushVerificationError msg)

/-- `value.get(key)`. -/
def field (v : Json) (key : String) : Json := (v.get? key).getD .null

/-- `base64.b64decode(data, validate=True)` with its errors turned into that of the module. -/
def b64decodeOr (data msg : String) : Except PyExc (List UInt8) :=
  match b64decodeStrict data with
  | .error _ => .error (.pushVerificationError msg)
  | .ok bytes => .ok bytes

/-- The text of a history id; a boolean is an integer to the language. -/
def historyIdText : Json → Except PyExc String
  | .int n => .ok (toString n)
  | .bool b => .ok (if b then "True" else "False")
  | .str s =>
      if s = "" then .error (.pushVerificationError "Gmail notification missing 'historyId'")
      else .ok s
  | _ => .error (.pushVerificationError "Gmail notification missing 'historyId'")

/-! ## The decoder -/

/-- The first half of `_decode_pubsub_body`: the envelope. -/
def decodeEnvelope (env : Env) (rawBody : List UInt8) : Except PyExc (String × List UInt8) := do
  let loaded ← loadsOr env rawBody "Pub/Sub body is not valid JSON"
  let envelope ← asObject "Pub/Sub body is not a JSON object" loaded
  let message ← asObject "Pub/Sub body missing 'message' object" (field envelope "message")
  let dataB64 ← asText "Pub/Sub message missing 'data'" (field message "data")
  let pubsubMessageId ← asText "Pub/Sub message missing 'messageId'" (field message "messageId")
  let dataBytes ← b64decodeOr dataB64 "Pub/Sub data is not valid base64"
  return (pubsubMessageId, dataBytes)

/-- The second half: the notification. -/
def decodeNotification (env : Env) (dataBytes : List UInt8) : Except PyExc (String × String) := do
  let loaded ← loadsOr env dataBytes "Pub/Sub data is not valid JSON"
  let inner ← asObject "Pub/Sub data is not a JSON object" loaded
  let emailAddress ← asText "Gmail notification missing 'emailAddress'" (field inner "emailAddress")
  let historyId ← historyIdText (field inner "historyId")
  return (emailAddress, historyId)

/-- `_decode_pubsub_body`. -/
def decodePubsubBody (env : Env) (rawBody : List UInt8) : Except PyExc PubSubMessage := do
  let envelope ← decodeEnvelope env rawBody
  let notification ← decodeNotification env envelope.2
  return ⟨notification.1, notification.2, envelope.1⟩

/-! ## The format -/

/-- The bytes are an envelope with a message id and data, as `json.loads` reads JSON. -/
def IsEnvelope (env : Env) (rawBody : List UInt8) (messageId : String) (data : List UInt8) : Prop :=
  ∃ kvs kvs' dataB64, loadsBytes env rawBody = .ok (.obj kvs) ∧
    (Json.obj kvs).get? "message" = some (.obj kvs') ∧
    ((Json.obj kvs').get? "data" = some (.str dataB64) ∧ dataB64 ≠ "") ∧
    ((Json.obj kvs').get? "messageId" = some (.str messageId) ∧ messageId ≠ "") ∧
    b64decodeStrict dataB64 = .ok data

/-- A value that is a history id: an integer with its decimal text, or a text with
something in it. -/
def IsHistoryId (v : Option Json) (historyId : String) : Prop :=
  (∃ n, v = some (.int n) ∧ historyId = toString n) ∨ (v = some (.str historyId) ∧ historyId ≠ "")

/-- The bytes are a notification. -/
def IsNotification (env : Env) (data : List UInt8) (emailAddress historyId : String) : Prop :=
  ∃ kvs, loadsBytes env data = .ok (.obj kvs) ∧
    ((Json.obj kvs).get? "emailAddress" = some (.str emailAddress) ∧ emailAddress ≠ "") ∧
    IsHistoryId ((Json.obj kvs).get? "historyId") historyId

/-- The bytes are the body of a push. -/
def IsPushBody (env : Env) (rawBody : List UInt8) (m : PubSubMessage) : Prop :=
  ∃ data, IsEnvelope env rawBody m.pubsubMessageId data ∧
    IsNotification env data m.emailAddress m.historyId

/-- **The decoder accepts exactly its format** and answers everything else with its own
error. -/
def DecodesExactly (env : Env) (rawBody : List UInt8) : Prop :=
  (∀ m, decodePubsubBody env rawBody = .ok m ↔ IsPushBody env rawBody m) ∧
    ∀ e, decodePubsubBody env rawBody = .error e → ∃ msg, e = .pushVerificationError msg

/-- Bytes that decode, and whose text the JSON reader either reads or finds malformed: no
integer has more than 4300 digits, and nothing is nested too deep. -/
def JsonReadable (env : Env) (bytes : List UInt8) : Prop :=
  ∃ text, TextEncoding.decodeGuessed bytes = some text ∧
    Json.loads env.jsonDepth text ≠ .error .tooManyDigits ∧
    Json.loads env.jsonDepth text ≠ .error .tooDeep

/-- A body whose JSON is readable, also in the data of an envelope, and with no boolean for a
history id. -/
def PlainBody (env : Env) (rawBody : List UInt8) : Prop :=
  JsonReadable env rawBody ∧
    ∀ messageId data, IsEnvelope env rawBody messageId data →
      JsonReadable env data ∧
        ∀ kvs emailAddress, loadsBytes env data = .ok (.obj kvs) →
          (Json.obj kvs).get? "emailAddress" = some (.str emailAddress) → emailAddress ≠ "" →
            ∀ b, (Json.obj kvs).get? "historyId" ≠ some (.bool b)

/-! ## What the steps accept -/

section

variable {env : Env} {bytes : List UInt8} {v w : Json} {msg s : String}

theorem field_eq (key : String) (hw : w ≠ .null) : field v key = w ↔ v.get? key = some w := by
  unfold field
  cases v.get? key with
  | none => exact ⟨fun h => absurd h.symm hw, fun h => (nomatch h)⟩
  | some u => simp

theorem loadsOr_eq_ok : loadsOr env bytes msg = .ok v ↔ loadsBytes env bytes = .ok v := by
  unfold loadsOr
  split
  · rename_i h
    rw [h]
    exact ⟨fun h => (nomatch h), fun h => (nomatch h)⟩
  · exact Iff.rfl

theorem asObject_eq_ok : asObject msg v = .ok w ↔ w = v ∧ ∃ kvs, v = .obj kvs := by
  cases v with
  | obj kvs => simp [asObject, eq_comm]
  | _ => simp [asObject]

theorem asText_eq_ok : asText msg v = .ok s ↔ v = .str s ∧ s ≠ "" := by
  cases v with
  | str t =>
      by_cases ht : t = ""
      · subst ht
        simp only [asText, if_true, Json.str.injEq, reduceCtorEq, false_iff, not_and, not_not]
        exact fun h => h.symm
      · simp only [asText, if_neg ht, Except.ok.injEq, Json.str.injEq]
        exact ⟨fun h => ⟨h, h ▸ ht⟩, fun h => h.1⟩
  | _ => simp [asText]

theorem b64decodeOr_eq_ok : b64decodeOr s msg = .ok bytes ↔ b64decodeStrict s = .ok bytes := by
  unfold b64decodeOr
  cases b64decodeStrict s <;> simp

/-- What is taken for a history id. -/
theorem historyIdText_eq_ok : historyIdText (field v "historyId") = .ok s ↔
    IsHistoryId (v.get? "historyId") s ∨
      ∃ b, v.get? "historyId" = some (.bool b) ∧ s = if b then "True" else "False" := by
  have hcases : ∀ u : Json, historyIdText u = .ok s ↔
      ((∃ n, u = .int n ∧ s = toString n) ∨ (u = .str s ∧ s ≠ "")) ∨
        ∃ b, u = .bool b ∧ s = if b then "True" else "False" := by
    intro u
    cases u with
    | int n => simp [historyIdText, eq_comm]
    | bool b => simp [historyIdText, eq_comm]
    | str t =>
        by_cases ht : t = ""
        · subst ht
          simp only [historyIdText, if_true, Json.str.injEq, reduceCtorEq, false_and, exists_false,
            or_false, false_or, false_iff, not_and, not_not]
          exact fun h => h.symm
        · simp only [historyIdText, if_neg ht, Except.ok.injEq, Json.str.injEq, reduceCtorEq,
            false_and, exists_false, or_false, false_or]
          exact ⟨fun h => ⟨h, h ▸ ht⟩, fun h => h.1⟩
    | _ => simp [historyIdText]
  have hint : ∀ n, field v "historyId" = .int n ↔ v.get? "historyId" = some (.int n) :=
    fun n => field_eq _ (fun h => (nomatch h))
  have hstr : field v "historyId" = .str s ↔ v.get? "historyId" = some (.str s) :=
    field_eq _ (fun h => (nomatch h))
  have hbool : ∀ b, field v "historyId" = .bool b ↔ v.get? "historyId" = some (.bool b) :=
    fun b => field_eq _ (fun h => (nomatch h))
  rw [hcases, IsHistoryId]
  simp only [hint, hstr, hbool]

end

section

variable {env : Env} {rawBody data : List UInt8} {messageId emailAddress historyId : String}

/-- The first half accepts the envelopes. -/
theorem decodeEnvelope_eq_ok :
    decodeEnvelope env rawBody = .ok (messageId, data) ↔ IsEnvelope env rawBody messageId data := by
  have hobj : ∀ (v : Json) (key : String) kvs, field v key = .obj kvs ↔ v.get? key = some (.obj kvs) :=
    fun v key kvs => field_eq key (fun h => (nomatch h))
  have hstr : ∀ (v : Json) (key s : String), field v key = .str s ↔ v.get? key = some (.str s) :=
    fun v key s => field_eq key (fun h => (nomatch h))
  simp only [decodeEnvelope, Fallible.bind_eq_ok, loadsOr_eq_ok, asObject_eq_ok, asText_eq_ok,
    b64decodeOr_eq_ok, hstr, pure, Except.pure, Except.ok.injEq, Prod.mk.injEq]
  constructor
  · rintro ⟨loaded, hload, envelope, ⟨rfl, kvs, rfl⟩, message, ⟨rfl, kvs', hmessage⟩, dataB64, hdata, id,
      hid, bytes, hbytes, rfl, rfl⟩
    rw [hmessage] at hdata hid
    exact ⟨kvs, kvs', dataB64, hload, (hobj _ _ _).1 hmessage, hdata, hid, hbytes⟩
  · rintro ⟨kvs, kvs', dataB64, hload, hmessage, hdata, hid, hbytes⟩
    exact ⟨_, hload, _, ⟨rfl, kvs, rfl⟩, .obj kvs', ⟨((hobj _ _ _).2 hmessage).symm, kvs',
      (hobj _ _ _).2 hmessage⟩, dataB64, hdata, messageId, hid, data, hbytes, rfl, rfl⟩

/-- The second half accepts the notifications, and those with a boolean for a history id. -/
theorem decodeNotification_eq_ok :
    decodeNotification env data = .ok (emailAddress, historyId) ↔
      IsNotification env data emailAddress historyId ∨
        ∃ kvs b, loadsBytes env data = .ok (.obj kvs) ∧
          ((Json.obj kvs).get? "emailAddress" = some (.str emailAddress) ∧ emailAddress ≠ "") ∧
          (Json.obj kvs).get? "historyId" = some (.bool b) ∧
          historyId = if b then "True" else "False" := by
  have hstr : ∀ (v : Json) (key s : String), field v key = .str s ↔ v.get? key = some (.str s) :=
    fun v key s => field_eq key (fun h => (nomatch h))
  simp only [decodeNotification, Fallible.bind_eq_ok, loadsOr_eq_ok, asObject_eq_ok, asText_eq_ok,
    historyIdText_eq_ok, hstr, pure, Except.pure, Except.ok.injEq, Prod.mk.injEq]
  constructor
  · rintro ⟨loaded, hload, inner, ⟨rfl, kvs, rfl⟩, email, hemail, id, hid | ⟨b, hid, hb⟩, rfl, rfl⟩
    · exact Or.inl ⟨kvs, hload, hemail, hid⟩
    · exact Or.inr ⟨kvs, b, hload, hemail, hid, hb⟩
  · rintro (⟨kvs, hload, hemail, hid⟩ | ⟨kvs, b, hload, hemail, hid, hb⟩)
    · exact ⟨_, hload, _, ⟨rfl, kvs, rfl⟩, emailAddress, hemail, historyId, Or.inl hid, rfl, rfl⟩
    · exact ⟨_, hload, _, ⟨rfl, kvs, rfl⟩, emailAddress, hemail, historyId, Or.inr ⟨b, hid, hb⟩, rfl,
        rfl⟩

theorem decodePubsubBody_eq_ok {m : PubSubMessage} : decodePubsubBody env rawBody = .ok m ↔
    ∃ data, IsEnvelope env rawBody m.pubsubMessageId data ∧
      decodeNotification env data = .ok (m.emailAddress, m.historyId) := by
  simp only [decodePubsubBody, Fallible.bind_eq_ok, pure, Except.pure, Except.ok.injEq]
  constructor
  · rintro ⟨⟨id, data⟩, henvelope, ⟨email, historyId⟩, hnotification, rfl⟩
    exact ⟨data, decodeEnvelope_eq_ok.1 henvelope, hnotification⟩
  · rintro ⟨data, henvelope, hnotification⟩
    exact ⟨_, decodeEnvelope_eq_ok.2 henvelope, _, hnotification, rfl⟩

end

/-! ## What the steps refuse -/

section

variable {env : Env} {bytes : List UInt8} {v : Json} {msg s : String} {e : PyExc}

/-- The reader's errors are those of malformed text exactly on readable bytes. -/
theorem jsonReadable_iff :
    JsonReadable env bytes ↔ ∀ e, loadsBytes env bytes = .error e → e = .jsonDecodeError := by
  unfold JsonReadable loadsBytes
  cases TextEncoding.decodeGuessed bytes with
  | none => simp
  | some text =>
      simp only [Option.some.injEq, exists_eq_left']
      cases Json.loads env.jsonDepth text with
      | ok v => simp
      | error r => cases r <;> simp

/-- An error of the module itself. -/
def IsRefusal (e : PyExc) : Prop := ∃ msg, e = .pushVerificationError msg

theorem loadsOr_eq_error (h : loadsOr env bytes msg = .error e) :
    IsRefusal e ∨ loadsBytes env bytes = .error e ∧ e ≠ .jsonDecodeError := by
  unfold loadsOr at h
  split at h
  · cases h
    exact Or.inl ⟨_, rfl⟩
  · rename_i hne
    refine Or.inr ⟨h, ?_⟩
    rintro rfl
    exact hne h

theorem loadsOr_of_error (h : loadsBytes env bytes = .error e) (hne : e ≠ .jsonDecodeError) :
    loadsOr env bytes msg = .error e := by
  unfold loadsOr
  split
  · rename_i hmalformed
    rw [h, Except.error.injEq] at hmalformed
    exact absurd hmalformed hne
  · exact h

theorem asObject_eq_error (h : asObject msg v = .error e) : IsRefusal e := by
  cases v <;> cases h
  all_goals exact ⟨_, rfl⟩

theorem asText_eq_error (h : asText msg v = .error e) : IsRefusal e := by
  unfold asText at h
  split at h
  · split at h
    · cases h
      exact ⟨_, rfl⟩
    · cases h
  · cases h
    exact ⟨_, rfl⟩

theorem b64decodeOr_eq_error (h : b64decodeOr s msg = .error e) : IsRefusal e := by
  unfold b64decodeOr at h
  split at h
  · cases h
    exact ⟨_, rfl⟩
  · cases h

theorem historyIdText_eq_error (h : historyIdText v = .error e) : IsRefusal e := by
  unfold historyIdText at h
  split at h
  · cases h
  · cases h
  · split at h
    · cases h
      exact ⟨_, rfl⟩
    · cases h
  · cases h
    exact ⟨_, rfl⟩

/-- The first half raises its own error or one of the reader's. -/
theorem decodeEnvelope_eq_error (h : decodeEnvelope env bytes = .error e) :
    IsRefusal e ∨ loadsBytes env bytes = .error e ∧ e ≠ .jsonDecodeError := by
  simp only [decodeEnvelope, Fallible.bind_eq_error] at h
  rcases h with h | ⟨_, -, h | ⟨_, -, h | ⟨_, -, h | ⟨_, -, h | ⟨_, -, h | ⟨_, -, h⟩⟩⟩⟩⟩⟩
  · exact loadsOr_eq_error h
  · exact Or.inl (asObject_eq_error h)
  · exact Or.inl (asObject_eq_error h)
  · exact Or.inl (asText_eq_error h)
  · exact Or.inl (asText_eq_error h)
  · exact Or.inl (b64decodeOr_eq_error h)
  · cases h

/-- So does the second half. -/
theorem decodeNotification_eq_error (h : decodeNotification env bytes = .error e) :
    IsRefusal e ∨ loadsBytes env bytes = .error e ∧ e ≠ .jsonDecodeError := by
  simp only [decodeNotification, Fallible.bind_eq_error] at h
  rcases h with h | ⟨_, -, h | ⟨_, -, h | ⟨_, -, h | ⟨_, -, h⟩⟩⟩⟩
  · exact loadsOr_eq_error h
  · exact Or.inl (asObject_eq_error h)
  · exact Or.inl (asText_eq_error h)
  · exact Or.inl (historyIdText_eq_error h)
  · cases h

end

/-! ## The decoder and its format -/

/-- On a plain body the decoder does what the format says. -/
theorem decodesExactly_of_plainBody {env : Env} {rawBody : List UInt8} (h : PlainBody env rawBody) :
    DecodesExactly env rawBody := by
  obtain ⟨houter, hinner⟩ := h
  constructor
  · intro m
    rw [decodePubsubBody_eq_ok]
    constructor
    · rintro ⟨data, henvelope, hnotification⟩
      rcases decodeNotification_eq_ok.1 hnotification with hok | ⟨kvs, b, hload, hemail, hid, -⟩
      · exact ⟨data, henvelope, hok⟩
      · exact absurd hid ((hinner _ _ henvelope).2 kvs _ hload hemail.1 hemail.2 b)
    · rintro ⟨data, henvelope, hnotification⟩
      exact ⟨data, henvelope, decodeNotification_eq_ok.2 (Or.inl hnotification)⟩
  · intro e he
    simp only [decodePubsubBody, Fallible.bind_eq_error] at he
    rcases he with he | ⟨⟨messageId, data⟩, henvelope, he | ⟨_, -, he⟩⟩
    · rcases decodeEnvelope_eq_error he with hrefusal | ⟨hload, hne⟩
      · exact hrefusal
      · exact absurd (jsonReadable_iff.1 houter e hload) hne
    · rcases decodeNotification_eq_error he with hrefusal | ⟨hload, hne⟩
      · exact hrefusal
      · have hread := (hinner _ _ (decodeEnvelope_eq_ok.1 henvelope)).1
        exact absurd (jsonReadable_iff.1 hread e hload) hne
    · cases he

/-- An exception of the reader that is not caught is the answer. -/
theorem plainBody_of_decodesExactly {env : Env} {rawBody : List UInt8}
    (h : DecodesExactly env rawBody) : PlainBody env rawBody := by
  obtain ⟨haccept, hrefuse⟩ := h
  have hforeign : ∀ {bytes : List UInt8} {e : PyExc}, loadsBytes env bytes = .error e →
      ¬ IsRefusal e := by
    rintro bytes e hload ⟨msg, rfl⟩
    unfold loadsBytes at hload
    repeat' split at hload
    all_goals cases hload
  refine ⟨jsonReadable_iff.2 fun e hload => ?_, fun messageId data henvelope =>
    ⟨jsonReadable_iff.2 fun e hload => ?_, fun kvs emailAddress hload hemail hne b hb => ?_⟩⟩
  · by_contra hne
    refine hforeign hload (hrefuse e ?_)
    simp only [decodePubsubBody, decodeEnvelope, loadsOr_of_error hload hne]
    rfl
  · by_contra hne
    refine hforeign hload (hrefuse e ?_)
    simp only [decodePubsubBody, decodeEnvelope_eq_ok.2 henvelope, decodeNotification]
    rw [show ∀ f : String × List UInt8 → Except PyExc PubSubMessage,
      (Except.ok (messageId, data) >>= f) = f (messageId, data) from fun f => rfl]
    simp only [loadsOr_of_error hload hne]
    rfl
  · -- the decoder takes the boolean, the format does not
    have hok : decodePubsubBody env rawBody =
        .ok ⟨emailAddress, if b then "True" else "False", messageId⟩ :=
      decodePubsubBody_eq_ok.2 ⟨data, henvelope,
        decodeNotification_eq_ok.2 (Or.inr ⟨kvs, b, hload, ⟨hemail, hne⟩, hb, rfl⟩)⟩
    obtain ⟨data', henvelope', kvs', hload', -, hid⟩ := (haccept _).1 hok
    have hdata := (decodeEnvelope_eq_ok.2 henvelope).symm.trans (decodeEnvelope_eq_ok.2 henvelope')
    rw [Except.ok.injEq, Prod.mk.injEq] at hdata
    obtain ⟨-, rfl⟩ := hdata
    rw [hload, Except.ok.injEq, Json.obj.injEq] at hload'
    subst hload'
    rcases hid with ⟨n, hn, -⟩ | ⟨hs, -⟩
    · rw [hb] at hn
      cases hn
    · rw [hb] at hs
      cases hs

end SpendLens
