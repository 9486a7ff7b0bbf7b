/-
# Inbound email

The canonical payload of a delivery, which carries the length bounds its schema
checks, the resolution of its `to` address, and `processInboundEmail`, which
creates one receipt per attachment after a dedup on the message id.
`verdict` says what the loop does with one attachment: it skips it, it lets the
exception of the decoder or of `create_receipt` through, or it uploads it.
-/
import SpendLens.ReceiptService
import SpendLens.Lib.Base64

namespace SpendLens

/-! ## The payload -/

def maxInboundAttachments : ℕ := 10

/-- One file attached to the email. -/
structure InboundAttachment where
  filename : String
  contentType : String
  contentBase64 : String
  filename_length : 1 ≤ filename.length ∧ filename.length ≤ 255
  contentType_length : 1 ≤ contentType.length ∧ contentType.length ≤ 128

/-- A validated delivery. -/
structure InboundEmail where
  messageId : String
  toAddress : String
  sender : String
  subject : String
  bodyPlain : String
  attachments : List InboundAttachment
  messageId_length : 1 ≤ messageId.length ∧ messageId.length ≤ 255
  to_length : 3 ≤ toAddress.length ∧ toAddress.length ≤ 320
  sender_length : 3 ≤ sender.length ∧ sender.length ≤ 320
  subject_length : subject.length ≤ 998
  bodyPlain_length : bodyPlain.length ≤ 1048576
  attachments_length : attachments.length ≤ maxInboundAttachments

/-- The constructor of an attachment, with its validation. -/
def InboundAttachment.validate (filename contentType contentBase64 : String) :
    Except PyExc InboundAttachment :=
  if h₁ : 1 ≤ filename.length ∧ filename.length ≤ 255 then
    if h₂ : 1 ≤ contentType.length ∧ contentType.length ≤ 128 then
      .ok ⟨filename, contentType, contentBase64, h₁, h₂⟩
    else .error (.validationError "content_type")
  else .error (.validationError "filename")

/-- The constructor of a delivery, with its validation. -/
def InboundEmail.validate (messageId toAddress sender subject bodyPlain : String)
    (attachments : List InboundAttachment) : Except PyExc InboundEmail :=
  if h₁ : 1 ≤ messageId.length ∧ messageId.length ≤ 255 then
    if h₂ : 3 ≤ toAddress.length ∧ toAddress.length ≤ 320 then
      if h₃ : 3 ≤ sender.length ∧ sender.length ≤ 320 then
        if h₄ : subject.length ≤ 998 then
          if h₅ : bodyPlain.length ≤ 1048576 then
            if h₆ : attachments.length ≤ maxInboundAttachments then
              .ok ⟨messageId, toAddress, sender, subject, bodyPlain, attachments, h₁, h₂, h₃, h₄, h₅,
                h₆⟩
            else .error (.validationError "attachments")
          else .error (.validationError "body_plain")
        else .error (.validationError "subject")
      else .error (.validationError "sender")
    else .error (.validationError "to")
  else .error (.validationError "message_id")

/-! ## The recipient -/

/-- Does a character match a lower-case letter of the pattern, ignoring case? -/
def matchesIgnoringCase (p c : Char) : Bool :=
  c.toLower = p || (p = 's' && c = 'ſ') || (p = 'i' && (c = 'ı' || c = 'İ'))

/-- `[0-9a-f]`, ignoring case. -/
def isHexIgnoringCase (c : Char) : Bool :=
  c.isDigit || ('a' ≤ c.toLower && c.toLower ≤ 'f')

/-- The token, if the pattern `receipts\+([0-9a-f]{32})@` matches here. -/
def tokenAt (cs : List Char) : Option String :=
  let token := (cs.drop 9).take 32
  if (cs.take 9).length = 9 && ("receipts+".toList.zip (cs.take 9)).all
        (fun p => matchesIgnoringCase p.1 p.2) &&
      token.length = 32 && token.all isHexIgnoringCase && (cs.drop 41).head? = some '@' then
    some (String.ofList token)
  else none

/-- The token of the leftmost match. -/
def searchToken : List Char → Option String
  | [] => tokenAt []
  | c :: cs =>
      match tokenAt (c :: cs) with
      | some token => some token
      | none => searchToken cs

/-- Map `receipts+<token>@…` back to a user. -/
def resolveUserByToAddress (env : Env) (toAddress : String) : Service User :=
  match searchToken (env.unicode.lower toAddress).toList with
  | none => throw (.unknownInboxToken toAddress)
  | some token => do
      let rows ← sql (.selectUsers [.text token] (fun u => u.inboxToken = token))
      match ← scalarOneOrNone rows with
      | none => throw (.unknownInboxToken token)
      | some user => return user

/-- The user an address resolves to, if it resolves to one. -/
def resolvedUser (U : Unicode) (users : List User) (toAddress : String) : Option User :=
  (searchToken (U.lower toAddress).toList).bind (fun token =>
    match users.filter (fun u => u.inboxToken = token) with
    | [user] => some user
    | _ => none)

theorem isHexIgnoringCase_ne_nul {c : Char} (h : isHexIgnoringCase c = true) : c ≠ '\x00' := by
  rintro rfl
  revert h
  decide

theorem textOk_of_tokenAt {cs : List Char} {token : String} (h : tokenAt cs = some token) :
    textOk token = true := by
  simp only [tokenAt] at h
  split at h
  · rename_i hc
    simp only [Bool.and_eq_true] at hc
    rw [Option.some.injEq] at h
    rw [← h, textOk, String.toList_ofList, List.all_eq_true]
    intro c hmem
    rw [decide_eq_true_eq]
    exact isHexIgnoringCase_ne_nul (List.all_eq_true.1 hc.1.2 c hmem)
  · cases h

/-- A token is a text the database takes. -/
theorem textOk_of_searchToken {cs : List Char} {token : String}
    (h : searchToken cs = some token) : textOk token = true := by
  induction cs with
  | nil => exact textOk_of_tokenAt h
  | cons c cs ih =>
      rw [searchToken] at h
      split at h
      · rename_i t ht
        cases h
        exact textOk_of_tokenAt ht
      · exact ih h

/-! ## Processing -/

def allowedMimes : List String :=
  ["image/jpeg", "image/png", "image/webp", "image/heic", "image/heif", "application/pdf"]

/-- `base64.b64decode(text, validate=True)`: text outside ASCII is a plain
`ValueError`, everything else that is wrong a `binascii.Error`. -/
def b64decodeStrict (s : String) : Except PyExc (List UInt8) :=
  if s.toList.all (fun c => c.toNat < 128) then
    (Base64.decode true s.toList).mapError .binasciiError
  else .error (.valueError "string argument should contain only ASCII characters")

/-- `InboundEmailResult`. -/
structure InboundEmailResult where
  messageId : String
  receiptsCreated : List UUID
  deduped : Bool
  deriving DecidableEq

/-- Upload one decoded attachment, or skip it if it is of no supported type. -/
def createOrSkip (env : Env) (userId : UUID) (messageId : String) (body : List UInt8) :
    Service (Option Receipt) :=
  tryCatch
    (do
      let receipt ← createReceipt env userId body (some messageId)
      return some receipt)
    (fun e =>
      match e with
      | .unsupportedMediaType _ => return none
      | e => throw e)

/-- The loop over the attachments; `created` are the receipts so far. -/
def processAttachments (env : Env) (userId : UUID) (messageId : String) (created : List UUID) :
    List InboundAttachment → Service (List UUID)
  | [] => return created
  | attachment :: rest =>
      if attachment.contentType ∉ allowedMimes then
        processAttachments env userId messageId created rest
      else
        match b64decodeStrict attachment.contentBase64 with
        | .error (.binasciiError _) => processAttachments env userId messageId created rest
        | .error e => throw e
        | .ok body => do
            match ← createOrSkip env userId messageId body with
            | none => processAttachments env userId messageId created rest
            | some receipt =>
                processAttachments env userId messageId (created ++ [receipt.id]) rest

/-- Resolve the user, dedup, and create receipts from the attachments. -/
def processInboundEmail (env : Env) (payload : InboundEmail) : Service InboundEmailResult := do
  let user ← resolveUserByToAddress env payload.toAddress
  let existing ← sql (.selectReceipts [.text payload.messageId]
    (fun r => r.userId = user.id && r.externalMessageId = some payload.messageId))
  if existing ≠ [] then
    return ⟨payload.messageId, existing.map Receipt.id, true⟩
  else do
    let created ← processAttachments env user.id payload.messageId [] payload.attachments
    return ⟨payload.messageId, created, false⟩

/-! ## The verdict on an attachment -/

/-- What the loop does with an attachment. -/
inductive Verdict where
  | skip
  | poison (e : PyExc)
  | accept (body : List UInt8) (mime : String)
  deriving DecidableEq

/-- The verdict, from the attachment alone. -/
def verdict (a : InboundAttachment) : Verdict :=
  if a.contentType ∉ allowedMimes then .skip
  else
    match b64decodeStrict a.contentBase64 with
    | .error (.binasciiError _) => .skip
    | .error e => .poison e
    | .ok body =>
        match vetUpload body with
        | .ok mime => .accept body mime
        | .error (.unsupportedMediaType _) => .skip
        | .error e => .poison e

/-- The loop passes over what it skips. -/
theorem processAttachments_skip {env : Env} {userId : UUID} {messageId : String}
    {created : List UUID} {a : InboundAttachment} {rest : List InboundAttachment}
    (h : verdict a = .skip) :
    processAttachments env userId messageId created (a :: rest) =
      processAttachments env userId messageId created rest := by
  unfold verdict at h
  rw [processAttachments]
  split at h
  · rename_i hmime
    rw [if_pos hmime]
  · rename_i hmime
    rw [if_neg hmime]
    split at h
    · rfl
    · cases h
    · rename_i body hdec
      split at h
      · cases h
      · rename_i msg hadmit
        rw [createOrSkip, createReceipt_of_vet_error hadmit]
        rfl
      · cases h

/-- The loop lets the exception of a poisonous attachment through. -/
theorem processAttachments_poison {env : Env} {userId : UUID} {messageId : String}
    {created : List UUID} {a : InboundAttachment} {rest : List InboundAttachment} {e : PyExc}
    (h : verdict a = .poison e) :
    processAttachments env userId messageId created (a :: rest) = .raise e := by
  unfold verdict at h
  rw [processAttachments]
  split at h
  · cases h
  · rename_i hmime
    rw [if_neg hmime]
    split at h
    · cases h
    · cases h
      rfl
    · rename_i body hdec
      split at h
      · cases h
      · cases h
      · rename_i e' hne hadmit
        cases h
        rw [createOrSkip, createReceipt_of_vet_error hadmit]
        cases e <;> first | rfl | exact absurd rfl (hne _)

/-- What an acceptable attachment decodes and sniffs to. -/
theorem verdict_accept {a : InboundAttachment} {body : List UInt8} {mime : String}
    (h : verdict a = .accept body mime) :
    a.contentType ∈ allowedMimes ∧ b64decodeStrict a.contentBase64 = .ok body ∧
      vetUpload body = .ok mime := by
  unfold verdict at h
  split at h
  · cases h
  · rename_i hmime
    split at h
    · cases h
    · cases h
    · rename_i body' hdec
      split at h
      · rename_i mime' hvet
        cases h
        exact ⟨not_not.1 hmime, hdec, hvet⟩
      · cases h
      · cases h

theorem sniffMime_of_verdict {a : InboundAttachment} {body : List UInt8} {mime : String}
    (h : verdict a = .accept body mime) : sniffMime (body.take 32) = some mime :=
  (createReceipt_of_vet_ok Env.quiet 0 none (verdict_accept h).2.2).1

/-- An acceptable attachment is persisted under the type it sniffs to. -/
theorem createOrSkip_accept (env : Env) (userId : UUID) (messageId : String)
    {a : InboundAttachment} {body : List UInt8} {mime : String}
    (h : verdict a = .accept body mime) :
    createOrSkip env userId messageId body = tryCatch
      (do
        let receipt ← persistReceipt env userId body mime (some messageId)
        return some receipt)
      (fun e =>
        match e with
        | .unsupportedMediaType _ => return none
        | e => throw e) := by
  rw [createOrSkip, (createReceipt_of_vet_ok env userId (some messageId) (verdict_accept h).2.2).2]

/-- The loop uploads an acceptable attachment. -/
theorem processAttachments_accept (env : Env) (userId : UUID) (messageId : String)
    (created : List UUID) (rest : List InboundAttachment) {a : InboundAttachment}
    {body : List UInt8} {mime : String} (h : verdict a = .accept body mime) :
    processAttachments env userId messageId created (a :: rest) = (do
      match ← createOrSkip env userId messageId body with
      | none => processAttachments env userId messageId created rest
      | some receipt =>
          processAttachments env userId messageId (created ++ [receipt.id]) rest) := by
  obtain ⟨hmime, hdec, -⟩ := verdict_accept h
  rw [processAttachments, if_neg (not_not.2 hmime), hdec]

end SpendLens
