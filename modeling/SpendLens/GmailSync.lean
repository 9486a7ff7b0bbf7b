/-
# The Gmail sync

What a push of Gmail sets off: a task mints an access token, walks the history of the
mailbox from the stored cursor, and turns every new message with attachments into the
payload of the inbound-email path.  A response body is whatever Google sends; where the
source asks it for a key, a body that is no object is an `AttributeError`.

The walk of the history ends when Google sends no further page token.  `pages` bounds it: a
task that needs more of them is killed by the time limit of the worker.  The walk of a
message's parts is recursive, and nests as deep as the interpreter lets it.
-/
import SpendLens.GmailOAuth
import SpendLens.InboundEmail

namespace SpendLens

/-! ## Bodies -/

/-- `value.get(key)`. -/
def jsonGet (key : String) : Json → Except PyExc (Option Json)
  | .obj kvs => .ok ((Json.obj kvs).get? key)
  | _ => .error .attributeError

/-- The keys of a dictionary, in order. -/
def dictKeys (kvs : List (String × Json)) : List String :=
  kvs.foldl (fun keys kv => if kv.1 ∈ keys then keys else keys ++ [kv.1]) []

/-- `for x in (value or [])`. -/
def iterate (value : Option Json) : Except PyExc (List Json) :=
  match value with
  | none => .ok []
  | some v =>
      if v.truthy then
        match v with
        | .arr xs => .ok xs
        | .str s => .ok (s.toList.map (fun c => .str (String.ofList [c])))
        | .obj kvs => .ok ((dictKeys kvs).map .str)
        | _ => .error .typeError
      else .ok []

/-- One item of a sequence that `dict` reads as key and value; a key that is no text is of
no use to anybody who asks for a text. -/
def dictItem : Json → Except PyExc (Option (String × Json))
  | .arr [.str key, value] => .ok (some (key, value))
  | .arr [.arr _, _] => .error .typeError
  | .arr [.obj _, _] => .error .typeError
  | .arr [_, _] => .ok none
  | .arr _ => .error (.valueError "dictionary update sequence element has the wrong length")
  | .str s =>
      match s.toList with
      | [a, b] => .ok (some (String.ofList [a], .str (String.ofList [b])))
      | _ => .error (.valueError "dictionary update sequence element has the wrong length")
  | .obj kvs =>
      match dictKeys kvs with
      | [a, b] => .ok (some (a, .str b))
      | _ => .error (.valueError "dictionary update sequence element has the wrong length")
  | _ => .error .typeError

/-- `dict(value)`. -/
def dictOf : Json → Except PyExc (List (String × Json))
  | .obj kvs => .ok kvs
  | .arr xs => (xs.mapM dictItem).map (fun items => items.filterMap id)
  | .str s =>
      if s = "" then .ok []
      else .error (.valueError "dictionary update sequence element has the wrong length")
  | _ => .error .typeError

/-- The header of an authorised call. -/
def bearerHeader (accessToken : String) : List (String × String) :=
  [("Authorization", "Bearer " ++ accessToken)]

/-! ## The access token -/

/-- `refresh_access_token`. -/
def refreshAccessToken (env : Env) (refreshToken : String) : Service String :=
  if isSet env.settings.gmailOauthClientId && isSet env.settings.gmailOauthClientSecret then
    (Prog.perform (Op.ext (.httpPost googleTokenUrl
      [("client_id", env.settings.gmailOauthClientId.getD ""),
        ("client_secret", env.settings.gmailOauthClientSecret.getD ""),
        ("refresh_token", refreshToken),
        ("grant_type", "refresh_token")]
      [("Accept", "application/json")]))).bind fun resp =>
    if resp.statusCode ≠ 200 then
      .raise (.tokenExchangeError ("refresh failed: HTTP " ++ toString resp.statusCode))
    else
      Prog.ofExcept (do
        let body ← resp.json
        match ← jsonGet "access_token" body with
        | some (.str accessToken) =>
            if accessToken = "" then
              throw (.tokenExchangeError "refresh response missing access_token")
            else return accessToken
        | _ => throw (.tokenExchangeError "refresh response missing access_token"))
  else .raise .gmailNotConfigured

/-! ## Gmail's REST calls -/

def gmailBase : String := "https://gmail.googleapis.com/gmail/v1/users/me"

/-- The ids of the messages one history record adds, after those seen before. -/
def addedIds (seen : List String) (entry : Json) : Except PyExc (List String) := do
  let added ← iterate (← jsonGet "messagesAdded" entry)
  added.foldlM (fun seen record => do
    match ← jsonGet "message" record with
    | some (.obj kvs) =>
        match (Json.obj kvs).get? "id" with
        | some (.str mid) => return if mid = "" ∨ mid ∈ seen then seen else seen ++ [mid]
        | _ => return seen
    | _ => return seen) seen

/-- The page token of a body that has one. -/
def nextPageToken (body : Json) : Except PyExc (Option String) := do
  match ← jsonGet "nextPageToken" body with
  | some (.str token) => return if token = "" then none else some token
  | _ => return none

/-- The loop of `list_added_message_ids`, over `pages` pages at most. -/
def listAddedFrom (accessToken startHistoryId : String) :
    ℕ → List String → Option String → Service (List String)
  | 0, _, _ => .raise .workerLost
  | pages + 1, seen, pageToken =>
      (Prog.perform (Op.ext (.httpGet (gmailBase ++ "/history")
        ([("startHistoryId", startHistoryId), ("historyTypes", "messageAdded")] ++
          pageToken.elim [] (fun token => [("pageToken", token)]))
        (bearerHeader accessToken)))).bind fun resp =>
      if resp.statusCode = 404 then .ret []
      else if resp.statusCode ≠ 200 then
        .raise (.gmailSyncError ("history.list failed: HTTP " ++ toString resp.statusCode ++ " " ++
          String.ofList (resp.text.toList.take 200)))
      else
        (Prog.ofExcept (do
          let body ← resp.json
          let history ← iterate (← jsonGet "history" body)
          let seen ← history.foldlM addedIds seen
          return (seen, ← nextPageToken body))).bind fun page =>
        match page.2 with
        | none => .ret page.1
        | some token => listAddedFrom accessToken startHistoryId pages page.1 (some token)

/-- `list_added_message_ids`. -/
def listAddedMessageIds (pages : ℕ) (accessToken startHistoryId : String) :
    Service (List String) :=
  listAddedFrom accessToken startHistoryId pages [] none

/-- The call of `get_message`. -/
def messageRequest (accessToken messageId : String) : Ext :=
  .httpGet (gmailBase ++ "/messages/" ++ messageId) [] (bearerHeader accessToken)

/-- `get_message`. -/
def getMessage (accessToken messageId : String) : Service Json :=
  (Prog.perform (Op.ext (messageRequest accessToken messageId))).bind fun resp =>
  if resp.statusCode ≠ 200 then
    .raise (.gmailSyncError ("messages.get failed for " ++ messageId ++ ": HTTP " ++
      toString resp.statusCode))
  else Prog.ofExcept (do
    let body ← resp.json
    return .obj (← dictOf body))

/-- The call of `get_attachment_bytes`. -/
def attachmentRequest (accessToken messageId attachmentId : String) : Ext :=
  .httpGet (gmailBase ++ "/messages/" ++ messageId ++ "/attachments/" ++ attachmentId) []
    (bearerHeader accessToken)

/-- `base64.urlsafe_b64decode` of a text padded to a multiple of four; `none` is one of the
errors it raises. -/
def urlsafeB64decode (data : String) : Option (List UInt8) :=
  let padded := data.toList ++ Base64.padding data.toList.length
  if padded.all (fun c => c.toNat < 128) then
    (Base64.decode false (padded.map ExpenseCursor.ofUrlsafe)).toOption
  else none

/-- The bytes in an answer of the attachments endpoint. -/
def readAttachment (messageId attachmentId : String) (resp : Response) :
    Except PyExc (List UInt8) :=
  let place := "attachments.get for " ++ messageId ++ "/" ++ attachmentId
  if resp.statusCode ≠ 200 then
    .error (.gmailSyncError ("attachments.get failed for " ++ messageId ++ "/" ++ attachmentId ++
      ": HTTP " ++ toString resp.statusCode))
  else do
    let body ← resp.json
    match ← jsonGet "data" body with
    | some (.str data) =>
        if data = "" then throw (.gmailSyncError (place ++ " missing 'data'"))
        else
          match urlsafeB64decode data with
          | some bytes => return bytes
          | none => throw (.gmailSyncError (place ++ " returned invalid base64url"))
    | _ => throw (.gmailSyncError (place ++ " missing 'data'"))

/-- `get_attachment_bytes`. -/
def getAttachmentBytes (accessToken messageId attachmentId : String) : Service (List UInt8) :=
  (Prog.perform (Op.ext (attachmentRequest accessToken messageId attachmentId))).bind fun resp =>
  Prog.ofExcept (readAttachment messageId attachmentId resp)

/-! ## The parts of a message -/

/-- `_walk_parts`; the first argument is how deep the interpreter may still recurse. -/
def walkParts : ℕ → Json → Except PyExc (List Json)
  | 0, _ => .error .recursionError
  | depth + 1, .obj kvs =>
      match (Json.obj kvs).get? "parts" with
      | some (.arr parts) => (parts.mapM (walkParts depth)).map List.flatten
      | _ => .ok [.obj kvs]
  | _ + 1, _ => .ok []

/-- A part worth fetching. -/
structure Descriptor where
  filename : String
  mime : String
  attachmentId : String
  deriving DecidableEq

/-- The `_ALLOWED_MIMES` of the sync. -/
def syncedMimes : List String :=
  ["image/jpeg", "image/png", "image/webp", "image/heic", "image/heif", "application/pdf"]

/-- The descriptor of a part, if it is worth fetching. -/
def descriptorOf (part : Json) : Option Descriptor :=
  match part.get? "mimeType", part.get? "filename", part.get? "body" with
  | some (.str mime), some (.str filename), some (.obj body) =>
      match (Json.obj body).get? "attachmentId" with
      | some (.str attachmentId) =>
          if mime ∈ syncedMimes ∧ filename ≠ "" ∧ attachmentId ≠ "" then
            some ⟨filename, mime, attachmentId⟩
          else none
      | _ => none
  | _, _, _ => none

/-- `_extract_attachment_descriptors`. -/
def extractAttachmentDescriptors (env : Env) (message : Json) : Except PyExc (List Descriptor) :=
  match message.get? "payload" with
  | some (.obj payload) =>
      (walkParts env.jsonDepth (.obj payload)).map (fun parts => parts.filterMap descriptorOf)
  | _ => .ok []

/-- `str(value)`. -/
def pyStr (env : Env) : Json → String
  | .str s => s
  | v => env.reprJson v

/-- `_header`. -/
def header (env : Env) (message : Json) (name : String) : String :=
  match message.get? "payload" with
  | some (.obj payload) =>
      match (Json.obj payload).get? "headers" with
      | some (.arr headers) =>
          let matching := headers.find? (fun h =>
            match h with
            | .obj kvs =>
                env.unicode.lower (pyStr env (((Json.obj kvs).get? "name").getD (.str ""))) =
                  env.unicode.lower name
            | _ => false)
          matching.elim "" (fun h => pyStr env ((h.get? "value").getD (.str "")))
      | _ => ""
  | _ => ""

/-! ## The payload -/

/-- One attachment with its bytes. -/
structure FetchedAttachment where
  filename : String
  contentType : String
  data : List UInt8

/-- The `From` header, or what stands for it. -/
def senderOf (env : Env) (message : Json) : String :=
  if header env message "From" = "" then "unknown@gmail.com" else header env message "From"

/-- `receipts+<inbox_token>@<domain>`. -/
def inboxAddress (inboxToken domain : String) : String :=
  "receipts+" ++ inboxToken ++ "@" ++ domain

/-- An attachment made the payload's. -/
def FetchedAttachment.toInbound (a : FetchedAttachment) : Except PyExc InboundAttachment :=
  InboundAttachment.validate a.filename a.contentType (String.ofList (Base64.encode a.data))

/-- `_build_inbound_email`. -/
def buildInboundEmail (env : Env) (message : Json) (attachments : List FetchedAttachment)
    (inboxToken domain : String) : Except PyExc InboundEmail :=
  match message.get? "id" with
  | some (.str messageId) =>
      if messageId = "" then .error (.gmailSyncError "Gmail message missing 'id'")
      else do
        let inbound ← attachments.mapM FetchedAttachment.toInbound
        InboundEmail.validate messageId (inboxAddress inboxToken domain) (senderOf env message)
          (header env message "Subject") "" inbound
  | _ => .error (.gmailSyncError "Gmail message missing 'id'")

/-- Download the attachments, in order. -/
def fetchAttachments (accessToken messageId : String) :
    List Descriptor → Service (List FetchedAttachment)
  | [] => .ret []
  | d :: ds =>
      (getAttachmentBytes accessToken messageId d.attachmentId).bind fun data =>
      (fetchAttachments accessToken messageId ds).bind fun fetched =>
      .ret (⟨d.filename, d.mime, data⟩ :: fetched)

/-- The payload of one message: what the sync makes of it before it hands it over. -/
def messagePayload (env : Env) (user : User) (accessToken messageId : String) :
    Service (Option InboundEmail) :=
  (getMessage accessToken messageId).bind fun message =>
  (Prog.ofExcept (extractAttachmentDescriptors env message)).bind fun descriptors =>
  if descriptors = [] then .ret none
  else
    (fetchAttachments accessToken messageId descriptors).bind fun fetched =>
    (Prog.ofExcept (buildInboundEmail env message fetched user.inboxToken
      env.settings.inboxEmailDomain)).bind fun payload =>
    .ret (some payload)

/-! ## The sync -/

/-- `SyncResult`. -/
structure SyncResult where
  messagesSeen : ℕ
  receiptsCreated : ℕ
  newHistoryId : Option String

/-- The loop over the messages; `created` counts the receipts so far. -/
def syncMessages (env : Env) (user : User) (accessToken : String) :
    ℕ → List String → Service ℕ
  | created, [] => .ret created
  | created, messageId :: rest =>
      (messagePayload env user accessToken messageId).bind fun payload =>
      match payload with
      | none => syncMessages env user accessToken created rest
      | some payload =>
          (processInboundEmail env payload).bind fun result =>
          syncMessages env user accessToken
            (if result.deduped then created else created + result.receiptsCreated.length) rest

/-- Set the cursor and commit; the flush writes it if it has changed. -/
def storeCursor (connection : GmailConnection) (pushHistoryId : String) : Service Unit :=
  (if connection.lastHistoryId = some pushHistoryId then .ret ()
    else sql (.updateConnection connection.id pushHistoryId)).bind fun _ =>
  commit

/-- `sync_connection`. -/
def syncConnection (env : Env) (pages : ℕ) (connection : GmailConnection) (user : User)
    (pushHistoryId : String) : Service SyncResult :=
  match connection.lastHistoryId with
  | none =>
      (storeCursor connection pushHistoryId).bind fun _ => .ret ⟨0, 0, some pushHistoryId⟩
  | some lastHistoryId =>
      (Prog.ofExcept (decryptSecret env connection.encryptedRefreshToken)).bind fun refreshToken =>
      (refreshAccessToken env refreshToken).bind fun accessToken =>
      (listAddedMessageIds pages accessToken lastHistoryId).bind fun messageIds =>
      (syncMessages env user accessToken 0 messageIds).bind fun created =>
      (storeCursor connection pushHistoryId).bind fun _ =>
      .ret ⟨messageIds.length, created, some pushHistoryId⟩

/-- The body of the task: the connection with its user, and the sync. -/
def runHistorySync (env : Env) (pages : ℕ) (connectionId : UUID) (pushHistoryId : String) :
    Service Unit :=
  (sql (.selectConnections [] (fun c => c.id = connectionId))).bind fun rows =>
  (scalarOneOrNone rows).bind fun found =>
  match found with
  | none => .ret ()
  | some connection =>
      (sql (.selectUsers [] (fun u => u.id = connection.userId))).bind fun users =>
      match users with
      -- the column is a foreign key, so there is a user
      | [] => .raise .attributeError
      | user :: _ => (syncConnection env pages connection user pushHistoryId).bind fun _ => .ret ()

/-- The last part of `push`: one task for each connection of the mailbox. -/
def enqueueSyncs (pushHistoryId : String) : List GmailConnection → Service Unit
  | [] => .ret ()
  | connection :: rest =>
      (Prog.perform (Op.delay (.gmailHistorySync connection.id pushHistoryId))).bind fun _ =>
      enqueueSyncs pushHistoryId rest

/-- `push`, once the request is verified. -/
def push (emailAddress pushHistoryId : String) : Service Unit :=
  (sql (.selectConnections [.text emailAddress] (fun c => c.googleEmail = emailAddress))).bind
    fun connections => enqueueSyncs pushHistoryId connections

end SpendLens
