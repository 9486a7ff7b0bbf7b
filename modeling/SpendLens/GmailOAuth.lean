/-
# The Gmail OAuth flow

`GET /connect` signs the user who asks into the `state` of a consent URL, and
`GET /callback` takes a code and a state from whoever requests it: it verifies the
state, has Google exchange the code, and stores the refresh token, encrypted, under the
user of the state.  The clock is an argument, as it is in the source.
-/
import SpendLens.Pagination
import SpendLens.Lib.Rounding

namespace SpendLens

/-! ## Numerals and numbers -/

/-- The digits of a numeral in base 10, with single underscores between them: how many
there are, and the number; `last` says whether the character before was a digit. -/
def baseTenFrom (U : Unicode) (last : Bool) (count acc : ℕ) : List Char → Option (ℕ × ℕ)
  | [] => if last then some (count, acc) else none
  | c :: cs =>
      if c = '_' then (if last then baseTenFrom U false count acc cs else none)
      else
        match U.decimal c with
        | some v => baseTenFrom U true (count + 1) (acc * 10 + v) cs
        | none => none

/-- `int(text)`; more than 4300 digits are a `ValueError` as well. -/
def intBaseTen (U : Unicode) (cs : List Char) : Option ℤ :=
  let signed := Decimal.takeSign (stripChars cs)
  match baseTenFrom U false 0 0 signed.2 with
  | some (count, n) =>
      if count ≤ 4300 then some (if signed.1 then -(n : ℤ) else (n : ℤ)) else none
  | none => none

/-- The integers from here on are no floating-point numbers. -/
def floatLimit : ℕ := 2 ^ 1024 - 2 ^ 970

/-- An integer made a floating-point number. -/
def floatOfInt (n : ℤ) : Except PyExc ℚ :=
  if n.natAbs < floatLimit then .ok (Rounding.roundSig 2 53 n) else .error .overflowError

/-- The difference of two floating-point numbers. -/
def floatSub (a b : ℚ) : ℚ := Rounding.roundSig 2 53 (a - b)

/-- `int` of a floating-point number. -/
def truncate (q : ℚ) : ℤ := q.num.tdiv q.den

/-! ## State signing -/

/-- A state is good for ten minutes. -/
def stateTtlSeconds : ℚ := 10 * 60

/-- `state.split(".")`. -/
def splitFields (s : String) : List String := (s.toList.splitOn '.').map String.ofList

/-- What the signature of a state covers. -/
def statePayload (userId nonce issuedAt : String) : String :=
  userId ++ "." ++ nonce ++ "." ++ issuedAt

/-- `secrets.token_hex(16)`. -/
def tokenHex (nonce : Fin (2 ^ 128)) : String := String.ofList (hexChars 32 nonce.val)

/-- `_sign_state`. -/
def signState (env : Env) (userId : UUID) (nonce : String) (issuedAt : ℤ) (secret : String) :
    String :=
  let payload := statePayload (uuidStr userId) nonce (toString issuedAt)
  payload ++ "." ++ env.hmacSha256 secret payload

/-- `str.isascii`. -/
def isAscii (s : String) : Bool := s.toList.all (fun c => c.toNat < 128)

/-- `hmac.compare_digest` of two texts. -/
def compareDigest (a b : String) : Except PyExc Bool :=
  if isAscii a && isAscii b then .ok (a = b) else .error .typeError

/-- `_verify_state`. -/
def verifyState (env : Env) (secret : String) (now : ℚ) (state : String) : Except PyExc UUID :=
  match splitFields state with
  | [userIdRaw, nonce, issuedAtRaw, signature] =>
      let payload := statePayload userIdRaw nonce issuedAtRaw
      match compareDigest (env.hmacSha256 secret payload) signature with
      | .error e => .error e
      | .ok false => .error (.oauthStateError "state signature mismatch")
      | .ok true =>
          match intBaseTen env.unicode issuedAtRaw.toList with
          | none => .error (.oauthStateError "malformed state timestamp")
          | some issuedAt =>
              match floatOfInt issuedAt with
              | .error e => .error e
              | .ok issued =>
                  if stateTtlSeconds < floatSub now issued then
                    .error (.oauthStateError "state expired")
                  else if stateTtlSeconds < floatSub issued now then
                    .error (.oauthStateError "state issued in the future")
                  else
                    match parseUUID env.unicode userIdRaw with
                    | none => .error (.oauthStateError "malformed state subject")
                    | some userId => .ok userId
  | _ => .error (.oauthStateError "malformed state")

/-! ## Consent URL -/

def googleAuthUrl : String := "https://accounts.google.com/o/oauth2/v2/auth"

def googleTokenUrl : String := "https://oauth2.googleapis.com/token"

def googleUserinfoUrl : String := "https://www.googleapis.com/oauth2/v3/userinfo"

def gmailReadonlyScope : String := "https://www.googleapis.com/auth/gmail.readonly"

/-- `quote_plus` for one byte. -/
def quotePlusByte (b : UInt8) : List Char :=
  let c := Char.ofNat b.toNat
  if c.isAlphanum || c = '_' || c = '.' || c = '-' || c = '~' then [c]
  else if c = ' ' then ['+']
  else '%' :: (hexChars 2 b.toNat).map Char.toUpper

/-- `quote_plus`. -/
def quotePlus (s : String) : List Char :=
  (s.toList.flatMap String.utf8EncodeChar).flatMap quotePlusByte

/-- `urlencode`. -/
def urlencode (params : List (String × String)) : String :=
  String.ofList (['&'].intercalate
    (params.map (fun p => quotePlus p.1 ++ '=' :: quotePlus p.2)))

/-- An option of the settings that counts as set. -/
def isSet (s : Option String) : Bool := s.any (fun s => s ≠ "")

/-- The parameters of `build_consent_url`. -/
def consentParams (env : Env) (userId : UUID) (nonce : Fin (2 ^ 128)) (now : ℚ) :
    Except PyExc (List (String × String)) :=
  if isSet env.settings.gmailOauthClientId then
    .ok [("client_id", env.settings.gmailOauthClientId.getD ""),
      ("redirect_uri", env.settings.gmailOauthRedirectUri),
      ("response_type", "code"),
      ("scope", gmailReadonlyScope),
      ("access_type", "offline"),
      ("prompt", "consent"),
      ("state", signState env userId (tokenHex nonce) (truncate now) env.settings.jwtSecret),
      ("include_granted_scopes", "true")]
  else .error .gmailNotConfigured

/-- `build_consent_url`. -/
def buildConsentUrl (env : Env) (userId : UUID) (nonce : Fin (2 ^ 128)) (now : ℚ) :
    Except PyExc String :=
  (consentParams env userId nonce now).map
    (fun params => googleAuthUrl ++ "?" ++ urlencode params)

/-! ## Token exchange -/

structure TokenExchangeResult where
  refreshToken : String
  accessToken : String
  googleEmail : String
  deriving DecidableEq

/-- `response.json().get(…)` for several keys; a body that is no object has no `get`. -/
def Response.object (r : Response) : Except PyExc Json :=
  match r.json with
  | .error e => .error e
  | .ok (.obj kvs) => .ok (.obj kvs)
  | .ok _ => .error .attributeError

/-- The call that swaps a code for tokens. -/
def tokenRequest (env : Env) (code : String) : Ext :=
  .httpPost googleTokenUrl
    [("code", code),
      ("client_id", env.settings.gmailOauthClientId.getD ""),
      ("client_secret", env.settings.gmailOauthClientSecret.getD ""),
      ("redirect_uri", env.settings.gmailOauthRedirectUri),
      ("grant_type", "authorization_code")]
    [("Accept", "application/json")]

/-- The call that asks whose account it is. -/
def userinfoRequest (accessToken : String) : Ext :=
  .httpGet googleUserinfoUrl [] [("Authorization", "Bearer " ++ accessToken)]

/-- The refresh and the access token of an answer of the token endpoint. -/
def readTokens (r : Response) : Except PyExc (String × String) :=
  if r.statusCode ≠ 200 then
    .error (.tokenExchangeError ("token exchange failed: HTTP " ++ toString r.statusCode))
  else
    match r.object with
    | .error e => .error e
    | .ok body =>
        match body.get? "refresh_token", body.get? "access_token" with
        | some (.str refreshToken), some (.str accessToken) => .ok (refreshToken, accessToken)
        | _, _ =>
            .error (.tokenExchangeError "token response missing refresh_token or access_token")

/-- The address in an answer of the userinfo endpoint. -/
def readEmail (r : Response) : Except PyExc String :=
  if r.statusCode ≠ 200 then
    .error (.tokenExchangeError ("userinfo failed: HTTP " ++ toString r.statusCode))
  else
    match r.object with
    | .error e => .error e
    | .ok userinfo =>
        match userinfo.get? "email" with
        | some (.str email) =>
            if email = "" then .error (.tokenExchangeError "userinfo missing email")
            else .ok email
        | _ => .error (.tokenExchangeError "userinfo missing email")

/-- `exchange_code`. -/
def exchangeCode (env : Env) (now : ℚ) (code state : String) :
    Service (UUID × TokenExchangeResult) :=
  if isSet env.settings.gmailOauthClientId && isSet env.settings.gmailOauthClientSecret then
    (Prog.ofExcept (verifyState env env.settings.jwtSecret now state)).bind fun userId =>
    (Prog.perform (Op.ext (tokenRequest env code))).bind fun tokenResp =>
    (Prog.ofExcept (readTokens tokenResp)).bind fun tokens =>
    (Prog.perform (Op.ext (userinfoRequest tokens.2))).bind fun userinfoResp =>
    (Prog.ofExcept (readEmail userinfoResp)).bind fun email =>
    .ret (userId, ⟨tokens.1, tokens.2, email⟩)
  else .raise .gmailNotConfigured

/-! ## Storing a connection -/

/-- `_load_box`. -/
def loadBox (env : Env) : Except PyExc Fernet :=
  if isSet env.settings.gmailTokenEncryptionKey then
    match env.fernet (env.settings.gmailTokenEncryptionKey.getD "") with
    | .ok box => .ok box
    | .error text =>
        .error (.secretBoxError ("GMAIL_TOKEN_ENCRYPTION_KEY is malformed: " ++ text))
  else .error .secretBoxNotConfigured

/-- `encrypt_secret`. -/
def encryptSecret (env : Env) (plaintext : String) : Except PyExc String :=
  (loadBox env).map (fun box => box.encrypt plaintext)

/-- `decrypt_secret`. -/
def decryptSecret (env : Env) (ciphertext : String) : Except PyExc String :=
  match loadBox env with
  | .error e => .error e
  | .ok box =>
      match box.decrypt ciphertext with
      | some plaintext => .ok plaintext
      | none => .error (.secretBoxError "ciphertext failed authentication")

/-- `upsert_connection`. -/
def upsertConnection (env : Env) (userId : UUID) (googleEmail refreshToken : String) :
    Service GmailConnection :=
  (Prog.ofExcept (encryptSecret env refreshToken)).bind fun encrypted =>
  uuid4.bind fun id =>
  (sql (.upsertConnection id userId googleEmail encrypted)).bind fun connection =>
  commit.bind fun _ =>
  (sql (.selectConnections [] (fun c => c.id = connection.id))).bind refreshed

/-! ## The callback -/

def frontendSuccessPath : String := "/receipts?gmail=connected"

/-- `_frontend_error`. -/
def frontendError (reason : String) : String := "/receipts?gmail=error&reason=" ++ reason

/-- `_CALLBACK_ERROR_REASONS`. -/
def callbackErrorReason : PyExc → Option String
  | .oauthStateError _ => some "bad_state"
  | .gmailNotConfigured => some "not_configured"
  | .tokenExchangeError _ => some "exchange_failed"
  | .secretBoxNotConfigured => some "not_configured"
  | .secretBoxError _ => some "encryption_failed"
  | _ => none

/-- Is the integration configured? -/
def gmailConfigured (env : Env) : Bool :=
  isSet env.settings.gmailOauthClientId && isSet env.settings.gmailOauthClientSecret &&
    isSet env.settings.gmailTokenEncryptionKey

/-- `GET /callback`: where the browser is redirected to. -/
def callback (env : Env) (now : ℚ) (code state : String) : Service String :=
  if gmailConfigured env then
    Prog.handle
      ((exchangeCode env now code state).bind fun exchanged =>
        (upsertConnection env exchanged.1 exchanged.2.googleEmail
          exchanged.2.refreshToken).bind fun _ =>
        .ret frontendSuccessPath)
      (fun e =>
        match callbackErrorReason e with
        | some reason => .ret (frontendError reason)
        | none => .raise e)
  else .ret (frontendError "not_configured")

/-- Where a callback may send the browser. -/
def callbackUrls : List String :=
  frontendSuccessPath ::
    (["bad_state", "not_configured", "exchange_failed", "encryption_failed"]).map frontendError

end SpendLens
