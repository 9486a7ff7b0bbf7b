/-
# The connections of a user

Listing, fetching and dropping them.  Disconnecting deletes the row whatever Google says: the
revocation is a courtesy, and a token that cannot be decrypted is not revoked.
-/
import SpendLens.GmailOAuth

namespace SpendLens

/-- `GOOGLE_REVOKE_URL`. -/
def googleRevokeUrl : String := "https://oauth2.googleapis.com/revoke"

/-- Is this the connection, and is it the user's? -/
def isConnectionOf (userId connectionId : UUID) (c : GmailConnection) : Bool :=
  c.id = connectionId && c.userId = userId

/-- `get_connection`. -/
def getConnection (userId connectionId : UUID) : Service GmailConnection := do
  let rows ← sql (.selectConnections [] (isConnectionOf userId connectionId))
  match ← scalarOneOrNone rows with
  | none => throw (.gmailConnectionNotFound connectionId)
  | some connection => return connection

/-- `list_connections`: oldest first. -/
def listConnections (userId : UUID) : Service (List GmailConnection) := do
  let rows ← sql (.selectConnections [] (fun c => c.userId = userId))
  return rows.mergeSort (fun a b => a.createdAt ≤ b.createdAt)

/-- `delete_connection`: the row that is gone. -/
def deleteConnection (userId connectionId : UUID) : Service GmailConnection := do
  let connection ← getConnection userId connectionId
  sql (.deleteConnection connection.id)
  commit
  return connection

/-- `revoke_refresh_token`: a token that was revoked before counts as revoked. -/
def revokeRefreshToken (refreshToken : String) : Service Bool :=
  .call (.ext (.httpPost googleRevokeUrl [("token", refreshToken)]
    [("Content-Type", "application/x-www-form-urlencoded")])) fun r =>
  match r with
  | .ok resp => .ret (resp.statusCode = 200 || resp.statusCode = 400)
  | .error .httpError => .ret false
  | .error e => .raise e

/-- The token that is to be revoked, if it can be read. -/
def readableToken (env : Env) (connection : GmailConnection) : Except PyExc (Option String) :=
  match decryptSecret env connection.encryptedRefreshToken with
  | .ok refreshToken => .ok (some refreshToken)
  | .error (.secretBoxError _) => .ok none
  | .error .secretBoxNotConfigured => .ok none
  | .error e => .error e

/-- `DELETE /integrations/gmail/{connection_id}`. -/
def disconnect (env : Env) (userId connectionId : UUID) : Service Unit := do
  let connection ← getConnection userId connectionId
  let refreshToken ← Prog.ofExcept (readableToken env connection)
  let _ ← deleteConnection userId connectionId
  match refreshToken with
  | none => return ()
  | some refreshToken =>
      let _ ← revokeRefreshToken refreshToken
      return ()

end SpendLens
