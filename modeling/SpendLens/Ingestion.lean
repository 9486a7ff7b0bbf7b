/-
# What bringing receipts in asks for

An upload, a delivery of the webhook and a sync of a mailbox all end in `create_receipt`.  They
read, store a blob, insert receipts that are `uploaded`, commit, and enqueue; a sync also moves its
cursor.  Nothing else of the database is written.
-/
import SpendLens.GmailSync

namespace SpendLens

/-- What bringing receipts in may ask for. -/
def Ingests : Op → Prop
  | .sql (.insertReceipt r) => r.status = .uploaded
  | .sql (.selectUsers _ _) => True
  | .sql (.selectReceipts _ _) => True
  | .sql (.selectConnections _ _) => True
  | .sql (.updateConnection _ _) => True
  | .sql _ => False
  | .delay (.processReceipt _) => True
  | .delay _ => False
  | .rollback => False
  | .getObject _ => False
  | .today => False
  | _ => True

section ingests

variable {env : Env}

/-! ## Creating a receipt -/

theorem ingests_saveReceipt (userId : UUID) (key mime : String) (size : ℕ)
    (messageId : Option String) :
    (saveReceipt userId key mime size messageId).Asks Ingests := by
  refine Prog.Asks.handle ?_ (fun e => Prog.Asks.step trivial (fun _ => Prog.Asks.raise))
  refine Prog.Asks.step trivial (fun id => Prog.Asks.step rfl (fun _ => ?_))
  exact Prog.Asks.step trivial (fun _ => Prog.Asks.ret)

theorem ingests_enqueueProcessing (id : UUID) : (enqueueProcessing env id).Asks Ingests := by
  unfold enqueueProcessing
  split
  · exact Prog.Asks.ret
  · exact Prog.Asks.perform trivial

theorem ingests_refreshReceipt (id : UUID) : (refreshReceipt id).Asks Ingests :=
  Prog.Asks.step trivial (fun rows => asks_refreshed rows)

/-- **An upload** brings a receipt in. -/
theorem ingests_createReceipt (userId : UUID) (body : List UInt8) (messageId : Option String) :
    (createReceipt env userId body messageId).Asks Ingests := by
  cases hvet : vetUpload body with
  | error e =>
      rw [createReceipt_of_vet_error hvet]
      exact Prog.Asks.raise
  | ok mime =>
      rw [(createReceipt_of_vet_ok env userId messageId hvet).2]
      have hkey : (buildReceiptKey env userId mime env.settings.jwtSecret).Asks Ingests := by
        unfold buildReceiptKey
        split
        · exact Prog.Asks.raise
        · exact Prog.Asks.step trivial (fun _ => Prog.Asks.step trivial (fun _ => Prog.Asks.ret))
      refine Prog.Asks.bind hkey (fun key => Prog.Asks.step trivial (fun _ => ?_))
      refine Prog.Asks.bind (ingests_saveReceipt userId key mime _ messageId) (fun id => ?_)
      refine Prog.Asks.bind (ingests_refreshReceipt id) (fun receipt => ?_)
      exact Prog.Asks.bind (ingests_enqueueProcessing receipt.id) (fun _ => Prog.Asks.ret)

/-! ## An email -/

theorem ingests_processAttachments (userId : UUID) (messageId : String)
    (atts : List InboundAttachment) : ∀ created : List UUID,
      (processAttachments env userId messageId created atts).Asks Ingests := by
  induction atts with
  | nil => exact fun _ => Prog.Asks.ret
  | cons a rest ih =>
      intro created
      unfold processAttachments
      split
      · exact ih created
      · split
        · exact ih created
        · exact Prog.Asks.raise
        · rename_i body _
          have hskip : (createOrSkip env userId messageId body).Asks Ingests := by
            refine Prog.Asks.handle (Prog.Asks.bind
              (ingests_createReceipt userId body (some messageId)) (fun _ => Prog.Asks.ret))
              (fun e => ?_)
            cases e with
            | unsupportedMediaType msg => exact Prog.Asks.ret
            | _ => exact Prog.Asks.raise
          refine Prog.Asks.bind hskip (fun r => ?_)
          cases r with
          | none => exact ih created
          | some receipt => exact ih (created ++ [receipt.id])

/-- **A delivery of the webhook** brings receipts in. -/
theorem ingests_processInboundEmail (payload : InboundEmail) :
    (processInboundEmail env payload).Asks Ingests := by
  have hresolve : (resolveUserByToAddress env payload.toAddress).Asks Ingests := by
    unfold resolveUserByToAddress
    split
    · exact Prog.Asks.raise
    · refine Prog.Asks.step trivial (fun rows =>
        Prog.Asks.bind (asks_scalarOneOrNone rows) (fun found => ?_))
      cases found with
      | none => exact Prog.Asks.raise
      | some user => exact Prog.Asks.ret
  refine Prog.Asks.bind hresolve (fun user => Prog.Asks.step trivial (fun existing => ?_))
  show Prog.Asks Ingests (if existing ≠ [] then _ else _)
  split
  · exact Prog.Asks.ret
  · exact Prog.Asks.bind (ingests_processAttachments user.id _ _ []) (fun _ => Prog.Asks.ret)

/-! ## A sync -/

theorem ingests_refreshAccessToken (refreshToken : String) :
    (refreshAccessToken env refreshToken).Asks Ingests := by
  unfold refreshAccessToken
  split
  · refine Prog.Asks.step trivial (fun resp => ?_)
    split
    · exact Prog.Asks.raise
    · exact Prog.Asks.ofExcept
  · exact Prog.Asks.raise

theorem ingests_listAddedFrom (accessToken startHistoryId : String) (pages : ℕ) :
    ∀ (seen : List String) (pageToken : Option String),
      (listAddedFrom accessToken startHistoryId pages seen pageToken).Asks Ingests := by
  induction pages with
  | zero => exact fun _ _ => Prog.Asks.raise
  | succ pages ih =>
      intro seen pageToken
      refine Prog.Asks.step trivial (fun resp => ?_)
      split
      · exact Prog.Asks.ret
      · split
        · exact Prog.Asks.raise
        · refine Prog.Asks.bind Prog.Asks.ofExcept (fun page => ?_)
          split
          · exact Prog.Asks.ret
          · exact ih _ _

theorem ingests_messagePayload (user : User) (accessToken messageId : String) :
    (messagePayload env user accessToken messageId).Asks Ingests := by
  have hmessage : (getMessage accessToken messageId).Asks Ingests := by
    refine Prog.Asks.step trivial (fun resp => ?_)
    split
    · exact Prog.Asks.raise
    · exact Prog.Asks.ofExcept
  have hfetch : ∀ ds : List Descriptor,
      (fetchAttachments accessToken messageId ds).Asks Ingests := by
    intro ds
    induction ds with
    | nil => exact Prog.Asks.ret
    | cons d ds ih =>
        have hbytes : (getAttachmentBytes accessToken messageId d.attachmentId).Asks Ingests :=
          Prog.Asks.step trivial (fun _ => Prog.Asks.ofExcept)
        exact Prog.Asks.bind hbytes (fun _ => Prog.Asks.bind ih (fun _ => Prog.Asks.ret))
  refine Prog.Asks.bind hmessage (fun message => Prog.Asks.bind Prog.Asks.ofExcept
    (fun descriptors => ?_))
  split
  · exact Prog.Asks.ret
  · exact Prog.Asks.bind (hfetch descriptors)
      (fun fetched => Prog.Asks.bind Prog.Asks.ofExcept (fun payload => Prog.Asks.ret))

theorem ingests_syncMessages (user : User) (accessToken : String) (messageIds : List String) :
    ∀ created : ℕ, (syncMessages env user accessToken created messageIds).Asks Ingests := by
  induction messageIds with
  | nil => exact fun _ => Prog.Asks.ret
  | cons messageId rest ih =>
      intro created
      refine Prog.Asks.bind (ingests_messagePayload user accessToken messageId) (fun payload => ?_)
      cases payload with
      | none => exact ih created
      | some payload =>
          exact Prog.Asks.bind (ingests_processInboundEmail payload) (fun result => ih _)

theorem ingests_storeCursor (connection : GmailConnection) (pushHistoryId : String) :
    (storeCursor connection pushHistoryId).Asks Ingests := by
  have hcommit : commit.Asks Ingests := Prog.Asks.perform trivial
  unfold storeCursor
  split
  · exact hcommit
  · exact Prog.Asks.bind (Prog.Asks.perform trivial) (fun _ => hcommit)

/-- **A sync** brings receipts in. -/
theorem ingests_runHistorySync (pages : ℕ) (connectionId : UUID) (pushHistoryId : String) :
    (runHistorySync env pages connectionId pushHistoryId).Asks Ingests := by
  have hsync : ∀ connection user,
      (syncConnection env pages connection user pushHistoryId).Asks Ingests := by
    intro connection user
    unfold syncConnection
    split
    · exact Prog.Asks.bind (ingests_storeCursor connection pushHistoryId)
        (fun _ => Prog.Asks.ret)
    · refine Prog.Asks.bind Prog.Asks.ofExcept (fun refreshToken => ?_)
      refine Prog.Asks.bind (ingests_refreshAccessToken refreshToken) (fun accessToken => ?_)
      refine Prog.Asks.bind (ingests_listAddedFrom accessToken _ pages [] none)
        (fun messageIds => ?_)
      refine Prog.Asks.bind (ingests_syncMessages user accessToken messageIds 0)
        (fun created => ?_)
      exact Prog.Asks.bind (ingests_storeCursor connection pushHistoryId)
        (fun _ => Prog.Asks.ret)
  refine Prog.Asks.step trivial (fun rows => Prog.Asks.bind (asks_scalarOneOrNone rows)
    (fun found => ?_))
  cases found with
  | none => exact Prog.Asks.ret
  | some connection =>
      refine Prog.Asks.step trivial (fun users => ?_)
      cases users with
      | nil => exact Prog.Asks.raise
      | cons user _ => exact Prog.Asks.bind (hsync connection user) (fun _ => Prog.Asks.ret)

end ingests

end SpendLens
