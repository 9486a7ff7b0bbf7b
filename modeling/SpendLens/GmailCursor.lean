/-
# The stored Gmail cursor

Every push starts a task that ends by storing the push's own history id as the cursor of
the connection.  Nothing compares it with the cursor it replaces, so pushes that come out
of order, or tasks that overtake each other, put an older id over a newer one.  Where every
task writes over a cursor that is not above its own id, the committed cursor never falls.
-/
import SpendLens.GmailCallback
import SpendLens.GmailSync
import SpendLens.Numerals
import SpendLens.Steps

namespace SpendLens

namespace GmailCursor

/-! ## Cursors -/

/-- The cursor, if there is one, is the text of an integer. -/
def IntegerCursor (c : GmailConnection) : Prop :=
  ∀ h, c.lastHistoryId = some h → ∃ n : ℤ, h = toString n

/-- A cursor that is followed by one not below it; a missing one may be followed by any. -/
def NotAbove (u v : GmailConnection) : Prop :=
  ∀ h, u.lastHistoryId = some h →
    ∃ a b : ℤ, h = toString a ∧ v.lastHistoryId = some (toString b) ∧ a ≤ b

theorem IntegerCursor.notAbove_self {c : GmailConnection} (hc : IntegerCursor c) :
    NotAbove c c := by
  intro h hh
  obtain ⟨n, rfl⟩ := hc h hh
  exact ⟨n, n, rfl, hh, le_refl n⟩

theorem NotAbove.trans {u v x : GmailConnection} (huv : NotAbove u v) (hvx : NotAbove v x) :
    NotAbove u x := by
  intro h hh
  obtain ⟨a, b, rfl, hb, hab⟩ := huv h hh
  obtain ⟨b', d, hb', hd, hbd⟩ := hvx (toString b) hb
  have heq : b = b' := toString_int_injective hb'
  exact ⟨a, d, rfl, hd, by omega⟩

/-! ## Calls -/

/-- What runs: deliveries of pushes, the tasks they start, and everything that leaves the
connections alone. -/
inductive CursorCall where
  | push (emailAddress : String) (historyId : ℤ)
  | sync (connectionId : UUID) (historyId : ℤ)
  | other (program : Service Unit)

def CursorCall.run (env : Env) (pages : ℕ) : CursorCall → Service Unit
  | push emailAddress historyId => SpendLens.push emailAddress (toString historyId)
  | sync connectionId historyId => runHistorySync env pages connectionId (toString historyId)
  | other program => program

/-- Everything but writes of connections. -/
def LeavesConnections : Op → Prop
  | .sql (.upsertConnection _ _ _ _) => False
  | .sql (.updateConnection _ _) => False
  | .sql (.deleteConnection _) => False
  | _ => True

/-- Of the connections, only cursors are written, and integers into them. -/
def MovesCursor : Op → Prop
  | .sql (.updateConnection _ h) => ∃ n : ℤ, h = toString n
  | o => LeavesConnections o

theorem LeavesConnections.movesCursor {o : Op} (h : LeavesConnections o) : MovesCursor o := by
  cases o with
  | sql s => cases s <;> trivial
  | _ => trivial

/-- The programs that write no connection. -/
abbrev Aside {α : Type} (p : Service α) : Prop := p.Asks LeavesConnections

section aside

variable {α : Type} {env : Env}

/-! ## What a delivery asks for -/

theorem aside_saveReceipt (userId : UUID) (key mime : String) (size : ℕ)
    (messageId : Option String) : Aside (saveReceipt userId key mime size messageId) := by
  refine Prog.Asks.handle (Prog.Asks.step ?_ (fun id => Prog.Asks.step ?_ (fun _ => Prog.Asks.step ?_ (fun _ =>
    Prog.Asks.ret)))) (fun e => Prog.Asks.step ?_ (fun _ => Prog.Asks.raise)) <;> trivial

theorem aside_createReceipt (env : Env) (userId : UUID) (body : List UInt8)
    (messageId : Option String) : Aside (createReceipt env userId body messageId) := by
  have hkey : ∀ mime secret, Aside (buildReceiptKey env userId mime secret) := by
    intro mime secret
    unfold buildReceiptKey
    split
    · exact Prog.Asks.raise
    · refine Prog.Asks.step ?_ (fun _ => Prog.Asks.step ?_ (fun _ => Prog.Asks.ret)) <;> trivial
  have hfinish : ∀ id, Aside (do
      let receipt ← refreshReceipt id
      enqueueProcessing env receipt.id
      return receipt) := by
    intro id
    refine Prog.Asks.bind (Prog.Asks.step (by trivial) (fun rows => ?_)) (fun receipt => ?_)
    · match rows with
      | [] => exact Prog.Asks.raise
      | _ :: _ => exact Prog.Asks.ret
    · unfold enqueueProcessing
      split
      · exact Prog.Asks.ret
      · exact Prog.Asks.step (by trivial) (fun _ => Prog.Asks.ret)
  cases hvet : vetUpload body with
  | error e =>
      rw [createReceipt_of_vet_error hvet]
      exact Prog.Asks.raise
  | ok mime =>
      rw [(createReceipt_of_vet_ok env userId messageId hvet).2]
      unfold persistReceipt
      refine Prog.Asks.bind (hkey mime _) (fun key => Prog.Asks.step ?_ (fun _ => ?_))
      · trivial
      · exact Prog.Asks.bind (aside_saveReceipt userId key mime _ messageId) hfinish

theorem aside_processAttachments (env : Env) (userId : UUID) (messageId : String)
    (atts : List InboundAttachment) : ∀ created : List UUID,
      Aside (processAttachments env userId messageId created atts) := by
  induction atts with
  | nil => exact fun _ => Prog.Asks.ret
  | cons a rest ih =>
      intro created
      unfold processAttachments
      split
      · exact ih created
      · split
        · exact ih created
        · exact Prog.Asks.raise
        · rename_i body _
          have hskip : Aside (createOrSkip env userId messageId body) := by
            refine Prog.Asks.handle (Prog.Asks.bind
              (aside_createReceipt env userId body (some messageId)) (fun _ => Prog.Asks.ret))
              (fun e => ?_)
            cases e with
            | unsupportedMediaType msg => exact Prog.Asks.ret
            | _ => exact Prog.Asks.raise
          refine Prog.Asks.bind hskip (fun r => ?_)
          cases r with
          | none => exact ih created
          | some receipt => exact ih (created ++ [receipt.id])

/-- A delivery writes no connection. -/
theorem aside_processInboundEmail (env : Env) (payload : InboundEmail) :
    Aside (processInboundEmail env payload) := by
  have hresolve : Aside (resolveUserByToAddress env payload.toAddress) := by
    unfold resolveUserByToAddress
    split
    · exact Prog.Asks.raise
    · refine Prog.Asks.step (by trivial) (fun rows =>
        Prog.Asks.bind (asks_scalarOneOrNone rows) (fun found => ?_))
      cases found with
      | none => exact Prog.Asks.raise
      | some user => exact Prog.Asks.ret
  refine Prog.Asks.bind hresolve (fun user => Prog.Asks.step (by trivial) (fun existing => ?_))
  show Aside (if existing ≠ [] then _ else _)
  split
  · exact Prog.Asks.ret
  · exact Prog.Asks.bind (aside_processAttachments env user.id _ _ []) (fun _ => Prog.Asks.ret)

/-! ## What a sync asks for -/

theorem aside_refreshAccessToken (refreshToken : String) :
    Aside (refreshAccessToken env refreshToken) := by
  unfold refreshAccessToken
  split
  · refine Prog.Asks.step (by trivial) (fun resp => ?_)
    split
    · exact Prog.Asks.raise
    · exact Prog.Asks.ofExcept
  · exact Prog.Asks.raise

theorem aside_listAddedFrom (accessToken startHistoryId : String) (pages : ℕ) :
    ∀ (seen : List String) (pageToken : Option String),
      Aside (listAddedFrom accessToken startHistoryId pages seen pageToken) := by
  induction pages with
  | zero => exact fun _ _ => Prog.Asks.raise
  | succ pages ih =>
      intro seen pageToken
      refine Prog.Asks.step (by trivial) (fun resp => ?_)
      split
      · exact Prog.Asks.ret
      · split
        · exact Prog.Asks.raise
        · refine Prog.Asks.bind Prog.Asks.ofExcept (fun page => ?_)
          split
          · exact Prog.Asks.ret
          · exact ih _ _

theorem aside_fetchAttachments (accessToken messageId : String) (descriptors : List Descriptor) :
    Aside (fetchAttachments accessToken messageId descriptors) := by
  induction descriptors with
  | nil => exact Prog.Asks.ret
  | cons d ds ih =>
      have hbytes : Aside (getAttachmentBytes accessToken messageId d.attachmentId) :=
        Prog.Asks.step trivial (fun _ => Prog.Asks.ofExcept)
      exact Prog.Asks.bind hbytes (fun _ => Prog.Asks.bind ih (fun _ => Prog.Asks.ret))

theorem aside_messagePayload (user : User) (accessToken messageId : String) :
    Aside (messagePayload env user accessToken messageId) := by
  have hmessage : Aside (getMessage accessToken messageId) := by
    refine Prog.Asks.step (by trivial) (fun resp => ?_)
    split
    · exact Prog.Asks.raise
    · exact Prog.Asks.ofExcept
  refine Prog.Asks.bind hmessage (fun message => Prog.Asks.bind Prog.Asks.ofExcept
    (fun descriptors => ?_))
  split
  · exact Prog.Asks.ret
  · exact Prog.Asks.bind (aside_fetchAttachments accessToken messageId descriptors)
      (fun fetched => Prog.Asks.bind Prog.Asks.ofExcept (fun payload => Prog.Asks.ret))

theorem aside_syncMessages (user : User) (accessToken : String) (messageIds : List String) :
    ∀ created : ℕ, Aside (syncMessages env user accessToken created messageIds) := by
  induction messageIds with
  | nil => exact fun _ => Prog.Asks.ret
  | cons messageId rest ih =>
      intro created
      refine Prog.Asks.bind (aside_messagePayload user accessToken messageId) (fun payload? => ?_)
      cases payload? with
      | none => exact ih created
      | some payload =>
          exact Prog.Asks.bind (aside_processInboundEmail env payload) (fun result => ih _)

end aside

section moves

variable {env : Env}

/-- The programs that write integer cursors and nothing else into the connections. -/
abbrev Moves {α : Type} (p : Service α) : Prop := p.Asks MovesCursor

theorem Aside.moves {α : Type} {p : Service α} (hp : Aside p) : Moves p :=
  Prog.Asks.mono hp (fun _ => LeavesConnections.movesCursor)

theorem moves_storeCursor (connection : GmailConnection) (n : ℤ) :
    Moves (storeCursor connection (toString n)) := by
  have hcommit : Moves (Prog.perform Op.commit) := Prog.Asks.perform trivial
  unfold storeCursor
  split
  · exact hcommit
  · exact Prog.Asks.bind (Prog.Asks.perform ⟨n, rfl⟩) (fun _ => hcommit)

theorem moves_syncConnection (pages : ℕ) (connection : GmailConnection) (user : User) (n : ℤ) :
    Moves (syncConnection env pages connection user (toString n)) := by
  have hstore : ∀ result : SyncResult,
      Moves ((storeCursor connection (toString n)).bind (fun _ => .ret result)) :=
    fun result => Prog.Asks.bind (moves_storeCursor connection n) (fun _ => Prog.Asks.ret)
  unfold syncConnection
  split
  · exact hstore _
  · refine Prog.Asks.bind Prog.Asks.ofExcept (fun refreshToken => ?_)
    refine Prog.Asks.bind (aside_refreshAccessToken refreshToken).moves (fun accessToken => ?_)
    refine Prog.Asks.bind (aside_listAddedFrom accessToken _ pages [] none).moves
      (fun messageIds => ?_)
    refine Prog.Asks.bind (aside_syncMessages user accessToken messageIds 0).moves
      (fun created => ?_)
    exact hstore _

/-- A task writes integer cursors and nothing else into the connections. -/
theorem moves_runHistorySync (pages : ℕ) (connectionId : UUID) (n : ℤ) :
    Moves (runHistorySync env pages connectionId (toString n)) := by
  refine Prog.Asks.bind (Prog.Asks.perform trivial) (fun rows => ?_)
  refine Prog.Asks.bind (asks_scalarOneOrNone rows) (fun found => ?_)
  match found with
  | none => exact Prog.Asks.ret
  | some connection =>
      refine Prog.Asks.bind (Prog.Asks.perform trivial) (fun users => ?_)
      match users with
      | [] => exact Prog.Asks.raise
      | user :: _ =>
          exact Prog.Asks.bind (moves_syncConnection pages connection user n)
            (fun _ => Prog.Asks.ret)

theorem aside_enqueueSyncs (h : String) (connections : List GmailConnection) :
    Aside (enqueueSyncs h connections) := by
  induction connections with
  | nil => exact Prog.Asks.ret
  | cons connection rest ih => exact Prog.Asks.step (by trivial) (fun _ => ih)

/-- Every call writes integer cursors and nothing else into the connections. -/
theorem moves_run (pages : ℕ) (call : CursorCall) (hother : ∀ p, call = .other p → Aside p) :
    Moves (call.run env pages) := by
  cases call with
  | push emailAddress n =>
      exact Prog.Asks.bind (Prog.Asks.perform trivial)
        (fun connections => (aside_enqueueSyncs _ connections).moves)
  | sync connectionId n => exact moves_runHistorySync pages connectionId n
  | other p => exact (hother p rfl).moves

end moves

/-! ## Rows that climb -/

section runs

variable {ι : Type} [DecidableEq ι] {env : Env}

/-- The connections as they stand: locks are exclusive, cursors are integers, and what is
staged over a committed cursor is not below it. -/
structure Climbing (s : Store ι GmailConnection UUID GmailConnection.id) : Prop where
  exclusive : s.Exclusive
  integer : s.All IntegerCursor
  rising : s.Rising NotAbove

/-- The committed rows have climbed from those of `T`. -/
def ClimbedFrom (T : Table GmailConnection UUID GmailConnection.id)
    (s : Store ι GmailConnection UUID GmailConnection.id) : Prop :=
  ∀ k u, T.get k = some u → ∃ v, s.committed.get k = some v ∧ NotAbove u v

variable {s : Store ι GmailConnection UUID GmailConnection.id}
  {T : Table GmailConnection UUID GmailConnection.id}

theorem Climbing.of_idle (hidle : s.pending = []) (hint : ∀ c ∈ s.committed.rows, IntegerCursor c) :
    Climbing s := by
  refine ⟨?_, Store.all_of_pending_nil hidle hint, Store.rising_of_pending_nil hidle⟩
  rw [Store.eq_ofTable hidle]
  exact Store.exclusive_ofTable _

theorem Climbing.climbedFrom (h : Climbing s) : ClimbedFrom s.committed s :=
  fun k u hu => ⟨u, hu, (h.integer.1 k u hu).notAbove_self⟩

theorem Climbing.commit (h : Climbing s) (i : ι) : Climbing (s.commit i) :=
  ⟨h.exclusive.commit i, h.integer.commit i, h.rising.commit h.exclusive i⟩

theorem Climbing.rollback (h : Climbing s) (i : ι) : Climbing (s.rollback i) :=
  ⟨h.exclusive.rollback i, h.integer.rollback i, h.rising.rollback i⟩

/-- A commit publishes cursors that are not below the committed ones. -/
theorem ClimbedFrom.commit (hfrom : ClimbedFrom T s) (h : Climbing s) (i : ι) :
    ClimbedFrom T (s.commit i) := by
  intro k u hu
  obtain ⟨v, hv, huv⟩ := hfrom k u hu
  obtain ⟨x, hx, hrel⟩ := h.rising.get_commit i hv
  rcases hrel with rfl | hvx
  · exact ⟨x, hx, huv⟩
  · exact ⟨x, hx, huv.trans hvx⟩

/-- Staging an integer over an unlocked row whose committed cursor is not above it. -/
theorem Climbing.stage (h : Climbing s) {i : ι} {c : GmailConnection} {n : ℤ} (now : Timestamp)
    (hlock : s.locked i c.id = false)
    (hle : ∀ u a, s.committed.get c.id = some u → u.lastHistoryId = some (toString a) → a ≤ n) :
    Climbing (s.stage i (.put { c with lastHistoryId := some (toString n), updatedAt := now })) := by
  refine ⟨h.exclusive.stage hlock, h.integer.put i ?_, h.rising.stage i ?_⟩
  · intro t ht
    exact ⟨n, (Option.some.inj ht).symm⟩
  · intro u hu t ht
    obtain ⟨a, rfl⟩ := h.integer.1 c.id u hu t ht
    exact ⟨a, n, rfl, rfl, hle u a hu ht⟩

/-! ## Runs -/

/-- A task that writes its id over a cursor, and does not wait for a lock, finds no
committed cursor above the id. -/
def CursorOk (i : ι) (o : Op) (w : World ι) : Prop :=
  ∀ id (n : ℤ), o = .sql (.updateConnection id (toString n)) →
    w.db.connections.locked i id = false →
    ∀ u a, w.db.connections.committed.get id = some u →
      u.lastHistoryId = some (toString a) → a ≤ n

/-- The connections climb, and have climbed from `T`. -/
def Ascending (T : Table GmailConnection UUID GmailConnection.id) (db : Db ι) : Prop :=
  Climbing db.connections ∧ ClimbedFrom T db.connections

/-- **One operation keeps the cursors climbing.** -/
theorem Ascending.exec {i : ι} {o : Op} {w w' : World ι} {r : Except PyExc o.Res}
    (h : Ascending T w.db) (hmoves : MovesCursor o) (hok : CursorOk i o w)
    (hx : exec env i o w = some (r, w')) : Ascending T w'.db := by
  refine exec_db (I := Ascending T) (fun db hdb => ?_) (fun db hdb => ?_) hx
    (fun st a db ho hs => ?_) h
  · exact ⟨hdb.1.commit i, hdb.2.commit hdb.1 i⟩
  · exact ⟨hdb.1.rollback i, hdb.2⟩
  · subst ho
    rcases Stmt.exec_connections hs with hsame | hwrite
    · show Climbing db.connections ∧ ClimbedFrom T db.connections
      rw [hsame]
      exact h
    · show Climbing db.connections ∧ ClimbedFrom T db.connections
      revert hwrite
      generalize db.connections = s'
      intro hwrite
      cases hwrite with
      | insert id userId googleEmail encrypted hlock hnew => exact hmoves.elim
      | renew id userId googleEmail encrypted c hkey hget hlock => exact hmoves.elim
      | delete id c hget hlock => exact hmoves.elim
      | update id t c hget hlock =>
          obtain ⟨n, rfl⟩ := hmoves
          have hid : c.id = id := Table.key_of_get hget
          subst hid
          exact ⟨h.1.stage _ hlock (hok c.id n rfl hlock), h.2⟩

/-- The calls and the state they start from. -/
def gmail (env : Env) (pages : ℕ) (calls : ι → CursorCall) (w : World ι) :
    Config ι Op.Res PyExc Unit (World ι) :=
  ⟨fun i => (calls i).run env pages, w⟩

/-- A configuration in which the cursors climb and every session only moves them. -/
def Moving (T : Table GmailConnection UUID GmailConnection.id)
    (c : Config ι Op.Res PyExc Unit (World ι)) : Prop :=
  Ascending T c.shared.db ∧ ∀ i, Moves (c.threads i)

/-- One action keeps the cursors climbing. -/
theorem Moving.act {c : Config ι Op.Res PyExc Unit (World ι)} {a : Machine.Action ι Empty}
    (hc : Moving T c) (hok : Machine.OpOk CursorOk True c a) : Moving T ((backend env).act c a) := by
  have hout : (backend env).Outline (fun w : World ι => Ascending T w.db)
      (fun _ (p : Service Unit) _ => Moves p)
      (fun i p w => ∀ o k, p = .call o k → CursorOk i o w) True :=
    { own := by
        intro i o k w r w' hinv hp hstep hx
        rw [Moves, Prog.Asks, Prog.respects_call] at hp
        exact ⟨hinv.exec hp.1 (hstep o k rfl) hx, hp.2 r trivial⟩
      others := fun _ _ _ _ hq _ => hq
      closed := fun hinv _ => ⟨hinv.1.rollback _, hinv.2⟩
      ret := fun _ hp => hp
      raise := fun _ hp => hp
      kill := fun _ _ _ => Prog.Asks.raise
      close_others := fun _ _ _ hq => hq
      event := fun {e _} _ => e.elim
      event_at := fun {e _ _ _} _ => e.elim }
  refine hout.act c a ?_ hc
  cases a with
  | step i => exact hok
  | kill i => trivial
  | event e => trivial

/-- **The stored cursor does not fall** in a run in which every task writes over a cursor
that is not above its own id. -/
theorem cursor_climbs {pages : ℕ} {calls : ι → CursorCall} {w : World ι}
    {as bs : List (Machine.Action ι Empty)} (hidle : w.db.connections.pending = [])
    (hint : ∀ c ∈ w.db.connections.committed.rows, IntegerCursor c)
    (hother : ∀ i p, calls i = .other p → Aside p)
    (hsteps : (backend env).Along (Machine.OpOk CursorOk True) (gmail env pages calls w) (as ++ bs)) :
    ClimbedFrom ((backend env).run (gmail env pages calls w) as).shared.db.connections.committed
      ((backend env).run (gmail env pages calls w) (as ++ bs)).shared.db.connections := by
  have hstart : Climbing w.db.connections := Climbing.of_idle hidle hint
  have hkeep : ∀ {T : Table GmailConnection UUID GmailConnection.id} (c : Config ι Op.Res PyExc Unit
      (World ι)) (a : Machine.Action ι Empty), Machine.OpOk CursorOk True c a → Moving T c →
        Moving T ((backend env).act c a) := fun c a hok hc => hc.act hok
  obtain ⟨has, hbs⟩ := (Machine.along_append _ as bs).1 hsteps
  have hmiddle := Machine.invariant_run hkeep has
    ⟨⟨hstart, hstart.climbedFrom⟩, fun i => moves_run pages (calls i) (hother i)⟩
  rw [Machine.run_append]
  exact (Machine.invariant_run hkeep hbs
    ⟨⟨hmiddle.1.1, hmiddle.1.1.climbedFrom⟩, hmiddle.2⟩).1.2

/-- The condition on a step, tested for history ids among `ids`. -/
def cursorOk (ids : List ℤ) (_ : ι) (o : Op) (w : World ι) : Bool :=
  match o with
  | .sql (.updateConnection id h) =>
      (w.db.connections.committed.get id).all (fun u => u.lastHistoryId.all (fun t =>
        ids.any (fun a => t = toString a && ids.any (fun n => h = toString n && a ≤ n))))
  | _ => true

theorem CursorOk.of_test {ids : List ℤ} {i : ι} {o : Op} {w : World ι}
    (h : cursorOk ids i o w = true) : CursorOk i o w := by
  rintro id n rfl - u a hu ha
  simp only [cursorOk, hu, ha, Option.all_some, List.any_eq_true, Bool.and_eq_true,
    decide_eq_true_eq] at h
  obtain ⟨a', -, haa', n', -, hnn', hle⟩ := h
  have ha' : a = a' := toString_int_injective haa'
  have hn' : n = n' := toString_int_injective hnn'
  omega

end runs

/-! ## Two pushes -/

/-- A mailbox whose cursor stands at 100. -/
def mailboxWorld : World (Fin 4) :=
  World.ofDb { Db.ofUsers [⟨1, "0123456789abcdef0123456789abcdef"⟩] with
    connections := Store.ofTable
      ⟨[⟨5, 1, "alice@gmail.com", sampleCiphertext, some "100", 0, 0⟩], by decide⟩ }

/-- Two pushes and the tasks they start, which run in the order of the pushes. -/
def pushes (first second : ℤ) : Fin 4 → CursorCall
  | 0 => .push "alice@gmail.com" first
  | 1 => .push "alice@gmail.com" second
  | 2 => .sync 5 first
  | 3 => .sync 5 second

/-- Both pushes and the first task. -/
def firstHalf : List (Machine.Action (Fin 4) Empty) :=
  List.replicate 3 (.step 0) ++ List.replicate 3 (.step 1) ++ List.replicate 7 (.step 2)

/-- The second task. -/
def secondHalf : List (Machine.Action (Fin 4) Empty) := List.replicate 7 (.step 3)

-- the tasks that run are those the pushes have put into the queue
example : ((backend sampleServer).run (gmail sampleServer 10 (pushes 300 200) mailboxWorld)
    firstHalf).shared.queue = [.gmailHistorySync 5 "300", .gmailHistorySync 5 "200"] := by
  decide +kernel

/-- Pushes that come in order. -/
theorem cursor_climbs_sample :
    ClimbedFrom ((backend sampleServer).run (gmail sampleServer 10 (pushes 200 300) mailboxWorld)
        firstHalf).shared.db.connections.committed
      ((backend sampleServer).run (gmail sampleServer 10 (pushes 200 300) mailboxWorld)
        (firstHalf ++ secondHalf)).shared.db.connections := by
  have hpasses : (backend sampleServer).passes (cursorOk [100, 200, 300])
      (gmail sampleServer 10 (pushes 200 300) mailboxWorld) (firstHalf ++ secondHalf) = true := by
    decide +kernel
  refine cursor_climbs rfl (fun c hc => ?_) (fun i p h => ?_)
    (Machine.along_of_passes (fun _ _ _ => CursorOk.of_test) hpasses)
  · rw [List.mem_singleton.1 hc]
    intro h hh
    exact ⟨100, (Option.some.inj hh).symm⟩
  · match i with
    | 0 | 1 | 2 | 3 => cases h

/-- **A delayed push takes the cursor back**: its task stores 200 over 300. -/
theorem not_cursor_climbs :
    ¬ClimbedFrom ((backend sampleServer).run (gmail sampleServer 10 (pushes 300 200) mailboxWorld)
        firstHalf).shared.db.connections.committed
      ((backend sampleServer).run (gmail sampleServer 10 (pushes 300 200) mailboxWorld)
        (firstHalf ++ secondHalf)).shared.db.connections := by
  intro h
  have hbefore : (((backend sampleServer).run (gmail sampleServer 10 (pushes 300 200) mailboxWorld)
      firstHalf).shared.db.connections.committed.get 5).map GmailConnection.lastHistoryId =
        some (some (toString (300 : ℤ))) := by
    decide +kernel
  have hafter : (((backend sampleServer).run (gmail sampleServer 10 (pushes 300 200) mailboxWorld)
      (firstHalf ++ secondHalf)).shared.db.connections.committed.get 5).map
        GmailConnection.lastHistoryId = some (some (toString (200 : ℤ))) := by
    decide +kernel
  obtain ⟨u, hu, hu'⟩ := Option.map_eq_some_iff.1 hbefore
  obtain ⟨v, hv, hnot⟩ := h 5 u hu
  rw [hv, Option.map_some, Option.some.injEq] at hafter
  obtain ⟨a, b, ha, hb, hab⟩ := hnot _ hu'
  rw [hafter, Option.some.injEq] at hb
  have ha' : 300 = a := toString_int_injective ha
  have hb' : 200 = b := toString_int_injective hb
  omega

end GmailCursor

end SpendLens
