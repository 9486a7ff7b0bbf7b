/-
# The Gmail path refines the webhook path

What the sync hands to `processInboundEmail` is a delivery like any other.  Its address is
made up, so that the search of the recipient finds the token of the connection's user in
it; its attachments were base64url and are standard base64, so that the strict decoder
finds the bytes Gmail served.  `messagePayload_delivers` follows one message through the
three encodings; `receipts_land_under_user` holds whatever the messages say.
-/
import SpendLens.GmailSync
import SpendLens.GmailCallback
import SpendLens.ConcurrentDelivery

namespace SpendLens

open Fallible

/-! ## Encodings -/

/-- base64url, with its padding. -/
def urlsafeEncode (bytes : List UInt8) : String :=
  String.ofList ((Base64.encode bytes).map ExpenseCursor.toUrlsafe)

/-- base64url, without padding. -/
def urlsafeEncodeUnpadded (bytes : List UInt8) : String :=
  String.ofList ((Base64.stripPadding (Base64.encode bytes)).map ExpenseCursor.toUrlsafe)

/-- A text in base64url whose restored padding makes it an encoding is decoded. -/
theorem urlsafeB64decode_map {cs : List Char} {bytes : List UInt8}
    (h : cs ++ Base64.padding cs.length = Base64.encode bytes) :
    urlsafeB64decode (String.ofList (cs.map ExpenseCursor.toUrlsafe)) = some bytes := by
  have hmem : ∀ c ∈ cs, c ∈ '=' :: Base64.alphabet := by
    intro c hc
    have hencoded : c ∈ Base64.encode bytes := by
      rw [← h]
      exact List.mem_append_left _ hc
    exact Base64.mem_alphabet_of_mem_encode hencoded
  have hascii : (cs.map ExpenseCursor.toUrlsafe ++ Base64.padding cs.length).all
      (fun c => decide (c.toNat < 128)) = true := by
    rw [List.all_eq_true]
    intro c hc
    rw [decide_eq_true_eq]
    rcases List.mem_append.1 hc with hc | hc
    · obtain ⟨d, hd, rfl⟩ := List.mem_map.1 hc
      exact ExpenseCursor.toUrlsafe_ascii (hmem d hd)
    · rw [List.eq_of_mem_replicate hc]
      decide
  rw [urlsafeB64decode]
  simp only [String.toList_ofList, List.length_map, hascii, if_true, List.map_append,
    ExpenseCursor.map_ofUrlsafe_toUrlsafe hmem, ExpenseCursor.map_ofUrlsafe_padding, h,
    Base64.decode_encode]
  rfl

theorem urlsafeB64decode_urlsafeEncode (bytes : List UInt8) :
    urlsafeB64decode (urlsafeEncode bytes) = some bytes := by
  apply urlsafeB64decode_map
  rw [Base64.padding_length_encode, List.append_nil]

theorem urlsafeB64decode_urlsafeEncodeUnpadded (bytes : List UInt8) :
    urlsafeB64decode (urlsafeEncodeUnpadded bytes) = some bytes :=
  urlsafeB64decode_map (Base64.restore_padding bytes)

/-- **The strict decoder of the webhook path** gives back what the sync encodes. -/
theorem b64decodeStrict_encode (bytes : List UInt8) :
    b64decodeStrict (String.ofList (Base64.encode bytes)) = .ok bytes := by
  have hascii : (Base64.encode bytes).all (fun c => decide (c.toNat < 128)) = true := by
    have key : ∀ c ∈ '=' :: Base64.alphabet, c.toNat < 128 := forall_mem_of_all (by decide)
    rw [List.all_eq_true]
    intro c hc
    rw [decide_eq_true_eq]
    exact key c (Base64.mem_alphabet_of_mem_encode hc)
  rw [b64decodeStrict, String.toList_ofList, if_pos hascii, Base64.decode_encode]
  rfl

/-- The bytes are not empty, so neither is their text. -/
theorem urlsafe_ne_empty {bytes : List UInt8} (h : bytes ≠ []) :
    urlsafeEncode bytes ≠ "" ∧ urlsafeEncodeUnpadded bytes ≠ "" := by
  have hempty : urlsafeB64decode "" = some [] := by decide
  constructor
  · intro heq
    have := urlsafeB64decode_urlsafeEncode bytes
    rw [heq, hempty, Option.some.injEq] at this
    exact h this.symm
  · intro heq
    have := urlsafeB64decode_urlsafeEncodeUnpadded bytes
    rw [heq, hempty, Option.some.injEq] at this
    exact h this.symm

/-! ## The address -/

/-- The token mail finds the user by: 32 hex digits, and nobody else's. -/
structure OwnToken (users : List User) (user : User) : Prop where
  length : user.inboxToken.toList.length = 32
  hex : ∀ c ∈ user.inboxToken.toList, c.isDigit = true ∨ 'a' ≤ c ∧ c ≤ 'f'
  unique : users.filter (fun u => u.inboxToken = user.inboxToken) = [user]

/-- A hex digit is ASCII, in lower case, and one of the pattern. -/
theorem hex_facts {c : Char} (h : c.isDigit = true ∨ 'a' ≤ c ∧ c ≤ 'f') :
    (c.toNat < 128 ∧ c.toLower = c) ∧ isHexIgnoringCase c = true := by
  have hlt : c.toNat < 128 := by
    rcases h with h | h
    · exact Unicode.toNat_lt_of_isDigit h
    · have h₁ : c.toNat ≤ 'f'.toNat := h.2
      have h₂ : 'f'.toNat = 102 := rfl
      omega
  have key := Unicode.forall_ascii (P := fun c => (c.isDigit = true ∨ 'a' ≤ c ∧ c ≤ 'f') →
    c.toLower = c ∧ isHexIgnoringCase c = true) (by decide) c hlt h
  exact ⟨⟨hlt, key.1⟩, key.2⟩

/-- The pattern matches its own text. -/
theorem tokenAt_receipts {token : List Char} (rest : List Char) (hlen : token.length = 32)
    (hhex : ∀ c ∈ token, isHexIgnoringCase c = true) :
    tokenAt ("receipts+".toList ++ (token ++ '@' :: rest)) = some (String.ofList token) := by
  have hhead : ("receipts+".toList ++ (token ++ '@' :: rest)).take 9 = "receipts+".toList :=
    List.take_left' rfl
  have hdrop : ("receipts+".toList ++ (token ++ '@' :: rest)).drop 9 = token ++ '@' :: rest :=
    List.drop_left' rfl
  have htoken : (token ++ '@' :: rest).take 32 = token := List.take_left' hlen
  have hat : ("receipts+".toList ++ (token ++ '@' :: rest)).drop 41 = '@' :: rest := by
    rw [show 41 = 9 + 32 from rfl, ← List.drop_drop, hdrop, List.drop_left' hlen]
  have hword : ("receipts+".toList.zip "receipts+".toList).all
      (fun p => matchesIgnoringCase p.1 p.2) = true := by decide
  have hlength : "receipts+".toList.length = 9 := rfl
  rw [tokenAt]
  simp only [hhead, hdrop, htoken, hat, hword, hlength, hlen, List.all_eq_true.2 hhex, List.head?_cons,
    decide_true, Bool.and_self, if_true]

/-- **The synthesised address names its user**, whatever the domain. -/
theorem resolvedUser_inboxAddress (U : Unicode) {users : List User} {user : User}
    (h : OwnToken users user) (domain : String) :
    resolvedUser U users (inboxAddress user.inboxToken domain) = some user := by
  have hlower : ∀ c ∈ "receipts+".toList ++ user.inboxToken.toList,
      c.toNat < 128 ∧ c.toLower = c := by
    have hword : ∀ c ∈ "receipts+".toList, c.toNat < 128 ∧ c.toLower = c :=
      forall_mem_of_all (by decide)
    intro c hc
    rcases List.mem_append.1 hc with hc | hc
    · exact hword c hc
    · exact (hex_facts (h.hex c hc)).1
  -- the text in front of the domain survives `lower`
  have hat : ∃ rest, (U.lower (inboxAddress user.inboxToken domain)).toList =
      "receipts+".toList ++ (user.inboxToken.toList ++ '@' :: rest) := by
    have hchars : (inboxAddress user.inboxToken domain).toList =
        ("receipts+".toList ++ user.inboxToken.toList) ++ '@' :: domain.toList := by
      simp [inboxAddress]
    rw [Unicode.lower, String.toList_ofList, hchars, U.lowerFrom_append_of_ascii hlower]
    refine ⟨U.lowerFrom ('@' :: (("receipts+".toList ++ user.inboxToken.toList).reverse ++ []))
      domain.toList, ?_⟩
    rw [List.append_assoc, Unicode.lowerFrom, if_neg (by decide), U.lowerChar_ascii '@' (by decide)]
    rfl
  obtain ⟨rest, hrest⟩ := hat
  have htoken := tokenAt_receipts rest h.length (fun c hc => (hex_facts (h.hex c hc)).2)
  have hsearch : searchToken (U.lower (inboxAddress user.inboxToken domain)).toList =
      some user.inboxToken := by
    rw [hrest]
    have hcons : "receipts+".toList ++ (user.inboxToken.toList ++ '@' :: rest) =
        'r' :: ("eceipts+".toList ++ (user.inboxToken.toList ++ '@' :: rest)) := rfl
    rw [hcons] at htoken ⊢
    rw [searchToken, htoken, String.ofList_toList]
  rw [resolvedUser, hsearch, Option.bind_some, h.unique]

/-! ## What Gmail serves -/

/-- An answer of the attachments endpoint that carries the bytes. -/
def CarriesBytes (resp : Response) (bytes : List UInt8) : Prop :=
  resp.statusCode = 200 ∧ ∃ body data, resp.json = .ok (.obj body) ∧
    (Json.obj body).get? "data" = some (.str data) ∧
    (data = urlsafeEncode bytes ∨ data = urlsafeEncodeUnpadded bytes)

/-- From operation `n` on the attachments are served, each with bytes of its own. -/
def Serves (env : Env) (accessToken messageId : String) :
    ℕ → List Descriptor → List (List UInt8) → Prop
  | _, [], [] => True
  | n, d :: ds, bytes :: bodies =>
      (bytes ≠ [] ∧ ∃ resp, env.external n (attachmentRequest accessToken messageId d.attachmentId) =
        .ok resp ∧ CarriesBytes resp bytes) ∧ Serves env accessToken messageId (n + 1) ds bodies
  | _, _, _ => False

/-- A message with attachments whose descriptors and headers the schema of a delivery
takes. -/
structure Admissible (env : Env) (message : Json) (messageId : String)
    (descriptors : List Descriptor) : Prop where
  id : message.get? "id" = some (.str messageId)
  found : extractAttachmentDescriptors env message = .ok descriptors
  nonempty : descriptors ≠ []
  messageId_length : 1 ≤ messageId.length ∧ messageId.length ≤ 255
  sender_length : 3 ≤ (senderOf env message).length ∧ (senderOf env message).length ≤ 320
  subject_length : (header env message "Subject").length ≤ 998
  filename_length : ∀ d ∈ descriptors, d.filename.length ≤ 255
  attachments_length : descriptors.length ≤ maxInboundAttachments

/-- The attachments of a message with the bodies served for them. -/
def fetchedOf (descriptors : List Descriptor) (bodies : List (List UInt8)) :
    List FetchedAttachment :=
  List.zipWith (fun d bytes => ⟨d.filename, d.mime, bytes⟩) descriptors bodies

theorem readAttachment_carried {resp : Response} {bytes : List UInt8} (hne : bytes ≠ [])
    (h : CarriesBytes resp bytes) (messageId attachmentId : String) :
    readAttachment messageId attachmentId resp = .ok bytes := by
  obtain ⟨hstatus, body, data, hjson, hdata, hbytes⟩ := h
  have hdecode : data ≠ "" ∧ urlsafeB64decode data = some bytes := by
    rcases hbytes with rfl | rfl
    · exact ⟨(urlsafe_ne_empty hne).1, urlsafeB64decode_urlsafeEncode bytes⟩
    · exact ⟨(urlsafe_ne_empty hne).2, urlsafeB64decode_urlsafeEncodeUnpadded bytes⟩
  have hjsonGet : jsonGet "data" (.obj body) = .ok (some (.str data)) := congrArg _ hdata
  unfold readAttachment
  rw [if_neg (not_not.2 hstatus)]
  refine bind_eq_ok.2 ⟨_, hjson, bind_eq_ok.2 ⟨_, hjsonGet, ?_⟩⟩
  simp only [hdecode.1, if_false, hdecode.2]
  rfl

section

variable {env : Env} {w : World Unit} {accessToken messageId : String}

theorem run_ext {α : Type} {x : Ext} {a : x.Res} (f : x.Res → Service α)
    (h : env.external w.calls x = .ok a) :
    Prog.run (alone env) ((Prog.perform (Op.ext x)).bind f) w =
      Prog.run (alone env) (f a) w.tick :=
  Prog.run_perform_ok (alone env) (by rw [alone_ext, h])

/-- **The attachments that are served are fetched**, in order, and nothing is touched. -/
theorem run_fetchAttachments {descriptors : List Descriptor} {bodies : List (List UInt8)}
    (h : Serves env accessToken messageId w.calls descriptors bodies) :
    ∃ w', Prog.run (alone env) (fetchAttachments accessToken messageId descriptors) w =
        (.ok (fetchedOf descriptors bodies), w') ∧ SameDb w w' := by
  induction descriptors generalizing bodies w with
  | nil =>
      cases bodies with
      | nil => exact ⟨w, rfl, rfl, rfl⟩
      | cons bytes bodies => exact h.elim
  | cons d ds ih =>
      cases bodies with
      | nil => exact h.elim
      | cons bytes bodies =>
          obtain ⟨⟨hne, resp, hresp, hcarries⟩, hrest⟩ := h
          obtain ⟨w', hrun, hsame⟩ := ih (w := w.tick) hrest
          refine ⟨w', ?_, hsame⟩
          rw [fetchAttachments, getAttachmentBytes, Prog.bind_assoc, run_ext _ hresp,
            readAttachment_carried hne hcarries, Prog.ofExcept_ok, Prog.bind_ret,
            Prog.run_bind_ok _ hrun]
          rfl

end

/-! ## The payload of a message -/

/-- A part that is worth fetching has a type the webhook path takes, and a file name. -/
theorem descriptorOf_eq_some {part : Json} {d : Descriptor} (h : descriptorOf part = some d) :
    d.mime ∈ syncedMimes ∧ d.filename ≠ "" := by
  unfold descriptorOf at h
  split at h
  · split at h
    · split at h
      · rename_i hcond
        cases h
        exact ⟨hcond.1, hcond.2.1⟩
      · cases h
    · cases h
  · cases h

theorem mem_extractAttachmentDescriptors {env : Env} {message : Json}
    {descriptors : List Descriptor} (h : extractAttachmentDescriptors env message = .ok descriptors)
    {d : Descriptor} (hd : d ∈ descriptors) : d.mime ∈ syncedMimes ∧ d.filename ≠ "" := by
  unfold extractAttachmentDescriptors at h
  split at h
  · rename_i payload _
    cases hparts : walkParts env.jsonDepth (.obj payload) with
    | error e =>
        rw [hparts] at h
        cases h
    | ok parts =>
        rw [hparts] at h
        cases h
        obtain ⟨part, -, hpart⟩ := List.mem_filterMap.1 hd
        exact descriptorOf_eq_some hpart
  · cases h
    cases hd

/-- What an attachment of a delivery says: its type and, strictly decoded, its bytes. -/
def attachmentContent (a : InboundAttachment) : String × Except PyExc (List UInt8) :=
  (a.contentType, b64decodeStrict a.contentBase64)

theorem toInbound_eq_ok {a : FetchedAttachment} (hfile : 1 ≤ a.filename.length ∧ a.filename.length ≤ 255)
    (htype : 1 ≤ a.contentType.length ∧ a.contentType.length ≤ 128) :
    ∃ b, a.toInbound = .ok b ∧ attachmentContent b = (a.contentType, .ok a.data) := by
  refine ⟨⟨a.filename, a.contentType, String.ofList (Base64.encode a.data), hfile, htype⟩, ?_, ?_⟩
  · rw [FetchedAttachment.toInbound, InboundAttachment.validate, dif_pos hfile, dif_pos htype]
  · rw [attachmentContent, b64decodeStrict_encode]

/-- The attachments fetched are those described, with the bodies served. -/
theorem fetchedOf_served {env : Env} {accessToken messageId : String} {n : ℕ}
    {descriptors : List Descriptor} {bodies : List (List UInt8)}
    (h : Serves env accessToken messageId n descriptors bodies) :
    (fetchedOf descriptors bodies).map (fun a => (a.filename, a.contentType)) =
        descriptors.map (fun d => (d.filename, d.mime)) ∧
      (fetchedOf descriptors bodies).map FetchedAttachment.data = bodies := by
  induction descriptors generalizing bodies n with
  | nil =>
      cases bodies with
      | nil => exact ⟨rfl, rfl⟩
      | cons bytes bodies => exact h.elim
  | cons d ds ih =>
      cases bodies with
      | nil => exact h.elim
      | cons bytes bodies =>
          obtain ⟨hnames, hdata⟩ := ih h.2
          rw [fetchedOf, List.zipWith_cons_cons, ← fetchedOf, List.map_cons, List.map_cons,
            List.map_cons, hnames, hdata]
          exact ⟨rfl, rfl⟩

section

variable {env : Env} {w : World Unit} {accessToken messageId : String} {message : Json}
  {descriptors : List Descriptor} {bodies : List (List UInt8)}

/-- An attachment of an admissible message passes its own validation. -/
theorem fetched_lengths (h : Admissible env message messageId descriptors) {n : ℕ}
    {requested : String} (hserves : Serves env accessToken requested n descriptors bodies)
    {a : FetchedAttachment} (ha : a ∈ fetchedOf descriptors bodies) :
    (1 ≤ a.filename.length ∧ a.filename.length ≤ 255) ∧
      1 ≤ a.contentType.length ∧ a.contentType.length ≤ 128 := by
  have hmem : (a.filename, a.contentType) ∈ descriptors.map (fun d => (d.filename, d.mime)) := by
    rw [← (fetchedOf_served hserves).1]
    exact List.mem_map_of_mem ha
  obtain ⟨d, hd, heq⟩ := List.mem_map.1 hmem
  obtain ⟨hfile, htype⟩ := Prod.mk.inj heq
  obtain ⟨hmime, hname⟩ := mem_extractAttachmentDescriptors h.found hd
  have hmimes : ∀ m ∈ syncedMimes, 1 ≤ m.length ∧ m.length ≤ 128 := forall_mem_of_all (by decide)
  rw [← hfile, ← htype]
  refine ⟨⟨?_, h.filename_length d hd⟩, hmimes d.mime hmime⟩
  rw [Nat.one_le_iff_ne_zero]
  exact fun hzero => hname (String.length_eq_zero_iff.1 hzero)

/-- **The payload of an admissible message.** -/
theorem buildInboundEmail_ok (h : Admissible env message messageId descriptors) {n : ℕ}
    {requested : String} (hserves : Serves env accessToken requested n descriptors bodies)
    {token domain : String} (hto : (inboxAddress token domain).length ≤ 320) :
    ∃ payload, buildInboundEmail env message (fetchedOf descriptors bodies) token domain =
        .ok payload ∧
      payload.toAddress = inboxAddress token domain ∧ payload.messageId = messageId ∧
      payload.attachments.map InboundAttachment.contentType = descriptors.map Descriptor.mime ∧
      payload.attachments.map (fun a => b64decodeStrict a.contentBase64) = bodies.map .ok := by
  obtain ⟨attachments, hmap, hall⟩ := mapM_ok (f := FetchedAttachment.toInbound)
    (P := fun a b => attachmentContent b = (a.contentType, .ok a.data))
    (l := fetchedOf descriptors bodies) (fun a ha =>
      toInbound_eq_ok (fetched_lengths h hserves ha).1 (fetched_lengths h hserves ha).2)
  obtain ⟨hnames, hdata⟩ := fetchedOf_served hserves
  have hcount : attachments.length ≤ maxInboundAttachments := by
    have hlen := congrArg List.length hnames
    rw [List.length_map, List.length_map] at hlen
    rw [← hall.length_eq, hlen]
    exact h.attachments_length
  have hthree : 3 ≤ (inboxAddress token domain).length := by
    have hnine : "receipts+".length = 9 := rfl
    rw [inboxAddress, String.length_append, String.length_append, String.length_append, hnine]
    omega
  have hne : messageId ≠ "" := by
    rintro rfl
    exact absurd h.messageId_length.1 (by decide)
  refine ⟨⟨messageId, inboxAddress token domain, senderOf env message, header env message "Subject",
    "", attachments, h.messageId_length, ⟨hthree, hto⟩, h.sender_length, h.subject_length,
    by decide, hcount⟩, ?_, rfl, rfl, ?_, ?_⟩
  · rw [buildInboundEmail, h.id]
    simp only [hne, if_false]
    refine bind_eq_ok.2 ⟨attachments, hmap, ?_⟩
    rw [InboundEmail.validate, dif_pos h.messageId_length, dif_pos ⟨hthree, hto⟩,
      dif_pos h.sender_length, dif_pos h.subject_length, dif_pos (by decide), dif_pos hcount]
  · have htypes : attachments.map InboundAttachment.contentType =
        (fetchedOf descriptors bodies).map FetchedAttachment.contentType :=
      map_eq_of_forall₂ hall (fun a b hab => (Prod.mk.inj hab).1)
    have hmimes := congrArg (List.map Prod.snd) hnames
    rw [List.map_map, List.map_map] at hmimes
    exact htypes.trans hmimes
  · have hbytes : attachments.map (fun a => b64decodeStrict a.contentBase64) =
        (fetchedOf descriptors bodies).map (fun a => .ok a.data) :=
      map_eq_of_forall₂ hall (fun a b hab => (Prod.mk.inj hab).2)
    have hcarried := congrArg (List.map (Except.ok (ε := PyExc))) hdata
    rw [List.map_map] at hcarried
    exact hbytes.trans hcarried

/-- The message itself, served as a JSON object. -/
theorem run_getMessage {resp : Response} {kvs : List (String × Json)}
    (hresp : env.external w.calls (messageRequest accessToken messageId) = .ok resp)
    (hstatus : resp.statusCode = 200) (hjson : resp.json = .ok (.obj kvs)) :
    Prog.run (alone env) (getMessage accessToken messageId) w = (.ok (.obj kvs), w.tick) := by
  have hbody : (do
      let body ← resp.json
      return Json.obj (← dictOf body) : Except PyExc Json) = .ok (.obj kvs) :=
    bind_eq_ok.2 ⟨_, hjson, rfl⟩
  rw [getMessage, run_ext _ hresp, if_neg (not_not.2 hstatus), hbody]
  rfl

/-- The world answers for a message: the message itself, and then its attachments. -/
def ServesMessage (env : Env) (n : ℕ) (accessToken requested : String) (message : Json)
    (descriptors : List Descriptor) (bodies : List (List UInt8)) : Prop :=
  (∃ resp kvs, env.external n (messageRequest accessToken requested) = .ok resp ∧
    resp.statusCode = 200 ∧ resp.json = .ok (.obj kvs) ∧ message = .obj kvs) ∧
  Serves env accessToken requested (n + 1) descriptors bodies

/-- What a payload owes to its message and to the user it is for. -/
structure PayloadFor (env : Env) (users : List User) (user : User) (messageId : String)
    (descriptors : List Descriptor) (bodies : List (List UInt8)) (payload : InboundEmail) :
    Prop where
  resolves : resolvedUser env.unicode users payload.toAddress = some user
  messageId : payload.messageId = messageId
  types : payload.attachments.map InboundAttachment.contentType = descriptors.map Descriptor.mime
  bytes : payload.attachments.map (fun a => b64decodeStrict a.contentBase64) = bodies.map .ok

/-- **The payload the sync makes** of an admissible message that is served. -/
theorem messagePayload_delivers {user : User} {users : List User} {requested : String}
    (htoken : OwnToken users user)
    (hto : (inboxAddress user.inboxToken env.settings.inboxEmailDomain).length ≤ 320)
    (hserves : ServesMessage env w.calls accessToken requested message descriptors bodies)
    (h : Admissible env message messageId descriptors) :
    ∃ payload w', Prog.run (alone env) (messagePayload env user accessToken requested) w =
        (.ok (some payload), w') ∧ SameDb w w' ∧
      PayloadFor env users user messageId descriptors bodies payload := by
  obtain ⟨⟨resp, kvs, hresp, hstatus, hjson, rfl⟩, hattachments⟩ := hserves
  obtain ⟨w', hfetch, hsame⟩ := run_fetchAttachments (w := w.tick) hattachments
  obtain ⟨payload, hbuild, haddress, hid, htypes, hbytes⟩ :=
    buildInboundEmail_ok h hattachments hto
  refine ⟨payload, w', ?_, hsame, ?_, hid, htypes, hbytes⟩
  · rw [messagePayload, Prog.run_bind_ok _ (run_getMessage hresp hstatus hjson), h.found,
      Prog.ofExcept_ok, Prog.bind_ret, if_neg h.nonempty, Prog.run_bind_ok _ hfetch, hbuild]
    rfl
  · rw [haddress]
    exact resolvedUser_inboxAddress env.unicode htoken _

end

/-! ## The call of the webhook path -/

/-- The loop over the messages, cut in two. -/
theorem syncMessages_append (env : Env) (user : User) (accessToken : String) (created : ℕ)
    (before after : List String) :
    syncMessages env user accessToken created (before ++ after) =
      (syncMessages env user accessToken created before).bind
        (fun created => syncMessages env user accessToken created after) := by
  induction before generalizing created with
  | nil => rfl
  | cons messageId before ih =>
      rw [List.cons_append, syncMessages, syncMessages, Prog.bind_assoc]
      congr 1
      funext payload
      cases payload with
      | none => exact ih created
      | some payload =>
          show Prog.bind _ _ = Prog.bind (Prog.bind _ _) _
          rw [Prog.bind_assoc]
          congr 1
          funext result
          exact ih _

/-- A sync of the connection has come to a message: its access token is minted, the history
names the message after those in `before`, and these are done. -/
def ComesTo (env : Env) (pages : ℕ) (connection : GmailConnection) (user : User) (w : World Unit)
    (accessToken : String) (before : List String) (messageId : String) (after : List String)
    (created : ℕ) (w' : World Unit) : Prop :=
  ∃ lastHistoryId refreshToken w₁ w₂, connection.lastHistoryId = some lastHistoryId ∧
    decryptSecret env connection.encryptedRefreshToken = .ok refreshToken ∧
    Prog.run (alone env) (refreshAccessToken env refreshToken) w = (.ok accessToken, w₁) ∧
    Prog.run (alone env) (listAddedMessageIds pages accessToken lastHistoryId) w₁ =
      (.ok (before ++ messageId :: after), w₂) ∧
    Prog.run (alone env) (syncMessages env user accessToken 0 before) w₂ = (.ok created, w')

/-- What the sync still has to do when a delivery has come back. -/
def afterDelivery (env : Env) (connection : GmailConnection) (user : User)
    (accessToken pushHistoryId : String) (seen created : ℕ) (after : List String)
    (result : InboundEmailResult) : Service SyncResult :=
  (syncMessages env user accessToken
    (if result.deduped then created else created + result.receiptsCreated.length) after).bind
    fun created =>
  (storeCursor connection pushHistoryId).bind fun _ =>
  .ret ⟨seen, created, some pushHistoryId⟩

/-- A sync that has come to a message goes on with it. -/
theorem run_syncConnection_of_comesTo {env : Env} {pages : ℕ} {connection : GmailConnection}
    {user : User} {w w' v : World Unit} {accessToken requested pushHistoryId : String}
    {before after : List String} {created : ℕ} {payload : InboundEmail}
    (h : ComesTo env pages connection user w accessToken before requested after created w')
    (hpayload : Prog.run (alone env) (messagePayload env user accessToken requested) w' =
      (.ok (some payload), v)) :
    Prog.run (alone env) (syncConnection env pages connection user pushHistoryId) w =
      Prog.run (alone env) ((processInboundEmail env payload).bind
        (afterDelivery env connection user accessToken pushHistoryId
          (before ++ requested :: after).length created after)) v := by
  obtain ⟨lastHistoryId, refreshToken, w₁, w₂, hlast, hdecrypt, hrefresh, hlist, hbefore⟩ := h
  rw [syncConnection, hlast]
  simp only [hdecrypt, Prog.ofExcept_ok, Prog.bind_ret]
  rw [Prog.run_bind_ok _ hrefresh, Prog.run_bind_ok _ hlist, syncMessages_append,
    Prog.bind_assoc, Prog.run_bind_ok _ hbefore, syncMessages, Prog.bind_assoc,
    Prog.run_bind_ok _ hpayload]
  show Prog.run (alone env) (Prog.bind (Prog.bind _ _) _) v = _
  rw [Prog.bind_assoc]
  rfl

/-! ## Whose receipts they become -/

/-- Receipts are inserted under one user. -/
def LandsUnder (userId : UUID) : Op → Prop
  | .sql (.insertReceipt r) => r.userId = userId
  | _ => True

/-- A program that inserts receipts only under one user. -/
abbrev Landing {α : Type} (userId : UUID) (users : List User) (p : Service α)
    (post : α → Prop) : Prop :=
  p.Respects (LandsUnder userId) (UsersAre users) post (fun _ => True)

section landing

variable {α : Type} {env : Env} {userId : UUID} {users : List User} {post : α → Prop}

theorem landing_ofExcept {r : Except PyExc α} (h : ∀ a, r = .ok a → post a) :
    Landing userId users (Prog.ofExcept r) post :=
  Prog.Respects.ofExcept h (fun _ _ => trivial)

/-- An operation that inserts no receipt, in front of what it is needed for. -/
theorem Landing.step {o : Op} {f : o.Res → Service α} (h : LandsUnder userId o)
    (hf : ∀ a, Landing userId users (f a) post) :
    Landing userId users ((Prog.perform o).bind f) post :=
  Prog.Respects.bind (Prog.Respects.perform h (fun _ _ => trivial) (fun _ _ => trivial))
    (fun a (_ : True) => hf a)

theorem landing_refreshAccessToken (refreshToken : String) :
    Landing userId users (refreshAccessToken env refreshToken) (fun _ => True) := by
  unfold refreshAccessToken
  split
  · refine Landing.step trivial (fun resp => ?_)
    split
    · exact Prog.Respects.raise trivial
    · exact landing_ofExcept (fun _ _ => trivial)
  · exact Prog.Respects.raise trivial

theorem landing_listAddedFrom (accessToken startHistoryId : String) (pages : ℕ) :
    ∀ (seen : List String) (pageToken : Option String), Landing userId users
      (listAddedFrom accessToken startHistoryId pages seen pageToken) (fun _ => True) := by
  induction pages with
  | zero => exact fun _ _ => Prog.Respects.raise trivial
  | succ pages ih =>
      intro seen pageToken
      refine Landing.step trivial (fun resp => ?_)
      split
      · exact Prog.Respects.ret trivial
      · split
        · exact Prog.Respects.raise trivial
        · refine (landing_ofExcept (fun _ _ => trivial)).bind (fun page (_ : True) => ?_)
          split
          · exact Prog.Respects.ret trivial
          · exact ih _ _

theorem landing_fetchAttachments (accessToken messageId : String) (descriptors : List Descriptor) :
    Landing userId users (fetchAttachments accessToken messageId descriptors) (fun _ => True) := by
  induction descriptors with
  | nil => exact Prog.Respects.ret trivial
  | cons d ds ih =>
      have hbytes : Landing userId users
          (getAttachmentBytes accessToken messageId d.attachmentId) (fun _ => True) :=
        Landing.step trivial (fun resp => landing_ofExcept (fun _ _ => trivial))
      exact hbytes.bind (fun _ _ => ih.bind (fun _ _ => Prog.Respects.ret trivial))

/-- Whatever the message says, the address of its payload is the one made up for the user. -/
theorem toAddress_of_build {message : Json} {attachments : List FetchedAttachment}
    {token domain : String} {payload : InboundEmail}
    (h : buildInboundEmail env message attachments token domain = .ok payload) :
    payload.toAddress = inboxAddress token domain := by
  unfold buildInboundEmail at h
  split at h
  · split at h
    · cases h
    · obtain ⟨inbound, -, h⟩ := bind_eq_ok.1 h
      unfold InboundEmail.validate at h
      repeat' split at h
      all_goals first | (cases h; rfl) | cases h
  · cases h

theorem landing_messagePayload (user : User) (accessToken messageId : String) :
    Landing userId users (messagePayload env user accessToken messageId)
      (fun payload? => ∀ payload, payload? = some payload →
        payload.toAddress = inboxAddress user.inboxToken env.settings.inboxEmailDomain) := by
  have hmessage : Landing userId users (getMessage accessToken messageId) (fun _ => True) := by
    refine Landing.step trivial (fun resp => ?_)
    split
    · exact Prog.Respects.raise trivial
    · exact landing_ofExcept (fun _ _ => trivial)
  refine hmessage.bind (fun message _ => ?_)
  refine (landing_ofExcept (fun _ _ => trivial)).bind (fun descriptors (_ : True) => ?_)
  split
  · exact Prog.Respects.ret (fun payload h => by cases h)
  · refine (landing_fetchAttachments accessToken messageId descriptors).bind (fun fetched _ => ?_)
    refine (landing_ofExcept (fun payload h => h)).bind (fun payload hbuild => ?_)
    refine Prog.Respects.ret (fun p hp => ?_)
    cases hp
    exact toAddress_of_build hbuild

/-- A delivery inserts its receipts under the user its address names. -/
theorem landing_processInboundEmail {payload : InboundEmail} {user : User}
    (h : resolvedUser env.unicode users payload.toAddress = some user) :
    Landing user.id users (processInboundEmail env payload) (fun _ => True) := by
  refine (marking_processInboundEmail env payload h).mono (fun o ho => ?_) (fun _ h => h)
    (fun _ h => h)
  cases o with
  | sql s =>
      cases s with
      | insertReceipt r =>
          have hkey : r.messageKey = some (user.id, payload.messageId) := ho
          rw [Receipt.messageKey, Option.map_eq_some_iff] at hkey
          obtain ⟨m, -, hpair⟩ := hkey
          exact (Prod.mk.inj hpair).1
      | _ => trivial
  | _ => trivial

theorem landing_syncMessages {user : User} (htoken : OwnToken users user) (accessToken : String)
    (messageIds : List String) : ∀ created : ℕ,
      Landing user.id users (syncMessages env user accessToken created messageIds)
        (fun _ => True) := by
  induction messageIds with
  | nil => exact fun _ => Prog.Respects.ret trivial
  | cons messageId rest ih =>
      intro created
      refine (landing_messagePayload user accessToken messageId).bind (fun payload? hpayload => ?_)
      cases payload? with
      | none => exact ih created
      | some payload =>
          have hresolves : resolvedUser env.unicode users payload.toAddress = some user := by
            rw [hpayload payload rfl]
            exact resolvedUser_inboxAddress env.unicode htoken _
          exact (landing_processInboundEmail hresolves).bind (fun result _ => ih _)

theorem landing_storeCursor (connection : GmailConnection) (pushHistoryId : String) :
    Landing userId users (storeCursor connection pushHistoryId) (fun _ => True) := by
  have hcommit : Landing userId users (Prog.perform Op.commit) (fun _ => True) :=
    Prog.Respects.perform trivial (fun _ _ => trivial) (fun _ _ => trivial)
  unfold storeCursor
  split
  · exact hcommit
  · exact Landing.step trivial (fun _ => hcommit)

/-- **A sync inserts receipts under its user alone**, whatever Gmail answers. -/
theorem landing_syncConnection {user : User} (htoken : OwnToken users user) (pages : ℕ)
    (connection : GmailConnection) (pushHistoryId : String) :
    Landing user.id users (syncConnection env pages connection user pushHistoryId)
      (fun _ => True) := by
  unfold syncConnection
  split
  · exact (landing_storeCursor connection pushHistoryId).bind
      (fun _ _ => Prog.Respects.ret trivial)
  · refine (landing_ofExcept (fun _ _ => trivial)).bind (fun refreshToken (_ : True) => ?_)
    refine (landing_refreshAccessToken refreshToken).bind (fun accessToken _ => ?_)
    refine (landing_listAddedFrom accessToken _ pages [] none).bind (fun messageIds _ => ?_)
    refine (landing_syncMessages htoken accessToken messageIds 0).bind (fun created _ => ?_)
    exact (landing_storeCursor connection pushHistoryId).bind
      (fun _ _ => Prog.Respects.ret trivial)

end landing

/-- The receipt is the user's, or was its owner's before. -/
def PlacedUnder (before : List Receipt) (userId : UUID) (r : Receipt) : Prop :=
  r.userId = userId ∨ ∃ v ∈ before, v.id = r.id ∧ v.userId = r.userId

/-- Every receipt, stored or staged, is so placed. -/
def LandedUnder (before : List Receipt) (userId : UUID) (users : List User) (w : World Unit) :
    Prop :=
  w.db.users = users ∧ w.db.receipts.All (PlacedUnder before userId)

/-- One operation that inserts under the user only keeps the receipts where they are. -/
theorem landedUnder_alone (env : Env) {before : List Receipt} {userId : UUID} {users : List User}
    {o : Op} {w : World Unit} (ho : LandsUnder userId o)
    (h : LandedUnder before userId users w) :
    UsersAre users o (alone env o w).1 ∧ LandedUnder before userId users (alone env o w).2 := by
  have hexec : alone env o w = (exec env () o w).getD (.error .workerLost, w) := rfl
  rw [hexec]
  cases hr : exec env () o w with
  | none =>
      refine ⟨?_, h⟩
      cases o with
      | sql s => cases s <;> trivial
      | _ => trivial
  | some x =>
      obtain ⟨r, w'⟩ := x
      obtain ⟨husers, hall⟩ := h
      refine ⟨husers ▸ (exec_reads hr).2, (exec_users hr).trans husers, ?_⟩
      refine exec_db (I := fun db => db.receipts.All (PlacedUnder before userId))
        (fun db hdb => hdb.commit ()) (fun db hdb => hdb.rollback ()) hr ?_ hall
      intro s a db hs hdb
      subst hs
      rcases Stmt.exec_receipts hdb with hsame | hwrite
      · rw [hsame]
        exact hall
      · revert hwrite ho
        generalize db.receipts = st
        intro ho hwrite
        cases hwrite with
        | insert r hlock hnew hfree => exact hall.put () (Or.inl ho)
        | update id cols v v' hget hlock hstore =>
            refine hall.put () ?_
            -- the row keeps its identifier and its owner
            have howner : v'.userId = v.userId := (storeAll_receipt hstore).2.2
            show v'.userId = userId ∨ ∃ u ∈ before, u.id = v.id ∧ u.userId = v'.userId
            rw [howner]
            exact (hall.view hget : PlacedUnder before userId v)
        | delete id v hget hlock => exact hall.del () id

/-- **No receipt lands under another user.** -/
theorem receipts_land_under_user (env : Env) {w : World Unit} (hidle : w.db.receipts.pending = [])
    {user : User} (htoken : OwnToken w.db.users user) (pages : ℕ) (connection : GmailConnection)
    (pushHistoryId : String) {r : Receipt}
    (hr : r ∈ (Prog.run (alone env) (syncConnection env pages connection user pushHistoryId)
      w).2.db.receipts.committed.rows) :
    PlacedUnder w.db.receipts.committed.rows user.id r := by
  have hstart : LandedUnder w.db.receipts.committed.rows user.id w.db.users w := by
    refine ⟨rfl, fun k v hv => Or.inr ⟨v, Table.mem_of_get hv, rfl, rfl⟩, fun t k v hv => ?_⟩
    rw [Store.staged, Store.writes, hidle] at hv
    cases hv
  have hlanding : Landing user.id w.db.users
      (syncConnection env pages connection user pushHistoryId) (fun _ => True) :=
    landing_syncConnection htoken pages connection pushHistoryId
  have hend := hlanding.run (fun o s ho h => landedUnder_alone env ho h) hstart
  exact hend.2.1 r.id r (Table.get_of_mem hr)

/-- **The Gmail path refines the webhook path.**  A sync that has come to a message whose
descriptors and headers pass the schema, and whose attachments are served in base64url,
goes on with `processInboundEmail` on a payload that resolves to the connection's user and
carries the message's id, types and bytes.  Whatever the messages are, no receipt comes to
lie under another user. -/
theorem sync_refines_delivery (env : Env) (pages : ℕ) {connection : GmailConnection} {user : User}
    {w : World Unit} (huser : user.id = connection.userId) (htoken : OwnToken w.db.users user)
    (hto : (inboxAddress user.inboxToken env.settings.inboxEmailDomain).length ≤ 320)
    (hidle : w.db.receipts.pending = []) (pushHistoryId : String) :
    (∀ (accessToken requested : String) (before after : List String) (created : ℕ)
      (w' : World Unit) (message : Json) (messageId : String) (descriptors : List Descriptor)
      (bodies : List (List UInt8)),
      ComesTo env pages connection user w accessToken before requested after created w' →
      ServesMessage env w'.calls accessToken requested message descriptors bodies →
      Admissible env message messageId descriptors →
      ∃ payload v, PayloadFor env w.db.users user messageId descriptors bodies payload ∧
        SameDb w' v ∧
        Prog.run (alone env) (syncConnection env pages connection user pushHistoryId) w =
          Prog.run (alone env) ((processInboundEmail env payload).bind
            (afterDelivery env connection user accessToken pushHistoryId
              (before ++ requested :: after).length created after)) v) ∧
    ∀ r ∈ (Prog.run (alone env) (syncConnection env pages connection user pushHistoryId)
        w).2.db.receipts.committed.rows,
      PlacedUnder w.db.receipts.committed.rows connection.userId r := by
  constructor
  · intro accessToken requested before after created w' message messageId descriptors bodies
      hcomes hserves hadmissible
    obtain ⟨payload, v, hpayload, hsame, hcarries⟩ :=
      messagePayload_delivers htoken hto hserves hadmissible
    exact ⟨payload, v, hcarries, hsame, run_syncConnection_of_comesTo hcomes hpayload⟩
  · intro r hr
    rw [← huser]
    exact receipts_land_under_user env hidle htoken pages connection pushHistoryId hr

/-- Gmail, when one new message with a small JPEG has come. -/
def sampleMailbox : ℕ → (x : Ext) → Except PyExc x.Res
  | _, .httpPost _ _ _ => .ok ⟨200, "", .ok (.obj [("access_token", .str "ya29.a0")])⟩
  | 1, .httpGet _ _ _ => .ok ⟨200, "", .ok (.obj [("history", .arr [.obj [("messagesAdded",
      .arr [.obj [("message", .obj [("id", .str "18f0")])]])]])])⟩
  | 2, .httpGet _ _ _ => .ok ⟨200, "", .ok (.obj [("id", .str "18f0"), ("payload", .obj
      [("headers", .arr [.obj [("name", .str "from"),
          ("value", .str "receipts+fedcba9876543210fedcba9876543210@inbox.spendlens.local")]]),
        ("parts", .arr [.obj [("mimeType", .str "image/jpeg"), ("filename", .str "r.jpg"),
          ("body", .obj [("attachmentId", .str "ANGjdJ8")])]])])])⟩
  | _, .httpGet _ _ _ => .ok ⟨200, "", .ok (.obj [("data", .str "_9j_4A")])⟩
  | _, _ => .error .httpError

def syncServer : Env := { sampleServer with external := sampleMailbox }

/-- The first user of `connectWorld`. -/
def syncedUser : User := ⟨1, "0123456789abcdef0123456789abcdef"⟩

/-- A connection of that user, with a cursor. -/
def syncedConnection : GmailConnection :=
  ⟨5, 1, "alice@gmail.com", sampleCiphertext, some "100", 0, 0⟩

theorem sync_refines_delivery_sample :
    ∃ payload v, PayloadFor syncServer connectWorld.db.users syncedUser "18f0"
        [⟨"r.jpg", "image/jpeg", "ANGjdJ8"⟩] [[0xff, 0xd8, 0xff, 0xe0]] payload ∧
      Prog.run (alone syncServer) (syncConnection syncServer 10 syncedConnection syncedUser "200")
          connectWorld =
        Prog.run (alone syncServer) ((processInboundEmail syncServer payload).bind
          (afterDelivery syncServer syncedConnection syncedUser "ya29.a0" "200" 1 0 [])) v := by
  have huser : syncedUser.id = syncedConnection.userId := rfl
  have htoken : OwnToken connectWorld.db.users syncedUser :=
    ⟨rfl, forall_mem_of_all (by decide), by decide⟩
  obtain ⟨payload, v, hcarries, -, hrun⟩ :=
    (sync_refines_delivery syncServer 10 huser htoken (by decide) rfl "200").1
      "ya29.a0" "18f0" [] [] 0 _ _ "18f0" [⟨"r.jpg", "image/jpeg", "ANGjdJ8"⟩]
      [[0xff, 0xd8, 0xff, 0xe0]]
      ⟨"100", "1//refresh", _, _, rfl, by decide, rfl, rfl, rfl⟩
      ⟨⟨_, _, rfl, rfl, rfl, rfl⟩, ⟨by decide, _, rfl, rfl, _, _, rfl, rfl, Or.inr (by decide)⟩,
        trivial⟩
      ⟨rfl, rfl, by decide, by decide, by decide, by decide, by decide, by decide⟩
  exact ⟨payload, v, hcarries, hrun⟩

end SpendLens
