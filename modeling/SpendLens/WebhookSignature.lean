/-
# Webhook signatures

`verify_webhook_signature` reads a time and a signature off the header, compares the time
with the clock, and the signature with that of the time and the body.  What it accepts is
signed with its own time and body; what it does not accept it refuses as such, unless the
header has the form and its time is out of proportion.
-/
import SpendLens.Clock
import SpendLens.Numerals
import SpendLens.GmailCallback

namespace SpendLens

/-- `hmac.new(…, sha256).hexdigest()` of a byte string under a text. -/
structure Mac where
  digest : String → List UInt8 → String
  digest_hex : ∀ key message, ∀ c ∈ (digest key message).toList, c.isDigit ∨ 'a' ≤ c ∧ c ≤ 'f'

/-! ## The header -/

/-- `[0-9a-f]`. -/
def isLowerHex (c : Char) : Bool := c.isDigit || ('a' ≤ c && c ≤ 'f')

/-- `_SIG_HEADER_RE` on a header without white space around it: the groups `ts` and `sig`. -/
def matchSigHeader (U : Unicode) : List Char → Option (List Char × List Char)
  | 't' :: '=' :: cs =>
      let ts := cs.takeWhile (fun c => (U.decimal c).isSome)
      match cs.dropWhile (fun c => (U.decimal c).isSome) with
      | ',' :: 'v' :: '1' :: '=' :: sig =>
          if !ts.isEmpty && !sig.isEmpty && sig.all isLowerHex then some (ts, sig) else none
      | _ => none
  | _ => none

/-- The groups of a header that has the form, in a request that has the header. -/
def sigFields (U : Unicode) (signatureHeader : Option String) : Option (List Char × List Char) :=
  signatureHeader.bind (fun header => matchSigHeader U (stripChars header.toList))

/-- `t=<digits>,v1=<lowercase hex>`. -/
def sigHeader (ts sig : List Char) : List Char := "t=".toList ++ ts ++ ",v1=".toList ++ sig

theorem matchSigHeader_sigHeader (U : Unicode) {ts sig : List Char} (hts : ts ≠ [])
    (hdecimal : ∀ c ∈ ts, (U.decimal c).isSome = true) (hsig : sig ≠ [])
    (hhex : ∀ c ∈ sig, isLowerHex c = true) :
    matchSigHeader U (sigHeader ts sig) = some (ts, sig) := by
  have hcomma : (U.decimal ',').isSome = false := by
    rw [U.decimal_ascii ',' (by decide)]
    rfl
  have hchars : sigHeader ts sig = 't' :: '=' :: (ts ++ ',' :: 'v' :: '1' :: '=' :: sig) := by
    simp [sigHeader]
  have htake : (ts ++ ',' :: 'v' :: '1' :: '=' :: sig).takeWhile
      (fun c => (U.decimal c).isSome) = ts := by
    rw [List.takeWhile_append_of_pos hdecimal, List.takeWhile_cons_of_neg (by rw [hcomma]; decide),
      List.append_nil]
  have hdrop : (ts ++ ',' :: 'v' :: '1' :: '=' :: sig).dropWhile
      (fun c => (U.decimal c).isSome) = ',' :: 'v' :: '1' :: '=' :: sig := by
    rw [List.dropWhile_append_of_pos hdecimal, List.dropWhile_cons_of_neg (by rw [hcomma]; decide)]
  rw [hchars, matchSigHeader, htake, hdrop]
  simp only
  rw [if_pos]
  simp only [Bool.and_eq_true, Bool.not_eq_true', List.isEmpty_eq_false_iff, List.all_eq_true]
  exact ⟨⟨hts, hsig⟩, hhex⟩

/-- **The form of a header**, with its groups. -/
theorem matchSigHeader_eq_some {U : Unicode} {cs ts sig : List Char}
    (h : matchSigHeader U cs = some (ts, sig)) :
    cs = sigHeader ts sig ∧ ts ≠ [] ∧ (∀ c ∈ ts, (U.decimal c).isSome = true) ∧ sig ≠ [] ∧
      ∀ c ∈ sig, isLowerHex c = true := by
  unfold matchSigHeader at h
  split at h
  · rename_i cs
    simp only at h
    split at h
    · rename_i sig' hdrop
      split at h
      · rename_i hgood
        simp only [Bool.and_eq_true, Bool.not_eq_true', List.isEmpty_eq_false_iff,
          List.all_eq_true] at hgood
        rw [Option.some.injEq, Prod.mk.injEq] at h
        obtain ⟨rfl, rfl⟩ := h
        have hmem : ∀ c ∈ cs.takeWhile (fun c => (U.decimal c).isSome),
            (U.decimal c).isSome = true := fun c hc => (List.mem_takeWhile_imp hc :)
        refine ⟨?_, hgood.1.1, hmem, hgood.1.2, hgood.2⟩
        have hcs := List.takeWhile_append_dropWhile (p := fun c => (U.decimal c).isSome) (l := cs)
        rw [hdrop] at hcs
        nth_rewrite 1 [← hcs]
        simp [sigHeader]
      · cases h
    · cases h
  · cases h

theorem isAscii_of_isLowerHex {sig : List Char} (h : ∀ c ∈ sig, isLowerHex c = true) :
    isAscii (String.ofList sig) = true := by
  apply isAscii_of_hex
  rw [String.toList_ofList]
  intro c hc
  have hhex := h c hc
  rw [isLowerHex, Bool.or_eq_true, Bool.and_eq_true, decide_eq_true_eq, decide_eq_true_eq] at hhex
  exact hhex

/-- A header made of fields has them. -/
theorem sigFields_sigHeader (U : Unicode) {ts sig : List Char} (hts : ts ≠ [])
    (hdecimal : ∀ c ∈ ts, (U.decimal c).isSome = true) (hsig : sig ≠ [])
    (hhex : ∀ c ∈ sig, isLowerHex c = true) :
    sigFields U (some (String.ofList (sigHeader ts sig))) = some (ts, sig) := by
  have hspace : ∀ c ∈ sigHeader ts sig, isSpace c = false := by
    have hfixed : ∀ c ∈ "t=".toList ++ ",v1=".toList, isSpace c = false :=
      forall_mem_of_all (by decide)
    have hascii : ∀ c : Char, c.toNat < 128 → isLowerHex c = true → isSpace c = false :=
      Unicode.forall_ascii (P := fun c => isLowerHex c = true → isSpace c = false) (by decide)
    intro c hc
    simp only [sigHeader, List.mem_append] at hc
    rcases hc with ((hc | hc) | hc) | hc
    · exact hfixed c (List.mem_append_left _ hc)
    · exact U.decimal_not_space c (hdecimal c hc)
    · exact hfixed c (List.mem_append_right _ hc)
    · have hlt := isAscii_of_isLowerHex hhex
      rw [isAscii, String.toList_ofList, List.all_eq_true] at hlt
      exact hascii c (of_decide_eq_true (hlt c hc)) (hhex c hc)
  have hstrip : stripChars (sigHeader ts sig) = sigHeader ts sig := trim_eq_self hspace
  rw [sigFields, Option.bind_some, String.toList_ofList, hstrip]
  exact matchSigHeader_sigHeader U hts hdecimal hsig hhex

/-! ## Verification -/

def replayWindowSeconds : ℚ := 5 * 60

/-- `f"{timestamp}.".encode() + raw_body`. -/
def signedBytes (timestamp : ℤ) (rawBody : List UInt8) : List UInt8 :=
  TextEncoding.ascii (toString timestamp ++ ".").toList ++ rawBody

/-- The message of `int` for a numeral of too many digits. -/
def tooManyDigitsMessage (digits : ℕ) : String :=
  "Exceeds the limit (4300 digits) for integer string conversion: value has " ++ toString digits ++
    " digits; use sys.set_int_max_str_digits() to increase the limit"

/-- `verify_webhook_signature`. -/
def verifyWebhookSignature (U : Unicode) (mac : Mac) (now : ℚ) (rawBody : List UInt8)
    (signatureHeader : Option String) (secret : String) : Except PyExc Unit :=
  if !isSet signatureHeader then .error (.invalidSignature "missing signature header")
  else
    match sigFields U signatureHeader with
    | none => .error (.invalidSignature "malformed signature header")
    | some (ts, signature) =>
        match intBaseTen U ts with
        | none => .error (.valueError (tooManyDigitsMessage ts.length))
        | some timestamp =>
            match floatOfInt timestamp with
            | .error e => .error e
            | .ok seconds =>
                if replayWindowSeconds < |floatSub now seconds| then
                  .error (.invalidSignature "timestamp outside replay window")
                else
                  match compareDigest (mac.digest secret (signedBytes timestamp rawBody))
                      (String.ofList signature) with
                  | .error e => .error e
                  | .ok true => .ok ()
                  | .ok false => .error (.invalidSignature "signature mismatch")

/-- The status `inbound_email` answers with when the verification raises. -/
def signatureStatus : PyExc → ℕ
  | .invalidSignature _ => 401
  | _ => 500

/-- A request whose header has the form: its fields, and the integer of the first. -/
structure HasTime (U : Unicode) (signatureHeader : Option String) (ts sig : List Char)
    (timestamp : ℤ) : Prop where
  fields : sigFields U signatureHeader = some (ts, sig)
  digits : intBaseTen U ts = some timestamp

/-- A header with fields is set. -/
theorem isSet_of_sigFields {U : Unicode} {signatureHeader : Option String}
    {p : List Char × List Char} (h : sigFields U signatureHeader = some p) :
    isSet signatureHeader = true := by
  obtain ⟨header, rfl, hmatch⟩ := Option.bind_eq_some_iff.1 h
  have hne : header ≠ "" := by
    rintro rfl
    cases hmatch
  simpa [isSet] using hne

/-- The verification of a request with fields, up to the time as a floating-point number. -/
theorem verifyWebhookSignature_of_fields {U : Unicode} (mac : Mac) (now : ℚ) (rawBody : List UInt8)
    {signatureHeader : Option String} (secret : String) {ts sig : List Char}
    (h : sigFields U signatureHeader = some (ts, sig)) :
    verifyWebhookSignature U mac now rawBody signatureHeader secret =
      if ts.length ≤ 4300 then
        if decimalVal U 0 ts < floatLimit then
          if replayWindowSeconds < |floatSub now (Rounding.roundSig 2 53 (decimalVal U 0 ts : ℤ))| then
            .error (.invalidSignature "timestamp outside replay window")
          else if mac.digest secret (signedBytes (decimalVal U 0 ts) rawBody) = String.ofList sig then
            .ok ()
          else .error (.invalidSignature "signature mismatch")
        else .error .overflowError
      else .error (.valueError (tooManyDigitsMessage ts.length)) := by
  obtain ⟨header, hheader, hmatch⟩ := Option.bind_eq_some_iff.1 h
  obtain ⟨-, hts, hdecimal, -, hhex⟩ := matchSigHeader_eq_some hmatch
  have hset : (!isSet signatureHeader) = false := by rw [isSet_of_sigFields h]; rfl
  have hcompare : ∀ message, compareDigest (mac.digest secret message) (String.ofList sig) =
      .ok (decide (mac.digest secret message = String.ofList sig)) := by
    intro message
    rw [compareDigest, isAscii_of_hex (mac.digest_hex secret message), isAscii_of_isLowerHex hhex,
      Bool.and_self, if_pos rfl]
  simp only [verifyWebhookSignature, hset, Bool.false_eq_true, if_false, h,
    intBaseTen_of_decimal U hts hdecimal]
  by_cases hlength : ts.length ≤ 4300
  · rw [if_pos hlength, if_pos hlength]
    simp only [floatOfInt, Int.natAbs_natCast]
    by_cases hlimit : decimalVal U 0 ts < floatLimit
    · rw [if_pos hlimit, if_pos hlimit]
      simp only [hcompare]
      split
      · rfl
      · by_cases hmac : mac.digest secret (signedBytes (decimalVal U 0 ts) rawBody) =
            String.ofList sig
        · rw [if_pos hmac, decide_eq_true hmac]
        · rw [if_neg hmac, decide_eq_false hmac]
    · rw [if_neg hlimit, if_neg hlimit]
  · rw [if_neg hlength, if_neg hlength]

section

variable {U : Unicode} {mac : Mac} {now : ℚ} {rawBody : List UInt8}
  {signatureHeader : Option String} {secret : String}

/-- What an accepted request has gone through. -/
theorem verifyWebhookSignature_eq_ok (ht : Ticks now)
    (h : verifyWebhookSignature U mac now rawBody signatureHeader secret = .ok ()) :
    ∃ ts sig timestamp, HasTime U signatureHeader ts sig timestamp ∧
      String.ofList sig = mac.digest secret (signedBytes timestamp rawBody) ∧
      |now - timestamp| ≤ 300 := by
  unfold verifyWebhookSignature at h
  split at h
  · cases h
  · split at h
    · cases h
    · rename_i ts sig hfields
      split at h
      · cases h
      · rename_i timestamp hdigits
        split at h
        · cases h
        · rename_i seconds hfloat
          split at h
          · cases h
          · rename_i hwindow
            split at h
            · cases h
            · rename_i hcompare
              refine ⟨ts, sig, timestamp, ⟨hfields, hdigits⟩, ?_, ?_⟩
              · rw [compareDigest] at hcompare
                split at hcompare
                · exact (of_decide_eq_true (Except.ok.inj hcompare)).symm
                · cases hcompare
              · have hseconds : seconds = Rounding.roundSig 2 53 timestamp := by
                  rw [floatOfInt] at hfloat
                  split at hfloat
                  · exact (Except.ok.inj hfloat).symm
                  · cases hfloat
                have hreplay : replayWindowSeconds = ((300 : ℤ) : ℚ) := by
                  norm_num [replayWindowSeconds]
                rw [hseconds, hreplay, not_lt,
                  ht.abs_floatSub_le_iff (by decide) (by decide)] at hwindow
                exact_mod_cast hwindow
            · cases h

end

/-! ## Replays -/

/-- The time of a signed text has no dot, so the text names its time and its body. -/
theorem eq_of_signedBytes_eq {s t : ℤ} {body body' : List UInt8}
    (h : signedBytes s body = signedBytes t body') : s = t ∧ body = body' := by
  have hascii : ∀ n : ℤ, ∀ c ∈ (toString n).toList, c.toNat < 128 := by
    intro n c hc
    rcases mem_toString_int hc with rfl | hd
    · decide
    · exact Unicode.toNat_lt_of_isDigit hd
  have hdot : ∀ n : ℤ, (46 : UInt8) ∉ TextEncoding.ascii (toString n).toList := by
    intro n hmem
    obtain ⟨c, hc, heq⟩ := List.mem_map.1 hmem
    have hnat := congrArg UInt8.toNat heq
    rw [TextEncoding.toNat_ofNat (hascii n c hc)] at hnat
    have hchar : c = '.' := by rw [← Char.ofNat_toNat c, hnat]; rfl
    rcases mem_toString_int hc with hminus | hd
    · exact absurd (hchar.symm.trans hminus) (by decide)
    · rw [hchar] at hd
      exact absurd hd (by decide)
  have hbytes : ∀ n : ℤ, ∀ body : List UInt8, signedBytes n body =
      TextEncoding.ascii (toString n).toList ++ 46 :: body := by
    intro n body
    simp [signedBytes, TextEncoding.ascii]
  rw [hbytes, hbytes] at h
  obtain ⟨htime, hbody⟩ := cut_at_first (hdot s) (hdot t) h
  have hread := congrArg TextEncoding.utf8 htime
  rw [TextEncoding.utf8_ascii (hascii s), TextEncoding.utf8_ascii (hascii t),
    Option.some.injEq] at hread
  exact ⟨toString_int_injective (String.toList_inj.1 hread), hbody⟩

/-- **A signature covers the time and the body.** Whatever is accepted has a header of the
form whose signature is that of its time and body, and a time within five minutes of the
clock; and if the signature of a text names the text, two accepted requests with one
signature have one time and one body, so a captured signature is accepted with its own body
and within its own window only. -/
theorem signature_covers (U : Unicode) (mac : Mac) (secret : String) :
    (∀ (clock : Clock) (rawBody : List UInt8) (signatureHeader : Option String),
      verifyWebhookSignature U mac clock.time rawBody signatureHeader secret = .ok () →
        ∃ header ts sig timestamp, signatureHeader = some header ∧
          stripChars header.toList = sigHeader ts sig ∧
          (ts ≠ [] ∧ ∀ c ∈ ts, (U.decimal c).isSome = true) ∧
          (sig ≠ [] ∧ ∀ c ∈ sig, isLowerHex c = true) ∧
          intBaseTen U ts = some timestamp ∧
          String.ofList sig = mac.digest secret (signedBytes timestamp rawBody) ∧
          |clock.time - timestamp| ≤ 300) ∧
    (Function.Injective (mac.digest secret) →
      ∀ (clock clock' : Clock) (rawBody rawBody' : List UInt8)
        (signatureHeader signatureHeader' : Option String) (ts ts' sig : List Char)
        (timestamp timestamp' : ℤ),
        verifyWebhookSignature U mac clock.time rawBody signatureHeader secret = .ok () →
        verifyWebhookSignature U mac clock'.time rawBody' signatureHeader' secret = .ok () →
        HasTime U signatureHeader ts sig timestamp →
        HasTime U signatureHeader' ts' sig timestamp' →
          timestamp = timestamp' ∧ rawBody = rawBody' ∧ |clock'.time - timestamp| ≤ 300) := by
  constructor
  · intro clock rawBody signatureHeader h
    obtain ⟨ts, sig, timestamp, hread, hmac, hwindow⟩ :=
      verifyWebhookSignature_eq_ok clock.ticks h
    obtain ⟨header, hheader, hmatch⟩ := Option.bind_eq_some_iff.1 hread.fields
    obtain ⟨hform, hts, hdecimal, hsig, hhex⟩ := matchSigHeader_eq_some hmatch
    exact ⟨header, ts, sig, timestamp, hheader, hform, ⟨hts, hdecimal⟩, ⟨hsig, hhex⟩, hread.digits,
      hmac, hwindow⟩
  · intro hinj clock clock' rawBody rawBody' header header' ts ts' sig timestamp timestamp' h h'
      hread hread'
    have huse : ∀ {clock : Clock} {rawBody : List UInt8} {header : Option String}
        {ts sig : List Char} {timestamp : ℤ},
        verifyWebhookSignature U mac clock.time rawBody header secret = .ok () →
        HasTime U header ts sig timestamp →
          String.ofList sig = mac.digest secret (signedBytes timestamp rawBody) ∧
            |clock.time - timestamp| ≤ 300 := by
      intro clock rawBody header ts sig timestamp hok htime
      obtain ⟨ts₀, sig₀, timestamp₀, hread₀, hmac, hwindow⟩ :=
        verifyWebhookSignature_eq_ok clock.ticks hok
      have hfields := hread₀.fields.symm.trans htime.fields
      rw [Option.some.injEq, Prod.mk.injEq] at hfields
      obtain ⟨rfl, rfl⟩ := hfields
      have hdigits := hread₀.digits.symm.trans htime.digits
      rw [Option.some.injEq] at hdigits
      subst hdigits
      exact ⟨hmac, hwindow⟩
    obtain ⟨hmac, -⟩ := huse h hread
    obtain ⟨hmac', hwindow'⟩ := huse h' hread'
    obtain ⟨rfl, rfl⟩ := eq_of_signedBytes_eq (hinj (hmac.symm.trans hmac'))
    exact ⟨rfl, rfl, hwindow'⟩

/-- The digits of bytes. -/
def hexBytes (bs : List UInt8) : List Char := bs.flatMap (fun b => hexChars 2 b.toNat)

theorem length_hexBytes (bs : List UInt8) : (hexBytes bs).length = 2 * bs.length := by
  induction bs with
  | nil => rfl
  | cons b bs ih =>
      rw [hexBytes, List.flatMap_cons, List.length_append, length_hexChars, ← hexBytes, ih,
        List.length_cons]
      ring

theorem hexBytes_injective {bs bs' : List UInt8} (h : hexBytes bs = hexBytes bs') : bs = bs' := by
  induction bs generalizing bs' with
  | nil =>
      have hlen := congrArg List.length h
      rw [length_hexBytes, length_hexBytes, List.length_nil] at hlen
      exact (List.length_eq_zero_iff.1 (by omega)).symm
  | cons b bs ih =>
      cases bs' with
      | nil =>
          have hlen := congrArg List.length h
          rw [length_hexBytes, length_hexBytes, List.length_nil, List.length_cons] at hlen
          omega
      | cons b' bs' =>
          rw [hexBytes, hexBytes, List.flatMap_cons, List.flatMap_cons] at h
          obtain ⟨hhead, htail⟩ := List.append_inj h (by rw [length_hexChars, length_hexChars])
          have hread := congrArg (baseSixteenFrom Unicode.ascii true 0) hhead
          rw [baseSixteenFrom_hexChars, baseSixteenFrom_hexChars, Option.some.injEq] at hread
          have hbyte : b.toNat = b'.toNat := by
            have h₁ := b.toNat_lt
            have h₂ := b'.toNat_lt
            omega
          rw [UInt8.toNat_inj.1 hbyte, ih htail]

def webhookSecret : String := "test-inbound-email-secret-not-real"

/-- The signature of the body `{}` at the start of 2026. -/
def webhookDigest : String := "0eb16567766e13fdddb3538c7790ead62d378ca0bb2aae0324c8b3a6882b35f6"

/-- The signed text of the examples has its signature, and every other text one of its own. -/
def webhookMac : Mac where
  digest key message :=
    if key = webhookSecret ∧ message = signedBytes 1767225600 [123, 125] then webhookDigest
    else String.ofList ('0' :: hexBytes message)
  digest_hex key message := by
    have halphabet : ∀ c ∈ hexAlphabet, c.isDigit ∨ 'a' ≤ c ∧ c ≤ 'f' :=
      forall_mem_of_all (by decide)
    split
    · exact forall_mem_of_all (by decide)
    · intro c hc
      rw [String.toList_ofList] at hc
      rcases List.mem_cons.1 hc with rfl | hc
      · exact Or.inl (by decide)
      · obtain ⟨b, -, hb⟩ := List.mem_flatMap.1 hc
        exact halphabet c (hexChars_mem hb)

theorem injective_webhookMac : Function.Injective (webhookMac.digest webhookSecret) := by
  have hodd : ∀ message, webhookDigest ≠ String.ofList ('0' :: hexBytes message) := by
    intro message heq
    have hlen := congrArg (fun s : String => s.toList.length) heq
    simp only [String.toList_ofList, List.length_cons, length_hexBytes] at hlen
    have h64 : webhookDigest.toList.length = 64 := by decide
    omega
  intro message message' h
  simp only [webhookMac, true_and] at h
  split at h
  · rename_i hm
    split at h
    · rename_i hm'
      rw [hm, hm']
    · exact absurd h (hodd _)
  · split at h
    · exact absurd h.symm (hodd _)
    · have hchars := String.ofList_injective h
      rw [List.cons.injEq] at hchars
      exact hexBytes_injective hchars.2

/-- The time of the signed text, with zeros in front. -/
def webhookTime (zeros : ℕ) : List Char := List.replicate zeros '0' ++ "1767225600".toList

def webhookHeader (zeros : ℕ) : Option String :=
  some (String.ofList (sigHeader (webhookTime zeros) webhookDigest.toList))

theorem isDigit_webhookTime (zeros : ℕ) : ∀ c ∈ webhookTime zeros, c.isDigit = true := by
  intro c hc
  rcases List.mem_append.1 hc with hc | hc
  · rw [(List.mem_replicate.1 hc).2]
    rfl
  · exact forall_mem_of_all (P := fun c => Char.isDigit c = true)
      (l := "1767225600".toList) (by decide) c hc

theorem sigFields_webhookHeader (zeros : ℕ) : sigFields Unicode.ascii (webhookHeader zeros) =
    some (webhookTime zeros, webhookDigest.toList) := by
  apply sigFields_sigHeader
  · simp [webhookTime]
  · intro c hc
    rw [decimal_of_isDigit Unicode.ascii (isDigit_webhookTime zeros c hc)]
    rfl
  · decide
  · exact forall_mem_of_all (by decide)

theorem decimalVal_webhookTime (zeros : ℕ) :
    decimalVal Unicode.ascii 0 (webhookTime zeros) = 1767225600 := by
  rw [decimalVal_of_isDigit Unicode.ascii (isDigit_webhookTime zeros), webhookTime,
    Nat.ofDigitChars_append, Nat.ofDigitChars_replicate_zero, Nat.mul_zero]
  decide

theorem length_webhookTime (zeros : ℕ) : (webhookTime zeros).length = zeros + 10 := by
  rw [webhookTime, List.length_append, List.length_replicate]
  rfl

theorem hasTime_webhookHeader {zeros : ℕ} (hzeros : zeros ≤ 4290) :
    HasTime Unicode.ascii (webhookHeader zeros) (webhookTime zeros) webhookDigest.toList
      1767225600 := by
  refine ⟨sigFields_webhookHeader zeros, ?_⟩
  rw [intBaseTen_of_decimal Unicode.ascii (by simp [webhookTime]), decimalVal_webhookTime,
    length_webhookTime, if_pos (by omega)]
  · rfl
  · intro c hc
    rw [decimal_of_isDigit Unicode.ascii (isDigit_webhookTime zeros c hc)]
    rfl

/-- A minute later the request is accepted. -/
theorem verify_webhookHeader {zeros : ℕ} (hzeros : zeros ≤ 4290) :
    verifyWebhookSignature Unicode.ascii webhookMac sampleClock.time [123, 125]
      (webhookHeader zeros) webhookSecret = .ok () := by
  have hnear : |sampleClock.time - (1767225600 : ℤ)| ≤ ((300 : ℤ) : ℚ) := by
    rw [time_sampleClock]
    norm_num
  have hwindow := (sampleClock.ticks.abs_floatSub_le_iff (by decide) (by decide) _).2 hnear
  have hlimit : 1767225600 < floatLimit :=
    sampleClock.ticks.natAbs_lt_floatLimit (w := 300) (by decide) hnear
  have hreplay : replayWindowSeconds = ((300 : ℤ) : ℚ) := by norm_num [replayWindowSeconds]
  have hmac : webhookMac.digest webhookSecret (signedBytes 1767225600 [123, 125]) =
      webhookDigest := by
    simp only [webhookMac, true_and, if_true]
  have hcast : ((1767225600 : ℕ) : ℤ) = 1767225600 := rfl
  rw [verifyWebhookSignature_of_fields _ _ _ _ (sigFields_webhookHeader zeros), length_webhookTime,
    decimalVal_webhookTime, if_pos (by omega), if_pos hlimit, hreplay, hcast,
    if_neg (not_lt.2 hwindow), String.ofList_toList]
  exact if_pos hmac

/-- One signature, captured and sent again with another spelling of its time: the body and the
time are those it was made for. -/
theorem signature_covers_sample :
    (1767225600 : ℤ) = 1767225600 ∧ ([123, 125] : List UInt8) = [123, 125] ∧
      |sampleClock.time - (1767225600 : ℤ)| ≤ 300 :=
  (signature_covers Unicode.ascii webhookMac webhookSecret).2 injective_webhookMac sampleClock
    sampleClock [123, 125] [123, 125] (webhookHeader 0) (webhookHeader 1) (webhookTime 0)
    (webhookTime 1) webhookDigest.toList 1767225600 1767225600 (verify_webhookHeader (by decide))
    (verify_webhookHeader (by decide)) (hasTime_webhookHeader (by decide))
    (hasTime_webhookHeader (by decide))

/-! ## Refusals -/

/-- What does not verify is answered as that: with the error of the signature, and 401. -/
def AnsweredAsBad (U : Unicode) (mac : Mac) (now : ℚ) (rawBody : List UInt8)
    (signatureHeader : Option String) (secret : String) : Prop :=
  ∀ e, verifyWebhookSignature U mac now rawBody signatureHeader secret = .error e →
    (∃ msg, e = .invalidSignature msg) ∧ signatureStatus e = 401

/-- The time of a header of the form is in proportion: at most 4300 digits, and a number below
the floating-point range. -/
def TimeInProportion (U : Unicode) (signatureHeader : Option String) : Prop :=
  ∀ ts sig, sigFields U signatureHeader = some (ts, sig) →
    ts.length ≤ 4300 ∧ decimalVal U 0 ts < floatLimit

/-- **A bad signature is answered as such** exactly if the time of the header, should it have
the form, is in proportion. -/
theorem answeredAsBad_iff (U : Unicode) (mac : Mac) (now : ℚ) (rawBody : List UInt8)
    (signatureHeader : Option String) (secret : String) :
    AnsweredAsBad U mac now rawBody signatureHeader secret ↔ TimeInProportion U signatureHeader := by
  constructor
  · intro h ts sig hfields
    rw [AnsweredAsBad, verifyWebhookSignature_of_fields mac now rawBody secret hfields] at h
    by_cases hlength : ts.length ≤ 4300
    · refine ⟨hlength, ?_⟩
      by_contra hlimit
      rw [if_pos hlength, if_neg hlimit] at h
      obtain ⟨⟨msg, hmsg⟩, -⟩ := h _ rfl
      cases hmsg
    · rw [if_neg hlength] at h
      obtain ⟨⟨msg, hmsg⟩, -⟩ := h _ rfl
      cases hmsg
  · intro h e he
    have hbad : ∀ msg, e = .invalidSignature msg →
        (∃ msg, e = .invalidSignature msg) ∧ signatureStatus e = 401 := by
      rintro msg rfl
      exact ⟨⟨msg, rfl⟩, rfl⟩
    cases hfields : sigFields U signatureHeader with
    | none =>
        simp only [verifyWebhookSignature, hfields] at he
        split at he
        · exact hbad _ (Except.error.inj he).symm
        · exact hbad _ (Except.error.inj he).symm
    | some p =>
        obtain ⟨hlength, hlimit⟩ := h p.1 p.2 hfields
        rw [verifyWebhookSignature_of_fields mac now rawBody secret hfields, if_pos hlength,
          if_pos hlimit] at he
        split at he
        · exact hbad _ (Except.error.inj he).symm
        · split at he
          · cases he
          · exact hbad _ (Except.error.inj he).symm

/-- A header of the form with 4301 digits for its time. -/
def longHeader : Option String :=
  some (String.ofList (sigHeader (List.replicate 4301 '1') ['a']))

/-- 4301 digits are no bad signature but a `ValueError`. -/
theorem not_answeredAsBad_of_longTime : ¬ AnsweredAsBad Unicode.ascii webhookMac sampleClock.time []
    longHeader webhookSecret := by
  have hfields : sigFields Unicode.ascii longHeader = some (List.replicate 4301 '1', ['a']) := by
    apply sigFields_sigHeader
    · rw [List.replicate_succ]
      exact List.cons_ne_nil _ _
    · intro c hc
      rw [(List.mem_replicate.1 hc).2]
      rfl
    · decide
    · exact forall_mem_of_all (by decide)
  intro h
  rw [AnsweredAsBad, verifyWebhookSignature_of_fields _ _ _ _ hfields, List.length_replicate,
    if_neg (by decide)] at h
  obtain ⟨⟨msg, hmsg⟩, -⟩ := h _ rfl
  cases hmsg

end SpendLens
