/-
# The bytes of an attachment

Gmail serves an attachment as base64url text, with or without padding.  The sync restores the
padding by the length of the text and hands it to a decoder that skips what it does not know, so
that a damaged text may come out as bytes.  Exactly the texts of some bytes, and the texts the
lenient decoder refuses, are read as they should be.
-/
import SpendLens.GmailRefinement
import SpendLens.Lib.LenientBase64

namespace SpendLens

namespace Attachment

/-! ## Texts of bytes -/

/-- The base64url text of some bytes, with or without its padding. -/
def IsTextOf (data : String) (bytes : List UInt8) : Prop :=
  data = urlsafeEncode bytes ∨ data = urlsafeEncodeUnpadded bytes

/-- An answer of the attachments endpoint with this text. -/
structure Carries (resp : Response) (data : String) : Prop where
  status : resp.statusCode = 200
  data : ∃ kvs, resp.json = .ok (.obj kvs) ∧ (Json.obj kvs).get? "data" = some (.str data)

/-- **Decoding is strict**: the text of some bytes is read as these, and every other text is a
`GmailSyncError`. -/
def DecodesStrictly (messageId attachmentId : String) (resp : Response) (data : String) : Prop :=
  (∀ bytes, readAttachment messageId attachmentId resp = .ok bytes ↔ IsTextOf data bytes) ∧
    ((∀ bytes, ¬ IsTextOf data bytes) →
      ∃ msg, readAttachment messageId attachmentId resp = .error (.gmailSyncError msg))

/-- What the decoder is given. -/
def padded (data : String) : List Char :=
  (data.toList ++ Base64.padding data.toList.length).map ExpenseCursor.ofUrlsafe

/-- The text of some bytes; or a text with a character outside ASCII, or one that, with its length
made a multiple of four by padding, ends inside a group of digits. -/
def Proper (data : String) : Prop :=
  data ≠ "" ∧ ((∃ bytes, IsTextOf data bytes) ∨ (∃ c ∈ data.toList, 128 ≤ c.toNat) ∨
    Base64.Unfinished (padded data))

theorem urlsafeB64decode_of_isTextOf {data : String} {bytes : List UInt8}
    (h : IsTextOf data bytes) : urlsafeB64decode data = some bytes := by
  rcases h with rfl | rfl
  · exact urlsafeB64decode_urlsafeEncode bytes
  · exact urlsafeB64decode_urlsafeEncodeUnpadded bytes

/-- What is refused. -/
theorem urlsafeB64decode_eq_none {data : String} :
    urlsafeB64decode data = none ↔
      (∃ c ∈ data.toList, 128 ≤ c.toNat) ∨ Base64.Unfinished (padded data) := by
  have hascii : (data.toList ++ Base64.padding data.toList.length).all
      (fun c => decide (c.toNat < 128)) = true ↔ ¬ ∃ c ∈ data.toList, 128 ≤ c.toNat := by
    simp only [List.all_append, Bool.and_eq_true, List.all_eq_true, decide_eq_true_eq, not_exists,
      not_and, not_le]
    refine and_iff_left fun c hc => ?_
    rw [List.eq_of_mem_replicate hc]
    decide
  rw [← Base64.decode_lenient_error_iff, urlsafeB64decode]
  by_cases hall : (data.toList ++ Base64.padding data.toList.length).all
      (fun c => decide (c.toNat < 128)) = true
  · simp only [hall, if_true]
    rw [or_iff_right (hascii.1 hall), padded]
    cases Base64.decode false ((data.toList ++ Base64.padding data.toList.length).map
      ExpenseCursor.ofUrlsafe) with
    | error e => exact iff_of_true rfl ⟨e, rfl⟩
    | ok bytes =>
        refine iff_of_false (fun h => by cases h) ?_
        rintro ⟨e, he⟩
        cases he
  · rw [Bool.not_eq_true] at hall
    simp only [hall, Bool.false_eq_true, if_false, true_iff]
    refine Or.inl (by_contra fun hnone => ?_)
    rw [hascii.2 hnone] at hall
    cases hall

/-- What becomes of the text of an answer. -/
theorem readAttachment_of_carries (messageId attachmentId : String) {data : String}
    {resp : Response} (h : Carries resp data) :
    (data ≠ "" ∧ ∃ bytes, urlsafeB64decode data = some bytes ∧
        readAttachment messageId attachmentId resp = .ok bytes) ∨
      ((data = "" ∨ urlsafeB64decode data = none) ∧
        ∃ msg, readAttachment messageId attachmentId resp = .error (.gmailSyncError msg)) := by
  obtain ⟨hstatus, kvs, hjson, hdata⟩ := h
  have hget : jsonGet "data" (.obj kvs) = .ok (some (.str data)) := congrArg Except.ok hdata
  rw [readAttachment, if_neg (not_not.2 hstatus), hjson]
  simp only [bind, Except.bind, hget]
  by_cases hempty : data = ""
  · rw [if_pos hempty]
    exact Or.inr ⟨Or.inl hempty, _, rfl⟩
  · rw [if_neg hempty]
    cases hdecode : urlsafeB64decode data with
    | none => exact Or.inr ⟨Or.inr rfl, _, rfl⟩
    | some bytes => exact Or.inl ⟨hempty, bytes, rfl, rfl⟩

/-- **Attachment decoding is strict on the proper texts**, and on no others. -/
theorem decodesStrictly_iff (messageId attachmentId : String) {resp : Response} {data : String}
    (h : Carries resp data) :
    DecodesStrictly messageId attachmentId resp data ↔ Proper data := by
  rw [Proper, ← urlsafeB64decode_eq_none]
  rcases readAttachment_of_carries messageId attachmentId h with
    ⟨hne, bytes, hdecode, hread⟩ | ⟨hrefused, msg, hread⟩
  · constructor
    · rintro ⟨hiff, -⟩
      exact ⟨hne, Or.inl ⟨bytes, (hiff bytes).1 hread⟩⟩
    · rintro ⟨-, ⟨bytes', htext⟩ | hnone⟩
      · have hsame : ∀ b, IsTextOf data b → b = bytes := by
          intro b hb
          rw [urlsafeB64decode_of_isTextOf hb] at hdecode
          exact Option.some.inj hdecode
        have hbytes : IsTextOf data bytes := hsame bytes' htext ▸ htext
        refine ⟨fun b => ⟨fun hb => ?_, fun hb => ?_⟩, fun hno => absurd htext (hno bytes')⟩
        · rw [hread, Except.ok.injEq] at hb
          exact hb ▸ hbytes
        · rw [hsame b hb]
          exact hread
      · rw [hdecode] at hnone
        cases hnone
  · constructor
    · rintro ⟨hiff, -⟩
      have hne : data ≠ "" := by
        rintro rfl
        have hempty := (hiff []).2 (Or.inl (by decide))
        rw [hread] at hempty
        cases hempty
      exact ⟨hne, Or.inr (hrefused.resolve_left hne)⟩
    · rintro ⟨hne, -⟩
      have hnone : ∀ b, ¬ IsTextOf data b := by
        intro b hb
        have hdecode := hrefused.resolve_left hne
        rw [urlsafeB64decode_of_isTextOf hb] at hdecode
        cases hdecode
      refine ⟨fun b => iff_of_false (fun hb => ?_) (hnone b), fun _ => ⟨msg, hread⟩⟩
      rw [hread] at hb
      cases hb

/-- An answer with a text. -/
def sampleAnswer (data : String) : Response := ⟨200, "", .ok (.obj [("data", .str data)])⟩

theorem carries_sampleAnswer (data : String) : Carries (sampleAnswer data) data :=
  ⟨rfl, _, rfl, rfl⟩

theorem decodesStrictly_iff_sample :
    DecodesStrictly "m1" "a1" (sampleAnswer "QUJD") "QUJD" ↔ Proper "QUJD" :=
  decodesStrictly_iff "m1" "a1" (carries_sampleAnswer "QUJD")

/-- A foreign character is skipped: `QUJD!` is read as the three bytes of `QUJD`. -/
theorem not_decodesStrictly_of_foreign :
    ¬ DecodesStrictly "m1" "a1" (sampleAnswer "QUJD!") "QUJD!" := by
  rintro ⟨hiff, -⟩
  have hread : readAttachment "m1" "a1" (sampleAnswer "QUJD!") = .ok [0x41, 0x42, 0x43] :=
    rfl
  rcases (hiff [0x41, 0x42, 0x43]).1 hread with htext | htext
  · exact absurd htext (by decide)
  · exact absurd htext (by decide)

end Attachment

end SpendLens
