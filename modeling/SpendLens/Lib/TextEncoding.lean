/-
# Text encodings

Decoding of UTF-8, UTF-16 and UTF-32 into characters, lone surrogates let through,
and the guess at the encoding of a byte string that JSON readers make from its first
bytes.  A lone surrogate is no character; it shows as the replacement character.
`decodeGuessed_ascii` is what a writer of ASCII text relies on.
-/
import Mathlib.Tactic.Common

namespace TextEncoding

/-- The encodings a reader chooses from. -/
inductive Encoding where
  | utf8
  | utf16 (bigEndian : Bool)
  | utf32 (bigEndian : Bool)
  deriving DecidableEq, Repr

/-- The character with a code point, if there is one. -/
def scalar (n : ℕ) : Char := if n.isValidChar then Char.ofNat n else '\uFFFD'

/-! ## UTF-8 -/

def isTail (b : UInt8) : Bool := 0x80 ≤ b && b ≤ 0xBF

/-- The bounds on the second byte of a longer character. -/
def secondOk (a b : UInt8) : Bool :=
  isTail b && (a ≠ 0xE0 || 0xA0 ≤ b) && (a ≠ 0xF0 || 0x90 ≤ b) && (a ≠ 0xF4 || b ≤ 0x8F)

/-- Decode UTF-8; `none` is a decoding error. -/
def utf8 : List UInt8 → Option (List Char)
  | [] => some []
  | a :: rest =>
      if a < 0x80 then (utf8 rest).map (scalar a.toNat :: ·)
      else if 0xC2 ≤ a && a ≤ 0xDF then
        match rest with
        | b :: rest =>
            if isTail b then
              (utf8 rest).map (scalar (a.toNat % 32 * 64 + b.toNat % 64) :: ·)
            else none
        | _ => none
      else if 0xE0 ≤ a && a ≤ 0xEF then
        match rest with
        | b :: c :: rest =>
            if secondOk a b && isTail c then
              (utf8 rest).map
                (scalar (a.toNat % 16 * 4096 + b.toNat % 64 * 64 + c.toNat % 64) :: ·)
            else none
        | _ => none
      else if 0xF0 ≤ a && a ≤ 0xF4 then
        match rest with
        | b :: c :: d :: rest =>
            if secondOk a b && isTail c && isTail d then
              (utf8 rest).map (scalar (a.toNat % 8 * 262144 + b.toNat % 64 * 4096 +
                c.toNat % 64 * 64 + d.toNat % 64) :: ·)
            else none
        | _ => none
      else none

/-! ## UTF-16 and UTF-32 -/

/-- The number of two bytes. -/
def unit (bigEndian : Bool) (a b : UInt8) : ℕ :=
  if bigEndian then a.toNat * 256 + b.toNat else b.toNat * 256 + a.toNat

/-- The code units of a byte string. -/
def units (bigEndian : Bool) : List UInt8 → Option (List ℕ)
  | [] => some []
  | [_] => none
  | a :: b :: rest => (units bigEndian rest).map (unit bigEndian a b :: ·)

def isHigh (n : ℕ) : Bool := 0xD800 ≤ n && n ≤ 0xDBFF

def isLow (n : ℕ) : Bool := 0xDC00 ≤ n && n ≤ 0xDFFF

/-- The code point of a surrogate pair. -/
def joinSurrogates (high low : ℕ) : ℕ := 0x10000 + (high - 0xD800) * 1024 + (low - 0xDC00)

/-- The characters of a list of code units. -/
def ofUnits : List ℕ → List Char
  | [] => []
  | [n] => [scalar n]
  | n :: m :: rest =>
      if isHigh n && isLow m then scalar (joinSurrogates n m) :: ofUnits rest
      else scalar n :: ofUnits (m :: rest)

/-- The characters of a list of code points, given by halves. -/
def ofHalves (bigEndian : Bool) : List ℕ → Option (List Char)
  | [] => some []
  | [_] => none
  | a :: b :: rest =>
      let n := if bigEndian then a * 65536 + b else b * 65536 + a
      if n ≤ 0x10FFFF then (ofHalves bigEndian rest).map (scalar n :: ·) else none

/-- Decode a byte string. -/
def decode : Encoding → List UInt8 → Option (List Char)
  | .utf8, bs => utf8 bs
  | .utf16 bigEndian, bs => (units bigEndian bs).map ofUnits
  | .utf32 bigEndian, bs => (units bigEndian bs).bind (ofHalves bigEndian)

/-! ## Guessing -/

/-- The byte order marks, in the order they are looked for. -/
def marks : List (List UInt8 × Encoding) :=
  [([0x00, 0x00, 0xFE, 0xFF], .utf32 true), ([0xFF, 0xFE, 0x00, 0x00], .utf32 false),
    ([0xFE, 0xFF], .utf16 true), ([0xFF, 0xFE], .utf16 false), ([0xEF, 0xBB, 0xBF], .utf8)]

/-- The encoding of a byte string without a mark, from where its zero bytes are. -/
def guessUnmarked : List UInt8 → Encoding
  | a :: b :: c :: d :: _ =>
      if a = 0 then (if b = 0 then .utf32 true else .utf16 true)
      else if b = 0 then (if c = 0 ∧ d = 0 then .utf32 false else .utf16 false)
      else .utf8
  | [a, b] => if a = 0 then .utf16 true else if b = 0 then .utf16 false else .utf8
  | _ => .utf8

/-- The encoding a byte string seems to have, and what is left of it behind the
byte order mark. -/
def guess (bs : List UInt8) : Encoding × List UInt8 :=
  match marks.find? (fun m => m.1.isPrefixOf bs) with
  | some m => (m.2, bs.drop m.1.length)
  | none => (guessUnmarked bs, bs)

/-- Decode a byte string in the encoding it seems to have. -/
def decodeGuessed (bs : List UInt8) : Option (List Char) := decode (guess bs).1 (guess bs).2

/-! ## ASCII text -/

/-- The bytes of an ASCII text. -/
def ascii (cs : List Char) : List UInt8 := cs.map (fun c => UInt8.ofNat c.toNat)

theorem scalar_toNat (c : Char) : scalar c.toNat = c := by
  have hv : c.toNat.isValidChar := c.valid
  rw [scalar, if_pos hv, Char.ofNat_toNat]

theorem toNat_ofNat {n : ℕ} (h : n < 128) : (UInt8.ofNat n).toNat = n := by
  rw [UInt8.toNat_ofNat']
  omega

/-- ASCII text is read back as it was written. -/
theorem utf8_ascii {cs : List Char} (h : ∀ c ∈ cs, c.toNat < 128) : utf8 (ascii cs) = some cs := by
  induction cs with
  | nil => rfl
  | cons c cs ih =>
      have hc : c.toNat < 128 := h c List.mem_cons_self
      have hlt : UInt8.ofNat c.toNat < 0x80 := by
        rw [UInt8.lt_iff_toNat_lt, toNat_ofNat hc]
        exact hc
      have hrest := ih (fun d hd => h d (List.mem_cons_of_mem _ hd))
      rw [ascii, List.map_cons, ← ascii]
      unfold utf8
      rw [if_pos hlt, hrest, toNat_ofNat hc, scalar_toNat]
      rfl

/-- **A text of at least four ASCII characters that begins with two that are not NUL
is decoded as it is.** -/
theorem decodeGuessed_ascii {a b c d : Char} {cs : List Char}
    (h : ∀ e ∈ a :: b :: c :: d :: cs, e.toNat < 128) (ha : a.toNat ≠ 0) (hb : b.toNat ≠ 0) :
    decodeGuessed (ascii (a :: b :: c :: d :: cs)) = some (a :: b :: c :: d :: cs) := by
  have hbyte : ∀ e ∈ a :: b :: c :: d :: cs, (UInt8.ofNat e.toNat).toNat = e.toNat :=
    fun e he => toNat_ofNat (h e he)
  have hne : ∀ e ∈ a :: b :: c :: d :: cs, ∀ n : UInt8, e.toNat ≠ n.toNat →
      UInt8.ofNat e.toNat ≠ n := by
    intro e he n hz hc
    apply hz
    rw [← hbyte e he, hc]
  -- no mark begins with an ASCII character other than NUL
  have ha₀ := hne a (by simp) 0 ha
  have hb₀ := hne b (by simp) 0 hb
  have hlt := h a (by simp)
  have ha₁ := hne a (by simp) 0xFF (by intro hc; rw [hc] at hlt; exact absurd hlt (by decide))
  have ha₂ := hne a (by simp) 0xFE (by intro hc; rw [hc] at hlt; exact absurd hlt (by decide))
  have ha₃ := hne a (by simp) 0xEF (by intro hc; rw [hc] at hlt; exact absurd hlt (by decide))
  have hmark : marks.find? (fun m => m.1.isPrefixOf (ascii (a :: b :: c :: d :: cs))) = none := by
    simp [marks, ascii, List.isPrefixOf, Ne.symm ha₀, Ne.symm ha₁, Ne.symm ha₂, Ne.symm ha₃]
  have hguess : guessUnmarked (ascii (a :: b :: c :: d :: cs)) = .utf8 := by
    simp only [ascii, List.map_cons, guessUnmarked]
    rw [if_neg ha₀, if_neg hb₀]
  rw [decodeGuessed, guess, hmark]
  simp only [hguess, decode]
  exact utf8_ascii h

end TextEncoding
