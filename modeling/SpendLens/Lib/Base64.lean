/-
# Base64

The encoder takes the bytes three at a time; the decoder is a state machine over
single characters, as decoders that skip or refuse foreign characters have to be.
It keeps the number of sextets of the current group (`quad`), the bits carried
over from the last one (`left`), the number of padding characters since the last
sextet and whether padding has begun.  In strict mode every irregularity is an
error, otherwise foreign characters are skipped and decoding ends with the
padding.

`decode_encode` is the round trip, in both modes and for text whose padding has
been stripped and restored.
-/
import Mathlib.Data.List.DropRight
import Mathlib.Data.List.GetD
import Mathlib.Tactic.Common

namespace Base64

/-! ## The alphabet -/

/-- The 64 digits, in order. -/
def alphabet : List Char :=
  "ABCDEFGHIJKLMNOPQRSTUVWXYZabcdefghijklmnopqrstuvwxyz0123456789+/".toList

/-- The digit of a sextet. -/
def digit (n : ℕ) : Char := alphabet.getD n 'A'

/-- The sextet of a digit. -/
def sextet (c : Char) : Option ℕ := alphabet.findIdx? (fun d => d = c)

theorem sextet_digit {n : ℕ} (h : n < 64) : sextet (digit n) = some n := by
  have key : ∀ m : Fin 64, sextet (digit m) = some m.val := by decide +kernel
  exact key ⟨n, h⟩

theorem digit_mem {n : ℕ} (h : n < 64) : digit n ∈ alphabet := by
  have hlt : n < alphabet.length := h
  rw [digit, List.getD_eq_getElem _ _ hlt]
  exact List.getElem_mem hlt

theorem pad_not_mem_alphabet : '=' ∉ alphabet := by decide

theorem digit_ne_pad {n : ℕ} (h : n < 64) : digit n ≠ '=' :=
  fun hd => pad_not_mem_alphabet (hd ▸ digit_mem h)

/-! ## Encoding -/

/-- The digits of a byte string without padding. -/
def digits : List UInt8 → List Char
  | [] => []
  | [a] => [digit (a.toNat / 4), digit (a.toNat % 4 * 16)]
  | [a, b] =>
      [digit (a.toNat / 4), digit (a.toNat % 4 * 16 + b.toNat / 16), digit (b.toNat % 16 * 4)]
  | a :: b :: c :: rest =>
      digit (a.toNat / 4) :: digit (a.toNat % 4 * 16 + b.toNat / 16) ::
        digit (b.toNat % 16 * 4 + c.toNat / 64) :: digit (c.toNat % 64) :: digits rest

/-- As many padding characters as fill the last group of four. -/
def padding (len : ℕ) : List Char := List.replicate ((4 - len % 4) % 4) '='

/-- The padded encoding. -/
def encode (bs : List UInt8) : List Char := digits bs ++ padding (digits bs).length

/-! ## Decoding -/

/-- Decode the rest of a text. -/
def decodeFrom (strict : Bool) (quad left pads : ℕ) (started : Bool) :
    List Char → Except String (List UInt8)
  | [] =>
      if quad = 0 then .ok []
      else if quad = 1 then .error "Invalid base64-encoded string"
      else .error "Incorrect padding"
  | c :: cs =>
      if c = '=' then
        if 2 ≤ quad ∧ 4 ≤ quad + (pads + 1) then
          if strict && !cs.isEmpty then .error "Excess data after padding" else .ok []
        else decodeFrom strict quad left (if 2 ≤ quad then pads + 1 else pads) true cs
      else
        match sextet c with
        | none =>
            if strict then .error "Only base64 data is allowed"
            else decodeFrom strict quad left pads started cs
        | some v =>
            if strict && started then .error "Discontinuous padding not allowed"
            else
              match quad with
              | 0 => decodeFrom strict 1 v 0 started cs
              | 1 => (UInt8.ofNat (left * 4 + v / 16) :: ·) <$>
                  decodeFrom strict 2 (v % 16) 0 started cs
              | 2 => (UInt8.ofNat (left * 16 + v / 4) :: ·) <$>
                  decodeFrom strict 3 (v % 4) 0 started cs
              | _ => (UInt8.ofNat (left * 64 + v) :: ·) <$> decodeFrom strict 0 0 0 started cs

-- nothing decodes to nothing
example (strict : Bool) : decodeFrom strict 0 0 0 false [] = .ok [] := by
  rw [decodeFrom, if_pos rfl]

/-- Decode a text; in strict mode it must not begin with padding. -/
def decode (strict : Bool) (cs : List Char) : Except String (List UInt8) :=
  if strict && cs.head? = some '=' then .error "Leading padding not allowed"
  else decodeFrom strict 0 0 0 false cs

/-! ## The round trip -/

section roundtrip

variable {strict : Bool} {v left pads : ℕ} {cs : List Char}

theorem decodeFrom_digit_zero (hv : v < 64) :
    decodeFrom strict 0 left pads false (digit v :: cs) = decodeFrom strict 1 v 0 false cs := by
  rw [decodeFrom, if_neg (digit_ne_pad hv), sextet_digit hv]
  cases strict <;> rfl

theorem decodeFrom_digit_one (hv : v < 64) :
    decodeFrom strict 1 left pads false (digit v :: cs) =
      (UInt8.ofNat (left * 4 + v / 16) :: ·) <$> decodeFrom strict 2 (v % 16) 0 false cs := by
  rw [decodeFrom, if_neg (digit_ne_pad hv), sextet_digit hv]
  cases strict <;> rfl

theorem decodeFrom_digit_two (hv : v < 64) :
    decodeFrom strict 2 left pads false (digit v :: cs) =
      (UInt8.ofNat (left * 16 + v / 4) :: ·) <$> decodeFrom strict 3 (v % 4) 0 false cs := by
  rw [decodeFrom, if_neg (digit_ne_pad hv), sextet_digit hv]
  cases strict <;> rfl

theorem decodeFrom_digit_three (hv : v < 64) :
    decodeFrom strict 3 left pads false (digit v :: cs) =
      (UInt8.ofNat (left * 64 + v) :: ·) <$> decodeFrom strict 0 0 0 false cs := by
  rw [decodeFrom, if_neg (digit_ne_pad hv), sextet_digit hv]
  cases strict <;> rfl

/-- Two sextets and two padding characters. -/
theorem decodeFrom_pad_two (hv : pads = 0) :
    decodeFrom strict 2 left pads false ['=', '='] = .ok [] := by
  subst hv
  cases strict <;> rfl

/-- Three sextets and one padding character. -/
theorem decodeFrom_pad_three (hv : pads = 0) :
    decodeFrom strict 3 left pads false ['='] = .ok [] := by
  subst hv
  cases strict <;> rfl

end roundtrip

theorem ofNat_eq {a : UInt8} {n : ℕ} (h : n = a.toNat) : UInt8.ofNat n = a := by
  rw [h, UInt8.ofNat_toNat]

/-- Decoding the digits and the padding that fills the last group. -/
theorem decodeFrom_digits (strict : Bool) (bs : List UInt8) :
    decodeFrom strict 0 0 0 false (digits bs ++ padding (digits bs).length) = .ok bs := by
  induction bs using digits.induct with
  | case1 => rfl
  | case2 a =>
      have ha := a.toNat_lt
      have hpad : padding (digits [a]).length = ['=', '='] := rfl
      rw [hpad, digits, List.cons_append, List.cons_append, List.nil_append,
        decodeFrom_digit_zero (by omega), decodeFrom_digit_one (by omega),
        decodeFrom_pad_two rfl, ofNat_eq (a := a) (by omega)]
      rfl
  | case3 a b =>
      have ha := a.toNat_lt
      have hb := b.toNat_lt
      have hpad : padding (digits [a, b]).length = ['='] := rfl
      rw [hpad, digits, List.cons_append, List.cons_append, List.cons_append, List.nil_append,
        decodeFrom_digit_zero (by omega), decodeFrom_digit_one (by omega),
        decodeFrom_digit_two (by omega), decodeFrom_pad_three rfl,
        ofNat_eq (a := a) (by omega), ofNat_eq (a := b) (by omega)]
      rfl
  | case4 a b c rest ih =>
      have ha := a.toNat_lt
      have hb := b.toNat_lt
      have hc := c.toNat_lt
      have hpad : padding (digits (a :: b :: c :: rest)).length =
          padding (digits rest).length := by
        rw [digits]
        simp only [padding, List.length_cons]
        congr 1
        omega
      rw [hpad, digits]
      simp only [List.cons_append]
      rw [decodeFrom_digit_zero (by omega), decodeFrom_digit_one (by omega),
        decodeFrom_digit_two (by omega), decodeFrom_digit_three (by omega), ih,
        ofNat_eq (a := a) (by omega), ofNat_eq (a := b) (by omega),
        ofNat_eq (a := c) (by omega)]
      rfl

/-- The digits of a byte string are digits. -/
theorem mem_alphabet_of_mem_digits {bs : List UInt8} {c : Char} (h : c ∈ digits bs) :
    c ∈ alphabet := by
  induction bs using digits.induct with
  | case1 => cases h
  | case2 a =>
      have ha := a.toNat_lt
      simp only [digits, List.mem_cons, List.not_mem_nil, or_false] at h
      rcases h with rfl | rfl
      · exact digit_mem (by omega)
      · exact digit_mem (by omega)
  | case3 a b =>
      have ha := a.toNat_lt
      have hb := b.toNat_lt
      simp only [digits, List.mem_cons, List.not_mem_nil, or_false] at h
      rcases h with rfl | rfl | rfl
      · exact digit_mem (by omega)
      · exact digit_mem (by omega)
      · exact digit_mem (by omega)
  | case4 a b c' rest ih =>
      have ha := a.toNat_lt
      have hb := b.toNat_lt
      have hc := c'.toNat_lt
      simp only [digits, List.mem_cons] at h
      rcases h with rfl | rfl | rfl | rfl | h
      · exact digit_mem (by omega)
      · exact digit_mem (by omega)
      · exact digit_mem (by omega)
      · exact digit_mem (by omega)
      · exact ih h

theorem head?_encode_ne_pad (bs : List UInt8) : (encode bs).head? ≠ some '=' := by
  cases hd : digits bs with
  | nil => rw [encode, hd]; decide
  | cons c cs =>
      rw [encode, hd]
      intro h
      rw [List.cons_append, List.head?_cons, Option.some.injEq] at h
      have : c ∈ alphabet := mem_alphabet_of_mem_digits (by rw [hd]; exact List.mem_cons_self)
      exact pad_not_mem_alphabet (h ▸ this)

/-- **Round trip**: decoding the encoding of a byte string gives it back, in
either mode. -/
theorem decode_encode (strict : Bool) (bs : List UInt8) : decode strict (encode bs) = .ok bs := by
  have hne := head?_encode_ne_pad bs
  rw [decode, if_neg]
  · exact decodeFrom_digits strict bs
  · rw [Bool.and_eq_true, decide_eq_true_eq]
    exact fun h => hne h.2

/-- An encoding is written in the alphabet and the padding character. -/
theorem mem_alphabet_of_mem_encode {bs : List UInt8} {c : Char} (h : c ∈ encode bs) :
    c ∈ '=' :: alphabet := by
  rw [encode, List.mem_append] at h
  rcases h with h | h
  · exact List.mem_cons_of_mem _ (mem_alphabet_of_mem_digits h)
  · rw [List.eq_of_mem_replicate h]
    exact List.mem_cons_self

/-! ## Stripped padding -/

/-- Remove the padding at the end. -/
def stripPadding (cs : List Char) : List Char := cs.rdropWhile (fun c => c = '=')

/-- Stripping the padding of an encoding leaves its digits. -/
theorem stripPadding_encode (bs : List UInt8) : stripPadding (encode bs) = digits bs := by
  have hd : List.rdropWhile (fun c : Char => decide (c = '=')) (digits bs) = digits bs := by
    rw [List.rdropWhile_eq_self_iff]
    intro hne hlast
    have := mem_alphabet_of_mem_digits (List.getLast_mem hne)
    rw [of_decide_eq_true hlast] at this
    exact pad_not_mem_alphabet this
  rw [stripPadding, encode, padding, List.rdropWhile, List.reverse_append, List.reverse_replicate]
  rw [List.rdropWhile] at hd
  generalize (4 - (digits bs).length % 4) % 4 = n
  induction n with
  | zero => exact hd
  | succ n ih =>
      rw [List.replicate_succ, List.cons_append, List.dropWhile_cons_of_pos (by decide)]
      exact ih

/-- A padded text needs no more padding. -/
theorem padding_length_encode (bs : List UInt8) : padding (encode bs).length = [] := by
  have hmod : (encode bs).length % 4 = 0 := by
    rw [encode, List.length_append, padding, List.length_replicate]
    omega
  rw [padding, hmod]
  rfl

/-- Padding restored after stripping. -/
theorem restore_padding (bs : List UInt8) :
    stripPadding (encode bs) ++ padding (stripPadding (encode bs)).length = encode bs := by
  rw [stripPadding_encode]
  rfl

end Base64
