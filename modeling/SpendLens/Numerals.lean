/-
# Integers as text

What `int(text)` reads and `str(n)` writes: decimal digits of any script are read as
their number, up to 4300 of them, and a written integer is read back.
-/
import SpendLens.GmailOAuth

namespace SpendLens

/-! ## Decimal digits -/

section

variable (U : Unicode)

/-- The number that decimal digits of any script denote, behind the digits of `acc`. -/
def decimalVal (acc : ℕ) (cs : List Char) : ℕ :=
  cs.foldl (fun acc c => acc * 10 + (U.decimal c).getD 0) acc

/-- Decimal digits are read as their number. -/
theorem baseTenFrom_of_decimal {cs : List Char} (h : ∀ c ∈ cs, (U.decimal c).isSome = true)
    (last : Bool) (count acc : ℕ) (hne : last = true ∨ cs ≠ []) :
    baseTenFrom U last count acc cs = some (count + cs.length, decimalVal U acc cs) := by
  induction cs generalizing last count acc with
  | nil =>
      have hlast : last = true := by simpa using hne
      simp [baseTenFrom, decimalVal, hlast]
  | cons c cs ih =>
      obtain ⟨v, hv⟩ := Option.isSome_iff_exists.1 (h c List.mem_cons_self)
      have hunderscore : c ≠ '_' := by
        rintro rfl
        rw [U.decimal_ascii '_' (by decide)] at hv
        cases hv
      rw [baseTenFrom, if_neg hunderscore, hv]
      simp only
      rw [ih (fun d hd => h d (List.mem_cons_of_mem _ hd)) true _ _ (Or.inl rfl), List.length_cons,
        decimalVal, decimalVal, List.foldl_cons, hv, Option.getD_some]
      congr 2
      omega

theorem decimal_of_isDigit {c : Char} (h : c.isDigit = true) :
    U.decimal c = some (c.toNat - '0'.toNat) := by
  rw [U.decimal_ascii c (Unicode.toNat_lt_of_isDigit h), if_pos h]

theorem decimalVal_of_isDigit {cs : List Char} (h : ∀ c ∈ cs, c.isDigit = true) (acc : ℕ) :
    decimalVal U acc cs = Nat.ofDigitChars 10 cs acc := by
  induction cs generalizing acc with
  | nil => rw [Nat.ofDigitChars_nil]; rfl
  | cons c cs ih =>
      rw [Nat.ofDigitChars_cons, ← ih (fun d hd => h d (List.mem_cons_of_mem _ hd)), decimalVal,
        List.foldl_cons, decimal_of_isDigit U (h c List.mem_cons_self), Nat.mul_comm 10 acc]
      rfl

/-- `int` of decimal digits behind an optional sign. -/
theorem intBaseTen_of_signed {cs ds : List Char} {neg : Bool} (hstrip : stripChars cs = cs)
    (hsign : Decimal.takeSign cs = (neg, ds)) (hne : ds ≠ [])
    (h : ∀ c ∈ ds, (U.decimal c).isSome = true) :
    intBaseTen U cs = if ds.length ≤ 4300 then
      some (if neg then -(decimalVal U 0 ds : ℤ) else (decimalVal U 0 ds : ℤ)) else none := by
  rw [intBaseTen, hstrip, hsign]
  simp only [baseTenFrom_of_decimal U h false 0 0 (Or.inr hne), Nat.zero_add]

/-- `int` of decimal digits. -/
theorem intBaseTen_of_decimal {cs : List Char} (hne : cs ≠ [])
    (h : ∀ c ∈ cs, (U.decimal c).isSome = true) :
    intBaseTen U cs = if cs.length ≤ 4300 then some (decimalVal U 0 cs : ℤ) else none := by
  have hdigit : ∀ c : Char, c.toNat < 128 → (U.decimal c).isSome = true → c.isDigit = true := by
    intro c hlt hc
    by_contra hd
    rw [U.decimal_ascii c hlt, if_neg hd] at hc
    cases hc
  have hsigned : Decimal.takeSign cs = (false, cs) := by
    unfold Decimal.takeSign
    split
    · exact absurd (hdigit '-' (by decide) (h _ List.mem_cons_self)) (by decide)
    · exact absurd (hdigit '+' (by decide) (h _ List.mem_cons_self)) (by decide)
    · rfl
  exact intBaseTen_of_signed U (trim_eq_self (fun c hc => U.decimal_not_space c (h c hc))) hsigned
    hne h

end

/-! ## Written integers -/

theorem isDigit_of_mem_repr {n : ℕ} {c : Char} (h : c ∈ n.repr.toList) : c.isDigit = true := by
  rw [Nat.toList_repr] at h
  exact Nat.isDigit_of_mem_toDigits (by decide) (by decide) h

/-- The characters of a written integer. -/
theorem mem_toString_int {t : ℤ} {c : Char} (h : c ∈ (toString t).toList) :
    c = '-' ∨ c.isDigit = true := by
  rw [Int.toString_eq_repr, Int.repr_eq_if] at h
  split at h
  · exact Or.inr (isDigit_of_mem_repr h)
  · rw [String.toList_append, List.mem_append] at h
    rcases h with h | h
    · exact Or.inl (List.mem_singleton.1 h)
    · exact Or.inr (isDigit_of_mem_repr h)

/-- **Round trip**: a written integer of at most 4300 digits is read back. -/
theorem intBaseTen_toString (U : Unicode) {t : ℤ} (h : t.natAbs.repr.length ≤ 4300) :
    intBaseTen U (toString t).toList = some t := by
  have hdigits : ∀ c ∈ t.natAbs.repr.toList, c.isDigit = true := fun c hc => isDigit_of_mem_repr hc
  have hdecimal : ∀ c ∈ t.natAbs.repr.toList, (U.decimal c).isSome = true := by
    intro c hc
    rw [decimal_of_isDigit U (hdigits c hc)]
    rfl
  have hne : t.natAbs.repr.toList ≠ [] := by
    rw [Nat.toList_repr]
    exact Nat.toDigits_ne_nil
  have hval : decimalVal U 0 t.natAbs.repr.toList = t.natAbs := by
    rw [decimalVal_of_isDigit U hdigits, Nat.toList_repr, Nat.ofDigitChars_ten_toDigits]
  have hlength : t.natAbs.repr.toList.length ≤ 4300 := by
    rw [String.length_toList]
    exact h
  by_cases hneg : t < 0
  · have habs : (-t).toNat = t.natAbs := by omega
    have hchars : (toString t).toList = '-' :: t.natAbs.repr.toList := by
      rw [Int.toString_eq_repr, Int.repr_eq_if, if_neg (not_le.2 hneg), habs, String.toList_append]
      rfl
    have hstrip : stripChars (toString t).toList = (toString t).toList := by
      apply trim_eq_self
      intro c hc
      rcases mem_toString_int hc with rfl | hd
      · decide
      · exact U.decimal_not_space c (by rw [decimal_of_isDigit U hd]; rfl)
    rw [intBaseTen_of_signed U hstrip (by rw [hchars]; rfl) hne hdecimal, if_pos hlength, if_pos rfl,
      hval, Option.some.injEq]
    omega
  · have habs : t.toNat = t.natAbs := by omega
    rw [Int.toString_eq_repr, Int.repr_eq_if, if_pos (not_lt.1 hneg), habs,
      intBaseTen_of_decimal U hne hdecimal, if_pos hlength, hval, Option.some.injEq]
    omega

theorem toString_int_injective {s t : ℤ} (h : toString s = toString t) : s = t := by
  have hnat : ∀ {m n : ℕ}, m.repr = n.repr → m = n := by
    intro m n hmn
    have key := congrArg (fun s : String => Nat.ofDigitChars 10 s.toList 0) hmn
    simpa only [Nat.toList_repr, Nat.ofDigitChars_ten_toDigits] using key
  have hminus : ∀ {m n : ℕ}, m.repr ≠ "-" ++ n.repr := by
    intro m n hmn
    have hmem : '-' ∈ m.repr.toList := by
      rw [hmn, String.toList_append]
      exact List.mem_append_left _ List.mem_cons_self
    exact absurd (isDigit_of_mem_repr hmem) (by decide)
  rw [Int.toString_eq_repr, Int.toString_eq_repr, Int.repr_eq_if, Int.repr_eq_if] at h
  split at h <;> split at h
  · have := hnat h
    omega
  · exact absurd h hminus
  · exact absurd h.symm hminus
  · have := hnat ((String.append_right_inj _).1 h)
    omega

/-! ## Fields -/

/-- Two texts that agree up to their first separator agree on both sides of it. -/
theorem cut_at_first {α : Type} [BEq α] [LawfulBEq α] {sep : α} {a b x y : List α} (ha : sep ∉ a)
    (hb : sep ∉ b) (h : a ++ sep :: x = b ++ sep :: y) : a = b ∧ x = y := by
  have hsplit := congrArg (fun l => List.splitOn sep l) h
  simp only [List.splitOn_append_cons_self_of_not_mem ha,
    List.splitOn_append_cons_self_of_not_mem hb, List.cons.injEq] at hsplit
  obtain ⟨rfl, -⟩ := hsplit
  have hrest := List.append_cancel_left h
  rw [List.cons.injEq] at hrest
  exact ⟨rfl, hrest.2⟩

end SpendLens
