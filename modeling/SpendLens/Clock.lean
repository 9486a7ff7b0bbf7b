/-
# The clock

`time.time()` is a floating-point number, and what the services ask of it is whether it
lies within a few minutes of an integer: the difference is taken in floating point and
compared with a whole number of seconds.  Around those, a reading of the clock is either
whole or visibly apart from the next whole number, and the comparison is exact.
-/
import SpendLens.GmailOAuth

namespace SpendLens

/-- A reading of the clock, in nanoseconds: a signed number of 64 bits. -/
structure Clock where
  ns : ℤ
  inRange : |ns| ≤ 2 ^ 63

/-- `time.time()`.  Whole seconds are divided as integers, anything else as a floating-point
number. -/
def Clock.time (c : Clock) : ℚ :=
  if c.ns % 10 ^ 9 = 0 then Rounding.roundSig 2 53 ((c.ns / 10 ^ 9 : ℤ) : ℚ)
  else Rounding.roundSig 2 53 (Rounding.roundSig 2 53 c.ns / 10 ^ 9)

/-- A number of moderate size that is whole or a little apart from every whole number. -/
structure Ticks (t : ℚ) : Prop where
  bound : |t| ≤ 2 ^ 40
  apart : ∀ n : ℤ, t = n ∨ 1 / 2 ^ 43 ≤ |t - n|

/-! ## Floating-point numbers -/

theorem roundSig_two_error (q : ℚ) : |Rounding.roundSig 2 53 q - q| ≤ |q| / 2 ^ 53 := by
  have h := Rounding.roundSig_error (b := 2) (p := 53) (by decide) q
  have hunit : ((2 : ℕ) : ℚ) ^ (1 - (53 : ℕ) : ℤ) / 2 = 1 / 2 ^ 53 := by norm_num
  rw [mul_div_assoc, hunit, mul_one_div] at h
  exact h

/-- Rounding does not take a number across a whole one it is apart from. -/
theorem lt_roundSig_two_iff {q : ℚ} {w : ℤ} (hw₀ : 0 ≤ w) (hw : w ≤ 1000)
    (happart : q ≤ w ∨ w + 1 / 2 ^ 43 ≤ q) : (w : ℚ) < Rounding.roundSig 2 53 q ↔ (w : ℚ) < q := by
  have hw₀' : (0 : ℚ) ≤ w := Int.cast_nonneg hw₀
  have hw' : (w : ℚ) ≤ 1000 := by exact_mod_cast hw
  have herror := abs_le.1 (roundSig_two_error q)
  rcases happart with hle | hge
  · have hround : Rounding.roundSig 2 53 q ≤ w := by
      by_cases hsmall : |q| < 2 ^ 53
      · exact Rounding.roundSig_le_intCast (by decide) (by exact_mod_cast hsmall) hle
      · -- so far down, rounding stays below zero
        have hneg : q ≤ 0 := by
          by_contra hpos
          rw [abs_of_pos (not_le.1 hpos)] at hsmall
          linarith
        rw [abs_of_nonpos hneg] at herror
        linarith [herror.2]
    exact iff_of_false (not_lt.2 hround) (not_lt.2 hle)
  · have hpos : 0 ≤ q := by linarith
    rw [abs_of_nonneg hpos] at herror
    have hround : (w : ℚ) < Rounding.roundSig 2 53 q := by linarith [herror.1]
    exact iff_of_true hround (by linarith)

/-- An integer is rounded by no more than its `2 ^ 53`-rd part, and up to there not at all. -/
theorem roundSig_two_intCast (n : ℤ) : Rounding.roundSig 2 53 (n : ℚ) = n ∨
    2 ^ 52 ≤ n ∧ 2 ^ 51 ≤ Rounding.roundSig 2 53 (n : ℚ) ∨
    n ≤ -2 ^ 52 ∧ Rounding.roundSig 2 53 (n : ℚ) ≤ -2 ^ 51 := by
  by_cases hsmall : |(n : ℚ)| < 2 ^ 53
  · exact Or.inl (Rounding.roundSig_intCast (by decide) (by exact_mod_cast hsmall))
  · right
    have herror := abs_le.1 (roundSig_two_error (n : ℚ))
    rcases le_total 0 n with hn | hn
    · have hn' : (0 : ℚ) ≤ n := Int.cast_nonneg hn
      rw [abs_of_nonneg hn'] at hsmall herror
      have hlarge : (2 ^ 52 : ℚ) ≤ n := by linarith
      exact Or.inl ⟨by exact_mod_cast hlarge, by linarith [herror.1]⟩
    · have hn' : (n : ℚ) ≤ 0 := Int.cast_nonpos.2 hn
      rw [abs_of_nonpos hn'] at hsmall herror
      have hlarge : (n : ℚ) ≤ -2 ^ 52 := by linarith
      exact Or.inr ⟨by exact_mod_cast hlarge, by linarith [herror.2]⟩

/-! ## Differences from an integer -/

namespace Ticks

variable {t : ℚ} {w : ℤ}

/-- **The floating-point difference** of a time that ticks and an integer, compared with a
whole number of seconds, compares as the difference does. -/
theorem lt_floatSub_iff (ht : Ticks t) (hw₀ : 0 ≤ w) (hw : w ≤ 1000) (n : ℤ) :
    (w : ℚ) < floatSub t (Rounding.roundSig 2 53 n) ↔ (w : ℚ) < t - n := by
  have hw₀' : (0 : ℚ) ≤ w := Int.cast_nonneg hw₀
  have hw' : (w : ℚ) ≤ 1000 := by exact_mod_cast hw
  have hbound := abs_le.1 ht.bound
  rw [floatSub]
  rcases roundSig_two_intCast n with hn | ⟨hn, hround⟩ | ⟨hn, hround⟩
  · rw [hn]
    apply lt_roundSig_two_iff hw₀ hw
    rcases ht.apart (n + w) with heq | hapart
    · left
      rw [heq]
      push_cast
      linarith
    · push_cast at hapart
      rcases le_abs.1 hapart with h | h
      · right
        linarith
      · left
        linarith [h]
  · have hn' : (2 ^ 52 : ℚ) ≤ n := by exact_mod_cast hn
    rw [lt_roundSig_two_iff hw₀ hw (Or.inl (by linarith))]
    exact iff_of_false (by linarith) (by linarith)
  · have hn' : (n : ℚ) ≤ -2 ^ 52 := by exact_mod_cast hn
    rw [lt_roundSig_two_iff hw₀ hw (Or.inr (by linarith))]
    exact iff_of_true (by linarith) (by linarith)

/-- The same, for the opposite difference. -/
theorem lt_floatSub_iff' (ht : Ticks t) (hw₀ : 0 ≤ w) (hw : w ≤ 1000) (n : ℤ) :
    (w : ℚ) < floatSub (Rounding.roundSig 2 53 n) t ↔ (w : ℚ) < n - t := by
  have hw₀' : (0 : ℚ) ≤ w := Int.cast_nonneg hw₀
  have hw' : (w : ℚ) ≤ 1000 := by exact_mod_cast hw
  have hbound := abs_le.1 ht.bound
  rw [floatSub]
  rcases roundSig_two_intCast n with hn | ⟨hn, hround⟩ | ⟨hn, hround⟩
  · rw [hn]
    apply lt_roundSig_two_iff hw₀ hw
    rcases ht.apart (n - w) with heq | hapart
    · left
      rw [heq]
      push_cast
      linarith
    · push_cast at hapart
      rcases le_abs.1 hapart with h | h
      · left
        linarith [h]
      · right
        linarith
  · have hn' : (2 ^ 52 : ℚ) ≤ n := by exact_mod_cast hn
    rw [lt_roundSig_two_iff hw₀ hw (Or.inr (by linarith))]
    exact iff_of_true (by linarith) (by linarith)
  · have hn' : (n : ℚ) ≤ -2 ^ 52 := by exact_mod_cast hn
    rw [lt_roundSig_two_iff hw₀ hw (Or.inl (by linarith))]
    exact iff_of_false (by linarith) (by linarith)

/-- A time that ticks is within a whole number of seconds of an integer exactly if their
floating-point difference says so. -/
theorem abs_floatSub_le_iff (ht : Ticks t) (hw₀ : 0 ≤ w) (hw : w ≤ 1000) (n : ℤ) :
    |floatSub t (Rounding.roundSig 2 53 n)| ≤ (w : ℚ) ↔ |t - n| ≤ (w : ℚ) := by
  have hswap : floatSub (Rounding.roundSig 2 53 n) t = -floatSub t (Rounding.roundSig 2 53 n) := by
    rw [floatSub, floatSub, ← Rounding.roundSig_neg, neg_sub]
  have hpast := ht.lt_floatSub_iff hw₀ hw n
  have hfuture := ht.lt_floatSub_iff' hw₀ hw n
  rw [hswap] at hfuture
  rw [← not_lt, ← not_lt, lt_abs, lt_abs, hpast, hfuture, neg_sub]

/-- An integer near a time that ticks has a floating-point number. -/
theorem natAbs_lt_floatLimit (ht : Ticks t) (hw : w ≤ 1000) {n : ℤ} (h : |t - n| ≤ w) :
    n.natAbs < floatLimit := by
  have hw' : (w : ℚ) ≤ 1000 := by exact_mod_cast hw
  have hbound := abs_le.1 ht.bound
  have hnear := abs_le.1 h
  have habs : |(n : ℚ)| ≤ 2 ^ 41 := abs_le.2 ⟨by linarith [hnear.2], by linarith [hnear.1]⟩
  have hnat : n.natAbs ≤ 2 ^ 41 := by
    have hint : |n| ≤ 2 ^ 41 := by exact_mod_cast habs
    have := abs_le.1 hint
    omega
  have hpow : (2 : ℕ) ^ 1024 = 2 ^ 54 * 2 ^ 970 := by rw [← pow_add]
  have hmono : (2 : ℕ) ^ 41 < 2 ^ 970 := pow_lt_pow_right₀ one_lt_two (by decide)
  rw [floatLimit, hpow]
  generalize (2 : ℕ) ^ 970 = unit at hmono
  omega

end Ticks

/-! ## Readings -/

/-- A multiple of a unit is no nearer to zero than the unit. -/
theorem unit_le_abs {u r : ℚ} (hu : 0 < u) {z : ℤ} (hz : r = z * u) (hr : r ≠ 0) : u ≤ |r| := by
  have hne : z ≠ 0 := by
    rintro rfl
    rw [Int.cast_zero, zero_mul] at hz
    exact hr hz
  have hone : (1 : ℚ) ≤ |(z : ℚ)| := by exact_mod_cast Int.one_le_abs hne
  rw [hz, abs_mul, abs_of_pos hu]
  exact le_mul_of_one_le_left hu.le hone

theorem Ticks.intCast {n : ℤ} (h : |(n : ℚ)| ≤ 2 ^ 40) : Ticks n := by
  refine ⟨h, fun m => ?_⟩
  by_cases heq : (n : ℚ) = m
  · exact Or.inl heq
  · right
    have hsub : (n : ℚ) - m = ((n - m : ℤ) : ℚ) * 1 := by
      push_cast
      ring
    have hone := unit_le_abs one_pos hsub (sub_ne_zero.2 heq)
    exact le_trans (by norm_num) hone

/-- From `2 ^ 9` on, floating-point numbers are multiples of `2 ^ -43`. -/
theorem Ticks.of_large {q : ℚ} (hlarge : 2 ^ 9 ≤ |q|) (hq : |Rounding.roundSig 2 53 q| ≤ 2 ^ 40) :
    Ticks (Rounding.roundSig 2 53 q) := by
  obtain ⟨m, hm⟩ := Rounding.exists_roundSig_eq (b := 2) (p := 53) (q := q) (by decide)
    (e := 9) (by exact_mod_cast hlarge)
  have hunit : ((2 : ℕ) : ℚ) ^ (9 - ((53 : ℕ) - 1) : ℤ) = 1 / 2 ^ 43 := by norm_num
  rw [hunit] at hm
  refine ⟨hq, fun n => ?_⟩
  by_cases heq : Rounding.roundSig 2 53 q = n
  · exact Or.inl heq
  · right
    have hsub : Rounding.roundSig 2 53 q - n = ((m - n * 2 ^ 43 : ℤ) : ℚ) * (1 / 2 ^ 43) := by
      rw [hm]
      push_cast
      ring
    exact unit_le_abs (by norm_num) hsub (sub_ne_zero.2 heq)

/-- Below `2 ^ 9` seconds, nanoseconds that make no whole second stay apart from every one. -/
theorem Ticks.of_small {ns : ℤ} (hsmall : |(ns / 10 ^ 9 : ℚ)| < 2 ^ 9) (hpart : ns % 10 ^ 9 ≠ 0)
    (hq : |Rounding.roundSig 2 53 (ns / 10 ^ 9)| ≤ 2 ^ 40) :
    Ticks (Rounding.roundSig 2 53 (ns / 10 ^ 9)) := by
  refine ⟨hq, fun n => Or.inr ?_⟩
  have hsub : (ns / 10 ^ 9 - n : ℚ) = ((ns - n * 10 ^ 9 : ℤ) : ℚ) * (1 / 10 ^ 9) := by
    push_cast
    ring
  have hne : (ns / 10 ^ 9 - n : ℚ) ≠ 0 := by
    intro hzero
    rw [hsub, mul_eq_zero, or_iff_left (by norm_num), Int.cast_eq_zero] at hzero
    omega
  have hoff := unit_le_abs (by norm_num) hsub hne
  have herror := roundSig_two_error (ns / 10 ^ 9)
  have htri := abs_sub_le (ns / 10 ^ 9 : ℚ) (Rounding.roundSig 2 53 (ns / 10 ^ 9)) n
  rw [abs_sub_comm (ns / 10 ^ 9 : ℚ) (Rounding.roundSig 2 53 _)] at htri
  linarith

/-- **Every reading of the clock ticks.** -/
theorem Clock.ticks (c : Clock) : Ticks c.time := by
  have hrange : |(c.ns : ℚ)| ≤ 2 ^ 63 := by exact_mod_cast c.inRange
  by_cases hwhole : c.ns % 10 ^ 9 = 0
  · have hbound : |((c.ns / 10 ^ 9 : ℤ) : ℚ)| ≤ 2 ^ 40 := by
      have hint : |c.ns / 10 ^ 9| ≤ 2 ^ 40 := by
        have h := abs_le.1 c.inRange
        exact abs_le.2 ⟨by omega, by omega⟩
      exact_mod_cast hint
    have htime : c.time = ((c.ns / 10 ^ 9 : ℤ) : ℚ) := by
      rw [Clock.time, if_pos hwhole]
      apply Rounding.roundSig_intCast (by decide)
      push_cast at hbound ⊢
      linarith
    rw [htime]
    exact Ticks.intCast hbound
  · rw [Clock.time, if_neg hwhole]
    -- the nanoseconds as a floating-point number, and their quotient as one
    generalize hx : Rounding.roundSig 2 53 (c.ns : ℚ) = x
    have hx_error := roundSig_two_error (c.ns : ℚ)
    rw [hx] at hx_error
    have hx_bound : |x| ≤ 2 ^ 64 := by
      have h := abs_sub_abs_le_abs_sub x (c.ns : ℚ)
      linarith
    have hquot : |x / 10 ^ 9| = |x| / 10 ^ 9 := by
      rw [abs_div, abs_of_pos (by norm_num : (0 : ℚ) < 10 ^ 9)]
    have ht_bound : |Rounding.roundSig 2 53 (x / 10 ^ 9)| ≤ 2 ^ 40 := by
      have herror := roundSig_two_error (x / 10 ^ 9)
      have h := abs_sub_abs_le_abs_sub (Rounding.roundSig 2 53 (x / 10 ^ 9)) (x / 10 ^ 9)
      rw [hquot] at herror h
      linarith
    by_cases hlarge : 2 ^ 9 ≤ |x / 10 ^ 9|
    · exact Ticks.of_large hlarge ht_bound
    · have hexact : x = c.ns := by
        rw [← hx]
        apply Rounding.roundSig_intCast (by decide)
        have h := abs_sub_abs_le_abs_sub (c.ns : ℚ) x
        rw [abs_sub_comm] at h
        rw [hquot] at hlarge
        push_cast
        linarith
      subst hexact
      exact Ticks.of_small (not_le.1 hlarge) hwhole ht_bound

/-- The reading a minute past midnight, at the start of 2026. -/
def sampleClock : Clock := ⟨1767225660 * 10 ^ 9, by decide⟩

theorem time_sampleClock : sampleClock.time = 1767225660 := by
  rw [Clock.time, if_pos (by decide)]
  have hns : sampleClock.ns / 10 ^ 9 = 1767225660 := by decide
  rw [hns]
  exact Rounding.roundSig_intCast (by decide) (by norm_num)

end SpendLens
