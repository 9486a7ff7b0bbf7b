/-
# Which texts a lenient base64 decoder refuses

A decoder that skips foreign characters reads a text as groups of four digits.  It stops where
padding completes a group of two or three, and it refuses a text only if the text ends inside
a group before that happens.  `Unfinished` says so of the text, without the decoder, and
`decode_lenient_error_iff` that nothing else is refused.
-/
import SpendLens.Lib.Base64
import Mathlib.Data.List.TakeWhile

namespace Base64

/-! ## Groups -/

/-- How many digits a text has. -/
def sextets (cs : List Char) : ℕ := cs.countP (fun c => (sextet c).isSome)

/-- How many padding characters stand behind the last digit. -/
def trailing (cs : List Char) : ℕ :=
  (cs.reverse.takeWhile (fun c => (sextet c).isNone)).count '='

/-- A padding character behind this text completes its last group. -/
def Closes (cs : List Char) : Prop :=
  2 ≤ sextets cs % 4 ∧ 4 ≤ sextets cs % 4 + (trailing cs + 1)

/-- No padding completes a group, and the text ends inside one. -/
def Unfinished (cs : List Char) : Prop :=
  (∀ front, front ++ ['='] <+: cs → ¬ Closes front) ∧ sextets cs % 4 ≠ 0

theorem sextet_pad : sextet '=' = none := by decide

theorem sextets_concat (cs : List Char) (c : Char) :
    sextets (cs ++ [c]) = sextets cs + if (sextet c).isSome then 1 else 0 := by
  rw [sextets, List.countP_append, List.countP_singleton, sextets]

theorem trailing_concat_digit (cs : List Char) {c : Char} (h : (sextet c).isSome) :
    trailing (cs ++ [c]) = 0 := by
  have hdigit : ¬ (sextet c).isNone = true := by
    rw [Option.isNone_iff_eq_none]
    rintro hnone
    rw [hnone] at h
    cases h
  rw [trailing, List.reverse_append, List.reverse_singleton, List.singleton_append,
    List.takeWhile_cons, if_neg hdigit]
  rfl

theorem trailing_concat_foreign (cs : List Char) {c : Char} (h : sextet c = none) :
    trailing (cs ++ [c]) = trailing cs + if c = '=' then 1 else 0 := by
  rw [trailing, List.reverse_append, List.reverse_singleton, List.singleton_append,
    List.takeWhile_cons_of_pos (by rw [h]; rfl), List.count_cons, trailing]
  simp only [beq_iff_eq]

/-! ## Refusal -/

/-- A prefix that ends in padding, one character later. -/
theorem forall_prefix_cons {P : List Char → Prop} (front cs : List Char) (c : Char) :
    (∀ mid, mid ++ ['='] <+: c :: cs → P (front ++ mid)) ↔
      (c = '=' → P front) ∧ ∀ mid, mid ++ ['='] <+: cs → P ((front ++ [c]) ++ mid) := by
  constructor
  · intro h
    constructor
    · rintro rfl
      have := h [] ⟨cs, rfl⟩
      rwa [List.append_nil] at this
    · rintro mid ⟨rest, rfl⟩
      have := h (c :: mid) ⟨rest, rfl⟩
      rwa [List.append_assoc, List.singleton_append]
  · rintro ⟨hpad, hrest⟩ mid ⟨rest, hmid⟩
    cases mid with
    | nil =>
        cases hmid
        rw [List.append_nil]
        exact hpad rfl
    | cons d mid =>
        cases hmid
        have := hrest mid ⟨rest, rfl⟩
        rwa [List.append_assoc, List.singleton_append] at this

/-- **What the lenient decoder refuses of the rest of a text**, behind a front part that has left
it in this state. -/
theorem decodeFrom_lenient_error_iff (front : List Char) {quad left pads : ℕ} {started : Bool}
    {cs : List Char} (hquad : quad = sextets front % 4) (hpads : 2 ≤ quad → pads = trailing front) :
    (∃ e, decodeFrom false quad left pads started cs = .error e) ↔
      (∀ mid, mid ++ ['='] <+: cs → ¬ Closes (front ++ mid)) ∧ sextets (front ++ cs) % 4 ≠ 0 := by
  induction cs generalizing front quad left pads started with
  | nil =>
      rw [List.append_nil, ← hquad, decodeFrom]
      have hnone : ∀ mid, mid ++ ['='] <+: [] → ¬ Closes (front ++ mid) := by
        intro mid hmid
        exact absurd (List.prefix_nil.1 hmid) (by simp)
      by_cases hzero : quad = 0
      · rw [if_pos hzero]
        constructor
        · rintro ⟨e, he⟩
          cases he
        · rintro ⟨-, hne⟩
          exact absurd hzero hne
      · rw [if_neg hzero]
        refine iff_of_true ?_ ⟨hnone, hzero⟩
        split
        · exact ⟨_, rfl⟩
        · exact ⟨_, rfl⟩
  | cons c cs ih =>
      have hsplit : front ++ c :: cs = (front ++ [c]) ++ cs := by
        rw [List.append_assoc, List.singleton_append]
      rw [forall_prefix_cons (P := fun cs => ¬ Closes cs), hsplit]
      by_cases hpad : c = '='
      · subst hpad
        have hcloses : Closes front ↔ 2 ≤ quad ∧ 4 ≤ quad + (pads + 1) := by
          rw [Closes, ← hquad]
          exact and_congr_right fun h => by rw [hpads h]
        have hquad' : quad = sextets (front ++ ['=']) % 4 := by
          rw [sextets_concat, sextet_pad]
          exact hquad
        have hpads' : 2 ≤ quad → (if 2 ≤ quad then pads + 1 else pads) = trailing (front ++ ['=']) := by
          intro h
          rw [if_pos h, trailing_concat_foreign _ sextet_pad, if_pos rfl, hpads h]
        rw [decodeFrom, if_pos rfl]
        by_cases hclose : 2 ≤ quad ∧ 4 ≤ quad + (pads + 1)
        · rw [if_pos hclose]
          constructor
          · rintro ⟨e, he⟩
            cases he
          · rintro ⟨⟨hopen, -⟩, -⟩
            exact absurd (hcloses.2 hclose) (hopen rfl)
        · rw [if_neg hclose, ih _ hquad' hpads']
          have hopen : ('=' = '=' → ¬ Closes front) := fun _ h => hclose (hcloses.1 h)
          rw [and_iff_right hopen]
      · have hopen : (c = '=' → ¬ Closes front) := fun h => absurd h hpad
        rw [decodeFrom, if_neg hpad, and_iff_right hopen]
        cases hdigit : sextet c with
        | none =>
            have hquad' : quad = sextets (front ++ [c]) % 4 := by
              rw [sextets_concat, hdigit]
              exact hquad
            have hpads' : 2 ≤ quad → pads = trailing (front ++ [c]) := by
              intro h
              rw [trailing_concat_foreign _ hdigit, if_neg hpad]
              exact hpads h
            exact ih _ hquad' hpads'
        | some v =>
            have hsome : (sextet c).isSome := by rw [hdigit]; rfl
            have hcount : sextets (front ++ [c]) = sextets front + 1 := by
              rw [sextets_concat, if_pos hsome]
            have hnext : ∀ {q left : ℕ}, q = (quad + 1) % 4 →
                ((∃ e, decodeFrom false q left 0 started cs = .error e) ↔
                  (∀ mid, mid ++ ['='] <+: cs → ¬ Closes (front ++ [c] ++ mid)) ∧
                    sextets (front ++ [c] ++ cs) % 4 ≠ 0) := by
              intro q left hq
              refine ih _ ?_ fun _ => (trailing_concat_digit _ hsome).symm
              rw [hcount]
              omega
            have hmap : ∀ {f : List UInt8 → List UInt8} {x : Except String (List UInt8)},
                (∃ e, f <$> x = .error e) ↔ ∃ e, x = .error e := by
              intro f x
              cases x with
              | error e => exact iff_of_true ⟨e, rfl⟩ ⟨e, rfl⟩
              | ok a => exact iff_of_false (by rintro ⟨e, he⟩; cases he) (by rintro ⟨e, he⟩; cases he)
            have hlt : quad < 4 := by omega
            obtain rfl | rfl | rfl | rfl : quad = 0 ∨ quad = 1 ∨ quad = 2 ∨ quad = 3 := by omega
            · exact hnext rfl
            · exact hmap.trans (hnext rfl)
            · exact hmap.trans (hnext rfl)
            · exact hmap.trans (hnext rfl)

/-- **Nothing but an unfinished text is refused.** -/
theorem decode_lenient_error_iff (cs : List Char) :
    (∃ e, decode false cs = .error e) ↔ Unfinished cs :=
  decodeFrom_lenient_error_iff [] rfl (fun h => absurd h (by decide))

end Base64
