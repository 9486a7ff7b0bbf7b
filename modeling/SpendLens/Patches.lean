/-
# Partial updates

A patch assigns some columns of a loaded row, and a flush writes those of its assignments
that change the row.  Field by field, the column ends up with its old value or with what
the database makes of the assigned one.
-/
import SpendLens.Lib.Fallible
import SpendLens.ExpenseSchema

namespace SpendLens

/-! ## One field -/

/-- What the flush makes of one column: its value `v`, unless an assignment changes it. -/
def patched {α β : Type} (changes : Option α → Bool) (store : Option α → Except PyExc β) (v : β) :
    Option (Option α) → Except PyExc β
  | none => .ok v
  | some u => if changes u then store u else .ok v

section patched

variable {α β : Type} {changes : Option α → Bool} {store : Option α → Except PyExc β} {v a : β}
  {p : Option (Option α)}

/-- The ways a column ends up with a value. -/
theorem patched_eq_ok : patched changes store v p = .ok a ↔
    p = none ∧ v = a ∨
      ∃ u, p = some u ∧ (changes u = false ∧ v = a ∨ changes u = true ∧ store u = .ok a) := by
  cases p with
  | none => simp [patched]
  | some u => cases hc : changes u <;> simp [patched, hc]

/-- A column that is refused is refused as what is assigned to it. -/
theorem patched_eq_error {e : PyExc} (h : patched changes store v p = .error e) :
    ∃ u, store u = .error e := by
  cases p with
  | none => cases h
  | some u =>
      rw [patched] at h
      split at h
      · exact ⟨u, h⟩
      · cases h

end patched

/-- A column that holds every value gets the one assigned, if it is one. -/
theorem patched_storeSome {α : Type} [DecidableEq α] (v : α) (p : Option (Option α)) :
    patched (fun u => decide (u ≠ some v)) storeSome v p = storeSome (p.getD (some v)) := by
  cases p with
  | none => rfl
  | some u =>
      rw [patched, Option.getD_some]
      by_cases h : u = some v
      · rw [if_neg (by simpa using h), h]
        rfl
      · rw [if_pos (by simpa using h)]

theorem exists_getD_of_ne {α : Type} {p : Option (Option α)} (h : p ≠ some none) (v : α) :
    ∃ u, p.getD (some v) = some u := by
  cases p with
  | none => exact ⟨v, rfl⟩
  | some u =>
      cases u with
      | none => exact absurd rfl h
      | some u => exact ⟨u, rfl⟩

/-! ## Several fields -/

/-- The assignment of one field, if it is one, in front of others. -/
theorem storeAll_field {Row Column α β : Type} {storeRow : Row → Column → Except PyExc Row}
    {changes : Column → Bool} {column : Option α → Column} {store : Option α → Except PyExc β}
    (r : Row) (set : β → Row) {v : β} (hstore : ∀ u, storeRow r (column u) = (store u).map set)
    (hset : set v = r) (p : Option (Option α)) (cs : List Column) :
    storeAll storeRow r ((p.map column).toList.filter changes ++ cs) =
      patched (fun u => changes (column u)) store v p >>= fun a => storeAll storeRow (set a) cs := by
  cases p with
  | none =>
      show storeAll storeRow r cs = storeAll storeRow (set v) cs
      rw [hset]
  | some u =>
      rw [Option.map_some, Option.toList_some, patched]
      cases hc : changes (column u) with
      | false =>
          rw [List.filter_cons_of_neg (by simpa using hc), if_neg Bool.false_ne_true]
          show storeAll storeRow r cs = storeAll storeRow (set v) cs
          rw [hset]
      | true =>
          rw [List.filter_cons_of_pos hc, if_pos rfl, List.filter_nil, List.cons_append,
            List.nil_append, storeAll, hstore]
          cases store u with
          | error e => rfl
          | ok a => rfl

/-! ## Refusals -/

/-- The errors of a constraint or a length. -/
def PyExc.isColumnError : PyExc → Bool
  | integrityError => true
  | dataError => true
  | _ => false

theorem storeSome_error {α : Type} {v : Option α} {e : PyExc} (h : storeSome v = .error e) :
    e.isColumnError = true := by
  cases v with
  | none =>
      cases h
      rfl
  | some a => cases h

theorem storeText_error {n : ℕ} {v : Option String} {e : PyExc} (h : storeText n v = .error e) :
    e.isColumnError = true := by
  cases v with
  | none =>
      cases h
      rfl
  | some s =>
      rw [storeText] at h
      split at h
      · cases h
      · cases h
        rfl

theorem storeOptText_error {n : ℕ} {v : Option String} {e : PyExc}
    (h : storeOptText n v = .error e) : e.isColumnError = true := by
  cases v with
  | none => cases h
  | some s =>
      rw [storeOptText] at h
      split at h
      · cases h
      · cases h
        rfl

theorem storeAmount_error {v : Option Decimal} {e : PyExc} (h : storeAmount v = .error e) :
    e.isColumnError = true := by
  cases v with
  | none =>
      cases h
      rfl
  | some d =>
      rw [storeAmount] at h
      split at h
      · cases h
        rfl
      · cases h

/-! ## Amounts -/

/-- The column has room for the decimal places of an amount. -/
def scaleOk : Decimal → Bool
  | .fin _ _ exp => -16383 ≤ exp
  | _ => true

/-- An amount as the column keeps it. -/
def storedAmount (d : Decimal) : Numeric :=
  match d.value? with
  | some q => .cents (roundCents q)
  | none => .nan

/-- **The column takes an amount of at most twelve digits**, rounded to cents, unless it has
too many decimal places. -/
theorem storeAmount_of_le {coef : ℕ} {exp : ℤ}
    (h : Decimal.magnitude coef exp ≤ 999999999999 / 100) :
    storeAmount (some (.fin false coef exp)) =
      if scaleOk (.fin false coef exp) = true then .ok (storedAmount (.fin false coef exp))
      else .error .dataError := by
  have hlt : roundCents (Decimal.magnitude coef exp) < 10 ^ 12 := by
    have hfloor : ⌊Decimal.magnitude coef exp * 100 + 1 / 2⌋ < 10 ^ 12 := by
      rw [Int.floor_lt]
      push_cast
      linarith
    rw [roundCents]
    omega
  rw [storeAmount, Decimal.toNumeric]
  by_cases hexp : exp < -16383
  · rw [if_pos hexp, if_neg (by simpa [scaleOk] using hexp)]
  · have hscale : scaleOk (.fin false coef exp) = true := by simpa [scaleOk] using hexp
    rw [if_neg hexp, hscale]
    simp only [hlt, if_true, Bool.false_eq_true, if_false]
    rfl

/-- An amount that equals a stored one is stored as that one. -/
theorem storedAmount_of_eq {coef : ℕ} {exp : ℤ} {a : Numeric}
    (h : (Decimal.fin false coef exp).eq a.toDecimal = true) :
    storedAmount (.fin false coef exp) = a := by
  have hvalue : (Decimal.fin false coef exp).value? = some (Decimal.magnitude coef exp) := rfl
  have hnonneg : 0 ≤ Decimal.magnitude coef exp :=
    mul_nonneg (Nat.cast_nonneg _) (zpow_nonneg (by norm_num) _)
  cases a with
  | nan => simp [Decimal.eq, Numeric.toDecimal, Decimal.value?] at h
  | cents n =>
      have hn : Decimal.magnitude coef exp = (n : ℚ) / 100 := by
        have hcents : (Numeric.cents n).toDecimal.value? = some ((n : ℚ) / 100) := value_ofCents n
        unfold Decimal.eq at h
        simpa only [hvalue, hcents, decide_eq_true_eq] using h
      have hn₀ : 0 ≤ n := by
        rw [hn] at hnonneg
        have hle : (0 : ℚ) ≤ n := by linarith
        exact_mod_cast hle
      obtain ⟨m, rfl⟩ := Int.eq_ofNat_of_zero_le hn₀
      have hm : Decimal.magnitude coef exp = Decimal.magnitude m (-2) := by
        rw [hn, Decimal.magnitude, zpow_neg]
        norm_num
        ring
      rw [storedAmount, hvalue]
      simp only
      rw [hm, roundCents_cents]

end SpendLens
