/-
# Decimal numbers and the money column

`Decimal` is the arbitrary-precision decimal type of the language, with its
infinities and NaNs: the text reader accepts everything the constructor accepts,
and the writer is `str`.  `Numeric` is a value of a `Numeric(12, 2)` column, that
is a number of cents or NaN, and `toNumeric` is what storing a `Decimal` in such a
column does: it rounds half away from zero, keeps NaN and refuses infinities and
numbers of more than ten integer digits.
-/
import SpendLens.Calendar
import Mathlib.Data.Rat.Floor

namespace SpendLens

/-! ## Decimals -/

/-- `Decimal`. -/
inductive Decimal where
  | fin (neg : Bool) (coef : ℕ) (exp : ℤ)
  | inf (neg : Bool)
  | nan (neg signaling : Bool) (payload : ℕ)
  deriving DecidableEq

namespace Decimal

/-- The decimal with a number of cents. -/
def ofCents (n : ℤ) : Decimal := .fin (n < 0) n.natAbs (-2)

/-- The magnitude of a finite decimal. -/
def magnitude (coef : ℕ) (exp : ℤ) : ℚ := coef * (10 : ℚ) ^ exp

/-- The value of a finite decimal. -/
def value? : Decimal → Option ℚ
  | .fin neg coef exp => some (if neg then -magnitude coef exp else magnitude coef exp)
  | _ => none

/-- `==` on decimals: NaN equals nothing. -/
def eq : Decimal → Decimal → Bool
  | .inf a, .inf b => a = b
  | a, b =>
      match a.value?, b.value? with
      | some x, some y => x = y
      | _, _ => false

/-- `<=` on decimals, false on NaN. -/
def le : Decimal → Decimal → Bool
  | .inf a, .inf b => a || !b
  | .inf a, .fin _ _ _ => a
  | .fin _ _ _, .inf b => !b
  | a, b =>
      match a.value?, b.value? with
      | some x, some y => x ≤ y
      | _, _ => false

/-- The greatest exponent and the least one the type can represent. -/
def maxEmax : ℤ := 999999999999999999

def minEtiny : ℤ := -1999999999999999997

/-- The number a list of digits denotes. -/
def digitsVal (ds : List ℕ) : ℕ := ds.foldl (fun acc d => acc * 10 + d) 0

/-- The leading digits of a text. -/
def spanDigits : List Char → List ℕ × List Char
  | [] => ([], [])
  | c :: cs =>
      match Date.digitVal c with
      | some v => ((v :: (spanDigits cs).1), (spanDigits cs).2)
      | none => ([], c :: cs)

/-- An optional sign. -/
def takeSign : List Char → Bool × List Char
  | '-' :: cs => (true, cs)
  | '+' :: cs => (false, cs)
  | cs => (false, cs)

/-- The exponent part of a numeral; `none` when it is malformed. -/
def parseExp : List Char → Option ℤ
  | [] => some 0
  | c :: cs =>
      if c = 'e' ∨ c = 'E' then
        let (neg, cs) := takeSign cs
        let (ds, rest) := spanDigits cs
        if ds.isEmpty || !rest.isEmpty then none
        else some (if neg then -(digitsVal ds : ℤ) else digitsVal ds)
      else none

/-- A finite numeral without its sign. -/
def parseFinite (neg : Bool) (cs : List Char) : Option Decimal :=
  let (ip, cs) := spanDigits cs
  let (fp, cs) :=
    match cs with
    | '.' :: rest => spanDigits rest
    | _ => ([], cs)
  if ip.isEmpty && fp.isEmpty then none
  else
    (parseExp cs).bind (fun e =>
      let coef := digitsVal (ip ++ fp)
      let exp := e - fp.length
      let adjusted := exp + (ip ++ fp).length - 1
      if adjusted ≤ maxEmax ∧ minEtiny ≤ exp then some (.fin neg coef exp) else none)

/-- A NaN without its sign. -/
def parseNan (neg : Bool) (cs : List Char) : Option Decimal :=
  let low := cs.map Char.toLower
  let (signaling, low) := if low.head? = some 's' then (true, low.tail) else (false, low)
  if low.take 3 = ['n', 'a', 'n'] then
    let (ds, rest) := spanDigits (low.drop 3)
    if rest.isEmpty then some (.nan neg signaling (digitsVal ds)) else none
  else none

/-- `Decimal(text)`; `none` is `InvalidOperation`. -/
def parse? (U : Unicode) (s : String) : Option Decimal :=
  let cs := ((stripChars s.toList).filter (fun c => c ≠ '_')).map
    (fun c => match U.decimal c with | some v => Date.digitChar v | none => c)
  let (neg, cs) := takeSign cs
  let low := cs.map Char.toLower
  if low = "inf".toList ∨ low = "infinity".toList then some (.inf neg)
  else
    match parseNan neg cs with
    | some d => some d
    | none => parseFinite neg cs

example : parse? Unicode.ascii " -1_2.50e1" = some (.fin true 1250 (-1)) := by decide

/-- `str` of a decimal. -/
def str : Decimal → String
  | .inf neg => (if neg then "-" else "") ++ "Infinity"
  | .nan neg signaling payload =>
      (if neg then "-" else "") ++ (if signaling then "sNaN" else "NaN") ++
        (if payload = 0 then "" else toString payload)
  | .fin neg coef exp =>
      let ds := (toString coef).toList
      let left := exp + ds.length
      let dot := if exp ≤ 0 ∧ -6 < left then left else 1
      let body :=
        if dot ≤ 0 then "0.".toList ++ List.replicate (-dot).toNat '0' ++ ds
        else if (ds.length : ℤ) ≤ dot then ds ++ List.replicate (dot - ds.length).toNat '0'
        else ds.take dot.toNat ++ '.' :: ds.drop dot.toNat
      let suffix :=
        if left = dot then ""
        else "E" ++ (if 0 ≤ left - dot then "+" else "") ++ toString (left - dot)
      (if neg then "-" else "") ++ String.ofList body ++ suffix

end Decimal

/-! ## The money column -/

/-- A value of a `Numeric(12, 2)` column. -/
inductive Numeric where
  | nan
  | cents (n : ℤ)
  deriving DecidableEq

namespace Numeric

/-- The value as it is read back. -/
def toDecimal : Numeric → Decimal
  | .nan => .nan false false 0
  | .cents n => .ofCents n

/-- The order of the database: NaN is the greatest value. -/
def le : Numeric → Numeric → Bool
  | _, .nan => true
  | .nan, .cents _ => false
  | .cents a, .cents b => a ≤ b

/-! ### Amounts of money -/

/-- Addition, taken as exact; NaN absorbs. -/
def add : Numeric → Numeric → Numeric
  | .cents a, .cents b => .cents (a + b)
  | _, _ => .nan

/-- Subtraction, taken as exact; NaN absorbs. -/
def sub : Numeric → Numeric → Numeric
  | .cents a, .cents b => .cents (a - b)
  | _, _ => .nan

instance : Zero Numeric := ⟨.cents 0⟩

instance : Add Numeric := ⟨add⟩

instance : Sub Numeric := ⟨sub⟩

theorem zero_eq : (0 : Numeric) = .cents 0 := rfl

@[simp] theorem cents_add (a b : ℤ) : Numeric.cents a + .cents b = .cents (a + b) := rfl

@[simp] theorem cents_sub (a b : ℤ) : Numeric.cents a - .cents b = .cents (a - b) := rfl

@[simp] theorem nan_add (a : Numeric) : .nan + a = Numeric.nan := by cases a <;> rfl

@[simp] theorem add_nan (a : Numeric) : a + .nan = Numeric.nan := by cases a <;> rfl

instance : AddCommMonoid Numeric where
  add_assoc a b c := by cases a <;> cases b <;> cases c <;> simp [add_assoc]
  zero_add a := by cases a <;> simp [zero_eq]
  add_zero a := by cases a <;> simp [zero_eq]
  add_comm a b := by cases a <;> cases b <;> simp [add_comm]
  nsmul := nsmulRec

/-- The cents of a value that is a number. -/
def centsVal : Numeric → ℤ
  | .nan => 0
  | .cents n => n

/-- The sum of numbers is the sum of their cents. -/
theorem sum_eq : ∀ {l : List Numeric}, (∀ a ∈ l, a ≠ .nan) →
    l.sum = .cents (l.map centsVal).sum
  | [], _ => rfl
  | .nan :: l, h => absurd rfl (h _ List.mem_cons_self)
  | .cents n :: l, h => by
      have ih := sum_eq (fun a ha => h a (List.mem_cons_of_mem _ ha))
      rw [List.sum_cons, ih, cents_add, List.map_cons, List.sum_cons]
      rfl

/-- `CAST(avg(…) AS NUMERIC(12, 2))` of values with a sum: half a cent is rounded away
from zero. -/
def average (sum : Numeric) (count : ℕ) : Numeric :=
  match sum with
  | .nan => .nan
  | .cents n => .cents (n.sign * ⌊(n.natAbs : ℚ) / count + 1 / 2⌋)

/-- `a > 0`; ordering a NaN is `InvalidOperation`. -/
def positive? : Numeric → Option Bool
  | .nan => none
  | .cents n => some (0 < n)

/-- The quotient of two amounts; `none` is NaN. -/
def quotient : Numeric → Numeric → Option ℚ
  | .cents a, .cents b => some (a / b)
  | _, _ => none

end Numeric

/-- A magnitude in cents, half a cent rounded up. -/
def roundCents (q : ℚ) : ℕ := ⌊q * 100 + 1 / 2⌋.toNat

/-- What a `Numeric(12, 2)` column makes of a decimal; `none` when it is refused. -/
def Decimal.toNumeric : Decimal → Option Numeric
  | .inf _ => none
  | .nan _ _ _ => some .nan
  | .fin neg coef exp =>
      if exp < -16383 then none
      else
        let n := roundCents (Decimal.magnitude coef exp)
        if n < 10 ^ 12 then some (.cents (if neg then -n else n)) else none

example : (Decimal.fin false 12345 (-3)).toNumeric = some (.cents 1235) := by decide +kernel

/-- A stored amount is at most twelve digits. -/
theorem Decimal.toNumeric_bound {d : Decimal} {n : ℤ} (h : d.toNumeric = some (.cents n)) :
    n.natAbs < 10 ^ 12 := by
  cases d with
  | inf neg => cases h
  | nan neg sig p => cases h
  | fin neg coef exp =>
      simp only [Decimal.toNumeric] at h
      split at h
      · cases h
      · split at h
        · rename_i hlt
          rw [Option.some.injEq, Numeric.cents.injEq] at h
          split at h <;> omega
        · cases h

theorem roundCents_cents (n : ℕ) : roundCents (Decimal.magnitude n (-2)) = n := by
  have h : Decimal.magnitude n (-2) * 100 + 1 / 2 = (n : ℚ) + 1 / 2 := by
    rw [Decimal.magnitude, zpow_neg]
    norm_num
    ring
  rw [roundCents, h]
  have hfloor : ⌊(n : ℚ) + 1 / 2⌋ = n := by
    rw [Int.floor_eq_iff]
    constructor
    · push_cast; linarith
    · push_cast; linarith
  rw [hfloor, Int.toNat_natCast]

/-- **Storing what was read changes nothing.** -/
theorem Numeric.toNumeric_toDecimal {a : Numeric} (h : ∀ n, a = .cents n → n.natAbs < 10 ^ 12) :
    a.toDecimal.toNumeric = some a := by
  cases a with
  | nan => rfl
  | cents n =>
      have hn := h n rfl
      rw [Numeric.toDecimal, Decimal.ofCents, Decimal.toNumeric]
      simp only [roundCents_cents, hn, if_true]
      rw [if_neg (by omega)]
      congr 2
      by_cases hneg : n < 0
      · simp only [hneg, decide_true, if_true]; omega
      · simp only [hneg, decide_false]; simp; omega

end SpendLens
