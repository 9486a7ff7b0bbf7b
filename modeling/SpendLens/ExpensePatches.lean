/-
# Patching an expense

What a validated patch does to a stored expense: it is applied, or refused with an answer
the client can act on, or it runs into a constraint or the length of a column.  The last
happens to patches the schema accepts: an explicit null for a column that has none, a text
with a NUL character, an amount with too many zeros, and a merchant whose correction does
not fit its own column.
-/
import SpendLens.ExpenseService
import SpendLens.Patches
import SpendLens.Steps

namespace SpendLens

/-! ## The endpoint -/

/-- `PATCH /expenses/{id}`, for a body that is not empty. -/
def patchExpense (env : Env) (userId expenseId : UUID) (patch : ExpenseUpdate env.unicode)
    (ifMatch : Option String) : Service (ExpenseOut env.unicode) := do
  let expense ← updateExpense env userId expenseId patch.toExpensePatch ifMatch
  Prog.ofExcept (expenseOut env.unicode expense)

/-- The exceptions the endpoint answers with a 4xx status. -/
def PyExc.isClientError : PyExc → Bool
  | expenseNotFound _ => true
  | etagMismatch _ => true
  | _ => false

theorem isClientError_of_isColumnError {err : PyExc} (h : err.isColumnError = true) :
    err.isClientError = false := by
  cases err <;> first | rfl | cases h

abbrev ExpenseTable := Table Expense UUID Expense.id

abbrev CorrectionTable := Table CategoryCorrection (UUID × String) CategoryCorrection.key

/-- Exactly the patched fields have changed, `updated_at` aside. -/
structure ExpensePatchedFrom (e : Expense) (patch : ExpensePatch) (row : Expense) : Prop where
  id : row.id = e.id
  userId : row.userId = e.userId
  receiptId : row.receiptId = e.receiptId
  source : row.source = e.source
  createdAt : row.createdAt = e.createdAt
  merchantName : some row.merchantName = patch.merchantName.getD (some e.merchantName)
  amount : patch.amount.elim (row.amount = e.amount)
    (fun v => ∃ d, v = some d ∧ d.eq row.amount.toDecimal = true)
  currency : some row.currency = patch.currency.getD (some e.currency)
  category : some row.category = patch.category.getD (some e.category)
  expenseDate : some row.expenseDate = patch.expenseDate.getD (some e.expenseDate)
  description : row.description = patch.description.getD e.description

/-- The patch is committed, and the endpoint returns the row it has left. -/
def PatchApplied (U : Unicode) (T : ExpenseTable) (e : Expense) (patch : ExpensePatch)
    (outcome : Except PyExc (ExpenseOut U) × World Unit) : Prop :=
  ∃ row out, outcome.1 = .ok out ∧ expenseOut U row = .ok out ∧ Readable U row ∧
    ExpensePatchedFrom e patch row ∧ outcome.2.db.expenses = Store.ofTable (T.put row)

/-- The patch is refused with a 4xx answer and nothing is written. -/
def PatchRefused {α : Type} (T : ExpenseTable) (C : CorrectionTable)
    (outcome : Except PyExc α × World Unit) : Prop :=
  ∃ err, outcome.1 = .error err ∧ err.isClientError = true ∧
    outcome.2.db.expenses = Store.ofTable T ∧ outcome.2.db.corrections = Store.ofTable C

/-! ## What the columns take -/

/-- A text column takes what is assigned to it, or is not asked to. -/
def TextFits (cur : Option String) (p : Option (Option String)) : Prop :=
  ∀ v, p = some v → v = cur ∨ ∃ s, v = some s ∧ textOk s = true

/-- Every column takes what the patch assigns to it. -/
structure Storable (e : Expense) (patch : ExpensePatch) : Prop where
  merchantName : TextFits (some e.merchantName) patch.merchantName
  amount : ∀ v, patch.amount = some v →
    ∃ d, v = some d ∧ (d.eq e.amount.toDecimal = true ∨ scaleOk d = true)
  currency : TextFits (some e.currency) patch.currency
  category : patch.category ≠ some none
  expenseDate : patch.expenseDate ≠ some none
  description : patch.description = some none ∨ TextFits e.description patch.description

/-- The column of the corrections takes the merchant of the one that is due, if one is. -/
def CorrectionFits (U : Unicode) (e : Expense) (patch : ExpensePatch) : Prop :=
  ∀ m c, patch.correction e = some (m, c) →
    textOk (normaliseMerchant U m) = true ∧ (normaliseMerchant U m).length ≤ 255

/-- The row a patch leads to, or why there is none. -/
def resultingExpense (e : Expense) (patch : ExpensePatch) : Except PyExc Expense := do
  let merchantName ← patched (fun u => ExpenseColumn.changes e (.merchantName u)) (storeText 255)
    e.merchantName patch.merchantName
  let amount ← patched (fun u => ExpenseColumn.changes e (.amount u)) storeAmount e.amount
    patch.amount
  let currency ← patched (fun u => ExpenseColumn.changes e (.currency u)) (storeText 3) e.currency
    patch.currency
  let category ← patched (fun u => ExpenseColumn.changes e (.category u)) storeSome e.category
    patch.category
  let expenseDate ← patched (fun u => ExpenseColumn.changes e (.expenseDate u)) storeSome
    e.expenseDate patch.expenseDate
  let description ← patched (fun u => ExpenseColumn.changes e (.description u))
    (storeOptText 1024) e.description patch.description
  return { e with
    merchantName := merchantName, amount := amount, currency := currency, category := category
    expenseDate := expenseDate, description := description }

/-- The assignments of a flush lead to the resulting row. -/
theorem storeAll_expenseColumns (e : Expense) (patch : ExpensePatch) :
    storeAll ExpenseColumn.store e (patch.columns.filter (ExpenseColumn.changes e)) =
      resultingExpense e patch := by
  -- one field after the other, on the row the fields before have led to
  have hlast : patch.columns.filter (ExpenseColumn.changes e) =
      patch.columns.filter (ExpenseColumn.changes e) ++ [] := (List.append_nil _).symm
  rw [hlast, ExpensePatch.columns, List.filter_append, List.filter_append, List.filter_append,
    List.filter_append, List.filter_append, List.append_assoc, List.append_assoc,
    List.append_assoc, List.append_assoc, List.append_assoc, resultingExpense]
  rw [storeAll_field e (fun m => { e with merchantName := m }) (fun _ => rfl) rfl]
  refine bind_congr (fun m => ?_)
  let e₁ : Expense := { e with merchantName := m }
  rw [storeAll_field e₁ (fun a => { e₁ with amount := a }) (fun _ => rfl) rfl]
  refine bind_congr (fun a => ?_)
  let e₂ : Expense := { e₁ with amount := a }
  rw [storeAll_field e₂ (fun c => { e₂ with currency := c }) (fun _ => rfl) rfl]
  refine bind_congr (fun c => ?_)
  let e₃ : Expense := { e₂ with currency := c }
  rw [storeAll_field e₃ (fun k => { e₃ with category := k }) (fun _ => rfl) rfl]
  refine bind_congr (fun k => ?_)
  let e₄ : Expense := { e₃ with category := k }
  rw [storeAll_field e₄ (fun d => { e₄ with expenseDate := d }) (fun _ => rfl) rfl]
  refine bind_congr (fun d => ?_)
  let e₅ : Expense := { e₄ with expenseDate := d }
  rw [storeAll_field e₅ (fun s => { e₅ with description := s }) (fun _ => rfl) rfl]
  rfl

/-- A patch that leads to no row fails on a constraint or a length. -/
theorem isColumnError_of_resulting {e : Expense} {patch : ExpensePatch} {err : PyExc}
    (h : resultingExpense e patch = .error err) : err.isColumnError = true := by
  unfold resultingExpense at h
  simp only [Fallible.bind_eq_error] at h
  rcases h with h | ⟨_, -, h | ⟨_, -, h | ⟨_, -, h | ⟨_, -, h | ⟨_, -, h | ⟨_, -, h⟩⟩⟩⟩⟩⟩
  · obtain ⟨u, hu⟩ := patched_eq_error h
    exact storeText_error hu
  · obtain ⟨u, hu⟩ := patched_eq_error h
    exact storeAmount_error hu
  · obtain ⟨u, hu⟩ := patched_eq_error h
    exact storeText_error hu
  · obtain ⟨u, hu⟩ := patched_eq_error h
    exact storeSome_error hu
  · obtain ⟨u, hu⟩ := patched_eq_error h
    exact storeSome_error hu
  · obtain ⟨u, hu⟩ := patched_eq_error h
    exact storeOptText_error hu
  · cases h

/-! ### Texts -/

theorem exists_patched_storeText {n : ℕ} (cur : String) {p : Option (Option String)}
    (hlen : ∀ s, p = some (some s) → s.length ≤ n) :
    (∃ a, patched (fun u => decide (u ≠ some cur)) (storeText n) cur p = .ok a) ↔
      TextFits (some cur) p := by
  simp only [patched_eq_ok, decide_eq_false_iff_not, decide_eq_true_eq, not_not]
  constructor
  · rintro ⟨a, ⟨rfl, -⟩ | ⟨u, rfl, ⟨rfl, -⟩ | ⟨-, hstore⟩⟩⟩ v hv
    · cases hv
    · cases hv
      exact Or.inl rfl
    · cases hv
      cases u with
      | none => cases hstore
      | some s =>
          rw [storeText] at hstore
          split at hstore
          · rename_i hs
            exact Or.inr ⟨s, rfl, (Bool.and_eq_true_iff.1 hs).1⟩
          · cases hstore
  · intro h
    cases p with
    | none => exact ⟨cur, Or.inl ⟨rfl, rfl⟩⟩
    | some u =>
        by_cases hu : u = some cur
        · exact ⟨cur, Or.inr ⟨u, rfl, Or.inl ⟨hu, rfl⟩⟩⟩
        · obtain ⟨s, rfl, hs⟩ := (h u rfl).resolve_left hu
          refine ⟨s, Or.inr ⟨some s, rfl, Or.inr ⟨hu, ?_⟩⟩⟩
          rw [storeText, hs, decide_eq_true (hlen s rfl)]
          rfl

theorem eq_of_patched_storeText {n : ℕ} {cur a : String} {p : Option (Option String)}
    (h : patched (fun u => decide (u ≠ some cur)) (storeText n) cur p = .ok a) :
    some a = p.getD (some cur) := by
  rcases patched_eq_ok.1 h with ⟨rfl, rfl⟩ | ⟨u, rfl, ⟨hu, rfl⟩ | ⟨-, hstore⟩⟩
  · rfl
  · exact (by simpa using hu : u = some cur).symm
  · cases u with
    | none => cases hstore
    | some s =>
        rw [storeText] at hstore
        split at hstore
        · cases hstore
          rfl
        · cases hstore

theorem exists_patched_storeOptText {n : ℕ} (cur : Option String) {p : Option (Option String)}
    (hlen : ∀ s, p = some (some s) → s.length ≤ n) :
    (∃ a, patched (fun u => decide (u ≠ cur)) (storeOptText n) cur p = .ok a) ↔
      p = some none ∨ TextFits cur p := by
  simp only [patched_eq_ok, decide_eq_false_iff_not, decide_eq_true_eq, not_not]
  constructor
  · rintro ⟨a, ⟨rfl, -⟩ | ⟨u, rfl, ⟨rfl, -⟩ | ⟨-, hstore⟩⟩⟩
    · exact Or.inr (fun v hv => (nomatch hv))
    · refine Or.inr (fun v hv => ?_)
      cases hv
      exact Or.inl rfl
    · cases u with
      | none => exact Or.inl rfl
      | some s =>
          rw [storeOptText] at hstore
          split at hstore
          · rename_i hs
            refine Or.inr (fun v hv => ?_)
            cases hv
            exact Or.inr ⟨s, rfl, (Bool.and_eq_true_iff.1 hs).1⟩
          · cases hstore
  · intro h
    cases p with
    | none => exact ⟨cur, Or.inl ⟨rfl, rfl⟩⟩
    | some u =>
        by_cases hu : u = cur
        · exact ⟨cur, Or.inr ⟨u, rfl, Or.inl ⟨hu, rfl⟩⟩⟩
        · cases u with
          | none => exact ⟨none, Or.inr ⟨none, rfl, Or.inr ⟨hu, rfl⟩⟩⟩
          | some s =>
              have hs : textOk s = true := by
                rcases h with h | h
                · cases h
                · obtain ⟨s', hs', hok⟩ := (h _ rfl).resolve_left hu
                  cases hs'
                  exact hok
              refine ⟨some s, Or.inr ⟨some s, rfl, Or.inr ⟨hu, ?_⟩⟩⟩
              rw [storeOptText, hs, decide_eq_true (hlen s rfl)]
              rfl

theorem eq_of_patched_storeOptText {n : ℕ} {cur a : Option String} {p : Option (Option String)}
    (h : patched (fun u => decide (u ≠ cur)) (storeOptText n) cur p = .ok a) : a = p.getD cur := by
  rcases patched_eq_ok.1 h with ⟨rfl, rfl⟩ | ⟨u, rfl, ⟨hu, rfl⟩ | ⟨-, hstore⟩⟩
  · rfl
  · exact (by simpa using hu : u = cur).symm
  · cases u with
    | none =>
        cases hstore
        rfl
    | some s =>
        rw [storeOptText] at hstore
        split at hstore
        · cases hstore
          rfl
        · cases hstore

/-! ### Amounts -/

/-- An amount of two places is stored as it is. -/
theorem eq_of_storeAmount {d : Decimal} {a : Numeric} (hok : amountOk d = true)
    (h : storeAmount (some d) = .ok a) : d.eq a.toDecimal = true := by
  obtain ⟨coef, exp, rfl, -, hmax, hplaces⟩ := exists_of_amountOk hok
  -- the number of cents is whole
  have hcents : ∃ m : ℕ, Decimal.magnitude coef exp = Decimal.magnitude m (-2) := by
    simp only [twoPlaces, Bool.or_eq_true, decide_eq_true_eq] at hplaces
    by_cases hexp : -2 ≤ exp
    · refine ⟨coef * 10 ^ (exp + 2).toNat, ?_⟩
      obtain ⟨n, hn⟩ : ∃ n : ℕ, (exp + 2).toNat = n := ⟨_, rfl⟩
      have hsplit : exp = (n : ℤ) + (-2) := by omega
      rw [hn, Decimal.magnitude, Decimal.magnitude, hsplit, zpow_add₀ (by norm_num), zpow_natCast]
      push_cast
      ring
    · obtain ⟨k, hk⟩ := hplaces.resolve_left hexp
      refine ⟨k, ?_⟩
      obtain ⟨n, hn⟩ : ∃ n : ℕ, (-2 - exp).toNat = n := ⟨_, rfl⟩
      have hsplit : exp = -(n : ℤ) + (-2) := by omega
      have hpow : (10 : ℚ) ^ n ≠ 0 := pow_ne_zero _ (by norm_num)
      rw [hn] at hk
      rw [Decimal.magnitude, Decimal.magnitude, hk, hsplit, zpow_add₀ (by norm_num), zpow_neg,
        zpow_natCast, Nat.cast_mul, Nat.cast_pow]
      push_cast
      field_simp
  obtain ⟨m, hm⟩ := hcents
  rw [storeAmount_of_le hmax] at h
  split at h
  · cases h
    have hvalue : (Decimal.fin false coef exp).value? = some (Decimal.magnitude coef exp) := rfl
    have hstored : storedAmount (.fin false coef exp) = .cents m := by
      rw [storedAmount, hvalue]
      simp only
      rw [hm, roundCents_cents]
    have hread : (Numeric.cents m).toDecimal.value? = some (((m : ℤ) : ℚ) / 100) :=
      value_ofCents m
    rw [Int.cast_natCast] at hread
    rw [hstored]
    unfold Decimal.eq
    simp only [hvalue, hread, decide_eq_true_eq]
    rw [hm, Decimal.magnitude, zpow_neg]
    norm_num
    ring
  · cases h

theorem exists_patched_storeAmount {e : Expense} {p : Option (Option Decimal)}
    (hok : ∀ d, p = some (some d) → amountOk d = true) :
    (∃ a, patched (fun u => ExpenseColumn.changes e (.amount u)) storeAmount e.amount p = .ok a) ↔
      ∀ v, p = some v → ∃ d, v = some d ∧ (d.eq e.amount.toDecimal = true ∨ scaleOk d = true) := by
  have hchanges : ∀ u, ExpenseColumn.changes e (.amount u) =
      !(u.any (fun d => d.eq e.amount.toDecimal)) := fun _ => rfl
  have hstore : ∀ d, p = some (some d) → storeAmount (some d) =
      if scaleOk d = true then .ok (storedAmount d) else .error .dataError := by
    intro d hd
    obtain ⟨coef, exp, rfl, -, hmax, -⟩ := exists_of_amountOk (hok d hd)
    exact storeAmount_of_le hmax
  simp only [patched_eq_ok, hchanges, Bool.not_eq_eq_eq_not, Bool.not_false, Bool.not_true]
  constructor
  · rintro ⟨a, ⟨rfl, -⟩ | ⟨u, rfl, ⟨hu, -⟩ | ⟨-, ha⟩⟩⟩ v hv
    · cases hv
    · cases hv
      cases u with
      | none => cases hu
      | some d => exact ⟨d, rfl, Or.inl hu⟩
    · cases hv
      cases u with
      | none => cases ha
      | some d =>
          rw [hstore d rfl] at ha
          split at ha
          · rename_i hscale
            exact ⟨d, rfl, Or.inr hscale⟩
          · cases ha
  · intro h
    cases p with
    | none => exact ⟨e.amount, Or.inl ⟨rfl, rfl⟩⟩
    | some u =>
        obtain ⟨d, rfl, hd⟩ := h u rfl
        cases heq : d.eq e.amount.toDecimal with
        | true => exact ⟨e.amount, Or.inr ⟨some d, rfl, Or.inl ⟨heq, rfl⟩⟩⟩
        | false =>
            have hscale : scaleOk d = true :=
              hd.resolve_left (fun hc => Bool.false_ne_true (heq.symm.trans hc))
            refine ⟨storedAmount d, Or.inr ⟨some d, rfl, Or.inr ⟨heq, ?_⟩⟩⟩
            rw [hstore d rfl, if_pos hscale]

/-- The amount a patch leads to is the one it assigns. -/
theorem eq_of_patched_storeAmount {e : Expense} {p : Option (Option Decimal)} {a : Numeric}
    (hok : ∀ d, p = some (some d) → amountOk d = true)
    (h : patched (fun u => ExpenseColumn.changes e (.amount u)) storeAmount e.amount p = .ok a) :
    p.elim (a = e.amount) (fun v => ∃ d, v = some d ∧ d.eq a.toDecimal = true) := by
  rcases patched_eq_ok.1 h with ⟨rfl, rfl⟩ | ⟨u, rfl, ⟨hu, rfl⟩ | ⟨-, ha⟩⟩
  · rfl
  · cases u with
    | none => cases hu
    | some d => exact ⟨d, rfl, by simpa [ExpenseColumn.changes] using hu⟩
  · cases u with
    | none => cases ha
    | some d => exact ⟨d, rfl, eq_of_storeAmount (hok d rfl) ha⟩

/-- The amount a patch leads to passes the checks again. -/
theorem amountOk_of_patched {e : Expense} {p : Option (Option Decimal)} {a : Numeric}
    (hok : ∀ d, p = some (some d) → amountOk d = true) (hcur : amountOk e.amount.toDecimal = true)
    (h : patched (fun u => ExpenseColumn.changes e (.amount u)) storeAmount e.amount p = .ok a) :
    amountOk a.toDecimal = true := by
  rcases patched_eq_ok.1 h with ⟨rfl, rfl⟩ | ⟨u, rfl, ⟨-, rfl⟩ | ⟨-, ha⟩⟩
  · exact hcur
  · exact hcur
  · cases u with
    | none => cases ha
    | some d => exact amountOk_of_toNumeric (hok d rfl) (storeAmount_ok.1 ha)

/-! ### Rows -/

/-- A patch that is validated leads to a row exactly if every column takes its part. -/
theorem exists_resultingExpense {U : Unicode} {e : Expense} (patch : ExpenseUpdate U) :
    (∃ row, resultingExpense e patch.toExpensePatch = .ok row) ↔
      Storable e patch.toExpensePatch := by
  have hmerchant := exists_patched_storeText (n := 255) e.merchantName
    (p := patch.merchantName) (fun s hs => by
      have hstrip := patch.merchantName_ok s hs
      unfold stripMerchant at hstrip
      split at hstrip
      · rename_i hlen
        exact hlen.2
      · cases hstrip)
  have hcurrency := exists_patched_storeText (n := 3) e.currency (p := patch.currency)
    (fun s hs => by
      have hcode := patch.currency_ok s hs
      unfold validateCurrency at hcode
      split at hcode
      · rename_i hlen
        exact le_of_eq hlen
      · cases hcode)
  have hdescription := exists_patched_storeOptText (n := 1024) e.description
    (p := patch.description) (fun s hs => by
      have hlen := patch.description_ok _ hs
      simpa [descriptionOk] using hlen)
  have hamount := exists_patched_storeAmount (e := e) (p := patch.amount) patch.amount_ok
  have hsome : ∀ {α : Type} [DecidableEq α] {cur : α} {p : Option (Option α)},
      (∃ a, patched (fun u => decide (u ≠ some cur)) storeSome cur p = .ok a) ↔ p ≠ some none := by
    intro α _ cur p
    rw [patched_storeSome]
    constructor
    · rintro ⟨a, ha⟩ rfl
      cases ha
    · intro hp
      obtain ⟨a, ha⟩ := exists_getD_of_ne hp cur
      exact ⟨a, by rw [ha]; rfl⟩
  constructor
  · rintro ⟨row, h⟩
    unfold resultingExpense at h
    simp only [Fallible.bind_eq_ok] at h
    obtain ⟨m, hm, a, ha, c, hc, k, hk, d, hd, s, hs, -⟩ := h
    exact ⟨hmerchant.1 ⟨m, hm⟩, hamount.1 ⟨a, ha⟩, hcurrency.1 ⟨c, hc⟩, hsome.1 ⟨k, hk⟩,
      hsome.1 ⟨d, hd⟩, hdescription.1 ⟨s, hs⟩⟩
  · intro h
    obtain ⟨m, hm⟩ := hmerchant.2 h.merchantName
    obtain ⟨a, ha⟩ := hamount.2 h.amount
    obtain ⟨c, hc⟩ := hcurrency.2 h.currency
    obtain ⟨k, hk⟩ := hsome.2 h.category
    obtain ⟨d, hd⟩ := hsome.2 h.expenseDate
    obtain ⟨s, hs⟩ := hdescription.2 h.description
    unfold resultingExpense
    simp only [Fallible.bind_eq_ok]
    exact ⟨_, m, hm, a, ha, c, hc, k, hk, d, hd, s, hs, rfl⟩

/-- The row a patch leads to carries its fields. -/
theorem patchedFrom_of_resulting {U : Unicode} {e row : Expense} {patch : ExpenseUpdate U}
    (h : resultingExpense e patch.toExpensePatch = .ok row) :
    ExpensePatchedFrom e patch.toExpensePatch row := by
  unfold resultingExpense at h
  simp only [Fallible.bind_eq_ok] at h
  obtain ⟨m, hm, a, ha, c, hc, k, hk, d, hd, s, hs, hrow⟩ := h
  cases hrow
  have hsome : ∀ {α : Type} [DecidableEq α] {cur a : α} {p : Option (Option α)},
      patched (fun u => decide (u ≠ some cur)) storeSome cur p = .ok a → some a = p.getD (some cur) := by
    intro α _ cur a p hp
    rw [patched_storeSome] at hp
    cases hv : p.getD (some cur) with
    | none =>
        rw [hv] at hp
        cases hp
    | some v =>
        rw [hv] at hp
        cases hp
        rfl
  exact ⟨rfl, rfl, rfl, rfl, rfl, eq_of_patched_storeText hm,
    eq_of_patched_storeAmount patch.amount_ok ha, eq_of_patched_storeText hc, hsome hk, hsome hd,
    eq_of_patched_storeOptText hs⟩

/-- The row a patch leads to satisfies the checks of the schema. -/
theorem readable_of_resulting {U : Unicode} {e row : Expense} {patch : ExpenseUpdate U}
    (hread : Readable U e) (h : resultingExpense e patch.toExpensePatch = .ok row) :
    Readable U row := by
  have hpatched := patchedFrom_of_resulting h
  have hm := hpatched.merchantName
  have hc := hpatched.currency
  have hs := hpatched.description
  unfold resultingExpense at h
  simp only [Fallible.bind_eq_ok] at h
  obtain ⟨m, -, a, ha, c, -, k, -, d, -, s, -, hrow⟩ := h
  cases hrow
  refine ⟨?_, amountOk_of_patched patch.amount_ok hread.amount ha, ?_, ?_⟩
  · show (stripMerchant m).isSome
    cases hp : patch.merchantName with
    | none =>
        rw [hp] at hm
        cases hm
        exact hread.merchantName
    | some v =>
        rw [hp] at hm
        cases hm
        rw [patch.merchantName_ok m hp]
        rfl
  · show (validateCurrency U c).isSome
    cases hp : patch.currency with
    | none =>
        rw [hp] at hc
        cases hc
        exact hread.currency
    | some v =>
        rw [hp] at hc
        cases hc
        rw [patch.currency_ok c hp]
        rfl
  · show descriptionOk s = true
    cases hp : patch.description with
    | none =>
        rw [hp] at hs
        cases hs
        exact hread.description
    | some v =>
        rw [hp] at hs
        cases hs
        exact patch.description_ok _ hp

/-! ## Runs -/

section run

variable {env : Env} {T : ExpenseTable} {C : CorrectionTable} {w : World Unit}

/-- A session that has written nothing, on these tables. -/
structure ExpenseSession (T : ExpenseTable) (C : CorrectionTable) (w : World Unit) : Prop where
  expenses : w.db.expenses = Store.ofTable T
  corrections : w.db.corrections = Store.ofTable C
  healthy : w.failed () = false

theorem ExpenseSession.tick (h : ExpenseSession T C w) : ExpenseSession T C w.tick :=
  ⟨h.expenses, h.corrections, h.healthy⟩

theorem run_refreshExpense (hup : ∀ n, env.fault n = .none) (hw : w.db.expenses = Store.ofTable T)
    (hf : w.failed () = false) {e : Expense} (he : e ∈ T.rows) :
    Prog.run (alone env) (refreshExpense e.id) w = (.ok e, w.tick) := by
  have hrows : T.rows.filter (fun v => decide (v.id = e.id)) = [e] := by
    have hfilter := Table.filter_key T e.id (fun _ => true)
    rw [Table.get_of_mem he, Option.filter_some_pos rfl, Option.toList_some] at hfilter
    simpa only [Bool.and_true] using hfilter
  have hselect : (Stmt.selectExpenses [] (fun v => decide (v.id = e.id))).exec (env.clock w.calls)
      () w.db = some (.ok [e], w.db) := by
    show some (select w.db.expenses () [] _, w.db) = _
    rw [hw, ← hrows]
    rfl
  exact Prog.run_perform_ok _ (alone_sql_ok env hf (hup _) hselect)

/-- Reading an expense finds it exactly for its owner. -/
theorem run_getExpense (hup : ∀ n, env.fault n = .none) (hw : ExpenseSession T C w) {e : Expense}
    (he : e ∈ T.rows) (userId : UUID) : Prog.run (alone env) (getExpense userId e.id) w =
      (if e.userId = userId then .ok e else .error (.expenseNotFound e.id), w.tick) := by
  have hrows : T.rows.filter (isExpenseOf userId e.id) = if e.userId = userId then [e] else [] := by
    have hfilter := Table.filter_key T e.id (fun v => decide (v.userId = userId))
    rw [Table.get_of_mem he] at hfilter
    refine Eq.trans hfilter ?_
    by_cases hu : e.userId = userId
    · rw [Option.filter_some_pos (by simpa using hu), if_pos hu, Option.toList_some]
    · rw [Option.filter_some_neg (by simpa using hu), if_neg hu, Option.toList_none]
  have hselect : (Stmt.selectExpenses [] (isExpenseOf userId e.id)).exec (env.clock w.calls) ()
      w.db = some (.ok (if e.userId = userId then [e] else []), w.db) := by
    show some (select w.db.expenses () [] _, w.db) = _
    rw [hw.expenses, ← hrows]
    rfl
  refine (Prog.run_perform_ok _ (alone_sql_ok env hw.healthy (hup _) hselect)).trans ?_
  by_cases hu : e.userId = userId
  · rw [if_pos hu, if_pos hu]
    rfl
  · rw [if_neg hu, if_neg hu]
    rfl

/-- What the database answers to the `UPDATE` of an expense. -/
theorem exec_updateExpense (now : Timestamp) {db : Db Unit} (hdb : db.expenses = Store.ofTable T)
    {e : Expense} (he : e ∈ T.rows) (cols : List ExpenseColumn) :
    (Stmt.updateExpense e.id cols).exec now () db =
      match storeAll ExpenseColumn.store e cols with
      | .error err => some (.error err, db)
      | .ok row => some (.ok (), { db with
          expenses := (Store.ofTable T).stage () (.put { row with id := e.id, updatedAt := now }) })
      := by
  have hview : ((Store.ofTable T).view ()).get e.id = some e := Table.get_of_mem he
  simp only [Stmt.exec, update]
  rw [hdb, hview, locked_unit]
  simp only [Bool.false_eq_true, if_false]
  cases storeAll ExpenseColumn.store e cols with
  | error err =>
      show some (Except.error err, { db with expenses := Store.ofTable T }) = some (.error err, db)
      rw [← hdb]
  | ok row => rfl

/-- The flush of a patch that leads to no row. -/
theorem run_flushExpense_error (hup : ∀ n, env.fault n = .none) (hw : ExpenseSession T C w)
    {e : Expense} (he : e ∈ T.rows) {patch : ExpensePatch} {err : PyExc}
    (h : resultingExpense e patch = .error err) :
    Prog.run (alone env) (flushColumns ExpenseColumn.changes
      (fun cols => sql (.updateExpense e.id cols)) e patch.columns) w =
        (.error err, (w.abort ()).tick) := by
  rw [← storeAll_expenseColumns] at h
  unfold flushColumns
  simp only
  split
  · rename_i hempty
    rw [List.isEmpty_iff.1 hempty] at h
    cases h
  · have hexec := exec_updateExpense (env.clock w.calls) hw.expenses he
      (patch.columns.filter (ExpenseColumn.changes e))
    rw [h] at hexec
    exact (Prog.run_perform _ _ _).trans (alone_sql_error env hw.healthy (hup _) hexec)

/-- The flush of a patch that leads to a row: the row is written once it is committed, and
nothing else is. -/
theorem run_flushExpense_ok (hup : ∀ n, env.fault n = .none) (hw : ExpenseSession T C w)
    {e row : Expense} (he : e ∈ T.rows) {patch : ExpensePatch}
    (h : resultingExpense e patch = .ok row) :
    ∃ stamp w', Prog.run (alone env) (flushColumns ExpenseColumn.changes
      (fun cols => sql (.updateExpense e.id cols)) e patch.columns) w = (.ok (), w') ∧
        w'.failed () = false ∧ w'.db.corrections = Store.ofTable C ∧ w'.db.expenses.commit () =
          Store.ofTable (T.put { row with id := e.id, updatedAt := stamp }) := by
  rw [← storeAll_expenseColumns] at h
  unfold flushColumns
  simp only
  split
  · rename_i hempty
    rw [List.isEmpty_iff.1 hempty] at h
    cases h
    -- nothing is written, and the table has the row already
    refine ⟨e.updatedAt, w, rfl, hw.healthy, hw.corrections, ?_⟩
    rw [hw.expenses, Table.put_of_mem he]
    rfl
  · have hexec := exec_updateExpense (env.clock w.calls) hw.expenses he
      (patch.columns.filter (ExpenseColumn.changes e))
    rw [h] at hexec
    exact ⟨env.clock w.calls, _, (Prog.run_perform _ _ _).trans
      (alone_sql_ok env hw.healthy (hup _) hexec), hw.healthy, hw.corrections, rfl⟩

/-- The upsert of a correction is refused exactly if its merchant does not fit. -/
theorem run_recordCorrection (hup : ∀ n, env.fault n = .none) (hf : w.failed () = false)
    (userId : UUID) (m : String) (c : ExpenseCategory) :
    (textOk (normaliseMerchant env.unicode m) = true ∧
        (normaliseMerchant env.unicode m).length ≤ 255 →
      ∃ w', Prog.run (alone env) (recordCorrection env userId m c) w = (.ok (), w') ∧
        w'.failed () = false ∧ w'.db.expenses = w.db.expenses) ∧
    (¬(textOk (normaliseMerchant env.unicode m) = true ∧
        (normaliseMerchant env.unicode m).length ≤ 255) →
      (Prog.run (alone env) (recordCorrection env userId m c) w).1 = .error .dataError) := by
  have hguard : (textOk (normaliseMerchant env.unicode m) &&
      decide ((normaliseMerchant env.unicode m).length ≤ 255)) = true ↔
        textOk (normaliseMerchant env.unicode m) = true ∧
          (normaliseMerchant env.unicode m).length ≤ 255 := by
    rw [Bool.and_eq_true, decide_eq_true_eq]
  constructor
  · intro h
    have hexec : ∃ s, (Stmt.upsertCorrection userId (normaliseMerchant env.unicode m) c).exec
        (env.clock w.calls) () w.db = some (.ok (), { w.db with corrections := s }) := by
      simp only [Stmt.exec]
      rw [if_pos (hguard.2 h), locked_unit, if_neg Bool.false_ne_true]
      exact ⟨_, rfl⟩
    obtain ⟨s, hexec⟩ := hexec
    exact ⟨_, (Prog.run_perform _ _ _).trans (alone_sql_ok env hf (hup _) hexec), hf, rfl⟩
  · intro h
    have hexec : (Stmt.upsertCorrection userId (normaliseMerchant env.unicode m) c).exec
        (env.clock w.calls) () w.db = some (.error .dataError, w.db) := by
      simp only [Stmt.exec]
      rw [if_neg (fun hc => h (hguard.1 hc))]
    rw [recordCorrection, sql, Prog.run_perform, alone_sql_error env hf (hup _) hexec]

/-- Everything up to the commit, for a patch that leads to a row and whose correction fits. -/
theorem run_applyPatch_ok (hup : ∀ n, env.fault n = .none) (hw : ExpenseSession T C w)
    {e row : Expense} (he : e ∈ T.rows) (userId : UUID) {patch : ExpensePatch}
    (h : resultingExpense e patch = .ok row) (hfits : CorrectionFits env.unicode e patch) :
    ∃ stamp w', Prog.run (alone env) (applyPatch env userId e patch) w = (.ok (), w') ∧
      w'.failed () = false ∧ w'.db.expenses.commit () =
        Store.ofTable (T.put { row with id := e.id, updatedAt := stamp }) := by
  obtain ⟨stamp, w', hflush, hf, -, hput⟩ := run_flushExpense_ok hup hw he h
  unfold applyPatch
  cases hc : patch.correction e with
  | none => exact ⟨stamp, w', Prog.run_bind_ok _ hflush, hf, hput⟩
  | some mc =>
      obtain ⟨m, c⟩ := mc
      obtain ⟨w'', hrecord, hf', hexpenses⟩ :=
        (run_recordCorrection hup hf userId m c).1 (hfits m c hc)
      refine ⟨stamp, w'', (Prog.run_bind_ok _ hflush).trans hrecord, hf', ?_⟩
      rw [hexpenses, hput]

/-- A patch a column refuses, or whose correction does not fit, fails on that. -/
theorem run_applyPatch_error (hup : ∀ n, env.fault n = .none) (hw : ExpenseSession T C w)
    {e : Expense} (he : e ∈ T.rows) (userId : UUID) {U : Unicode} (patch : ExpenseUpdate U)
    (h : ¬(Storable e patch.toExpensePatch ∧
      CorrectionFits env.unicode e patch.toExpensePatch)) :
    ∃ err, (Prog.run (alone env) (applyPatch env userId e patch.toExpensePatch) w).1 =
      .error err ∧ err.isColumnError = true := by
  cases hrow : resultingExpense e patch.toExpensePatch with
  | error err =>
      refine ⟨err, ?_, isColumnError_of_resulting hrow⟩
      rw [applyPatch, Prog.bind_eq,
        Prog.run_bind_error _ (run_flushExpense_error hup hw he hrow)]
  | ok row =>
      have hstorable := (exists_resultingExpense patch).1 ⟨row, hrow⟩
      have hfits : ¬CorrectionFits env.unicode e patch.toExpensePatch := fun hc => h ⟨hstorable, hc⟩
      unfold CorrectionFits at hfits
      push Not at hfits
      obtain ⟨m, c, hc, hlong⟩ := hfits
      obtain ⟨stamp, w', hflush, hf, -, -⟩ := run_flushExpense_ok hup hw he hrow
      refine ⟨.dataError, ?_, rfl⟩
      rw [applyPatch, Prog.bind_eq, Prog.run_bind_ok _ hflush, hc]
      exact (run_recordCorrection hup hf userId m c).2 (fun hc => absurd hc.2 (not_le.2 (hlong hc.1)))

/-- **When a patch is answered as it should be.**  A validated patch of a stored expense is
applied or refused with a 4xx answer exactly if it is not the user's, or the request is
stale, or every column takes what the patch assigns and the correction it teaches fits; any
other patch ends in a constraint or a length of the database. -/
theorem patchAnswered_iff (hup : ∀ n, env.fault n = .none) (hw : ExpenseSession T C w)
    {e : Expense} (he : e ∈ T.rows) (hread : Readable env.unicode e) (userId : UUID)
    (patch : ExpenseUpdate env.unicode) (ifMatch : Option String) :
    PatchApplied env.unicode T e patch.toExpensePatch
        (Prog.run (alone env) (patchExpense env userId e.id patch ifMatch) w) ∨
      PatchRefused T C (Prog.run (alone env) (patchExpense env userId e.id patch ifMatch) w) ↔
    e.userId ≠ userId ∨ isStale env ifMatch e = true ∨
      Storable e patch.toExpensePatch ∧ CorrectionFits env.unicode e patch.toExpensePatch := by
  have hget := run_getExpense hup hw he userId
  by_cases huser : e.userId = userId
  swap
  · -- somebody else's expense is not found
    rw [if_neg huser] at hget
    have hrun : Prog.run (alone env) (patchExpense env userId e.id patch ifMatch) w =
        (.error (.expenseNotFound e.id), w.tick) :=
      Prog.run_bind_error _ (Prog.run_bind_error _ hget)
    rw [hrun]
    exact ⟨fun _ => Or.inl huser,
      fun _ => Or.inr ⟨_, rfl, rfl, hw.expenses, hw.corrections⟩⟩
  rw [if_pos huser] at hget
  by_cases hstale : isStale env ifMatch e = true
  · have hupdate : Prog.run (alone env)
        (updateExpense env userId e.id patch.toExpensePatch ifMatch) w =
          (.error (.etagMismatch e.id), w.tick) := by
      refine (Prog.run_bind_ok _ hget).trans ?_
      rw [if_pos hstale]
      rfl
    have hrun : Prog.run (alone env) (patchExpense env userId e.id patch ifMatch) w =
        (.error (.etagMismatch e.id), w.tick) := Prog.run_bind_error _ hupdate
    rw [hrun]
    exact ⟨fun _ => Or.inr (Or.inl hstale),
      fun _ => Or.inr ⟨_, rfl, rfl, hw.expenses, hw.corrections⟩⟩
  constructor
  · intro h
    refine Or.inr (Or.inr ?_)
    by_contra hbad
    -- the error is neither a row nor one of the client's
    obtain ⟨err, herr, hcolumn⟩ := run_applyPatch_error hup hw.tick he userId patch hbad
    have hrun : (Prog.run (alone env) (patchExpense env userId e.id patch ifMatch) w).1 =
        .error err := by
      rcases hpair : Prog.run (alone env) (applyPatch env userId e patch.toExpensePatch) w.tick
        with ⟨r, w'⟩
      rw [hpair] at herr
      cases herr
      have hupdate : Prog.run (alone env)
          (updateExpense env userId e.id patch.toExpensePatch ifMatch) w = (.error err, w') := by
        refine (Prog.run_bind_ok _ hget).trans ?_
        rw [if_neg hstale]
        exact Prog.run_bind_error _ hpair
      rw [patchExpense, Prog.bind_eq, Prog.run_bind_error _ hupdate]
    rcases h with ⟨row, out, hok, -⟩ | ⟨err', herr', hclient, -⟩
    · rw [hrun] at hok
      cases hok
    · rw [hrun] at herr'
      cases herr'
      rw [isClientError_of_isColumnError hcolumn] at hclient
      cases hclient
  · intro h
    obtain ⟨hstorable, hfits⟩ := (h.resolve_left (fun hne => hne huser)).resolve_left hstale
    obtain ⟨row, hrow⟩ := (exists_resultingExpense patch).2 hstorable
    have hpatched := patchedFrom_of_resulting hrow
    have hreadable := readable_of_resulting hread hrow
    obtain ⟨stamp, w', happly, hf, hput⟩ := run_applyPatch_ok hup hw.tick he userId hrow hfits
    -- the committed row, read back
    obtain ⟨row', hrow'⟩ : ∃ row', row' = { row with id := e.id, updatedAt := stamp } := ⟨_, rfl⟩
    have hpatched' : ExpensePatchedFrom e patch.toExpensePatch row' := by
      rw [hrow']
      exact { hpatched with id := rfl }
    have hreadable' : Readable env.unicode row' := by
      rw [hrow']
      exact ⟨hreadable.merchantName, hreadable.amount, hreadable.currency, hreadable.description⟩
    rw [← hrow'] at hput
    obtain ⟨out, hout⟩ := (readable_iff env.unicode row').1 hreadable'
    have hmem : row' ∈ (T.put row').rows := Table.mem_put.2 (Or.inl rfl)
    obtain ⟨v, hv⟩ : ∃ v : World Unit, v = { w' with db := w'.db.commit () }.tick := ⟨_, rfl⟩
    have hexpenses : v.db.expenses = Store.ofTable (T.put row') := by
      rw [hv]
      exact hput
    have hcommit : Prog.run (alone env) commit w' = (.ok (), v) := by
      rw [commit, Prog.run_perform, alone_commit env hf (hup _), hv]
    have hrefresh := run_refreshExpense hup hexpenses (by rw [hv]; exact hf) hmem
    rw [hpatched'.id] at hrefresh
    have hupdate : Prog.run (alone env)
        (updateExpense env userId e.id patch.toExpensePatch ifMatch) w = (.ok row', v.tick) := by
      refine (Prog.run_bind_ok _ hget).trans ?_
      rw [if_neg hstale]
      exact (Prog.run_bind_ok _ happly).trans ((Prog.run_bind_ok _ hcommit).trans hrefresh)
    have hrun : Prog.run (alone env) (patchExpense env userId e.id patch ifMatch) w =
        (.ok out, v.tick) := by
      refine (Prog.run_bind_ok _ hupdate).trans ?_
      rw [hout]
      rfl
    rw [hrun]
    exact Or.inl ⟨row', out, rfl, hout, hreadable', hpatched', hexpenses⟩

end run

/-! ### One coffee -/

def coffee : Expense :=
  ⟨5, 7, "Blue Bottle", .cents 450, "USD", .other, ⟨2026, 4, 1, isDate_firstOfApril⟩, none, none,
    .manual, 10, 10⟩

def coffeeTable : ExpenseTable := ⟨[coffee], by decide⟩

def coffeeWorld : World Unit :=
  World.ofDb { Db.ofUsers [⟨7, "t"⟩] with expenses := Store.ofTable coffeeTable }

/-- A patch to another category and another merchant. -/
def coffeePatch : ExpenseUpdate Env.quiet.unicode where
  merchantName := some (some "Philz")
  amount := none
  currency := none
  category := some (some .foodDining)
  expenseDate := none
  description := some none
  merchantName_ok v h := by
    cases h
    decide
  amount_ok _ h := by cases h
  currency_ok _ h := by cases h
  description_ok v h := by
    cases h
    rfl

theorem patchAnswered_iff_sample :
    PatchApplied Env.quiet.unicode coffeeTable coffee coffeePatch.toExpensePatch
        (Prog.run (alone Env.quiet) (patchExpense Env.quiet 7 5 coffeePatch none) coffeeWorld) ∨
      PatchRefused coffeeTable Table.empty
        (Prog.run (alone Env.quiet) (patchExpense Env.quiet 7 5 coffeePatch none) coffeeWorld) := by
  have hw : ExpenseSession coffeeTable Table.empty coffeeWorld := ⟨rfl, rfl, rfl⟩
  have hup : ∀ n, Env.quiet.fault n = .none := fun _ => rfl
  have hmem : coffee ∈ coffeeTable.rows := List.mem_singleton_self coffee
  refine (patchAnswered_iff hup hw hmem ?_ 7 coffeePatch none).2 (Or.inr (Or.inr ⟨?_, ?_⟩))
  · exact ⟨by decide, (amountOk_cents 450).2 (by decide), by decide, rfl⟩
  · refine ⟨fun v h => ?_, fun v h => (nomatch h), fun v h => (nomatch h), by decide, by decide,
      Or.inl rfl⟩
    cases h
    exact Or.inr ⟨_, rfl, by decide⟩
  · intro m c h
    have hcorrection : coffeePatch.correction coffee = some ("Philz", .foodDining) := by decide
    rw [hcorrection] at h
    cases h
    decide

/-- A patch that nulls the amount. -/
def nullAmountPatch : ExpenseUpdate Env.quiet.unicode where
  merchantName := none
  amount := some none
  currency := none
  category := none
  expenseDate := none
  description := none
  merchantName_ok _ h := by cases h
  amount_ok _ h := by cases h
  currency_ok _ h := by cases h
  description_ok _ h := by cases h

/-- The schema accepts the null, and the patch ends in a constraint of the database. -/
theorem not_answered_of_nullAmount :
    ¬(PatchApplied Env.quiet.unicode coffeeTable coffee nullAmountPatch.toExpensePatch
        (Prog.run (alone Env.quiet) (patchExpense Env.quiet 7 5 nullAmountPatch none)
          coffeeWorld) ∨
      PatchRefused coffeeTable Table.empty
        (Prog.run (alone Env.quiet) (patchExpense Env.quiet 7 5 nullAmountPatch none)
          coffeeWorld)) := by
  have hrun : (Prog.run (alone Env.quiet) (patchExpense Env.quiet 7 5 nullAmountPatch none)
      coffeeWorld).1 = .error .integrityError := rfl
  rintro (⟨row, out, h, -⟩ | ⟨err, h, hclient, -⟩)
  · rw [hrun] at h
    cases h
  · rw [hrun] at h
    cases h
    cases hclient

end SpendLens
