/-
# The hand-over between the two tasks

The first task stores what it has parsed in a JSON column, and the second one reads the column.
The column holds the JSON text of the payload: whatever the merchant is called, whatever the sign,
the exponent and the digits of the total are, the second task sees what the first one had.
-/
import SpendLens.Booking
import SpendLens.Lib.JsonWriter

namespace SpendLens

namespace ParsedReceipt

/-! ## The stored text -/

/-- What the second task is handed: the payload, written as JSON text and read again. -/
def handedOver (env : Env) (p : ParsedReceipt) : Option Json :=
  p.toJsonable.dumps.bind (fun text => (Json.loads env.jsonDepth text).toOption)

/-- There is no number in a payload, so that it can be written. -/
theorem exists_dumps_toJsonable (p : ParsedReceipt) : ∃ text, p.toJsonable.dumps = some text := by
  have hfield : ∀ {α : Type} (field : Option α) (f : α → String),
      ∃ text, (field.elim .null (fun a => .str (f a)) : Json).dumps = some text := by
    intro α field f
    cases field with
    | none => exact ⟨_, rfl⟩
    | some a => exact ⟨_, rfl⟩
  refine Json.exists_dumps_obj (fun kv hkv => ?_)
  simp only [List.mem_cons, List.not_mem_nil, or_false] at hkv
  rcases hkv with rfl | rfl | rfl | rfl
  · exact hfield p.merchant id
  · exact hfield p.total Decimal.str
  · exact hfield p.transactionDate Date.isoformat
  · exact ⟨_, rfl⟩

/-- The object and its list of line items. -/
theorem nesting_toJsonable (p : ParsedReceipt) : p.toJsonable.nesting = 2 := by
  have hfield : ∀ {α : Type} (field : Option α) (f : α → String),
      (field.elim .null (fun a => .str (f a)) : Json).nesting = 0 := by
    intro α field f
    cases field with
    | none => rfl
    | some a => rfl
  have hmerchant : (p.merchant.elim .null .str : Json).nesting = 0 := hfield p.merchant id
  rw [toJsonable, Json.nesting, Json.nestingEntries, hmerchant, Json.nestingEntries, hfield,
    Json.nestingEntries, hfield]
  rfl

/-- **The payload arrives as it was stored.** -/
theorem handedOver_eq {env : Env} (hdepth : 2 ≤ env.jsonDepth) (p : ParsedReceipt) :
    p.handedOver env = some p.toJsonable := by
  obtain ⟨text, htext⟩ := p.exists_dumps_toJsonable
  have hread := Json.loads_dumps htext (p.nesting_toJsonable.trans_le hdepth)
  rw [handedOver, htext, Option.bind_some, hread]
  rfl

/-! ## What the second task makes of it -/

/-- **The hand-over loses nothing**: the second task reads the merchant or its placeholder, the
very decimal or 0.00, and the date or today's, from the payload that went through the column. -/
theorem survives_handOver {env : Env} (hdepth : 2 ≤ env.jsonDepth) {p : ParsedReceipt}
    (htotal : ∀ d, p.total = some d → d.Representable) (w : World Unit) :
    ∃ payload, p.handedOver env = some payload ∧
      (Prog.run (alone env) (coercePayload env payload) w).1 =
        .ok (.str ((p.merchant.filter (fun m => m ≠ "")).getD "Unknown"),
          p.total.getD (.ofCents 0), p.transactionDate.getD (env.today w.calls)) :=
  ⟨p.toJsonable, handedOver_eq hdepth p, Booking.run_coercePayload env htotal w⟩

/-- A receipt without a merchant whose total is the negative zero `-0E+7`. -/
def oddReceipt : ParsedReceipt := ⟨some "", some (.fin true 0 7), none⟩

theorem survives_handOver_odd : ∃ payload, oddReceipt.handedOver Env.quiet = some payload ∧
    (Prog.run (alone Env.quiet) (coercePayload Env.quiet payload) (World.ofDb (Db.ofUsers []))).1 =
      .ok (.str "Unknown", .fin true 0 7, Env.quiet.today 0) := by
  have hrange : ∀ d, oddReceipt.total = some d → d.Representable := by
    intro d hd
    obtain rfl := Option.some.inj hd
    show Decimal.InRange 7 1
    exact ⟨by decide, by decide⟩
  exact survives_handOver (by decide) hrange _

end ParsedReceipt

end SpendLens
