/-
# The texts of cursors

What the writer produces comes back from the reader, and has only letters of base64url.  What a
client makes up is read as JSON, and the reader is ready for fields that are missing or malformed.
It is not ready for two texts: one nested too deep, and one whose identifier is a number, a truth
value, a list or an object behind a readable date.
-/
import SpendLens.Pagination

namespace SpendLens

namespace ExpenseCursor

/-! ## What the writer produces -/

/-- The letters of base64url. -/
def urlsafeAlphabet : List Char :=
  "ABCDEFGHIJKLMNOPQRSTUVWXYZabcdefghijklmnopqrstuvwxyz0123456789-_".toList

theorem toUrlsafe_mem {x : Char} (h : x ∈ Base64.alphabet) : toUrlsafe x ∈ urlsafeAlphabet := by
  have key : ∀ x ∈ Base64.alphabet, toUrlsafe x ∈ urlsafeAlphabet := forall_mem_of_all (by decide)
  exact key x h

theorem encode_urlsafe (c : ExpenseCursor) : ∀ x ∈ c.encode.toList, x ∈ urlsafeAlphabet := by
  intro x hx
  rw [encode, String.toList_ofList, Base64.stripPadding_encode, List.mem_map] at hx
  obtain ⟨y, hy, rfl⟩ := hx
  exact toUrlsafe_mem (Base64.mem_alphabet_of_mem_digits hy)

/-- **A cursor comes back** from its text, which has only letters of base64url; two cursors have
two texts. -/
theorem survives_encoding (env : Env) :
    (∀ (d : Date) (u : UUID), decode env (encode ⟨d, u⟩) = .ok ⟨d, u⟩) ∧
      (∀ c : ExpenseCursor, ∀ x ∈ c.encode.toList, x ∈ urlsafeAlphabet) ∧
      Function.Injective encode := by
  refine ⟨fun d u => decode_encode env ⟨d, u⟩, encode_urlsafe, fun a b hab => ?_⟩
  have hread : decode env a.encode = decode env b.encode := by rw [hab]
  rw [decode_encode, decode_encode] at hread
  exact Except.ok.inj hread

/-! ## What a client makes up -/

/-- The text a cursor stands for, if its base64url stands for one. -/
def jsonText (raw : String) : Option (List Char) :=
  let padded := raw.toList ++ Base64.padding raw.toList.length
  if padded.all (fun c => c.toNat < 128) then
    match Base64.decode false (padded.map ofUrlsafe) with
    | .error _ => none
    | .ok bytes => TextEncoding.decodeGuessed bytes
  else none

/-- A null or a text: what the constructor of identifiers reads, or refuses as it should. -/
def IsNullOrText (v : Json) : Prop := v = .null ∨ ∃ s, v = .str s

/-- The text is not nested too deep, and its identifier is no number, no truth value, no list and
no object where its date is readable. -/
structure SafeCursor (env : Env) (raw : String) : Prop where
  shallow : ∀ text, jsonText raw = some text →
    Json.loads env.jsonDepth text ≠ .error .tooDeep
  typed : ∀ text v d date i, jsonText raw = some text → Json.loads env.jsonDepth text = .ok v →
    v.get? "d" = some (.str d) → Date.fromisoformat d = some date → v.get? "i" = some i →
    IsNullOrText i

variable {env : Env} {raw : String}

/-- A cursor, or the one exception the endpoint answers with a 400. -/
def ReadOrRefused (r : Except PyExc ExpenseCursor) : Prop :=
  (∃ c, r = .ok c) ∨ r = .error .invalidCursor

theorem decode_eq (env : Env) (raw : String) :
    decode env raw = match jsonText raw with
      | none => .error .invalidCursor
      | some text =>
          match Json.loads env.jsonDepth text with
          | .error .tooDeep => .error .recursionError
          | .error _ => .error .invalidCursor
          | .ok v => ofJson env v := by
  unfold decode jsonText
  dsimp only
  split
  · cases Base64.decode false _ with
    | error e => rfl
    | ok bytes => rfl
  · rfl

/-- A JSON value is read or refused, unless its identifier is of a wrong type behind a readable
date. -/
theorem readOrRefused_ofJson (v : Json) :
    ReadOrRefused (ofJson env v) ↔ ∀ d date i, v.get? "d" = some (.str d) →
      Date.fromisoformat d = some date → v.get? "i" = some i → IsNullOrText i := by
  have hrefused : ReadOrRefused (.error .invalidCursor) := Or.inr rfl
  have hcrash : ¬ReadOrRefused (.error .attributeError) := by
    rintro (⟨c, hc⟩ | hc)
    · cases hc
    · cases hc
  unfold ofJson
  split
  · rename_i d hd
    split
    · -- the date is no date
      rename_i hnone
      refine iff_of_true hrefused (fun d' date i hd' hdate => ?_)
      obtain rfl : d = d' := by
        rw [hd] at hd'
        exact Json.str.inj (Option.some.inj hd')
      rw [hnone] at hdate
      cases hdate
    · rename_i date hdate
      have honly : (∀ d' date' i, v.get? "d" = some (.str d') →
          Date.fromisoformat d' = some date' → v.get? "i" = some i → IsNullOrText i) ↔
          ∀ i, v.get? "i" = some i → IsNullOrText i :=
        ⟨fun h i hi => h d date i hd hdate hi, fun h _ _ i _ _ hi => h i hi⟩
      rw [honly]
      split
      · rename_i hi
        exact iff_of_true hrefused (fun i h => by rw [hi] at h; cases h)
      · rename_i hi
        refine iff_of_true hrefused (fun i h => Or.inl ?_)
        rw [hi] at h
        exact (Option.some.inj h).symm
      · rename_i s hi
        refine iff_of_true ?_ (fun i h => Or.inr ⟨s, ?_⟩)
        · cases parseUUID env.unicode s with
          | none => exact hrefused
          | some id => exact Or.inl ⟨_, rfl⟩
        · rw [hi] at h
          exact (Option.some.inj h).symm
      · rename_i i hnull htext hi
        refine iff_of_false hcrash (fun h => ?_)
        rcases h i hi with rfl | ⟨s, rfl⟩
        · exact hnull rfl
        · exact htext s rfl
  · rename_i hno
    exact iff_of_true hrefused (fun d date i hd => absurd hd (hno d))

/-- **Reading a cursor ends in a cursor or in `InvalidCursorError`** exactly for the safe ones. -/
theorem decodes_iff (env : Env) (raw : String) :
    ReadOrRefused (decode env raw) ↔ SafeCursor env raw := by
  rw [decode_eq]
  cases htext : jsonText raw with
  | none =>
      refine iff_of_true (Or.inr rfl) ⟨fun text h => ?_, fun text v d date i h => ?_⟩
      · rw [htext] at h
        cases h
      · rw [htext] at h
        cases h
  | some text =>
      dsimp only
      have hone : SafeCursor env raw ↔ Json.loads env.jsonDepth text ≠ .error .tooDeep ∧
          ∀ v, Json.loads env.jsonDepth text = .ok v → ∀ d date i, v.get? "d" = some (.str d) →
            Date.fromisoformat d = some date → v.get? "i" = some i → IsNullOrText i := by
        constructor
        · exact fun h => ⟨h.shallow text htext,
            fun v hv d date i => h.typed text v d date i htext hv⟩
        · rintro ⟨hshallow, htyped⟩
          refine ⟨fun text' h => ?_, fun text' v d date i h hv => ?_⟩
          · obtain rfl : text = text' := Option.some.inj (htext.symm.trans h)
            exact hshallow
          · obtain rfl : text = text' := Option.some.inj (htext.symm.trans h)
            exact htyped v hv d date i
      rw [hone]
      cases hload : Json.loads env.jsonDepth text with
      | error e =>
          cases e with
          | tooDeep =>
              refine iff_of_false ?_ (fun h => h.1 rfl)
              rintro (⟨c, hc⟩ | hc)
              · cases hc
              · cases hc
          | malformed => exact iff_of_true (Or.inr rfl) ⟨nofun, nofun⟩
          | tooManyDigits => exact iff_of_true (Or.inr rfl) ⟨nofun, nofun⟩
      | ok v =>
          dsimp only
          rw [readOrRefused_ofJson]
          constructor
          · intro h
            refine ⟨nofun, fun v' hv' => ?_⟩
            rw [← Except.ok.inj hv']
            exact h
          · exact fun h => h.2 v rfl

/-- The cursor of `{"d":"2026-04-01","i":5}`, whose identifier is a number. -/
def numberedCursor : String := "eyJkIjoiMjAyNi0wNC0wMSIsImkiOjV9"

/-- A number in the place of the identifier is an `AttributeError`. -/
theorem not_decodes_number : ¬ReadOrRefused (decode Env.quiet numberedCursor) := by
  have hcrash : decode Env.quiet numberedCursor = .error .attributeError := by decide +kernel
  rw [hcrash]
  rintro (⟨c, hc⟩ | hc)
  · cases hc
  · cases hc

end ExpenseCursor

end SpendLens
