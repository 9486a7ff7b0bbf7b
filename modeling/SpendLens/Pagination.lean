/-
# Opaque cursors

The keyset position of the expense list and its text form, base64url of a JSON
object without padding.  `decode` reads whatever a client sends, `decode_encode` is
the round trip.
-/
import SpendLens.Statement
import SpendLens.Lib.Base64
import SpendLens.Lib.JsonText

namespace SpendLens

/-! ## Reading identifiers -/

/-- `s.replace(pat, "")`; the first argument is how many characters are still to skip. -/
def removeFrom (pat : List Char) : ℕ → List Char → List Char
  | _, [] => []
  | skip + 1, _ :: cs => removeFrom pat skip cs
  | 0, c :: cs =>
      if pat.isPrefixOf (c :: cs) then removeFrom pat (pat.length - 1) cs
      else c :: removeFrom pat 0 cs

/-- The value of a digit in base 16. -/
def baseSixteenVal (U : Unicode) (c : Char) : Option ℕ :=
  if 'a' ≤ c ∧ c ≤ 'f' then some (c.toNat - 87)
  else if 'A' ≤ c ∧ c ≤ 'F' then some (c.toNat - 55)
  else U.decimal c

/-- The digits of a numeral in base 16, with single underscores between them; `last`
says whether the character before was a digit. -/
def baseSixteenFrom (U : Unicode) (last : Bool) (acc : ℕ) : List Char → Option ℕ
  | [] => if last then some acc else none
  | c :: cs =>
      if c = '_' then (if last then baseSixteenFrom U false acc cs else none)
      else
        match baseSixteenVal U c with
        | some v => baseSixteenFrom U true (acc * 16 + v) cs
        | none => none

/-- Without a base prefix and the underscore that may follow it. -/
def dropBasePrefix : List Char → List Char
  | '0' :: x :: rest =>
      if x = 'x' ∨ x = 'X' then (if rest.head? = some '_' then rest.tail else rest)
      else '0' :: x :: rest
  | cs => cs

/-- `int(text, 16)`. -/
def intBaseSixteen (U : Unicode) (cs : List Char) : Option ℤ :=
  let signed := Decimal.takeSign (stripChars cs)
  (baseSixteenFrom U false 0 (dropBasePrefix signed.2)).map
    (fun n : ℕ => if signed.1 then -(n : ℤ) else (n : ℤ))

theorem toNat_lt_of_inRange {n : ℤ} (h : 0 ≤ n ∧ n < 2 ^ 128) : n.toNat < 2 ^ 128 := by omega

/-- `UUID(text)`; `none` is its `ValueError`. -/
def parseUUID (U : Unicode) (s : String) : Option UUID :=
  let brace (c : Char) : Bool := c = '\x7b' || c = '\x7d'
  let hex := removeFrom "uuid:".toList 0 (removeFrom "urn:".toList 0 s.toList)
  let hex := ((hex.dropWhile brace).rdropWhile brace).filter (fun c => c ≠ '-')
  if hex.length ≠ 32 then none
  else
    match intBaseSixteen U hex with
    | some n => if h : 0 ≤ n ∧ n < 2 ^ 128 then some ⟨n.toNat, toNat_lt_of_inRange h⟩ else none
    | none => none

/-! ## Cursors -/

/-- A position in the list: the sort key and its tiebreaker. -/
structure ExpenseCursor where
  expenseDate : Date
  id : UUID
  deriving DecidableEq

namespace ExpenseCursor

/-- The two characters base64url writes differently. -/
def toUrlsafe (c : Char) : Char := if c = '+' then '-' else if c = '/' then '_' else c

def ofUrlsafe (c : Char) : Char := if c = '-' then '+' else if c = '_' then '/' else c

/-- The JSON object of a cursor. -/
def payload (c : ExpenseCursor) : List Char :=
  '\x7b' :: (Json.quote ['d'] ++ ':' :: Json.quote c.expenseDate.isoChars ++ ',' ::
    Json.quote ['i'] ++ ':' :: Json.quote (uuidChars c.id) ++ ['\x7d'])

/-- The text of a cursor. -/
def encode (c : ExpenseCursor) : String :=
  String.ofList
    ((Base64.stripPadding (Base64.encode (TextEncoding.ascii c.payload))).map toUrlsafe)

/-- The position in a JSON value.  A field that is no text is a `TypeError` of the date
reader, and of the `UUID` constructor when it is null, but an `AttributeError` of that
constructor otherwise. -/
def ofJson (env : Env) (v : Json) : Except PyExc ExpenseCursor :=
  match v.get? "d" with
  | some (.str d) =>
      match Date.fromisoformat d with
      | none => .error .invalidCursor
      | some date =>
          match v.get? "i" with
          | none => .error .invalidCursor
          | some .null => .error .invalidCursor
          | some (.str i) =>
              match parseUUID env.unicode i with
              | none => .error .invalidCursor
              | some id => .ok ⟨date, id⟩
          | some _ => .error .attributeError
  | _ => .error .invalidCursor

/-- Read a cursor. -/
def decode (env : Env) (raw : String) : Except PyExc ExpenseCursor :=
  let padded := raw.toList ++ Base64.padding raw.toList.length
  if padded.all (fun c => c.toNat < 128) then
    match Base64.decode false (padded.map ofUrlsafe) with
    | .error _ => .error .invalidCursor
    | .ok bytes =>
        match TextEncoding.decodeGuessed bytes with
        | none => .error .invalidCursor
        | some text =>
            match Json.loads env.jsonDepth text with
            | .error .tooDeep => .error .recursionError
            | .error _ => .error .invalidCursor
            | .ok v => ofJson env v
  else .error .invalidCursor

end ExpenseCursor

/-! ## Identifiers as text -/

/-- The digits `str` writes. -/
def hexAlphabet : List Char := "0123456789abcdef".toList

theorem hexDigit_mem (n : ℕ) : hexDigit (n % 16) ∈ hexAlphabet := by
  have key : ∀ m : Fin 16, hexDigit m ∈ hexAlphabet := by decide
  exact key ⟨n % 16, by omega⟩

theorem hexChars_mem {k n : ℕ} {c : Char} (h : c ∈ hexChars k n) : c ∈ hexAlphabet := by
  induction k with
  | zero => cases h
  | succ k ih =>
      rcases List.mem_cons.1 h with rfl | h
      · exact hexDigit_mem _
      · exact ih h

theorem length_hexChars (k n : ℕ) : (hexChars k n).length = k := by
  induction k with
  | zero => rfl
  | succ k ih => rw [hexChars, List.length_cons, ih]

/-- Without its hyphens, the text of an identifier is its 32 digits. -/
theorem filter_uuidChars (id : UUID) :
    (uuidChars id).filter (fun c => c ≠ '-') = hexChars 32 id.val := by
  have hdash : ∀ d ∈ hexAlphabet, d ≠ '-' := forall_mem_of_all (by decide)
  have hne : ∀ c ∈ hexChars 32 id.val, c ≠ '-' := fun c hc => hdash c (hexChars_mem hc)
  have hcons : ∀ l : List Char, ('-' :: l).filter (fun c => c ≠ '-') = l.filter (fun c => c ≠ '-') :=
    fun l => List.filter_cons_of_neg (by decide)
  unfold uuidChars
  generalize hexChars 32 id.val = h at hne
  have hid : ∀ {l : List Char}, l ⊆ h → l.filter (fun c => c ≠ '-') = l := by
    intro l hl
    rw [List.filter_eq_self]
    intro c hc
    simpa using hne c (hl hc)
  have htake : ∀ m k, (h.drop m).take k ⊆ h :=
    fun m k x hx => List.drop_subset _ _ (List.take_subset _ _ hx)
  simp only [List.filter_append, hcons]
  rw [hid (List.take_subset _ _), hid (htake 8 4), hid (htake 12 4), hid (htake 16 4),
    hid (List.drop_subset _ _)]
  -- the pieces, put together again
  have step : ∀ m k, (h.drop m).take k ++ h.drop (m + k) = h.drop m := by
    intro m k
    rw [← List.drop_drop, List.take_append_drop]
  rw [List.append_assoc, step 16 4, List.append_assoc, step 12 4, List.append_assoc, step 8 4,
    List.take_append_drop]

theorem mem_uuidChars {id : UUID} {c : Char} (h : c ∈ uuidChars id) :
    c ∈ hexAlphabet ∨ c = '-' := by
  by_cases hc : c = '-'
  · exact Or.inr hc
  · refine Or.inl (hexChars_mem (k := 32) (n := id.val) ?_)
    rw [← filter_uuidChars, List.mem_filter]
    exact ⟨h, by simpa using hc⟩

/-- Removing a pattern that begins with a character that does not occur. -/
theorem removeFrom_of_not_mem {p : Char} {pat cs : List Char} (h : p ∉ cs) :
    removeFrom (p :: pat) 0 cs = cs := by
  induction cs with
  | nil => rfl
  | cons c cs ih =>
      rw [List.mem_cons, not_or] at h
      have hpre : (p :: pat).isPrefixOf (c :: cs) = false := by
        simp [List.isPrefixOf, h.1]
      rw [removeFrom, hpre, if_neg Bool.false_ne_true, ih h.2]

theorem baseSixteenVal_hexDigit (U : Unicode) (n : ℕ) :
    baseSixteenVal U (hexDigit (n % 16)) = some (n % 16) := by
  have key : ∀ m : Fin 16, (hexDigit m).toNat < 128 ∧
      (if 'a' ≤ hexDigit m ∧ hexDigit m ≤ 'f' then some ((hexDigit m).toNat - 87)
        else if 'A' ≤ hexDigit m ∧ hexDigit m ≤ 'F' then some ((hexDigit m).toNat - 55)
        else if (hexDigit m).isDigit then some ((hexDigit m).toNat - '0'.toNat) else none) =
      some m.val := by decide
  have h := key ⟨n % 16, by omega⟩
  rw [baseSixteenVal, U.decimal_ascii _ h.1]
  exact h.2

/-- Reading the digits of a number, behind what has been read. -/
theorem baseSixteenFrom_hexChars (U : Unicode) (k n acc : ℕ) :
    baseSixteenFrom U true acc (hexChars k n) = some (acc * 16 ^ k + n % 16 ^ k) := by
  induction k generalizing acc with
  | zero => simp [hexChars, baseSixteenFrom, Nat.mod_one]
  | succ k ih =>
      have hne : hexDigit (n / 16 ^ k % 16) ≠ '_' := by
        intro hc
        have := hexDigit_mem (n / 16 ^ k)
        rw [hc] at this
        exact absurd this (by decide)
      rw [hexChars, baseSixteenFrom, if_neg hne, baseSixteenVal_hexDigit]
      simp only [ih, Option.some.injEq]
      have hmod : n % 16 ^ (k + 1) = n % 16 ^ k + 16 ^ k * (n / 16 ^ k % 16) := by
        rw [pow_succ, Nat.mod_mul]
      rw [hmod, pow_succ]
      ring

/-- Trimming takes nothing from a list without members to trim. -/
theorem trim_eq_self {p : Char → Bool} {cs : List Char} (h : ∀ c ∈ cs, p c = false) :
    (cs.dropWhile p).rdropWhile p = cs := by
  have h₁ : cs.dropWhile p = cs := by
    cases cs with
    | nil => rfl
    | cons c cs => rw [List.dropWhile_cons_of_neg]; simp [h c List.mem_cons_self]
  rw [h₁, List.rdropWhile_eq_self_iff]
  intro hne
  rw [h _ (List.getLast_mem hne)]
  exact Bool.false_ne_true

/-- `int(text, 16)` of the digits of a number. -/
theorem intBaseSixteen_hexChars (U : Unicode) (k n : ℕ) :
    intBaseSixteen U (hexChars (k + 2) n) = some ((n % 16 ^ (k + 2) : ℕ) : ℤ) := by
  have key : ∀ d ∈ hexAlphabet, isSpace d = false ∧ d ≠ '-' ∧ d ≠ '+' ∧ d ≠ '_' ∧ d ≠ 'x' ∧
      d ≠ 'X' := forall_mem_of_all (by decide)
  have hmem : ∀ c ∈ hexChars (k + 2) n, c ∈ hexAlphabet := fun c hc => hexChars_mem hc
  have hstrip : stripChars (hexChars (k + 2) n) = hexChars (k + 2) n :=
    trim_eq_self (fun c hc => (key c (hmem c hc)).1)
  -- the first two digits, named
  obtain ⟨a, b, rest, habr⟩ : ∃ a b rest, hexChars (k + 2) n = a :: b :: rest := ⟨_, _, _, rfl⟩
  have ha := key a (hmem a (by rw [habr]; simp))
  have hb := key b (hmem b (by rw [habr]; simp))
  have hsign : Decimal.takeSign (a :: b :: rest) = (false, a :: b :: rest) := by
    unfold Decimal.takeSign
    split
    · rename_i heq
      rw [List.cons.injEq] at heq
      exact absurd heq.1 ha.2.1
    · rename_i heq
      rw [List.cons.injEq] at heq
      exact absurd heq.1 ha.2.2.1
    · rfl
  have hbody : dropBasePrefix (a :: b :: rest) = a :: b :: rest := by
    unfold dropBasePrefix
    split
    · rename_i heq
      rw [List.cons.injEq, List.cons.injEq] at heq
      obtain ⟨rfl, rfl, rfl⟩ := heq
      rw [if_neg (by rintro (h | h); exacts [hb.2.2.2.2.1 h, hb.2.2.2.2.2 h])]
    · rfl
  have hfirst : baseSixteenFrom U false 0 (a :: b :: rest) =
      baseSixteenFrom U true 0 (a :: b :: rest) := by
    unfold baseSixteenFrom
    rw [if_neg ha.2.2.2.1, if_neg ha.2.2.2.1]
  rw [intBaseSixteen, hstrip, habr]
  simp only [hsign]
  rw [hbody, hfirst, ← habr, baseSixteenFrom_hexChars, Nat.zero_mul, Nat.zero_add]
  simp

/-- **Round trip**: `UUID(str(id)) = id`. -/
theorem parseUUID_uuidStr (U : Unicode) (id : UUID) : parseUUID U (uuidStr id) = some id := by
  have hchars : ∀ c ∈ uuidChars id, c ≠ 'u' ∧ (c = '\x7b' || c = '\x7d') = false := by
    have key : ∀ d ∈ '-' :: hexAlphabet, d ≠ 'u' ∧ (d = '\x7b' || d = '\x7d') = false :=
      forall_mem_of_all (by decide)
    intro c hc
    rcases mem_uuidChars hc with h | h
    · exact key c (List.mem_cons_of_mem _ h)
    · exact key c (by rw [h]; exact List.mem_cons_self)
  have hu : 'u' ∉ uuidChars id := fun h => (hchars _ h).1 rfl
  have hurn : removeFrom "urn:".toList 0 (uuidChars id) = uuidChars id := removeFrom_of_not_mem hu
  have huuid : removeFrom "uuid:".toList 0 (uuidChars id) = uuidChars id :=
    removeFrom_of_not_mem hu
  have hbrace : ((uuidChars id).dropWhile (fun c => c = '\x7b' || c = '\x7d')).rdropWhile
      (fun c => c = '\x7b' || c = '\x7d') = uuidChars id :=
    trim_eq_self (fun c hc => (hchars c hc).2)
  have hint : intBaseSixteen U (hexChars 32 id.val) = some (id.val : ℤ) := by
    rw [intBaseSixteen_hexChars, Nat.mod_eq_of_lt (lt_of_lt_of_eq id.isLt (by norm_num))]
  have hlen : (hexChars 32 id.val).length = 32 := length_hexChars 32 id.val
  unfold parseUUID uuidStr
  simp only [String.toList_ofList, hurn, huuid, hbrace, filter_uuidChars, hlen, hint]
  simp

/-! ## Round trip of cursors -/

namespace ExpenseCursor

theorem isPlain_isoChars (d : Date) : ∀ c ∈ d.isoChars, Json.isPlain c = true := by
  have key : ∀ m : Fin 10, Json.isPlain (Date.digitChar m) = true := by decide
  have hdigit : ∀ n, Json.isPlain (Date.digitChar (n % 10)) = true :=
    fun n => key ⟨n % 10, by omega⟩
  have hdash : Json.isPlain '-' = true := by decide
  intro c hc
  simp only [Date.isoChars, Date.pad4, Date.pad2, List.mem_append, List.mem_cons,
    List.not_mem_nil, or_false] at hc
  rcases hc with ((rfl | rfl | rfl | rfl) | rfl | rfl | rfl) | rfl | rfl | rfl <;>
    first
      | exact hdash
      | exact hdigit _

theorem isPlain_uuidChars (id : UUID) : ∀ c ∈ uuidChars id, Json.isPlain c = true := by
  have key : ∀ d ∈ '-' :: hexAlphabet, Json.isPlain d = true :=
    forall_mem_of_all (by decide)
  intro c hc
  rcases mem_uuidChars hc with h | h
  · exact key c (List.mem_cons_of_mem _ h)
  · exact key c (by rw [h]; exact List.mem_cons_self)

/-- The JSON text, its strings written out. -/
theorem payload_eq (c : ExpenseCursor) :
    c.payload = '\x7b' :: '"' :: 'd' :: '"' :: ':' :: '"' :: (c.expenseDate.isoChars ++
      '"' :: ',' :: '"' :: 'i' :: '"' :: ':' :: '"' :: (uuidChars c.id ++ ['"', '\x7d'])) := by
  have hd : Json.quote ['d'] = ['"', 'd', '"'] := by decide
  have hi : Json.quote ['i'] = ['"', 'i', '"'] := by decide
  rw [payload, Json.quote_of_isPlain (isPlain_isoChars c.expenseDate),
    Json.quote_of_isPlain (isPlain_uuidChars c.id), hd, hi]
  simp

/-- The JSON text is read back. -/
theorem loads_payload (c : ExpenseCursor) {depth : ℕ} (h : 0 < depth) :
    Json.loads depth c.payload =
      .ok (.obj [("d", .str c.expenseDate.isoformat), ("i", .str (uuidStr c.id))]) := by
  obtain ⟨depth, rfl⟩ : ∃ k, depth = k + 1 := ⟨depth - 1, by omega⟩
  have hplain : ∀ x ∈ ['d'], Json.isPlain x = true := forall_mem_of_all (by decide)
  have hplain' : ∀ x ∈ ['i'], Json.isPlain x = true := forall_mem_of_all (by decide)
  have hvalue : ∀ n, Json.readValue (n + 4) (depth + 1) c.payload =
      .ok (.obj [("d", .str c.expenseDate.isoformat), ("i", .str (uuidStr c.id))], []) := by
    intro n
    have hlast := Json.readEntries_last hplain' (isPlain_uuidChars c.id) [] n depth
    have hfirst := Json.readEntries_string hplain (isPlain_isoChars c.expenseDate)
      ('i' :: '"' :: ':' :: '"' :: (uuidChars c.id ++ ['"', '\x7d'])) (n + 1) depth
    simp only [List.singleton_append] at hlast hfirst
    rw [payload_eq, Json.readValue_obj, hfirst, hlast]
    rfl
  have hlen : ∃ n, c.payload.length + 1 = n + 4 := by
    rw [payload_eq]
    exact ⟨_, rfl⟩
  obtain ⟨n, hn⟩ := hlen
  have hhead : c.payload.head? = some '\x7b' := by rw [payload_eq]; rfl
  have hskip : Json.skipBlank c.payload = c.payload := by rw [payload_eq]; rfl
  rw [Json.loads, hhead, if_neg (by decide), hskip, hn, hvalue]
  rfl

theorem payload_ascii (c : ExpenseCursor) : ∀ x ∈ c.payload, x.toNat < 128 := by
  have hplain : ∀ x, Json.isPlain x = true → x.toNat < 128 := by
    intro x hx
    simp only [Json.isPlain, Bool.and_eq_true, decide_eq_true_eq] at hx
    omega
  have hdate : ∀ x ∈ c.expenseDate.isoChars, x.toNat < 128 :=
    fun x hx => hplain x (isPlain_isoChars _ x hx)
  have hid : ∀ x ∈ uuidChars c.id, x.toNat < 128 := fun x hx => hplain x (isPlain_uuidChars _ x hx)
  have hopen : ∀ x ∈ ['\x7b', '"', 'd', '"', ':', '"'], x.toNat < 128 := forall_mem_of_all (by decide)
  have hmid : ∀ x ∈ ['"', ',', '"', 'i', '"', ':', '"'], x.toNat < 128 :=
    forall_mem_of_all (by decide)
  have hclose : ∀ x ∈ ['"', '\x7d'], x.toNat < 128 := forall_mem_of_all (by decide)
  have hparts : c.payload = ['\x7b', '"', 'd', '"', ':', '"'] ++ (c.expenseDate.isoChars ++
      (['"', ',', '"', 'i', '"', ':', '"'] ++ (uuidChars c.id ++ ['"', '\x7d']))) := payload_eq c
  intro x hx
  rw [hparts, List.mem_append, List.mem_append, List.mem_append, List.mem_append] at hx
  rcases hx with hx | hx | hx | hx | hx
  · exact hopen x hx
  · exact hdate x hx
  · exact hmid x hx
  · exact hid x hx
  · exact hclose x hx

theorem ofUrlsafe_toUrlsafe {x : Char} (h : x ∈ '=' :: Base64.alphabet) :
    ofUrlsafe (toUrlsafe x) = x := by
  have key : ∀ x ∈ '=' :: Base64.alphabet, ofUrlsafe (toUrlsafe x) = x :=
    forall_mem_of_all (by decide)
  exact key x h

/-- The letters of base64url are those of base64. -/
theorem map_ofUrlsafe_toUrlsafe {cs : List Char} (h : ∀ c ∈ cs, c ∈ '=' :: Base64.alphabet) :
    (cs.map toUrlsafe).map ofUrlsafe = cs := by
  rw [List.map_map]
  conv_rhs => rw [← List.map_id cs]
  apply List.map_congr_left
  intro c hc
  exact ofUrlsafe_toUrlsafe (h c hc)

theorem map_ofUrlsafe_padding (n : ℕ) : (Base64.padding n).map ofUrlsafe = Base64.padding n := by
  rw [Base64.padding, List.map_replicate]
  rfl

theorem toUrlsafe_ascii {c : Char} (h : c ∈ '=' :: Base64.alphabet) :
    (toUrlsafe c).toNat < 128 := by
  have key : ∀ c ∈ '=' :: Base64.alphabet, (toUrlsafe c).toNat < 128 :=
    forall_mem_of_all (by decide)
  exact key c h

/-- The text, with its padding, in the standard alphabet. -/
theorem padded_encode (c : ExpenseCursor) :
    (c.encode.toList ++ Base64.padding c.encode.toList.length).map ofUrlsafe =
      Base64.encode (TextEncoding.ascii c.payload) := by
  rw [encode, String.toList_ofList, Base64.stripPadding_encode, List.map_append,
    map_ofUrlsafe_toUrlsafe (fun x hx =>
      List.mem_cons_of_mem _ (Base64.mem_alphabet_of_mem_digits hx)),
    map_ofUrlsafe_padding, List.length_map]
  rfl

theorem encode_ascii (c : ExpenseCursor) : ∀ x ∈ c.encode.toList, x.toNat < 128 := by
  intro x hx
  rw [encode, String.toList_ofList, Base64.stripPadding_encode, List.mem_map] at hx
  obtain ⟨y, hy, rfl⟩ := hx
  exact toUrlsafe_ascii (List.mem_cons_of_mem _ (Base64.mem_alphabet_of_mem_digits hy))

/-- **Round trip**: a cursor is read back from its text. -/
theorem decode_encode (env : Env) (c : ExpenseCursor) : decode env c.encode = .ok c := by
  have hascii : (c.encode.toList ++ Base64.padding c.encode.toList.length).all
      (fun x => decide (x.toNat < 128)) = true := by
    rw [List.all_eq_true]
    intro x hx
    rw [decide_eq_true_eq]
    rcases List.mem_append.1 hx with h | h
    · exact encode_ascii c x h
    · rw [List.eq_of_mem_replicate h]
      decide
  have htext : TextEncoding.decodeGuessed (TextEncoding.ascii c.payload) = some c.payload := by
    have h := payload_ascii c
    rw [payload_eq] at h ⊢
    exact TextEncoding.decodeGuessed_ascii h (by decide) (by decide)
  unfold decode
  simp only [hascii, if_true, padded_encode, Base64.decode_encode, htext,
    loads_payload c env.jsonDepth_pos, ofJson]
  simp [Json.get?, Date.fromisoformat_isoformat, parseUUID_uuidStr]

end ExpenseCursor

end SpendLens
