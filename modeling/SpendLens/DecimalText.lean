/-
# Decimals as text

What `str` writes of a decimal is read back as the same decimal, with its sign and its exponent:
the writer moves the point, or adds an exponent, but keeps every digit.  The exceptions are decimals
beyond the limits of the type, which no text is read as.
-/
import SpendLens.Numerals

namespace SpendLens

/-! ## Digits -/

theorem digitChar_sub {c : Char} (h : c.isDigit = true) : Date.digitChar (c.toNat - 48) = c := by
  have key := Unicode.forall_ascii
    (P := fun c => c.isDigit = true → Date.digitChar (c.toNat - 48) = c) (by decide) c
    (Unicode.toNat_lt_of_isDigit h)
  exact key h

theorem sub_lt_ten {c : Char} (h : c.isDigit = true) : c.toNat - 48 < 10 := by
  have key := Unicode.forall_ascii (P := fun c => c.isDigit = true → c.toNat - 48 < 10)
    (by decide) c (Unicode.toNat_lt_of_isDigit h)
  exact key h

/-- A natural number as the list of its digits. -/
theorem exists_digits (n : ℕ) :
    ∃ ns : List ℕ, n.repr.toList = ns.map Date.digitChar ∧ (∀ m ∈ ns, m < 10) ∧ ns ≠ [] ∧
      Decimal.digitsVal ns = n := by
  have hdigits : ∀ c ∈ n.repr.toList, c.isDigit = true := fun c hc => isDigit_of_mem_repr hc
  refine ⟨n.repr.toList.map (fun c => c.toNat - 48), ?_, ?_, ?_, ?_⟩
  · rw [List.map_map]
    symm
    refine (List.map_congr_left (fun c hc => ?_)).trans (List.map_id _)
    exact digitChar_sub (hdigits c hc)
  · intro m hm
    obtain ⟨c, hc, rfl⟩ := List.mem_map.1 hm
    exact sub_lt_ten (hdigits c hc)
  · rw [Ne, List.map_eq_nil_iff, Nat.toList_repr]
    exact Nat.toDigits_ne_nil
  · have hval := Nat.ofDigitChars_ten_toDigits (n := n)
    rw [Nat.ofDigitChars_eq_foldl] at hval
    rw [Decimal.digitsVal, List.foldl_map, Nat.toList_repr]
    refine Eq.trans ?_ hval
    congr 1
    funext acc c
    rw [Nat.mul_comm]
    rfl

namespace Decimal

theorem digitsVal_append (ns ms : List ℕ) :
    digitsVal (ns ++ ms) = digitsVal ns * 10 ^ ms.length + digitsVal ms := by
  have key : ∀ (ms : List ℕ) (acc : ℕ), ms.foldl (fun acc d => acc * 10 + d) acc =
      acc * 10 ^ ms.length + digitsVal ms := by
    intro ms
    induction ms with
    | nil => intro acc; simp [digitsVal]
    | cons m ms ih =>
        intro acc
        have hcons : digitsVal (m :: ms) = (0 * 10 + m) * 10 ^ ms.length + digitsVal ms := ih _
        rw [List.foldl_cons, ih, hcons, List.length_cons, pow_succ]
        ring
  rw [digitsVal, List.foldl_append, key]
  rfl

theorem digitsVal_zeros (k : ℕ) (ns : List ℕ) :
    digitsVal (List.replicate k 0 ++ ns) = digitsVal ns := by
  induction k with
  | zero => rfl
  | succ k ih =>
      rw [List.replicate_succ, List.cons_append]
      exact ih

/-- The number of a list of digits has at most as many digits. -/
theorem digitsVal_lt {ns : List ℕ} (h : ∀ n ∈ ns, n < 10) : digitsVal ns < 10 ^ ns.length := by
  induction ns using List.reverseRecOn with
  | nil => exact Nat.one_pos
  | append_singleton ns n ih =>
      have hn := h n (by simp)
      have hns := ih (fun m hm => h m (List.mem_append_left _ hm))
      rw [digitsVal_append, List.length_append, List.length_singleton, pow_succ]
      show digitsVal ns * 10 ^ 1 + (0 * 10 + n) < _
      omega

/-! ## Reading -/

/-- The digits of a text are read up to the first character that is none. -/
theorem spanDigits_map {ns : List ℕ} (h : ∀ n ∈ ns, n < 10) (rest : List Char)
    (hrest : ∀ c ∈ rest.head?, Date.digitVal c = none) :
    spanDigits (ns.map Date.digitChar ++ rest) = (ns, rest) := by
  induction ns with
  | nil =>
      cases rest with
      | nil => rfl
      | cons c rest =>
          rw [List.map_nil, List.nil_append, spanDigits, hrest c rfl]
  | cons n ns ih =>
      rw [List.map_cons, List.cons_append, spanDigits,
        Date.digitVal_digitChar (h n List.mem_cons_self)]
      simp only [ih (fun m hm => h m (List.mem_cons_of_mem _ hm))]

/-- The digits that are read are digits. -/
theorem spanDigits_lt (cs : List Char) : ∀ n ∈ (spanDigits cs).1, n < 10 := by
  induction cs with
  | nil => exact nofun
  | cons c cs ih =>
      rw [spanDigits]
      cases hc : Date.digitVal c with
      | none => exact nofun
      | some v =>
          have hv : v < 10 := by
            rw [Date.digitVal] at hc
            split at hc
            · have := Option.some.inj hc
              omega
            · cases hc
          exact List.forall_mem_cons.2 ⟨hv, ih⟩

/-- Digits behind a point; no point without digits. -/
def fraction (ms : List ℕ) : List Char :=
  match ms with
  | [] => []
  | _ => '.' :: ms.map Date.digitChar

/-- Is a decimal within the limits of the type? -/
def InRange (exp : ℤ) (digits : ℕ) : Prop := exp + digits - 1 ≤ maxEmax ∧ minEtiny ≤ exp

/-- **Reading a numeral**: digits, digits behind a point and an exponent. -/
theorem parseFinite_eq (neg : Bool) {ns ms : List ℕ} (hns : ∀ n ∈ ns, n < 10)
    (hms : ∀ n ∈ ms, n < 10) (hne : ns ≠ []) {tail : List Char} {e : ℤ}
    (htail : parseExp tail = some e) (hhead : ∀ c ∈ tail.head?, c = 'E')
    (hrange : InRange (e - ms.length) (ns ++ ms).length) :
    parseFinite neg (ns.map Date.digitChar ++ (fraction ms ++ tail)) =
      some (.fin neg (digitsVal (ns ++ ms)) (e - ms.length)) := by
  have hnodigit : ∀ c ∈ tail.head?, Date.digitVal c = none := by
    intro c hc
    rw [hhead c hc]
    rfl
  have hisEmpty : ∀ b : Bool, (ns.isEmpty && b) = false := by
    intro b
    cases ns with
    | nil => exact absurd rfl hne
    | cons n ns => rfl
  cases ms with
  | nil =>
      have hspan := spanDigits_map hns tail hnodigit
      have hpoint : ∀ rest, tail ≠ '.' :: rest := by
        rintro rest rfl
        exact absurd (hhead '.' rfl) (by decide)
      rw [fraction, List.nil_append, parseFinite, hspan]
      simp only
      rw [hisEmpty, if_neg (by decide), htail, Option.bind_some]
      exact if_pos hrange
  | cons m ms =>
      have hwhole := spanDigits_map hns ('.' :: ((m :: ms).map Date.digitChar ++ tail))
        (by rintro c ⟨⟩; rfl)
      have hspan := spanDigits_map hms tail hnodigit
      rw [fraction, List.cons_append, parseFinite, hwhole]
      · simp only [hspan]
        rw [hisEmpty, if_neg (by decide), htail, Option.bind_some]
        exact if_pos hrange
      · nofun

/-- An exponent, as it is written. -/
def exponentText (e : ℤ) : List Char :=
  'E' :: ((if 0 ≤ e then ['+'] else []) ++ (toString e).toList)

/-- **Reading an exponent.** -/
theorem parseExp_exponentText (e : ℤ) : parseExp (exponentText e) = some e := by
  have hread : ∀ (neg : Bool) (n : ℕ) (cs : List Char), takeSign cs = (neg, n.repr.toList) →
      parseExp ('E' :: cs) = some (if neg then -(n : ℤ) else n) := by
    intro neg n cs hcs
    obtain ⟨ns, hrepr, hns, hne, hval⟩ := exists_digits n
    have hspan := spanDigits_map hns [] nofun
    rw [List.append_nil] at hspan
    rw [parseExp, if_pos (Or.inr rfl), hcs, hrepr]
    simp only [hspan, hval]
    cases ns with
    | nil => exact absurd rfl hne
    | cons m ns => rfl
  by_cases h : 0 ≤ e
  · obtain ⟨n, rfl⟩ := Int.eq_ofNat_of_zero_le h
    have hsign : takeSign ('+' :: n.repr.toList) = (false, n.repr.toList) := rfl
    rw [exponentText, if_pos h]
    exact hread false n _ hsign
  · obtain ⟨n, rfl⟩ : ∃ n : ℕ, e = -(n + 1 : ℕ) := ⟨(-e).toNat - 1, by omega⟩
    have hsign : takeSign ('-' :: (n + 1).repr.toList) = (true, (n + 1).repr.toList) := rfl
    have htext : (toString (-((n + 1 : ℕ) : ℤ))).toList = '-' :: (n + 1).repr.toList := by
      have habs : (- -((n + 1 : ℕ) : ℤ)).toNat = n + 1 := by omega
      rw [Int.toString_eq_repr, Int.repr_eq_if, if_neg (by omega), habs, String.toList_append]
      rfl
    rw [exponentText, if_neg h, List.nil_append, htext]
    exact hread true (n + 1) _ hsign

/-! ## Signs and names -/

/-- The characters a written number is made of. -/
def plainChars : List Char := ['0', '1', '2', '3', '4', '5', '6', '7', '8', '9', '.', 'E', '+', '-',
  'I', 'n', 'f', 'i', 't', 'y', 's', 'N', 'a']

theorem mem_plainChars_of_isDigit {c : Char} (h : c.isDigit = true) : c ∈ plainChars := by
  have key := Unicode.forall_ascii (P := fun c => c.isDigit = true → c ∈ plainChars) (by decide) c
    (Unicode.toNat_lt_of_isDigit h)
  exact key h

/-- A written number is not changed before it is read. -/
theorem parse?_plain (U : Unicode) {cs : List Char} (h : ∀ c ∈ cs, c ∈ plainChars) :
    parse? U (String.ofList cs) =
      if (takeSign cs).2.map Char.toLower = "inf".toList ∨
          (takeSign cs).2.map Char.toLower = "infinity".toList then some (.inf (takeSign cs).1)
      else (parseNan (takeSign cs).1 (takeSign cs).2).or
        (parseFinite (takeSign cs).1 (takeSign cs).2) := by
  have hplain : ∀ c ∈ plainChars, isSpace c = false ∧ c ≠ '_' ∧ c.toNat < 128 :=
    forall_mem_of_all (by decide)
  have hstrip : stripChars cs = cs := trim_eq_self (fun c hc => (hplain c (h c hc)).1)
  have hkeep : cs.filter (fun c => c ≠ '_') = cs :=
    List.filter_eq_self.2 (fun c hc => decide_eq_true (hplain c (h c hc)).2.1)
  have hmap : ∀ f : Char → Char, (∀ c v, U.decimal c = some v → f c = Date.digitChar v) →
      (∀ c, U.decimal c = none → f c = c) → cs.map f = cs := by
    intro f hsome hnone
    refine (List.map_congr_left (fun c hc => ?_)).trans (List.map_id _)
    have hascii := U.decimal_ascii c (hplain c (h c hc)).2.2
    by_cases hdigit : c.isDigit = true
    · rw [if_pos hdigit] at hascii
      rw [hsome c _ hascii]
      exact digitChar_sub hdigit
    · rw [if_neg hdigit] at hascii
      exact hnone c hascii
  rw [parse?, String.toList_ofList, hstrip, hkeep,
    hmap _ (fun c v hv => by rw [hv]) (fun c hc => by rw [hc])]
  generalize takeSign cs = signed
  obtain ⟨neg, ds⟩ := signed
  simp only
  congr 1
  cases parseNan neg ds <;> rfl

/-- The texts that denote no number, and those with a sign, do not start with a digit. -/
theorem digitChar_head {n : ℕ} (h : n < 10) :
    Date.digitChar n ≠ '-' ∧ Date.digitChar n ≠ '+' ∧
      (Date.digitChar n).toLower ∉ ['i', 's', 'n'] := by
  have key : ∀ m : Fin 10, Date.digitChar m ≠ '-' ∧ Date.digitChar m ≠ '+' ∧
      (Date.digitChar m).toLower ∉ ['i', 's', 'n'] := by decide
  exact key ⟨n, h⟩

/-- A text that starts with a digit has no sign. -/
theorem takeSign_digit {n : ℕ} (h : n < 10) (cs : List Char) :
    takeSign (Date.digitChar n :: cs) = (false, Date.digitChar n :: cs) := by
  obtain ⟨hminus, hplus, -⟩ := digitChar_head h
  unfold takeSign
  split
  · rename_i heq
    exact absurd (List.cons.inj heq).1 hminus
  · rename_i heq
    exact absurd (List.cons.inj heq).1 hplus
  · rfl

/-- A text that starts with a digit is no NaN. -/
theorem parseNan_digit {n : ℕ} (h : n < 10) (neg : Bool) (cs : List Char) :
    parseNan neg (Date.digitChar n :: cs) = none := by
  obtain ⟨-, -, hletters⟩ := digitChar_head h
  have hs : (Date.digitChar n).toLower ≠ 's' := fun heq => hletters (by rw [heq]; decide)
  have hn : (Date.digitChar n).toLower ≠ 'n' := fun heq => hletters (by rw [heq]; decide)
  simp [parseNan, hs, hn]

/-- A sign and a numeral. -/
theorem parse?_signed (U : Unicode) (neg : Bool) {n : ℕ} (hn : n < 10) {cs : List Char}
    (hcs : ∀ c ∈ cs, c ∈ plainChars) :
    parse? U (String.ofList ((if neg then ['-'] else []) ++ Date.digitChar n :: cs)) =
      parseFinite neg (Date.digitChar n :: cs) := by
  obtain ⟨-, -, hletters⟩ := digitChar_head hn
  have hi : (Date.digitChar n).toLower ≠ 'i' := fun heq => hletters (by rw [heq]; decide)
  have hdigit : ∀ m : Fin 10, Date.digitChar m ∈ plainChars := by decide
  have hplain : ∀ c ∈ (if neg then ['-'] else []) ++ Date.digitChar n :: cs, c ∈ plainChars := by
    intro c hc
    rcases List.mem_append.1 hc with hc | hc
    · cases neg with
      | false => cases hc
      | true =>
          rw [List.mem_singleton.1 hc]
          decide
    · rcases List.mem_cons.1 hc with rfl | hc
      · exact hdigit ⟨n, hn⟩
      · exact hcs c hc
  have hsign : takeSign ((if neg then ['-'] else []) ++ Date.digitChar n :: cs) =
      (neg, Date.digitChar n :: cs) := by
    cases neg with
    | false => exact takeSign_digit hn cs
    | true => rfl
  rw [parse?_plain U hplain, hsign, if_neg, parseNan_digit hn, Option.none_or]
  rintro (h | h)
  · exact hi (List.cons.inj h).1
  · exact hi (List.cons.inj h).1

/-! ## The round trip -/

/-- Is a decimal one the type can represent? -/
def Representable : Decimal → Prop
  | .fin _ coef exp => InRange exp coef.repr.length
  | _ => True

theorem fraction_of_ne_nil {ms : List ℕ} (h : ms ≠ []) :
    fraction ms = '.' :: ms.map Date.digitChar := by
  cases ms with
  | nil => exact absurd rfl h
  | cons m ms => rfl

/-- The digits of a number around a point, with zeros in front where the point is before them. -/
theorem exists_pointed {ns : List ℕ} (hns : ∀ n ∈ ns, n < 10) (hne : ns ≠ []) {dot : ℤ}
    (hdot : dot ≤ ns.length) :
    ∃ ks ms : List ℕ,
      (if dot ≤ 0 then "0.".toList ++ List.replicate (-dot).toNat '0' ++ ns.map Date.digitChar
        else if ((ns.map Date.digitChar).length : ℤ) ≤ dot then
          ns.map Date.digitChar ++
            List.replicate (dot - (ns.map Date.digitChar).length).toNat '0'
        else (ns.map Date.digitChar).take dot.toNat ++
          '.' :: (ns.map Date.digitChar).drop dot.toNat) = ks.map Date.digitChar ++ fraction ms ∧
      (∀ n ∈ ks, n < 10) ∧ (∀ n ∈ ms, n < 10) ∧ ks ≠ [] ∧ (ms.length : ℤ) = ns.length - dot ∧
      digitsVal (ks ++ ms) = digitsVal ns ∧
      ((ks ++ ms).length : ℤ) = if dot ≤ 0 then 1 - dot + ns.length else ns.length := by
  have hlength : 0 < ns.length := List.length_pos_of_ne_nil hne
  by_cases hzero : dot ≤ 0
  · refine ⟨[0], List.replicate (-dot).toNat 0 ++ ns, ?_, ?_, ?_, ?_, ?_, ?_, ?_⟩
    · rw [if_pos hzero, fraction_of_ne_nil (by simp [hne]), List.map_append, List.map_replicate,
        List.append_assoc]
      rfl
    · intro n hn
      rw [List.mem_singleton.1 hn]
      decide
    · intro n hn
      rcases List.mem_append.1 hn with hn | hn
      · rw [List.eq_of_mem_replicate hn]
        decide
      · exact hns n hn
    · exact List.cons_ne_nil _ _
    · rw [List.length_append, List.length_replicate]
      omega
    · rw [List.singleton_append, ← List.cons_append, ← List.replicate_succ]
      exact digitsVal_zeros _ _
    · rw [if_pos hzero]
      simp only [List.length_append, List.length_singleton, List.length_replicate]
      omega
  · by_cases hall : ((ns.map Date.digitChar).length : ℤ) ≤ dot
    · rw [List.length_map] at hall
      refine ⟨ns, [], ?_, hns, nofun, hne, ?_, ?_, ?_⟩
      · have hnone : (dot - (ns.map Date.digitChar).length).toNat = 0 := by
          rw [List.length_map]
          omega
        rw [if_neg hzero, if_pos (by rw [List.length_map]; exact hall), hnone]
        rfl
      · show ((0 : ℕ) : ℤ) = _
        omega
      · rw [List.append_nil]
      · rw [if_neg hzero, List.append_nil]
    · rw [List.length_map] at hall
      have hdrop : ns.drop dot.toNat ≠ [] := by
        intro hnil
        have := List.drop_eq_nil_iff.1 hnil
        omega
      refine ⟨ns.take dot.toNat, ns.drop dot.toNat, ?_, ?_, ?_, ?_, ?_, ?_, ?_⟩
      · rw [if_neg hzero, if_neg (by rw [List.length_map]; exact hall), fraction_of_ne_nil hdrop,
          List.map_take, List.map_drop]
      · exact fun n hn => hns n (List.mem_of_mem_take hn)
      · exact fun n hn => hns n (List.mem_of_mem_drop hn)
      · intro hnil
        have := List.take_eq_nil_iff.1 hnil
        rcases this with h | h
        · omega
        · exact hne h
      · rw [List.length_drop]
        omega
      · rw [List.take_append_drop]
      · rw [if_neg hzero, List.take_append_drop]

theorem plainChars_exponentText (e : ℤ) : ∀ c ∈ exponentText e, c ∈ plainChars := by
  intro c hc
  rcases List.mem_cons.1 hc with rfl | hc
  · decide
  · rcases List.mem_append.1 hc with hc | hc
    · split at hc
      · rw [List.mem_singleton.1 hc]
        decide
      · cases hc
    · rcases mem_toString_int hc with rfl | hdigit
      · decide
      · exact mem_plainChars_of_isDigit hdigit

/-- The text of a finite decimal: digits, digits behind a point, and an exponent. -/
theorem exists_str_fin (neg : Bool) {coef : ℕ} {exp : ℤ} (h : InRange exp coef.repr.length) :
    ∃ ns ms tail e, (fin neg coef exp).str =
        String.ofList ((if neg then ['-'] else []) ++
          (ns.map Date.digitChar ++ (fraction ms ++ tail))) ∧
      (∀ n ∈ ns, n < 10) ∧ (∀ n ∈ ms, n < 10) ∧ ns ≠ [] ∧ parseExp tail = some e ∧
      (∀ c ∈ tail.head?, c = 'E') ∧ (∀ c ∈ tail, c ∈ plainChars) ∧ e - ms.length = exp ∧
      digitsVal (ns ++ ms) = coef ∧ InRange exp (ns ++ ms).length := by
  obtain ⟨ds, hrepr, hds, hne, hval⟩ := exists_digits coef
  have hlength : coef.repr.length = ds.length := by
    rw [← String.length_toList, hrepr, List.length_map]
  obtain ⟨dot, hdot⟩ : ∃ dot : ℤ, dot = if exp ≤ 0 ∧ -6 < exp + ds.length then exp + ds.length
    else 1 := ⟨_, rfl⟩
  have hpos : 0 < ds.length := List.length_pos_of_ne_nil hne
  have hle : dot ≤ ds.length := by
    split at hdot <;> omega
  obtain ⟨ns, ms, hbody, hns, hms, hnne, hmlen, hvalue, hlen⟩ := exists_pointed hds hne hle
  obtain ⟨tail, htail⟩ : ∃ tail : List Char,
    tail = if exp + ds.length = dot then [] else exponentText (exp + ds.length - dot) := ⟨_, rfl⟩
  refine ⟨ns, ms, tail, exp + ds.length - dot, ?_, hns, hms, hnne, ?_, ?_, ?_, ?_, ?_, ?_⟩
  · have hchars : (toString coef).toList = ds.map Date.digitChar := hrepr
    rw [← List.append_assoc (ns.map Date.digitChar), ← hbody, htail, str, hchars]
    simp only [List.length_map, ← hdot]
    rw [String.ofList_append, String.ofList_append, ← String.append_assoc]
    congr 1
    · congr 1
      cases neg <;> rfl
    · split
      · rfl
      · apply String.toList_inj.1
        rw [exponentText, String.toList_ofList, String.toList_append, String.toList_append]
        split <;> rfl
  · rw [htail]
    split
    · rename_i heq
      rw [heq, sub_self]
      rfl
    · exact parseExp_exponentText _
  · rw [htail]
    split
    · exact nofun
    · rintro c ⟨⟩
      rfl
  · rw [htail]
    split
    · exact nofun
    · exact plainChars_exponentText _
  · omega
  · rw [hvalue, hval]
  · obtain ⟨hhigh, hlow⟩ := h
    refine ⟨?_, hlow⟩
    rw [hlength] at hhigh
    rw [hlen]
    have hmax : (0 : ℤ) ≤ maxEmax := by decide
    split
    · split at hdot <;> omega
    · exact hhigh

/-- A finite decimal is read back. -/
theorem parse?_str_fin (U : Unicode) (neg : Bool) {coef : ℕ} {exp : ℤ}
    (h : InRange exp coef.repr.length) :
    parse? U (fin neg coef exp).str = some (fin neg coef exp) := by
  obtain ⟨ns, ms, tail, e, hstr, hns, hms, hne, htail, hhead, hplain, hexp, hval, hrange⟩ :=
    exists_str_fin neg h
  have hdigits : ∀ m : Fin 10, Date.digitChar m ∈ plainChars := by decide
  have hread := parseFinite_eq neg hns hms hne htail hhead (by rw [hexp]; exact hrange)
  rw [hexp, hval] at hread
  cases ns with
  | nil => exact absurd rfl hne
  | cons n ns =>
      rw [hstr, List.map_cons, List.cons_append,
        parse?_signed U neg (hns n List.mem_cons_self)]
      · exact hread
      · intro c hc
        rcases List.mem_append.1 hc with hc | hc
        · obtain ⟨m, hm, rfl⟩ := List.mem_map.1 hc
          exact hdigits ⟨m, hns m (List.mem_cons_of_mem _ hm)⟩
        · rcases List.mem_append.1 hc with hc | hc
          · cases ms with
            | nil => cases hc
            | cons m ms =>
                rcases List.mem_cons.1 hc with rfl | hc
                · decide
                · obtain ⟨m', hm', rfl⟩ := List.mem_map.1 hc
                  exact hdigits ⟨m', hms m' hm'⟩
          · exact hplain c hc

/-- The digits of a NaN. -/
def payloadText (payload : ℕ) : List Char := if payload = 0 then [] else payload.repr.toList

/-- A NaN is read back. -/
theorem parseNan_payload (neg signaling : Bool) (payload : ℕ) :
    parseNan neg ((if signaling then "sNaN".toList else "NaN".toList) ++ payloadText payload) =
      some (nan neg signaling payload) := by
  have hlower : (payloadText payload).map Char.toLower = payloadText payload := by
    refine (List.map_congr_left (fun c hc => ?_)).trans (List.map_id _)
    have hdigit : c.isDigit = true := by
      rw [payloadText] at hc
      split at hc
      · cases hc
      · exact isDigit_of_mem_repr hc
    have key := Unicode.forall_ascii (P := fun c => c.isDigit = true → c.toLower = c) (by decide) c
      (Unicode.toNat_lt_of_isDigit hdigit)
    exact key hdigit
  have hspan : ∃ ns, spanDigits (payloadText payload) = (ns, []) ∧ digitsVal ns = payload := by
    rw [payloadText]
    split
    · rename_i hzero
      exact ⟨[], rfl, hzero.symm⟩
    · obtain ⟨ns, hrepr, hns, -, hval⟩ := exists_digits payload
      have hspan := spanDigits_map hns [] nofun
      rw [List.append_nil] at hspan
      exact ⟨ns, by rw [hrepr, hspan], hval⟩
  obtain ⟨ns, hspan, hval⟩ := hspan
  cases signaling with
  | false =>
      show parseNan neg ('N' :: 'a' :: 'N' :: payloadText payload) = _
      have hlow : ('N' :: 'a' :: 'N' :: payloadText payload).map Char.toLower =
          'n' :: 'a' :: 'n' :: payloadText payload := by
        simp only [List.map_cons, hlower]
        rfl
      rw [parseNan, hlow]
      simp [hspan, hval]
  | true =>
      show parseNan neg ('s' :: 'N' :: 'a' :: 'N' :: payloadText payload) = _
      have hlow : ('s' :: 'N' :: 'a' :: 'N' :: payloadText payload).map Char.toLower =
          's' :: 'n' :: 'a' :: 'n' :: payloadText payload := by
        simp only [List.map_cons, hlower]
        rfl
      rw [parseNan, hlow]
      simp [hspan, hval]

/-- An infinity is read back. -/
theorem parse?_str_inf (U : Unicode) (neg : Bool) : parse? U (inf neg).str = some (inf neg) := by
  have hstr : (inf neg).str = String.ofList ((if neg then ['-'] else []) ++ "Infinity".toList) := by
    cases neg <;> rfl
  rw [hstr]
  cases neg with
  | false =>
      rw [parse?_plain U (forall_mem_of_all (by decide))]
      decide
  | true =>
      rw [parse?_plain U (forall_mem_of_all (by decide))]
      decide

/-- A NaN is read back. -/
theorem parse?_str_nan (U : Unicode) (neg signaling : Bool) (payload : ℕ) :
    parse? U (nan neg signaling payload).str = some (nan neg signaling payload) := by
  obtain ⟨name, hname⟩ : ∃ name, name = if signaling then "sNaN".toList else "NaN".toList :=
    ⟨_, rfl⟩
  have hstr : (nan neg signaling payload).str =
      String.ofList ((if neg then ['-'] else []) ++ (name ++ payloadText payload)) := by
    apply String.toList_inj.1
    rw [hname, str, String.toList_ofList, String.toList_append, String.toList_append,
      List.append_assoc, payloadText]
    congr 1
    · cases neg <;> rfl
    · congr 1
      · cases signaling <;> rfl
      · split <;> rfl
  have hplain : ∀ c ∈ (if neg then ['-'] else []) ++ (name ++ payloadText payload),
      c ∈ plainChars := by
    intro c hc
    rcases List.mem_append.1 hc with hc | hc
    · cases neg with
      | false => cases hc
      | true =>
          rw [List.mem_singleton.1 hc]
          decide
    · rcases List.mem_append.1 hc with hc | hc
      · have hnames : ∀ c ∈ "sNaN".toList, c ∈ plainChars := forall_mem_of_all (by decide)
        rw [hname] at hc
        cases signaling with
        | false => exact hnames c (List.mem_cons_of_mem _ hc)
        | true => exact hnames c hc
      · rw [payloadText] at hc
        split at hc
        · cases hc
        · exact mem_plainChars_of_isDigit (isDigit_of_mem_repr hc)
  have hsign : takeSign ((if neg then ['-'] else []) ++ (name ++ payloadText payload)) =
      (neg, name ++ payloadText payload) := by
    rw [hname]
    cases neg <;> cases signaling <;> rfl
  rw [hstr, parse?_plain U hplain, hsign]
  simp only
  rw [if_neg, hname, parseNan_payload, Option.some_or]
  -- neither name starts like an infinity
  rw [hname]
  rintro (h | h)
  · cases signaling with
    | false => exact absurd (List.cons.inj h).1 (by decide)
    | true => exact absurd (List.cons.inj h).1 (by decide)
  · cases signaling with
    | false => exact absurd (List.cons.inj h).1 (by decide)
    | true => exact absurd (List.cons.inj h).1 (by decide)

/-- **Round trip**: what is written is read back. -/
theorem parse?_str (U : Unicode) {d : Decimal} (h : d.Representable) : parse? U d.str = some d := by
  cases d with
  | fin neg coef exp => exact parse?_str_fin U neg h
  | inf neg => exact parse?_str_inf U neg
  | nan neg signaling payload => exact parse?_str_nan U neg signaling payload

theorem length_repr_digitsVal {ns : List ℕ} (hns : ∀ n ∈ ns, n < 10) (hne : ns ≠ []) :
    (digitsVal ns).repr.length ≤ ns.length := by
  rw [← String.length_toList, Nat.toList_repr,
    Nat.length_toDigits_le_iff (by decide) (List.length_pos_of_ne_nil hne)]
  exact digitsVal_lt hns

theorem representable_of_parseFinite {neg : Bool} {cs : List Char} {d : Decimal}
    (h : parseFinite neg cs = some d) : d.Representable := by
  have hrepresentable : ∀ (ip fp : List ℕ) (tail : List Char), (∀ n ∈ ip, n < 10) →
      (∀ n ∈ fp, n < 10) →
      (if ip.isEmpty && fp.isEmpty then none
        else (parseExp tail).bind (fun e =>
          if e - fp.length + (ip ++ fp).length - 1 ≤ maxEmax ∧ minEtiny ≤ e - fp.length then
            some (fin neg (digitsVal (ip ++ fp)) (e - fp.length)) else none)) = some d →
      d.Representable := by
    intro ip fp tail hip hfp heq
    split at heq
    · cases heq
    · rename_i hempty
      obtain ⟨e, -, he⟩ := Option.bind_eq_some_iff.1 heq
      split at he
      · rename_i hrange
        obtain rfl := Option.some.inj he
        have hne : ip ++ fp ≠ [] := by
          rintro hnil
          obtain ⟨rfl, rfl⟩ := List.append_eq_nil_iff.1 hnil
          exact hempty rfl
        have hlength := length_repr_digitsVal
          (fun n hn => (List.mem_append.1 hn).elim (hip n) (hfp n)) hne
        exact ⟨by omega, hrange.2⟩
      · cases he
  rw [parseFinite] at h
  have hip := spanDigits_lt cs
  generalize spanDigits cs = whole at h hip
  obtain ⟨ip, rest⟩ := whole
  simp only at h
  split at h
  · exact hrepresentable ip _ _ hip (spanDigits_lt _) h
  · exact hrepresentable ip [] rest hip nofun h

theorem representable_of_parseNan {neg : Bool} {cs : List Char} {d : Decimal}
    (h : parseNan neg cs = some d) : d.Representable := by
  have hnan : ∀ (signaling : Bool) (low : List Char),
      (if low.take 3 = ['n', 'a', 'n'] then
        if (spanDigits (low.drop 3)).2.isEmpty then
          some (nan neg signaling (digitsVal (spanDigits (low.drop 3)).1)) else none
        else none) = some d → d.Representable := by
    intro signaling low heq
    split at heq
    · split at heq
      · obtain rfl := Option.some.inj heq
        trivial
      · cases heq
    · cases heq
  unfold parseNan at h
  simp only at h
  split at h
  · exact hnan _ _ h
  · exact hnan _ _ h

/-- What is read is representable. -/
theorem representable_of_parse {U : Unicode} {s : String} {d : Decimal} (h : parse? U s = some d) :
    d.Representable := by
  unfold parse? at h
  simp only at h
  split at h
  · obtain rfl := Option.some.inj h
    trivial
  · split at h
    · rename_i d' hnan
      obtain rfl := Option.some.inj h
      exact representable_of_parseNan hnan
    · exact representable_of_parseFinite h

end Decimal

end SpendLens
