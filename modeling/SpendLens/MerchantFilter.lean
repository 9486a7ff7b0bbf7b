/-
# The merchant filter

The query text is put between two `%` and handed to `ILIKE`.  A query without pattern
characters selects the expenses whose merchant contains it, up to case.  For a query with
one, a merchant is built that the pattern matches and that does not contain the query, so
that the filter is a substring search exactly for the queries without pattern characters.
-/
import SpendLens.ExpensePages
import Mathlib.Data.List.Infix

namespace SpendLens

/-! ## Patterns without pattern characters -/

/-- A character with a meaning in a pattern. -/
def isPatternChar (c : Char) : Bool := c = '%' || c = '_' || c = '\\'

section patterns

variable {fold : Char → Char}

@[simp] theorem likeMatch_percent (p cs : List Char) :
    likeMatch fold ('%' :: p) cs = cs.tails.any (fun t => likeMatch fold p t) := by
  rw [likeMatch]

@[simp] theorem likeMatch_underscore (p cs : List Char) (c : Char) :
    likeMatch fold ('_' :: p) (c :: cs) = likeMatch fold p cs := by
  rw [likeMatch]

@[simp] theorem likeMatch_escape (p cs : List Char) (a c : Char) :
    likeMatch fold ('\\' :: a :: p) (c :: cs) =
      (decide (fold a = fold c) && likeMatch fold p cs) := by
  rw [likeMatch]

/-- Any other character is matched up to case. -/
theorem likeMatch_cons {a : Char} (ha : isPatternChar a = false) (p cs : List Char) :
    likeMatch fold (a :: p) cs = match cs with
      | [] => false
      | c :: cs => decide (fold a = fold c) && likeMatch fold p cs := by
  simp only [isPatternChar, Bool.or_eq_false_iff, decide_eq_false_iff_not] at ha
  cases cs with
  | nil => rw [likeMatch.eq_def]; split <;> simp_all
  | cons c cs => rw [likeMatch.eq_def]; split <;> simp_all

/-- `%` at the end of a pattern matches whatever is left. -/
theorem likeMatch_percent_nil (cs : List Char) : likeMatch fold ['%'] cs = true := by
  rw [likeMatch_percent, List.any_eq_true]
  exact ⟨[], (List.mem_tails _ _).2 (List.nil_suffix), rfl⟩

/-- A pattern of ordinary characters before a `%` matches the texts it is a prefix of. -/
theorem likeMatch_append_percent : ∀ {q : List Char}, (∀ c ∈ q, isPatternChar c = false) →
    ∀ cs, likeMatch fold (q ++ ['%']) cs = true ↔ q.map fold <+: cs.map fold
  | [], _, cs => by
      rw [List.nil_append, likeMatch_percent_nil]
      simp
  | a :: q, hq, cs => by
      have ih := likeMatch_append_percent (q := q) (fun c hc => hq c (List.mem_cons_of_mem _ hc))
      rw [List.cons_append, likeMatch_cons (hq a List.mem_cons_self)]
      cases cs with
      | nil => simp
      | cons c cs =>
          simp only [Bool.and_eq_true, decide_eq_true_eq, ih, List.map_cons,
            List.cons_prefix_cons]

/-- **Between two `%`, ordinary characters are searched for.** -/
theorem likeMatch_between {q : List Char} (hq : ∀ c ∈ q, isPatternChar c = false)
    (cs : List Char) :
    likeMatch fold (('%' :: q) ++ ['%']) cs = true ↔ q.map fold <:+: cs.map fold := by
  rw [List.cons_append, likeMatch_percent, List.any_eq_true, List.infix_iff_prefix_suffix]
  constructor
  · rintro ⟨t, ht, hmatch⟩
    rw [likeMatch_append_percent hq] at hmatch
    exact ⟨_, hmatch, ((List.mem_tails _ _).1 ht).map fold⟩
  · rintro ⟨t, hprefix, hsuffix⟩
    obtain ⟨s, hs⟩ := hsuffix
    obtain ⟨l₁, l₂, rfl, -, hl₂⟩ := List.map_eq_append_iff.1 hs.symm
    refine ⟨l₂, (List.mem_tails _ _).2 (List.suffix_append _ _), ?_⟩
    rw [likeMatch_append_percent hq, hl₂]
    exact hprefix

/-! ## Patterns with pattern characters -/

/-- A text the query matches as a pattern: wild cards stand for a letter, an escaped
character for itself, and a backslash at the end escapes the `%` that follows the query. -/
def misread : List Char → List Char
  | [] => []
  | '%' :: p => 'x' :: misread p
  | '_' :: p => 'x' :: misread p
  | ['\\'] => ['%']
  | '\\' :: a :: p => a :: misread p
  | a :: p => a :: misread p

theorem misread_cons {a : Char} (ha : isPatternChar a = false) (p : List Char) :
    misread (a :: p) = a :: misread p := by
  simp only [isPatternChar, Bool.or_eq_false_iff, decide_eq_false_iff_not] at ha
  rw [misread.eq_def]
  split <;> simp_all

/-- What `misread` does, one pattern element after the other. -/
theorem misread_induct {P : List Char → Prop} (nil : P []) (percent : ∀ p, P p → P ('%' :: p))
    (underscore : ∀ p, P p → P ('_' :: p)) (last : P ['\\'])
    (escape : ∀ a p, P p → P ('\\' :: a :: p))
    (other : ∀ a p, isPatternChar a = false → P p → P (a :: p)) : ∀ q, P q
  | [] => nil
  | [a] => by
      by_cases h₁ : a = '%'
      · exact h₁ ▸ percent [] nil
      by_cases h₂ : a = '_'
      · exact h₂ ▸ underscore [] nil
      by_cases h₃ : a = '\\'
      · exact h₃ ▸ last
      · exact other a [] (by simp [isPatternChar, h₁, h₂, h₃]) nil
  | a :: b :: p => by
      have ih := misread_induct nil percent underscore last escape other (b :: p)
      have ih' := misread_induct nil percent underscore last escape other p
      by_cases h₁ : a = '%'
      · exact h₁ ▸ percent _ ih
      by_cases h₂ : a = '_'
      · exact h₂ ▸ underscore _ ih
      by_cases h₃ : a = '\\'
      · exact h₃ ▸ escape b p ih'
      · exact other a _ (by simp [isPatternChar, h₁, h₂, h₃]) ih

/-- The text is matched. -/
theorem likeMatch_misread (q : List Char) : likeMatch fold (q ++ ['%']) (misread q) = true := by
  induction q using misread_induct with
  | nil => exact likeMatch_percent_nil []
  | percent p ih =>
      rw [List.cons_append, misread, likeMatch_percent, List.any_eq_true]
      exact ⟨misread p, (List.mem_tails _ _).2 (List.suffix_cons _ _), ih⟩
  | underscore p ih =>
      rw [List.cons_append, misread, likeMatch_underscore]
      exact ih
  | last => simp [misread, likeMatch]
  | escape a p ih =>
      rw [List.cons_append, List.cons_append, misread, likeMatch_escape, ih, decide_eq_true rfl]
      rfl
  | other a p ha ih =>
      rw [List.cons_append, misread_cons ha, likeMatch_cons ha]
      simp only [decide_true, Bool.true_and, ih]

theorem length_misread_le (q : List Char) : (misread q).length ≤ q.length := by
  induction q using misread_induct with
  | nil => exact le_refl 0
  | percent p ih => simpa [misread] using ih
  | underscore p ih => simpa [misread] using ih
  | last => exact le_refl 1
  | escape a p ih =>
      rw [misread, List.length_cons, List.length_cons, List.length_cons]
      omega
  | other a p ha ih =>
      rw [misread_cons ha, List.length_cons, List.length_cons]
      omega

/-- Every backslash of a pattern is used up, with the character it escapes or not. -/
theorem count_misread_le (q : List Char) : (misread q).count '\\' ≤ q.count '\\' ∧
    ('\\' ∈ q → (misread q).count '\\' < q.count '\\') := by
  induction q using misread_induct with
  | nil => simp [misread]
  | percent p ih => simpa [misread] using ih
  | underscore p ih => simpa [misread] using ih
  | last => simp [misread]
  | escape a p ih =>
      rw [misread, List.count_cons, List.count_cons_self, List.count_cons]
      exact ⟨by omega, fun _ => by omega⟩
  | other a p ha ih =>
      have hne : a ≠ '\\' := by
        rintro rfl
        cases ha
      rw [misread_cons ha, List.count_cons_of_ne hne, List.count_cons_of_ne hne]
      refine ⟨ih.1, fun hmem => ih.2 ?_⟩
      exact (List.mem_cons.1 hmem).resolve_left (fun h => hne h.symm)

/-- Without backslashes, no wild card is left. -/
theorem not_mem_misread {q : List Char} (hq : '\\' ∉ q) :
    '%' ∉ misread q ∧ '_' ∉ misread q := by
  induction q using misread_induct with
  | nil => simp [misread]
  | percent p ih => simpa [misread] using ih (fun h => hq (List.mem_cons_of_mem _ h))
  | underscore p ih => simpa [misread] using ih (fun h => hq (List.mem_cons_of_mem _ h))
  | last => exact absurd List.mem_cons_self hq
  | escape a p ih => exact absurd List.mem_cons_self hq
  | other a p ha ih =>
      obtain ⟨h₁, h₂⟩ := ih (fun h => hq (List.mem_cons_of_mem _ h))
      rw [misread_cons ha]
      constructor
      · rintro h
        rcases List.mem_cons.1 h with rfl | h
        · cases ha
        · exact h₁ h
      · rintro h
        rcases List.mem_cons.1 h with rfl | h
        · cases ha
        · exact h₂ h

/-- Its characters are those of the query, and two others. -/
theorem mem_misread {q : List Char} : ∀ c ∈ misread q, c ∈ q ∨ c = 'x' ∨ c = '%' := by
  induction q using misread_induct with
  | nil => exact fun c hc => (nomatch hc)
  | percent p ih =>
      intro c hc
      rcases List.mem_cons.1 hc with rfl | hc
      · exact Or.inr (Or.inl rfl)
      · exact (ih c hc).imp_left (List.mem_cons_of_mem _)
  | underscore p ih =>
      intro c hc
      rcases List.mem_cons.1 hc with rfl | hc
      · exact Or.inr (Or.inl rfl)
      · exact (ih c hc).imp_left (List.mem_cons_of_mem _)
  | last => exact fun c hc => Or.inr (Or.inr (List.mem_singleton.1 hc))
  | escape a p ih =>
      intro c hc
      rw [misread] at hc
      rcases List.mem_cons.1 hc with rfl | hc
      · exact Or.inl (List.mem_cons_of_mem _ List.mem_cons_self)
      · exact (ih c hc).imp_left (fun h => List.mem_cons_of_mem _ (List.mem_cons_of_mem _ h))
  | other a p ha ih =>
      intro c hc
      rw [misread_cons ha] at hc
      rcases List.mem_cons.1 hc with rfl | hc
      · exact Or.inl List.mem_cons_self
      · exact (ih c hc).imp_left (List.mem_cons_of_mem _)

/-- A pattern character makes the text shorter than the query, or leaves a visible
character in it. -/
theorem shorter_or_visible {q : List Char} (hq : ∃ c ∈ q, isPatternChar c = true) :
    (misread q).length < q.length ∨ ∃ c ∈ misread q, isSpace c = false := by
  induction q using misread_induct with
  | nil =>
      obtain ⟨c, hc, -⟩ := hq
      cases hc
  | percent p ih => exact Or.inr ⟨'x', List.mem_cons_self, by decide⟩
  | underscore p ih => exact Or.inr ⟨'x', List.mem_cons_self, by decide⟩
  | last => exact Or.inr ⟨'%', List.mem_cons_self, by decide⟩
  | escape a p ih =>
      have hle := length_misread_le p
      rw [misread, List.length_cons, List.length_cons, List.length_cons]
      exact Or.inl (by omega)
  | other a p ha ih =>
      obtain ⟨c, hc, hcp⟩ := hq
      have hmem : c ∈ p := by
        rcases List.mem_cons.1 hc with rfl | hc
        · rw [ha] at hcp
          cases hcp
        · exact hc
      rw [misread_cons ha]
      rcases ih ⟨c, hmem, hcp⟩ with hlt | ⟨d, hd, hvisible⟩
      · exact Or.inl (by simpa using hlt)
      · exact Or.inr ⟨d, List.mem_cons_of_mem _ hd, hvisible⟩

/-- Case folding leaves the pattern characters apart. -/
def KeepsPatternChars (fold : Char → Char) : Prop :=
  ∀ s, isPatternChar s = true → ∀ c, fold c = fold s → c = s

theorem count_map_fold (hfold : KeepsPatternChars fold) {s : Char} (hs : isPatternChar s = true)
    (l : List Char) : (l.map fold).count (fold s) = l.count s := by
  induction l with
  | nil => rfl
  | cons a l ih =>
      rw [List.map_cons, List.count_cons, List.count_cons, ih]
      congr 1
      by_cases h : a = s
      · simp [h]
      · have hne : fold a ≠ fold s := fun hc => h (hfold s hs a hc)
        simp [h, hne]

/-- **The text does not contain the query**, with a letter in front of it or not. -/
theorem not_infix_misread (hfold : KeepsPatternChars fold) {q : List Char}
    (hq : ∃ c ∈ q, isPatternChar c = true) (pre : List Char) (hpre : ∀ c ∈ pre, c = 'x') :
    ¬q.map fold <:+: (pre ++ misread q).map fold := by
  intro hinfix
  -- some pattern character is more frequent in the query than in the text
  have hcount : ∀ s, isPatternChar s = true → q.count s ≤ (misread q).count s := by
    intro s hs
    have hpre : pre.count s = 0 := by
      rw [List.count_eq_zero]
      intro hmem
      rw [hpre s hmem] at hs
      cases hs
    have hle := hinfix.sublist.count_le (fold s)
    rw [count_map_fold hfold hs, count_map_fold hfold hs, List.count_append, hpre] at hle
    omega
  by_cases hback : '\\' ∈ q
  · have hlt := (count_misread_le q).2 hback
    have hle := hcount '\\' rfl
    omega
  · obtain ⟨h₁, h₂⟩ := not_mem_misread hback
    obtain ⟨c, hc, hcp⟩ := hq
    have hpos : 0 < q.count c := List.count_pos_iff.2 hc
    have hle := hcount c hcp
    have hmem : c ∈ misread q := List.count_pos_iff.1 (by omega)
    simp only [isPatternChar, Bool.or_eq_true, decide_eq_true_eq] at hcp
    rcases hcp with (rfl | rfl) | rfl
    · exact h₁ hmem
    · exact h₂ hmem
    · exact hback hc

end patterns

/-! ## The list -/

/-- Only the merchant query is given. -/
def merchantFilter (q : String) : ExpenseFilters := ⟨none, some q, none, none, none, none⟩

/-- Does the merchant contain the query, up to case? -/
def Contains (env : Env) (q merchant : String) : Prop :=
  q.toList.map env.foldCase <:+: merchant.toList.map env.foldCase

/-- A merchant the expenses table may have: the column holds it and the schema passes it. -/
def StoredMerchant (m : String) : Prop := (stripMerchant m).isSome ∧ textOk m = true

/-- **The filter is a substring search**: the list of a user under the query, page by page to
its end, has exactly the expenses whose merchant contains it. -/
def SearchesSubstring (env : Env) (q : String) : Prop :=
  ∀ f : Fetch Unit, f.world.failed f.session = false → ∀ e ∈ f.rows,
    StoredMerchant e.merchantName →
      ∃ n, (walk env e.userId (merchantFilter q) (fun _ => f) n).2 = .ended ∧
        (e ∈ (walk env e.userId (merchantFilter q) (fun _ => f) n).1.flatten ↔
          Contains env q e.merchantName)

section list

variable {env : Env}

theorem params_merchantFilter (q : String) :
    (merchantFilter q).params.all Param.ok = true ↔ q = "" ∨ textOk q = true := by
  by_cases hq : q = ""
  · subst hq
    simp [merchantFilter, ExpenseFilters.params, ExpenseFilters.query?]
  · have hne : (!q.isEmpty) = true := by simpa using hq
    simp [merchantFilter, ExpenseFilters.params, ExpenseFilters.query?, Option.filter, hne, hq,
      Param.ok]

/-- The filter of a query without pattern characters. -/
theorem applyFilters_merchantFilter (q : String) (e : Expense) :
    applyFilters env (merchantFilter q) e =
      (q.isEmpty || likeMatch env.foldCase (('%' :: q.toList) ++ ['%']) e.merchantName.toList) := by
  cases hq : q.isEmpty with
  | true => simp [applyFilters, merchantFilter, ExpenseFilters.query?, Option.filter, hq]
  | false => simp [applyFilters, merchantFilter, ExpenseFilters.query?, Option.filter, hq]

/-- The walk over a table under an accepted query ends with the rows that pass the filter. -/
theorem exists_walk_merchant (hup : ∀ n, env.fault n = .none) {q : String}
    (hq : (merchantFilter q).params.all Param.ok = true) (f : Fetch Unit)
    (hf : f.world.failed f.session = false) {e : Expense} (he : e ∈ f.rows) :
    ∃ n, (walk env e.userId (merchantFilter q) (fun _ => f) n).2 = .ended ∧
      (e ∈ (walk env e.userId (merchantFilter q) (fun _ => f) n).1.flatten ↔
        applyFilters env (merchantFilter q) e = true) := by
  let fetches : ℕ → Fetch Unit := fun _ => f
  have hrows : ∀ k, (fetches k).rows = f.rows ∧ (fetches k).Served env :=
    fun _ => ⟨rfl, hf, hup _⟩
  obtain ⟨n, hend, hflat⟩ := walk_unchanged env e.userId (merchantFilter q) fetches hrows hq
  refine ⟨n, hend, ?_⟩
  rw [hflat, List.mem_mergeSort, matching, List.mem_filter, Bool.and_eq_true]
  exact ⟨fun h => h.2.2, fun h => ⟨he, decide_eq_true rfl, h⟩⟩

/-- A walk that has ended stays where it is. -/
theorem walk_add_of_ended {userId : UUID} {filters : ExpenseFilters} {fetches : ℕ → Fetch Unit}
    {n : ℕ} (h : (walk env userId filters fetches n).2 = .ended) (k : ℕ) :
    walk env userId filters fetches (n + k) = walk env userId filters fetches n := by
  induction k with
  | zero => rfl
  | succ k ih =>
      rcases hw : walk env userId filters fetches n with ⟨pages, state⟩
      rw [hw] at h ih
      cases h
      rw [← Nat.add_assoc, walk, ih]

/-- Walks that have ended have returned the same pages. -/
theorem walk_eq_of_ended {userId : UUID} {filters : ExpenseFilters} {fetches : ℕ → Fetch Unit}
    {n m : ℕ} (hn : (walk env userId filters fetches n).2 = .ended)
    (hm : (walk env userId filters fetches m).2 = .ended) :
    walk env userId filters fetches n = walk env userId filters fetches m := by
  rcases Nat.le_total n m with hle | hle
  · obtain ⟨k, rfl⟩ := Nat.exists_eq_add_of_le hle
    exact (walk_add_of_ended hn k).symm
  · obtain ⟨k, rfl⟩ := Nat.exists_eq_add_of_le hle
    exact walk_add_of_ended hm k

/-- A query the database refuses ends the walk before its first page. -/
theorem walk_refused (hup : ∀ n, env.fault n = .none) {filters : ExpenseFilters}
    (hq : ¬filters.params.all Param.ok = true) (f : Fetch Unit)
    (hf : f.world.failed f.session = false) (userId : UUID) (n : ℕ) :
    (walk env userId filters (fun _ => f) n).2 ≠ .ended := by
  have hselect : (Stmt.selectExpenses filters.params (fun e =>
      e.userId = userId && applyFilters env filters e &&
        afterCursor ((none : Option (Date ×ₗ UUID)).map cursorAt) e)).exec
      (env.clock f.world.calls) () f.world.db = some (.error .dataError, f.world.db) := by
    simp only [Stmt.exec, select]
    rw [if_neg hq]
  have hexec := alone_sql_error env hf (hup _) hselect
  have hanswer : f.answer env userId filters
      ((none : Option (Date ×ₗ UUID)).map (fun k => (cursorAt k).encode)) = .error .dataError :=
    (Fetch.answer_of_rows (congrArg Prod.fst hexec) :)
  have hstep : ∀ n, walk env userId filters (fun _ => f) (n + 1) = ([], .failed .dataError) := by
    intro n
    induction n with
    | zero =>
        rw [Option.map_none] at hanswer
        rw [walk, walk]
        simp only [hanswer]
    | succ n ih =>
        rw [walk, ih]
  cases n with
  | zero => rintro ⟨⟩
  | succ n =>
      rw [hstep n]
      rintro ⟨⟩

/-! ### The misread merchant -/

/-- A merchant the query finds without being contained in it. -/
def misreadMerchant (q : String) : String :=
  String.ofList (if (misread q.toList).length < q.length then 'x' :: misread q.toList
    else misread q.toList)

theorem stripChars_ne_nil {cs : List Char} (h : ∃ c ∈ cs, isSpace c = false) :
    stripChars cs ≠ [] := by
  intro hnil
  rw [stripChars, List.rdropWhile_eq_nil_iff] at hnil
  have hdrop : cs.dropWhile isSpace = [] := by
    cases hd : cs.dropWhile isSpace with
    | nil => rfl
    | cons d ds =>
        have hhead := List.head?_dropWhile_not isSpace cs
        rw [hd] at hhead hnil
        have hspace := hnil d List.mem_cons_self
        simp [hspace] at hhead
  obtain ⟨c, hc, hvisible⟩ := h
  rw [List.dropWhile_eq_nil_iff] at hdrop
  rw [hdrop c hc] at hvisible
  cases hvisible

theorem storedMerchant_misread {q : String} (hlen : q.length ≤ 255) (htext : textOk q = true)
    (hq : ∃ c ∈ q.toList, isPatternChar c = true) : StoredMerchant (misreadMerchant q) := by
  have hle := length_misread_le q.toList
  rw [String.length_toList] at hle
  have hvisible : ∃ c ∈ (misreadMerchant q).toList, isSpace c = false := by
    rw [misreadMerchant, String.toList_ofList]
    split
    · exact ⟨'x', List.mem_cons_self, by decide⟩
    · rename_i hlong
      rw [← String.length_toList] at hlong
      exact (shorter_or_visible hq).resolve_left hlong
  have hlen' : (misreadMerchant q).toList.length ≤ 255 := by
    rw [misreadMerchant, String.toList_ofList]
    split
    · rw [List.length_cons]
      omega
    · omega
  refine ⟨?_, ?_⟩
  · obtain ⟨c, hc, hcv⟩ := hvisible
    have hpos : 1 ≤ (misreadMerchant q).length := by
      rw [← String.length_toList]
      exact List.length_pos_of_mem hc
    rw [String.length_toList] at hlen'
    have hstrip : (strip (misreadMerchant q)).isEmpty = false := by
      rw [← Bool.not_eq_true, String.isEmpty_iff]
      intro hnil
      refine stripChars_ne_nil ⟨c, hc, hcv⟩ ?_
      rw [← toList_strip, hnil]
      rfl
    rw [stripMerchant, if_pos ⟨hpos, hlen'⟩]
    simp only
    rw [hstrip]
    rfl
  · rw [textOk, List.all_eq_true] at htext ⊢
    intro c hc
    have hmem : c ∈ q.toList ∨ c = 'x' ∨ c = '%' := by
      rw [misreadMerchant, String.toList_ofList] at hc
      split at hc
      · rcases List.mem_cons.1 hc with rfl | hc
        · exact Or.inr (Or.inl rfl)
        · exact mem_misread c hc
      · exact mem_misread c hc
    rcases hmem with h | rfl | rfl
    · exact htext c h
    · decide
    · decide

theorem likeMatch_misreadMerchant (fold : Char → Char) (q : String) :
    likeMatch fold (('%' :: q.toList) ++ ['%']) (misreadMerchant q).toList = true := by
  rw [List.cons_append, likeMatch_percent, List.any_eq_true, misreadMerchant,
    String.toList_ofList]
  refine ⟨misread q.toList, (List.mem_tails _ _).2 ?_, likeMatch_misread q.toList⟩
  split
  · exact List.suffix_cons _ _
  · exact List.suffix_rfl

theorem not_contains_misreadMerchant (hfold : KeepsPatternChars env.foldCase) {q : String}
    (hq : ∃ c ∈ q.toList, isPatternChar c = true) : ¬Contains env q (misreadMerchant q) := by
  rw [Contains, misreadMerchant, String.toList_ofList]
  split
  · exact not_infix_misread hfold hq ['x'] (by simp)
  · exact not_infix_misread hfold hq [] (by simp)

/-- An expense of a merchant. -/
def merchantExpense (m : String) : Expense :=
  ⟨5, 7, m, .cents 450, "USD", .other, ⟨2026, 4, 1, isDate_firstOfApril⟩, none, none, .manual, 0, 0⟩

/-- A request for the list of one expense. -/
def merchantFetch (m : String) : Fetch Unit where
  world := World.ofDb
    { Db.ofUsers [] with
      expenses := Store.ofTable ⟨[merchantExpense m], List.nodup_singleton _⟩ }
  session := ()
  pageSize := defaultPageSize
  fresh := rfl

/-- **When the merchant filter is a substring search**: exactly for the queries the database
accepts that have no pattern character. -/
theorem searchesSubstring_iff (hup : ∀ n, env.fault n = .none)
    (hfold : KeepsPatternChars env.foldCase) {q : String} (hne : q ≠ "") (hlen : q.length ≤ 255) :
    SearchesSubstring env q ↔
      textOk q = true ∧ ∀ c ∈ q.toList, isPatternChar c = false := by
  constructor
  · intro h
    have htext : textOk q = true := by
      by_contra htext
      have hrefused : ¬(merchantFilter q).params.all Param.ok = true := by
        rw [params_merchantFilter]
        exact fun hc => hc.elim hne htext
      obtain ⟨n, hend, -⟩ := h (merchantFetch "x") rfl (merchantExpense "x")
        (List.mem_singleton_self _) ⟨by decide, by decide⟩
      exact walk_refused hup hrefused _ rfl _ n hend
    refine ⟨htext, ?_⟩
    by_contra hpattern
    push Not at hpattern
    have hpattern : ∃ c ∈ q.toList, isPatternChar c = true := by simpa using hpattern
    -- the misread merchant is listed, and does not contain the query
    have hmem : merchantExpense (misreadMerchant q) ∈ (merchantFetch (misreadMerchant q)).rows :=
      List.mem_singleton_self _
    obtain ⟨n, hend, hiff⟩ := h (merchantFetch (misreadMerchant q)) rfl _ hmem
      (storedMerchant_misread hlen htext hpattern)
    obtain ⟨m, hend', hlisted⟩ := exists_walk_merchant hup
      ((params_merchantFilter q).2 (Or.inr htext)) (merchantFetch (misreadMerchant q)) rfl hmem
    rw [walk_eq_of_ended hend hend', hlisted, applyFilters_merchantFilter] at hiff
    have hmatch := likeMatch_misreadMerchant env.foldCase q
    exact not_contains_misreadMerchant hfold hpattern
      (hiff.1 (Bool.or_eq_true_iff.2 (Or.inr hmatch)))
  · rintro ⟨htext, hplain⟩ f hf e he -
    obtain ⟨n, hend, hiff⟩ := exists_walk_merchant hup
      ((params_merchantFilter q).2 (Or.inr htext)) f hf he
    refine ⟨n, hend, hiff.trans ?_⟩
    rw [applyFilters_merchantFilter, Bool.or_eq_true, likeMatch_between hplain]
    exact ⟨fun hc => hc.resolve_left (fun hempty => hne (String.isEmpty_iff.1 hempty)), Or.inr⟩

end list

/-- Lower-casing ASCII letters leaves the pattern characters apart. -/
theorem keepsPatternChars_toLower : KeepsPatternChars Char.toLower := by
  intro s hs c hc
  have hascii : ∀ c : Char, c.toNat < 128 →
      (['%', '_', '\\'].all (fun s => !(c.toLower == s.toLower) || c == s)) = true :=
    Unicode.forall_ascii (by decide)
  have hmem : s ∈ ['%', '_', '\\'] := by
    simpa [isPatternChar, or_assoc] using hs
  by_cases hc₁ : c.toNat < 128
  · have hs' := List.all_eq_true.1 (hascii c hc₁) s hmem
    rw [hc, beq_self_eq_true, Bool.not_true, Bool.false_or, beq_iff_eq] at hs'
    exact hs'
  · -- a character outside of ASCII is no upper-case letter
    have hupper : ¬c.isUpper = true := by
      intro h
      have halpha : (c.isUpper || c.isLower) = true := by rw [h, Bool.true_or]
      exact hc₁ (Unicode.toNat_lt_of_isAlpha halpha)
    have hlower : ∀ s ∈ ['%', '_', '\\'], s.toLower = s := forall_mem_of_all (by decide)
    have hself : c.toLower = c := dif_neg (fun h => hupper (decide_eq_true h))
    rw [hself, hlower s hmem] at hc
    exact hc

theorem searchesSubstring_iff_sample : SearchesSubstring Env.quiet "blue b" :=
  (searchesSubstring_iff (fun _ => rfl) keepsPatternChars_toLower (by decide) (by decide)).2
    ⟨by decide, forall_mem_of_all (by decide)⟩

/-- The query "50%" finds a merchant that does not contain it. -/
theorem not_searchesSubstring_percent : ¬SearchesSubstring Env.quiet "50%" := by
  intro h
  have hmem : merchantExpense "50 Main" ∈ (merchantFetch "50 Main").rows :=
    List.mem_singleton_self _
  have hparams : (merchantFilter "50%").params.all Param.ok = true := by decide
  obtain ⟨n, hend, hiff⟩ := h (merchantFetch "50 Main") rfl _ hmem ⟨by decide, by decide⟩
  have hup : ∀ n, Env.quiet.fault n = .none := fun _ => rfl
  obtain ⟨m, hend', hlisted⟩ :=
    exists_walk_merchant hup hparams (merchantFetch "50 Main") rfl hmem
  rw [walk_eq_of_ended hend hend', hlisted] at hiff
  have hno : ¬"50%".toList.map Char.toLower <:+: "50 Main".toList.map Char.toLower := by decide
  exact hno (hiff.1 (by decide))

end SpendLens
