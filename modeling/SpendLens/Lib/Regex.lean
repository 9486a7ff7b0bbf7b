/-
# Regular expressions by backtracking

An expression over the letters `α` and what a backtracking matcher does with it: at a place of a
text it has a list of results, the preferred one first, and a repetition prefers to go on.  A
search takes the first place that has a result, and `findAll` goes on where the last match has
ended.  `Spells` is the language of an expression, without the word boundaries: whatever is
matched is spelled by it.
-/
import Mathlib.Data.List.Basic
import Mathlib.Tactic.Common

/-- A regular expression; `group n` records what it matches under a number. -/
inductive Regex (α : Type) where
  | nothing
  | one (p : α → Bool)
  | boundary
  | seq (r s : Regex α)
  | alt (r s : Regex α)
  | star (r : Regex α)
  | group (n : ℕ) (r : Regex α)

namespace Regex

variable {α : Type}

/-! ## Abbreviations -/

/-- A sequence of expressions. -/
def all : List (Regex α) → Regex α
  | [] => nothing
  | [r] => r
  | r :: rs => seq r (all rs)

/-- The first of several expressions that matches. -/
def any : List (Regex α) → Regex α
  | [] => one (fun _ => false)
  | [r] => r
  | r :: rs => alt r (any rs)

/-- `r?` -/
def opt (r : Regex α) : Regex α := alt r nothing

/-- `r+` -/
def plus (r : Regex α) : Regex α := seq r (star r)

/-- `r{n}` -/
def times (r : Regex α) : ℕ → Regex α
  | 0 => nothing
  | n + 1 => seq r (times r n)

/-- `r{0,n}` -/
def upTo (r : Regex α) : ℕ → Regex α
  | 0 => nothing
  | n + 1 => opt (seq r (upTo r n))

/-- `r{m,n}` for `n = m + k`. -/
def between (r : Regex α) (m k : ℕ) : Regex α := seq (times r m) (upTo r k)

/-! ## Matching -/

/-- A place in a text: the letter before it, the letters from it on, and the groups so far, the
latest first. -/
structure Place (α : Type) where
  before : Option α
  rest : List α
  groups : List (ℕ × List α)

/-- The start of a text. -/
def Place.start (text : List α) : Place α := ⟨none, text, []⟩

/-- The same place, for another match. -/
def Place.fresh (c : Place α) : Place α := { c with groups := [] }

/-- The text of a group. -/
def Place.group? (c : Place α) (n : ℕ) : Option (List α) := c.groups.lookup n

/-- The text from one place to a later one. -/
def Place.upto (c d : Place α) : List α := c.rest.take (c.rest.length - d.rest.length)

/-- Is exactly one side of the place a letter of a word? -/
def Place.isBoundary (isWord : α → Bool) (c : Place α) : Bool :=
  c.before.any isWord != c.rest.head?.any isWord

/-- Go on as often as possible; a repetition that matches nothing ends the loop. -/
def repeated (step : Place α → List (Place α)) : ℕ → Place α → List (Place α)
  | 0, c => [c]
  | n + 1, c =>
      ((step c).filter (fun d => d.rest.length < c.rest.length)).flatMap (repeated step n) ++ [c]

/-- The places where a match from here may end, the preferred one first. -/
def results (isWord : α → Bool) : Regex α → Place α → List (Place α)
  | nothing, c => [c]
  | one p, c =>
      match c.rest with
      | [] => []
      | a :: rest => if p a then [⟨some a, rest, c.groups⟩] else []
  | boundary, c => if c.isBoundary isWord then [c] else []
  | seq r s, c => (results isWord r c).flatMap (results isWord s)
  | alt r s, c => results isWord r c ++ results isWord s c
  | star r, c => repeated (results isWord r) c.rest.length c
  | group n r, c =>
      (results isWord r c).map (fun d => { d with groups := (n, c.upto d) :: d.groups })

/-- `match`: the match from here. -/
def matchAt (isWord : α → Bool) (r : Regex α) (c : Place α) : Option (Place α) :=
  (results isWord r c).head?

/-- `search` from a place on: where the first match starts and ends. -/
def searchFrom (isWord : α → Bool) (r : Regex α) :
    Option α → List α → Option (Place α × Place α)
  | before, rest =>
      match matchAt isWord r ⟨before, rest, []⟩ with
      | some d => some (⟨before, rest, []⟩, d)
      | none =>
          match rest with
          | [] => none
          | a :: rest => searchFrom isWord r (some a) rest

/-- `search` -/
def search (isWord : α → Bool) (r : Regex α) (text : List α) : Option (Place α × Place α) :=
  searchFrom isWord r none text

/-- `finditer` from a place on, `n` steps at most.  Where an empty match has ended only one that
is not empty may start. -/
def findFrom (isWord : α → Bool) (r : Regex α) :
    ℕ → Bool → Place α → List (Place α × Place α)
  | 0, _, _ => []
  | n + 1, advance, c =>
      match ((results isWord r c).filter
        (fun d => !advance || d.rest.length < c.rest.length)).head? with
      | some d => (c, d) :: findFrom isWord r n (d.rest.length == c.rest.length) d.fresh
      | none =>
          match c.rest with
          | [] => []
          | a :: rest => findFrom isWord r n false ⟨some a, rest, []⟩

/-- `finditer` -/
def findAll (isWord : α → Bool) (r : Regex α) (text : List α) : List (Place α × Place α) :=
  findFrom isWord r (2 * text.length + 2) false (Place.start text)

/-! ## One step at a time -/

section steps

variable {isWord : α → Bool} {r s : Regex α} {c d : Place α}

theorem mem_results_seq :
    d ∈ results isWord (seq r s) c ↔ ∃ e ∈ results isWord r c, d ∈ results isWord s e :=
  List.mem_flatMap

theorem mem_results_all_cons {rs : List (Regex α)} :
    d ∈ results isWord (all (r :: rs)) c ↔
      ∃ e ∈ results isWord r c, d ∈ results isWord (all rs) e := by
  cases rs with
  | nil =>
      have hself : ∀ e, d ∈ results isWord (all []) e ↔ e = d := by
        intro e
        rw [all, results, List.mem_singleton]
        exact eq_comm
      simp only [hself]
      exact ⟨fun hd => ⟨d, hd, rfl⟩, fun ⟨e, he, hed⟩ => hed ▸ he⟩
  | cons s rs => exact mem_results_seq

theorem mem_results_boundary :
    d ∈ results isWord boundary c ↔ c.isBoundary isWord = true ∧ d = c := by
  rw [results]
  by_cases h : c.isBoundary isWord = true
  · rw [if_pos h, List.mem_singleton]
    exact ⟨fun hd => ⟨h, hd⟩, fun hd => hd.2⟩
  · rw [if_neg h]
    exact iff_of_false List.not_mem_nil (fun hd => h hd.1)

theorem mem_results_group {n : ℕ} :
    d ∈ results isWord (group n r) c ↔
      ∃ e ∈ results isWord r c, d = { e with groups := (n, c.upto e) :: e.groups } := by
  rw [results, List.mem_map]
  exact exists_congr (fun e => and_congr_right (fun _ => eq_comm))

/-! ## What is spelled -/

/-- The texts of an expression, whatever is around them. -/
def Spells : Regex α → List α → Prop
  | nothing, w => w = []
  | one p, w => ∃ a, p a = true ∧ w = [a]
  | boundary, w => w = []
  | seq r s, w => ∃ u v, w = u ++ v ∧ Spells r u ∧ Spells s v
  | alt r s, w => Spells r w ∨ Spells s w
  | star r, w => ∃ ws : List (List α), w = ws.flatten ∧ ∀ u ∈ ws, Spells r u
  | group _ r, w => Spells r w

/-- `d` lies behind `c` in a text, and `w` is between them. -/
structure Passes (c d : Place α) (w : List α) : Prop where
  rest : c.rest = w ++ d.rest
  before : d.before = w.getLast?.or c.before

theorem Passes.nil (h : d.rest = c.rest) (hb : d.before = c.before) : Passes c d [] :=
  ⟨by rw [h]; rfl, by rw [hb]; rfl⟩

theorem Passes.append {e : Place α} {u v : List α} (h : Passes c d u) (h' : Passes d e v) :
    Passes c e (u ++ v) := by
  refine ⟨by rw [h.rest, h'.rest, List.append_assoc], ?_⟩
  rw [h'.before, h.before, List.getLast?_append, Option.or_assoc]

theorem Passes.upto {w : List α} (h : Passes c d w) : c.upto d = w := by
  rw [Place.upto, h.rest, List.length_append, Nat.add_sub_cancel]
  exact List.take_left' rfl

/-- A loop passes what its rounds pass. -/
theorem passes_of_mem_repeated {step : Place α → List (Place α)} {P : List α → Prop}
    (hstep : ∀ c d, d ∈ step c → ∃ w, Passes c d w ∧ P w) (n : ℕ) {c d : Place α}
    (h : d ∈ repeated step n c) :
    ∃ ws : List (List α), Passes c d ws.flatten ∧ ∀ w ∈ ws, P w := by
  induction n generalizing c with
  | zero =>
      rw [repeated, List.mem_singleton] at h
      subst h
      exact ⟨[], Passes.nil rfl rfl, nofun⟩
  | succ n ih =>
      rw [repeated, List.mem_append, List.mem_flatMap, List.mem_singleton] at h
      rcases h with ⟨e, he, hd⟩ | rfl
      · obtain ⟨w, hw, hP⟩ := hstep c e (List.mem_of_mem_filter he)
        obtain ⟨ws, hws, hall⟩ := ih hd
        refine ⟨w :: ws, ?_, List.forall_mem_cons.2 ⟨hP, hall⟩⟩
        rw [List.flatten_cons]
        exact hw.append hws
      · exact ⟨[], Passes.nil rfl rfl, nofun⟩

/-- **Whatever is matched is spelled.** -/
theorem spells_of_mem_results (h : d ∈ results isWord r c) : ∃ w, Passes c d w ∧ Spells r w := by
  induction r generalizing c d with
  | nothing =>
      rw [results, List.mem_singleton] at h
      subst h
      exact ⟨[], Passes.nil rfl rfl, rfl⟩
  | one p =>
      rw [results] at h
      split at h
      · cases h
      · rename_i a rest hrest
        split at h
        · rename_i ha
          rw [List.mem_singleton] at h
          subst h
          exact ⟨[a], ⟨hrest, rfl⟩, a, ha, rfl⟩
        · cases h
  | boundary =>
      obtain ⟨-, rfl⟩ := mem_results_boundary.1 h
      exact ⟨[], Passes.nil rfl rfl, rfl⟩
  | seq r s ihr ihs =>
      obtain ⟨e, he, hd⟩ := mem_results_seq.1 h
      obtain ⟨u, hu, hru⟩ := ihr he
      obtain ⟨v, hv, hsv⟩ := ihs hd
      exact ⟨u ++ v, hu.append hv, u, v, rfl, hru, hsv⟩
  | alt r s ihr ihs =>
      rw [results, List.mem_append] at h
      rcases h with h | h
      · obtain ⟨w, hw, hspell⟩ := ihr h
        exact ⟨w, hw, Or.inl hspell⟩
      · obtain ⟨w, hw, hspell⟩ := ihs h
        exact ⟨w, hw, Or.inr hspell⟩
  | star r ih =>
      rw [results] at h
      obtain ⟨ws, hws, hall⟩ := passes_of_mem_repeated (fun c d hd => ih hd) _ h
      exact ⟨ws.flatten, hws, ws, rfl, hall⟩
  | group n r ih =>
      obtain ⟨e, he, rfl⟩ := mem_results_group.1 h
      obtain ⟨w, hw, hspell⟩ := ih he
      exact ⟨w, ⟨hw.rest, hw.before⟩, hspell⟩

theorem spells_all_cons {rs : List (Regex α)} {w : List α} :
    Spells (all (r :: rs)) w ↔ ∃ u v, w = u ++ v ∧ Spells r u ∧ Spells (all rs) v := by
  cases rs with
  | nil =>
      constructor
      · intro h
        exact ⟨w, [], (List.append_nil w).symm, h, rfl⟩
      · rintro ⟨u, v, rfl, hu, hv⟩
        obtain rfl : v = [] := hv
        rw [List.append_nil]
        exact hu
  | cons s rs => exact Iff.rfl

theorem spells_times_one {p : α → Bool} {n : ℕ} {w : List α} :
    Spells (times (one p) n) w ↔ w.length = n ∧ ∀ a ∈ w, p a = true := by
  induction n generalizing w with
  | zero =>
      show w = [] ↔ _
      rw [List.length_eq_zero_iff]
      exact ⟨fun h => ⟨h, by rw [h]; nofun⟩, fun h => h.1⟩
  | succ n ih =>
      show (∃ u v, w = u ++ v ∧ (∃ a, p a = true ∧ u = [a]) ∧ Spells (times (one p) n) v) ↔ _
      constructor
      · rintro ⟨u, v, rfl, ⟨a, ha, rfl⟩, hv⟩
        obtain ⟨hlen, hall⟩ := ih.1 hv
        exact ⟨by rw [← hlen]; rfl, List.forall_mem_cons.2 ⟨ha, hall⟩⟩
      · rintro ⟨hlen, hall⟩
        match w with
        | a :: w =>
            obtain ⟨ha, hall⟩ := List.forall_mem_cons.1 hall
            exact ⟨[a], w, rfl, ⟨a, ha, rfl⟩, ih.2 ⟨Nat.succ.inj hlen, hall⟩⟩

theorem spells_upTo_one {p : α → Bool} {n : ℕ} {w : List α} :
    Spells (upTo (one p) n) w ↔ w.length ≤ n ∧ ∀ a ∈ w, p a = true := by
  induction n generalizing w with
  | zero =>
      show w = [] ↔ _
      rw [Nat.le_zero, List.length_eq_zero_iff]
      exact ⟨fun h => ⟨h, by rw [h]; nofun⟩, fun h => h.1⟩
  | succ n ih =>
      show (∃ u v, w = u ++ v ∧ (∃ a, p a = true ∧ u = [a]) ∧ Spells (upTo (one p) n) v) ∨
        w = [] ↔ _
      constructor
      · rintro (⟨u, v, rfl, ⟨a, ha, rfl⟩, hv⟩ | rfl)
        · obtain ⟨hlen, hall⟩ := ih.1 hv
          exact ⟨Nat.succ_le_succ hlen, List.forall_mem_cons.2 ⟨ha, hall⟩⟩
        · exact ⟨Nat.zero_le _, nofun⟩
      · rintro ⟨hlen, hall⟩
        match w with
        | [] => exact Or.inr rfl
        | a :: w =>
            obtain ⟨ha, hall⟩ := List.forall_mem_cons.1 hall
            exact Or.inl ⟨[a], w, rfl, ⟨a, ha, rfl⟩, ih.2 ⟨Nat.le_of_succ_le_succ hlen, hall⟩⟩

end steps

/-! ## Searching -/

section searching

variable {isWord : α → Bool} {r : Regex α}

/-- A place of a text. -/
structure Place.Of (text : List α) (c : Place α) (pre : List α) : Prop where
  text : text = pre ++ c.rest
  before : c.before = pre.getLast?

theorem Place.Of.passes {text pre w : List α} {c d : Place α} (h : c.Of text pre)
    (hw : Passes c d w) : d.Of text (pre ++ w) := by
  refine ⟨by rw [h.text, hw.rest, List.append_assoc], ?_⟩
  rw [hw.before, h.before, List.getLast?_append]

/-- A match that is found starts at a place of the text, and is a result there. -/
theorem findFrom_sound {n : ℕ} {advance : Bool} {text pre : List α} {c : Place α}
    (hc : c.Of text pre) (hg : c.groups = []) {m : Place α × Place α}
    (hm : m ∈ findFrom isWord r n advance c) :
    (∃ pre', m.1.Of text pre') ∧ m.1.groups = [] ∧ m.2 ∈ results isWord r m.1 := by
  induction n generalizing advance c pre with
  | zero => cases hm
  | succ n ih =>
      rw [findFrom] at hm
      split at hm
      · rename_i d hd
        have hd := List.mem_of_mem_filter (List.mem_of_mem_head? hd)
        rcases List.mem_cons.1 hm with rfl | hm
        · exact ⟨⟨pre, hc⟩, hg, hd⟩
        · obtain ⟨w, hw, -⟩ := spells_of_mem_results hd
          have hfresh : d.fresh.Of text (pre ++ w) := hc.passes ⟨hw.rest, hw.before⟩
          exact ih hfresh rfl hm
      · split at hm
        · cases hm
        · rename_i a rest hrest
          have hnext : (⟨some a, rest, []⟩ : Place α).Of text (pre ++ [a]) :=
            hc.passes ⟨hrest, rfl⟩
          exact ih hnext rfl hm

/-- **A match of `finditer`** starts at a place of the text, and is a result there. -/
theorem findAll_sound {text : List α} {m : Place α × Place α} (hm : m ∈ findAll isWord r text) :
    (∃ pre, m.1.Of text pre) ∧ m.1.groups = [] ∧ m.2 ∈ results isWord r m.1 := by
  have hstart : (Place.start text).Of text [] := ⟨rfl, rfl⟩
  exact findFrom_sound hstart rfl hm

theorem head?_findFrom {n : ℕ} {before : Option α} {rest : List α} (hn : rest.length < n) :
    (findFrom isWord r n false ⟨before, rest, []⟩).head? = searchFrom isWord r before rest := by
  induction rest generalizing n before with
  | nil =>
      obtain ⟨k, rfl⟩ := Nat.exists_eq_add_of_lt hn
      rw [findFrom, searchFrom, matchAt]
      simp only [Bool.not_false, Bool.true_or, List.filter_true]
      cases (results isWord r ⟨before, [], []⟩).head? <;> rfl
  | cons a rest ih =>
      obtain ⟨k, rfl⟩ : ∃ k, n = k + 1 := ⟨n - 1, by omega⟩
      rw [findFrom, searchFrom, matchAt]
      simp only [Bool.not_false, Bool.true_or, List.filter_true]
      cases (results isWord r ⟨before, a :: rest, []⟩).head? with
      | some d => rfl
      | none => exact ih (Nat.lt_of_succ_lt_succ hn)

/-- **`search` finds the first match of `finditer`.** -/
theorem head?_findAll (text : List α) : (findAll isWord r text).head? = search isWord r text :=
  head?_findFrom (by omega)

end searching

end Regex
