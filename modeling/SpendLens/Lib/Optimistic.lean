/-
# Optimistic mutations with snapshots

A store that is changed before the change is known to succeed.  Each mutation saves what the store
holds and applies itself; when it fails, what it saved is put back.  Mutations overlap: what one of
them has saved contains others, and what is put back takes away those that came later.

`Nested.step` is the one invariant: as long as only the last mutation that has not failed fails, the
store holds what the others make of the original, and each of those that are pending has saved what
the ones before it make.  `rollsBack_along_iff` says that nothing weaker will do where the last
mutation can be read off the store.
-/
import SpendLens.Lib.EventRuns
import Mathlib.Data.List.Induction
import Mathlib.Tactic.Common

namespace Optimistic

open EventRuns

/-! ## Schedules -/

/-- How far a mutation has come. -/
inductive Phase where
  | pending
  | succeeded
  | failed
  deriving DecidableEq

/-- A mutation is started, and the `i`-th one succeeds or fails. -/
inductive Event where
  | start
  | succeed (i : ℕ)
  | fail (i : ℕ)

/-- The phases of the mutations, in the order in which they were started. -/
def schedule (phases : List Phase) : Event → List Phase
  | .start => phases ++ [.pending]
  | .succeed i => if phases[i]? = some .pending then phases.set i .succeeded else phases
  | .fail i => if phases[i]? = some .pending then phases.set i .failed else phases

/-- A mutation that fails is the last one that has not failed. -/
def LastFails (phases : List Phase) : Event → Prop
  | .fail i => phases[i]? = some .pending → ∀ j, i < j → ∀ p, phases[j]? = some p → p = .failed
  | _ => True

/-- The mutations below the `n`-th that have not failed. -/
def survivorsBelow (phases : List Phase) (n : ℕ) : List ℕ :=
  (List.range n).filter (fun i => phases[i]? ≠ some .failed)

def survivors (phases : List Phase) : List ℕ := survivorsBelow phases phases.length

theorem survivorsBelow_congr {phases phases' : List Phase} {n : ℕ}
    (h : ∀ i < n, phases[i]? = some .failed ↔ phases'[i]? = some .failed) :
    survivorsBelow phases n = survivorsBelow phases' n := by
  apply List.filter_congr
  intro i hi
  simp only [ne_eq, h i (List.mem_range.1 hi)]

/-- From some point on everything has failed. -/
theorem survivorsBelow_of_failed {phases : List Phase} {i n : ℕ} (hin : i ≤ n)
    (h : ∀ j, i ≤ j → j < n → phases[j]? = some .failed) :
    survivorsBelow phases n = survivorsBelow phases i := by
  obtain ⟨k, rfl⟩ := Nat.exists_eq_add_of_le hin
  have hrest : ((List.range k).map (i + ·)).filter (fun j => phases[j]? ≠ some .failed) = [] := by
    rw [List.filter_eq_nil_iff]
    intro j hj
    obtain ⟨d, hd, rfl⟩ := List.mem_map.1 hj
    have hlt := List.mem_range.1 hd
    simp only [h (i + d) (by omega) (by omega), ne_eq, not_true_eq_false, decide_false,
      Bool.false_eq_true, not_false_eq_true]
  rw [survivorsBelow, List.range_add, List.filter_append, hrest, List.append_nil]
  rfl

theorem survivorsBelow_succ {phases : List Phase} {n : ℕ} (h : phases[n]? ≠ some .failed) :
    survivorsBelow phases (n + 1) = survivorsBelow phases n ++ [n] := by
  have hself : [n].filter (fun i => phases[i]? ≠ some .failed) = [n] := by
    rw [List.filter_eq_self]
    intro i hi
    rw [List.mem_singleton.1 hi]
    exact decide_eq_true h
  rw [survivorsBelow, List.range_succ, List.filter_append, hself]
  rfl

theorem mem_survivorsBelow {phases : List Phase} {i n : ℕ} :
    i ∈ survivorsBelow phases n ↔ i < n ∧ phases[i]? ≠ some .failed := by
  rw [survivorsBelow, List.mem_filter, List.mem_range, decide_eq_true_iff]

/-- The last survivor is behind all of them. -/
theorem le_of_getLast?_survivorsBelow {phases : List Phase} {n j k : ℕ}
    (hlast : (survivorsBelow phases n).getLast? = some k) (hj : j ∈ survivorsBelow phases n) :
    j ≤ k := by
  obtain ⟨front, hfront⟩ := List.getLast?_eq_some_iff.1 hlast
  have hsorted : (survivorsBelow phases n).Pairwise (· < ·) := List.pairwise_lt_range.filter _
  rw [hfront] at hsorted hj
  obtain hj | hj := List.mem_append.1 hj
  · exact Nat.le_of_lt ((List.pairwise_append.1 hsorted).2.2 j hj k (List.mem_singleton_self k))
  · exact Nat.le_of_eq (List.mem_singleton.1 hj)

/-! ## Stores -/

/-- A store with mutations and a way to put back what was saved: it does so exactly where the shape
is the same, and no mutation changes the shape. -/
structure Store (S M D : Type) where
  apply : M → S → S
  restore : S → S → S
  shape : S → D
  shape_apply : ∀ m s, shape (apply m s) = shape s
  restore_of_shape : ∀ saved now, shape saved = shape now → restore saved now = saved

variable {S M D : Type} (store : Store S M D) (content : ℕ → M)

/-- The store, the phases of the mutations and what each of them has saved. -/
structure State (S : Type) where
  now : S
  phases : List Phase
  saved : List S

/-- No mutation has been started. -/
def start (original : S) : State S := ⟨original, [], []⟩

/-- A step; `content` tells what the mutations are. -/
def step (s : State S) (e : Event) : State S :=
  match e with
  | .start =>
      ⟨store.apply (content s.phases.length) s.now, schedule s.phases .start, s.saved ++ [s.now]⟩
  | .succeed i => { s with phases := schedule s.phases (.succeed i) }
  | .fail i =>
      if s.phases[i]? = some .pending then
        { s with
          now := (s.saved[i]?).elim s.now (fun saved => store.restore saved s.now)
          phases := schedule s.phases (.fail i) }
      else s

/-- What some of the mutations make of the original, one after the other. -/
def replay (original : S) (is : List ℕ) : S :=
  is.foldl (fun s i => store.apply (content i) s) original

/-- **The store holds the original with exactly the mutations that have not failed**, applied in
the order in which they were started. -/
def RollsBack (original : S) (s : State S) : Prop :=
  s.now = replay store content original (survivors s.phases)

/-- What is pending has saved what the mutations before it make. -/
structure Nested (original : S) (s : State S) : Prop where
  now : RollsBack store content original s
  length : s.saved.length = s.phases.length
  saved : ∀ i, s.phases[i]? = some .pending →
    s.saved[i]? = some (replay store content original (survivorsBelow s.phases i))

variable {store content} {original : S} {s : State S}

theorem phases_step (s : State S) (e : Event) :
    (step store content s e).phases = schedule s.phases e := by
  cases e with
  | start => rfl
  | succeed i => rfl
  | fail i =>
      rw [step]
      split
      · rfl
      · rename_i h
        rw [schedule, if_neg h]

theorem replay_append (is : List ℕ) (i : ℕ) :
    replay store content original (is ++ [i]) =
      store.apply (content i) (replay store content original is) := by
  rw [replay, List.foldl_append]
  rfl

theorem shape_replay (is : List ℕ) :
    store.shape (replay store content original is) = store.shape original := by
  induction is using List.reverseRecOn with
  | nil => rfl
  | append_singleton is i ih => rw [replay_append, store.shape_apply, ih]

theorem nested_start (original : S) : Nested store content original (start original) :=
  ⟨rfl, rfl, nofun⟩

theorem survivorsBelow_set {phases : List Phase} {i n : ℕ} {p : Phase} (h : n ≤ i) :
    survivorsBelow (phases.set i p) n = survivorsBelow phases n := by
  apply survivorsBelow_congr
  intro j hj
  rw [List.getElem?_set_ne (by omega)]

/-- A mutation is started: it saves what the others make, and is the last. -/
theorem Nested.start (h : Nested store content original s) :
    Nested store content original (step store content s .start) := by
  have hbelow : ∀ i ≤ s.phases.length,
      survivorsBelow (s.phases ++ [.pending]) i = survivorsBelow s.phases i := by
    intro i hi
    apply survivorsBelow_congr
    intro j hj
    rw [List.getElem?_append_left (by omega)]
  have hlast : (s.phases ++ [Phase.pending])[s.phases.length]? = some .pending :=
    List.getElem?_concat_length
  constructor
  · show store.apply _ s.now = replay store content original (survivors (s.phases ++ [.pending]))
    rw [survivors, List.length_append, List.length_singleton,
      survivorsBelow_succ (by rw [hlast]; decide), hbelow _ (Nat.le_refl _), replay_append, h.now]
    rfl
  · show (s.saved ++ [s.now]).length = (s.phases ++ [Phase.pending]).length
    rw [List.length_append, List.length_append, h.length]
    rfl
  · intro i hi
    have hphase : (s.phases ++ [Phase.pending])[i]? = some .pending := hi
    have hlt : i < (s.phases ++ [Phase.pending]).length := (List.getElem?_eq_some_iff.1 hphase).1
    rw [List.length_append, List.length_singleton] at hlt
    show (s.saved ++ [s.now])[i]? = some (replay store content original
      (survivorsBelow (s.phases ++ [.pending]) i))
    rw [hbelow i (by omega)]
    by_cases hnew : i = s.phases.length
    · rw [hnew, ← h.length, List.getElem?_concat_length, h.length, h.now]
      rfl
    · rw [List.getElem?_append_left (by omega)] at hphase
      rw [List.getElem?_append_left (by rw [h.length]; omega)]
      exact h.saved i hphase

/-- A mutation succeeds: nothing is put back. -/
theorem Nested.succeed (h : Nested store content original s) (i : ℕ) :
    Nested store content original (step store content s (.succeed i)) := by
  by_cases hi : s.phases[i]? = some .pending
  · have hphases : (step store content s (.succeed i)).phases = s.phases.set i .succeeded :=
      if_pos hi
    have hsame : ∀ n, survivorsBelow (s.phases.set i .succeeded) n = survivorsBelow s.phases n := by
      intro n
      apply survivorsBelow_congr
      intro j _
      by_cases hij : i = j
      · subst hij
        rw [List.getElem?_set_self (List.getElem?_eq_some_iff.1 hi).1, hi]
        decide
      · rw [List.getElem?_set_ne hij]
    constructor
    · show s.now = _
      rw [hphases, survivors, hsame, List.length_set]
      exact h.now
    · rw [hphases, List.length_set]
      exact h.length
    · intro j hj
      rw [hphases] at hj ⊢
      have hne : i ≠ j := by
        rintro rfl
        rw [List.getElem?_set_self (List.getElem?_eq_some_iff.1 hi).1] at hj
        cases hj
      rw [List.getElem?_set_ne hne] at hj
      rw [hsame]
      exact h.saved j hj
  · have hsame : step store content s (.succeed i) = s := by
      show ({ s with phases := schedule s.phases (.succeed i) } : State S) = s
      rw [schedule, if_neg hi]
    rw [hsame]
    exact h

/-- What a failing mutation puts back. -/
theorem Nested.now_fail (h : Nested store content original s) {i : ℕ}
    (hi : s.phases[i]? = some .pending) :
    (step store content s (.fail i)).now =
      replay store content original (survivorsBelow s.phases i) := by
  rw [step, if_pos hi, h.saved i hi]
  show store.restore _ s.now = _
  apply store.restore_of_shape
  rw [shape_replay, h.now, shape_replay]

/-- The last mutation that has not failed fails: the others are left. -/
theorem Nested.fail (h : Nested store content original s) {i : ℕ}
    (hlast : LastFails s.phases (.fail i)) :
    Nested store content original (step store content s (.fail i)) := by
  by_cases hi : s.phases[i]? = some .pending
  · have hlt := (List.getElem?_eq_some_iff.1 hi).1
    have hphases : (step store content s (.fail i)).phases = s.phases.set i .failed := by
      rw [phases_step]
      exact if_pos hi
    have hfailed : ∀ j, i ≤ j → j < (s.phases.set i .failed).length →
        (s.phases.set i .failed)[j]? = some .failed := by
      intro j hij hj
      rw [List.length_set] at hj
      by_cases heq : i = j
      · subst heq
        exact List.getElem?_set_self hlt
      · rw [List.getElem?_set_ne heq]
        have hsome := List.getElem?_eq_getElem hj
        rw [hsome, hlast hi j (by omega) _ hsome]
    constructor
    · show (step store content s (.fail i)).now = _
      rw [h.now_fail hi, hphases, survivors,
        survivorsBelow_of_failed (by rw [List.length_set]; omega) hfailed,
        survivorsBelow_set (Nat.le_refl i)]
    · rw [hphases, List.length_set, step, if_pos hi]
      exact h.length
    · intro j hj
      rw [hphases] at hj ⊢
      have hji : j < i := by
        by_contra hij
        have hjlt := (List.getElem?_eq_some_iff.1 hj).1
        rw [hfailed j (by omega) hjlt] at hj
        cases hj
      rw [List.getElem?_set_ne (by omega)] at hj
      rw [survivorsBelow_set (Nat.le_of_lt hji), step, if_pos hi]
      exact h.saved j hj
  · rw [step, if_neg hi]
    exact h

/-- **One step keeps the store as the others make it**, if only the last one fails. -/
theorem Nested.step (h : Nested store content original s) {e : Event}
    (hlast : LastFails s.phases e) : Nested store content original (step store content s e) := by
  cases e with
  | start => exact h.start
  | succeed i => exact h.succeed i
  | fail i => exact h.fail hlast

/-! ## Runs -/

/-- As long as only the last mutation that has not failed fails. -/
theorem rollsBack_of_along {es es' : List Event}
    (hlast : Along schedule LastFails [] (es ++ es')) :
    RollsBack store content original (run (step store content) (start original) es) := by
  have hsteps : Along (step store content) (fun s e => LastFails s.phases e) (start original)
      (es ++ es') := (along_map phases_step).2 hlast
  have hnested : Nested store content original (run (step store content) (start original) es) :=
    holds_of_append (fun _ _ h hok => h.step hok) (nested_start original) hsteps
  exact hnested.now

/-- The last mutation can be read off the store. -/
def Readable (store : Store S M D) (content : ℕ → M) (original : S) : Prop :=
  ∀ is js, replay store content original is = replay store content original js →
    is.getLast? = js.getLast?

/-- Another mutation fails, and what has come behind it is lost. -/
theorem rollsBack_step_iff (hreadable : Readable store content original)
    (h : Nested store content original s) (e : Event) :
    RollsBack store content original (step store content s e) ↔ LastFails s.phases e := by
  refine ⟨fun hback => ?_, fun hlast => (h.step hlast).now⟩
  cases e with
  | start => trivial
  | succeed i => trivial
  | fail i =>
      intro hi j hij p hp
      by_contra hne
      have hphases : (step store content s (.fail i)).phases = s.phases.set i .failed := by
        rw [phases_step]
        exact if_pos hi
      have hmem : j ∈ survivors (s.phases.set i .failed) := by
        rw [survivors, mem_survivorsBelow, List.length_set, List.getElem?_set_ne (by omega), hp]
        exact ⟨(List.getElem?_eq_some_iff.1 hp).1, fun heq => hne (Option.some.inj heq)⟩
      have heq := hreadable _ _ ((h.now_fail hi).symm.trans hback)
      rw [hphases] at heq
      cases hlast : (survivors (s.phases.set i .failed)).getLast? with
      | none =>
          rw [List.getLast?_eq_none_iff.1 hlast] at hmem
          cases hmem
      | some k =>
          have hjk : j ≤ k := le_of_getLast?_survivorsBelow hlast hmem
          rw [hlast] at heq
          have hki : k < i := (mem_survivorsBelow.1 (List.mem_of_getLast? heq)).1
          omega

/-- **Which schedules are safe**: where the last mutation can be read off the store, those in which
only the last mutation that has not failed fails. -/
theorem rollsBack_along_iff (hreadable : Readable store content original) (es : List Event) :
    (∀ es₁ es₂, es = es₁ ++ es₂ →
      RollsBack store content original (run (step store content) (start original) es₁)) ↔
      Along schedule LastFails [] es := by
  have hsteps : Along (step store content) (fun s e => LastFails s.phases e) (start original) es ↔
      Along schedule LastFails [] es := along_map phases_step
  rw [← hsteps]
  exact forall_prefix_iff_along (fun _ _ h hok => h.step hok)
    (fun _ e h _ => rollsBack_step_iff hreadable h e) (nested_start original)
    (nested_start original).now

end Optimistic
