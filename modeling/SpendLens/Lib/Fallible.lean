/-
# Computations that may fail

`Except` over any type of exceptions: how a sequence succeeds and how it fails, and what a
map over a list comes to when each of its elements may fail.
-/
import Mathlib.Data.List.Forall2
import Mathlib.Tactic.Common

namespace Fallible

/-! ## Sequences -/

variable {α β ε : Type}

/-- A sequence succeeds when both of its parts do. -/
theorem bind_eq_ok {x : Except ε α} {f : α → Except ε β} {b : β} :
    x >>= f = .ok b ↔ ∃ a, x = .ok a ∧ f a = .ok b := by
  cases x <;> simp [bind, Except.bind]

/-- A mapped computation succeeds when the computation does. -/
theorem map_eq_ok {x : Except ε α} {f : α → β} {b : β} :
    x.map f = .ok b ↔ ∃ a, x = .ok a ∧ f a = b := by
  cases x <;> simp [Except.map]

/-- A mapped computation fails when the computation does. -/
theorem map_eq_error {x : Except ε α} {f : α → β} {e : ε} :
    x.map f = .error e ↔ x = .error e := by
  cases x <;> simp [Except.map]

/-- A sequence fails in its first part or in its second. -/
theorem bind_eq_error {x : Except ε α} {f : α → Except ε β} {e : ε} :
    x >>= f = .error e ↔ x = .error e ∨ ∃ a, x = .ok a ∧ f a = .error e := by
  cases x <;> simp [bind, Except.bind]

/-! ## Maps -/

/-- Map with a function that never raises. -/
theorem mapM_ok {f : α → Except ε β} {P : α → β → Prop} :
    ∀ {l : List α}, (∀ a ∈ l, ∃ b, f a = .ok b ∧ P a b) →
      ∃ bs, l.mapM f = .ok bs ∧ List.Forall₂ P l bs
  | [], _ => ⟨[], rfl, .nil⟩
  | a :: l, h => by
      obtain ⟨b, hb, hP⟩ := h a List.mem_cons_self
      obtain ⟨bs, hbs, hall⟩ := mapM_ok (fun a ha => h a (List.mem_cons_of_mem _ ha))
      refine ⟨b :: bs, ?_, .cons hP hall⟩
      rw [List.mapM_cons, hb, hbs]
      rfl

/-- A map that fails does so at one of the elements. -/
theorem mapM_eq_error {f : α → Except ε β} {e : ε} :
    ∀ {l : List α}, l.mapM f = .error e → ∃ a ∈ l, f a = .error e
  | [], h => by cases h
  | a :: l, h => by
      rw [List.mapM_cons] at h
      rcases bind_eq_error.1 h with ha | ⟨b, -, h⟩
      · exact ⟨a, List.mem_cons_self, ha⟩
      · rcases bind_eq_error.1 h with hl | ⟨bs, -, h⟩
        · obtain ⟨a', ha', he⟩ := mapM_eq_error hl
          exact ⟨a', List.mem_cons_of_mem _ ha', he⟩
        · cases h

/-- Lists related element by element relate every element to one of the other list. -/
theorem exists_of_forall₂ {P : α → β → Prop} {l : List α} {bs : List β}
    (h : List.Forall₂ P l bs) :
    (∀ a ∈ l, ∃ b ∈ bs, P a b) ∧ ∀ b ∈ bs, ∃ a ∈ l, P a b := by
  induction h with
  | nil => simp
  | cons hP _ ih =>
      constructor
      · intro a ha
        rcases List.mem_cons.1 ha with rfl | ha
        · exact ⟨_, List.mem_cons_self, hP⟩
        · obtain ⟨b, hb, hab⟩ := ih.1 a ha
          exact ⟨b, List.mem_cons_of_mem _ hb, hab⟩
      · intro b hb
        rcases List.mem_cons.1 hb with rfl | hb
        · exact ⟨_, List.mem_cons_self, hP⟩
        · obtain ⟨a, ha, hab⟩ := ih.2 b hb
          exact ⟨a, List.mem_cons_of_mem _ ha, hab⟩

/-- Lists related element by element agree in whatever related elements agree in. -/
theorem map_eq_of_forall₂ {γ : Type} {P : α → β → Prop} {f : α → γ} {g : β → γ} {l : List α}
    {bs : List β} (h : List.Forall₂ P l bs) (hfg : ∀ a b, P a b → g b = f a) :
    bs.map g = l.map f := by
  induction h with
  | nil => rfl
  | cons hP _ ih => rw [List.map_cons, List.map_cons, hfg _ _ hP, ih]

/-- A map whose successes are those of a function without failures. -/
theorem mapM_eq_ok_iff {f : α → Except ε β} {g : α → β}
    (h : ∀ a b, f a = .ok b → b = g a) {l : List α} :
    ∀ {bs : List β}, l.mapM f = .ok bs ↔ (∀ a ∈ l, f a = .ok (g a)) ∧ bs = l.map g := by
  induction l with
  | nil =>
      intro bs
      rw [List.mapM_nil]
      constructor
      · intro hbs
        cases hbs
        exact ⟨by simp, rfl⟩
      · rintro ⟨-, rfl⟩
        rfl
  | cons a l ih =>
      intro bs
      rw [List.mapM_cons]
      constructor
      · intro hbs
        cases ha : f a with
        | error ex =>
            rw [ha] at hbs
            cases hbs
        | ok b =>
            cases hl : l.mapM f with
            | error ex =>
                rw [ha, hl] at hbs
                cases hbs
            | ok bs' =>
                rw [ha, hl] at hbs
                cases hbs
                obtain ⟨hall, rfl⟩ := ih.1 hl
                have hb := h a b ha
                subst hb
                exact ⟨List.forall_mem_cons.2 ⟨ha, hall⟩, rfl⟩
      · rintro ⟨hall, rfl⟩
        obtain ⟨ha, hall⟩ := List.forall_mem_cons.1 hall
        rw [ha, ih.2 ⟨hall, rfl⟩]
        rfl

end Fallible
