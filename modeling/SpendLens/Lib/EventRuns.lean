/-
# Runs of an event machine

A machine is a step function on states and events, and a run is a fold.  `Along` is a
condition on every step of a run, given the state before it, and `holds_run` is the one
induction that takes an invariant through a run whose steps meet a condition.
-/
import Mathlib.Logic.Basic

namespace EventRuns

variable {S E : Type} {step : S → E → S}

/-- The state after some events. -/
def run (step : S → E → S) (s : S) (es : List E) : S := es.foldl step s

@[simp] theorem run_nil (s : S) : run step s [] = s := rfl

@[simp] theorem run_cons (s : S) (e : E) (es : List E) :
    run step s (e :: es) = run step (step s e) es := rfl

theorem run_append (s : S) (es es' : List E) :
    run step s (es ++ es') = run step (run step s es) es' :=
  List.foldl_append

theorem run_concat (s : S) (es : List E) (e : E) :
    run step s (es ++ [e]) = step (run step s es) e := by
  rw [run_append]
  rfl

/-- Every step of the run meets a condition in the state before it. -/
def Along (step : S → E → S) (Ok : S → E → Prop) : S → List E → Prop
  | _, [] => True
  | s, e :: es => Ok s e ∧ Along step Ok (step s e) es

theorem along_append {Ok : S → E → Prop} :
    ∀ {s : S} {es es' : List E},
      Along step Ok s (es ++ es') ↔ Along step Ok s es ∧ Along step Ok (run step s es) es'
  | _, [], _ => by simp [Along]
  | s, e :: es, es' => by
      rw [List.cons_append, Along, Along, along_append, and_assoc]
      rfl

/-- **An invariant of the steps holds after the run.** -/
theorem holds_run {Ok : S → E → Prop} {Inv : S → Prop}
    (hstep : ∀ s e, Inv s → Ok s e → Inv (step s e)) {es : List E} :
    ∀ {s : S}, Inv s → Along step Ok s es → Inv (run step s es) := by
  induction es with
  | nil =>
      intro s h _
      exact h
  | cons e es ih =>
      intro s h hok
      exact ih (hstep s e h hok.1) hok.2

/-- In every state the run passes through. -/
theorem holds_of_append {Ok : S → E → Prop} {Inv : S → Prop}
    (hstep : ∀ s e, Inv s → Ok s e → Inv (step s e)) {es es' : List E} {s : S} (h : Inv s)
    (hok : Along step Ok s (es ++ es')) : Inv (run step s es) :=
  holds_run hstep h (along_append.1 hok).1

/-- What an invariant and a condition give for one step, they give along the run. -/
theorem along_of_step {Ok Good : S → E → Prop} {Inv : S → Prop}
    (hgood : ∀ s e, Inv s → Ok s e → Good s e)
    (hstep : ∀ s e, Inv s → Ok s e → Inv (step s e)) {es : List E} :
    ∀ {s : S}, Inv s → Along step Ok s es → Along step Good s es := by
  induction es with
  | nil => exact fun _ _ => trivial
  | cons e es ih =>
      intro s h hok
      exact ⟨hgood s e h hok.1, ih (hstep s e h hok.1) hok.2⟩

/-- **A property holds all along a run** exactly if every step meets the condition under which it
keeps the property. -/
theorem forall_prefix_iff_along {Ok : S → E → Prop} {Inv P : S → Prop}
    (hinv : ∀ s e, Inv s → Ok s e → Inv (step s e))
    (hstep : ∀ s e, Inv s → P s → (P (step s e) ↔ Ok s e)) {es : List E} :
    ∀ {s : S}, Inv s → P s →
      ((∀ es₁ es₂, es = es₁ ++ es₂ → P (run step s es₁)) ↔ Along step Ok s es) := by
  induction es with
  | nil =>
      intro s _ hP
      refine iff_of_true (fun es₁ es₂ heq => ?_) trivial
      rw [(List.append_eq_nil_iff.1 heq.symm).1]
      exact hP
  | cons e es ih =>
      intro s hI hP
      constructor
      · intro h
        have hnext : P (step s e) := h [e] es rfl
        have hok : Ok s e := (hstep s e hI hP).1 hnext
        refine ⟨hok, (ih (hinv s e hI hok) hnext).1 ?_⟩
        intro es₁ es₂ heq
        exact h (e :: es₁) es₂ (by rw [heq]; rfl)
      · rintro ⟨hok, hrest⟩ es₁ es₂ heq
        have hnext : P (step s e) := (hstep s e hI hP).2 hok
        match es₁ with
        | [] => exact hP
        | d :: es₁ =>
            obtain ⟨rfl, htail⟩ := List.cons.inj heq
            exact (ih (hinv s e hI hok) hnext).2 hrest es₁ es₂ htail

/-- A condition on what one machine shows of another. -/
theorem along_map {T : Type} {f : S → T} {stepT : T → E → T} {Ok : T → E → Prop}
    (hf : ∀ s e, f (step s e) = stepT (f s) e) {es : List E} :
    ∀ {s : S}, Along step (fun s e => Ok (f s) e) s es ↔ Along stepT Ok (f s) es := by
  induction es with
  | nil => exact Iff.rfl
  | cons e es ih =>
      intro s
      rw [Along, Along, ih, hf]

end EventRuns
