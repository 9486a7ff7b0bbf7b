/-
# A queue with late acknowledgement

Messages wait until somebody takes one.  The holder of a message acknowledges it when the work
is done; if he ends before that, the message waits again.

`Pledged` is what such a queue is for: a message of some kind waits, or is held by somebody who
still means to work on it.  Each operation has a lemma that says what it takes to keep a pledge;
only an acknowledgement can break one.
-/
import Mathlib.Logic.Function.Basic
import Mathlib.Data.List.Basic

/-- The messages that wait, and the message each of the holders `ι` has taken. -/
structure Broker (ι Msg : Type) where
  waiting : List Msg
  held : ι → Option Msg

namespace Broker

variable {ι Msg : Type}

/-! ## The operations -/

/-- More messages wait. -/
def publish (b : Broker ι Msg) (ms : List Msg) : Broker ι Msg :=
  { b with waiting := b.waiting ++ ms }

/-- Take a message that waits; `none` while there is none, or another one is held. -/
def receive [DecidableEq ι] [DecidableEq Msg] (b : Broker ι Msg) (i : ι) (m : Msg) :
    Option (Broker ι Msg) :=
  if m ∈ b.waiting ∧ b.held i = none then
    some ⟨b.waiting.erase m, Function.update b.held i (some m)⟩
  else none

/-- Be done with the message held. -/
def acknowledge [DecidableEq ι] (b : Broker ι Msg) (i : ι) : Broker ι Msg :=
  { b with held := Function.update b.held i none }

/-- The end of a holder: what it has not acknowledged waits again. -/
def release [DecidableEq ι] (b : Broker ι Msg) (i : ι) : Broker ι Msg :=
  ⟨b.waiting ++ (b.held i).toList, Function.update b.held i none⟩

/-- The message waits or is held. -/
def Outstanding (b : Broker ι Msg) (m : Msg) : Prop :=
  m ∈ b.waiting ∨ ∃ i, b.held i = some m

/-! ## Pledges -/

/-- A message with `P` waits, or is held by somebody who is busy with it. -/
def Pledged (b : Broker ι Msg) (P : Msg → Prop) (busy : ι → Prop) : Prop :=
  (∃ m ∈ b.waiting, P m) ∨ ∃ i m, b.held i = some m ∧ P m ∧ busy i

variable {b b' : Broker ι Msg} {P : Msg → Prop} {busy busy' : ι → Prop} {i : ι} {m : Msg}

/-- What is pledged is outstanding. -/
theorem Pledged.outstanding (h : b.Pledged P busy) : ∃ m, P m ∧ b.Outstanding m := by
  rcases h with ⟨m, hm, hP⟩ | ⟨i, m, hheld, hP, -⟩
  · exact ⟨m, hP, Or.inl hm⟩
  · exact ⟨m, hP, Or.inr ⟨i, hheld⟩⟩

/-- The holders may be busier. -/
theorem Pledged.imp (h : b.Pledged P busy)
    (hbusy : ∀ j m, b.held j = some m → P m → busy j → busy' j) : b.Pledged P busy' := by
  rcases h with h | ⟨j, m, hheld, hP, hj⟩
  · exact Or.inl h
  · exact Or.inr ⟨j, m, hheld, hP, hbusy j m hheld hP hj⟩

theorem Pledged.publish (h : b.Pledged P busy) (ms : List Msg) : (b.publish ms).Pledged P busy := by
  rcases h with ⟨m, hm, hP⟩ | h
  · exact Or.inl ⟨m, List.mem_append_left ms hm, hP⟩
  · exact Or.inr h

/-- A new message is a pledge. -/
theorem pledged_publish {ms : List Msg} (hm : m ∈ ms) (hP : P m) : (b.publish ms).Pledged P busy :=
  Or.inl ⟨m, List.mem_append_right _ hm, hP⟩

section holders

variable [DecidableEq ι]

theorem receive_eq_some [DecidableEq Msg] (h : b.receive i m = some b') :
    m ∈ b.waiting ∧ b.held i = none ∧
      b' = ⟨b.waiting.erase m, Function.update b.held i (some m)⟩ := by
  unfold receive at h
  split at h
  · rename_i hm
    cases h
    exact ⟨hm.1, hm.2, rfl⟩
  · cases h

/-- Whoever takes a message is to be busy with it. -/
theorem Pledged.receive [DecidableEq Msg] (h : b.Pledged P busy) (hr : b.receive i m = some b')
    (hi : busy' i) (hothers : ∀ j, j ≠ i → busy j → busy' j) : b'.Pledged P busy' := by
  obtain ⟨hm, hfree, rfl⟩ := receive_eq_some hr
  rcases h with ⟨n, hn, hP⟩ | ⟨j, n, hheld, hP, hj⟩
  · by_cases hnm : n = m
    · subst hnm
      exact Or.inr ⟨i, n, Function.update_self _ _ _, hP, hi⟩
    · exact Or.inl ⟨n, (List.mem_erase_of_ne hnm).2 hn, hP⟩
  · have hji : j ≠ i := by
      rintro rfl
      rw [hfree] at hheld
      cases hheld
    exact Or.inr ⟨j, n, (Function.update_of_ne hji _ _).trans hheld, hP, hothers j hji hj⟩

/-- Only who is not busy may acknowledge. -/
theorem Pledged.acknowledge (h : b.Pledged P busy)
    (hdone : ∀ m, b.held i = some m → P m → ¬busy i)
    (hothers : ∀ j, j ≠ i → busy j → busy' j) : (b.acknowledge i).Pledged P busy' := by
  rcases h with h | ⟨j, m, hheld, hP, hj⟩
  · exact Or.inl h
  · have hji : j ≠ i := by
      rintro rfl
      exact hdone m hheld hP hj
    exact Or.inr ⟨j, m, (Function.update_of_ne hji _ _).trans hheld, hP, hothers j hji hj⟩

/-- **No end of a holder breaks a pledge.** -/
theorem Pledged.release (h : b.Pledged P busy) (hothers : ∀ j, j ≠ i → busy j → busy' j) :
    (b.release i).Pledged P busy' := by
  rcases h with ⟨m, hm, hP⟩ | ⟨j, m, hheld, hP, hj⟩
  · exact Or.inl ⟨m, List.mem_append_left _ hm, hP⟩
  · by_cases hji : j = i
    · subst hji
      exact Or.inl ⟨m, List.mem_append_right _ (by rw [hheld]; exact List.mem_singleton_self m), hP⟩
    · exact Or.inr ⟨j, m, (Function.update_of_ne hji _ _).trans hheld, hP, hothers j hji hj⟩

end holders

end Broker
