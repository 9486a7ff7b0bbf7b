/-
# Consecutive intervals

Half-open intervals over a linear order, each of which starts where the one before it ends.  They
are disjoint, and a point between their two ends is in one of them, exactly once.
-/
import Mathlib.Order.Basic
import Mathlib.Order.Lattice
import Mathlib.Data.List.Count
import Mathlib.Tactic.Common

namespace Intervals

variable {α : Type} [LinearOrder α]

/-- The point lies in the interval, which has its start and not its end. -/
def Contains (I : α × α) (x : α) : Prop := I.1 ≤ x ∧ x < I.2

instance (I : α × α) (x : α) : Decidable (Contains I x) :=
  inferInstanceAs (Decidable (_ ∧ _))

/-- Intervals that lead from one point to another without a gap or an overlap. -/
def Tiles : α → List (α × α) → α → Prop
  | a, [], b => a = b
  | a, I :: l, b => I.1 = a ∧ I.1 < I.2 ∧ Tiles I.2 l b

theorem Tiles.le {a b : α} {l : List (α × α)} (h : Tiles a l b) : a ≤ b := by
  induction l generalizing a with
  | nil => exact le_of_eq h
  | cons I l ih =>
      obtain ⟨rfl, hlt, hrest⟩ := h
      exact le_trans (le_of_lt hlt) (ih hrest)

/-- Every interval lies between the two ends. -/
theorem Tiles.bounds {a b : α} {l : List (α × α)} (h : Tiles a l b) {I : α × α} (hI : I ∈ l) :
    a ≤ I.1 ∧ I.2 ≤ b := by
  induction l generalizing a with
  | nil => cases hI
  | cons J l ih =>
      obtain ⟨rfl, hlt, hrest⟩ := h
      rcases List.mem_cons.1 hI with rfl | hmem
      · exact ⟨le_refl _, hrest.le⟩
      · obtain ⟨hlow, hhigh⟩ := ih hrest hmem
        exact ⟨le_trans (le_of_lt hlt) hlow, hhigh⟩

/-- The intervals are disjoint, in their order. -/
theorem Tiles.disjoint {a b : α} {l : List (α × α)} (h : Tiles a l b) :
    l.Pairwise (fun I J => I.2 ≤ J.1) := by
  induction l generalizing a with
  | nil => exact List.Pairwise.nil
  | cons I l ih =>
      obtain ⟨rfl, -, hrest⟩ := h
      exact List.Pairwise.cons (fun J hJ => (hrest.bounds hJ).1) (ih hrest)

/-- **Every point between the ends is in exactly one interval**, and no other point is in any. -/
theorem Tiles.countP_contains {a b : α} {l : List (α × α)} (h : Tiles a l b) (x : α) :
    l.countP (fun I => Contains I x) = if a ≤ x ∧ x < b then 1 else 0 := by
  induction l generalizing a with
  | nil =>
      obtain rfl : a = b := h
      rw [List.countP_nil, if_neg (fun hx => absurd hx.1 (not_le.2 hx.2))]
  | cons I l ih =>
      obtain ⟨rfl, hlt, hrest⟩ := h
      rw [List.countP_cons, ih hrest]
      by_cases hx : x < I.2
      · -- the first interval decides
        rw [if_neg (fun hc => absurd hc.1 (not_le.2 hx)), Nat.zero_add]
        by_cases hlow : I.1 ≤ x
        · rw [if_pos (decide_eq_true ⟨hlow, hx⟩), if_pos ⟨hlow, lt_of_lt_of_le hx hrest.le⟩]
        · rw [if_neg (fun hc => hlow (of_decide_eq_true hc).1), if_neg (fun hc => hlow hc.1)]
      · have hge : I.2 ≤ x := not_lt.1 hx
        have hlow : I.1 ≤ x := le_trans (le_of_lt hlt) hge
        have hnot : ¬decide (Contains I x) = true := fun hc => hx (of_decide_eq_true hc).2
        rw [if_neg hnot, Nat.add_zero]
        by_cases hstop : x < b
        · rw [if_pos ⟨hge, hstop⟩, if_pos ⟨hlow, hstop⟩]
        · rw [if_neg (fun hc => hstop hc.2), if_neg (fun hc => hstop hc.2)]

end Intervals
