/-
# Keyset pagination

Pages of a collection ordered by a key, greatest first, where each page is sought by
the key of the last row of the one before.  `walk` follows the pages while the
collection changes under it: the rows of the `k`-th fetch are `rows k`.

* `pairwise_walk` : the keys strictly decrease over the whole walk, whatever changes;
* `mem_keys_of_walk` : a key that is present at every fetch has been returned when the
  walk ends;
* `walk_const` : over an unchanged collection the walk ends and has returned it in order.
-/
import Mathlib.Data.List.Sort
import Mathlib.Data.List.Nodup

namespace Keyset

variable {V K : Type} [LinearOrder K] (key : V → K)

/-! ## One page -/

/-- The rows, greatest key first. -/
def descending (rows : List V) : List V := rows.mergeSort (fun a b => decide (key b ≤ key a))

/-- Is the key of a row below the bound, if there is one? -/
def below (bound : Option K) (v : V) : Bool := bound.all (fun c => decide (key v < c))

/-- The first `n` rows below the bound, and the next bound if there are more. -/
def page (rows : List V) (bound : Option K) (n : ℕ) : List V × Option K :=
  let found := (descending key (rows.filter (below key bound))).take (n + 1)
  if n < found.length then (found.take n, found[n - 1]?.map key) else (found, none)

theorem mem_descending {rows : List V} {v : V} : v ∈ descending key rows ↔ v ∈ rows :=
  (List.mergeSort_perm rows _).mem_iff

theorem length_descending (rows : List V) : (descending key rows).length = rows.length :=
  List.length_mergeSort rows

/-- Distinct keys strictly decrease. -/
theorem pairwise_descending {rows : List V} (h : (rows.map key).Nodup) :
    (descending key rows).Pairwise (fun a b => key b < key a) := by
  have hle : (descending key rows).Pairwise (fun a b => key b ≤ key a) := by
    have htrans : ∀ a b c : V, decide (key b ≤ key a) = true → decide (key c ≤ key b) = true →
        decide (key c ≤ key a) = true := by
      intro a b c hab hbc
      rw [decide_eq_true_eq] at hab hbc ⊢
      exact hbc.trans hab
    have htotal : ∀ a b : V, (decide (key b ≤ key a) || decide (key a ≤ key b)) = true := by
      intro a b
      rw [Bool.or_eq_true, decide_eq_true_eq, decide_eq_true_eq]
      exact le_total _ _
    have hsort := List.pairwise_mergeSort htrans htotal rows
    rw [descending]
    simpa only [decide_eq_true_eq] using hsort
  have hnd : ((descending key rows).map key).Nodup :=
    ((List.mergeSort_perm rows _).map key).nodup_iff.2 h
  have hne : (descending key rows).Pairwise (fun a b => key a ≠ key b) := List.pairwise_map.1 hnd
  exact (hle.and hne).imp (fun hab => lt_of_le_of_ne hab.1 (Ne.symm hab.2))

/-- Sorting commutes with selection. -/
theorem descending_filter {rows : List V} (h : (rows.map key).Nodup) (p : V → Bool) :
    descending key (rows.filter p) = (descending key rows).filter p := by
  have hsub : ((rows.filter p).map key).Nodup := h.sublist (List.filter_sublist.map key)
  have hperm : (descending key (rows.filter p)).Perm ((descending key rows).filter p) :=
    (List.mergeSort_perm _ _).trans ((List.mergeSort_perm rows _).filter p).symm
  refine hperm.eq_of_pairwise (fun a b _ _ hab hba => ?_) (pairwise_descending key hsub)
    ((pairwise_descending key h).filter p)
  exact absurd (hab.trans hba) (lt_irrefl _)

theorem below_iff {bound : Option K} {v : V} :
    below key bound v = true ↔ ∀ c, bound = some c → key v < c := by
  cases bound with
  | none => simp [below]
  | some c => simp [below]

section page

variable {key} {rows : List V} {bound : Option K} {n : ℕ} {items : List V}

/-- A page that is not the last: what is below the next bound is what it left. -/
theorem page_next {c : K} (h : (rows.map key).Nodup) (hn : 1 ≤ n)
    (hp : page key rows bound n = (items, some c)) :
    ∃ rest, descending key (rows.filter (below key bound)) = items ++ rest ∧ items ≠ [] ∧
      (∀ v ∈ items, c ≤ key v) ∧ ∀ v ∈ rest, key v < c := by
  have hsorted := pairwise_descending key
    (h.sublist ((List.filter_sublist (p := below key bound)).map key))
  unfold page at hp
  generalize descending key (rows.filter (below key bound)) = S at hp hsorted ⊢
  simp only at hp
  split at hp
  · rename_i hlt
    rw [List.length_take] at hlt
    have hlen : n - 1 < S.length := by omega
    rw [List.take_take, List.getElem?_take_of_lt (by omega), List.getElem?_eq_getElem hlen,
      Prod.mk.injEq, Option.map_some, Option.some.injEq] at hp
    obtain ⟨rfl, rfl⟩ := hp
    -- the row the bound is taken from, between those before and those after it
    have hsplit : S = S.take (n - 1) ++ S[n - 1] :: S.drop n := by
      conv_lhs => rw [← List.take_append_drop (n - 1) S, List.drop_eq_getElem_cons hlen]
      rw [Nat.sub_add_cancel hn]
    have htake : S.take (min n (n + 1)) = S.take (n - 1) ++ [S[n - 1]] := by
      rw [List.take_append_getElem hlen, Nat.sub_add_cancel hn, Nat.min_eq_left (Nat.le_succ n)]
    rw [hsplit, List.pairwise_append, List.pairwise_cons] at hsorted
    obtain ⟨-, ⟨hafter, -⟩, hbefore⟩ := hsorted
    refine ⟨S.drop n, ?_, ?_, ?_, hafter⟩
    · rw [Nat.min_eq_left (Nat.le_succ n), List.take_append_drop]
    · rw [htake]
      exact List.append_ne_nil_of_right_ne_nil _ (List.cons_ne_nil _ _)
    · intro v hv
      rw [htake, List.mem_append, List.mem_singleton] at hv
      rcases hv with hv | rfl
      · exact (hbefore v hv _ List.mem_cons_self).le
      · exact le_refl _
  · simp at hp

/-- The last page holds everything below the bound. -/
theorem page_last (hn : 1 ≤ n) (hp : page key rows bound n = (items, none)) :
    items = descending key (rows.filter (below key bound)) := by
  unfold page at hp
  generalize descending key (rows.filter (below key bound)) = S at hp ⊢
  simp only at hp
  split at hp
  · rename_i hlt
    rw [List.length_take] at hlt
    rw [Prod.mk.injEq, Option.map_eq_none_iff, List.getElem?_eq_none_iff, List.length_take] at hp
    omega
  · rename_i hlt
    rw [List.length_take] at hlt
    rw [Prod.mk.injEq] at hp
    rw [← hp.1, List.take_of_length_le (by omega)]

/-- The rows of a page are rows below the bound, in order. -/
theorem page_items {b : Option K} (h : (rows.map key).Nodup) (hn : 1 ≤ n) :
    (page key rows b n).1.Pairwise (fun a b => key b < key a) ∧
      ∀ v ∈ (page key rows b n).1, v ∈ rows ∧ below key b v = true := by
  have hsorted := pairwise_descending key
    (h.sublist ((List.filter_sublist (p := below key b)).map key))
  have hpre : (page key rows b n).1 <+: descending key (rows.filter (below key b)) := by
    rcases hp : page key rows b n with ⟨items, next⟩
    cases next with
    | none =>
        exact ⟨[], by rw [List.append_nil]; exact page_last hn hp⟩
    | some c =>
        obtain ⟨rest, hs, -⟩ := page_next h hn hp
        exact ⟨rest, hs.symm⟩
  refine ⟨hsorted.sublist hpre.sublist, fun v hv => ?_⟩
  have := hpre.subset hv
  rwa [mem_descending, List.mem_filter] at this

end page

/-! ## A walk over a changing collection -/

/-- The pages of the first fetches and the bound of the next one, if the walk has not
ended.  Fetch `k` asks for `size k` of `rows k`. -/
def walk (rows : ℕ → List V) (size : ℕ → ℕ) : ℕ → List (List V) × Option (Option K)
  | 0 => ([], some none)
  | k + 1 =>
      match walk rows size k with
      | (pages, none) => (pages, none)
      | (pages, some bound) =>
          (pages ++ [(page key (rows k) bound (size k)).1],
            (page key (rows k) bound (size k)).2.map some)

section walk

variable {key} {rows : ℕ → List V} {size : ℕ → ℕ}
  (hnd : ∀ k, ((rows k).map key).Nodup) (hsize : ∀ k, 1 ≤ size k)

include hnd hsize

/-- What is returned strictly decreases, and stays above the bound of the next fetch. -/
theorem walk_sorted (n : ℕ) :
    (walk key rows size n).1.flatten.Pairwise (fun a b => key b < key a) ∧
      ∀ bound, (walk key rows size n).2 = some bound →
        ∀ v ∈ (walk key rows size n).1.flatten, ∃ c, bound = some c ∧ c ≤ key v := by
  induction n with
  | zero => exact ⟨List.Pairwise.nil, fun _ _ v hv => by cases hv⟩
  | succ n ih =>
      rcases hw : walk key rows size n with ⟨pages, next⟩
      rw [hw] at ih
      cases next with
      | none =>
          simp only [walk, hw]
          exact ⟨ih.1, fun _ h => by cases h⟩
      | some bound =>
          obtain ⟨hsorted, habove⟩ := ih
          obtain ⟨hpage, hitems⟩ := page_items (b := bound) (hnd n) (hsize n)
          simp only [walk, hw, List.flatten_append, List.flatten_singleton]
          constructor
          · rw [List.pairwise_append]
            refine ⟨hsorted, hpage, fun v hv u hu => ?_⟩
            obtain ⟨c, hc, hle⟩ := habove bound rfl v hv
            exact ((below_iff key).1 (hitems u hu).2 c hc).trans_le hle
          · intro bound' hnext v hv
            rw [Option.map_eq_some_iff] at hnext
            obtain ⟨c, hc, rfl⟩ := hnext
            refine ⟨c, rfl, ?_⟩
            obtain ⟨rest, hrest, hne, hge, hlt⟩ :=
              page_next (hnd n) (hsize n)
                (Prod.ext rfl hc : page key (rows n) bound (size n) = (_, some c))
            rcases List.mem_append.1 hv with hv | hv
            · -- an earlier row is above the old bound, which is above this page
              obtain ⟨u, hu⟩ := List.exists_mem_of_ne_nil _ hne
              obtain ⟨c', hc', hle⟩ := habove bound rfl v hv
              have hlt' := (below_iff key).1 (hitems u hu).2 c' hc'
              exact (hge u hu).trans (hlt'.le.trans hle)
            · exact hge v hv

/-- **The keys strictly decrease over the whole walk.** -/
theorem pairwise_walk (n : ℕ) :
    (walk key rows size n).1.flatten.Pairwise (fun a b => key b < key a) :=
  (walk_sorted hnd hsize n).1

/-- Every returned row was in the collection at its fetch. -/
theorem mem_walk {n : ℕ} {v : V} (hv : v ∈ (walk key rows size n).1.flatten) :
    ∃ k < n, v ∈ rows k := by
  induction n with
  | zero => cases hv
  | succ n ih =>
      rcases hw : walk key rows size n with ⟨pages, next⟩
      rw [hw] at ih
      have hold : v ∈ pages.flatten → ∃ k < n + 1, v ∈ rows k := by
        intro h
        obtain ⟨k, hk, hmem⟩ := ih h
        exact ⟨k, by omega, hmem⟩
      cases next with
      | none =>
          simp only [walk, hw] at hv
          exact hold hv
      | some bound =>
          simp only [walk, hw, List.flatten_append, List.flatten_singleton,
            List.mem_append] at hv
          rcases hv with hv | hv
          · exact hold hv
          · exact ⟨n, by omega, ((page_items (hnd n) (hsize n)).2 v hv).1⟩

/-- A key that is present at every fetch has been returned or is still to come. -/
theorem mem_keys_or_below {x : K} {n : ℕ} (hx : ∀ k < n, ∃ v ∈ rows k, key v = x) :
    x ∈ (walk key rows size n).1.flatten.map key ∨
      ∃ bound, (walk key rows size n).2 = some bound ∧ ∀ c, bound = some c → x < c := by
  induction n with
  | zero => exact Or.inr ⟨none, rfl, fun c h => by cases h⟩
  | succ n ih =>
      rcases hw : walk key rows size n with ⟨pages, next⟩
      have ih := ih (fun k hk => hx k (by omega))
      rw [hw] at ih
      cases next with
      | none =>
          simp only [walk, hw]
          rcases ih with h | ⟨bound, h, -⟩
          · exact Or.inl h
          · cases h
      | some bound =>
          simp only [walk, hw, List.flatten_append, List.flatten_singleton, List.map_append,
            List.mem_append]
          rcases ih with h | ⟨bound', hb, hlt⟩
          · exact Or.inl (Or.inl h)
          · cases hb
            -- the row with key `x` is below the bound, so it is on this page or below the next
            obtain ⟨v, hv, rfl⟩ := hx n (by omega)
            have hmem : v ∈ descending key ((rows n).filter (below key bound)) := by
              rw [mem_descending, List.mem_filter]
              exact ⟨hv, (below_iff key).2 hlt⟩
            rcases hp : page key (rows n) bound (size n) with ⟨items, next⟩
            cases next with
            | none =>
                rw [← page_last (hsize n) hp] at hmem
                exact Or.inl (Or.inr (List.mem_map_of_mem hmem))
            | some c =>
                obtain ⟨rest, hrest, -, -, hlt'⟩ := page_next (hnd n) (hsize n) hp
                rw [hrest, List.mem_append] at hmem
                rcases hmem with hmem | hmem
                · exact Or.inl (Or.inr (List.mem_map_of_mem hmem))
                · refine Or.inr ⟨some c, rfl, fun c' hc' => ?_⟩
                  cases hc'
                  exact hlt' v hmem

/-- **A key that is present at every fetch has been returned when the walk ends.** -/
theorem mem_keys_of_walk {x : K} {n : ℕ} (hend : (walk key rows size n).2 = none)
    (hx : ∀ k < n, ∃ v ∈ rows k, key v = x) :
    x ∈ (walk key rows size n).1.flatten.map key := by
  rcases mem_keys_or_below hnd hsize hx with h | ⟨bound, h, -⟩
  · exact h
  · rw [hend] at h
    cases h

end walk

/-! ## A walk over an unchanged collection -/

section const

variable {key} {R : List V} {size : ℕ → ℕ} (hnd : (R.map key).Nodup) (hsize : ∀ k, 1 ≤ size k)

include hnd hsize

/-- What has been returned and what is below the bound is the whole, and each fetch
that leaves something has returned something. -/
theorem walk_const_step (n : ℕ) :
    match walk key (fun _ => R) size n with
    | (pages, none) => pages.flatten = descending key R
    | (pages, some bound) =>
        pages.flatten ++ descending key (R.filter (below key bound)) = descending key R ∧
          (R.filter (below key bound)).length + n ≤ R.length := by
  induction n with
  | zero =>
      have hall : R.filter (below key none) = R := List.filter_eq_self.2 (fun _ _ => rfl)
      simp only [walk, hall, List.flatten_nil, List.nil_append, true_and]
      omega
  | succ n ih =>
      rcases hw : walk key (fun _ => R) size n with ⟨pages, next⟩
      rw [hw] at ih
      cases next with
      | none =>
          simp only [walk, hw]
          exact ih
      | some bound =>
          simp only at ih
          simp only [walk, hw]
          rcases hp : page key R bound (size n) with ⟨items, next⟩
          cases next with
          | none =>
              simp only [Option.map_none, List.flatten_append, List.flatten_singleton]
              rw [page_last (hsize n) hp]
              exact ih.1
          | some c =>
              simp only [Option.map_some, List.flatten_append, List.flatten_singleton]
              obtain ⟨rest, hrest, hne, hge, hlt⟩ := page_next hnd (hsize n) hp
              -- the rows below the next bound are the ones this page left
              have hnext : descending key (R.filter (below key (some c))) = rest := by
                have hsub : R.filter (below key (some c)) =
                    (R.filter (below key bound)).filter (below key (some c)) := by
                  rw [List.filter_filter]
                  apply List.filter_congr
                  intro v hv
                  by_cases hc : below key (some c) v = true
                  · have hb : below key bound v = true := by
                      rw [below_iff]
                      intro c' hc'
                      obtain ⟨u, hu⟩ := List.exists_mem_of_ne_nil _ hne
                      have hmem : u ∈ descending key (R.filter (below key bound)) := by
                        rw [hrest]
                        exact List.mem_append_left _ hu
                      rw [mem_descending, List.mem_filter, below_iff] at hmem
                      rw [below_iff] at hc
                      exact (hc c rfl).trans_le ((hge u hu).trans (hmem.2 c' hc').le)
                    rw [hc, hb, Bool.and_true]
                  · rw [Bool.not_eq_true] at hc
                    rw [hc, Bool.false_and]
                rw [hsub, descending_filter key (hnd.sublist (List.filter_sublist.map key)), hrest,
                  List.filter_append, List.filter_eq_nil_iff.2, List.nil_append,
                  List.filter_eq_self.2]
                · intro v hv
                  simpa [below] using hlt v hv
                · intro v hv
                  simpa [below] using hge v hv
              refine ⟨?_, ?_⟩
              · rw [hnext, List.append_assoc, ← hrest]
                exact ih.1
              · have h₁ := congrArg List.length hrest
                have h₂ := congrArg List.length hnext
                have h₃ : items.length ≠ 0 := by
                  rw [ne_eq, List.length_eq_zero_iff]
                  exact hne
                rw [length_descending, List.length_append] at h₁
                rw [length_descending] at h₂
                have h₄ := ih.2
                omega

/-- **Over an unchanged collection the walk ends and has returned it in order.** -/
theorem walk_const :
    ∃ n, (walk key (fun _ => R) size n).2 = none ∧
      (walk key (fun _ => R) size n).1.flatten = descending key R := by
  have h := walk_const_step hnd hsize (R.length + 1)
  rcases hw : walk key (fun _ => R) size (R.length + 1) with ⟨pages, next⟩
  rw [hw] at h
  cases next with
  | none => exact ⟨R.length + 1, by rw [hw], by rw [hw]; exact h⟩
  | some bound =>
      simp only at h
      omega

end const

end Keyset
