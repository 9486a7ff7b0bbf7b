/-
# The parts of a message

A message is a tree of parts, and its leaves may be attachments.  A part is named by the path
of indices that leads to it, and document order is the lexicographic order of the paths.  The
walk finds the parts that have no list of child parts, in that order; a part whose list of
child parts is empty has no children and is no leaf to the walk.
-/
import SpendLens.GmailSync
import SpendLens.Lib.Fallible
import Mathlib.Data.List.Lex
import Mathlib.Data.List.Nodup

namespace SpendLens

namespace Parts

open Fallible

/-! ## Paths -/

/-- The child parts of a part, if its `parts` is a list. -/
def children (part : Json) : Option (List Json) :=
  match part.get? "parts" with
  | some (.arr parts) => some parts
  | _ => none

/-- The part a path of indices leads to. -/
def partAt (payload : Json) : List ℕ → Option Json
  | [] => some payload
  | i :: path =>
      match children payload with
      | some parts => parts[i]?.bind (fun part => partAt part path)
      | none => none

/-- A part without child parts: no `parts`, a value that is no list, or an empty list. -/
def Childless (part : Json) : Prop := children part = none ∨ children part = some []

/-- The payload of a message, and what stands for one that is missing. -/
def payloadOf (message : Json) : Json := (message.get? "payload").getD .null

/-- **The attachments of a payload**: the descriptors of exactly the childless parts that have
one, in document order, once each. -/
def Complete (payload : Json) (found : List Descriptor) : Prop :=
  ∃ paths : List (List ℕ),
    paths.Pairwise (· < ·) ∧
    (∀ path, path ∈ paths ↔
      ∃ part, partAt payload path = some part ∧ Childless part ∧ (descriptorOf part).isSome) ∧
    found = paths.filterMap (fun path => (partAt payload path).bind descriptorOf)

/-- The walk finds the attachments of a message. -/
def FindsAttachments (env : Env) (message : Json) : Prop :=
  ∃ found, extractAttachmentDescriptors env message = .ok found ∧
    Complete (payloadOf message) found

/-- The payload nests no deeper than this. -/
def Fits (depth : ℕ) (payload : Json) : Prop :=
  ∀ path, (partAt payload path).isSome → path.length < depth

/-- No part with an empty list of child parts is an attachment. -/
def NoneHidden (payload : Json) : Prop :=
  ∀ path part, partAt payload path = some part → children part = some [] → descriptorOf part = none

@[simp] theorem partAt_nil (payload : Json) : partAt payload [] = some payload := rfl

theorem partAt_cons {payload : Json} {parts : List Json} (h : children payload = some parts)
    (i : ℕ) (path : List ℕ) :
    partAt payload (i :: path) = parts[i]?.bind (fun part => partAt part path) := by
  rw [partAt, h]

theorem partAt_cons_none {payload : Json} (h : children payload = none) (i : ℕ) (path : List ℕ) :
    partAt payload (i :: path) = none := by
  rw [partAt, h]

/-- Only an object is described. -/
theorem isObj_of_descriptorOf {part : Json} (h : (descriptorOf part).isSome) :
    ∃ kvs, part = .obj kvs := by
  cases part with
  | obj kvs => exact ⟨kvs, rfl⟩
  | _ => cases h

/-! ## The walk -/

/-- The paths of the leaves the walk stops at, in order. -/
def leafPaths : ℕ → Json → List (List ℕ)
  | 0, _ => []
  | depth + 1, .obj kvs =>
      match children (.obj kvs) with
      | some parts => parts.zipIdx.flatMap (fun x => (leafPaths depth x.1).map (x.2 :: ·))
      | none => [[]]
  | _ + 1, _ => []

/-- One turn of the walk. -/
theorem walkParts_obj (depth : ℕ) (kvs : List (String × Json)) :
    walkParts (depth + 1) (.obj kvs) =
      match children (.obj kvs) with
      | some parts => (parts.mapM (walkParts depth)).map List.flatten
      | none => .ok [.obj kvs] := by
  rw [walkParts, children]
  split <;> simp_all

/-! ## How deep a payload nests -/

theorem not_fits_zero (payload : Json) : ¬ Fits 0 payload := fun h => absurd (h [] rfl) (by simp)

/-- A payload without child parts fits. -/
theorem fits_of_children_none {payload : Json} (h : children payload = none) (depth : ℕ) :
    Fits (depth + 1) payload := by
  intro path hpath
  cases path with
  | nil => exact Nat.succ_pos depth
  | cons i path =>
      rw [partAt_cons_none h] at hpath
      cases hpath

/-- One with child parts fits if they do, one turn later. -/
theorem fits_iff_of_children {payload : Json} {parts : List Json} (h : children payload = some parts)
    (depth : ℕ) : Fits (depth + 1) payload ↔ ∀ part ∈ parts, Fits depth part := by
  constructor
  · intro hfits part hpart path hpath
    obtain ⟨i, hi⟩ := List.mem_iff_getElem?.1 hpart
    have hlonger := hfits (i :: path) (by rw [partAt_cons h, hi]; exact hpath)
    rw [List.length_cons] at hlonger
    omega
  · intro hparts path hpath
    cases path with
    | nil => exact Nat.succ_pos depth
    | cons i path =>
        rw [partAt_cons h] at hpath
        cases hi : parts[i]? with
        | none =>
            rw [hi] at hpath
            cases hpath
        | some part =>
            rw [hi] at hpath
            have hshort := hparts part (List.mem_of_getElem? hi) path hpath
            rw [List.length_cons]
            omega

/-- The paths of the leaves are in order. -/
theorem pairwise_leafPaths (depth : ℕ) (payload : Json) :
    (leafPaths depth payload).Pairwise (· < ·) := by
  induction depth generalizing payload with
  | zero => exact List.Pairwise.nil
  | succ depth ih =>
      cases payload with
      | obj kvs =>
          rw [leafPaths]
          cases children (.obj kvs) with
          | none => exact List.pairwise_singleton _ _
          | some parts =>
              refine List.pairwise_flatMap.2 ⟨fun x _ => ?_, ?_⟩
              · refine List.pairwise_map.2 ((ih x.1).imp fun hlt => ?_)
                exact List.cons_lt_cons_self.2 hlt
              · have hidx : parts.zipIdx.Pairwise (fun x y => x.2 < y.2) := by
                  rw [← List.pairwise_map (f := Prod.snd) (R := (· < ·)), List.zipIdx_map_snd]
                  exact List.pairwise_lt_range'
                refine hidx.imp fun hlt p hp q hq => ?_
                obtain ⟨p', -, rfl⟩ := List.mem_map.1 hp
                obtain ⟨q', -, rfl⟩ := List.mem_map.1 hq
                exact List.Lex.rel hlt
      | _ => exact List.Pairwise.nil

/-- They lead to the objects that have no list of child parts. -/
theorem mem_leafPaths {depth : ℕ} {payload : Json} (hfits : Fits depth payload)
    {path : List ℕ} :
    path ∈ leafPaths depth payload ↔
      ∃ kvs, partAt payload path = some (.obj kvs) ∧ children (.obj kvs) = none := by
  induction depth generalizing payload path with
  | zero => exact absurd hfits (not_fits_zero payload)
  | succ depth ih =>
      cases payload with
      | obj kvs =>
        rw [leafPaths]
        cases hchildren : children (.obj kvs) with
        | none =>
            rw [List.mem_singleton]
            constructor
            · rintro rfl
              exact ⟨kvs, rfl, hchildren⟩
            · rintro ⟨kvs', hpart, -⟩
              cases path with
              | nil => rfl
              | cons i path =>
                  rw [partAt_cons_none hchildren] at hpart
                  cases hpart
        | some parts =>
            have hparts := (fits_iff_of_children hchildren depth).1 hfits
            simp only [List.mem_flatMap, List.mem_map]
            constructor
            · rintro ⟨⟨part, i⟩, hx, q, hq, rfl⟩
              have hi : parts[i]? = some part := List.mem_zipIdx_iff_getElem?.1 hx
              obtain ⟨kvs', hpart, hleaf⟩ := (ih (hparts part (List.mem_of_getElem? hi))).1 hq
              exact ⟨kvs', by rw [partAt_cons hchildren, hi]; exact hpart, hleaf⟩
            · rintro ⟨kvs', hpart, hleaf⟩
              cases path with
              | nil =>
                  cases hpart
                  rw [hchildren] at hleaf
                  cases hleaf
              | cons i path =>
                  rw [partAt_cons hchildren] at hpart
                  cases hi : parts[i]? with
                  | none =>
                      rw [hi] at hpart
                      cases hpart
                  | some part =>
                      rw [hi] at hpart
                      have hq := (ih (hparts part (List.mem_of_getElem? hi))).2 ⟨kvs', hpart, hleaf⟩
                      exact ⟨(part, i), List.mem_zipIdx_iff_getElem?.2 hi, path, hq, rfl⟩
      | _ =>
        constructor
        · intro h
          cases h
        · rintro ⟨kvs', hpart, -⟩
          cases path with
          | nil => cases hpart
          | cons i path =>
              rw [partAt_cons_none rfl] at hpart
              cases hpart

/-- The leaves of the child parts, one child after the other. -/
theorem filterMap_partAt {payload : Json} {parts : List Json} (h : children payload = some parts)
    (depth : ℕ) :
    (parts.zipIdx.flatMap (fun x => (leafPaths depth x.1).map (x.2 :: ·))).filterMap
        (partAt payload) =
      (parts.map (fun part => (leafPaths depth part).filterMap (partAt part))).flatten := by
  rw [List.filterMap_flatMap]
  have hturn : ∀ x ∈ parts.zipIdx,
      ((leafPaths depth x.1).map (x.2 :: ·)).filterMap (partAt payload) =
        (leafPaths depth x.1).filterMap (partAt x.1) := by
    intro x hx
    have hi : parts[x.2]? = some x.1 := List.mem_zipIdx_iff_getElem?.1 hx
    rw [List.filterMap_map]
    refine List.filterMap_congr fun path _ => ?_
    rw [Function.comp_apply, partAt_cons h, hi]
    rfl
  rw [List.flatMap_congr hturn, ← List.flatMap_def]
  conv_rhs => rw [← List.zipIdx_map_fst 0 parts, List.flatMap_map]

/-- **A walk ends if the payload fits**, and yields its leaves. -/
theorem walkParts_eq_ok {depth : ℕ} {payload : Json} {leaves : List Json} :
    walkParts depth payload = .ok leaves ↔
      Fits depth payload ∧ leaves = (leafPaths depth payload).filterMap (partAt payload) := by
  induction depth generalizing payload leaves with
  | zero =>
      constructor
      · intro h
        cases h
      · rintro ⟨hfits, -⟩
        exact absurd hfits (not_fits_zero payload)
  | succ depth ih =>
      cases payload with
      | obj kvs =>
          rw [walkParts_obj, leafPaths]
          cases hchildren : children (.obj kvs) with
          | none =>
              constructor
              · intro h
                cases h
                exact ⟨fits_of_children_none hchildren depth, rfl⟩
              · rintro ⟨-, rfl⟩
                rfl
          | some parts =>
              rw [map_eq_ok, fits_iff_of_children hchildren, filterMap_partAt hchildren]
              have hmap : ∀ bs, parts.mapM (walkParts depth) = .ok bs ↔
                  (∀ part ∈ parts, Fits depth part) ∧
                    bs = parts.map (fun part => (leafPaths depth part).filterMap (partAt part)) := by
                intro bs
                rw [mapM_eq_ok_iff (fun part leaves h => (ih.1 h).2)]
                refine and_congr (forall₂_congr fun part _ => ?_) Iff.rfl
                rw [ih]
                exact and_iff_left rfl
              constructor
              · rintro ⟨bs, hbs, rfl⟩
                obtain ⟨hfits, rfl⟩ := (hmap bs).1 hbs
                exact ⟨hfits, rfl⟩
              · rintro ⟨hfits, rfl⟩
                exact ⟨_, (hmap _).2 ⟨hfits, rfl⟩, rfl⟩
      | _ =>
          constructor
          · intro h
            cases h
            exact ⟨fits_of_children_none rfl depth, rfl⟩
          · rintro ⟨-, rfl⟩
            rfl

/-! ## What the walk finds -/

theorem extract_eq (env : Env) (message : Json) :
    extractAttachmentDescriptors env message =
      (walkParts env.jsonDepth (payloadOf message)).map (fun parts => parts.filterMap descriptorOf) := by
  obtain ⟨depth, hdepth⟩ : ∃ depth, env.jsonDepth = depth + 1 :=
    ⟨env.jsonDepth - 1, (Nat.succ_pred_eq_of_pos env.jsonDepth_pos).symm⟩
  rw [extractAttachmentDescriptors, payloadOf, hdepth]
  cases message.get? "payload" with
  | none => rfl
  | some payload => cases payload <;> rfl

/-- The leaves that are attachments. -/
def foundPaths (depth : ℕ) (payload : Json) : List (List ℕ) :=
  (leafPaths depth payload).filter (fun path => ((partAt payload path).bind descriptorOf).isSome)

theorem filterMap_foundPaths (depth : ℕ) (payload : Json) :
    ((leafPaths depth payload).filterMap (partAt payload)).filterMap descriptorOf =
      (foundPaths depth payload).filterMap (fun path => (partAt payload path).bind descriptorOf) := by
  rw [List.filterMap_filterMap, foundPaths, List.filterMap_filter]
  refine List.filterMap_congr fun path _ => ?_
  cases (partAt payload path).bind descriptorOf <;> rfl

/-- Descriptors found at paths that all have one. -/
theorem length_filterMap_bind {payload : Json} {paths : List (List ℕ)}
    (h : ∀ path ∈ paths, ((partAt payload path).bind descriptorOf).isSome) :
    (paths.filterMap (fun path => (partAt payload path).bind descriptorOf)).length =
      paths.length := by
  induction paths with
  | nil => rfl
  | cons path paths ih =>
      obtain ⟨hpath, hpaths⟩ := List.forall_mem_cons.1 h
      obtain ⟨d, hd⟩ := Option.isSome_iff_exists.1 hpath
      rw [List.filterMap_cons, hd, List.length_cons, List.length_cons, ih hpaths]

theorem mem_foundPaths {depth : ℕ} {payload : Json} (hfits : Fits depth payload) {path : List ℕ} :
    path ∈ foundPaths depth payload ↔
      ∃ part, partAt payload path = some part ∧ children part = none ∧ (descriptorOf part).isSome := by
  rw [foundPaths, List.mem_filter, mem_leafPaths hfits]
  constructor
  · rintro ⟨⟨kvs, hpart, hleaf⟩, hsome⟩
    rw [hpart] at hsome
    exact ⟨.obj kvs, hpart, hleaf, hsome⟩
  · rintro ⟨part, hpart, hleaf, hsome⟩
    obtain ⟨kvs, rfl⟩ := isObj_of_descriptorOf hsome
    exact ⟨⟨kvs, hpart, hleaf⟩, by rw [hpart]; exact hsome⟩

/-- What the extraction returns. -/
theorem extract_eq_ok {env : Env} {message : Json} {found : List Descriptor} :
    extractAttachmentDescriptors env message = .ok found ↔
      Fits env.jsonDepth (payloadOf message) ∧
        found = (foundPaths env.jsonDepth (payloadOf message)).filterMap
          (fun path => (partAt (payloadOf message) path).bind descriptorOf) := by
  rw [extract_eq, map_eq_ok]
  constructor
  · rintro ⟨leaves, hleaves, rfl⟩
    obtain ⟨hfits, rfl⟩ := walkParts_eq_ok.1 hleaves
    exact ⟨hfits, filterMap_foundPaths _ _⟩
  · rintro ⟨hfits, rfl⟩
    exact ⟨_, walkParts_eq_ok.2 ⟨hfits, rfl⟩, filterMap_foundPaths _ _⟩

/-- **The attachment walk is complete and ordered** exactly if the payload fits and no part with
an empty list of child parts is an attachment. -/
theorem findsAttachments_iff (env : Env) (message : Json) :
    FindsAttachments env message ↔
      Fits env.jsonDepth (payloadOf message) ∧ NoneHidden (payloadOf message) := by
  constructor
  · rintro ⟨found, hfound, paths, hsorted, hmem, heq⟩
    obtain ⟨hfits, rfl⟩ := extract_eq_ok.1 hfound
    refine ⟨hfits, fun path part hpart hempty => ?_⟩
    by_contra hdescribed
    have hin : path ∈ paths :=
      (hmem path).2 ⟨part, hpart, Or.inr hempty, Option.isSome_iff_ne_none.2 hdescribed⟩
    -- the paths found are among the paths, and as many
    have hsub : foundPaths env.jsonDepth (payloadOf message) ⊆ paths := by
      intro q hq
      obtain ⟨leaf, hleaf, hnone, hsome⟩ := (mem_foundPaths hfits).1 hq
      exact (hmem q).2 ⟨leaf, hleaf, Or.inl hnone, hsome⟩
    have hnodup : (foundPaths env.jsonDepth (payloadOf message)).Nodup :=
      ((pairwise_leafPaths _ _).filter _).imp fun hlt heq => absurd (heq ▸ hlt) (lt_irrefl _)
    have hall : ∀ q ∈ paths, ((partAt (payloadOf message) q).bind descriptorOf).isSome := by
      intro q hq
      obtain ⟨leaf, hleaf, -, hsome⟩ := (hmem q).1 hq
      rw [hleaf]
      exact hsome
    have hlength := congrArg List.length heq
    rw [length_filterMap_bind fun q hq => hall q (hsub hq), length_filterMap_bind hall] at hlength
    have hperm := (List.subperm_of_subset hnodup hsub).perm_of_length_le (le_of_eq hlength.symm)
    obtain ⟨leaf, hleaf, hnone, -⟩ := (mem_foundPaths hfits).1 (hperm.mem_iff.2 hin)
    rw [hpart, Option.some.injEq] at hleaf
    rw [← hleaf, hempty] at hnone
    cases hnone
  · rintro ⟨hfits, hhidden⟩
    refine ⟨_, extract_eq_ok.2 ⟨hfits, rfl⟩, foundPaths env.jsonDepth (payloadOf message),
      (pairwise_leafPaths _ _).filter _, fun path => ?_, rfl⟩
    rw [mem_foundPaths hfits]
    constructor
    · rintro ⟨part, hpart, hnone, hsome⟩
      exact ⟨part, hpart, Or.inl hnone, hsome⟩
    · rintro ⟨part, hpart, hnone | hempty, hsome⟩
      · exact ⟨part, hpart, hnone, hsome⟩
      · rw [hhidden path part hpart hempty] at hsome
        cases hsome

/-- A message whose one part is an image and has an empty list of child parts. -/
def sampleMessage : Json :=
  .obj [("payload", .obj [("mimeType", .str "image/png"), ("filename", .str "receipt.png"),
    ("body", .obj [("attachmentId", .str "a1")]), ("parts", .arr [])])]

/-- The image is not found. -/
theorem not_findsAttachments_of_empty_parts : ¬ FindsAttachments Env.quiet sampleMessage := by
  rintro ⟨found, hfound, paths, -, hmem, heq⟩
  have hnone : extractAttachmentDescriptors Env.quiet sampleMessage = .ok [] := rfl
  rw [hnone] at hfound
  cases hfound
  have hin : [] ∈ paths := (hmem []).2 ⟨_, rfl, Or.inr rfl, by decide⟩
  obtain ⟨front, back, rfl⟩ := List.append_of_mem hin
  have hdescribed : ((partAt (payloadOf sampleMessage) []).bind descriptorOf).isSome = true := by
    decide
  obtain ⟨d, hd⟩ := Option.isSome_iff_exists.1 hdescribed
  rw [List.filterMap_append, List.filterMap_cons, hd] at heq
  exact absurd heq (by simp)

end Parts

end SpendLens
