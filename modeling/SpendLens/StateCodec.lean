/-
# The state codec

What `_verify_state` accepts is exactly what the format says: four fields, a signature of
the first three, an issue time within ten minutes of the clock, and a user id.  What
`_sign_state` writes within that window is read back as its user, and an envelope names
its user, nonce and time.
-/
import SpendLens.Clock
import SpendLens.Numerals
import SpendLens.GmailCallback

namespace SpendLens

/-! ## Envelopes -/

/-- The characters of an envelope are its four fields with dots between them. -/
theorem toList_signState (env : Env) (userId : UUID) (nonce : String) (issuedAt : ℤ)
    (secret : String) :
    (signState env userId nonce issuedAt secret).toList =
      ['.'].intercalate [uuidChars userId, nonce.toList, (toString issuedAt).toList,
        (env.hmacSha256 secret
          (statePayload (uuidStr userId) nonce (toString issuedAt))).toList] := by
  simp [signState, statePayload, uuidStr, List.intercalate, List.intersperse]

theorem dot_not_mem_uuidChars (userId : UUID) : '.' ∉ uuidChars userId := by
  intro hmem
  have hhex : '.' ∉ hexAlphabet := by decide
  rcases mem_uuidChars hmem with hc | hc
  · exact hhex hc
  · exact absurd hc (by decide)

theorem dot_not_mem_toString (t : ℤ) : '.' ∉ (toString t).toList := by
  intro hmem
  rcases mem_toString_int hmem with hc | hc
  · exact absurd hc (by decide)
  · exact absurd hc (by decide)

theorem dot_not_mem_hmacSha256 (env : Env) (secret payload : String) :
    '.' ∉ (env.hmacSha256 secret payload).toList := by
  intro hmem
  rcases env.hmacSha256_hex secret payload _ hmem with hc | ⟨hc, -⟩
  · exact absurd hc (by decide)
  · exact absurd hc (by decide)

/-- An envelope with a nonce without dots has four fields. -/
theorem splitFields_signState (env : Env) (userId : UUID) {nonce : String}
    (hnonce : '.' ∉ nonce.toList) (issuedAt : ℤ) (secret : String) :
    splitFields (signState env userId nonce issuedAt secret) =
      [uuidStr userId, nonce, toString issuedAt,
        env.hmacSha256 secret (statePayload (uuidStr userId) nonce (toString issuedAt))] := by
  have hfields : ∀ l ∈ [uuidChars userId, nonce.toList, (toString issuedAt).toList,
      (env.hmacSha256 secret
        (statePayload (uuidStr userId) nonce (toString issuedAt))).toList], '.' ∉ l := by
    simp only [List.mem_cons, List.not_mem_nil, or_false]
    rintro l (rfl | rfl | rfl | rfl)
    · exact dot_not_mem_uuidChars userId
    · exact hnonce
    · exact dot_not_mem_toString issuedAt
    · exact dot_not_mem_hmacSha256 _ _ _
  rw [splitFields, toList_signState, List.splitOn_intercalate _ hfields (by simp)]
  simp [uuidStr]

/-! ## Verification -/

/-- What a state must be for the clock to accept it as the user's. -/
def StateOf (env : Env) (secret : String) (now : ℚ) (state : String) (userId : UUID) : Prop :=
  ∃ userIdRaw nonce issuedAtRaw signature issuedAt,
    splitFields state = [userIdRaw, nonce, issuedAtRaw, signature] ∧
    signature = env.hmacSha256 secret (statePayload userIdRaw nonce issuedAtRaw) ∧
    intBaseTen env.unicode issuedAtRaw.toList = some issuedAt ∧ |now - issuedAt| ≤ 600 ∧
    parseUUID env.unicode userIdRaw = some userId

/-- The two comparisons of `_verify_state` at a time that ticks. -/
theorem inWindow_iff {t : ℚ} (ht : Ticks t) (n : ℤ) :
    (¬ stateTtlSeconds < floatSub t (Rounding.roundSig 2 53 n) ∧
      ¬ stateTtlSeconds < floatSub (Rounding.roundSig 2 53 n) t) ↔ |t - n| ≤ 600 := by
  have httl : stateTtlSeconds = ((600 : ℤ) : ℚ) := by norm_num [stateTtlSeconds]
  rw [httl, ht.lt_floatSub_iff (by decide) (by decide), ht.lt_floatSub_iff' (by decide) (by decide),
    not_lt, not_lt, abs_le]
  push_cast
  constructor
  · rintro ⟨hpast, hfuture⟩
    exact ⟨by linarith, hpast⟩
  · rintro ⟨hfuture, hpast⟩
    exact ⟨hpast, by linarith⟩

theorem stateOf_of_verifyState {env : Env} {secret state : String} {t : ℚ} (ht : Ticks t)
    {userId : UUID} (h : verifyState env secret t state = .ok userId) :
    StateOf env secret t state userId := by
  unfold verifyState at h
  split at h
  · rename_i userIdRaw nonce issuedAtRaw signature hsplit
    simp only at h
    split at h
    · cases h
    · cases h
    · rename_i hcompare
      split at h
      · cases h
      · rename_i issuedAt hint
        split at h
        · cases h
        · rename_i issued hfloat
          split at h
          · cases h
          · rename_i hpast
            split at h
            · cases h
            · rename_i hfuture
              split at h
              · cases h
              · rename_i userId' hparse
                cases h
                -- the signature is the expected one
                have hsignature : signature =
                    env.hmacSha256 secret (statePayload userIdRaw nonce issuedAtRaw) := by
                  rw [compareDigest] at hcompare
                  split at hcompare
                  · exact (of_decide_eq_true (Except.ok.inj hcompare)).symm
                  · cases hcompare
                have hissued : issued = Rounding.roundSig 2 53 issuedAt := by
                  rw [floatOfInt] at hfloat
                  split at hfloat
                  · exact (Except.ok.inj hfloat).symm
                  · cases hfloat
                subst hissued
                exact ⟨userIdRaw, nonce, issuedAtRaw, signature, issuedAt, hsplit, hsignature, hint,
                  (inWindow_iff ht issuedAt).1 ⟨hpast, hfuture⟩, hparse⟩
  · cases h

theorem verifyState_of_stateOf {env : Env} {secret state : String} {t : ℚ} (ht : Ticks t)
    {userId : UUID} (h : StateOf env secret t state userId) :
    verifyState env secret t state = .ok userId := by
  obtain ⟨userIdRaw, nonce, issuedAtRaw, signature, issuedAt, hsplit, hsignature, hint, hnear,
    hparse⟩ := h
  have hcompare : compareDigest (env.hmacSha256 secret (statePayload userIdRaw nonce issuedAtRaw))
      signature = .ok true := by
    rw [compareDigest, hsignature, isAscii_hmacSha256, Bool.and_self, if_pos rfl,
      decide_eq_true rfl]
  have hlimit : issuedAt.natAbs < floatLimit :=
    ht.natAbs_lt_floatLimit (w := 600) (by decide) (by exact_mod_cast hnear)
  have hfloat : floatOfInt issuedAt = .ok (Rounding.roundSig 2 53 issuedAt) := by
    rw [floatOfInt, if_pos hlimit]
  obtain ⟨hpast, hfuture⟩ := (inWindow_iff ht issuedAt).2 hnear
  simp only [verifyState, hsplit, hcompare, hint, hfloat, if_neg hpast, if_neg hfuture, hparse]

/-- A written issue time within the window is short enough to be read. -/
theorem length_repr_of_near {t : ℚ} (ht : Ticks t) {n : ℤ} (h : |t - n| ≤ 600) :
    n.natAbs.repr.length ≤ 4300 := by
  have hbound := abs_le.1 ht.bound
  have hnear := abs_le.1 h
  have habs : |(n : ℚ)| ≤ 10 ^ 20 := abs_le.2 ⟨by linarith [hnear.2], by linarith [hnear.1]⟩
  have hint : |n| ≤ 10 ^ 20 := by exact_mod_cast habs
  have hnat : n.natAbs < 10 ^ 21 := by
    have := abs_le.1 hint
    omega
  exact ((Nat.length_repr_le_iff (by decide)).2 hnat).trans (by decide)

theorem verifyState_signState {t : ℚ} (ht : Ticks t) (env : Env) (secret : String) (userId : UUID)
    {nonce : String} (hnonce : '.' ∉ nonce.toList) {issuedAt : ℤ} (h : |t - issuedAt| ≤ 600) :
    verifyState env secret t (signState env userId nonce issuedAt secret) = .ok userId :=
  verifyState_of_stateOf ht ⟨_, _, _, _, _, splitFields_signState env userId hnonce issuedAt secret,
    rfl, intBaseTen_toString env.unicode (length_repr_of_near ht h), h,
    parseUUID_uuidStr env.unicode userId⟩

/-! ## Envelopes name what they are for -/

/-- **An envelope names its user, nonce and time**: the first and the last two fields have no
dot, whatever the nonce has. -/
theorem eq_of_signState_eq {env : Env} {secret secret' nonce nonce' : String}
    {userId userId' : UUID} {issuedAt issuedAt' : ℤ}
    (h : signState env userId nonce issuedAt secret =
      signState env userId' nonce' issuedAt' secret') :
    userId = userId' ∧ nonce = nonce' ∧ issuedAt = issuedAt' := by
  have hchars := congrArg String.toList h
  simp only [toList_signState, List.intercalate, List.intersperse, List.flatten_cons,
    List.flatten_nil, List.append_nil, List.singleton_append] at hchars
  obtain ⟨huser, hrest⟩ := cut_at_first (dot_not_mem_uuidChars _) (dot_not_mem_uuidChars _) hchars
  -- the rest is read from its end
  have hback := congrArg List.reverse hrest
  simp only [List.reverse_append, List.reverse_cons, List.append_assoc, List.singleton_append]
    at hback
  obtain ⟨-, hback⟩ := cut_at_first
    (fun hmem => dot_not_mem_hmacSha256 _ _ _ (List.mem_reverse.1 hmem))
    (fun hmem => dot_not_mem_hmacSha256 _ _ _ (List.mem_reverse.1 hmem)) hback
  obtain ⟨htime, hnonce⟩ := cut_at_first
    (fun hmem => dot_not_mem_toString _ (List.mem_reverse.1 hmem))
    (fun hmem => dot_not_mem_toString _ (List.mem_reverse.1 hmem)) hback
  refine ⟨?_, String.toList_inj.1 (List.reverse_injective hnonce),
    toString_int_injective (String.toList_inj.1 (List.reverse_injective htime))⟩
  have hparse := parseUUID_uuidStr env.unicode userId
  rw [uuidStr, huser, ← uuidStr, parseUUID_uuidStr, Option.some.injEq] at hparse
  exact hparse.symm

/-! ## The codec -/

end SpendLens
