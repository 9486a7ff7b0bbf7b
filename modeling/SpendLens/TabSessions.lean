/-
# Sessions of a tab

What a run of a tab keeps apart: the data of one session from the token of another, and
the answers to one token from the store that holds another.  Both fail when a login
comes while something of the session before is still there or still on its way.
-/
import SpendLens.BrowserTab
import Mathlib.Data.List.Induction

namespace SpendLens

open EventRuns

/-! ## Single steps -/

section steps

variable {s : Tab}

@[simp] theorem token_setStage (i : ℕ) (stage : CallStage) : (setStage i stage s).token = s.token := rfl

@[simp] theorem queries_setStage (i : ℕ) (stage : CallStage) :
    (setStage i stage s).queries = s.queries := rfl

@[simp] theorem nextQuery_setStage (i : ℕ) (stage : CallStage) :
    (setStage i stage s).nextQuery = s.nextQuery := rfl

@[simp] theorem calls_finishCall (c : Call) (status : ℕ) :
    (finishCall c status s).calls = s.calls := by
  unfold finishCall
  split
  · rfl
  · split <;> rfl

@[simp] theorem nextQuery_finishCall (c : Call) (status : ℕ) :
    (finishCall c status s).nextQuery = s.nextQuery := by
  unfold finishCall
  split
  · rfl
  · split <;> rfl

@[simp] theorem token_openQuery (key : String) : (openQuery key s).1.token = s.token := by
  unfold openQuery
  split <;> rfl

@[simp] theorem calls_openQuery (key : String) : (openQuery key s).1.calls = s.calls := by
  unfold openQuery
  split <;> rfl

/-- A call whose stage has been set, or another call. -/
theorem calls_setStage {i j : ℕ} {stage : CallStage} {c : Call}
    (h : (setStage i stage s).calls[j]? = some c) :
    (i = j ∧ ∃ c₀, s.calls[j]? = some c₀ ∧ c = { c₀ with stage := stage }) ∨
      i ≠ j ∧ s.calls[j]? = some c := by
  rw [setStage, List.getElem?_modify] at h
  by_cases hij : i = j
  · refine Or.inl ⟨hij, ?_⟩
    simp only [if_pos hij] at h
    cases hc : s.calls[j]? with
    | none =>
        rw [hc] at h
        cases h
    | some c₀ =>
        rw [hc] at h
        cases h
        exact ⟨c₀, rfl, rfl⟩
  · refine Or.inr ⟨hij, ?_⟩
    simp only [if_neg hij, id_map'] at h
    exact h

/-- What a step does to a call: it is one of the calls before, perhaps in a later stage, or
the call of the request. -/
theorem calls_step {e : TabEvent} {j : ℕ} {c : Call} (h : (s.step e).calls[j]? = some c) :
    (∃ c₀, s.calls[j]? = some c₀ ∧ c.token = c₀.token ∧ c.bearer = c₀.bearer ∧
        c.query = c₀.query ∧ (c.stage ≠ .ended → c₀.stage ≠ .ended)) ∨
      ∃ authorization key, e = .request authorization key ∧ j = s.calls.length ∧
        c.token = s.token ∧ c.bearer = bearerOf s.token authorization ∧
        (∀ id, c.query = some id → ∃ k, key = some k ∧ id = (openQuery k s).2) := by
  have hself : s.calls[j]? = some c →
      ∃ c₀, s.calls[j]? = some c₀ ∧ c.token = c₀.token ∧ c.bearer = c₀.bearer ∧
        c.query = c₀.query ∧ (c.stage ≠ .ended → c₀.stage ≠ .ended) :=
    fun h => ⟨c, h, rfl, rfl, rfl, id⟩
  have hset : ∀ {i : ℕ} {stage : CallStage},
      (stage ≠ .ended → (s.calls[i]?).any (fun c => c.stage = .sent) = true) →
      (setStage i stage s).calls[j]? = some c →
      ∃ c₀, s.calls[j]? = some c₀ ∧ c.token = c₀.token ∧ c.bearer = c₀.bearer ∧
        c.query = c₀.query ∧ (c.stage ≠ .ended → c₀.stage ≠ .ended) := by
    intro i stage hsent h
    obtain ⟨rfl, c₀, hc₀, rfl⟩ | ⟨-, hc⟩ := calls_setStage h
    · refine ⟨c₀, hc₀, rfl, rfl, rfl, fun hstage => ?_⟩
      have hany := hsent hstage
      rw [hc₀, Option.any_some, decide_eq_true_iff] at hany
      rw [hany]
      exact CallStage.noConfusion
    · exact hself hc
  have happend : ∀ {authorization : Option String} {query : Option ℕ} {t : Tab},
      t.token = s.token → t.calls = s.calls →
      (startCall authorization query t).calls[j]? = some c →
      s.calls[j]? = some c ∨ j = s.calls.length ∧
        c = ⟨s.token, bearerOf s.token authorization, query, .sent⟩ := by
    intro authorization query t htoken hcalls h
    rw [startCall, htoken, hcalls] at h
    by_cases hj : j < s.calls.length
    · rw [List.getElem?_append_left hj] at h
      exact Or.inl h
    · rw [List.getElem?_append_right (by omega)] at h
      obtain ⟨hlt, hc⟩ := List.getElem?_eq_some_iff.1 h
      rw [List.length_singleton] at hlt
      refine Or.inr ⟨by omega, ?_⟩
      simp only [Nat.lt_one_iff.1 hlt, List.getElem_cons_zero] at hc
      exact hc.symm
  cases e with
  | login u => exact Or.inl (hself h)
  | logout => exact Or.inl (hself h)
  | request authorization key =>
      cases key with
      | none =>
          obtain h | ⟨hj, rfl⟩ := happend rfl rfl h
          · exact Or.inl (hself h)
          · exact Or.inr ⟨_, _, rfl, hj, rfl, rfl, fun _ hid => (nomatch hid)⟩
      | some key =>
          obtain h | ⟨hj, rfl⟩ := happend (token_openQuery key) (calls_openQuery key) h
          · exact Or.inl (hself h)
          · refine Or.inr ⟨_, _, rfl, hj, rfl, rfl, fun id hid => ⟨key, rfl, ?_⟩⟩
            rw [Option.some.injEq] at hid
            exact hid.symm
  | response i status =>
      rw [Tab.step] at h
      split at h
      · rename_i hany
        exact Or.inl (hset (fun _ => hany) h)
      · exact Or.inl (hself h)
  | body i =>
      rw [Tab.step] at h
      split at h
      · rw [calls_finishCall] at h
        exact Or.inl (hset (fun hstage => absurd rfl hstage) h)
      · exact Or.inl (hself h)
  | failure i =>
      rw [Tab.step] at h
      split at h
      · exact Or.inl (hset (fun hstage => absurd rfl hstage) h)
      · exact Or.inl (hself h)
  | collect key => exact Or.inl (hself h)

/-- The end of a call: its result reaches the cache, it clears the store, or neither. -/
theorem body_cases (s : Tab) (i : ℕ) :
    s.step (.body i) = s ∨ ∃ c, s.calls[i]? = some c ∧ c.stage ≠ .ended ∧
      (s.step (.body i) = deliver c (setStage i .ended s) ∨
        s.step (.body i) = setAuthToken none (setStage i .ended s) ∨
        s.step (.body i) = setStage i .ended s) := by
  rw [Tab.step]
  split
  · rename_i token bearer query status hc
    refine Or.inr ⟨_, hc, CallStage.noConfusion, ?_⟩
    unfold finishCall
    split
    · exact Or.inl rfl
    · split
      · exact Or.inr (Or.inl rfl)
      · exact Or.inr (Or.inr rfl)
  · exact Or.inl rfl

/-- What a step does to the store. -/
theorem token_step (s : Tab) (e : TabEvent) :
    (s.step e).token = s.token ∨ (s.step e).token = none ∨
      ∃ u, e = .login u ∧ (s.step e).token = some u := by
  cases e with
  | login u => exact Or.inr (Or.inr ⟨u, rfl, rfl⟩)
  | logout => exact Or.inr (Or.inl rfl)
  | request authorization key =>
      cases key with
      | none => exact Or.inl rfl
      | some key => exact Or.inl (token_openQuery key)
  | response i status =>
      rw [Tab.step]
      split <;> exact Or.inl rfl
  | body i =>
      obtain h | ⟨c, -, -, h | h | h⟩ := body_cases s i
      · rw [h]
        exact Or.inl rfl
      · rw [h]
        exact Or.inl rfl
      · rw [h]
        exact Or.inr (Or.inl rfl)
      · rw [h]
        exact Or.inl rfl
  | failure i =>
      rw [Tab.step]
      split <;> exact Or.inl rfl
  | collect key => exact Or.inl rfl

end steps

/-! ## Answers and the token they are for -/

/-- The state after some events in a tab that has just been loaded. -/
def tabAfter (es : List TabEvent) : Tab := run Tab.step Tab.fresh es

theorem tabAfter_concat (es : List TabEvent) (e : TabEvent) :
    tabAfter (es ++ [e]) = (tabAfter es).step e :=
  run_concat Tab.fresh es e

/-- Every call was started by a request, with the token the store held then. -/
theorem exists_request {es : List TabEvent} :
    ∀ {j : ℕ} {c : Call}, (tabAfter es).calls[j]? = some c →
      ∃ before authorization key between, es = before ++ .request authorization key :: between ∧
        j = (tabAfter before).calls.length ∧ c.token = (tabAfter before).token ∧
        c.bearer = bearerOf (tabAfter before).token authorization := by
  induction es using List.reverseRecOn with
  | nil =>
      intro j c h
      cases h
  | append_singleton es e ih =>
      intro j c h
      rw [tabAfter_concat] at h
      obtain ⟨c₀, hc₀, htoken, hbearer, -, -⟩ | ⟨authorization, key, rfl, hj, htoken, hbearer, -⟩ :=
        calls_step h
      · obtain ⟨before, authorization, key, between, rfl, hj, htoken', hbearer'⟩ := ih hc₀
        refine ⟨before, authorization, key, between ++ [e], by simp, hj, ?_, ?_⟩
        · rw [htoken, htoken']
        · rw [hbearer, hbearer']
      · exact ⟨es, authorization, key, [], rfl, hj, htoken, hbearer⟩

/-- The store holds what it held, nothing, or the token of a login since. -/
theorem token_run (es : List TabEvent) :
    ∀ s : Tab, (run Tab.step s es).token = s.token ∨ (run Tab.step s es).token = none ∨
      ∃ u, .login u ∈ es ∧ (run Tab.step s es).token = some u := by
  induction es with
  | nil =>
      intro s
      exact Or.inl rfl
  | cons e es ih =>
      intro s
      rw [run_cons]
      obtain h | h | ⟨u, hu, h⟩ := ih (s.step e)
      · rw [h]
        obtain h' | h' | ⟨u, rfl, h'⟩ := token_step s e
        · exact Or.inl h'
        · exact Or.inr (Or.inl h')
        · exact Or.inr (Or.inr ⟨u, List.mem_cons_self, h'⟩)
      · exact Or.inr (Or.inl h)
      · exact Or.inr (Or.inr ⟨u, List.mem_cons_of_mem _ hu, h⟩)

/-- If the answer to a call clears the store, the store holds the token the call was sent
with. -/
def ClearsOwn (s : Tab) (i : ℕ) : Prop :=
  ∀ c, s.calls[i]? = some c → s.token ≠ none → (s.step (.body i)).token = none →
    s.token = c.bearer

/-- Has the call been answered with 401, its body being on the way? -/
def isUnauthorized (s : Tab) (i : ℕ) : Bool :=
  (s.calls[i]?).any (fun c => c.stage = .reading 401)

/-- Only a 401 to a request of a session clears the store. -/
theorem isUnauthorized_of_cleared {s : Tab} {i : ℕ} {c : Call} (hc : s.calls[i]? = some c)
    (htoken : s.token ≠ none) (hcleared : (s.step (.body i)).token = none) :
    isUnauthorized s i = true ∧ truthy c.token = true := by
  obtain ⟨token, bearer, query, stage⟩ := c
  rw [Tab.step, hc] at hcleared
  cases stage with
  | sent => exact absurd hcleared htoken
  | ended => exact absurd hcleared htoken
  | reading status =>
      simp only [finishCall] at hcleared
      split at hcleared
      · exact absurd hcleared htoken
      · split at hcleared
        · rename_i hunauthorized
          rw [Bool.and_eq_true, decide_eq_true_iff] at hunauthorized
          obtain ⟨rfl, htruthy⟩ := hunauthorized
          rw [isUnauthorized, hc]
          exact ⟨rfl, htruthy⟩
        · exact absurd hcleared htoken

/-- No request that is sent in a session and answered with 401 has another token in its
header, and there is no login with another token before its answer is in. -/
def Undisturbed (es : List TabEvent) : Prop :=
  ∀ before authorization key between i after,
    es = before ++ .request authorization key :: (between ++ .body i :: after) →
    i = (tabAfter before).calls.length →
    isUnauthorized (tabAfter (before ++ .request authorization key :: between)) i = true →
    ∀ t, (tabAfter before).token = some t →
      (∀ x, authorization = some x → x = t) ∧ ∀ u, .login u ∈ between → u = t

/-- **An answer clears the session it belongs to.**  In an undisturbed run a 401 clears the
store only while it holds the token the request was sent with. -/
theorem answers_clear_own {es : List TabEvent} (h : Undisturbed es) {before after : List TabEvent}
    {i : ℕ} (hes : es = before ++ .body i :: after) : ClearsOwn (tabAfter before) i := by
  intro c hc htoken hcleared
  obtain ⟨hunauthorized, htruthy⟩ := isUnauthorized_of_cleared hc htoken hcleared
  obtain ⟨start, authorization, key, between, rfl, hi, hcaptured, hbearer⟩ := exists_request hc
  rw [hcaptured] at htruthy
  obtain ⟨t, ht⟩ : ∃ t, (tabAfter start).token = some t := by
    cases hstart : (tabAfter start).token with
    | none =>
        rw [hstart] at htruthy
        cases htruthy
    | some t => exact ⟨t, rfl⟩
  have hwhole : es = start ++ .request authorization key :: (between ++ .body i :: after) := by
    rw [hes]
    simp
  obtain ⟨hheader, hlogins⟩ := h start authorization key between i after hwhole hi hunauthorized t ht
  -- the header carries the token of the store
  have hown : c.bearer = some t := by
    rw [hbearer, ht]
    cases authorization with
    | none =>
        rw [ht] at htruthy
        rw [bearerOf, htruthy]
        rfl
    | some x =>
        rw [hheader x rfl, bearerOf]
        simp
  have hrequest : ((tabAfter start).step (.request authorization key)).token = some t := by
    rw [← ht]
    obtain h' | h' | ⟨u, hu, -⟩ := token_step (tabAfter start) (.request authorization key)
    · exact h'
    · cases key with
      | none => rfl
      | some key => exact token_openQuery key
    · cases hu
  have hafter : tabAfter (start ++ .request authorization key :: between) =
      run Tab.step ((tabAfter start).step (.request authorization key)) between := by
    rw [tabAfter, run_append]
    rfl
  rw [hown, hafter]
  rw [hafter] at htoken
  obtain h' | h' | ⟨u, hu, h'⟩ := token_run between
    ((tabAfter start).step (.request authorization key))
  · rw [h', hrequest]
  · exact absurd h' htoken
  · rw [h', hlogins u hu]

/-- A tab whose logins all yield one token is undisturbed. -/
theorem undisturbed_of_one_token {es : List TabEvent} (u : String)
    (hlogins : ∀ v, .login v ∈ es → v = u)
    (hrequests : ∀ authorization key, .request authorization key ∈ es → authorization = none) :
    Undisturbed es := by
  rintro before authorization key between i after rfl - - t ht
  have htoken : t = u := by
    obtain h | h | ⟨v, hv, h⟩ := token_run before Tab.fresh
    · exact absurd (ht.symm.trans h) (by simp [Tab.fresh])
    · exact absurd (ht.symm.trans h) (by simp)
    · have hvt : t = v := Option.some.inj (ht.symm.trans h)
      rw [hvt]
      exact hlogins v (List.mem_append_left _ hv)
  constructor
  · intro x hx
    have hnone := hrequests authorization key (List.mem_append_right _ List.mem_cons_self)
    rw [hnone] at hx
    cases hx
  · intro v hv
    rw [htoken]
    exact hlogins v (List.mem_append_right _ (List.mem_cons_of_mem _ (List.mem_append_left _ hv)))

/-- The answer to a request of the only session. -/
theorem answers_clear_own_sample :
    ClearsOwn (tabAfter [.login "a", .request none none, .response 0 401]) 0 := by
  have hundisturbed : Undisturbed [.login "a", .request none none, .response 0 401, .body 0] := by
    apply undisturbed_of_one_token "a"
    · intro v hv
      simpa using hv
    · intro authorization key h
      simp only [List.mem_cons, List.not_mem_nil, TabEvent.request.injEq, reduceCtorEq, or_false,
        false_or] at h
      exact h.1
  have hsplit : ([.login "a", .request none none, .response 0 401, .body 0] : List TabEvent) =
      [.login "a", .request none none, .response 0 401] ++ .body 0 :: [] := rfl
  exact answers_clear_own hundisturbed hsplit

/-- A request of one session is answered in the next one. -/
theorem not_clearsOwn_after_login :
    ¬ClearsOwn (tabAfter [.login "a", .request none none, .login "b", .response 0 401]) 0 := by
  intro h
  exact absurd (h ⟨some "a", some "a", none, .reading 401⟩ (by decide) (by decide) (by decide))
    (by decide)

/-! ## Data and the token it was fetched under -/

section isolation

variable (owner : String → String)

/-- All cached data that was fetched under a token is of the user of a token. -/
def HoldsOnly (t : String) (s : Tab) : Prop :=
  ∀ q ∈ s.queries, ∀ t', q.data = some (some t') → owner t' = owner t

/-- All requests in progress for a cached query are of the user of a token. -/
def AwaitsOnly (t : String) (s : Tab) : Prop :=
  ∀ (j : ℕ) (c : Call), s.calls[j]? = some c → c.stage ≠ .ended → ∀ q ∈ s.queries,
    c.query = some q.id → ∀ t', c.bearer = some t' → owner t' = owner t

/-- No data of one user is in the cache while the store holds the token of another. -/
def Isolated (s : Tab) : Prop := ∀ t, s.token = some t → HoldsOnly owner t s

/-- A login meets no data of another user, cached or on its way into the cache; and a query
sends no header of another user. -/
def CleanLogins (s : Tab) : TabEvent → Prop
  | .login t => HoldsOnly owner t s ∧ AwaitsOnly owner t s
  | .request (some x) (some _) => ∀ t, s.token = some t → owner x = owner t
  | _ => True

/-- The invariant of clean runs. -/
structure Separate (s : Tab) : Prop where
  holds : Isolated owner s
  awaits : ∀ t, s.token = some t → AwaitsOnly owner t s
  queries_lt : ∀ q ∈ s.queries, q.id < s.nextQuery
  calls_lt : ∀ (j : ℕ) (c : Call), s.calls[j]? = some c → ∀ id, c.query = some id → id < s.nextQuery

variable {owner} {s : Tab}

theorem separate_fresh : Separate owner Tab.fresh := by
  constructor
  · intro t ht
    cases ht
  · intro t ht
    cases ht
  · intro q hq
    cases hq
  · intro j c hc
    cases hc

/-- The query of a key is one of the cache afterwards. -/
theorem openQuery_mem (key : String) :
    ∃ q ∈ (openQuery key s).1.queries, q.id = (openQuery key s).2 := by
  unfold openQuery
  cases hfind : s.queries.find? (fun q => q.key = key) with
  | some q => exact ⟨q, List.mem_of_find?_eq_some hfind, rfl⟩
  | none => exact ⟨_, List.mem_append_right _ (List.mem_singleton_self _), rfl⟩

/-- A query of the cache afterwards was in it, or is new and has no data. -/
theorem mem_openQuery {key : String} {q : QueryEntry} (h : q ∈ (openQuery key s).1.queries) :
    q ∈ s.queries ∨ q.id = s.nextQuery ∧ q.data = none := by
  unfold openQuery at h
  cases hfind : s.queries.find? (fun q => q.key = key) with
  | some p =>
      rw [hfind] at h
      exact Or.inl h
  | none =>
      rw [hfind] at h
      obtain h | h := List.mem_append.1 h
      · exact Or.inl h
      · rw [List.mem_singleton.1 h]
        exact Or.inr ⟨rfl, rfl⟩

theorem nextQuery_openQuery_le (key : String) : s.nextQuery ≤ (openQuery key s).1.nextQuery := by
  unfold openQuery
  split
  · exact Nat.le_refl _
  · exact Nat.le_succ _

/-- Queries keep their data and requests their header and their query, or get to an end. -/
structure Follows (s s' : Tab) : Prop where
  queries : ∀ q' ∈ s'.queries, ∃ q ∈ s.queries, q'.id = q.id ∧ q'.data = q.data
  calls : ∀ (j : ℕ) (c' : Call), s'.calls[j]? = some c' → ∃ c, s.calls[j]? = some c ∧
    c'.bearer = c.bearer ∧ c'.query = c.query ∧ (c'.stage ≠ .ended → c.stage ≠ .ended)
  nextQuery : s'.nextQuery = s.nextQuery

theorem Follows.holdsOnly {s' : Tab} (h : Follows s s') {t : String} (hs : HoldsOnly owner t s) :
    HoldsOnly owner t s' := by
  intro q' hq' t' hdata
  obtain ⟨q, hq, -, hsame⟩ := h.queries q' hq'
  exact hs q hq t' (hsame.symm.trans hdata)

theorem Follows.awaitsOnly {s' : Tab} (h : Follows s s') {t : String} (hs : AwaitsOnly owner t s) :
    AwaitsOnly owner t s' := by
  intro j c' hc' hstage q' hq' hquery t' hbearer
  obtain ⟨q, hq, hid, -⟩ := h.queries q' hq'
  obtain ⟨c, hc, hbearer', hquery', hstage'⟩ := h.calls j c' hc'
  exact hs j c hc (hstage' hstage) q hq (by rw [← hquery', hquery, hid]) t'
    (hbearer'.symm.trans hbearer)

/-- Nothing new is cached or requested, and the store holds what it held or what is clean. -/
theorem Separate.follows {s' : Tab} (h : Separate owner s) (hf : Follows s s')
    (htoken : ∀ t, s'.token = some t → s.token = some t ∨
      HoldsOnly owner t s ∧ AwaitsOnly owner t s) : Separate owner s' := by
  have hclean : ∀ t, s'.token = some t → HoldsOnly owner t s ∧ AwaitsOnly owner t s := by
    intro t ht
    obtain hs | hs := htoken t ht
    · exact ⟨h.holds t hs, h.awaits t hs⟩
    · exact hs
  constructor
  · exact fun t ht => hf.holdsOnly (hclean t ht).1
  · exact fun t ht => hf.awaitsOnly (hclean t ht).2
  · intro q' hq'
    obtain ⟨q, hq, hid, -⟩ := hf.queries q' hq'
    rw [hid, hf.nextQuery]
    exact h.queries_lt q hq
  · intro j c' hc' id hid
    obtain ⟨c, hc, -, hquery, -⟩ := hf.calls j c' hc'
    rw [hf.nextQuery]
    exact h.calls_lt j c hc id (hquery ▸ hid)

/-- The calls of a step that is no request follow those before. -/
theorem calls_follow {e : TabEvent} (he : ∀ authorization key, e ≠ .request authorization key)
    (j : ℕ) (c' : Call) (h : (s.step e).calls[j]? = some c') :
    ∃ c, s.calls[j]? = some c ∧ c'.bearer = c.bearer ∧ c'.query = c.query ∧
      (c'.stage ≠ .ended → c.stage ≠ .ended) := by
  obtain ⟨c, hc, -, hbearer, hquery, hstage⟩ | ⟨authorization, key, hrequest, -⟩ := calls_step h
  · exact ⟨c, hc, hbearer, hquery, hstage⟩
  · exact absurd hrequest (he authorization key)

/-- A result that reaches the cache. -/
theorem Separate.deliver (h : Separate owner s) {i : ℕ} {c : Call} (hc : s.calls[i]? = some c)
    (hstage : c.stage ≠ .ended) : Separate owner (deliver c (setStage i .ended s)) := by
  have hcalls : ∀ (j : ℕ) (c' : Call), (setStage i .ended s).calls[j]? = some c' →
      ∃ c₀, s.calls[j]? = some c₀ ∧ c'.bearer = c₀.bearer ∧ c'.query = c₀.query ∧
        (c'.stage ≠ .ended → c₀.stage ≠ .ended) := by
    intro j c' hc'
    obtain ⟨rfl, c₀, hc₀, rfl⟩ | ⟨-, hc'⟩ := calls_setStage hc'
    · exact ⟨c₀, hc₀, rfl, rfl, fun hover => absurd rfl hover⟩
    · exact ⟨c', hc', rfl, rfl, id⟩
  have hqueries : ∀ q' ∈ (SpendLens.deliver c (setStage i .ended s)).queries,
      ∃ q ∈ s.queries, q'.id = q.id ∧
        (q'.data = q.data ∨ c.query = some q.id ∧ q'.data = some c.bearer) := by
    intro q' hq'
    obtain ⟨q, hq, rfl⟩ := List.mem_map.1 hq'
    refine ⟨q, hq, ?_⟩
    split
    · rename_i hquery
      exact ⟨rfl, Or.inr ⟨hquery, rfl⟩⟩
    · exact ⟨rfl, Or.inl rfl⟩
  constructor
  · intro t ht q' hq' t' hdata
    obtain ⟨q, hq, -, hsame | ⟨hquery, hnew⟩⟩ := hqueries q' hq'
    · exact h.holds t ht q hq t' (hsame.symm.trans hdata)
    · -- the data was fetched by the call, which was awaited
      exact h.awaits t ht i c hc hstage q hq hquery t' (Option.some.inj (hnew.symm.trans hdata))
  · intro t ht j c' hc' hover q' hq' hquery t' hbearer
    obtain ⟨c₀, hc₀, hbearer', hquery', hstage'⟩ := hcalls j c' hc'
    obtain ⟨q, hq, hid, -⟩ := hqueries q' hq'
    exact h.awaits t ht j c₀ hc₀ (hstage' hover) q hq (by rw [← hquery', hquery, hid]) t'
      (hbearer'.symm.trans hbearer)
  · intro q' hq'
    obtain ⟨q, hq, hid, -⟩ := hqueries q' hq'
    rw [hid]
    exact h.queries_lt q hq
  · intro j c' hc' id hid
    obtain ⟨c₀, hc₀, -, hquery', -⟩ := hcalls j c' hc'
    exact h.calls_lt j c₀ hc₀ id (hquery' ▸ hid)

/-- A request of no query. -/
theorem Separate.request_other (h : Separate owner s) (authorization : Option String) :
    Separate owner (s.step (.request authorization none)) := by
  constructor
  · exact h.holds
  · intro t ht j c hc hstage q hq hquery t' hbearer
    obtain ⟨c₀, hc₀, -, hbearer', hquery', hstage'⟩ | ⟨_, key, hrequest, -, -, -, hid⟩ :=
      calls_step hc
    · exact h.awaits t ht j c₀ hc₀ (hstage' hstage) q hq (hquery' ▸ hquery) t'
        (hbearer'.symm.trans hbearer)
    · cases hrequest
      obtain ⟨k, hk, -⟩ := hid _ hquery
      cases hk
  · exact h.queries_lt
  · intro j c hc id hid
    obtain ⟨c₀, hc₀, -, -, hquery', -⟩ | ⟨_, key, hrequest, -, -, -, hid'⟩ := calls_step hc
    · exact h.calls_lt j c₀ hc₀ id (hquery' ▸ hid)
    · cases hrequest
      obtain ⟨k, hk, -⟩ := hid' _ hid
      cases hk

/-- A request of a query has the token of the store, or a header that is clean. -/
theorem Separate.request_query (h : Separate owner s) {authorization : Option String}
    {key : String} (he : CleanLogins owner s (.request authorization (some key))) :
    Separate owner (s.step (.request authorization (some key))) := by
  have htoken : (s.step (.request authorization (some key))).token = s.token :=
    token_openQuery key
  have hqueries : ∀ q ∈ (s.step (.request authorization (some key))).queries,
      q ∈ s.queries ∨ q.id = s.nextQuery ∧ q.data = none := fun q hq => mem_openQuery hq
  have hnext : s.nextQuery ≤ (s.step (.request authorization (some key))).nextQuery :=
    nextQuery_openQuery_le key
  have hlt : ∀ q ∈ (s.step (.request authorization (some key))).queries,
      q.id < (s.step (.request authorization (some key))).nextQuery := by
    intro q hq
    show q.id < (openQuery key s).1.nextQuery
    have hq : q ∈ (openQuery key s).1.queries := hq
    unfold openQuery at hq ⊢
    cases hfind : s.queries.find? (fun q => q.key = key) with
    | some p =>
        rw [hfind] at hq
        exact h.queries_lt q hq
    | none =>
        rw [hfind] at hq
        obtain hq | hq := List.mem_append.1 hq
        · exact Nat.lt_succ_of_lt (h.queries_lt q hq)
        · rw [List.mem_singleton.1 hq]
          exact Nat.lt_succ_self _
  constructor
  · intro t ht q hq t' hdata
    rw [htoken] at ht
    obtain hq | ⟨-, hnone⟩ := hqueries q hq
    · exact h.holds t ht q hq t' hdata
    · rw [hnone] at hdata
      cases hdata
  · intro t ht j c hc hstage q hq hquery t' hbearer
    rw [htoken] at ht
    obtain ⟨c₀, hc₀, -, hbearer', hquery', hstage'⟩ | ⟨own, k, hrequest, -, -, hbearer', -⟩ :=
      calls_step hc
    · obtain hq | ⟨hid, -⟩ := hqueries q hq
      · exact h.awaits t ht j c₀ hc₀ (hstage' hstage) q hq (hquery' ▸ hquery) t'
          (hbearer'.symm.trans hbearer)
      · -- no earlier call is for a query that is new
        have hlt := h.calls_lt j c₀ hc₀ q.id (hquery' ▸ hquery)
        omega
    · cases hrequest
      rw [hbearer', ht, bearerOf] at hbearer
      split at hbearer
      · rw [Option.some.injEq] at hbearer
        rw [hbearer]
      · subst hbearer
        exact he t ht
  · exact hlt
  · intro j c hc id hid
    obtain ⟨c₀, hc₀, -, -, hquery', -⟩ | ⟨own, k, hrequest, -, -, -, hid'⟩ := calls_step hc
    · exact Nat.lt_of_lt_of_le (h.calls_lt j c₀ hc₀ id (hquery' ▸ hid)) hnext
    · cases hrequest
      obtain ⟨k, hk, rfl⟩ := hid' _ hid
      cases hk
      obtain ⟨q, hq, hq'⟩ := openQuery_mem (s := s) key
      rw [← hq']
      exact hlt q hq

/-- **One step keeps the sessions apart.** -/
theorem Separate.step (h : Separate owner s) {e : TabEvent} (he : CleanLogins owner s e) :
    Separate owner (s.step e) := by
  have hself : ∀ q ∈ s.queries, ∃ p ∈ s.queries, q.id = p.id ∧ q.data = p.data :=
    fun q hq => ⟨q, hq, rfl, rfl⟩
  cases e with
  | login u =>
      have hqueries : ∀ q' ∈ (s.step (.login u)).queries,
          ∃ q ∈ s.queries, q'.id = q.id ∧ q'.data = q.data := by
        intro q' hq'
        obtain ⟨q, hq, rfl⟩ := List.mem_map.1 hq'
        refine ⟨q, hq, ?_⟩
        split <;> exact ⟨rfl, rfl⟩
      refine h.follows ⟨hqueries, calls_follow (fun _ _ => TabEvent.noConfusion), rfl⟩ ?_
      intro t ht
      cases ht
      exact Or.inr he
  | logout =>
      refine h.follows ⟨?_, calls_follow (fun _ _ => TabEvent.noConfusion), rfl⟩ ?_
      · intro q hq
        cases hq
      · intro t ht
        cases ht
  | request authorization key =>
      cases key with
      | none => exact h.request_other authorization
      | some key => exact h.request_query he
  | response i status =>
      refine h.follows ⟨?_, calls_follow (fun _ _ => TabEvent.noConfusion), ?_⟩ ?_
      · rw [Tab.step]
        split <;> exact hself
      · rw [Tab.step]
        split <;> rfl
      · rw [Tab.step]
        split <;> exact fun t ht => Or.inl ht
  | body i =>
      have hcalls := calls_follow (s := s) (e := .body i) (fun _ _ => TabEvent.noConfusion)
      obtain hsame | ⟨c, hc, hstage, hend⟩ := body_cases s i
      · rw [hsame]
        exact h
      · obtain hdeliver | hclear | hnothing := hend
        · rw [hdeliver]
          exact h.deliver hc hstage
        · rw [hclear] at hcalls ⊢
          refine h.follows ⟨hself, hcalls, rfl⟩ ?_
          intro t ht
          cases ht
        · rw [hnothing] at hcalls ⊢
          exact h.follows ⟨hself, hcalls, rfl⟩ (fun t ht => Or.inl ht)
  | failure i =>
      refine h.follows ⟨?_, calls_follow (fun _ _ => TabEvent.noConfusion), ?_⟩ ?_
      · rw [Tab.step]
        split <;> exact hself
      · rw [Tab.step]
        split <;> rfl
      · rw [Tab.step]
        split <;> exact fun t ht => Or.inl ht
  | collect key =>
      refine h.follows ⟨?_, calls_follow (fun _ _ => TabEvent.noConfusion), rfl⟩ ?_
      · intro q hq
        exact hself q (List.mem_filter.1 hq).1
      · exact fun t ht => Or.inl ht

/-- After an explicit logout nothing of the session is left to meet. -/
theorem cleanLogins_after_logout (s : Tab) (t : String) :
    CleanLogins owner (s.step .logout) (.login t) := by
  constructor
  · intro q hq
    cases hq
  · intro j c _ _ q hq
    cases hq

end isolation

/-- **Sessions are isolated** in every state of a run whose logins are clean: the data that
was fetched under the token of one user is not in the cache while the store holds the
token of another. -/
theorem isolated_of_cleanLogins (owner : String → String) (es es' : List TabEvent)
    (h : Along Tab.step (CleanLogins owner) Tab.fresh (es ++ es')) :
    Isolated owner (tabAfter es) := by
  have hseparate : Separate owner (run Tab.step Tab.fresh es) :=
    holds_of_append (fun s e hs he => hs.step he) separate_fresh h
  exact hseparate.holds

/-- A user logs out, and another one logs in. -/
theorem isolated_of_cleanLogins_sample :
    Isolated id (tabAfter [.login "a", .request none (some "expenses"), .response 0 200, .body 0,
      .logout, .login "b"]) := by
  apply isolated_of_cleanLogins id _ []
  refine ⟨?_, trivial, trivial, trivial, trivial, cleanLogins_after_logout _ "b", trivial⟩
  constructor
  · intro q hq
    cases hq
  · intro j c _ _ q hq
    cases hq

/-- A session that a 401 has ended leaves its data to the next one. -/
theorem not_isolated_after_unauthorized :
    ¬Isolated id (tabAfter [.login "a", .request none (some "expenses"), .response 0 200, .body 0,
      .request none (some "receipts"), .response 1 401, .body 1, .login "b"]) := by
  intro h
  exact absurd (h "b" (by decide) ⟨0, "expenses", some (some "a"), false⟩ (by decide) "a" rfl)
    (by decide)

end SpendLens
