/-
# Walking the pages of the expense list

A walk starts without a cursor and follows each next cursor, through its text, while
other sessions insert, delete and update expenses between the fetches.  A fetch is
answered in a world of its own, so that a sequence of fetches is any schedule of
writes.  `walk_refines` says that the walk is the generic keyset walk over the
matching rows; `walk_exactly_once` is what that gives.
-/
import SpendLens.ExpenseService
import SpendLens.Steps
import SpendLens.Lib.Keyset
import Mathlib.Data.Prod.Lex

namespace SpendLens

/-! ## The sort key -/

/-- `(expense_date, id)`, in lexicographic order. -/
def expenseKey (e : Expense) : Date ×ₗ UUID := toLex (e.expenseDate, e.id)

/-- The cursor at a key. -/
def cursorAt (k : Date ×ₗ UUID) : ExpenseCursor := ⟨(ofLex k).1, (ofLex k).2⟩

theorem newestFirst_eq (a b : Expense) :
    newestFirst a b = decide (expenseKey b ≤ expenseKey a) := by
  rw [Bool.eq_iff_iff, decide_eq_true_eq, newestFirst, Bool.or_eq_true, Bool.and_eq_true,
    decide_eq_true_eq, decide_eq_true_eq, decide_eq_true_eq, expenseKey, expenseKey,
    Prod.Lex.toLex_le_toLex]

/-- The seek predicate selects what is below the key of the cursor. -/
theorem afterCursor_eq (bound : Option (Date ×ₗ UUID)) (e : Expense) :
    afterCursor (bound.map cursorAt) e = Keyset.below expenseKey bound e := by
  cases bound with
  | none => rfl
  | some k =>
      have hlt : expenseKey e < k ↔ e.expenseDate < (cursorAt k).expenseDate ∨
          e.expenseDate = (cursorAt k).expenseDate ∧ e.id < (cursorAt k).id := Prod.Lex.lt_iff
      rw [Option.map_some, Bool.eq_iff_iff, afterCursor, Keyset.below, Option.all_some,
        Option.all_some, Bool.or_eq_true, Bool.and_eq_true, decide_eq_true_eq, decide_eq_true_eq,
        decide_eq_true_eq, decide_eq_true_eq]
      exact hlt.symm

/-! ## Fetches -/

/-- One request for a page: the state it is answered in, its session, which has
written nothing, and the page size it asks for. -/
structure Fetch (Tx : Type) [DecidableEq Tx] where
  world : World Tx
  session : Tx
  pageSize : ℤ
  fresh : world.db.expenses.writes session = []

variable {Tx : Type} [DecidableEq Tx]

/-- The expenses that exist when the fetch is answered. -/
def Fetch.rows (f : Fetch Tx) : List Expense := f.world.db.expenses.committed.rows

/-- The database answers: the session is usable and no failure strikes. -/
def Fetch.Served (env : Env) (f : Fetch Tx) : Prop :=
  f.world.failed f.session = false ∧ env.fault f.world.calls = .none

/-- The page a request gets. -/
def Fetch.answer (env : Env) (userId : UUID) (filters : ExpenseFilters) (f : Fetch Tx)
    (cursor : Option String) : Except PyExc (List Expense × Option String) :=
  ((listPage env userId filters cursor f.pageSize).run ((backend env).alone f.session) f.world).1

/-- The user's rows that pass the filters. -/
def matching (env : Env) (userId : UUID) (filters : ExpenseFilters) (rows : List Expense) :
    List Expense :=
  rows.filter (fun e => e.userId = userId && applyFilters env filters e)

/-- The size a page has. -/
def Fetch.size (f : Fetch Tx) : ℕ := (max 1 (min f.pageSize maxPageSize)).toNat

theorem Fetch.one_le_size (f : Fetch Tx) : 1 ≤ f.size := by
  have h : (1 : ℤ) ≤ max 1 (min f.pageSize maxPageSize) := le_max_left _ _
  unfold Fetch.size
  omega

theorem nodup_keys (env : Env) (userId : UUID) (filters : ExpenseFilters) (f : Fetch Tx) :
    ((matching env userId filters f.rows).map expenseKey).Nodup := by
  have hids : ((matching env userId filters f.rows).map Expense.id).Nodup :=
    f.world.db.expenses.committed.nodup.sublist (List.filter_sublist.map Expense.id)
  have hkeys : (matching env userId filters f.rows).map Expense.id =
      ((matching env userId filters f.rows).map expenseKey).map (fun k => (ofLex k).2) := by
    rw [List.map_map]
    rfl
  rw [hkeys] at hids
  exact hids.of_map

theorem isEmpty_encode (c : ExpenseCursor) : c.encode.isEmpty = false := by
  by_contra h
  rw [Bool.not_eq_false, String.isEmpty_iff] at h
  have hpad := ExpenseCursor.padded_encode c
  rw [h, ExpenseCursor.payload_eq] at hpad
  have hlen := congrArg List.length hpad
  simp [Base64.encode, TextEncoding.ascii, Base64.digits, Base64.padding] at hlen

/-- The page made of the rows below a bound is the keyset page. -/
theorem pageOf_eq (rows : List Expense) (bound : Option (Date ×ₗ UUID)) (n : ℕ) :
    pageOf n ((((rows.filter (Keyset.below expenseKey bound)).mergeSort newestFirst)).take (n + 1)) =
      ⟨(Keyset.page expenseKey rows bound n).1,
        (Keyset.page expenseKey rows bound n).2.map cursorAt⟩ := by
  have hsort : (rows.filter (Keyset.below expenseKey bound)).mergeSort newestFirst =
      Keyset.descending expenseKey (rows.filter (Keyset.below expenseKey bound)) := by
    rw [Keyset.descending]
    congr 1
    funext a b
    exact newestFirst_eq a b
  rw [hsort, pageOf, Keyset.page]
  split
  · rw [Option.map_map]
    rfl
  · rfl

/-- The position of a written cursor. -/
theorem decodeCursor_encode (env : Env) (bound : Option (Date ×ₗ UUID)) :
    decodeCursor env (bound.map (fun k => (cursorAt k).encode)) = .ret (bound.map cursorAt) := by
  cases bound with
  | none => rfl
  | some k =>
      unfold decodeCursor
      rw [Option.map_some, Option.filter_some_pos (by rw [isEmpty_encode]; rfl)]
      simp only [ExpenseCursor.decode_encode, Option.map_some]

/-- What a request returns, given the answer to its one statement. -/
theorem Fetch.answer_of_rows {env : Env} {userId : UUID} {filters : ExpenseFilters} {f : Fetch Tx}
    {bound : Option (Date ×ₗ UUID)} {r : Except PyExc (List Expense)}
    (h : ((backend env).alone f.session (.sql (.selectExpenses filters.params (fun e =>
      e.userId = userId && applyFilters env filters e && afterCursor (bound.map cursorAt) e)))
        f.world).1 = r) :
    f.answer env userId filters (bound.map (fun k => (cursorAt k).encode)) =
      r.map (fun rows => ((pageOf f.size ((rows.mergeSort newestFirst).take (f.size + 1))).items,
        (pageOf f.size ((rows.mergeSort newestFirst).take (f.size + 1))).nextCursor.map
          ExpenseCursor.encode)) := by
  unfold Fetch.answer listPage listExpenses
  simp only [decodeCursor_encode, Prog.bind_eq, Prog.pure_eq, Prog.bind_ret, sql]
  rw [Prog.bind_assoc, Prog.run_bind, Prog.run_perform]
  rcases hx : (backend env).alone f.session (.sql (.selectExpenses filters.params (fun e =>
      e.userId = userId && applyFilters env filters e && afterCursor (bound.map cursorAt) e)))
        f.world with ⟨r', w'⟩
  rw [hx] at h
  cases h
  cases r' with
  | ok rows => rfl
  | error e => rfl

/-- The statement of a request: an answer with rows has exactly those below the bound,
and a served request whose parameters are accepted has an answer. -/
theorem Fetch.exec_select (env : Env) (userId : UUID) (filters : ExpenseFilters) (f : Fetch Tx)
    (bound : Option (Date ×ₗ UUID)) {r : Except PyExc (List Expense)}
    (h : ((backend env).alone f.session (.sql (.selectExpenses filters.params (fun e =>
      e.userId = userId && applyFilters env filters e && afterCursor (bound.map cursorAt) e)))
        f.world).1 = r) :
    (∀ rows, r = .ok rows → rows =
        (matching env userId filters f.rows).filter (Keyset.below expenseKey bound)) ∧
      (f.Served env → filters.params.all Param.ok = true → ∃ rows, r = .ok rows) := by
  have hview : (f.world.db.expenses.view f.session).rows = f.rows := by
    rw [Store.view, f.fresh]
    rfl
  have hrows : f.rows.filter (fun e => e.userId = userId && applyFilters env filters e &&
      afterCursor (bound.map cursorAt) e) =
      (matching env userId filters f.rows).filter (Keyset.below expenseKey bound) := by
    rw [matching, List.filter_filter]
    apply List.filter_congr
    intro e _
    rw [afterCursor_eq, Bool.and_comm]
  constructor
  · intro rows hok
    subst hok
    unfold Machine.alone at h
    rcases hx : (backend env).exec f.session (.sql (.selectExpenses filters.params (fun e =>
        e.userId = userId && applyFilters env filters e && afterCursor (bound.map cursorAt) e)))
        f.world with _ | ⟨r, w'⟩
    · rw [hx] at h
      cases h
    · rw [hx] at h
      rcases exec_sql_cases hx with ⟨-, he, -⟩ | ⟨-, ⟨e, he⟩, -⟩ | ⟨a, db, -, ha, hs, -⟩
      · rw [he] at h
        cases h
      · rw [he] at h
        cases h
      · rw [ha] at h
        cases h
        simp only [Stmt.exec, Option.some.injEq, Prod.mk.injEq] at hs
        rw [select_ok hs.1, hview, hrows]
  · rintro ⟨hf, hfault⟩ haccept
    subst h
    simp [Machine.alone, backend, exec, hf, hfault, Stmt.exec, select, haccept]

/-- **A page is a keyset page** of the matching rows, unless the request fails; and it
does not fail when the database answers and accepts the filters. -/
theorem Fetch.answer_eq (env : Env) (userId : UUID) (filters : ExpenseFilters) (f : Fetch Tx)
    (bound : Option (Date ×ₗ UUID)) {r : Except PyExc (List Expense × Option String)}
    (h : f.answer env userId filters (bound.map (fun k => (cursorAt k).encode)) = r) :
    (∀ p, r = .ok p →
        p.1 = (Keyset.page expenseKey (matching env userId filters f.rows) bound f.size).1 ∧
        p.2 = (Keyset.page expenseKey (matching env userId filters f.rows) bound f.size).2.map
          (fun k => (cursorAt k).encode)) ∧
      (f.Served env → filters.params.all Param.ok = true → ∃ p, r = .ok p) := by
  obtain ⟨r', hr'⟩ : ∃ r', ((backend env).alone f.session (.sql (.selectExpenses filters.params
      (fun e => e.userId = userId && applyFilters env filters e &&
        afterCursor (bound.map cursorAt) e))) f.world).1 = r' := ⟨_, rfl⟩
  obtain ⟨hrows, hserved⟩ := Fetch.exec_select env userId filters f bound hr'
  rw [Fetch.answer_of_rows hr'] at h
  subst h
  constructor
  · intro p hp
    cases r' with
    | error e => cases hp
    | ok rows =>
        rw [Except.map, Except.ok.injEq, hrows rows rfl, pageOf_eq] at hp
        rw [← hp]
        refine ⟨rfl, ?_⟩
        simp only [Option.map_map]
        rfl
  · intro hs haccept
    obtain ⟨rows, hok⟩ := hserved hs haccept
    rw [hok]
    exact ⟨_, rfl⟩

/-! ## The walk -/

/-- Where a walk stands. -/
inductive WalkState where
  | next (cursor : Option String)
  | ended
  | failed (e : PyExc)

/-- The pages of the first `n` fetches, and where the walk stands then. -/
def walk (env : Env) (userId : UUID) (filters : ExpenseFilters) (fetches : ℕ → Fetch Tx) :
    ℕ → List (List Expense) × WalkState
  | 0 => ([], .next none)
  | n + 1 =>
      match walk env userId filters fetches n with
      | (pages, .next cursor) =>
          match (fetches n).answer env userId filters cursor with
          | .ok (items, some c) => (pages ++ [items], .next (some c))
          | .ok (items, none) => (pages ++ [items], .ended)
          | .error e => (pages, .failed e)
      | (pages, .ended) => (pages, .ended)
      | (pages, .failed e) => (pages, .failed e)

/-- The keyset walk behind it. -/
abbrev keysetWalk (env : Env) (userId : UUID) (filters : ExpenseFilters) (fetches : ℕ → Fetch Tx)
    (n : ℕ) : List (List Expense) × Option (Option (Date ×ₗ UUID)) :=
  Keyset.walk expenseKey (fun k => matching env userId filters (fetches k).rows)
    (fun k => (fetches k).size) n

/-- **The walk is the keyset walk** over the matching rows, up to the fetch that fails. -/
theorem walk_refines (env : Env) (userId : UUID) (filters : ExpenseFilters)
    (fetches : ℕ → Fetch Tx) (n : ℕ) :
    match walk env userId filters fetches n with
    | (pages, .next cursor) => ∃ bound, keysetWalk env userId filters fetches n =
        (pages, some bound) ∧ cursor = bound.map (fun k => (cursorAt k).encode)
    | (pages, .ended) => keysetWalk env userId filters fetches n = (pages, none)
    | (pages, .failed _) => ∃ m ≤ n, (keysetWalk env userId filters fetches m).1 = pages := by
  induction n with
  | zero => exact ⟨none, rfl, rfl⟩
  | succ n ih =>
      rcases hw : walk env userId filters fetches n with ⟨pages, state⟩
      rw [hw] at ih
      cases state with
      | failed e =>
          obtain ⟨m, hm, hpages⟩ := ih
          simp only [walk, hw]
          exact ⟨m, by omega, hpages⟩
      | ended =>
          simp only [keysetWalk] at ih
          simp only [walk, hw, keysetWalk, Keyset.walk]
          rw [ih]
      | next cursor =>
          obtain ⟨bound, hkw, hcursor⟩ := ih
          rcases ha : (fetches n).answer env userId filters cursor with e | ⟨items, next⟩
          · simp only [walk, hw, ha]
            exact ⟨n, by omega, by rw [hkw]⟩
          · rw [hcursor] at ha
            obtain ⟨hitems, hnext⟩ := (Fetch.answer_eq env userId filters _ bound ha).1 _ rfl
            simp only at hitems hnext
            rw [← hcursor] at ha
            have hstep : keysetWalk env userId filters fetches (n + 1) = (pages ++ [items],
                (Keyset.page expenseKey (matching env userId filters (fetches n).rows) bound
                  (fetches n).size).2.map some) := by
              simp only [keysetWalk] at hkw
              simp only [keysetWalk, Keyset.walk, hkw]
              rw [hitems]
            cases hp : (Keyset.page expenseKey (matching env userId filters (fetches n).rows) bound
                (fetches n).size).2 with
            | none =>
                rw [hp] at hnext hstep
                cases hnext
                simp only [walk, hw, ha]
                exact hstep
            | some k =>
                rw [hp] at hnext hstep
                cases hnext
                simp only [walk, hw, ha]
                exact ⟨some k, hstep, rfl⟩

/-- A walk whose fetches are all served does not fail. -/
theorem walk_ne_failed {env : Env} (userId : UUID) {filters : ExpenseFilters}
    {fetches : ℕ → Fetch Tx} (hserved : ∀ k, (fetches k).Served env)
    (haccept : filters.params.all Param.ok = true) (n : ℕ) (e : PyExc) :
    (walk env userId filters fetches n).2 ≠ .failed e := by
  induction n with
  | zero => exact fun h => by cases h
  | succ n ih =>
      have href := walk_refines env userId filters fetches n
      rcases hw : walk env userId filters fetches n with ⟨pages, state⟩
      rw [hw] at ih href
      cases state with
      | failed e' =>
          simp only [walk, hw]
          exact ih
      | ended =>
          simp only [walk, hw]
          exact ih
      | next cursor =>
          obtain ⟨bound, -, hcursor⟩ := href
          rcases ha : (fetches n).answer env userId filters cursor with e' | ⟨items, _ | c⟩
          · rw [hcursor] at ha
            obtain ⟨p, hp⟩ :=
              (Fetch.answer_eq env userId filters _ bound ha).2 (hserved n) haccept
            cases hp
          · simp [walk, hw, ha]
          · simp [walk, hw, ha]

section walk

variable (env : Env) (userId : UUID) (filters : ExpenseFilters) (fetches : ℕ → Fetch Tx)

/-- The keys of the returned rows strictly decrease. -/
theorem walk_sorted (n : ℕ) : (walk env userId filters fetches n).1.flatten.Pairwise
    (fun a b => expenseKey b < expenseKey a) := by
  have hkeyset := Keyset.pairwise_walk (fun k => nodup_keys env userId filters (fetches k))
    (fun k => (fetches k).one_le_size)
  have href := walk_refines env userId filters fetches n
  rcases hw : walk env userId filters fetches n with ⟨pages, state⟩
  rw [hw] at href
  cases state with
  | next cursor =>
      obtain ⟨bound, hkw, -⟩ := href
      have := hkeyset n
      rwa [show Keyset.walk _ _ _ n = _ from hkw] at this
  | ended =>
      have := hkeyset n
      rwa [show Keyset.walk _ _ _ n = _ from href] at this
  | failed e =>
      obtain ⟨m, -, hpages⟩ := href
      have := hkeyset m
      rwa [show (Keyset.walk _ _ _ m).1 = _ from hpages] at this

/-- Two returned rows with one key are one row. -/
theorem eq_of_walk_key {n : ℕ} {u v : Expense} (hu : u ∈ (walk env userId filters fetches n).1.flatten)
    (hv : v ∈ (walk env userId filters fetches n).1.flatten) (h : expenseKey u = expenseKey v) :
    u = v := by
  have hpair := List.pairwise_iff_getElem.1 (walk_sorted env userId filters fetches n)
  obtain ⟨i, hi, rfl⟩ := List.getElem_of_mem hu
  obtain ⟨j, hj, rfl⟩ := List.getElem_of_mem hv
  rcases lt_trichotomy i j with hij | rfl | hij
  · exact absurd h.symm (hpair i j hi hj hij).ne
  · rfl
  · exact absurd h (hpair j i hj hi hij).ne

/-- A row that is there with its date at every fetch is returned exactly once. -/
theorem walk_once {n : ℕ} {id : UUID} {date : Date}
    (hend : (walk env userId filters fetches n).2 = .ended)
    (hpresent : ∀ k < n, ∃ e ∈ matching env userId filters (fetches k).rows,
      e.id = id ∧ e.expenseDate = date) :
    ((walk env userId filters fetches n).1.flatten.filter (fun e => e.id = id)).length = 1 := by
  have hnd := fun k => nodup_keys env userId filters (fetches k)
  have hsize := fun k => (fetches k).one_le_size
  have href := walk_refines env userId filters fetches n
  have hpair := walk_sorted env userId filters fetches n
  have hkeys := fun u v => eq_of_walk_key env userId filters fetches (n := n) (u := u) (v := v)
  rcases hw : walk env userId filters fetches n with ⟨pages, state⟩
  rw [hw] at href hpair hend hkeys
  subst hend
  have hkw : Keyset.walk expenseKey (fun k => matching env userId filters (fetches k).rows)
      (fun k => (fetches k).size) n = (pages, none) := href
  -- the row has been returned
  have hmem := Keyset.mem_keys_of_walk (x := toLex (date, id)) hnd hsize (n := n)
    (by rw [hkw]) (fun k hk => by
      obtain ⟨e, he, rfl, rfl⟩ := hpresent k hk
      exact ⟨e, he, rfl⟩)
  rw [hkw, List.mem_map] at hmem
  obtain ⟨u, hu, hkey⟩ := hmem
  have huid : u.id = id := congrArg (fun k => (ofLex k).2) hkey
  -- and no other row with its identifier: at each fetch the identifier has that date
  have hunique : ∀ v ∈ pages.flatten, v.id = id → v = u := by
    intro v hv hvid
    obtain ⟨k, hk, hvm⟩ : ∃ k < n, v ∈ matching env userId filters (fetches k).rows :=
      Keyset.mem_walk hnd hsize (n := n) (by rw [hkw]; exact hv)
    obtain ⟨e, he, heid, hed⟩ := hpresent k hk
    have hve : v = e := Table.eq_of_mem_of_key (T := (fetches k).world.db.expenses.committed)
      (List.mem_of_mem_filter hvm) (List.mem_of_mem_filter he) (hvid.trans heid.symm)
    exact hkeys v u hv hu (by rw [hkey, expenseKey, hve, hed, heid])
  have hnodup : pages.flatten.Nodup :=
    hpair.imp (fun hab hc => by rw [hc] at hab; exact lt_irrefl _ hab)
  have hsingle : pages.flatten.filter (fun e => e.id = id) = [u] := by
    apply Table.eq_singleton_of_nodup (hnodup.filter _)
    · rw [List.mem_filter]
      exact ⟨hu, by simp [huid]⟩
    · intro v hv
      rw [List.mem_filter, decide_eq_true_eq] at hv
      exact hunique v hv.1 hv.2
  show (pages.flatten.filter (fun e => e.id = id)).length = 1
  rw [hsingle, List.length_singleton]

/-- Over an unchanged table the walk ends and has returned the matching rows in order. -/
theorem walk_unchanged {rows : List Expense}
    (hrows : ∀ k, (fetches k).rows = rows ∧ (fetches k).Served env)
    (haccept : filters.params.all Param.ok = true) :
    ∃ n, (walk env userId filters fetches n).2 = .ended ∧
      (walk env userId filters fetches n).1.flatten =
        (matching env userId filters rows).mergeSort newestFirst := by
  have hnd : ((matching env userId filters rows).map expenseKey).Nodup := by
    rw [← (hrows 0).1]
    exact nodup_keys env userId filters (fetches 0)
  have hconst : (fun k => matching env userId filters (fetches k).rows) =
      fun _ => matching env userId filters rows := by
    funext k
    rw [(hrows k).1]
  have hsort : Keyset.descending expenseKey (matching env userId filters rows) =
      (matching env userId filters rows).mergeSort newestFirst := by
    rw [Keyset.descending]
    congr 1
    funext a b
    exact (newestFirst_eq a b).symm
  obtain ⟨n, hend, hflat⟩ := Keyset.walk_const hnd (fun k => (fetches k).one_le_size)
  rw [← hconst] at hend hflat
  have href := walk_refines env userId filters fetches n
  have hfail := walk_ne_failed userId (fun k => (hrows k).2) haccept n
  refine ⟨n, ?_⟩
  rcases hw : walk env userId filters fetches n with ⟨pages, state⟩
  rw [hw] at href hfail
  cases state with
  | failed e => exact absurd rfl (hfail e)
  | next cursor =>
      obtain ⟨bound, hkw, -⟩ := href
      rw [show Keyset.walk _ _ _ n = _ from hkw] at hend
      cases hend
  | ended =>
      rw [show Keyset.walk _ _ _ n = _ from href] at hflat
      exact ⟨rfl, hflat.trans hsort⟩

end walk

/-- Three expenses, two of them on one day. -/
def sampleExpenses : List Expense :=
  let row (id cents : ℕ) (date : Date) : Expense :=
    { id := Fin.ofNat _ id, userId := 7, merchantName := "Acme", amount := .cents cents,
      currency := "USD", category := .other, expenseDate := date, description := none,
      receiptId := none, source := .manual, createdAt := 0, updatedAt := 0 }
  [row 3 300 ⟨2026, 3, 2, by decide⟩, row 2 200 ⟨2026, 3, 2, by decide⟩,
    row 1 100 ⟨2026, 3, 1, by decide⟩]

/-- A request for a page of two of them. -/
def sampleFetch : Fetch Unit where
  world := World.ofDb
    { Db.ofUsers [] with expenses := Store.ofTable ⟨sampleExpenses, by decide⟩ }
  session := ()
  pageSize := 2
  fresh := rfl

end SpendLens
