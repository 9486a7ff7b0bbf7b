/-
# The expense pages in the browser

An edit or a deletion of an expense is shown before the server has answered it: it saves the pages
of every cached list, changes them, and puts them back when the server refuses.  The pages it puts
back are those of all the expenses, not of the one it changed.
-/
import SpendLens.Schema
import SpendLens.Lib.Optimistic

namespace SpendLens

open EventRuns Optimistic

namespace ExpenseCache

/-! ## Cached pages -/

/-- An `Expense` as it comes over the wire. -/
structure CachedExpense where
  id : String
  userId : String
  merchantName : String
  amount : String
  currency : String
  category : ExpenseCategory
  expenseDate : String
  description : Option String
  source : ExpenseSource
  receiptId : Option String
  createdAt : String
  updatedAt : String
  deriving DecidableEq

/-- `PaginatedExpenses`. -/
structure PaginatedExpenses where
  items : List CachedExpense
  nextCursor : Option String
  deriving DecidableEq

/-- `InfiniteData` of pages. -/
structure InfiniteData where
  pages : List PaginatedExpenses
  pageParams : List (Option String)
  deriving DecidableEq

/-- The filters in the key of a list. -/
structure Filters where
  category : Option ExpenseCategory
  merchant : Option String
  dateFrom : Option String
  dateTo : Option String
  deriving DecidableEq

/-- The data of the queries below the key `expenses`; a query that is not there, or whose first
answer has not come, has none. -/
abbrev Cache : Type := Filters → Option InfiniteData

/-! ## Mutations -/

/-- `ExpensePatchPayload`; a key that is missing or `undefined` is nothing. -/
structure PatchPayload where
  merchantName : Option String
  amount : Option String
  currency : Option String
  category : Option ExpenseCategory
  expenseDate : Option String
  description : Option String
  deriving DecidableEq

/-- `applyPatch`. -/
def applyPatch (item : CachedExpense) (patch : PatchPayload) : CachedExpense :=
  { item with
    merchantName := patch.merchantName.getD item.merchantName
    amount := patch.amount.getD item.amount
    currency := patch.currency.getD item.currency
    category := patch.category.getD item.category
    expenseDate := patch.expenseDate.getD item.expenseDate
    description := patch.description.or item.description }

/-- A call of `useUpdateExpense` or of `useDeleteExpense`. -/
inductive Mutation where
  | update (id : String) (patch : PatchPayload)
  | delete (id : String)

/-- What a mutation makes of the items of a page. -/
def Mutation.onItems : Mutation → List CachedExpense → List CachedExpense
  | update id patch, items =>
      items.map (fun item => if item.id = id then applyPatch item patch else item)
  | delete id, items => items.filter (fun item => item.id ≠ id)

/-- The updater of `onMutate`. -/
def Mutation.onData (m : Mutation) (old : InfiniteData) : InfiniteData :=
  { old with pages := old.pages.map (fun page => { page with items := m.onItems page.items }) }

/-- `setQueriesData` in `onMutate`. -/
def onMutate (m : Mutation) (cache : Cache) : Cache := fun key => (cache key).map m.onData

/-- `setQueryData` for every saved query in `onError`; a query that had no data is left alone. -/
def onError (previous cache : Cache) : Cache := fun key => (previous key).or (cache key)

/-- The cache as a store with snapshots: its shape is which queries have data. -/
def store : Store Cache Mutation (Filters → Bool) where
  apply := onMutate
  restore := onError
  shape cache := fun key => (cache key).isSome
  shape_apply m cache := by
    funext key
    exact Option.isSome_map
  restore_of_shape previous cache h := by
    funext key
    have hkey : (previous key).isSome = (cache key).isSome := congrFun h key
    rw [onError]
    cases hprevious : previous key with
    | none =>
        rw [hprevious] at hkey
        exact Option.isNone_iff_eq_none.1 (Option.isSome_eq_false_iff.1 hkey.symm)
    | some data => rfl

/-! ## Edits of one expense -/

/-- The patch of an edit of the amount. -/
def amountPatch (amount : String) : PatchPayload := ⟨none, some amount, none, none, none, none⟩

/-- An expense of some amount. -/
def expenseOf (id amount : String) : CachedExpense where
  id := id
  userId := "u"
  merchantName := "Acme"
  amount := amount
  currency := "USD"
  category := .other
  expenseDate := "2026-04-01"
  description := none
  source := .manual
  receiptId := none
  createdAt := ""
  updatedAt := ""

/-- One list, of one page. -/
def onePage (items : List CachedExpense) : Cache :=
  fun _ => some ⟨[⟨items, none⟩], [none]⟩

/-- An amount of so many ones. -/
def ones (n : ℕ) : String := String.ofList (List.replicate n '1')

theorem ones_injective : Function.Injective ones := by
  intro m n h
  have hlength := congrArg List.length (String.ofList_injective h)
  rwa [List.length_replicate, List.length_replicate] at hlength

/-- The expense that is edited again and again: the `k`-th edit writes `k + 1` ones. -/
def editedTo (k : Option ℕ) : Cache := onePage [expenseOf "e" (ones (k.elim 0 Nat.succ))]

def edits (k : ℕ) : Mutation := .update "e" (amountPatch (ones k.succ))

theorem replay_edits (is : List ℕ) :
    replay store edits (editedTo none) is = editedTo is.getLast? := by
  induction is using List.reverseRecOn with
  | nil => rfl
  | append_singleton is i ih =>
      rw [replay_append, ih, List.getLast?_concat]
      rfl

/-- The last edit can be read off the amount. -/
theorem readable_edits : Readable store edits (editedTo none) := by
  intro is js h
  rw [replay_edits, replay_edits] at h
  have hpage := congrFun h ⟨none, none, none, none⟩
  have hamount : ones (is.getLast?.elim 0 Nat.succ) = ones (js.getLast?.elim 0 Nat.succ) := by
    simpa [editedTo, onePage, expenseOf] using hpage
  have hcount := ones_injective hamount
  cases hi : is.getLast? with
  | none =>
      cases hj : js.getLast? with
      | none => rfl
      | some j =>
          rw [hi, hj] at hcount
          cases hcount
  | some i =>
      cases hj : js.getLast? with
      | none =>
          rw [hi, hj] at hcount
          cases hcount
      | some j =>
          rw [hi, hj] at hcount
          rw [Nat.succ.inj hcount]

/-! ## Rolling back -/

/-- **When a rollback undoes only its own mutation**: whatever the pages and the mutations are, in
the schedules in which a mutation that fails is the last one that has not failed, and in no
others. -/
theorem rollsBack_iff (es : List Event) :
    (∀ original content es₁ es₂, es = es₁ ++ es₂ →
      RollsBack store content original (run (step store content) (Optimistic.start original) es₁)) ↔
      Along schedule LastFails [] es := by
  constructor
  · intro h
    exact (rollsBack_along_iff readable_edits es).1 (h (editedTo none) edits)
  · rintro hlast original content es₁ es₂ rfl
    exact rollsBack_of_along hlast

/-! ## Two edits -/

/-- Two expenses, of one and of two dollars. -/
def twoExpenses : Cache := onePage [expenseOf "a" "1.00", expenseOf "b" "2.00"]

/-- One is edited to five dollars, the other to seven. -/
def twoEdits : ℕ → Mutation
  | 0 => .update "a" (amountPatch "5.00")
  | _ => .update "b" (amountPatch "7.00")

/-- The first edit fails while the second one is pending, and the second one is gone as well. -/
theorem not_rollsBack_overlapping :
    (run (step store twoEdits) (Optimistic.start twoExpenses) [.start, .start, .fail 0]).now
        ⟨none, none, none, none⟩ = twoExpenses ⟨none, none, none, none⟩ ∧
      ¬RollsBack store twoEdits twoExpenses
        (run (step store twoEdits) (Optimistic.start twoExpenses) [.start, .start, .fail 0]) := by
  refine ⟨by decide, fun h => ?_⟩
  have hpage := congrFun h ⟨none, none, none, none⟩
  revert hpage
  decide

end ExpenseCache

end SpendLens
