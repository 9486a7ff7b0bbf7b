/-
# What the corrections have learned

A patch that changes a category records a correction, an upsert that counts how often it was
made.  Beside the sessions runs a log of these upserts, in the order in which they are committed.
The table is what the log says, whatever runs and however it is interleaved: the counter of a
merchant has counted every committed upsert once, and the category is the last one's.  A patch
adds at most one entry, the correction of the row it has read, and exactly that one if it
returns.
-/
import SpendLens.Lib.UpdateLog
import SpendLens.PlaceholderMerchant

namespace SpendLens

namespace CorrectionLog

variable {ι : Type} [DecidableEq ι] {env : Env}

/-! ## The log -/

/-- The upserts of a run: the user, the normalised merchant and the category. -/
abbrev Log (ι : Type) : Type := UpdateLog ι (UUID × String) ExpenseCategory

/-- What has been recorded, and the expenses each session was answered first. -/
structure History (ι : Type) where
  log : Log ι
  read : ι → Option (List Expense)

/-- What an operation adds to the log.  A statement that fails rolls its transaction back, and so
does a commit that is struck before it takes effect. -/
def logged (env : Env) (i : ι) (o : Op) (r : Except PyExc o.Res) (w : World ι) (log : Log ι) :
    Log ι :=
  match o, r with
  | .sql (.upsertCorrection userId merchant category), .ok _ =>
      log.stage i ((userId, merchant), category)
  | .sql _, .ok _ => log
  | .sql _, .error _ => if w.failed i then log else log.rollback i
  | .commit, _ =>
      if w.failed i then log
      else if env.fault w.calls = .before then log.rollback i
      else log.commit i
  | .rollback, _ => log.rollback i
  | _, _ => log

/-- The first rows of expenses a session is answered. -/
def readBy (i : ι) (o : Op) (r : Except PyExc o.Res) (read : ι → Option (List Expense)) :
    ι → Option (List Expense) :=
  match o, r with
  | .sql (.selectExpenses _ _), .ok rows => Function.update read i (some ((read i).getD rows))
  | _, _ => read

/-- What an answered operation adds to the history. -/
def History.watch (env : Env) (i : ι) (o : Op) (r : Except PyExc o.Res) (w : World ι)
    (h : History ι) : History ι :=
  ⟨logged env i o r w h.log, readBy i o r h.read⟩

/-- A session ends, and what it has not committed is gone. -/
def History.ended (i : ι) (h : History ι) : History ι := { h with log := h.log.rollback i }

/-- The backend, with the log and what the sessions have read as a history. -/
def recording (env : Env) : Machine ι Op.Res PyExc (World ι × History ι) Empty :=
  (backend env).withHistory (History.watch env) History.ended

/-- Nothing has been recorded yet. -/
def unrecorded {α : Type} (c : Config ι Op.Res PyExc α (World ι)) :
    Config ι Op.Res PyExc α (World ι × History ι) :=
  ⟨c.threads, (c.shared, ⟨UpdateLog.empty, fun _ => none⟩)⟩

/-- What a run records. -/
def recorded {α : Type} (env : Env) (c : Config ι Op.Res PyExc α (World ι))
    (as : List (Machine.Action ι Empty)) : History ι :=
  ((recording env).run (unrecorded c) as).shared.2

/-- Recording leaves the run as it is. -/
theorem shared_recording {α : Type} (c : Config ι Op.Res PyExc α (World ι))
    (as : List (Machine.Action ι Empty)) :
    ((recording env).run (unrecorded c) as).shared.1 = ((backend env).run c as).shared :=
  congrArg Config.shared (Machine.forget_run (unrecorded c) as)

theorem threads_recording {α : Type} (c : Config ι Op.Res PyExc α (World ι))
    (as : List (Machine.Action ι Empty)) :
    ((recording env).run (unrecorded c) as).threads = ((backend env).run c as).threads :=
  congrArg Config.threads (Machine.forget_run (unrecorded c) as)

/-- What an upsert makes of a row. -/
def recordRow (key : UUID × String) (row : Option CategoryCorrection) (category : ExpenseCategory) :
    CategoryCorrection :=
  ⟨key.1, key.2, category, row.elim 0 CategoryCorrection.occurrenceCount + 1⟩

/-- Every upsert counts once. -/
theorem count_replayRow (key : UUID × String) (row : Option CategoryCorrection)
    (categories : List ExpenseCategory) :
    (replayRow (recordRow key) row categories).elim 0 CategoryCorrection.occurrenceCount =
      row.elim 0 CategoryCorrection.occurrenceCount + categories.length := by
  induction categories using List.reverseRecOn with
  | nil => rfl
  | append_singleton categories category ih =>
      rw [replayRow_append, List.length_append, ← Nat.add_assoc, ← ih]
      rfl

/-- The row after some upserts: the last category, all of them counted. -/
theorem replayRow_recordRow (key : UUID × String) (row : Option CategoryCorrection)
    (categories : List ExpenseCategory) :
    replayRow (recordRow key) row categories =
      (categories.getLast?.map fun category => (⟨key.1, key.2, category,
        row.elim 0 CategoryCorrection.occurrenceCount + categories.length⟩ :
          CategoryCorrection)).or row := by
  induction categories using List.reverseRecOn with
  | nil => rfl
  | append_singleton categories category _ =>
      have hcount := count_replayRow key row categories
      rw [replayRow_append, List.getLast?_append]
      show some (recordRow key (replayRow (recordRow key) row categories) category) = _
      rw [recordRow, hcount, List.length_append]
      rfl

/-! ## The table is what the log says -/

section replays

variable {i : ι} {w w' : World ι} {log : Log ι}
  {T : Table CategoryCorrection (UUID × String) CategoryCorrection.key}

/-- An upsert that takes effect has found its row unlocked. -/
theorem upsertCorrection_ok {now : Timestamp} {db db' : Db ι} {userId : UUID} {merchant : String}
    {category : ExpenseCategory} {a : Unit}
    (h : (Stmt.upsertCorrection userId merchant category).exec now i db = some (.ok a, db')) :
    db.corrections.locked i (userId, merchant) = false ∧
      (textOk merchant && merchant.length ≤ 255) = true ∧
      db'.corrections = db.corrections.stage i (.put (recordRow (userId, merchant)
        ((db.corrections.view i).get (userId, merchant)) category)) := by
  simp only [Stmt.exec] at h
  split at h
  · rename_i hok
    split at h
    · cases h
    · rename_i hlock
      cases h
      exact ⟨Bool.not_eq_true _ ▸ hlock, hok, rfl⟩
  · cases h

/-- **One operation** keeps the table and its log together. -/
theorem replays_exec {o : Op} {r : Except PyExc o.Res} (hx : exec env i o w = some (r, w'))
    (h : Replays recordRow T w.db.corrections log) :
    Replays recordRow T w'.db.corrections (logged env i o r w log) := by
  cases o with
  | sql s =>
      rcases exec_sql_cases hx with ⟨hf, rfl, rfl⟩ | ⟨hf, ⟨e, rfl⟩, rfl⟩ | ⟨a, db, -, rfl, hs, rfl⟩
      · have hsame : logged env i (.sql s) (.error .pendingRollback) w log = log := by
          cases s <;> exact if_pos hf
        rw [hsame]
        exact h
      · have hback : logged env i (.sql s) (.error e) w log = log.rollback i := by
          cases s <;> exact if_neg (by rw [hf]; exact Bool.false_ne_true)
        rw [hback]
        exact h.rollback i
      · by_cases hw : s.writesCorrections = true
        · cases s with
          | upsertCorrection userId merchant category =>
              obtain ⟨hlock, -, hdb⟩ := upsertCorrection_ok hs
              show Replays recordRow T db.corrections _
              rw [hdb]
              exact h.stage rfl rfl hlock
          | _ => cases hw
        · have hsame : logged env i (.sql s) (.ok a) w log = log := by
            cases s <;> first | rfl | exact absurd rfl hw
          rw [hsame]
          show Replays recordRow T db.corrections log
          rw [(Stmt.exec_frame hs).corrections (Bool.not_eq_true _ ▸ hw)]
          exact h
  | commit =>
      simp only [exec] at hx
      by_cases hf : w.failed i = true
      · rw [if_pos hf] at hx
        cases hx
        rw [show logged env i .commit _ w log = log from if_pos hf]
        exact h
      · rw [if_neg hf] at hx
        have hlog : ∀ r, logged env i .commit r w log =
            if env.fault w.calls = .before then log.rollback i else log.commit i :=
          fun r => if_neg hf
        rw [hlog]
        cases hfault : env.fault w.calls with
        | none =>
            rw [hfault] at hx
            cases hx
            exact h.commit i
        | before =>
            rw [hfault] at hx
            cases hx
            exact h.rollback i
        | after =>
            rw [hfault] at hx
            cases hx
            have hboth := (h.commit i).rollback i
            rwa [UpdateLog.rollback_commit] at hboth
  | rollback =>
      cases hx
      exact h.rollback i
  | _ =>
      have hdb := (exec_outside hx (by simp) (by simp) (by simp)).1
      rw [hdb]
      exact h

/-- The texts of the log are texts the database has taken. -/
def Texts (log : Log ι) : Prop :=
  (∀ u ∈ log.committed, textOk u.2.1.2 = true) ∧ ∀ j, ∀ u ∈ log.pending j, textOk u.1.2 = true

theorem Texts.rollback (h : Texts log) (i : ι) : Texts (log.rollback i) := by
  refine ⟨h.1, fun j u hu => ?_⟩
  rw [UpdateLog.pending_rollback] at hu
  split at hu
  · cases hu
  · exact h.2 j u hu

theorem Texts.commit (h : Texts log) (i : ι) : Texts (log.commit i) := by
  refine ⟨fun u hu => ?_, fun j u hu => ?_⟩
  · rcases List.mem_append.1 hu with hu | hu
    · exact h.1 u hu
    · obtain ⟨v, hv, rfl⟩ := List.mem_map.1 hu
      exact h.2 i v hv
  · rw [UpdateLog.pending_commit] at hu
    split at hu
    · cases hu
    · exact h.2 j u hu

theorem Texts.stage (h : Texts log) (i : ι) {u : (UUID × String) × ExpenseCategory}
    (hu : textOk u.1.2 = true) : Texts (log.stage i u) := by
  refine ⟨h.1, fun j v hv => ?_⟩
  rw [UpdateLog.pending_stage] at hv
  split at hv
  · rcases List.mem_append.1 hv with hv | hv
    · exact h.2 i v hv
    · rw [List.mem_singleton.1 hv]
      exact hu
  · exact h.2 j v hv

theorem texts_exec {o : Op} {r : Except PyExc o.Res} (hx : exec env i o w = some (r, w'))
    (h : Texts log) : Texts (logged env i o r w log) := by
  unfold logged
  split
  · rename_i userId merchant category a
    rcases exec_sql_cases hx with ⟨-, hr, -⟩ | ⟨-, ⟨e, hr⟩, -⟩ | ⟨a, db, -, -, hs, -⟩
    · cases hr
    · cases hr
    · obtain ⟨-, hok, -⟩ := upsertCorrection_ok hs
      rw [Bool.and_eq_true] at hok
      exact h.stage i hok.1
  · exact h
  · split
    · exact h
    · exact h.rollback i
  · split
    · exact h
    · split
      · exact h.rollback i
      · exact h.commit i
  · exact h.rollback i
  · exact h

end replays

/-! ## Every run -/

section runs

variable {α : Type}

/-- **What has been learned**: the corrections are the committed upserts, each counted once and
the last one's category on top, and the chain answers with that category, in a session that has
recorded nothing itself and is not struck by a fault. -/
structure Learned (env : Env) (T : Table CategoryCorrection (UUID × String) CategoryCorrection.key)
    (w : World ι) (log : Log ι) : Prop where
  row : ∀ userId merchant, w.db.corrections.committed.get (userId, merchant) =
    ((log.row (userId, merchant)).getLast?.map fun category => (⟨userId, merchant, category,
      (T.get (userId, merchant)).elim 0 CategoryCorrection.occurrenceCount +
        (log.row (userId, merchant)).length⟩ : CategoryCorrection)).or (T.get (userId, merchant))
  chosen : ∀ i userId merchant category, merchant ≠ "" →
    (log.row (userId, normaliseMerchant env.unicode merchant)).getLast? = some category →
    log.pending i = [] → w.failed i = false → env.fault w.calls = .none →
    (Prog.run ((backend env).alone i) (categoriseMerchant env userId (some merchant)) w).1 =
      .ok category

omit [DecidableEq ι] in
/-- The text of a merchant that the log names. -/
theorem Texts.of_row {log : Log ι} (h : Texts log) {userId : UUID} {merchant : String}
    {category : ExpenseCategory} (hlast : (log.row (userId, merchant)).getLast? = some category) :
    textOk merchant = true := by
  have hmem := List.mem_of_getLast? hlast
  obtain ⟨u, hu, -⟩ := List.mem_map.1 hmem
  obtain ⟨hu, hkey⟩ := List.mem_filter.1 hu
  obtain ⟨v, hv, rfl⟩ := List.mem_map.1 hu
  have htext := h.1 v hv
  rwa [of_decide_eq_true hkey] at htext

/-- A statement that takes effect. -/
theorem exec_sql_ok {w : World ι} {i : ι} {s : Stmt} {r : s.Res} {db : Db ι}
    (hf : w.failed i = false) (hup : env.fault w.calls = .none)
    (hs : s.exec (env.clock w.calls) i w.db = some (.ok r, db)) :
    exec env i (.sql s) w = some (.ok r, { w with db := db }.tick) := by
  simp only [exec, hf, hup, hs, Bool.false_eq_true, if_false, ne_eq, not_true_eq_false]

/-- The correction of a user for a merchant is found by its key. -/
theorem filter_isCorrection {C : Table CategoryCorrection (UUID × String) CategoryCorrection.key}
    {userId : UUID} {normalised : String} {c : CategoryCorrection}
    (hrow : C.get (userId, normalised) = some c) :
    C.rows.filter (isCorrection userId normalised) = [c] := by
  have hkey := Table.filter_key C (userId, normalised) (fun _ => true)
  rw [hrow, Option.filter_some_pos rfl, Option.toList_some] at hkey
  rw [← hkey]
  congr 1
  funext v
  rw [isCorrection, Bool.and_true, ← Bool.decide_and]
  exact decide_eq_decide.2 ⟨fun h => Prod.ext h.1 h.2, fun h => Prod.mk.inj h⟩

/-- **The chain answers the row of the merchant** before it asks anybody else. -/
theorem run_categoriseMerchant {w : World ι} {i : ι} {userId : UUID} {merchant : String}
    {c : CategoryCorrection} (hne : merchant ≠ "")
    (htext : textOk (normaliseMerchant env.unicode merchant) = true)
    (hrow : (w.db.corrections.view i).get (userId, normaliseMerchant env.unicode merchant) = some c)
    (hf : w.failed i = false) (hup : env.fault w.calls = .none) :
    (Prog.run ((backend env).alone i) (categoriseMerchant env userId (some merchant)) w).1 =
      .ok c.category := by
  have hempty : ¬merchant.isEmpty = true := by
    rw [String.isEmpty_iff]
    exact hne
  have hselect : select w.db.corrections i [.text (normaliseMerchant env.unicode merchant)]
      (isCorrection userId (normaliseMerchant env.unicode merchant)) = .ok [c] := by
    have hparam : [Param.text (normaliseMerchant env.unicode merchant)].all Param.ok = true := by
      rw [List.all_cons, List.all_nil, Bool.and_true]
      exact htext
    rw [select, if_pos hparam, filter_isCorrection hrow]
  have hs : (Stmt.selectCorrections [.text (normaliseMerchant env.unicode merchant)]
      (isCorrection userId (normaliseMerchant env.unicode merchant))).exec (env.clock w.calls) i
        w.db = some (.ok [c], w.db) := by
    rw [← hselect]
    rfl
  have halone : (backend env).alone i (.sql (.selectCorrections
      [.text (normaliseMerchant env.unicode merchant)]
      (isCorrection userId (normaliseMerchant env.unicode merchant)))) w = (.ok [c], w.tick) :=
    congrArg (fun x => x.getD (.error .workerLost, w)) (exec_sql_ok hf hup hs)
  rw [categoriseMerchant, if_neg hempty]
  exact congrArg Prod.fst (Prog.run_perform_ok _ halone)

/-- The table and its log stay together in every run. -/
theorem replays_run (threads : ι → Prog Op.Res PyExc α) {w : World ι}
    (hpending : w.db.corrections.pending = []) (as : List (Machine.Action ι Empty)) :
    Replays recordRow w.db.corrections.committed
        ((backend env).run ⟨threads, w⟩ as).shared.db.corrections
        (recorded env ⟨threads, w⟩ as).log ∧
      Texts (recorded env ⟨threads, w⟩ as).log := by
  have hstep : ∀ (c : Config ι Op.Res PyExc α (World ι × History ι))
      (a : Machine.Action ι Empty), True →
      Replays recordRow w.db.corrections.committed c.shared.1.db.corrections c.shared.2.log ∧
        Texts c.shared.2.log →
      Replays recordRow w.db.corrections.committed
          ((recording env).act c a).shared.1.db.corrections
          ((recording env).act c a).shared.2.log ∧
        Texts ((recording env).act c a).shared.2.log := by
    rintro c a - ⟨hreplays, htexts⟩
    rcases Machine.act_cases (recording env) c a with
      hsh | ⟨i, hsh⟩ | ⟨e, -⟩ | ⟨i, o, k, r, x', -, -, hx, hsh⟩
    · rw [hsh]
      exact ⟨hreplays, htexts⟩
    · rw [hsh]
      exact ⟨hreplays.rollback i, htexts.rollback i⟩
    · exact e.elim
    · obtain ⟨w', hexec, rfl⟩ := Machine.exec_withHistory hx
      rw [hsh]
      exact ⟨replays_exec hexec hreplays, texts_exec hexec htexts⟩
  have hrun := Machine.invariant_run hstep
    (Machine.along_of_forall (M := recording env) (fun _ _ => trivial)
      (unrecorded ⟨threads, w⟩) as) ⟨?_, ?_⟩
  · rw [← shared_recording]
    exact hrun
  · show Replays recordRow w.db.corrections.committed w.db.corrections UpdateLog.empty
    rw [Store.eq_ofTable hpending]
    exact Replays.start _
  · exact ⟨fun u hu => absurd hu List.not_mem_nil, fun j u hu => absurd hu List.not_mem_nil⟩

/-- **No correction is lost and none counts twice**, whatever runs and however it is
interleaved, killed and struck by faults; and the chain follows the last one. -/
theorem learned_run (threads : ι → Prog Op.Res PyExc α) {w : World ι}
    (hpending : w.db.corrections.pending = []) (as : List (Machine.Action ι Empty)) :
    Learned env w.db.corrections.committed ((backend env).run ⟨threads, w⟩ as).shared
      (recorded env ⟨threads, w⟩ as).log := by
  obtain ⟨hreplays, htexts⟩ := @replays_run _ _ env _ threads _ hpending as
  have hrow : ∀ userId merchant,
      ((backend env).run ⟨threads, w⟩ as).shared.db.corrections.committed.get (userId, merchant) =
        (((recorded env ⟨threads, w⟩ as).log.row (userId, merchant)).getLast?.map
          fun category => (⟨userId, merchant, category,
            (w.db.corrections.committed.get (userId, merchant)).elim 0
              CategoryCorrection.occurrenceCount +
              ((recorded env ⟨threads, w⟩ as).log.row (userId, merchant)).length⟩ :
                CategoryCorrection)).or (w.db.corrections.committed.get (userId, merchant)) :=
    fun userId merchant => (hreplays.committed _).trans (replayRow_recordRow _ _ _)
  refine ⟨hrow, fun i userId merchant category hne hlast hidle hf hup => ?_⟩
  have hview := hreplays.get_view i (userId, normaliseMerchant env.unicode merchant)
  rw [hidle] at hview
  have hget := hview.trans (hrow userId _)
  rw [hlast] at hget
  exact run_categoriseMerchant hne (htexts.of_row hlast) hget hf hup

end runs

/-- Two expenses of one merchant. -/
def sampleDb : Db Bool :=
  { Db.ofUsers [⟨7, "0123456789abcdef0123456789abcdef"⟩] with
    expenses := Store.ofTable ⟨[{ Placeholder.sampleExpense with merchantName := "Corner Shop" },
      { Placeholder.sampleExpense with
        id := 2, merchantName := " corner shop", receiptId := none }], by decide⟩ }

/-- The user files both at once. -/
def racingPatches : Bool → Service Unit
  | false =>
      (Placeholder.Call.patch 7 1 (Placeholder.toCategory .groceries none) none).program Env.quiet
  | true =>
      (Placeholder.Call.patch 7 2 (Placeholder.toCategory .shopping none) none).program Env.quiet

/-- Both have read and written their rows before one of them upserts. -/
def racingSteps : List (Machine.Action Bool Empty) :=
  [.step false, .step true, .step false, .step true, .step false, .step true, .step false,
    .step true, .step true, .step false]

theorem learned_run_sample :
    Learned Env.quiet Table.empty
      ((backend Env.quiet).run ⟨racingPatches, World.ofDb sampleDb⟩ racingSteps).shared
      (recorded Env.quiet ⟨racingPatches, World.ofDb sampleDb⟩ racingSteps).log :=
  learned_run (w := World.ofDb sampleDb) racingPatches rfl racingSteps

/-- The second one waits for the lock of the first, and counts on top of it. -/
example : (((backend Env.quiet).run ⟨racingPatches, World.ofDb sampleDb⟩
    racingSteps).shared.db.corrections.committed.get (7, "corner shop")) =
      some ⟨7, "corner shop", .shopping, 2⟩ := by decide +kernel

/-! ## What one session records -/

/-- One upsert. -/
abbrev Entry : Type := (UUID × String) × ExpenseCategory

/-- What a patch of a row records: its correction, under the normalised merchant. -/
def due (env : Env) (userId : UUID) (patch : ExpensePatch) (e : Expense) : List Entry :=
  ((patch.correction e).map fun mc =>
    ((userId, normaliseMerchant env.unicode mc.1), mc.2)).toList

/-- What there is of a session in the history. -/
structure Knowledge where
  read : Option (List Expense)
  pending : List Entry
  committed : List Entry

def History.knowledge (h : History ι) (i : ι) : Knowledge :=
  ⟨h.read i, h.log.pending i, h.log.of i⟩

/-- These are the upserts of a call: it is a patch, the session has read its row, the row is the
user's and as the request expects it, and they are its correction. -/
def Knowledge.Due (env : Env) (call : Placeholder.Call) (q : Knowledge) (us : List Entry) : Prop :=
  ∃ userId expenseId patch ifMatch e, call = .patch userId expenseId patch ifMatch ∧
    q.read = some [e] ∧ e.id = expenseId ∧ e.userId = userId ∧ isStale env ifMatch e = false ∧
      us = due env userId patch e

/-- What a call may ask for. -/
def MayRecord (env : Env) (call : Placeholder.Call) (q : Knowledge) (o : Op) : Prop :=
  match call with
  | .patch _ _ _ _ =>
      match o with
      | .sql (.upsertCorrection userId merchant category) =>
          q.committed = [] ∧ q.Due env call (q.pending ++ [((userId, merchant), category)])
      | .commit => q.committed = [] ∧ q.Due env call q.pending
      | _ => True
  | _ => Placeholder.RecordsNothing o

/-- How an answer moves what is known.  An exception may have rolled the transaction back, and one
that a commit raises may have come after it took effect. -/
def Knowledge.Next (q : Knowledge) (o : Op) (r : Except PyExc o.Res) (q' : Knowledge) : Prop :=
  match o, r with
  | .sql (.selectExpenses _ p), .ok rows =>
      q' = { q with read := some (q.read.getD rows) } ∧ ∀ e ∈ rows, p e = true
  | .sql (.upsertCorrection userId merchant category), .ok _ =>
      q' = { q with pending := q.pending ++ [((userId, merchant), category)] }
  | .commit, .ok _ => q' = ⟨q.read, [], q.committed ++ q.pending⟩
  | .rollback, .ok _ => q' = { q with pending := [] }
  | _, .ok _ => q' = q
  | .commit, .error _ =>
      q' = q ∨ q' = { q with pending := [] } ∨ q' = ⟨q.read, [], q.committed ++ q.pending⟩
  | _, .error _ => q' = q ∨ q' = { q with pending := [] }

/-- A patch has committed nothing or its correction, and nothing else records anything. -/
def Knowledge.Sound (env : Env) (call : Placeholder.Call) (q : Knowledge) : Prop :=
  match call with
  | .patch _ _ _ _ => q.committed = [] ∨ q.Due env call q.committed
  | _ => q.pending = [] ∧ q.committed = []

/-- A patch that returns has committed its correction. -/
def Knowledge.Done (env : Env) (call : Placeholder.Call) (q : Knowledge) : Prop :=
  match call with
  | .patch _ _ _ _ => q.Due env call q.committed
  | _ => True

/-- A program that keeps to what the call may record. -/
abbrev Records {α : Type} (env : Env) (call : Placeholder.Call) (post : Knowledge → α → Prop)
    (q : Knowledge) (p : Service α) : Prop :=
  p.Follows (MayRecord env call) Knowledge.Next post (fun _ _ => True) q

section patch

variable {call : Placeholder.Call} {α β : Type} {q : Knowledge} {post : Knowledge → α → Prop}

theorem Records.ret {a : α} (h : post q a) : Records env call post q (.ret a) :=
  (Prog.follows_ret a).2 h

theorem Records.raise (e : PyExc) : Records env call post q (.raise e : Service α) :=
  (Prog.follows_raise e).2 trivial

theorem Records.bind {p : Service α} {f : α → Service β} {post' : Knowledge → β → Prop}
    (hp : Records env call (fun q a => Records env call post' q (f a)) q p) :
    Records env call post' q (p.bind f) :=
  Prog.Follows.bind hp

/-- One operation in front of what it is needed for. -/
theorem Records.step {o : Op} {f : o.Res → Service α} (hmay : MayRecord env call q o)
    (hf : ∀ a q', q.Next o (.ok a) q' → Records env call post q' (f a)) :
    Records env call post q ((Prog.perform o).bind f) :=
  Records.bind (Prog.Follows.perform hmay hf (fun _ _ _ => trivial))

variable {userId expenseId : UUID} {patch : ExpensePatch} {ifMatch : Option String} {e : Expense}

/-- The row a session has read is the one it patches. -/
structure Loaded (userId expenseId : UUID) (q : Knowledge) (e : Expense) : Prop where
  read : q.read = some [e]
  id : e.id = expenseId
  owner : e.userId = userId
  pending : q.pending = []
  committed : q.committed = []

theorem records_getExpense :
    Records env (.patch userId expenseId patch ifMatch) (Loaded userId expenseId) ⟨none, [], []⟩
      (getExpense userId expenseId) := by
  refine Records.step trivial (fun rows q' hq => ?_)
  obtain ⟨rfl, hrows⟩ := hq
  rcases rows with _ | ⟨e, _ | ⟨e', rows⟩⟩
  · exact Records.raise _
  · have hkey := hrows e List.mem_cons_self
    rw [isExpenseOf, Bool.and_eq_true, decide_eq_true_eq, decide_eq_true_eq] at hkey
    exact Records.ret ⟨rfl, hkey.1, hkey.2, rfl, rfl⟩
  · exact Records.raise _

/-- The flush of the row records nothing. -/
theorem records_flush {f : Unit → Service α} (hf : Records env
      (.patch userId expenseId patch ifMatch) post q (f ())) (e : Expense) :
    Records env (.patch userId expenseId patch ifMatch) post q
      ((flushColumns ExpenseColumn.changes (fun cols => sql (.updateExpense e.id cols)) e
        patch.columns).bind f) := by
  unfold flushColumns
  simp only
  split
  · exact hf
  · refine Records.step trivial (fun a q' hq => ?_)
    obtain rfl : q' = q := hq
    exact hf

/-- Behind the row it has loaded, a patch upserts its correction. -/
theorem records_applyPatch (h : Loaded userId expenseId q e)
    (hfresh : isStale env ifMatch e = false) :
    Records env (.patch userId expenseId patch ifMatch)
      (fun q' _ => q' = ⟨q.read, due env userId patch e, []⟩) q
      (applyPatch env userId e patch) := by
  have hq : q = ⟨q.read, [], []⟩ := by
    obtain ⟨read, pending, committed⟩ := q
    obtain rfl : pending = [] := h.pending
    obtain rfl : committed = [] := h.committed
    rfl
  refine records_flush ?_ e
  cases hc : patch.correction e with
  | none =>
      have hdue : due env userId patch e = [] := by rw [due, hc]; rfl
      rw [hdue]
      exact Records.ret hq
  | some mc =>
      have hdue : due env userId patch e =
          [((userId, normaliseMerchant env.unicode mc.1), mc.2)] := by rw [due, hc]; rfl
      have hmay : MayRecord env (.patch userId expenseId patch ifMatch) q
          (.sql (.upsertCorrection userId (normaliseMerchant env.unicode mc.1) mc.2)) := by
        refine ⟨h.committed, userId, expenseId, patch, ifMatch, e, rfl, h.read, h.id, h.owner,
          hfresh, ?_⟩
        rw [h.pending, hdue]
        rfl
      refine Prog.Follows.perform hmay (fun a q' hnext => ?_) (fun _ _ _ => trivial)
      obtain rfl : q' = { q with pending := q.pending ++
        [((userId, normaliseMerchant env.unicode mc.1), mc.2)] } := hnext
      rw [hdue, h.pending, h.committed]
      rfl

/-- **Behind the row it has loaded, a patch commits its correction.** -/
theorem records_updateLoaded (h : Loaded userId expenseId q e) :
    Records env (.patch userId expenseId patch ifMatch)
      (fun q _ => q.Done env (.patch userId expenseId patch ifMatch)) q
      (Placeholder.updateLoaded env userId expenseId patch ifMatch e) := by
  unfold Placeholder.updateLoaded
  split
  · exact Records.raise _
  · rename_i hfresh
    rw [Bool.not_eq_true] at hfresh
    refine Records.bind ((records_applyPatch h hfresh).mono (fun q' _ hq' => ?_) (fun _ _ h => h))
    subst hq'
    have hdue : Knowledge.Due env (.patch userId expenseId patch ifMatch)
        ⟨q.read, due env userId patch e, []⟩ (due env userId patch e) :=
      ⟨userId, expenseId, patch, ifMatch, e, rfl, h.read, h.id, h.owner, hfresh, rfl⟩
    refine Records.step ⟨rfl, hdue⟩ (fun _ q' hq => ?_)
    obtain rfl : q' = ⟨q.read, [], [] ++ due env userId patch e⟩ := hq
    refine Records.step trivial (fun rows q' hq => ?_)
    obtain ⟨rfl, -⟩ := hq
    cases rows with
    | nil => exact Records.raise _
    | cons a rows =>
        refine Records.ret ⟨userId, expenseId, patch, ifMatch, e, rfl, ?_, h.id, h.owner, hfresh,
          rfl⟩
        show some (q.read.getD (a :: rows)) = some [e]
        rw [h.read, Option.getD_some]

/-- What a call does is what it may record. -/
theorem records_program (call : Placeholder.Call) :
    Records env call (fun q _ => q.Done env call) ⟨none, [], []⟩ (call.program env) := by
  cases call with
  | patch userId expenseId patch ifMatch =>
      refine Records.bind (Records.bind (records_getExpense.mono (fun q e he => ?_) (fun _ _ h => h)))
      exact (records_updateLoaded he).mono (fun q' _ h => Records.ret h) (fun _ _ h => h)
  | categorise receiptId =>
      exact Placeholder.asks_categoriseReceipt.follows (fun _ _ h => h) (fun _ _ _ _ _ => trivial)
        (fun _ _ _ => trivial) (fun _ _ _ => trivial)
  | other p hp =>
      exact hp.follows (fun _ _ h => h) (fun _ _ _ _ _ => trivial) (fun _ _ _ => trivial)
        (fun _ _ _ => trivial)

end patch

/-! ## Each patch is learned from once -/

section sessions

variable {calls : ι → Placeholder.Call} {g : ι → Knowledge} {w w' : World ι} {h : History ι}
  {i j : ι} {o : Op} {r : Except PyExc o.Res}

/-- What one session does leaves the history of the others. -/
theorem knowledge_watch_of_ne (hji : j ≠ i) :
    (h.watch env i o r w).knowledge j = h.knowledge j := by
  have hread : readBy i o r h.read j = h.read j := by
    unfold readBy
    split
    · exact Function.update_of_ne hji _ _
    · rfl
  have hlog : (logged env i o r w h.log).pending j = h.log.pending j ∧
      (logged env i o r w h.log).of j = h.log.of j := by
    unfold logged
    split
    · exact ⟨by rw [UpdateLog.pending_stage, if_neg hji], rfl⟩
    · exact ⟨rfl, rfl⟩
    · split
      · exact ⟨rfl, rfl⟩
      · exact ⟨by rw [UpdateLog.pending_rollback, if_neg hji], rfl⟩
    · split
      · exact ⟨rfl, rfl⟩
      · split
        · exact ⟨by rw [UpdateLog.pending_rollback, if_neg hji], rfl⟩
        · exact ⟨by rw [UpdateLog.pending_commit, if_neg hji],
            by rw [UpdateLog.of_commit, if_neg hji, List.append_nil]⟩
    · exact ⟨by rw [UpdateLog.pending_rollback, if_neg hji], rfl⟩
    · exact ⟨rfl, rfl⟩
  show Knowledge.mk (readBy i o r h.read j) ((logged env i o r w h.log).pending j)
    ((logged env i o r w h.log).of j) = _
  rw [hread, hlog.1, hlog.2]
  rfl

/-- A commit that answers moves what is pending to what is committed. -/
theorem logged_commit {a : Unit} (hx : exec env i .commit w = some (.ok a, w')) :
    logged env i .commit (.ok a) w h.log = h.log.commit i := by
  simp only [exec] at hx
  by_cases hf : w.failed i = true
  · rw [if_pos hf] at hx
    cases hx
  · rw [if_neg hf] at hx
    have hfault : env.fault w.calls ≠ .before := by
      intro hc
      rw [hc] at hx
      cases hx
    exact (if_neg hf).trans (if_neg hfault)

/-- A commit that raises has left the log, discarded or published. -/
theorem logged_commit_error (e : PyExc) :
    logged env i .commit (.error e) w h.log = h.log ∨
      logged env i .commit (.error e) w h.log = h.log.rollback i ∨
      logged env i .commit (.error e) w h.log = h.log.commit i := by
  show (if _ then _ else if _ then _ else _) = _ ∨ (if _ then _ else if _ then _ else _) = _ ∨
    (if _ then _ else if _ then _ else _) = _
  split
  · exact Or.inl rfl
  · split
    · exact Or.inr (Or.inl rfl)
    · exact Or.inr (Or.inr rfl)

theorem knowledge_rollback (i : ι) (read : ι → Option (List Expense)) (log : Log ι) :
    (History.mk (log.rollback i) read).knowledge i = ⟨read i, [], log.of i⟩ := by
  rw [History.knowledge, UpdateLog.pending_rollback, if_pos rfl]
  rfl

theorem knowledge_commit (i : ι) (read : ι → Option (List Expense)) (log : Log ι) :
    (History.mk (log.commit i) read).knowledge i = ⟨read i, [], log.of i ++ log.pending i⟩ := by
  rw [History.knowledge, UpdateLog.pending_commit, if_pos rfl, UpdateLog.of_commit, if_pos rfl]

/-- The history of the session that is answered moves as its knowledge does. -/
theorem knowledge_watch (hx : exec env i o w = some (r, w')) :
    (h.knowledge i).Next o r ((h.watch env i o r w).knowledge i) := by
  cases r with
  | error e =>
      cases o with
      | sql s =>
          have hlog : logged env i (.sql s) (.error e) w h.log = h.log ∨
              logged env i (.sql s) (.error e) w h.log = h.log.rollback i := by
            have hif : logged env i (.sql s) (.error e) w h.log =
                if w.failed i then h.log else h.log.rollback i := by cases s <;> rfl
            rw [hif]
            split
            · exact Or.inl rfl
            · exact Or.inr rfl
          have hnext : (h.watch env i (.sql s) (.error e) w).knowledge i = h.knowledge i ∨
              (h.watch env i (.sql s) (.error e) w).knowledge i =
                { h.knowledge i with pending := [] } := by
            have hread : readBy i (.sql s) (.error e) h.read = h.read := by cases s <;> rfl
            rw [History.watch, hread]
            rcases hlog with hlog | hlog
            · exact Or.inl (by rw [hlog])
            · exact Or.inr (by rw [hlog, knowledge_rollback]; rfl)
          cases s <;> exact hnext
      | commit =>
          have hwatch : h.watch env i .commit (.error e) w =
              ⟨logged env i .commit (.error e) w h.log, h.read⟩ := rfl
          rcases logged_commit_error (i := i) (w := w) (h := h) e with hlog | hlog | hlog
          · exact Or.inl (by rw [hwatch, hlog])
          · exact Or.inr (Or.inl (by rw [hwatch, hlog, knowledge_rollback]; rfl))
          · exact Or.inr (Or.inr (by rw [hwatch, hlog, knowledge_commit]; rfl))
      | rollback => exact Or.inr (knowledge_rollback i h.read h.log)
      | _ => exact Or.inl rfl
  | ok a =>
      cases o with
      | sql s =>
          cases s with
          | selectExpenses params p =>
              refine ⟨?_, exec_soundRows hx⟩
              show Knowledge.mk (Function.update h.read i (some ((h.read i).getD a)) i) _ _ = _
              rw [Function.update_self]
              rfl
          | upsertCorrection userId merchant category =>
              show Knowledge.mk (h.read i) ((h.log.stage i _).pending i) (h.log.of i) = _
              rw [UpdateLog.pending_stage, if_pos rfl]
              rfl
          | _ => rfl
      | commit =>
          show (History.mk (logged env i .commit (.ok a) w h.log) h.read).knowledge i = _
          rw [logged_commit hx, knowledge_commit]
          rfl
      | rollback => exact knowledge_rollback i h.read h.log
      | _ => rfl

/-- What was read stays, what was committed stays or grows by what was pending, and nothing comes
to be pending by itself. -/
theorem Knowledge.Next.grows {q q' : Knowledge} (hnext : q.Next o r q') :
    (∀ rows, q.read = some rows → q'.read = some rows) ∧
      (q'.committed = q.committed ∨ o = .commit ∧ q'.committed = q.committed ++ q.pending) ∧
      (Placeholder.RecordsNothing o → q.pending = [] → q'.pending = []) := by
  unfold Knowledge.Next at hnext
  split at hnext
  · obtain ⟨rfl, -⟩ := hnext
    refine ⟨fun rows hrows => ?_, Or.inl rfl, fun _ hp => hp⟩
    show some (q.read.getD _) = some rows
    rw [hrows, Option.getD_some]
  · subst hnext
    exact ⟨fun _ hrows => hrows, Or.inl rfl, fun ho => ho.elim⟩
  · subst hnext
    exact ⟨fun _ hrows => hrows, Or.inr ⟨rfl, rfl⟩, fun _ _ => rfl⟩
  · subst hnext
    exact ⟨fun _ hrows => hrows, Or.inl rfl, fun _ _ => rfl⟩
  · subst hnext
    exact ⟨fun _ hrows => hrows, Or.inl rfl, fun _ hp => hp⟩
  · rcases hnext with rfl | rfl | rfl
    · exact ⟨fun _ hrows => hrows, Or.inl rfl, fun _ hp => hp⟩
    · exact ⟨fun _ hrows => hrows, Or.inl rfl, fun _ _ => rfl⟩
    · exact ⟨fun _ hrows => hrows, Or.inr ⟨rfl, rfl⟩, fun _ _ => rfl⟩
  · rcases hnext with rfl | rfl
    · exact ⟨fun _ hrows => hrows, Or.inl rfl, fun _ hp => hp⟩
    · exact ⟨fun _ hrows => hrows, Or.inl rfl, fun _ _ => rfl⟩

/-- Upserts are due as long as the session has read the row. -/
theorem Knowledge.Due.mono {call : Placeholder.Call} {q q' : Knowledge} {us : List Entry}
    (hdue : q.Due env call us) (hread : ∀ rows, q.read = some rows → q'.read = some rows) :
    q'.Due env call us := by
  obtain ⟨userId, expenseId, patch, ifMatch, e, hcall, hq, hrest⟩ := hdue
  exact ⟨userId, expenseId, patch, ifMatch, e, hcall, hread _ hq, hrest⟩

/-- **One operation keeps what is committed sound.** -/
theorem sound_next {call : Placeholder.Call} {q q' : Knowledge} (hq : q.Sound env call)
    (hmay : MayRecord env call q o) (hnext : q.Next o r q') : q'.Sound env call := by
  obtain ⟨hread, hcommitted, hpending⟩ := hnext.grows
  cases call with
  | patch userId expenseId patch ifMatch =>
      rcases hcommitted with hsame | ⟨rfl, hgrown⟩
      · show q'.committed = [] ∨ q'.Due env _ q'.committed
        rw [hsame]
        exact Or.imp_right (fun hdue => hdue.mono hread) hq
      · obtain ⟨hnone, hdue⟩ := hmay
        refine Or.inr ?_
        rw [hgrown, hnone, List.nil_append]
        exact hdue.mono hread
  | categorise receiptId | other p hp =>
      refine ⟨hpending hmay hq.1, ?_⟩
      rcases hcommitted with hsame | ⟨-, hgrown⟩
      · exact hsame.trans hq.2
      · rw [hgrown, hq.1, hq.2]
        rfl

/-- Where the sessions are, as the history has it, and that they have recorded soundly. -/
structure Recording (env : Env) (calls : ι → Placeholder.Call) (g : ι → Knowledge)
    (x : World ι × History ι) : Prop where
  history : ∀ i, g i = x.2.knowledge i
  sound : ∀ i, (g i).Sound env (calls i)

theorem Recording.ended {x : World ι × History ι} (hg : Recording env calls g x) (i : ι) :
    Recording env calls (Function.update g i { g i with pending := [] })
      (x.1.close i, History.ended i x.2) := by
  refine ⟨fun j => ?_, fun j => ?_⟩
  · by_cases hji : j = i
    · subst hji
      rw [Function.update_self, hg.history j]
      exact (knowledge_rollback j x.2.read x.2.log).symm
    · rw [Function.update_of_ne hji, hg.history j]
      show _ = Knowledge.mk (x.2.read j) ((x.2.log.rollback i).pending j) (x.2.log.of j)
      rw [UpdateLog.pending_rollback, if_neg hji]
      rfl
  · by_cases hji : j = i
    · subst hji
      rw [Function.update_self]
      have hsound := hg.sound j
      cases hcall : calls j with
      | patch userId expenseId patch ifMatch =>
          rw [hcall] at hsound
          exact hsound
      | categorise receiptId | other p hp =>
          rw [hcall] at hsound
          exact ⟨rfl, hsound.2⟩
    · rw [Function.update_of_ne hji]
      exact hg.sound j

/-- **What the sessions know is kept in every run.** -/
theorem keeps_recording :
    (recording env : Machine ι Op.Res PyExc (World ι × History ι) Empty).Keeps
      (Recording env calls) (fun i => MayRecord env (calls i)) (fun _ => Knowledge.Next)
      (fun i q (_ : Unit) => q.Done env (calls i)) (fun _ _ _ => True) (fun _ _ _ => True)
      True where
  step := by
    intro g x i o r x' hg hmay _ hx
    obtain ⟨w', hexec, rfl⟩ := Machine.exec_withHistory hx
    have hnext : (g i).Next o r ((x.2.watch env i o r x.1).knowledge i) := by
      rw [hg.history i]
      exact knowledge_watch hexec
    refine ⟨_, hnext, ⟨fun j => ?_, fun j => ?_⟩⟩
    · by_cases hji : j = i
      · subst hji
        rw [Function.update_self]
      · rw [Function.update_of_ne hji, knowledge_watch_of_ne hji]
        exact hg.history j
    · by_cases hji : j = i
      · subst hji
        rw [Function.update_self]
        exact sound_next (hg.sound j) hmay hnext
      · rw [Function.update_of_ne hji]
        exact hg.sound j
  ret := by
    intro g x i a hg hdone
    refine ⟨{ g i with pending := [] }, ?_, hg.ended i⟩
    cases hcall : calls i with
    | patch userId expenseId patch ifMatch =>
        rw [hcall] at hdone
        exact hdone
    | categorise receiptId | other p hp => trivial
  raise := fun {g x i e} hg _ => ⟨{ g i with pending := [] }, trivial, hg.ended i⟩
  kill := fun {g x i} _ hg => ⟨{ g i with pending := [] }, trivial, hg.ended i⟩
  event := fun {_ _ e} _ => e.elim

/-- What a patch has committed is the correction of the row it has read, which is the user's and
as the request expects it. -/
def Teaches (env : Env) (h : History ι) (i : ι) (userId expenseId : UUID) (patch : ExpensePatch)
    (ifMatch : Option String) : Prop :=
  ∃ e, h.read i = some [e] ∧ e.id = expenseId ∧ e.userId = userId ∧ isStale env ifMatch e = false ∧
    h.log.of i = due env userId patch e

/-- **A patch is learned from once**, or not at all if it fails; nothing else is learned from. -/
structure LearnsOnce (env : Env) (calls : ι → Placeholder.Call)
    (c : Config ι Op.Res PyExc Unit (World ι)) (h : History ι) : Prop where
  patch : ∀ i userId expenseId patch ifMatch, calls i = .patch userId expenseId patch ifMatch →
    h.log.of i = [] ∨ Teaches env h i userId expenseId patch ifMatch
  returned : ∀ i userId expenseId patch ifMatch, calls i = .patch userId expenseId patch ifMatch →
    c.threads i = .ret () → Teaches env h i userId expenseId patch ifMatch
  nothing : ∀ i, (∀ userId expenseId patch ifMatch,
    calls i ≠ .patch userId expenseId patch ifMatch) → h.log.of i = []

theorem Knowledge.Due.teaches {userId expenseId : UUID} {patch : ExpensePatch}
    {ifMatch : Option String} (hdue : (h.knowledge i).Due env (.patch userId expenseId patch ifMatch)
      (h.knowledge i).committed) : Teaches env h i userId expenseId patch ifMatch := by
  obtain ⟨userId', expenseId', patch', ifMatch', e, hcall, hread, hid, howner, hfresh, hlog⟩ := hdue
  cases hcall
  exact ⟨e, hread, hid, howner, hfresh, hlog⟩

/-- **Each patch is learned from once**, in every interleaving of patches with tasks and with
whatever else records no correction. -/
theorem learnsOnce_run (env : Env) (calls : ι → Placeholder.Call) (w : World ι)
    (as : List (Machine.Action ι Empty)) :
    LearnsOnce env calls ((backend env).run ⟨fun i => (calls i).program env, w⟩ as)
      (recorded env ⟨fun i => (calls i).program env, w⟩ as) := by
  have hstart : Machine.Followed (Recording env calls) (fun i => MayRecord env (calls i))
      (fun _ => Knowledge.Next) (fun i q (_ : Unit) => q.Done env (calls i)) (fun _ _ _ => True)
      (unrecorded ⟨fun i => (calls i).program env, w⟩) := by
    refine ⟨fun _ => ⟨none, [], []⟩, ⟨fun i => rfl, fun i => ?_⟩,
      fun i => records_program (calls i)⟩
    cases calls i with
    | patch userId expenseId patch ifMatch => exact Or.inl rfl
    | categorise receiptId | other p hp => exact ⟨rfl, rfl⟩
  have hok : (recording env).Along (Machine.OpOk (fun _ _ _ => True) True)
      (unrecorded ⟨fun i => (calls i).program env, w⟩) as := by
    refine Machine.along_of_forall (fun c a => ?_) _ as
    cases a with
    | step i => exact fun _ _ _ => trivial
    | kill i => trivial
    | event e => trivial
  obtain ⟨g, hg, hfollows⟩ := keeps_recording.run hok hstart
  refine ⟨fun i userId expenseId patch ifMatch hcall => ?_,
    fun i userId expenseId patch ifMatch hcall hret => ?_, fun i hno => ?_⟩
  · have hsound := hg.sound i
    rw [hcall, hg.history i] at hsound
    exact Or.imp_right Knowledge.Due.teaches hsound
  · have hdone := hfollows i
    rw [threads_recording, hret] at hdone
    have hdone : (g i).Done env (calls i) := (Prog.follows_ret ()).1 hdone
    rw [hcall, hg.history i] at hdone
    exact Knowledge.Due.teaches hdone
  · have hsound := hg.sound i
    rw [hg.history i] at hsound
    cases hcall : calls i with
    | patch userId expenseId patch ifMatch => exact absurd hcall (hno _ _ _ _)
    | categorise receiptId | other p hp =>
        rw [hcall] at hsound
        exact hsound.2

end sessions

end CorrectionLog

end SpendLens
