/-
# A backend for each tenant

All users share one backend, and to each of them it is a backend of his own: in any sequence of
requests, the answers one of them gets are those of a private backend that serves his requests
alone, each at the time at which it came.
-/
import SpendLens.TenantIsolation

namespace SpendLens

namespace Tenancy

variable {env : Env} {userId : UUID} {others : Others} {stop n : ℕ}

/-! ## Identifiers that are taken -/

/-- The identifier is not drawn from operation `n` to operation `stop`. -/
def Past (env : Env) (stop n : ℕ) (k : UUID) : Prop := ∀ m, n ≤ m → m < stop → env.uuid4 m ≠ k

theorem Past.mono {n' : ℕ} {k : UUID} (h : Past env stop n k) (hle : n ≤ n') :
    Past env stop n' k := fun m hm => h m (hle.trans hm)

/-- No identifier is drawn twice from operation `n` to operation `stop`. -/
def Distinct (env : Env) (stop n : ℕ) : Prop :=
  ∀ m, n ≤ m → m < stop → Past env stop (m + 1) (env.uuid4 m)

theorem Distinct.mono {n' : ℕ} (h : Distinct env stop n) (hle : n ≤ n') : Distinct env stop n' :=
  fun m hm => h m (hle.trans hm)

/-- What is stored has been drawn before `n`, and no expense of the user's refers to a receipt of
the others. -/
structure Settled (env : Env) (userId : UUID) (others : Others) (stop n : ℕ) (db : Db Unit) :
    Prop where
  receipts : db.receipts.All (fun r => Past env stop n r.id)
  expenses : db.expenses.All (fun e => Past env stop n e.id ∧ ∀ k, e.receiptId = some k →
    Past env stop n k ∧ (e.userId = userId → Table.Unused Receipt.id others.receipts k))
  budgets : db.budgets.All (fun b => Past env stop n b.id)
  connections : db.connections.All (fun c => Past env stop n c.id)

section settled

variable {db : Db Unit}

theorem Settled.mono {n' : ℕ} (h : Settled env userId others stop n db) (hle : n ≤ n') :
    Settled env userId others stop n' db where
  receipts := h.receipts.imp (fun _ hr => hr.mono hle)
  expenses := h.expenses.imp (fun _ he =>
    ⟨he.1.mono hle, fun k hk => ⟨(he.2 k hk).1.mono hle, (he.2 k hk).2⟩⟩)
  budgets := h.budgets.imp (fun _ hb => hb.mono hle)
  connections := h.connections.imp (fun _ hc => hc.mono hle)

theorem Settled.commit (h : Settled env userId others stop n db) :
    Settled env userId others stop n (db.commit ()) :=
  ⟨h.receipts.commit (), h.expenses.commit (), h.budgets.commit (), h.connections.commit ()⟩

theorem Settled.rollback (h : Settled env userId others stop n db) :
    Settled env userId others stop n (db.rollback ()) :=
  ⟨h.receipts.rollback (), h.expenses.rollback (), h.budgets.rollback (),
    h.connections.rollback ()⟩

variable {mine : Kind → UUID → Prop} {now : Timestamp} {db' : Db Unit} {s : Stmt} {a : s.Res}

/-- A statement that writes under identifiers of the past keeps to them. -/
theorem Settled.stmt (h : Settled env userId others stop n db) (hs : Within userId mine s)
    (hmine : ∀ kind k, mine kind k → Past env stop n k)
    (hx : s.exec now () db = some (.ok a, db')) : Settled env userId others stop n db' where
  receipts := by
    rcases Stmt.exec_receipts hx with heq | hw
    · rw [heq]
      exact h.receipts
    · generalize db'.receipts = st at hw
      cases hw with
      | insert r hlock hnew hfree => exact h.receipts.put () (hmine _ _ hs.2)
      | update id cols v v' hget hlock hstore =>
          have hv : Past env stop n v.id := h.receipts.view hget
          exact h.receipts.put () hv
      | delete id v hget hlock => exact h.receipts.del () id
  expenses := by
    rcases Stmt.exec_expenses hx with heq | hw
    · rw [heq]
      exact h.expenses
    · generalize db'.expenses = st at hw
      cases hw with
      | insert e row hrow hlock hnew hfree =>
          obtain ⟨hid, hlink, -⟩ := NewExpense.store_ok hrow
          refine h.expenses.put () ⟨?_, fun k hk => ?_⟩
          · rw [hid]
            exact hmine _ _ hs.2.1
          · rw [hlink, hs.2.2] at hk
            cases hk
      | update id cols v v' hget hlock hstore =>
          have hv := h.expenses.view hget
          refine h.expenses.put () ⟨hv.1, fun k hk => ?_⟩
          rcases storeAll_link hstore hs.2 with hlink | hnone
          · obtain ⟨hpast, hother⟩ := hv.2 k (hlink.symm.trans hk)
            exact ⟨hpast, fun hmine => hother ((userId_storeAll_expense hstore).symm.trans hmine)⟩
          · rw [show v'.receiptId = some k from hk] at hnone
            cases hnone
      | delete id v hget hlock => exact h.expenses.del () id
      | unlink id linked hlinked hlock =>
          refine h.expenses.stageAll () (fun w hw v hv => ?_)
          obtain ⟨e, he, rfl⟩ := List.mem_map.1 hw
          cases hv
          rw [hlinked] at he
          refine ⟨(h.expenses.of_mem_view (List.mem_filter.1 he).1).1, fun k hk => ?_⟩
          cases hk
  budgets := by
    rcases Stmt.exec_budgets hx with heq | hw
    · rw [heq]
      exact h.budgets
    · generalize db'.budgets = st at hw
      cases hw with
      | insert b amount hamount hlock hnew hfree => exact h.budgets.put () (hmine _ _ hs.2)
      | update id cols v v' hget hlock hstore hfree =>
          have hv : Past env stop n v.id := h.budgets.view hget
          exact h.budgets.put () hv
      | delete id v hget hlock => exact h.budgets.del () id
  connections := by
    rcases Stmt.exec_connections hx with heq | hw
    · rw [heq]
      exact h.connections
    · generalize db'.connections = st at hw
      cases hw with
      | insert id userId googleEmail encrypted hlock hnew =>
          exact h.connections.put () (hmine _ _ hs.2)
      | renew id userId googleEmail encrypted c hkey hget hlock =>
          have hc : Past env stop n c.id := h.connections.view hget
          exact h.connections.put () hc
      | update id lastHistoryId c hget hlock =>
          have hc : Past env stop n c.id := h.connections.view hget
          exact h.connections.put () hc
      | delete id c hget hlock => exact h.connections.del () id

/-- And it finds rows of the past. -/
theorem Settled.learned (h : Settled env userId others stop n db) (hs : Within userId mine s)
    (hmine : ∀ kind k, mine kind k → Past env stop n k)
    (hx : s.exec now () db = some (.ok a, db')) :
    Learned (.sql s) (.ok a) (fun _ => Past env stop n) := by
  refine learned_of_exec hx ?_ ?_ ?_ ?_ ?_
  · exact fun _ _ _ r hr _ => h.receipts.of_mem_view hr
  · exact fun _ _ _ e he _ => (h.expenses.of_mem_view he).1
  · exact fun _ _ _ b hb _ => h.budgets.of_mem_view hb
  · exact fun _ _ _ c hc _ => h.connections.of_mem_view hc
  · rintro id userId' googleEmail encrypted rfl
    exact ⟨hmine _ _ hs.2, fun c hc _ => h.connections.of_mem_view hc⟩

end settled

/-! ## One request -/

section requests

variable {order : RowOrder} {zone : Zone} {w : World Unit}

theorem exec_settled {mine : Kind → UUID → Prop} {o : Op} {r : Except PyExc o.Res}
    {w' : World Unit} (h : Settled env userId others stop w.calls w.db)
    (hmine : ∀ kind k, mine kind k → Past env stop w.calls k) (ho : May userId mine o)
    (hdrawn : Past env stop (w.calls + 1) (env.uuid4 w.calls))
    (hx : exec env () o w = some (r, w')) :
    Settled env userId others stop w'.calls w'.db ∧
      Learned o r (fun _ => Past env stop w'.calls) := by
  have hle : w.calls ≤ w.calls + 1 := Nat.le_succ _
  have hdb : Settled env userId others stop w.calls w'.db :=
    exec_db (I := fun db => Settled env userId others stop w.calls db) (fun _ hdb => hdb.commit)
      (fun _ hdb => hdb.rollback) hx (fun s a db hs hexec => by
        subst hs
        exact h.stmt ho hmine hexec) h
  rw [exec_calls hx]
  refine ⟨hdb.mono hle, ?_⟩
  cases o with
  | sql s =>
      rcases exec_sql_cases hx with ⟨-, rfl, -⟩ | ⟨-, ⟨e, rfl⟩, -⟩ | ⟨a, db, -, rfl, hs, -⟩
      · exact learned_error _ _ _
      · exact learned_error _ _ _
      · exact (h.mono hle).learned ho (fun kind k hk => (hmine kind k hk).mono hle) hs
  | uuid4 =>
      cases hx
      exact fun _ => hdrawn
  | getObject key => exact absurd ho not_false
  | _ => trivial

/-- A request leaves everything settled. -/
theorem serve_settled (h : Settled env userId others stop w.calls w.db)
    (hdistinct : Distinct env stop w.calls) (call : Call env.unicode)
    (hstop : (serve env order zone userId call w).2.calls ≤ stop) :
    Settled env userId others stop (serve env order zone userId call w).2.calls
      (serve env order zone userId call w).2.db := by
  have hstep : ∀ (mine : Kind → UUID → Prop) (o : Op) (v : World Unit), May userId mine o →
      (alone env o v).2.calls ≤ stop →
      ((∀ kind k, mine kind k → Past env stop v.calls k) ∧ w.calls ≤ v.calls ∧
        Settled env userId others stop v.calls v.db) →
      ∃ mine', Next mine o (alone env o v).1 mine' ∧
        (∀ kind k, mine' kind k → Past env stop (alone env o v).2.calls k) ∧
          w.calls ≤ (alone env o v).2.calls ∧
            Settled env userId others stop (alone env o v).2.calls (alone env o v).2.db := by
    rintro mine o v ho hend ⟨hmine, hle, h⟩
    cases hx : exec env () o v with
    | none =>
        rw [alone_eq_of_none hx]
        exact ⟨mine, ⟨fun _ _ hk => hk, learned_error _ _ _⟩, hmine, hle, h⟩
    | some x =>
        have hdrawn := hdistinct v.calls hle ((calls_of_alone hend).2 x hx)
        have hxp : exec env () o v = some (x.1, x.2) := hx
        obtain ⟨h', hlearned⟩ := exec_settled h hmine ho hdrawn hxp
        have hcalls : x.2.calls = v.calls + 1 := exec_calls hxp
        rw [alone_eq_of_some hx]
        refine ⟨fun _ => Past env stop x.2.calls, ⟨fun kind k hk => ?_, hlearned⟩,
          fun _ _ hk => hk, by omega, h'⟩
        exact (hmine kind k hk).mono (by omega)
  obtain ⟨-, -, -, hdone⟩ := Prog.Follows.run
    (I := fun mine (v : World Unit) => (∀ kind k, mine kind k → Past env stop v.calls k) ∧
      w.calls ≤ v.calls ∧ Settled env userId others stop v.calls v.db)
    (L := fun v : World Unit => v.calls ≤ stop)
    (stays_program env order zone userId call (fun _ _ => False)) (fun _ _ h => (calls_of_alone h).1)
    hstep hstop ⟨fun _ _ hk => hk.elim, le_rfl, h⟩
  exact hdone.rollback

/-- Between two requests everything is settled. -/
theorem settled_start (h : Separated env stop w) (userId : UUID) :
    Settled env userId (othersOf userId w.db) stop w.calls w.db := by
  have hpast : ∀ kind k, InUse w.db kind k → Past env stop w.calls k := by
    rintro kind k hk m hm hstop rfl
    exact h.fresh m hm hstop kind hk
  refine ⟨?_, ?_, ?_, ?_⟩
  · exact Store.all_of_pending_nil h.quiescent.receipts (fun r hr =>
      hpast .receipt _ (Or.inl (List.mem_map_of_mem hr)))
  · refine Store.all_of_pending_nil h.quiescent.expenses (fun e he =>
      ⟨hpast .expense _ (List.mem_map_of_mem he), fun k hk => ⟨?_, fun hmine r hr hkey => ?_⟩⟩)
    · exact hpast .receipt _ (Or.inr (List.mem_map.2 ⟨e, he, hk⟩))
    · have hother : decide (r.userId = userId) = false :=
        (h.quiescent.apart userId).receipts.other hr
      refine of_decide_eq_false hother ?_
      rw [← hmine, h.linked e he r (List.mem_filter.1 hr).1 (by rw [hk, hkey])]
  · exact Store.all_of_pending_nil h.quiescent.budgets (fun b hb =>
      hpast .budget _ (List.mem_map_of_mem hb))
  · exact Store.all_of_pending_nil h.quiescent.connections (fun c hc =>
      hpast .connection _ (List.mem_map_of_mem hc))

/-- **A request leaves the tenants separated.** -/
theorem separated_serve (h : Separated env stop w) (hdistinct : Distinct env stop w.calls)
    (userId : UUID) (call : Call env.unicode)
    (hstop : (serve env order zone userId call w).2.calls ≤ stop) :
    Separated env stop (serve env order zone userId call w).2 := by
  have hsettled := serve_settled (settled_start h userId) hdistinct call hstop
  obtain ⟨-, hisolated⟩ := serve_isolated (isolated_start h userId) call hstop
  refine ⟨quiescent_rollback _, rfl, fun e he r hr hlink => ?_, fun n hn hn' kind hin => ?_⟩
  · by_cases hmine : e.userId = userId
    · by_cases hmine' : r.userId = userId
      · exact hmine.trans hmine'.symm
      · have hother := hisolated.apart.receipts.mem_others hr (decide_eq_false hmine')
        have htied := hsettled.expenses.1 _ _ (Table.get_of_mem he)
        exact absurd rfl ((htied.2 r.id hlink).2 hmine r hother)
    · have hother := hisolated.apart.expenses.mem_others he (decide_eq_false hmine)
      by_cases hmine' : r.userId = userId
      · exact absurd hlink (hisolated.unlinked.1 _ _ (Table.get_of_mem hr) hmine' e hother)
      · have hother' := hisolated.apart.receipts.mem_others hr (decide_eq_false hmine')
        exact h.linked e (List.mem_filter.1 hother).1 r (List.mem_filter.1 hother').1 hlink
  · cases kind with
    | receipt =>
        rcases hin with hin | hin
        · obtain ⟨r, hr, hid⟩ := List.mem_map.1 hin
          exact hsettled.receipts.1 _ _ (Table.get_of_mem hr) n hn hn' hid.symm
        · obtain ⟨e, he, hlink⟩ := List.mem_map.1 hin
          exact ((hsettled.expenses.1 _ _ (Table.get_of_mem he)).2 _ hlink).1 n hn hn' rfl
    | expense =>
        obtain ⟨e, he, hid⟩ := List.mem_map.1 hin
        exact (hsettled.expenses.1 _ _ (Table.get_of_mem he)).1 n hn hn' hid.symm
    | budget =>
        obtain ⟨b, hb, hid⟩ := List.mem_map.1 hin
        exact hsettled.budgets.1 _ _ (Table.get_of_mem hb) n hn hn' hid.symm
    | connection =>
        obtain ⟨c, hc, hid⟩ := List.mem_map.1 hin
        exact hsettled.connections.1 _ _ (Table.get_of_mem hc) n hn hn' hid.symm

end requests

/-! ## Any sequence of requests -/

/-- A request of a user. -/
structure Request (U : Unicode) where
  userId : UUID
  call : Call U

/-- A request that has been answered, with the operation its session began with. -/
structure Entry (U : Unicode) where
  start : ℕ
  request : Request U
  answer : Except PyExc request.call.Res

/-- The requests of a user in a history, each with its time. -/
def requestsOf {U : Unicode} (userId : UUID) (entries : List (Entry U)) :
    List (ℕ × Request U) :=
  (entries.filter (fun x => x.request.userId = userId)).map (fun x => (x.start, x.request))

theorem requestsOf_cons_of_pos {U : Unicode} {x : Entry U} {xs : List (Entry U)}
    (h : x.request.userId = userId) :
    requestsOf userId (x :: xs) = (x.start, x.request) :: requestsOf userId xs := by
  rw [requestsOf, List.filter_cons_of_pos (by simpa using h)]
  rfl

theorem requestsOf_cons_of_neg {U : Unicode} {x : Entry U} {xs : List (Entry U)}
    (h : x.request.userId ≠ userId) : requestsOf userId (x :: xs) = requestsOf userId xs := by
  rw [requestsOf, List.filter_cons_of_neg (by simpa using h)]
  rfl

section history

variable (env : Env) (order : RowOrder) (zone : Zone)

/-- The shared backend serves the requests one after the other. -/
def publicly : List (Request env.unicode) → World Unit → List (Entry env.unicode) × World Unit
  | [], w => ([], w)
  | r :: rs, w =>
      let x := serve env order zone r.userId r.call w
      let y := publicly rs x.2
      (⟨w.calls, r, x.1⟩ :: y.1, y.2)

/-- A private backend serves each of the requests when its time comes. -/
def privately :
    List (ℕ × Request env.unicode) → World Unit → List (Entry env.unicode) × World Unit
  | [], v => ([], v)
  | (n, r) :: rs, v =>
      let x := serve env order zone r.userId r.call { v with calls := n }
      let y := privately rs x.2
      (⟨n, r, x.1⟩ :: y.1, y.2)

variable {env order zone} {w v : World Unit}

/-- A session only counts on. -/
theorem calls_run {α : Type} (p : Service α) (w : World Unit) :
    w.calls ≤ (Prog.run (alone env) p w).2.calls := by
  induction p generalizing w with
  | ret a => exact le_rfl
  | raise e => exact le_rfl
  | call o k ih =>
      have hstep : w.calls ≤ (alone env o w).2.calls := (calls_of_alone le_rfl).1
      exact hstep.trans (ih _ _)

theorem calls_publicly (requests : List (Request env.unicode)) (w : World Unit) :
    w.calls ≤ (publicly env order zone requests w).2.calls := by
  induction requests generalizing w with
  | nil => exact le_rfl
  | cons r rs ih =>
      have hstep : w.calls ≤ (serve env order zone r.userId r.call w).2.calls := calls_run _ w
      exact hstep.trans (ih _)

/-- Somebody else's request leaves a user's share as it is. -/
theorem only_serve_of_ne (hw : Separated env stop w) {otherId : UUID} (hne : otherId ≠ userId)
    (call : Call env.unicode)
    (hstop : (serve env order zone otherId call w).2.calls ≤ stop) :
    only userId (serve env order zone otherId call w).2.db = only userId w.db := by
  obtain ⟨-, hdone⟩ := serve_isolated (isolated_start hw otherId) call hstop
  exact (quiescent_rollback _).only_eq hne hw.quiescent hdone.apart.othersOf_eq

/-- **To each tenant the backend is a backend of his own.** -/
theorem private_backends (requests : List (Request env.unicode)) (hw : Separated env stop w)
    (hdistinct : Distinct env stop w.calls)
    (hstop : (publicly env order zone requests w).2.calls ≤ stop) (hv : v.db = only userId w.db)
    (hsession : v.failed () = false) :
    (privately env order zone
        (requestsOf userId (publicly env order zone requests w).1) v).1 =
      (publicly env order zone requests w).1.filter (fun x => x.request.userId = userId) ∧
    (privately env order zone
        (requestsOf userId (publicly env order zone requests w).1) v).2.db =
      only userId (publicly env order zone requests w).2.db := by
  induction requests generalizing w v with
  | nil => exact ⟨rfl, hv⟩
  | cons r rs ih =>
      have hserved : (serve env order zone r.userId r.call w).2.calls ≤ stop :=
        (calls_publicly rs _).trans hstop
      have hle : w.calls ≤ (serve env order zone r.userId r.call w).2.calls := calls_run _ w
      have hnext := separated_serve hw hdistinct r.userId r.call hserved
      by_cases hmine : r.userId = userId
      · -- both backends serve the request
        subst hmine
        have hstart : Isolated env r.userId (othersOf r.userId w.db) stop w
            { v with calls := w.calls } := by
          have hown := isolated_start hw r.userId
          refine ⟨hv, rfl, ?_, hown.apart, hown.unlinked, hown.fresh⟩
          funext i
          exact hsession.trans hw.session.symm
        obtain ⟨hanswer, hdone⟩ := serve_isolated hstart r.call hserved
        obtain ⟨hanswers, hend⟩ := ih hnext (hdistinct.mono hle) hstop hdone.db
          (hdone.failed ▸ hnext.session)
        simp only [publicly]
        rw [requestsOf_cons_of_pos (x := ⟨w.calls, r, _⟩) rfl, List.filter_cons_of_pos (by simp)]
        refine ⟨?_, hend⟩
        simp only [privately]
        rw [hanswers, hanswer]
      · -- the private one does not see it
        have hshare := hv.trans (only_serve_of_ne hw hmine r.call hserved).symm
        have hrest := ih hnext (hdistinct.mono hle) hstop hshare hsession
        simp only [publicly]
        rw [requestsOf_cons_of_neg (x := ⟨w.calls, r, _⟩) hmine,
          List.filter_cons_of_neg (by simpa using hmine)]
        exact hrest

/-- Two users in turn. -/
def sampleRequests : List (Request Env.quiet.unicode) :=
  [⟨9, .deleteReceipt 20⟩, ⟨7, .deleteReceipt 20⟩, ⟨7, .deleteExpense 11 none⟩,
    ⟨9, .deleteExpense 21 none⟩]

/-- The first one has a backend of his own. -/
theorem private_backends_sample :
    (privately Env.quiet .asStored .utc
        (requestsOf 7 (publicly Env.quiet .asStored .utc sampleRequests crowded).1) lonely).1 =
      (publicly Env.quiet .asStored .utc sampleRequests crowded).1.filter
        (fun x => x.request.userId = 7) ∧
    (privately Env.quiet .asStored .utc
        (requestsOf 7 (publicly Env.quiet .asStored .utc sampleRequests crowded).1) lonely).2.db =
      only 7 (publicly Env.quiet .asStored .utc sampleRequests crowded).2.db := by
  refine private_backends sampleRequests separated_crowded (fun m _ hm n hn hn' heq => ?_)
    (by decide +kernel) rfl rfl
  -- the identifiers are numbered
  have hval : (1000 + n) % 2 ^ 128 = (1000 + m) % 2 ^ 128 := congrArg Fin.val heq
  omega

end history

end Tenancy

end SpendLens
