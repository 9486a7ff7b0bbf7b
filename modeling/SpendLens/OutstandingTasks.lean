/-
# Every receipt in flight has an outstanding task

Workers and requests run interleaved, over one database and one queue.  The invariant says for
every receipt in flight that a task which takes it further waits or is held by a worker who still
has to see to it, unless the ledger has an entry for it.  It is kept because

* a status in flight is committed by a worker who is to take the receipt further, or by a
  request, which then owes the enqueueing;
* a worker acknowledges its message only when nothing is left for it to see to;
* the end of a worker puts its message back, or the ledger has its receipt.
-/
import SpendLens.WorkerThreads

namespace SpendLens.Duties

/-! ## The invariant -/

section invariant

variable {ι : Type} [DecidableEq ι] {env : Env} {roles : ι → Role}

/-- A task that takes the receipt further waits, or is held by a worker who still has to see to
it; or the ledger has an entry for the receipt. -/
def Attended (g : ι → Duty) (x : Plant ι × Ledger ι) (k : UUID) (s : ReceiptStatus) : Prop :=
  x.1.broker.Pledged (fun m => takesOn k s m.task = true)
      (fun i => (g i).burden.covers s = true) ∨
    (∃ i, x.2.owes i k = true) ∨ x.2.abandoned k = true

/-- A thread holds the message it is to deliver, or none. -/
def Holds (role : Role) (held : Option Message) (q : Duty) : Prop :=
  match role with
  | .request _ _ => held = none
  | .delivery m => held = if q.received then some m else none

/-- **Every receipt in flight is attended to.** -/
structure Tracked (roles : ι → Role) (g : ι → Duty) (x : Plant ι × Ledger ι) : Prop where
  knows : ∀ i, Knows (roles i) x.1.world i (g i)
  holds : ∀ i, Holds (roles i) (x.1.broker.held i) (g i)
  attended : ∀ k r, x.1.world.db.receipts.committed.get k = some r → inFlight r.status = true →
    Attended g x k r.status

/-- A task that takes a receipt on is about it. -/
theorem subject_of_takesOn {task : Task} {k : UUID} {s : ReceiptStatus}
    (h : takesOn k s task = true) : subject task = some k ∧ inFlight s = true := by
  cases task with
  | processReceipt id =>
      simp only [takesOn, Bool.and_eq_true, decide_eq_true_eq] at h
      exact ⟨congrArg some h.1, h.2⟩
  | categoriseReceipt id =>
      simp only [takesOn, Bool.and_eq_true, decide_eq_true_eq] at h
      rw [h.2]
      exact ⟨congrArg some h.1, rfl⟩
  | gmailHistorySync c p => cases h

theorem about_of_subject {task : Task} {k : UUID} (h : subject task = some k) :
    about k task = true := by
  cases task with
  | processReceipt id => exact decide_eq_true (Option.some.inj h)
  | categoriseReceipt id => exact decide_eq_true (Option.some.inj h)
  | gmailHistorySync c p => cases h

theorem subject_of_about {task : Task} {k : UUID} (h : about k task = true) :
    subject task = some k := by
  cases task with
  | processReceipt id => exact congrArg some (of_decide_eq_true h)
  | categoriseReceipt id => exact congrArg some (of_decide_eq_true h)
  | gmailHistorySync c p => cases h

theorem covers_after {b : Burden} {s : ReceiptStatus} (h : b.covers s = true) :
    (b.after (some s)).covers s = true := by
  cases b <;> cases s <;> first | rfl | cases h

/-- A commit leaves the committed receipts, or takes effect. -/
theorem exec_commit_effect {i : ι} {w w' : World ι} {r : Except PyExc Unit}
    (h : exec env i .commit w = some (r, w')) :
    w'.db.receipts.committed = w.db.receipts.committed ∨
      (w.failed i = false ∧ env.fault w.calls ≠ .before ∧
        w'.db.receipts.committed = (w.db.receipts.commit i).committed) := by
  simp only [exec] at h
  split at h
  · cases h
    exact Or.inl rfl
  · rename_i hf
    rw [Bool.not_eq_true] at hf
    split at h
    · rename_i hfault
      cases h
      exact Or.inr ⟨hf, by rw [hfault]; exact fun hc => Fault.noConfusion hc, rfl⟩
    · cases h
      exact Or.inl rfl
    · rename_i hfault
      cases h
      exact Or.inr ⟨hf, by rw [hfault]; exact fun hc => Fault.noConfusion hc, rfl⟩

/-! ## One operation of a service -/

/-- A task goes on with a receipt it takes on. -/
theorem goesOn_of_takesOn {task : Task} {k : UUID} {v : Receipt}
    (h : takesOn k v.status task = true) : goesOn task v = true := by
  cases task with
  | categoriseReceipt id =>
      simp only [takesOn, Bool.and_eq_true] at h
      exact h.2
  | _ => rfl

/-- A task that reads its receipt finds it, and goes on with it. -/
theorem covers_read {task : Task} {k : UUID} {q : Duty} {i : ι} {params : List Param}
    {p : Receipt → Bool} {rows : List Receipt} {w w' : World ι} {v : Receipt}
    (htakes : takesOn k v.status task = true) (hidle : q.writing = none)
    (hp : ∀ u, p u = decide (u.id = k)) (hw : Writing task k w i q)
    (hx : exec env i (.sql (.selectReceipts params p)) w = some (.ok rows, w'))
    (hv : w'.db.receipts.committed.get k = some v) :
    q.answered task (.sql (.selectReceipts params p)) (.ok rows) = q := by
  have hsame : w'.db.receipts.committed = w.db.receipts.committed := by
    rcases exec_committed_receipts hx with heq | ⟨hc, -⟩
    · exact heq
    · cases hc
  -- nothing is staged under `k`, so the session sees the committed receipt
  have hview : (w.db.receipts.view i).get k = some v := by
    rw [Store.get_view, hw.idle hidle, ← hsame]
    exact hv
  have hmem : v ∈ rows := by
    rw [exec_selectReceipts hx, List.mem_filter]
    refine ⟨Table.mem_of_get hview, ?_⟩
    rw [hp, decide_eq_true_eq]
    exact Table.key_of_get hview
  have hany : rows.any (goesOn task) = true :=
    List.any_eq_true.2 ⟨v, hmem, goesOn_of_takesOn htakes⟩
  exact if_pos hany

/-- A task that commits sees to the status it has written. -/
theorem covers_committed {task : Task} {k : UUID} {q : Duty} {i : ι} {a : Unit} {w w' : World ι}
    {v : Receipt} (hw : Writing task k w i q) (hx : exec env i .commit w = some (.ok a, w'))
    (hv : w'.db.receipts.committed.get k = some v) (hcovers : q.burden.covers v.status = true) :
    (q.answered task .commit (.ok a)).burden.covers v.status = true := by
  show (q.burden.after q.writing).covers v.status = true
  cases hwriting : q.writing with
  | none => exact hcovers
  | some s =>
      -- what is committed is what was written
      obtain ⟨hf, ⟨u, hu, hus⟩, -⟩ := hw.busy s hwriting
      have hcommitted : w'.db.receipts.committed = (w.db.receipts.commit i).committed := by
        rcases exec_commit_cases hx with ⟨hf', -⟩ | ⟨-, -, rfl⟩ | ⟨-, hr, -⟩ | ⟨-, hr, -⟩
        · rw [hf] at hf'
          cases hf'
        · rfl
        · cases hr
        · cases hr
      rw [hcommitted, Store.get_commit, hu] at hv
      cases hv
      rw [← hus]
      exact covers_after hcovers

/-- A task that enqueues the next one hands its receipt over to it. -/
theorem covers_delayed {task : Task} {k id : UUID} {q : Duty} {i : ι} {a : Unit} {w w' : World ι}
    {s : ReceiptStatus} (htakes : takesOn k s task = true)
    (hx : exec env i (.delay (.categoriseReceipt id)) w = some (.ok a, w'))
    (hcovers : q.burden.covers s = true) :
    (q.answered task (.delay (.categoriseReceipt id)) (.ok a)).burden.covers s = true ∨
      ∃ m ∈ newMessages w w', takesOn k s m.task = true := by
  by_cases hlast : (about id task && decide (q.burden = .parsed)) = true
  · right
    simp only [Bool.and_eq_true, decide_eq_true_eq] at hlast
    have hid : some id = some k :=
      (subject_of_about hlast.1).symm.trans (subject_of_takesOn htakes).1
    rcases exec_delay hx with hnew | ⟨-, hr, -⟩
    · refine ⟨_, by rw [hnew]; exact List.mem_singleton_self _, ?_⟩
      rw [hlast.2] at hcovers
      simp only [takesOn, Option.some.inj hid, decide_true, Bool.true_and]
      exact hcovers
    · cases hr
  · left
    show (if _ then _ else q : Duty).burden.covers s = true
    rw [if_neg hlast]
    exact hcovers

/-- **What a task sees to, it goes on seeing to**, or a message takes it over. -/
theorem covers_answered {task : Task} {k : UUID} {q : Duty} {i : ι} {o : Op}
    {r : Except PyExc o.Res} {w w' : World ι} {v : Receipt}
    (htakes : takesOn k v.status task = true) (hmay : MayDo task k q o)
    (hw : Writing task k w i q) (hx : exec env i o w = some (r, w'))
    (hv : w'.db.receipts.committed.get k = some v) (hcovers : q.burden.covers v.status = true) :
    (q.answered task o r).burden.covers v.status = true ∨
      ∃ m ∈ newMessages w w', takesOn k v.status m.task = true := by
  cases o with
  | sql stmt =>
      left
      cases r with
      | error e => cases stmt <;> exact hcovers
      | ok a =>
          cases stmt with
          | selectReceipts params p =>
              rw [covers_read htakes hmay.1 hmay.2 hw hx hv]
              exact hcovers
          | _ => exact hcovers
  | commit =>
      left
      cases r with
      | error e => exact hcovers
      | ok a => exact covers_committed hw hx hv hcovers
  | rollback =>
      left
      cases r <;> exact hcovers
  | delay t =>
      cases r with
      | error e =>
          left
          cases t <;> exact hcovers
      | ok a =>
          cases t with
          | categoriseReceipt id => exact covers_delayed htakes hx hcovers
          | _ =>
              left
              exact hcovers
  | _ =>
      left
      cases r <;> exact hcovers

/-- Nothing is struck off a ledger, for receipt `k`. -/
def Stays (k : UUID) (l l' : Ledger ι) : Prop :=
  (∀ j, l.owes j k = true → l'.owes j k = true) ∧ (l.abandoned k = true → l'.abandoned k = true)

omit [DecidableEq ι] in
theorem Stays.refl (k : UUID) (l : Ledger ι) : Stays k l l := ⟨fun _ h => h, fun h => h⟩

/-- The entries of the ledger stay, or the task they ask for has been enqueued. -/
theorem stays_watch {i : ι} {o : Op} {r : Except PyExc o.Res} {s : Plant ι} {l : Ledger ι}
    {w : World ι} (hx : exec env i o s.world = some (r, w)) (k : UUID) :
    Stays k l (l.watch env i (.service o) r s) ∨
      (⟨.processReceipt k, 0⟩ : Message) ∈ newMessages s.world w := by
  cases o with
  | commit =>
      left
      by_cases hc : (s.world.failed i || env.fault s.world.calls = .before) = true
      · rw [show l.watch env i (.service .commit) r s = l from if_pos hc]
        exact Stays.refl k l
      · rw [show l.watch env i (.service .commit) r s = { l with
          owes := Function.update l.owes i (fun k => l.owes i k || uploads s.world i k) } from
            if_neg hc]
        refine ⟨fun j h => ?_, fun h => h⟩
        show Function.update l.owes i _ j k = true
        by_cases hj : j = i
        · subst hj
          rw [Function.update_self, h, Bool.true_or]
        · rw [Function.update_of_ne hj]
          exact h
  | delay t =>
      cases t with
      | processReceipt id =>
          by_cases hf : env.fault s.world.calls = .before
          · left
            rw [show l.watch env i (.service (.delay (.processReceipt id))) r s = l from if_pos hf]
            exact Stays.refl k l
          · rw [show l.watch env i (.service (.delay (.processReceipt id))) r s =
              ⟨Function.update l.owes i (fun k => l.owes i k && k ≠ id),
                fun k => l.abandoned k && k ≠ id⟩ from if_neg hf]
            by_cases hk : k = id
            · right
              rcases exec_delay hx with hnew | ⟨hf', -, -⟩
              · rw [hnew, hk]
                exact List.mem_singleton_self _
              · exact absurd hf' hf
            · left
              refine ⟨fun j h => ?_, fun h => by simpa [hk] using h⟩
              show Function.update l.owes i _ j k = true
              by_cases hj : j = i
              · subst hj
                rw [Function.update_self]
                simpa [hk] using h
              · rw [Function.update_of_ne hj]
                exact h
      | _ => exact Or.inl (Stays.refl k l)
  | _ => exact Or.inl (Stays.refl k l)

theorem covers_update_self {g : ι → Duty} {i : ι} {q : Duty} {s : ReceiptStatus}
    (h : q.burden.covers s = true) : (Function.update g i q i).burden.covers s = true := by
  rw [Function.update_self]
  exact h

theorem covers_update_of_ne {g : ι → Duty} {i j : ι} {q : Duty} {s : ReceiptStatus} (hji : j ≠ i)
    (h : (g j).burden.covers s = true) : (Function.update g i q j).burden.covers s = true := by
  rw [Function.update_of_ne hji]
  exact h

/-- What is attended to stays so, if thread `i` goes on seeing to what it saw to. -/
theorem Attended.service {g : ι → Duty} {x : Plant ι × Ledger ι} {i : ι} {o : Op}
    {r : Except PyExc o.Res} {w : World ι} {k : UUID} {s : ReceiptStatus} {q : Duty}
    (h : Attended g x k s) (hflight : inFlight s = true)
    (hx : exec env i o x.1.world = some (r, w))
    (hi : ∀ m, x.1.broker.held i = some m → takesOn k s m.task = true →
      (g i).burden.covers s = true →
        q.burden.covers s = true ∨ ∃ m' ∈ newMessages x.1.world w, takesOn k s m'.task = true) :
    Attended (Function.update g i q)
      (⟨w, x.1.broker.publish (newMessages x.1.world w)⟩, x.2.watch env i (.service o) r x.1)
      k s := by
  have hnew : (∃ m' ∈ newMessages x.1.world w, takesOn k s m'.task = true) →
      Attended (Function.update g i q)
        (⟨w, x.1.broker.publish (newMessages x.1.world w)⟩, x.2.watch env i (.service o) r x.1)
        k s := by
    rintro ⟨m', hm', htakes⟩
    exact Or.inl (Broker.pledged_publish hm' htakes)
  have hprocess : takesOn k s (Message.task ⟨.processReceipt k, 0⟩) = true := by
    simp [takesOn, hflight]
  rcases h with (⟨m, hm, hP⟩ | ⟨j, m, hheld, hP, hj⟩) | howed
  · exact Or.inl (Or.inl ⟨m, List.mem_append_left _ hm, hP⟩)
  · by_cases hji : j = i
    · subst hji
      rcases hi m hheld hP hj with hq | hm'
      · exact Or.inl (Or.inr ⟨j, m, hheld, hP, covers_update_self hq⟩)
      · exact hnew hm'
    · exact Or.inl (Or.inr ⟨j, m, hheld, hP, covers_update_of_ne hji hj⟩)
  · rcases stays_watch (l := x.2) hx k with hstays | hm'
    · rcases howed with ⟨j, hj⟩ | habandoned
      · exact Or.inr (Or.inl ⟨j, hstays.1 j hj⟩)
      · exact Or.inr (Or.inr (hstays.2 habandoned))
    · exact hnew ⟨_, hm', hprocess⟩

/-- Whoever commits an uploaded receipt owes its enqueueing. -/
theorem owes_of_uploading {i : ι} {r : Except PyExc Unit} {s : Plant ι} {l : Ledger ι} {k : UUID}
    {v : Receipt} (hf : s.world.failed i = false) (hfault : env.fault s.world.calls ≠ .before)
    (hstaged : s.world.db.receipts.staged i k = some (some v)) (hv : v.status = .uploaded) :
    (l.watch env i (.service .commit) r s).owes i k = true := by
  rw [show l.watch env i (.service .commit) r s = { l with
    owes := Function.update l.owes i (fun k => l.owes i k || uploads s.world i k) } from
      if_neg (by simp [hf, hfault])]
  show Function.update l.owes i _ i k = true
  rw [Function.update_self, uploads, hstaged]
  simp [hv]

/-- The message a delivery at work holds. -/
theorem Holds.of_received {m : Message} {held : Option Message} {q : Duty}
    (h : Holds (.delivery m) held q) (hq : q.received = true) : held = some m := by
  have hheld : held = if q.received then some m else none := h
  rw [hheld, if_pos hq]

theorem Holds.eq_of_held {m m' : Message} {held : Option Message} {q : Duty}
    (h : Holds (.delivery m) held q) (hheld : held = some m') : m' = m := by
  have hholds : held = if q.received then some m else none := h
  rw [hholds] at hheld
  split at hheld
  · exact (Option.some.inj hheld).symm
  · cases hheld

/-- **A status in flight** that a commit has changed is attended to by whoever has committed
it. -/
theorem attended_of_commit {g : ι → Duty} {x : Plant ι × Ledger ι} {i : ι}
    {r : Except PyExc Unit} {w : World ι} {k : UUID} {v : Receipt} {q : Duty}
    (h : Tracked roles g x)
    (hnext : (roles i).Next (g i) (.service .commit) r q) (hf : x.1.world.failed i = false)
    (hfault : env.fault x.1.world.calls ≠ .before)
    (hstaged : x.1.world.db.receipts.staged i k = some (some v))
    (hflight : inFlight v.status = true) :
    Attended (Function.update g i q)
      (⟨w, x.1.broker.publish (newMessages x.1.world w)⟩,
        x.2.watch env i (.service .commit) r x.1) k v.status := by
  have howes : Uploading x.1.world i → Attended (Function.update g i q)
      (⟨w, x.1.broker.publish (newMessages x.1.world w)⟩,
        x.2.watch env i (.service .commit) r x.1) k v.status :=
    fun hup => Or.inr (Or.inl ⟨i, owes_of_uploading (r := r) hf hfault hstaged (hup k v hstaged)⟩)
  have hknows := h.knows i
  cases hrole : roles i with
  | request p hp =>
      rw [hrole] at hknows
      exact howes hknows
  | delivery m =>
      have hholds := h.holds i
      rw [hrole] at hknows hnext hholds
      obtain ⟨rfl, -⟩ := hnext
      unfold Knows at hknows
      split at hknows
      · cases ‹Role.delivery m = .request _ _›
      · rename_i m' hm'
        cases hm'
        split at hknows
        · rename_i k' hsubject
          have hk : k = k' := by
            by_contra hne
            rw [hknows.others k hne] at hstaged
            cases hstaged
          subst hk
          cases hwriting : (g i).writing with
          | none =>
              rw [hknows.idle hwriting] at hstaged
              cases hstaged
          | some s =>
              obtain ⟨-, ⟨u, hu, hus⟩, hwho⟩ := hknows.busy s hwriting
              rw [hu] at hstaged
              cases hstaged
              obtain ⟨htask, hburden, hreceived⟩ := hwho (hus ▸ hflight)
              have hheld := hholds.of_received hreceived
              refine Or.inl (Or.inr ⟨i, m, hheld, ?_, covers_update_self ?_⟩)
              · simp [htask, takesOn, hflight]
              · have hcovers : ((g i).burden).covers v.status = true := by
                  rw [hburden]
                  exact hflight
                cases r with
                | error e => exact hcovers
                | ok a =>
                    show ((g i).burden.after (g i).writing).covers v.status = true
                    rw [hwriting, ← hus]
                    exact covers_after hcovers
        · exact howes hknows

/-- What a thread knows after an operation of a service. -/
theorem Tracked.knows_service {g : ι → Duty} {x : Plant ι × Ledger ι} {i : ι} {o : Op}
    {r : Except PyExc o.Res} {w : World ι} {q : Duty} (h : Tracked roles g x)
    (hmay : (roles i).May (g i) (.service o)) (hnext : (roles i).Next (g i) (.service o) r q)
    (hx : exec env i o x.1.world = some (r, w)) : Knows (roles i) w i q := by
  have hknows := h.knows i
  cases hrole : roles i with
  | request p hp =>
      rw [hrole] at hknows hmay
      exact Uploading.step hknows hmay hx
  | delivery m =>
      rw [hrole] at hknows hmay hnext
      obtain ⟨rfl, -⟩ := hnext
      obtain ⟨hreceived, hbody⟩ := hmay
      cases hsubject : subject m.task with
      | some k =>
          exact (knows_some hsubject).2 (((knows_some hsubject).1 hknows).step
            ((bodyMay_some hsubject).1 hbody) hreceived hx)
      | none =>
          exact (knows_none hsubject).2 (((knows_none hsubject).1 hknows).step
            ((bodyMay_none hsubject).1 hbody) hx)

/-- No operation of a service touches the message its thread holds. -/
theorem Tracked.holds_service {g : ι → Duty} {x : Plant ι × Ledger ι} {i : ι} {o : Op}
    {r : Except PyExc o.Res} {q : Duty} (h : Tracked roles g x)
    (hnext : (roles i).Next (g i) (.service o) r q) :
    Holds (roles i) (x.1.broker.held i) q := by
  have hholds := h.holds i
  cases hrole : roles i with
  | request p hp =>
      rw [hrole] at hholds
      exact hholds
  | delivery m =>
      rw [hrole] at hholds hnext
      obtain ⟨rfl, -⟩ := hnext
      show x.1.broker.held i = if ((g i).answered m.task o r).received then some m else none
      rw [received_answered]
      exact hholds

/-- **One operation of a service** keeps the invariant. -/
theorem Tracked.service {g : ι → Duty} {x : Plant ι × Ledger ι} {i : ι} {o : Op}
    {r : Except PyExc o.Res} {w : World ι} {q : Duty} (h : Tracked roles g x)
    (hmay : (roles i).May (g i) (.service o)) (hnext : (roles i).Next (g i) (.service o) r q)
    (hx : exec env i o x.1.world = some (r, w)) :
    Tracked roles (Function.update g i q)
      (⟨w, x.1.broker.publish (newMessages x.1.world w)⟩,
        x.2.watch env i (.service o) r x.1) := by
  refine ⟨?_, ?_, fun k v hv hflight => ?_⟩
  · apply (Function.forall_update_iff g (fun j q => Knows (roles j) w j q)).2
    exact ⟨h.knows_service hmay hnext hx, fun j hj =>
      (h.knows j).of_staged (exec_staged_of_ne hx hj) (exec_failed_of_ne hx hj)⟩
  · apply (Function.forall_update_iff g (fun j q => Holds (roles j) (x.1.broker.held j) q)).2
    exact ⟨h.holds_service hnext, fun j _ => h.holds j⟩
  · -- was the receipt in this status before?
    by_cases hbefore : ∃ u, x.1.world.db.receipts.committed.get k = some u ∧ u.status = v.status
    · obtain ⟨u, hu, hus⟩ := hbefore
      have hold : Attended g x k v.status := hus ▸ h.attended k u hu (hus ▸ hflight)
      refine hold.service hflight hx (fun m hheld htakes hcovers => ?_)
      have hholds := h.holds i
      have hk := h.knows i
      cases hrole : roles i with
      | request p hp =>
          rw [hrole] at hholds
          have hnone : x.1.broker.held i = none := hholds
          rw [hnone] at hheld
          cases hheld
      | delivery m' =>
          rw [hrole] at hholds hmay hnext hk
          obtain ⟨rfl, -⟩ := hnext
          obtain ⟨hreceived, hbody⟩ := hmay
          rw [hholds.of_received hreceived] at hheld
          cases hheld
          have hsubject := (subject_of_takesOn htakes).1
          exact covers_answered htakes ((bodyMay_some hsubject).1 hbody)
            ((knows_some hsubject).1 hk) hx hv hcovers
    · -- then the step has committed it
      rcases exec_committed_receipts hx with heq | ⟨rfl, -, -⟩
      · exact absurd ⟨v, heq ▸ hv, rfl⟩ hbefore
      · rcases exec_commit_effect hx with heq | ⟨hf, hfault, heq⟩
        · exact absurd ⟨v, heq ▸ hv, rfl⟩ hbefore
        · rw [heq, Store.get_commit] at hv
          cases hs : x.1.world.db.receipts.staged i k with
          | none =>
              rw [hs, Option.getD_none] at hv
              exact absurd ⟨v, hv, rfl⟩ hbefore
          | some y =>
              rw [hs, Option.getD_some] at hv
              subst hv
              exact attended_of_commit h hnext hf hfault hs hflight

/-! ## The operations of the queue -/

/-- Only the broker and the ledger have changed. -/
theorem Tracked.queue {g : ι → Duty} {x : Plant ι × Ledger ι} {i : ι} {q : Duty} {w : World ι}
    {b : Broker ι Message} {l : Ledger ι} (h : Tracked roles g x) (hdb : w.db = x.1.world.db)
    (hfailed : w.failed = x.1.world.failed) (hknows : Knows (roles i) x.1.world i q)
    (hheld : ∀ j, j ≠ i → b.held j = x.1.broker.held j) (hholds : Holds (roles i) (b.held i) q)
    (hattended : ∀ k r, x.1.world.db.receipts.committed.get k = some r →
      inFlight r.status = true → Attended g x k r.status →
        Attended (Function.update g i q) (⟨w, b⟩, l) k r.status) :
    Tracked roles (Function.update g i q) (⟨w, b⟩, l) := by
  refine ⟨?_, ?_, fun k v hv hflight => ?_⟩
  · apply (Function.forall_update_iff g (fun j q => Knows (roles j) w j q)).2
    refine ⟨hknows.of_staged (fun k => by rw [hdb]) (by rw [hfailed]), fun j _ => ?_⟩
    exact (h.knows j).of_staged (fun k => by rw [hdb]) (by rw [hfailed])
  · apply (Function.forall_update_iff g (fun j q => Holds (roles j) (b.held j) q)).2
    refine ⟨hholds, fun j hj => ?_⟩
    rw [hheld j hj]
    exact h.holds j
  · have hv : w.db.receipts.committed.get k = some v := hv
    rw [hdb] at hv
    exact hattended k v hv hflight (h.attended k v hv hflight)

/-- **A reception**: the worker has everything to see to. -/
theorem Tracked.receive {g : ι → Duty} {x : Plant ι × Ledger ι} {i : ι} {m : Message}
    {b : Broker ι Message} (h : Tracked roles g x) (hrole : roles i = .delivery m)
    (hidle : (g i).writing = none) (hb : x.1.broker.receive i m = some b) :
    Tracked roles (Function.update g i ⟨true, .all, none⟩) (⟨x.1.world, b⟩, x.2) := by
  obtain ⟨-, -, hbeq⟩ := Broker.receive_eq_some hb
  have hknows : Knows (roles i) x.1.world i ⟨true, .all, none⟩ := by
    have hk := h.knows i
    rw [hrole] at hk ⊢
    exact hk.of_idle hidle rfl
  refine h.queue rfl rfl hknows (fun j hj => ?_) ?_ (fun k r _ hflight hold => ?_)
  · rw [hbeq]
    exact Function.update_of_ne hj _ _
  · rw [hrole, hbeq]
    exact Function.update_self _ _ _
  · rcases hold with hpledged | howed
    · exact Or.inl (hpledged.receive hb (covers_update_self hflight)
        (fun j hj => covers_update_of_ne hj))
    · exact Or.inr howed

/-- **An acknowledgement**: nothing was left to see to. -/
theorem Tracked.acknowledge {g : ι → Duty} {x : Plant ι × Ledger ι} {i : ι} {m : Message}
    (h : Tracked roles g x) (hrole : roles i = .delivery m) (hdone : Done m.task (g i)) :
    Tracked roles (Function.update g i Duty.idle)
      (⟨x.1.world, x.1.broker.acknowledge i⟩, x.2) := by
  have hholds := h.holds i
  have hknows := h.knows i
  rw [hrole] at hholds hknows
  refine h.queue rfl rfl (by rw [hrole]; exact hknows.of_idle hdone.written rfl)
    (fun j hj => Function.update_of_ne hj _ _) ?_ (fun k r _ hflight hold => ?_)
  · rw [hrole]
    exact Function.update_self _ _ _
  · rcases hold with hpledged | howed
    · refine Or.inl (hpledged.acknowledge (fun m' hheld htakes hbusy => ?_)
        (fun j hj => covers_update_of_ne hj))
      have hm : m' = m := hholds.eq_of_held hheld
      have hnot := hdone.uncovered k r.status (hm ▸ htakes)
      rw [show (g i).burden.covers r.status = true from hbusy] at hnot
      cases hnot
    · exact Or.inr howed

/-- **Retrying or giving up**: the message is published again, or the ledger has the receipt. -/
theorem Tracked.pass {g : ι → Duty} {x : Plant ι × Ledger ι} {i : ι} {m : Message} {w : World ι}
    {b : Broker ι Message} {l : Ledger ι} (h : Tracked roles g x) (hrole : roles i = .delivery m)
    (hidle : (g i).writing = none) (hdb : w.db = x.1.world.db)
    (hfailed : w.failed = x.1.world.failed) (hheld : b.held = x.1.broker.held)
    (hpass : (∃ m', m'.task = m.task ∧ b = x.1.broker.publish [m'] ∧ l = x.2) ∨
      (b = x.1.broker ∧ l = x.2.giveUp x.1.world m)) :
    Tracked roles (Function.update g i { g i with burden := .nothing }) (⟨w, b⟩, l) := by
  have hholds := h.holds i
  have hknows := h.knows i
  rw [hrole] at hholds hknows
  refine h.queue hdb hfailed (by rw [hrole]; exact hknows.of_idle hidle hidle)
    (fun j _ => congrFun hheld j) ?_ (fun k r hr hflight hold => ?_)
  · rw [hrole, congrFun hheld i]
    exact hholds
  · rcases hold with (⟨m', hm', htakes⟩ | ⟨j, m', hj, htakes, hbusy⟩) | howed
    · -- the message waits
      refine Or.inl (Or.inl ⟨m', ?_, htakes⟩)
      rcases hpass with ⟨n, -, rfl, -⟩ | ⟨rfl, -⟩
      · exact List.mem_append_left _ hm'
      · exact hm'
    · by_cases hji : j = i
      · -- it is the one that is passed on
        subst hji
        have hm : m' = m := hholds.eq_of_held hj
        subst hm
        rcases hpass with ⟨n, hn, rfl, -⟩ | ⟨-, rfl⟩
        · refine Or.inl (Broker.pledged_publish (List.mem_singleton_self n) ?_)
          show takesOn k r.status n.task = true
          rw [hn]
          exact htakes
        · refine Or.inr (Or.inr ?_)
          show (x.2.abandoned k || about k m'.task && isInFlight x.1.world k) = true
          rw [about_of_subject (subject_of_takesOn htakes).1, isInFlight, hr, Option.any_some,
            hflight, Bool.and_self, Bool.or_true]
      · exact Or.inl (Or.inr ⟨j, m', (congrFun hheld j).trans hj, htakes,
          covers_update_of_ne hji hbusy⟩)
    · refine Or.inr ?_
      rcases hpass with ⟨-, -, -, rfl⟩ | ⟨-, rfl⟩
      · exact howed
      · rcases howed with howes | habandoned
        · exact Or.inl howes
        · refine Or.inr ?_
          show (x.2.abandoned k || _) = true
          rw [habandoned, Bool.true_or]

omit [DecidableEq ι] in
/-- A receipt in flight that a thread holds the task of. -/
theorem holdsTask_of_takesOn {w : World ι} {b : Broker ι Message} {i : ι} {m : Message} {k : UUID}
    {r : Receipt} (hheld : b.held i = some m) (hr : w.db.receipts.committed.get k = some r)
    (htakes : takesOn k r.status m.task = true) : holdsTask ⟨w, b⟩ i k = true := by
  obtain ⟨hsubject, hflight⟩ := subject_of_takesOn htakes
  show (b.held i).any _ = true
  rw [hheld, Option.any_some, about_of_subject hsubject, isInFlight, hr, Option.any_some, hflight,
    Bool.and_self]

/-- What is attended to stays so at the end of a thread. -/
theorem Attended.close {poolLost : ι → Bool} {g : ι → Duty} {x : Plant ι × Ledger ι} {i : ι}
    {k : UUID} {r : Receipt} (hr : x.1.world.db.receipts.committed.get k = some r)
    (h : Attended g x k r.status) :
    Attended (Function.update g i Duty.idle)
      (x.1.close poolLost i, x.2.ended poolLost i x.1) k r.status := by
  rcases h with hpledged | ⟨j, hj⟩ | habandoned
  · by_cases hlost : poolLost i = true
    · -- the message is acknowledged with the work undone
      by_cases hholds : holdsTask x.1 i k = true
      · refine Or.inr (Or.inr ?_)
        show (_ || poolLost i && holdsTask x.1 i k) = true
        rw [hlost, hholds, Bool.and_self, Bool.or_true]
      · refine Or.inl ?_
        show Broker.Pledged (if poolLost i then x.1.broker.acknowledge i
          else x.1.broker.release i) _ _
        rw [if_pos hlost]
        exact hpledged.acknowledge
          (fun m hheld htakes _ => hholds (holdsTask_of_takesOn hheld hr htakes))
          (fun j hj => covers_update_of_ne hj)
    · refine Or.inl ?_
      show Broker.Pledged (if poolLost i then x.1.broker.acknowledge i
        else x.1.broker.release i) _ _
      rw [if_neg hlost]
      exact hpledged.release (fun j hj => covers_update_of_ne hj)
  · by_cases hji : j = i
    · subst hji
      refine Or.inr (Or.inr ?_)
      show (x.2.abandoned k || x.2.owes j k || _) = true
      rw [hj, Bool.or_true, Bool.true_or]
    · refine Or.inr (Or.inl ⟨j, ?_⟩)
      show Function.update x.2.owes i _ j k = true
      rw [Function.update_of_ne hji]
      exact hj
  · refine Or.inr (Or.inr ?_)
    show (x.2.abandoned k || _ || _) = true
    rw [habandoned, Bool.true_or, Bool.true_or]

/-- **The end of a thread**: its message waits again, and the ledger has what it owed. -/
theorem Tracked.close {poolLost : ι → Bool} {g : ι → Duty} {x : Plant ι × Ledger ι} {i : ι}
    (h : Tracked roles g x) :
    Tracked roles (Function.update g i Duty.idle)
      (x.1.close poolLost i, x.2.ended poolLost i x.1) := by
  have hnone : ∀ k, (x.1.world.close i).db.receipts.staged i k = none :=
    fun k => (Store.staged_rollback _ _ _ _).trans (if_pos rfl)
  have hheld : (x.1.close poolLost i).broker.held = Function.update x.1.broker.held i none := by
    show (if poolLost i then _ else _ : Broker ι Message).held = _
    split <;> rfl
  refine ⟨?_, fun j => ?_, fun k v hv hflight => ?_⟩
  · apply (Function.forall_update_iff g
      (fun j q => Knows (roles j) (x.1.world.close i) j q)).2
    refine ⟨knows_of_none hnone rfl, fun j hj => ?_⟩
    exact (h.knows j).of_staged (fun k => (Store.staged_rollback _ _ _ _).trans (if_neg hj))
      (if_neg hj)
  · show Holds (roles j) ((x.1.close poolLost i).broker.held j) _
    rw [hheld]
    by_cases hj : j = i
    · subst hj
      rw [Function.update_self, Function.update_self]
      cases roles j <;> rfl
    · rw [Function.update_of_ne hj, Function.update_of_ne hj]
      exact h.holds j
  · exact (h.attended k v hv hflight).close hv

omit [DecidableEq ι] in
/-- The ledger looks at the task of a message only. -/
theorem giveUp_of_task {l : Ledger ι} {w : World ι} {m m' : Message} (h : m'.task = m.task) :
    l.giveUp w m' = l.giveUp w m := by
  unfold Ledger.giveUp
  rw [h]

/-- **One operation of a thread** keeps the invariant. -/
theorem Tracked.step {g : ι → Duty} {x : Plant ι × Ledger ι} {i : ι} {o : WorkerOp}
    {r : Except PyExc o.Res} {s : Plant ι} (h : Tracked roles g x) (hmay : (roles i).May (g i) o)
    (hx : Plant.exec env i o x.1 = some (r, s)) :
    ∃ q, (roles i).Next (g i) o r q ∧
      Tracked roles (Function.update g i q) (s, x.2.watch env i o r x.1) := by
  cases hrole : roles i with
  | request p hp =>
      rw [hrole] at hmay
      cases o with
      | service o =>
          obtain ⟨w, hexec, rfl⟩ := exec_service hx
          exact ⟨g i, rfl, h.service (by rw [hrole]; exact hmay) (by rw [hrole]; rfl) hexec⟩
      | receive m => exact hmay.elim
      | retry m => exact hmay.elim
      | giveUp m => exact hmay.elim
      | acknowledge => exact hmay.elim
  | delivery m =>
      rw [hrole] at hmay
      cases o with
      | service o =>
          obtain ⟨w, hexec, rfl⟩ := exec_service hx
          have hnext : (Role.delivery m).Next (g i) (.service o) r ((g i).answered m.task o r) :=
            ⟨rfl, exec_soundRows hexec⟩
          exact ⟨_, hnext, h.service (by rw [hrole]; exact hmay) (by rw [hrole]; exact hnext) hexec⟩
      | receive m' =>
          obtain ⟨b, -, hb, rfl⟩ := exec_receive hx
          obtain ⟨rfl, hidle⟩ := hmay
          exact ⟨⟨true, .all, none⟩, ⟨rfl, trivial⟩, h.receive hrole hidle hb⟩
      | retry m' =>
          obtain ⟨htask, hidle⟩ := hmay
          refine ⟨{ g i with burden := .nothing }, ⟨rfl, trivial⟩, ?_⟩
          show Tracked roles _ (s, if env.fault x.1.world.calls = .before
            then x.2.giveUp x.1.world m' else x.2)
          rcases exec_retry hx with ⟨hf, rfl⟩ | ⟨hf, rfl⟩
          · rw [if_neg hf]
            exact h.pass hrole hidle rfl rfl rfl (Or.inl ⟨m', htask, rfl, rfl⟩)
          · rw [if_pos hf]
            exact h.pass hrole hidle rfl rfl rfl (Or.inr ⟨rfl, giveUp_of_task htask⟩)
      | giveUp m' =>
          obtain ⟨rfl, hidle⟩ := hmay
          obtain ⟨-, rfl⟩ := Prod.mk.inj (Option.some.inj hx)
          exact ⟨{ g i with burden := .nothing }, ⟨rfl, trivial⟩,
            h.pass hrole hidle rfl rfl rfl (Or.inr ⟨rfl, rfl⟩)⟩
      | acknowledge =>
          obtain ⟨-, rfl⟩ := Prod.mk.inj (Option.some.inj hx)
          exact ⟨Duty.idle, ⟨rfl, trivial⟩, h.acknowledge hrole hmay⟩

/-- **What the threads know is kept in every run.** -/
theorem keeps_tracked (poolLost : ι → Bool) :
    (accounted env poolLost).Keeps (Tracked roles) (fun i => (roles i).May)
      (fun i => (roles i).Next) (fun _ _ (_ : Unit) => True) (fun _ _ _ => True)
      (fun _ _ _ => True) True where
  step := by
    intro g x i o r x' h hmay _ hx
    obtain ⟨⟨r', s⟩, hexec, heq⟩ := Option.map_eq_some_iff.1 hx
    cases heq
    exact h.step hmay hexec
  ret := fun h _ => ⟨Duty.idle, trivial, h.close⟩
  raise := fun h _ => ⟨Duty.idle, trivial, h.close⟩
  kill := fun _ h => ⟨Duty.idle, trivial, h.close⟩
  event := fun {_ _ e} _ => e.elim

/-! ## Every run -/

/-- Nothing is owed and nothing is abandoned. -/
def Ledger.empty : Ledger ι := ⟨fun _ _ => false, fun _ => false⟩

/-- The threads at their start, with an empty ledger. -/
def staffed (env : Env) (readers : Readers) (pages : ℕ) (roles : ι → Role) (s : Plant ι) :
    Config ι WorkerOp.Res PyExc Unit (Plant ι × Ledger ι) :=
  ⟨fun i => (roles i).program env readers pages, (s, Ledger.empty)⟩

/-- A task that takes the receipt further waits or is in the hands of a worker. -/
def HasTask (s : Plant ι) (k : UUID) (status : ReceiptStatus) : Prop :=
  ∃ m, takesOn k status m.task = true ∧ s.broker.Outstanding m

/-- Whatever is in flight has its task, unless the ledger has an entry for it. -/
def NoneLeftLying (s : Plant ι) (l : Ledger ι) : Prop :=
  ∀ k r, s.world.db.receipts.committed.get k = some r → inFlight r.status = true →
    HasTask s k r.status ∨ (∃ i, l.owes i k = true) ∨ l.abandoned k = true

/-- A request keeps to what a request may do. -/
theorem follows_request {p : Service Unit} {q : Duty} (h : p.Asks Resets) :
    (onWorker p).Follows (Role.request p h).May (Role.request p h).Next (fun _ _ => True)
      (fun _ _ => True) q := by
  have hbody : p.Follows (fun (_ : Duty) => Resets) (fun q _ _ q' => q' = q) (fun _ _ => True)
      (fun _ _ => True) q :=
    Prog.Respects.follows h (fun _ _ ho => ho) (fun _ _ _ _ _ => trivial) (fun _ _ _ => trivial)
      (fun _ _ _ => trivial)
  exact (follows_onWorker (I := fun _ => True) hbody trivial (fun _ _ _ ho => ho)
    (fun _ _ _ _ _ _ hq => ⟨hq, trivial⟩)).mono (fun _ _ _ => trivial) (fun _ _ _ => trivial)

/-- A thread keeps to its role. -/
theorem follows_program {readers : Readers} {pages : ℕ} (henv : env.settings.environment ≠ "test")
    (role : Role) :
    (role.program env readers pages).Follows role.May role.Next (fun _ _ => True)
      (fun _ _ => True) Duty.idle := by
  cases role with
  | delivery m => exact follows_delivery henv m
  | request p hp => exact follows_request hp

/-- **No receipt is left lying**: in every interleaving of deliveries and requests, with faults
and crashes, whatever is in flight has an outstanding task, unless a request owes it one or it has
been given up. -/
theorem noneLeftLying_run {readers : Readers} {pages : ℕ} {s : Plant ι} (poolLost : ι → Bool)
    (henv : env.settings.environment ≠ "test")
    (hpending : s.world.db.receipts.pending = []) (hheld : ∀ i, s.broker.held i = none)
    (hstart : NoneLeftLying s Ledger.empty) (as : List (Machine.Action ι Empty)) :
    NoneLeftLying ((accounted env poolLost).run (staffed env readers pages roles s) as).shared.1
      ((accounted env poolLost).run (staffed env readers pages roles s) as).shared.2 := by
  have hfollowed : Machine.Followed (Tracked roles) (fun i => (roles i).May)
      (fun i => (roles i).Next) (fun _ _ (_ : Unit) => True) (fun _ _ _ => True)
      (staffed env readers pages roles s) := by
    refine ⟨fun _ => Duty.idle, ⟨fun i => knows_of_none (fun k => ?_) rfl, fun i => ?_,
      fun k r hr hflight => ?_⟩, fun i => ?_⟩
    · show s.world.db.receipts.staged i k = none
      rw [Store.eq_ofTable hpending]
      rfl
    · show Holds (roles i) (s.broker.held i) Duty.idle
      rw [hheld]
      cases roles i <;> rfl
    · rcases hstart k r hr hflight with ⟨m, htakes, hm | ⟨i, hi⟩⟩ | ⟨i, hi⟩ | habandoned
      · exact Or.inl (Or.inl ⟨m, hm, htakes⟩)
      · rw [hheld] at hi
        cases hi
      · exact absurd hi Bool.false_ne_true
      · exact absurd habandoned Bool.false_ne_true
    · exact follows_program henv (roles i)
  have hok : (accounted env poolLost).Along (Machine.OpOk (fun _ _ _ => True) True)
      (staffed env readers pages roles s) as := by
    refine Machine.along_of_forall (fun c a => ?_) _ as
    cases a with
    | step i => exact fun _ _ _ => trivial
    | kill i => trivial
    | event e => trivial
  obtain ⟨g, htracked, -⟩ := (keeps_tracked poolLost).run hok hfollowed
  intro k r hr hflight
  rcases htracked.attended k r hr hflight with hpledged | howed
  · exact Or.inl hpledged.outstanding
  · exact Or.inr howed

end invariant

/-! ## The requests -/

/-- The requests that write receipts. -/
inductive Request where
  | upload (userId : UUID) (body : List UInt8)
  | inboundEmail (payload : InboundEmail)
  | retry (userId receiptId : UUID)
  | delete (userId receiptId : UUID)

/-- The service behind a request; what it returns does not matter here. -/
def Request.program (env : Env) : Request → Service Unit
  | upload userId body => (createReceipt env userId body none).bind fun _ => .ret ()
  | inboundEmail payload => (processInboundEmail env payload).bind fun _ => .ret ()
  | retry userId receiptId => (retryReceipt env userId receiptId).bind fun _ => .ret ()
  | delete userId receiptId => deleteReceipt userId receiptId

section requests

variable {env : Env}

theorem resets_getReceipt (userId receiptId : UUID) :
    (getReceipt userId receiptId).Asks Resets := by
  refine Prog.Asks.step trivial (fun rows =>
    Prog.Asks.bind (asks_scalarOneOrNone rows) (fun found => ?_))
  cases found with
  | none => exact Prog.Asks.raise
  | some receipt => exact Prog.Asks.ret

/-- A retry marks a failed receipt as uploaded again. -/
theorem resets_retryReceipt (userId receiptId : UUID) :
    (retryReceipt env userId receiptId).Asks Resets := by
  refine Prog.Asks.bind (resets_getReceipt userId receiptId) (fun receipt => ?_)
  show Prog.Asks Resets (if _ then _ else _)
  split
  · exact Prog.Asks.raise
  · rename_i hfailed
    have hstatus : ReceiptStatus.uploaded ≠ receipt.status := by
      rw [not_not.1 hfailed]
      exact fun hc => ReceiptStatus.noConfusion hc
    have hflush : Resets (.sql (.updateReceipt receiptId
        ([ReceiptColumn.status .uploaded, .errorMessage none].filter
          (ReceiptColumn.changes receipt)))) := by
      show (statuses _).getLast? = some .uploaded
      rw [statuses_filter rfl hstatus]
      rfl
    have hnext : ∀ id, (enqueueProcessing env id).Asks Resets := fun id =>
      (ingests_enqueueProcessing id).mono (fun _ => Ingests.resets)
    exact Prog.Asks.bind (asks_flushColumns (Prog.Asks.perform hflush)) (fun _ =>
      Prog.Asks.step trivial (fun _ =>
        Prog.Asks.bind ((ingests_refreshReceipt receiptId).mono (fun _ => Ingests.resets))
          (fun receipt => Prog.Asks.bind (hnext receipt.id) (fun _ => Prog.Asks.ret))))

theorem resets_deleteReceipt (userId receiptId : UUID) :
    (deleteReceipt userId receiptId).Asks Resets := by
  have hunlink : ∀ linked : List Expense,
      (linked.forM (fun e => sql (.updateExpense e.id [.receiptId none]))).Asks Resets := by
    intro linked
    induction linked with
    | nil => exact Prog.Asks.ret
    | cons e linked ih => exact Prog.Asks.step trivial (fun _ => ih)
  refine Prog.Asks.bind (resets_getReceipt userId receiptId) (fun receipt => ?_)
  refine Prog.Asks.step trivial (fun linked => Prog.Asks.bind (hunlink linked) (fun _ => ?_))
  refine Prog.Asks.step trivial (fun _ => Prog.Asks.step trivial (fun _ => ?_))
  exact Prog.Asks.handle (Prog.Asks.perform trivial) (fun _ => Prog.Asks.ret)

/-- **The requests** keep to what a request may do. -/
theorem resets_program (request : Request) : (request.program env).Asks Resets := by
  cases request with
  | upload userId body =>
      exact Prog.Asks.bind ((ingests_createReceipt userId body none).mono
        (fun _ => Ingests.resets)) (fun _ => Prog.Asks.ret)
  | inboundEmail payload =>
      exact Prog.Asks.bind ((ingests_processInboundEmail payload).mono
        (fun _ => Ingests.resets)) (fun _ => Prog.Asks.ret)
  | retry userId receiptId =>
      exact Prog.Asks.bind (resets_retryReceipt userId receiptId) (fun _ => Prog.Asks.ret)
  | delete userId receiptId => exact resets_deleteReceipt userId receiptId

end requests

/-- The thread of a request. -/
def Request.role (env : Env) (request : Request) : Role :=
  .request (request.program env) (resets_program request)

/-- The worker of an uploaded receipt, and a user who retries it meanwhile. -/
def workerAndUser : Bool → Role
  | false => .delivery ⟨.processReceipt 1005, 0⟩
  | true => (Request.retry 7 1005).role Env.quiet

/-- The receipt has been uploaded and enqueued. -/
def enqueuedPlant : Plant Bool :=
  ⟨uploadedWorld Bool, ⟨[⟨.processReceipt 1005, 0⟩], fun _ => none⟩⟩

/-- The worker marks the receipt failed, the user retries it, and the worker's process is lost. -/
def failedAndRetried : List (Machine.Action Bool Empty) :=
  List.replicate 7 (.step false) ++ List.replicate 6 (.step true) ++ [.kill false]

theorem noneLeftLying_run_sample :
    NoneLeftLying
      ((accounted Env.quiet fun i => !i).run
        (staffed Env.quiet blindReaders 1 workerAndUser enqueuedPlant) failedAndRetried).shared.1
      ((accounted Env.quiet fun i => !i).run
        (staffed Env.quiet blindReaders 1 workerAndUser enqueuedPlant)
          failedAndRetried).shared.2 := by
  refine noneLeftLying_run (fun i => !i) (by decide) rfl (fun _ => rfl) (fun k r hr _ => ?_)
    failedAndRetried
  refine Or.inl ⟨⟨.processReceipt 1005, 0⟩, ?_, Or.inl (List.mem_singleton_self _)⟩
  have hmem : r ∈ [sampleReceipt] := Table.mem_of_get hr
  have hk : r.id = k := Table.key_of_get hr
  rw [List.mem_singleton] at hmem
  subst hmem hk
  decide

/-- The message of the retry waits for the next worker. -/
example :
    ((accounted Env.quiet fun i => !i).run
      (staffed Env.quiet blindReaders 1 workerAndUser enqueuedPlant)
        failedAndRetried).shared.1.broker.waiting = [⟨.processReceipt 1005, 0⟩] := by
  decide +kernel

end SpendLens.Duties
