/-
# The status a receipt card shows

A card knows a receipt from two answers of the server: the row of the list, which is asked for every
five seconds, and its own status, which is asked for every two seconds while the row is in flight.
It shows the status whenever there is one.  The list can overtake it: then the row is no longer in
flight, nobody asks for the status again, and the old one stays on the card.
-/
import SpendLens.Schema
import SpendLens.Lib.EventRuns

namespace SpendLens

open EventRuns

namespace ReceiptCard

/-! ## What is known -/

/-- What a request has read of the receipt, and when the server read it. -/
structure Read where
  status : ReceiptStatus
  updatedAt : ℕ
  readAt : ℕ
  deriving DecidableEq

/-- `TERMINAL_STATUSES`. -/
def terminal (status : ReceiptStatus) : Bool := status = .categorised || status = .failed

/-- `isInFlight`. -/
def isInFlight (status : ReceiptStatus) : Bool := !terminal status

/-- The request of a query: there is one at most. -/
inductive Request where
  | idle
  | sent
  | answered (r : Read)
  deriving DecidableEq

def Request.reads : Request → List Read
  | answered r => [r]
  | _ => []

/-- The receipt at the server, the two caches and the requests for them. -/
structure Card where
  status : ReceiptStatus
  updatedAt : ℕ
  /-- Counts what the server does. -/
  clock : ℕ
  /-- The row in the data of `useReceipts`. -/
  row : Read
  /-- The data of `useReceiptStatus`. -/
  cached : Option Read
  listRequest : Request
  statusRequest : Request
  deriving DecidableEq

/-- A card is put up for a row that the list has brought. -/
def start (status : ReceiptStatus) (updatedAt : ℕ) : Card where
  status := status
  updatedAt := updatedAt
  clock := 1
  row := ⟨status, updatedAt, 0⟩
  cached := none
  listRequest := .idle
  statusRequest := .idle

/-- The status query is enabled while the row is in flight. -/
def Card.subscribed (s : Card) : Bool := isInFlight s.row.status

/-- What happens to a receipt and its card. -/
inductive Event where
  /-- The pipeline or a retry writes the row, some time after the write before. -/
  | progress (status : ReceiptStatus) (later : ℕ)
  /-- The interval of the list. -/
  | pollList
  /-- An upload, a retry or a deletion invalidates the list and what is below its key. -/
  | invalidate
  /-- The interval of the status. -/
  | pollStatus
  /-- The query is enabled, or mounted, with data that are missing or stale. -/
  | fetchStatus
  | serveList
  | serveStatus
  | listArrives
  | statusArrives
  | listFails
  | statusFails
  deriving DecidableEq

/-- What the server reads now. -/
def Card.present (s : Card) : Read := ⟨s.status, s.updatedAt, s.clock⟩

/-- A step; what cannot happen changes nothing. -/
def Card.step (s : Card) : Event → Card
  | .progress status later =>
      { s with status := status, updatedAt := s.updatedAt + later + 1, clock := s.clock + 1 }
  | .pollList => if s.listRequest = .idle then { s with listRequest := .sent } else s
  | .invalidate =>
      -- a request that is under way is dropped; the status is asked for if the query is enabled
      { s with
        listRequest := .sent
        statusRequest := if s.subscribed then .sent else s.statusRequest }
  | .pollStatus =>
      if s.subscribed && !s.cached.any (fun r => terminal r.status) && s.statusRequest = .idle then
        { s with statusRequest := .sent }
      else s
  | .fetchStatus =>
      if s.subscribed && s.statusRequest = .idle then { s with statusRequest := .sent } else s
  | .serveList =>
      if s.listRequest = .sent then
        { s with listRequest := .answered s.present, clock := s.clock + 1 }
      else s
  | .serveStatus =>
      if s.statusRequest = .sent then
        { s with statusRequest := .answered s.present, clock := s.clock + 1 }
      else s
  | .listArrives =>
      match s.listRequest with
      | .answered r => { s with row := r, listRequest := .idle }
      | _ => s
  | .statusArrives =>
      match s.statusRequest with
      | .answered r => { s with cached := some r, statusRequest := .idle }
      | _ => s
  | .listFails => { s with listRequest := .idle }
  | .statusFails => { s with statusRequest := .idle }

/-- The `view`: the status if there is one, else the row. -/
def Card.view (s : Card) : Read := s.cached.getD s.row

def Card.known (s : Card) : List Read := s.row :: s.cached.toList

/-- **The card shows the newest known status.** -/
def ShowsNewest (s : Card) : Prop :=
  ∃ newest ∈ s.known, (∀ r ∈ s.known, r.updatedAt ≤ newest.updatedAt) ∧
    s.view.status = newest.status

/-- A list answer that arrives was not read behind the status on the card, or reads the same; a
status answer that arrives was not read before the row, or reads the same. -/
def InOrder (s : Card) : Event → Prop
  | .listArrives => ∀ r c, s.listRequest = .answered r → s.cached = some c →
      r.readAt ≤ c.readAt ∨ r.status = c.status
  | .statusArrives => ∀ r, s.statusRequest = .answered r →
      s.row.readAt ≤ r.readAt ∨ s.row.status = r.status
  | _ => True

/-! ## What the reads tell -/

/-- The write that `a` has read is not behind the one that `b` has read. -/
def Precedes (a b : Read) : Prop :=
  a.updatedAt ≤ b.updatedAt ∧ (a.updatedAt = b.updatedAt → a.status = b.status)

def Card.reads (s : Card) : List Read :=
  s.known ++ (s.listRequest.reads ++ s.statusRequest.reads)

/-- What is read later is not older. -/
structure Coherent (s : Card) : Prop where
  past : ∀ a ∈ s.reads, a.readAt < s.clock ∧ Precedes a s.present
  ordered : ∀ a ∈ s.reads, ∀ b ∈ s.reads, a.readAt ≤ b.readAt → Precedes a b

theorem mem_reads {s : Card} {a : Read} : a ∈ s.reads ↔ a = s.row ∨ s.cached = some a ∨
    s.listRequest = .answered a ∨ s.statusRequest = .answered a := by
  have hrequest : ∀ q : Request, a ∈ q.reads ↔ q = .answered a := by
    intro q
    cases q with
    | idle => exact iff_of_false List.not_mem_nil nofun
    | sent => exact iff_of_false List.not_mem_nil nofun
    | answered r => rw [Request.reads, List.mem_singleton, Request.answered.injEq, eq_comm]
  rw [Card.reads, Card.known, List.mem_append, List.mem_append, List.mem_cons, Option.mem_toList,
    hrequest, hrequest, or_assoc]

theorem precedes_refl (a : Read) : Precedes a a := ⟨le_refl _, fun _ => rfl⟩

theorem coherent_start (status : ReceiptStatus) (updatedAt : ℕ) :
    Coherent (start status updatedAt) := by
  have hone : (start status updatedAt).reads = [⟨status, updatedAt, 0⟩] := rfl
  constructor
  · intro a ha
    rw [hone, List.mem_singleton] at ha
    rw [ha]
    exact ⟨Nat.zero_lt_one, le_refl _, fun _ => rfl⟩
  · intro a ha b hb _
    rw [hone, List.mem_singleton] at ha hb
    rw [ha, hb]
    exact precedes_refl _

/-- Reads that are dropped or moved. -/
theorem Coherent.of_subset {s t : Card} (h : Coherent s) (hpresent : t.present = s.present)
    (hreads : ∀ a ∈ t.reads, a ∈ s.reads) : Coherent t := by
  have hclock : t.clock = s.clock := congrArg Read.readAt hpresent
  refine ⟨fun a ha => ?_, fun a ha b hb => h.ordered a (hreads a ha) b (hreads b hb)⟩
  rw [hclock, hpresent]
  exact h.past a (hreads a ha)

/-- The present is read. -/
theorem Coherent.serve {s t : Card} (h : Coherent s) (hstatus : t.status = s.status)
    (hupdated : t.updatedAt = s.updatedAt) (hclock : t.clock = s.clock + 1)
    (hreads : ∀ a ∈ t.reads, a = s.present ∨ a ∈ s.reads) : Coherent t := by
  have hpast : ∀ a ∈ t.reads, a.readAt < t.clock ∧ Precedes a s.present := by
    intro a ha
    rw [hclock]
    obtain rfl | ha := hreads a ha
    · exact ⟨Nat.lt_succ_self _, precedes_refl _⟩
    · exact ⟨Nat.lt_succ_of_lt (h.past a ha).1, (h.past a ha).2⟩
  constructor
  · intro a ha
    refine ⟨(hpast a ha).1, ?_⟩
    show a.updatedAt ≤ t.updatedAt ∧ (a.updatedAt = t.updatedAt → a.status = t.status)
    rw [hstatus, hupdated]
    exact (hpast a ha).2
  · intro a ha b hb hab
    obtain rfl | hb' := hreads b hb
    · exact (hpast a ha).2
    · obtain rfl | ha' := hreads a ha
      · have hlt := (h.past b hb').1
        exact absurd hab (Nat.not_le_of_lt hlt)
      · exact h.ordered a ha' b hb' hab

/-- The receipt is written. -/
theorem Coherent.progress {s : Card} (h : Coherent s) (status : ReceiptStatus) (later : ℕ) :
    Coherent (s.step (.progress status later)) := by
  refine ⟨fun a ha => ?_, h.ordered⟩
  obtain ⟨hclock, hle, -⟩ := h.past a ha
  have hlt : a.updatedAt < s.updatedAt + later + 1 := by
    have hpresent : a.updatedAt ≤ s.updatedAt := hle
    omega
  exact ⟨Nat.lt_succ_of_lt hclock, hlt.le, fun heq => absurd heq hlt.ne⟩

/-- Requests are sent or given up. -/
theorem Coherent.of_requests {s t : Card} (h : Coherent s) (hpresent : t.present = s.present)
    (hrow : t.row = s.row) (hcached : t.cached = s.cached)
    (hlist : ∀ r, t.listRequest = .answered r → s.listRequest = .answered r)
    (hstatus : ∀ r, t.statusRequest = .answered r → s.statusRequest = .answered r) :
    Coherent t := by
  refine h.of_subset hpresent (fun a ha => ?_)
  rw [mem_reads, hrow, hcached] at ha
  exact mem_reads.2 (ha.imp_right (Or.imp_right (Or.imp (hlist a) (hstatus a))))

theorem Coherent.step {s : Card} (h : Coherent s) (e : Event) : Coherent (s.step e) := by
  cases e with
  | progress status later => exact h.progress status later
  | pollList =>
      rw [Card.step]
      split
      · exact h.of_requests rfl rfl rfl nofun (fun _ hr => hr)
      · exact h
  | invalidate =>
      refine h.of_requests rfl rfl rfl nofun (fun r hr => ?_)
      by_cases hsubscribed : s.subscribed = true
      · rw [Card.step, hsubscribed] at hr
        cases hr
      · rw [Bool.not_eq_true] at hsubscribed
        rw [Card.step, hsubscribed] at hr
        exact hr
  | pollStatus =>
      rw [Card.step]
      split
      · exact h.of_requests rfl rfl rfl (fun _ hr => hr) nofun
      · exact h
  | fetchStatus =>
      rw [Card.step]
      split
      · exact h.of_requests rfl rfl rfl (fun _ hr => hr) nofun
      · exact h
  | serveList =>
      rw [Card.step]
      split
      · refine h.serve rfl rfl rfl (fun a ha => ?_)
        obtain ha | ha | ha | ha := mem_reads.1 ha
        · exact Or.inr (mem_reads.2 (Or.inl ha))
        · exact Or.inr (mem_reads.2 (Or.inr (Or.inl ha)))
        · exact Or.inl (Request.answered.inj ha).symm
        · exact Or.inr (mem_reads.2 (Or.inr (Or.inr (Or.inr ha))))
      · exact h
  | serveStatus =>
      rw [Card.step]
      split
      · refine h.serve rfl rfl rfl (fun a ha => ?_)
        obtain ha | ha | ha | ha := mem_reads.1 ha
        · exact Or.inr (mem_reads.2 (Or.inl ha))
        · exact Or.inr (mem_reads.2 (Or.inr (Or.inl ha)))
        · exact Or.inr (mem_reads.2 (Or.inr (Or.inr (Or.inl ha))))
        · exact Or.inl (Request.answered.inj ha).symm
      · exact h
  | listArrives =>
      rw [Card.step]
      split
      · rename_i r hr
        refine h.of_subset rfl (fun a ha => ?_)
        obtain rfl | ha | ha | ha := mem_reads.1 ha
        · exact mem_reads.2 (Or.inr (Or.inr (Or.inl hr)))
        · exact mem_reads.2 (Or.inr (Or.inl ha))
        · cases ha
        · exact mem_reads.2 (Or.inr (Or.inr (Or.inr ha)))
      · exact h
  | statusArrives =>
      rw [Card.step]
      split
      · rename_i r hr
        refine h.of_subset rfl (fun a ha => ?_)
        obtain ha | ha | ha | ha := mem_reads.1 ha
        · exact mem_reads.2 (Or.inl ha)
        · obtain rfl := Option.some.inj ha
          exact mem_reads.2 (Or.inr (Or.inr (Or.inr hr)))
        · exact mem_reads.2 (Or.inr (Or.inr (Or.inl ha)))
        · cases ha
      · exact h
  | listFails => exact h.of_requests rfl rfl rfl nofun (fun _ hr => hr)
  | statusFails => exact h.of_requests rfl rfl rfl (fun _ hr => hr) nofun

/-! ## When the newest is shown -/

/-- A cached status is shown whether or not the row is newer. -/
theorem showsNewest_iff {s : Card} : ShowsNewest s ↔ ∀ c, s.cached = some c →
    s.row.updatedAt ≤ c.updatedAt ∨ s.row.status = c.status := by
  cases hcached : s.cached with
  | none =>
      refine iff_of_true ⟨s.row, List.mem_cons_self, fun r hr => ?_, ?_⟩ nofun
      · rw [Card.known, hcached, Option.toList_none, List.mem_singleton] at hr
        rw [hr]
      · rw [Card.view, hcached]
        rfl
  | some c =>
      have hknown : s.known = [s.row, c] := by rw [Card.known, hcached]; rfl
      have hview : s.view = c := by rw [Card.view, hcached]; rfl
      rw [ShowsNewest, hknown, hview]
      constructor
      · rintro ⟨newest, hmem, hall, hstatus⟩ c' hc'
        obtain rfl := Option.some.inj hc'
        rw [List.mem_cons, List.mem_singleton] at hmem
        obtain rfl | rfl := hmem
        · exact Or.inr hstatus.symm
        · exact Or.inl (hall _ List.mem_cons_self)
      · intro h
        by_cases hle : s.row.updatedAt ≤ c.updatedAt
        · refine ⟨c, by simp, fun r hr => ?_, rfl⟩
          rw [List.mem_cons, List.mem_singleton] at hr
          obtain rfl | rfl := hr
          · exact hle
          · exact le_refl _
        · refine ⟨s.row, List.mem_cons_self, fun r hr => ?_, ?_⟩
          · rw [List.mem_cons, List.mem_singleton] at hr
            obtain rfl | rfl := hr
            · exact le_refl _
            · exact (Nat.lt_of_not_le hle).le
          · exact ((h c rfl).resolve_left hle).symm

/-- The order of the reads is the order of what they have read, where the statuses differ. -/
theorem Coherent.le_iff {s : Card} (h : Coherent s) {a b : Read} (ha : a ∈ s.reads)
    (hb : b ∈ s.reads) :
    (a.updatedAt ≤ b.updatedAt ∨ a.status = b.status) ↔
      (a.readAt ≤ b.readAt ∨ a.status = b.status) := by
  constructor
  · rintro (hle | hsame)
    · by_cases hread : a.readAt ≤ b.readAt
      · exact Or.inl hread
      · have hback := h.ordered b hb a ha (Nat.lt_of_not_le hread).le
        exact Or.inr (hback.2 (le_antisymm hback.1 hle)).symm
    · exact Or.inr hsame
  · rintro (hread | hsame)
    · exact Or.inl (h.ordered a ha b hb hread).1
    · exact Or.inr hsame

/-- A step that brings no answer shows what was shown. -/
theorem showsNewest_of_caches {s t : Card} (hrow : t.row = s.row) (hcached : t.cached = s.cached) :
    ShowsNewest t ↔ ShowsNewest s := by
  rw [showsNewest_iff, showsNewest_iff, hrow, hcached]

/-- **A step keeps the newest on the card** exactly if its answer arrives in order. -/
theorem showsNewest_step {s : Card} (h : Coherent s) (hshows : ShowsNewest s) (e : Event) :
    ShowsNewest (s.step e) ↔ InOrder s e := by
  have hquiet : ∀ t : Card, t.row = s.row → t.cached = s.cached → (ShowsNewest t ↔ True) :=
    fun t hrow hcached => iff_of_true ((showsNewest_of_caches hrow hcached).2 hshows) trivial
  cases e with
  | progress status later => exact hquiet _ rfl rfl
  | pollList =>
      rw [Card.step]
      split
      · exact hquiet _ rfl rfl
      · exact hquiet _ rfl rfl
  | invalidate => exact hquiet _ rfl rfl
  | pollStatus =>
      rw [Card.step]
      split
      · exact hquiet _ rfl rfl
      · exact hquiet _ rfl rfl
  | fetchStatus =>
      rw [Card.step]
      split
      · exact hquiet _ rfl rfl
      · exact hquiet _ rfl rfl
  | serveList =>
      rw [Card.step]
      split
      · exact hquiet _ rfl rfl
      · exact hquiet _ rfl rfl
  | serveStatus =>
      rw [Card.step]
      split
      · exact hquiet _ rfl rfl
      · exact hquiet _ rfl rfl
  | listArrives =>
      rw [Card.step]
      split
      · rename_i r hr
        have hrmem : r ∈ s.reads := mem_reads.2 (Or.inr (Or.inr (Or.inl hr)))
        rw [showsNewest_iff]
        show (∀ c, s.cached = some c → _) ↔
          ∀ r' c, s.listRequest = .answered r' → s.cached = some c → _
        constructor
        · intro hnew r' c hr' hc
          obtain rfl := Request.answered.inj (hr.symm.trans hr')
          exact (h.le_iff hrmem (mem_reads.2 (Or.inr (Or.inl hc)))).1 (hnew c hc)
        · intro horder c hc
          exact (h.le_iff hrmem (mem_reads.2 (Or.inr (Or.inl hc)))).2 (horder r c hr hc)
      · rename_i hno
        exact iff_of_true hshows (fun r _ hr => absurd hr (hno r))
  | statusArrives =>
      rw [Card.step]
      split
      · rename_i r hr
        have hrmem : r ∈ s.reads := mem_reads.2 (Or.inr (Or.inr (Or.inr hr)))
        rw [showsNewest_iff]
        show (∀ c, some r = some c → _) ↔ ∀ r', s.statusRequest = .answered r' → _
        constructor
        · intro hnew r' hr'
          obtain rfl := Request.answered.inj (hr.symm.trans hr')
          exact (h.le_iff (mem_reads.2 (Or.inl rfl)) hrmem).1 (hnew r rfl)
        · intro horder c hc
          obtain rfl := Option.some.inj hc
          exact (h.le_iff (mem_reads.2 (Or.inl rfl)) hrmem).2 (horder r hr)
      · rename_i hno
        exact iff_of_true hshows (fun r hr => absurd hr (hno r))
  | listFails => exact hquiet _ rfl rfl
  | statusFails => exact hquiet _ rfl rfl

/-! ## Runs -/

/-- **The newest status is shown all along a run** exactly if no answer in it arrives out of order:
no row of the list that was read behind the cached status and has another one, and no status that
was read before the row and is another one. -/
theorem showsNewest_along_iff (status : ReceiptStatus) (updatedAt : ℕ) (es : List Event) :
    (∀ es₁ es₂, es = es₁ ++ es₂ → ShowsNewest (run Card.step (start status updatedAt) es₁)) ↔
      Along Card.step InOrder (start status updatedAt) es :=
  @forall_prefix_iff_along _ _ Card.step InOrder Coherent ShowsNewest (fun _ e h _ => h.step e)
    (fun _ e h hshows => showsNewest_step h hshows e) es _ (coherent_start status updatedAt)
    (showsNewest_iff.2 nofun)

/-- The row is in flight no more, no status is on its way, and `c` is what is cached. -/
structure Stuck (c : Option Read) (s : Card) : Prop where
  off : s.subscribed = false
  idle : s.statusRequest = .idle
  cached : s.cached = c

/-- The list brings no row in flight. -/
def NotInFlight (s : Card) (e : Event) : Prop :=
  e = .listArrives → ∀ r, s.listRequest = .answered r → isInFlight r.status = false

theorem Stuck.step {c : Option Read} {s : Card} (h : Stuck c s) {e : Event}
    (hlist : NotInFlight s e) : Stuck c (s.step e) := by
  obtain ⟨hoff, hidle, hcached⟩ := h
  cases e with
  | progress status later => exact ⟨hoff, hidle, hcached⟩
  | pollList =>
      rw [Card.step]
      split
      · exact ⟨hoff, hidle, hcached⟩
      · exact ⟨hoff, hidle, hcached⟩
  | invalidate =>
      rw [Card.step, hoff]
      exact ⟨hoff, hidle, hcached⟩
  | pollStatus =>
      rw [Card.step, hoff]
      exact ⟨hoff, hidle, hcached⟩
  | fetchStatus =>
      rw [Card.step, hoff]
      exact ⟨hoff, hidle, hcached⟩
  | serveList =>
      rw [Card.step]
      split
      · exact ⟨hoff, hidle, hcached⟩
      · exact ⟨hoff, hidle, hcached⟩
  | serveStatus =>
      rw [Card.step, hidle]
      exact ⟨hoff, hidle, hcached⟩
  | listArrives =>
      rw [Card.step]
      split
      · rename_i r hr
        exact ⟨hlist rfl r hr, hidle, hcached⟩
      · exact ⟨hoff, hidle, hcached⟩
  | statusArrives =>
      rw [Card.step, hidle]
      exact ⟨hoff, hidle, hcached⟩
  | listFails => exact ⟨hoff, hidle, hcached⟩
  | statusFails => exact ⟨hoff, rfl, hcached⟩

/-- **The card sticks.**  Once the row is in flight no more and no status is on its way, the cached
status stays for as long as the list brings no row in flight. -/
theorem cached_stuck {c : Option Read} {s : Card} (h : Stuck c s) {es : List Event}
    (hlist : Along Card.step NotInFlight s es) : (run Card.step s es).cached = c := by
  have hrun : Stuck c (run Card.step s es) :=
    @holds_run _ _ Card.step NotInFlight (Stuck c) (fun _ _ h hok => h.step hok) es s h hlist
  exact hrun.cached

/-- The status of a receipt that has been read is asked for, and the list is the first to tell that
it has been categorised. -/
def overtaken : List Event :=
  [.fetchStatus, .progress .processing 0, .progress .parsed 0, .serveStatus, .statusArrives,
    .progress .categorised 0, .pollList, .serveList, .listArrives]

/-- The row is categorised, and the card goes on to show that it has been read. -/
theorem not_showsNewest_overtaken :
    (run Card.step (start .uploaded 0) overtaken).row.status = .categorised ∧
      (run Card.step (start .uploaded 0) overtaken).view.status = .parsed ∧
      ¬ShowsNewest (run Card.step (start .uploaded 0) overtaken) := by
  refine ⟨by decide, by decide, ?_⟩
  rw [showsNewest_iff]
  intro h
  have hnew := h ⟨.parsed, 2, 3⟩ (by decide)
  revert hnew
  decide

end ReceiptCard

end SpendLens
