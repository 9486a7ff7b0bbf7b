/-
# Interleaved execution of programs

A `Machine` answers the operations of many threads against one shared state.
An operation may be *blocked* (it waits for a lock another thread holds), in
which case scheduling its thread changes nothing.  A run is a list of actions:
one operation of one thread, the death of a thread, or an event of the
environment.  Everything the environment decides is in the machine or in the
list, so a statement about every machine and every list of actions is a
statement about every schedule.

Two rules carry invariants through all runs: `Outline.run` (every thread keeps
an assertion of its own that the steps of the others leave intact) and its
special case `holds_run_of_respects` (every thread respects a guarantee).
-/
import SpendLens.Lib.Prog
import Mathlib.Logic.Function.Basic
import Mathlib.Data.Nat.Notation

/-- How the operations of the threads `ι` act on the shared state `σ`. -/
structure Machine (ι : Type) {Op : Type} (Res : Op → Type) (ε σ E : Type) where
  /-- Answer one operation of a thread; `none` while the thread has to wait. -/
  exec : ι → (o : Op) → σ → Option (Except ε (Res o) × σ)
  /-- What the end of a thread, regular or not, does to the shared state. -/
  close : ι → σ → σ
  /-- What an event of the environment does to the shared state. -/
  event : E → σ → σ
  /-- The exception a killed thread ends with. -/
  crashed : ε

/-- What the scheduler does next. -/
inductive Machine.Action (ι E : Type) where
  | step (i : ι)
  | kill (i : ι)
  | event (e : E)
  deriving DecidableEq, Repr

/-- What every thread still has to run, and the shared state. -/
structure Config (ι : Type) {Op : Type} (Res : Op → Type) (ε α σ : Type) where
  threads : ι → Prog Res ε α
  shared : σ

namespace Machine

variable {ι Op : Type} {Res : Op → Type} {ε α σ E G : Type}

/-- A thread running alone: an operation that would wait for ever raises. -/
def alone (M : Machine ι Res ε σ E) (i : ι) (o : Op) (s : σ) : Except ε (Res o) × σ :=
  (M.exec i o s).getD (.error M.crashed, s)

variable [DecidableEq ι]

/-! ## Runs -/

/-- One action. -/
def act (M : Machine ι Res ε σ E) (c : Config ι Res ε α σ) : Action ι E → Config ι Res ε α σ
  | .step i =>
    match c.threads i with
    | .ret _ => { c with shared := M.close i c.shared }
    | .raise _ => { c with shared := M.close i c.shared }
    | .call o k =>
      match M.exec i o c.shared with
      | none => c
      | some (r, s) => ⟨Function.update c.threads i (k r), s⟩
  | .kill i => ⟨Function.update c.threads i (.raise M.crashed), M.close i c.shared⟩
  | .event e => { c with shared := M.event e c.shared }

section act

variable {M : Machine ι Res ε σ E} {c : Config ι Res ε α σ} {i : ι}

theorem act_step_ret {a : α} (h : c.threads i = .ret a) :
    M.act c (.step i) = { c with shared := M.close i c.shared } := by
  simp only [act, h]

theorem act_step_raise {e : ε} (h : c.threads i = .raise e) :
    M.act c (.step i) = { c with shared := M.close i c.shared } := by
  simp only [act, h]

/-- A blocked thread stays where it is. -/
theorem act_step_blocked {o : Op} {k : Except ε (Res o) → Prog Res ε α}
    (h : c.threads i = .call o k) (hx : M.exec i o c.shared = none) :
    M.act c (.step i) = c := by
  simp only [act, h, hx]

theorem act_step_call {o : Op} {k : Except ε (Res o) → Prog Res ε α} {r : Except ε (Res o)}
    {s : σ} (h : c.threads i = .call o k) (hx : M.exec i o c.shared = some (r, s)) :
    M.act c (.step i) = ⟨Function.update c.threads i (k r), s⟩ := by
  simp only [act, h, hx]

/-- What an action does to the shared state: nothing, the end of a thread, an event, or one
answered operation. -/
theorem act_cases (M : Machine ι Res ε σ E) (c : Config ι Res ε α σ) (a : Action ι E) :
    (M.act c a).shared = c.shared ∨ (∃ i, (M.act c a).shared = M.close i c.shared) ∨
      (∃ e, (M.act c a).shared = M.event e c.shared) ∨
      ∃ i o k r s, a = .step i ∧ c.threads i = .call o k ∧ M.exec i o c.shared = some (r, s) ∧
        (M.act c a).shared = s := by
  cases a with
  | step i =>
      cases hp : c.threads i with
      | ret a => exact Or.inr (Or.inl ⟨i, by rw [act_step_ret hp]⟩)
      | raise e => exact Or.inr (Or.inl ⟨i, by rw [act_step_raise hp]⟩)
      | call o k =>
          cases hx : M.exec i o c.shared with
          | none => exact Or.inl (by rw [act_step_blocked hp hx])
          | some rs =>
              obtain ⟨r, s⟩ := rs
              exact Or.inr (Or.inr (Or.inr ⟨i, o, k, r, s, rfl, hp, hx, by rw [act_step_call hp hx]⟩))
  | kill i => exact Or.inr (Or.inl ⟨i, rfl⟩)
  | event e => exact Or.inr (Or.inr (Or.inl ⟨e, rfl⟩))

end act

/-- A run: the actions in order. -/
def run (M : Machine ι Res ε σ E) (c : Config ι Res ε α σ) (as : List (Action ι E)) :
    Config ι Res ε α σ :=
  as.foldl M.act c

@[simp] theorem run_nil (M : Machine ι Res ε σ E) (c : Config ι Res ε α σ) :
    M.run c [] = c := rfl

@[simp] theorem run_cons (M : Machine ι Res ε σ E) (c : Config ι Res ε α σ) (a : Action ι E)
    (as : List (Action ι E)) : M.run c (a :: as) = M.run (M.act c a) as := rfl

theorem run_append (M : Machine ι Res ε σ E) (c : Config ι Res ε α σ)
    (as bs : List (Action ι E)) : M.run c (as ++ bs) = M.run (M.run c as) bs := by
  rw [run, run, run, List.foldl_append]

/-- Every action of the run meets the condition `Ok` in the configuration it is
taken in. -/
def Along (M : Machine ι Res ε σ E) (Ok : Config ι Res ε α σ → Action ι E → Prop) :
    Config ι Res ε α σ → List (Action ι E) → Prop
  | _, [] => True
  | c, a :: as => Ok c a ∧ Along M Ok (M.act c a) as

/-- **The invariant rule**: what every admissible action keeps, every admissible
run keeps. -/
theorem invariant_run {M : Machine ι Res ε σ E} {Ok : Config ι Res ε α σ → Action ι E → Prop}
    {I : Config ι Res ε α σ → Prop} (hstep : ∀ c a, Ok c a → I c → I (M.act c a))
    {c : Config ι Res ε α σ} {as : List (Action ι E)} (hok : M.Along Ok c as) (hc : I c) :
    I (M.run c as) := by
  induction as generalizing c with
  | nil => exact hc
  | cons a as ih => exact ih hok.2 (hstep c a hok.1 hc)

/-- What an admissible action does in a configuration with the invariant, it does along
every admissible run. -/
theorem along_of_step {M : Machine ι Res ε σ E} {Ok P : Config ι Res ε α σ → Action ι E → Prop}
    {I : Config ι Res ε α σ → Prop} (hstep : ∀ c a, Ok c a → I c → I (M.act c a))
    (hP : ∀ c a, Ok c a → I c → P c a) {c : Config ι Res ε α σ} {as : List (Action ι E)}
    (hok : M.Along Ok c as) (hc : I c) : M.Along P c as := by
  induction as generalizing c with
  | nil => trivial
  | cons a as ih => exact ⟨hP c a hok.1 hc, ih hok.2 (hstep c a hok.1 hc)⟩

/-- What holds wherever an invariant does holds along every run. -/
theorem along_of_invariant {M : Machine ι Res ε σ E}
    {Ok : Config ι Res ε α σ → Action ι E → Prop} {I : Config ι Res ε α σ → Prop}
    (hok : ∀ c a, I c → Ok c a) (as : List (Action ι E))
    (hstep : ∀ c, ∀ a ∈ as, I c → I (M.act c a)) {c : Config ι Res ε α σ} (hc : I c) :
    M.Along Ok c as := by
  induction as generalizing c with
  | nil => trivial
  | cons a as ih =>
      refine ⟨hok c a hc, ih (fun c b hb => hstep c b (List.mem_cons_of_mem _ hb)) ?_⟩
      exact hstep c a List.mem_cons_self hc

/-- What every action does unless it reaches a lasting condition, every action of a run has
done that ends outside the condition. -/
theorem along_of_not_reached {M : Machine ι Res ε σ E}
    {Ok P : Config ι Res ε α σ → Action ι E → Prop} {I S : Config ι Res ε α σ → Prop}
    (hstep : ∀ c a, Ok c a → I c → I (M.act c a))
    (hlasts : ∀ c a, Ok c a → I c → S c → S (M.act c a))
    (hP : ∀ c a, Ok c a → I c → P c a ∨ S (M.act c a)) {c : Config ι Res ε α σ}
    {as : List (Action ι E)} (hok : M.Along Ok c as) (hc : I c) (hend : ¬S (M.run c as)) :
    M.Along P c as := by
  induction as generalizing c with
  | nil => trivial
  | cons a as ih =>
      have hc' := hstep c a hok.1 hc
      refine ⟨(hP c a hok.1 hc).resolve_right (fun hreached => hend ?_), ih hok.2 hc' hend⟩
      have hinv : ∀ c a, Ok c a → I c ∧ S c → I (M.act c a) ∧ S (M.act c a) :=
        fun c a ha h => ⟨hstep c a ha h.1, hlasts c a ha h.1 h.2⟩
      exact (invariant_run hinv hok.2 ⟨hc', hreached⟩).2

theorem along_append {M : Machine ι Res ε σ E} {Ok : Config ι Res ε α σ → Action ι E → Prop}
    (c : Config ι Res ε α σ) (as bs : List (Action ι E)) :
    M.Along Ok c (as ++ bs) ↔ M.Along Ok c as ∧ M.Along Ok (M.run c as) bs := by
  induction as generalizing c with
  | nil => simp [Along]
  | cons a as ih => rw [List.cons_append, Along, Along, ih, run_cons, and_assoc]

/-- What the actions of a run produce, in order, where `f` reads it off the states before
and after one action. -/
def produced {β : Type} (M : Machine ι Res ε σ E) (f : σ → σ → List β) :
    Config ι Res ε α σ → List (Action ι E) → List β
  | _, [] => []
  | c, a :: as => f c.shared (M.act c a).shared ++ M.produced f (M.act c a) as

section produced

variable {β : Type} {M : Machine ι Res ε σ E} {Ok : Config ι Res ε α σ → Action ι E → Prop}
  {I : Config ι Res ε α σ → Prop} {P : σ → Prop} {f : σ → σ → List β}

/-- Once `P` holds, nothing more is produced. -/
theorem produced_eq_nil (hstep : ∀ c a, Ok c a → I c → I (M.act c a))
    (hspent : ∀ c a, Ok c a → I c → P c.shared →
      f c.shared (M.act c a).shared = [] ∧ P (M.act c a).shared)
    {c : Config ι Res ε α σ} {as : List (Action ι E)} (hok : M.Along Ok c as) (hc : I c)
    (hP : P c.shared) : M.produced f c as = [] := by
  induction as generalizing c with
  | nil => rfl
  | cons a as ih =>
      obtain ⟨hnil, hP'⟩ := hspent c a hok.1 hc hP
      rw [produced, hnil, List.nil_append]
      exact ih hok.2 (hstep c a hok.1 hc) hP'

/-- **What can be produced once**: an action that produces something produces one thing,
and establishes the assertion `P` under which nothing more is produced. -/
theorem length_produced_le_one (hstep : ∀ c a, Ok c a → I c → I (M.act c a))
    (hspent : ∀ c a, Ok c a → I c → P c.shared →
      f c.shared (M.act c a).shared = [] ∧ P (M.act c a).shared)
    (honce : ∀ c a, Ok c a → I c → f c.shared (M.act c a).shared = [] ∨
      (f c.shared (M.act c a).shared).length = 1 ∧ P (M.act c a).shared)
    {c : Config ι Res ε α σ} {as : List (Action ι E)} (hok : M.Along Ok c as) (hc : I c) :
    (M.produced f c as).length ≤ 1 := by
  induction as generalizing c with
  | nil => exact Nat.zero_le 1
  | cons a as ih =>
      rw [produced]
      rcases honce c a hok.1 hc with hnil | ⟨hone, hP⟩
      · rw [hnil, List.nil_append]
        exact ih hok.2 (hstep c a hok.1 hc)
      · rw [produced_eq_nil hstep hspent hok.2 (hstep c a hok.1 hc) hP, List.append_nil]
        exact Nat.le_of_eq hone

end produced

/-! ## Proof outlines -/

/-- A proof outline: an invariant `Inv` of the shared state and an assertion `At`
about every thread's remaining program.  `Ok` is the condition under which the
thread's own step is covered, `mortal` the one under which its death is. -/
structure Outline (M : Machine ι Res ε σ E) (Inv : σ → Prop) (At : ι → Prog Res ε α → σ → Prop)
    (Ok : ι → Prog Res ε α → σ → Prop) (mortal : Prop) : Prop where
  own : ∀ {i o k s r s'}, Inv s → At i (.call o k) s → Ok i (.call o k) s →
    M.exec i o s = some (r, s') → Inv s' ∧ At i (k r) s'
  others : ∀ {i j o k p s r s'}, j ≠ i → Inv s → At i (.call o k) s → Ok i (.call o k) s →
    At j p s → M.exec i o s = some (r, s') → At j p s'
  closed : ∀ {i p s}, Inv s → At i p s → Inv (M.close i s)
  ret : ∀ {i a s}, Inv s → At i (.ret a) s → At i (.ret a) (M.close i s)
  raise : ∀ {i e s}, Inv s → At i (.raise e) s → At i (.raise e) (M.close i s)
  kill : ∀ {i p s}, mortal → Inv s → At i p s → At i (.raise M.crashed) (M.close i s)
  close_others : ∀ {i j p q s}, j ≠ i → Inv s → At i p s → At j q s → At j q (M.close i s)
  event : ∀ {e s}, Inv s → Inv (M.event e s)
  event_at : ∀ {e i p s}, Inv s → At i p s → At i p (M.event e s)

/-- The conditions of an outline, read on actions. -/
def StepOk (Ok : ι → Prog Res ε α → σ → Prop) (mortal : Prop) (c : Config ι Res ε α σ) :
    Action ι E → Prop
  | .step i => Ok i (c.threads i) c.shared
  | .kill _ => mortal
  | .event _ => True

/-- One action keeps a proof outline. -/
theorem Outline.act {M : Machine ι Res ε σ E} {Inv : σ → Prop}
    {At : ι → Prog Res ε α → σ → Prop} {Ok : ι → Prog Res ε α → σ → Prop} {mortal : Prop}
    (h : M.Outline Inv At Ok mortal) (c : Config ι Res ε α σ) (a : Action ι E)
    (hok : StepOk Ok mortal c a) (hc : Inv c.shared ∧ ∀ i, At i (c.threads i) c.shared) :
    Inv (M.act c a).shared ∧ ∀ i, At i ((M.act c a).threads i) (M.act c a).shared := by
  obtain ⟨hinv, hat⟩ := hc
  -- ending thread `i` with the remaining program `q`
  have hclose : ∀ i q, At i q (M.close i c.shared) →
      ∀ j, At j (Function.update c.threads i q j) (M.close i c.shared) := by
    intro i q hq j
    by_cases hj : j = i
    · subst hj; rwa [Function.update_self]
    · rw [Function.update_of_ne hj]
      exact h.close_others hj hinv (hat i) (hat j)
  cases a with
  | step i =>
      have hi := hat i
      have hoki : Ok i (c.threads i) c.shared := hok
      cases hp : c.threads i with
      | ret a =>
          rw [act_step_ret hp]
          rw [hp] at hi
          refine ⟨h.closed hinv hi, fun j => ?_⟩
          have hj := hclose i (.ret a) (h.ret hinv hi) j
          rwa [← hp, Function.update_eq_self] at hj
      | raise e =>
          rw [act_step_raise hp]
          rw [hp] at hi
          refine ⟨h.closed hinv hi, fun j => ?_⟩
          have hj := hclose i (.raise e) (h.raise hinv hi) j
          rwa [← hp, Function.update_eq_self] at hj
      | call o k =>
          rw [hp] at hi hoki
          cases hx : M.exec i o c.shared with
          | none =>
              rw [act_step_blocked hp hx]
              exact ⟨hinv, hat⟩
          | some rs =>
              obtain ⟨r, s'⟩ := rs
              rw [act_step_call hp hx]
              obtain ⟨hinv', hown⟩ := h.own hinv hi hoki hx
              refine ⟨hinv', fun j => ?_⟩
              by_cases hj : j = i
              · subst hj
                simpa only [Function.update_self] using hown
              · simpa only [Function.update_of_ne hj] using
                  h.others hj hinv hi hoki (hat j) hx
  | kill i =>
      exact ⟨h.closed hinv (hat i), hclose i _ (h.kill hok hinv (hat i))⟩
  | event e =>
      exact ⟨h.event hinv, fun i => h.event_at hinv (hat i)⟩

/-- **Proof outlines hold in every run** whose actions meet the conditions. -/
theorem Outline.run {M : Machine ι Res ε σ E} {Inv : σ → Prop}
    {At : ι → Prog Res ε α → σ → Prop} {Ok : ι → Prog Res ε α → σ → Prop} {mortal : Prop}
    (h : M.Outline Inv At Ok mortal) {c : Config ι Res ε α σ} {as : List (Action ι E)}
    (hok : M.Along (StepOk Ok mortal) c as) (hinv : Inv c.shared)
    (hat : ∀ i, At i (c.threads i) c.shared) :
    Inv (M.run c as).shared ∧ ∀ i, At i ((M.run c as).threads i) (M.run c as).shared :=
  invariant_run (fun c a ha hc => h.act c a ha hc) hok ⟨hinv, hat⟩

/-- A condition that always holds holds along every run. -/
theorem along_of_forall {M : Machine ι Res ε σ E}
    {Ok : Config ι Res ε α σ → Action ι E → Prop} (h : ∀ c a, Ok c a)
    (c : Config ι Res ε α σ) (as : List (Action ι E)) : M.Along Ok c as := by
  induction as generalizing c with
  | nil => trivial
  | cons a as ih => exact ⟨h c a, ih _⟩

omit [DecidableEq ι] in
/-- The rely-guarantee reasoning as a proof outline: every operation within the
guarantee keeps the invariant and is answered within the rely. -/
theorem outline_of_respects {M : Machine ι Res ε σ E} {Inv : σ → Prop} {guar : ι → Op → Prop}
    {rely : ι → (o : Op) → Except ε (Res o) → Prop} {post : ι → α → Prop} {exc : ι → ε → Prop}
    {mortal : Prop}
    (hexec : ∀ {i o s r s'}, Inv s → guar i o → M.exec i o s = some (r, s') →
      Inv s' ∧ rely i o r)
    (hclose : ∀ {i s}, Inv s → Inv (M.close i s)) (hevent : ∀ {e s}, Inv s → Inv (M.event e s))
    (hkill : mortal → ∀ i, exc i M.crashed) :
    M.Outline Inv (fun i p _ => p.Respects (guar i) (rely i) (post i) (exc i))
      (fun _ _ _ => True) mortal where
  own := by
    intro i o k s r s' hs hp _ hx
    rw [Prog.respects_call] at hp
    obtain ⟨hs', hr⟩ := hexec hs hp.1 hx
    exact ⟨hs', hp.2 r hr⟩
  others := fun _ _ _ _ hq _ => hq
  closed := fun hs _ => hclose hs
  ret := fun _ hp => hp
  raise := fun _ hp => hp
  kill := fun hm _ _ => (Prog.respects_raise _).2 (hkill hm _)
  close_others := fun _ _ _ hq => hq
  event := fun hs => hevent hs
  event_at := fun _ hp => hp

/-- **The rely-guarantee rule**: the invariant holds in every run of threads that
respect the guarantee. -/
theorem holds_run_of_respects {M : Machine ι Res ε σ E} {I : σ → Prop} {guar : ι → Op → Prop}
    {rely : ι → (o : Op) → Except ε (Res o) → Prop} {post : ι → α → Prop}
    (hexec : ∀ {i o s r s'}, I s → guar i o → M.exec i o s = some (r, s') →
      I s' ∧ rely i o r)
    (hclose : ∀ {i s}, I s → I (M.close i s)) (hevent : ∀ {e s}, I s → I (M.event e s))
    {c : Config ι Res ε α σ} (as : List (Action ι E)) (hinv : I c.shared)
    (hc : ∀ i, (c.threads i).Respects (guar i) (rely i) (post i) (fun _ => True)) :
    I (M.run c as).shared ∧
      ∀ i, ((M.run c as).threads i).Respects (guar i) (rely i) (post i) (fun _ => True) := by
  have hout : M.Outline I
      (fun i p _ => p.Respects (guar i) (rely i) (post i) (fun _ => True))
      (fun _ _ _ => True) True :=
    outline_of_respects hexec hclose hevent (fun _ _ => trivial)
  refine hout.run (along_of_forall (fun c a => ?_) c as) hinv hc
  cases a <;> trivial

/-! ## Threads with local states -/

/-- The steps of a run meet the condition `Ok` on the operation and the state it is
performed in, and threads die only if `mortal`. -/
def OpOk (Ok : ι → (o : Op) → σ → Prop) (mortal : Prop) (c : Config ι Res ε α σ) :
    Action ι E → Prop
  | .step i => ∀ o k, c.threads i = .call o k → Ok i o c.shared
  | .kill _ => mortal
  | .event _ => True

/-- How a global assertion `J` about the local states of all threads and the shared state
is kept: by every operation, by every regular or irregular end, by every event. -/
structure Keeps (M : Machine ι Res ε σ E) (J : (ι → G) → σ → Prop)
    (guar : ι → G → Op → Prop) (next : ι → G → (o : Op) → Except ε (Res o) → G → Prop)
    (post : ι → G → α → Prop) (exc : ι → G → ε → Prop) (Ok : ι → (o : Op) → σ → Prop)
    (mortal : Prop) : Prop where
  step : ∀ {g s i o r s'}, J g s → guar i (g i) o → Ok i o s → M.exec i o s = some (r, s') →
    ∃ q, next i (g i) o r q ∧ J (Function.update g i q) s'
  ret : ∀ {g s i a}, J g s → post i (g i) a →
    ∃ q, post i q a ∧ J (Function.update g i q) (M.close i s)
  raise : ∀ {g s i e}, J g s → exc i (g i) e →
    ∃ q, exc i q e ∧ J (Function.update g i q) (M.close i s)
  kill : ∀ {g s i}, mortal → J g s →
    ∃ q, exc i q M.crashed ∧ J (Function.update g i q) (M.close i s)
  event : ∀ {g s e}, J g s → J g (M.event e s)

/-- The threads are where their local states say, and the global assertion holds. -/
def Followed (J : (ι → G) → σ → Prop) (guar : ι → G → Op → Prop)
    (next : ι → G → (o : Op) → Except ε (Res o) → G → Prop) (post : ι → G → α → Prop)
    (exc : ι → G → ε → Prop) (c : Config ι Res ε α σ) : Prop :=
  ∃ g, J g c.shared ∧
    ∀ i, (c.threads i).Follows (guar i) (next i) (post i) (exc i) (g i)

section Keeps

variable {M : Machine ι Res ε σ E} {J : (ι → G) → σ → Prop} {guar : ι → G → Op → Prop}
  {next : ι → G → (o : Op) → Except ε (Res o) → G → Prop} {post : ι → G → α → Prop}
  {exc : ι → G → ε → Prop} {Ok : ι → (o : Op) → σ → Prop} {mortal : Prop}

/-- One action keeps the assertion. -/
theorem Keeps.act (h : M.Keeps J guar next post exc Ok mortal) (c : Config ι Res ε α σ)
    (a : Action ι E) (hok : OpOk Ok mortal c a) (hc : Followed J guar next post exc c) :
    Followed J guar next post exc (M.act c a) := by
  obtain ⟨g, hJ, hat⟩ := hc
  -- thread `i` moves to the program `p` and the local state `q`
  have hmove : ∀ {i p q}, Prog.Follows (guar i) (next i) (post i) (exc i) q p →
      ∀ j, Prog.Follows (guar j) (next j) (post j) (exc j) (Function.update g i q j)
        (Function.update c.threads i p j) := by
    intro i p q hp j
    by_cases hj : j = i
    · subst hj
      rwa [Function.update_self, Function.update_self]
    · rw [Function.update_of_ne hj, Function.update_of_ne hj]
      exact hat j
  cases a with
  | step i =>
      have hi := hat i
      cases hp : c.threads i with
      | ret a =>
          rw [hp] at hi
          obtain ⟨q, hq, hJ'⟩ := h.ret hJ ((Prog.follows_ret a).1 hi)
          rw [act_step_ret hp]
          refine ⟨_, hJ', fun j => ?_⟩
          have := hmove ((Prog.follows_ret a).2 hq) j
          rwa [← hp, Function.update_eq_self] at this
      | raise e =>
          rw [hp] at hi
          obtain ⟨q, hq, hJ'⟩ := h.raise hJ ((Prog.follows_raise e).1 hi)
          rw [act_step_raise hp]
          refine ⟨_, hJ', fun j => ?_⟩
          have := hmove ((Prog.follows_raise e).2 hq) j
          rwa [← hp, Function.update_eq_self] at this
      | call o k =>
          rw [hp] at hi
          cases hx : M.exec i o c.shared with
          | none =>
              rw [act_step_blocked hp hx]
              exact ⟨g, hJ, hat⟩
          | some rs =>
              obtain ⟨r, s⟩ := rs
              rw [Prog.follows_call] at hi
              obtain ⟨q, hq, hJ'⟩ := h.step hJ hi.1 (hok o k hp) hx
              rw [act_step_call hp hx]
              exact ⟨_, hJ', hmove (hi.2 r q hq)⟩
  | kill i =>
      obtain ⟨q, hq, hJ'⟩ := h.kill hok hJ
      exact ⟨_, hJ', hmove ((Prog.follows_raise _).2 hq)⟩
  | event e => exact ⟨g, h.event hJ, hat⟩

/-- **The rule for threads with local states**: the assertion holds in every run whose
steps meet the condition. -/
theorem Keeps.run (h : M.Keeps J guar next post exc Ok mortal) {c : Config ι Res ε α σ}
    {as : List (Action ι E)} (hok : M.Along (OpOk Ok mortal) c as)
    (hc : Followed J guar next post exc c) : Followed J guar next post exc (M.run c as) :=
  invariant_run (fun c a ha hc => h.act c a ha hc) hok hc

end Keeps

/-- A test of the operation an action performs. -/
def testAction (test : ι → (o : Op) → σ → Bool) (c : Config ι Res ε α σ) : Action ι E → Bool
  | .step i =>
    match c.threads i with
    | .call o _ => test i o c.shared
    | _ => true
  | _ => true

/-- A test of the operations of a run. -/
def passes (M : Machine ι Res ε σ E) (test : ι → (o : Op) → σ → Bool) :
    Config ι Res ε α σ → List (Action ι E) → Bool
  | _, [] => true
  | c, a :: as => testAction test c a && M.passes test (M.act c a) as

/-- A run that passes a test meets the condition it tests. -/
theorem along_of_passes {M : Machine ι Res ε σ E} {test : ι → (o : Op) → σ → Bool}
    {Ok : ι → (o : Op) → σ → Prop} (htest : ∀ i o s, test i o s = true → Ok i o s)
    {c : Config ι Res ε α σ} {as : List (Action ι E)} (h : M.passes test c as = true) :
    M.Along (OpOk Ok True) c as := by
  induction as generalizing c with
  | nil => trivial
  | cons a as ih =>
      rw [passes, Bool.and_eq_true] at h
      refine ⟨?_, ih h.2⟩
      cases a with
      | step i =>
          intro o k hp
          have hi := h.1
          simp only [testAction, hp] at hi
          exact htest i o c.shared hi
      | kill i => trivial
      | event e => trivial

/-! ## History variables -/

/-- The machine with a history variable that watches every answered operation. -/
def withGhost (M : Machine ι Res ε σ E)
    (watch : ι → (o : Op) → Except ε (Res o) → σ → G → G) : Machine ι Res ε (σ × G) E where
  exec i o s := (M.exec i o s.1).map (fun rs => (rs.1, (rs.2, watch i o rs.1 s.1 s.2)))
  close i s := (M.close i s.1, s.2)
  event e s := (M.event e s.1, s.2)
  crashed := M.crashed

/-- The machine with a history variable that watches the ends of the threads as well. -/
def withHistory (M : Machine ι Res ε σ E)
    (watch : ι → (o : Op) → Except ε (Res o) → σ → G → G) (ended : ι → G → G) :
    Machine ι Res ε (σ × G) E where
  exec i o s := (M.exec i o s.1).map (fun rs => (rs.1, (rs.2, watch i o rs.1 s.1 s.2)))
  close i s := (M.close i s.1, ended i s.2)
  event e s := (M.event e s.1, s.2)
  crashed := M.crashed

/-- The configuration without its history. -/
def forget (c : Config ι Res ε α (σ × G)) : Config ι Res ε α σ := ⟨c.threads, c.shared.1⟩

section history

variable {M : Machine ι Res ε σ E} {watch : ι → (o : Op) → Except ε (Res o) → σ → G → G}
  {ended : ι → G → G}

omit [DecidableEq ι] in
/-- The machine with a history answers as the machine does. -/
theorem exec_withHistory {i : ι} {o : Op} {x x' : σ × G} {r : Except ε (Res o)}
    (h : (M.withHistory watch ended).exec i o x = some (r, x')) :
    ∃ s, M.exec i o x.1 = some (r, s) ∧ x' = (s, watch i o r x.1 x.2) := by
  obtain ⟨⟨r', s⟩, hx, heq⟩ := Option.map_eq_some_iff.1 h
  cases heq
  exact ⟨s, hx, rfl⟩

theorem forget_act (c : Config ι Res ε α (σ × G)) (a : Action ι E) :
    forget ((M.withHistory watch ended).act c a) = M.act (forget c) a := by
  cases a with
  | step i =>
      have hsame : (forget c).threads i = c.threads i := rfl
      cases hp : c.threads i with
      | ret a =>
          rw [act_step_ret hp, act_step_ret (hsame.trans hp)]
          rfl
      | raise e =>
          rw [act_step_raise hp, act_step_raise (hsame.trans hp)]
          rfl
      | call o k =>
          cases hx : M.exec i o c.shared.1 with
          | none =>
              have hx' : (M.withHistory watch ended).exec i o c.shared = none := by
                show Option.map _ (M.exec i o c.shared.1) = none
                rw [hx, Option.map_none]
              rw [act_step_blocked hp hx', act_step_blocked (hsame.trans hp) hx]
          | some rs =>
              obtain ⟨r, s⟩ := rs
              have hx' : (M.withHistory watch ended).exec i o c.shared =
                  some (r, (s, watch i o r c.shared.1 c.shared.2)) := by
                show Option.map _ (M.exec i o c.shared.1) = _
                rw [hx, Option.map_some]
              rw [act_step_call hp hx', act_step_call (hsame.trans hp) hx]
              rfl
  | kill i => rfl
  | event e => rfl

/-- **The history is kept beside the run** and changes nothing in it. -/
theorem forget_run (c : Config ι Res ε α (σ × G)) (as : List (Action ι E)) :
    forget ((M.withHistory watch ended).run c as) = M.run (forget c) as := by
  induction as generalizing c with
  | nil => rfl
  | cons a as ih => rw [run_cons, run_cons, ih, forget_act]

end history

end Machine
