/-
# Programs over a signature of operations

A program asks its environment for operations one at a time, and what it does
next depends on the answer.  An answer is either a value of the operation's
result type or an exception, so `try … except` and an uncaught exception are
both programs.  One program has several readings: `run` executes it alone
against a state, `calls` records the operations of such an execution, and
`Lib/Interleaving.lean` executes many of them against one shared state.

`Respects` is the assertion that carries an invariant through a program: as
long as the environment's answers satisfy `rely`, every operation the program
asks for satisfies `guar`.
-/
import Mathlib.Logic.Basic

/-- A program over the operations `Op`, where `o : Op` is answered in `Res o`,
that returns an `α` or raises an `ε`. -/
inductive Prog {Op : Type} (Res : Op → Type) (ε α : Type) : Type
  | ret (a : α)
  | raise (e : ε)
  | call (o : Op) (k : Except ε (Res o) → Prog Res ε α)

namespace Prog

variable {Op : Type} {Res : Op → Type} {ε α β γ σ : Type}

/-! ## Composition -/

/-- Sequencing: an exception of the first program ends the whole. -/
def bind : Prog Res ε α → (α → Prog Res ε β) → Prog Res ε β
  | ret a, f => f a
  | raise e, _ => raise e
  | call o k, f => call o (fun r => bind (k r) f)

/-- `try p except e => h e`. -/
def handle : Prog Res ε α → (ε → Prog Res ε α) → Prog Res ε α
  | ret a, _ => ret a
  | raise e, h => h e
  | call o k, h => call o (fun r => handle (k r) h)

/-- Return the value of a computation, or raise its exception. -/
def ofExcept : Except ε α → Prog Res ε α
  | .ok a => ret a
  | .error e => raise e

/-- The program asks for nothing more. -/
def ended : Prog Res ε α → Bool
  | call _ _ => false
  | _ => true

/-- What the program has returned. -/
def returned? : Prog Res ε α → Option α
  | ret a => some a
  | _ => none

theorem eq_ret_of_returned? {p : Prog Res ε α} {a : α} (h : p.returned? = some a) : p = ret a := by
  cases p with
  | ret b =>
      cases h
      rfl
  | raise e => cases h
  | call o k => cases h

/-- Ask for one operation and re-raise the exception it may answer with. -/
def perform (o : Op) : Prog Res ε (Res o) :=
  call o (fun r => match r with | .ok a => ret a | .error e => raise e)

instance : Monad (Prog Res ε) where
  pure := ret
  bind := bind

instance : MonadExcept ε (Prog Res ε) where
  throw := raise
  tryCatch := handle

@[simp] theorem pure_eq (a : α) : (pure a : Prog Res ε α) = ret a := rfl

@[simp] theorem throw_eq (e : ε) : (throw e : Prog Res ε α) = raise e := rfl

@[simp] theorem tryCatch_eq (p : Prog Res ε α) (h : ε → Prog Res ε α) :
    tryCatch p h = handle p h := rfl

@[simp] theorem bind_eq (p : Prog Res ε α) (f : α → Prog Res ε β) : p >>= f = bind p f := rfl

@[simp] theorem bind_ret (a : α) (f : α → Prog Res ε β) : bind (ret a) f = f a := rfl

@[simp] theorem bind_raise (e : ε) (f : α → Prog Res ε β) : bind (raise e) f = raise e := rfl

@[simp] theorem bind_call (o : Op) (k : Except ε (Res o) → Prog Res ε α) (f : α → Prog Res ε β) :
    bind (call o k) f = call o (fun r => bind (k r) f) := rfl

@[simp] theorem ofExcept_ok (a : α) : (ofExcept (.ok a) : Prog Res ε α) = ret a := rfl

@[simp] theorem ofExcept_error (e : ε) : (ofExcept (.error e) : Prog Res ε α) = raise e := rfl

@[simp] theorem handle_ret (a : α) (h : ε → Prog Res ε α) : handle (ret a) h = ret a := rfl

@[simp] theorem handle_raise (e : ε) (h : ε → Prog Res ε α) : handle (raise e) h = h e := rfl

@[simp] theorem handle_call (o : Op) (k : Except ε (Res o) → Prog Res ε α)
    (h : ε → Prog Res ε α) :
    handle (call o k) h = call o (fun r => handle (k r) h) := rfl

/-- Sequencing is associative. -/
theorem bind_assoc (p : Prog Res ε α) (f : α → Prog Res ε β) (g : β → Prog Res ε γ) :
    bind (bind p f) g = bind p (fun a => bind (f a) g) := by
  induction p with
  | ret a => rfl
  | raise e => rfl
  | call o k ih =>
      simp only [bind_call]
      congr 1
      funext r
      exact ih r

/-- Returning what a program returned changes nothing. -/
theorem bind_ret_right (p : Prog Res ε α) : bind p ret = p := by
  induction p with
  | ret a => rfl
  | raise e => rfl
  | call o k ih =>
      rw [bind_call]
      congr 1
      funext r
      exact ih r

/-! ## Execution against a state -/

/-- Run a program alone: `exec` answers each operation and moves the state. -/
def run (exec : (o : Op) → σ → Except ε (Res o) × σ) : Prog Res ε α → σ → Except ε α × σ
  | ret a, s => (.ok a, s)
  | raise e, s => (.error e, s)
  | call o k, s => run exec (k (exec o s).1) (exec o s).2

/-- The operations a program asks for when it runs alone, in order. -/
def calls (exec : (o : Op) → σ → Except ε (Res o) × σ) : Prog Res ε α → σ → List Op
  | ret _, _ => []
  | raise _, _ => []
  | call o k, s => o :: calls exec (k (exec o s).1) (exec o s).2

variable (exec : (o : Op) → σ → Except ε (Res o) × σ)

@[simp] theorem run_ret (a : α) (s : σ) : run exec (ret a : Prog Res ε α) s = (.ok a, s) := rfl

@[simp] theorem run_raise (e : ε) (s : σ) :
    run exec (raise e : Prog Res ε α) s = (.error e, s) := rfl

@[simp] theorem run_call (o : Op) (k : Except ε (Res o) → Prog Res ε α) (s : σ) :
    run exec (call o k) s = run exec (k (exec o s).1) (exec o s).2 := rfl

/-- Running a sequence is running its parts, unless the first one raises. -/
theorem run_bind (p : Prog Res ε α) (f : α → Prog Res ε β) (s : σ) :
    run exec (bind p f) s =
      match run exec p s with
      | (.ok a, s') => run exec (f a) s'
      | (.error e, s') => (.error e, s') := by
  induction p generalizing s with
  | ret a => rfl
  | raise e => rfl
  | call o k ih =>
      rw [bind_call, run_call, run_call]
      exact ih _ _

/-- The `run_bind` of a first part that is known to return. -/
theorem run_bind_ok {p : Prog Res ε α} {f : α → Prog Res ε β} {s s' : σ} {a : α}
    (h : run exec p s = (.ok a, s')) : run exec (bind p f) s = run exec (f a) s' := by
  rw [run_bind, h]

/-- The `run_bind` of a first part that is known to raise. -/
theorem run_bind_error {p : Prog Res ε α} {f : α → Prog Res ε β} {s s' : σ} {e : ε}
    (h : run exec p s = (.error e, s')) : run exec (bind p f) s = (.error e, s') := by
  rw [run_bind, h]

/-- A sequence that returns is made of parts that do. -/
theorem run_bind_eq_ok {p : Prog Res ε α} {f : α → Prog Res ε β} {s s' : σ} {b : β}
    (h : run exec (bind p f) s = (.ok b, s')) :
    ∃ a u, run exec p s = (.ok a, u) ∧ run exec (f a) u = (.ok b, s') := by
  rw [run_bind] at h
  rcases hp : run exec p s with ⟨e | a, u⟩
  · rw [hp] at h
    cases h
  · rw [hp] at h
    exact ⟨a, u, rfl, h⟩

/-- What only returns or raises after a program leaves the state it has made. -/
theorem run_bind_snd {p : Prog Res ε α} {f : α → Prog Res ε β}
    (hf : ∀ a s, (run exec (f a) s).2 = s) (s : σ) :
    (run exec (bind p f) s).2 = (run exec p s).2 := by
  rw [run_bind]
  rcases run exec p s with ⟨e | a, u⟩
  · rfl
  · exact hf a u

/-- Running `try … except` is running the body, and the handler if it raises. -/
theorem run_handle (p : Prog Res ε α) (h : ε → Prog Res ε α) (s : σ) :
    run exec (handle p h) s =
      match run exec p s with
      | (.ok a, s') => (.ok a, s')
      | (.error e, s') => run exec (h e) s' := by
  induction p generalizing s with
  | ret a => rfl
  | raise e => rfl
  | call o k ih =>
      rw [handle_call, run_call, run_call]
      exact ih _ _

/-- One operation, performed: its answer is the program's outcome. -/
theorem run_perform (o : Op) (s : σ) : run exec (perform o) s = exec o s := by
  rw [perform, run_call]
  rcases h : exec o s with ⟨r, s'⟩
  cases r <;> rfl

/-- An operation that answers, in front of a sequence. -/
theorem run_perform_ok {o : Op} {f : Res o → Prog Res ε β} {s s' : σ} {a : Res o}
    (h : exec o s = (.ok a, s')) : run exec (bind (perform o) f) s = run exec (f a) s' :=
  run_bind_ok exec ((run_perform exec o s).trans h)

/-- An operation that raises, in front of a sequence. -/
theorem run_perform_error {o : Op} {f : Res o → Prog Res ε β} {s s' : σ} {e : ε}
    (h : exec o s = (.error e, s')) : run exec (bind (perform o) f) s = (.error e, s') :=
  run_bind_error exec ((run_perform exec o s).trans h)

/-- The `run_handle` of a body that is known to return. -/
theorem run_handle_ok {p : Prog Res ε α} {h : ε → Prog Res ε α} {s s' : σ} {a : α}
    (hp : run exec p s = (.ok a, s')) : run exec (handle p h) s = (.ok a, s') := by
  rw [run_handle, hp]

/-- The `run_handle` of a body that is known to raise. -/
theorem run_handle_error {p : Prog Res ε α} {h : ε → Prog Res ε α} {s s' : σ} {e : ε}
    (hp : run exec p s = (.error e, s')) : run exec (handle p h) s = run exec (h e) s' := by
  rw [run_handle, hp]

/-! ## Assertions on the operations of a program -/

/-- Whatever answers within `rely` it gets, the program only asks for operations
within `guar`, every value it returns satisfies `post` and every exception it raises
satisfies `exc`. -/
def Respects (guar : Op → Prop) (rely : (o : Op) → Except ε (Res o) → Prop) (post : α → Prop)
    (exc : ε → Prop) : Prog Res ε α → Prop
  | ret a => post a
  | raise e => exc e
  | call o k => guar o ∧ ∀ r, rely o r → Respects guar rely post exc (k r)

section Respects

variable {guar : Op → Prop} {rely : (o : Op) → Except ε (Res o) → Prop}
  {post : α → Prop} {post' : β → Prop} {exc exc' : ε → Prop}

@[simp] theorem respects_ret (a : α) :
    Respects guar rely post exc (ret a : Prog Res ε α) ↔ post a := Iff.rfl

@[simp] theorem respects_raise (e : ε) :
    Respects guar rely post exc (raise e : Prog Res ε α) ↔ exc e := Iff.rfl

@[simp] theorem respects_call (o : Op) (k : Except ε (Res o) → Prog Res ε α) :
    Respects guar rely post exc (call o k) ↔
      guar o ∧ ∀ r, rely o r → Respects guar rely post exc (k r) := Iff.rfl

/-- **The sequencing rule.** -/
theorem Respects.bind {p : Prog Res ε α} {f : α → Prog Res ε β}
    (hp : Respects guar rely post exc p)
    (hf : ∀ a, post a → Respects guar rely post' exc (f a)) :
    Respects guar rely post' exc (Prog.bind p f) := by
  induction p with
  | ret a => exact hf a hp
  | raise e => exact hp
  | call o k ih => exact ⟨hp.1, fun r hr => ih r (hp.2 r hr)⟩

/-- **The exception rule.** -/
theorem Respects.handle {p : Prog Res ε α} {h : ε → Prog Res ε α}
    (hp : Respects guar rely post exc p) (hh : ∀ e, exc e → Respects guar rely post exc' (h e)) :
    Respects guar rely post exc' (Prog.handle p h) := by
  induction p with
  | ret a => exact hp
  | raise e => exact hh e hp
  | call o k ih => exact ⟨hp.1, fun r hr => ih r (hp.2 r hr)⟩

/-- **The rule of consequence.** -/
theorem Respects.mono {post₂ : α → Prop} {guar₂ : Op → Prop} {p : Prog Res ε α}
    (hp : Respects guar rely post exc p) (hg : ∀ o, guar o → guar₂ o)
    (hpost : ∀ a, post a → post₂ a) (hexc : ∀ e, exc e → exc' e) :
    Respects guar₂ rely post₂ exc' p := by
  induction p with
  | ret a => exact hpost a hp
  | raise e => exact hexc e hp
  | call o k ih => exact ⟨hg o hp.1, fun r hr => ih r (hp.2 r hr)⟩

/-- One operation within `guar` respects it. -/
theorem Respects.perform {o : Op} {post : Res o → Prop} (hg : guar o)
    (hr : ∀ a, rely o (.ok a) → post a) (he : ∀ e, rely o (.error e) → exc e) :
    Respects guar rely post exc (Prog.perform o : Prog Res ε (Res o)) := by
  refine ⟨hg, fun r hrely => ?_⟩
  cases r with
  | ok a => exact hr a hrely
  | error e => exact he e hrely

theorem Respects.ret {a : α} (h : post a) :
    Respects guar rely post exc (ret a : Prog Res ε α) := h

theorem Respects.raise {e : ε} (h : exc e) :
    Respects guar rely post exc (raise e : Prog Res ε α) := h

/-- A computation of its own asks for nothing. -/
theorem Respects.ofExcept {r : Except ε α} (hr : ∀ a, r = .ok a → post a)
    (he : ∀ e, r = .error e → exc e) :
    Respects guar rely post exc (ofExcept r : Prog Res ε α) := by
  cases r with
  | ok a => exact hr a rfl
  | error e => exact he e rfl

/-- Any program respects a guarantee that promises nothing. -/
theorem respects_of_forall (hg : ∀ o, guar o) (hpost : ∀ a, post a) (hexc : ∀ e, exc e)
    (p : Prog Res ε α) : Respects guar rely post exc p := by
  induction p with
  | ret a => exact hpost a
  | raise e => exact hexc e
  | call o k ih => exact ⟨hg o, fun r _ => ih r⟩

/-- **The invariant rule**: what the operations within `guar` keep, a run keeps. -/
theorem Respects.run {step : (o : Op) → σ → Except ε (Res o) × σ} {Inv : σ → Prop}
    {p : Prog Res ε α} (hp : Respects guar rely post exc p)
    (hstep : ∀ o s, guar o → Inv s → rely o (step o s).1 ∧ Inv (step o s).2) {s : σ}
    (h : Inv s) : Inv (Prog.run step p s).2 := by
  induction p generalizing s with
  | ret a => exact h
  | raise e => exact h
  | call o k ih =>
      obtain ⟨hrely, hinv⟩ := hstep o s hp.1 h
      exact ih _ (hp.2 _ hrely) hinv

/-- What a program promises of a value holds of the value a run returns. -/
theorem Respects.run_post {step : (o : Op) → σ → Except ε (Res o) × σ} {p : Prog Res ε α}
    (hp : Respects guar rely post exc p) (hstep : ∀ o s, guar o → rely o (step o s).1) {s : σ} {a : α}
    (h : (Prog.run step p s).1 = .ok a) : post a := by
  induction p generalizing s with
  | ret b =>
      cases h
      exact hp
  | raise e => cases h
  | call o k ih => exact ih _ (hp.2 _ (hstep o s hp.1)) h

/-- And what it promises of an exception, of the one a run raises. -/
theorem Respects.run_exc {step : (o : Op) → σ → Except ε (Res o) × σ} {p : Prog Res ε α}
    (hp : Respects guar rely post exc p) (hstep : ∀ o s, guar o → rely o (step o s).1) {s : σ} {e : ε}
    (h : (Prog.run step p s).1 = .error e) : exc e := by
  induction p generalizing s with
  | ret b => cases h
  | raise e' =>
      cases h
      exact hp
  | call o k ih => exact ih _ (hp.2 _ (hstep o s hp.1)) h

end Respects

section Asks

variable {guar guar₂ : Op → Prop}

/-- The program only asks for operations within `guar`, whatever it is answered. -/
abbrev Asks (guar : Op → Prop) (p : Prog Res ε α) : Prop :=
  Respects guar (fun _ _ => True) (fun _ => True) (fun _ => True) p

theorem Asks.perform {o : Op} (h : guar o) : Asks guar (Prog.perform o : Prog Res ε (Res o)) :=
  Respects.perform h (fun _ _ => trivial) (fun _ _ => trivial)

theorem Asks.bind {p : Prog Res ε α} {f : α → Prog Res ε β} (hp : Asks guar p)
    (hf : ∀ a, Asks guar (f a)) : Asks guar (Prog.bind p f) :=
  Respects.bind hp (fun a _ => hf a)

/-- An operation in front of what it is needed for. -/
theorem Asks.step {o : Op} {f : Res o → Prog Res ε α} (h : guar o) (hf : ∀ a, Asks guar (f a)) :
    Asks guar (Prog.bind (Prog.perform o) f) :=
  Asks.bind (Asks.perform h) hf

theorem Asks.handle {p : Prog Res ε α} {h : ε → Prog Res ε α} (hp : Asks guar p)
    (hh : ∀ e, Asks guar (h e)) : Asks guar (Prog.handle p h) :=
  Respects.handle hp (fun e _ => hh e)

theorem Asks.ret {a : α} : Asks guar (Prog.ret a : Prog Res ε α) := Respects.ret trivial

theorem Asks.raise {e : ε} : Asks guar (Prog.raise e : Prog Res ε α) := Respects.raise trivial

theorem Asks.ofExcept {r : Except ε α} : Asks guar (Prog.ofExcept r : Prog Res ε α) :=
  Respects.ofExcept (fun _ _ => trivial) (fun _ _ => trivial)

theorem Asks.mono {p : Prog Res ε α} (hp : Asks guar p) (h : ∀ o, guar o → guar₂ o) :
    Asks guar₂ p :=
  Respects.mono hp h (fun _ => id) (fun _ => id)

/-- What holds whatever is answered holds for the answers that are relied on. -/
theorem Asks.relying {rely : (o : Op) → Except ε (Res o) → Prop} {p : Prog Res ε α}
    (hp : Asks guar p) : Respects guar rely (fun _ => True) (fun _ => True) p := by
  induction p with
  | ret a => exact trivial
  | raise e => exact trivial
  | call o k ih => exact ⟨hp.1, fun r _ => ih r (hp.2 r trivial)⟩

end Asks

/-! ## Assertions with a local state -/

/-- `Respects` for a program that carries a state of its own through its proof: what it
may ask for, and what it says at its end, depends on the local state `g`, and `next`
is how an answer moves it. -/
def Follows {G : Type} (guar : G → Op → Prop) (next : G → (o : Op) → Except ε (Res o) → G → Prop)
    (post : G → α → Prop) (exc : G → ε → Prop) : G → Prog Res ε α → Prop
  | g, ret a => post g a
  | g, raise e => exc g e
  | g, call o k => guar g o ∧ ∀ r q, next g o r q → Follows guar next post exc q (k r)

section Follows

variable {G : Type} {guar : G → Op → Prop} {next : G → (o : Op) → Except ε (Res o) → G → Prop}
  {post : G → α → Prop} {post' : G → β → Prop} {exc exc' : G → ε → Prop} {g : G}

@[simp] theorem follows_ret (a : α) :
    Follows guar next post exc g (ret a : Prog Res ε α) ↔ post g a := Iff.rfl

@[simp] theorem follows_raise (e : ε) :
    Follows guar next post exc g (raise e : Prog Res ε α) ↔ exc g e := Iff.rfl

@[simp] theorem follows_call (o : Op) (k : Except ε (Res o) → Prog Res ε α) :
    Follows guar next post exc g (call o k) ↔
      guar g o ∧ ∀ r q, next g o r q → Follows guar next post exc q (k r) := Iff.rfl

/-- **The sequencing rule**: the second program starts in the local state the first one
ends in. -/
theorem Follows.bind {p : Prog Res ε α} {f : α → Prog Res ε β}
    (hp : Follows guar next (fun q a => Follows guar next post' exc q (f a)) exc g p) :
    Follows guar next post' exc g (Prog.bind p f) := by
  induction p generalizing g with
  | ret a => exact hp
  | raise e => exact hp
  | call o k ih => exact ⟨hp.1, fun r q hr => ih r (hp.2 r q hr)⟩

/-- **The exception rule.** -/
theorem Follows.handle {p : Prog Res ε α} {h : ε → Prog Res ε α}
    (hp : Follows guar next post (fun q e => Follows guar next post exc q (h e)) g p) :
    Follows guar next post exc g (Prog.handle p h) := by
  induction p generalizing g with
  | ret a => exact hp
  | raise e => exact hp
  | call o k ih => exact ⟨hp.1, fun r q hr => ih r (hp.2 r q hr)⟩

/-- **The rule of consequence.** -/
theorem Follows.mono {post₂ : G → α → Prop} {p : Prog Res ε α}
    (hp : Follows guar next post exc g p) (hpost : ∀ q a, post q a → post₂ q a)
    (hexc : ∀ q e, exc q e → exc' q e) : Follows guar next post₂ exc' g p := by
  induction p generalizing g with
  | ret a => exact hpost _ _ hp
  | raise e => exact hexc _ _ hp
  | call o k ih => exact ⟨hp.1, fun r q hr => ih r (hp.2 r q hr)⟩

/-- One operation: its answer and the state it moves to end the program. -/
theorem Follows.perform {o : Op} {post : G → Res o → Prop} (hg : guar g o)
    (hr : ∀ a q, next g o (.ok a) q → post q a) (he : ∀ e q, next g o (.error e) q → exc q e) :
    Follows guar next post exc g (Prog.perform o : Prog Res ε (Res o)) := by
  refine ⟨hg, fun r q hnext => ?_⟩
  cases r with
  | ok a => exact hr a q hnext
  | error e => exact he e q hnext

/-- One operation in front of a sequence. -/
theorem Follows.step {o : Op} {f : Res o → Prog Res ε α} (hg : guar g o)
    (hr : ∀ a q, next g o (.ok a) q → Follows guar next post exc q (f a))
    (he : ∀ e q, next g o (.error e) q → exc q e) :
    Follows guar next post exc g (Prog.bind (Prog.perform o) f) :=
  Follows.bind (Follows.perform hg hr he)

/-- Any program follows local states that promise nothing. -/
theorem follows_of_forall (hg : ∀ q o, guar q o) (hpost : ∀ q a, post q a) (hexc : ∀ q e, exc q e)
    (p : Prog Res ε α) : Follows guar next post exc g p := by
  induction p generalizing g with
  | ret a => exact hpost g a
  | raise e => exact hexc g e
  | call o k ih => exact ⟨hg g o, fun r q _ => ih r⟩

/-- A program that respects a guarantee follows any local states that ask for no less and
answer no more. -/
theorem Respects.follows {guar₂ : Op → Prop} {rely₂ : (o : Op) → Except ε (Res o) → Prop}
    {post₂ : α → Prop} {exc₂ : ε → Prop} {p : Prog Res ε α} (h : Respects guar₂ rely₂ post₂ exc₂ p)
    (hg : ∀ q o, guar₂ o → guar q o) (hr : ∀ q o r q', next q o r q' → rely₂ o r)
    (hpost : ∀ q a, post₂ a → post q a) (hexc : ∀ q e, exc₂ e → exc q e) :
    Follows guar next post exc g p := by
  induction p generalizing g with
  | ret a => exact hpost g a h
  | raise e => exact hexc g e h
  | call o k ih => exact ⟨hg g o h.1, fun r q hn => ih r (h.2 r (hr g o r q hn))⟩

/-- A program that follows local states respects what they have in common. -/
theorem Follows.respects {guar₂ : Op → Prop} {rely₂ : (o : Op) → Except ε (Res o) → Prop}
    {p : Prog Res ε α} (h : Follows guar next post exc g p) (hg : ∀ q o, guar q o → guar₂ o)
    (hr : ∀ q o r, rely₂ o r → ∃ q', next q o r q') :
    Respects guar₂ rely₂ (fun _ => True) (fun _ => True) p := by
  induction p generalizing g with
  | ret a => exact trivial
  | raise e => exact trivial
  | call o k ih =>
      refine ⟨hg g o h.1, fun r hrely => ?_⟩
      obtain ⟨q, hq⟩ := hr g o r hrely
      exact ih r (h.2 r q hq)

/-- A program that follows its local states and respects a guarantee does both. -/
theorem Follows.and {guar₂ : Op → Prop} {rely₂ : (o : Op) → Except ε (Res o) → Prop}
    {post₂ : α → Prop} {exc₂ : ε → Prop} {p : Prog Res ε α} (hp : Follows guar next post exc g p)
    (h : Respects guar₂ rely₂ post₂ exc₂ p) :
    Follows (fun q o => guar q o ∧ guar₂ o) (fun q o r q' => next q o r q' ∧ rely₂ o r)
      (fun q a => post q a ∧ post₂ a) (fun q e => exc q e ∧ exc₂ e) g p := by
  induction p generalizing g with
  | ret a => exact ⟨hp, h⟩
  | raise e => exact ⟨hp, h⟩
  | call o k ih => exact ⟨⟨hp.1, h.1⟩, fun r q hr => ih r (hp.2 r q hr.1) (h.2 r hr.2)⟩

/-- **The simulation rule**: of two related states, run in lock-step, each operation within `guar`
gives the same answer and relates the states it leads to; so does the program.  The step may
assume that the state it leads to is one of a run that ends in `L`. -/
theorem Follows.run_sim {τ : Type} {step : (o : Op) → σ → Except ε (Res o) × σ}
    {step' : (o : Op) → τ → Except ε (Res o) × τ} {R : G → σ → τ → Prop} {L : σ → Prop}
    {p : Prog Res ε α} (hp : Follows guar next post exc g p)
    (hlive : ∀ o s, L (step o s).2 → L s)
    (hstep : ∀ q o s u, guar q o → L (step o s).2 → R q s u →
      (step' o u).1 = (step o s).1 ∧
        ∃ q', next q o (step o s).1 q' ∧ R q' (step o s).2 (step' o u).2) {s : σ} {u : τ}
    (hend : L (Prog.run step p s).2) (h : R g s u) :
    (Prog.run step' p u).1 = (Prog.run step p s).1 ∧
      ∃ q, R q (Prog.run step p s).2 (Prog.run step' p u).2 := by
  have hback : ∀ (p : Prog Res ε α) (s : σ), L (Prog.run step p s).2 → L s := by
    intro p
    induction p with
    | ret a => exact fun s hs => hs
    | raise e => exact fun s hs => hs
    | call o k ih => exact fun s hs => hlive o s (ih _ _ hs)
  induction p generalizing g s u with
  | ret a => exact ⟨rfl, g, h⟩
  | raise e => exact ⟨rfl, g, h⟩
  | call o k ih =>
      obtain ⟨hanswer, q, hnext, hrel⟩ := hstep g o s u hp.1 (hback _ _ hend) h
      rw [run_call, run_call, hanswer]
      exact ih _ (hp.2 _ q hnext) hend hrel

/-- **The invariant rule** for local states. -/
theorem Follows.run {step : (o : Op) → σ → Except ε (Res o) × σ} {I : G → σ → Prop} {L : σ → Prop}
    {p : Prog Res ε α} (hp : Follows guar next post exc g p)
    (hlive : ∀ o s, L (step o s).2 → L s)
    (hstep : ∀ q o s, guar q o → L (step o s).2 → I q s →
      ∃ q', next q o (step o s).1 q' ∧ I q' (step o s).2) {s : σ}
    (hend : L (Prog.run step p s).2) (h : I g s) : ∃ q, I q (Prog.run step p s).2 := by
  have hboth : ∀ q o (s u : σ), guar q o → L (step o s).2 → (u = s ∧ I q s) →
      (step o u).1 = (step o s).1 ∧ ∃ q', next q o (step o s).1 q' ∧
        ((step o u).2 = (step o s).2 ∧ I q' (step o s).2) := by
    rintro q o s u hguar hend ⟨rfl, hI⟩
    obtain ⟨q', hnext, hI'⟩ := hstep q o u hguar hend hI
    exact ⟨rfl, q', hnext, rfl, hI'⟩
  obtain ⟨-, q, -, hI⟩ := run_sim (R := fun q s u => u = s ∧ I q s) hp hlive hboth hend ⟨rfl, h⟩
  exact ⟨q, hI⟩

end Follows

-- a program is not to be evaluated to see what it asks for
attribute [irreducible] Respects Follows

end Prog
