/-
# The workers behind the queue

Celery hands each message of the queue to a worker.  The worker runs the body of the task in a
session of its own and, if the body has raised, publishes the message again, at most
`max_retries` times.  Only then does it acknowledge the message (`task_acks_late`): a worker that
dies before that leaves the message to another one.  If only the process is lost that runs the
task in the worker's pool (the hard time limit kills it), the worker acknowledges the message.

A thread is either one delivery of one message or one request; both run on the backend of the
services, and what they enqueue there waits in the queue.
-/
import SpendLens.GmailSync
import SpendLens.ReceiptTasks
import SpendLens.Lib.Broker

namespace SpendLens

/-! ## Messages -/

/-- A task in the queue, and how often it has been retried. -/
structure Message where
  task : Task
  retries : ℕ
  deriving DecidableEq, Repr

/-- `max_retries`, the same for the three tasks. -/
def maxRetries : ℕ := 3

/-- What a worker asks for: an operation of the body it runs, or something of the queue. -/
inductive WorkerOp where
  | service (o : Op)
  | receive (m : Message)
  | retry (m : Message)
  | giveUp (m : Message)
  | acknowledge

@[reducible] def WorkerOp.Res : WorkerOp → Type
  | service o => o.Res
  | _ => Unit

/-- A service, run by a worker. -/
def onWorker {α : Type} : Service α → Prog WorkerOp.Res PyExc α
  | .ret a => .ret a
  | .raise e => .raise e
  | .call o k => .call (.service o) (fun r => onWorker (k r))

/-! ## One delivery -/

/-- The body of a task. -/
def Task.body (env : Env) (readers : Readers) (pages : ℕ) : Task → Service Unit
  | .processReceipt id => SpendLens.processReceipt env readers id
  | .categoriseReceipt id => SpendLens.categoriseReceipt env id
  | .gmailHistorySync connectionId pushHistoryId =>
      runHistorySync env pages connectionId pushHistoryId

/-- `self.retry`: publish the message again, or let it be.  A message that cannot be published
is rejected and lost. -/
def retryLater (m : Message) : Prog WorkerOp.Res PyExc Unit :=
  if m.retries < maxRetries then
    tryCatch (Prog.perform (WorkerOp.retry ⟨m.task, m.retries + 1⟩)) (fun _ => return ())
  else Prog.perform (WorkerOp.giveUp m)

/-- One delivery of a message, from its reception to its acknowledgement.  The session of the
body is closed before the task is retried. -/
def delivery (env : Env) (readers : Readers) (pages : ℕ) (m : Message) :
    Prog WorkerOp.Res PyExc Unit := do
  Prog.perform (WorkerOp.receive m)
  tryCatch
    (do
      onWorker (m.task.body env readers pages)
      Prog.perform (WorkerOp.service .rollback))
    (fun _ => do
      Prog.perform (WorkerOp.service .rollback)
      retryLater m)
  Prog.perform WorkerOp.acknowledge

/-! ## The machine -/

/-- The backend with its queue. -/
structure Plant (ι : Type) where
  world : World ι
  broker : Broker ι Message

/-- The messages between two states of the backend. -/
def newMessages {ι : Type} (w w' : World ι) : List Message :=
  (w'.queue.drop w.queue.length).map (fun task => ⟨task, 0⟩)

section machine

variable {ι : Type} [DecidableEq ι]

/-- Publish a message again, under a fault. -/
def Plant.publish (s : Plant ι) (f : Fault) (m : Message) : Except PyExc Unit × Plant ι :=
  match f with
  | .none => (.ok (), ⟨s.world.tick, s.broker.publish [m]⟩)
  | .before => (.error .brokerError, ⟨s.world.tick, s.broker⟩)
  | .after => (.error .brokerError, ⟨s.world.tick, s.broker.publish [m]⟩)

/-- Answer one operation of a worker; `none` while it waits for a lock or a message. -/
def Plant.exec (env : Env) (i : ι) :
    (o : WorkerOp) → Plant ι → Option (Except PyExc o.Res × Plant ι)
  | .service o, s =>
      (SpendLens.exec env i o s.world).map (fun x =>
        (x.1, ⟨x.2, s.broker.publish (newMessages s.world x.2)⟩))
  | .receive m, s => (s.broker.receive i m).map (fun b => (.ok (), { s with broker := b }))
  | .retry m, s => some (s.publish (env.fault s.world.calls) m)
  | .giveUp _, s => some (.ok (), s)
  | .acknowledge, s => some (.ok (), { s with broker := s.broker.acknowledge i })

/-- The end of a thread: its session is closed, and the message it holds waits again, unless it
is the pool that has lost the thread. -/
def Plant.close (poolLost : ι → Bool) (i : ι) (s : Plant ι) : Plant ι :=
  ⟨s.world.close i, if poolLost i then s.broker.acknowledge i else s.broker.release i⟩

/-- The workers and the requests `ι` on one backend. -/
def celery (env : Env) (poolLost : ι → Bool) : Machine ι WorkerOp.Res PyExc (Plant ι) Empty where
  exec := Plant.exec env
  close := Plant.close poolLost
  event e _ := e.elim
  crashed := .workerLost

/-! ## What one operation can do -/

variable {env : Env} {i : ι} {s s' : Plant ι}

theorem exec_service {o : Op} {r : Except PyExc o.Res}
    (h : Plant.exec env i (.service o) s = some (r, s')) :
    ∃ w, exec env i o s.world = some (r, w) ∧
      s' = ⟨w, s.broker.publish (newMessages s.world w)⟩ := by
  obtain ⟨⟨r', w⟩, hx, heq⟩ := Option.map_eq_some_iff.1 h
  cases heq
  exact ⟨w, hx, rfl⟩

theorem exec_receive {m : Message} {r : Except PyExc Unit}
    (h : Plant.exec env i (.receive m) s = some (r, s')) :
    ∃ b, r = .ok () ∧ s.broker.receive i m = some b ∧ s' = ⟨s.world, b⟩ := by
  obtain ⟨b, hb, heq⟩ := Option.map_eq_some_iff.1 h
  cases heq
  exact ⟨b, rfl, hb, rfl⟩

/-- A retry is published, or it is struck before that. -/
theorem exec_retry {m : Message} {r : Except PyExc Unit}
    (h : Plant.exec env i (.retry m) s = some (r, s')) :
    (env.fault s.world.calls ≠ .before ∧ s' = ⟨s.world.tick, s.broker.publish [m]⟩) ∨
      (env.fault s.world.calls = .before ∧ s' = ⟨s.world.tick, s.broker⟩) := by
  have hp : s.publish (env.fault s.world.calls) m = (r, s') := Option.some.inj h
  unfold Plant.publish at hp
  split at hp
  · rename_i hf
    exact Or.inl ⟨by rw [hf]; exact fun hc => Fault.noConfusion hc, (Prod.mk.inj hp).2.symm⟩
  · rename_i hf
    exact Or.inr ⟨hf, (Prod.mk.inj hp).2.symm⟩
  · rename_i hf
    exact Or.inl ⟨by rw [hf]; exact fun hc => Fault.noConfusion hc, (Prod.mk.inj hp).2.symm⟩

omit [DecidableEq ι] in
/-- A session that enqueues nothing makes no message. -/
theorem newMessages_of_queue_eq {w w' : World ι} (h : w'.queue = w.queue) :
    newMessages w w' = [] := by
  rw [newMessages, h, List.drop_length]
  rfl

omit [DecidableEq ι] in
theorem newMessages_of_queue_append {w w' : World ι} {task : Task}
    (h : w'.queue = w.queue ++ [task]) : newMessages w w' = [⟨task, 0⟩] := by
  rw [newMessages, h, List.drop_left]
  rfl

/-- A task that `delay` has put in the queue waits there. -/
theorem exec_delay {task : Task} {w w' : World ι} {r : Except PyExc Unit}
    (h : exec env i (.delay task) w = some (r, w')) :
    newMessages w w' = [⟨task, 0⟩] ∨
      (env.fault w.calls = .before ∧ r = .error .brokerError ∧ newMessages w w' = []) := by
  have he : w.effect (env.fault w.calls) .brokerError { w with queue := w.queue ++ [task] } =
      (r, w') := Option.some.inj h
  unfold World.effect at he
  split at he
  · obtain ⟨-, rfl⟩ := Prod.mk.inj he
    exact Or.inl (newMessages_of_queue_append rfl)
  · rename_i hf
    obtain ⟨rfl, rfl⟩ := Prod.mk.inj he
    exact Or.inr ⟨hf, rfl, newMessages_of_queue_eq rfl⟩
  · obtain ⟨-, rfl⟩ := Prod.mk.inj he
    exact Or.inl (newMessages_of_queue_append rfl)

end machine

/-! ## Local states on a worker -/

section follows

variable {α G : Type} {guar : G → Op → Prop} {next : G → (o : Op) → Except PyExc o.Res → G → Prop}
  {guar' : G → WorkerOp → Prop} {next' : G → (o : WorkerOp) → Except PyExc o.Res → G → Prop}
  {post : G → α → Prop} {exc : G → PyExc → Prop}

/-- What a service keeps to, it keeps to on a worker, and what its answers keep. -/
theorem follows_onWorker {I : G → Prop} {p : Service α} {q : G}
    (h : p.Follows guar next post exc q) (hI : I q)
    (hguar : ∀ q o, I q → guar q o → guar' q (.service o))
    (hnext : ∀ q o (r : Except PyExc o.Res) q', I q → guar q o → next' q (.service o) r q' →
      next q o r q' ∧ I q') :
    (onWorker p).Follows guar' next' (fun q a => post q a ∧ I q) (fun q e => exc q e ∧ I q) q := by
  induction p generalizing q with
  | ret a => exact (Prog.follows_ret a).2 ⟨(Prog.follows_ret a).1 h, hI⟩
  | raise e => exact (Prog.follows_raise e).2 ⟨(Prog.follows_raise e).1 h, hI⟩
  | call o k ih =>
      rw [Prog.follows_call] at h
      refine (Prog.follows_call (WorkerOp.service o) _).2 ⟨hguar q o hI h.1, fun r q' hq => ?_⟩
      obtain ⟨hq, hI'⟩ := hnext q o r q' hI h.1 hq
      exact ih r (h.2 r q' hq) hI'

end follows

end SpendLens
