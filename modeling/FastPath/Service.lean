import FastPath.Worker

/-!
# The service

Callers reach the worker through a queue. A message is accepted while the worker runs and is given a
ticket. The worker takes messages in the order in which they were accepted and leaves each answer
under the ticket of its message. A message that waits behind the end of the worker is answered like
one that was not accepted: the service has stopped.
-/

namespace FastPath

/-- The answer to a message. -/
abbrev Answer := Except RequestError Reply

/-- The worker with its queue. -/
structure Service where
  worker : Worker
  /-- The accepted messages that wait, each with its ticket, the oldest first. -/
  queue : List (Nat × Operation)
  /-- The ticket of the next message. -/
  ticket : Nat
  /-- The answers that nobody has fetched yet. -/
  answers : List (Nat × Answer)

namespace Service

/-- Put a controller into service. -/
def start (c : Controller) : Service :=
  ⟨.start c, [], 0, []⟩

/-- Give a notice. -/
def note (n : Notice) (s : Service) : Service :=
  { s with worker := { s.worker with controller := s.worker.controller.note n } }

/-- Show a text. -/
def display (text : String) (s : Service) : Service :=
  let c := s.worker.controller
  { s with worker := { s.worker with controller :=
    { c with platform := c.platform.push (.shown text) } } }

/-- Take the journal as it stands; a new one begins. -/
def takeJournal (s : Service) : List Entry × Service :=
  let (entries, controller) := s.worker.controller.takeJournal
  (entries, { s with worker := { s.worker with controller } })

/-- Send a message. The result is its ticket, or `none` when the worker has stopped. -/
def post (op : Operation) (s : Service) : Option Nat × Service :=
  if s.worker.running then
    (some s.ticket, { s with queue := s.queue ++ [(s.ticket, op)], ticket := s.ticket + 1 })
  else (none, s)

/-- Have the worker take the oldest message. -/
def step (s : Service) : Service :=
  match s.queue with
  | [] => s
  | (ticket, op) :: queue =>
    let (answer, worker) := s.worker.perform op
    { s with worker, queue, answers := (ticket, answer) :: s.answers }

/-- Have the worker take all messages that wait. -/
def drain (s : Service) : Service :=
  s.queue.foldl (fun s _ => s.step) s

/-- Fetch the answer to a message. Without one the service has stopped. -/
def fetch (ticket : Nat) (s : Service) : Answer × Service :=
  ((s.answers.lookup ticket).getD (.error .stopped),
    { s with answers := s.answers.filter fun a => a.1 ≠ ticket })

/-- Send a message and wait for the answer. -/
def call (op : Operation) (s : Service) : Answer × Service :=
  match s.post op with
  | (some ticket, s) => s.drain.fetch ticket
  | (none, s) => (.error .stopped, s)

/-- Let some milliseconds pass. -/
def advance (ms : Nat) (s : Service) : Service :=
  { s with worker := s.worker.advance ms }

/-- Nobody can send messages any more: those that wait are still handled, then the worker stops. -/
def close (s : Service) : Service :=
  let s := s.drain
  { s with worker := s.worker.abandon }

end Service

end FastPath
