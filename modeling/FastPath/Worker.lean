import FastPath.Controller.Operation

/-!
# The worker

One worker owns the controller. It carries out operations one at a time, and while polling is on it
has a deadline at which it polls. Starting or stopping polling sets the deadline anew; a tick sets
the next one from the time of the tick. Time is a number of milliseconds that only grows.
-/

namespace FastPath

/-- The controller with the poll timer. -/
structure Worker where
  controller : Controller
  /-- The time in milliseconds. -/
  now : Nat
  /-- When the next tick is due, if one is. -/
  deadline : Option Nat
  /-- The generation of polling for which the deadline was set. -/
  generation : Nat
  /-- Operations are still carried out. -/
  running : Bool

namespace Worker

/-- When the next tick of a controller is due, seen from the given time. -/
def nextDeadline (c : Controller) (now : Nat) : Option Nat :=
  if c.polling.on then some (now + c.polling.interval) else none

/-- Put a controller to work. -/
def start (c : Controller) : Worker :=
  ⟨c, 0, nextDeadline c 0, c.polling.generation, true⟩

/-- Set the deadline anew if polling has been started or stopped. -/
def rearm (w : Worker) : Worker :=
  let generation := w.controller.polling.generation
  if generation = w.generation then w
  else { w with generation, deadline := nextDeadline w.controller w.now }

/-- Stop for good. -/
def stop (w : Worker) : Worker :=
  { w with controller := w.controller.note .workerStopped, deadline := none, running := false }

/-- Stop because nobody can reach the worker any more. -/
def abandon (w : Worker) : Worker :=
  if w.running then { w with controller := w.controller.note .handlesDropped }.stop else w

/-- Carry out an operation. A worker that has stopped refuses it. -/
def perform (op : Operation) (w : Worker) : Except RequestError Reply × Worker :=
  if w.running then
    let (answer, controller) := w.controller.run op
    let w := { w with controller }
    (answer, if op = .shutDown then w.stop else w.rearm)
  else (.error .stopped, w)

/-- Poll, and set the next deadline. -/
def tick (w : Worker) : Worker :=
  let controller := w.controller.tick
  { w with controller, deadline := nextDeadline controller w.now }

/-- What keeps time from standing still: the next deadline is later than the one before. -/
theorem lt_of_nextDeadline {c : Controller} {now d : Nat} (h : nextDeadline c now = some d) :
    now < d := by
  simp only [nextDeadline, Polling.interval, effectiveInterval, minInterval] at h
  split at h
  · simp only [Option.some.injEq] at h
    omega
  · cases h

/-- Let time pass until `t`. Every tick that falls due is served at its deadline. -/
def advanceTo (t : Nat) (w : Worker) : Worker :=
  match _h : w.deadline with
  | none => { w with now := max w.now t }
  | some d =>
    if d ≤ t then advanceTo t { w with now := max w.now d }.tick else { w with now := max w.now t }
termination_by w.deadline.elim 0 fun d => t + 1 - d
decreasing_by
  simp only [tick, _h, Option.elim_some]
  cases h : nextDeadline w.controller.tick (max w.now d) with
  | none =>
    simp only [Option.elim_none]
    omega
  | some d' =>
    have := lt_of_nextDeadline h
    simp only [Option.elim_some]
    omega

/-- Let some milliseconds pass. -/
def advance (ms : Nat) (w : Worker) : Worker :=
  w.advanceTo (w.now + ms)

end Worker

end FastPath
