import FastPath.Controller.Dump
import FastPath.Controller.Lifetime

/-!
# Operations

Everything that can be done with a controller as one type, so that a history is a list. Besides what
events ask for there are questions, the tick of the poll timer and the end.
-/

namespace FastPath

/-- Something to do with a controller. -/
inductive Operation
  /-- What an event asks for. -/
  | event (e : Event)
  /-- Which rules a downstream has. -/
  | rulesFor (d : DownstreamId)
  /-- How often counters would be polled from now on. -/
  | pollInterval
  /-- The tick of the poll timer. -/
  | tick
  /-- The end of the controller. -/
  | shutDown
deriving DecidableEq

/-- The answer to an operation. -/
inductive Reply
  | done
  /-- Whether a rule was added or removed. -/
  | changed (yes : Bool)
  /-- The interval of polling that was started, or `none` when offload is off. -/
  | polling (ms : Option Nat)
  /-- An interval in milliseconds. -/
  | interval (ms : Nat)
  | rules (rs : List Rule)
  /-- A dump. -/
  | text (s : String)
deriving DecidableEq

namespace Controller

/-- Do what an event asks for. -/
def handle (e : Event) (c : Controller) : Except RequestError Reply × Controller :=
  let done (c : Controller) : Except RequestError Reply × Controller := (.ok .done, c)
  match e with
  | .upstreamName i name => done (c.addUpstreamName i name)
  | .addRule d r => (c.addRule d r).map (.ok ∘ .changed) id
  | .removeRule d r => (c.removeRule d r).map (.ok ∘ .changed) id
  | .updateRules d u => done (c.updateRules d u)
  | .clearRules d => done (c.clearRules d)
  | .upstreamChanged d u => done (c.upstreamChanged d u)
  | .setLimit iface q => (c.setLimit iface q).map (Except.map fun _ => .done) id
  | .setAlert q => (c.setAlert q).map (Except.map fun _ => .done) id
  | .pushStats => done c.pushStats
  | .startPolling => c.startPolling.map (.ok ∘ .polling) id
  | .stopPolling => done c.stopPolling
  | .setPollInterval ms => done (c.setPollInterval ms)
  | .attach internal external => done (c.attach ⟨internal, external⟩)
  | .detach internal external => done (c.detach ⟨internal, external⟩)
  | .addDownstream d => done (c.addDownstream d)
  | .removeDownstream d => done (c.removeDownstream d)
  | .dump => (.ok (.text c.dump), c)

/-- Carry out an operation. -/
def run (op : Operation) (c : Controller) : Except RequestError Reply × Controller :=
  match op with
  | .event e => c.handle e
  | .rulesFor d => (.ok (.rules (c.rulesFor d)), c)
  | .pollInterval => (.ok (.interval c.polling.interval), c)
  | .tick => (.ok .done, c.tick)
  | .shutDown => (.ok .done, c.shutDown)

/-- The controller after a history. -/
def runAll (ops : List Operation) (c : Controller) : Controller :=
  ops.foldl (fun c op => (c.run op).2) c

end Controller

end FastPath
