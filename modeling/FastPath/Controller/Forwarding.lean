import FastPath.Controller.Basic

/-!
# Adding, removing and moving rules

A downstream holds at most one rule for a neighbor. The first rule of an upstream gives it counters
and its limit, and the last one takes them away again and keeps what they counted. The first rule of
a downstream interface binds the interface to its upstream, and the last one removes the binding. A
rule counts as added or removed once the backend has done so, whatever becomes of the rest.
-/

namespace FastPath

namespace Controller

/-- Count one more rule of an upstream. Its first rule gives it counters and its limit. -/
def acquire (b : Backend) (u : IfIndex) (c : Controller) : Controller :=
  let before := c.upstreams.ruleCount u
  let c := { c with upstreams := c.upstreams.acquire u }
  if before = 0 then
    c.attempt (b.setQuota u (c.upstreams.findOrFresh u).quota true) (.quotaNotInitialized u)
  else c

/-- Add a rule to a downstream. The result says whether the rule is now live. -/
def install (b : Backend) (d : DownstreamId) (rule : Rule) (c : Controller) : Bool × Controller :=
  if (c.registry.find? d rule.neighbor).isSome then
    (false, c.note (.duplicateRule rule.neighbor d))
  else
    match c.perform (b.addRule rule) with
    | (.error f, c) => (false, c.note (.ruleNotAdded d f))
    | (.ok (), c) =>
      let isFirst := c.registry.rulesOn rule.downstream = 0
      let c := { c with registry := c.registry.push d rule }.note (.ruleAdded rule d)
      let c := c.acquire b rule.upstream
      if isFirst then
        (true, c.attempt (b.startForwarding rule.downstream rule.upstream)
          (.bindingNotStarted rule.downstream rule.upstream))
      else (true, c)

/-- Count one rule of an upstream less, with a notice when there is none to count. -/
def countDown (u : IfIndex) (c : Controller) : Controller :=
  if c.upstreams.ruleCount u = 0 then c.note (.countAlreadyZero u)
  else { c with upstreams := c.upstreams.release u }

/-- Count one rule of an upstream less. With its last rule its counters are read for the last time
and cleared. -/
def release (b : Backend) (u : IfIndex) (c : Controller) : Controller :=
  let before := c.upstreams.ruleCount u
  let c := c.countDown u
  if before = 1 then
    match c.perform (b.readAndClear u) with
    | (.ok last, c) => { c with upstreams := c.upstreams.foldFinal last }
    | (.error f, c) => c.note (.statsNotCleared u f)
  else c

/-- Remove the rule of a downstream for a neighbor. The result says whether a rule is gone. -/
def uninstall (b : Backend) (d : DownstreamId) (neighbor : Ipv6) (c : Controller) :
    Bool × Controller :=
  if d ∈ c.registry.byDownstream then
    match c.registry.find? d neighbor with
    | none => (false, c.note (.noSuchRule neighbor d))
    | some rule =>
      match c.perform (b.removeRule rule) with
      | (.error f, c) => (false, c.note (.ruleNotRemoved d f))
      | (.ok (), c) =>
        let c := { c with registry := c.registry.erase d neighbor }.note (.ruleRemoved rule d)
        let c :=
          if c.registry.rulesOn rule.downstream = 0 then
            c.attempt (b.stopForwarding rule.downstream rule.upstream)
              (.bindingNotStopped rule.downstream rule.upstream)
          else c
        (true, c.release b rule.upstream)
  else (false, c.note (.noRules d))

/-- Remove the rules of a downstream for several neighbors, in order. The result lists those of the
given rules that are gone. -/
def uninstallEach (b : Backend) (d : DownstreamId) : List Rule → Controller → List Rule × Controller
  | [], c => ([], c)
  | rule :: rules, c =>
    let (gone, c) := c.uninstall b d rule.neighbor
    let (others, c) := uninstallEach b d rules c
    (if gone then rule :: others else others, c)

/-- Move the rules of a downstream to another upstream: remove them in order, then add those that
are gone on the new upstream, in the same order. -/
def rebind (b : Backend) (d : DownstreamId) (u : IfIndex) (c : Controller) : Controller :=
  match c.rulesFor d with
  | [] => c.note (.nothingToUpdate d)
  | rules =>
    let (gone, c) := uninstallEach b d rules c
    gone.foldl (fun c rule => (c.install b d (rule.onUpstream u)).2) c

/-- Remove the rules of a downstream, in order, and forget it unless a rule could not be removed. -/
def flush (b : Backend) (d : DownstreamId) (c : Controller) : Controller :=
  let (_, c) := uninstallEach b d (c.rulesFor d) c
  match c.rulesFor d with
  | [] => { c with registry := c.registry.forget d }
  | kept => c.note (.rulesKept d kept.length)

end Controller

end FastPath
