import FastPath.Controller.Basic

/-!
# Data limits

A caller sets a limit for an interface by name. It takes effect on the upstream with that name, now
or when an upstream gets the name. An upstream without live rules only remembers its limit.
-/

namespace FastPath

namespace Controller

/-- Give an upstream a limit, and hand it to the backend if rules use the upstream. -/
def applyLimit (b : Backend) (i : IfIndex) (q : Quota) (c : Controller) : Controller :=
  let c := { c with upstreams := c.upstreams.modify i fun u => { u with quota := q } }
  if c.upstreams.ruleCount i = 0 then c.note (.limitStored i q)
  else c.attempt (b.setQuota i q false) (.limitNotSet i)

/-- Set the limit of the interface with a name. -/
def limit (b : Backend) (iface : String) (q : Quota) (c : Controller) :
    Except RequestError Unit × Controller :=
  match q.check with
  | .error e => (.error e, c)
  | .ok () =>
    match c.upstreams.findByName iface with
    | some i => (.ok (), c.applyLimit b i q)
    | none =>
      let c := { c with pendingLimits := c.pendingLimits.insert iface q }
      (.ok (), c.note (.limitPending iface q))

/-- Name an upstream. The result says whether that changed anything. -/
def rename (i : IfIndex) (name : String) (c : Controller) : Bool × Controller :=
  match c.upstreams.nameOf i with
  | some old =>
    if old = name then (false, c)
    else
      (true, { c with upstreams := c.upstreams.setName i name }.note (.upstreamRenamed i old name))
  | none => (true, { c with upstreams := c.upstreams.setName i name })

/-- Give an upstream the limit that waits for its name, if there is one. -/
def resolveLimit (b : Backend) (i : IfIndex) (name : String) (c : Controller) : Controller :=
  match c.pendingLimits[name]? with
  | some q =>
    ({ c with pendingLimits := c.pendingLimits.erase name }.note
      (.pendingLimitApplied name q)).applyLimit b i q
  | none => c

/-- Name an upstream and apply the limit that waits for the name. -/
def nameUpstream (b : Backend) (i : IfIndex) (name : String) (c : Controller) : Controller :=
  if i = 0 ∨ name.isEmpty then c.note (.nameIgnored i name)
  else
    match c.rename i name with
    | (true, c) => (c.note (.upstreamNamed i name)).resolveLimit b i name
    | (false, c) => c

end Controller

end FastPath
