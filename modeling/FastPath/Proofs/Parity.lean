import FastPath.Proofs.Twins

/-!
# Parity of the backends

The same is asked of a controller on the kernel tables and of one with the daemon, the same traffic
is forwarded on upstreams with live rules, and no call fails. Then nobody can tell the two apart but
by their mode: they have the same rules, upstreams, limits and state of polling, they give the same
answers and tell others the same, and what the one has installed and counted in the kernel the other
one has installed and counted with the daemon. Limits that wait for an upstream are in no fixed
order, so a dump of each lists them at the same place, but in an order of its own.

Every operation keeps twins twins and is answered alike (`Twins.run`), and histories follow by
induction.
-/

namespace FastPath

open Std FastPath.Text

namespace Controller

open Platform

variable {c₁ c₂ : Controller}

/-! ## Operations -/

/-- Twins have their backends. -/
theorem Twins.backend (h : Twins c₁ c₂) :
    c₁.backend = some .tables ∧ c₂.backend = some .daemon := by
  obtain ⟨p, rfl, h⟩ := h
  exact ⟨h.backend, rfl⟩

/-- Twins poll as often. -/
theorem Twins.polling (h : Twins c₁ c₂) : c₂.polling = c₁.polling := by
  obtain ⟨p, rfl, -⟩ := h
  rfl

/-- Each uses its own backend. -/
theorem Twins.withBackend (h : Twins c₁ c₂) {f : Backend → Controller → Controller}
    (hf : Twins (f .tables c₁) (f .daemon c₂)) : Twins (c₁.withBackend f) (c₂.withBackend f) := by
  rwa [Controller.withBackend, h.backend.1, Controller.withBackend, h.backend.2]

theorem Twins.addRule (h : Twins c₁ c₂) (d : DownstreamId) (rule : Rule) :
    Alike (c₁.addRule d rule) (c₂.addRule d rule) := by
  rw [Controller.addRule, h.backend.1, Controller.addRule, h.backend.2]
  exact h.install d rule

theorem Twins.removeRule (h : Twins c₁ c₂) (d : DownstreamId) (rule : Rule) :
    Alike (c₁.removeRule d rule) (c₂.removeRule d rule) := by
  rw [Controller.removeRule, h.backend.1, Controller.removeRule, h.backend.2]
  exact h.uninstall d rule.neighbor

theorem Twins.clearRules (h : Twins c₁ c₂) (d : DownstreamId) :
    Twins (c₁.clearRules d) (c₂.clearRules d) :=
  h.withBackend (h.flush d)

/-- A downstream moves to another upstream with both, or loses the one it had. -/
theorem Twins.upstreamChanged (h : Twins c₁ c₂) (d : DownstreamId) (u : Option UpstreamInfo) :
    Twins (c₁.upstreamChanged d u) (c₂.upstreamChanged d u) := by
  cases u with
  | none => exact h.clearRules d
  | some info =>
    have hnamed : Twins (c₁.addUpstreamName info.ifIndex info.name)
        (c₂.addUpstreamName info.ifIndex info.name) := h.withBackend (h.nameUpstream ..)
    exact hnamed.withBackend (hnamed.rebind d info.ifIndex)

theorem Twins.setLimit (h : Twins c₁ c₂) (iface : String) (q : Quota) :
    Alike (c₁.setLimit iface q) (c₂.setLimit iface q) := by
  rw [Controller.setLimit, h.backend.1, Controller.setLimit, h.backend.2]
  exact h.limit iface q

/-- An alert is accepted by both or by neither. -/
theorem Twins.setAlert (h : Twins c₁ c₂) (q : Quota) :
    Alike (c₁.setAlert q) (c₂.setAlert q) := by
  rw [Controller.setAlert, enabled, h.backend.1, Controller.setAlert, enabled, h.backend.2]
  refine ⟨?_, h.idle (steady_armAlert q c₁) (idle_armAlert q c₁)⟩
  show (c₂.armAlert q).1 = (c₁.armAlert q).1
  unfold armAlert
  split <;> rfl

/-- Polling starts at the same interval. -/
theorem Twins.startPolling (h : Twins c₁ c₂) : Alike c₁.startPolling c₂.startPolling := by
  rw [Controller.startPolling, enabled, h.backend.1, Controller.startPolling, enabled,
    h.backend.2]
  refine ⟨?_, h.idle (steady_beginPolling c₁) (idle_beginPolling c₁)⟩
  show some c₂.beginPolling.1 = some c₁.beginPolling.1
  unfold beginPolling
  rw [h.polling]

theorem Twins.stopPolling (h : Twins c₁ c₂) : Twins c₁.stopPolling c₂.stopPolling :=
  h.idle (steady_endPolling c₁) (idle_endPolling c₁)

/-- What is attached changes in the same way. -/
theorem Twins.changeAttachments (h : Twins c₁ c₂)
    {f : Attachments → Platform → Attachments × Platform} (hf : ∀ a, Platform.Steady (f a))
    (haside : ∀ (a : Attachments) (p : Platform), p.Aside (f a p).2) :
    Twins (c₁.changeAttachments f) (c₂.changeAttachments f) :=
  h.idle (steady_changeAttachments hf c₁) (idle_changeAttachments haside c₁)

/-- What is monitored changes in the same way. -/
theorem Twins.changeMonitoring (h : Twins c₁ c₂)
    {f : Monitoring → Platform → Monitoring × Platform} (hf : ∀ m, Platform.Steady (f m))
    (haside : ∀ (m : Monitoring) (p : Platform), p.Aside (f m p).2) :
    Twins (c₁.changeMonitoring f) (c₂.changeMonitoring f) :=
  h.idle (steady_changeMonitoring hf c₁) (idle_changeMonitoring haside c₁)

/-- Everything is taken down with both. -/
theorem Twins.shutDown (h : Twins c₁ c₂) : Twins c₁.shutDown c₂.shutDown := by
  have hstop := h.stopPolling
  refine hstop.withBackend ?_
  rw [hstop.registry]
  have hflush := hstop.foldl (fun d h => h.clearRules d) c₁.stopPolling.registry.downstreams
  have hpush := hflush.withBackend (f := fun _ => Controller.publish) hflush.publish
  have hdetach := hpush.changeAttachments Attachments.steady_detachAll Attachments.aside_detachAll
  have hremove := hdetach.changeMonitoring Monitoring.steady_removeAll Monitoring.aside_removeAll
  exact hremove.note rfl

/-- Whatever is asked of both, they are twins afterwards and have given the same answer, except to
the question for a dump. -/
theorem Twins.run (h : Twins c₁ c₂) (op : Operation) :
    (op ≠ .event .dump → (c₂.run op).1 = (c₁.run op).1) ∧ Twins (c₁.run op).2 (c₂.run op).2 := by
  cases op with
  | event e =>
    cases e with
    | upstreamName i name => exact ⟨fun _ => rfl, h.withBackend (h.nameUpstream i name)⟩
    | addRule d rule =>
      obtain ⟨hanswer, hnext⟩ := h.addRule d rule
      exact ⟨fun _ => congrArg (Except.ok ∘ Reply.changed) hanswer, hnext⟩
    | removeRule d rule =>
      obtain ⟨hanswer, hnext⟩ := h.removeRule d rule
      exact ⟨fun _ => congrArg (Except.ok ∘ Reply.changed) hanswer, hnext⟩
    | updateRules d u => exact ⟨fun _ => rfl, h.withBackend (h.rebind d u)⟩
    | clearRules d => exact ⟨fun _ => rfl, h.clearRules d⟩
    | upstreamChanged d u => exact ⟨fun _ => rfl, h.upstreamChanged d u⟩
    | setLimit iface q =>
      obtain ⟨hanswer, hnext⟩ := h.setLimit iface q
      exact ⟨fun _ => congrArg (Except.map fun _ => Reply.done) hanswer, hnext⟩
    | setAlert q =>
      obtain ⟨hanswer, hnext⟩ := h.setAlert q
      exact ⟨fun _ => congrArg (Except.map fun _ => Reply.done) hanswer, hnext⟩
    | pushStats => exact ⟨fun _ => rfl, h.withBackend h.publish⟩
    | startPolling =>
      obtain ⟨hanswer, hnext⟩ := h.startPolling
      exact ⟨fun _ => congrArg (Except.ok ∘ Reply.polling) hanswer, hnext⟩
    | stopPolling => exact ⟨fun _ => rfl, h.stopPolling⟩
    | setPollInterval ms =>
      exact ⟨fun _ => rfl, h.idle (steady_setPollInterval ms c₁) (idle_setPollInterval ms c₁)⟩
    | attach internal external =>
      exact ⟨fun _ => rfl, h.changeAttachments (Attachments.steady_attach _)
        (Attachments.aside_attach _)⟩
    | detach internal external =>
      exact ⟨fun _ => rfl, h.changeAttachments (Attachments.steady_detach _)
        (Attachments.aside_detach _)⟩
    | addDownstream d =>
      exact ⟨fun _ => rfl, h.changeMonitoring (Monitoring.steady_add d) (Monitoring.aside_add d)⟩
    | removeDownstream d =>
      exact ⟨fun _ => rfl,
        h.changeMonitoring (Monitoring.steady_remove d) (Monitoring.aside_remove d)⟩
    | dump => exact ⟨fun hne => absurd rfl hne, h⟩
  | rulesFor d => exact ⟨fun _ => congrArg (Except.ok ∘ Reply.rules) (h.rulesFor d), h⟩
  | pollInterval =>
    have hinterval : c₂.polling.interval = c₁.polling.interval := by rw [h.polling]
    exact ⟨fun _ => congrArg (Except.ok ∘ Reply.interval) hinterval, h⟩
  | tick => exact ⟨fun _ => rfl, h.withBackend h.poll⟩
  | shutDown => exact ⟨fun _ => rfl, h.shutDown⟩

/-! ## Histories -/

/-- Traffic of an upstream with live rules is counted for both. -/
theorem Twins.traffic (h : Twins c₁ c₂) {i : IfIndex}
    (hi : ∃ d, ∃ r ∈ c₁.rulesFor d, r.upstream = i) (more : Counters) :
    Twins { c₁ with platform := c₁.platform.count .tables i more }
      { c₂ with platform := c₂.platform.count .daemon i more } := by
  obtain ⟨p, rfl, h⟩ := h
  refine ⟨p.count .daemon i more, rfl, ?_⟩
  -- The kernel counts nothing without counters, but the first rule of the upstream started them.
  have hcounters : i ∈ c₁.platform.kernel.stats :=
    (h.mirrors.counters rfl i).mpr ((h.counted.ruleCount_ne_zero i).mpr hi)
  have hplatforms : (c₁.platform.count .tables i more).Paired (p.count .daemon i more) := by
    obtain ⟨_, _, htables, -⟩ := c₁.platform.count_cases .tables i more
    obtain ⟨_, _, hdaemon, -⟩ := p.count_cases .daemon i more
    rw [htables, hdaemon]
    exact ⟨h.platforms.left, h.platforms.right, h.platforms.outward⟩
  refine ⟨h.backend, hplatforms, h.counted.of_ruleCount rfl fun _ => rfl, h.mirrors.count i more,
    h.stores.count hcounters more, fun j hj => h.unread j fun hmem => hj ?_⟩
  exact ExtTreeMap.mem_insert.mpr (.inr hmem)

/-- In a history, traffic is only forwarded on upstreams that have live rules at the time. -/
def Carried (b : Backend) : Controller → List Happening → Prop
  | _, [] => True
  | c, .operation op :: hs => Carried b (c.undergo b (.operation op)) hs
  | c, .traffic i more :: hs =>
    (∃ d, ∃ r ∈ c.rulesFor d, r.upstream = i) ∧ Carried b (c.undergo b (.traffic i more)) hs

/-- Twins are twins at any time. -/
theorem Twins.undergoAll (h : Twins c₁ c₂) {hs : List Happening}
    (hcarried : Carried .tables c₁ hs) :
    Twins (c₁.undergoAll .tables hs) (c₂.undergoAll .daemon hs) := by
  induction hs generalizing c₁ c₂ with
  | nil => exact h
  | cons happening hs ih =>
    cases happening with
    | operation op => exact ih (h.run op).2 hcarried
    | traffic i more => exact ih (h.traffic hcarried.1 more) hcarried.2

/-- A configured limit is taken by both or by neither. -/
theorem Twins.configureLimit (h : Twins c₁ c₂) (l : String × Quota) :
    Twins (c₁.configureLimit l) (c₂.configureLimit l) := by
  obtain ⟨hanswer, hnext⟩ := h.setLimit l.1 l.2
  unfold Controller.configureLimit
  rcases hset : c₁.setLimit l.1 l.2 with ⟨_ | _, c₁'⟩ <;>
    rcases hset' : c₂.setLimit l.1 l.2 with ⟨_ | _, c₂'⟩ <;>
    rw [hset, hset'] at hanswer hnext
  · cases hanswer
    exact hnext.note rfl
  · cases hanswer
  · cases hanswer
  · exact hnext

/-- The lines of the limits that wait are the same in any two orders. -/
theorem pendingLines_perm (l l' : Listing) (c : Controller) :
    (c.pendingLines l').Perm (c.pendingLines l) :=
  ((l'.perm c.pendingLimits).trans (l.perm c.pendingLimits).symm).map _

/-- The first line of a dump alone looks at the backend, and none looks at the platform. -/
theorem dumpLines_on (b : Backend) (p : Platform) (l : Listing) (c : Controller) :
    (c.on b p).dumpLines l =
      s!"Offload: {b.mode.text}" :: c.linesBefore ++ c.pendingLines l ++ c.linesAfter :=
  rfl

/-- With limits in the same order, dumps of twins have the same lines after the first one. -/
theorem Twins.dumpLines (h : Twins c₁ c₂) (l : Listing) :
    c₁.dumpLines l =
        "Offload: map-based" :: c₁.linesBefore ++ c₁.pendingLines l ++ c₁.linesAfter ∧
      c₂.dumpLines l =
        "Offload: legacy" :: c₁.linesBefore ++ c₁.pendingLines l ++ c₁.linesAfter := by
  obtain ⟨p, rfl, h⟩ := h
  have htables := dumpLines_on .tables c₁.platform l c₁
  rw [on_self h.backend] at htables
  exact ⟨htables, dumpLines_on .daemon p l c₁⟩

theorem Twins.dumpBy (h : Twins c₁ c₂) (l : Listing) : ∃ rest,
    c₁.dumpBy l = "Offload: map-based\n" ++ rest ∧ c₂.dumpBy l = "Offload: legacy\n" ++ rest := by
  obtain ⟨h₁, h₂⟩ := h.dumpLines l
  refine ⟨unlines (c₁.linesBefore ++ c₁.pendingLines l ++ c₁.linesAfter), ?_, ?_⟩
  · rw [Controller.dumpBy, h₁]
    exact String.join_cons
  · rw [Controller.dumpBy, h₂]
    exact String.join_cons

/-- Dumps of twins have the same lines after the first one, but for the order of the limits that
wait. -/
theorem Twins.dump (h : Twins c₁ c₂) : ∃ before after,
    c₁.dump = unlines ("Offload: map-based" :: before ++ c₁.ownPendingLines ++ after) ∧
    c₂.dump = unlines ("Offload: legacy" :: before ++ c₂.ownPendingLines ++ after) ∧
    c₂.ownPendingLines.Perm c₁.ownPendingLines := by
  have h₁ := (h.dumpLines c₁.platform.listing).1
  have h₂ := (h.dumpLines c₂.platform.listing).2
  obtain ⟨p, rfl, -⟩ := h
  exact ⟨c₁.linesBefore, c₁.linesAfter, congrArg unlines h₁, congrArg unlines h₂,
    pendingLines_perm _ _ c₁⟩

/-- A rule is added on a named upstream with a limit, while other limits wait for theirs. Traffic is
forwarded, read and published. -/
def forwarded : List Happening :=
  [.operation (.event (.upstreamName 100 "rmnet0")),
    .operation (.event (.setLimit "rmnet0" 5000)),
    .operation (.event (.setLimit "rmnet1" 7)), .operation (.event (.setLimit "rmnet2" 8)),
    .operation (.event (.addRule "wlan0" (sharedRule 10))),
    .traffic 100 ⟨1, 1400, 0, 2, 120, 0⟩, .operation .tick, .operation (.event .pushStats)]

/-- Limits are listed against the order of their names. -/
def against : Listing :=
  ⟨fun limits => limits.toList.reverse, fun limits => limits.toList.reverse_perm⟩

end Controller

end FastPath
