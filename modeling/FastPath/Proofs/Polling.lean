import FastPath.Proofs.Programs

/-!
# What operations do to polling

Polling is a matter of four operations: it is started, stopped, given another interval, and the end
of a controller stops it. All others leave it alone, whatever they do and whatever fails
(`polling_run`). It is on only where offload is (`polledOnlyEnabled_runAll`).
-/

namespace FastPath

/-- What an operation makes of polling. It is started only where offload is enabled. -/
def Operation.onPolling (op : Operation) (enabled : Bool) (p : Polling) : Polling :=
  match op with
  | .event .startPolling =>
    if enabled then { p with on := true, generation := p.generation + 1 } else p
  | .event .stopPolling | .shutDown => { p with on := false, generation := p.generation + 1 }
  | .event (.setPollInterval ms) => { p with configuredMs := ms }
  | _ => p

namespace Controller

variable {b : Backend} {c c' : Controller}

/-- No errand has to do with polling. -/
theorem Errand.polling_eq (h : Errand b c c') : c'.polling = c.polling := by
  have hattachments : ∀ f, (c.changeAttachments f).polling = c.polling := by
    intro f
    unfold changeAttachments withBackend
    split <;> rfl
  have hmonitoring : ∀ f, (c.changeMonitoring f).polling = c.polling := by
    intro f
    unfold changeMonitoring withBackend
    split <;> rfl
  cases h with
  | install d rule => exact (apart_install d rule c).polling
  | uninstall d n => exact (apart_uninstall d n c).polling
  | forget => rfl
  | publish => exact (calm_publish c).polling
  | note => rfl
  | attach pair => exact hattachments _
  | detach pair => exact hattachments _
  | addDownstream d => exact hmonitoring _
  | removeDownstream d => exact hmonitoring _

/-- Nor have any number of them. -/
theorem Errands.polling_eq (h : Errands b c c') : c'.polling = c.polling := by
  induction h with
  | refl => rfl
  | tail _ h ih => exact h.polling_eq.trans ih

theorem polling_limit (b : Backend) (iface : String) (q : Quota) (c : Controller) :
    (c.limit b iface q).2.polling = c.polling := by
  rcases limit_calm_cases b iface q c with h | ⟨i, h⟩
  · exact h.polling
  · rw [h]
    exact (apart_applyLimit i q c).polling

theorem polling_nameUpstream (b : Backend) (i : IfIndex) (name : String) (c : Controller) :
    (c.nameUpstream b i name).polling = c.polling := by
  obtain ⟨c', hcalm, h | ⟨q, h⟩⟩ := nameUpstream_calm_cases b i name c <;> rw [h]
  · exact hcalm.polling
  · exact ((apart_applyLimit i q c').polling).trans hcalm.polling

/-- Polling that ends is off, and its generation has passed. -/
theorem polling_endPolling (c : Controller) :
    c.endPolling.polling =
      { c.polling with on := false, generation := c.polling.generation + 1 } := by
  unfold endPolling
  dsimp only
  split <;> rfl

/-- What needs the backend changes nothing without it. -/
theorem withBackend_none (hb : c.backend = none) (f : Backend → Controller → Controller) :
    c.withBackend f = c := by
  rw [withBackend, hb]

/-- What an operation does where offload is off: polling is stopped or given another interval, and
else nothing is done. -/
def whileOff (op : Operation) (c : Controller) : Controller :=
  match op with
  | .event .stopPolling | .shutDown => c.endPolling
  | .event (.setPollInterval ms) => c.setPollInterval ms
  | _ => c

/-- Without a backend that is all. -/
theorem run_eq_whileOff (hb : c.backend = none) (op : Operation) :
    (c.run op).2 = c.whileOff op := by
  have hwith := withBackend_none hb
  have hattachments : ∀ f, c.changeAttachments f = c := fun _ => hwith _
  have hmonitoring : ∀ f, c.changeMonitoring f = c := fun _ => hwith _
  cases op with
  | event e =>
    cases e with
    | addRule d rule =>
      show (c.addRule d rule).2 = c
      rw [addRule, hb]
    | removeRule d rule =>
      show (c.removeRule d rule).2 = c
      rw [removeRule, hb]
    | setLimit iface q =>
      show (c.setLimit iface q).2 = c
      rw [setLimit, hb]
    | setAlert q =>
      show (c.setAlert q).2 = c
      rw [setAlert, enabled, hb]
      rfl
    | startPolling =>
      show c.startPolling.2 = c
      rw [startPolling, enabled, hb]
      rfl
    | stopPolling => rfl
    | setPollInterval ms => rfl
    | upstreamChanged d u =>
      cases u with
      | none => exact hwith _
      | some info =>
        show (c.withBackend _).withBackend _ = c
        rw [hwith, hwith]
    | dump => rfl
    | attach internal external => exact hattachments (Attachments.attach ⟨internal, external⟩)
    | detach internal external => exact hattachments (Attachments.detach ⟨internal, external⟩)
    | addDownstream d => exact hmonitoring (Monitoring.add d)
    | removeDownstream d => exact hmonitoring (Monitoring.remove d)
    | _ => exact hwith _
  | tick => exact hwith _
  | shutDown =>
    show c.shutDown = c.endPolling
    exact withBackend_none ((idle_endPolling c).backend.trans hb) _
  | _ => rfl

/-- So there is no backend afterwards, and polling is as the operation makes it. -/
theorem run_of_none (hb : c.backend = none) (op : Operation) :
    (c.run op).2.backend = none ∧ (c.run op).2.polling = op.onPolling false c.polling := by
  have hend : c.endPolling.backend = none := (idle_endPolling c).backend.trans hb
  rw [run_eq_whileOff hb]
  cases op with
  | event e =>
    cases e with
    | stopPolling => exact ⟨hend, polling_endPolling c⟩
    | _ => exact ⟨hb, rfl⟩
  | shutDown => exact ⟨hend, polling_endPolling c⟩
  | _ => exact ⟨hb, rfl⟩

/-- No operation turns offload on or off. -/
theorem enabled_run (op : Operation) (c : Controller) : (c.run op).2.enabled = c.enabled := by
  rw [enabled, enabled]
  cases hb : c.backend with
  | none => rw [(run_of_none hb op).1]
  | some b => rw [backend_run c op hb]

/-- Every operation does to polling what it is to do, whatever else happens. -/
theorem polling_run (op : Operation) (c : Controller) :
    (c.run op).2.polling = op.onPolling c.enabled c.polling := by
  rw [enabled]
  cases hb : c.backend with
  | none => exact (run_of_none hb op).2
  | some b =>
    by_cases herrand : op.isErrand
    · rw [Errands.polling_eq (errands_run c herrand hb)]
      cases op with
      | event e => cases e <;> first | rfl | cases herrand
      | _ => first | rfl | cases herrand
    have hname : ∀ i name, (c.addUpstreamName i name).polling = c.polling := by
      intro i name
      rw [addUpstreamName, withBackend, hb]
      exact polling_nameUpstream b i name c
    cases op with
    | event e =>
      cases e with
      | upstreamName i name => exact hname i name
      | upstreamChanged d u =>
        cases u with
        | none => exact absurd rfl herrand
        | some info =>
          have hb' := backend_addUpstreamName c info.ifIndex info.name hb
          have hmove := errands_updateRules (c.addUpstreamName info.ifIndex info.name) d
            info.ifIndex hb'
          exact (Errands.polling_eq hmove).trans (hname info.ifIndex info.name)
      | setLimit iface q =>
        show (c.setLimit iface q).2.polling = c.polling
        rw [setLimit, hb]
        exact polling_limit b iface q c
      | setAlert q =>
        show (c.setAlert q).2.polling = c.polling
        rw [setAlert, enabled, hb]
        exact (calm_armAlert q c).polling
      | startPolling =>
        show c.startPolling.2.polling = _
        rw [startPolling, enabled, hb]
        rfl
      | stopPolling => exact polling_endPolling c
      | setPollInterval ms => rfl
      | _ => exact absurd rfl herrand
    | tick =>
      show (c.withBackend poll).polling = c.polling
      rw [withBackend, hb]
      exact (calm_poll b c).polling
    | shutDown =>
      exact (Errands.polling_eq (errands_shutDown c hb)).trans (polling_endPolling c)
    | _ => exact absurd rfl herrand

/-- Polling is on only where offload is. -/
def PolledOnlyEnabled (c : Controller) : Prop :=
  c.polling.on → c.enabled

/-- That stays so, whatever is asked. -/
theorem PolledOnlyEnabled.run (h : PolledOnlyEnabled c) (op : Operation) :
    PolledOnlyEnabled (c.run op).2 := by
  unfold PolledOnlyEnabled
  rw [polling_run, enabled_run]
  intro hon
  unfold Operation.onPolling at hon
  split at hon
  · split at hon
    · assumption
    · exact h hon
  · cases hon
  · cases hon
  · exact h hon
  · exact h hon

/-- A configured limit has nothing to do with polling. -/
theorem polling_configureLimit (c : Controller) (l : String × Quota) :
    (c.configureLimit l).polling = c.polling := by
  have hset : (c.setLimit l.1 l.2).2.polling = c.polling :=
    polling_run (.event (.setLimit l.1 l.2)) c
  unfold configureLimit
  split <;> rename_i heq <;> rw [heq] at hset <;> exact hset

/-- Nor has a step against the platform. -/
theorem polling_attempt (c : Controller) (a : Act Unit) (failed : Failure → Notice) :
    (c.attempt a failed).polling = c.polling := by
  obtain ⟨p, hattempt, -⟩ := exists_attempt (R := fun _ => True) c a failed
    (fun _ => trivial) fun _ _ => trivial
  rw [hattempt]

/-- A controller starts with polling off, and with the interval of its configuration. -/
theorem polling_start (config : Config) (source : Source) (attacher : Bool) (p : Platform) :
    (start config source attacher p).polling = ⟨config.pollIntervalMs, false, 0⟩ := by
  have hlimits : ∀ (ls : List (String × Quota)) (c : Controller),
      (ls.foldl configureLimit c).polling = c.polling := by
    intro ls
    induction ls with
    | nil => exact fun _ => rfl
    | cons l ls ih => exact fun c => (ih _).trans (polling_configureLimit c l)
  unfold start
  rw [hlimits]
  unfold withBackend
  split
  · exact polling_attempt ..
  · rfl

/-- Polling is on only where offload is, whatever has been asked since the start. -/
theorem polledOnlyEnabled_runAll (config : Config) (source : Source) (attacher : Bool)
    (p : Platform) (ops : List Operation) :
    PolledOnlyEnabled ((start config source attacher p).runAll ops) := by
  have hstart : PolledOnlyEnabled (start config source attacher p) := by
    intro hon
    rw [polling_start] at hon
    cases hon
  generalize start config source attacher p = c at hstart ⊢
  induction ops generalizing c with
  | nil => exact hstart
  | cons op ops ih => exact ih _ (hstart.run op)

end Controller

end FastPath
