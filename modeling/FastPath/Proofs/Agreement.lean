import FastPath.Controller.Operation
import FastPath.Proofs.Deafness
import FastPath.Proofs.Rests

/-!
# Controllers that differ in their logs

Two controllers `Agree` under a view of the journal if they are the same but for platforms that
agree under it. Every operation answers both alike and keeps them in agreement (`Agree.run`):
nothing that a controller does, and no answer that it gives, depends on what has been logged.
-/

namespace FastPath

open Std

/-- What is written down on both platforms looks the same. -/
theorem Platform.Agree.write {v : View} {p q : Platform} (h : p.Agree v q) {es es' : List Entry}
    (hes : es'.filterMap v = es.filterMap v) : (p.write es).Agree v (q.write es') := by
  refine ⟨h.discreet, h.refuses, h.listing, h.stores, ?_⟩
  rw [Platform.write, Platform.write, List.filterMap_append, List.filterMap_append, hes, h.seen]

namespace Controller

variable {v : View} {c₁ c₂ c₃ : Controller}

/-- The controllers differ in the journals of their platforms alone, and the same is seen of
these. -/
def Agree (v : View) (c₁ c₂ : Controller) : Prop :=
  ∃ p, c₂ = { c₁ with platform := p } ∧ c₁.platform.Agree v p

/-- Controllers that agree, after a step with the same result. -/
def AgreeOn (v : View) (x y : α × Controller) : Prop :=
  y.1 = x.1 ∧ x.2.Agree v y.2

theorem AgreeOn.map {x y : α × Controller} (h : AgreeOn v x y) (f : α → β) :
    AgreeOn v (x.map f id) (y.map f id) :=
  ⟨congrArg f h.1, h.2⟩

theorem Agree.refl {c : Controller} (h : c.platform.Discreet v) : c.Agree v c :=
  ⟨c.platform, rfl, .refl h⟩

theorem Agree.symm (h : c₁.Agree v c₂) : c₂.Agree v c₁ := by
  obtain ⟨p, rfl, h⟩ := h
  exact ⟨c₁.platform, rfl, h.symm⟩

theorem Agree.trans (h : c₁.Agree v c₂) (h' : c₂.Agree v c₃) : c₁.Agree v c₃ := by
  obtain ⟨p, rfl, h⟩ := h
  obtain ⟨q, rfl, h'⟩ := h'
  exact ⟨q, rfl, h.trans h'⟩

theorem Agree.discreet (h : c₁.Agree v c₂) : c₁.platform.Discreet v := by
  obtain ⟨p, -, h⟩ := h
  exact h.discreet

theorem Agree.backend (h : c₁.Agree v c₂) : c₂.backend = c₁.backend := by
  obtain ⟨p, rfl, -⟩ := h
  rfl

theorem Agree.registry (h : c₁.Agree v c₂) : c₂.registry = c₁.registry := by
  obtain ⟨p, rfl, -⟩ := h
  rfl

theorem Agree.rulesFor (h : c₁.Agree v c₂) (d : DownstreamId) : c₂.rulesFor d = c₁.rulesFor d :=
  congrArg (·.rulesFor d) h.registry

theorem Agree.upstreams (h : c₁.Agree v c₂) : c₂.upstreams = c₁.upstreams := by
  obtain ⟨p, rfl, -⟩ := h
  rfl

theorem Agree.polling (h : c₁.Agree v c₂) : c₂.polling = c₁.polling := by
  obtain ⟨p, rfl, -⟩ := h
  rfl

/-- What is done for each element of a list keeps agreement if it does so each time. -/
theorem Agree.foldl {f : Controller → α → Controller}
    (hf : ∀ {c₁ c₂} a, Agree v c₁ c₂ → Agree v (f c₁ a) (f c₂ a)) (l : List α) (h : c₁.Agree v c₂) :
    Agree v (l.foldl f c₁) (l.foldl f c₂) := by
  induction l generalizing c₁ c₂ with
  | nil => exact h
  | cons a l ih => exact ih (hf a h)

/-- A change that leaves the platform alone is the same for both. -/
theorem Agree.change (h : c₁.Agree v c₂) {f : Controller → Controller}
    (hf : ∀ c p, f { c with platform := p } = { f c with platform := p })
    (hp : ∀ c, (f c).platform = c.platform) : (f c₁).Agree v (f c₂) := by
  obtain ⟨p, rfl, h⟩ := h
  exact ⟨p, hf c₁ p, by rwa [hp]⟩

theorem Agree.note (h : c₁.Agree v c₂) (n : Notice) : (c₁.note n).Agree v (c₂.note n) := by
  obtain ⟨p, rfl, h⟩ := h
  exact ⟨_, rfl, h.push _⟩

theorem Agree.announce (h : c₁.Agree v c₂) (call : Call) :
    (c₁.announce call).Agree v (c₂.announce call) := by
  obtain ⟨p, rfl, h⟩ := h
  exact ⟨_, rfl, h.push _⟩

/-- A deaf step, seen on both. -/
theorem Agree.perform (h : c₁.Agree v c₂) {a : Act α} (ha : a.IsDeaf) :
    ∃ r c₁' c₂', c₁.perform a = (r, c₁') ∧ c₂.perform a = (r, c₂') ∧ c₁'.Agree v c₂' := by
  obtain ⟨p, rfl, h⟩ := h
  obtain ⟨r, p₁, p₂, h₁, h₂, hplatforms⟩ := ha.both h
  refine ⟨r, { c₁ with platform := p₁ }, { c₁ with platform := p₂ }, ?_, ?_, p₂, rfl, hplatforms⟩
  · rw [Controller.perform, h₁]
  · rw [Controller.perform, h₂]

theorem Agree.attempt (h : c₁.Agree v c₂) {a : Act Unit} (ha : a.IsDeaf)
    (failed : Failure → Notice) : (c₁.attempt a failed).Agree v (c₂.attempt a failed) := by
  obtain ⟨r, c₁', c₂', h₁, h₂, hnext⟩ := h.perform ha
  rw [Controller.attempt, Controller.attempt, h₁, h₂]
  cases r with
  | ok => exact hnext
  | error f => exact hnext.note _

/-! ## Rules -/

theorem Agree.acquire (h : c₁.Agree v c₂) (b : Backend) (u : IfIndex) :
    (c₁.acquire b u).Agree v (c₂.acquire b u) := by
  have hcounted := h.change (f := fun c => { c with upstreams := c.upstreams.acquire u })
    (fun _ _ => rfl) fun _ => rfl
  obtain ⟨p, rfl, h⟩ := h
  unfold Controller.acquire
  dsimp only
  split
  · exact hcounted.attempt (b.isDeaf_setQuota _ _ _) _
  · exact hcounted

theorem Agree.install (h : c₁.Agree v c₂) (b : Backend) (d : DownstreamId) (rule : Rule) :
    AgreeOn v (c₁.install b d rule) (c₂.install b d rule) := by
  obtain ⟨r, c₁', c₂', h₁, h₂, hnext⟩ := h.perform (b.isDeaf_addRule rule)
  have hadded := ((hnext.change (f := fun c => { c with registry := c.registry.push d rule })
    (fun _ _ => rfl) fun _ => rfl).note (.ruleAdded rule d)).acquire b rule.upstream
  have hduplicate := h.note (.duplicateRule rule.neighbor d)
  unfold Controller.install
  rw [h₁, h₂]
  obtain ⟨p, rfl, -⟩ := h
  dsimp only
  split
  · exact ⟨rfl, hduplicate⟩
  · cases r with
    | error f => exact ⟨rfl, hnext.note _⟩
    | ok =>
      obtain ⟨q, rfl, -⟩ := hnext
      dsimp only
      split
      · exact ⟨rfl, hadded.attempt (b.isDeaf_startForwarding _ _) _⟩
      · exact ⟨rfl, hadded⟩

theorem Agree.countDown (h : c₁.Agree v c₂) (u : IfIndex) :
    (c₁.countDown u).Agree v (c₂.countDown u) := by
  have hnote := h.note (.countAlreadyZero u)
  have hcounted := h.change (f := fun c => { c with upstreams := c.upstreams.release u })
    (fun _ _ => rfl) fun _ => rfl
  obtain ⟨p, rfl, h⟩ := h
  unfold Controller.countDown
  dsimp only
  split
  · exact hnote
  · exact hcounted

theorem Agree.release (h : c₁.Agree v c₂) (b : Backend) (u : IfIndex) :
    (c₁.release b u).Agree v (c₂.release b u) := by
  have hcounted := h.countDown u
  obtain ⟨r, c₁', c₂', h₁, h₂, hnext⟩ := hcounted.perform (b.isDeaf_readAndClear u)
  unfold Controller.release
  dsimp only
  rw [h₁, h₂]
  obtain ⟨p, rfl, -⟩ := h
  dsimp only
  split
  · cases r with
    | ok last =>
      exact hnext.change (f := fun c => { c with upstreams := c.upstreams.foldFinal last })
        (fun _ _ => rfl) fun _ => rfl
    | error f => exact hnext.note _
  · exact hcounted

/-- The binding of a downstream interface goes with its last rule. -/
theorem Agree.unbind (h : c₁.Agree v c₂) (b : Backend) (rule : Rule) :
    Agree v
      (if c₁.registry.rulesOn rule.downstream = 0 then
        c₁.attempt (b.stopForwarding rule.downstream rule.upstream)
          (.bindingNotStopped rule.downstream rule.upstream)
      else c₁)
      (if c₂.registry.rulesOn rule.downstream = 0 then
        c₂.attempt (b.stopForwarding rule.downstream rule.upstream)
          (.bindingNotStopped rule.downstream rule.upstream)
      else c₂) := by
  rw [h.registry]
  split
  · exact h.attempt (b.isDeaf_stopForwarding _ _) _
  · exact h

theorem Agree.uninstall (h : c₁.Agree v c₂) (b : Backend) (d : DownstreamId) (neighbor : Ipv6) :
    AgreeOn v (c₁.uninstall b d neighbor) (c₂.uninstall b d neighbor) := by
  have hnone := h.note (.noSuchRule neighbor d)
  have hunknown := h.note (.noRules d)
  have hregistry : c₂.registry = c₁.registry := h.registry
  unfold Controller.uninstall
  rw [hregistry]
  split
  · split
    · exact ⟨rfl, hnone⟩
    · next rule hfind =>
      obtain ⟨r, c₁', c₂', h₁, h₂, hnext⟩ := h.perform (b.isDeaf_removeRule rule)
      rw [h₁, h₂]
      cases r with
      | error f => exact ⟨rfl, hnext.note _⟩
      | ok =>
        have hgone := (hnext.change
          (f := fun c => { c with registry := c.registry.erase d neighbor })
          (fun _ _ => rfl) fun _ => rfl).note (.ruleRemoved rule d)
        have hunbound := hgone.unbind b rule
        exact ⟨rfl, hunbound.release b _⟩
  · exact ⟨rfl, hunknown⟩

theorem Agree.uninstallEach (h : c₁.Agree v c₂) (b : Backend) (d : DownstreamId)
    (rules : List Rule) :
    AgreeOn v (uninstallEach b d rules c₁) (uninstallEach b d rules c₂) := by
  induction rules generalizing c₁ c₂ with
  | nil => exact ⟨rfl, h⟩
  | cons rule rules ih =>
    obtain ⟨hgone, hnext⟩ := h.uninstall b d rule.neighbor
    obtain ⟨hothers, hlast⟩ := ih hnext
    refine ⟨?_, hlast⟩
    simp only [Controller.uninstallEach, hgone, hothers]

theorem Agree.rebind (h : c₁.Agree v c₂) (b : Backend) (d : DownstreamId) (u : IfIndex) :
    (c₁.rebind b d u).Agree v (c₂.rebind b d u) := by
  unfold Controller.rebind
  rw [h.rulesFor]
  split
  · exact h.note _
  · obtain ⟨hgone, hnext⟩ := h.uninstallEach b d (c₁.rulesFor d)
    dsimp only
    rw [hgone]
    exact hnext.foldl (fun rule h => (h.install b d (rule.onUpstream u)).2) _

theorem Agree.flush (h : c₁.Agree v c₂) (b : Backend) (d : DownstreamId) :
    (c₁.flush b d).Agree v (c₂.flush b d) := by
  obtain ⟨-, hnext⟩ := h.uninstallEach b d (c₁.rulesFor d)
  unfold Controller.flush
  dsimp only
  rw [h.rulesFor, hnext.rulesFor]
  split
  · exact hnext.change (f := fun c => { c with registry := c.registry.forget d }) (fun _ _ => rfl)
      fun _ => rfl
  · exact hnext.note _

/-! ## Limits -/

theorem Agree.applyLimit (h : c₁.Agree v c₂) (b : Backend) (i : IfIndex) (q : Quota) :
    (c₁.applyLimit b i q).Agree v (c₂.applyLimit b i q) := by
  have hset := h.change
    (f := fun c => { c with upstreams := c.upstreams.modify i fun u => { u with quota := q } })
    (fun _ _ => rfl) fun _ => rfl
  obtain ⟨p, rfl, -⟩ := h
  unfold Controller.applyLimit
  dsimp only
  split
  · exact hset.note _
  · exact hset.attempt (b.isDeaf_setQuota _ _ _) _

theorem Agree.limit (h : c₁.Agree v c₂) (b : Backend) (iface : String) (q : Quota) :
    AgreeOn v (c₁.limit b iface q) (c₂.limit b iface q) := by
  have hfind : c₂.upstreams.findByName iface = c₁.upstreams.findByName iface := by
    rw [h.upstreams]
  unfold Controller.limit
  rw [hfind]
  split
  · exact ⟨rfl, h⟩
  · split
    · exact ⟨rfl, h.applyLimit b _ q⟩
    · exact ⟨rfl, (h.change
        (f := fun c => { c with pendingLimits := c.pendingLimits.insert iface q })
        (fun _ _ => rfl) fun _ => rfl).note _⟩

theorem Agree.setName (h : c₁.Agree v c₂) (i : IfIndex) (name : String) :
    Agree v { c₁ with upstreams := c₁.upstreams.setName i name }
      { c₂ with upstreams := c₂.upstreams.setName i name } :=
  h.change (f := fun c => { c with upstreams := c.upstreams.setName i name }) (fun _ _ => rfl)
    fun _ => rfl

theorem Agree.rename (h : c₁.Agree v c₂) (i : IfIndex) (name : String) :
    AgreeOn v (c₁.rename i name) (c₂.rename i name) := by
  have hname : c₂.upstreams.nameOf i = c₁.upstreams.nameOf i := by rw [h.upstreams]
  have hnamed := h.setName i name
  unfold Controller.rename
  rw [hname]
  split
  · split
    · exact ⟨rfl, h⟩
    · exact ⟨rfl, hnamed.note _⟩
  · exact ⟨rfl, hnamed⟩

theorem Agree.resolveLimit (h : c₁.Agree v c₂) (b : Backend) (i : IfIndex) (name : String) :
    (c₁.resolveLimit b i name).Agree v (c₂.resolveLimit b i name) := by
  have hwaiting : c₂.pendingLimits[name]? = c₁.pendingLimits[name]? := by
    obtain ⟨p, rfl, -⟩ := h
    rfl
  have hresolved := h.change
    (f := fun c => { c with pendingLimits := c.pendingLimits.erase name }) (fun _ _ => rfl)
    fun _ => rfl
  unfold Controller.resolveLimit
  rw [hwaiting]
  split
  · exact (hresolved.note _).applyLimit b i _
  · exact h

theorem Agree.nameUpstream (h : c₁.Agree v c₂) (b : Backend) (i : IfIndex) (name : String) :
    (c₁.nameUpstream b i name).Agree v (c₂.nameUpstream b i name) := by
  obtain ⟨hnew, hnext⟩ := h.rename i name
  unfold Controller.nameUpstream
  split
  · exact h.note _
  · rcases hrename : c₁.rename i name with ⟨_ | _, c₁'⟩ <;>
      rcases hrename' : c₂.rename i name with ⟨_ | _, c₂'⟩ <;>
      rw [hrename, hrename'] at hnew hnext
    · exact hnext
    · cases hnew
    · cases hnew
    · exact (hnext.note _).resolveLimit b i name

/-! ## Statistics -/

/-- A check of the alert goes by the upstreams, and tells the same. -/
theorem Agree.checkAlert (h : c₁.Agree v c₂) : c₁.checkAlert.Agree v c₂.checkAlert := by
  obtain ⟨p, rfl, h⟩ := h
  rw [checkAlert_eq, checkAlert_eq]
  exact ⟨_, rfl, h.write rfl⟩

theorem Agree.poll (h : c₁.Agree v c₂) (b : Backend) : (c₁.poll b).Agree v (c₂.poll b) := by
  obtain ⟨r, c₁', c₂', h₁, h₂, hnext⟩ := h.perform b.isDeaf_readAll
  unfold Controller.poll
  rw [h₁, h₂]
  cases r with
  | ok readings =>
    exact (hnext.change
      (f := fun c => { c with upstreams := readings.foldl UpstreamTable.recordReading c.upstreams })
      (fun _ _ => rfl) fun _ => rfl).checkAlert
  | error f => exact (hnext.note _).checkAlert

theorem Agree.publish (h : c₁.Agree v c₂) : c₁.publish.Agree v c₂.publish := by
  have hsettled := h.change (f := fun c => { c with upstreams := c.upstreams.settle })
    (fun _ _ => rfl) fun _ => rfl
  obtain ⟨p, rfl, -⟩ := h
  unfold Controller.publish
  dsimp only
  split
  · exact hsettled.note _
  · exact hsettled.announce _

theorem Agree.armAlert (h : c₁.Agree v c₂) (q : Quota) :
    AgreeOn v (c₁.armAlert q) (c₂.armAlert q) := by
  unfold Controller.armAlert
  split
  · exact ⟨rfl, h⟩
  · exact ⟨rfl, ((h.change (f := fun c => { c with upstreams := c.upstreams.setAlert q })
      (fun _ _ => rfl) fun _ => rfl).note _).checkAlert⟩

theorem Agree.beginPolling (h : c₁.Agree v c₂) : AgreeOn v c₁.beginPolling c₂.beginPolling := by
  have hon := h.change (f := fun c => { c with polling :=
    { c.polling with on := true, generation := c.polling.generation + 1 } })
    (fun _ _ => rfl) fun _ => rfl
  obtain ⟨p, rfl, -⟩ := h
  exact ⟨rfl, hon.note _⟩

theorem Agree.endPolling (h : c₁.Agree v c₂) : c₁.endPolling.Agree v c₂.endPolling := by
  have hlogged : Agree v (if c₁.polling.on then c₁.note .pollingStopped else c₁)
      (if c₂.polling.on then c₂.note .pollingStopped else c₂) := by
    rw [h.polling]
    split
    · exact h.note _
    · exact h
  exact hlogged.change (f := fun c => { c with polling :=
    { c.polling with on := false, generation := c.polling.generation + 1 } })
    (fun _ _ => rfl) fun _ => rfl

/-! ## Operations -/

theorem Agree.withBackend (h : c₁.Agree v c₂) {f : Backend → Controller → Controller}
    (hf : ∀ {c₁ c₂} b, Agree v c₁ c₂ → Agree v (f b c₁) (f b c₂)) :
    (c₁.withBackend f).Agree v (c₂.withBackend f) := by
  unfold Controller.withBackend
  rw [h.backend]
  split
  · exact hf _ h
  · exact h

theorem Agree.addRule (h : c₁.Agree v c₂) (d : DownstreamId) (rule : Rule) :
    AgreeOn v (c₁.addRule d rule) (c₂.addRule d rule) := by
  unfold Controller.addRule
  rw [h.backend]
  split
  · exact h.install _ d rule
  · exact ⟨rfl, h⟩

theorem Agree.removeRule (h : c₁.Agree v c₂) (d : DownstreamId) (rule : Rule) :
    AgreeOn v (c₁.removeRule d rule) (c₂.removeRule d rule) := by
  unfold Controller.removeRule
  rw [h.backend]
  split
  · exact h.uninstall _ d _
  · exact ⟨rfl, h⟩

theorem Agree.updateRules (h : c₁.Agree v c₂) (d : DownstreamId) (u : IfIndex) :
    (c₁.updateRules d u).Agree v (c₂.updateRules d u) :=
  h.withBackend fun b h => h.rebind b d u

theorem Agree.clearRules (h : c₁.Agree v c₂) (d : DownstreamId) :
    (c₁.clearRules d).Agree v (c₂.clearRules d) :=
  h.withBackend fun b h => h.flush b d

theorem Agree.addUpstreamName (h : c₁.Agree v c₂) (i : IfIndex) (name : String) :
    (c₁.addUpstreamName i name).Agree v (c₂.addUpstreamName i name) :=
  h.withBackend fun b h => h.nameUpstream b i name

theorem Agree.upstreamChanged (h : c₁.Agree v c₂) (d : DownstreamId) (u : Option UpstreamInfo) :
    (c₁.upstreamChanged d u).Agree v (c₂.upstreamChanged d u) := by
  cases u with
  | none => exact h.clearRules d
  | some info => exact (h.addUpstreamName _ _).updateRules d _

theorem Agree.setLimit (h : c₁.Agree v c₂) (iface : String) (q : Quota) :
    AgreeOn v (c₁.setLimit iface q) (c₂.setLimit iface q) := by
  unfold Controller.setLimit
  rw [h.backend]
  split
  · exact h.limit _ iface q
  · exact ⟨rfl, h⟩

theorem Agree.setAlert (h : c₁.Agree v c₂) (q : Quota) :
    AgreeOn v (c₁.setAlert q) (c₂.setAlert q) := by
  unfold Controller.setAlert Controller.enabled
  rw [h.backend]
  split
  · exact h.armAlert q
  · exact ⟨rfl, h⟩

theorem Agree.startPolling (h : c₁.Agree v c₂) : AgreeOn v c₁.startPolling c₂.startPolling := by
  obtain ⟨hms, hnext⟩ := h.beginPolling
  unfold Controller.startPolling Controller.enabled
  rw [h.backend]
  split
  · exact ⟨congrArg some hms, hnext⟩
  · exact ⟨rfl, h⟩

theorem Agree.setPollInterval (h : c₁.Agree v c₂) (ms : UInt64) :
    (c₁.setPollInterval ms).Agree v (c₂.setPollInterval ms) :=
  h.change (fun _ _ => rfl) fun _ => rfl

theorem Agree.changeAttachments (h : c₁.Agree v c₂)
    {f : Attachments → Platform → Attachments × Platform}
    (hf : ∀ {p q : Platform} (a : Attachments), p.Agree v q → Platform.AgreeOn v (f a p) (f a q)) :
    (c₁.changeAttachments f).Agree v (c₂.changeAttachments f) := by
  refine h.withBackend fun b h => ?_
  obtain ⟨p, rfl, h⟩ := h
  obtain ⟨hsame, hplatforms⟩ := hf _ h
  refine ⟨_, ?_, hplatforms⟩
  dsimp only
  rw [hsame]

theorem Agree.changeMonitoring (h : c₁.Agree v c₂)
    {f : Monitoring → Platform → Monitoring × Platform}
    (hf : ∀ {p q : Platform} (m : Monitoring), p.Agree v q → Platform.AgreeOn v (f m p) (f m q)) :
    (c₁.changeMonitoring f).Agree v (c₂.changeMonitoring f) := by
  refine h.withBackend fun b h => ?_
  obtain ⟨p, rfl, h⟩ := h
  obtain ⟨hsame, hplatforms⟩ := hf _ h
  refine ⟨_, ?_, hplatforms⟩
  dsimp only
  rw [hsame]

theorem Agree.pushStats (h : c₁.Agree v c₂) : c₁.pushStats.Agree v c₂.pushStats :=
  h.withBackend fun _ h => h.publish

theorem Agree.shutDown (h : c₁.Agree v c₂) : c₁.shutDown.Agree v c₂.shutDown := by
  refine h.endPolling.withBackend fun {c c'} _ h => ?_
  have hcleared := h.foldl (f := fun c d => c.clearRules d) (fun d h => h.clearRules d)
    c.registry.downstreams
  have hdetached := hcleared.pushStats.changeAttachments fun a h => Attachments.agree_detachAll h a
  have hstopped := hdetached.changeMonitoring fun m h => Monitoring.agree_removeAll h m
  dsimp only
  rw [h.registry]
  exact hstopped.note .shutDown

/-- Both are described alike. -/
theorem Agree.dump (h : c₁.Agree v c₂) : c₂.dump = c₁.dump := by
  obtain ⟨p, rfl, h⟩ := h
  show c₁.dumpBy p.listing = c₁.dumpBy c₁.platform.listing
  rw [h.listing]

/-- Every operation is answered alike by both and keeps them in agreement. -/
theorem Agree.run (h : c₁.Agree v c₂) (op : Operation) : AgreeOn v (c₁.run op) (c₂.run op) := by
  cases op with
  | rulesFor d => exact ⟨by rw [Controller.run, Controller.run, h.rulesFor], h⟩
  | pollInterval => exact ⟨by rw [Controller.run, Controller.run, h.polling], h⟩
  | tick => exact ⟨rfl, h.withBackend fun b h => h.poll b⟩
  | shutDown => exact ⟨rfl, h.shutDown⟩
  | event e =>
    cases e with
    | upstreamName i name => exact ⟨rfl, h.addUpstreamName i name⟩
    | addRule d r => exact (h.addRule d r).map _
    | removeRule d r => exact (h.removeRule d r).map _
    | updateRules d u => exact ⟨rfl, h.updateRules d u⟩
    | clearRules d => exact ⟨rfl, h.clearRules d⟩
    | upstreamChanged d u => exact ⟨rfl, h.upstreamChanged d u⟩
    | setLimit iface q => exact (h.setLimit iface q).map _
    | setAlert q => exact (h.setAlert q).map _
    | pushStats => exact ⟨rfl, h.pushStats⟩
    | startPolling => exact h.startPolling.map _
    | stopPolling => exact ⟨rfl, h.endPolling⟩
    | setPollInterval ms => exact ⟨rfl, h.setPollInterval ms⟩
    | attach i e =>
      exact ⟨rfl, h.changeAttachments fun a h => Attachments.agree_attach h ⟨i, e⟩ a⟩
    | detach i e =>
      exact ⟨rfl, h.changeAttachments fun a h => Attachments.agree_detach h ⟨i, e⟩ a⟩
    | addDownstream d => exact ⟨rfl, h.changeMonitoring fun m h => Monitoring.agree_add h d m⟩
    | removeDownstream d =>
      exact ⟨rfl, h.changeMonitoring fun m h => Monitoring.agree_remove h d m⟩
    | dump => exact ⟨congrArg (Except.ok ∘ Reply.text) h.dump, h⟩

end Controller

end FastPath
