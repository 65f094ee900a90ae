import FastPath.Proofs.Correspondence

/-!
# Twins

Two controllers are `Twins` if they are the same but for their backends, one of them on the kernel
tables and the other one with the daemon, with stores that match and platforms that refuse nothing.
Each change of a controller keeps twins twins and comes to the same with both. What looks neither at
the backend nor at the stores does so by that alone; a rule, a limit and a poll have to be followed
into the stores.
-/

namespace FastPath

open Std

namespace Controller

open Platform

variable {c c₁ c₂ : Controller} {p : Platform}

/-- The platform of a daemon stands beside a controller on the kernel tables: its stores match, and
others are told the same. What the daemon has no counters for has not been read. -/
structure Beside (c : Controller) (p : Platform) : Prop where
  backend : c.backend = some .tables
  platforms : c.platform.Paired p
  counted : Counted c
  mirrors : Mirrors .tables c
  stores : c.platform.stores.Match p.stores
  unread : ∀ i, i ∉ p.daemon.stats → (c.upstreams.account i).lastRead = .zero

/-- The second controller is the first one with the daemon in place of the kernel tables. -/
def Twins (c₁ c₂ : Controller) : Prop :=
  ∃ p, c₂ = c₁.on .daemon p ∧ Beside c₁ p

/-- Twins with the same answer. -/
def Alike (x₁ x₂ : α × Controller) : Prop :=
  x₂.1 = x₁.1 ∧ Twins x₁.2 x₂.2

/-! ## What looks neither at the backend nor at the stores -/

/-- A controller on its own platform, with its own backend. -/
theorem on_self {b : Backend} (h : c.backend = some b) : c.on b c.platform = c := by
  unfold on
  rw [← h]

/-- Steady changes that let rules and readings stay keep twins. -/
theorem Twins.steady (h : Twins c₁ c₂) {f : Controller → Controller} (hf : Steady f c₁)
    (hstays : Stays c₁ (f c₁)) (hread : ∀ i,
      ((f c₁).upstreams.account i).lastRead = (c₁.upstreams.account i).lastRead) :
    Twins (f c₁) (f c₂) := by
  obtain ⟨p, rfl, h⟩ := h
  obtain ⟨c', es, hf⟩ := hf
  -- One step, seen from the kernel tables and from the daemon.
  have htables : f c₁ = c'.on .tables (c₁.platform.write es) := by
    rw [← hf .tables c₁.platform h.platforms.left, on_self h.backend]
  have hdaemon : f (c₁.on .daemon p) = c'.on .daemon (p.write es) :=
    hf .daemon p h.platforms.right
  refine ⟨p.write es, ?_, ?_⟩
  · rw [htables, hdaemon]
    rfl
  · exact {
      backend := by rw [htables]; rfl
      platforms := by rw [htables]; exact h.platforms.write es
      counted := h.counted.stay hstays
      mirrors := h.mirrors.stay hstays
      stores := by rw [hstays.stores]; exact h.stores
      unread := fun i hi => (hread i).trans (h.unread i hi) }

/-- Idle changes that are steady keep twins. -/
theorem Twins.idle (h : Twins c₁ c₂) {f : Controller → Controller} (hf : Steady f c₁)
    (hidle : Idle c₁ (f c₁)) : Twins (f c₁) (f c₂) :=
  h.steady hf hidle.stays fun i => by rw [hidle.account]

/-- A minor notice keeps twins. -/
theorem Twins.note (h : Twins c₁ c₂) {n : Notice} (hn : n.isMinor) :
    Twins (c₁.note n) (c₂.note n) :=
  h.idle (steady_note n c₁) (idle_note c₁ hn)

/-- A publication keeps twins. -/
theorem Twins.publish (h : Twins c₁ c₂) : Twins c₁.publish c₂.publish := by
  refine h.steady (steady_publish c₁) (stays_publish c₁) fun i => ?_
  obtain ⟨p, hpublish, -⟩ := publish_cases c₁
  rw [hpublish, UpstreamTable.account_settle]
  split <;> rfl

/-! ## Rules -/

/-- A chore on the kernel tables keeps counts right and stores mirrored. -/
theorem Beside.chore (h : Beside c p) {c' : Controller} (hchore : Chore .tables c c') :
    Counted c' ∧ Mirrors .tables c' := by
  have hstep : Step .tables (fun _ _ => True) c c' := .chore hchore
  exact hstep.mirrors nofun h.counted h.mirrors

/-- Stores go on matching when a rule is added. -/
theorem Beside.storesWith (h : Beside c p) (rule : Rule) :
    (c.storesWith .tables rule).Match ((c.on .daemon p).storesWith .daemon rule) := by
  have hinstall := h.stores.install rule
  unfold Controller.storesWith Controller.on
  dsimp only
  split <;> split
  · exact (hinstall.grant ..).bind ..
  · exact hinstall.bind ..
  · exact hinstall.grant ..
  · exact hinstall

/-- Stores go on matching when a rule is removed. -/
theorem Beside.storesWithout (h : Beside c p) (rule : Rule) :
    (c.storesWithout .tables rule).Match ((c.on .daemon p).storesWithout .daemon rule) := by
  have huninstall := h.stores.uninstall rule
  unfold Controller.storesWithout Controller.on
  dsimp only
  split <;> split
  · exact (huninstall.unbind _).revoke _
  · exact huninstall.revoke _
  · exact huninstall.unbind _
  · exact huninstall

/-- The last rule of an upstream leaves the same reading with both. -/
theorem Beside.upstreamsWithout (h : Beside c p) (u : IfIndex) :
    (c.on .daemon p).upstreamsWithout .daemon u = c.upstreamsWithout .tables u := by
  have hreported : (c.on .daemon p).platform.stores.reportedAs .daemon u =
      c.platform.stores.reportedAs .tables u := h.stores.reportedAs_eq u
  have hcounted : (c.on .daemon p).platform.stores.counted .daemon u =
      c.platform.stores.counted .tables u := (h.stores.counted u).symm
  unfold Controller.upstreamsWithout
  rw [hreported, hcounted]
  rfl

/-- Twins have the same rules. -/
theorem Twins.registry (h : Twins c₁ c₂) : c₂.registry = c₁.registry := by
  obtain ⟨p, rfl, -⟩ := h
  rfl

theorem Twins.rulesFor (h : Twins c₁ c₂) (d : DownstreamId) : c₂.rulesFor d = c₁.rulesFor d :=
  congrArg (·.rulesFor d) h.registry

/-- A rule is added by both or by neither. -/
theorem Twins.install (h : Twins c₁ c₂) (d : DownstreamId) (rule : Rule) :
    Alike (c₁.install .tables d rule) (c₂.install .daemon d rule) := by
  rcases hfind : c₁.registry.find? d rule.neighbor with _ | old
  · obtain ⟨p, rfl, h⟩ := h
    have hsound := h.chore (.install c₁ d rule)
    obtain ⟨p₁, q₁, hp₁, hq₁, h₁⟩ := install_willing (b := .tables) h.platforms.left.willing hfind
      fun hb => h.mirrors.unbound hb
    obtain ⟨p₂, q₂, hp₂, hq₂, h₂⟩ := install_willing (b := .daemon) (c := c₁.on .daemon p)
      h.platforms.right.willing hfind nofun
    rw [h₁] at hsound ⊢
    rw [h₂]
    refine ⟨rfl, q₂, rfl, ?_⟩
    have hplatforms : q₁.Paired q₂ := ((h.platforms.works hp₁ hp₂).note _).works hq₁ hq₂
    have hstores : q₁.stores.Match q₂.stores := by
      rw [hq₁.stores, hq₂.stores]
      exact h.storesWith rule
    -- The daemon starts no counters, so what it has none for is what it had none for before.
    have hstats : q₂.daemon.stats = p.daemon.stats := by
      show q₂.stores.daemon.stats = _
      rw [hq₂.stores, daemonStats_storesWith]
      rfl
    refine ⟨h.backend, hplatforms, hsound.1, hsound.2, hstores, fun i hi => ?_⟩
    obtain ⟨n, haccount⟩ := c₁.upstreams.exists_account_acquire rule.upstream i
    dsimp only
    rw [haccount]
    exact h.unread i (hstats ▸ hi)
  · have hsome : (c₁.registry.find? d rule.neighbor).isSome := by rw [hfind]; rfl
    -- The downstream has the same rules with both, so both see the duplicate.
    rw [install_of_some hsome, install_of_some (h.registry ▸ hsome)]
    exact ⟨rfl, h.note rfl⟩

/-- A rule is removed by both or by neither. -/
theorem Twins.uninstall (h : Twins c₁ c₂) (d : DownstreamId) (n : Ipv6) :
    Alike (c₁.uninstall .tables d n) (c₂.uninstall .daemon d n) := by
  rcases hfind : c₁.registry.find? d n with _ | rule
  · rw [uninstall_of_none hfind, uninstall_of_none (h.registry ▸ hfind), h.registry]
    refine ⟨rfl, h.note ?_⟩
    split <;> rfl
  · obtain ⟨p, rfl, h⟩ := h
    have hused := h.counted.ruleCount_ne_zero_of_find? hfind
    have hsound := h.chore (.uninstall c₁ d n)
    obtain ⟨p₁, q₁, hp₁, hq₁, h₁⟩ := uninstall_willing (b := .tables) h.platforms.left.willing hfind
      fun _ => h.mirrors.hasCounters hused
    obtain ⟨p₂, q₂, hp₂, hq₂, h₂⟩ := uninstall_willing (b := .daemon) (c := c₁.on .daemon p)
      h.platforms.right.willing hfind fun _ => nofun
    rw [h₁] at hsound ⊢
    rw [h₂, h.upstreamsWithout]
    refine ⟨rfl, q₂, rfl, ?_⟩
    have hplatforms : q₁.Paired q₂ := ((h.platforms.works hp₁ hp₂).note _).works hq₁ hq₂
    have hstores : q₁.stores.Match q₂.stores := by
      rw [hq₁.stores, hq₂.stores]
      exact h.storesWithout rule
    refine ⟨h.backend, hplatforms, hsound.1, hsound.2, hstores, fun i hi => ?_⟩
    have hi : i ∉ q₂.stores.daemon.stats := hi
    rw [hq₂.stores, daemonStats_storesWithout] at hi
    dsimp only
    rw [lastRead_upstreamsWithout]
    -- What was dropped is not read any more, and the rest was not counted before.
    split
    · rfl
    · rename_i hkept
      refine h.unread i fun hmem => hi ?_
      split
      · rename_i hone
        exact ExtTreeMap.mem_erase.mpr
          ⟨mt Std.compare_eq_iff_eq.mp fun hu => hkept ⟨hone, hu⟩, hmem⟩
      · exact hmem

/-- Rules are removed one by one by both. -/
theorem Twins.uninstallEach (h : Twins c₁ c₂) (d : DownstreamId) (rules : List Rule) :
    Alike (uninstallEach .tables d rules c₁) (uninstallEach .daemon d rules c₂) := by
  induction rules generalizing c₁ c₂ with
  | nil => exact ⟨rfl, h⟩
  | cons rule rules ih =>
    obtain ⟨hgone, hnext⟩ := h.uninstall d rule.neighbor
    obtain ⟨hothers, hlast⟩ := ih hnext
    refine ⟨?_, hlast⟩
    simp only [Controller.uninstallEach, hgone, hothers]

/-- What is done for each element of a list keeps twins if it does so each time. -/
theorem Twins.foldl {f g : Controller → α → Controller}
    (hstep : ∀ {c₁ c₂} a, Twins c₁ c₂ → Twins (f c₁ a) (g c₂ a)) (l : List α)
    (h : Twins c₁ c₂) : Twins (l.foldl f c₁) (l.foldl g c₂) := by
  induction l generalizing c₁ c₂ with
  | nil => exact h
  | cons a l ih => exact ih (hstep a h)

/-- Rules are moved by both. -/
theorem Twins.rebind (h : Twins c₁ c₂) (d : DownstreamId) (u : IfIndex) :
    Twins (c₁.rebind .tables d u) (c₂.rebind .daemon d u) := by
  unfold Controller.rebind
  rw [h.rulesFor]
  split
  · exact h.note rfl
  · obtain ⟨hgone, hnext⟩ := h.uninstallEach d (c₁.rulesFor d)
    dsimp only
    rw [hgone]
    exact hnext.foldl (fun rule h => (h.install d (rule.onUpstream u)).2) _

/-- A downstream without rules is forgotten by both. -/
theorem Twins.forget (h : Twins c₁ c₂) {d : DownstreamId} (hnil : c₁.rulesFor d = []) :
    Twins { c₁ with registry := c₁.registry.forget d }
      { c₂ with registry := c₂.registry.forget d } := by
  obtain ⟨p, rfl, h⟩ := h
  obtain ⟨hcounted, hmirrors⟩ := h.chore (.forget c₁ d hnil)
  exact ⟨p, rfl, { h with counted := hcounted, mirrors := hmirrors }⟩

/-- The rules of a downstream are removed by both. -/
theorem Twins.flush (h : Twins c₁ c₂) (d : DownstreamId) :
    Twins (c₁.flush .tables d) (c₂.flush .daemon d) := by
  obtain ⟨-, hnext⟩ := h.uninstallEach d (c₁.rulesFor d)
  unfold Controller.flush
  dsimp only
  rw [h.rulesFor, hnext.rulesFor]
  split
  · rename_i hnil
    exact hnext.forget hnil
  · exact hnext.note rfl

/-! ## Limits -/

/-- A limit is applied by both. -/
theorem Twins.applyLimit (h : Twins c₁ c₂) (i : IfIndex) (q : Quota) :
    Twins (c₁.applyLimit .tables i q) (c₂.applyLimit .daemon i q) := by
  obtain ⟨p, rfl, h⟩ := h
  have hrests : Move .tables (fun _ _ => True) c₁ (c₁.applyLimit .tables i q) :=
    .rest (rests_applyLimit i q c₁)
  have hcounted : Counted (c₁.applyLimit .tables i q) := h.counted.move hrests
  have hmirrors : Mirrors .tables (c₁.applyLimit .tables i q) :=
    h.mirrors.deed nofun h.counted (h.mirrors.deed_applyLimit (.refl c₁) i q)
  obtain ⟨p₁, hp₁, h₁⟩ := applyLimit_willing (b := .tables) i q h.platforms.left.willing
    h.mirrors.hasCounters
  obtain ⟨p₂, hp₂, h₂⟩ := applyLimit_willing (b := .daemon) (c := c₁.on .daemon p) i q
    h.platforms.right.willing fun _ => nofun
  rw [h₁] at hcounted hmirrors ⊢
  rw [h₂]
  refine ⟨p₂, rfl, ?_⟩
  -- Both count the same rules, so both hand the limit on or neither does.
  have hstores : p₁.stores.Match p₂.stores := by
    rw [hp₁.stores, hp₂.stores]
    show Stores.Match (if _ then _ else _) (if c₁.upstreams.ruleCount i = 0 then _ else _)
    split
    · exact h.stores
    · exact h.stores.setLimit i q
  have hstats : p₂.daemon.stats = p.daemon.stats := by
    show p₂.stores.daemon.stats = _
    rw [hp₂.stores]
    split <;> rfl
  refine ⟨h.backend, h.platforms.works hp₁ hp₂, hcounted, hmirrors, hstores, fun j hj => ?_⟩
  dsimp only
  rw [UpstreamTable.account_modify_quota]
  exact h.unread j (hstats ▸ hj)

/-- Twins have the same upstreams. -/
theorem Twins.upstreams (h : Twins c₁ c₂) : c₂.upstreams = c₁.upstreams := by
  obtain ⟨p, rfl, -⟩ := h
  rfl

/-- A change of the limits that wait keeps twins. -/
theorem Twins.changePending (h : Twins c₁ c₂)
    (f : ExtTreeMap String Quota → ExtTreeMap String Quota) {n : Notice} (hn : n.isMinor) :
    Twins ({ c₁ with pendingLimits := f c₁.pendingLimits }.note n)
      ({ c₂ with pendingLimits := f c₂.pendingLimits }.note n) := by
  have hsteady : Steady (fun c => { c with pendingLimits := f c.pendingLimits }.note n) c₁ :=
    steady_of_eq { c₁ with pendingLimits := f c₁.pendingLimits } [.notice n] fun _ _ => rfl
  exact h.steady hsteady
    ⟨rfl, fun _ => rfl, fun _ => rfl, rfl, follows_push _ (Entry.isRuleless_of_isMinor hn) rfl⟩
    fun _ => rfl

/-- A limit is accepted by both or by neither, and waits with both or with neither. -/
theorem Twins.limit (h : Twins c₁ c₂) (iface : String) (q : Quota) :
    Alike (c₁.limit .tables iface q) (c₂.limit .daemon iface q) := by
  have hfind : c₂.upstreams.findByName iface = c₁.upstreams.findByName iface := by
    rw [h.upstreams]
  unfold Controller.limit
  rw [hfind]
  split
  · exact ⟨rfl, h⟩
  · split
    · exact ⟨rfl, h.applyLimit _ q⟩
    · exact ⟨rfl, h.changePending (·.insert iface q) rfl⟩

/-- An upstream is named by both. -/
theorem Twins.setName (h : Twins c₁ c₂) (i : IfIndex) (name : String) :
    Twins { c₁ with upstreams := c₁.upstreams.setName i name }
      { c₂ with upstreams := c₂.upstreams.setName i name } := by
  have hsteady : Steady (fun c => { c with upstreams := c.upstreams.setName i name }) c₁ :=
    steady_of_eq { c₁ with upstreams := c₁.upstreams.setName i name } [] fun _ _ => rfl
  refine h.steady hsteady (stays_setName c₁ i name) fun j => ?_
  dsimp only
  rw [UpstreamTable.account_setName]
  split
  · rename_i hij
    rw [hij]
  · rfl

/-- A name is new to both or to neither. -/
theorem Twins.rename (h : Twins c₁ c₂) (i : IfIndex) (name : String) :
    Alike (c₁.rename i name) (c₂.rename i name) := by
  have hname : c₂.upstreams.nameOf i = c₁.upstreams.nameOf i := by rw [h.upstreams]
  unfold Controller.rename
  rw [hname]
  split
  · split
    · exact ⟨rfl, h⟩
    · exact ⟨rfl, (h.setName i name).note rfl⟩
  · exact ⟨rfl, h.setName i name⟩

/-- A limit that waits for a name is applied by both. -/
theorem Twins.resolveLimit (h : Twins c₁ c₂) (i : IfIndex) (name : String) :
    Twins (c₁.resolveLimit .tables i name) (c₂.resolveLimit .daemon i name) := by
  have hwaiting : c₂.pendingLimits[name]? = c₁.pendingLimits[name]? := by
    obtain ⟨p, rfl, -⟩ := h
    rfl
  unfold Controller.resolveLimit
  rw [hwaiting]
  split
  · exact (h.changePending (·.erase name) rfl).applyLimit i _
  · exact h

/-- A name is told to both. -/
theorem Twins.nameUpstream (h : Twins c₁ c₂) (i : IfIndex) (name : String) :
    Twins (c₁.nameUpstream .tables i name) (c₂.nameUpstream .daemon i name) := by
  obtain ⟨hnew, hnext⟩ := h.rename i name
  unfold Controller.nameUpstream
  split
  · exact h.note rfl
  · rcases hrename : c₁.rename i name with ⟨_ | _, c₁'⟩ <;>
      rcases hrename' : c₂.rename i name with ⟨_ | _, c₂'⟩ <;>
      rw [hrename, hrename'] at hnew hnext
    · exact hnext
    · cases hnew
    · cases hnew
    · exact (hnext.note rfl).resolveLimit i name

/-! ## Readings -/

/-- Both read the same. -/
theorem Twins.poll (h : Twins c₁ c₂) : Twins (c₁.poll .tables) (c₂.poll .daemon) := by
  obtain ⟨p, rfl, h⟩ := h
  obtain ⟨p₁, hp₁, h₁⟩ := poll_willing (b := .tables) h.platforms.left.willing
  obtain ⟨p₂, hp₂, h₂⟩ := poll_willing (b := .daemon) (c := c₁.on .daemon p)
    h.platforms.right.willing
  -- The kernel has counters only for upstreams in use, and those are known.
  have hknown : ∀ i ∈ c₁.platform.stores.kernel.stats, i ∈ c₁.upstreams.records := by
    intro i hi
    obtain ⟨u, hu, -⟩ := exists_record_of_ruleCount ((h.mirrors.counters rfl i).mp hi)
    exact ExtTreeMap.mem_iff_isSome_getElem?.mpr (by rw [hu]; rfl)
  have hsame := h.stores.foldl_readings hknown h.unread
  have hstays := stays_read (c₁.platform.stores.readings .tables) hp₁
  have hread : Twins
      { c₁ with
        platform := p₁
        upstreams := (c₁.platform.stores.readings .tables).foldl UpstreamTable.recordReading
          c₁.upstreams }
      { c₁.on .daemon p with
        platform := p₂
        upstreams := (p.stores.readings .daemon).foldl UpstreamTable.recordReading
          c₁.upstreams } := by
    refine ⟨p₂, by rw [hsame]; rfl, ?_⟩
    have hstores : p₁.stores.Match p₂.stores := by
      rw [hp₁.stores, hp₂.stores]
      exact h.stores
    have hstats : p₂.daemon.stats = p.daemon.stats :=
      congrArg (fun x : Stores => x.daemon.stats) hp₂.stores
    refine ⟨h.backend, h.platforms.works hp₁ hp₂, h.counted.stay hstays, h.mirrors.stay hstays,
      hstores, fun i hi => ?_⟩
    rw [hstats] at hi
    -- What the daemon has no counters for is not among the readings.
    obtain ⟨hdistinct, -⟩ := Stores.readings_cases .daemon p.stores
    have hother := (c₁.upstreams.account_foldl_recordReading hdistinct).2 i
      (mt (Stores.mem_readings_iff p.daemon.stats id i).mp hi)
    dsimp only
    rw [← hsame, hother]
    exact h.unread i hi
  rw [h₁, h₂]
  exact hread.idle (steady_checkAlert _) (idle_checkAlert _)

end Controller

end FastPath
