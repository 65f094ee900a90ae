import FastPath.Controller.Requests
import FastPath.Proofs.Forwarding
import FastPath.Proofs.Rests
import FastPath.Proofs.Works

/-!
# What a controller makes of a willing platform

While no call fails, a change of rules or limits comes to the same as a function of the stores and
the tables of the controller. The lemmas here give that function for each change. They ask for what
makes a call fail on its own account: a binding that is there already, or counters that are missing.

All other changes are `Steady`. They look neither at the backend nor at the stores, so they come to
the same with any of them.
-/

namespace FastPath

open Std

namespace Controller

open Platform

variable {b : Backend} {c : Controller}

/-! ## Rules -/

/-- The stores once a rule has been added. Its upstream gets counters and a limit with its first
rule, and its interface is bound with its first rule. -/
def storesWith (b : Backend) (rule : Rule) (c : Controller) : Stores :=
  let x := c.platform.stores.install b rule
  let x := if c.upstreams.ruleCount rule.upstream = 0
    then x.grant b rule.upstream (c.upstreams.quota rule.upstream) else x
  if c.registry.rulesOn rule.downstream = 0 then x.bind b rule.downstream rule.upstream else x

/-- The stores once a rule has been removed. The last rule takes the binding of its interface, and
the counters and the limit of its upstream with it. -/
def storesWithout (b : Backend) (rule : Rule) (c : Controller) : Stores :=
  let x := c.platform.stores.uninstall b rule
  let x := if c.registry.rulesOn rule.downstream = 1 then x.unbind b rule.downstream else x
  if c.upstreams.ruleCount rule.upstream = 1 then x.revoke b rule.upstream else x

/-- The upstreams once a rule has been removed. The last rule leaves its final reading. -/
def upstreamsWithout (b : Backend) (u : IfIndex) (c : Controller) : UpstreamTable :=
  if c.upstreams.ruleCount u = 1 then
    (c.upstreams.release u).foldFinal
      ⟨c.platform.stores.reportedAs b u, c.platform.stores.counted b u⟩
  else c.upstreams.release u

/-- The stores between the rule that is removed and the upstream that counts it no more. -/
def storesUnbound (b : Backend) (rule : Rule) (c : Controller) : Stores :=
  let x := c.platform.stores.uninstall b rule
  if c.registry.rulesOn rule.downstream = 1 then x.unbind b rule.downstream else x

/-- A step works towards stores even if its failure is only noted, and it leaves the stores alone
where it is not taken. -/
theorem attempt_works (c : Controller) (taken : Prop) [Decidable taken] (a : Act Unit)
    (failed : Failure → Notice) {x : Stores} (hfailed : ∀ f, (failed f).isMinor)
    (ha : taken → ∀ {res q}, c.platform.perform a = (res, q) → c.platform.Works x q) :
    ∃ p, (if taken then c.attempt a failed else c) = { c with platform := p } ∧
      c.platform.Works (if taken then x else c.platform.stores) p := by
  split
  · rename_i htaken
    exact exists_attempt c a failed (ha htaken) fun f h => h.note (hfailed f)
  · exact ⟨c.platform, rfl, .refl _⟩

/-- One more rule is counted, and the first one comes with counters and a limit. -/
theorem acquire_willing (u : IfIndex) (hp : c.platform.Willing) :
    ∃ p, c.acquire b u = { c with upstreams := c.upstreams.acquire u, platform := p } ∧
      c.platform.Works (if c.upstreams.ruleCount u = 0
        then c.platform.stores.grant b u (c.upstreams.quota u) else c.platform.stores) p := by
  have hquota : ((c.upstreams.acquire u).findOrFresh u).quota = c.upstreams.quota u :=
    c.upstreams.quota_acquire u u
  unfold acquire
  dsimp only
  rw [hquota]
  exact attempt_works { c with upstreams := c.upstreams.acquire u } _ _ _ (fun _ => rfl)
    fun _ _ _ h => Backend.works_setFirstQuota hp h

/-- A rule for a neighbor that the downstream has none for is added. -/
theorem install_willing {d : DownstreamId} {rule : Rule} (hp : c.platform.Willing)
    (hfree : c.registry.find? d rule.neighbor = none)
    (hunbound : b = .tables → c.registry.rulesOn rule.downstream = 0 →
      rule.downstream ∉ c.platform.kernel.upstream6) :
    ∃ p q, c.platform.Works (c.platform.stores.install b rule) p ∧
      (p.note (.ruleAdded rule d)).Works (c.storesWith b rule) q ∧
      c.install b d rule = (true, { c with
        platform := q
        registry := c.registry.push d rule
        upstreams := c.upstreams.acquire rule.upstream }) := by
  obtain ⟨p, hadd, hs⟩ := Backend.addRule_willing b hp rule
  let added := c.added d rule p
  have hstores : added.platform.stores = c.platform.stores.install b rule := hs.stores
  have hadded : added.platform.Willing := hs.works.willing hp
  obtain ⟨q, hacquire, hq⟩ := acquire_willing (b := b) rule.upstream hadded
  rw [hstores] at hq
  -- Neither the rule nor its counters and its limit have to do with bindings.
  have hkeep : q.stores.kernel.upstream6 = c.platform.kernel.upstream6 := by
    rw [hq.stores]
    split
    · rw [Stores.upstream6_grant, Stores.upstream6_install]
      rfl
    · rw [Stores.upstream6_install]
      rfl
  let counted := { added with upstreams := c.upstreams.acquire rule.upstream, platform := q }
  obtain ⟨r, hbind, hr⟩ := attempt_works counted (c.registry.rulesOn rule.downstream = 0)
    (b.startForwarding rule.downstream rule.upstream)
    (.bindingNotStarted rule.downstream rule.upstream) (fun _ => rfl)
    fun hfirst _ _ h => Backend.works_startForwarding (hq.willing hadded)
      (fun hb => hkeep ▸ hunbound hb hfirst) h
  have hcounted : counted.platform.stores = if c.upstreams.ruleCount rule.upstream = 0
      then (c.platform.stores.install b rule).grant b rule.upstream
        (c.upstreams.quota rule.upstream)
      else c.platform.stores.install b rule := hq.stores
  rw [hcounted] at hr
  rw [install_of_ok hfree hadd, hacquire]
  exact ⟨p, r, hs.works, hq.trans hr, congrArg (Prod.mk true) hbind⟩

/-- One rule less is counted, and the last one takes counters and limit with it. -/
theorem release_willing (u : IfIndex) (hp : c.platform.Willing)
    (hcounters : c.upstreams.ruleCount u = 1 → c.platform.stores.HasCounters b u) :
    ∃ p, c.platform.Works (if c.upstreams.ruleCount u = 1
        then c.platform.stores.revoke b u else c.platform.stores) p ∧
      c.release b u = { c with upstreams := c.upstreamsWithout b u, platform := p } := by
  obtain ⟨p, hcount, hp'⟩ : ∃ p, c.countDown u = { c with
      upstreams := c.upstreams.release u, platform := p } ∧
        c.platform.Works c.platform.stores p :=
    exists_countDown u c (.refl _) (works_note _ rfl)
  unfold release upstreamsWithout
  simp only [hcount]
  split
  · rename_i hone
    have hthere : p.stores.HasCounters b u := hp'.stores ▸ hcounters hone
    obtain ⟨q, hread, hq⟩ := Backend.readAndClear_willing (hp'.willing hp) hthere
    rw [hp'.stores] at hread hq
    refine ⟨q, hp'.trans hq, ?_⟩
    simp only [perform, hread]
  · exact ⟨p, hp', rfl⟩

/-- Neither a rule nor a binding has to do with counters. -/
theorem counters_storesUnbound (b : Backend) (rule : Rule) (c : Controller) (u : IfIndex) :
    (c.storesUnbound b rule).counted b u = c.platform.stores.counted b u ∧
      (c.storesUnbound b rule).reportedAs b u = c.platform.stores.reportedAs b u ∧
      (c.platform.stores.HasCounters b u → (c.storesUnbound b rule).HasCounters b u) := by
  have hcounted : (c.storesUnbound b rule).counted b u = c.platform.stores.counted b u := by
    rw [← Stores.counted_uninstall rule u c.platform.stores]
    unfold storesUnbound
    dsimp only
    split
    · exact (Stores.same_unbind _ rule.downstream).counted u
    · rfl
  refine ⟨hcounted, ?_⟩
  unfold storesUnbound
  dsimp only
  cases b <;> split <;> exact ⟨rfl, id⟩

/-- A rule is removed. -/
theorem uninstall_willing {d : DownstreamId} {n : Ipv6} {rule : Rule} (hp : c.platform.Willing)
    (hfind : c.registry.find? d n = some rule)
    (hcounters : c.upstreams.ruleCount rule.upstream = 1 →
      c.platform.stores.HasCounters b rule.upstream) :
    ∃ p q, c.platform.Works (c.platform.stores.uninstall b rule) p ∧
      (p.note (.ruleRemoved rule d)).Works (c.storesWithout b rule) q ∧
      c.uninstall b d n = (true, { c with
        platform := q
        registry := c.registry.erase d n
        upstreams := c.upstreamsWithout b rule.upstream }) := by
  obtain ⟨p, hremove, hs⟩ := Backend.removeRule_willing b hp rule
  let removed := c.removed d n rule p
  have hstores : removed.platform.stores = c.platform.stores.uninstall b rule := hs.stores
  have hremoved : removed.platform.Willing := hs.works.willing hp
  -- The interface is left without rules if it had no other.
  have hlast : (c.registry.erase d n).rulesOn rule.downstream = 0 ↔
      c.registry.rulesOn rule.downstream = 1 := by
    have hcount := c.registry.rulesOn_erase hfind rule.downstream
    rw [if_pos rfl] at hcount
    omega
  obtain ⟨q, hunbind, hq⟩ := attempt_works removed
    ((c.registry.erase d n).rulesOn rule.downstream = 0)
    (b.stopForwarding rule.downstream rule.upstream)
    (.bindingNotStopped rule.downstream rule.upstream) (fun _ => rfl)
    fun _ _ _ h => Backend.works_stopForwarding hremoved h
  simp only [hstores, hlast] at hq
  let unbound := { removed with platform := q }
  have hunbound : unbound.platform.stores = c.storesUnbound b rule := hq.stores
  obtain ⟨hcounted, hreported, hkept⟩ := counters_storesUnbound b rule c rule.upstream
  obtain ⟨r, hr, hrelease⟩ := release_willing (b := b) (c := unbound) rule.upstream
    (hq.willing hremoved) fun hone => hunbound ▸ hkept (hcounters hone)
  have hupstreams : unbound.upstreamsWithout b rule.upstream =
      c.upstreamsWithout b rule.upstream := by
    unfold upstreamsWithout
    rw [hunbound, hcounted, hreported]
    rfl
  rw [hunbound] at hr
  rw [uninstall_of_ok hfind hremove, hunbind, hrelease, hupstreams]
  exact ⟨p, r, hs.works, hq.trans hr, rfl⟩

/-! ## What the stores have once a rule is added or removed -/

section

variable (c : Controller) (rule : Rule)

/-- The first rule of an upstream sets its limit. -/
theorem limits_storesWith (hb : b ≠ .rehearsal) :
    (c.storesWith b rule).limits b = if c.upstreams.ruleCount rule.upstream = 0
      then (c.platform.stores.limits b).insert rule.upstream (c.upstreams.quota rule.upstream)
      else c.platform.stores.limits b := by
  unfold storesWith
  dsimp only
  split <;> split <;>
    simp only [Stores.limits_bind, Stores.limits_grant _ _ _ hb, Stores.limits_install]

/-- The last rule of an upstream takes its limit along. -/
theorem limits_storesWithout (hb : b ≠ .rehearsal) :
    (c.storesWithout b rule).limits b = if c.upstreams.ruleCount rule.upstream = 1
      then (c.platform.stores.limits b).erase rule.upstream else c.platform.stores.limits b := by
  unfold storesWithout
  dsimp only
  split <;> split <;>
    simp only [Stores.limits_unbind, Stores.limits_revoke _ _ hb, Stores.limits_uninstall]

/-- The first rule of an upstream starts counters, unless they are there already. -/
theorem mem_stats_storesWith (i : IfIndex) :
    i ∈ (c.storesWith .tables rule).kernel.stats ↔
      i ∈ if c.upstreams.ruleCount rule.upstream = 0
        then c.platform.kernel.stats.insert rule.upstream .zero else c.platform.kernel.stats := by
  have hbind : (c.storesWith .tables rule).kernel.stats =
      (if c.upstreams.ruleCount rule.upstream = 0
      then (c.platform.stores.install .tables rule).grant .tables rule.upstream
        (c.upstreams.quota rule.upstream)
      else c.platform.stores.install .tables rule).kernel.stats := by
    unfold storesWith
    dsimp only
    split <;> rfl
  rw [hbind]
  split
  · exact Stores.mem_stats_grant ..
  · rfl

/-- The last rule of an upstream takes its counters along. -/
theorem stats_storesWithout :
    (c.storesWithout .tables rule).kernel.stats = if c.upstreams.ruleCount rule.upstream = 1
      then c.platform.kernel.stats.erase rule.upstream else c.platform.kernel.stats := by
  unfold storesWithout
  dsimp only
  split <;> split <;> rfl

/-- The first rule on an interface binds it. -/
theorem upstream6_storesWith :
    (c.storesWith .tables rule).kernel.upstream6 = if c.registry.rulesOn rule.downstream = 0
      then c.platform.kernel.upstream6.insert rule.downstream (.binding rule.upstream)
      else c.platform.kernel.upstream6 := by
  have hkeep : (if c.upstreams.ruleCount rule.upstream = 0
      then (c.platform.stores.install .tables rule).grant .tables rule.upstream
        (c.upstreams.quota rule.upstream)
      else c.platform.stores.install .tables rule).kernel.upstream6 =
        c.platform.kernel.upstream6 := by
    split
    · exact Stores.upstream6_grant ..
    · rfl
  rw [← hkeep]
  unfold storesWith
  dsimp only
  split <;> rfl

/-- The last rule on an interface takes its binding along. -/
theorem upstream6_storesWithout :
    (c.storesWithout .tables rule).kernel.upstream6 = if c.registry.rulesOn rule.downstream = 1
      then c.platform.kernel.upstream6.erase rule.downstream
      else c.platform.kernel.upstream6 := by
  unfold storesWithout
  dsimp only
  split <;> split <;> rfl

end

/-- A rule that is removed is counted no more, and the final reading is nothing to the counts. -/
theorem ruleCount_upstreamsWithout (u i : IfIndex) :
    (c.upstreamsWithout b u).ruleCount i =
      if u = i then c.upstreams.ruleCount u - 1 else c.upstreams.ruleCount i := by
  rw [← UpstreamTable.ruleCount_release]
  unfold upstreamsWithout
  split
  · rw [UpstreamTable.ruleCount_foldFinal]
  · rfl

theorem quota_upstreamsWithout (u i : IfIndex) :
    (c.upstreamsWithout b u).quota i = c.upstreams.quota i := by
  unfold upstreamsWithout
  split
  · rw [UpstreamTable.quota_foldFinal, UpstreamTable.quota_release]
  · rw [UpstreamTable.quota_release]

/-- The daemon starts no counters for a rule. -/
theorem daemonStats_storesWith (c : Controller) (rule : Rule) :
    (c.storesWith .daemon rule).daemon.stats = c.platform.daemon.stats := by
  unfold storesWith
  dsimp only
  split <;> split <;> rfl

/-- The daemon drops its counters with the last rule of an upstream. -/
theorem daemonStats_storesWithout (c : Controller) (rule : Rule) :
    (c.storesWithout .daemon rule).daemon.stats = if c.upstreams.ruleCount rule.upstream = 1
      then c.platform.daemon.stats.erase rule.upstream else c.platform.daemon.stats := by
  unfold storesWithout
  dsimp only
  split <;> split <;> rfl

/-- What was read of an upstream starts anew once its last rule is removed. -/
theorem lastRead_upstreamsWithout (c : Controller) (u i : IfIndex) :
    ((c.upstreamsWithout .tables u).account i).lastRead =
      if c.upstreams.ruleCount u = 1 ∧ u = i then .zero
      else (c.upstreams.account i).lastRead := by
  obtain ⟨n, hrelease⟩ := c.upstreams.exists_account_release u i
  unfold upstreamsWithout
  split
  · rename_i hone
    rw [UpstreamTable.account_foldFinal, hrelease]
    simp only [hone, true_and]
    show Account.lastRead (if u = i then _ else _) = _
    split <;> rfl
  · rename_i hmore
    rw [hrelease, if_neg fun h => hmore h.1]

/-! ## Limits and readings -/

/-- A limit is remembered, and handed to the backend if rules use the upstream. -/
theorem applyLimit_willing (i : IfIndex) (q : Quota) (hp : c.platform.Willing)
    (hcounters : c.upstreams.ruleCount i ≠ 0 → c.platform.stores.HasCounters b i) :
    ∃ p, c.platform.Works (if c.upstreams.ruleCount i = 0
        then c.platform.stores else c.platform.stores.setLimit b i q) p ∧
      c.applyLimit b i q = { c with
        upstreams := c.upstreams.modify i fun u => { u with quota := q }
        platform := p } := by
  obtain ⟨p, happly, hp'⟩ := exists_applyLimit b i q c
    (R := c.platform.Works (if c.upstreams.ruleCount i = 0
      then c.platform.stores else c.platform.stores.setLimit b i q))
    (fun hzero => by rw [if_pos hzero]; exact works_note _ rfl)
    (fun hrules _ _ hset => by
      rw [if_neg hrules]
      exact Backend.works_setQuota hp (hcounters hrules) hset)
    fun _ h => h.note rfl
  exact ⟨p, hp', happly⟩

/-- A poll stores all readings and checks the alert. -/
theorem poll_willing (hp : c.platform.Willing) :
    ∃ p, c.platform.Works c.platform.stores p ∧ c.poll b = checkAlert { c with
      platform := p
      upstreams :=
        (c.platform.stores.readings b).foldl UpstreamTable.recordReading c.upstreams } := by
  obtain ⟨p, hread, hworks⟩ := Backend.readAll_willing b hp
  refine ⟨p, hworks, ?_⟩
  unfold poll
  simp only [perform, hread]

/-! ## What looks neither at the backend nor at the stores -/

/-- The controller with another backend, against another platform. -/
def on (b : Backend) (p : Platform) (c : Controller) : Controller :=
  { c with backend := some b, platform := p }

/-- What becomes of the controller is the same with every backend and against every platform that
refuses nothing, where the same is written into the journal. -/
def Steady (f : Controller → Controller) (c : Controller) : Prop :=
  ∃ (c' : Controller) (es : List Entry),
    ∀ b p, p.Compliant → f (c.on b p) = c'.on b (p.write es)

/-- What only writes into the journal, as far as the platform goes, is steady. -/
theorem steady_of_eq {f : Controller → Controller} (c' : Controller) (es : List Entry)
    (hf : ∀ b p, f (c.on b p) = c'.on b (p.write es)) : Steady f c :=
  ⟨c', es, fun b p _ => hf b p⟩

/-- One steady change after another. -/
theorem Steady.comp {f g : Controller → Controller} (hf : Steady f c) (hg : ∀ c, Steady g c) :
    Steady (fun c => g (f c)) c := by
  obtain ⟨c', es, hf⟩ := hf
  obtain ⟨c'', es', hg⟩ := hg c'
  refine ⟨c'', es' ++ es, fun b p hp => ?_⟩
  show g (f (c.on b p)) = _
  rw [hf b p hp, hg b _ (hp.write es), write_write]

/-- A notice is steady. -/
theorem steady_note (n : Notice) (c : Controller) : Steady (·.note n) c :=
  steady_of_eq c [.notice n] fun _ _ => rfl

/-- A check of the alert is steady. -/
theorem steady_checkAlert (c : Controller) : Steady checkAlert c :=
  steady_of_eq { c with upstreams := checked c.upstreams } (alertEntries c.upstreams)
    fun b p => (c.on b p).checkAlert_eq

/-- A publication is steady. -/
theorem steady_publish (c : Controller) : Steady publish c := by
  unfold publish
  by_cases hall : c.upstreams.deltas.all fun d => d.2 = .zero
  · exact steady_of_eq { c with upstreams := c.upstreams.settle } [.notice .nothingToPublish]
      fun b p => if_pos hall
  · let call := Call.publish (shares .interface c.upstreams.deltas)
      (shares .tethering c.upstreams.deltas)
    exact steady_of_eq { c with upstreams := c.upstreams.settle } [.call call none]
      fun b p => if_neg hall

/-- An alert that is armed or disarmed is steady. -/
theorem steady_armAlert (q : Quota) (c : Controller) : Steady (fun c => (c.armAlert q).2) c := by
  unfold armAlert
  split
  · exact steady_of_eq c [] fun _ _ => rfl
  · exact Steady.comp (steady_of_eq { c with upstreams := c.upstreams.setAlert q } [.notice _]
      fun _ _ => rfl) steady_checkAlert

/-- The start of polling is steady. -/
theorem steady_beginPolling (c : Controller) : Steady (fun c => c.beginPolling.2) c :=
  let polling := { c.polling with on := true, generation := c.polling.generation + 1 }
  steady_of_eq { c with polling } [.notice (.pollingEvery c.polling.interval)] fun _ _ => rfl

/-- The end of polling is steady. -/
theorem steady_endPolling (c : Controller) : Steady endPolling c := by
  let polling := { c.polling with on := false, generation := c.polling.generation + 1 }
  unfold endPolling
  by_cases hon : c.polling.on
  · refine steady_of_eq { c with polling } [.notice .pollingStopped] fun b p => ?_
    have hon' : (c.on b p).polling.on := hon
    rw [if_pos hon']
    rfl
  · refine steady_of_eq { c with polling } [] fun b p => ?_
    have hon' : ¬(c.on b p).polling.on := hon
    rw [if_neg hon']
    rfl

/-- A new polling interval is steady. -/
theorem steady_setPollInterval (ms : UInt64) (c : Controller) : Steady (setPollInterval ms) c :=
  steady_of_eq { c with polling := { c.polling with configuredMs := ms } } [] fun _ _ => rfl

/-- A change of what is attached is steady if it is so on its platform. -/
theorem steady_changeAttachments {f : Attachments → Platform → Attachments × Platform}
    (hf : ∀ a, Platform.Steady (f a)) (c : Controller) : Steady (changeAttachments f) c := by
  obtain ⟨a, es, h⟩ := hf c.attachments
  refine ⟨{ c with attachments := a }, es, fun b p hp => ?_⟩
  show { c.on b p with attachments := (f c.attachments p).1, platform := (f c.attachments p).2 } = _
  rw [h p hp]
  rfl

/-- A change of what is monitored is steady if it is so on its platform. -/
theorem steady_changeMonitoring {f : Monitoring → Platform → Monitoring × Platform}
    (hf : ∀ m, Platform.Steady (f m)) (c : Controller) : Steady (changeMonitoring f) c := by
  obtain ⟨m, es, h⟩ := hf c.monitoring
  refine ⟨{ c with monitoring := m }, es, fun b p hp => ?_⟩
  show { c.on b p with monitoring := (f c.monitoring p).1, platform := (f c.monitoring p).2 } = _
  rw [h p hp]
  rfl

end Controller

end FastPath
