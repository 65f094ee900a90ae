import FastPath.Controller.Forwarding
import FastPath.Proofs.Frame
import FastPath.Proofs.Registry

/-!
# What becomes of a rule that is added or removed

A rule that is added is first installed by the backend; only then it is noted, counted and its
interface bound, none of which can take it back. In the same way a rule that is removed is gone once
the backend has removed it. `install_cases` and `uninstall_cases` say so in full: either nothing but
the journal has changed, or the backend served the request and all the rest followed.
-/

namespace FastPath

namespace Controller

open Platform

variable {b : Backend}

/-- A step whose failure is only noted leaves the controller as it is, apart from the platform. What
the step brings about, and the notice does not undo, holds of the platform. -/
theorem exists_attempt {R : Platform → Prop} (c : Controller) (a : Act Unit)
    (failed : Failure → Notice) (ha : ∀ {res q}, c.platform.perform a = (res, q) → R q)
    (hnote : ∀ {q} f, R q → R (q.note (failed f))) :
    ∃ p, c.attempt a failed = { c with platform := p } ∧ R p := by
  rcases hperform : c.platform.perform a with ⟨f | ⟨⟩, q⟩ <;>
    simp only [attempt, perform, hperform]
  · exact ⟨q.note (failed f), rfl, hnote f (ha hperform)⟩
  · exact ⟨q, rfl, ha hperform⟩

/-- A step that spares rules and traffic does so even if its failure is only noted. -/
theorem attempt_cases (c : Controller) (a : Act Unit) (failed : Failure → Notice)
    (hfailed : ∀ f, (failed f).isMinor)
    (ha : ∀ {res q}, c.platform.perform a = (res, q) → c.platform.Spares b q) :
    ∃ p, c.attempt a failed = { c with platform := p } ∧ c.platform.Spares b p :=
  exists_attempt c a failed ha fun f h => h.trans (spares_push b _ (hfailed f))

/-- One more rule is counted. The rest is an attempt. -/
theorem acquire_cases (b : Backend) (u : IfIndex) (c : Controller) :
    ∃ p, c.acquire b u = { c with upstreams := c.upstreams.acquire u, platform := p } ∧
      c.platform.Spares b p := by
  unfold acquire
  dsimp only
  split
  · exact attempt_cases _ _ _ (fun _ => rfl) Backend.spares_setQuota
  · exact ⟨c.platform, rfl, .refl b _⟩

/-- A rule is added once the backend has installed it, and else nothing has changed. -/
theorem install_cases (b : Backend) (d : DownstreamId) (rule : Rule) (c : Controller) :
    (∃ p, c.install b d rule = (false, { c with platform := p }) ∧ c.platform.Keeps p) ∨
    (c.registry.find? d rule.neighbor = none ∧ ∃ p q,
      c.platform.Serves (.addRule rule) (c.platform.stores.install b rule) p ∧
      (p.note (.ruleAdded rule d)).Spares b q ∧
      c.install b d rule = (true, { c with
        platform := q
        registry := c.registry.push d rule
        upstreams := c.upstreams.acquire rule.upstream })) := by
  unfold install
  split
  · exact .inl ⟨_, rfl, keeps_note _ rfl⟩
  · rename_i hfind
    have hfree : c.registry.find? d rule.neighbor = none := by simpa using hfind
    rcases hadd : c.platform.perform (b.addRule rule) with ⟨res, p⟩
    rcases Backend.addRule_cases hadd with ⟨⟨f, rfl⟩, hs, -⟩ | ⟨rfl, hs⟩ <;>
      simp only [perform, hadd]
    · exact .inl ⟨_, rfl, hs.keeps.trans (keeps_note p rfl)⟩
    · -- What comes after the backend has installed the rule can fail, but takes nothing back.
      refine .inr ⟨hfree, p, ?_⟩
      obtain ⟨q, hacquire, hq⟩ := acquire_cases b rule.upstream
        ({ c with platform := p, registry := c.registry.push d rule }.note (.ruleAdded rule d))
      simp only [hacquire]
      split
      · obtain ⟨q', hbind, hq'⟩ := attempt_cases
          { c with
            platform := q
            registry := c.registry.push d rule
            upstreams := c.upstreams.acquire rule.upstream }
          (b.startForwarding rule.downstream rule.upstream)
          (.bindingNotStarted rule.downstream rule.upstream)
          (fun _ => rfl) Backend.spares_startForwarding
        exact ⟨q', hs, hq.trans hq', congrArg (Prod.mk true) hbind⟩
      · exact ⟨q, hs, hq, rfl⟩

/-- One rule less is counted, and a notice says so if there is none to count. What holds before and
is not undone by the notice holds of the platform. -/
theorem exists_countDown {R : Platform → Prop} (u : IfIndex) (c : Controller)
    (hkept : R c.platform) (hnoted : R (c.platform.note (.countAlreadyZero u))) :
    ∃ p, c.countDown u = { c with upstreams := c.upstreams.release u, platform := p } ∧ R p := by
  unfold countDown
  split
  · rename_i hzero
    exact ⟨_, by rw [UpstreamTable.release, if_pos hzero]; rfl, hnoted⟩
  · exact ⟨c.platform, rfl, hkept⟩

/-- One rule less is counted. After the last one the final reading is folded in, once the backend
has cleared the counters. -/
theorem release_cases (b : Backend) (u : IfIndex) (c : Controller) :
    ∃ p, c.platform.Spares b p ∧
      (c.release b u = { c with upstreams := c.upstreams.release u, platform := p } ∨
        c.upstreams.ruleCount u = 1 ∧ ∃ q,
          (p.Serves (.readAndClear u) ((p.stores.closeCounters b u).dropLimit b u) q ∨
            p.Serves (.readAndClear u) (p.stores.closeCounters b u) q) ∧
          c.release b u = { c with
            upstreams := (c.upstreams.release u).foldFinal
              ⟨p.stores.reportedAs b u, p.stores.counted b u⟩
            platform := q }) := by
  obtain ⟨p, hcount, hp⟩ : ∃ p, c.countDown u = { c with
      upstreams := c.upstreams.release u, platform := p } ∧ c.platform.Spares b p :=
    exists_countDown u c (.refl b _) (spares_push b _ rfl)
  unfold release
  simp only [hcount]
  split
  · rename_i hone
    rcases hread : p.perform (b.readAndClear u) with ⟨res, q⟩
    rcases Backend.readAndClear_cases hread with ⟨⟨f, rfl⟩, hs, -⟩ | ⟨⟨f, rfl⟩, hs, -⟩ |
      ⟨rfl, -, hs⟩ <;> simp only [perform, hread]
    · -- Refused, the counters stay, and so do they where there are none to clear.
      have hsame : p.Spares b q := hs.spares (.refl b _)
      exact ⟨_, hp.trans (hsame.trans (spares_push b q rfl)), .inl rfl⟩
    · have hsame : p.Spares b q := hs.spares (.refl b _)
      exact ⟨_, hp.trans (hsame.trans (spares_push b q rfl)), .inl rfl⟩
    · exact ⟨p, hp, .inr ⟨hone, q, hs.imp_right And.left, rfl⟩⟩
  · exact ⟨p, hp, .inl rfl⟩

/-- A rule is removed once the backend has removed it, and else nothing has changed. -/
theorem uninstall_cases (b : Backend) (d : DownstreamId) (n : Ipv6) (c : Controller) :
    (∃ p, c.uninstall b d n = (false, { c with platform := p }) ∧ c.platform.Keeps p) ∨
    ∃ rule, c.registry.find? d n = some rule ∧ ∃ p q,
      c.platform.Serves (.removeRule rule) (c.platform.stores.uninstall b rule) p ∧
      (p.note (.ruleRemoved rule d)).Spares b q ∧
      c.uninstall b d n = (true, release b rule.upstream
        { c with platform := q, registry := c.registry.erase d n }) := by
  unfold uninstall
  split
  · split
    · exact .inl ⟨_, rfl, keeps_note _ rfl⟩
    · rename_i rule hfind
      rcases hremove : c.platform.perform (b.removeRule rule) with ⟨res, p⟩
      rcases Backend.removeRule_cases hremove with ⟨⟨f, rfl⟩, hs, -⟩ | ⟨rfl, hs⟩ <;>
        simp only [perform, hremove]
      · exact .inl ⟨_, rfl, hs.keeps.trans (keeps_note p rfl)⟩
      · refine .inr ⟨rule, hfind, p, ?_⟩
        -- The binding is removed with the last rule out of the interface.
        split
        · obtain ⟨q, hunbind, hq⟩ := attempt_cases
            ({ c with platform := p, registry := c.registry.erase d n }.note (.ruleRemoved rule d))
            (b.stopForwarding rule.downstream rule.upstream)
            (.bindingNotStopped rule.downstream rule.upstream)
            (fun _ => rfl) Backend.spares_stopForwarding
          exact ⟨q, hs, hq, by rw [hunbind]; rfl⟩
        · exact ⟨_, hs, .refl b _, rfl⟩
  · exact .inl ⟨_, rfl, keeps_note _ rfl⟩

/-- The controller once the backend has installed a rule, before its upstream counts it. -/
def added (d : DownstreamId) (rule : Rule) (p : Platform) (c : Controller) : Controller :=
  { c with platform := p, registry := c.registry.push d rule }.note (.ruleAdded rule d)

/-- The controller once the backend has removed a rule, before its upstream counts it no more. -/
def removed (d : DownstreamId) (n : Ipv6) (rule : Rule) (p : Platform) (c : Controller) :
    Controller :=
  { c with platform := p, registry := c.registry.erase d n }.note (.ruleRemoved rule d)

/-- Once the backend has installed a rule, its upstream counts it, and the first rule of an
interface binds it. -/
theorem install_of_ok {c : Controller} {d : DownstreamId} {rule : Rule} {p : Platform}
    (hfree : c.registry.find? d rule.neighbor = none)
    (hadd : c.platform.perform (b.addRule rule) = (.ok (), p)) :
    c.install b d rule = (true, if c.registry.rulesOn rule.downstream = 0
      then ((c.added d rule p).acquire b rule.upstream).attempt
        (b.startForwarding rule.downstream rule.upstream)
        (.bindingNotStarted rule.downstream rule.upstream)
      else (c.added d rule p).acquire b rule.upstream) := by
  unfold install
  rw [if_neg (by simp [hfree])]
  simp only [perform, hadd]
  split <;> rfl

/-- Once the backend has removed a rule, its interface loses the binding with its last rule, and its
upstream counts the rule no more. -/
theorem uninstall_of_ok {c : Controller} {d : DownstreamId} {n : Ipv6} {rule : Rule} {p : Platform}
    (hfind : c.registry.find? d n = some rule)
    (hremove : c.platform.perform (b.removeRule rule) = (.ok (), p)) :
    c.uninstall b d n = (true, release b rule.upstream
      (if (c.registry.erase d n).rulesOn rule.downstream = 0
        then (c.removed d n rule p).attempt (b.stopForwarding rule.downstream rule.upstream)
          (.bindingNotStopped rule.downstream rule.upstream)
        else c.removed d n rule p)) := by
  unfold uninstall
  rw [if_pos (c.registry.mem_of_find? hfind), hfind]
  simp only [perform, hremove]
  rfl

/-- A rule that the backend does not install is not added. -/
theorem install_of_error {c : Controller} {d : DownstreamId} {rule : Rule} {p : Platform}
    {f : Failure} (hfree : c.registry.find? d rule.neighbor = none)
    (hadd : c.platform.perform (b.addRule rule) = (.error f, p)) :
    c.install b d rule = (false, { c with platform := p }.note (.ruleNotAdded d f)) := by
  unfold install
  rw [if_neg (by simp [hfree])]
  simp only [perform, hadd]

/-- A rule that the backend does not remove stays. -/
theorem uninstall_of_error {c : Controller} {d : DownstreamId} {n : Ipv6} {rule : Rule}
    {p : Platform} {f : Failure} (hfind : c.registry.find? d n = some rule)
    (hremove : c.platform.perform (b.removeRule rule) = (.error f, p)) :
    c.uninstall b d n = (false, { c with platform := p }.note (.ruleNotRemoved d f)) := by
  unfold uninstall
  rw [if_pos (c.registry.mem_of_find? hfind), hfind]
  simp only [perform, hremove]

/-- A rule that a downstream has already is not added. -/
theorem install_of_some {c : Controller} {d : DownstreamId} {rule : Rule}
    (h : (c.registry.find? d rule.neighbor).isSome) :
    c.install b d rule = (false, c.note (.duplicateRule rule.neighbor d)) := by
  unfold install
  rw [if_pos h]

/-- A rule that a downstream does not have is not removed. -/
theorem uninstall_of_none {c : Controller} {d : DownstreamId} {n : Ipv6}
    (h : c.registry.find? d n = none) : c.uninstall b d n = (false, c.note
      (if d ∈ c.registry.byDownstream then .noSuchRule n d else .noRules d)) := by
  unfold uninstall
  split
  · rw [h]
  · rfl

end Controller

end FastPath
