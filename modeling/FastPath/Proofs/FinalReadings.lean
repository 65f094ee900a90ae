import FastPath.Proofs.Counts

/-!
# Final readings

The counters of an upstream go with its last rule, and what they counted must neither be lost nor be
reported twice. Three calls to the kernel can fail on the way. Until the counters are deleted a
failure leaves everything as it was, and once they are deleted the reading is given, whatever becomes
of the limit (`ClearsWhole`). The account of the upstream keeps in step (`SettlesLast`): it takes the
reading up if the kernel has lost the counters, and it stays as it was if not.
-/

namespace FastPath

open Std

namespace Platform

variable {p q : Platform} {i : IfIndex} {counters : Counters}

/-- From `p` to `q` the kernel lost the counters that an interface had. -/
def Loses (i : IfIndex) (counters : Counters) (p q : Platform) : Prop :=
  p.kernel.stats[i]? = some counters ∧ i ∉ q.kernel.stats

/-- Reading and clearing the counters of an interface, from `p` to `q`, was done as a whole or not
at all, and the answer tells which. -/
structure ClearsWhole (i : IfIndex) (p : Platform) (res : Except Failure InterfaceTraffic)
    (q : Platform) : Prop where
  /-- A reading is given if and only if there were counters and they are gone. -/
  answer : ∀ last, res = .ok last ↔
    ∃ counters, p.Loses i counters q ∧ last = ⟨i, counters.traffic⟩
  /-- A failure leaves all tables as they were. -/
  failure : ∀ f, res = .error f → q.kernel = p.kernel
  /-- Other interfaces keep their counters and their limits. -/
  others : ∀ j ≠ i, q.kernel.stats[j]? = p.kernel.stats[j]? ∧
    q.kernel.limit[j]? = p.kernel.limit[j]?
  /-- Other tables stay as they were. -/
  tables : q.kernel = { p.kernel with stats := q.kernel.stats, limit := q.kernel.limit }

/-- No counters are lost while the tables stay as they are. -/
theorem not_loses_of_kernel_eq (h : q.kernel = p.kernel) : ¬p.Loses i counters q := by
  rintro ⟨hread, hgone⟩
  rw [h] at hgone
  exact hgone (ExtTreeMap.getElem?_eq_some_iff.mp hread).1

/-- Not at all: a failure, and tables as they were. -/
theorem clearsWhole_of_kernel_eq {f : Failure} (h : q.kernel = p.kernel) :
    p.ClearsWhole i (.error f) q where
  answer last := by
    refine ⟨nofun, ?_⟩
    rintro ⟨counters, hloses, -⟩
    exact absurd hloses (not_loses_of_kernel_eq h)
  failure _ _ := h
  others j _ := by
    rw [h]
    exact ⟨rfl, rfl⟩
  tables := by rw [h]

/-- As a whole: the reading of counters that are deleted, with the limit beside them or without
it. -/
theorem clearsWhole_of_kernel_erase {limits : ExtTreeMap IfIndex Quota}
    (hread : p.kernel.stats[i]? = some counters)
    (hlimits : ∀ j ≠ i, limits[j]? = p.kernel.limit[j]?)
    (h : q.kernel = { p.kernel with stats := p.kernel.stats.erase i, limit := limits }) :
    p.ClearsWhole i (.ok ⟨i, counters.traffic⟩) q where
  answer last := by
    have hgone : i ∉ q.kernel.stats := by
      rw [h]
      exact notMem_erase_self _ i
    constructor
    · intro hok
      exact ⟨counters, ⟨hread, hgone⟩, (Except.ok.inj hok).symm⟩
    · rintro ⟨counters', ⟨hread', -⟩, rfl⟩
      obtain rfl : counters = counters' := Option.some.inj (hread.symm.trans hread')
      rfl
  failure _ hf := nomatch hf
  others j hj := by
    rw [h]
    refine ⟨?_, hlimits j hj⟩
    show (p.kernel.stats.erase i)[j]? = _
    rw [ExtTreeMap.getElem?_erase, if_neg (mt Std.compare_eq_iff_eq.mp hj.symm)]
  tables := by rw [h]

/-- Counters are read and cleared as a whole, whichever calls fail. -/
theorem clearsWhole_readAndClear {res : Except Failure InterfaceTraffic}
    (h : p.perform (Backend.tables.readAndClear i) = (res, q)) : p.ClearsWhole i res q := by
  rcases Backend.readAndClear_cases h with ⟨⟨f, rfl⟩, hs, -⟩ | ⟨⟨f, rfl⟩, hs, -⟩ |
    ⟨rfl, hthere, hs⟩
  · exact clearsWhole_of_kernel_eq (congrArg Stores.kernel hs.stores)
  · exact clearsWhole_of_kernel_eq (congrArg Stores.kernel hs.stores)
  · obtain ⟨counters, hread⟩ : ∃ counters, p.kernel.stats[i]? = some counters :=
      ⟨_, ExtTreeMap.getElem?_eq_some_getElem (hthere rfl)⟩
    have hcounted : p.stores.counted .tables i = counters.traffic :=
      Stores.counted_of_getElem? hread
    rw [hcounted]
    -- The counters are gone either way, and the limit is too unless its deletion was refused.
    rcases hs with hs | ⟨hs, -⟩
    · refine clearsWhole_of_kernel_erase hread (fun j hj => ?_)
        (congrArg Stores.kernel hs.stores)
      show (p.kernel.limit.erase i)[j]? = _
      rw [ExtTreeMap.getElem?_erase, if_neg (mt Std.compare_eq_iff_eq.mp hj.symm)]
    · exact clearsWhole_of_kernel_erase hread (fun _ _ => rfl) (congrArg Stores.kernel hs.stores)

end Platform

namespace Controller

open Platform

variable {c c' : Controller} {d : DownstreamId} {n : Ipv6} {stored : Rule} {u : IfIndex}

/-- From `c` to `c'` an upstream lost its last rule. Its traffic until then is pending if the kernel
lost the counters with it, and counting starts from zero; else traffic stays as it was. -/
structure SettlesLast (u : IfIndex) (c c' : Controller) : Prop where
  folded : ∀ counters, c.platform.Loses u counters c'.platform →
    c'.upstreams.account u = { c.upstreams.account u with
      pending := (c.upstreams.account u).pending.add
        (counters.traffic.since (c.upstreams.account u).published)
      lastRead := .zero
      published := .zero
      ruleCount := 0 }
  kept : (∀ counters, ¬c.platform.Loses u counters c'.platform) →
    c'.upstreams.account u = { c.upstreams.account u with ruleCount := 0 }

/-- When the last rule of an upstream is counted no more, the upstream takes up the final reading of
the counters that the kernel lost. Else the kernel has lost nothing, and there is no reading. -/
theorem release_last (hone : c.upstreams.ruleCount u = 1) :
    (∃ counters, c.platform.Loses u counters (c.release .tables u).platform ∧
      (c.release .tables u).upstreams =
        (c.upstreams.release u).foldFinal ⟨u, counters.traffic⟩) ∨
    ((c.release .tables u).platform.kernel = c.platform.kernel ∧
      (c.release .tables u).upstreams = c.upstreams.release u) := by
  obtain ⟨p, hcount, hp⟩ : ∃ p, c.countDown u = { c with
      upstreams := c.upstreams.release u, platform := p } ∧ p.kernel = c.platform.kernel :=
    exists_countDown u c rfl rfl
  rcases hread : p.perform (Backend.tables.readAndClear u) with ⟨f | last, q⟩ <;>
    simp only [release, hone, hcount, perform, hread, if_true]
  · have hkernel : q.kernel = p.kernel := (clearsWhole_readAndClear hread).failure f rfl
    exact .inr ⟨hkernel.trans hp, rfl⟩
  · obtain ⟨counters, ⟨hthere, hgone⟩, rfl⟩ :=
      ((clearsWhole_readAndClear hread).answer last).mp rfl
    rw [hp] at hthere
    exact .inl ⟨counters, ⟨hthere, hgone⟩, rfl⟩

/-- The account of an upstream keeps in step with its counters when its last rule is counted no
more. -/
theorem settlesLast_release (hone : c.upstreams.ruleCount u = 1) :
    SettlesLast u c (c.release .tables u) := by
  have hcount : (c.upstreams.release u).account u =
      { c.upstreams.account u with ruleCount := 0 } := by
    rw [UpstreamTable.account_release, if_pos rfl, ← UpstreamTable.ruleCount_eq, hone]
  rcases release_last hone with ⟨counters, hloses, hupstreams⟩ | ⟨hkernel, hupstreams⟩
  · refine ⟨fun counters' hloses' => ?_, fun hnone => absurd hloses (hnone counters)⟩
    obtain rfl : counters = counters' := Option.some.inj (hloses.1.symm.trans hloses'.1)
    rw [hupstreams, UpstreamTable.account_foldFinal, if_pos rfl, hcount]
    rfl
  · refine ⟨fun counters hloses => absurd hloses (not_loses_of_kernel_eq hkernel), fun _ => ?_⟩
    rw [hupstreams, hcount]

/-- A rule is removed with its binding before its upstream counts it no more. Until then no counters
change. -/
theorem exists_uninstall (hfind : c.registry.find? d n = some stored)
    (hremoved : (c.uninstall .tables d n).1 = true) :
    ∃ p, p.kernel.stats = c.platform.kernel.stats ∧ (c.uninstall .tables d n).2 =
      release .tables stored.upstream
        { c with platform := p, registry := c.registry.erase d n } := by
  rcases hremove : c.platform.perform (Backend.tables.removeRule stored) with ⟨f | ⟨⟩, p⟩
  · rw [uninstall_of_error hfind hremove] at hremoved
    cases hremoved
  · rw [uninstall_of_ok hfind hremove]
    have hstats : p.kernel.stats = c.platform.kernel.stats := by
      rcases Backend.removeRule_cases hremove with ⟨⟨f, hf⟩, -⟩ | ⟨-, hs⟩
      · cases hf
      · exact congrArg (·.kernel.stats) hs.stores
    split
    · -- The binding goes with the last rule of the interface, or it is left there with a notice.
      obtain ⟨q, hunbind, hq⟩ := exists_attempt
        (R := fun q => q.kernel.stats = c.platform.kernel.stats) (c.removed d n stored p)
        (Backend.tables.stopForwarding stored.downstream stored.upstream)
        (.bindingNotStopped stored.downstream stored.upstream)
        (fun hstop => by
          rcases Backend.stopForwarding_cases hstop with ⟨-, hs, -⟩ | ⟨-, hs⟩ <;>
            exact (congrArg (·.kernel.stats) hs.stores).trans hstats)
        fun _ hq => hq
      rw [hunbind]
      exact ⟨q, hq, rfl⟩
    · exact ⟨p.note (.ruleRemoved stored d), hstats, rfl⟩

/-- Only the last rule of an upstream leaves none behind. -/
theorem Counted.ruleCount_eq_one (h : Counted c) (hfind : c.registry.find? d n = some stored)
    (hlast : ∀ d', ∀ r ∈ (c.registry.erase d n).rulesFor d', r.upstream ≠ stored.upstream) :
    c.upstreams.ruleCount stored.upstream = 1 := by
  let taken := { c with
    registry := c.registry.erase d n, upstreams := c.upstreams.release stored.upstream }
  have htaken : Counted taken := h.remove hfind rfl rfl
  have hnone : taken.upstreams.ruleCount stored.upstream = 0 := by
    refine Decidable.of_not_not fun hsome => ?_
    obtain ⟨d', r, hr, hu⟩ := (htaken.ruleCount_ne_zero stored.upstream).mp hsome
    exact hlast d' r hr hu
  have hone_less : taken.upstreams.ruleCount stored.upstream =
      c.upstreams.ruleCount stored.upstream - 1 := by
    rw [UpstreamTable.ruleCount_release, if_pos rfl]
  have hpos := h.ruleCount_ne_zero_of_find? hfind
  omega

/-- Counting a rule less leaves the rules alone. -/
theorem rulesFor_release (b : Backend) (u : IfIndex) (c : Controller) (d : DownstreamId) :
    (c.release b u).rulesFor d = c.rulesFor d := by
  obtain ⟨p, -, hrelease | ⟨-, q, -, hrelease⟩⟩ := release_cases b u c <;>
    rw [hrelease] <;> rfl

/-- The account of an upstream keeps in step with its counters when its last rule is removed. -/
theorem settlesLast_uninstall (h : Counted c) (hfind : c.registry.find? d n = some stored)
    (hremoved : (c.uninstall .tables d n).1 = true)
    (hlast : ∀ d', ∀ r ∈ (c.uninstall .tables d n).2.rulesFor d', r.upstream ≠ stored.upstream) :
    SettlesLast stored.upstream c (c.uninstall .tables d n).2 := by
  obtain ⟨p, hstats, huninstall⟩ := exists_uninstall hfind hremoved
  rw [huninstall] at hlast ⊢
  have hone : c.upstreams.ruleCount stored.upstream = 1 := by
    refine h.ruleCount_eq_one hfind fun d' r hr => hlast d' r ?_
    rw [rulesFor_release]
    exact hr
  obtain ⟨folded, kept⟩ := settlesLast_release
    (c := { c with platform := p, registry := c.registry.erase d n }) hone
  -- Counters that are lost from here on were there before the rule was removed.
  simp only [Loses, hstats] at folded kept
  exact ⟨folded, kept⟩

/-- The final reading of an upstream is taken as a whole or not at all. On every platform, reading
and clearing counters gives them if and only if it deletes them, has no effect if it fails, and has
none on others. Hence, when the last rule of an upstream is removed, on its own or in the midst of
other changes, the account of the upstream takes up the traffic of the counters if and only if the
kernel loses them. -/
theorem finalReading_whole :
    (∀ (p : Platform) (i : IfIndex),
      p.ClearsWhole i (p.perform (Backend.tables.readAndClear i)).1
        (p.perform (Backend.tables.readAndClear i)).2) ∧
    ∀ {p : Platform} {c₀ c : Controller} {d : DownstreamId} {rule stored : Rule},
      Reachable .tables p c₀ → Chores .tables c₀ c →
      c.registry.find? d rule.neighbor = some stored →
      (c.removeRule d rule).1 = true →
      (∀ d', ∀ r ∈ (c.removeRule d rule).2.rulesFor d', r.upstream ≠ stored.upstream) →
      SettlesLast stored.upstream c (c.removeRule d rule).2 := by
  refine ⟨fun p i => clearsWhole_readAndClear rfl, ?_⟩
  intro p c₀ c d rule stored hreach hchores hfind hremoved hlast
  have hsteps : Steps .tables (fun _ _ => True) c₀ c := hchores.steps
  have hcounted : Counted c := hsteps.preserves Counted.move (counted_of_reachable hreach)
  have hremove : c.removeRule d rule = c.uninstall .tables d rule.neighbor := by
    rw [removeRule, hchores.backend_eq, hreach.backend]
  rw [hremove] at hremoved hlast ⊢
  exact settlesLast_uninstall hcounted hfind hremoved hlast

/-- No limit can be deleted. -/
def limitsStuck (_ : List Entry) : Call → Option String
  | .table .limit (.delete _) => some "busy"
  | _ => none

/-- A rule like `sharedRule 10` for another neighbor. -/
def neighboringRule : Rule :=
  { sharedRule 10 with neighbor := ⟨.replicate 8 1⟩ }

/-- A controller with two rules on one upstream, whose traffic was counted, published and counted
again, on a platform where limits are stuck. -/
def recounted : Controller :=
  (start .default (.tables fun _ => true) true (.failing limitsStuck .sorted)).undergoAll .tables [
    .operation (.event (.upstreamName 100 "rmnet0")),
    .operation (.event (.addRule "wlan0" (sharedRule 10))),
    .operation (.event (.addRule "wlan0" neighboringRule)),
    .traffic 100 ⟨7, 700, 0, 3, 300, 0⟩,
    .operation .tick,
    .operation (.event .pushStats),
    .traffic 100 ⟨2, 200, 0, 1, 100, 0⟩]

/-- In the midst of clearing its rules one is left, and with that goes what was counted since the
publication, although the limit stays. -/
theorem finalReading_recounted :
    let c := (recounted.uninstall .tables "wlan0" (sharedRule 10).neighbor).2
    let c' := (c.removeRule "wlan0" neighboringRule).2
    Chores .tables recounted c ∧
      c.platform.Loses 100 ⟨9, 900, 0, 4, 400, 0⟩ c'.platform ∧ 100 ∈ c'.platform.kernel.limit ∧
      (c.upstreams.account 100).published = ⟨700, 7, 300, 3⟩ ∧
      (c'.upstreams.account 100).pending = ⟨200, 2, 100, 1⟩ ∧
      (c'.upstreams.account 100).lastRead = .zero ∧
      (c'.upstreams.account 100).published = .zero := by
  intro c c'
  have hreach : Reachable .tables (.failing limitsStuck .sorted) recounted :=
    ⟨_, _, ⟨_, _, _, rfl, rfl⟩, rfl⟩
  have hchores : Chores .tables recounted c :=
    .single (.uninstall recounted "wlan0" (sharedRule 10).neighbor)
  have hloses : c.platform.Loses 100 ⟨9, 900, 0, 4, 400, 0⟩ c'.platform :=
    ⟨by decide +kernel, by decide +kernel⟩
  have hlast : ∀ d', ∀ r ∈ c'.rulesFor d', r.upstream ≠ neighboringRule.upstream := by
    intro d' r hr
    have hnone : c'.registry.live = [] := by decide +kernel
    have hlive : r ∈ c'.registry.live := c'.registry.mem_live.mpr ⟨d', hr⟩
    rw [hnone] at hlive
    cases hlive
  have hfind : c.registry.find? "wlan0" neighboringRule.neighbor = some neighboringRule := by
    decide +kernel
  have hremoved : (c.removeRule "wlan0" neighboringRule).1 = true := by decide +kernel
  have hsettles : SettlesLast 100 c c' :=
    finalReading_whole.2 hreach hchores hfind hremoved hlast
  have haccount := hsettles.folded _ hloses
  refine ⟨hchores, hloses, by decide +kernel, by decide +kernel, ?_, ?_, ?_⟩ <;> rw [haccount]
  decide +kernel

end Controller

end FastPath
