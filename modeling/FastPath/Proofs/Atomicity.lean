import FastPath.Controller.Requests
import FastPath.Proofs.Counts

/-!
# Rules are added and removed as a whole

To add a rule the backend is asked up to three times: for the rule, for the first limit of its
upstream and for the binding of its interface. To remove one takes as many requests. Each can fail
on its own, but the first one decides. Where it fails, or is not made since the rule is there
already or is not there, nothing has changed (`Untouched`). Where it is served the rule has been
added to its downstream, its upstream and the entries of the backend (`AddsRule`), or it has been
taken out of all three (`TakesRule`), and no failure after that takes it back.
-/

namespace FastPath

open Std

namespace Stores

/-- The backend has a rule installed, if it keeps entries. -/
def Has (b : Backend) (r : Rule) (x : Stores) : Prop :=
  match b with
  | .tables => x.kernel.downstream6[r.key]? = some r.target
  | .daemon => x.daemon.rules[r.key]? = some r.parcel
  | .rehearsal => True

/-- The backend has no rule installed under a key. -/
def Lacks (b : Backend) (k : RuleKey) (x : Stores) : Prop :=
  match b with
  | .tables => k ∉ x.kernel.downstream6
  | .daemon => k ∉ x.daemon.rules
  | .rehearsal => True

variable {b : Backend} {r : Rule} {k : RuleKey} {x y : Stores}

/-- A rule is there once it is installed. -/
theorem has_install (b : Backend) (r : Rule) (x : Stores) : (x.install b r).Has b r := by
  cases b with
  | tables => exact ExtTreeMap.getElem?_insert_self
  | daemon => exact ExtTreeMap.getElem?_insert_self
  | rehearsal => trivial

/-- No rule is there under the key of one that is removed. -/
theorem lacks_uninstall (b : Backend) (r : Rule) (x : Stores) :
    (x.uninstall b r).Lacks b r.key := by
  cases b with
  | tables => exact notMem_erase_self _ r.key
  | daemon => exact notMem_erase_self _ r.key
  | rehearsal => trivial

/-- Stores with the same rules have the same rule installed. -/
theorem Same.has (h : Same b x y) (hx : x.Has b r) : y.Has b r := by
  cases b with
  | tables =>
    show y.kernel.downstream6[r.key]? = _
    rw [h.rules]
    exact hx
  | daemon =>
    show y.daemon.rules[r.key]? = _
    rw [h.parcels]
    exact hx
  | rehearsal => trivial

/-- They lack the same rules as well. -/
theorem Same.lacks (h : Same b x y) (hx : x.Lacks b k) : y.Lacks b k := by
  cases b with
  | tables =>
    show k ∉ y.kernel.downstream6
    rw [h.rules]
    exact hx
  | daemon =>
    show k ∉ y.daemon.rules
    rw [h.parcels]
    exact hx
  | rehearsal => trivial

/-- Counters that are cleared bring no rule. -/
theorem Lacks.closeCounters (h : x.Lacks b k) (i : IfIndex) : (x.closeCounters b i).Lacks b k := by
  cases b <;> exact h

end Stores

namespace Controller

open Platform

variable {b : Backend} {c c' : Controller} {d : DownstreamId} {n : Ipv6} {rule : Rule}

/-- From `c` to `c'` nothing has changed but the journal. -/
def Untouched (c c' : Controller) : Prop :=
  ∃ p, c' = { c with platform := p } ∧ p.stores = c.platform.stores

/-- From `c` to `c'` one rule was added to a downstream, after those it had. -/
structure AddsRule (b : Backend) (d : DownstreamId) (rule : Rule) (c c' : Controller) : Prop where
  rules : ∀ d', c'.rulesFor d' = if d = d' then c.rulesFor d ++ [rule] else c.rulesFor d'
  count : ∀ u, c'.upstreams.ruleCount u =
    c.upstreams.ruleCount u + if rule.upstream = u then 1 else 0
  installed : c'.platform.stores.Has b rule

/-- From `c` to `c'` one rule was taken out of those of a downstream. -/
structure TakesRule (b : Backend) (d : DownstreamId) (rule : Rule) (c c' : Controller) : Prop where
  rules : ∃ before after, c.rulesFor d = before ++ rule :: after ∧
    ∀ d', c'.rulesFor d' = if d = d' then before ++ after else c.rulesFor d'
  count : ∀ u, c.upstreams.ruleCount u =
    c'.upstreams.ruleCount u + if rule.upstream = u then 1 else 0
  absent : c'.platform.stores.Lacks b rule.key

/-! ## Adding -/

/-- A rule is added if its downstream has none for the neighbor and the backend installs it. Nothing
else bears on the answer. -/
theorem install_eq_true_iff (b : Backend) (d : DownstreamId) (rule : Rule) (c : Controller) :
    (c.install b d rule).1 = true ↔
      c.registry.find? d rule.neighbor = none ∧
        (c.platform.perform (b.addRule rule)).1 = .ok () := by
  cases hfind : c.registry.find? d rule.neighbor with
  | some old =>
    rw [install_of_some (by rw [hfind]; rfl)]
    simp
  | none =>
    rcases hadd : c.platform.perform (b.addRule rule) with ⟨f | ⟨⟩, p⟩
    · rw [install_of_error hfind hadd]
      simp
    · rw [install_of_ok hfind hadd]
      simp

/-- A rule that is not added leaves everything as it was. -/
theorem untouched_install (h : (c.install b d rule).1 = false) :
    Untouched c (c.install b d rule).2 := by
  rcases install_cases b d rule c with ⟨p, hinstall, hp⟩ | ⟨-, p, q, -, -, hinstall⟩
  · rw [hinstall]
    exact ⟨p, rfl, hp.stores⟩
  · rw [hinstall] at h
    cases h

/-- A rule that is added is kept, counted and installed, whatever becomes of the limit and the
binding. -/
theorem addsRule_install (h : (c.install b d rule).1 = true) :
    AddsRule b d rule c (c.install b d rule).2 := by
  rcases install_cases b d rule c with ⟨p, hinstall, -⟩ | ⟨-, p, q, hs, hq, hinstall⟩
  · rw [hinstall] at h
    cases h
  · -- What comes after the rule was installed is a limit and a binding, which spare it.
    rw [hinstall]
    refine ⟨fun d' => c.registry.rulesFor_push d d' rule,
      c.upstreams.ruleCount_acquire rule.upstream, ?_⟩
    have hinstalled : (p.note (.ruleAdded rule d)).stores.Has b rule := by
      show p.stores.Has b rule
      rw [hs.stores]
      exact Stores.has_install b rule _
    exact hq.stores.has hinstalled

/-! ## Removing -/

/-- A rule is removed if its downstream has one for the neighbor and the backend removes that.
Nothing else bears on the answer. -/
theorem uninstall_eq_true_iff (b : Backend) (d : DownstreamId) (n : Ipv6) (c : Controller) :
    (c.uninstall b d n).1 = true ↔ ∃ rule, c.registry.find? d n = some rule ∧
      (c.platform.perform (b.removeRule rule)).1 = .ok () := by
  cases hfind : c.registry.find? d n with
  | none =>
    rw [uninstall_of_none hfind]
    simp
  | some rule =>
    rcases hremove : c.platform.perform (b.removeRule rule) with ⟨f | ⟨⟩, p⟩
    · rw [uninstall_of_error hfind hremove]
      simp [hremove]
    · rw [uninstall_of_ok hfind hremove]
      simp [hremove]

/-- A rule that is not removed leaves everything as it was. -/
theorem untouched_uninstall (h : (c.uninstall b d n).1 = false) :
    Untouched c (c.uninstall b d n).2 := by
  rcases uninstall_cases b d n c with ⟨p, huninstall, hp⟩ | ⟨rule, -, p, q, -, -, huninstall⟩
  · rw [huninstall]
    exact ⟨p, rfl, hp.stores⟩
  · rw [huninstall] at h
    cases h

/-- Counting one rule of an upstream less leaves the rules alone, kept or installed. -/
theorem release_lacks {u : IfIndex} {k : RuleKey} (h : c.platform.stores.Lacks b k) :
    (c.release b u).registry = c.registry ∧
      (∀ i, (c.release b u).upstreams.ruleCount i = (c.upstreams.release u).ruleCount i) ∧
      (c.release b u).platform.stores.Lacks b k := by
  obtain ⟨p, hp, hrelease | ⟨-, q, hs, hrelease⟩⟩ := release_cases b u c <;> rw [hrelease]
  · exact ⟨rfl, fun _ => rfl, hp.stores.lacks h⟩
  · refine ⟨rfl, fun i => UpstreamTable.ruleCount_foldFinal _ i _, ?_⟩
    have hclosed : (p.stores.closeCounters b u).Lacks b k := (hp.stores.lacks h).closeCounters u
    rcases hs with hs | hs
    · show q.stores.Lacks b k
      rw [hs.stores]
      exact (Stores.same_dropLimit _ u).lacks hclosed
    · show q.stores.Lacks b k
      rw [hs.stores]
      exact hclosed

/-- A rule that is removed is kept, counted and installed no more, whatever becomes of the binding
and the counters. It is the one that the downstream had for the neighbor. -/
theorem takesRule_uninstall (hcounted : Counted c) (h : (c.uninstall b d n).1 = true) :
    ∃ stored, c.registry.find? d n = some stored ∧ stored.neighbor = n ∧
      TakesRule b d stored c (c.uninstall b d n).2 := by
  rcases uninstall_cases b d n c with ⟨p, huninstall, -⟩ |
    ⟨stored, hfind, p, q, hs, hq, huninstall⟩
  · rw [huninstall] at h
    cases h
  · -- The key is absent once the rule has been removed, and neither the binding nor the counters
    -- bring it back.
    have hremoved : (p.note (.ruleRemoved stored d)).stores.Lacks b stored.key := by
      show p.stores.Lacks b stored.key
      rw [hs.stores]
      exact Stores.lacks_uninstall b stored _
    obtain ⟨hregistry, hcount, hlacks⟩ := release_lacks (u := stored.upstream)
      (c := { c with platform := q, registry := c.registry.erase d n }) (hq.stores.lacks hremoved)
    obtain ⟨hneighbor, before, after, hrules, herase⟩ := c.registry.exists_rulesFor_erase hfind
    rw [huninstall]
    refine ⟨stored, hfind, hneighbor, ⟨before, after, hrules, fun d' => ?_⟩, fun u => ?_, hlacks⟩
    · show (release _ _ _).registry.rulesFor d' = _
      rw [hregistry]
      show (c.registry.erase d n).rulesFor d' = _
      by_cases hd : d = d'
      · rw [← hd, if_pos rfl, herase]
      · rw [Registry.rulesFor_erase, if_neg hd, if_neg hd]
        rfl
    · -- The count of the upstream is not zero, so that it is one less now.
      have hpos := hcounted.ruleCount_ne_zero_of_find? hfind
      show _ = (release _ _ _).upstreams.ruleCount u + _
      rw [hcount, UpstreamTable.ruleCount_release]
      by_cases hu : stored.upstream = u
      · subst hu
        rw [if_pos rfl, if_pos rfl]
        exact (Nat.succ_pred_eq_of_ne_zero hpos).symm
      · rw [if_neg hu, if_neg hu]
        rfl

/-- A rule is added or removed as a whole or not at all, whatever fails. The answer tells which, and
it depends on the rules that the downstream has and on the first request alone. -/
theorem rules_atomic {p : Platform} (h : Reachable b p c) (d : DownstreamId) (rule : Rule) :
    ((c.addRule d rule).1 = true ↔ c.registry.find? d rule.neighbor = none ∧
      (c.platform.perform (b.addRule rule)).1 = .ok ()) ∧
    ((c.addRule d rule).1 = false → Untouched c (c.addRule d rule).2) ∧
    ((c.addRule d rule).1 = true → AddsRule b d rule c (c.addRule d rule).2) ∧
    ((c.removeRule d rule).1 = true ↔ ∃ stored, c.registry.find? d rule.neighbor = some stored ∧
      (c.platform.perform (b.removeRule stored)).1 = .ok ()) ∧
    ((c.removeRule d rule).1 = false → Untouched c (c.removeRule d rule).2) ∧
    ((c.removeRule d rule).1 = true → ∃ stored,
      c.registry.find? d rule.neighbor = some stored ∧ stored.neighbor = rule.neighbor ∧
        TakesRule b d stored c (c.removeRule d rule).2) := by
  have hadd : c.addRule d rule = c.install b d rule := by rw [addRule, h.backend]
  have hremove : c.removeRule d rule = c.uninstall b d rule.neighbor := by
    rw [removeRule, h.backend]
  rw [hadd, hremove]
  exact ⟨install_eq_true_iff b d rule c, untouched_install, addsRule_install,
    uninstall_eq_true_iff b d rule.neighbor c, untouched_uninstall,
    takesRule_uninstall (counted_of_reachable h)⟩

/-- Only calls about rules get through to the kernel. -/
def onlyRules (_ : List Entry) : Call → Option String
  | .table .downstream6 _ => none
  | .table .. => some "busy"
  | _ => none

/-- A controller with one rule, on a platform that fails all else. -/
def hampered : Controller :=
  (start .default (.tables fun _ => true) true (.failing onlyRules .sorted)).runAll
    [.event (.addRule "wlan0" (sharedRule 10))]

/-- Its rule is not added twice and can be removed, another downstream can add the rule as well but
has none to remove, and the answers say so, although no limit, binding or counter gets anywhere. -/
theorem rules_atomic_hampered :
    Reachable .tables (.failing onlyRules .sorted) hampered ∧
    ((hampered.addRule "wlan0" (sharedRule 10)).1 = false ∧
      Untouched hampered (hampered.addRule "wlan0" (sharedRule 10)).2) ∧
    ((hampered.addRule "usb0" (sharedRule 11)).1 = true ∧
      AddsRule .tables "usb0" (sharedRule 11) hampered
        (hampered.addRule "usb0" (sharedRule 11)).2) ∧
    ((hampered.removeRule "usb0" (sharedRule 11)).1 = false ∧
      Untouched hampered (hampered.removeRule "usb0" (sharedRule 11)).2) ∧
    ((hampered.removeRule "wlan0" (sharedRule 11)).1 = true ∧
      ∃ stored, hampered.registry.find? "wlan0" (sharedRule 11).neighbor = some stored ∧
        TakesRule .tables "wlan0" stored hampered
          (hampered.removeRule "wlan0" (sharedRule 11)).2) := by
  have hreach : Reachable .tables (.failing onlyRules .sorted) hampered :=
    ⟨_, _, ⟨_, _, _, rfl, rfl⟩, (undergoAll_operations ..).symm⟩
  obtain ⟨-, hagain, -, -, -, -⟩ := rules_atomic hreach "wlan0" (sharedRule 10)
  obtain ⟨-, -, hadd, -, hnone, -⟩ := rules_atomic hreach "usb0" (sharedRule 11)
  obtain ⟨-, -, -, -, -, hremove⟩ := rules_atomic hreach "wlan0" (sharedRule 11)
  have hagain' : (hampered.addRule "wlan0" (sharedRule 10)).1 = false := by decide +kernel
  have hadd' : (hampered.addRule "usb0" (sharedRule 11)).1 = true := by decide +kernel
  have hnone' : (hampered.removeRule "usb0" (sharedRule 11)).1 = false := by decide +kernel
  have hremove' : (hampered.removeRule "wlan0" (sharedRule 11)).1 = true := by decide +kernel
  obtain ⟨stored, hfind, -, htakes⟩ := hremove hremove'
  exact ⟨hreach, ⟨hagain', hagain hagain'⟩, ⟨hadd', hadd hadd'⟩, ⟨hnone', hnone hnone'⟩,
    hremove', stored, hfind, htakes⟩

end Controller

end FastPath
