import FastPath.Proofs.History

/-!
# Counts of rules

The registry keeps the rules of downstreams, and the table of upstreams counts how many use each of
them. Both are changed step by step and each step can fail, but they never disagree: the count of an
upstream is the number of live rules on it. A downstream has one rule for a neighbor at most.
-/

namespace FastPath

namespace Controller

/-- The counts of upstreams are right, and no downstream has two rules for a neighbor. -/
structure Counted (c : Controller) : Prop where
  count : ∀ u, (c.upstreams.account u).ruleCount = c.registry.live.countP fun r => r.upstream = u
  distinct : ∀ d, ((c.rulesFor d).map Rule.neighbor).Nodup

variable {b : Backend} {names : IfIndex → String → Prop} {c c' : Controller}

/-- A change of accounts that counts no rule. -/
theorem Counted.of_ruleCount (h : Counted c) (hregistry : c'.registry = c.registry)
    (hcount : ∀ u, (c'.upstreams.account u).ruleCount = (c.upstreams.account u).ruleCount) :
    Counted c' where
  count u := by rw [hcount, hregistry, h.count]
  distinct d := by
    rw [rulesFor, hregistry]
    exact h.distinct d

/-- A rule for a neighbor that the downstream has none for is counted when it is added. -/
theorem Counted.add (h : Counted c) {d : DownstreamId} {rule : Rule}
    (hfree : c.registry.find? d rule.neighbor = none)
    (hregistry : c'.registry = c.registry.push d rule)
    (hupstreams : c'.upstreams = c.upstreams.acquire rule.upstream) : Counted c' where
  count u := by
    have hlive := c.registry.live_push d rule
    rw [hregistry, hupstreams, hlive.countP_eq, List.countP_cons, ← h.count,
      UpstreamTable.account_acquire]
    split
    · rename_i hu
      simp [hu]
    · rename_i hu
      simp [hu]
  distinct d' := by
    rw [rulesFor, hregistry, Registry.rulesFor_push]
    split
    · -- The list has no rule for the neighbor yet, or the rule had not been added.
      rw [List.map_append, List.nodup_append]
      refine ⟨h.distinct d, by simp, fun n hn n' hn' heq => ?_⟩
      obtain ⟨r, hr, rfl⟩ := List.mem_map.mp hn
      obtain rfl := List.mem_singleton.mp hn'
      exact List.find?_eq_none.mp hfree r hr (decide_eq_true heq)
    · exact h.distinct d'

/-- A live rule is counted no more when it is removed. -/
theorem Counted.remove (h : Counted c) {d : DownstreamId} {n : Ipv6} {rule : Rule}
    (hfind : c.registry.find? d n = some rule)
    (hregistry : c'.registry = c.registry.erase d n)
    (hupstreams : c'.upstreams = c.upstreams.release rule.upstream) : Counted c' where
  count u := by
    -- The removed rule was counted, so that the count of its upstream is not zero.
    have hcount := h.count u
    rw [(c.registry.live_erase hfind).countP_eq, List.countP_cons] at hcount
    rw [hregistry, hupstreams, UpstreamTable.account_release]
    split
    · rename_i hu
      rw [if_pos (decide_eq_true hu)] at hcount
      show (c.upstreams.account rule.upstream).ruleCount - 1 = _
      rw [hu, hcount, Nat.add_sub_cancel]
    · rename_i hu
      rwa [if_neg (by simpa using hu)] at hcount
  distinct d' := by
    rw [rulesFor, hregistry, Registry.rulesFor_erase]
    split
    · exact ((List.eraseP_sublist).map _).nodup (h.distinct d)
    · exact h.distinct d'

/-- Every move keeps the counts right. -/
theorem Counted.move (hmove : Move b names c c') (h : Counted c) : Counted c' := by
  cases hmove with
  | rest hr => exact h.of_ruleCount hr.registry fun u => by rw [hr.account]
  | add hfree hs => exact h.add hfree rfl rfl
  | remove hfind hs => exact h.remove hfind rfl rfl
  | fold hs =>
    refine h.of_ruleCount rfl fun u => ?_
    rw [UpstreamTable.account_foldFinal]
    split
    · rename_i hu
      rw [← hu]
      rfl
    · rfl
  | forget hnil => exact {
      count := fun u => by rw [h.count, ← (c.registry.live_forget hnil).countP_eq]
      distinct := fun d => by
        rw [rulesFor, Registry.rulesFor_forget_of_nil _ hnil]
        exact h.distinct d }
  | name hname =>
    refine h.of_ruleCount rfl fun u => ?_
    rw [UpstreamTable.account_setName]
    split
    · rename_i hu
      rw [← hu]
    · rfl
  | read hs =>
    refine h.of_ruleCount rfl fun u => ?_
    obtain ⟨last, hlast⟩ := c.upstreams.exists_account_foldl_recordReading u
      (c.platform.stores.readings b)
    rw [hlast]
  | publish =>
    obtain ⟨p, hpublish, -⟩ := publish_cases c
    rw [hpublish]
    refine h.of_ruleCount rfl fun u => ?_
    rw [UpstreamTable.account_settle]
    split <;> rfl

/-- A controller that is at work on nothing has nothing to count. -/
theorem counted_of_blank {p : Platform} (h : Blank b p c) : Counted c where
  count u := by rw [h.registry, h.upstreams]; rfl
  distinct d := by
    rw [rulesFor, h.registry, Registry.rulesFor_empty]
    exact List.nodup_nil

/-- Rules use an upstream if it is counted. -/
theorem Counted.ruleCount_ne_zero (h : Counted c) (u : IfIndex) :
    c.upstreams.ruleCount u ≠ 0 ↔ ∃ d, ∃ r ∈ c.rulesFor d, r.upstream = u := by
  rw [UpstreamTable.ruleCount_eq, h.count, Registry.countP_live_ne_zero]
  simp only [decide_eq_true_iff]
  rfl

/-- The upstream of a rule that is found is in use. -/
theorem Counted.ruleCount_ne_zero_of_find? (h : Counted c) {d : DownstreamId} {n : Ipv6}
    {rule : Rule} (hfind : c.registry.find? d n = some rule) :
    c.upstreams.ruleCount rule.upstream ≠ 0 :=
  (h.ruleCount_ne_zero rule.upstream).mpr ⟨d, rule, List.mem_of_find?_eq_some hfind, rfl⟩

/-- Counts are right at any time. -/
theorem counted_of_reachable {p : Platform} (h : Reachable b p c) : Counted c :=
  h.preserves counted_of_blank Counted.move fun _ _ h => h.of_ruleCount rfl fun _ => rfl

/-- Whatever is asked of a controller and whatever fails, an upstream is counted as many times as
there are live rules on it, and no downstream has two rules for a neighbor. -/
theorem ruleCount_eq_countP_live {p : Platform} (h : Reachable b p c) :
    (∀ u, c.upstreams.ruleCount u = c.registry.live.countP fun r => r.upstream = u) ∧
      ∀ d, ((c.rulesFor d).map Rule.neighbor).Nodup := by
  have hcounted : Counted c :=
    h.preserves counted_of_blank Counted.move fun _ _ h => h.of_ruleCount rfl fun _ => rfl
  exact ⟨fun u => by rw [UpstreamTable.ruleCount_eq, hcounted.count], hcounted.distinct⟩

/-- Two downstreams with a rule each on one upstream are counted as two. -/
theorem ruleCount_shared :
    Reachable .tables .empty (shared (.tables fun _ => true) []) ∧
      (shared (.tables fun _ => true) []).upstreams.ruleCount 100 = 2 ∧
      (shared (.tables fun _ => true) []).registry.live.countP (fun r => r.upstream = 100) = 2 :=
  ⟨reachable_shared_tables [], by decide +kernel,
    ((ruleCount_eq_countP_live (reachable_shared_tables [])).1 100).symm.trans (by decide +kernel)⟩

end Controller

end FastPath
