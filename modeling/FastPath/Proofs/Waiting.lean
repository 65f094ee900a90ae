import FastPath.Proofs.Limits

/-!
# Limits that wait

A limit waits while no upstream has its name, and an upstream that is told its name takes the limit
up. This is done only if the name is news, which depends on a relation between two tables that
nobody checks: no limit waits for a name that an upstream has. `pendingLimits_unnamed` shows it at
any time, so that a name which is no news leaves nothing behind, and shows of a limit that waits
that no later one was accepted for its name.
-/

namespace FastPath

open Std

/-! ## In the directives -/

/-- No limit waits for a name that an upstream has. -/
theorem waiting_of_nameIn {past : List Directive} {i : IfIndex} {n : String}
    (h : nameIn past i = some n) : waiting past n = none := by
  induction past with
  | nil => rfl
  | cons d past ih =>
    cases d with
    | limit m q =>
      -- The name has a bearer, so the limit is granted.
      have hbearer : bearer past n ≠ none := by
        have hi : i ∈ (past.filterMap Directive.index?).filter fun j => nameIn past j = some n :=
          List.mem_filter.mpr ⟨List.mem_filterMap.mpr ⟨_, mem_of_nameIn h, rfl⟩, decide_eq_true h⟩
        rw [bearer, ne_eq, List.min?_eq_none_iff]
        exact List.ne_nil_of_mem hi
      rw [waiting, if_neg fun hm => hbearer hm.2]
      exact ih h
    | name j m =>
      rw [waiting]
      split
      · rfl
      · rename_i hold
        refine ih ?_
        rw [nameIn] at h
        split at h
        · -- The upstream has just been told its name, which was no news then.
          rename_i hij
          obtain rfl := Option.some.inj h
          rw [← hij]
          exact Decidable.of_not_not fun hnew => hold ⟨rfl, hnew⟩
        · exact h

/-- A limit that waits is the last one that was accepted for its name. -/
theorem lastLimit_of_waiting {past : List Directive} {n : String} {q : Quota}
    (h : waiting past n = some q) : lastLimit past n = some q := by
  induction past with
  | nil => cases h
  | cons d past ih =>
    cases d with
    | limit m q' =>
      rw [lastLimit]
      rw [waiting] at h
      by_cases hm : m = n
      · subst hm
        rw [if_pos rfl]
        cases hbearer : bearer past m with
        | none =>
          rw [if_pos ⟨rfl, hbearer⟩] at h
          exact h
        | some i =>
          -- The limit is granted, and with a bearer there was none that waited before.
          have hname : nameIn past i = some m := (bearer_eq_some_iff.mp hbearer).1
          have hsome : bearer past m ≠ none := by
            rw [hbearer]
            exact Option.some_ne_none i
          rw [if_neg fun hnone => hsome hnone.2, waiting_of_nameIn hname] at h
          cases h
      · rw [if_neg fun hnone => hm hnone.1] at h
        rw [if_neg hm]
        exact ih h
    | name j m =>
      rw [waiting] at h
      rw [lastLimit]
      split at h
      · cases h
      · exact ih h

namespace Controller

variable {b : Backend} {c c' : Controller} {past : List Directive} {i : IfIndex} {n : String}
  {q : Quota}

/-! ## In the tables -/

/-- No limit waits for a name that an upstream has. -/
theorem Limited.notMem_pendingLimits (h : Limited past c) (hname : c.upstreams.nameOf i = some n) :
    n ∉ c.pendingLimits := by
  rw [UpstreamTable.nameOf_eq, h.name] at hname
  rw [ExtTreeMap.mem_iff_isSome_getElem?, h.pending, waiting_of_nameIn hname]
  exact Bool.false_ne_true

/-- After a step, limits are as some directives have it. -/
theorem Limited.step {names : IfIndex → String → Prop} (h : Limited past c)
    (hstep : Step b names c c') : ∃ past', Limited past' c' := by
  cases hstep with
  | chore hchore => exact ⟨past, h.keep hchore.keepsLimits⟩
  | nameUpstream i n => exact ⟨_, h.nameUpstream i n⟩
  | limit iface q => exact ⟨_, h.limit iface q⟩

/-- At any time limits are as some directives have it. -/
theorem exists_limited {p : Platform} (h : Reachable b p c) : ∃ past, Limited past c :=
  h.preserves_steps (I := fun c => ∃ past, Limited past c)
    (fun _ _ _ => ⟨[], fun _ => rfl, fun _ => rfl, fun _ => rfl⟩)
    (fun hstep ⟨_, hc⟩ => hc.step hstep) fun _ _ ⟨past, hc⟩ => ⟨past, hc.keep (.of_eq rfl rfl)⟩

/-- Where no limit waits, nothing is done. -/
theorem resolveLimit_of_none (hnone : c.pendingLimits[n]? = none) : c.resolveLimit b i n = c := by
  simp only [resolveLimit, hnone]

/-- A name that is no news is one that the upstream has, and it changes nothing. -/
theorem rename_eq_false (h : (c.rename i n).1 = false) :
    c.upstreams.nameOf i = some n ∧ (c.rename i n).2 = c := by
  unfold rename at h ⊢
  cases hold : c.upstreams.nameOf i with
  | none =>
    simp only [hold] at h
    cases h
  | some old =>
    simp only [hold] at h ⊢
    by_cases heq : old = n
    · rw [if_pos heq]
      exact ⟨congrArg some heq, rfl⟩
    · rw [if_neg heq] at h
      cases h

/-- An upstream that is told its name has taken up the limit that waited for the name, if one did,
and no other. -/
theorem Limited.takesLimit (h : Limited past c) (hi : i ≠ 0) (hn : n ≠ "") :
    (c.nameUpstream b i n).upstreams.nameOf i = some n ∧
      n ∉ (c.nameUpstream b i n).pendingLimits ∧
      (c.nameUpstream b i n).upstreams.quota i =
        c.pendingLimits[n]?.getD (c.upstreams.quota i) ∧
      ∀ m ≠ n, (c.nameUpstream b i n).pendingLimits[m]? = c.pendingLimits[m]? := by
  have hdirective : Directive.ofName? i n = some (.name i n) := if_neg (by simp [hi, hn])
  have hnext : Limited (.name i n :: past) (c.nameUpstream b i n) := by
    have hnamed := h.nameUpstream (b := b) i n
    rwa [hdirective] at hnamed
  have hname : (c.nameUpstream b i n).upstreams.nameOf i = some n := by
    rw [UpstreamTable.nameOf_eq, hnext.name, nameIn, if_pos rfl]
  refine ⟨hname, hnext.notMem_pendingLimits hname, ?_, fun m hm => ?_⟩
  · rw [hnext.quota, h.pending, h.quota]
    by_cases hold : nameIn past i = some n
    · -- The name is no news, and then no limit waits for it.
      have hsame : ¬(i = i ∧ nameIn past i ≠ some n) := fun hnew => hnew.2 hold
      rw [granted, if_neg hsame, waiting_of_nameIn hold, Option.getD_none]
    · rw [granted_newName hold, if_pos rfl]
      cases waiting past n <;> rfl
  · have hother : ¬(n = m ∧ nameIn past i ≠ some m) := fun hnew => hm hnew.1.symm
    rw [hnext.pending, h.pending, waiting, if_neg hother]

/-! ## Every history -/

/-- At any time no limit waits for a name that an upstream has. Hence a name that is no news has no
limit to take up, and an upstream that is told its name leaves none behind. A limit that waits is
the last one that was accepted for its name. -/
theorem pendingLimits_unnamed {config : Config} {source : Source} {attacher : Bool} {p : Platform}
    (hb : (start config source attacher p).backend = some b) (hs : List Happening) :
    let c := (start config source attacher p).undergoAll b hs
    (∀ n ∈ c.pendingLimits, ∀ (i : IfIndex) (u : Upstream),
      c.upstreams.records[i]? = some u → u.name ≠ some n) ∧
    (∀ i n, (c.rename i n).1 = false →
      (c.rename i n).2 = c ∧ (c.rename i n).2.resolveLimit b i n = c) ∧
    (∀ i n, i ≠ 0 → n ≠ "" →
      let c' := c.addUpstreamName i n
      c'.upstreams.nameOf i = some n ∧ n ∉ c'.pendingLimits ∧
        c'.upstreams.quota i = c.pendingLimits[n]?.getD (c.upstreams.quota i) ∧
        ∀ m ≠ n, c'.pendingLimits[m]? = c.pendingLimits[m]?) ∧
    ∀ n q, c.pendingLimits[n]? = some q → lastLimit (directives config hs) n = some q := by
  intro c
  have hlimited : Limited (directives config hs) c := limited_directives hb hs
  have hbackend : c.backend = some b := backend_undergoAll hs hb
  refine ⟨fun n hwaits i u hu hname => ?_, fun i n hsame => ?_, fun i n hi hn => ?_,
    fun n q hwaits => ?_⟩
  · have hnamed : c.upstreams.nameOf i = some n := by
      rw [UpstreamTable.nameOf, hu]
      exact hname
    exact hlimited.notMem_pendingLimits hnamed hwaits
  · obtain ⟨hnamed, hrename⟩ := rename_eq_false hsame
    have hnone : c.pendingLimits[n]? = none :=
      ExtTreeMap.getElem?_eq_none (hlimited.notMem_pendingLimits hnamed)
    rw [hrename]
    exact ⟨rfl, resolveLimit_of_none hnone⟩
  · have hadd : c.addUpstreamName i n = c.nameUpstream b i n := by
      rw [addUpstreamName, withBackend, hbackend]
    rw [hadd]
    exact hlimited.takesLimit hi hn
  · rw [hlimited.pending] at hwaits
    exact lastLimit_of_waiting hwaits

/-- A name goes from one upstream to two, and then to none, while limits are set for it. The last
one that is accepted waits. -/
def passedOn : List Happening :=
  [.operation (.event (.setLimit "rmnet0" 7000)),
    .operation (.event (.upstreamName 100 "rmnet0")),
    .operation (.event (.upstreamName 101 "rmnet0")),
    .operation (.event (.upstreamName 100 "rmnet1")),
    .operation (.event (.setLimit "rmnet0" 6000)),
    .operation (.event (.upstreamName 101 "rmnet2")),
    .operation (.event (.setLimit "rmnet0" 5000)),
    .operation (.event (.setLimit "rmnet0" (-5)))]

/-- The limit waits while no upstream has the name, and the next one that is told it takes it up. -/
theorem pendingLimits_passedOn :
    let c := (start .default (.tables fun _ => true) true .empty).undergoAll .tables passedOn
    c.pendingLimits["rmnet0"]? = some 5000 ∧
      lastLimit (directives .default passedOn) "rmnet0" = some 5000 ∧
      (∀ (i : IfIndex) (u : Upstream),
        c.upstreams.records[i]? = some u → u.name ≠ some "rmnet0") ∧
      c.upstreams.quota 100 = 7000 ∧
      (c.rename 100 "rmnet1").1 = false ∧ c.resolveLimit .tables 100 "rmnet1" = c ∧
      (c.addUpstreamName 100 "rmnet0").upstreams.quota 100 = 5000 ∧
      "rmnet0" ∉ (c.addUpstreamName 100 "rmnet0").pendingLimits := by
  intro c
  have hwaits : c.pendingLimits["rmnet0"]? = some 5000 := by decide +kernel
  have hsame : (c.rename 100 "rmnet1").1 = false := by decide +kernel
  have hb : (start .default (.tables fun _ => true) true .empty).backend = some .tables := rfl
  obtain ⟨hunnamed, hskip, htake, hlast⟩ := pendingLimits_unnamed hb passedOn
  obtain ⟨-, hnone, hquota, -⟩ := htake 100 "rmnet0" (by decide) (by decide)
  obtain ⟨hrename, hresolve⟩ := hskip 100 "rmnet1" hsame
  have hmem : "rmnet0" ∈ c.pendingLimits := by
    rw [ExtTreeMap.mem_iff_isSome_getElem?, hwaits]
    rfl
  rw [hrename] at hresolve
  refine ⟨hwaits, hlast _ _ hwaits, hunnamed _ hmem, by decide +kernel, hsame, hresolve, ?_, hnone⟩
  rw [hquota]
  exact congrArg (Option.getD · _) hwaits

end Controller

end FastPath
