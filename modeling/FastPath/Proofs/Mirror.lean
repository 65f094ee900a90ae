import FastPath.Proofs.Counts
import FastPath.Proofs.Outcomes

/-!
# Limits, counters and bindings mirror the rules

A backend keeps a limit and counters for each upstream, and the kernel tables keep a binding for
each downstream interface. While no call of the backend fails they are there exactly for the
upstreams and the interfaces of live rules, and each limit is the one that the upstream has:
`Mirrors` says so, and it is what makes the next call succeed.

A `Deed` is what a step comes to on a willing platform. Rules are added and removed with all that
goes with them, a limit is set, or nothing happens to rules and stores.
-/

namespace FastPath

open Std

/-! ## Tables with a key for each count -/

section

variable {κ ν : Type} [Ord κ] [TransOrd κ] [LawfulEqOrd κ] [DecidableEq κ]
  {t : ExtTreeMap κ ν} {k : κ} {before after : κ → Nat}

/-- The key of a first count is put into the table. -/
theorem mem_with_first (h : ∀ k, k ∈ t ↔ before k ≠ 0) (v : ν) (k' : κ)
    (hmore : after k' = before k' + if k = k' then 1 else 0) :
    k' ∈ (if before k = 0 then t.insert k v else t) ↔ after k' ≠ 0 := by
  rw [hmore]
  by_cases hk : k = k'
  · subst hk
    rw [if_pos rfl, iff_true_right (Nat.succ_ne_zero _)]
    split
    · exact ExtTreeMap.mem_insert_self
    · rename_i hused
      exact (h k).mpr hused
  · rw [if_neg hk, Nat.add_zero, ← h]
    split
    · rw [ExtTreeMap.mem_insert, Std.compare_eq_iff_eq, or_iff_right hk]
    · rfl

/-- The key of a first count is put into the table with its value. -/
theorem getElem?_with_first {value : κ → ν}
    (h : ∀ k, t[k]? = if before k = 0 then none else some (value k)) (k' : κ)
    (hmore : after k' = before k' + if k = k' then 1 else 0) :
    (if before k = 0 then t.insert k (value k) else t)[k']? =
      if after k' = 0 then none else some (value k') := by
  rw [hmore]
  by_cases hk : k = k'
  · subst hk
    rw [if_pos rfl, if_neg (Nat.succ_ne_zero _)]
    split
    · rw [ExtTreeMap.getElem?_insert_self]
    · rename_i hused
      rw [h, if_neg hused]
  · rw [if_neg hk, Nat.add_zero, ← h]
    split
    · rw [ExtTreeMap.getElem?_insert, if_neg (mt Std.compare_eq_iff_eq.mp hk)]
    · rfl

/-- The key of a last count is erased. -/
theorem getElem?_without_last {value : κ → ν}
    (h : ∀ k, t[k]? = if before k = 0 then none else some (value k)) (k' : κ)
    (hless : before k' = after k' + if k = k' then 1 else 0) :
    (if before k = 1 then t.erase k else t)[k']? =
      if after k' = 0 then none else some (value k') := by
  by_cases hk : k = k'
  · subst hk
    rw [if_pos rfl] at hless
    split
    · rename_i hlast
      rw [ExtTreeMap.getElem?_erase_self, if_pos (by omega)]
    · rename_i hmore
      rw [h, if_neg (by omega), if_neg (by omega)]
  · rw [if_neg hk, Nat.add_zero] at hless
    rw [← hless, ← h]
    split
    · rw [ExtTreeMap.getElem?_erase, if_neg (mt Std.compare_eq_iff_eq.mp hk)]
    · rfl

/-- Only the key of a last count is missing then. -/
theorem mem_without_last (h : ∀ k, k ∈ t ↔ before k ≠ 0) (k' : κ)
    (hless : before k' = after k' + if k = k' then 1 else 0) :
    k' ∈ (if before k = 1 then t.erase k else t) ↔ after k' ≠ 0 := by
  by_cases hk : k = k'
  · subst hk
    rw [if_pos rfl] at hless
    split
    · refine iff_of_false (by simp) fun hmore => ?_
      omega
    · rw [h]
      omega
  · rw [if_neg hk, Nat.add_zero] at hless
    rw [← hless, ← h]
    split
    · rw [ExtTreeMap.mem_erase, and_iff_right (mt Std.compare_eq_iff_eq.mp hk)]
    · rfl

end

namespace Controller

open Platform

variable {b : Backend} {names : IfIndex → String → Prop} {c c' : Controller}

/-! ## What steps come to -/

/-- From `c` to `c'` rules, their counts, limits and stores stay, and the journal tells of no
rule. -/
structure Stays (c c' : Controller) : Prop where
  registry : c'.registry = c.registry
  count : ∀ i, c'.upstreams.ruleCount i = c.upstreams.ruleCount i
  quota : ∀ i, c'.upstreams.quota i = c.upstreams.quota i
  stores : c'.platform.stores = c.platform.stores
  follows : c.platform.Follows c'.platform

theorem Stays.refl (c : Controller) : Stays c c :=
  ⟨rfl, fun _ => rfl, fun _ => rfl, rfl, .refl _⟩

theorem Stays.trans {c'' : Controller} (h : Stays c c') (h' : Stays c' c'') : Stays c c'' where
  registry := h'.registry.trans h.registry
  count i := (h'.count i).trans (h.count i)
  quota i := (h'.quota i).trans (h.quota i)
  stores := h'.stores.trans h.stores
  follows := h.follows.trans h'.follows

/-- An idle controller stays. -/
theorem Idle.stays (h : Idle c c') : Stays c c' where
  registry := h.registry
  count i := by rw [UpstreamTable.ruleCount_eq, h.account, UpstreamTable.ruleCount_eq]
  quota := h.quota
  stores := h.platform.stores
  follows := h.platform.follows

/-- A change of accounts that counts no rule and sets no limit. -/
theorem stays_upstreams {t : UpstreamTable} {p : Platform}
    (hcount : ∀ i, (t.account i).ruleCount = (c.upstreams.account i).ruleCount)
    (hquota : ∀ i, t.quota i = c.upstreams.quota i) (hstores : p.stores = c.platform.stores)
    (hfollows : c.platform.Follows p) : Stays c { c with upstreams := t, platform := p } where
  registry := rfl
  count i := by rw [UpstreamTable.ruleCount_eq, hcount, UpstreamTable.ruleCount_eq]
  quota := hquota
  stores := hstores
  follows := hfollows

/-- A name is nothing to rules and limits. -/
theorem stays_setName (c : Controller) (i : IfIndex) (name : String) :
    Stays c { c with upstreams := c.upstreams.setName i name } := by
  refine stays_upstreams (fun j => ?_) (fun j => c.upstreams.quota_setName i j name) rfl (.refl _)
  rw [UpstreamTable.account_setName]
  split
  · rename_i hij
    rw [← hij]
  · rfl

/-- Nor are readings. -/
theorem stays_read (readings : List InterfaceTraffic) {p : Platform}
    (hp : c.platform.Works c.platform.stores p) : Stays c { c with
      platform := p
      upstreams := readings.foldl UpstreamTable.recordReading c.upstreams } := by
  refine stays_upstreams (fun i => ?_) (fun i => c.upstreams.quota_foldl_recordReading i _)
    hp.stores hp.follows
  obtain ⟨last, haccount⟩ := c.upstreams.exists_account_foldl_recordReading i readings
  rw [haccount]

/-- Nor is a publication. -/
theorem stays_publish (c : Controller) : Stays c c.publish := by
  have hcount : ∀ i, (c.upstreams.settle.account i).ruleCount =
      (c.upstreams.account i).ruleCount := by
    intro i
    rw [UpstreamTable.account_settle]
    split <;> rfl
  obtain ⟨p, hpublish, ⟨-, rfl⟩ | rfl⟩ := publish_cases c <;> rw [hpublish]
  · exact stays_upstreams hcount c.upstreams.quota_settle rfl (follows_push _ rfl rfl)
  · exact stays_upstreams hcount c.upstreams.quota_settle rfl (follows_push _ rfl rfl)

/-- What a step with the backend `b` comes to on a willing platform. -/
inductive Deed (b : Backend) (c : Controller) : Controller → Prop
  | stay {c' : Controller} (h : Stays c c') : Deed b c c'
  | forget {d : DownstreamId} (h : c.rulesFor d = []) :
    Deed b c { c with registry := c.registry.forget d }
  | add {d : DownstreamId} {rule : Rule} {p q : Platform}
    (hfree : c.registry.find? d rule.neighbor = none)
    (hp : c.platform.Works (c.platform.stores.install b rule) p)
    (hq : (p.note (.ruleAdded rule d)).Works (c.storesWith b rule) q) :
    Deed b c { c with
      platform := q
      registry := c.registry.push d rule
      upstreams := c.upstreams.acquire rule.upstream }
  | remove {d : DownstreamId} {n : Ipv6} {rule : Rule} {p q : Platform}
    (hfind : c.registry.find? d n = some rule)
    (hp : c.platform.Works (c.platform.stores.uninstall b rule) p)
    (hq : (p.note (.ruleRemoved rule d)).Works (c.storesWithout b rule) q) :
    Deed b c { c with
      platform := q
      registry := c.registry.erase d n
      upstreams := c.upstreamsWithout b rule.upstream }
  | limit {c' : Controller} {i : IfIndex} {quota : Quota} {p : Platform} (h : Stays c c')
    (hp : c'.platform.Works (if c'.upstreams.ruleCount i = 0
      then c'.platform.stores else c'.platform.stores.setLimit b i quota) p) :
    Deed b c { c' with
      platform := p
      upstreams := c'.upstreams.modify i fun u => { u with quota } }

/-- The stores have limits and counters exactly for the upstreams of rules, and bindings exactly for
their interfaces. Each limit is that of its upstream. -/
structure Mirrors (b : Backend) (c : Controller) : Prop where
  willing : c.platform.Willing
  limits : ∀ u, (c.platform.stores.limits b)[u]? =
    if c.upstreams.ruleCount u = 0 then none else some (c.upstreams.quota u)
  counters : b = .tables → ∀ u, u ∈ c.platform.kernel.stats ↔ c.upstreams.ruleCount u ≠ 0
  bindings : b = .tables → ∀ d, d ∈ c.platform.kernel.upstream6 ↔ c.registry.rulesOn d ≠ 0

/-- An upstream with rules has counters. -/
theorem Mirrors.hasCounters (h : Mirrors b c) {u : IfIndex} (hu : c.upstreams.ruleCount u ≠ 0) :
    c.platform.stores.HasCounters b u :=
  fun hb => (h.counters hb u).mpr hu

/-- An interface without rules is not bound. -/
theorem Mirrors.unbound (h : Mirrors b c) {d : IfIndex} (hb : b = .tables)
    (hd : c.registry.rulesOn d = 0) : d ∉ c.platform.kernel.upstream6 :=
  fun hmem => (h.bindings hb d).mp hmem hd

/-- Counts stay right. -/
theorem Counted.stay (h : Counted c) (hs : Stays c c') : Counted c' :=
  h.of_ruleCount hs.registry fun u => by
    rw [← UpstreamTable.ruleCount_eq, hs.count, UpstreamTable.ruleCount_eq]

/-- Limits, counters and bindings stay with the rules. -/
theorem Mirrors.stay (h : Mirrors b c) (hs : Stays c c') : Mirrors b c' where
  willing := hs.follows.willing h.willing
  limits u := by rw [hs.stores, hs.count, hs.quota, h.limits]
  counters hb u := by
    rw [hs.count, ← h.counters hb u]
    exact iff_of_eq (congrArg (fun x : Stores => u ∈ x.kernel.stats) hs.stores)
  bindings hb d := by
    rw [hs.registry, ← h.bindings hb d]
    exact iff_of_eq (congrArg (fun x : Stores => d ∈ x.kernel.upstream6) hs.stores)

/-- A limit is applied to an upstream, whatever happened before that left rules and stores alone. -/
theorem Mirrors.deed_applyLimit (h : Mirrors b c) (hs : Stays c c') (i : IfIndex) (q : Quota) :
    Deed b c (c'.applyLimit b i q) := by
  have h' : Mirrors b c' := h.stay hs
  obtain ⟨p, hp, happly⟩ := applyLimit_willing (b := b) i q h'.willing h'.hasCounters
  rw [happly]
  exact .limit hs hp

/-- Every chore is a deed. -/
theorem Chore.deed (hchore : Chore b c c') (h : Mirrors b c) : Deed b c c' := by
  cases hchore with
  | install d rule =>
    rcases install_cases b d rule c with ⟨p, hinstall, hp⟩ | ⟨hfree, -⟩
    · rw [hinstall]
      exact .stay ⟨rfl, fun _ => rfl, fun _ => rfl, hp.stores, hp.follows⟩
    · obtain ⟨p, q, hp, hq, hinstall⟩ := install_willing h.willing hfree fun hb => h.unbound hb
      rw [hinstall]
      exact .add hfree hp hq
  | uninstall d n =>
    rcases uninstall_cases b d n c with ⟨p, huninstall, hp⟩ | ⟨rule, hfind, -⟩
    · rw [huninstall]
      exact .stay ⟨rfl, fun _ => rfl, fun _ => rfl, hp.stores, hp.follows⟩
    · obtain ⟨p, q, hp, hq, huninstall⟩ := uninstall_willing (b := b) h.willing hfind fun hone =>
        h.hasCounters (by rw [hone]; exact Nat.one_ne_zero)
      rw [huninstall]
      exact .remove hfind hp hq
  | forget d hnil => exact .forget hnil
  | poll =>
    rcases poll_cases b c with hidle | ⟨p, hs, hidle⟩
    · exact .stay hidle.stays
    · exact .stay ((stays_read _ hs.works).trans hidle.stays)
  | publish => exact .stay (stays_publish c)
  | still hstill => exact .stay hstill.idle.stays

/-- Every step is a deed. -/
theorem Step.deed (hstep : Step b names c c') (h : Mirrors b c) : Deed b c c' := by
  cases hstep with
  | chore hchore => exact hchore.deed h
  | nameUpstream i name =>
    have hname := stays_setName c i name
    unfold Controller.nameUpstream
    split
    · exact .stay (idle_note c rfl).stays
    · rcases rename_cases i name c with ⟨hrename, -⟩ | ⟨c₁, hrename, hidle⟩ <;> rw [hrename]
      · exact .stay (.refl c)
      · have hnamed : Idle c₁ (c₁.note (.upstreamNamed i name)) := idle_note c₁ rfl
        have hstays := hname.trans (hidle.trans hnamed).stays
        dsimp only
        unfold resolveLimit
        -- Only a limit that waits for the name is applied.
        split
        · rename_i q hq
          refine h.deed_applyLimit (hstays.trans ?_) i q
          exact ⟨rfl, fun _ => rfl, fun _ => rfl, rfl, follows_push _ rfl rfl⟩
        · exact .stay hstays
  | limit iface q =>
    unfold Controller.limit
    split
    · exact .stay (.refl c)
    · split
      · exact h.deed_applyLimit (.refl c) _ q
      · exact .stay ⟨rfl, fun _ => rfl, fun _ => rfl, rfl, follows_push _ rfl rfl⟩

/-! ## What deeds preserve -/

/-- A rule that is added brings along what is missing. -/
theorem Mirrors.add (hb : b ≠ .rehearsal) (h : Mirrors b c) {d : DownstreamId} {rule : Rule}
    {p q : Platform} (hp : c.platform.Works (c.platform.stores.install b rule) p)
    (hq : (p.note (.ruleAdded rule d)).Works (c.storesWith b rule) q) :
    Mirrors b { c with
      platform := q
      registry := c.registry.push d rule
      upstreams := c.upstreams.acquire rule.upstream } := by
  have hcount := c.upstreams.ruleCount_acquire rule.upstream
  refine ⟨hq.willing (hp.willing h.willing), fun u => ?_, fun htables u => ?_, fun htables i => ?_⟩
  · dsimp only
    rw [hq.stores, limits_storesWith c rule hb, UpstreamTable.quota_acquire]
    exact getElem?_with_first h.limits u (hcount u)
  · subst htables
    show u ∈ q.stores.kernel.stats ↔ _
    rw [hq.stores, mem_stats_storesWith]
    exact mem_with_first (h.counters rfl) _ u (hcount u)
  · subst htables
    show i ∈ q.stores.kernel.upstream6 ↔ _
    rw [hq.stores, upstream6_storesWith]
    exact mem_with_first (h.bindings rfl) _ i (c.registry.rulesOn_push d rule i)

/-- A rule that is removed takes along what it was the last one to need. -/
theorem Mirrors.remove (hb : b ≠ .rehearsal) (h : Mirrors b c) {d : DownstreamId} {n : Ipv6}
    {rule : Rule} {p q : Platform} (hfind : c.registry.find? d n = some rule)
    (hcounted : Counted c)
    (hp : c.platform.Works (c.platform.stores.uninstall b rule) p)
    (hq : (p.note (.ruleRemoved rule d)).Works (c.storesWithout b rule) q) :
    Mirrors b { c with
      platform := q
      registry := c.registry.erase d n
      upstreams := c.upstreamsWithout b rule.upstream } := by
  -- The removed rule was counted, so its upstream has one rule less.
  have hcount : ∀ u, c.upstreams.ruleCount u =
      (c.upstreamsWithout b rule.upstream).ruleCount u + if rule.upstream = u then 1 else 0 := by
    intro u
    rw [ruleCount_upstreamsWithout]
    split
    · rename_i hu
      have hused := hcounted.ruleCount_ne_zero_of_find? hfind
      rw [← hu]
      omega
    · rfl
  refine ⟨hq.willing (hp.willing h.willing), fun u => ?_, fun htables u => ?_, fun htables i => ?_⟩
  · dsimp only
    rw [hq.stores, limits_storesWithout c rule hb, quota_upstreamsWithout]
    exact getElem?_without_last h.limits u (hcount u)
  · subst htables
    show u ∈ q.stores.kernel.stats ↔ _
    rw [hq.stores, stats_storesWithout]
    exact mem_without_last (h.counters rfl) u (hcount u)
  · subst htables
    show i ∈ q.stores.kernel.upstream6 ↔ _
    rw [hq.stores, upstream6_storesWithout]
    exact mem_without_last (h.bindings rfl) i (c.registry.rulesOn_erase hfind i)

/-- A limit has to do neither with counters nor with bindings. -/
theorem stats_upstream6_of_limit {i : IfIndex} {quota : Quota} {p : Platform}
    (hp : c.platform.Works (if c.upstreams.ruleCount i = 0
      then c.platform.stores else c.platform.stores.setLimit b i quota) p) :
    p.kernel.stats = c.platform.kernel.stats ∧
      p.kernel.upstream6 = c.platform.kernel.upstream6 := by
  have hkernel : p.kernel = (if c.upstreams.ruleCount i = 0
      then c.platform.stores else c.platform.stores.setLimit b i quota).kernel :=
    congrArg Stores.kernel hp.stores
  rw [hkernel]
  split
  · exact ⟨rfl, rfl⟩
  · cases b <;> exact ⟨rfl, rfl⟩

/-- A limit that is applied is set where there are counters. -/
theorem Mirrors.limit (hb : b ≠ .rehearsal) (h : Mirrors b c) {i : IfIndex} {quota : Quota}
    {p : Platform} (hp : c.platform.Works (if c.upstreams.ruleCount i = 0
      then c.platform.stores else c.platform.stores.setLimit b i quota) p) :
    Mirrors b { c with
      platform := p
      upstreams := c.upstreams.modify i fun u => { u with quota } } := by
  have hcount := fun u => c.upstreams.ruleCount_modify_quota i u quota
  have hkernel := stats_upstream6_of_limit hp
  refine ⟨hp.willing h.willing, fun u => ?_, fun htables u => ?_, fun htables d => ?_⟩
  · dsimp only
    rw [hp.stores, hcount, UpstreamTable.quota_modify]
    by_cases hu : i = u
    · subst hu
      rw [if_pos rfl]
      split
      · rename_i hnone
        rw [h.limits, if_pos hnone]
      · rw [Stores.limits_setLimit _ _ _ hb, ExtTreeMap.getElem?_insert_self]
    · rw [if_neg hu, ← h.limits]
      split
      · rfl
      · rw [Stores.limits_setLimit _ _ _ hb, ExtTreeMap.getElem?_insert,
          if_neg (mt Std.compare_eq_iff_eq.mp hu)]
  · rw [hcount, ← h.counters htables, ← hkernel.1]
  · dsimp only
    rw [← h.bindings htables, ← hkernel.2]

/-- No deed parts the stores from the rules. -/
theorem Mirrors.deed (hb : b ≠ .rehearsal) (hcounted : Counted c) (h : Mirrors b c)
    (hdeed : Deed b c c') : Mirrors b c' := by
  cases hdeed with
  | stay hs => exact h.stay hs
  | @forget d hnil =>
    refine ⟨h.willing, h.limits, h.counters, fun htables i => ?_⟩
    have hcount : (c.registry.forget d).rulesOn i = c.registry.rulesOn i :=
      c.registry.countP_live_forget hnil _
    rw [hcount]
    exact h.bindings htables i
  | add _ hp hq => exact h.add hb hp hq
  | remove hfind hp hq => exact h.remove hb hfind hcounted hp hq
  | limit hs hp => exact (h.stay hs).limit hb hp

/-- No step parts them either. -/
theorem Step.mirrors (hb : b ≠ .rehearsal) (hstep : Step b names c c') (hcounted : Counted c)
    (h : Mirrors b c) : Counted c' ∧ Mirrors b c' :=
  ⟨Steps.preserves Counted.move (.single hstep) hcounted,
    h.deed hb hcounted (hstep.deed h)⟩

/-- Counting traffic leaves limits and bindings alone, and no counters appear or disappear. -/
theorem Mirrors.count (h : Mirrors b c) (i : IfIndex) (more : Counters) :
    Mirrors b { c with platform := c.platform.count b i more } := by
  obtain ⟨kernelStats, daemonStats, hcount, hmem⟩ := c.platform.count_cases b i more
  rw [hcount]
  refine ⟨h.willing, fun u => ?_, fun htables u => ?_, h.bindings⟩
  · rw [← h.limits]
    cases b <;> rfl
  · rw [← h.counters htables]
    exact hmem u

/-- A controller starts without rules, and the tables are cleared for it. The daemon has to start
without limits by itself. -/
theorem mirrors_idle {p q : Platform} {cleared : TableLabel → Bool} {ms : UInt64}
    {attacher : Bool} (hp : p.Willing) (hlimits : b ≠ .tables → p.daemon.quotas = ∅)
    (hq : p.Works (p.stores.clear b cleared) q) (hcleared : ∀ t, cleared t) :
    Mirrors b (idle q (some b) ms attacher) := by
  have hlimit : (p.stores.clear b cleared).limits b = ∅ := by
    cases b with
    | tables => exact if_pos (hcleared .limit)
    | daemon | rehearsal => exact hlimits nofun
  refine ⟨hq.willing hp, fun u => ?_, fun htables u => ?_, fun htables d => ?_⟩
  · show (q.stores.limits b)[u]? = none
    rw [hq.stores, hlimit, ExtTreeMap.getElem?_empty]
  · subst htables
    have hstats : q.stores.kernel.stats = ∅ := by
      rw [hq.stores]
      exact if_pos (hcleared .stats)
    refine iff_of_false ?_ (fun hne => hne rfl)
    show u ∉ q.stores.kernel.stats
    rw [hstats]
    exact ExtTreeMap.not_mem_empty
  · subst htables
    have hbound : q.stores.kernel.upstream6 = ∅ := by
      rw [hq.stores]
      exact if_pos (hcleared .upstream6)
    refine iff_of_false ?_ (fun hne => hne rfl)
    show d ∉ q.stores.kernel.upstream6
    rw [hbound]
    exact ExtTreeMap.not_mem_empty

/-! ## Every history -/

/-- While no call of the backend fails, the stores mirror the rules at any time, and so does hold
what holds at the start and is preserved by every deed and by every count. -/
theorem Reachable.preserves_deeds {p : Platform} {I : Controller → Prop} (hb : b ≠ .rehearsal)
    (hp : p.Willing) (hlimits : b ≠ .tables → p.daemon.quotas = ∅)
    (hidle : ∀ {q cleared ms attacher}, p.Works (p.stores.clear b cleared) q →
      (∀ t, cleared t) → I (idle q (some b) ms attacher))
    (hdeed : ∀ {c c'}, Mirrors b c → Deed b c c' → I c → I c')
    (hcount : ∀ {c} i more, I c → I { c with platform := c.platform.count b i more })
    (h : Reachable b p c) : (Counted c ∧ Mirrors b c) ∧ I c := by
  refine h.preserves_steps (I := fun c => (Counted c ∧ Mirrors b c) ∧ I c)
    (fun hblank hq hcleared => ?_) (fun hstep hc => ?_) fun i more hc => ?_
  · exact ⟨⟨counted_of_blank hblank, mirrors_idle hp hlimits hq (hcleared hp)⟩,
      hidle hq (hcleared hp)⟩
  · obtain ⟨⟨hcounted, hmirrors⟩, hI⟩ := hc
    exact ⟨hstep.mirrors hb hcounted hmirrors, hdeed hmirrors (hstep.deed hmirrors) hI⟩
  · obtain ⟨⟨hcounted, hmirrors⟩, hI⟩ := hc
    exact ⟨⟨hcounted.of_ruleCount rfl fun _ => rfl, hmirrors.count i more⟩, hcount i more hI⟩

/-- While no call of the backend fails, the stores mirror the rules at any time. -/
theorem mirrors_of_reachable {p : Platform} (hb : b ≠ .rehearsal) (hp : p.Willing)
    (hlimits : b ≠ .tables → p.daemon.quotas = ∅) (h : Reachable b p c) :
    Counted c ∧ Mirrors b c :=
  (h.preserves_deeds (I := fun _ => True) hb hp hlimits (fun _ _ => trivial)
    (fun _ _ _ => trivial) fun _ _ _ => trivial).1

/-- An upstream that rules use has a record. -/
theorem exists_record_of_ruleCount {t : UpstreamTable} {u : IfIndex} (h : t.ruleCount u ≠ 0) :
    ∃ record, t.records[u]? = some record ∧ record.quota = t.quota u := by
  rw [UpstreamTable.quota, UpstreamTable.findOrFresh]
  cases hget : t.records[u]? with
  | none =>
    rw [UpstreamTable.ruleCount, hget] at h
    exact absurd rfl h
  | some record => exact ⟨record, rfl, rfl⟩

/-- A backend that mirrors the rules keeps a limit for each upstream in use, and no others. -/
theorem Mirrors.limit_iff (h : Mirrors b c) (hcounted : Counted c) (u : IfIndex) :
    (u ∈ c.platform.stores.limits b ↔ ∃ d, ∃ r ∈ c.rulesFor d, r.upstream = u) ∧
      ∀ q, (c.platform.stores.limits b)[u]? = some q →
        ∃ record, c.upstreams.records[u]? = some record ∧ record.quota = q := by
  have hlimits := h.limits u
  constructor
  · rw [← hcounted.ruleCount_ne_zero, ExtTreeMap.mem_iff_isSome_getElem?, hlimits]
    split
    · rename_i hnone
      exact iff_of_false nofun fun hsome => hsome hnone
    · rename_i hsome
      exact iff_of_true rfl hsome
  · intro q hq
    rw [hlimits] at hq
    split at hq
    · cases hq
    · rename_i hsome
      obtain ⟨record, hrecord, hquota⟩ := exists_record_of_ruleCount hsome
      exact ⟨record, hrecord, hquota.trans (Option.some.inj hq)⟩

/-- While no call of the backend fails, limits and counters are there exactly for the upstreams of
live rules, and each limit is the one that the upstream has. What was left in the kernel tables does
not matter, since they are cleared at the start; the daemon has to start without limits. -/
theorem limit_iff_live {p : Platform} (hp : p.Willing) :
    (Reachable .tables p c → ∀ u,
      (u ∈ c.platform.kernel.limit ↔ ∃ d, ∃ r ∈ c.rulesFor d, r.upstream = u) ∧
      (∀ q, c.platform.kernel.limit[u]? = some q →
        ∃ record, c.upstreams.records[u]? = some record ∧ record.quota = q) ∧
      (u ∈ c.platform.kernel.stats ↔ ∃ d, ∃ r ∈ c.rulesFor d, r.upstream = u)) ∧
    (p.daemon.quotas = ∅ → Reachable .daemon p c → ∀ u,
      (u ∈ c.platform.daemon.quotas ↔ ∃ d, ∃ r ∈ c.rulesFor d, r.upstream = u) ∧
      ∀ q, c.platform.daemon.quotas[u]? = some q →
        ∃ record, c.upstreams.records[u]? = some record ∧ record.quota = q) := by
  constructor
  · intro h u
    have hb : Backend.tables ≠ .rehearsal := nofun
    obtain ⟨hcounted, hmirrors⟩ := mirrors_of_reachable hb hp (fun hne => absurd rfl hne) h
    obtain ⟨hmem, hquota⟩ := hmirrors.limit_iff hcounted u
    exact ⟨hmem, hquota, (hmirrors.counters rfl u).trans (hcounted.ruleCount_ne_zero u)⟩
  · intro hquotas h u
    have hb : Backend.daemon ≠ .rehearsal := nofun
    obtain ⟨hcounted, hmirrors⟩ := mirrors_of_reachable hb hp (fun _ => hquotas) h
    exact hmirrors.limit_iff hcounted u

/-- The upstream of two downstreams gets a name, and the name gets a limit. -/
def capShared : List Operation :=
  [.event (.upstreamName 100 "rmnet0"), .event (.setLimit "rmnet0" 5000)]

/-- The limit of an upstream in use is where the backend keeps it. -/
theorem limit_iff_live_shared :
    ((100 : IfIndex) ∈ (shared (.tables fun _ => true) capShared).platform.kernel.limit ∧
      ∃ record, (shared (.tables fun _ => true) capShared).upstreams.records[(100 : IfIndex)]? =
        some record ∧ record.quota = 5000) ∧
    (100 : IfIndex) ∈ (shared (.daemon true) capShared).platform.daemon.quotas ∧
      ∃ record, (shared (.daemon true) capShared).upstreams.records[(100 : IfIndex)]? =
        some record ∧ record.quota = 5000 := by
  have htables := (limit_iff_live fun _ _ _ => rfl).1 (reachable_shared_tables capShared) 100
  have hdaemon := (limit_iff_live fun _ _ _ => rfl).2 rfl (reachable_shared_daemon capShared) 100
  refine ⟨⟨htables.1.mpr ⟨"wlan0", sharedRule 10, ?_, rfl⟩, htables.2.1 5000 ?_⟩,
    hdaemon.1.mpr ⟨"wlan0", sharedRule 10, ?_, rfl⟩, hdaemon.2 5000 ?_⟩ <;> decide +kernel

end Controller

end FastPath
