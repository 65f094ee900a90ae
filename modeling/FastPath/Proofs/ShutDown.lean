import FastPath.Proofs.Conservation
import FastPath.Proofs.Installation
import FastPath.Proofs.Limits
import FastPath.Proofs.Mirror
import FastPath.Proofs.Programs

/-!
# The end of a controller

The end flushes every downstream, publishes what traffic is left, detaches every pair and removes
every downstream from the monitor. While no call of the backend fails this leaves no rule, no pair
and nobody to monitor for, so that all that goes with rules, pairs and the monitor is gone as well:
the tables mirror the rules, the counts of interfaces are those of the pairs, and the monitor runs
for someone only. With the counters gone and the pending traffic published, all traffic that was
ever counted for a named upstream has been published under its name.
-/

namespace FastPath

open Std

namespace Registry

/-- Whoever is forgotten one by one is gone in the end. -/
theorem foldl_forget_downstreams (r : Registry) : r.downstreams.foldl forget r = .empty := by
  have hget : ∀ (ds : List DownstreamId) (r : Registry) (d : DownstreamId),
      (ds.foldl forget r).byDownstream[d]? = if d ∈ ds then none else r.byDownstream[d]? := by
    intro ds
    induction ds with
    | nil => simp
    | cons d₁ ds ih =>
      intro r d
      rw [List.foldl_cons, ih, forget, ExtTreeMap.getElem?_erase]
      by_cases hd : d₁ = d
      · simp [hd]
      · simp [hd, Ne.symm hd]
  have hempty : (r.downstreams.foldl forget r).byDownstream = ∅ := by
    refine ExtTreeMap.ext_getElem? fun d => ?_
    rw [hget, ExtTreeMap.getElem?_empty, ite_eq_left_iff]
    intro hd
    exact ExtTreeMap.getElem?_eq_none (mt ExtTreeMap.mem_keys.mpr hd)
  exact congrArg mk hempty

end Registry

/-! ## Names -/

/-- An operation names an upstream if its directive does. -/
theorem Operation.names_iff (op : Operation) (i : IfIndex) (name : String) :
    op.Names i name ↔ op.directive? = some (.name i name) := by
  have hname : ∀ (j : IfIndex) (n : String), Directive.ofName? j n = some (.name i name) ↔
      i ≠ 0 ∧ !name.isEmpty ∧ j = i ∧ n = name := by
    intro j n
    unfold Directive.ofName?
    split
    · rename_i hnone
      refine iff_of_false nofun ?_
      rintro ⟨hi, hn, rfl, rfl⟩
      rcases hnone with h | h
      · exact hi h
      · simp [h] at hn
    · rename_i hsome
      simp only [not_or] at hsome
      constructor
      · intro h
        cases h
        exact ⟨hsome.1, by simpa using hsome.2, rfl, rfl⟩
      · rintro ⟨-, -, rfl, rfl⟩
        rfl
  cases op with
  | event e =>
    cases e with
    | upstreamName j n => simp [Names, directive?, hname]
    | upstreamChanged d u =>
      cases u with
      | none => simp [Names, directive?]
      | some info =>
        obtain ⟨j, n⟩ := info
        simp [Names, directive?, hname]
    | setLimit iface q =>
      have hlimit : Directive.ofLimit? iface q ≠ some (.name i name) := by
        unfold Directive.ofLimit?
        split <;> nofun
      simp [Names, directive?, hlimit]
    | _ => simp [Names, directive?]
  | _ => simp [Names, directive?]

/-- An upstream that was given one name only has it. -/
theorem nameIn_of_only {past : List Directive} {i : IfIndex} {n : String}
    (hmem : .name i n ∈ past) (honly : ∀ m, .name i m ∈ past → m = n) :
    nameIn past i = some n := by
  fun_induction nameIn past i with
  | case1 => cases hmem
  | case2 m past j => rw [honly m List.mem_cons_self]
  | case3 i j m past hij ih =>
    rcases List.mem_cons.mp hmem with heq | hmem
    · exact absurd (Directive.name.inj heq).1.symm hij
    · exact ih hmem fun m h => honly m (List.mem_cons_of_mem _ h)
  | case4 past i m q ih =>
    rcases List.mem_cons.mp hmem with heq | hmem
    · cases heq
    · exact ih hmem fun m h => honly m (List.mem_cons_of_mem _ h)

namespace Controller

open Platform

variable {b : Backend} {names : IfIndex → String → Prop} {c c' : Controller}

/-- The names among the directives are those of the history: configured limits give none. -/
theorem name_mem_directives {config : Config} {hs : List Happening} {i : IfIndex} {n : String} :
    .name i n ∈ directives config hs ↔ Named hs i n := by
  have hconfig : .name i n ∉
      config.dataLimits.toList.filterMap fun l => Directive.ofLimit? l.1 l.2 := by
    rintro h
    obtain ⟨l, -, hl⟩ := List.mem_filterMap.mp h
    unfold Directive.ofLimit? at hl
    split at hl <;> cases hl
  rw [directives, List.mem_reverse, List.mem_append, or_iff_right hconfig, List.mem_filterMap]
  constructor
  · rintro ⟨h, hh, hdirective⟩
    cases h with
    | operation op => exact ⟨op, hh, (op.names_iff i n).mpr hdirective⟩
    | traffic j more => cases hdirective
  · rintro ⟨op, hop, hnames⟩
    exact ⟨.operation op, hop, (op.names_iff i n).mp hnames⟩

/-- An upstream that was named, and always by the same name, has the name. -/
theorem name_undergoAll {p : Platform} (hstart : Started b p c) {hs : List Happening} {i : IfIndex}
    {name : String} (hnamed : Named hs i name) (honly : ∀ n, Named hs i n → n = name) :
    ((c.undergoAll b hs).upstreams.account i).name = some name := by
  obtain ⟨config, source, attacher, hb, rfl⟩ := hstart
  rw [(limited_directives hb hs).name]
  exact nameIn_of_only (name_mem_directives.mpr hnamed)
    fun n hn => honly n (name_mem_directives.mp hn)

/-! ## Rules -/

/-- The tables mirror the rules after any number of chores. -/
theorem Chores.mirrors (hb : b ≠ .rehearsal) (h : Chores b c c') (hcounted : Counted c)
    (hmirrors : Mirrors b c) : Counted c' ∧ Mirrors b c' := by
  induction h with
  | refl => exact ⟨hcounted, hmirrors⟩
  | tail _ hchore ih =>
    have hstep : Step b (fun _ _ => True) _ _ := .chore hchore
    exact hstep.mirrors hb ih.1 ih.2

/-- A downstream that has all its rules removed has none left, and nothing happens to the others. -/
theorem uninstallEach_willing (hb : b ≠ .rehearsal) (hcounted : Counted c)
    (hmirrors : Mirrors b c) {d : DownstreamId} {rules : List Rule} (hrules : c.rulesFor d = rules) :
    (uninstallEach b d rules c).2.rulesFor d = [] ∧
      (uninstallEach b d rules c).2.registry.forget d = c.registry.forget d := by
  induction rules generalizing c with
  | nil => exact ⟨hrules, rfl⟩
  | cons rule rules ih =>
    -- The rule at the head is the one that is found for its neighbor.
    have hfind : c.registry.find? d rule.neighbor = some rule := by
      rw [Registry.find?, show c.registry.rulesFor d = rule :: rules from hrules]
      simp
    obtain ⟨p, q, -, -, huninstall⟩ := uninstall_willing (b := b) hmirrors.willing hfind fun hone =>
      hmirrors.hasCounters (by rw [hone]; exact Nat.one_ne_zero)
    have hregistry : (c.uninstall b d rule.neighbor).2.registry =
        c.registry.erase d rule.neighbor := by rw [huninstall]
    have hleft : (c.uninstall b d rule.neighbor).2.rulesFor d = rules := by
      rw [rulesFor, hregistry, Registry.rulesFor_erase, if_pos rfl,
        show c.registry.rulesFor d = rule :: rules from hrules]
      simp
    have hchore : Chores b c (c.uninstall b d rule.neighbor).2 := .single (.uninstall c d _)
    obtain ⟨hcounted', hmirrors'⟩ := hchore.mirrors hb hcounted hmirrors
    obtain ⟨hnil, hothers⟩ := ih hcounted' hmirrors' hleft
    exact ⟨hnil, hothers.trans (by rw [hregistry, Registry.forget_erase])⟩

/-- A downstream is forgotten with its rules. -/
theorem registry_flush (hb : b ≠ .rehearsal) (hcounted : Counted c) (hmirrors : Mirrors b c)
    (d : DownstreamId) : (c.flush b d).registry = c.registry.forget d := by
  obtain ⟨hnil, hothers⟩ := uninstallEach_willing hb hcounted hmirrors (d := d) rfl
  unfold flush
  dsimp only
  rw [hnil]
  exact hothers

/-- Several downstreams are forgotten with their rules. -/
theorem registry_clearAll (hb : b ≠ .rehearsal) (hbackend : c.backend = some b)
    (hcounted : Counted c) (hmirrors : Mirrors b c) (ds : List DownstreamId) :
    (ds.foldl (fun c d => c.clearRules d) c).registry = ds.foldl Registry.forget c.registry := by
  induction ds generalizing c with
  | nil => rfl
  | cons d ds ih =>
    have hflush : c.clearRules d = c.flush b d := by rw [clearRules, withBackend, hbackend]
    have hchores : Chores b c (c.clearRules d) := (errands_clearRules c d hbackend).chores
    obtain ⟨hcounted', hmirrors'⟩ := hchores.mirrors hb hcounted hmirrors
    rw [List.foldl_cons, List.foldl_cons, ih (hchores.backend_eq.trans hbackend) hcounted' hmirrors',
      hflush, registry_flush hb hcounted hmirrors]

/-- Rules that are removed have nothing to do with polling, programs and the monitor. -/
theorem apart_clearAll (hbackend : c.backend = some b) (ds : List DownstreamId) :
    Apart c (ds.foldl (fun c d => c.clearRules d) c) := by
  have huninstall : ∀ (d : DownstreamId) (rules : List Rule) (c : Controller),
      Apart c (uninstallEach b d rules c).2 := by
    intro d rules
    induction rules with
    | nil => exact .refl
    | cons rule rules ih => exact fun c => (apart_uninstall d rule.neighbor c).trans (ih _)
  have hflush : ∀ (d : DownstreamId) (c : Controller), Apart c (c.flush b d) := by
    intro d c
    unfold flush
    dsimp only
    split
    · exact (huninstall d _ c).trans ⟨rfl, rfl, rfl, .refl _ _⟩
    · exact (huninstall d _ c).trans (calm_note _ rfl).apart
  induction ds generalizing c with
  | nil => exact .refl c
  | cons d ds ih =>
    have hclear : Apart c (c.clearRules d) := by
      rw [clearRules, withBackend, hbackend]
      exact hflush d c
    have hchores : Chores b c (c.clearRules d) := (errands_clearRules c d hbackend).chores
    exact hclear.trans (ih (hchores.backend_eq.trans hbackend))

/-! ## The end -/

/-- The controller at its end, once all rules are removed. -/
def ruleless (c : Controller) : Controller :=
  c.stopPolling.registry.downstreams.foldl (fun c d => c.clearRules d) c.stopPolling

/-- After the rules, traffic is published, and what is attached and monitored is taken down. -/
theorem exists_shutDown (hbackend : c.backend = some b) : ∃ p q r, c.shutDown = { c.ruleless with
    upstreams := c.ruleless.upstreams.settle
    attachments := (c.ruleless.attachments.detachAll p).1
    monitoring := (c.ruleless.monitoring.removeAll q).1
    platform := r } := by
  have hstop : c.stopPolling.backend = some b := (idle_endPolling c).backend.trans hbackend
  have hclear : Chores b c.stopPolling c.ruleless :=
    closure_foldl Chores.backend_eq (fun c d hb => (errands_clearRules c d hb).chores) _ hstop
  have hruleless : c.ruleless.backend = some b := (Chores.backend_eq hclear).trans hstop
  obtain ⟨p, hpublish, -⟩ := publish_cases c.ruleless
  let q := (c.ruleless.attachments.detachAll p).2
  refine ⟨p, q, (c.ruleless.monitoring.removeAll q).2.note .shutDown, ?_⟩
  rw [shutDown, withBackend, hstop]
  dsimp only
  rw [← ruleless, pushStats, withBackend, hruleless]
  dsimp only
  rw [hpublish, changeAttachments, withBackend, hruleless]
  rfl

/-- While no call of the backend fails, no rule is left at the end. Polling is off, and neither
programs nor the monitor are wanted. -/
theorem unused_shutDown (hb : b ≠ .rehearsal) (hbackend : c.backend = some b)
    (hcounted : Counted c) (hmirrors : Mirrors b c) :
    c.shutDown.registry = .empty ∧ c.shutDown.polling.on = false ∧
      c.shutDown.attachments.pairs = ∅ ∧ c.shutDown.monitoring.active = ∅ := by
  have hstop : Chores b c c.stopPolling := .single (.still (.endPolling c))
  have hbackend' : c.stopPolling.backend = some b := hstop.backend_eq.trans hbackend
  obtain ⟨hcounted', hmirrors'⟩ := hstop.mirrors hb hcounted hmirrors
  obtain ⟨p, q, r, hshutDown⟩ := exists_shutDown hbackend
  rw [hshutDown]
  refine ⟨?_, ?_, Attachments.pairs_detachAll _ p, Monitoring.active_removeAll _ q⟩
  · show c.ruleless.registry = _
    rw [ruleless, registry_clearAll hb hbackend' hcounted' hmirrors',
      Registry.foldl_forget_downstreams]
  · show c.ruleless.polling.on = false
    rw [ruleless, (apart_clearAll hbackend' _).polling]
    rfl

/-- Nothing is left of what a controller was at work on. -/
structure TakenDown (c : Controller) : Prop where
  registry : c.registry = .empty
  downstream6 : c.platform.kernel.downstream6 = ∅
  upstream6 : c.platform.kernel.upstream6 = ∅
  stats : c.platform.kernel.stats = ∅
  limit : c.platform.kernel.limit = ∅
  polling : c.polling.on = false
  pairs : c.attachments.pairs = ∅
  counts : c.attachments.counts = ∅
  /-- An interface whose program was asked for was later asked to be detached, whatever came of
  either. -/
  detached : ∀ {newer older iface direction refusal},
    c.platform.past = newer ++ .call (.attach iface direction) refusal :: older →
      ∃ refusal, .call (.detach iface) refusal ∈ newer
  active : c.monitoring.active = ∅
  running : c.monitoring.running = false
  /-- A monitor that was started was later stopped. -/
  stopped : ∀ {newer older}, c.platform.past = newer ++ .call .startMonitor none :: older →
    ∃ refusal, .call .stopMonitor refusal ∈ newer

/-- Where no rule is left the tables are empty, as they mirror the rules. -/
theorem tables_of_ruleless (hcounted : Counted c) (hmirrors : Mirrors .tables c)
    (hinstalled : NoOrphans .kernel c) (hregistry : c.registry = .empty) :
    c.platform.kernel.downstream6 = ∅ ∧ c.platform.kernel.upstream6 = ∅ ∧
      c.platform.kernel.stats = ∅ ∧ c.platform.kernel.limit = ∅ := by
  have hcount : ∀ u, c.upstreams.ruleCount u = 0 := by
    intro u
    rw [UpstreamTable.ruleCount_eq, hcounted.count, hregistry]
    rfl
  refine ⟨?_, ?_, ?_, ?_⟩
  · refine ExtTreeMap.eq_empty_iff_forall_not_mem.mpr fun k hk => ?_
    obtain ⟨t, ht⟩ := Option.isSome_iff_exists.mp (ExtTreeMap.mem_iff_isSome_getElem?.mp hk)
    obtain ⟨r, hr, -⟩ := hinstalled k t ht
    rw [hregistry] at hr
    cases hr
  · refine ExtTreeMap.eq_empty_iff_forall_not_mem.mpr fun d hd => ?_
    refine (hmirrors.bindings rfl d).mp hd ?_
    rw [hregistry]
    rfl
  · refine ExtTreeMap.eq_empty_iff_forall_not_mem.mpr fun u hu => ?_
    exact (hmirrors.counters rfl u).mp hu (hcount u)
  · refine ExtTreeMap.ext_getElem? fun u => ?_
    have hlimit : c.platform.kernel.limit[u]? = _ := hmirrors.limits u
    rw [hlimit, if_pos (hcount u), ExtTreeMap.getElem?_empty]

/-- Where no pair is left no interface is counted, and each one was asked to be detached. -/
theorem detached_of_unpaired (h : Tidy c) (hpairs : c.attachments.pairs = ∅) :
    c.attachments.counts = ∅ ∧ ∀ {newer older iface direction refusal},
      c.platform.past = newer ++ .call (.attach iface direction) refusal :: older →
        ∃ refusal, .call (.detach iface) refusal ∈ newer := by
  have huses : ∀ iface, c.attachments.uses iface = 0 := by
    intro iface
    rw [Attachments.uses, hpairs]
    rfl
  constructor
  · refine ExtTreeMap.ext_getElem? fun iface => ?_
    rw [h.programs.counts, if_pos (huses iface), ExtTreeMap.getElem?_empty]
  · intro newer older iface direction refusal hpast
    have hnot : ¬Attached (sideCalls.word c.platform.past) iface := fun hattached =>
      (h.programs.attached iface hattached).2 (huses iface)
    rw [hpast, Reading.word, List.filterMap_append] at hnot
    obtain ⟨refusal', hmem⟩ := detached_of_not_attached hnot
    exact ⟨refusal', mem_of_mem_sideCalls hmem⟩

/-- Where nobody wants the monitor it does not run, and it was stopped whenever it was started. -/
theorem stopped_of_unwanted (h : Tidy c) (hactive : c.monitoring.active = ∅) :
    c.monitoring.running = false ∧ ∀ {newer older},
      c.platform.past = newer ++ .call .startMonitor none :: older →
        ∃ refusal, .call .stopMonitor refusal ∈ newer := by
  have hrunning : ¬c.monitoring.running := by
    intro hrunning
    obtain ⟨d, hd⟩ := h.wanted hrunning
    rw [hactive] at hd
    exact ExtTreeSet.not_mem_empty hd
  refine ⟨by simpa using hrunning, fun {newer older} hpast => ?_⟩
  have hnot : ¬Monitored (sideCalls.word c.platform.past) :=
    mt h.programs.monitored.mp hrunning
  rw [hpast, Reading.word, List.filterMap_append] at hnot
  obtain ⟨refusal, hmem⟩ := stopped_of_not_monitored hnot
  exact ⟨refusal, mem_of_mem_sideCalls hmem⟩

/-- At the end of a history nothing is left. -/
theorem takenDown_shutDown {refuses : List Entry → Call → Option String} {listing : Listing}
    (hstart : Started .tables (.failing refuses listing) c)
    (hwilling : (failing refuses listing).Willing) (hs : List Happening) :
    TakenDown (c.undergoAll .tables hs).shutDown := by
  have hb : Backend.tables ≠ .rehearsal := nofun
  have hreach : Reachable .tables (.failing refuses listing) (c.undergoAll .tables hs) :=
    ⟨c, hs, hstart, rfl⟩
  have hend : Reachable .tables (.failing refuses listing) (c.undergoAll .tables hs).shutDown :=
    hreach.undergo (.operation .shutDown)
  have hbackend : (c.undergoAll .tables hs).backend = some .tables :=
    backend_undergoAll hs hstart.backend
  obtain ⟨hcounted, hmirrors⟩ := mirrors_of_reachable hb hwilling (absurd rfl) hreach
  obtain ⟨hregistry, hpolling, hpairs, hactive⟩ :=
    unused_shutDown hb hbackend hcounted hmirrors
  obtain ⟨hcounted', hmirrors'⟩ := mirrors_of_reachable hb hwilling (absurd rfl) hend
  obtain ⟨hdownstream6, hupstream6, hstats, hlimit⟩ :=
    tables_of_ruleless hcounted' hmirrors' (noOrphans_of_reachable hend rfl) hregistry
  have htidy : Tidy (c.undergoAll .tables hs).shutDown := tidy_of_reachable rfl hend
  obtain ⟨hcounts, hdetached⟩ := detached_of_unpaired htidy hpairs
  obtain ⟨hrunning, hstopped⟩ := stopped_of_unwanted htidy hactive
  exact ⟨hregistry, hdownstream6, hupstream6, hstats, hlimit, hpolling, hpairs, hcounts, hdetached,
    hactive, hrunning, hstopped⟩

/-! ## Traffic -/

/-- A named upstream has nothing pending after the end. -/
theorem pending_shutDown (hbackend : c.backend = some b) {i : IfIndex} {name : String}
    (hname : (c.shutDown.upstreams.account i).name = some name) :
    (c.shutDown.upstreams.account i).pending = .zero := by
  obtain ⟨p, q, r, hshutDown⟩ := exists_shutDown hbackend
  have hupstreams : c.shutDown.upstreams = c.ruleless.upstreams.settle := by rw [hshutDown]
  rw [hupstreams, UpstreamTable.account_settle] at hname ⊢
  split
  · rfl
  · rename_i hnone
    rw [if_neg hnone] at hname
    rw [hname] at hnone
    exact absurd rfl hnone

/-- After the end, all the traffic of a named upstream has been published under its name. -/
theorem told_shutDown {refuses : List Entry → Call → Option String} {listing : Listing}
    (hstart : Started .tables (.failing refuses listing) c) {hs : List Happening}
    (hstats : (c.undergoAll .tables hs).shutDown.platform.kernel.stats = ∅)
    (hnames : OneToOne (Named hs)) (hbound : ∀ i k, c.tally .tables i k hs < UInt64.size)
    {i : IfIndex} {name : String} (hnamed : Named hs i name) (o : Owner) (k : Counter) :
    told o name k (c.undergoAll .tables hs).shutDown.platform.past = c.tally .tables i k hs := by
  have hbackend : (c.undergoAll .tables hs).backend = some .tables :=
    backend_undergoAll hs hstart.backend
  have hchores : Chores .tables (c.undergoAll .tables hs) (c.undergoAll .tables hs).shutDown :=
    chores_shutDown _ hbackend
  have hfresh : Balanced .tables (Named hs) (fun _ _ => 0) c :=
    hstart.preserves balanced_of_blank (Balanced.move hnames fun _ _ => by decide)
  have hbalanced := hfresh.undergoAll hnames hstart.backend hs (fun _ _ h => h) fun i k => by
    rw [Nat.zero_add]
    exact hbound i k
  simp only [Nat.zero_add] at hbalanced
  have hend := hchores.steps.preserves (Balanced.move hnames hbound) hbalanced
  have hname : ((c.undergoAll .tables hs).shutDown.upstreams.account i).name = some name := by
    rw [hchores.keepsLimits.name]
    exact name_undergoAll hstart hnamed fun n hn => (hnames hn hnamed).mp rfl
  have hcounted : (c.undergoAll .tables hs).shutDown.platform.stores.counted .tables i = .zero := by
    show ((Platform.kernel _).stats[i]?.map Counters.traffic).getD .zero = .zero
    rw [hstats, ExtTreeMap.getElem?_empty]
    rfl
  -- Neither the counters nor the account have anything left, so all has been delivered.
  obtain ⟨hpublished, hread, htotal⟩ := (hend.balance o i k).accounts
  rw [pending_shutDown hbackend hname, hcounted, delivered_of_name hname, k.of_zero] at htotal
  rw [hcounted, k.of_zero] at hread
  omega

/-- The end leaves nothing behind and reports everything. Start on empty tables, let anything be
asked and any traffic be forwarded, without a failure of the backend: then the end takes everything
down, and all traffic that was ever counted for a named upstream has been published under its
name. Names have to tell upstreams apart, and what is counted has to fit into a word. -/
theorem shutDown_clears {refuses : List Entry → Call → Option String} {listing : Listing}
    (hstart : Started .tables (.failing refuses listing) c)
    (hwilling : (failing refuses listing).Willing) (hs : List Happening) :
    TakenDown (c.undergoAll .tables hs).shutDown ∧
      (OneToOne (Named hs) → (∀ i k, c.tally .tables i k hs < UInt64.size) →
        ∀ i name, Named hs i name → ∀ o k,
          told o name k (c.undergoAll .tables hs).shutDown.platform.past =
            c.tally .tables i k hs) := by
  have hdown : TakenDown (c.undergoAll .tables hs).shutDown :=
    takenDown_shutDown hstart hwilling hs
  exact ⟨hdown, fun hnames hbound i name hnamed o k =>
    told_shutDown hstart hdown.stats hnames hbound hnamed o k⟩

/-- A controller at work on everything: two downstreams share an upstream and its kernel key, a pair
is attached and the monitor runs. Some of the traffic is published, some is only read and some not
even read. -/
def busy : List Happening :=
  [.operation (.event (.attach "wlan0" "rmnet0")), .operation (.event (.addDownstream "wlan0")),
    .operation (.event .startPolling)] ++ metered ++
    [.operation (.event (.addRule "usb0" (sharedRule 11)))]

theorem named_busy {i : IfIndex} {name : String} (h : Named busy i name) :
    i = 100 ∧ name = "rmnet0" := by
  obtain ⟨op, hop, -, -, rfl | ⟨d, rfl⟩⟩ := h
  · simpa [busy, metered] using hop
  · simp [busy, metered] at hop

theorem tally_busy_lt (i : IfIndex) (k : Counter) :
    tethered.tally .tables i k busy < UInt64.size := by
  by_cases hi : (100 : IfIndex) = i
  · subst hi
    cases k <;> decide +kernel
  · simp [busy, metered, tally, amount, hi, UInt64.size]

/-- All is taken down, and all bytes that were received are published. -/
theorem shutDown_clears_busy :
    TakenDown (tethered.undergoAll .tables busy).shutDown ∧
      told .interface "rmnet0" .rxBytes
        (tethered.undergoAll .tables busy).shutDown.platform.past = 67 := by
  obtain ⟨hdown, htold⟩ := shutDown_clears (c := tethered) ⟨_, _, _, rfl, rfl⟩
    (fun _ _ _ => rfl) busy
  have hnames : OneToOne (Named busy) := fun hi hj => by simp [named_busy hi, named_busy hj]
  have hnamed : Named busy 100 "rmnet0" :=
    ⟨.event (.upstreamName 100 "rmnet0"), by simp [busy, metered], by decide, by decide, .inl rfl⟩
  refine ⟨hdown, (htold hnames tally_busy_lt 100 "rmnet0" hnamed .interface .rxBytes).trans ?_⟩
  decide +kernel

end Controller

end FastPath
