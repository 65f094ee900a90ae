import FastPath.Proofs.History
import FastPath.Proofs.Layouts

/-!
# Live rules and installed rules

A backend keeps one entry under the key of a rule, which is made of its upstream and its neighbor,
while the registry keeps apart the rules of different downstreams. So the two tables need not agree.
In one direction they do: every entry is that of some live rule, whatever fails. In the other the
journal decides. The entry of a live rule is there exactly if the rule `holder` has, which is the
last one that was added under the key with none removed since. A rule that another downstream adds
or removes under the same key takes the place of the first one.
-/

namespace FastPath

open Std

/-- A rule that is installed looks the same as no other under its key. -/
theorem Rule.eq_of_target_eq {r r' : Rule} (hkey : r.key = r'.key) (h : r.target = r'.target) :
    r = r' := by
  cases r
  cases r'
  simp_all [Rule.key, Rule.target]

/-- Where a backend keeps installed rules, and how. -/
structure RuleStore (ι : Type) where
  backend : Backend
  /-- What is kept of a rule under its key. -/
  image : Rule → ι
  entries : Stores → ExtTreeMap RuleKey ι
  image_inj : ∀ {r r'}, r.key = r'.key → image r = image r' → r = r'
  entries_install : ∀ r x, entries (x.install backend r) = (entries x).insert r.key (image r)
  entries_uninstall : ∀ r x, entries (x.uninstall backend r) = (entries x).erase r.key
  entries_same : ∀ {x y}, Stores.Same backend x y → entries y = entries x
  entries_closeCounters : ∀ i x, entries (x.closeCounters backend i) = entries x
  entries_clear : ∀ cleared x, entries x = ∅ → entries (x.clear backend cleared) = ∅
  entries_count : ∀ i more (p : Platform),
    entries (p.count backend i more).stores = entries p.stores

namespace RuleStore

/-- The kernel tables keep the targets of rules. -/
def kernel : RuleStore Target where
  backend := .tables
  image := Rule.target
  entries x := x.kernel.downstream6
  image_inj := Rule.eq_of_target_eq
  entries_install _ _ := rfl
  entries_uninstall _ _ := rfl
  entries_same h := h.rules
  entries_closeCounters _ _ := rfl
  entries_clear cleared x h := by
    show (if cleared .downstream6 then ∅ else x.kernel.downstream6) = ∅
    rw [h, ite_self]
  entries_count i more p := p.downstream6_count .tables i more

/-- The daemon keeps the parcels of rules. -/
def daemon : RuleStore Parcel where
  backend := .daemon
  image := Rule.parcel
  entries x := x.daemon.rules
  image_inj _ h := Rule.eq_of_parcel_eq h
  entries_install _ _ := rfl
  entries_uninstall _ _ := rfl
  entries_same h := h.parcels
  entries_closeCounters _ _ := rfl
  entries_clear _ _ h := h
  entries_count _ _ _ := rfl

variable {ι : Type} (s : RuleStore ι)

/-- The entry of a store under a key. -/
def entry (c : Controller) (k : RuleKey) : Option ι :=
  (s.entries c.platform.stores)[k]?

end RuleStore

/-- The rule that was the last one to be added under a key, by the journal, unless a rule was
removed under the key since. -/
def holder : List Entry → RuleKey → Option Rule
  | [], _ => none
  | .notice (.ruleAdded r _) :: past, k => if r.key = k then some r else holder past k
  | .notice (.ruleRemoved r _) :: past, k => if r.key = k then none else holder past k
  | _ :: past, k => holder past k

/-- A rule that holds a key was added under it. -/
theorem key_of_holder {past : List Entry} {k : RuleKey} {r : Rule} (h : holder past k = some r) :
    r.key = k := by
  fun_induction holder past k with
  | case1 => cases h
  | case2 r' _ past => exact congrArg Rule.key (Option.some.inj h).symm
  | case3 _ _ _ _ _ ih => exact ih h
  | case5 _ _ _ _ _ ih => exact ih h
  | case6 _ _ _ _ _ ih => exact ih h
  | case4 => cases h

/-- Minor entries are nothing to who holds a key. -/
theorem holder_append_minor {es : List Entry} (h : ∀ e ∈ es, e.isMinor) (past : List Entry)
    (k : RuleKey) : holder (es ++ past) k = holder past k := by
  induction es with
  | nil => rfl
  | cons e es ih =>
    obtain ⟨he, hes⟩ := List.forall_mem_cons.mp h
    rw [List.cons_append, ← ih hes]
    cases e with
    | call c refusal => rfl
    | notice n => cases n <;> first | rfl | cases he
    | shown text => rfl

/-- Keys change hands aloud. -/
theorem holder_of_quiet {p q : Platform} (h : p.Quiet q) (k : RuleKey) :
    holder q.past k = holder p.past k := by
  obtain ⟨es, hes, hpast⟩ := h
  rw [hpast, holder_append_minor hes]

namespace Controller

variable {ι : Type} {s : RuleStore ι} {names : IfIndex → String → Prop} {c c' : Controller}

/-- What a move does to the entries of a store, to the live rules and to who holds a key: it adds
one rule to all three, takes one from all three, or leaves them alone. -/
theorem Move.entry_cases (h : Move s.backend names c c') :
    (∃ rule, (∀ k, s.entry c' k = if rule.key = k then some (s.image rule) else s.entry c k) ∧
      c'.registry.live.Perm (rule :: c.registry.live) ∧
      ∀ k, holder c'.platform.past k =
        if rule.key = k then some rule else holder c.platform.past k) ∨
    (∃ rule, (∀ k, s.entry c' k = if rule.key = k then none else s.entry c k) ∧
      c.registry.live.Perm (rule :: c'.registry.live) ∧
      ∀ k, holder c'.platform.past k =
        if rule.key = k then none else holder c.platform.past k) ∨
    ((∀ k, s.entry c' k = s.entry c k) ∧ c'.registry.live.Perm c.registry.live ∧
      ∀ k, holder c'.platform.past k = holder c.platform.past k) := by
  cases h with
  | rest h =>
    refine .inr (.inr ⟨fun k => ?_, .of_eq (by rw [h.registry]), holder_of_quiet h.platform.quiet⟩)
    rw [RuleStore.entry, s.entries_same h.platform.stores, RuleStore.entry]
  | @add d rule p hfree hs =>
    refine .inl ⟨rule, fun k => ?_, c.registry.live_push d rule, fun k => ?_⟩
    · show (s.entries p.stores)[k]? = _
      rw [hs.stores, s.entries_install, ExtTreeMap.getElem?_insert]
      simp only [Std.compare_eq_iff_eq, RuleStore.entry]
    · -- The notice of the added rule comes last.
      show (if rule.key = k then some rule else holder p.past k) = _
      rw [holder_of_quiet hs.quiet]
  | @remove d n rule p hfind hs =>
    refine .inr (.inl ⟨rule, fun k => ?_, c.registry.live_erase hfind, fun k => ?_⟩)
    · show (s.entries p.stores)[k]? = _
      rw [hs.stores, s.entries_uninstall, ExtTreeMap.getElem?_erase]
      simp only [Std.compare_eq_iff_eq, RuleStore.entry]
    · show (if rule.key = k then none else holder p.past k) = _
      rw [holder_of_quiet hs.quiet]
  | @fold u p hs =>
    have hstores : s.entries p.stores = s.entries c.platform.stores := by
      rcases hs with hs | hs
      · rw [hs.stores, s.entries_same (Stores.same_dropLimit _ u), s.entries_closeCounters]
      · rw [hs.stores, s.entries_closeCounters]
    have hquiet : c.platform.Quiet p := hs.elim Platform.Serves.quiet Platform.Serves.quiet
    refine .inr (.inr ⟨fun k => ?_, .refl _, holder_of_quiet hquiet⟩)
    rw [RuleStore.entry, hstores, RuleStore.entry]
  | forget h =>
    exact .inr (.inr ⟨fun _ => rfl, c.registry.live_forget h, fun _ => rfl⟩)
  | name h => exact .inr (.inr ⟨fun _ => rfl, .refl _, fun _ => rfl⟩)
  | @read p hs =>
    refine .inr (.inr ⟨fun k => ?_, .refl _, holder_of_quiet hs.quiet⟩)
    rw [RuleStore.entry, hs.stores, RuleStore.entry]
  | publish =>
    obtain ⟨p, h, ⟨-, rfl⟩ | rfl⟩ := publish_cases c <;> rw [h]
    · exact .inr (.inr ⟨fun _ => rfl, .refl _, fun _ => rfl⟩)
    · exact .inr (.inr ⟨fun _ => rfl, .refl _, fun _ => rfl⟩)

/-! ## From entries to rules -/

/-- Every entry of the store is that of some live rule. -/
def NoOrphans (s : RuleStore ι) (c : Controller) : Prop :=
  ∀ k x, s.entry c k = some x → ∃ r ∈ c.registry.live, r.key = k ∧ s.image r = x

/-- A store without entries has no orphans. -/
theorem noOrphans_of_blank {p : Platform} (h : Blank s.backend p c)
    (hp : s.entries p.stores = ∅) : NoOrphans s c := by
  intro k x hentry
  obtain ⟨cleared, hstores, -⟩ := h.stores
  rw [RuleStore.entry, hstores, s.entries_clear cleared _ hp, ExtTreeMap.getElem?_empty] at hentry
  cases hentry

/-- No move leaves an entry without a rule. -/
theorem NoOrphans.move (hmove : Move s.backend names c c') (h : NoOrphans s c) :
    NoOrphans s c' := by
  intro k x hentry
  rcases hmove.entry_cases with ⟨rule, hentries, hlive, -⟩ | ⟨rule, hentries, hlive, -⟩ |
    ⟨hentries, hlive, -⟩ <;> rw [hentries] at hentry
  · -- The new rule takes over the entry under its key.
    split at hentry
    · rename_i hk
      exact ⟨rule, hlive.mem_iff.mpr List.mem_cons_self, hk, Option.some.inj hentry⟩
    · obtain ⟨r, hr, hx⟩ := h k x hentry
      exact ⟨r, hlive.mem_iff.mpr (List.mem_cons_of_mem _ hr), hx⟩
  · -- The entry under the key of the removed rule is gone, so that no other rule can be missed.
    split at hentry
    · cases hentry
    · rename_i hk
      obtain ⟨r, hr, rfl, hx⟩ := h k x hentry
      rcases List.mem_cons.mp (hlive.mem_iff.mp hr) with rfl | hr
      · exact absurd rfl hk
      · exact ⟨r, hr, rfl, hx⟩
  · obtain ⟨r, hr, hx⟩ := h k x hentry
    exact ⟨r, hlive.mem_iff.mpr hr, hx⟩

/-- Counting traffic leaves all entries with their rules. -/
theorem NoOrphans.count (h : NoOrphans s c) (i : IfIndex) (more : Counters) :
    NoOrphans s { c with platform := c.platform.count s.backend i more } := by
  intro k x hentry
  rw [RuleStore.entry, s.entries_count] at hentry
  exact h k x hentry

/-! ## From rules to entries -/

/-- The entry under the key of every live rule is that of the rule that holds the key. -/
def Held (s : RuleStore ι) (c : Controller) : Prop :=
  ∀ r ∈ c.registry.live, s.entry c r.key = (holder c.platform.past r.key).map s.image

/-- No move tells entries from holders apart. -/
theorem Held.move (hmove : Move s.backend names c c') (h : Held s c) : Held s c' := by
  intro r hr
  rcases hmove.entry_cases with ⟨rule, hentries, hlive, hholder⟩ |
    ⟨rule, hentries, hlive, hholder⟩ | ⟨hentries, hlive, hholder⟩ <;> rw [hentries, hholder]
  · split
    · rfl
    · rename_i hk
      rcases List.mem_cons.mp (hlive.mem_iff.mp hr) with rfl | hr
      · exact absurd rfl hk
      · exact h r hr
  · split
    · rfl
    · exact h r (hlive.mem_iff.mpr (List.mem_cons_of_mem _ hr))
  · exact h r (hlive.mem_iff.mp hr)

/-- Counting traffic changes neither entries nor holders. -/
theorem Held.count (h : Held s c) (i : IfIndex) (more : Counters) :
    Held s { c with platform := c.platform.count s.backend i more } := by
  intro r hr
  rw [RuleStore.entry, s.entries_count, Platform.past_count]
  exact h r hr

/-- The entry of a live rule is there exactly if the rule holds its key. -/
theorem Held.entry_iff (h : Held s c) {r : Rule} (hr : r ∈ c.registry.live) :
    s.entry c r.key = some (s.image r) ↔ holder c.platform.past r.key = some r := by
  rw [h r hr]
  constructor
  · intro hentry
    obtain ⟨r', hholder, himage⟩ := Option.map_eq_some_iff.mp hentry
    rw [hholder, s.image_inj (key_of_holder hholder) himage]
  · intro hholder
    rw [hholder, Option.map_some]

/-! ## Every history -/

/-- Entries never outlive their rules. -/
theorem noOrphans_of_reachable {p : Platform} (h : Reachable s.backend p c)
    (hp : s.entries p.stores = ∅) : NoOrphans s c :=
  h.preserves (fun hblank => noOrphans_of_blank hblank hp) NoOrphans.move
    fun i more hc => hc.count i more

/-- No entry outlives its rule: what is installed, in the kernel or by the daemon, is at any time
what some live rule installs, if nothing was installed before the start. -/
theorem exists_live_of_installed {p : Platform} (hkernel : p.kernel.downstream6 = ∅)
    (hdaemon : p.daemon.rules = ∅) :
    (Reachable .tables p c → ∀ k t, c.platform.kernel.downstream6[k]? = some t →
      ∃ d, ∃ r ∈ c.rulesFor d, r.key = k ∧ r.target = t) ∧
    (Reachable .daemon p c → ∀ k x, c.platform.daemon.rules[k]? = some x →
      ∃ d, ∃ r ∈ c.rulesFor d, r.key = k ∧ r.parcel = x) := by
  constructor
  · intro h k t hentry
    have horphans : NoOrphans .kernel c := noOrphans_of_reachable h hkernel
    obtain ⟨r, hr, hx⟩ := horphans k t hentry
    obtain ⟨d, hd⟩ := c.registry.mem_live.mp hr
    exact ⟨d, r, hd, hx⟩
  · intro h k x hentry
    have horphans : NoOrphans .daemon c := noOrphans_of_reachable h hdaemon
    obtain ⟨r, hr, hx⟩ := horphans k x hentry
    obtain ⟨d, hd⟩ := c.registry.mem_live.mp hr
    exact ⟨d, r, hd, hx⟩

/-- What is installed while two downstreams have a rule under one key is the rule of one of them. -/
theorem exists_live_of_installed_shared :
    (∃ d, ∃ r ∈ (shared (.tables fun _ => true) []).rulesFor d,
      r.key = (sharedRule 10).key ∧ r.target = (sharedRule 11).target) ∧
    ∃ d, ∃ r ∈ (shared (.daemon true) []).rulesFor d,
      r.key = (sharedRule 10).key ∧ r.parcel = (sharedRule 11).parcel :=
  ⟨(exists_live_of_installed rfl rfl).1 (reachable_shared_tables []) _ _ (by decide +kernel),
    (exists_live_of_installed rfl rfl).2 (reachable_shared_daemon []) _ _ (by decide +kernel)⟩

/-- A controller at work on nothing has no rule whose entry could be missing. -/
theorem held_of_blank {p : Platform} (h : Blank s.backend p c) : Held s c := by
  intro r hr
  rw [h.registry] at hr
  cases hr

/-- The holders of keys always say what is installed. -/
theorem held_of_reachable {p : Platform} (h : Reachable s.backend p c) : Held s c :=
  h.preserves held_of_blank Held.move fun i more hc => hc.count i more

/-- A live rule is installed exactly while it holds its key: no rule was added or removed under the
key since it was added, by whatever downstream. -/
theorem installed_iff_holder {p : Platform} {d : DownstreamId} {r : Rule} (hr : r ∈ c.rulesFor d) :
    (Reachable .tables p c → (c.platform.kernel.downstream6[r.key]? = some r.target ↔
      holder c.platform.past r.key = some r)) ∧
    (Reachable .daemon p c → (c.platform.daemon.rules[r.key]? = some r.parcel ↔
      holder c.platform.past r.key = some r)) := by
  have hlive : r ∈ c.registry.live := c.registry.mem_live.mpr ⟨d, hr⟩
  constructor
  · intro h
    have hheld : Held .kernel c := held_of_reachable h
    exact hheld.entry_iff hlive
  · intro h
    have hheld : Held .daemon c := held_of_reachable h
    exact hheld.entry_iff hlive

/-- Of two rules under one key the later one is installed. -/
theorem installed_iff_holder_shared :
    (shared (.tables fun _ => true) []).platform.kernel.downstream6[(sharedRule 11).key]? =
      some (sharedRule 11).target ∧
    (shared (.daemon true) []).platform.daemon.rules[(sharedRule 11).key]? =
      some (sharedRule 11).parcel :=
  ⟨((installed_iff_holder (d := "usb0") (by decide +kernel)).1 (reachable_shared_tables [])).mpr
      (by decide +kernel),
    ((installed_iff_holder (d := "usb0") (by decide +kernel)).2 (reachable_shared_daemon [])).mpr
      (by decide +kernel)⟩

/-- Once the earlier of two rules under one key is removed, the later one is live and not
installed. -/
theorem not_installed_shared :
    let c := shared (.tables fun _ => true) [.event (.removeRule "wlan0" (sharedRule 10))]
    Reachable .tables .empty c ∧ sharedRule 11 ∈ c.rulesFor "usb0" ∧
      c.platform.kernel.downstream6[(sharedRule 11).key]? ≠ some (sharedRule 11).target :=
  ⟨reachable_shared_tables _, by decide +kernel, by decide +kernel⟩

end Controller

end FastPath
