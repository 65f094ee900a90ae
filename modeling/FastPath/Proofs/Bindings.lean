import FastPath.Proofs.Mirror

/-!
# Where bindings point

The kernel keeps one binding for a downstream interface, whatever the upstreams of its rules. It is
written with the first rule out of the interface and deleted with the last one, and nothing changes
it in between. So it points at the upstream of the rule that came first since the interface last had
none, even once that rule is gone and all others are on another upstream. The journal tells which
rule that is. An interface is never bound while it is bound already.
-/

namespace FastPath

open Std

/-- How many rules out of an interface were added and not removed, by the journal. -/
def inUse : List Entry → IfIndex → Nat
  | [], _ => 0
  | .notice (.ruleAdded r _) :: past, d => inUse past d + if r.downstream = d then 1 else 0
  | .notice (.ruleRemoved r _) :: past, d => inUse past d - if r.downstream = d then 1 else 0
  | _ :: past, d => inUse past d

/-- The rules that were added out of an interface since it last had none, by the journal, the latest
first. -/
def era : List Entry → IfIndex → List Rule
  | [], _ => []
  | .notice (.ruleAdded r _) :: past, d => if r.downstream = d then r :: era past d else era past d
  | .notice (.ruleRemoved r _) :: past, d =>
    if r.downstream = d ∧ inUse past d = 1 then [] else era past d
  | _ :: past, d => era past d

/-- Entries that tell of no rule are nothing to either. -/
theorem uses_append {es : List Entry} (h : ∀ e ∈ es, e.isRuleless) (past : List Entry)
    (d : IfIndex) : inUse (es ++ past) d = inUse past d ∧ era (es ++ past) d = era past d := by
  induction es with
  | nil => exact ⟨rfl, rfl⟩
  | cons e es ih =>
    obtain ⟨he, hes⟩ := List.forall_mem_cons.mp h
    rw [List.cons_append, ← (ih hes).1, ← (ih hes).2]
    cases e with
    | call c refusal => exact ⟨rfl, rfl⟩
    | notice n => cases n <;> first | exact ⟨rfl, rfl⟩ | cases he
    | shown text => exact ⟨rfl, rfl⟩

/-- Without an entry that tells of a rule no interface is in use. -/
theorem uses_ruleless {past : List Entry} (h : ∀ e ∈ past, e.isRuleless) (d : IfIndex) :
    inUse past d = 0 ∧ era past d = [] := by
  have happend := uses_append h [] d
  rwa [List.append_nil] at happend

/-- As long as no entry tells of a rule, uses stay. -/
theorem Platform.Follows.uses {p q : Platform} (h : p.Follows q) (d : IfIndex) :
    inUse q.past d = inUse p.past d ∧ era q.past d = era p.past d := by
  obtain ⟨es, hes, hq⟩ := h.past
  rw [hq]
  exact uses_append hes p.past d

namespace Controller

open Platform

variable {c c' : Controller}

/-- The journal counts the live rules out of each interface and remembers each of them, and the
interface is bound to the upstream of the first one remembered. -/
structure Bound (c : Controller) : Prop where
  used : ∀ d, inUse c.platform.past d = c.registry.rulesOn d
  live : ∀ r ∈ c.registry.live, r ∈ era c.platform.past r.downstream
  first : ∀ d, c.platform.kernel.upstream6[d]? =
    (era c.platform.past d).getLast?.map fun r => .binding r.upstream

/-- Uses and bindings stay with the rules. -/
theorem Bound.stay (h : Bound c) (hregistry : c'.registry.live.Perm c.registry.live)
    (hbindings : c'.platform.kernel.upstream6 = c.platform.kernel.upstream6)
    (hfollows : c.platform.Follows c'.platform) : Bound c' where
  used d := by
    rw [(hfollows.uses d).1, h.used]
    exact (hregistry.countP_eq _).symm
  live r hr := by
    rw [(hfollows.uses _).2]
    exact h.live r (hregistry.mem_iff.mp hr)
  first d := by rw [hbindings, (hfollows.uses d).2, h.first]

/-- An interface with rules remembers one. -/
theorem Bound.exists_mem_era (h : Bound c) {d : IfIndex} (hd : c.registry.rulesOn d ≠ 0) :
    era c.platform.past d ≠ [] := by
  obtain ⟨dn, r, hr, hrd⟩ := c.registry.countP_live_ne_zero.mp hd
  have hmem := h.live r (c.registry.mem_live.mpr ⟨dn, hr⟩)
  rw [of_decide_eq_true hrd] at hmem
  exact List.ne_nil_of_mem hmem

/-- A rule that is added binds its interface if it is the first one there. -/
theorem Bound.add (h : Bound c) (hmirrors : Mirrors .tables c) {d : DownstreamId} {rule : Rule}
    {p q : Platform} (hp : c.platform.Works (c.platform.stores.install .tables rule) p)
    (hq : (p.note (.ruleAdded rule d)).Works (c.storesWith .tables rule) q) :
    Bound { c with
      platform := q
      registry := c.registry.push d rule
      upstreams := c.upstreams.acquire rule.upstream } := by
  -- The notice of the rule is the only entry that tells of one.
  have hcount : ∀ i, inUse q.past i =
      inUse c.platform.past i + if rule.downstream = i then 1 else 0 := by
    intro i
    rw [(hq.follows.uses i).1, ← (hp.follows.uses i).1]
    rfl
  have hera : ∀ i, era q.past i =
      if rule.downstream = i then rule :: era c.platform.past i else era c.platform.past i := by
    intro i
    rw [(hq.follows.uses i).2, ← (hp.follows.uses i).2]
    rfl
  refine ⟨fun i => ?_, fun r hr => ?_, fun i => ?_⟩
  · show inUse q.past i = (c.registry.push d rule).rulesOn i
    rw [hcount, h.used, Registry.rulesOn_push]
  · show r ∈ era q.past r.downstream
    rw [hera]
    rcases List.mem_cons.mp ((c.registry.live_push d rule).mem_iff.mp hr) with rfl | hr
    · rw [if_pos rfl]
      exact List.mem_cons_self
    · split
      · exact List.mem_cons_of_mem _ (h.live r hr)
      · exact h.live r hr
  · show q.stores.kernel.upstream6[i]? = _
    rw [hq.stores, upstream6_storesWith]
    show _ = (era q.past i).getLast?.map _
    rw [hera]
    by_cases hi : rule.downstream = i
    · subst hi
      rw [if_pos rfl]
      split
      · -- Nothing is bound yet, so no rule is remembered.
        rename_i hfirst
        have hnone := h.first rule.downstream
        rw [ExtTreeMap.getElem?_eq_none (hmirrors.unbound rfl hfirst), eq_comm,
          Option.map_eq_none_iff, List.getLast?_eq_none_iff] at hnone
        rw [ExtTreeMap.getElem?_insert_self, hnone]
        rfl
      · rename_i hmore
        rw [List.getLast?_cons_of_ne_nil (h.exists_mem_era hmore), ← h.first]
    · rw [if_neg hi, ← h.first]
      split
      · rw [ExtTreeMap.getElem?_insert, if_neg (mt Std.compare_eq_iff_eq.mp hi)]
      · rfl

/-- A rule that is removed takes the binding along if it is the last one there. -/
theorem Bound.remove (h : Bound c) {d : DownstreamId} {n : Ipv6} {rule : Rule} {p q : Platform}
    (hfind : c.registry.find? d n = some rule)
    (hp : c.platform.Works (c.platform.stores.uninstall .tables rule) p)
    (hq : (p.note (.ruleRemoved rule d)).Works (c.storesWithout .tables rule) q) :
    Bound { c with
      platform := q
      registry := c.registry.erase d n
      upstreams := c.upstreamsWithout .tables rule.upstream } := by
  have hcount : ∀ i, inUse q.past i =
      inUse c.platform.past i - if rule.downstream = i then 1 else 0 := by
    intro i
    rw [(hq.follows.uses i).1, ← (hp.follows.uses i).1]
    rfl
  have hera : ∀ i, era q.past i = if rule.downstream = i ∧ c.registry.rulesOn i = 1
      then [] else era c.platform.past i := by
    intro i
    rw [(hq.follows.uses i).2, ← h.used, ← (hp.follows.uses i).1, ← (hp.follows.uses i).2]
    rfl
  refine ⟨fun i => ?_, fun r hr => ?_, fun i => ?_⟩
  · show inUse q.past i = (c.registry.erase d n).rulesOn i
    rw [hcount, h.used, c.registry.rulesOn_erase hfind, Nat.add_sub_cancel]
  · show r ∈ era q.past r.downstream
    rw [hera, if_neg]
    · exact h.live r ((c.registry.live_erase hfind).mem_iff.mpr (List.mem_cons_of_mem _ hr))
    · -- A rule that is left is counted.
      rintro ⟨hi, hone⟩
      have hleft := (c.registry.erase d n).rulesOn_ne_zero hr
      have hboth := c.registry.rulesOn_erase hfind r.downstream
      rw [if_pos hi] at hboth
      omega
  · show q.stores.kernel.upstream6[i]? = (era q.past i).getLast?.map _
    rw [hq.stores, upstream6_storesWithout, hera]
    by_cases hi : rule.downstream = i
    · subst hi
      simp only [true_and]
      split
      · exact ExtTreeMap.getElem?_erase_self
      · exact h.first rule.downstream
    · rw [if_neg (mt And.left hi), ← h.first]
      split
      · rw [ExtTreeMap.getElem?_erase, if_neg (mt Std.compare_eq_iff_eq.mp hi)]
      · rfl

/-- No deed parts the journal from the rules, or a binding from the journal. -/
theorem Bound.deed (h : Bound c) (hmirrors : Mirrors .tables c) (hdeed : Deed .tables c c') :
    Bound c' := by
  cases hdeed with
  | stay hs =>
    refine h.stay (.of_eq (congrArg Registry.live hs.registry)) ?_ hs.follows
    exact congrArg (fun x : Stores => x.kernel.upstream6) hs.stores
  | forget hnil => exact h.stay (c.registry.live_forget hnil) rfl (.refl _)
  | add _ hp hq => exact h.add hmirrors hp hq
  | remove hfind hp hq => exact h.remove hfind hp hq
  | @limit c' i quota p hs hp =>
    refine h.stay (.of_eq (congrArg Registry.live hs.registry)) ?_ (hs.follows.trans hp.follows)
    calc p.kernel.upstream6 = c'.platform.kernel.upstream6 := (stats_upstream6_of_limit hp).2
      _ = c.platform.kernel.upstream6 := congrArg (fun x : Stores => x.kernel.upstream6) hs.stores

/-- Counting traffic changes neither rules nor bindings. -/
theorem Bound.traffic (h : Bound c) (i : IfIndex) (more : Counters) :
    Bound { c with platform := c.platform.count .tables i more } := by
  obtain ⟨kernelStats, daemonStats, hcount, -⟩ := c.platform.count_cases .tables i more
  rw [hcount]
  exact ⟨h.used, h.live, h.first⟩

/-- A controller starts without rules, where the journal tells of none. -/
theorem bound_idle {p q : Platform} {cleared : TableLabel → Bool} {ms : UInt64} {attacher : Bool}
    (hpast : ∀ e ∈ p.past, e.isRuleless) (hq : p.Works (p.stores.clear .tables cleared) q)
    (hcleared : ∀ t, cleared t) : Bound (idle q (some .tables) ms attacher) := by
  have huses : ∀ d, inUse q.past d = 0 ∧ era q.past d = [] := by
    intro d
    rw [(hq.follows.uses d).1, (hq.follows.uses d).2]
    exact uses_ruleless hpast d
  refine ⟨fun d => (huses d).1, fun r hr => (List.not_mem_nil hr).elim, fun d => ?_⟩
  show q.stores.kernel.upstream6[d]? = (era q.past d).getLast?.map _
  have hempty : q.stores.kernel.upstream6 = ∅ := by
    rw [hq.stores]
    exact if_pos (hcleared .upstream6)
  rw [hempty, (huses d).2, ExtTreeMap.getElem?_empty]
  rfl

/-- While no call of the backend fails, bindings are as the journal tells at any time. -/
theorem bound_of_reachable {p : Platform} (hp : p.Willing) (hpast : ∀ e ∈ p.past, e.isRuleless)
    (h : Reachable .tables p c) : Bound c := by
  have hb : Backend.tables ≠ .rehearsal := nofun
  exact (h.preserves_deeds hb hp (absurd rfl) (bound_idle hpast)
    (fun hmirrors hdeed hc => hc.deed hmirrors hdeed) fun i more hc => hc.traffic i more).2

/-- While no call of the backend fails, a bound interface has live rules, and it is bound to the
upstream of the first rule that was added there since it last had none. That is the upstream of a
live rule if all rules that were added there since are on it. -/
theorem bound_to_first {p : Platform} (hp : p.Willing) (hpast : ∀ e ∈ p.past, e.isRuleless)
    (h : Reachable .tables p c) {d : IfIndex} {t : Target}
    (hbound : c.platform.kernel.upstream6[d]? = some t) :
    ∃ first, (era c.platform.past d).getLast? = some first ∧ t = .binding first.upstream ∧
      ∃ dn, ∃ r ∈ c.rulesFor dn, r.downstream = d ∧
        ((∀ r ∈ era c.platform.past d, r.upstream = first.upstream) →
          r.upstream = first.upstream) := by
  have hb : Backend.tables ≠ .rehearsal := nofun
  obtain ⟨-, hmirrors⟩ := mirrors_of_reachable hb hp (absurd rfl) h
  have hc : Bound c := bound_of_reachable hp hpast h
  have hfirst := hc.first d
  rw [hbound] at hfirst
  obtain ⟨first, hlast, rfl⟩ := Option.map_eq_some_iff.mp hfirst.symm
  have hmem : d ∈ c.platform.kernel.upstream6 := by
    rw [ExtTreeMap.mem_iff_isSome_getElem?, hbound]
    rfl
  obtain ⟨dn, r, hr, hrd⟩ := c.registry.countP_live_ne_zero.mp ((hmirrors.bindings rfl d).mp hmem)
  obtain rfl := of_decide_eq_true hrd
  have hremembered := hc.live r (c.registry.mem_live.mpr ⟨dn, hr⟩)
  exact ⟨first, hlast, rfl, dn, r, hr, rfl, fun hall => hall r hremembered⟩

/-- A second rule joins out of an interface, for another neighbor and on another upstream. -/
def joined : Operation :=
  .event (.addRule "wlan0" ⟨101, 10, ⟨#v[0x2001, 0xdb8, 0, 0, 0, 0, 0, 2]⟩, .zero, .zero⟩)

/-- The interface of two rules is bound to the upstream of the first one. -/
theorem bound_to_first_joined :
    let c := shared (.tables fun _ => true) [joined]
    ∃ first, (era c.platform.past 10).getLast? = some first ∧
      Target.binding 100 = .binding first.upstream ∧
      ∃ dn, ∃ r ∈ c.rulesFor dn, r.downstream = 10 ∧
        ((∀ r ∈ era c.platform.past 10, r.upstream = first.upstream) →
          r.upstream = first.upstream) :=
  bound_to_first (fun _ _ _ => rfl) (fun _ he => (List.not_mem_nil he).elim)
    (reachable_shared_tables [joined]) (by decide +kernel)

/-- Once the first rule is removed, the interface stays bound to its upstream, although no live rule
out of the interface is on it. -/
theorem not_bound_to_live :
    let c := shared (.tables fun _ => true) [joined, .event (.removeRule "wlan0" (sharedRule 10))]
    Reachable .tables .empty c ∧
      c.platform.kernel.upstream6[(10 : IfIndex)]? = some (.binding 100) ∧
      ¬∃ d, ∃ r ∈ c.rulesFor d, r.downstream = 10 ∧ r.upstream = 100 := by
  intro c
  refine ⟨reachable_shared_tables _, by decide +kernel, ?_⟩
  rintro ⟨d, r, hr, hon⟩
  have hnone : c.registry.live.countP (fun r => r.downstream = 10 ∧ r.upstream = 100) = 0 := by
    decide +kernel
  exact c.registry.countP_live_ne_zero.mpr ⟨d, r, hr, decide_eq_true hon⟩ hnone

end Controller

/-! ## Collisions -/

/-- The calls to tables that met a key that was there already, by the journal. -/
def Platform.collisions (p : Platform) : List Entry :=
  p.past.filter fun e => !e.isSmooth

namespace Controller

open Platform

variable {b : Backend} {c c' : Controller}

/-- No deed meets a key that is there already. -/
theorem Deed.smooth (hdeed : Deed b c c') : c.platform.Writes Entry.isSmooth c'.platform := by
  -- The notice of a rule stands between what is done for the rule and what is done besides.
  have hnoted : ∀ {p q r : Platform} {x y : Stores} {n : Notice}, p.Works x q →
      (q.note n).Works y r → p.Writes Entry.isSmooth r := fun {_ q _ _ _ n} hq hr =>
    hq.smooth.trans ((writes_push (e := .notice n) q rfl).trans hr.smooth)
  cases hdeed with
  | stay hs => exact hs.follows.smooth
  | forget => exact .refl _ _
  | add _ hp hq => exact hnoted hp hq
  | remove _ hp hq => exact hnoted hp hq
  | limit hs hp => exact hs.follows.smooth.trans hp.smooth

/-- While no call of the backend fails, exactly the interfaces of live rules are bound, and none is
ever bound that is bound already: the journal has no collisions but those that it had before. -/
theorem mem_upstream6_iff_live {p : Platform} (hp : p.Willing) (h : Reachable .tables p c) :
    (∀ d, d ∈ c.platform.kernel.upstream6 ↔ ∃ dn, ∃ r ∈ c.rulesFor dn, r.downstream = d) ∧
      c.platform.collisions = p.collisions := by
  have hb : Backend.tables ≠ .rehearsal := nofun
  obtain ⟨⟨-, hmirrors⟩, hsmooth⟩ := h.preserves_deeds (I := fun c => p.Writes Entry.isSmooth
      c.platform) hb hp (absurd rfl) (fun hq _ => hq.smooth)
    (fun _ hdeed hc => hc.trans hdeed.smooth) fun {c} i more hc => by
      rwa [Writes, past_count]
  refine ⟨fun d => ?_, hsmooth.filter_eq fun he => by simp [he]⟩
  calc d ∈ c.platform.kernel.upstream6
    _ ↔ c.registry.rulesOn d ≠ 0 := hmirrors.bindings rfl d
    _ ↔ ∃ dn, ∃ r ∈ c.rulesFor dn, r.downstream = d := by
      rw [Registry.rulesOn, Registry.countP_live_ne_zero]
      simp only [decide_eq_true_iff]
      rfl

/-- An interface of two rules of two upstreams is bound once. -/
theorem mem_upstream6_joined :
    let c := shared (.tables fun _ => true) [joined]
    (10 : IfIndex) ∈ c.platform.kernel.upstream6 ∧ c.platform.collisions = [] :=
  have h := mem_upstream6_iff_live (fun _ _ _ => rfl) (reachable_shared_tables [joined])
  ⟨(h.1 10).mpr ⟨"wlan0", sharedRule 10, by decide +kernel, rfl⟩, h.2⟩

end Controller

end FastPath
