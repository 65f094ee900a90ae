import FastPath.Proofs.Balance

/-!
# No traffic is lost or counted twice

Every upstream keeps its `Balance` whatever happens to the controller. Publications are by name, so
names have to tell upstreams apart. And counters have to fit into words, or the kernel would lose
traffic by itself.
-/

namespace FastPath

open Std

variable {o : Owner} {name : String} {k : Counter}

namespace Controller

/-- Names tell upstreams apart, and no upstream has two names. -/
def OneToOne (names : IfIndex → String → Prop) : Prop :=
  ∀ {i j m n}, names i m → names j n → (i = j ↔ m = n)

/-- Every balance is kept, with `total` as the traffic counted for each upstream. -/
structure Balanced (b : Backend) (names : IfIndex → String → Prop)
    (total : IfIndex → Counter → Nat) (c : Controller) : Prop where
  named : ∀ {i name}, (c.upstreams.account i).name = some name → names i name
  /-- Nothing was published under a name that no upstream has yet. -/
  silent : ∀ {name}, (∀ i, (c.upstreams.account i).name ≠ some name) →
    ∀ o k, told o name k c.platform.past = 0
  balance : ∀ o i k, Balance k (c.delivered o i k) (c.upstreams.account i)
    (c.platform.stores.counted b i) (total i k)
  /-- Final readings are reported under the index that was asked for. -/
  reportedAs : c.platform.stores.daemon.reportedAs = ∅

variable {b : Backend} {names : IfIndex → String → Prop} {total : IfIndex → Counter → Nat}
  {c c' : Controller}

/-- The delivered traffic of a named upstream is what was published under the name. -/
theorem delivered_of_name {i : IfIndex} (h : (c.upstreams.account i).name = some name) :
    c.delivered o i k = told o name k c.platform.past := by
  rw [delivered, UpstreamTable.nameOf_eq, h]
  rfl

/-- Without a name nothing is delivered. -/
theorem delivered_of_none {i : IfIndex} (h : (c.upstreams.account i).name = none) :
    c.delivered o i k = 0 := by
  rw [delivered, UpstreamTable.nameOf_eq, h]
  rfl

/-- A change without names and publications keeps all balances if it keeps the numbers. -/
theorem Balanced.congr (h : Balanced b names total c)
    (hname : ∀ i, (c'.upstreams.account i).name = (c.upstreams.account i).name)
    (htold : ∀ o name k, told o name k c'.platform.past = told o name k c.platform.past)
    (hreported : c'.platform.stores.daemon.reportedAs = c.platform.stores.daemon.reportedAs)
    (hbalance : ∀ i k delivered,
      Balance k delivered (c.upstreams.account i) (c.platform.stores.counted b i) (total i k) →
      Balance k delivered (c'.upstreams.account i) (c'.platform.stores.counted b i) (total i k)) :
    Balanced b names total c' where
  named {i name} hi := h.named (by rwa [← hname])
  silent {name} hnone o k := by
    rw [htold]
    exact h.silent (fun i => by rw [← hname]; exact hnone i) o k
  balance o i k := by
    have hdelivered : c'.delivered o i k = c.delivered o i k := by
      simp only [delivered, UpstreamTable.nameOf_eq, hname, htold]
    rw [hdelivered]
    exact hbalance i k _ (h.balance o i k)
  reportedAs := hreported.trans h.reportedAs

/-- Counts of rules are nothing to the balances. -/
theorem Balanced.recount (h : Balanced b names total c)
    (haccount : ∀ i, ∃ n, c'.upstreams.account i = { c.upstreams.account i with ruleCount := n })
    (htold : ∀ o name k, told o name k c'.platform.past = told o name k c.platform.past)
    (hreported : c'.platform.stores.daemon.reportedAs = c.platform.stores.daemon.reportedAs)
    (hcounted : ∀ i, c'.platform.stores.counted b i = c.platform.stores.counted b i) :
    Balanced b names total c' := by
  refine h.congr (fun i => ?_) htold hreported fun i k delivered hi => ?_
  · obtain ⟨n, hn⟩ := haccount i
    rw [hn]
  · obtain ⟨n, hn⟩ := haccount i
    rw [hn, hcounted]
    exact hi.recount n

/-! ## Moves -/

/-- A controller at rest keeps all balances. -/
theorem Balanced.rest (h : Balanced b names total c) (hr : Rests b c c') :
    Balanced b names total c' := by
  have hstores := hr.platform.stores
  refine h.recount (fun i => ?_) (fun _ _ _ => told_of_quiet hr.platform.quiet) hstores.reportedAs
    hstores.counted
  exact ⟨(c.upstreams.account i).ruleCount, hr.account i⟩

/-- A rule that is added is nothing to the balances. -/
theorem Balanced.add (h : Balanced b names total c) {d : DownstreamId} {rule : Rule} {p : Platform}
    (hs : c.platform.Serves (.addRule rule) (c.platform.stores.install b rule) p) :
    Balanced b names total { c with
      platform := p.note (.ruleAdded rule d)
      registry := c.registry.push d rule
      upstreams := c.upstreams.acquire rule.upstream } := by
  have hstores : (p.note (.ruleAdded rule d)).stores = c.platform.stores.install b rule := hs.stores
  refine h.recount (c.upstreams.exists_account_acquire rule.upstream) (fun o name k => ?_) ?_
    fun i => ?_
  · rw [told_note, told_of_quiet hs.quiet]
  · dsimp only
    rw [hstores]
    cases b <;> rfl
  · dsimp only
    rw [hstores, Stores.counted_install]

/-- A rule that is removed is nothing to the balances. -/
theorem Balanced.remove (h : Balanced b names total c) {d : DownstreamId} {n : Ipv6} {rule : Rule}
    {p : Platform}
    (hs : c.platform.Serves (.removeRule rule) (c.platform.stores.uninstall b rule) p) :
    Balanced b names total { c with
      platform := p.note (.ruleRemoved rule d)
      registry := c.registry.erase d n
      upstreams := c.upstreams.release rule.upstream } := by
  have hstores : (p.note (.ruleRemoved rule d)).stores = c.platform.stores.uninstall b rule :=
    hs.stores
  refine h.recount (c.upstreams.exists_account_release rule.upstream) (fun o name k => ?_) ?_
    fun i => ?_
  · rw [told_note, told_of_quiet hs.quiet]
  · dsimp only
    rw [hstores]
    cases b <;> rfl
  · dsimp only
    rw [hstores, Stores.counted_uninstall]

/-- The stores after the counters of an interface were closed, with the limit or without. -/
theorem closed_cases {u : IfIndex} {x : Stores} {p q : Platform}
    (hs : p.Serves (.readAndClear u) ((x.closeCounters b u).dropLimit b u) q ∨
      p.Serves (.readAndClear u) (x.closeCounters b u) q) :
    (∀ i, q.stores.counted b i = if u = i then .zero else x.counted b i) ∧
      q.stores.daemon.reportedAs = x.daemon.reportedAs ∧ p.Quiet q := by
  have hreported : (x.closeCounters b u).daemon.reportedAs = x.daemon.reportedAs := by
    cases b <;> rfl
  have hdrop : Stores.Same b (x.closeCounters b u) ((x.closeCounters b u).dropLimit b u) :=
    Stores.same_dropLimit _ u
  rcases hs with hs | hs
  · refine ⟨fun i => ?_, ?_, hs.quiet⟩
    · rw [hs.stores, hdrop.counted, Stores.counted_closeCounters]
    · rw [hs.stores, hdrop.reportedAs, hreported]
  · refine ⟨fun i => ?_, ?_, hs.quiet⟩
    · rw [hs.stores, Stores.counted_closeCounters]
    · rw [hs.stores, hreported]

/-- Counters that are cleared and folded in keep all balances. -/
theorem Balanced.fold (h : Balanced b names total c) (hbound : ∀ i k, total i k < UInt64.size)
    {u : IfIndex} {p : Platform}
    (hs : c.platform.Serves (.readAndClear u)
        ((c.platform.stores.closeCounters b u).dropLimit b u) p ∨
      c.platform.Serves (.readAndClear u) (c.platform.stores.closeCounters b u) p) :
    Balanced b names total { c with
      platform := p
      upstreams := c.upstreams.foldFinal
        ⟨c.platform.stores.reportedAs b u, c.platform.stores.counted b u⟩ } := by
  obtain ⟨hcounted, hreported, hquiet⟩ := closed_cases hs
  -- The final reading is folded into the account of the upstream whose counters it is of.
  have hu : c.platform.stores.reportedAs b u = u := by
    cases b <;> simp [Stores.reportedAs, h.reportedAs]
  rw [hu]
  refine h.congr (fun i => ?_) (fun _ _ _ => told_of_quiet hquiet) hreported
    fun i k delivered hi => ?_
  · rw [UpstreamTable.account_foldFinal]
    split
    · rename_i hui
      rw [← hui]
      rfl
    · rfl
  · dsimp only
    rw [hcounted, UpstreamTable.account_foldFinal]
    split
    · rename_i hui
      subst hui
      exact hi.fold (hbound u k)
    · exact hi

/-- Readings keep all balances. -/
theorem Balanced.read (h : Balanced b names total c) {p : Platform}
    (hs : c.platform.Serves .readAll c.platform.stores p) :
    Balanced b names total { c with
      platform := p
      upstreams :=
        (c.platform.stores.readings b).foldl UpstreamTable.recordReading c.upstreams } := by
  obtain ⟨hdistinct, hcounted⟩ := Stores.readings_cases b c.platform.stores
  obtain ⟨hread, hother⟩ := c.upstreams.account_foldl_recordReading hdistinct
  refine h.congr (fun i => ?_) (fun _ _ _ => told_of_quiet hs.quiet) (by rw [hs.stores])
    fun i k delivered hi => ?_
  · obtain ⟨last, hlast⟩ := c.upstreams.exists_account_foldl_recordReading i
      (c.platform.stores.readings b)
    rw [hlast]
  · dsimp only
    rw [hs.stores]
    by_cases hi' : i ∈ (c.platform.stores.readings b).map InterfaceTraffic.ifIndex
    · obtain ⟨r, hr, rfl⟩ := List.mem_map.mp hi'
      rw [hread r hr, ← hcounted r hr]
      exact hi.read
    · rwa [hother i hi']

/-- What was delivered of an upstream is what was published under its name, before the upstream has
got the name as well. -/
theorem Balanced.delivered_eq_told (h : Balanced b names total c) (hnames : OneToOne names)
    {i : IfIndex} {name : String} (hi : names i name) :
    c.delivered o i k = told o name k c.platform.past := by
  cases hname : (c.upstreams.account i).name with
  | none =>
    -- No other upstream can have the name, so nothing was published under it.
    have hnone : ∀ j, (c.upstreams.account j).name ≠ some name := by
      intro j hj
      rw [← (hnames hi (h.named hj)).mpr rfl, hname] at hj
      cases hj
    rw [delivered_of_none hname, h.silent hnone]
  | some old =>
    have hold : old = name := (hnames (h.named hname) hi).mp rfl
    rw [delivered_of_name hname, hold]

/-- A name for an upstream without one keeps all balances, since nothing was published under it. -/
theorem Balanced.setName (h : Balanced b names total c) (hnames : OneToOne names) {i : IfIndex}
    {name : String} (hi : names i name) :
    Balanced b names total { c with upstreams := c.upstreams.setName i name } := by
  have haccount := c.upstreams.account_setName i
  refine ⟨fun {j n} hj => ?_, fun {n} hnone o k => ?_, fun o j k => ?_, h.reportedAs⟩
  · rw [haccount] at hj
    split at hj
    · rename_i hij
      rw [← hij, ← Option.some.inj hj]
      exact hi
    · exact h.named hj
  · refine h.silent (fun j hj => hnone j ?_) o k
    rw [haccount]
    split
    · rename_i hij
      rw [(hnames hi (h.named hj)).mp hij]
    · exact hj
  · -- The balance is about the named upstream or about another one.
    by_cases hij : i = j
    · subst hij
      have hname : (c.upstreams.setName i name |>.account i) =
          { c.upstreams.account i with name := some name } := by rw [haccount, if_pos rfl]
      rw [delivered_of_name (by rw [hname]), ← h.delivered_eq_told hnames hi, hname]
      exact (h.balance o i k).rename _
    · have hsame : (c.upstreams.setName i name |>.account j) = c.upstreams.account j := by
        rw [haccount, if_neg hij]
      have hdelivered : delivered { c with upstreams := c.upstreams.setName i name } o j k =
          c.delivered o j k := by
        simp only [delivered, UpstreamTable.nameOf_eq, hsame]
      rw [hdelivered, hsame]
      exact h.balance o j k

/-- A publication tells of the deltas under each name, and if it says nothing they are zero. -/
theorem told_publish_cases {p : Platform}
    (hp : (∀ d ∈ c.upstreams.deltas, d.2 = .zero) ∧ p = c.platform.note .nothingToPublish ∨
      p = c.platform.announce (.publish (shares .interface c.upstreams.deltas)
        (shares .tethering c.upstreams.deltas))) (o : Owner) (name : String) (k : Counter) :
    told o name k p.past = k.sum ((c.upstreams.deltas.filter fun d => d.1 = name).map Prod.snd) +
      told o name k c.platform.past := by
  rcases hp with ⟨hzero, rfl⟩ | rfl
  · have hsum : k.sum ((c.upstreams.deltas.filter fun d => d.1 = name).map Prod.snd) = 0 := by
      refine Counter.sum_eq_zero fun t ht => ?_
      obtain ⟨d, hd, rfl⟩ := List.mem_map.mp ht
      exact hzero d (List.mem_filter.mp hd).1
    rw [told_note, hsum, Nat.zero_add]
  · exact told_publish ..

/-- A publication keeps all balances. -/
theorem Balanced.publish (h : Balanced b names total c) (hnames : OneToOne names)
    (hbound : ∀ i k, total i k < UInt64.size) : Balanced b names total c.publish := by
  obtain ⟨p, hpublish, hp⟩ := publish_cases c
  have htold := told_publish_cases hp
  have hstores : p.stores = c.platform.stores := by
    rcases hp with ⟨-, rfl⟩ | rfl <;> rfl
  have haccount := c.upstreams.account_settle
  have hname : ∀ i, (c.upstreams.settle.account i).name = (c.upstreams.account i).name := by
    intro i
    rw [haccount]
    split <;> rfl
  rw [hpublish]
  refine ⟨fun {i n} hi => ?_, fun {n} hnone o k => ?_, fun o i k => ?_, ?_⟩
  · exact h.named (by rwa [← hname])
  · have hnone' : ∀ i, (c.upstreams.account i).name ≠ some n := fun i hi =>
      hnone i (by rwa [hname])
    rw [htold, c.upstreams.deltas_filter_of_forall_ne hnone', h.silent hnone' o k]
    rfl
  · have hbalance := h.balance o i k
    dsimp only
    rw [hstores]
    cases hi : (c.upstreams.account i).name with
    | none =>
      -- An upstream without a name is held back.
      rw [delivered_of_none ((hname i).trans hi), haccount, hi, if_neg (by simp)]
      rwa [delivered_of_none hi] at hbalance
    | some n =>
      -- All that is published under the name is of this one upstream.
      have honly : ∀ j, (c.upstreams.account j).name = some n → j = i := fun j hj =>
        (hnames (h.named hj) (h.named hi)).mpr rfl
      rw [delivered_of_name ((hname i).trans hi), haccount, hi, Option.isSome_some, if_pos rfl,
        htold, c.upstreams.deltas_filter i hi honly]
      rw [delivered_of_name hi] at hbalance
      exact hbalance.settle (hbound i k)
  · dsimp only
    rw [hstores, h.reportedAs]

/-- No move loses traffic or counts it twice. -/
theorem Balanced.move (hnames : OneToOne names) (hbound : ∀ i k, total i k < UInt64.size)
    (hmove : Move b names c c') (h : Balanced b names total c) : Balanced b names total c' := by
  cases hmove with
  | rest hr => exact h.rest hr
  | add _ hs => exact h.add hs
  | remove _ hs => exact h.remove hs
  | fold hs => exact h.fold hbound hs
  | forget _ => exact h.congr (fun _ => rfl) (fun _ _ _ => rfl) rfl fun _ _ _ hi => hi
  | name hi => exact h.setName hnames hi
  | read hs => exact h.read hs
  | publish => exact h.publish hnames hbound

/-! ## Histories -/

/-- The traffic of an upstream that is counted when something happens, by one counter. -/
def amount (b : Backend) (i : IfIndex) (k : Counter) (c : Controller) : Happening → Nat
  | .operation _ => 0
  | .traffic j more => if j = i ∧ c.platform.stores.HasCounters b j then k.of more.traffic else 0

/-- The traffic of an upstream that is counted in a history, by one counter. -/
def tally (b : Backend) (i : IfIndex) (k : Counter) : Controller → List Happening → Nat
  | _, [] => 0
  | c, h :: hs => c.amount b i k h + tally b i k (c.undergo b h) hs

/-- An operation of a history names an upstream. -/
def Named (hs : List Happening) (i : IfIndex) (name : String) : Prop :=
  ∃ op, .operation op ∈ hs ∧ op.Names i name

/-- Traffic that is counted is added to the balances. -/
theorem Balanced.count (h : Balanced b names total c) (j : IfIndex) (more : Counters)
    (hbound : ∀ i k, total i k + c.amount b i k (.traffic j more) < UInt64.size) :
    Balanced b names (fun i k => total i k + c.amount b i k (.traffic j more))
      { c with platform := c.platform.count b j more } where
  named := h.named
  silent hnone o k := by
    rw [Platform.past_count]
    exact h.silent hnone o k
  balance o i k := by
    have hdelivered : delivered { c with platform := c.platform.count b j more } o i k =
        c.delivered o i k := by
      simp only [delivered, Platform.past_count]
    have hbalance := h.balance o i k
    have hfits := hbound i k
    rw [hdelivered]
    dsimp only
    rw [Stores.counted_count]
    rw [amount] at hfits ⊢
    split
    · rename_i hj
      rw [if_pos hj] at hfits
      exact hbalance.count hfits
    · exact hbalance
  reportedAs := by
    obtain ⟨stats, hdaemon⟩ := c.platform.exists_daemon_count b j more
    show (c.platform.count b j more).daemon.reportedAs = ∅
    rw [hdaemon]
    exact h.reportedAs

/-- Whatever happens, the traffic that is counted is added to the balances. -/
theorem Balanced.undergo (hnames : OneToOne names) (h : Balanced b names total c)
    (hb : c.backend = some b) (e : Happening)
    (hnamed : ∀ op, e = .operation op → ∀ i name, op.Names i name → names i name)
    (hbound : ∀ i k, total i k + c.amount b i k e < UInt64.size) :
    Balanced b names (fun i k => total i k + c.amount b i k e) (c.undergo b e) := by
  cases e with
  | operation op =>
    -- No traffic is counted while an operation is served, so the total stays.
    have hsteps : Steps b names c (c.run op).2 := steps_run c op hb (hnamed op rfl)
    exact hsteps.preserves (Balanced.move hnames hbound) h
  | traffic j more => exact h.count j more hbound

/-- Over a history the balances add up all the traffic that is counted. -/
theorem Balanced.undergoAll (hnames : OneToOne names) (h : Balanced b names total c)
    (hb : c.backend = some b) (hs : List Happening)
    (hnamed : ∀ i name, Named hs i name → names i name)
    (hbound : ∀ i k, total i k + c.tally b i k hs < UInt64.size) :
    Balanced b names (fun i k => total i k + c.tally b i k hs) (c.undergoAll b hs) := by
  -- The total grows along the history, and what is still to come must fit as well.
  induction hs generalizing c total with
  | nil => exact h
  | cons e hs ih =>
    simp only [tally, ← Nat.add_assoc] at hbound ⊢
    have he : Balanced b names (fun i k => total i k + c.amount b i k e) (c.undergo b e) := by
      refine h.undergo hnames hb e (fun op he i name hi => ?_) fun i k => ?_
      · exact hnamed i name ⟨op, by rw [← he]; exact List.mem_cons_self, hi⟩
      · exact Nat.lt_of_le_of_lt (Nat.le_add_right _ _) (hbound i k)
    refine ih he (backend_undergo e hb) (fun i name ⟨op, hop, hi⟩ => ?_) hbound
    exact hnamed i name ⟨op, List.mem_cons_of_mem _ hop, hi⟩

/-- Where nothing was counted yet there is nothing to balance. -/
theorem balanced_of_blank {refuses : List Entry → Call → Option String} {listing : Listing}
    (h : Blank b (.failing refuses listing) c) : Balanced b names (fun _ _ => 0) c := by
  obtain ⟨cleared, hstores, -⟩ := h.stores
  have htold : ∀ o name k, told o name k c.platform.past = 0 := fun _ _ _ => told_of_quiet h.quiet
  refine ⟨fun hi => ?_, fun _ o k => htold o _ k, fun o i k => ?_, ?_⟩
  · rw [h.upstreams] at hi
    cases hi
  · have hcounted : c.platform.stores.counted b i = .zero := by
      rw [hstores]
      cases b with
      | tables =>
        show ((if cleared .stats then ∅ else ∅ : ExtTreeMap IfIndex Counters)[i]?.map
          Counters.traffic).getD Traffic.zero = Traffic.zero
        rw [ite_self, ExtTreeMap.getElem?_empty]
        rfl
      | daemon | rehearsal => exact ExtTreeMap.getD_empty
    rw [hcounted, h.upstreams, delivered_of_none (by rw [h.upstreams]; rfl)]
    exact .fresh k
  · rw [hstores]
    cases b <;> rfl

/-- No traffic is lost or counted twice. Start on empty tables, let anything be asked, any call fail
and any traffic be forwarded: what was delivered of an upstream, what is pending, what was read
since, and what was counted since make up all that was counted for it. Names have to tell upstreams
apart, and what is counted has to fit into a word. -/
theorem delivered_add_undelivered_eq_tally {refuses : List Entry → Call → Option String}
    {listing : Listing} (hstart : Started b (.failing refuses listing) c) (hs : List Happening)
    (hnames : OneToOne (Named hs)) (hbound : ∀ i k, c.tally b i k hs < UInt64.size) (o : Owner)
    (i : IfIndex) (k : Counter) :
    let c' := c.undergoAll b hs
    let u := c'.upstreams.findOrFresh i
    let counted := c'.platform.stores.counted b i
    k.of u.published ≤ k.of u.lastRead ∧ k.of u.lastRead ≤ k.of counted ∧
      c'.delivered o i k + k.of u.pending + (k.of u.lastRead - k.of u.published) +
        (k.of counted - k.of u.lastRead) = c.tally b i k hs := by
  have hfresh : Balanced b (Named hs) (fun _ _ => 0) c :=
    hstart.preserves balanced_of_blank (Balanced.move hnames fun _ _ => by decide)
  have hend := hfresh.undergoAll hnames hstart.backend hs (fun _ _ h => h) fun i k => by
    rw [Nat.zero_add]
    exact hbound i k
  have hbalance := hend.balance o i k
  rw [Nat.zero_add] at hbalance
  exact hbalance.accounts

/-- A controller that was just started on empty kernel tables. -/
def tethered : Controller :=
  start .default (.tables fun _ => true) true (.failing (fun _ _ => none) .sorted)

/-- Traffic of a named upstream with one rule. Some of it is published, some only read, and some
not even read. -/
def metered : List Happening :=
  [.operation (.event (.addRule "wlan0" (sharedRule 10))),
    .operation (.event (.upstreamName 100 "rmnet0")),
    .traffic 100 { Counters.zero with rxBytes := 40 }, .operation .tick,
    .operation (.event .pushStats),
    .traffic 100 { Counters.zero with rxBytes := 20 }, .operation .tick,
    .traffic 100 { Counters.zero with rxBytes := 7 }]

theorem named_metered {i : IfIndex} {name : String} (h : Named metered i name) :
    i = 100 ∧ name = "rmnet0" := by
  obtain ⟨op, hop, -, -, rfl | ⟨d, rfl⟩⟩ := h
  · simpa [metered] using hop
  · simp [metered] at hop

theorem tally_metered_lt (i : IfIndex) (k : Counter) :
    tethered.tally .tables i k metered < UInt64.size := by
  by_cases hi : (100 : IfIndex) = i
  · subst hi
    cases k <;> decide +kernel
  · simp [metered, tally, amount, hi, UInt64.size]

/-- The bytes that were received are 40 published, 20 read since and 7 counted since. -/
theorem tally_metered :
    OneToOne (Named metered) ∧ (∀ i k, tethered.tally .tables i k metered < UInt64.size) ∧
      40 + 0 + (60 - 40) + (67 - 60) = tethered.tally .tables 100 .rxBytes metered := by
  have hnames : OneToOne (Named metered) := fun hi hj => by
    simp [named_metered hi, named_metered hj]
  have htally := (delivered_add_undelivered_eq_tally ⟨_, _, _, rfl, rfl⟩ metered hnames
    tally_metered_lt .interface 100 .rxBytes).2.2
  refine ⟨hnames, tally_metered_lt, Eq.trans ?_ htally⟩
  decide +kernel

end Controller

end FastPath
