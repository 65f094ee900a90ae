import FastPath.Proofs.Steps

/-!
# Readings of the journal

Some properties are about the calls that a controller makes one after the other: what is opened has
to be closed before it is opened again. A `Reading` picks the calls that such a property is about
from the journal, so that they make a word, the latest one first. The lemmas here say for each
change which letters it adds to the word. They hold of every reading and of every change, also where
calls are refused. A change that adds none and that has nothing to do with rules, limits, programs
and the monitor is `Calm`.
-/

namespace FastPath

/-- What to pick from the journal. Nothing is picked of rules that are installed or removed, of
counters that are read and of traffic that is published. -/
structure Reading (α : Type) where
  /-- What is asked of the backend about bindings, limits and counters. -/
  asked : Request → Option α
  /-- A limit that an upstream without rules remembers. -/
  stored : IfIndex → Quota → Option α
  /-- A call about programs or the monitor, with the cause of its refusal. -/
  aside : Call → Option Cause → Option α

/-- An entry that no reading picks. -/
def Entry.isUnread : Entry → Bool
  | .call (.request r) _ =>
    match r with
    | .addRule _ | .removeRule _ | .readAll | .clearAll => true
    | _ => false
  | .call c _ => !c.isAside
  | .notice (.limitStored ..) => false
  | _ => true

/-- A plain notice is not read. -/
theorem Notice.isUnread_of_isPlain {n : Notice} (h : n.isPlain) : (Entry.notice n).isUnread := by
  cases n <;> first | rfl | cases h

/-- What is written while a request is served is not read. -/
theorem Entry.isUnread_of_isInner {e : Entry} (h : e.isInner) : e.isUnread := by
  unfold isInner at h
  split at h
  · cases h
  · rfl
  · rfl
  · exact Notice.isUnread_of_isPlain (Notice.isPlain_of_isRemark h)
  · cases h

/-- What is written before a controller takes up its work is not read. -/
theorem Entry.isUnread_of_isOpening {e : Entry} (h : e.isOpening) : e.isUnread := by
  unfold isOpening at h
  split at h
  · rfl
  · exact Notice.isUnread_of_isPlain h
  · exact isUnread_of_isInner h

/-- An alert is not read. -/
theorem Entry.isUnread_of_isAlert {e : Entry} (h : e.isAlert) : e.isUnread := by
  unfold isAlert at h
  split at h
  · rfl
  · rfl
  · cases h

namespace Reading

open Platform

variable {α : Type} {g : Reading α} {p q r : Platform} {v w : List α}

/-- What is picked of an entry. -/
def pick (g : Reading α) : Entry → Option α
  | .call (.request r) _ =>
    match r with
    | .addRule _ | .removeRule _ | .readAll | .clearAll => none
    | r => g.asked r
  | .call c refusal => if c.isAside then g.aside c refusal else none
  | .notice (.limitStored i q) => g.stored i q
  | _ => none

/-- The word that is picked from the journal, the latest letter first. -/
def word (g : Reading α) (past : List Entry) : List α :=
  past.filterMap g.pick

/-- From `p` to `q` the letters `w` are added to the word, the latest one first. -/
def Adds (g : Reading α) (w : List α) (p q : Platform) : Prop :=
  g.word q.past = w ++ g.word p.past

theorem Adds.refl (g : Reading α) (p : Platform) : g.Adds [] p p := rfl

theorem Adds.trans (h : g.Adds v p q) (h' : g.Adds w q r) : g.Adds (w ++ v) p r := by
  rw [Adds, h', h, List.append_assoc]

/-- An entry adds what is picked of it. -/
theorem adds_push (g : Reading α) (p : Platform) (e : Entry) :
    g.Adds (g.pick e).toList p (p.push e) := by
  show (e :: p.past).filterMap g.pick = _
  rw [List.filterMap_cons]
  cases g.pick e <;> rfl

/-- Nothing is picked of an entry that is not read. -/
theorem pick_of_isUnread {e : Entry} (h : e.isUnread) : g.pick e = none := by
  cases e with
  | call c refusal =>
    cases c with
    | request r => cases r <;> first | rfl | cases h
    | table | daemon | publish | alert => rfl
    | attach | detach | startMonitor | stopMonitor => cases h
  | notice n => cases n <;> first | rfl | cases h
  | shown text => rfl

/-- Entries of which nothing is picked add nothing. -/
theorem adds_of_writes {f : Entry → Bool} (h : p.Writes f q)
    (hf : ∀ {e}, f e → g.pick e = none) : g.Adds [] p q := by
  obtain ⟨es, hes, hq⟩ := h
  have hnone : es.filterMap g.pick = [] :=
    List.filterMap_eq_nil_iff.mpr fun e he => hf (hes e he)
  rw [Adds, word, hq, List.filterMap_append, hnone]
  rfl

/-- Entries that are not read add nothing. -/
theorem adds_of_unread (g : Reading α) (h : p.Writes Entry.isUnread q) : g.Adds [] p q :=
  adds_of_writes h pick_of_isUnread

/-- Where nothing is added and nothing is taken out of the journal, nothing is picked of what was
written. -/
theorem writes_of_adds_nil (h : g.Adds [] p q) (hpast : p.past <:+ q.past) :
    p.Writes (fun e => (g.pick e).isNone) q := by
  obtain ⟨es, hes⟩ := hpast
  have hword : g.word es ++ g.word p.past = [] ++ g.word p.past := by
    rw [← h, word, word, ← List.filterMap_append, hes, word]
  have hnone := List.filterMap_eq_nil_iff.mp (List.append_cancel_right hword)
  exact ⟨es, fun e he => Option.isNone_iff_eq_none.mpr (hnone e he), hes.symm⟩

/-- Programs and the monitor add nothing to a reading that does not pick calls about them. -/
theorem adds_of_aside (g : Reading α) (hg : ∀ call refusal, g.aside call refusal = none)
    (h : p.Aside q) : g.Adds [] p q := by
  refine adds_of_writes h.past fun {e} he => ?_
  cases e with
  | call c refusal =>
    cases c with
    | request r => rcases refusal with _ | ⟨_ | _⟩ <;> cases he
    | table | daemon | publish | alert => rfl
    | attach | detach | startMonitor | stopMonitor => exact hg _ _
  | notice n => exact pick_of_isUnread (Notice.isUnread_of_isPlain he)
  | shown text => rfl

/-- A notice adds nothing, unless it is about a limit that is remembered. -/
theorem adds_note (g : Reading α) (p : Platform) {n : Notice} (hn : (Entry.notice n).isUnread) :
    g.Adds [] p (p.note n) :=
  g.adds_of_unread (writes_push p hn)

/-- A request that is served adds one letter at most. -/
theorem adds_serves (g : Reading α) {req : Request} {x : Stores} (h : p.Serves req x q) :
    g.Adds (g.pick (.call (.request req) none)).toList p q := by
  obtain ⟨es, refusal, hes, hq⟩ := h.past
  have hrequest := g.adds_push p (.call (.request req) (refusal.map .refused))
  have hserve : g.Adds [] (p.push (.call (.request req) (refusal.map .refused))) q :=
    g.adds_of_unread ⟨es, fun e he => Entry.isUnread_of_isInner (hes e he), hq⟩
  exact hrequest.trans hserve

end Reading

/-- Where a request is not picked, nothing is picked of what is written while it is served. -/
theorem Platform.Serves.writes_of_pick {α : Type} {g : Reading α} {p q : Platform} {req : Request}
    {x : Stores} (h : p.Serves req x q) (hreq : g.pick (.call (.request req) none) = none) :
    p.Writes (fun e => (g.pick e).isNone) q :=
  h.writes (fun he => by rw [Reading.pick_of_isUnread (Entry.isUnread_of_isInner he)]; rfl)
    fun _ => Option.isNone_iff_eq_none.mpr hreq

/-! ## Requests -/

namespace Backend

open Platform

variable {α : Type} {b : Backend} {p q : Platform}

theorem adds_startForwarding (g : Reading α) {d u : IfIndex} {res : Except Failure Unit}
    (h : p.perform (b.startForwarding d u) = (res, q)) :
    g.Adds (g.asked (.startForwarding d u)).toList p q := by
  rcases startForwarding_cases h with ⟨-, hs, -⟩ | ⟨-, -, -, m, a, hs, rfl⟩ | ⟨-, -, hs⟩
  · exact g.adds_serves hs
  · -- A collision is written down after the request.
    exact (g.adds_serves hs).trans (g.adds_push m _)
  · exact g.adds_serves hs

theorem adds_stopForwarding (g : Reading α) {d u : IfIndex} {res : Except Failure Unit}
    (h : p.perform (b.stopForwarding d u) = (res, q)) :
    g.Adds (g.asked (.stopForwarding d u)).toList p q := by
  rcases stopForwarding_cases h with ⟨-, hs, -⟩ | ⟨-, hs⟩
  · exact g.adds_serves hs
  · exact g.adds_serves hs

theorem adds_setQuota (g : Reading α) {i : IfIndex} {quota : Quota} {isFirst : Bool}
    {res : Except Failure Unit} (h : p.perform (b.setQuota i quota isFirst) = (res, q)) :
    g.Adds (g.asked (.setQuota i quota isFirst)).toList p q := by
  rcases setQuota_cases h with ⟨-, hs, -⟩ | ⟨⟨-, hs, -⟩, -⟩ | ⟨-, hs, -⟩ | ⟨-, -, hs⟩
  · exact g.adds_serves hs
  · exact g.adds_serves hs
  · exact g.adds_serves hs
  · exact g.adds_serves hs

theorem adds_readAndClear (g : Reading α) {i : IfIndex} {res : Except Failure InterfaceTraffic}
    (h : p.perform (b.readAndClear i) = (res, q)) :
    g.Adds (g.asked (.readAndClear i)).toList p q := by
  rcases readAndClear_cases h with ⟨-, hs, -⟩ | ⟨-, hs, -⟩ | ⟨-, -, hs | ⟨hs, -⟩⟩
  · exact g.adds_serves hs
  · exact g.adds_serves hs
  · exact g.adds_serves hs
  · exact g.adds_serves hs

end Backend

namespace Controller

open Platform

variable {α : Type} {b : Backend} {c c' c'' : Controller} {p : Platform}

/-! ## Rules -/

/-- A step adds the same letters even if its failure is only noted, and none where it is not
taken. -/
theorem attempt_adds (g : Reading α) (c : Controller) (taken : Prop) [Decidable taken]
    (a : Act Unit) (failed : Failure → Notice) {w : List α}
    (hfailed : ∀ f, (Entry.notice (failed f)).isUnread)
    (ha : ∀ {res q}, c.platform.perform a = (res, q) → g.Adds w c.platform q) :
    ∃ p, (if taken then c.attempt a failed else c) = { c with platform := p } ∧
      g.Adds (if taken then w else []) c.platform p := by
  split
  · exact exists_attempt c a failed ha fun f h => h.trans (g.adds_note _ (hfailed f))
  · exact ⟨c.platform, rfl, .refl g _⟩

/-- The letters of a rule that is added: that of the binding, if the rule is the first one of its
interface, after that of the first limit, if it is the first one of its upstream. -/
def lettersWith (g : Reading α) (rule : Rule) (c : Controller) : List α :=
  (if c.registry.rulesOn rule.downstream = 0
    then (g.asked (.startForwarding rule.downstream rule.upstream)).toList else []) ++
  if c.upstreams.ruleCount rule.upstream = 0
    then (g.asked (.setQuota rule.upstream (c.upstreams.quota rule.upstream) true)).toList else []

/-- The letters of a rule that is removed: that of the counters, if the rule is the last one of its
upstream, after that of the binding, if it is the last one of its interface. -/
def lettersWithout (g : Reading α) (rule : Rule) (c : Controller) : List α :=
  (if c.upstreams.ruleCount rule.upstream = 1
    then (g.asked (.readAndClear rule.upstream)).toList else []) ++
  if c.registry.rulesOn rule.downstream = 1
    then (g.asked (.stopForwarding rule.downstream rule.upstream)).toList else []

/-- One more rule is counted, and the first one asks for counters and a limit. -/
theorem acquire_adds (g : Reading α) (b : Backend) (u : IfIndex) (c : Controller) :
    ∃ p, c.acquire b u = { c with upstreams := c.upstreams.acquire u, platform := p } ∧
      g.Adds (if c.upstreams.ruleCount u = 0
        then (g.asked (.setQuota u (c.upstreams.quota u) true)).toList else []) c.platform p := by
  have hquota : ((c.upstreams.acquire u).findOrFresh u).quota = c.upstreams.quota u :=
    c.upstreams.quota_acquire u u
  unfold acquire
  dsimp only
  rw [hquota]
  exact attempt_adds g { c with upstreams := c.upstreams.acquire u } _ _ _ (fun _ => rfl)
    (Backend.adds_setQuota g)

/-- A rule that is added adds its letters, and one that is not adds none. -/
theorem install_adds (g : Reading α) (b : Backend) (d : DownstreamId) (rule : Rule)
    (c : Controller) :
    (∃ p, c.install b d rule = (false, { c with platform := p }) ∧ g.Adds [] c.platform p) ∨
    (c.registry.find? d rule.neighbor = none ∧ ∃ p,
      c.install b d rule = (true, { c with
        platform := p
        registry := c.registry.push d rule
        upstreams := c.upstreams.acquire rule.upstream }) ∧
      g.Adds (c.lettersWith g rule) c.platform p) := by
  rcases hfind : c.registry.find? d rule.neighbor with _ | old
  · rcases hadd : c.platform.perform (b.addRule rule) with ⟨res, p⟩
    rcases Backend.addRule_cases hadd with ⟨⟨f, rfl⟩, hs, -⟩ | ⟨rfl, hs⟩
    · exact .inl ⟨p.note (.ruleNotAdded d f), install_of_error hfind hadd,
        (g.adds_serves hs).trans (g.adds_note p rfl)⟩
    · have hadded : g.Adds [] c.platform (c.added d rule p).platform :=
        (g.adds_serves hs).trans (g.adds_note p rfl)
      obtain ⟨q, hacquire, hq⟩ := acquire_adds g b rule.upstream (c.added d rule p)
      let counted := { c.added d rule p with
        upstreams := c.upstreams.acquire rule.upstream, platform := q }
      obtain ⟨r, hbind, hr⟩ := attempt_adds g counted (c.registry.rulesOn rule.downstream = 0)
        (b.startForwarding rule.downstream rule.upstream)
        (.bindingNotStarted rule.downstream rule.upstream) (fun _ => rfl)
        (Backend.adds_startForwarding g)
      have hletters := hadded.trans (hq.trans hr)
      rw [List.append_nil] at hletters
      rw [install_of_ok hfind hadd, hacquire]
      exact .inr ⟨rfl, r, congrArg (Prod.mk true) hbind, hletters⟩
  · have hsome : (c.registry.find? d rule.neighbor).isSome := by rw [hfind]; rfl
    exact .inl ⟨_, install_of_some hsome, g.adds_note _ rfl⟩

/-- One rule less is counted, and with the last one the counters are asked for. -/
theorem release_adds (g : Reading α) (b : Backend) (u : IfIndex) (c : Controller) :
    ∃ t p, c.release b u = { c with upstreams := t, platform := p } ∧
      (∀ i, t.ruleCount i = (c.upstreams.release u).ruleCount i) ∧
      (∀ i, t.quota i = c.upstreams.quota i) ∧
      g.Adds (if c.upstreams.ruleCount u = 1 then (g.asked (.readAndClear u)).toList else [])
        c.platform p := by
  have hquota := c.upstreams.quota_release u
  obtain ⟨p, hcount, hp⟩ : ∃ p, c.countDown u = { c with
      upstreams := c.upstreams.release u, platform := p } ∧ g.Adds [] c.platform p :=
    exists_countDown u c (.refl g _) (g.adds_note _ rfl)
  unfold release
  simp only [hcount]
  split
  · rcases hread : p.perform (b.readAndClear u) with ⟨f | last, q⟩ <;> simp only [perform, hread]
    · have hletters := hp.trans (Backend.adds_readAndClear g hread)
      rw [List.append_nil] at hletters
      exact ⟨_, _, rfl, fun _ => rfl, hquota, hletters.trans (g.adds_note q rfl)⟩
    · have hletters := hp.trans (Backend.adds_readAndClear g hread)
      rw [List.append_nil] at hletters
      refine ⟨_, q, rfl, fun i => UpstreamTable.ruleCount_foldFinal _ i last, fun i => ?_, hletters⟩
      rw [UpstreamTable.quota_foldFinal, hquota]
  · exact ⟨_, p, rfl, fun _ => rfl, hquota, hp⟩

/-- A rule that is removed adds its letters, and one that is not adds none. -/
theorem uninstall_adds (g : Reading α) (b : Backend) (d : DownstreamId) (n : Ipv6)
    (c : Controller) :
    (∃ p, c.uninstall b d n = (false, { c with platform := p }) ∧ g.Adds [] c.platform p) ∨
    ∃ rule, c.registry.find? d n = some rule ∧ ∃ t p,
      c.uninstall b d n = (true, { c with
        platform := p
        registry := c.registry.erase d n
        upstreams := t }) ∧
      (∀ i, t.ruleCount i = (c.upstreams.release rule.upstream).ruleCount i) ∧
      (∀ i, t.quota i = c.upstreams.quota i) ∧
      g.Adds (c.lettersWithout g rule) c.platform p := by
  rcases hfind : c.registry.find? d n with _ | rule
  · refine .inl ⟨_, uninstall_of_none hfind, g.adds_note _ ?_⟩
    split <;> rfl
  · rcases hremove : c.platform.perform (b.removeRule rule) with ⟨res, p⟩
    rcases Backend.removeRule_cases hremove with ⟨⟨f, rfl⟩, hs, -⟩ | ⟨rfl, hs⟩
    · exact .inl ⟨p.note (.ruleNotRemoved d f), uninstall_of_error hfind hremove,
        (g.adds_serves hs).trans (g.adds_note p rfl)⟩
    · -- The interface is left without rules if it had no other.
      have hlast : (c.registry.erase d n).rulesOn rule.downstream = 0 ↔
          c.registry.rulesOn rule.downstream = 1 := by
        have hcount := c.registry.rulesOn_erase hfind rule.downstream
        rw [if_pos rfl] at hcount
        omega
      have hremoved : g.Adds [] c.platform (c.removed d n rule p).platform :=
        (g.adds_serves hs).trans (g.adds_note p rfl)
      obtain ⟨q, hunbind, hq⟩ := attempt_adds g (c.removed d n rule p)
        ((c.registry.erase d n).rulesOn rule.downstream = 0)
        (b.stopForwarding rule.downstream rule.upstream)
        (.bindingNotStopped rule.downstream rule.upstream) (fun _ => rfl)
        (Backend.adds_stopForwarding g)
      simp only [hlast] at hq
      obtain ⟨t, r, hrelease, hcount, hquota, hr⟩ := release_adds g b rule.upstream
        { c.removed d n rule p with platform := q }
      have hletters := hremoved.trans (hq.trans hr)
      rw [List.append_nil] at hletters
      rw [uninstall_of_ok hfind hremove, hunbind, hrelease]
      exact .inr ⟨rule, rfl, t, r, rfl, hcount, hquota, hletters⟩

/-! ## Limits -/

/-- A limit is remembered without rules, and asked for with them. -/
theorem applyLimit_adds (g : Reading α) (b : Backend) (i : IfIndex) (q : Quota) (c : Controller) :
    ∃ p, c.applyLimit b i q = { c with
        upstreams := c.upstreams.modify i fun u => { u with quota := q }
        platform := p } ∧
      g.Adds (if c.upstreams.ruleCount i = 0 then (g.stored i q).toList
        else (g.asked (.setQuota i q false)).toList) c.platform p := by
  refine exists_applyLimit b i q c (fun hzero => ?_) (fun hrules _ _ hset => ?_)
    fun f h => h.trans (g.adds_note _ rfl)
  · rw [if_pos hzero]
    exact g.adds_push _ _
  · rw [if_neg hrules]
    exact Backend.adds_setQuota g hset

/-! ## Calm changes -/

/-- From `c` to `c'` rules, their counts, limits, polling, programs, the monitor and the stores
stay, and nothing is written that a reading picks. -/
structure Calm (c c' : Controller) : Prop where
  registry : c'.registry = c.registry
  count : ∀ i, c'.upstreams.ruleCount i = c.upstreams.ruleCount i
  quota : ∀ i, c'.upstreams.quota i = c.upstreams.quota i
  polling : c'.polling = c.polling
  attachments : c'.attachments = c.attachments
  monitoring : c'.monitoring = c.monitoring
  stores : c'.platform.stores = c.platform.stores
  platform : c.platform.Writes Entry.isUnread c'.platform

theorem Calm.refl (c : Controller) : Calm c c :=
  ⟨rfl, fun _ => rfl, fun _ => rfl, rfl, rfl, rfl, rfl, .refl _ _⟩

theorem Calm.trans (h : Calm c c') (h' : Calm c' c'') : Calm c c'' where
  registry := h'.registry.trans h.registry
  count i := (h'.count i).trans (h.count i)
  quota i := (h'.quota i).trans (h.quota i)
  polling := h'.polling.trans h.polling
  attachments := h'.attachments.trans h.attachments
  monitoring := h'.monitoring.trans h.monitoring
  stores := h'.stores.trans h.stores
  platform := h.platform.trans h'.platform

/-- A notice that is not read is calm. -/
theorem calm_note (c : Controller) {n : Notice} (hn : (Entry.notice n).isUnread) :
    Calm c (c.note n) :=
  ⟨rfl, fun _ => rfl, fun _ => rfl, rfl, rfl, rfl, rfl, writes_push _ hn⟩

/-- A change of upstreams that counts no rule and sets no limit is calm. -/
theorem calm_upstreams {t : UpstreamTable}
    (hcount : ∀ i, (t.account i).ruleCount = (c.upstreams.account i).ruleCount)
    (hquota : ∀ i, t.quota i = c.upstreams.quota i) (hstores : p.stores = c.platform.stores)
    (hp : c.platform.Writes Entry.isUnread p) :
    Calm c { c with upstreams := t, platform := p } where
  registry := rfl
  count i := by rw [UpstreamTable.ruleCount_eq, hcount, UpstreamTable.ruleCount_eq]
  quota := hquota
  polling := rfl
  attachments := rfl
  monitoring := rfl
  stores := hstores
  platform := hp

/-- A check of the alert is calm. -/
theorem calm_checkAlert (c : Controller) : Calm c c.checkAlert := by
  rw [checkAlert_eq]
  exact calm_upstreams (fun i => congrArg Account.ruleCount (account_checked _ i)) (quota_checked _)
    rfl ⟨_, fun e he => Entry.isUnread_of_isAlert (isAlert_of_mem_alertEntries he), rfl⟩

/-- A poll is calm. -/
theorem calm_poll (b : Backend) (c : Controller) : Calm c (c.poll b) := by
  unfold poll
  rcases hread : c.platform.perform b.readAll with ⟨res, p⟩
  rcases Backend.readAll_cases hread with ⟨⟨f, rfl⟩, hs, -⟩ | ⟨rfl, hs⟩ <;>
    simp only [perform, hread]
  all_goals
    have hp : c.platform.Writes Entry.isUnread p :=
      hs.writes Entry.isUnread_of_isInner fun _ => rfl
    refine .trans ?_ (calm_checkAlert _)
  · exact calm_upstreams (fun _ => rfl) (fun _ => rfl) hs.stores (hp.trans (writes_push p rfl))
  · refine calm_upstreams (fun i => ?_) (fun i => c.upstreams.quota_foldl_recordReading i _)
      hs.stores hp
    obtain ⟨last, haccount⟩ := c.upstreams.exists_account_foldl_recordReading i
      (c.platform.stores.readings b)
    rw [haccount]

/-- A publication is calm. -/
theorem calm_publish (c : Controller) : Calm c c.publish := by
  have hcount : ∀ i, (c.upstreams.settle.account i).ruleCount =
      (c.upstreams.account i).ruleCount := by
    intro i
    rw [UpstreamTable.account_settle]
    split <;> rfl
  obtain ⟨p, hpublish, ⟨-, rfl⟩ | rfl⟩ := publish_cases c <;> rw [hpublish]
  · exact calm_upstreams hcount c.upstreams.quota_settle rfl (writes_push _ rfl)
  · exact calm_upstreams hcount c.upstreams.quota_settle rfl (writes_push _ rfl)

/-- An alert that is armed or disarmed is calm. -/
theorem calm_armAlert (q : Quota) (c : Controller) : Calm c (c.armAlert q).2 := by
  unfold armAlert
  split
  · exact .refl c
  · refine .trans ?_ (calm_checkAlert _)
    refine calm_upstreams (fun i => ?_) (c.upstreams.quota_setAlert · q) rfl
      (writes_push _ ?_)
    · exact congrArg Account.ruleCount (c.upstreams.account_setAlert i q)
    · split <;> rfl

/-- A change of what is attached adds nothing to a reading that does not pick calls about
programs. -/
theorem adds_changeAttachments (g : Reading α) (hg : ∀ call refusal, g.aside call refusal = none)
    {f : Attachments → Platform → Attachments × Platform}
    (hf : ∀ (a : Attachments) (p : Platform), p.Aside (f a p).2) (c : Controller) :
    g.Adds [] c.platform (c.changeAttachments f).platform := by
  unfold changeAttachments withBackend
  split
  · exact g.adds_of_aside hg (hf _ _)
  · exact .refl g _

/-- A change of what is monitored adds nothing to a reading that does not pick calls about the
monitor. -/
theorem adds_changeMonitoring (g : Reading α) (hg : ∀ call refusal, g.aside call refusal = none)
    {f : Monitoring → Platform → Monitoring × Platform}
    (hf : ∀ (m : Monitoring) (p : Platform), p.Aside (f m p).2) (c : Controller) :
    g.Adds [] c.platform (c.changeMonitoring f).platform := by
  unfold changeMonitoring withBackend
  split
  · exact g.adds_of_aside hg (hf _ _)
  · exact .refl g _

/-- A still change adds nothing to a reading that does not pick calls about programs and the
monitor. -/
theorem Still.adds_nil (h : Still c c') (g : Reading α)
    (hg : ∀ call refusal, g.aside call refusal = none) : g.Adds [] c.platform c'.platform := by
  cases h with
  | note h => exact g.adds_note _ (Notice.isUnread_of_isPlain h)
  | armAlert q => exact g.adds_of_unread (calm_armAlert q c).platform
  | beginPolling => exact g.adds_note _ rfl
  | endPolling =>
    unfold Controller.endPolling
    dsimp only
    split
    · exact g.adds_note _ rfl
    · exact .refl g _
  | setPollInterval ms => exact .refl g _
  | attach pair => exact adds_changeAttachments g hg (Attachments.aside_attach pair) c
  | detach pair => exact adds_changeAttachments g hg (Attachments.aside_detach pair) c
  | addDownstream d => exact adds_changeMonitoring g hg (Monitoring.aside_add d) c
  | removeDownstream d => exact adds_changeMonitoring g hg (Monitoring.aside_remove d) c

/-- Nothing is written in it that such a reading picks. -/
theorem Still.writes_nil (h : Still c c') (g : Reading α)
    (hg : ∀ call refusal, g.aside call refusal = none) :
    c.platform.Writes (fun e => (g.pick e).isNone) c'.platform :=
  Reading.writes_of_adds_nil (h.adds_nil g hg) h.idle.platform.quiet.past_suffix

/-- A limit waits or is refused in all calm, or it is applied to an upstream. -/
theorem limit_calm_cases (b : Backend) (iface : String) (q : Quota) (c : Controller) :
    Calm c (c.limit b iface q).2 ∨ ∃ i, (c.limit b iface q).2 = c.applyLimit b i q := by
  unfold limit
  split
  · exact .inl (.refl c)
  · split
    · exact .inr ⟨_, rfl⟩
    · exact .inl ⟨rfl, fun _ => rfl, fun _ => rfl, rfl, rfl, rfl, rfl, writes_push _ rfl⟩

/-- A name is given in all calm, and then the limit that waits for it is applied. -/
theorem nameUpstream_calm_cases (b : Backend) (i : IfIndex) (name : String) (c : Controller) :
    ∃ c', Calm c c' ∧
      (c.nameUpstream b i name = c' ∨ ∃ q, c.nameUpstream b i name = c'.applyLimit b i q) := by
  have hname : Calm c { c with upstreams := c.upstreams.setName i name } := by
    refine calm_upstreams (fun j => ?_) (fun j => c.upstreams.quota_setName i j name) rfl
      (.refl _ _)
    rw [UpstreamTable.account_setName]
    split
    · rename_i hij
      rw [← hij]
    · rfl
  have hrename : Calm c (c.rename i name).2 := by
    unfold rename
    split
    · split
      · exact .refl c
      · exact hname.trans (calm_note _ rfl)
    · exact hname
  unfold nameUpstream
  split
  · exact ⟨_, calm_note c rfl, .inl rfl⟩
  · rcases hnew : c.rename i name with ⟨_ | _, c'⟩ <;> rw [hnew] at hrename
    · exact ⟨c', hrename, .inl rfl⟩
    · have hnamed : Calm c (c'.note (.upstreamNamed i name)) := hrename.trans (calm_note c' rfl)
      dsimp only
      unfold resolveLimit
      split
      · rename_i q hq
        refine ⟨_, hnamed.trans ?_, .inr ⟨q, rfl⟩⟩
        exact ⟨rfl, fun _ => rfl, fun _ => rfl, rfl, rfl, rfl, rfl, writes_push _ rfl⟩
      · exact ⟨_, hnamed, .inl rfl⟩

end Controller

end FastPath
