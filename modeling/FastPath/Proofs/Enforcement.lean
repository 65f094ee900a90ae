import FastPath.Proofs.Answers
import FastPath.Proofs.Attribution
import FastPath.Proofs.Counts
import FastPath.Proofs.Disabled

/-!
# Limits that are enforced

The counters of an upstream are asked for once, when its first rule is added, and what becomes of
them is only noted. So what failed back then decides whether a limit that is accepted later gets to
the kernel. A limit that failed does no harm, since the next one finds the counters. Counters that
could neither be found nor created are missed by every limit to come, until the upstream is used
anew. There is no third way for an upstream with rules (`Enrolled`), whatever else has failed.
-/

namespace FastPath

namespace Controller

open Platform

variable {c c' : Controller} {u : IfIndex}

/-- An upstream that is in use has counters in the kernel, or the journal shows that they could not
be had. -/
def Enrolled (c : Controller) : Prop :=
  ∀ u, c.upstreams.ruleCount u ≠ 0 → c.platform.Accounts u

/-- This stays so where the counters of upstreams in use are sustained and no upstream comes into
use. -/
theorem Enrolled.sustained (h : Enrolled c)
    (hcount : ∀ u, c'.upstreams.ruleCount u ≠ 0 → c.upstreams.ruleCount u ≠ 0)
    (hp : ∀ u, c'.upstreams.ruleCount u ≠ 0 → c.platform.Sustains u c'.platform) : Enrolled c' :=
  fun u hu => (h u (hcount u hu)).sustained (hp u hu)

/-- A notice that is not read keeps it so. -/
theorem Enrolled.note (h : Enrolled c) {n : Notice} (hn : (Entry.notice n).isUnread) :
    Enrolled (c.note n) :=
  h.sustained (fun _ => id) fun u _ => sustains_push u _ hn

/-- It stays so in a step that is attempted, if that sustains counters. -/
theorem Enrolled.attempt (h : Enrolled c) (a : Act Unit) (failed : Failure → Notice)
    (hfailed : ∀ f, (Entry.notice (failed f)).isUnread)
    (ha : ∀ {res q}, c.platform.perform a = (res, q) → ∀ u, c.platform.Sustains u q) :
    Enrolled (c.attempt a failed) := by
  have hserved : ∀ {res q}, c.platform.perform a = (res, q) → Enrolled { c with platform := q } :=
    fun hq => h.sustained (fun _ => id) fun u _ => ha hq u
  obtain ⟨p, hattempt, hp⟩ := exists_attempt c a failed hserved fun f hq => hq.note (hfailed f)
  rw [hattempt]
  exact hp

/-! ## Rules -/

/-- The first rule of an upstream asks for its counters. -/
theorem Enrolled.acquire (h : Enrolled c) (u : IfIndex) : Enrolled (c.acquire .tables u) := by
  unfold Controller.acquire
  dsimp only
  have hcount : ∀ v, v ≠ u → (c.upstreams.acquire u).ruleCount v ≠ 0 →
      c.upstreams.ruleCount v ≠ 0 := by
    intro v hv hrules
    rwa [UpstreamTable.ruleCount_acquire, if_neg hv.symm] at hrules
  split
  · -- The first limit asks for the counters of its own upstream, and leaves those of others alone.
    have hset : ∀ {quota res q}, c.platform.perform (Backend.tables.setQuota u quota true) =
        (res, q) → Enrolled { c with upstreams := c.upstreams.acquire u, platform := q } := by
      intro quota res q hq v hrules
      by_cases hv : v = u
      · subst hv
        exact Backend.accounts_setQuota hq
      · exact (h v (hcount v hv hrules)).sustained
          (Backend.sustains_setQuota (fun _ => Ne.symm hv) hq)
    obtain ⟨p, hattempt, hp⟩ := exists_attempt { c with upstreams := c.upstreams.acquire u }
      (Backend.tables.setQuota u ((c.upstreams.acquire u).findOrFresh u).quota true)
      (.quotaNotInitialized u) hset fun f hq => hq.note rfl
    rw [hattempt]
    exact hp
  · rename_i hused
    intro v hrules
    by_cases hv : v = u
    · subst hv
      exact h v hused
    · exact h v (hcount v hv hrules)

/-- A rule that is added comes with counters, or with an entry that tells why not. -/
theorem Enrolled.install (h : Enrolled c) (d : DownstreamId) (rule : Rule) :
    Enrolled (c.install .tables d rule).2 := by
  cases hfind : c.registry.find? d rule.neighbor with
  | some old =>
    rw [install_of_some (by rw [hfind]; rfl)]
    exact h.note rfl
  | none =>
    rcases hadd : c.platform.perform (Backend.tables.addRule rule) with ⟨f | ⟨⟩, p⟩
    · rw [install_of_error hfind hadd]
      exact h.sustained (fun _ => id) fun u _ =>
        (Backend.sustains_addRule hadd).trans (sustains_push u p rfl)
    · have hadded : Enrolled (c.added d rule p) := h.sustained (fun _ => id) fun u _ =>
        (Backend.sustains_addRule hadd).trans (sustains_push u p rfl)
      have hacquired := hadded.acquire rule.upstream
      rw [install_of_ok hfind hadd]
      dsimp only
      split
      · exact hacquired.attempt _ _ (fun _ => rfl) fun hbind _ =>
          Backend.sustains_startForwarding hbind
      · exact hacquired

/-- The last rule of an upstream takes its counters along. -/
theorem Enrolled.release (h : Enrolled c) (u : IfIndex) : Enrolled (c.release .tables u) := by
  have hless : ∀ v, (c.upstreams.release u).ruleCount v ≠ 0 → c.upstreams.ruleCount v ≠ 0 := by
    intro v hv
    rw [UpstreamTable.ruleCount_release] at hv
    split at hv
    · rename_i huv
      subst huv
      omega
    · exact hv
  have hkept : Enrolled { c with upstreams := c.upstreams.release u } :=
    h.sustained hless fun v _ => .refl v _
  obtain ⟨p, hcount, hreleased⟩ : ∃ p, c.countDown u = { c with
      upstreams := c.upstreams.release u, platform := p } ∧
        Enrolled { c with upstreams := c.upstreams.release u, platform := p } :=
    exists_countDown u c hkept (hkept.note rfl)
  unfold Controller.release
  simp only [hcount]
  split
  · -- What is still in use is another upstream.
    rename_i hone
    have hother : ∀ v, (c.upstreams.release u).ruleCount v ≠ 0 → u ≠ v := by
      rintro v hv rfl
      rw [UpstreamTable.ruleCount_release, if_pos rfl, hone] at hv
      exact hv rfl
    rcases hread : p.perform (Backend.tables.readAndClear u) with ⟨f | last, q⟩ <;>
      simp only [perform, hread]
    · exact hreleased.sustained (fun _ => id) fun v hv =>
        (Backend.sustains_readAndClear (hother v hv) hread).trans (sustains_push v q rfl)
    · have hfold : ∀ v, ((c.upstreams.release u).foldFinal last).ruleCount v ≠ 0 →
          (c.upstreams.release u).ruleCount v ≠ 0 := by
        intro v hv
        rwa [UpstreamTable.ruleCount_foldFinal] at hv
      exact hreleased.sustained hfold fun v hv =>
        Backend.sustains_readAndClear (hother v (hfold v hv)) hread
  · exact hreleased

/-- A rule that is removed takes no counters along that are in use. -/
theorem Enrolled.uninstall (h : Enrolled c) (d : DownstreamId) (n : Ipv6) :
    Enrolled (c.uninstall .tables d n).2 := by
  cases hfind : c.registry.find? d n with
  | none =>
    rw [uninstall_of_none hfind]
    exact h.note (by split <;> rfl)
  | some rule =>
    rcases hremove : c.platform.perform (Backend.tables.removeRule rule) with ⟨f | ⟨⟩, p⟩
    · rw [uninstall_of_error hfind hremove]
      exact h.sustained (fun _ => id) fun u _ =>
        (Backend.sustains_removeRule hremove).trans (sustains_push u p rfl)
    · have hremoved : Enrolled (c.removed d n rule p) := h.sustained (fun _ => id) fun u _ =>
        (Backend.sustains_removeRule hremove).trans (sustains_push u p rfl)
      rw [uninstall_of_ok hfind hremove]
      refine Enrolled.release ?_ rule.upstream
      split
      · exact hremoved.attempt _ _ (fun _ => rfl) fun hunbind _ =>
          Backend.sustains_stopForwarding hunbind
      · exact hremoved

/-! ## Limits -/

/-- A limit that is applied creates no counters. -/
theorem Enrolled.applyLimit (h : Enrolled c) (i : IfIndex) (q : Quota) :
    Enrolled (c.applyLimit .tables i q) := by
  have hstored : ∀ u, c.platform.Sustains u (c.platform.note (.limitStored i q)) :=
    fun u => ⟨id, writes_push _ rfl⟩
  have hset : ∀ {res p}, c.platform.perform (Backend.tables.setQuota i q false) = (res, p) →
      ∀ u, c.platform.Sustains u p :=
    fun hset u => Backend.sustains_setQuota (fun hfirst => absurd hfirst Bool.false_ne_true) hset
  have hnoted : ∀ {p : Platform} f, (∀ u, c.platform.Sustains u p) →
      ∀ u, c.platform.Sustains u (p.note (.limitNotSet i f)) :=
    fun f hp u => (hp u).trans (sustains_push u _ rfl)
  obtain ⟨p, happly, hp⟩ := exists_applyLimit .tables i q c (fun _ => hstored) (fun _ => hset)
    hnoted
  rw [happly]
  refine h.sustained (fun u hu => ?_) fun u _ => hp u
  rwa [UpstreamTable.ruleCount_modify_quota] at hu

/-! ## Every history -/

/-- What is calm sustains all counters. -/
theorem Enrolled.calm (h : Enrolled c) (hcalm : Calm c c') : Enrolled c' :=
  h.sustained (fun u hu => by rwa [hcalm.count] at hu)
    fun u _ => sustains_of_unread u hcalm.stores hcalm.platform

/-- So does what is still. -/
theorem Enrolled.still (h : Enrolled c) (hstill : Still c c') : Enrolled c' := by
  have hidle := hstill.idle
  refine h.sustained (fun u hu => ?_) fun u _ =>
    ⟨fun hu => ?_, hstill.writes_nil (openings u) fun _ _ => rfl⟩
  · rwa [UpstreamTable.ruleCount_eq, hidle.account, ← UpstreamTable.ruleCount_eq] at hu
  · show u ∈ c'.platform.stores.kernel.stats
    rw [hidle.platform.stores]
    exact hu

/-- In every step upstreams in use keep their counters, and those that come into use get them. -/
theorem Enrolled.step {names : IfIndex → String → Prop} (h : Enrolled c)
    (hstep : Step .tables names c c') : Enrolled c' := by
  cases hstep with
  | chore hchore =>
    cases hchore with
    | install d rule => exact h.install d rule
    | uninstall d n => exact h.uninstall d n
    | forget => exact h
    | poll => exact h.calm (calm_poll .tables c)
    | publish => exact h.calm (calm_publish c)
    | still hstill => exact h.still hstill
  | nameUpstream i name =>
    obtain ⟨c₁, hcalm, hname | ⟨q, hname⟩⟩ := nameUpstream_calm_cases .tables i name c <;>
      rw [hname]
    · exact h.calm hcalm
    · exact (h.calm hcalm).applyLimit i q
  | limit iface q =>
    rcases limit_calm_cases .tables iface q c with hcalm | ⟨i, hlimit⟩
    · exact h.calm hcalm
    · rw [hlimit]
      exact h.applyLimit i q

/-- At any time an upstream with rules has counters, or they could not be had when its first rule
was added. -/
theorem enrolled_of_reachable {p : Platform} (h : Reachable .tables p c) : Enrolled c := by
  refine h.preserves_steps (fun _ _ _ u hu => ?_) (fun hstep hc => hc.step hstep)
    fun {c} i more hc u hu => ?_
  · exact absurd rfl hu
  · obtain ⟨stats, daemonStats, hcount, hmem⟩ := c.platform.count_cases .tables i more
    show Accounts u (c.platform.count .tables i more)
    rw [hcount]
    exact (hc u hu).imp_left (hmem u).mpr

/-- A limit of an upstream in use gets to the kernel if the counters of the upstream are there and
no access fails. Without counters it leaves the kernel as it is. -/
theorem applyLimit_told (i : IfIndex) (q : Quota) (hused : c.upstreams.ruleCount i ≠ 0) :
    ∃ p, c.applyLimit .tables i q = { c with
        upstreams := c.upstreams.modify i fun u => { u with quota := q }
        platform := p } ∧
      (c.platform.Breaks p ∨
        (i ∈ c.platform.kernel.stats → p.kernel.limit[i]? = some q) ∧
        (i ∉ c.platform.kernel.stats → p.kernel = c.platform.kernel)) := by
  refine exists_applyLimit .tables i q c (fun hzero => absurd hzero hused) (fun _ _ p hset => ?_)
    fun f h => h.imp_left (·.mono List.suffix_rfl (List.suffix_cons ..))
  -- The request is written down before anything is looked up.
  let asked := c.platform.announce (.request (.setQuota i q false))
  have hserve : asked.perform (TableBackend.setQuota i q false) = (_, p) := hset
  have hbreak : asked.Breaks p → c.platform.Breaks p :=
    fun h => h.mono (List.suffix_cons ..) List.suffix_rfl
  rcases TableBackend.setQuota_told hserve with ⟨reason, rfl⟩ | ⟨hfirst, -⟩ | ⟨-, hnone, hkernel⟩ |
    ⟨hfirst | hthere, -, hlimit | hfailed⟩
  · exact .inl (hbreak (shows_push asked rfl))
  · cases hfirst
  · exact .inr ⟨fun hthere => absurd hthere hnone, fun _ => hkernel⟩
  · cases hfirst
  · cases hfirst
  · exact .inr ⟨fun _ => hlimit, fun hnone => absurd hthere hnone⟩
  · exact .inl (hbreak hfailed)

/-- A limit that is accepted for an upstream with rules, where no access to the kernel fails, is
remembered, and it is what the kernel enforces if the upstream has counters. Whatever failed before,
it has them unless they could not be had when its first rule was added. The kernel is left as it is
then, and the limit is accepted all the same. -/
theorem limit_enforced {p : Platform} (h : Reachable .tables p c) {iface : String} {q : Quota}
    {u : IfIndex} (hok : (c.setLimit iface q).1 = .ok ())
    (hname : c.upstreams.findByName iface = some u)
    (hlive : ∃ d, ∃ rule ∈ c.rulesFor d, rule.upstream = u)
    (hserved : c.platform.Writes (fun e => !e.isFailedAccess) (c.setLimit iface q).2.platform) :
    let c' := (c.setLimit iface q).2
    c'.upstreams.quota u = q ∧
    (u ∈ c.platform.kernel.stats → c'.platform.kernel.limit[u]? = some q) ∧
    (u ∉ c.platform.kernel.stats →
      c'.platform.kernel = c.platform.kernel ∧ Uncounted u c.platform.past) := by
  have hcheck : q.check = .ok () := (c.setLimit_answer iface q).symm.trans hok
  have hused : c.upstreams.ruleCount u ≠ 0 :=
    ((counted_of_reachable h).ruleCount_ne_zero u).mpr hlive
  have hset : (c.setLimit iface q).2 = c.applyLimit .tables u q := by
    -- The quota is accepted and the name leads to the upstream.
    rw [setLimit, h.backend]
    simp only [limit, hcheck, hname]
  -- So all depends on whether the counters are there.
  obtain ⟨r, happly, htold⟩ := applyLimit_told u q hused
  rw [hset, happly] at hserved ⊢
  obtain hfailed | ⟨hthere, hnone⟩ := htold
  · exact absurd hserved hfailed.not_writes
  · refine ⟨?_, hthere, fun hmissing => ⟨hnone hmissing, ?_⟩⟩
    · show (c.upstreams.modify u _).quota u = q
      rw [UpstreamTable.quota_modify, if_pos rfl]
    · exact (enrolled_of_reachable h u hused).resolve_left hmissing

/-- A platform that fails the first of certain calls and none after it. -/
def failsFirst (broken : Call → Bool) (past : List Entry) (call : Call) : Option String :=
  if broken call && !past.any Entry.isFailedAccess then some "busy" else none

/-- A controller with a rule on a named upstream, on such a platform. -/
def faltered (broken : Call → Bool) : Controller :=
  (start .default (.tables fun _ => true) true (.failing (failsFirst broken) .sorted)).runAll [
    .event (.upstreamName 100 "rmnet0"), .event (.addRule "wlan0" (sharedRule 10))]

theorem reachable_faltered (broken : Call → Bool) :
    Reachable .tables (.failing (failsFirst broken) .sorted) (faltered broken) :=
  ⟨_, _, ⟨_, _, _, backend_start .., rfl⟩, (undergoAll_operations ..).symm⟩

/-- The call updates the limit of an interface. -/
def isLimitUpdate : Call → Bool
  | .table .limit (.update ..) => true
  | _ => false

/-- The call creates the counters of an interface. -/
def isStatsInsert : Call → Bool
  | .table .stats (.insert ..) => true
  | _ => false

/-- A limit that failed with the first rule does no harm, since the next one is enforced. Counters
that could not be created then are missed by every later limit, although it is accepted. -/
theorem limit_enforced_faltered :
    (Reachable .tables (.failing (failsFirst isLimitUpdate) .sorted) (faltered isLimitUpdate) ∧
      (faltered isLimitUpdate).platform.kernel.limit[(100 : IfIndex)]? = none ∧
      ((faltered isLimitUpdate).setLimit "rmnet0" 5000).2.platform.kernel.limit[(100 : IfIndex)]? =
        some 5000) ∧
    Reachable .tables (.failing (failsFirst isStatsInsert) .sorted) (faltered isStatsInsert) ∧
      ((faltered isStatsInsert).setLimit "rmnet0" 5000).2.platform.kernel =
        (faltered isStatsInsert).platform.kernel ∧
      Uncounted 100 (faltered isStatsInsert).platform.past := by
  have hupdate : sharedRule 10 ∈ (faltered isLimitUpdate).rulesFor "wlan0" := by decide +kernel
  have hinsert : sharedRule 10 ∈ (faltered isStatsInsert).rulesFor "wlan0" := by decide +kernel
  obtain ⟨-, hlimit, -⟩ := limit_enforced (reachable_faltered isLimitUpdate)
    (show ((faltered isLimitUpdate).setLimit "rmnet0" 5000).1 = .ok () from rfl) (by decide +kernel)
    ⟨"wlan0", sharedRule 10, hupdate, rfl⟩ ⟨_, by decide +kernel, (List.take_append_drop 3 _).symm⟩
  obtain ⟨-, -, hnone⟩ := limit_enforced (reachable_faltered isStatsInsert)
    (show ((faltered isStatsInsert).setLimit "rmnet0" 5000).1 = .ok () from rfl) (by decide +kernel)
    ⟨"wlan0", sharedRule 10, hinsert, rfl⟩ ⟨_, by decide +kernel, (List.take_append_drop 3 _).symm⟩
  exact ⟨⟨reachable_faltered _, by decide +kernel, hlimit (by decide +kernel)⟩,
    reachable_faltered _, hnone (by decide +kernel)⟩

/-- So a limit can be accepted for an upstream with rules, while no access fails, and the kernel
still enforces none. -/
theorem limit_not_enforced :
    Reachable .tables (.failing (failsFirst isStatsInsert) .sorted) (faltered isStatsInsert) ∧
      ((faltered isStatsInsert).setLimit "rmnet0" 5000).1 = .ok () ∧
      (faltered isStatsInsert).upstreams.findByName "rmnet0" = some 100 ∧
      (∃ d, ∃ rule ∈ (faltered isStatsInsert).rulesFor d, rule.upstream = 100) ∧
      (faltered isStatsInsert).platform.Writes (fun e => !e.isFailedAccess)
        ((faltered isStatsInsert).setLimit "rmnet0" 5000).2.platform ∧
      ((faltered isStatsInsert).setLimit "rmnet0" 5000).2.platform.kernel.limit[(100 : IfIndex)]? =
        none := by
  have hlive : sharedRule 10 ∈ (faltered isStatsInsert).rulesFor "wlan0" := by decide +kernel
  exact ⟨reachable_faltered isStatsInsert, rfl, by decide +kernel,
    ⟨"wlan0", sharedRule 10, hlive, rfl⟩,
    ⟨_, by decide +kernel, (List.take_append_drop 3 _).symm⟩, by decide +kernel⟩

end Controller

end FastPath
