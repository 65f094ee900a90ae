import FastPath.Proofs.Alarms
import FastPath.Proofs.Answers
import FastPath.Proofs.Limits
import FastPath.Proofs.Polling
import FastPath.Proofs.Readings

/-!
# Quotas are acceptable throughout

A quota is asked for as a limit or as an alert, or it is a configured limit. It is checked there,
and nowhere after that: a limit may wait for its upstream or be remembered in a record until it is
handed to the backend, an alert is taken over by records to come, and it is compared as an unsigned
number, in which a negative one would be huge. So what is kept and what is handed on has to be
acceptable at any time. A controller is `Sound` if that is so, and every step keeps it sound. A
quota that is not acceptable changes nothing at all (`quotas_acceptable`).
-/

namespace FastPath

open Std

/-- What a backend is asked to set that is not acceptable. -/
def unacceptableAsked : Reading Quota where
  asked
    | .setQuota _ q _ => if q.Acceptable then none else some q
    | _ => none
  stored _ _ := none
  aside _ _ := none

/-- An entry that does not tell of a backend that is asked to set what is not acceptable. -/
def Entry.isFit (e : Entry) : Bool :=
  (unacceptableAsked.pick e).isNone

/-- Nothing is picked of a limit that is acceptable. -/
theorem asked_of_acceptable {q : Quota} (hq : q.Acceptable) (i : IfIndex) (isFirst : Bool) :
    unacceptableAsked.asked (.setQuota i q isFirst) = none :=
  if_pos hq

/-- A limit that a backend is asked to set in a fit entry is acceptable. -/
theorem acceptable_of_isFit {q : Quota} {i : IfIndex} {isFirst : Bool} {refusal : Option Cause}
    (h : (Entry.call (.request (.setQuota i q isFirst)) refusal).isFit) : q.Acceptable := by
  have hnone : (if q.Acceptable then none else some q) = none := Option.isNone_iff_eq_none.mp h
  split at hnone
  · assumption
  · cases hnone

/-- An entry that is not read is fit. -/
theorem Entry.isFit_of_isUnread {e : Entry} (h : e.isUnread) : e.isFit := by
  rw [isFit, Reading.pick_of_isUnread h]
  rfl

namespace Controller

open Platform

variable {b : Backend} {names : IfIndex → String → Prop} {c c' : Controller} {p : Platform}

/-! ## Thresholds -/

/-- The alert has acceptable thresholds, for the upstreams that are known and for those to come. -/
structure WellArmed (c : Controller) : Prop where
  threshold : ∀ i, (c.upstreams.alarm i).threshold.Acceptable
  newThreshold : c.upstreams.newAlarm.threshold.Acceptable

/-- What does not check the alert changes no threshold. -/
theorem WellArmed.unchecked (h : WellArmed c) (hunchecked : Unchecked b c c') : WellArmed c' where
  threshold i := by
    rw [hunchecked.threshold]
    exact h.threshold i
  newThreshold := by
    rw [hunchecked.newAlarm]
    exact h.newThreshold

/-- Nor does a check. -/
theorem WellArmed.checkAlert (h : WellArmed c) : WellArmed c.checkAlert := by
  rw [checkAlert_eq]
  refine ⟨fun i => ?_, h.newThreshold⟩
  have halert : ((checked c.upstreams).findOrFresh i).alert = (c.upstreams.findOrFresh i).alert :=
    c.upstreams.observe_map (g := Upstream.alert) i id rfl (fun u => by split <;> rfl) rfl
  show ((checked c.upstreams).findOrFresh i).alert.Acceptable
  rw [halert]
  exact h.threshold i

/-- A threshold is acceptable once it has been accepted. -/
theorem WellArmed.armAlert (h : WellArmed c) (q : Quota) : WellArmed (c.armAlert q).2 := by
  unfold Controller.armAlert Quota.check
  by_cases hq : q.Acceptable
  · rw [if_pos hq]
    refine WellArmed.checkAlert ⟨fun i => ?_, hq⟩
    show ((c.upstreams.setAlert q).alarm i).threshold.Acceptable
    rw [UpstreamTable.alarm_setAlert]
    exact hq
  · rw [if_neg hq]
    exact h

/-- A still change keeps thresholds acceptable. -/
theorem WellArmed.still (h : WellArmed c) (hstill : Still c c') : WellArmed c' := by
  have keep : ∀ {c'}, Unchecked .tables c c' → WellArmed c' := h.unchecked
  cases hstill with
  | armAlert q => exact h.armAlert q
  | note hn => exact keep (unchecked_note .tables c _)
  | beginPolling => exact keep (unchecked_of_uneventful (uneventful_note ..) rfl fun _ => rfl)
  | endPolling => exact keep (unchecked_endPolling .tables c)
  | setPollInterval ms => exact keep (unchecked_of_uneventful (.refl ..) rfl fun _ => rfl)
  | attach pair => exact keep (unchecked_changeAttachments (Attachments.aside_attach pair) c)
  | detach pair => exact keep (unchecked_changeAttachments (Attachments.aside_detach pair) c)
  | addDownstream d => exact keep (unchecked_changeMonitoring (Monitoring.aside_add d) c)
  | removeDownstream d => exact keep (unchecked_changeMonitoring (Monitoring.aside_remove d) c)

/-- So does every chore. -/
theorem WellArmed.chore (h : WellArmed c) (hchore : Chore b c c') : WellArmed c' := by
  cases hchore with
  | install d rule => exact h.unchecked (unchecked_install b d rule c)
  | uninstall d n => exact h.unchecked (unchecked_uninstall b d n c)
  | forget => exact ⟨h.threshold, h.newThreshold⟩
  | poll =>
    obtain ⟨c₁, hunchecked, -, hpoll⟩ := exists_poll_eq b c
    rw [hpoll]
    exact (h.unchecked hunchecked).checkAlert
  | publish => exact h.unchecked (unchecked_publish b c)
  | still hstill => exact h.still hstill

/-! ## What a step keeps -/

/-- The limits and thresholds that a controller keeps are acceptable, and so is every limit that it
has asked of its backend since the platform `p`. -/
structure Sound (p : Platform) (c : Controller) : Prop where
  limit : ∀ i, (c.upstreams.quota i).Acceptable
  pending : ∀ (name : String) q, c.pendingLimits[name]? = some q → q.Acceptable
  armed : WellArmed c
  asked : p.Writes Entry.isFit c.platform

/-- A chore asks only for limits that upstreams have. -/
theorem Chore.asked_acceptable (h : Chore b c c') (hlimit : ∀ i, (c.upstreams.quota i).Acceptable) :
    unacceptableAsked.Adds [] c.platform c'.platform := by
  cases h with
  | install d rule =>
    rcases install_adds unacceptableAsked b d rule c with ⟨q, h, hq⟩ | ⟨-, q, h, hq⟩ <;> rw [h]
    · exact hq
    · have hletters : c.lettersWith unacceptableAsked rule = [] := by
        unfold lettersWith
        rw [asked_of_acceptable (hlimit rule.upstream)]
        simp [unacceptableAsked]
      rwa [hletters] at hq
  | uninstall d n =>
    rcases uninstall_adds unacceptableAsked b d n c with ⟨q, h, hq⟩ |
      ⟨rule, -, t, q, h, -, -, hq⟩ <;> rw [h]
    · exact hq
    · have hletters : c.lettersWithout unacceptableAsked rule = [] := by
        simp [lettersWithout, unacceptableAsked]
      rwa [hletters] at hq
  | forget => exact .refl _ _
  | poll => exact unacceptableAsked.adds_of_unread (calm_poll b c).platform
  | publish => exact unacceptableAsked.adds_of_unread (calm_publish c).platform
  | still hstill => exact hstill.adds_nil _ fun _ _ => rfl

/-- A chore keeps a controller sound. -/
theorem Sound.chore (h : Sound p c) (hchore : Chore b c c') : Sound p c' where
  limit i := by
    rw [hchore.keepsLimits.quota]
    exact h.limit i
  pending name q := by
    rw [hchore.keepsLimits.pending]
    exact h.pending name q
  armed := h.armed.chore hchore
  asked := by
    have hstep : Step b (fun _ _ => True) c c' := .chore hchore
    exact h.asked.trans
      (Reading.writes_of_adds_nil (hchore.asked_acceptable h.limit) hstep.past_suffix)

/-- So does a plain notice. -/
theorem Sound.note (h : Sound p c) {n : Notice} (hn : n.isPlain) : Sound p (c.note n) :=
  h.chore (b := .tables) (.still (.note c hn))

/-- A limit that is acceptable can be applied, whatever the backend makes of it. -/
theorem Sound.applyLimit (h : Sound p c) {q : Quota} (hq : q.Acceptable) (b : Backend)
    (i : IfIndex) : Sound p (c.applyLimit b i q) := by
  have hunchecked := unchecked_applyLimit b i q c
  obtain ⟨r, happly, hasked⟩ := applyLimit_adds unacceptableAsked b i q c
  have hletters : (if c.upstreams.ruleCount i = 0 then (unacceptableAsked.stored i q).toList
      else (unacceptableAsked.asked (.setQuota i q false)).toList) = [] := by
    rw [asked_of_acceptable hq]
    exact ite_self _
  -- So nothing is picked of what was written, whether the limit is handed on or only remembered.
  rw [hletters] at hasked
  rw [happly] at hunchecked ⊢
  have hwrites := Reading.writes_of_adds_nil hasked hunchecked.writes.past_suffix
  refine ⟨fun j => ?_, h.pending, h.armed.unchecked hunchecked, h.asked.trans hwrites⟩
  rw [UpstreamTable.quota_modify]
  split
  · exact hq
  · exact h.limit j

/-- A limit is applied or waits only once it has been accepted. -/
theorem Sound.setLimit (h : Sound p c) (b : Backend) (iface : String) (q : Quota) :
    Sound p (c.limit b iface q).2 := by
  unfold Controller.limit Quota.check
  by_cases hq : q.Acceptable
  · rw [if_pos hq]
    cases c.upstreams.findByName iface with
    | some i => exact h.applyLimit hq b i
    | none =>
      have hwait : Sound p { c with pendingLimits := c.pendingLimits.insert iface q } := by
        refine ⟨h.limit, fun name q' hq' => ?_, ⟨h.armed.threshold, h.armed.newThreshold⟩, h.asked⟩
        rw [ExtTreeMap.getElem?_insert] at hq'
        split at hq'
        · rwa [← Option.some.inj hq']
        · exact h.pending name q' hq'
      exact hwait.note rfl
  · rw [if_neg hq]
    exact h

/-- A limit that waited was accepted by then. -/
theorem Sound.resolveLimit (h : Sound p c) (b : Backend) (i : IfIndex) (name : String) :
    Sound p (c.resolveLimit b i name) := by
  unfold Controller.resolveLimit
  split
  · rename_i q hq
    have htaken : Sound p { c with pendingLimits := c.pendingLimits.erase name } := by
      refine ⟨h.limit, fun m q' hq' => ?_, ⟨h.armed.threshold, h.armed.newThreshold⟩, h.asked⟩
      rw [ExtTreeMap.getElem?_erase] at hq'
      split at hq'
      · cases hq'
      · exact h.pending m q' hq'
    exact (htaken.note rfl).applyLimit (h.pending name q hq) b i
  · exact h

/-- An upstream keeps its limit and its threshold under another name. -/
theorem Sound.rename (h : Sound p c) (i : IfIndex) (name : String) :
    Sound p (c.rename i name).2 := by
  have hname : Sound p { c with upstreams := c.upstreams.setName i name } := by
    refine ⟨fun j => ?_, h.pending, ⟨fun j => ?_, h.armed.newThreshold⟩, h.asked⟩
    · rw [UpstreamTable.quota_setName]
      exact h.limit j
    · rw [UpstreamTable.alarm_setName]
      exact h.armed.threshold j
  unfold Controller.rename
  split
  · split
    · exact h
    · exact hname.note rfl
  · exact hname

/-- A name for an upstream keeps a controller sound. -/
theorem Sound.nameUpstream (h : Sound p c) (b : Backend) (i : IfIndex) (name : String) :
    Sound p (c.nameUpstream b i name) := by
  unfold Controller.nameUpstream
  split
  · exact h.note rfl
  · have hrename := h.rename i name
    rcases hnew : c.rename i name with ⟨_ | _, c'⟩ <;> rw [hnew] at hrename
    · exact hrename
    · exact (hrename.note rfl).resolveLimit b i name

/-- Every step keeps a controller sound. -/
theorem Sound.step (h : Sound p c) (hstep : Step b names c c') : Sound p c' := by
  cases hstep with
  | chore hchore => exact h.chore hchore
  | nameUpstream i name => exact h.nameUpstream b i name
  | limit iface q => exact h.setLimit b iface q

/-- So does any number of steps. -/
theorem Sound.steps (h : Sound p c) (hsteps : Steps b names c c') : Sound p c' := by
  induction hsteps with
  | refl => exact h
  | tail _ hstep ih => exact ih.step hstep

/-! ## Every history -/

/-- Every operation keeps a controller sound, with a backend or without. -/
theorem Sound.run (h : Sound p c) (op : Operation) : Sound p (c.run op).2 := by
  cases hb : c.backend with
  | none =>
    -- Without a backend all that is left is still, whatever backend there might be.
    have hstill : ∀ {c'}, Still c c' → Sound p c' := fun hs => h.chore (b := .tables) (.still hs)
    rw [run_eq_whileOff hb]
    unfold whileOff
    split
    · exact hstill (.endPolling c)
    · exact hstill (.endPolling c)
    · exact hstill (.setPollInterval c _)
    · exact h
  | some b =>
    have hsteps : Steps b (fun _ _ => True) c (c.run op).2 :=
      steps_run c op hb fun _ _ _ => trivial
    exact h.steps hsteps

/-- So does a configured limit, which is ignored unless it is acceptable. -/
theorem Sound.configureLimit (h : Sound p c) (l : String × Quota) :
    Sound p (c.configureLimit l) := by
  have hset : Sound p (c.setLimit l.1 l.2).2 := h.run (.event (.setLimit l.1 l.2))
  unfold Controller.configureLimit
  split <;> rename_i heq <;> rw [heq] at hset
  · exact hset
  · exact hset.note rfl

/-- A controller at work on nothing has no quota but the one for none. -/
theorem sound_idle {q : Platform} (backend : Option Backend) (ms : UInt64) (attacher : Bool)
    (h : p.Writes Entry.isFit q) : Sound p (idle q backend ms attacher) where
  limit _ := .inr rfl
  pending name q hq := by
    have hnone : (∅ : ExtTreeMap String Quota)[name]? = some q := hq
    rw [ExtTreeMap.getElem?_empty] at hnone
    cases hnone
  armed := ⟨fun _ => .inr rfl, .inr rfl⟩
  asked := h

/-- A controller starts sound, whatever limits are configured. -/
theorem sound_start (config : Config) (source : Source) (attacher : Bool) (p : Platform) :
    Sound p (start config source attacher p) := by
  have hchosen := isPlain_select source config.offloadEnabled
  have hlimits : ∀ (limits : List (String × Quota)) {c : Controller}, Sound p c →
      Sound p (limits.foldl Controller.configureLimit c) := by
    intro limits
    induction limits with
    | nil => exact id
    | cons l limits ih => exact fun hc => ih (hc.configureLimit l)
  unfold start
  rcases hselect : source.select config.offloadEnabled with ⟨_ | b, chosen⟩ <;>
    rw [hselect] at hchosen
  · exact hlimits _ ((sound_idle none _ attacher (.refl _ p)).note hchosen)
  · -- Leftovers are cleared before the limits are taken.
    have hnote : p.Writes Entry.isFit (p.note chosen) :=
      writes_push p (Entry.isFit_of_isUnread (Notice.isUnread_of_isPlain hchosen))
    obtain ⟨q, -, hclear, -, hopening, -⟩ :=
      exists_attempt_clearAll b (p.note chosen) config.pollIntervalMs attacher
    have hcleared : (p.note chosen).Writes Entry.isFit q :=
      hopening.mono fun he => Entry.isFit_of_isUnread (Entry.isUnread_of_isOpening he)
    refine hlimits _ ?_
    show Sound p ((idle (p.note chosen) b config.pollIntervalMs attacher).attempt b.clearAll
      .leftoversKept)
    rw [hclear]
    exact sound_idle _ _ _ (hnote.trans hcleared)

/-- Traffic has nothing to do with quotas. -/
theorem Sound.undergo (h : Sound p c) (b : Backend) (e : Happening) :
    Sound p (c.undergo b e) := by
  cases e with
  | operation op => exact h.run op
  | traffic i more =>
    refine ⟨h.limit, h.pending, ⟨h.armed.threshold, h.armed.newThreshold⟩, ?_⟩
    show p.Writes Entry.isFit (c.platform.count b i more)
    rw [Writes, past_count]
    exact h.asked

/-- A controller is sound at any time. -/
theorem Sound.undergoAll (h : Sound p c) (b : Backend) (hs : List Happening) :
    Sound p (c.undergoAll b hs) := by
  induction hs generalizing c with
  | nil => exact h
  | cons e hs ih => exact ih (h.undergo b e)

/-- Whatever limits are configured, whatever is asked and whatever fails, every limit of an upstream
and every limit that waits for one, every threshold of the alert and every limit that the backend is
asked to set is either none or not negative. Limits and alerts are accepted exactly if they are so,
and a quota that is not leaves the controller and all around it as they are. -/
theorem quotas_acceptable (config : Config) (source : Source) (attacher : Bool) (p : Platform)
    (b : Backend) (hs : List Happening) :
    let c := (start config source attacher p).undergoAll b hs
    (∀ (i : IfIndex) u, c.upstreams.records[i]? = some u →
      u.quota.Acceptable ∧ u.alert.Acceptable) ∧
    c.upstreams.defaultAlert.Acceptable ∧
    (∀ (name : String) q, c.pendingLimits[name]? = some q → q.Acceptable) ∧
    (∃ es, c.platform.past = es ++ p.past ∧ ∀ i q isFirst refusal,
      .call (.request (.setQuota i q isFirst)) refusal ∈ es → q.Acceptable) ∧
    ∀ q : Quota,
      (q.Acceptable → (∀ iface, (c.setLimit iface q).1 = .ok ()) ∧ (c.setAlert q).1 = .ok ()) ∧
      (¬q.Acceptable → (∀ iface, c.setLimit iface q = (.error (.invalidQuota q), c)) ∧
        c.setAlert q = (.error (.invalidQuota q), c)) := by
  intro c
  have hsound : Sound p c := (sound_start config source attacher p).undergoAll b hs
  refine ⟨fun i u hu => ?_, hsound.armed.newThreshold, hsound.pending, ?_, fun q => ⟨fun hq => ?_,
    fun hq => ?_⟩⟩
  · -- The record that there is under the index is the one that is looked at.
    have hlimit := hsound.limit i
    have hthreshold := hsound.armed.threshold i
    rw [UpstreamTable.quota, UpstreamTable.findOrFresh, hu] at hlimit
    rw [UpstreamTable.alarm, UpstreamTable.findOrFresh, hu] at hthreshold
    exact ⟨hlimit, hthreshold⟩
  · obtain ⟨es, hes, hpast⟩ := hsound.asked
    exact ⟨es, hpast, fun _ _ _ _ he => acceptable_of_isFit (hes _ he)⟩
  · have hcheck : q.check = .ok () := if_pos hq
    exact ⟨fun iface => (c.setLimit_answer iface q).trans hcheck,
      (c.setAlert_answer q).trans hcheck⟩
  · have hcheck : q.check = .error (.invalidQuota q) := if_neg hq
    exact ⟨fun iface => Prod.ext ((c.setLimit_answer iface q).trans hcheck)
        (c.setLimit_of_error hcheck iface),
      Prod.ext ((c.setAlert_answer q).trans hcheck) (c.setAlert_of_error hcheck)⟩

end Controller

end FastPath
