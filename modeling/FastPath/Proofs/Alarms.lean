import FastPath.Proofs.Clearing
import FastPath.Proofs.Steps

/-!
# Alarms of upstreams

The alert is armed and fires for each upstream on its own, and an upstream that has no record yet
takes over from the table what is armed and whether it has fired. The alarm of an upstream is both,
with a record or without. Between two checks of the alert nothing is told, no threshold changes, and
an alarm that has fired stays so until the counters of its upstream are cleared: the controller is
`Unchecked`. All that an operation does is of this kind, except arming the alert and checking it
(`unchecked_run`).
-/

namespace FastPath

open Std

/-- What the alert is to an upstream. -/
structure Alarm where
  threshold : Quota
  /-- The alert has told of the upstream. -/
  fired : Bool

/-- The alarm of an upstream. -/
def Upstream.alarm (u : Upstream) : Alarm := ⟨u.alert, u.alertFired⟩

/-- The operation sets a threshold that is accepted. -/
def Operation.arms : Operation → Prop
  | .event (.setAlert q) => q.Acceptable
  | _ => False

/-- What sets a threshold that is accepted is a request for it. -/
theorem Operation.exists_of_arms {op : Operation} (h : op.arms) :
    ∃ q : Quota, q.Acceptable ∧ op = .event (.setAlert q) := by
  unfold arms at h
  split at h
  · exact ⟨_, h, rfl⟩
  · exact h.elim

/-- The operation checks the alert. -/
def Operation.checks (op : Operation) : Prop := op = .tick ∨ op.arms

namespace UpstreamTable

/-- The alarm that a new record takes over. -/
def newAlarm (t : UpstreamTable) : Alarm := ⟨t.defaultAlert, t.defaultAlertFired⟩

/-- The alarm of an upstream, with a record or without. -/
def alarm (t : UpstreamTable) (i : IfIndex) : Alarm :=
  (t.findOrFresh i).alarm

variable (t : UpstreamTable) (i j : IfIndex)

/-- A name is nothing to the alarms. -/
theorem alarm_setName (name : String) : (t.setName i name).alarm j = t.alarm j :=
  t.observe_modify i j fun _ => rfl

/-- Nor is a rule that is counted. -/
theorem alarm_acquire : (t.acquire i).alarm j = t.alarm j :=
  t.observe_modify i j fun _ => rfl

/-- Nor is a rule that is no longer counted. -/
theorem alarm_release : (t.release i).alarm j = t.alarm j := by
  rw [release]
  split
  · rfl
  · exact t.observe_modify i j fun _ => rfl

/-- It is nothing to the records to come either. -/
theorem newAlarm_release : (t.release i).newAlarm = t.newAlarm := by
  rw [release]
  split <;> rfl

/-- Nor is a limit. -/
theorem alarm_modify_quota (q : Quota) :
    (t.modify i fun u => { u with quota := q }).alarm j = t.alarm j :=
  t.observe_modify i j fun _ => rfl

/-- Nor are readings. -/
theorem alarm_foldl_recordReading (readings : List InterfaceTraffic) :
    (readings.foldl recordReading t).alarm j = t.alarm j := by
  induction readings generalizing t with
  | nil => rfl
  | cons reading readings ih =>
    exact (ih (t.recordReading reading)).trans (t.observe_modify _ j fun _ => rfl)

/-- Nor is a publication. -/
theorem alarm_settle : t.settle.alarm i = t.alarm i := by
  refine t.observe_map i id rfl (fun u => ?_) rfl
  split <;> rfl

/-- With its counters an upstream is cleared of having been told of. -/
theorem alarm_foldFinal (last : InterfaceTraffic) :
    (t.foldFinal last).alarm j =
      if last.ifIndex = j then { t.alarm j with fired := false } else t.alarm j := by
  rw [alarm, foldFinal, findOrFresh_modify]
  split
  · rename_i hj
    rw [← hj]
    rfl
  · rfl

/-- The alert is armed for all upstreams, those to come included. -/
theorem alarm_setAlert (q : Quota) : (t.setAlert q).alarm i = ⟨q, false⟩ :=
  t.observe_map (g := Upstream.alarm) i (fun _ => ⟨q, false⟩) rfl (fun _ => rfl) rfl

end UpstreamTable

namespace Controller

open Platform Relation

/-- The counters whose final reading is reported under `i` are cleared from `c` to `c'`. -/
def Folds (b : Backend) (i : IfIndex) (c c' : Controller) : Prop :=
  ∃ es u, c'.platform.past = es ++ c.platform.past ∧ b.clearing u ∈ es ∧
    c.platform.stores.reportedAs b u = i

/-- The alert is neither armed nor checked from `c` to `c'`. -/
structure Unchecked (b : Backend) (c c' : Controller) : Prop where
  reportedAs : c'.platform.daemon.reportedAs = c.platform.daemon.reportedAs
  newAlarm : c'.upstreams.newAlarm = c.upstreams.newAlarm
  threshold : ∀ i, (c'.upstreams.alarm i).threshold = (c.upstreams.alarm i).threshold
  /-- What has fired stays so unless counters are cleared. -/
  fired : ∀ i, (c'.upstreams.alarm i).fired ↔ (c.upstreams.alarm i).fired ∧ ¬Folds b i c c'
  /-- Nothing is told. -/
  writes : c.platform.Writes (fun e => !e.tellsAlert) c'.platform

variable {b : Backend} {c c' c'' : Controller} {i : IfIndex}

/-- Without an event no counters are cleared. -/
theorem not_folds_of_uneventful (h : c.platform.Uneventful b c'.platform) : ¬Folds b i c c' := by
  rintro ⟨es, u, hpast, hu, -⟩
  obtain ⟨es', hes', hpast'⟩ := h.writes
  obtain rfl := List.append_cancel_right (hpast.symm.trans hpast')
  have heventful := b.clearing_eventful u
  rw [hes' _ hu] at heventful
  cases heventful

/-- Where one interface has its counters cleared, no other has. -/
theorem folds_iff_of_clearing {u : IfIndex} {m : Platform} (hm : c.platform.Uneventful b m)
    (hq : (m.push (b.clearing u)).Uneventful b c'.platform) :
    Folds b i c c' ↔ c.platform.stores.reportedAs b u = i := by
  obtain ⟨es, hes, hpast⟩ := hm.writes
  obtain ⟨es', hes', hpast'⟩ := hq.writes
  have hwrites : c'.platform.past = (es' ++ b.clearing u :: es) ++ c.platform.past := by
    rw [hpast', push, hpast, List.append_assoc, List.cons_append]
  constructor
  · rintro ⟨es'', v, hpast'', hv, hi⟩
    obtain rfl := List.append_cancel_right (hpast''.symm.trans hwrites)
    have heventful := b.clearing_eventful v
    rcases List.mem_append.mp hv with hv | hv
    · rw [hes' _ hv] at heventful
      cases heventful
    · rcases List.mem_cons.mp hv with hv | hv
      · rwa [Backend.eq_of_clearing_eq hv] at hi
      · rw [hes _ hv] at heventful
        cases heventful
  · exact fun hi => ⟨_, u, hwrites, by simp, hi⟩

/-- Counters are cleared over two changes if they are over one of them. -/
theorem folds_trans_iff {f g : Entry → Bool} (h : c.platform.Writes f c'.platform)
    (h' : c'.platform.Writes g c''.platform)
    (hreported : c'.platform.daemon.reportedAs = c.platform.daemon.reportedAs) :
    Folds b i c c'' ↔ Folds b i c c' ∨ Folds b i c' c'' := by
  obtain ⟨es, -, hpast⟩ := h
  obtain ⟨es', -, hpast'⟩ := h'
  have hboth : c''.platform.past = (es' ++ es) ++ c.platform.past := by
    rw [hpast', hpast, List.append_assoc]
  have hsame : ∀ u, c'.platform.stores.reportedAs b u = c.platform.stores.reportedAs b u := by
    intro u
    cases b <;> first | rfl | exact congrArg (·.getD u u) hreported
  constructor
  · rintro ⟨es'', u, hpast'', hu, hi⟩
    obtain rfl := List.append_cancel_right (hpast''.symm.trans hboth)
    rcases List.mem_append.mp hu with hu | hu
    · exact .inr ⟨es', u, hpast', hu, (hsame u).trans hi⟩
    · exact .inl ⟨es, u, hpast, hu, hi⟩
  · rintro (⟨es'', u, hpast'', hu, hi⟩ | ⟨es'', u, hpast'', hu, hi⟩)
    · obtain rfl := List.append_cancel_right (hpast''.symm.trans hpast)
      exact ⟨_, u, hboth, List.mem_append_right _ hu, hi⟩
    · obtain rfl := List.append_cancel_right (hpast''.symm.trans hpast')
      exact ⟨_, u, hboth, List.mem_append_left _ hu, (hsame u).symm.trans hi⟩

/-- A change without an event that is nothing to the alarms. -/
theorem unchecked_of_uneventful (hplatform : c.platform.Uneventful b c'.platform)
    (hnew : c'.upstreams.newAlarm = c.upstreams.newAlarm)
    (halarm : ∀ i, c'.upstreams.alarm i = c.upstreams.alarm i) : Unchecked b c c' where
  reportedAs := hplatform.reportedAs
  newAlarm := hnew
  threshold i := congrArg Alarm.threshold (halarm i)
  fired i := by
    rw [halarm i, and_iff_left (not_folds_of_uneventful hplatform)]
  writes := hplatform.writes.mono Entry.not_tellsAlert_of_isUneventful

/-- The alarms stay as they are where only the platform changes, and without an event. -/
theorem unchecked_platform {p : Platform} (h : c.platform.Uneventful b p) :
    Unchecked b c { c with platform := p } :=
  unchecked_of_uneventful h rfl fun _ => rfl

theorem Unchecked.refl (b : Backend) (c : Controller) : Unchecked b c c :=
  unchecked_platform (.refl b _)

theorem Unchecked.trans (h : Unchecked b c c') (h' : Unchecked b c' c'') : Unchecked b c c'' where
  reportedAs := h'.reportedAs.trans h.reportedAs
  newAlarm := h'.newAlarm.trans h.newAlarm
  threshold i := (h'.threshold i).trans (h.threshold i)
  fired i := by
    rw [h'.fired i, h.fired i, folds_trans_iff h.writes h'.writes h.reportedAs, not_or, and_assoc]
  writes := h.writes.trans h'.writes

/-- A notice is no check. -/
theorem unchecked_note (b : Backend) (c : Controller) (n : Notice) : Unchecked b c (c.note n) :=
  unchecked_platform (uneventful_note b _ n)

/-- Nor is a step without an event whose failure is only noted. -/
theorem unchecked_attempt {a : Act Unit} (ha : a.IsUneventful b) (failed : Failure → Notice)
    (c : Controller) : Unchecked b c (c.attempt a failed) := by
  obtain ⟨p, hattempt, hp⟩ := exists_attempt (R := c.platform.Uneventful b) c a failed
    (fun {res q} hq => by
      have h := ha c.platform
      rwa [hq] at h)
    fun f h => h.trans (uneventful_note b _ _)
  rw [hattempt]
  exact unchecked_platform hp

/-! ## Rules -/

theorem unchecked_acquire (b : Backend) (u : IfIndex) (c : Controller) :
    Unchecked b c (c.acquire b u) := by
  have hcount : Unchecked b c { c with upstreams := c.upstreams.acquire u } :=
    unchecked_of_uneventful (.refl b _) rfl fun i => c.upstreams.alarm_acquire u i
  unfold acquire
  dsimp only
  split
  · exact hcount.trans (unchecked_attempt (b.isUneventful_setQuota _ _ _) _ _)
  · exact hcount

/-- A rule is added without a check, whatever of it fails. -/
theorem unchecked_install (b : Backend) (d : DownstreamId) (rule : Rule) (c : Controller) :
    Unchecked b c (c.install b d rule).2 := by
  cases hfind : c.registry.find? d rule.neighbor with
  | some rule' =>
    rw [install_of_some (by rw [hfind]; rfl)]
    exact unchecked_note b c _
  | none =>
    have hadd := b.isUneventful_addRule rule c.platform
    rcases h : c.platform.perform (b.addRule rule) with ⟨f | ⟨⟩, p⟩ <;> rw [h] at hadd
    · rw [install_of_error hfind h]
      exact (unchecked_platform hadd).trans (unchecked_note b _ _)
    · have hadded : Unchecked b c (c.added d rule p) :=
        unchecked_of_uneventful (hadd.trans (uneventful_note b _ _)) rfl fun _ => rfl
      have hacquired := hadded.trans (unchecked_acquire b rule.upstream _)
      rw [install_of_ok hfind h]
      dsimp only
      split
      · exact hacquired.trans (unchecked_attempt (b.isUneventful_startForwarding _ _) _ _)
      · exact hacquired

theorem unchecked_countDown (b : Backend) (u : IfIndex) (c : Controller) :
    Unchecked b c (c.countDown u) := by
  unfold countDown
  split
  · exact unchecked_note b c _
  · exact unchecked_of_uneventful (.refl b _) (c.upstreams.newAlarm_release u)
      fun i => c.upstreams.alarm_release u i

/-- Where counters are cleared, the upstream whose reading is folded in has not been told of any
more. -/
theorem unchecked_fold {u : IfIndex} {last : InterfaceTraffic} {m q : Platform}
    (hm : c.platform.Uneventful b m) (hq : (m.push (b.clearing u)).Uneventful b q)
    (hlast : last.ifIndex = c.platform.stores.reportedAs b u) :
    Unchecked b c { c with platform := q, upstreams := c.upstreams.foldFinal last } where
  reportedAs := hq.reportedAs.trans hm.reportedAs
  newAlarm := rfl
  threshold i := by
    rw [UpstreamTable.alarm_foldFinal]
    split <;> rfl
  fired i := by
    rw [folds_iff_of_clearing hm hq, UpstreamTable.alarm_foldFinal, ← hlast]
    split
    · rename_i hi
      exact ⟨nofun, fun h => absurd hi h.2⟩
    · rename_i hi
      exact ⟨fun h => ⟨h, hi⟩, And.left⟩
  writes := by
    have hclearing : m.Writes (fun e => !e.tellsAlert) (m.push (b.clearing u)) :=
      writes_push m (b.not_tellsAlert_clearing u)
    exact (hm.writes.mono Entry.not_tellsAlert_of_isUneventful).trans
      (hclearing.trans (hq.writes.mono Entry.not_tellsAlert_of_isUneventful))

/-- A rule is counted no more without a check, and with the last one counters may be cleared. -/
theorem unchecked_release (b : Backend) (u : IfIndex) (c : Controller) :
    Unchecked b c (c.release b u) := by
  have hcount := unchecked_countDown b u c
  unfold release
  dsimp only
  split
  · generalize c.countDown u = c' at hcount ⊢
    rcases hread : c'.platform.perform (b.readAndClear u) with ⟨f | last, q⟩ <;>
      simp only [perform, hread] <;>
      rcases Backend.readAndClear_eventful hread with
        ⟨⟨f', hf'⟩, hq⟩ | ⟨⟨last', hok, hlast⟩, m, hm, hq⟩
    · exact hcount.trans ((unchecked_platform hq).trans (unchecked_note b _ _))
    · cases hok
    · cases hf'
    · obtain rfl := Except.ok.inj hok
      exact hcount.trans (unchecked_fold hm hq hlast)
  · exact hcount

/-- A rule is removed without a check, whatever of it fails. -/
theorem unchecked_uninstall (b : Backend) (d : DownstreamId) (n : Ipv6) (c : Controller) :
    Unchecked b c (c.uninstall b d n).2 := by
  cases hfind : c.registry.find? d n with
  | none =>
    rw [uninstall_of_none hfind]
    exact unchecked_note b c _
  | some rule =>
    have hremove := b.isUneventful_removeRule rule c.platform
    rcases h : c.platform.perform (b.removeRule rule) with ⟨f | ⟨⟩, p⟩ <;> rw [h] at hremove
    · rw [uninstall_of_error hfind h]
      exact (unchecked_platform hremove).trans (unchecked_note b _ _)
    · have hremoved : Unchecked b c (c.removed d n rule p) :=
        unchecked_of_uneventful (hremove.trans (uneventful_note b _ _)) rfl fun _ => rfl
      rw [uninstall_of_ok hfind h]
      dsimp only
      refine .trans ?_ (unchecked_release b rule.upstream _)
      split
      · exact hremoved.trans (unchecked_attempt (b.isUneventful_stopForwarding _ _) _ _)
      · exact hremoved

/-! ## Names and limits -/

/-- A limit is applied without a check. -/
theorem unchecked_applyLimit (b : Backend) (i : IfIndex) (q : Quota) (c : Controller) :
    Unchecked b c (c.applyLimit b i q) := by
  obtain ⟨p, happly, hp⟩ := exists_applyLimit (R := c.platform.Uneventful b) b i q c
    (fun _ => uneventful_note b _ _)
    (fun _ {res p} h => by
      have hset := b.isUneventful_setQuota i q false c.platform
      rwa [h] at hset)
    fun f h => h.trans (uneventful_note b _ _)
  rw [happly]
  exact unchecked_of_uneventful hp rfl fun j => c.upstreams.alarm_modify_quota i j q

/-- A limit is set without a check, whether it is accepted, waits or is refused. -/
theorem unchecked_limit (b : Backend) (iface : String) (q : Quota) (c : Controller) :
    Unchecked b c (c.limit b iface q).2 := by
  unfold limit
  split
  · exact .refl b c
  · split
    · exact unchecked_applyLimit b _ q c
    · exact unchecked_of_uneventful (uneventful_note b _ _) rfl fun _ => rfl

/-- An upstream is named without a check, and a limit that waited is applied without one. -/
theorem unchecked_nameUpstream (b : Backend) (i : IfIndex) (name : String) (c : Controller) :
    Unchecked b c (c.nameUpstream b i name) := by
  have hrename : Unchecked b c (c.rename i name).2 := by
    have hname : ∀ {p}, c.platform.Uneventful b p →
        Unchecked b c { c with upstreams := c.upstreams.setName i name, platform := p } :=
      fun hp => unchecked_of_uneventful hp rfl fun j => c.upstreams.alarm_setName i j name
    unfold rename
    split
    · split
      · exact .refl b c
      · exact hname (uneventful_note b _ _)
    · exact hname (.refl b _)
  have hresolve : ∀ c : Controller, Unchecked b c (c.resolveLimit b i name) := by
    intro c
    unfold resolveLimit
    split
    · refine .trans ?_ (unchecked_applyLimit b i _ _)
      exact unchecked_of_uneventful (uneventful_note b _ _) rfl fun _ => rfl
    · exact .refl b c
  unfold nameUpstream
  split
  · exact unchecked_note b c _
  · rcases h : c.rename i name with ⟨_ | _, c'⟩ <;> rw [h] at hrename <;> dsimp only
    · exact hrename
    · exact hrename.trans ((unchecked_note b c' _).trans (hresolve _))

/-! ## Readings and publications -/

/-- Counters are read without a check. The check comes after that. -/
theorem exists_poll_eq (b : Backend) (c : Controller) :
    ∃ c', Unchecked b c c' ∧ c.platform.Uneventful b c'.platform ∧ c.poll b = c'.checkAlert := by
  have hread := b.isUneventful_readAll c.platform
  unfold poll
  rcases h : c.platform.perform b.readAll with ⟨f | readings, p⟩ <;> rw [h] at hread <;>
    simp only [perform, h]
  · have hnote := hread.trans (uneventful_note b p (.pollFailed f))
    exact ⟨_, unchecked_platform hnote, hnote, rfl⟩
  · refine ⟨_, unchecked_of_uneventful hread ?_ fun i => ?_, hread, rfl⟩
    · rw [UpstreamTable.foldl_recordReading_eq]
      rfl
    · exact c.upstreams.alarm_foldl_recordReading i readings

/-- Traffic is published without a check. -/
theorem unchecked_publish (b : Backend) (c : Controller) : Unchecked b c c.publish := by
  obtain ⟨p, hpublish, hp⟩ := publish_cases c
  have huneventful : c.platform.Uneventful b p := by
    rcases hp with ⟨-, rfl⟩ | rfl
    · exact uneventful_note b _ _
    · exact uneventful_push _ (by cases b <;> rfl)
  rw [hpublish]
  exact unchecked_of_uneventful huneventful rfl fun i => c.upstreams.alarm_settle i

/-! ## Programs and the monitor -/

/-- Where a platform stands aside there is no event. -/
theorem uneventful_of_aside {p q : Platform} (h : p.Aside q) : p.Uneventful b q := by
  refine ⟨h.past.mono fun {e} he => ?_, congrArg (fun x => x.daemon.reportedAs) h.stores⟩
  unfold Entry.isAside at he
  split at he
  · cases he
  · rename_i call refusal _
    cases call <;> cases refusal <;> first | (cases b <;> rfl) | cases he
  · rfl
  · cases he

theorem unchecked_changeAttachments {f : Attachments → Platform → Attachments × Platform}
    (hf : ∀ (a : Attachments) (p : Platform), p.Aside (f a p).2) (c : Controller) :
    Unchecked b c (c.changeAttachments f) := by
  unfold changeAttachments withBackend
  split
  · exact unchecked_of_uneventful (uneventful_of_aside (hf _ _)) rfl fun _ => rfl
  · exact .refl b c

theorem unchecked_changeMonitoring {f : Monitoring → Platform → Monitoring × Platform}
    (hf : ∀ (m : Monitoring) (p : Platform), p.Aside (f m p).2) (c : Controller) :
    Unchecked b c (c.changeMonitoring f) := by
  unfold changeMonitoring withBackend
  split
  · exact unchecked_of_uneventful (uneventful_of_aside (hf _ _)) rfl fun _ => rfl
  · exact .refl b c

/-! ## Operations -/

/-- No errand checks the alert. -/
theorem Errand.unchecked (h : Errand b c c') : Unchecked b c c' := by
  cases h with
  | install d rule => exact unchecked_install b d rule c
  | uninstall d n => exact unchecked_uninstall b d n c
  | forget d h => exact unchecked_of_uneventful (.refl b _) rfl fun _ => rfl
  | publish => exact unchecked_publish b c
  | note h => exact unchecked_note b c _
  | attach pair => exact unchecked_changeAttachments (Attachments.aside_attach pair) c
  | detach pair => exact unchecked_changeAttachments (Attachments.aside_detach pair) c
  | addDownstream d => exact unchecked_changeMonitoring (Monitoring.aside_add d) c
  | removeDownstream d => exact unchecked_changeMonitoring (Monitoring.aside_remove d) c

/-- Nor do any number of them. -/
theorem Errands.unchecked (h : Errands b c c') : Unchecked b c c' := by
  induction h with
  | refl => exact .refl b c
  | tail _ h ih => exact ih.trans h.unchecked

/-- Polling ends without a check. -/
theorem unchecked_endPolling (b : Backend) (c : Controller) : Unchecked b c c.endPolling := by
  unfold endPolling
  dsimp only
  split
  · exact unchecked_of_uneventful (uneventful_note b _ _) rfl fun _ => rfl
  · exact unchecked_of_uneventful (.refl b _) rfl fun _ => rfl

/-- An operation is no check, unless it arms the alert or is a tick. -/
theorem unchecked_run {op : Operation} (hop : ¬op.checks) (hb : c.backend = some b) :
    Unchecked b c (c.run op).2 := by
  by_cases herrand : op.isErrand
  · exact Errands.unchecked (errands_run c herrand hb)
  rw [Operation.checks, not_or] at hop
  have hname : ∀ i name, Unchecked b c (c.addUpstreamName i name) := by
    intro i name
    rw [addUpstreamName, withBackend, hb]
    exact unchecked_nameUpstream b i name c
  cases op with
  | event e =>
    cases e with
    | upstreamName i name => exact hname i name
    | upstreamChanged d u =>
      cases u with
      | none => exact absurd rfl herrand
      | some info =>
        have hb' := backend_addUpstreamName c info.ifIndex info.name hb
        exact (hname info.ifIndex info.name).trans
          (Errands.unchecked (errands_updateRules _ d info.ifIndex hb'))
    | setLimit iface q =>
      show Unchecked b c (c.setLimit iface q).2
      rw [setLimit, hb]
      exact unchecked_limit b iface q c
    | setAlert q =>
      -- A threshold that is not accepted changes nothing.
      show Unchecked b c (c.setAlert q).2
      have hrefused : ¬q.Acceptable := hop.2
      rw [setAlert, enabled, hb, armAlert, Quota.check, if_neg hrefused]
      exact .refl b c
    | startPolling =>
      show Unchecked b c c.startPolling.2
      rw [startPolling, enabled, hb]
      exact unchecked_of_uneventful (uneventful_note b _ _) rfl fun _ => rfl
    | stopPolling => exact unchecked_endPolling b c
    | setPollInterval ms => exact unchecked_of_uneventful (.refl b _) rfl fun _ => rfl
    | _ => exact absurd rfl herrand
  | tick => exact absurd rfl hop.1
  | shutDown =>
    exact (unchecked_endPolling b c).trans (Errands.unchecked (errands_shutDown c hb))
  | _ => exact absurd rfl herrand

end Controller

end FastPath
