import FastPath.Proofs.Alarms
import FastPath.Proofs.History

/-!
# When the alert is told

Once the alert has been armed with a threshold, it is checked then and with every tick, and a check
tells of it at most once. A positive threshold is told when an upstream is at it or beyond that has
not been reported (`alerts_concat`): a check reports every upstream that is, and it stays reported
until its counters are cleared. A threshold of zero is told while it is armed, and not again unless
counters are cleared (`alerts_zero`). That the alarms say which upstreams have been reported is the
invariant (`Watched`). Nothing is assumed of what the kernel and the daemon keep in between, nor of
what is refused.
-/

namespace FastPath

open Std

/-- A number that fits into a word is at most a sum of words if and only if it is at most the sum
that saturates. -/
theorem toUInt64_le_satAdd {q : Quota} (hq : 0 ≤ q) (a b : UInt64) :
    q.toUInt64 ≤ satAdd a b ↔ q.toInt ≤ (a.toNat + b.toNat : Nat) := by
  have hpos : 0 ≤ q.toInt := Int64.le_iff_toInt_le.mp hq
  have hlt : q.toInt < 2 ^ 63 := Int64.toInt_lt q
  have hword : (q.toUInt64.toNat : Int) = q.toInt := by
    have h := BitVec.toInt_eq_toNat_cond q.toBitVec
    rw [Int64.toInt_toBitVec] at h
    show (q.toBitVec.toNat : Int) = _
    omega
  rw [UInt64.le_iff_toNat_le, toNat_satAdd, UInt64.size]
  omega

/-- Traffic is at a threshold or beyond, in both directions together. -/
def Traffic.Meets (q : Quota) (t : Traffic) : Prop :=
  q.toInt ≤ (t.rxBytes.toNat + t.txBytes.toNat : Nat)

/-- The alert is reached where it has not fired and traffic meets the threshold. -/
theorem Upstream.alertReached_iff {u : Upstream} (h : 0 ≤ u.alert) :
    u.alertReached ↔ u.lastRead.Meets u.alert ∧ ¬u.alertFired := by
  have harmed : u.alert ≠ .unlimited := fun heq => absurd (heq ▸ h) (by decide)
  simp only [alertReached, harmed, ne_eq, not_false_eq_true, decide_true, Bool.true_and,
    Bool.and_eq_true, Bool.not_eq_true', decide_eq_true_eq, Traffic.totalBytes,
    toUInt64_le_satAdd h, Traffic.Meets, Bool.not_eq_true]
  exact And.comm

namespace Controller

open Platform

/-! ## A check -/

section

variable (t : UpstreamTable)

/-- After a check the alert has fired where it had before and where it is reached. -/
theorem alarm_checked (i : IfIndex) : (checked t).alarm i =
    t.records[i]?.elim (checked t).newAlarm fun u => ⟨u.alert, u.alertFired || u.alertReached⟩ := by
  rw [UpstreamTable.alarm, UpstreamTable.findOrFresh]
  simp only [checked, UpstreamTable.fire, ExtTreeMap.getElem?_map]
  cases t.records[i]? with
  | none => rfl
  | some u =>
    show Upstream.alarm (if u.alertReached then { u with alertFired := true } else u) = _
    split <;> rename_i h <;> simp [Upstream.alarm, h]

/-- There is something to tell where the alert is reached on an upstream that has a record, or where
nothing is known and the threshold is zero. -/
theorem tells_iff : tells t ↔
    (∃ (i : IfIndex) (u : Upstream), t.records[i]? = some u ∧ u.alertReached) ∨
      reachedWithoutUpstreams t := by
  have hmem : ∀ r, r ∈ t.reached ↔ ∃ (i : IfIndex) (u : Upstream),
      t.records[i]? = some u ∧ u.alertReached ∧ (i, u.lastRead.totalBytes) = r := by
    intro r
    simp only [UpstreamTable.reached, List.mem_filterMap, Prod.exists,
      ExtTreeMap.mem_toList_iff_getElem?_eq_some, Option.ite_none_right_eq_some,
      Option.some.injEq]
  have hreached : t.reached ≠ [] ↔
      ∃ (i : IfIndex) (u : Upstream), t.records[i]? = some u ∧ u.alertReached := by
    constructor
    · intro hne
      obtain ⟨r, hr⟩ := List.exists_mem_of_ne_nil _ hne
      obtain ⟨i, u, hu, h, -⟩ := (hmem r).mp hr
      exact ⟨i, u, hu, h⟩
    · rintro ⟨i, u, hu, h⟩
      exact List.ne_nil_of_mem ((hmem _).mpr ⟨i, u, hu, h, rfl⟩)
  rw [tells, Bool.or_eq_true, ← hreached, Bool.not_eq_true', List.isEmpty_eq_false_iff]

end

/-- How many times the alert was told. -/
def alerts (c : Controller) : Nat :=
  c.platform.past.countP Entry.tellsAlert

variable {b : Backend} {c c' : Controller}

/-- A check tells of the alert once, or not at all. -/
theorem alerts_checkAlert (c : Controller) :
    alerts c.checkAlert = alerts c + if tells c.upstreams then 1 else 0 := by
  have hentries : (alertEntries c.upstreams).countP Entry.tellsAlert =
      if tells c.upstreams then 1 else 0 := by
    have hnotes : (c.upstreams.reached.map fun r =>
        Entry.notice (.alertReached r.1 r.2)).reverse.countP Entry.tellsAlert = 0 := by
      rw [List.countP_eq_zero]
      intro e he
      obtain ⟨r, -, rfl⟩ := List.mem_map.mp (List.mem_reverse.mp he)
      nofun
    unfold alertEntries
    dsimp only
    split
    · rw [List.countP_cons, hnotes]
      rfl
    · exact hnotes
  rw [checkAlert_eq]
  show (alertEntries c.upstreams ++ c.platform.past).countP Entry.tellsAlert = _
  rw [List.countP_append, hentries, Nat.add_comm]
  rfl

/-- The alert is not told by entries that do not tell of it. -/
theorem alerts_eq_of_writes (h : c.platform.Writes (fun e => !e.tellsAlert) c'.platform) :
    alerts c' = alerts c := by
  obtain ⟨es, hes, hpast⟩ := h
  have hnone : es.countP Entry.tellsAlert = 0 :=
    List.countP_eq_zero.mpr fun e he => by simpa using hes e he
  rw [alerts, hpast, List.countP_append, hnone, Nat.zero_add]
  rfl

/-! ## The invariant -/

/-- The alert is armed with the threshold `q`, and it has fired for the upstreams in `R`. New ones
take over `fired`. -/
structure Watched (q : Quota) (fired : Bool) (R : IfIndex → Prop) (c : Controller) : Prop where
  newAlarm : c.upstreams.newAlarm = ⟨q, fired⟩
  threshold : ∀ i, (c.upstreams.alarm i).threshold = q
  fired : ∀ i, (c.upstreams.alarm i).fired ↔ R i

variable {q : Quota} {fired : Bool} {R : IfIndex → Prop}

/-- Without a check the alert stays armed, and no upstream is reported but where counters are
cleared. -/
theorem Watched.unchecked (h : Watched q fired R c) (hc : Unchecked b c c') :
    Watched q fired (fun i => R i ∧ ¬Folds b i c c') c' where
  newAlarm := hc.newAlarm.trans h.newAlarm
  threshold i := (hc.threshold i).trans (h.threshold i)
  fired i := by rw [hc.fired i, h.fired i]

/-- A record has the threshold, and says whether its upstream is in `R`. -/
theorem Watched.record (h : Watched q fired R c) {i : IfIndex} {u : Upstream}
    (hu : c.upstreams.records[i]? = some u) : u.alert = q ∧ (u.alertFired ↔ R i) := by
  have hfind : c.upstreams.findOrFresh i = u := by
    rw [UpstreamTable.findOrFresh, hu]
    rfl
  rw [← h.fired i, ← h.threshold i, UpstreamTable.alarm, hfind]
  exact ⟨rfl, .rfl⟩

/-- Without a record an upstream is in `R` if new ones take over that the alert has fired. -/
theorem Watched.noRecord (h : Watched q fired R c) {i : IfIndex}
    (hu : c.upstreams.records[i]? = none) : R i ↔ fired := by
  have halarm : c.upstreams.alarm i = c.upstreams.newAlarm := by
    rw [UpstreamTable.alarm, UpstreamTable.findOrFresh, hu]
    rfl
  rw [← h.fired i, halarm, h.newAlarm]

/-- Where there is a record, the alert is reached if the threshold is met and the upstream is not in
`R`. -/
theorem Watched.reached_iff (h : Watched q fired R c) (hq : 0 ≤ q) {i : IfIndex} {u : Upstream}
    (hu : c.upstreams.records[i]? = some u) :
    u.alertReached ↔ (c.upstreams.account i).lastRead.Meets q ∧ ¬R i := by
  obtain ⟨hthreshold, hfired⟩ := h.record hu
  rw [Upstream.alertReached_iff (by rwa [hthreshold]), hthreshold, hfired, UpstreamTable.account,
    UpstreamTable.findOrFresh, hu]
  rfl

/-- After a check those upstreams are reported that were before or that meet the threshold. Without
a record an upstream is as new ones are. -/
theorem Watched.check (h : Watched q fired R c) (hq : 0 ≤ q) (R' : IfIndex → Prop)
    (hsome : ∀ i u, c.upstreams.records[i]? = some u →
      (R' i ↔ R i ∨ (c.upstreams.account i).lastRead.Meets q))
    (hnone : ∀ i, c.upstreams.records[i]? = none →
      (R' i ↔ fired || (tells c.upstreams && q = 0))) :
    Watched q (fired || (tells c.upstreams && q = 0)) R' c.checkAlert := by
  have hdefault : c.upstreams.defaultAlert = q := congrArg Alarm.threshold h.newAlarm
  have hfired : c.upstreams.defaultAlertFired = fired := congrArg Alarm.fired h.newAlarm
  have hnew : (checked c.upstreams).newAlarm = ⟨q, fired || (tells c.upstreams && q = 0)⟩ := by
    simp only [UpstreamTable.newAlarm, checked, UpstreamTable.fire, hdefault, hfired]
  rw [checkAlert_eq]
  refine ⟨hnew, fun i => ?_, fun i => ?_⟩
  · show ((checked c.upstreams).alarm i).threshold = q
    rw [alarm_checked, hnew]
    cases hu : c.upstreams.records[i]? with
    | none => rfl
    | some u => exact (h.record hu).1
  · show ((checked c.upstreams).alarm i).fired ↔ R' i
    rw [alarm_checked, hnew]
    cases hu : c.upstreams.records[i]? with
    | none => exact (hnone i hu).symm
    | some u =>
      show (u.alertFired || u.alertReached) ↔ R' i
      rw [hsome i u hu, Bool.or_eq_true, (h.record hu).2, h.reached_iff hq hu, or_and_left,
        and_iff_left (Classical.em (R i))]

/-- Nothing was read of an upstream without a record, which is below a positive threshold. -/
theorem not_meets_of_none (hq : 0 < q) {i : IfIndex} (h : c.upstreams.records[i]? = none) :
    ¬(c.upstreams.account i).lastRead.Meets q := by
  rw [UpstreamTable.account, UpstreamTable.findOrFresh, h]
  exact Int.not_le.mpr (Int64.lt_iff_toInt_lt.mp hq)

/-- A check of a positive threshold has something to tell if an upstream meets it that is not in
`R`. -/
theorem Watched.tells_iff (h : Watched q fired R c) (hq : 0 < q) :
    tells c.upstreams ↔ ∃ i, (c.upstreams.account i).lastRead.Meets q ∧ ¬R i := by
  have hzero : reachedWithoutUpstreams c.upstreams = false := by
    have hdefault : c.upstreams.defaultAlert = q := congrArg Alarm.threshold h.newAlarm
    have hne : q ≠ 0 := (Int64.ne_of_lt hq).symm
    simp [reachedWithoutUpstreams, hdefault, hne]
  rw [Controller.tells_iff, hzero, or_iff_left (by simp)]
  constructor
  · rintro ⟨i, u, hu, hreached⟩
    exact ⟨i, (h.reached_iff (Int64.le_of_lt hq) hu).mp hreached⟩
  · rintro ⟨i, hmeets, hi⟩
    cases hu : c.upstreams.records[i]? with
    | none => exact absurd hmeets (not_meets_of_none hq hu)
    | some u => exact ⟨i, u, hu, (h.reached_iff (Int64.le_of_lt hq) hu).mpr ⟨hmeets, hi⟩⟩

/-- A check reports the upstreams that meet a positive threshold. -/
theorem Watched.checkPositive (h : Watched q false R c) (hq : 0 < q) :
    Watched q false (fun i => R i ∨ (c.upstreams.account i).lastRead.Meets q) c.checkAlert := by
  have hne : q ≠ 0 := (Int64.ne_of_lt hq).symm
  have hfired : (false || (tells c.upstreams && q = 0)) = false := by simp [hne]
  have hchecked := h.check (Int64.le_of_lt hq) _ (fun _ _ _ => .rfl) fun i hi => by
    rw [hfired, h.noRecord hi, or_iff_left (not_meets_of_none hq hi)]
  rwa [hfired] at hchecked

/-- A threshold of zero is met by every upstream, and also when none is known. -/
theorem Watched.tells_zero (h : Watched 0 false (fun _ => False) c) : tells c.upstreams := by
  rw [Controller.tells_iff]
  by_cases hany : ∃ (i : IfIndex) (u : Upstream), c.upstreams.records[i]? = some u
  · obtain ⟨i, u, hu⟩ := hany
    exact .inl ⟨i, u, hu, (h.reached_iff (by decide) hu).mpr ⟨Int.natCast_nonneg _, nofun⟩⟩
  · have hempty : c.upstreams.records.isEmpty := by
      rw [ExtTreeMap.isEmpty_iff, ExtTreeMap.eq_empty_iff_forall_not_mem]
      intro i hi
      exact hany ⟨i, Option.isSome_iff_exists.mp (ExtTreeMap.mem_iff_isSome_getElem?.mp hi)⟩
    have hdefault : c.upstreams.newAlarm = ⟨0, false⟩ := h.newAlarm
    rw [UpstreamTable.newAlarm, Alarm.mk.injEq] at hdefault
    exact .inr (by simp [reachedWithoutUpstreams, hdefault, hempty])

/-- After a check of a threshold of zero all upstreams are reported, those to come included. -/
theorem Watched.checkZero (h : Watched 0 fired R c) (hfired : fired || tells c.upstreams) :
    Watched 0 true (fun _ => True) c.checkAlert := by
  have hall : (fired || (tells c.upstreams && (0 : Quota) = 0)) = true := by simpa using hfired
  have hchecked := h.check (by decide) (fun _ => True)
    (fun i _ _ => ⟨fun _ => .inr (Int.natCast_nonneg _), fun _ => trivial⟩) fun i _ => by
      rw [hall]
      exact ⟨fun _ => rfl, fun _ => trivial⟩
  rwa [hall] at hchecked

/-- Once all upstreams are reported, a check of a threshold of zero has nothing to tell. -/
theorem Watched.not_tells_zero (h : Watched 0 true (fun _ => True) c) : ¬tells c.upstreams := by
  have hfired : c.upstreams.defaultAlertFired = true := congrArg Alarm.fired h.newAlarm
  rw [Controller.tells_iff]
  rintro (⟨i, u, hu, hreached⟩ | hwithout)
  · exact ((h.reached_iff (by decide) hu).mp hreached).2 trivial
  · simp [reachedWithoutUpstreams, hfired] at hwithout

end Controller

/-! ## Histories -/

/-- Something that happens to a controller. Between operations the kernel and the daemon may come to
keep anything. -/
inductive Occurrence
  | operation (op : Operation)
  | outside (x : Stores)

namespace Occurrence

/-- A threshold is set and accepted. -/
def arms : Occurrence → Prop
  | .operation op => op.arms
  | .outside _ => False

/-- The alert is checked. -/
def checks : Occurrence → Prop
  | .operation op => op.checks
  | .outside _ => False

/-- The alert is armed with the threshold `q`. -/
def arm (q : Quota) : Occurrence := .operation (.event (.setAlert q))

end Occurrence

namespace Controller

open Platform

/-- The controller after something happened. -/
def encounter (c : Controller) : Occurrence → Controller
  | .operation op => (c.run op).2
  | .outside x => { c with platform := { c.platform with kernel := x.kernel, daemon := x.daemon } }

/-- The controller after several things happened. -/
def encounterAll (c : Controller) (es : List Occurrence) : Controller :=
  es.foldl encounter c

/-- The counters whose final reading is reported under `i` are cleared in the course of a
history. -/
def Folded (b : Backend) (i : IfIndex) : Controller → List Occurrence → Prop
  | _, [] => False
  | c, e :: es => Folds b i c (c.encounter e) ∨ Folded b i (c.encounter e) es

/-- The traffic read last of an upstream is at the threshold or beyond. -/
def Meets (q : Quota) (c : Controller) (i : IfIndex) : Prop :=
  (c.upstreams.account i).lastRead.Meets q

/-- In the course of a history a check saw that the upstream meets the threshold, and its counters
have not been cleared since. -/
def Reported (b : Backend) (q : Quota) (c : Controller) (es : List Occurrence) (i : IfIndex) :
    Prop :=
  ∃ before e after, es = before ++ e :: after ∧ e.checks ∧
    (c.encounterAll (before ++ [e])).Meets q i ∧ ¬Folded b i (c.encounterAll (before ++ [e])) after

/-- After a history comes a check, which sees an upstream that meets the threshold and has not been
reported. -/
def Newly (b : Backend) (q : Quota) (c : Controller) (es : List Occurrence) (e : Occurrence) :
    Prop :=
  e.checks ∧ ∃ i, (c.encounterAll (es ++ [e])).Meets q i ∧ ¬Reported b q c es i

variable {b : Backend} {c c' : Controller} {q : Quota} {R : IfIndex → Prop} {i : IfIndex}
  {es : List Occurrence} {e : Occurrence}

/-- One history may follow another. -/
theorem encounterAll_append (c : Controller) (es es' : List Occurrence) :
    c.encounterAll (es ++ es') = (c.encounterAll es).encounterAll es' :=
  List.foldl_append

/-- Nothing that happens changes the backend. -/
theorem backend_encounter (e : Occurrence) (hb : c.backend = some b) :
    (c.encounter e).backend = some b := by
  cases e with
  | operation op => exact backend_run c op hb
  | outside x => exact hb

/-- Nor does a history. -/
theorem backend_encounterAll (es : List Occurrence) (hb : c.backend = some b) :
    (c.encounterAll es).backend = some b := by
  induction es generalizing c with
  | nil => exact hb
  | cons e es ih => exact ih (backend_encounter e hb)

/-- Counters are cleared in the course of a history or by what happens last. -/
theorem folded_concat :
    Folded b i c (es ++ [e]) ↔
      Folded b i c es ∨ Folds b i (c.encounterAll es) (c.encounterAll (es ++ [e])) := by
  induction es generalizing c with
  | nil => simp [Folded, encounterAll]
  | cons x es ih =>
    rw [List.cons_append, Folded, ih, Folded, or_assoc]
    rfl

/-- An upstream is reported by what happens last, or it was before and its counters are not
cleared by what happens last. -/
theorem reported_concat :
    Reported b q c (es ++ [e]) i ↔
      e.checks ∧ (c.encounterAll (es ++ [e])).Meets q i ∨
        Reported b q c es i ∧ ¬Folds b i (c.encounterAll es) (c.encounterAll (es ++ [e])) := by
  have hsplit : ∀ before x after, c.encounterAll (before ++ x :: after) =
      (c.encounterAll (before ++ [x])).encounterAll after := by
    intro before x after
    rw [List.append_cons, encounterAll_append]
  constructor
  · rintro ⟨before, x, after, heq, hx, hmeets, hfolded⟩
    rcases List.eq_nil_or_concat after with rfl | ⟨after, y, rfl⟩
    · obtain ⟨rfl, hlast⟩ := List.append_inj' heq rfl
      obtain rfl := List.singleton_inj.mp hlast
      exact .inl ⟨hx, hmeets⟩
    · rw [List.concat_eq_append, ← List.cons_append, ← List.append_assoc] at heq
      obtain ⟨rfl, hlast⟩ := List.append_inj' heq rfl
      obtain rfl := List.singleton_inj.mp hlast
      rw [List.concat_eq_append, folded_concat, not_or, ← hsplit, ← hsplit] at hfolded
      rw [List.append_assoc, List.cons_append]
      exact .inr ⟨⟨before, x, after, rfl, hx, hmeets, hfolded.1⟩, hfolded.2⟩
  · rintro (⟨hx, hmeets⟩ | ⟨⟨before, x, after, rfl, hx, hmeets, hfolded⟩, hlast⟩)
    · exact ⟨es, e, [], rfl, hx, hmeets, id⟩
    · refine ⟨before, x, after ++ [e], by simp, hx, hmeets, ?_⟩
      rw [List.append_assoc, List.cons_append] at hlast
      rw [folded_concat, not_or, ← hsplit, ← hsplit]
      exact ⟨hfolded, hlast⟩

/-- Nothing is reported before anything has happened. -/
theorem not_reported_nil : ¬Reported b q c [] i := by
  rintro ⟨before, x, after, heq, -⟩
  exact List.append_ne_nil_of_right_ne_nil before (List.cons_ne_nil x after) heq.symm

/-! ## What happens to the alert -/

/-- A check clears no counters. -/
theorem not_folds_checkAlert (h : c.platform.Uneventful b c'.platform) :
    ¬Folds b i c c'.checkAlert := by
  have hcheck : c'.checkAlert.platform = c'.platform.write (alertEntries c'.upstreams) := by
    rw [checkAlert_eq]
  rw [folds_trans_iff h.writes ⟨_, fun _ he => isAlert_of_mem_alertEntries he, by rw [hcheck]; rfl⟩
    h.reportedAs, not_or]
  refine ⟨not_folds_of_uneventful h, ?_⟩
  rintro ⟨es, u, hpast, hu, -⟩
  rw [hcheck] at hpast
  obtain rfl := List.append_cancel_right hpast.symm
  have halert := isAlert_of_mem_alertEntries hu
  cases b <;> cases halert

/-- What checks the alert has it checked at its end, with the alert armed with `q` and fired for the
upstreams in `R`. Before that there is no event. -/
structure Due (b : Backend) (q : Quota) (fired : Bool) (R : IfIndex → Prop) (c : Controller)
    (e : Occurrence) (c' : Controller) : Prop where
  watched : Watched q fired R c'
  uneventful : c.platform.Uneventful b c'.platform
  eq : c.encounter e = c'.checkAlert

variable {fired : Bool}

/-- The alert is told by a check or not at all. -/
theorem Due.alerts (h : Due b q fired R c e c') :
    alerts (c.encounter e) = alerts c + if tells c'.upstreams then 1 else 0 := by
  rw [h.eq, alerts_checkAlert,
    alerts_eq_of_writes (h.uneventful.writes.mono Entry.not_tellsAlert_of_isUneventful)]

/-- A tick is a poll. -/
theorem encounter_tick (hb : c.backend = some b) : c.encounter (.operation .tick) = c.poll b := by
  show c.withBackend poll = c.poll b
  rw [withBackend, hb]

/-- A tick checks the alert as it is armed. -/
theorem Watched.due_tick (h : Watched q fired R c) (hb : c.backend = some b) :
    ∃ c', Due b q fired R c (.operation .tick) c' := by
  obtain ⟨c', hunchecked, huneventful, hpoll⟩ := exists_poll_eq b c
  have hwatched := h.unchecked hunchecked
  simp only [not_folds_of_uneventful huneventful, not_false_eq_true, and_true] at hwatched
  exact ⟨c', hwatched, huneventful, (encounter_tick hb).trans hpoll⟩

/-- A threshold that is accepted is checked when it has fired for no upstream. -/
theorem exists_due_arm (hq : q.Acceptable) (hb : c.backend = some b) :
    ∃ c', Due b q false (fun _ => False) c (.arm q) c' := by
  refine ⟨{ c with upstreams := c.upstreams.setAlert q }.note
    (if q = Quota.unlimited then .alertDisarmed else .alertArmed q), ?_, ?_, ?_⟩
  · refine ⟨rfl, fun i => ?_, fun i => ?_⟩
    · exact congrArg Alarm.threshold (c.upstreams.alarm_setAlert i q)
    · have hfired := congrArg Alarm.fired (c.upstreams.alarm_setAlert i q)
      exact ⟨fun h => Bool.false_ne_true (hfired.symm.trans h), False.elim⟩
  · exact uneventful_note b _ _
  · show (c.setAlert q).2 = _
    have henabled : c.enabled := by rw [enabled, hb]; rfl
    rw [setAlert, if_pos henabled, armAlert, Quota.check, if_pos hq]

/-- What does not check the alert leaves it armed, and reports no upstream. -/
theorem Watched.stay (h : Watched q fired R c) (hb : c.backend = some b) (he : ¬e.checks) :
    Watched q fired (fun i => R i ∧ ¬Folds b i c (c.encounter e)) (c.encounter e) := by
  cases e with
  | operation op => exact h.unchecked (unchecked_run he hb)
  | outside x =>
    have hnone : ∀ i, ¬Folds b i c (c.encounter (.outside x)) := by
      rintro i ⟨es, u, hpast, hu, -⟩
      rw [List.append_cancel_right (hpast.symm.trans (List.nil_append _).symm)] at hu
      cases hu
    simp only [hnone, not_false_eq_true, and_true]
    exact ⟨h.newAlarm, h.threshold, h.fired⟩

/-- Nor does it tell of the alert. -/
theorem alerts_stay (hb : c.backend = some b) (he : ¬e.checks) :
    alerts (c.encounter e) = alerts c := by
  cases e with
  | operation op => exact alerts_eq_of_writes (unchecked_run he hb).writes
  | outside x => rfl

/-- What checks the alert and does not set it is a tick. -/
theorem Watched.exists_due (h : Watched q fired R c) (hb : c.backend = some b) (he : e.checks)
    (harms : ¬e.arms) : ∃ c', Due b q fired R c e c' := by
  cases e with
  | operation op =>
    obtain rfl := he.resolve_right harms
    exact h.due_tick hb
  | outside x => exact he.elim

/-- What checks the alert does it last, and before that there is no event. -/
theorem exists_check (hb : c.backend = some b) (he : e.checks) :
    ∃ c' : Controller, c.platform.Uneventful b c'.platform ∧ c.encounter e = c'.checkAlert := by
  cases e with
  | operation op =>
    rcases he with rfl | harms
    · obtain ⟨c', -, huneventful, hpoll⟩ := exists_poll_eq b c
      exact ⟨c', huneventful, (encounter_tick hb).trans hpoll⟩
    · obtain ⟨q, hq, rfl⟩ := Operation.exists_of_arms harms
      obtain ⟨c', hdue⟩ := exists_due_arm hq hb
      exact ⟨c', hdue.uneventful, hdue.eq⟩
  | outside x => exact he.elim

/-- The journal only grows. -/
theorem past_encounter (e : Occurrence) (hb : c.backend = some b) :
    c.platform.past <:+ (c.encounter e).platform.past := by
  by_cases he : e.checks
  · obtain ⟨c', huneventful, heq⟩ := exists_check hb he
    rw [heq, checkAlert_eq]
    exact huneventful.writes.past_suffix.trans (List.suffix_append _ _)
  · cases e with
    | operation op => exact (unchecked_run he hb).writes.past_suffix
    | outside x => exact List.suffix_refl _

/-- Where counters are cleared in the course of a history, the journal says so after it. -/
theorem exists_mem_of_folded (hb : c.backend = some b) (h : Folded b i c es) :
    ∃ e ∈ (c.encounterAll es).platform.past, e.tellsClearing b := by
  have hgrows : ∀ {c : Controller} (es : List Occurrence), c.backend = some b →
      c.platform.past <:+ (c.encounterAll es).platform.past := by
    intro c es
    induction es generalizing c with
    | nil => exact fun _ => List.suffix_refl _
    | cons e es ih => exact fun hb => (past_encounter e hb).trans (ih (backend_encounter e hb))
  induction es generalizing c with
  | nil => exact h.elim
  | cons e es ih =>
    have hb' := backend_encounter e hb
    rcases h with ⟨written, u, hpast, hu, -⟩ | h
    · refine ⟨b.clearing u, (hgrows es hb').subset ?_, b.tellsClearing_clearing u⟩
      rw [hpast]
      exact List.mem_append_left _ hu
    · exact ih hb' h

/-! ## Positive thresholds -/

/-- What is read before a check is what is read after it. -/
theorem Due.meets_iff (h : Due b q fired R c e c') :
    (c.encounter e).Meets q i ↔ c'.Meets q i := by
  rw [h.eq, checkAlert_eq, Meets, account_checked]
  rfl

/-- What checks a positive threshold tells of it if an upstream meets it that is not in `R`. -/
theorem Due.tells_iff (h : Due b q false R c e c') (hq : 0 < q) :
    tells c'.upstreams ↔ ∃ i, (c.encounter e).Meets q i ∧ ¬R i := by
  simp only [h.meets_iff]
  exact h.watched.tells_iff hq

/-- What checks a positive threshold reports the upstreams that meet it. -/
theorem Due.reported (h : Due b q false (Reported b q c es) (c.encounterAll es) e c')
    (he : e.checks) (hq : 0 < q) :
    Watched q false (Reported b q c (es ++ [e])) (c.encounterAll (es ++ [e])) := by
  have hmore : ∀ i, Reported b q c (es ++ [e]) i ↔ Reported b q c es i ∨ c'.Meets q i := by
    intro i
    rw [reported_concat, encounterAll_append, and_iff_right he, or_comm]
    show _ ∧ ¬Folds b i _ ((c.encounterAll es).encounter e) ∨
      ((c.encounterAll es).encounter e).Meets q i ↔ _
    rw [h.meets_iff, h.eq, and_iff_left (not_folds_checkAlert h.uneventful)]
  rw [funext fun i => propext (hmore i), encounterAll_append]
  show Watched q false _ ((c.encounterAll es).encounter e)
  rw [h.eq]
  exact h.watched.checkPositive hq

/-- Once the alarms say which upstreams have been reported, they say so until a threshold is set. -/
theorem Watched.reported_append (h : Watched q false (Reported b q c es) (c.encounterAll es))
    (hq : 0 < q) (hb : c.backend = some b) {later : List Occurrence}
    (hlater : ∀ e ∈ later, ¬e.arms) :
    Watched q false (Reported b q c (es ++ later)) (c.encounterAll (es ++ later)) := by
  -- The history grows at its end, where `reported_concat` says what comes to be reported.
  induction later generalizing es with
  | nil => rwa [List.append_nil]
  | cons e later ih =>
    rw [List.forall_mem_cons] at hlater
    rw [List.append_cons]
    refine ih ?_ hlater.2
    have hb' := backend_encounterAll es hb
    by_cases he : e.checks
    · obtain ⟨c', hdue⟩ := h.exists_due hb' he hlater.1
      exact hdue.reported he hq
    · have hmore : ∀ i, Reported b q c (es ++ [e]) i ↔ Reported b q c es i ∧
          ¬Folds b i (c.encounterAll es) ((c.encounterAll es).encounter e) := by
        intro i
        rw [reported_concat, encounterAll_append, or_iff_right fun h => he h.1]
        rfl
      rw [funext fun i => propext (hmore i), encounterAll_append]
      exact h.stay hb' he

/-- A positive threshold that is accepted is checked when no upstream has been reported. -/
theorem exists_due_positive (hq : 0 < q) (hb : c.backend = some b) :
    ∃ c', Due b q false (Reported b q c []) (c.encounterAll []) (.arm q) c' := by
  have hnone : Reported b q c [] = fun _ => False := funext fun _ => eq_false not_reported_nil
  rw [hnone]
  exact exists_due_arm (.inl (Int64.le_of_lt hq)) hb

/-- Once a positive threshold is armed, the alarms say at any time which upstreams have been
reported. -/
theorem watched_reported (hq : 0 < q) (hb : c.backend = some b) {later : List Occurrence}
    (hlater : ∀ e ∈ later, ¬e.arms) :
    Watched q false (Reported b q c (.arm q :: later)) (c.encounterAll (.arm q :: later)) := by
  obtain ⟨c', hdue⟩ := exists_due_positive hq hb
  have harms : (Occurrence.arm q).checks := .inr (.inl (Int64.le_of_lt hq))
  exact (hdue.reported harms hq).reported_append hq hb hlater

/-- Since a positive threshold `q` was last accepted, whatever is asked, whatever fails and whatever
is counted in between, the alert is told by what happens last exactly once if that checks it and an
upstream meets the threshold that has not been reported, and else it is not told. -/
theorem alerts_concat {later : List Occurrence} (hb : c.backend = some b) (hq : 0 < q)
    (hes : es ++ [e] = .arm q :: later) (hlater : ∀ e ∈ later, ¬e.arms) :
    (Newly b q c es e → alerts (c.encounterAll (es ++ [e])) = alerts (c.encounterAll es) + 1) ∧
      (¬Newly b q c es e → alerts (c.encounterAll (es ++ [e])) = alerts (c.encounterAll es)) := by
  have hb' := backend_encounterAll es hb
  have hlast : c.encounterAll (es ++ [e]) = (c.encounterAll es).encounter e :=
    encounterAll_append c es [e]
  by_cases he : e.checks
  · have hdue : ∃ c', Due b q false (Reported b q c es) (c.encounterAll es) e c' := by
      cases es with
      | nil =>
        obtain ⟨rfl, -⟩ := List.cons.inj hes
        exact exists_due_positive hq hb
      | cons x es =>
        rw [List.cons_append] at hes
        obtain ⟨rfl, rfl⟩ := List.cons.inj hes
        rw [List.forall_mem_append, List.forall_mem_singleton] at hlater
        exact (watched_reported hq hb hlater.1).exists_due hb' he hlater.2
    obtain ⟨c', hdue⟩ := hdue
    have htells : tells c'.upstreams ↔ Newly b q c es e := by
      rw [hdue.tells_iff hq, Newly, and_iff_right he, hlast]
    rw [hlast, hdue.alerts]
    exact ⟨fun h => by rw [if_pos (htells.mpr h)],
      fun h => by rw [if_neg (fun ht => h (htells.mp ht)), Nat.add_zero]⟩
  · rw [hlast, alerts_stay hb' he]
    exact ⟨fun h => absurd h.1 he, fun _ => rfl⟩

/-- Stores in which traffic of the upstream 100 is counted. -/
def storesCounting (rxBytes txBytes : UInt64) : Stores :=
  ⟨⟨∅, ∅, ∅, ∅, ExtTreeMap.insert ∅ 100 ⟨1, rxBytes, 0, 1, txBytes, 0⟩, ∅⟩, .empty⟩

/-- An upstream meets a threshold of 100 and is polled twice. Then its counters are cleared, and it
meets the threshold again. -/
def metTwice : List Occurrence := [
  .operation (.event (.addRule "wlan0" (sharedRule 10))), .outside (storesCounting 70 40),
  .operation .tick, .operation .tick, .operation (.event (.removeRule "wlan0" (sharedRule 10))),
  .operation (.event (.addRule "wlan0" (sharedRule 10))), .outside (storesCounting 0 100)]

/-- The alert is told by the first poll and not by the second. After its counters are cleared, the
upstream is reported anew. -/
theorem alerts_metTwice :
    let c := start .default (.tables fun _ => true) true .empty
    alerts (c.encounterAll (.arm 100 :: metTwice)) = 1 ∧
      Newly .tables 100 c (.arm 100 :: metTwice) (.operation .tick) ∧
      alerts (c.encounterAll (.arm 100 :: metTwice ++ [.operation .tick])) = 2 := by
  intro c
  have hone : alerts (c.encounterAll (.arm 100 :: metTwice)) = 1 := by decide +kernel
  have htwo : alerts (c.encounterAll (.arm 100 :: metTwice ++ [.operation .tick])) = 2 := by
    decide +kernel
  have hb : c.backend = some .tables := rfl
  have hes : (.arm 100 :: metTwice) ++ [.operation .tick] =
      .arm 100 :: (metTwice ++ [.operation .tick]) := rfl
  have hlater : ∀ e ∈ metTwice ++ [.operation .tick], ¬e.arms := by
    simp [metTwice, Occurrence.arms, Operation.arms]
  have halerts := alerts_concat hb (by decide) hes hlater
  refine ⟨hone, Classical.byContradiction fun hnot => ?_, htwo⟩
  have hsame := halerts.2 hnot
  rw [hone, htwo] at hsame
  cases hsame

/-! ## A threshold of zero -/

/-- A threshold of zero is told once while it is armed, and never again by anything that neither
sets a threshold nor clears counters, whatever fails and whatever is counted in between. -/
theorem alerts_zero (hb : c.backend = some b) (harms : ∀ e ∈ es, ¬e.arms)
    (hfolded : ∀ i, ¬Folded b i (c.encounter (.arm 0)) es) :
    alerts (c.encounter (.arm 0)) = alerts c + 1 ∧
      alerts ((c.encounter (.arm 0)).encounterAll es) = alerts (c.encounter (.arm 0)) := by
  obtain ⟨c', hdue⟩ := exists_due_arm (c := c) (q := 0) (.inl (by decide)) hb
  have htells := hdue.watched.tells_zero
  refine ⟨by rw [hdue.alerts, if_pos htells], ?_⟩
  have hwatched : Watched 0 true (fun _ => True) (c.encounter (.arm 0)) := by
    rw [hdue.eq]
    exact hdue.watched.checkZero (by simpa using htells)
  have hb' := backend_encounter (.arm 0) hb
  -- From here on only the invariant is used, which holds after every occurrence.
  clear htells hdue
  generalize c.encounter (.arm 0) = c at hfolded hwatched hb' ⊢
  induction es generalizing c with
  | nil => rfl
  | cons e es ih =>
    rw [List.forall_mem_cons] at harms
    have hstep : Watched 0 true (fun _ => True) (c.encounter e) ∧
        alerts (c.encounter e) = alerts c := by
      by_cases he : e.checks
      · obtain ⟨c', hdue⟩ := hwatched.exists_due hb' he harms.1
        rw [hdue.alerts, if_neg hdue.watched.not_tells_zero, Nat.add_zero, hdue.eq]
        exact ⟨hdue.watched.checkZero rfl, rfl⟩
      · have hnone : ∀ i, ¬Folds b i c (c.encounter e) := fun i h => hfolded i (.inl h)
        have hstay := hwatched.stay hb' he
        simp only [hnone, not_false_eq_true, and_true] at hstay
        exact ⟨hstay, alerts_stay hb' he⟩
    exact (ih harms.2 _ (fun i h => hfolded i (.inr h)) hstep.1
      (backend_encounter e hb')).trans hstep.2

/-- A threshold of zero is told before anything is known, and not again when an upstream is named,
counted and polled. -/
theorem alerts_zero_named :
    let c := start .default (.tables fun _ => true) true .empty
    let es := [.outside (storesCounting 70 40), .operation .tick,
      .operation (.event (.upstreamName 7 "rmnet0")), .operation .tick]
    alerts (c.encounter (.arm 0)) = 1 ∧ alerts ((c.encounter (.arm 0)).encounterAll es) = 1 := by
  intro c es
  have hfolded : ∀ i, ¬Folded .tables i (c.encounter (.arm 0)) es := by
    intro i h
    obtain ⟨e, he, hclearing⟩ := exists_mem_of_folded (c := c.encounter (.arm 0)) rfl h
    have hnone : ((c.encounter (.arm 0)).encounterAll es).platform.past.all
        fun e => !e.tellsClearing .tables := by decide +kernel
    simpa [hclearing] using List.all_eq_true.mp hnone e he
  have hb : c.backend = some .tables := rfl
  have harms : ∀ e ∈ es, ¬e.arms := by simp [es, Occurrence.arms, Operation.arms]
  have halerts := alerts_zero hb harms hfolded
  have hnone : alerts c = 0 := by decide +kernel
  rw [halerts.2, halerts.1, hnone]
  exact ⟨rfl, rfl⟩

end Controller

end FastPath
