import FastPath.Controller.Requests
import FastPath.Proofs.Forwarding
import FastPath.Proofs.Upstream

/-!
# What limits, readings and alerts come to

A controller `Rests` while its rules, the accounts of its upstreams and all that its platform spares
stay the same. It is `Idle` while limits and stores stay the same as well. Alerts, polling, programs
and the monitor leave it idle, and a limit lets it rest. A name, a poll and a publication change
accounts first and let it rest from there.
-/

namespace FastPath

namespace Controller

open Platform

/-- Nothing becomes of the rules and of the accounts from `c` to `c'`, and the platform spares what
belongs to either. -/
structure Rests (b : Backend) (c c' : Controller) : Prop where
  backend : c'.backend = c.backend
  registry : c'.registry = c.registry
  account : ∀ i, c'.upstreams.account i = c.upstreams.account i
  platform : c.platform.Spares b c'.platform

/-- Nothing becomes of rules, accounts, limits and stores from `c` to `c'`. -/
structure Idle (c c' : Controller) : Prop where
  backend : c'.backend = c.backend
  registry : c'.registry = c.registry
  pendingLimits : c'.pendingLimits = c.pendingLimits
  account : ∀ i, c'.upstreams.account i = c.upstreams.account i
  quota : ∀ i, c'.upstreams.quota i = c.upstreams.quota i
  platform : c.platform.Keeps c'.platform

variable {b : Backend} {c c' c'' : Controller}

theorem Rests.refl (b : Backend) (c : Controller) : Rests b c c :=
  ⟨rfl, rfl, fun _ => rfl, .refl b _⟩

theorem Rests.trans (h : Rests b c c') (h' : Rests b c' c'') : Rests b c c'' where
  backend := h'.backend.trans h.backend
  registry := h'.registry.trans h.registry
  account i := (h'.account i).trans (h.account i)
  platform := h.platform.trans h'.platform

theorem Idle.refl (c : Controller) : Idle c c :=
  ⟨rfl, rfl, rfl, fun _ => rfl, fun _ => rfl, .refl _⟩

theorem Idle.trans (h : Idle c c') (h' : Idle c' c'') : Idle c c'' where
  backend := h'.backend.trans h.backend
  registry := h'.registry.trans h.registry
  pendingLimits := h'.pendingLimits.trans h.pendingLimits
  account i := (h'.account i).trans (h.account i)
  quota i := (h'.quota i).trans (h.quota i)
  platform := h.platform.trans h'.platform

/-- An idle controller rests. -/
theorem Idle.rests (h : Idle c c') (b : Backend) : Rests b c c' :=
  ⟨h.backend, h.registry, h.account, h.platform.spares b⟩

/-- A minor notice leaves a controller idle. -/
theorem idle_note (c : Controller) {n : Notice} (hn : n.isMinor) : Idle c (c.note n) :=
  ⟨rfl, rfl, rfl, fun _ => rfl, fun _ => rfl, keeps_note _ hn⟩

/-! ## Limits -/

/-- A limit that is applied is remembered. Without rules a notice says so, and with rules the
backend is asked to set it. What either brings about, and a failure does not undo, holds of the
platform. -/
theorem exists_applyLimit {R : Platform → Prop} (b : Backend) (i : IfIndex) (q : Quota)
    (c : Controller)
    (hunused : c.upstreams.ruleCount i = 0 → R (c.platform.note (.limitStored i q)))
    (hused : c.upstreams.ruleCount i ≠ 0 →
      ∀ {res p}, c.platform.perform (b.setQuota i q false) = (res, p) → R p)
    (hfailed : ∀ {p} f, R p → R (p.note (.limitNotSet i f))) :
    ∃ p, c.applyLimit b i q = { c with
      upstreams := c.upstreams.modify i fun u => { u with quota := q }
      platform := p } ∧ R p := by
  let limited := { c with upstreams := c.upstreams.modify i fun u => { u with quota := q } }
  have hcount : limited.upstreams.ruleCount i = c.upstreams.ruleCount i :=
    c.upstreams.ruleCount_modify_quota i i q
  show ∃ p, (if limited.upstreams.ruleCount i = 0 then limited.note (.limitStored i q)
    else limited.attempt (b.setQuota i q false) (.limitNotSet i)) = { limited with platform := p } ∧
      R p
  rw [hcount]
  split
  · rename_i hzero
    exact ⟨_, rfl, hunused hzero⟩
  · rename_i hrules
    exact exists_attempt limited _ _ (hused hrules) hfailed

/-- A limit that is applied lets a controller rest. -/
theorem rests_applyLimit (i : IfIndex) (q : Quota) (c : Controller) :
    Rests b c (c.applyLimit b i q) := by
  obtain ⟨p, happly, hp⟩ := exists_applyLimit b i q c (fun _ => spares_push b _ rfl)
    (fun _ => Backend.spares_setQuota) fun _ h => h.trans (spares_push b _ rfl)
  rw [happly]
  exact ⟨rfl, rfl, fun j => c.upstreams.account_modify_quota i j q, hp⟩

/-- A limit lets a controller rest, whether it is accepted, waits or is refused. -/
theorem rests_limit (iface : String) (q : Quota) (c : Controller) :
    Rests b c (c.limit b iface q).2 := by
  unfold limit
  split
  · exact .refl b c
  · split
    · exact rests_applyLimit ..
    · exact ⟨rfl, rfl, fun _ => rfl, spares_push b _ rfl⟩

/-- A limit that waited lets a controller rest. -/
theorem rests_resolveLimit (i : IfIndex) (name : String) (c : Controller) :
    Rests b c (c.resolveLimit b i name) := by
  unfold resolveLimit
  split
  · refine .trans ?_ (rests_applyLimit i _ _)
    exact ⟨rfl, rfl, fun _ => rfl, spares_push b _ rfl⟩
  · exact .refl b c

/-- A name is new to its upstream, or nothing is done. -/
theorem rename_cases (i : IfIndex) (name : String) (c : Controller) :
    (c.rename i name = (false, c) ∧ c.upstreams.nameOf i = some name) ∨
      ∃ c', c.rename i name = (true, c') ∧
        Idle { c with upstreams := c.upstreams.setName i name } c' := by
  unfold rename
  split
  · rename_i old hold
    split
    · rename_i heq
      exact .inl ⟨rfl, by rw [hold, heq]⟩
    · exact .inr ⟨_, rfl, idle_note _ rfl⟩
  · exact .inr ⟨_, rfl, .refl _⟩

/-- A name is given to one upstream, unless it is none or there is no such upstream. -/
theorem nameUpstream_cases (b : Backend) (i : IfIndex) (name : String) (c : Controller) :
    Rests b c (c.nameUpstream b i name) ∨
      (i ≠ 0 ∧ !name.isEmpty ∧ Rests b { c with upstreams := c.upstreams.setName i name }
        (c.nameUpstream b i name)) := by
  unfold nameUpstream
  split
  · exact .inl ((idle_note c rfl).rests b)
  · rename_i hname
    rw [not_or] at hname
    rcases rename_cases i name c with ⟨hrename, -⟩ | ⟨c', hrename, hc'⟩ <;> rw [hrename]
    · exact .inl (.refl b c)
    · refine .inr ⟨hname.1, by simpa using hname.2, ?_⟩
      have hnamed : Idle c' (c'.note (.upstreamNamed i name)) := idle_note c' rfl
      exact ((hc'.trans hnamed).rests b).trans (rests_resolveLimit i name _)

/-! ## Alerts and polls -/

/-- Notices given one after the other are written into the journal. -/
theorem foldl_note (notice : α → Notice) (l : List α) (c : Controller) :
    l.foldl (fun c a => c.note (notice a)) c = { c with
      platform := c.platform.write (l.map fun a => Entry.notice (notice a)).reverse } := by
  induction l generalizing c with
  | nil => rfl
  | cons a l ih =>
    rw [List.foldl_cons, ih]
    simp [note, Platform.note, Platform.push, Platform.write]

/-- A check of the alert has something to tell. -/
def tells (t : UpstreamTable) : Bool :=
  !t.reached.isEmpty || reachedWithoutUpstreams t

/-- What a check of the alert writes, the latest entry first: a notice for each upstream that is
reached, and then one call. -/
def alertEntries (t : UpstreamTable) : List Entry :=
  let notes := (t.reached.map fun r => Entry.notice (.alertReached r.1 r.2)).reverse
  if tells t then .call .alert none :: notes else notes

/-- They are all entries of a check. -/
theorem isAlert_of_mem_alertEntries {t : UpstreamTable} {e : Entry} (he : e ∈ alertEntries t) :
    e.isAlert := by
  have hnotes : ∀ e ∈ (t.reached.map fun r => Entry.notice (.alertReached r.1 r.2)).reverse,
      Entry.isAlert e := by
    intro e he
    obtain ⟨r, -, rfl⟩ := List.mem_map.mp (List.mem_reverse.mp he)
    rfl
  unfold alertEntries at he
  dsimp only at he
  split at he
  · rcases List.mem_cons.mp he with rfl | he
    · rfl
    · exact hnotes e he
  · exact hnotes e he

/-- The upstreams after a check of the alert: every alert that is reached has fired, and a threshold
of zero that was told of has fired for the upstreams to come as well. -/
def checked (t : UpstreamTable) : UpstreamTable :=
  { t.fire with defaultAlertFired := t.defaultAlertFired || (tells t && t.defaultAlert = 0) }

/-- A check of the alert fires alerts and tells of it, as depends on the upstreams alone. -/
theorem checkAlert_eq (c : Controller) : c.checkAlert = { c with
    upstreams := checked c.upstreams
    platform := c.platform.write (alertEntries c.upstreams) } := by
  have hfold := foldl_note (fun r : IfIndex × UInt64 => .alertReached r.1 r.2)
    c.upstreams.reached c
  unfold checkAlert alertEntries checked tells
  simp only [hfold]
  split <;> rfl

/-- A check of the alert is nothing to the accounts. -/
theorem account_checked (t : UpstreamTable) (i : IfIndex) :
    (checked t).account i = t.account i := by
  rw [← t.account_fire i]
  -- Whether the default alert has fired shows in no account.
  exact UpstreamTable.account_congr _ i rfl

/-- Nor to the limits. -/
theorem quota_checked (t : UpstreamTable) (i : IfIndex) : (checked t).quota i = t.quota i := by
  rw [← t.quota_fire i]
  exact UpstreamTable.quota_congr _ i rfl

/-- A check of the alert leaves a controller idle. -/
theorem idle_checkAlert (c : Controller) : Idle c c.checkAlert := by
  rw [checkAlert_eq]
  exact ⟨rfl, rfl, rfl, account_checked _, quota_checked _,
    keeps_write _ fun e he => Entry.isMinor_of_isAlert (isAlert_of_mem_alertEntries he)⟩

/-- A poll stores the readings of all counters, or it is refused. The check of the alert that
follows leaves the controller idle. -/
theorem poll_cases (b : Backend) (c : Controller) :
    Idle c (c.poll b) ∨
      ∃ p, c.platform.Serves .readAll c.platform.stores p ∧
        Idle { c with
          platform := p
          upstreams :=
            (c.platform.stores.readings b).foldl UpstreamTable.recordReading c.upstreams }
          (c.poll b) := by
  unfold poll
  rcases hread : c.platform.perform b.readAll with ⟨res, p⟩
  rcases Backend.readAll_cases hread with ⟨⟨f, rfl⟩, hs, -⟩ | ⟨rfl, hs⟩ <;>
    simp only [perform, hread]
  · refine .inl (.trans ?_ (idle_checkAlert _))
    exact ⟨rfl, rfl, rfl, fun _ => rfl, fun _ => rfl, hs.keeps.trans (keeps_note p rfl)⟩
  · exact .inr ⟨p, hs, idle_checkAlert _⟩

/-- A publication settles accounts. It is announced unless there is no traffic to tell of. -/
theorem publish_cases (c : Controller) :
    ∃ p, c.publish = { c with upstreams := c.upstreams.settle, platform := p } ∧
      ((∀ d ∈ c.upstreams.deltas, d.2 = .zero) ∧ p = c.platform.note .nothingToPublish ∨
        p = c.platform.announce (.publish (shares .interface c.upstreams.deltas)
          (shares .tethering c.upstreams.deltas))) := by
  unfold publish
  dsimp only
  split
  · rename_i hall
    exact ⟨_, rfl, .inl ⟨fun d hd => of_decide_eq_true (List.all_eq_true.mp hall d hd), rfl⟩⟩
  · exact ⟨_, rfl, .inr rfl⟩

/-- An alert that is armed or disarmed leaves a controller idle, and so does one that is not
accepted. -/
theorem idle_armAlert (q : Quota) (c : Controller) : Idle c (c.armAlert q).2 := by
  unfold armAlert
  split
  · exact .refl c
  · refine .trans ?_ (idle_checkAlert _)
    refine ⟨rfl, rfl, rfl, fun i => c.upstreams.account_setAlert i q,
      fun i => c.upstreams.quota_setAlert i q, keeps_note _ ?_⟩
    split <;> rfl

/-- The start of polling leaves a controller idle. -/
theorem idle_beginPolling (c : Controller) : Idle c c.beginPolling.2 :=
  ⟨rfl, rfl, rfl, fun _ => rfl, fun _ => rfl, keeps_note _ rfl⟩

/-- The end of polling leaves a controller idle. -/
theorem idle_endPolling (c : Controller) : Idle c c.endPolling := by
  unfold endPolling
  dsimp only
  split
  · exact ⟨rfl, rfl, rfl, fun _ => rfl, fun _ => rfl, keeps_note _ rfl⟩
  · exact ⟨rfl, rfl, rfl, fun _ => rfl, fun _ => rfl, .refl _⟩

/-- A new polling interval leaves a controller idle. -/
theorem idle_setPollInterval (ms : UInt64) (c : Controller) : Idle c (c.setPollInterval ms) :=
  ⟨rfl, rfl, rfl, fun _ => rfl, fun _ => rfl, .refl _⟩

/-! ## Programs and the monitor -/

/-- A change of what is attached leaves a controller idle, if its platform stands aside. -/
theorem idle_changeAttachments {f : Attachments → Platform → Attachments × Platform}
    (hf : ∀ (a : Attachments) (p : Platform), p.Aside (f a p).2) (c : Controller) :
    Idle c (c.changeAttachments f) := by
  unfold changeAttachments withBackend
  split
  · exact ⟨rfl, rfl, rfl, fun _ => rfl, fun _ => rfl, (hf _ _).keeps⟩
  · exact .refl c

/-- A change of what is monitored leaves a controller idle, if its platform stands aside. -/
theorem idle_changeMonitoring {f : Monitoring → Platform → Monitoring × Platform}
    (hf : ∀ (m : Monitoring) (p : Platform), p.Aside (f m p).2) (c : Controller) :
    Idle c (c.changeMonitoring f) := by
  unfold changeMonitoring withBackend
  split
  · exact ⟨rfl, rfl, rfl, fun _ => rfl, fun _ => rfl, (hf _ _).keeps⟩
  · exact .refl c

end Controller

end FastPath
