import FastPath.Proofs.Frame

/-!
# Platforms that refuse nothing

While no call of the backend fails, what a request leaves behind is a function of the stores alone.
A platform is `Willing` if it refuses none of them, and it `Works` towards stores while all that is
written down is between the controller and its backend. The lemmas here say of each request what a
willing platform makes of it. Where no call at all fails, programs and the monitor are `Steady`:
what is attached, what is monitored and what is written down do not depend on the platform.
-/

namespace FastPath

open Std

/-- An entry between the controller and its backend, or a notice that tells of no rule that was
added or removed. Nobody else is told of it. -/
def Entry.isPrivate : Entry → Bool
  | .call (.request _) _ | .call (.table ..) _ | .call (.daemon _) _ => true
  | .notice n => n.isMinor
  | _ => false

/-- An entry that tells of no rule that was added or removed. -/
def Entry.isRuleless : Entry → Bool
  | .notice n => n.isMinor
  | _ => true

/-- What is private is minor. -/
theorem Entry.isMinor_of_isPrivate {e : Entry} (h : e.isPrivate) : e.isMinor := by
  cases e with
  | call c refusal => cases c <;> first | rfl | cases h
  | notice n => exact h
  | shown text => cases h

/-- What is written while a request is served is private. -/
theorem Entry.isPrivate_of_isInner {e : Entry} (h : e.isInner) : e.isPrivate := by
  unfold isInner at h
  split at h
  · cases h
  · rfl
  · rfl
  · exact Notice.isMinor_of_isPlain (Notice.isPlain_of_isRemark h)
  · cases h

/-- What is minor tells of no rule. -/
theorem Entry.isRuleless_of_isMinor {e : Entry} (h : e.isMinor) : e.isRuleless := by
  cases e with
  | notice n => exact h
  | call c refusal => rfl
  | shown text => rfl

namespace Platform

/-- The platform refuses no call to the backend or by it, whatever happens. -/
def Willing (p : Platform) : Prop :=
  ∀ past call, call.isBackend → p.refuses past call = none

/-- The platform refuses no call at all. -/
def Compliant (p : Platform) : Prop :=
  ∀ past call, p.refuses past call = none

/-- Who refuses nothing does not refuse the backend anything. -/
theorem Compliant.willing {p : Platform} (h : p.Compliant) : p.Willing :=
  fun past call _ => h past call

/-- The platform `q` comes after `p` with the stores `x`. Nothing but private entries are written in
between, and nothing collides. -/
structure Works (p : Platform) (x : Stores) (q : Platform) : Prop where
  stores : q.stores = x
  refuses : q.refuses = p.refuses
  past : p.Writes Entry.isPrivate q
  smooth : p.Writes Entry.isSmooth q

/-- The platform `q` comes after `p`, and the journal tells of no rule and of no collision in
between. -/
structure Follows (p q : Platform) : Prop where
  refuses : q.refuses = p.refuses
  past : p.Writes Entry.isRuleless q
  smooth : p.Writes Entry.isSmooth q

variable {p q r : Platform} {x y : Stores}

theorem Follows.refl (p : Platform) : p.Follows p :=
  ⟨rfl, .refl _ p, .refl _ p⟩

theorem Follows.trans (h : p.Follows q) (h' : q.Follows r) : p.Follows r where
  refuses := h'.refuses.trans h.refuses
  past := h.past.trans h'.past
  smooth := h.smooth.trans h'.smooth

/-- Willingness lasts. -/
theorem Follows.willing (h : p.Follows q) (hp : p.Willing) : q.Willing := by
  intro past call hbackend
  rw [h.refuses, hp past call hbackend]

/-- An entry that tells of no rule may follow. -/
theorem follows_push (p : Platform) {e : Entry} (he : e.isRuleless) (hsmooth : e.isSmooth) :
    p.Follows (p.push e) :=
  ⟨rfl, writes_push p he, writes_push p hsmooth⟩

/-- What keeps the stores tells of no rule. -/
theorem Keeps.follows (h : p.Keeps q) : p.Follows q :=
  ⟨h.refuses, h.quiet.mono Entry.isRuleless_of_isMinor, h.smooth⟩

/-- Nothing is refused, now or later. -/
theorem Willing.not_refuses (h : p.Willing) : ¬p.Refuses := by
  rintro ⟨es, c, hbackend, hc⟩
  rw [h _ c hbackend] at hc
  cases hc

/-- A willing platform denies no request. -/
theorem Willing.not_denied {req : Request} {res : Except Failure α} (h : p.Willing) :
    ¬p.Denied req x res q :=
  fun hd => h.not_refuses hd.2.2

theorem Works.refl (p : Platform) : p.Works p.stores p :=
  ⟨rfl, rfl, .refl _ p, .refl _ p⟩

theorem Works.trans (h : p.Works x q) (h' : q.Works y r) : p.Works y r where
  stores := h'.stores
  refuses := h'.refuses.trans h.refuses
  past := h.past.trans h'.past
  smooth := h.smooth.trans h'.smooth

/-- Private entries are minor. -/
theorem Works.quiet (h : p.Works x q) : p.Quiet q :=
  h.past.mono Entry.isMinor_of_isPrivate

/-- Private entries tell of no rule. -/
theorem Works.follows (h : p.Works x q) : p.Follows q :=
  ⟨h.refuses, h.quiet.mono Entry.isRuleless_of_isMinor, h.smooth⟩

/-- Willingness lasts. -/
theorem Works.willing (h : p.Works x q) (hp : p.Willing) : q.Willing :=
  h.follows.willing hp

/-- Compliance lasts. -/
theorem Works.compliant (h : p.Works x q) (hp : p.Compliant) : q.Compliant := by
  intro past call
  rw [h.refuses, hp past call]

/-- A minor notice changes no store. -/
theorem works_note (p : Platform) {n : Notice} (hn : n.isMinor) : p.Works p.stores (p.note n) :=
  ⟨rfl, rfl, writes_push p hn, writes_push p rfl⟩

/-- A minor notice is private. -/
theorem Works.note (h : p.Works x q) {n : Notice} (hn : n.isMinor) : p.Works x (q.note n) := by
  obtain rfl := h.stores
  exact h.trans (works_note q hn)

/-- Serving a request is private. -/
theorem Serves.works {req : Request} (h : p.Serves req x q) : p.Works x q where
  stores := h.stores
  refuses := h.refuses
  past := h.writes Entry.isPrivate_of_isInner fun _ => rfl
  smooth := h.smooth

end Platform

/-! ## Requests -/

/-- The stores with the first limit of an interface, which gives it counters as well. -/
def Stores.grant (b : Backend) (i : IfIndex) (quota : Quota) (x : Stores) : Stores :=
  (x.openCounters b i).setLimit b i quota

/-- The stores without the counters and the limit of an interface. -/
def Stores.revoke (b : Backend) (i : IfIndex) (x : Stores) : Stores :=
  (x.closeCounters b i).dropLimit b i

namespace Stores

/-- The limits that a backend keeps. -/
def limits (b : Backend) (x : Stores) : ExtTreeMap IfIndex Quota :=
  match b with
  | .tables => x.kernel.limit
  | _ => x.daemon.quotas

variable {b : Backend} (x : Stores) (r : Rule) (d u i : IfIndex) (q : Quota)

theorem limits_install : (x.install b r).limits b = x.limits b := by
  cases b <;> rfl

theorem limits_uninstall : (x.uninstall b r).limits b = x.limits b := by
  cases b <;> rfl

theorem limits_bind : (x.bind b d u).limits b = x.limits b := by
  cases b <;> rfl

theorem limits_unbind : (x.unbind b d).limits b = x.limits b := by
  cases b <;> rfl

/-- A limit that is set is kept, except in a rehearsal. -/
theorem limits_setLimit (hb : b ≠ .rehearsal) :
    (x.setLimit b i q).limits b = (x.limits b).insert i q := by
  cases b with
  | tables | daemon => rfl
  | rehearsal => exact absurd rfl hb

theorem limits_grant (hb : b ≠ .rehearsal) :
    (x.grant b i q).limits b = (x.limits b).insert i q := by
  have hopen : (x.openCounters b i).limits b = x.limits b := by
    cases b with
    | tables =>
      unfold openCounters
      dsimp only
      split <;> rfl
    | daemon | rehearsal => rfl
  rw [grant, limits_setLimit _ i q hb, hopen]

/-- The limit goes with the counters, except in a rehearsal. -/
theorem limits_revoke (hb : b ≠ .rehearsal) : (x.revoke b i).limits b = (x.limits b).erase i := by
  cases b with
  | tables | daemon => rfl
  | rehearsal => exact absurd rfl hb

/-- The first limit of an interface comes with counters, unless they are there already. -/
theorem mem_stats_grant (j : IfIndex) :
    j ∈ (x.grant .tables i q).kernel.stats ↔ j ∈ x.kernel.stats.insert i .zero := by
  show j ∈ (x.openCounters .tables i).kernel.stats ↔ _
  unfold openCounters
  dsimp only
  split
  · rename_i hi
    rw [ExtTreeMap.mem_insert, Std.compare_eq_iff_eq, iff_or_self]
    rintro rfl
    exact hi
  · rfl

/-- Neither counters nor limits have to do with bindings. -/
theorem upstream6_grant : (x.grant b i q).kernel.upstream6 = x.kernel.upstream6 := by
  cases b with
  | tables =>
    show (x.openCounters .tables i).kernel.upstream6 = _
    unfold openCounters
    dsimp only
    split <;> rfl
  | daemon | rehearsal => rfl

theorem upstream6_install : (x.install b r).kernel.upstream6 = x.kernel.upstream6 := by
  cases b <;> rfl

end Stores

namespace Backend

open Platform

variable {b : Backend} {p q : Platform}

/-- A rule is installed. -/
theorem addRule_willing (b : Backend) (hp : p.Willing) (r : Rule) :
    ∃ q, p.perform (b.addRule r) = (.ok (), q) ∧
      p.Serves (.addRule r) (p.stores.install b r) q := by
  rcases h : p.perform (b.addRule r) with ⟨res, q⟩
  rcases addRule_cases h with hd | ⟨rfl, hs⟩
  · exact absurd hd hp.not_denied
  · exact ⟨q, rfl, hs⟩

/-- A rule is removed. -/
theorem removeRule_willing (b : Backend) (hp : p.Willing) (r : Rule) :
    ∃ q, p.perform (b.removeRule r) = (.ok (), q) ∧
      p.Serves (.removeRule r) (p.stores.uninstall b r) q := by
  rcases h : p.perform (b.removeRule r) with ⟨res, q⟩
  rcases removeRule_cases h with hd | ⟨rfl, hs⟩
  · exact absurd hd hp.not_denied
  · exact ⟨q, rfl, hs⟩

/-- All counters are read. -/
theorem readAll_willing (b : Backend) (hp : p.Willing) :
    ∃ q, p.perform b.readAll = (.ok (p.stores.readings b), q) ∧ p.Works p.stores q := by
  rcases h : p.perform b.readAll with ⟨res, q⟩
  rcases readAll_cases h with hd | ⟨rfl, hs⟩
  · exact absurd hd hp.not_denied
  · exact ⟨q, rfl, hs.works⟩

/-- An interface that is not bound yet is bound. -/
theorem works_startForwarding (hp : p.Willing) {d u : IfIndex} {res : Except Failure Unit}
    (hfree : b = .tables → d ∉ p.stores.kernel.upstream6)
    (h : p.perform (b.startForwarding d u) = (res, q)) : p.Works (p.stores.bind b d u) q := by
  rcases startForwarding_cases h with hd | ⟨-, hb, hbound, -⟩ | ⟨-, -, hs⟩
  · exact absurd hd hp.not_denied
  · exact absurd hbound (hfree hb)
  · exact hs.works

/-- A binding is removed. -/
theorem works_stopForwarding (hp : p.Willing) {d u : IfIndex} {res : Except Failure Unit}
    (h : p.perform (b.stopForwarding d u) = (res, q)) : p.Works (p.stores.unbind b d) q := by
  rcases stopForwarding_cases h with hd | ⟨-, hs⟩
  · exact absurd hd hp.not_denied
  · exact hs.works

/-- The first limit of an interface is set. -/
theorem works_setFirstQuota (hp : p.Willing) {i : IfIndex} {quota : Quota}
    {res : Except Failure Unit} (h : p.perform (b.setQuota i quota true) = (res, q)) :
    p.Works (p.stores.grant b i quota) q := by
  rcases setQuota_cases h with hd | ⟨hd, -⟩ | ⟨-, -, -, hfirst⟩ | ⟨-, -, hs⟩
  · exact absurd hd hp.not_denied
  · exact absurd hd hp.not_denied
  · cases hfirst
  · exact hs.works

/-- A limit is set anew where there are counters. -/
theorem works_setQuota (hp : p.Willing) {i : IfIndex} {quota : Quota} {res : Except Failure Unit}
    (hcounters : p.stores.HasCounters b i) (h : p.perform (b.setQuota i quota false) = (res, q)) :
    p.Works (p.stores.setLimit b i quota) q := by
  rcases setQuota_cases h with hd | ⟨-, hfirst⟩ | ⟨-, -, hnone, -⟩ | ⟨-, -, hs⟩
  · exact absurd hd hp.not_denied
  · cases hfirst
  · exact absurd hcounters hnone
  · exact hs.works

/-- Counters that are there are read for the last time, and cleared with the limit. -/
theorem readAndClear_willing (hp : p.Willing) {i : IfIndex}
    (hcounters : p.stores.HasCounters b i) :
    ∃ q, p.perform (b.readAndClear i) =
        (.ok ⟨p.stores.reportedAs b i, p.stores.counted b i⟩, q) ∧
      p.Works (p.stores.revoke b i) q := by
  rcases h : p.perform (b.readAndClear i) with ⟨res, q⟩
  rcases readAndClear_cases h with hd | ⟨-, -, hnone⟩ | ⟨rfl, -, hs | ⟨-, hr⟩⟩
  · exact absurd hd hp.not_denied
  · exact absurd hcounters hnone
  · exact ⟨q, rfl, hs.works⟩
  · exact absurd hr hp.not_refuses

end Backend

/-! ## Programs and the monitor -/

namespace Platform

/-- What comes out of the step, and what it writes, is the same on all compliant platforms. -/
def Steady (f : Platform → α × Platform) : Prop :=
  ∃ a es, ∀ p, p.Compliant → f p = (a, p.write es)

/-- Writing does not make a platform refuse. -/
theorem Compliant.write {p : Platform} (h : p.Compliant) (es : List Entry) :
    (p.write es).Compliant := h

/-- A step that only writes is steady. -/
theorem steady_write (a : α) (es : List Entry) : Steady fun p => (a, p.write es) :=
  ⟨a, es, fun _ _ => rfl⟩

/-- A steady step after a steady step. -/
theorem Steady.bind {f : Platform → α × Platform} {g : α → Platform → β × Platform}
    (hf : Steady f) (hg : ∀ a, Steady (g a)) : Steady fun p => g (f p).1 (f p).2 := by
  obtain ⟨a, es, hf⟩ := hf
  obtain ⟨b, es', hg⟩ := hg a
  refine ⟨b, es' ++ es, fun p hp => ?_⟩
  simp only [hf p hp, hg _ (hp.write es), write_write]

/-- A call is let through and written down. -/
theorem perform_ask_compliant {p : Platform} (hp : p.Compliant) (c : Call) :
    p.perform (Act.ask c) = (.ok (), p.write [.call c none]) := by
  rcases h : p.perform (Act.ask c) with ⟨res, q⟩
  rcases perform_ask_cases h with ⟨-, rfl, rfl⟩ | ⟨reason, hrefuse, -, -⟩
  · rfl
  · rw [hp] at hrefuse
    cases hrefuse

/-- A call whose failure is only noted is steady. -/
theorem steady_ask (a : α) (c : Call) (failed : Failure → Notice) :
    Steady fun p => (a, match p.perform (Act.ask c) with
      | (.ok (), p) => p
      | (.error f, p) => p.note (failed f)) :=
  ⟨a, [.call c none], fun p hp => by simp only [perform_ask_compliant hp]⟩

end Platform

namespace Attachments

open Platform

/-- A program is attached, or there is nothing that does that. -/
theorem steady_attachProgram (a : α) (attacher : Bool) (iface : String) (d : Direction) :
    Steady fun p => (a, attachProgram attacher iface d p) := by
  cases attacher with
  | true => exact steady_ask a (.attach iface d) (.attachFailed iface d)
  | false => exact steady_write a [.notice _]

/-- A program is detached, or there is nothing that does that. -/
theorem steady_detachProgram (a : α) (attacher : Bool) (iface : String) :
    Steady fun p => (a, detachProgram attacher iface p) := by
  cases attacher with
  | true => exact steady_ask a (.detach iface) (.detachFailed iface)
  | false => exact steady_write a []

theorem steady_acquire (iface : String) (d : Direction) (a : Attachments) :
    Steady (acquire iface d a) := by
  unfold acquire
  dsimp only
  split
  · exact steady_attachProgram _ a.attacher iface d
  · exact steady_write _ [.notice _]

theorem steady_release (iface : String) (a : Attachments) : Steady (release iface a) := by
  unfold release
  split
  · exact steady_write a []
  · split
    · exact steady_detachProgram _ a.attacher iface
    · exact steady_write _ []

/-- Attaching a pair is steady. -/
theorem steady_attach (pair : Pair) (a : Attachments) : Steady (attach pair a) := by
  unfold attach
  split
  · exact steady_write a [.notice _]
  · exact (steady_acquire ..).bind fun a => steady_acquire pair.internal .upstream a

/-- Detaching a pair is steady. -/
theorem steady_detach (pair : Pair) (a : Attachments) : Steady (detach pair a) := by
  unfold detach
  split
  · exact (steady_release ..).bind fun a => steady_release pair.internal a
  · exact steady_write a [.notice _]

/-- Detaching all pairs is steady. -/
theorem steady_detachAll (a : Attachments) : Steady (detachAll a) := by
  unfold detachAll
  generalize a.pairs.toList = pairs
  induction pairs generalizing a with
  | nil => exact steady_write a []
  | cons pair pairs ih => exact (steady_detach pair a).bind ih

end Attachments

namespace Monitoring

open Platform

/-- Monitoring for a downstream is steady. -/
theorem steady_add (d : DownstreamId) (m : Monitoring) : Steady (add d m) := by
  unfold add
  dsimp only
  split
  · exact steady_write m [.notice _]
  · split
    · refine ⟨⟨m.active.insert d, true⟩, [.call .startMonitor none], fun p hp => ?_⟩
      simp only [perform_ask_compliant hp]
    · exact steady_write _ []

/-- Monitoring no more for a downstream is steady. -/
theorem steady_remove (d : DownstreamId) (m : Monitoring) : Steady (remove d m) := by
  unfold remove
  dsimp only
  split
  · split
    · exact steady_write _ [.call .stopMonitor none]
    · exact steady_write _ []
  · exact steady_write m [.notice _]

/-- Monitoring no more for anyone is steady. -/
theorem steady_removeAll (m : Monitoring) : Steady (removeAll m) := by
  unfold removeAll
  generalize m.active.toList = ds
  induction ds generalizing m with
  | nil => exact steady_write m []
  | cons d ds ih => exact (steady_remove d m).bind ih

end Monitoring

end FastPath
