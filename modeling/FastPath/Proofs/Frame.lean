import FastPath.Attachment
import FastPath.Monitoring
import FastPath.Proofs.Backend

/-!
# What leaves rules and traffic alone

Bindings, limits, polling, alerts, programs and the monitor are nothing to the rules that are
installed, to the traffic that is counted and to what the journal tells of either. A platform
`Spares` them on the way to another when they are the same on both, so that what depends on nothing
else carries over. Programs and the monitor are nothing to the stores at all: a platform that
`Keeps` them has written into its journal only.
-/

namespace FastPath

open Std

/-- A notice that tells of no rule that was added or removed. -/
def Notice.isMinor : Notice → Bool
  | .ruleAdded .. | .ruleRemoved .. => false
  | _ => true

/-- A notice that tells neither of a rule that was added or removed nor of a limit that was
remembered. -/
def Notice.isPlain : Notice → Bool
  | .ruleAdded .. | .ruleRemoved .. | .limitStored .. => false
  | _ => true

/-- An entry that tells neither of a rule that was added or removed nor of published traffic. -/
def Entry.isMinor : Entry → Bool
  | .call (.publish ..) _ => false
  | .notice n => n.isMinor
  | _ => true

/-- What a backend remarks on is plain. -/
theorem Notice.isPlain_of_isRemark {n : Notice} (h : n.isRemark) : n.isPlain := by
  cases n <;> first | rfl | cases h

/-- A plain notice is minor. -/
theorem Notice.isMinor_of_isPlain {n : Notice} (h : n.isPlain) : n.isMinor := by
  cases n <;> first | rfl | cases h

/-- What is written while a request is served is minor. -/
theorem Entry.isMinor_of_isInner {e : Entry} (h : e.isInner) : e.isMinor := by
  unfold isInner at h
  split at h
  · cases h
  · rfl
  · rfl
  · exact Notice.isMinor_of_isPlain (Notice.isPlain_of_isRemark h)
  · cases h

/-- A call about programs or the monitor. -/
def Call.isAside : Call → Bool
  | .attach .. | .detach _ | .startMonitor | .stopMonitor => true
  | _ => false

/-- An entry that tells of programs or the monitor, or a plain notice. -/
def Entry.isAside : Entry → Bool
  | .call _ (some (.keyExists _)) => false
  | .call c _ => c.isAside
  | .notice n => n.isPlain
  | .shown _ => false

/-- What is written about programs and the monitor is minor. -/
theorem Entry.isMinor_of_isAside {e : Entry} (h : e.isAside) : e.isMinor := by
  unfold isAside at h
  split at h
  · cases h
  · rename_i c _ _
    cases c <;> first | rfl | cases h
  · exact Notice.isMinor_of_isPlain h
  · cases h

/-- It tells of no collision. -/
theorem Entry.isSmooth_of_isAside {e : Entry} (h : e.isAside) : e.isSmooth := by
  unfold isSmooth
  split
  · cases h
  · rfl

/-- An entry of a check of the alert. -/
def Entry.isAlert : Entry → Bool
  | .call .alert none => true
  | .notice (.alertReached ..) => true
  | _ => false

/-- An alert is nothing to rules and traffic. -/
theorem Entry.isMinor_of_isAlert {e : Entry} (h : e.isAlert) : e.isMinor ∧ e.isSmooth := by
  unfold isAlert at h
  split at h
  · exact ⟨rfl, rfl⟩
  · exact ⟨rfl, rfl⟩
  · cases h

/-- An entry that is written before a controller takes up its work: a plain notice, or part of
clearing what was left behind. -/
def Entry.isOpening : Entry → Bool
  | .call (.request .clearAll) _ => true
  | .notice n => n.isPlain
  | e => e.isInner

/-- Clearing what was left behind is all that a backend is asked at first. -/
theorem Entry.isOpening_of_isInner {e : Entry} (h : e.isInner) : e.isOpening := by
  unfold isOpening
  split
  · rfl
  · exact Notice.isPlain_of_isRemark h
  · exact h

/-- What is written at first is minor. -/
theorem Entry.isMinor_of_isOpening {e : Entry} (h : e.isOpening) : e.isMinor := by
  unfold isOpening at h
  split at h
  · rfl
  · exact Notice.isMinor_of_isPlain h
  · exact isMinor_of_isInner h

namespace Stores

/-- The stores keep the same rules and count the same traffic, for the backend `b`. -/
structure Same (b : Backend) (x y : Stores) : Prop where
  rules : y.kernel.downstream6 = x.kernel.downstream6
  parcels : y.daemon.rules = x.daemon.rules
  counted : ∀ i, y.counted b i = x.counted b i
  reportedAs : y.daemon.reportedAs = x.daemon.reportedAs

variable {b : Backend} {x y z : Stores}

theorem Same.refl (b : Backend) (x : Stores) : Same b x x := ⟨rfl, rfl, fun _ => rfl, rfl⟩

theorem Same.trans (h : Same b x y) (h' : Same b y z) : Same b x z where
  rules := h'.rules.trans h.rules
  parcels := h'.parcels.trans h.parcels
  counted i := (h'.counted i).trans (h.counted i)
  reportedAs := h'.reportedAs.trans h.reportedAs

/-- Binding an interface is nothing to rules and traffic. -/
theorem same_bind (x : Stores) (d u : IfIndex) : Same b x (x.bind b d u) := by
  cases b <;> exact ⟨rfl, rfl, fun _ => rfl, rfl⟩

/-- Nor is removing the binding. -/
theorem same_unbind (x : Stores) (d : IfIndex) : Same b x (x.unbind b d) := by
  cases b <;> exact ⟨rfl, rfl, fun _ => rfl, rfl⟩

/-- Nor is a limit. -/
theorem same_setLimit (x : Stores) (i : IfIndex) (q : Quota) : Same b x (x.setLimit b i q) := by
  cases b <;> exact ⟨rfl, rfl, fun _ => rfl, rfl⟩

/-- Nor is removing the limit. -/
theorem same_dropLimit (x : Stores) (i : IfIndex) : Same b x (x.dropLimit b i) := by
  cases b <;> exact ⟨rfl, rfl, fun _ => rfl, rfl⟩

/-- New counters have counted nothing, as if they had not been there. -/
theorem same_openCounters (x : Stores) (i : IfIndex) : Same b x (x.openCounters b i) := by
  cases b with
  | tables =>
    rw [openCounters]
    split
    · exact .refl _ x
    · -- The new entry is zero, which is also what no entry counts as.
      rename_i hi
      refine ⟨rfl, rfl, fun j => ?_, rfl⟩
      show ((x.kernel.stats.insert i .zero)[j]?.map Counters.traffic).getD .zero =
        (x.kernel.stats[j]?.map Counters.traffic).getD .zero
      rw [ExtTreeMap.getElem?_insert]
      split
      · rename_i hij
        rw [← Std.compare_eq_iff_eq.mp hij, ExtTreeMap.getElem?_eq_none hi]
        rfl
      · rfl
  | daemon | rehearsal => exact .refl _ x

/-- Installing a rule is nothing to the traffic. -/
theorem counted_install (r : Rule) (i : IfIndex) (x : Stores) :
    (x.install b r).counted b i = x.counted b i := by
  cases b <;> rfl

/-- Nor is removing it. -/
theorem counted_uninstall (r : Rule) (i : IfIndex) (x : Stores) :
    (x.uninstall b r).counted b i = x.counted b i := by
  cases b <;> rfl

/-- Counters that are gone count nothing. -/
theorem counted_closeCounters (i j : IfIndex) (x : Stores) :
    (x.closeCounters b i).counted b j = if i = j then .zero else x.counted b j := by
  cases b with
  | tables =>
    show (((x.kernel.stats.erase i)[j]?).map Counters.traffic).getD .zero = _
    rw [ExtTreeMap.getElem?_erase]
    simp only [Std.compare_eq_iff_eq, counted]
    split <;> rfl
  | daemon | rehearsal =>
    show (x.daemon.stats.erase i).getD j .zero = _
    simp only [ExtTreeMap.getD_erase, Std.compare_eq_iff_eq, counted]

end Stores

namespace Platform

variable {b : Backend} {p q r : Platform}

/-- The platform `q` comes after `p` with nothing but minor entries written in between. -/
def Quiet : Platform → Platform → Prop :=
  Writes Entry.isMinor

theorem Quiet.refl (p : Platform) : p.Quiet p := Writes.refl _ p

theorem Quiet.trans (h : p.Quiet q) (h' : q.Quiet r) : p.Quiet r := Writes.trans h h'

/-- Write entries into the journal, given with the latest one first. -/
def write (es : List Entry) (p : Platform) : Platform :=
  { p with past := es ++ p.past }

theorem write_write (p : Platform) (es es' : List Entry) :
    (p.write es).write es' = p.write (es' ++ es) := by
  simp [write]

/-- A minor entry keeps quiet. -/
theorem quiet_push (p : Platform) {e : Entry} (he : e.isMinor) : p.Quiet (p.push e) :=
  writes_push p he

/-- What is allowed of inner entries and of the request is allowed of serving it. -/
theorem Serves.writes {req : Request} {x : Stores} {f : Entry → Bool} (h : p.Serves req x q)
    (hinner : ∀ {e}, Entry.isInner e → f e)
    (hreq : ∀ refusal : Option String, f (.call (.request req) (refusal.map .refused))) :
    p.Writes f q := by
  obtain ⟨es, refusal, hes, hq⟩ := h.past
  have hrequest : p.Writes f (p.push (.call (.request req) (refusal.map .refused))) :=
    writes_push p (hreq refusal)
  exact hrequest.trans ⟨es, fun e he => hinner (hes e he), hq⟩

/-- What is written while a request is served is minor. -/
theorem Serves.quiet {req : Request} {x : Stores} (h : p.Serves req x q) : p.Quiet q :=
  h.writes Entry.isMinor_of_isInner fun _ => rfl

/-- Nothing collides while a request is served. -/
theorem Serves.smooth {req : Request} {x : Stores} (h : p.Serves req x q) :
    p.Writes Entry.isSmooth q :=
  h.writes Entry.isSmooth_of_isInner fun refusal => by cases refusal <;> rfl

/-- The platform `q` comes after `p` with the same rules and the same traffic, and the journal tells
of neither in between. -/
structure Spares (b : Backend) (p q : Platform) : Prop where
  stores : Stores.Same b p.stores q.stores
  quiet : p.Quiet q

theorem Spares.refl (b : Backend) (p : Platform) : p.Spares b p := ⟨.refl b _, .refl p⟩

theorem Spares.trans (h : p.Spares b q) (h' : q.Spares b r) : p.Spares b r :=
  ⟨h.stores.trans h'.stores, h.quiet.trans h'.quiet⟩

/-- A minor entry spares rules and traffic. -/
theorem spares_push (b : Backend) (p : Platform) {e : Entry} (he : e.isMinor) :
    p.Spares b (p.push e) :=
  ⟨.refl b _, quiet_push p he⟩

/-- A request that is nothing to rules and traffic spares them. -/
theorem Serves.spares {req : Request} {x : Stores} (h : p.Serves req x q)
    (hx : Stores.Same b p.stores x) : p.Spares b q :=
  ⟨by rwa [h.stores], h.quiet⟩

/-- A denied request changes nothing. -/
theorem Denied.spares {req : Request} {res : Except Failure α} (h : p.Denied req p.stores res q) :
    p.Spares b q :=
  h.2.1.spares (.refl b _)

/-- The platform `q` comes after `p` with the same stores, and the journal tells of neither rules
nor traffic in between. -/
structure Keeps (p q : Platform) : Prop where
  stores : q.stores = p.stores
  refuses : q.refuses = p.refuses
  quiet : p.Quiet q
  smooth : p.Writes Entry.isSmooth q

theorem Keeps.refl (p : Platform) : p.Keeps p := ⟨rfl, rfl, .refl p, .refl _ p⟩

theorem Keeps.trans (h : p.Keeps q) (h' : q.Keeps r) : p.Keeps r where
  stores := h'.stores.trans h.stores
  refuses := h'.refuses.trans h.refuses
  quiet := h.quiet.trans h'.quiet
  smooth := h.smooth.trans h'.smooth

/-- What keeps the stores spares rules and traffic. -/
theorem Keeps.spares (h : p.Keeps q) (b : Backend) : p.Spares b q :=
  ⟨by rw [h.stores]; exact .refl b _, h.quiet⟩

/-- A request that is nothing to the stores keeps them. -/
theorem Serves.keeps {req : Request} (h : p.Serves req p.stores q) : p.Keeps q :=
  ⟨h.stores, h.refuses, h.quiet, h.smooth⟩

/-- Minor entries without a collision keep the stores. -/
theorem keeps_write (p : Platform) {es : List Entry} (hes : ∀ e ∈ es, e.isMinor ∧ e.isSmooth) :
    p.Keeps (p.write es) :=
  ⟨rfl, rfl, ⟨es, fun e he => (hes e he).1, rfl⟩, es, fun e he => (hes e he).2, rfl⟩

/-- A minor entry keeps the stores, unless it collides. -/
theorem keeps_push (p : Platform) {e : Entry} (he : e.isMinor) (hsmooth : e.isSmooth) :
    p.Keeps (p.push e) :=
  ⟨rfl, rfl, quiet_push p he, writes_push p hsmooth⟩

/-- A minor notice keeps the stores. -/
theorem keeps_note (p : Platform) {n : Notice} (hn : n.isMinor) : p.Keeps (p.note n) :=
  keeps_push p hn rfl

/-- The platform `q` comes after `p` with the same stores, and only programs, the monitor and plain
notices are written about in between. -/
structure Aside (p q : Platform) : Prop where
  stores : q.stores = p.stores
  refuses : q.refuses = p.refuses
  past : p.Writes Entry.isAside q

theorem Aside.refl (p : Platform) : p.Aside p := ⟨rfl, rfl, .refl _ p⟩

theorem Aside.trans (h : p.Aside q) (h' : q.Aside r) : p.Aside r where
  stores := h'.stores.trans h.stores
  refuses := h'.refuses.trans h.refuses
  past := h.past.trans h'.past

/-- Neither programs nor the monitor are anything to rules and traffic. -/
theorem Aside.keeps (h : p.Aside q) : p.Keeps q where
  stores := h.stores
  refuses := h.refuses
  quiet := h.past.mono Entry.isMinor_of_isAside
  smooth := h.past.mono Entry.isSmooth_of_isAside

theorem aside_push (p : Platform) {e : Entry} (he : e.isAside) : p.Aside (p.push e) :=
  ⟨rfl, rfl, writes_push p he⟩

/-- A plain notice stands aside. -/
theorem aside_note (p : Platform) {n : Notice} (hn : n.isPlain) : p.Aside (p.note n) :=
  aside_push p hn

/-- A call about programs or the monitor stands aside, refused or not. -/
theorem aside_ask {c : Call} {res : Except Failure Unit} (hc : c.isAside)
    (h : p.perform (Act.ask c) = (res, q)) : p.Aside q := by
  rcases perform_ask_cases h with ⟨-, -, rfl⟩ | ⟨_, -, -, rfl⟩
  · exact aside_push p hc
  · exact aside_push p hc

end Platform

/-! ## Limits and bindings -/

namespace Backend

open Platform

variable {b : Backend} {p q : Platform}

/-- Setting a limit spares rules and traffic, even if that fails halfway. -/
theorem spares_setQuota {i : IfIndex} {quota : Quota} {isFirst : Bool} {res : Except Failure Unit}
    (h : p.perform (b.setQuota i quota isFirst) = (res, q)) : p.Spares b q := by
  have hopen := Stores.same_openCounters (b := b) p.stores i
  rcases setQuota_cases h with hd | ⟨⟨-, hs, -⟩, -⟩ | ⟨-, hs, -⟩ | ⟨-, -, hs⟩
  · exact hd.spares
  · exact hs.spares hopen
  · exact hs.spares (.refl b _)
  · refine hs.spares (.trans ?_ (Stores.same_setLimit _ i quota))
    split
    · exact hopen
    · exact .refl b _

/-- Binding an interface spares rules and traffic. -/
theorem spares_startForwarding {d u : IfIndex} {res : Except Failure Unit}
    (h : p.perform (b.startForwarding d u) = (res, q)) : p.Spares b q := by
  rcases startForwarding_cases h with hd | ⟨-, -, -, m, a, hs, rfl⟩ | ⟨-, -, hs⟩
  · exact hd.spares
  · have hserved : p.Spares b m := hs.spares (.refl b _)
    exact hserved.trans (spares_push b m rfl)
  · exact hs.spares (Stores.same_bind _ d u)

/-- Removing a binding spares rules and traffic. -/
theorem spares_stopForwarding {d u : IfIndex} {res : Except Failure Unit}
    (h : p.perform (b.stopForwarding d u) = (res, q)) : p.Spares b q := by
  rcases stopForwarding_cases h with hd | ⟨-, hs⟩
  · exact hd.spares
  · exact hs.spares (Stores.same_unbind _ d)

end Backend

/-! ## Programs and the monitor -/

namespace Attachments

open Platform

/-- Attaching a program stands aside. -/
theorem aside_attachProgram (attacher : Bool) (iface : String) (d : Direction) (p : Platform) :
    p.Aside (attachProgram attacher iface d p) := by
  unfold attachProgram
  split
  · split <;> rename_i h
    · exact aside_ask rfl h
    · exact (aside_ask rfl h).trans (aside_note _ rfl)
  · exact aside_note p rfl

/-- Detaching a program stands aside. -/
theorem aside_detachProgram (attacher : Bool) (iface : String) (p : Platform) :
    p.Aside (detachProgram attacher iface p) := by
  unfold detachProgram
  split
  · split <;> rename_i h
    · exact aside_ask rfl h
    · exact (aside_ask rfl h).trans (aside_note _ rfl)
  · exact .refl p

/-- Counting an interface once more stands aside. -/
theorem aside_acquire (iface : String) (d : Direction) (a : Attachments) (p : Platform) :
    p.Aside (acquire iface d a p).2 := by
  unfold acquire
  dsimp only
  split
  · exact aside_attachProgram ..
  · exact aside_note p rfl

/-- Counting an interface once less stands aside. -/
theorem aside_release (iface : String) (a : Attachments) (p : Platform) :
    p.Aside (release iface a p).2 := by
  unfold release
  split
  · exact .refl p
  · split
    · exact aside_detachProgram ..
    · exact .refl p

/-- Attaching a pair stands aside. -/
theorem aside_attach (pair : Pair) (a : Attachments) (p : Platform) :
    p.Aside (attach pair a p).2 := by
  unfold attach
  split
  · exact aside_note p rfl
  · exact (aside_acquire ..).trans (aside_acquire ..)

/-- Detaching a pair stands aside. -/
theorem aside_detach (pair : Pair) (a : Attachments) (p : Platform) :
    p.Aside (detach pair a p).2 := by
  unfold detach
  split
  · exact (aside_release ..).trans (aside_release ..)
  · exact aside_note p rfl

/-- Detaching all pairs stands aside. -/
theorem aside_detachAll (a : Attachments) (p : Platform) : p.Aside (detachAll a p).2 := by
  unfold detachAll
  generalize a.pairs.toList = pairs
  induction pairs generalizing a p with
  | nil => exact .refl p
  | cons pair pairs ih => exact (aside_detach pair a p).trans (ih _ _)

end Attachments

namespace Monitoring

open Platform

/-- Monitoring for a downstream stands aside. -/
theorem aside_add (d : DownstreamId) (m : Monitoring) (p : Platform) :
    p.Aside (add d m p).2 := by
  unfold add
  dsimp only
  split
  · exact aside_note p rfl
  · split
    · split <;> rename_i h
      · exact aside_ask rfl h
      · exact (aside_ask rfl h).trans (aside_note _ rfl)
    · exact .refl p

/-- Monitoring no more for a downstream stands aside. -/
theorem aside_remove (d : DownstreamId) (m : Monitoring) (p : Platform) :
    p.Aside (remove d m p).2 := by
  unfold remove
  dsimp only
  split
  · split
    · exact aside_push p rfl
    · exact .refl p
  · exact aside_note p rfl

/-- Monitoring no more for anyone stands aside. -/
theorem aside_removeAll (m : Monitoring) (p : Platform) : p.Aside (removeAll m p).2 := by
  unfold removeAll
  generalize m.active.toList = ds
  induction ds generalizing m p with
  | nil => exact .refl p
  | cons d ds ih => exact (aside_remove d m p).trans (ih _ _)

end Monitoring

end FastPath
