import FastPath.Proofs.Moves

/-!
# Histories

Two kinds of things happen to a controller: something is asked of it, or traffic is forwarded in the
meantime, and the kernel or the daemon counts it. A controller is `Reachable` if it was started and
has had a history of such happenings. What holds at the start and is preserved by every move and by
every count holds of it, whatever is asked and whatever fails.
-/

namespace FastPath

open Std

/-- More traffic, counter by counter, as the kernel counts it. -/
def Traffic.plus (t more : Traffic) : Traffic where
  rxBytes := t.rxBytes + more.rxBytes
  rxPackets := t.rxPackets + more.rxPackets
  txBytes := t.txBytes + more.txBytes
  txPackets := t.txPackets + more.txPackets

/-- More traffic and more errors. -/
def Counters.plus (c more : Counters) : Counters where
  rxPackets := c.rxPackets + more.rxPackets
  rxBytes := c.rxBytes + more.rxBytes
  rxErrors := c.rxErrors + more.rxErrors
  txPackets := c.txPackets + more.txPackets
  txBytes := c.txBytes + more.txBytes
  txErrors := c.txErrors + more.txErrors

instance (b : Backend) (i : IfIndex) (x : Stores) : Decidable (x.HasCounters b i) :=
  inferInstanceAs (Decidable (b = .tables → i ∈ x.kernel.stats))

namespace Platform

/-- A platform without entries that fails calls as `refuses` says and lists limits as said. -/
def failing (refuses : List Entry → Call → Option String) (listing : Listing) : Platform :=
  { fresh listing with refuses }

/-- Traffic of an interface is counted. The kernel counts it only if the interface has an entry in
its table, the daemon starts an entry if there is none. -/
def count (b : Backend) (i : IfIndex) (more : Counters) (p : Platform) : Platform :=
  match b with
  | .tables =>
    match p.kernel.stats[i]? with
    | some c => Slot.stats.put i (c.plus more) p
    | none => p
  | _ => { p with daemon :=
      Daemon.setStats i ((p.daemon.stats.getD i .zero).plus more.traffic) p.daemon }

variable (b : Backend) (i : IfIndex) (more : Counters) (p : Platform)

/-- Counting changes the counters of interfaces that have them, and nothing else. In the kernel none
are created. -/
theorem count_cases : ∃ kernelStats daemonStats, p.count b i more = { p with
      kernel := { p.kernel with stats := kernelStats }
      daemon := { p.daemon with stats := daemonStats } } ∧
    ∀ j, j ∈ kernelStats ↔ j ∈ p.kernel.stats := by
  cases b with
  | tables =>
    unfold count
    dsimp only
    split
    · rename_i counters hget
      refine ⟨_, p.daemon.stats, rfl, fun j => ?_⟩
      show j ∈ p.kernel.stats.insert i (counters.plus more) ↔ _
      rw [ExtTreeMap.mem_insert, Std.compare_eq_iff_eq, or_iff_right_iff_imp]
      rintro rfl
      exact ExtTreeMap.mem_iff_isSome_getElem?.mpr (by rw [hget]; rfl)
    · exact ⟨p.kernel.stats, p.daemon.stats, rfl, fun _ => .rfl⟩
  | daemon | rehearsal => exact ⟨p.kernel.stats, _, rfl, fun _ => .rfl⟩

/-- What is counted is not written into the journal. -/
@[simp]
theorem past_count : (p.count b i more).past = p.past := by
  obtain ⟨_, _, h, -⟩ := p.count_cases b i more
  rw [h]

/-- Counting leaves the rules in the kernel alone. -/
@[simp]
theorem downstream6_count : (p.count b i more).kernel.downstream6 = p.kernel.downstream6 := by
  obtain ⟨_, _, h, -⟩ := p.count_cases b i more
  rw [h]

/-- Counting leaves all of the daemon alone but its counters. -/
theorem exists_daemon_count :
    ∃ stats, (p.count b i more).daemon = { p.daemon with stats } := by
  obtain ⟨_, stats, h, -⟩ := p.count_cases b i more
  exact ⟨stats, by rw [h]⟩

end Platform

/-- Something that happens to a controller. -/
inductive Happening
  /-- Something is asked of the controller. -/
  | operation (op : Operation)
  /-- Traffic of an interface is forwarded. -/
  | traffic (i : IfIndex) (more : Counters)

namespace Controller

/-- The controller after something happened. -/
def undergo (b : Backend) (c : Controller) : Happening → Controller
  | .operation op => (c.run op).2
  | .traffic i more => { c with platform := c.platform.count b i more }

/-- The controller after several things happened. -/
def undergoAll (b : Backend) (c : Controller) (hs : List Happening) : Controller :=
  hs.foldl (undergo b) c

variable {b : Backend} {names : IfIndex → String → Prop} {c : Controller}

/-- Without traffic a history is a list of operations. -/
theorem undergoAll_operations (b : Backend) (c : Controller) (ops : List Operation) :
    c.undergoAll b (ops.map .operation) = c.runAll ops :=
  List.foldl_map

/-- Nothing that happens changes the backend. -/
theorem backend_undergo (h : Happening) (hb : c.backend = some b) :
    (c.undergo b h).backend = some b := by
  cases h with
  | operation op => exact backend_run c op hb
  | traffic i more => exact hb

/-- Nor does a history. -/
theorem backend_undergoAll (hs : List Happening) (hb : c.backend = some b) :
    (c.undergoAll b hs).backend = some b := by
  induction hs generalizing c with
  | nil => exact hb
  | cons h hs ih => exact ih (backend_undergo h hb)

/-- The controller was just started on the platform `p`, where it found the backend `b`. -/
def Started (b : Backend) (p : Platform) (c : Controller) : Prop :=
  ∃ config source attacher, (start config source attacher p).backend = some b ∧
    c = start config source attacher p

/-- The controller was started on the platform `p`, where it found the backend `b`, and has had a
history since. -/
def Reachable (b : Backend) (p : Platform) (c : Controller) : Prop :=
  ∃ c₀ hs, Started b p c₀ ∧ c = c₀.undergoAll b hs

/-- A controller that was started has its backend. -/
theorem Started.backend {p : Platform} (h : Started b p c) : c.backend = some b := by
  obtain ⟨config, source, attacher, hb, rfl⟩ := h
  exact hb

/-- It still has it after a history. -/
theorem Reachable.backend {p : Platform} (h : Reachable b p c) : c.backend = some b := by
  obtain ⟨c₀, hs, hstart, rfl⟩ := h
  exact backend_undergoAll hs hstart.backend

/-- One thing more may happen after a history. -/
theorem Reachable.undergo {p : Platform} (h : Reachable b p c) (e : Happening) :
    Reachable b p (c.undergo b e) := by
  obtain ⟨c₀, hs, hstart, rfl⟩ := h
  refine ⟨c₀, hs ++ [e], hstart, ?_⟩
  rw [undergoAll, undergoAll, List.foldl_append]
  rfl

/-- What holds of a controller at work on nothing and is preserved by every move holds of one that
was started. -/
theorem Started.preserves {p : Platform} {I : Controller → Prop}
    (hblank : ∀ {c}, Blank b p c → I c) (hmove : ∀ {c c'}, Move b names c c' → I c → I c')
    (h : Started b p c) : I c := by
  obtain ⟨config, source, attacher, hb, rfl⟩ := h
  obtain ⟨c, hc, hsteps⟩ := steps_start names hb
  exact hsteps.preserves hmove (hblank hc)

/-- What holds of a controller that is at work on nothing, with leftovers cleared, and is preserved
by every step and by every count holds at any time. -/
theorem Reachable.preserves_steps {p : Platform} {I : Controller → Prop}
    (hidle : ∀ {q cleared ms attacher}, Blank b p (idle q (some b) ms attacher) →
      p.Works (p.stores.clear b cleared) q → (p.Willing → ∀ t, cleared t) →
      I (idle q (some b) ms attacher))
    (hstep : ∀ {c c'}, Step b (fun _ _ => True) c c' → I c → I c')
    (hcount : ∀ {c} i more, I c → I { c with platform := c.platform.count b i more })
    (h : Reachable b p c) : I c := by
  have hsteps : ∀ {c c'}, Steps b (fun _ _ => True) c c' → I c → I c' := by
    intro c c' h hc
    induction h with
    | refl => exact hc
    | tail _ h ih => exact hstep h ih
  obtain ⟨c, hs, ⟨config, source, attacher, hb, rfl⟩, rfl⟩ := h
  obtain ⟨q, cleared, hstart, hblank, hq, hcleared⟩ := exists_start hb
  have hc : I (start config source attacher p) := by
    rw [hstart]
    exact hsteps (closure_foldl Steps.backend_eq (fun c l => steps_configureLimit c l) _ rfl)
      (hidle hblank hq hcleared)
  generalize start config source attacher p = c at hb hc ⊢
  clear hstart
  induction hs generalizing c with
  | nil => exact hc
  | cons h hs ih =>
    refine ih _ (backend_undergo h hb) ?_
    cases h with
    | operation op => exact hsteps (steps_run c op hb fun _ _ _ => trivial) hc
    | traffic i more => exact hcount i more hc

/-- What holds of a controller at work on nothing and is preserved by every move and by every count
holds at any time. -/
theorem Reachable.preserves {p : Platform} {I : Controller → Prop}
    (hblank : ∀ {c}, Blank b p c → I c)
    (hmove : ∀ {c c'}, Move b (fun _ _ => True) c c' → I c → I c')
    (hcount : ∀ {c} i more, I c → I { c with platform := c.platform.count b i more })
    (h : Reachable b p c) : I c :=
  h.preserves_steps (fun hb _ _ => hblank hb)
    (fun hstep => Steps.preserves hmove (.single hstep)) hcount

/-! ## Two downstreams and one key -/

/-- A rule for one neighbor on one upstream, out of the given interface. -/
def sharedRule (downstream : IfIndex) : Rule :=
  ⟨100, downstream, ⟨#v[0x2001, 0xdb8, 0, 0, 0, 0, 0, 1]⟩, .zero, .zero⟩

/-- A controller after two downstreams have added a rule for the same neighbor on the same upstream,
and after more operations. -/
def shared (source : Source) (more : List Operation) : Controller :=
  (start .default source true .empty).runAll (
    .event (.addRule "wlan0" (sharedRule 10)) :: .event (.addRule "usb0" (sharedRule 11)) :: more)

theorem reachable_shared_tables (more : List Operation) :
    Reachable .tables .empty (shared (.tables fun _ => true) more) :=
  ⟨_, _, ⟨_, _, _, rfl, rfl⟩, (undergoAll_operations ..).symm⟩

theorem reachable_shared_daemon (more : List Operation) :
    Reachable .daemon .empty (shared (.daemon true) more) :=
  ⟨_, _, ⟨_, _, _, rfl, rfl⟩, (undergoAll_operations ..).symm⟩

end Controller

end FastPath
