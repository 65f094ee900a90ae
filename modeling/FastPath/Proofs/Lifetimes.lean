import FastPath.Proofs.Brackets
import FastPath.Proofs.Programs

/-!
# The life of the monitor

Whatever sequence of downstreams comes and goes, and whichever starts fail, the calls about the
monitor make a word by which the monitor is started only while it does not run and stopped only
while it does: `Alive` says so, and it tells whether the monitor runs in the end. `lives_run` has
the calls of one operation. The monitor is started exactly when the first downstream comes, and
stopped exactly when the last one goes and it runs.
-/

namespace FastPath

open Std

/-- The calls about the monitor, with the causes of their refusals. -/
def monitorCalls : Reading SideCall where
  asked _ := none
  stored _ _ := none
  aside
    | .startMonitor, refusal => some (.startMonitor, refusal)
    | .stopMonitor, refusal => some (.stopMonitor, refusal)
    | _, _ => none

/-- What a call does to the monitor. A start that is refused does nothing. -/
def SideCall.onMonitor : SideCall → Option Bracket
  | (.startMonitor, none) => some .opens
  | (.stopMonitor, _) => some .closes
  | _ => none

/-! ## Words about the monitor -/

/-- The monitor is started, or fails to start, while it does not run, and it is stopped while it
does. The flag tells whether it runs after the word, which has the latest call first. -/
inductive Alive : Bool → List SideCall → Prop
  | nil : Alive false []
  | started {w : List SideCall} (h : Alive false w) : Alive true ((.startMonitor, none) :: w)
  | refused {w : List SideCall} (h : Alive false w) (cause : Cause) :
    Alive false ((.startMonitor, some cause) :: w)
  | stopped {w : List SideCall} (h : Alive true w) : Alive false ((.stopMonitor, none) :: w)

section

variable {running : Bool} {w : List SideCall}

/-- The monitor runs if the latest call was a start that was not refused. -/
theorem Alive.running_iff (h : Alive running w) :
    running = true ↔ w.head? = some (.startMonitor, none) := by
  cases h <;> simp

/-- Starts that are not refused and stops take turns. -/
theorem Alive.bracketed (h : Alive running w) :
    Bracketed running (w.filterMap SideCall.onMonitor) := by
  induction h with
  | nil => exact .nil
  | started _ ih => exact ih.opens
  | refused _ _ ih => exact ih
  | stopped _ ih => exact ih.closes

/-- A monitor that is started does not run. -/
theorem Alive.before_start (h : Alive running w) {newer older : List SideCall}
    {refusal : Option Cause} (hw : w = newer ++ (.startMonitor, refusal) :: older) :
    Alive false older := by
  -- It is the latest call of the word, or it is in the word before the latest call.
  induction h generalizing newer with
  | nil => simp at hw
  | started h ih | refused h _ ih =>
    rcases newer with _ | ⟨call, newer⟩
    · rw [← (List.cons.inj hw).2]
      exact h
    · exact ih (List.cons.inj hw).2
  | stopped _ ih =>
    rcases newer with _ | ⟨call, newer⟩
    · cases (List.cons.inj hw).1
    · exact ih (List.cons.inj hw).2

end

/-- Something that is asked about downstreams that want the monitor. -/
inductive MonitorOp
  | add (d : DownstreamId)
  | remove (d : DownstreamId)
  | removeAll

namespace Monitoring

open Platform

/-- Do what is asked. -/
def run (x : Monitoring × Platform) : MonitorOp → Monitoring × Platform
  | .add d => add d x.1 x.2
  | .remove d => remove d x.1 x.2
  | .removeAll => removeAll x.1 x.2

/-- Who wants the monitor once all this was asked, when nobody wanted it at first. -/
def after (refuses : List Entry → Call → Option String) (ops : List MonitorOp) :
    Monitoring × Platform :=
  ops.foldl run (empty, .failing refuses .sorted)

/-- The monitor runs as the calls tell, and only while someone wants it. -/
structure Lives (m : Monitoring) (p : Platform) : Prop where
  alive : Alive m.running (monitorCalls.word p.past)
  wanted : m.running = true → m.active.size ≠ 0

/-- From `m` to `m'` the monitor is asked to start exactly if the first downstream comes, and to
stop exactly if the last one goes while the monitor runs. -/
def Due (m : Monitoring) (p : Platform) (m' : Monitoring) (p' : Platform) : Prop :=
  ∃ refusal, monitorCalls.word p'.past =
    (if m.active.size = 0 ∧ m'.active.size = 1 then [(.startMonitor, refusal)]
      else if m.active.size ≠ 0 ∧ m'.active.size = 0 ∧ m.running then [(.stopMonitor, none)]
      else []) ++ monitorCalls.word p.past

variable {m m' m'' : Monitoring} {p p' p'' : Platform}

/-! ## Downstreams that come -/

/-- Someone wants the monitor. -/
theorem size_ne_zero_of_mem {d : DownstreamId} (h : d ∈ m.active) : m.active.size ≠ 0 := by
  intro hsize
  have hempty : m.active = ∅ := ExtTreeSet.eq_empty_iff_size_eq_zero.mpr hsize
  rw [hempty] at h
  exact ExtTreeSet.not_mem_empty h

/-- A monitor that runs only while someone wants it does not run while nobody does. -/
theorem running_eq_false (hwanted : m.running = true → m.active.size ≠ 0)
    (hsize : m.active.size = 0) : m.running = false := by
  rw [← Bool.not_eq_true]
  exact fun hrunning => hwanted hrunning hsize

/-- A downstream that is not the first one changes nothing about the monitor, and the first one has
it started. -/
theorem add_cases (hwanted : m.running = true → m.active.size ≠ 0) (d : DownstreamId)
    (p : Platform) :
    (m.active.size ≠ 0 ∧ (add d m p).1.active.size ≠ 0 ∧ (add d m p).1.running = m.running ∧
      monitorCalls.Adds [] p (add d m p).2) ∨
    m.active.size = 0 ∧ (add d m p).1.active.size = 1 ∧ ∃ refusal : Option Cause,
      (add d m p).1.running = refusal.isNone ∧
      monitorCalls.Adds [(.startMonitor, refusal)] p (add d m p).2 := by
  unfold add
  dsimp only
  split
  · rename_i hmem
    exact .inl ⟨size_ne_zero_of_mem hmem, size_ne_zero_of_mem hmem, rfl,
      monitorCalls.adds_note p rfl⟩
  · rename_i hnew
    have hsize : (m.active.insert d).size = m.active.size + 1 := by
      rw [ExtTreeSet.size_insert, if_neg fun hmem => hnew (ExtTreeSet.mem_iff_contains.mpr hmem)]
    rw [hsize]
    by_cases hfirst : m.active.size = 0
    · -- Nobody wanted the monitor, so it does not run and is started whatever happened before.
      have hstopped := running_eq_false hwanted hfirst
      rw [if_pos (by simp [hfirst, hstopped])]
      split <;> rename_i hask
      · rcases perform_ask_cases hask with ⟨-, -, rfl⟩ | ⟨_, -, hres, -⟩
        · exact .inr ⟨hfirst, by simp [hsize, hfirst], none, rfl, monitorCalls.adds_push _ _⟩
        · cases hres
      · rcases perform_ask_cases hask with ⟨-, hres, -⟩ | ⟨_, -, -, rfl⟩
        · cases hres
        · exact .inr ⟨hfirst, by simp [hsize, hfirst], some _, hstopped,
            (monitorCalls.adds_push _ _).trans (monitorCalls.adds_note _ rfl)⟩
    · rw [if_neg fun h => hfirst (by omega)]
      exact .inl ⟨hfirst, by simp [hsize], rfl, .refl _ _⟩

/-- A downstream that comes has the monitor started if it is the first one. -/
theorem lives_add (h : Lives m p) (d : DownstreamId) :
    Lives (add d m p).1 (add d m p).2 ∧ Due m p (add d m p).1 (add d m p).2 := by
  rcases add_cases h.wanted d p with ⟨hbefore, hafter, hsame, hword⟩ |
    ⟨hbefore, hafter, refusal, hrunning, hword⟩
  · refine ⟨⟨?_, fun _ => hafter⟩, none, ?_⟩
    · rw [hsame, hword]
      exact h.alive
    · rw [if_neg fun hh => hbefore hh.1, if_neg fun hh => hafter hh.2.1]
      exact hword
  · have halive := h.alive
    rw [running_eq_false h.wanted hbefore] at halive
    refine ⟨⟨?_, fun _ => by omega⟩, refusal, ?_⟩
    · rw [hrunning, hword]
      cases refusal with
      | none => exact halive.started
      | some cause => exact halive.refused cause
    · rw [if_pos ⟨hbefore, hafter⟩]
      exact hword

/-! ## Downstreams that go -/

/-- From `m` to `m'` downstreams go only. Either the monitor goes on as it was, or it was running
and was stopped, and nobody is left. -/
def Wanes (m : Monitoring) (p : Platform) (m' : Monitoring) (p' : Platform) : Prop :=
  m'.active.size ≤ m.active.size ∧
  ((m'.running = m.running ∧ (m'.running = true → m'.active.size ≠ 0) ∧
      monitorCalls.Adds [] p p') ∨
    m.running = true ∧ m'.running = false ∧ m'.active.size = 0 ∧
      monitorCalls.Adds [(.stopMonitor, none)] p p')

theorem Wanes.trans (h : Wanes m p m' p') (h' : Wanes m' p' m'' p'') : Wanes m p m'' p'' := by
  obtain ⟨hle, ⟨hsame, -, hword⟩ | ⟨hrunning, hstopped, hnone, hword⟩⟩ := h <;>
    obtain ⟨hle', ⟨hsame', hwanted', hword'⟩ | ⟨hrunning', hstopped', hnone', hword'⟩⟩ := h' <;>
    refine ⟨Nat.le_trans hle' hle, ?_⟩
  · exact .inl ⟨hsame'.trans hsame, hwanted', hword.trans hword'⟩
  · exact .inr ⟨hsame ▸ hrunning', hstopped', hnone', hword.trans hword'⟩
  · exact .inr ⟨hrunning, hsame'.trans hstopped, by omega, hword.trans hword'⟩
  · exact absurd (hstopped.symm.trans hrunning') Bool.false_ne_true

/-- A downstream that goes has the monitor stopped if it was the last one. -/
theorem wanes_remove (hwanted : m.running = true → m.active.size ≠ 0) (d : DownstreamId)
    (p : Platform) : Wanes m p (remove d m p).1 (remove d m p).2 := by
  refine ⟨?_, ?_⟩
  · rw [active_remove, ExtTreeSet.size_erase]
    split <;> omega
  · unfold remove
    dsimp only
    split
    · split
      · rename_i hlast
        exact .inr ⟨hlast.2, rfl, ExtTreeSet.eq_empty_iff_size_eq_zero.mp
          (ExtTreeSet.isEmpty_iff.mp hlast.1), monitorCalls.adds_push _ _⟩
      · rename_i hmore
        refine .inl ⟨rfl, fun hrunning hnone => hmore ⟨?_, hrunning⟩, .refl _ _⟩
        exact ExtTreeSet.isEmpty_iff.mpr (ExtTreeSet.eq_empty_iff_size_eq_zero.mpr hnone)
    · exact .inl ⟨rfl, hwanted, monitorCalls.adds_note p rfl⟩

/-- Where downstreams go only, the monitor is stopped if the last one goes while it runs. -/
theorem Wanes.lives (h : Lives m p) (hwanes : Wanes m p m' p') : Lives m' p' ∧ Due m p m' p' := by
  obtain ⟨hle, ⟨hsame, hwanted, hword⟩ | ⟨hrunning, hstopped, hnone, hword⟩⟩ := hwanes
  · refine ⟨⟨?_, hwanted⟩, none, ?_⟩
    · rw [hsame, hword]
      exact h.alive
    · rw [if_neg (by omega), if_neg fun hh => hwanted (hsame ▸ hh.2.2) hh.2.1]
      exact hword
  · have halive := h.alive
    rw [hrunning] at halive
    refine ⟨⟨?_, fun hh => absurd (hstopped.symm.trans hh) Bool.false_ne_true⟩, none, ?_⟩
    · rw [hstopped, hword]
      exact halive.stopped
    · rw [if_neg (by omega), if_pos ⟨h.wanted hrunning, hnone, hrunning⟩]
      exact hword

/-- When all downstreams go the monitor is stopped once, if it runs. -/
theorem wanes_removeAll (h : Lives m p) : Wanes m p (removeAll m p).1 (removeAll m p).2 :=
  -- Each removal goes on from what the removals before it have left.
  have hfold := List.foldlRecOn m.active.toList (fun x d => remove d x.1 x.2)
    (motive := fun x : Monitoring × Platform => Wanes m p x.1 x.2) (b := (m, p))
    ⟨Nat.le_refl _, .inl ⟨rfl, h.wanted, .refl _ _⟩⟩
    fun x hx d _ => hx.trans (wanes_remove (hx.lives h).1.wanted d x.2)
  hfold

/-! ## Runs -/

/-- An operation keeps the monitor alive as it should be, and makes the call that is due. -/
theorem lives_run {x : Monitoring × Platform} (h : Lives x.1 x.2) (op : MonitorOp) :
    Lives (run x op).1 (run x op).2 ∧ Due x.1 x.2 (run x op).1 (run x op).2 := by
  cases op with
  | add d => exact lives_add h d
  | remove d => exact (wanes_remove h.wanted d x.2).lives h
  | removeAll => exact (wanes_removeAll h).lives h

/-- The monitor lives in every run. -/
theorem lives_after (refuses : List Entry → Call → Option String) (ops : List MonitorOp) :
    Lives (after refuses ops).1 (after refuses ops).2 :=
  List.foldlRecOn ops run (motive := fun x => Lives x.1 x.2)
    ⟨.nil, fun h => absurd h Bool.false_ne_true⟩
    fun _ hx op _ => (lives_run hx op).1

/-- An operation adds its downstream, and leaves the others that it does not remove. -/
theorem mem_active_run (x : Monitoring × Platform) (op : MonitorOp) (d : DownstreamId) :
    d ∈ (run x op).1.active ↔
      op = .add d ∨ d ∈ x.1.active ∧ op ≠ .remove d ∧ op ≠ .removeAll := by
  cases op with
  | add other =>
    have hadd : d ∈ (run x (.add other)).1.active ↔ other = d ∨ d ∈ x.1.active := mem_active_add
    simp [hadd]
  | remove other =>
    have hremove : (run x (.remove other)).1.active = x.1.active.erase other :=
      active_remove other x.1 x.2
    rw [hremove, ExtTreeSet.mem_erase, ne_eq, Std.compare_eq_iff_eq]
    simp [and_comm]
  | removeAll =>
    have hnone : (run x .removeAll).1.active = ∅ := active_removeAll x.1 x.2
    simp [hnone]

/-- A downstream wants the monitor exactly if it came and did not go since, whether the monitor
started or not. -/
theorem mem_active_after {refuses : List Entry → Call → Option String} {ops : List MonitorOp}
    {d : DownstreamId} :
    d ∈ (after refuses ops).1.active ↔ ∃ before later, ops = before ++ .add d :: later ∧
      MonitorOp.remove d ∉ later ∧ MonitorOp.removeAll ∉ later :=
  holds_iff_lasts (fun ops => d ∈ (after refuses ops).1.active) ExtTreeSet.not_mem_empty
    (fun ops op => by rw [after, List.foldl_append]; exact mem_active_run _ op d) ops

/-- After any downstreams have come and gone in any order, and whichever starts failed, those want
the monitor that came and did not go since. The monitor runs exactly if the latest call was a start
that was not refused, and it runs only while someone wants it. Starts that were not refused and
stops took turns, and no start was asked for while the monitor ran. The next operation asks for a
start exactly if it brings the first downstream, and for a stop exactly if it takes the last one
away while the monitor runs; where it removes all downstreams nobody is left and the monitor does
not run. -/
theorem monitor_lifetime (refuses : List Entry → Call → Option String) (ops : List MonitorOp) :
    let x := after refuses ops
    let calls := monitorCalls.word x.2.past
    (∀ d, d ∈ x.1.active ↔ ∃ before later, ops = before ++ .add d :: later ∧
      MonitorOp.remove d ∉ later ∧ MonitorOp.removeAll ∉ later) ∧
    (x.1.running = true ↔ calls.head? = some (.startMonitor, none)) ∧
    (x.1.running = true → x.1.active.size ≠ 0) ∧
    Bracketed x.1.running (calls.filterMap SideCall.onMonitor) ∧
    (∀ newer refusal older, calls = newer ++ (.startMonitor, refusal) :: older →
      older.head? ≠ some (.startMonitor, none)) ∧
    (∀ op, Due x.1 x.2 (run x op).1 (run x op).2) ∧
    (run x .removeAll).1 = empty := by
  have hlives := lives_after refuses ops
  refine ⟨fun _ => mem_active_after, hlives.alive.running_iff, hlives.wanted,
    hlives.alive.bracketed, fun newer refusal older hcalls hhead => ?_,
    fun op => (lives_run hlives op).2, ?_⟩
  · exact absurd ((hlives.alive.before_start hcalls).running_iff.mpr hhead) Bool.false_ne_true
  · have hlast := (lives_run hlives .removeAll).1
    have hactive : (run (after refuses ops) .removeAll).1.active = ∅ :=
      active_removeAll (after refuses ops).1 (after refuses ops).2
    have hstopped : (run (after refuses ops) .removeAll).1.running = false :=
      running_eq_false hlast.wanted (ExtTreeSet.eq_empty_iff_size_eq_zero.mp hactive)
    revert hactive hstopped
    rcases (run (after refuses ops) .removeAll).1 with ⟨_, _⟩
    rintro rfl rfl
    rfl

end Monitoring

end FastPath
