import FastPath.Proofs.Polling
import FastPath.Worker

/-!
# Deadlines of the worker

A worker takes turns: it carries out what it is asked, or it serves a tick that is due. `Runs` has
all that can come about between, at any times and with anything done to the stores in the meantime;
letting time pass as `Worker.advance` does is one way (`runs_advance`). At any time between two
turns a deadline is set if and only if polling is on, and it keeps its distance from all starts and
ticks before it (`Timed`). So no tick comes too early or where it has been called off
(`tick_in_time`).

An interval that is asked for while polling is on takes effect with the next tick, which sets the
deadline after it, and not only when polling is started the next time (`deadline_of_started`).
-/

namespace FastPath

/-- What a worker can do next. -/
inductive Turn
  /-- It carries out what it is asked. -/
  | message (op : Operation)
  /-- It serves a tick. -/
  | tick
deriving DecidableEq

/-- The turn arms the timer, unless offload is off. -/
def Turn.isArming : Turn → Bool
  | .message (.event .startPolling) | .tick => true
  | .message _ => false

namespace Worker

/-- A worker gets from `w₀` to `w` by the turns of the list, each with its time, the latest one
first. A tick is served only when it is due, and nothing is carried out once the worker has stopped.
Time passes between turns, the handles may be dropped, and the stores may change in any way. -/
inductive Runs (w₀ : Worker) : List (Nat × Turn) → Worker → Prop
  | refl : Runs w₀ [] w₀
  | message {ts : List (Nat × Turn)} {w : Worker} (h : Runs w₀ ts w) (op : Operation)
    (hrunning : w.running) (hop : op ≠ .tick) :
    Runs w₀ ((w.now, .message op) :: ts) (w.perform op).2
  | tick {ts : List (Nat × Turn)} {w : Worker} {d : Nat} (h : Runs w₀ ts w)
    (hd : w.deadline = some d) (hdue : d ≤ w.now) : Runs w₀ ((w.now, .tick) :: ts) w.tick
  | pass {ts : List (Nat × Turn)} {w : Worker} (h : Runs w₀ ts w) (ms : Nat) :
    Runs w₀ ts { w with now := w.now + ms }
  | abandon {ts : List (Nat × Turn)} {w : Worker} (h : Runs w₀ ts w) : Runs w₀ ts w.abandon
  | outside {ts : List (Nat × Turn)} {w : Worker} (h : Runs w₀ ts w) (x : Stores) :
    Runs w₀ ts { w with controller := { w.controller with platform :=
      { w.controller.platform with kernel := x.kernel, daemon := x.daemon } } }

variable {w₀ w w' : Worker} {ts ts' : List (Nat × Turn)} {t d : Nat}

/-- One run may follow another. -/
theorem Runs.trans (h : Runs w₀ ts w) (h' : Runs w ts' w') : Runs w₀ (ts' ++ ts) w' := by
  induction h' with
  | refl => exact h
  | message _ op hrunning hop ih => exact ih.message op hrunning hop
  | tick _ hd hdue ih => exact ih.tick hd hdue
  | pass _ ms ih => exact ih.pass ms
  | abandon _ ih => exact ih.abandon
  | outside _ x ih => exact ih.outside x

/-- To let time pass until `t` is a run of ticks. -/
theorem runs_advanceTo (t : Nat) (w : Worker) : ∃ ts, Runs w ts (w.advanceTo t) := by
  have hpass : ∀ w : Worker, ∀ t, Runs w [] { w with now := max w.now t } := by
    intro w t
    have hmax : max w.now t = w.now + (t - w.now) := by omega
    rw [hmax]
    exact Runs.refl.pass _
  fun_induction advanceTo t w with
  | case1 w _ => exact ⟨[], hpass w t⟩
  | case2 w d hd hdue ih =>
    obtain ⟨ts, hts⟩ := ih
    have htick := (hpass w d).tick (d := d) hd (Nat.le_max_right _ _)
    exact ⟨_, htick.trans hts⟩
  | case3 w d hd hdue => exact ⟨[], hpass w t⟩

/-- To let some milliseconds pass is a run of ticks. -/
theorem runs_advance (ms : Nat) (w : Worker) : ∃ ts, Runs w ts (w.advance ms) :=
  runs_advanceTo _ w

/-! ## One turn -/

/-- A deadline is set where polling is on, and it is an interval away. -/
theorem isSome_nextDeadline (c : Controller) (now : Nat) :
    (nextDeadline c now).isSome = c.polling.on := by
  unfold nextDeadline
  split <;> simp_all

theorem le_of_nextDeadline {c : Controller} {now : Nat} (h : nextDeadline c now = some d) :
    now + minInterval ≤ d := by
  unfold nextDeadline at h
  split at h
  · obtain rfl := Option.some.inj h
    exact Nat.add_le_add_left (Nat.le_max_right _ _) now
  · cases h

/-- Where the generation of polling stays, it is not turned on or off, and not started either. -/
theorem onPolling_of_generation_eq {op : Operation} {enabled : Bool} {p : Polling}
    (h : (op.onPolling enabled p).generation = p.generation) :
    (op.onPolling enabled p).on = p.on ∧ (op = .event .startPolling → enabled = false) := by
  cases op with
  | event e =>
    cases e with
    | startPolling =>
      cases enabled with
      | true => exact absurd h (Nat.succ_ne_self _)
      | false => exact ⟨rfl, fun _ => rfl⟩
    | stopPolling => exact absurd h (Nat.succ_ne_self _)
    | _ => exact ⟨rfl, nofun⟩
  | shutDown => exact absurd h (Nat.succ_ne_self _)
  | _ => exact ⟨rfl, nofun⟩

/-- A message is carried out, and then the worker stops or sets the deadline anew where that is
called for. -/
theorem perform_eq (op : Operation) (hrunning : w.running) :
    (w.perform op).2 = if op = .shutDown
      then stop { w with controller := (w.controller.run op).2 }
      else rearm { w with controller := (w.controller.run op).2 } := by
  unfold perform
  rw [if_pos hrunning]

/-- What holds of a worker at any time between two turns, when it has taken the turns of the
list. -/
structure Timed (ts : List (Nat × Turn)) (w : Worker) : Prop where
  armed : w.running → w.deadline.isSome = w.controller.polling.on
  generation : w.running → w.generation = w.controller.polling.generation
  stopped : ¬w.running → w.deadline = none
  enabled : w.controller.PolledOnlyEnabled
  past : ∀ x ∈ ts, x.1 ≤ w.now
  apart : ∀ x ∈ ts, x.2.isArming → ∀ d, w.deadline = some d → x.1 + minInterval ≤ d
  shutDown : ∀ t, (t, .message .shutDown) ∈ ts → ¬w.running

/-- A worker starts with a deadline if polling is on by then. -/
theorem timed_start {c : Controller} (hc : c.PolledOnlyEnabled) : Timed [] (start c) where
  armed _ := isSome_nextDeadline c 0
  generation _ := rfl
  stopped h := absurd rfl h
  enabled := hc
  past := nofun
  apart := nofun
  shutDown := nofun

/-- A worker that has stopped has no deadline. -/
theorem Timed.stop (h : Timed ts w) : Timed ts w.stop where
  armed := nofun
  generation := nofun
  stopped _ := rfl
  enabled := h.enabled
  past := h.past
  apart := nofun
  shutDown _ _ := nofun

/-- A message keeps what holds of a worker. -/
theorem Timed.message (h : Timed ts w) (op : Operation) (hrunning : w.running) (hop : op ≠ .tick) :
    Timed ((w.now, .message op) :: ts) (w.perform op).2 := by
  have hpolling := Controller.polling_run op w.controller
  have henabled := h.enabled.run op
  have hpast : ∀ x ∈ (w.now, Turn.message op) :: ts, x.1 ≤ w.now := by
    rw [List.forall_mem_cons]
    exact ⟨Nat.le_refl _, h.past⟩
  rw [perform_eq op hrunning]
  split
  · exact { armed := nofun, generation := nofun, stopped := fun _ => rfl, enabled := henabled,
            past := hpast, apart := nofun, shutDown := fun _ _ => nofun }
  rename_i hend
  have hended : ∀ t, (t, .message .shutDown) ∉ (w.now, Turn.message op) :: ts := by
    intro t ht
    rcases List.mem_cons.mp ht with heq | ht
    · cases heq
      exact hend rfl
    · exact h.shutDown t ht hrunning
  unfold rearm
  dsimp only
  split
  · -- The generation is the one before, so polling has not been started or stopped.
    rename_i hgeneration
    rw [h.generation hrunning, hpolling] at hgeneration
    obtain ⟨hon, hstart⟩ := onPolling_of_generation_eq hgeneration
    refine { armed := fun _ => ?_, generation := fun _ => ?_, stopped := h.stopped,
             enabled := henabled, past := hpast, apart := ?_,
             shutDown := fun t ht => absurd ht (hended t) }
    · rw [h.armed hrunning, hpolling, hon]
    · rw [h.generation hrunning, hpolling, hgeneration]
    · rw [List.forall_mem_cons]
      refine ⟨fun harming d hd => ?_, h.apart⟩
      -- What arms the timer without effect is a start where offload is off.
      have hoff : w.controller.enabled = false := by
        cases op with
        | event e => cases e <;> first | exact hstart rfl | cases harming
        | tick => exact absurd rfl hop
        | _ => cases harming
      have hset : w.deadline.isSome := by rw [hd]; rfl
      rw [h.armed hrunning] at hset
      exact absurd (h.enabled hset) (by simp [hoff])
  · refine { armed := fun _ => isSome_nextDeadline _ _, generation := fun _ => rfl,
             stopped := fun hnot => absurd hrunning hnot, enabled := henabled, past := hpast,
             apart := fun x hx _ d hd => ?_, shutDown := fun t ht => absurd ht (hended t) }
    exact Nat.le_trans (Nat.add_le_add_right (hpast x hx) _) (le_of_nextDeadline hd)

/-- Where a deadline is set, the worker is running. -/
theorem Timed.running (h : Timed ts w) (hd : w.deadline = some d) : w.running := by
  cases hstopped : w.running with
  | true => rfl
  | false =>
    rw [h.stopped (by simp [hstopped])] at hd
    cases hd

/-- A tick keeps it. -/
theorem Timed.tick (h : Timed ts w) (hd : w.deadline = some d) :
    Timed ((w.now, .tick) :: ts) w.tick := by
  have hrunning := h.running hd
  have hpolling : w.controller.tick.polling = w.controller.polling :=
    Controller.polling_run .tick w.controller
  have hpast : ∀ x ∈ (w.now, Turn.tick) :: ts, x.1 ≤ w.now := by
    rw [List.forall_mem_cons]
    exact ⟨Nat.le_refl _, h.past⟩
  refine { armed := fun _ => isSome_nextDeadline _ _, generation := fun _ => ?_,
           stopped := fun hnot => absurd hrunning hnot, enabled := h.enabled.run .tick,
           past := hpast, apart := fun x hx _ d hd => ?_, shutDown := fun t ht => ?_ }
  · show w.generation = w.controller.tick.polling.generation
    rw [hpolling, h.generation hrunning]
  · exact Nat.le_trans (Nat.add_le_add_right (hpast x hx) _) (le_of_nextDeadline hd)
  · rcases List.mem_cons.mp ht with heq | ht
    · cases heq
    · exact h.shutDown t ht

/-! ## All turns -/

/-- It holds after any run. -/
theorem Runs.timed (h : Runs w₀ ts w) (hw₀ : Timed ts' w₀) : Timed (ts ++ ts') w := by
  induction h with
  | refl => exact hw₀
  | message _ op hrunning hop ih => exact ih.message op hrunning hop
  | tick _ hd _ ih => exact ih.tick hd
  | @pass ts w _ ms ih =>
    exact { ih with past := fun x hx => Nat.le_trans (ih.past x hx) (Nat.le_add_right w.now ms) }
  | abandon _ ih =>
    unfold Worker.abandon
    split
    · exact Timed.stop { ih with }
    · exact ih
  | outside _ x ih => exact { ih with }

/-- Between turns a worker has a deadline if and only if polling is on. A tick that is served finds
the worker running and polling on, where offload is enabled and no end was asked for, and it comes a
shortest interval or more after every start of polling and after every tick before it. -/
theorem tick_in_time {config : Config} {source : Source} {attacher : Bool} {p : Platform}
    {ops : List Operation}
    (h : Runs (start ((Controller.start config source attacher p).runAll ops)) ts w) :
    (w.running → (w.deadline.isSome ↔ w.controller.polling.on)) ∧
      ∀ d, w.deadline = some d → d ≤ w.now →
        w.running ∧ w.controller.polling.on ∧ w.controller.enabled ∧
          (∀ t, (t, .message .shutDown) ∉ ts) ∧
          ∀ t, (t, .message (.event .startPolling)) ∈ ts ∨ (t, .tick) ∈ ts → t + 5000 ≤ w.now := by
  have htimed := h.timed
    (timed_start (Controller.polledOnlyEnabled_runAll config source attacher p ops))
  rw [List.append_nil] at htimed
  refine ⟨fun hrunning => by rw [htimed.armed hrunning], fun d hd hdue => ?_⟩
  have hrunning := htimed.running hd
  have hon : w.controller.polling.on := by
    rw [← htimed.armed hrunning, hd]
    rfl
  refine ⟨hrunning, hon, htimed.enabled hon, fun t ht => htimed.shutDown t ht hrunning, ?_⟩
  rintro t (ht | ht)
  · exact Nat.le_trans (htimed.apart _ ht rfl d hd) hdue
  · exact Nat.le_trans (htimed.apart _ ht rfl d hd) hdue

/-- A worker at the start, with nothing asked yet. -/
def fresh : Worker :=
  start ((Controller.start .default (.tables fun _ => true) true .empty).runAll [])

/-- The worker once polling has been started. -/
def started : Worker := (fresh.perform (.event .startPolling)).2

/-- The worker once another interval has been asked for, a tick has been served at its time, and the
next one is due. -/
def rescheduled : Worker :=
  { Worker.tick { (started.perform (.event (.setPollInterval 8000))).2 with now := 5000 } with
    now := 13000 }

/-- What the worker did since polling was started. -/
def sinceStart : List (Nat × Turn) :=
  [(5000, .tick), (0, .message (.event (.setPollInterval 8000)))]

/-- The worker comes that far. -/
theorem runs_rescheduled : Runs started sinceStart rescheduled := by
  have hrunning : started.running = true := by decide +kernel
  have hasked := Runs.refl.message (.event (.setPollInterval 8000)) hrunning nofun
  have htick := (hasked.pass 5000).tick (d := 5000) (by decide +kernel) (by decide +kernel)
  exact htick.pass 8000

/-- The second tick is served 8000 milliseconds after the first one. -/
theorem tick_in_time_rescheduled :
    Runs fresh (sinceStart ++ [(0, .message (.event .startPolling))]) rescheduled ∧
      rescheduled.deadline = some 13000 ∧ 13000 ≤ rescheduled.now ∧
      rescheduled.controller.enabled ∧ 5000 + 5000 ≤ rescheduled.now := by
  have hrun : Runs fresh (sinceStart ++ [(0, .message (.event .startPolling))]) rescheduled :=
    (Runs.message .refl (.event .startPolling) rfl nofun).trans runs_rescheduled
  have hdeadline : rescheduled.deadline = some 13000 := by decide +kernel
  obtain ⟨-, -, henabled, -, hapart⟩ := (tick_in_time hrun).2 13000 hdeadline (Nat.le_refl _)
  exact ⟨hrun, hdeadline, Nat.le_refl _, henabled, hapart 5000 (.inr (by decide +kernel))⟩

/-! ## The interval -/

/-- The interval in milliseconds that was asked for last, or else `ms`. -/
def intervalAsked (ms : Nat) : List (Nat × Turn) → Nat
  | [] => ms
  | (_, .message (.event (.setPollInterval asked))) :: _ => effectiveInterval asked
  | _ :: ts => intervalAsked ms ts

/-- When a tick is due that was armed at `t` with the interval `ms`. Each tick since has armed the
next one with the interval that was asked for by then. -/
def dueAfter (t ms : Nat) : List (Nat × Turn) → Nat
  | [] => t + ms
  | (t', .tick) :: ts => t' + intervalAsked ms ts
  | _ :: ts => dueAfter t ms ts

/-- When the timer was armed last, which was at `t` unless there has been a tick since. -/
def lastArmed (t : Nat) : List (Nat × Turn) → Nat
  | [] => t
  | (t', .tick) :: _ => t'
  | _ :: ts => lastArmed t ts

/-- Polling was started at `t` with the interval `ms`, and the turns of the list since have neither
started nor stopped it. -/
structure Session (t ms : Nat) (ts : List (Nat × Turn)) (w : Worker) : Prop where
  on : w.running → w.controller.polling.on
  interval : w.controller.polling.interval = intervalAsked ms ts
  deadline : w.running → w.deadline = some (dueAfter t ms ts)

variable {ms : Nat}

/-- A start of polling is answered with the interval then in use, if the worker runs and offload is
on. -/
theorem started_cases (hstart : w₀.perform (.event .startPolling) = (.ok (.polling (some ms)), w)) :
    w₀.running ∧ w₀.controller.enabled ∧ w₀.controller.polling.interval = ms := by
  unfold perform at hstart
  split at hstart
  · rename_i hrunning
    have hreply : (w₀.controller.run (.event .startPolling)).1 = .ok (.polling (some ms)) :=
      (Prod.mk.inj hstart).1
    have hanswer : w₀.controller.startPolling.1 = some ms :=
      Reply.polling.inj (Except.ok.inj hreply)
    unfold Controller.startPolling at hanswer
    split at hanswer
    · rename_i henabled
      exact ⟨hrunning, henabled, Option.some.inj hanswer⟩
    · cases hanswer
  · cases (Prod.mk.inj hstart).1

/-- A start of polling that is answered with an interval begins a session. -/
theorem session_of_started (h : Timed ts w₀)
    (hstart : w₀.perform (.event .startPolling) = (.ok (.polling (some ms)), w)) :
    Session w₀.now ms [] w := by
  obtain ⟨hrunning, henabled, hms⟩ := started_cases hstart
  have hpolling : (w₀.controller.run (.event .startPolling)).2.polling =
      { w₀.controller.polling with
        on := true
        generation := w₀.controller.polling.generation + 1 } := by
    rw [Controller.polling_run, henabled]
    rfl
  have hinterval : (w₀.controller.run (.event .startPolling)).2.polling.interval = ms := by
    rw [hpolling, ← hms]
    rfl
  have hon : (w₀.controller.run (.event .startPolling)).2.polling.on := by rw [hpolling]
  have hgeneration : (w₀.controller.run (.event .startPolling)).2.polling.generation ≠
      w₀.generation := by
    rw [hpolling, h.generation hrunning]
    exact Nat.succ_ne_self _
  have hperform := perform_eq (.event .startPolling) hrunning
  rw [hstart, if_neg nofun, rearm, if_neg hgeneration] at hperform
  obtain rfl := hperform
  refine ⟨fun _ => hon, hinterval, fun _ => ?_⟩
  show nextDeadline _ w₀.now = some (w₀.now + ms)
  rw [nextDeadline, if_pos hon, hinterval]

/-- What neither starts nor stops polling may ask for another interval, and no more. -/
theorem onPolling_of_ne {op : Operation} (enabled : Bool) (p : Polling)
    (hstart : op ≠ .event .startPolling) (hstop : op ≠ .event .stopPolling)
    (hend : op ≠ .shutDown) :
    op.onPolling enabled p = { p with configuredMs := (op.onPolling enabled p).configuredMs } := by
  cases op with
  | event e =>
    cases e with
    | startPolling => exact absurd rfl hstart
    | stopPolling => exact absurd rfl hstop
    | _ => rfl
  | shutDown => exact absurd rfl hend
  | _ => rfl

/-- The interval in use is the one that was asked for last. -/
theorem interval_onPolling {op : Operation} {enabled : Bool} {p : Polling}
    (h : p.interval = intervalAsked ms ts) :
    (op.onPolling enabled p).interval = intervalAsked ms ((t, .message op) :: ts) := by
  cases op with
  | event e =>
    cases e with
    | startPolling => cases enabled <;> exact h
    | setPollInterval asked => rfl
    | _ => exact h
  | _ => exact h

/-- A session goes on with every message that neither starts nor stops polling. -/
theorem Session.message (h : Session t ms ts w) (htimed : Timed ts' w) (op : Operation)
    (hrunning : w.running) (hstart : op ≠ .event .startPolling) (hstop : op ≠ .event .stopPolling) :
    Session t ms ((w.now, .message op) :: ts) (w.perform op).2 := by
  have hpolling := Controller.polling_run op w.controller
  have hinterval : (w.controller.run op).2.polling.interval =
      intervalAsked ms ((w.now, .message op) :: ts) := by
    rw [hpolling]
    exact interval_onPolling h.interval
  rw [perform_eq op hrunning]
  split
  · exact ⟨nofun, hinterval, nofun⟩
  · rename_i hend
    rw [onPolling_of_ne _ _ hstart hstop hend] at hpolling
    have hgeneration : (w.controller.run op).2.polling.generation = w.generation := by
      rw [hpolling, htimed.generation hrunning]
    have hon : (w.controller.run op).2.polling.on = w.controller.polling.on := by rw [hpolling]
    unfold rearm
    dsimp only
    rw [if_pos hgeneration]
    exact ⟨fun _ => hon.trans (h.on hrunning), hinterval, h.deadline⟩

/-- It goes on with a tick, which arms the timer with the interval that was asked for by then. -/
theorem Session.tick (h : Session t ms ts w) (hrunning : w.running) :
    Session t ms ((w.now, .tick) :: ts) w.tick := by
  have hpolling : w.controller.tick.polling = w.controller.polling :=
    Controller.polling_run .tick w.controller
  have hon : w.controller.tick.polling.on := by
    rw [hpolling]
    exact h.on hrunning
  refine ⟨fun _ => hon, ?_, fun _ => ?_⟩
  · show w.controller.tick.polling.interval = intervalAsked ms ts
    rw [hpolling, h.interval]
  · show nextDeadline w.controller.tick w.now = some (w.now + intervalAsked ms ts)
    rw [nextDeadline, if_pos hon, hpolling, h.interval]

/-- A session lasts as long as polling is neither started nor stopped and the worker runs. -/
theorem Runs.session (hafter : Runs w₀ ts w) (hw₀ : Timed ts' w₀) (h : Session t ms [] w₀)
    (hkeeps : ∀ x ∈ ts, x.2 ≠ .message (.event .startPolling) ∧
      x.2 ≠ .message (.event .stopPolling)) : Session t ms ts w := by
  induction hafter with
  | refl => exact h
  | message hrun op hrunning hop ih =>
    rw [List.forall_mem_cons] at hkeeps
    exact (ih hkeeps.2).message (hrun.timed hw₀) op hrunning (fun heq => hkeeps.1.1 (by rw [heq]))
      fun heq => hkeeps.1.2 (by rw [heq])
  | tick hrun hd _ ih =>
    rw [List.forall_mem_cons] at hkeeps
    exact (ih hkeeps.2).tick ((hrun.timed hw₀).running hd)
  | pass _ ms ih => exact { ih hkeeps with }
  | abandon _ ih =>
    unfold Worker.abandon
    split
    · exact { on := nofun, interval := (ih hkeeps).interval, deadline := nofun }
    · exact ih hkeeps
  | outside _ x ih => exact { ih hkeeps with }

/-- Where no interval is asked for, the one that was used stays. -/
theorem intervalAsked_eq
    (h : ∀ x ∈ ts, ∀ asked, x.2 ≠ .message (.event (.setPollInterval asked))) :
    intervalAsked ms ts = ms := by
  induction ts with
  | nil => rfl
  | cons x ts ih =>
    rw [List.forall_mem_cons] at h
    unfold intervalAsked
    split
    · rename_i heq
      cases heq
    · rename_i heq
      cases heq
      exact absurd rfl (h.1 _)
    · rename_i heq
      cases heq
      exact ih h.2

/-- Without another interval asked for, the timer is armed with the one of the start. -/
theorem dueAfter_eq (h : ∀ x ∈ ts, ∀ asked, x.2 ≠ .message (.event (.setPollInterval asked))) :
    dueAfter t ms ts = lastArmed t ts + ms := by
  induction ts with
  | nil => rfl
  | cons x ts ih =>
    rw [List.forall_mem_cons] at h
    obtain ⟨t', turn⟩ := x
    cases turn with
    | message op => exact ih h.2
    | tick =>
      show t' + intervalAsked ms ts = t' + ms
      rw [intervalAsked_eq h.2]

/-- After polling was started, and as long as it is neither started nor stopped, the deadline is at
the time of the start or of the last tick, plus the interval that was asked for by then. Only if no
interval has been asked for since the start is that the one that the start returned. -/
theorem deadline_of_started {config : Config} {source : Source} {attacher : Bool} {p : Platform}
    {ops : List Operation} {before after : List (Nat × Turn)} {w₁ : Worker}
    (hbefore : Runs (start ((Controller.start config source attacher p).runAll ops)) before w₀)
    (hstart : w₀.perform (.event .startPolling) = (.ok (.polling (some ms)), w₁))
    (hafter : Runs w₁ after w)
    (hkeeps : ∀ x ∈ after, x.2 ≠ .message (.event .startPolling) ∧
      x.2 ≠ .message (.event .stopPolling)) (hrunning : w.running) :
    w.deadline = some (dueAfter w₀.now ms after) ∧
      ((∀ x ∈ after, ∀ asked, x.2 ≠ .message (.event (.setPollInterval asked))) →
        w.deadline = some (lastArmed w₀.now after + ms)) := by
  have hw₀ := hbefore.timed
    (timed_start (Controller.polledOnlyEnabled_runAll config source attacher p ops))
  have hw₁ := hw₀.message (.event .startPolling) (started_cases hstart).1 nofun
  rw [hstart] at hw₁
  have hsession := hafter.session hw₁ (session_of_started hw₀ hstart) hkeeps
  have hdeadline := hsession.deadline hrunning
  refine ⟨hdeadline, fun hnone => ?_⟩
  rw [hdeadline, dueAfter_eq hnone]

/-- Polling starts with the shortest interval. -/
theorem perform_fresh :
    fresh.perform (.event .startPolling) = (.ok (.polling (some 5000)), started) :=
  Prod.ext rfl rfl

/-- After another interval was asked for, the tick sets the next deadline with that one. -/
theorem deadline_of_started_rescheduled :
    fresh.perform (.event .startPolling) = (.ok (.polling (some 5000)), started) ∧
      Runs started sinceStart rescheduled ∧
      rescheduled.deadline = some (dueAfter 0 5000 sinceStart) ∧
      dueAfter 0 5000 sinceStart = 13000 := by
  have hdeadline :=
    (deadline_of_started .refl perform_fresh runs_rescheduled (by decide) (by decide +kernel)).1
  exact ⟨perform_fresh, runs_rescheduled, hdeadline, by decide +kernel⟩

/-- So a session does not keep the interval that it was started with: the deadline that a tick sets
may be another one. -/
theorem deadline_ne_of_rescheduled :
    ∃ before after w₀ w₁ w ms, Runs fresh before w₀ ∧
      w₀.perform (.event .startPolling) = (.ok (.polling (some ms)), w₁) ∧ Runs w₁ after w ∧
      (∀ x ∈ after, x.2 ≠ .message (.event .startPolling) ∧
        x.2 ≠ .message (.event .stopPolling)) ∧
      w.running ∧ w.deadline ≠ some (lastArmed w₀.now after + ms) := by
  refine ⟨[], sinceStart, fresh, started, rescheduled, 5000, .refl, perform_fresh,
    runs_rescheduled, by decide, by decide +kernel, ?_⟩
  have hdeadline : rescheduled.deadline = some 13000 := by decide +kernel
  have hlast : lastArmed fresh.now sinceStart + 5000 = 10000 := by decide +kernel
  rw [hdeadline, hlast]
  decide

end Worker

end FastPath
