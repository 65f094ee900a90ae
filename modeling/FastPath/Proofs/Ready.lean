import FastPath.Proofs.Agreement
import FastPath.Proofs.Answers
import FastPath.Proofs.Calls

/-!
# Workers that are ready

A worker that runs is ready for the next message: its timer goes by the polling that was started
last, whatever it has dealt with before (`Deals.ready`). An event that is refused leaves such a
worker as it is (`Ready.perform_of_refused`), and workers that differ in their journals alone do the
same (`Agree.perform`). While no message waits, a call is what the worker makes of the operation
(`Free.call`).
-/

namespace FastPath

/-! ## Workers -/

namespace Worker

/-- The worker runs, and its timer goes by the polling that was started last. -/
structure Ready (w : Worker) : Prop where
  running : w.running
  generation : w.generation = w.controller.polling.generation

/-- The workers differ in their journals alone, and the same is seen of these. -/
structure Agree (v : View) (w₁ w₂ : Worker) : Prop where
  controller : w₁.controller.Agree v w₂.controller
  now : w₂.now = w₁.now
  deadline : w₂.deadline = w₁.deadline
  generation : w₂.generation = w₁.generation
  running : w₂.running = w₁.running

/-- Write entries into the journal, given with the latest one first. -/
def write (es : List Entry) (w : Worker) : Worker :=
  { w with controller := { w.controller with platform := w.controller.platform.write es } }

/-- The worker when it has carried out what the events ask for. -/
def carryOut (es : List Event) (w : Worker) : Worker :=
  es.foldl (fun w e => (w.perform (.event e)).2) w

variable {v : View} {w w₁ w₂ w₃ : Worker}

theorem Agree.refl (h : w.controller.platform.Discreet v) : w.Agree v w :=
  ⟨.refl h, rfl, rfl, rfl, rfl⟩

theorem Agree.symm (h : w₁.Agree v w₂) : w₂.Agree v w₁ :=
  ⟨h.controller.symm, h.now.symm, h.deadline.symm, h.generation.symm, h.running.symm⟩

theorem Agree.trans (h : w₁.Agree v w₂) (h' : w₂.Agree v w₃) : w₁.Agree v w₃ :=
  ⟨h.controller.trans h'.controller, h'.now.trans h.now, h'.deadline.trans h.deadline,
    h'.generation.trans h.generation, h'.running.trans h.running⟩

/-- What is written into both journals looks the same. -/
theorem Agree.write (h : w₁.Agree v w₂) (es es' : List Entry)
    (hes : es'.filterMap v = es.filterMap v) : (w₁.write es).Agree v (w₂.write es') := by
  refine ⟨?_, h.now, h.deadline, h.generation, h.running⟩
  obtain ⟨p, hp, hplatforms⟩ := h.controller
  refine ⟨p.write es', ?_, hplatforms.write hes⟩
  rw [Worker.write, hp]
  rfl

/-- Nothing is seen of what is written into one of the journals. -/
theorem Agree.write_right (h : w₁.Agree v w₂) (es : List Entry) (hes : es.filterMap v = []) :
    w₁.Agree v (w₂.write es) :=
  h.write [] es hes

theorem Agree.rearm (h : w₁.Agree v w₂) : w₁.rearm.Agree v w₂.rearm := by
  have hpolling := h.controller.polling
  unfold Worker.rearm
  dsimp only
  rw [hpolling, h.generation]
  split
  · exact h
  · refine ⟨h.controller, h.now, ?_, rfl, h.running⟩
    unfold nextDeadline
    rw [hpolling, h.now]

/-- Every operation is answered alike by both and keeps them in agreement. -/
theorem Agree.perform (h : w₁.Agree v w₂) (op : Operation) :
    (w₂.perform op).1 = (w₁.perform op).1 ∧ (w₁.perform op).2.Agree v (w₂.perform op).2 := by
  obtain ⟨hanswer, hcontrollers⟩ := h.controller.run op
  have hnext : Agree v { w₁ with controller := (w₁.controller.run op).2 }
      { w₂ with controller := (w₂.controller.run op).2, running := w₁.running } :=
    ⟨hcontrollers, h.now, h.deadline, h.generation, rfl⟩
  unfold Worker.perform
  rw [h.running]
  split
  · refine ⟨hanswer, ?_⟩
    dsimp only
    split
    · exact ⟨hcontrollers.note _, h.now, rfl, h.generation, rfl⟩
    · exact hnext.rearm
  · exact ⟨rfl, h⟩

theorem Ready.write (h : w.Ready) (es : List Entry) : (w.write es).Ready :=
  ⟨h.running, h.generation⟩

/-- What sets the timer keeps a running worker ready. -/
theorem ready_rearm (h : w.running) : w.rearm.Ready := by
  unfold rearm
  dsimp only
  split
  · rename_i hgeneration
    exact ⟨h, hgeneration.symm⟩
  · exact ⟨h, rfl⟩

/-- The worker is ready after each operation but the last. -/
theorem Ready.perform (h : w.Ready) (op : Operation) (hop : op ≠ .shutDown) :
    (w.perform op).2.Ready := by
  rw [perform_eq op h.running, if_neg hop]
  exact ready_rearm h.running

theorem Ready.perform_fst (h : w.Ready) (op : Operation) :
    (w.perform op).1 = (w.controller.run op).1 := by
  unfold Worker.perform
  rw [if_pos h.running]

/-- An event that is refused leaves the worker as it is. -/
theorem Ready.perform_of_refused (h : w.Ready) {e : Event} (he : (Operation.event e).IsRefused) :
    (w.perform (.event e)).2 = w := by
  rw [perform_eq _ h.running, if_neg nofun, w.controller.run_of_refused he, rearm]
  exact if_pos h.generation.symm

theorem Ready.controller_perform (h : w.Ready) (e : Event) :
    (w.perform (.event e)).2.controller = (w.controller.run (.event e)).2 := by
  rw [perform_eq _ h.running, if_neg nofun, rearm]
  dsimp only
  split <;> rfl

/-- The controller goes through the history of the events. -/
theorem Ready.controller_carryOut (h : w.Ready) (es : List Event) :
    (w.carryOut es).controller = w.controller.runAll (es.map .event) := by
  induction es generalizing w with
  | nil => rfl
  | cons e es ih =>
    have hnext := ih (h.perform (.event e) nofun)
    rw [h.controller_perform] at hnext
    exact hnext

end Worker

/-! ## Calls of a service -/

namespace Service

/-- The worker is ready, and no message waits. -/
structure Free (s : Service) : Prop where
  ready : s.worker.Ready
  queue : s.queue = []

variable {s : Service}

theorem Free.write (h : s.Free) (es : List Entry) : Free { s with worker := s.worker.write es } :=
  ⟨h.ready.write es, h.queue⟩

/-- A service whose worker runs is ready, whatever has been dealt with. -/
theorem Deals.ready {c : Controller} {ds : List Dealing} (h : Deals c ds s)
    (hrunning : s.worker.running) : s.worker.Ready := by
  refine ⟨hrunning, ?_⟩
  induction h with
  | start => rfl
  | @post _ s _ _ _ op hpost ih =>
    rcases s.post_cases op with ⟨-, heq⟩ | ⟨-, heq⟩ <;> rw [heq] at hpost <;> cases hpost
    exact ih hrunning
  | slip _ _ _ ih => exact ih hrunning
  | @refuse _ s _ _ op hpost ih =>
    rcases s.post_cases op with ⟨-, heq⟩ | ⟨-, heq⟩ <;> rw [heq] at hpost <;> cases hpost
    exact ih hrunning
  | @carryOut _ s t op rest _ hqueue hbefore ih =>
    have hworker : s.step.worker = (s.worker.perform op).2 := by rw [step, hqueue]
    rw [hworker] at hrunning ⊢
    have hready : s.worker.Ready := ⟨hbefore, ih hbefore⟩
    exact (hready.perform op (ne_of_running_perform hbefore hrunning)).generation
  | @drop _ s t op rest _ hqueue hstopped _ =>
    have hrefused : s.worker.perform op = (.error .stopped, s.worker) := if_neg hstopped
    rw [step, hqueue] at hrunning
    dsimp only at hrunning
    rw [hrefused] at hrunning
    exact absurd hrunning hstopped
  | fetch _ _ ih => exact ih hrunning
  | @tick _ s _ _ _ _ ih =>
    have hpolling := Controller.polling_run .tick s.worker.controller
    show s.worker.generation = s.worker.controller.tick.polling.generation
    rw [ih hrunning]
    exact congrArg Polling.generation hpolling.symm
  | @abandon _ s _ _ hbefore _ =>
    rw [Worker.abandon, if_pos hbefore] at hrunning
    cases hrunning
  | outside _ _ ih => exact ih hrunning
  | pass _ _ ih => exact ih hrunning

/-- While no message waits, a call is what the worker makes of the operation. -/
theorem Free.call (h : s.Free) (op : Operation) :
    ∃ s', s.call op = ((s.worker.perform op).1, s') ∧
      s'.worker = (s.worker.perform op).2 ∧ s'.queue = [] := by
  rcases s.post_cases op with ⟨-, hpost⟩ | ⟨hstopped, -⟩
  · have hqueue : (s.enqueue op).queue = [(s.ticket, op)] := by rw [enqueue, h.queue]; rfl
    obtain ⟨hempty, hdrain⟩ := drain_cons hqueue
    have hdone : (s.enqueue op).drain = (s.enqueue op).step := by
      rw [hdrain, drain, hempty, List.foldl_nil]
    have hstep : (s.enqueue op).step = { s.enqueue op with
        worker := (s.worker.perform op).2
        queue := []
        answers := (s.ticket, (s.worker.perform op).1) :: s.answers } := by
      rw [step, hqueue]
      rfl
    refine ⟨((s.enqueue op).drain.fetch s.ticket).2, ?_, ?_, ?_⟩
    · rw [Service.call, hpost]
      dsimp only
      rw [hdone, hstep, fetch, List.lookup_cons_self, Option.getD_some]
    · rw [hdone, hstep, fetch]
    · rw [hdone, hstep, fetch]
  · exact absurd h.ready.running hstopped

end Service

end FastPath
