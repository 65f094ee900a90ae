import FastPath.Proofs.Answers
import FastPath.Proofs.Deadlines
import FastPath.Service
import Mathlib.Data.List.Nodup

/-!
# Calls

Any number of callers send messages to one worker. `Deals` has all that can come about between them:
messages are accepted and refused, calls return, and the worker takes the oldest message or serves a
tick that is due, all in any order. A caller that waits for room in the queue is one that sends
later.

The worker works alone, so what callers see can be told from a serial account. `replay` does one
after another what the worker carried out, and `results` has the answers of that account. Between
any two dealings a service is `Serial`: its controller is that of the account, and every answer it
gives is one of the account or says that the service has stopped (`serial_of_deals`).
-/

namespace FastPath

/-- What happens between the callers and the worker. -/
inductive Dealing
  /-- A message is accepted under a ticket. -/
  | accepted (ticket : Nat) (op : Operation)
  /-- A message is refused. Its call ends with that. -/
  | refused (op : Operation)
  /-- The worker carries out what a message asks. -/
  | carriedOut (ticket : Nat) (op : Operation)
  /-- A message is dropped by a worker that has stopped. -/
  | dropped (ticket : Nat) (op : Operation)
  /-- A call returns. -/
  | returned (ticket : Nat) (answer : Answer)
  /-- The worker serves a tick. -/
  | tick
  /-- The worker stops because all handles are gone. -/
  | abandoned
  /-- What is around the controller changes by itself. -/
  | outside (p : Platform)

namespace Dealing

/-- What a dealing does to the controller. Only the worker does anything to it. -/
def effect : Dealing → Controller → Controller
  | carriedOut _ .shutDown, c => (c.run .shutDown).2.note .workerStopped
  | carriedOut _ op, c => (c.run op).2
  | tick, c => c.tick
  | abandoned, c => (c.note .handlesDropped).note .workerStopped
  | outside p, c => { c with platform := p }
  | _, c => c

/-- The message that is accepted. -/
def accepted? : Dealing → Option (Nat × Operation)
  | accepted t op => some (t, op)
  | _ => none

/-- The message that is carried out. -/
def carriedOut? : Dealing → Option (Nat × Operation)
  | carriedOut t op => some (t, op)
  | _ => none

/-- The message that is dropped. -/
def dropped? : Dealing → Option (Nat × Operation)
  | dropped t op => some (t, op)
  | _ => none

/-- A message leaves the queue. -/
def isTaking : Dealing → Bool
  | carriedOut .. | dropped .. => true
  | _ => false

end Dealing

/-! ## The serial account -/

/-- The controller after the dealings of the list, the latest one first, done one after another. -/
def replay (c : Controller) : List Dealing → Controller
  | [] => c
  | d :: ds => d.effect (replay c ds)

/-- What the operations of that account result in, each under the ticket of its message. -/
def results (c : Controller) : List Dealing → List (Nat × Answer)
  | [] => []
  | .carriedOut t op :: ds => (t, ((replay c ds).run op).1) :: results c ds
  | _ :: ds => results c ds

/-- The messages that the dealings are about, the oldest first. -/
def messages (f : Dealing → Option (Nat × Operation)) (ds : List Dealing) :
    List (Nat × Operation) :=
  ds.reverse.filterMap f

/-- The messages up to the first that asks for the end, which is among them. -/
def upToEnd : List (Nat × Operation) → List (Nat × Operation)
  | [] => []
  | m :: ms => m :: if m.2 = .shutDown then [] else upToEnd ms

/-- None of the messages asks for the end. -/
def Endless (ms : List (Nat × Operation)) : Prop := ∀ m ∈ ms, m.2 ≠ .shutDown

section

variable {f : Dealing → Option (Nat × Operation)} {d : Dealing} {ds : List Dealing}
  {ms ms' : List (Nat × Operation)} {c : Controller} {t : Nat} {a : Answer}

theorem messages_cons (f : Dealing → Option (Nat × Operation)) (d : Dealing) (ds : List Dealing) :
    messages f (d :: ds) = messages f ds ++ (f d).toList := by
  rw [messages, List.reverse_cons, List.filterMap_append]
  cases h : f d <;> simp [messages, h]

/-- A dealing that is not about a message leaves the messages as they are. -/
theorem messages_cons_none (h : f d = none) : messages f (d :: ds) = messages f ds := by
  rw [messages_cons, h, Option.toList_none, List.append_nil]

/-- The first request for the end cuts the messages off. -/
theorem upToEnd_append_cons (h : Endless ms) (t : Nat) :
    upToEnd (ms ++ (t, .shutDown) :: ms') = ms ++ [(t, .shutDown)] := by
  induction ms with
  | nil => rfl
  | cons m ms ih =>
    obtain ⟨hm, hms⟩ := List.forall_mem_cons.mp h
    rw [List.cons_append, upToEnd, if_neg hm, ih hms, List.cons_append]

/-- As long as nobody asks for the end, nothing is cut off. -/
theorem upToEnd_append (h : Endless ms) : upToEnd (ms ++ ms') = ms ++ upToEnd ms' := by
  induction ms with
  | nil => rfl
  | cons m ms ih =>
    obtain ⟨hm, hms⟩ := List.forall_mem_cons.mp h
    rw [List.cons_append, upToEnd, if_neg hm, ih hms, List.cons_append]

theorem Endless.concat (h : Endless ms) {op : Operation} (hop : op ≠ .shutDown) :
    Endless (ms ++ [(t, op)]) := by
  intro m hm
  rcases List.mem_append.mp hm with hm | hm
  · exact h m hm
  · rw [List.mem_singleton.mp hm]
    exact hop

/-- What was carried out has a result, and nothing else has. -/
theorem map_fst_results (c : Controller) (ds : List Dealing) :
    (results c ds).map Prod.fst =
      ((messages Dealing.carriedOut? ds).map Prod.fst).reverse := by
  induction ds with
  | nil => rfl
  | cons d ds ih =>
    rw [messages_cons, List.map_append, List.reverse_append, ← ih]
    cases d <;> rfl

theorem mem_results_iff : (∃ a, (t, a) ∈ results c ds) ↔
    ∃ op, (t, op) ∈ messages Dealing.carriedOut? ds := by
  have hmem : ∀ {α : Type} (l : List (Nat × α)), (∃ x, (t, x) ∈ l) ↔ t ∈ l.map Prod.fst := by
    simp
  rw [hmem, hmem, map_fst_results, List.mem_reverse]

/-- Nothing that is carried out results in the answer that the service has stopped. -/
theorem ne_of_mem_results (h : (t, a) ∈ results c ds) : a ≠ .error .stopped := by
  induction ds with
  | nil => cases h
  | cons d ds ih =>
    cases d with
    | carriedOut t' op =>
      rcases List.mem_cons.mp h with heq | h
      · cases heq
        exact (replay c ds).run_ne_stopped op
      · exact ih h
    | _ => exact ih h

/-- Among messages with tickets of their own, a ticket names one message. -/
theorem eq_of_nodup {α : Type} {l : List (Nat × α)} (h : (l.map Prod.fst).Nodup) {x y : α}
    (hx : (t, x) ∈ l) (hy : (t, y) ∈ l) : x = y :=
  congrArg Prod.snd (List.inj_on_of_nodup_map h hx hy rfl)

end

namespace Service

/-- Put a message into the queue. -/
def enqueue (op : Operation) (s : Service) : Service :=
  { s with queue := s.queue ++ [(s.ticket, op)], ticket := s.ticket + 1 }

/-- A service that was started with the controller `c` gets to `s` by the dealings of the list, the
latest one first. A message may slip into the queue when the worker has just stopped. Nobody has a
handle any more when the worker is abandoned, and it has taken all messages by then. Time passes,
and what is around the controller may change in any way. -/
inductive Deals (c : Controller) : List Dealing → Service → Prop
  | start : Deals c [] (start c)
  | post {ds : List Dealing} {s s' : Service} {t : Nat} (h : Deals c ds s) (op : Operation)
    (hpost : s.post op = (some t, s')) : Deals c (.accepted t op :: ds) s'
  | slip {ds : List Dealing} {s : Service} (h : Deals c ds s) (op : Operation)
    (hstopped : ¬s.worker.running) : Deals c (.accepted s.ticket op :: ds) (s.enqueue op)
  | refuse {ds : List Dealing} {s s' : Service} (h : Deals c ds s) (op : Operation)
    (hpost : s.post op = (none, s')) : Deals c (.refused op :: ds) s'
  | carryOut {ds : List Dealing} {s : Service} {t : Nat} {op : Operation}
    {rest : List (Nat × Operation)} (h : Deals c ds s) (hqueue : s.queue = (t, op) :: rest)
    (hrunning : s.worker.running) : Deals c (.carriedOut t op :: ds) s.step
  | drop {ds : List Dealing} {s : Service} {t : Nat} {op : Operation}
    {rest : List (Nat × Operation)} (h : Deals c ds s) (hqueue : s.queue = (t, op) :: rest)
    (hstopped : ¬s.worker.running) : Deals c (.dropped t op :: ds) s.step
  | fetch {ds : List Dealing} {s : Service} {t : Nat} {a : Answer} (h : Deals c ds s)
    (ha : s.answers.lookup t = some a) : Deals c (.returned t (s.fetch t).1 :: ds) (s.fetch t).2
  | tick {ds : List Dealing} {s : Service} {d : Nat} (h : Deals c ds s)
    (hd : s.worker.deadline = some d) (hdue : d ≤ s.worker.now) :
    Deals c (.tick :: ds) { s with worker := s.worker.tick }
  | abandon {ds : List Dealing} {s : Service} (h : Deals c ds s) (hqueue : s.queue = [])
    (hrunning : s.worker.running) :
    Deals c (.abandoned :: ds) { s with worker := s.worker.abandon }
  | outside {ds : List Dealing} {s : Service} (h : Deals c ds s) (p : Platform) :
    Deals c (.outside p :: ds) { s with worker := { s.worker with controller :=
      { s.worker.controller with platform := p } } }
  | pass {ds : List Dealing} {s : Service} (h : Deals c ds s) (ms : Nat) :
    Deals c ds { s with worker := { s.worker with now := s.worker.now + ms } }

/-! ## One dealing -/

/-- What a running worker is asked is done to the controller. -/
theorem controller_perform {w : Worker} {op : Operation} (t : Nat) (hrunning : w.running) :
    (w.perform op).2.controller = (Dealing.carriedOut t op).effect w.controller := by
  rw [Worker.perform_eq op hrunning]
  split
  · rename_i hop
    rw [hop]
    rfl
  · rename_i hop
    have heffect : (Dealing.carriedOut t op).effect w.controller = (w.controller.run op).2 := by
      unfold Dealing.effect
      split <;> simp_all
    rw [heffect, Worker.rearm]
    dsimp only
    split <;> rfl

/-- A worker that runs on was not asked for the end. -/
theorem ne_of_running_perform {w : Worker} {op : Operation} (hrunning : w.running)
    (hafter : (w.perform op).2.running) : op ≠ .shutDown := by
  rintro rfl
  rw [Worker.perform_eq _ hrunning] at hafter
  cases hafter

/-- A call with the ticket `t` ends with the answer `a`: what its message asks was carried out, with
this result, or the message was dropped, and the service has stopped. -/
def Outcome (c : Controller) (ds : List Dealing) (t : Nat) (a : Answer) : Prop :=
  (t, a) ∈ results c ds ∨ a = .error .stopped ∧ ∃ op, (t, op) ∈ messages Dealing.dropped? ds

/-- What holds of a service between two dealings, when it has had the dealings of the list. -/
structure Serial (c : Controller) (ds : List Dealing) (s : Service) : Prop where
  controller : s.worker.controller = replay c ds
  order : messages Dealing.accepted? ds =
    messages Dealing.carriedOut? ds ++ (messages Dealing.dropped? ds ++ s.queue)
  tickets : (messages Dealing.accepted? ds).map Prod.fst = List.range s.ticket
  working : s.worker.running →
    messages Dealing.dropped? ds = [] ∧ Endless (messages Dealing.carriedOut? ds)
  ended : Endless (messages Dealing.carriedOut? ds) ∨
    ∃ ms t, messages Dealing.carriedOut? ds = ms ++ [(t, .shutDown)] ∧ Endless ms
  answers : ∀ t a, (t, a) ∈ s.answers ↔ Outcome c ds t a ∧ ∀ a', .returned t a' ∉ ds
  returned : ∀ t a, .returned t a ∈ ds → Outcome c ds t a

variable {c : Controller} {ds : List Dealing} {s s' : Service} {d : Dealing} {t : Nat} {a : Answer}
  {op : Operation} {rest : List (Nat × Operation)}

/-- A service starts with nothing to account for. -/
theorem serial_start (c : Controller) : Serial c [] (start c) where
  controller := rfl
  order := rfl
  tickets := rfl
  working _ := ⟨rfl, nofun⟩
  ended := .inl nofun
  answers _ _ := ⟨nofun, fun h => by simp [Outcome, results, messages] at h⟩
  returned := nofun

/-- Tickets are given out once. -/
theorem Serial.nodup (h : Serial c ds s) :
    ((messages Dealing.accepted? ds).map Prod.fst).Nodup := by
  rw [h.tickets]
  exact List.nodup_range

/-- A call with an outcome has had its message taken from the queue. -/
theorem Outcome.exists_mem (h : Outcome c ds t a) :
    ∃ op, (t, op) ∈ messages Dealing.carriedOut? ds ++ messages Dealing.dropped? ds := by
  rcases h with h | ⟨-, op, h⟩
  · obtain ⟨op, h⟩ := mem_results_iff.mp ⟨a, h⟩
    exact ⟨op, List.mem_append_left _ h⟩
  · exact ⟨op, List.mem_append_right _ h⟩

/-- A message that waits has no outcome yet. -/
theorem Serial.not_outcome (h : Serial c ds s) (hqueue : s.queue = (t, op) :: rest) :
    ¬Outcome c ds t a := by
  intro houtcome
  obtain ⟨op', hmem⟩ := houtcome.exists_mem
  have hnodup := h.nodup
  rw [h.order, ← List.append_assoc, List.map_append] at hnodup
  refine (List.nodup_append.mp hnodup).2.2 t (List.mem_map.mpr ⟨_, hmem, rfl⟩) t ?_ rfl
  rw [hqueue]
  exact List.mem_cons_self

/-- So its call has not returned. -/
theorem Serial.not_returned (h : Serial c ds s) (hqueue : s.queue = (t, op) :: rest) :
    .returned t a ∉ ds :=
  fun hmem => h.not_outcome hqueue (h.returned t a hmem)

/-- Dealings that neither take a message nor return an answer keep the account. A message that is
accepted waits behind the others. -/
theorem Serial.other (h : Serial c ds s)
    (hcontroller : s'.worker.controller = d.effect s.worker.controller)
    (hqueue : s'.queue = s.queue ++ d.accepted?.toList)
    (hticket : List.range s'.ticket = List.range s.ticket ++ d.accepted?.toList.map Prod.fst)
    (hanswers : s'.answers = s.answers) (hrunning : s'.worker.running → s.worker.running)
    (hcarried : d.carriedOut? = none) (hdropped : d.dropped? = none)
    (hreturned : ∀ t a, d ≠ .returned t a) : Serial c (d :: ds) s' := by
  have hresults : results c (d :: ds) = results c ds := by
    cases d <;> first | rfl | cases hcarried
  have houtcome : ∀ t a, Outcome c (d :: ds) t a ↔ Outcome c ds t a := by
    intro t a
    rw [Outcome, hresults, messages_cons_none hdropped, Outcome]
  have hmem : ∀ t a, .returned t a ∈ d :: ds ↔ .returned t a ∈ ds := by
    intro t a
    rw [List.mem_cons, or_iff_right (hreturned t a).symm]
  refine ⟨?_, ?_, ?_, fun hrun => ?_, ?_, fun t a => ?_, fun t a => ?_⟩
  · rw [hcontroller, h.controller, replay]
  · rw [messages_cons, messages_cons_none hcarried, messages_cons_none hdropped, hqueue, h.order]
    simp only [List.append_assoc]
  · rw [messages_cons, List.map_append, h.tickets, hticket]
  · rw [messages_cons_none hcarried, messages_cons_none hdropped]
    exact h.working (hrunning hrun)
  · rw [messages_cons_none hcarried]
    exact h.ended
  · simp only [hanswers, houtcome, hmem, h.answers]
  · rw [hmem, houtcome]
    exact h.returned t a

/-- A message that is accepted waits behind the others. -/
theorem Serial.enqueue (h : Serial c ds s) (op : Operation) :
    Serial c (.accepted s.ticket op :: ds) (s.enqueue op) :=
  h.other rfl rfl List.range_succ rfl id rfl rfl nofun

/-- A message whose turn it is gets its answer. -/
theorem Serial.answers_step (h : Serial c ds s) (hqueue : s.queue = (t, op) :: rest)
    (houtcome : ∀ t' a', Outcome c (d :: ds) t' a' ↔
      t' = t ∧ a' = (s.worker.perform op).1 ∨ Outcome c ds t' a')
    (hreturned : ∀ t a, d ≠ .returned t a) :
    (∀ t' a', (t', a') ∈ s.step.answers ↔
        Outcome c (d :: ds) t' a' ∧ ∀ a'', .returned t' a'' ∉ d :: ds) ∧
      ∀ t' a', .returned t' a' ∈ d :: ds → Outcome c (d :: ds) t' a' := by
  have hmem : ∀ t a, .returned t a ∈ d :: ds ↔ .returned t a ∈ ds := by
    intro t a
    rw [List.mem_cons, or_iff_right (hreturned t a).symm]
  have hstep : s.step.answers = (t, (s.worker.perform op).1) :: s.answers := by
    rw [step, hqueue]
  refine ⟨fun t' a' => ?_, fun t' a' hret => ?_⟩
  · simp only [hstep, List.mem_cons, Prod.mk.injEq, houtcome, hmem, h.answers]
    refine ⟨?_, ?_⟩
    · rintro (⟨rfl, rfl⟩ | ⟨hold, hnot⟩)
      · exact ⟨.inl ⟨rfl, rfl⟩, fun _ => h.not_returned hqueue⟩
      · exact ⟨.inr hold, hnot⟩
    · rintro ⟨hnew | hold, hnot⟩
      · exact .inl hnew
      · exact .inr ⟨hold, hnot⟩
  · rw [hmem] at hret
    exact (houtcome t' a').mpr (.inr (h.returned t' a' hret))

/-- The worker carries out the message whose turn it is. -/
theorem Serial.carryOut (h : Serial c ds s) (hqueue : s.queue = (t, op) :: rest)
    (hrunning : s.worker.running) : Serial c (.carriedOut t op :: ds) s.step := by
  obtain ⟨hdropped, hendless⟩ := h.working hrunning
  have hdropped' : messages Dealing.dropped? (.carriedOut t op :: ds) = [] := by
    rw [messages_cons_none rfl, hdropped]
  have hcarried : messages Dealing.carriedOut? (.carriedOut t op :: ds) =
      messages Dealing.carriedOut? ds ++ [(t, op)] := messages_cons ..
  have haccepted : messages Dealing.accepted? (.carriedOut t op :: ds) =
      messages Dealing.accepted? ds := messages_cons_none rfl
  have hanswer : (s.worker.perform op).1 = ((replay c ds).run op).1 := by
    rw [Worker.perform, if_pos hrunning, ← h.controller]
  have hstep : s.step.queue = rest ∧ s.step.ticket = s.ticket ∧
      s.step.worker = (s.worker.perform op).2 := by
    rw [step, hqueue]
    exact ⟨rfl, rfl, rfl⟩
  obtain ⟨hrest, hticket, hworker⟩ := hstep
  obtain ⟨hanswers, hreturned⟩ := h.answers_step (d := .carriedOut t op) hqueue (by
    intro t' a'
    simp only [Outcome, results, hdropped', hdropped, List.mem_cons, Prod.mk.injEq, hanswer]
    exact or_assoc) nofun
  refine ⟨?_, ?_, ?_, fun hrun => ⟨hdropped', ?_⟩, ?_, hanswers, hreturned⟩
  · rw [hworker, controller_perform t hrunning, h.controller, replay]
  · rw [haccepted, hcarried, hdropped', h.order, hdropped, hqueue, hrest, List.append_assoc]
    rfl
  · rw [haccepted, hticket, h.tickets]
  · rw [hworker] at hrun
    rw [hcarried]
    exact hendless.concat (ne_of_running_perform hrunning hrun)
  · rw [hcarried]
    by_cases hop : op = .shutDown
    · exact .inr ⟨_, t, by rw [hop], hendless⟩
    · exact .inl (hendless.concat hop)

/-- A worker that has stopped drops the message whose turn it is. -/
theorem Serial.drop (h : Serial c ds s) (hqueue : s.queue = (t, op) :: rest)
    (hstopped : ¬s.worker.running) : Serial c (.dropped t op :: ds) s.step := by
  have hperform : s.worker.perform op = (.error .stopped, s.worker) := if_neg hstopped
  have hdropped : messages Dealing.dropped? (.dropped t op :: ds) =
      messages Dealing.dropped? ds ++ [(t, op)] := messages_cons ..
  have hcarried : messages Dealing.carriedOut? (.dropped t op :: ds) =
      messages Dealing.carriedOut? ds := messages_cons_none rfl
  have haccepted : messages Dealing.accepted? (.dropped t op :: ds) =
      messages Dealing.accepted? ds := messages_cons_none rfl
  have hstep : s.step.queue = rest ∧ s.step.ticket = s.ticket ∧ s.step.worker = s.worker := by
    rw [step, hqueue]
    dsimp only
    rw [hperform]
    exact ⟨rfl, rfl, rfl⟩
  obtain ⟨hrest, hticket, hworker⟩ := hstep
  obtain ⟨hanswers, hreturned⟩ := h.answers_step (d := .dropped t op) hqueue (by
    intro t' a'
    simp only [Outcome, results, hdropped, hperform, List.mem_append, List.mem_singleton,
      Prod.mk.injEq, exists_or]
    constructor
    · rintro (hold | ⟨ha, hold | ⟨_, rfl, rfl⟩⟩)
      · exact .inr (.inl hold)
      · exact .inr (.inr ⟨ha, hold⟩)
      · exact .inl ⟨rfl, ha⟩
    · rintro (⟨rfl, ha⟩ | hold | ⟨ha, hold⟩)
      · exact .inr ⟨ha, .inr ⟨op, rfl, rfl⟩⟩
      · exact .inl hold
      · exact .inr ⟨ha, .inl hold⟩) nofun
  refine ⟨?_, ?_, ?_, fun hrun => ?_, ?_, hanswers, hreturned⟩
  · rw [hworker, h.controller]
    rfl
  · rw [haccepted, hcarried, hdropped, h.order, hqueue, hrest, List.append_assoc]
    rfl
  · rw [haccepted, hticket, h.tickets]
  · rw [hworker] at hrun
    exact absurd hrun hstopped
  · rw [hcarried]
    exact h.ended

/-- A call that returns takes its answer with it. -/
theorem Serial.fetch (h : Serial c ds s) (ha : s.answers.lookup t = some a) :
    Serial c (.returned t (s.fetch t).1 :: ds) (s.fetch t).2 := by
  have hfetched : (s.fetch t).1 = a := by rw [Service.fetch, ha, Option.getD_some]
  rw [hfetched]
  have hmem : (t, a) ∈ s.answers := by
    obtain ⟨as, as', heq, -⟩ := List.lookup_eq_some_iff.mp ha
    rw [heq]
    exact List.mem_append_right _ List.mem_cons_self
  have houtcome : Outcome c ds t a := ((h.answers t a).mp hmem).1
  have hcarried : messages Dealing.carriedOut? (.returned t a :: ds) =
      messages Dealing.carriedOut? ds := messages_cons_none rfl
  have hdropped : messages Dealing.dropped? (.returned t a :: ds) =
      messages Dealing.dropped? ds := messages_cons_none rfl
  have haccepted : messages Dealing.accepted? (.returned t a :: ds) =
      messages Dealing.accepted? ds := messages_cons_none rfl
  have hsame : ∀ t' a', Outcome c (.returned t a :: ds) t' a' ↔ Outcome c ds t' a' := by
    intro t' a'
    rw [Outcome, hdropped, results, Outcome]
    exact nofun
  refine ⟨h.controller, ?_, ?_, fun hrun => ?_, ?_, fun t' a' => ?_, fun t' a' hret => ?_⟩
  · rw [haccepted, hcarried, hdropped]
    exact h.order
  · rw [haccepted]
    exact h.tickets
  · rw [hcarried, hdropped]
    exact h.working hrun
  · rw [hcarried]
    exact h.ended
  · simp only [Service.fetch, List.mem_filter, decide_eq_true_eq, hsame, h.answers, List.mem_cons,
      Dealing.returned.injEq, not_or, not_and]
    constructor
    · rintro ⟨⟨hout, hnot⟩, hne⟩
      exact ⟨hout, fun a'' => ⟨fun heq => absurd heq hne, hnot a''⟩⟩
    · rintro ⟨hout, hnot⟩
      exact ⟨⟨hout, fun a'' => (hnot a'').2⟩, fun heq => (hnot a).1 heq rfl⟩
  · rw [hsame]
    rcases List.mem_cons.mp hret with heq | hret
    · cases heq
      exact houtcome
    · exact h.returned t' a' hret

/-! ## All dealings -/

/-- A message is accepted while the worker runs, and refused without effect once it has stopped. -/
theorem post_cases (op : Operation) (s : Service) :
    s.worker.running ∧ s.post op = (some s.ticket, s.enqueue op) ∨
      ¬s.worker.running ∧ s.post op = (none, s) := by
  unfold post
  split
  · exact .inl ⟨‹_›, rfl⟩
  · exact .inr ⟨‹_›, rfl⟩

/-- A message may be accepted at any time. -/
theorem Deals.enqueue (h : Deals c ds s) (op : Operation) :
    Deals c (.accepted s.ticket op :: ds) (s.enqueue op) := by
  rcases s.post_cases op with ⟨-, hpost⟩ | ⟨hstopped, -⟩
  · exact h.post op hpost
  · exact h.slip op hstopped

/-- The account holds after any dealings. -/
theorem Deals.serial (h : Deals c ds s) : Serial c ds s := by
  induction h with
  | start => exact serial_start c
  | @post _ s _ _ _ op hpost ih =>
    rcases s.post_cases op with ⟨-, heq⟩ | ⟨-, heq⟩ <;> rw [heq] at hpost <;> cases hpost
    exact ih.enqueue op
  | slip _ op _ ih => exact ih.enqueue op
  | @refuse _ s _ _ op hpost ih =>
    rcases s.post_cases op with ⟨-, heq⟩ | ⟨-, heq⟩ <;> rw [heq] at hpost <;> cases hpost
    exact ih.other rfl (List.append_nil _).symm (List.append_nil _).symm rfl id rfl rfl nofun
  | carryOut _ hqueue hrunning ih => exact ih.carryOut hqueue hrunning
  | drop _ hqueue hstopped ih => exact ih.drop hqueue hstopped
  | fetch _ ha ih => exact ih.fetch ha
  | tick _ hd hdue ih =>
    exact ih.other rfl (List.append_nil _).symm (List.append_nil _).symm rfl id rfl rfl nofun
  | abandon _ hqueue hrunning ih =>
    rw [Worker.abandon, if_pos hrunning]
    exact ih.other rfl (List.append_nil _).symm (List.append_nil _).symm rfl nofun rfl rfl nofun
  | outside _ p ih =>
    exact ih.other rfl (List.append_nil _).symm (List.append_nil _).symm rfl id rfl rfl nofun
  | pass _ ms ih => exact { ih with }

/-- To take all messages that wait is to take the first one, and then the others. -/
theorem drain_cons (hqueue : s.queue = (t, op) :: rest) :
    s.step.queue = rest ∧ s.drain = s.step.drain := by
  have hrest : s.step.queue = rest := by rw [step, hqueue]
  refine ⟨hrest, ?_⟩
  rw [drain, drain, hqueue, hrest, List.foldl_cons]

/-- The worker can take all messages that wait. -/
theorem Deals.drain (h : Deals c ds s) :
    ∃ ds', (∀ d ∈ ds', d.isTaking) ∧ Deals c (ds' ++ ds) s.drain ∧ s.drain.queue = [] := by
  generalize hqueue : s.queue = ms
  induction ms generalizing ds s with
  | nil =>
    have hnone : s.drain = s := by rw [Service.drain, hqueue, List.foldl_nil]
    rw [hnone]
    exact ⟨[], nofun, h, hqueue⟩
  | cons m rest ih =>
    obtain ⟨hrest, hdrain⟩ := drain_cons hqueue
    obtain ⟨d, htaking, htaken⟩ : ∃ d : Dealing, d.isTaking ∧ Deals c (d :: ds) s.step := by
      by_cases hrunning : s.worker.running
      · exact ⟨_, rfl, h.carryOut hqueue hrunning⟩
      · exact ⟨_, rfl, h.drop hqueue hrunning⟩
    obtain ⟨ds', htakings, hdeals, hempty⟩ := ih htaken hrest
    rw [hdrain]
    refine ⟨ds' ++ [d], ?_, ?_, hempty⟩
    · rw [List.forall_mem_append, List.forall_mem_singleton]
      exact ⟨htakings, htaking⟩
    · rw [List.append_assoc]
      exact hdeals

/-- A call returns once the worker has taken its message. -/
theorem Deals.exists_return (h : Deals c ds s) (hmem : (t, op) ∈ messages Dealing.accepted? ds)
    (hnot : ∀ a, .returned t a ∉ ds) :
    ∃ ds' s' a, (∀ d ∈ ds', d.isTaking) ∧ Deals c (.returned t a :: (ds' ++ ds)) s' := by
  obtain ⟨ds', htakings, hdeals, hempty⟩ := h.drain
  have hserial := hdeals.serial
  have hmem' : (t, op) ∈ messages Dealing.accepted? (ds' ++ ds) := by
    rw [messages, List.reverse_append, List.filterMap_append]
    exact List.mem_append_left _ hmem
  have hnot' : ∀ a, .returned t a ∉ ds' ++ ds := by
    intro a hret
    rcases List.mem_append.mp hret with hret | hret
    · exact absurd (htakings _ hret) nofun
    · exact hnot a hret
  have houtcome : ∃ a, Outcome c (ds' ++ ds) t a := by
    rw [hserial.order, hempty, List.append_nil] at hmem'
    rcases List.mem_append.mp hmem' with hcarried | hdropped
    · obtain ⟨a, ha⟩ := mem_results_iff.mpr ⟨op, hcarried⟩
      exact ⟨a, .inl ha⟩
    · exact ⟨_, .inr ⟨rfl, op, hdropped⟩⟩
  obtain ⟨a, houtcome⟩ := houtcome
  have hanswer : (s.drain.answers.lookup t).isSome := by
    rw [List.lookup_isSome_iff]
    exact ⟨(t, a), (hserial.answers t a).mpr ⟨houtcome, hnot'⟩, beq_self_eq_true t⟩
  obtain ⟨a', ha'⟩ := Option.isSome_iff_exists.mp hanswer
  exact ⟨ds', _, _, htakings, hdeals.fetch ha'⟩

/-- What was carried out are the first messages, and all up to the end once that has come. -/
theorem Serial.carriedOut_cases (h : Serial c ds s) :
    (Endless (messages Dealing.carriedOut? ds) ∧
        messages Dealing.carriedOut? ds <+: upToEnd (messages Dealing.accepted? ds)) ∨
      messages Dealing.carriedOut? ds = upToEnd (messages Dealing.accepted? ds) := by
  rw [h.order]
  rcases h.ended with hendless | ⟨ms, t, hcarried, hendless⟩
  · rw [upToEnd_append hendless]
    exact .inl ⟨hendless, List.prefix_append ..⟩
  · right
    rw [hcarried, List.append_assoc]
    exact (upToEnd_append_cons hendless t).symm

/-- A call returns the result of its message, or it returns that the service has stopped and its
message was not carried out. -/
theorem Serial.returned_cases (h : Serial c ds s) (hret : .returned t a ∈ ds) :
    (a ≠ .error .stopped ∧ (t, a) ∈ results c ds) ∨
      (a = .error .stopped ∧ ∀ op, (t, op) ∉ messages Dealing.carriedOut? ds) := by
  rcases h.returned t a hret with hresult | ⟨ha, op, hdropped⟩
  · exact .inl ⟨ne_of_mem_results hresult, hresult⟩
  · refine .inr ⟨ha, fun op' hcarried => ?_⟩
    have hnodup := h.nodup
    rw [h.order, List.map_append, List.map_append] at hnodup
    exact (List.nodup_append.mp hnodup).2.2 t (List.mem_map.mpr ⟨_, hcarried, rfl⟩) t
      (List.mem_append_left _ (List.mem_map.mpr ⟨_, hdropped, rfl⟩)) rfl

theorem Serial.isPrefix (h : Serial c ds s) :
    messages Dealing.carriedOut? ds <+: upToEnd (messages Dealing.accepted? ds) := by
  rcases h.carriedOut_cases with ⟨-, hprefix⟩ | heq
  · exact hprefix
  · exact heq ▸ List.prefix_rfl

/-- Once the end was asked for and carried out, the worker has stopped. -/
theorem Serial.stopped (h : Serial c ds s)
    (hend : (t, .shutDown) ∈ messages Dealing.carriedOut? ds) : ¬s.worker.running :=
  fun hrunning => absurd rfl ((h.working hrunning).2 _ hend)

/-- A message has one result at most. -/
theorem Serial.eq_of_mem_results (h : Serial c ds s) {a' : Answer} (ha : (t, a) ∈ results c ds)
    (ha' : (t, a') ∈ results c ds) : a = a' := by
  have hnodup := h.nodup
  rw [h.order, List.map_append] at hnodup
  refine eq_of_nodup ?_ ha ha'
  rw [map_fst_results, List.nodup_reverse]
  exact (List.nodup_append.mp hnodup).1

/-- A call returns a result if and only if its message was carried out with it. -/
theorem Serial.returned_iff (h : Serial c ds s) (hret : .returned t a ∈ ds) {r : Answer}
    (hr : r ≠ .error .stopped) : a = r ↔ (t, r) ∈ results c ds := by
  rcases h.returned_cases hret with ⟨-, hresult⟩ | ⟨rfl, hnot⟩
  · constructor
    · rintro rfl
      exact hresult
    · exact h.eq_of_mem_results hresult
  · refine ⟨fun heq => absurd heq.symm hr, fun hresult => ?_⟩
    obtain ⟨op, hop⟩ := mem_results_iff.mp ⟨r, hresult⟩
    exact absurd hop (hnot op)

/-- A call returns that the service has stopped if and only if its message was not carried out. -/
theorem Serial.returned_stopped_iff (h : Serial c ds s) (hret : .returned t a ∈ ds) :
    a = .error .stopped ↔ ∀ op, (t, op) ∉ messages Dealing.carriedOut? ds := by
  rcases h.returned_cases hret with ⟨ha, hresult⟩ | ⟨ha, hnot⟩
  · obtain ⟨op, hop⟩ := mem_results_iff.mp ⟨a, hresult⟩
    exact ⟨fun heq => absurd heq ha, fun hnot => absurd hop (hnot op)⟩
  · exact ⟨fun _ => hnot, fun _ => ha⟩

/-- A message behind the first that asks for the end is never carried out. -/
theorem Serial.not_carriedOut (h : Serial c ds s) (hmem : (t, op) ∈ messages Dealing.accepted? ds)
    (hbehind : (t, op) ∉ upToEnd (messages Dealing.accepted? ds)) (op' : Operation) :
    (t, op') ∉ messages Dealing.carriedOut? ds := by
  intro hcarried
  have hmem' : (t, op') ∈ messages Dealing.accepted? ds := by
    rw [h.order]
    exact List.mem_append_left _ hcarried
  obtain rfl : op' = op := eq_of_nodup h.nodup hmem' hmem
  exact hbehind (h.isPrefix.subset hcarried)

/-- What callers see is what the serial account tells. The worker has carried out the messages in
the order in which they were accepted, each once, up to the first that asks for the end, and it has
left none before that one; the controller is as if they had been carried out one after another,
with the ticks between them. A call returns the result of its message if that was carried out, and
else that the service has stopped; that holds of all messages behind the first that asks for the
end, and of calls that come later, which have no effect. Every call returns once its message has
been taken. -/
theorem serial_of_deals (h : Deals c ds s) :
    s.worker.controller = replay c ds ∧
      messages Dealing.carriedOut? ds <+: upToEnd (messages Dealing.accepted? ds) ∧
      ((messages Dealing.accepted? ds).map Prod.fst).Nodup ∧
      ((∃ t, (t, .shutDown) ∈ messages Dealing.carriedOut? ds) →
        messages Dealing.carriedOut? ds = upToEnd (messages Dealing.accepted? ds) ∧
          ∀ op, s.call op = (.error .stopped, s)) ∧
      (∀ t a, .returned t a ∈ ds →
        (∀ r, r ≠ .error .stopped → (a = r ↔ (t, r) ∈ results c ds)) ∧
          (a = .error .stopped ↔ ∀ op, (t, op) ∉ messages Dealing.carriedOut? ds) ∧
          ∀ op, (t, op) ∈ messages Dealing.accepted? ds →
            (t, op) ∉ upToEnd (messages Dealing.accepted? ds) → a = .error .stopped) ∧
      ∀ t op, (t, op) ∈ messages Dealing.accepted? ds → (∀ a, .returned t a ∉ ds) →
        ∃ ds' s' a, (∀ d ∈ ds', d.isTaking) ∧ Deals c (.returned t a :: (ds' ++ ds)) s' := by
  have hserial := h.serial
  refine ⟨hserial.controller, hserial.isPrefix, hserial.nodup, fun ⟨t, hend⟩ => ⟨?_, fun op => ?_⟩,
    fun t a hret => ⟨fun r => hserial.returned_iff hret, hserial.returned_stopped_iff hret,
      fun op hmem hbehind => ?_⟩,
    fun t op hmem hnot => h.exists_return hmem hnot⟩
  · rcases hserial.carriedOut_cases with ⟨hendless, -⟩ | heq
    · exact absurd rfl (hendless _ hend)
    · exact heq
  · rcases s.post_cases op with ⟨hrunning, -⟩ | ⟨-, hpost⟩
    · exact absurd hrunning (hserial.stopped hend)
    · rw [call, hpost]
  · exact (hserial.returned_stopped_iff hret).mpr (hserial.not_carriedOut hmem hbehind)

/-! ## A service that is ended while calls wait -/

/-- The controller that is put into service. -/
def opening : Controller :=
  Controller.start .default (.tables fun _ => true) true .empty

/-- One caller starts polling, and another asks for a limit that is refused. The first is served,
and so is a tick. -/
def polled : Service :=
  let s := (start opening).enqueue (.event .startPolling)
  let s := s.enqueue (.event (.setLimit "rmnet0" (-3)))
  { s.step with worker := Worker.tick { s.step.worker with now := 5000 } }

/-- The end is asked for twice, with a question between. The worker takes all messages, and the
calls return. -/
def ended : Service :=
  let s := ((polled.enqueue .shutDown).enqueue .pollInterval).enqueue .shutDown
  ((s.step.step.step.step.fetch 1).2.fetch 3).2.fetch 4 |>.2

/-- How it came to that. -/
def dealings : List Dealing :=
  [.refused (.event .pushStats), .returned 4 (.error .stopped), .returned 3 (.error .stopped),
    .returned 1 (.error (.invalidQuota (-3))), .dropped 4 .shutDown, .dropped 3 .pollInterval,
    .carriedOut 2 .shutDown, .carriedOut 1 (.event (.setLimit "rmnet0" (-3))),
    .accepted 4 .shutDown, .accepted 3 .pollInterval, .accepted 2 .shutDown, .tick,
    .carriedOut 0 (.event .startPolling), .accepted 1 (.event (.setLimit "rmnet0" (-3))),
    .accepted 0 (.event .startPolling)]

theorem deals_ended : Deals opening dealings ended := by
  have hposted := (Deals.start (c := opening)).enqueue (.event .startPolling)
  have hpolled := ((hposted.enqueue (.event (.setLimit "rmnet0" (-3)))).carryOut rfl rfl).pass 5000
  have hticked := hpolled.tick (d := 5000) rfl (Nat.le_refl _)
  have hasked := ((hticked.enqueue .shutDown).enqueue .pollInterval).enqueue .shutDown
  have htaken := (hasked.carryOut rfl rfl).carryOut rfl rfl
  have hdropped := (htaken.drop rfl nofun).drop rfl nofun
  have hreturned := ((hdropped.fetch (t := 1) rfl).fetch (t := 3) rfl).fetch (t := 4) rfl
  exact hreturned.refuse (.event .pushStats) rfl

/-- The second request for the end and the question before it are not served, and their calls return
that the service has stopped. -/
theorem serial_of_deals_ended :
    Deals opening dealings ended ∧
      messages Dealing.carriedOut? dealings = upToEnd (messages Dealing.accepted? dealings) ∧
      (1, .error (.invalidQuota (-3))) ∈ results opening dealings ∧
      ended.call .shutDown = (.error .stopped, ended) := by
  have hrefused : .returned 1 (.error (.invalidQuota (-3))) ∈ dealings := by simp [dealings]
  obtain ⟨-, -, -, hended, hreturned, -⟩ := serial_of_deals deals_ended
  obtain ⟨hall, hcall⟩ := hended ⟨2, by decide⟩
  have hresult := ((hreturned 1 _ hrefused).1 (.error (.invalidQuota (-3))) nofun).mp rfl
  exact ⟨deals_ended, hall, hresult, hcall .shutDown⟩

end Service

end FastPath
