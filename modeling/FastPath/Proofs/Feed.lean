import FastPath.Feed
import FastPath.Proofs.Lines
import FastPath.Proofs.Ready

/-!
# A feed as a fold over its lines

A feed that is served while nobody else asks for anything carries out the events on its lines, one
after another, and no line ends it early. Each event stands for one operation of the controller
(`Controller.follow`). Only the log tells of the lines that hold no event, or one that is refused,
and only there are lines known by their numbers (`serveAll_folds`).
-/

namespace FastPath

open FastPath.Text

/-- All is seen but the numbers of lines. -/
def View.unnumbered : View
  | .notice (.eventSkipped _) => some (.notice (.eventSkipped 0))
  | .notice (.eventRejected _ e) => some (.notice (.eventRejected 0 e))
  | e => some e

/-- Numbers of lines are not seen. -/
structure View.Numberless (v : View) : Prop where
  skipped : ∀ m n, v (.notice (.eventSkipped m)) = v (.notice (.eventSkipped n))
  rejected : ∀ m n e, v (.notice (.eventRejected m e)) = v (.notice (.eventRejected n e))

theorem View.calls_eq_unnumbered (e : Entry) :
    View.calls e = (View.unnumbered e).bind View.calls := by
  unfold View.unnumbered
  split <;> rfl

theorem View.calls_eq_unlogged (e : Entry) : View.calls e = (View.unlogged e).bind View.calls := by
  cases e <;> rfl

theorem View.numberless_unnumbered : View.unnumbered.Numberless :=
  ⟨fun _ _ => rfl, fun _ _ _ => rfl⟩

theorem View.numberless_unlogged : View.unlogged.Numberless :=
  ⟨fun _ _ => rfl, fun _ _ _ => rfl⟩

/-! ## Events -/

namespace Controller

/-- The controller after the operation that an event stands for. -/
def follow (c : Controller) : Event → Controller
  | .upstreamName i name => c.addUpstreamName i name
  | .addRule d rule => (c.addRule d rule).2
  | .removeRule d rule => (c.removeRule d rule).2
  | .updateRules d u => c.updateRules d u
  | .clearRules d => c.clearRules d
  | .upstreamChanged d u => c.upstreamChanged d u
  | .setLimit iface q => (c.setLimit iface q).2
  | .setAlert q => (c.setAlert q).2
  | .pushStats => c.pushStats
  | .startPolling => c.startPolling.2
  | .stopPolling => c.stopPolling
  | .setPollInterval ms => c.setPollInterval ms
  | .attach internal external => c.attach ⟨internal, external⟩
  | .detach internal external => c.detach ⟨internal, external⟩
  | .addDownstream d => c.addDownstream d
  | .removeDownstream d => c.removeDownstream d
  | .dump => c

/-- Each event is carried out by its own operation. -/
theorem run_event_snd (c : Controller) (e : Event) : (c.run (.event e)).2 = c.follow e := by
  cases e <;> rfl

/-- Events are carried out one after another, each by its own operation. -/
theorem runAll_events (c : Controller) (es : List Event) :
    c.runAll (es.map .event) = es.foldl follow c := by
  rw [runAll, List.foldl_map]
  simp only [run_event_snd]

end Controller

/-! ## Lines -/

namespace Feed

instance (op : Operation) : Decidable op.IsRefused :=
  inferInstanceAs (Decidable (∃ q ∈ op.quota?, ¬q.Acceptable))

/-- What a line is read as. -/
inductive Reading
  /-- It is blank, or a remark. -/
  | blank
  /-- It is no event. -/
  | unknown
  | event (e : Event)

namespace Reading

/-- The event on a line, if there is one. -/
def event? : Reading → Option Event
  | .event e => some e
  | .blank | .unknown => none

/-- There is nothing to read on the line. -/
def isBlank : Reading → Bool
  | .blank => true
  | .unknown | .event _ => false

/-- Nothing is to be done for the line: it holds no event, or one that is refused. -/
def isIdle : Reading → Bool
  | .blank | .unknown => true
  | .event e => decide (Operation.event e).IsRefused

/-- What is refused is refused in every state, for its quota. -/
theorem isIdle_event_iff (e : Event) (c : Controller) :
    (Reading.event e).isIdle ↔ ∃ q, (c.run (.event e)).1 = .error (.invalidQuota q) := by
  rw [isIdle, decide_eq_true_iff]
  constructor
  · rintro ⟨q, hq, hnot⟩
    exact ⟨q, c.run_error_iff.mpr ⟨q, hq, hnot, rfl⟩⟩
  · rintro ⟨q, hanswer⟩
    obtain ⟨q', hq', hnot, -⟩ := c.run_error_iff.mp hanswer
    exact ⟨q', hq', hnot⟩

end Reading

/-- Read a line. -/
def read (line : String) : Reading :=
  match trim line.toList with
  | [] | '#' :: _ => .blank
  | text =>
    match Event.parse? (String.ofList text) with
    | some e => .event e
    | none => .unknown

/-- The lines of a text, each read. -/
def readings (text : String) : List Reading :=
  (linesOf text).map read

/-- What is written down about the answer to an event, the latest entry first. -/
def aftermath (number : Nat) (e : Event) : Answer → List Entry
  | .ok r =>
    (match r with
      | .text t => [.shown t]
      | _ => []) ++ ((remark e r).map Entry.notice).toList
  | .error cause => [.notice (.eventRejected number cause)]

/-- The worker when it has been asked for the event on a line. -/
def takeEvent (number : Nat) (e : Event) (w : Worker) : Worker :=
  let asked := (w.write [.notice (.event e)]).perform (.event e)
  asked.2.write (aftermath number e asked.1)

/-- The worker when the line with a number has been served. -/
def take (number : Nat) : Reading → Worker → Worker
  | .blank, w => w
  | .unknown, w => w.write [.notice (.eventSkipped number)]
  | .event e, w => takeEvent number e w

/-- The worker when all lines have been served, the first of which has the given number. -/
def takeAll : Nat → List Reading → Worker → Worker
  | _, [], w => w
  | number, r :: rs, w => takeAll (number + 1) rs (take number r w)

variable {s : Service} {w w₁ w₂ : Worker} {v : View}

/-! ## Serving a line -/

/-- A line is served as it is read. -/
theorem serveLine_eq (number : Nat) (line : String) (s : Service) :
    serveLine number line s =
      match read line with
      | .blank => (.ok (), s)
      | .unknown => (.ok (), s.note (.eventSkipped number))
      | .event e => serve number e s := by
  unfold serveLine read
  generalize trim line.toList = text
  split
  · rfl
  · rfl
  · rename_i hnil hremark
    split <;> simp_all

/-- A report goes into the journal. -/
theorem worker_report (number : Nat) (e : Event) (r : Reply) (s : Service) :
    (report e r s).worker = s.worker.write (aftermath number e (.ok r)) ∧
      (report e r s).queue = s.queue := by
  simp only [report, aftermath]
  cases remark e r <;> cases r <;> exact ⟨rfl, rfl⟩

/-- The event on a line is served in any case. -/
theorem serve_eq (h : s.Free) (number : Nat) (e : Event) :
    ∃ s', serve number e s = (.ok (), s') ∧ s'.Free ∧
      s'.worker = takeEvent number e s.worker := by
  have hnoted : (s.note (.event e)).Free := h.write [.notice (.event e)]
  obtain ⟨s', hcall, hworker, hqueue⟩ := hnoted.call (.event e)
  have hready : s'.worker.Ready := hworker ▸ hnoted.ready.perform _ nofun
  have hanswer := hnoted.ready.perform_fst (.event e)
  have htake : takeEvent number e s.worker =
      s'.worker.write (aftermath number e ((s.note (.event e)).worker.perform (.event e)).1) := by
    rw [hworker]
    rfl
  rw [htake]
  unfold serve
  rw [hcall]
  cases hresult : ((s.note (.event e)).worker.perform (.event e)).1 with
  | ok r =>
    obtain ⟨hreported, hempty⟩ := worker_report number e r s'
    refine ⟨_, rfl, ⟨?_, hempty.trans hqueue⟩, hreported⟩
    rw [hreported]
    exact hready.write _
  | error cause =>
    cases cause with
    -- The worker runs, and no operation has this answer.
    | stopped => exact absurd (hanswer.symm.trans hresult) (Controller.run_ne_stopped _ _)
    | invalidQuota q =>
      have hrejected := hready.write [.notice (.eventRejected number (.invalidQuota q))]
      exact ⟨_, rfl, ⟨hrejected, hqueue⟩, rfl⟩

/-- No line that is text ends the feed. -/
theorem serveBytes_eq (h : s.Free) (number : Nat) {line : List UInt8} {text : String}
    (htext : decodeLine line = some text) :
    ∃ s', serveBytes number line s = (.ok (), s') ∧ s'.Free ∧
      s'.worker = take number (read text) s.worker := by
  unfold serveBytes
  rw [htext]
  dsimp only
  rw [serveLine_eq]
  cases read text with
  | blank => exact ⟨s, rfl, h, rfl⟩
  | unknown => exact ⟨_, rfl, h.write [.notice (.eventSkipped number)], rfl⟩
  | event e => exact serve_eq h number e

/-- All lines are served. -/
theorem serveLines_eq (h : s.Free) (number : Nat) {raw : List (List UInt8)} {texts : List String}
    (htexts : raw.map decodeLine = texts.map some) :
    ∃ s', serveLines number raw s = (.ok (), s') ∧ s'.Free ∧
      s'.worker = takeAll number (texts.map read) s.worker := by
  induction texts generalizing number raw s with
  | nil =>
    obtain rfl := List.map_eq_nil_iff.mp htexts
    exact ⟨s, rfl, h, rfl⟩
  | cons text texts ih =>
    obtain ⟨line, raw, rfl, htext, hrest⟩ := List.map_eq_cons_iff.mp htexts
    obtain ⟨s₁, hserved, hfree, hworker⟩ := serveBytes_eq h number htext
    obtain ⟨s', hall, hfree', hworker'⟩ := ih hfree (number + 1) hrest
    refine ⟨s', ?_, hfree', ?_⟩
    · rw [serveLines, hserved]
      exact hall
    · rw [hworker', hworker]
      rfl

/-- The service when a feed has been served. -/
def after (text : String) (s : Service) : Service :=
  (serveAll text.toUTF8.toList s).2

/-- A whole feed is served. -/
theorem serveAll_eq (h : s.Free) (text : String) :
    (serveAll text.toUTF8.toList s).1 = .ok () ∧ (after text s).Free ∧
      (after text s).worker = takeAll 1 (readings text) s.worker := by
  obtain ⟨s', hserved, hfree, hworker⟩ := serveLines_eq h 1 (map_decodeLine text)
  have hafter : serveAll text.toUTF8.toList s = (.ok (), s') := hserved
  unfold after
  rw [hafter]
  exact ⟨rfl, hfree, hworker⟩

/-! ## Agreement -/

/-- An answer is followed by no call. -/
theorem filterMap_aftermath (number : Nat) (e : Event) (a : Answer) :
    (aftermath number e a).filterMap View.calls = [] := by
  cases a with
  | error => rfl
  | ok r =>
    simp only [aftermath]
    cases remark e r <;> cases r <;> rfl

theorem takeAll_append (number : Nat) (rs rs' : List Reading) (w : Worker) :
    takeAll number (rs ++ rs') w = takeAll (number + rs.length) rs' (takeAll number rs w) := by
  induction rs generalizing number w with
  | nil => rfl
  | cons r rs ih =>
    rw [List.cons_append, takeAll, takeAll, ih, List.length_cons, Nat.add_assoc,
      Nat.add_comm 1 rs.length]

theorem ready_take (h : w.Ready) (number : Nat) (r : Reading) : (take number r w).Ready := by
  cases r with
  | blank => exact h
  | unknown => exact h.write _
  | event e => exact ((h.write [.notice (.event e)]).perform (.event e) nofun).write _

/-- The same line, by any numbers, keeps workers in agreement. -/
theorem agree_take (hv : v.Numberless) (h : w₁.Agree v w₂) (m n : Nat) (r : Reading) :
    (take m r w₁).Agree v (take n r w₂) := by
  cases r with
  | blank => exact h
  | unknown =>
    refine h.write [.notice (.eventSkipped m)] [.notice (.eventSkipped n)] ?_
    rw [List.filterMap_cons, List.filterMap_cons, hv.skipped n m]
  | event e =>
    obtain ⟨hanswer, hnext⟩ := (h.write [.notice (.event e)] _ rfl).perform (.event e)
    unfold take takeEvent
    dsimp only
    rw [hanswer]
    refine hnext.write _ _ ?_
    unfold aftermath
    split
    · rfl
    · rw [List.filterMap_cons, List.filterMap_cons, hv.rejected n m]

/-- Nothing is seen of lines that are not kept. -/
def Unseen (v : View) (keep : Reading → Bool) : Prop :=
  ∀ r, keep r = false → ∀ (n : Nat) (w : Worker), w.Ready → w.controller.platform.Discreet v →
    w.Agree v (take n r w)

/-- Nothing at all is seen of blank lines. -/
theorem unseen_blank (v : View) : Unseen v (!·.isBlank) := by
  intro r hr n w _ hd
  cases r with
  | blank => exact .refl hd
  | unknown | event => cases hr

/-- Of idle lines only the log tells. -/
theorem unseen_idle : Unseen .unlogged (!·.isIdle) := by
  intro r hr n w hready hd
  cases r with
  | blank => exact .refl hd
  | unknown => exact (Worker.Agree.refl hd).write_right [.notice (.eventSkipped n)] rfl
  | event e =>
    have hidle : (Reading.event e).isIdle := by simpa using hr
    have hasked := hready.write [.notice (.event e)]
    obtain ⟨q, hanswer⟩ := (Reading.isIdle_event_iff e _).mp hidle
    have hsame := hasked.perform_of_refused (of_decide_eq_true hidle)
    unfold take takeEvent
    dsimp only
    rw [hsame, hasked.perform_fst, hanswer]
    exact ((Worker.Agree.refl hd).write_right [.notice (.event e)] rfl).write_right
      [.notice (.eventRejected n (.invalidQuota q))] rfl

/-- Lines of which nothing is seen may be left out. -/
theorem Unseen.agree_takeAll {keep : Reading → Bool} (hkeep : Unseen v keep) (hv : v.Numberless)
    (rs : List Reading) (m n : Nat) (hready : w₁.Ready) (h : w₁.Agree v w₂) :
    (takeAll m rs w₁).Agree v (takeAll n (rs.filter keep) w₂) := by
  -- The workers go apart, and so do the numbers, wherever a line is left out.
  induction rs generalizing m n w₁ w₂ with
  | nil => exact h
  | cons r rs ih =>
    have hnext := ready_take hready m r
    cases hr : keep r with
    | true =>
      rw [List.filter_cons_of_pos hr]
      exact ih (m + 1) (n + 1) hnext (agree_take hv h m n r)
    | false =>
      rw [List.filter_cons_of_neg (ne_true_of_eq_false hr)]
      have hsame := hkeep r hr m w₁ hready h.controller.discreet
      exact ih (m + 1) n hnext (hsame.symm.trans h)

/-- Lines that are the same, but for some of which nothing is seen, are not seen to differ in their
effect. -/
theorem Unseen.agree_of_filter_eq {keep : Reading → Bool} (hkeep : Unseen v keep)
    (hv : v.Numberless) {rs rs' : List Reading} (heq : rs.filter keep = rs'.filter keep)
    (hready : w.Ready) (hd : w.controller.platform.Discreet v) :
    (takeAll 1 rs w).Agree v (takeAll 1 rs' w) := by
  have hkept := hkeep.agree_takeAll hv rs 1 1 hready (.refl hd)
  have hkept' := hkeep.agree_takeAll hv rs' 1 1 hready (.refl hd)
  rw [← heq] at hkept'
  exact hkept.trans hkept'.symm

/-- The same lines are seen to have the same effect, whatever their numbers. -/
theorem agree_takeAll_self (hv : v.Numberless) (rs : List Reading) (m n : Nat) (hready : w.Ready)
    (hd : w.controller.platform.Discreet v) : (takeAll m rs w).Agree v (takeAll n rs w) := by
  have hnone : Unseen v fun _ => true := fun _ hr => Bool.noConfusion hr
  have hall := hnone.agree_takeAll hv rs m n hready (.refl hd)
  rwa [List.filter_true] at hall

/-- The events on the lines are carried out, and calls tell of nothing else. -/
theorem agree_carryOut (rs : List Reading) (n : Nat) (h : w₁.Agree .calls w₂) :
    (w₁.carryOut (rs.filterMap Reading.event?)).Agree .calls (takeAll n rs w₂) := by
  induction rs generalizing n w₁ w₂ with
  | nil => exact h
  | cons r rs ih =>
    cases r with
    | blank => exact ih (n + 1) h
    | unknown => exact ih (n + 1) (h.write_right [.notice (.eventSkipped n)] rfl)
    | event e =>
      refine ih (n + 1) ?_
      obtain ⟨-, hnext⟩ := (h.write_right [.notice (.event e)] rfl).perform (.event e)
      exact hnext.write_right _ (filterMap_aftermath n e _)

/-! ## Feeds after one another -/

/-- A blank at the end of a line does not count. -/
theorem trim_concat (line : List Char) {c : Char} (hc : isBlank c) :
    trim (line ++ [c]) = trim line := by
  unfold trim
  rw [List.dropWhile_append]
  split
  · rename_i hblank
    rw [List.dropWhile_cons_of_pos hc, List.isEmpty_iff.mp hblank]
    rfl
  · rw [List.reverse_append, List.reverse_singleton, List.singleton_append,
      List.dropWhile_cons_of_pos hc]

/-- A carriage return at the end of a line does not count. -/
theorem read_cutReturn (line : List Char) :
    read (String.ofList (cutReturn '\r' line)) = read (String.ofList line) := by
  unfold cutReturn
  split
  · rename_i hlast
    obtain ⟨init, rfl⟩ := List.getLast?_eq_some_iff.mp hlast
    unfold read
    rw [List.dropLast_concat, String.toList_ofList, String.toList_ofList,
      trim_concat init (c := '\r') rfl]
  · rfl

/-- What comes after the last line feed is read alike where another line feed follows, unless it is
blank. -/
theorem filter_lastLine (rest : List Char) :
    ([cutReturn '\r' rest].map (read ∘ String.ofList)).filter (!·.isBlank) =
      ((lastLine rest).map (read ∘ String.ofList)).filter (!·.isBlank) := by
  rw [List.map_singleton, Function.comp_apply, read_cutReturn, lastLine]
  split
  · rename_i hempty
    rw [hempty]
    rfl
  · rfl

/-- Two texts with a line feed between them are read one after the other, blank lines aside. -/
theorem filter_readings_append (a b : String) :
    (readings (a ++ "\n" ++ b)).filter (!·.isBlank) =
      (readings a ++ readings b).filter (!·.isBlank) := by
  obtain ⟨complete, rest, hparts, hlines⟩ := exists_concat '\n' '\r' a.toList
  have htext : (a ++ "\n" ++ b).toList = a.toList ++ '\n' :: b.toList := by
    rw [String.toList_append, String.toList_append, List.append_assoc]
    rfl
  simp only [readings, linesOf, htext, linesBy_append_cons, hparts, hlines, List.map_append,
    List.map_map, List.filter_append]
  rw [← filter_lastLine rest]
  rfl

/-- One feed after the other is a feed of the lines of both. -/
theorem agree_after_after (hv : v.Numberless) (h : s.Free)
    (hd : s.worker.controller.platform.Discreet v) (a b : String) :
    (after b (after a s)).worker.Agree v (takeAll 1 (readings a ++ readings b) s.worker) := by
  obtain ⟨-, hfree, ha⟩ := serveAll_eq h a
  obtain ⟨-, -, hb⟩ := serveAll_eq hfree b
  have hd' := (agree_takeAll_self hv (readings a) 1 1 h.ready hd).symm.controller.discreet
  rw [takeAll_append, hb, ha]
  exact agree_takeAll_self hv (readings b) _ _ (ha ▸ hfree.ready) hd'

/-- The readings of lines that are kept are the kept ones of all readings. -/
theorem filter_readings (keep : Reading → Bool) (text : String) :
    (readings text).filter keep = ((linesOf text).filter fun line => keep (read line)).map read :=
  List.filter_map

/-- A feed is a fold over its valid lines. It is served to its end, and calls and state are then
what the events on its lines make of them, carried out one after another, each by its own operation
of the controller. Two feeds after one
another are a feed of the lines of both, and only the numbers of lines in the log tell them apart;
the same goes for feeds that differ in blank lines and remarks. Feeds that also differ in lines that
are no events, or in events that are refused, have the same effect but for the log. -/
theorem serveAll_folds {s : Service} (h : s.Free)
    (hd : s.worker.controller.platform.Discreet .calls) :
    (∀ text, (serveAll text.toUTF8.toList s).1 = .ok () ∧ (after text s).Free ∧
      (s.worker.carryOut ((readings text).filterMap Reading.event?)).Agree .calls
        (after text s).worker ∧
      (s.worker.controller.runAll (((readings text).filterMap Reading.event?).map .event)).Agree
        .calls (after text s).worker.controller ∧
      (((readings text).filterMap Reading.event?).foldl Controller.follow
        s.worker.controller).Agree .calls (after text s).worker.controller) ∧
    (∀ a b c, linesOf c = linesOf a ++ linesOf b →
      (after b (after a s)).worker.Agree .unnumbered (after c s).worker) ∧
    (∀ a b, (after b (after a s)).worker.Agree .unnumbered (after (a ++ "\n" ++ b) s).worker) ∧
    (∀ a b, (linesOf a).filter (fun line => !(read line).isBlank) =
        (linesOf b).filter (fun line => !(read line).isBlank) →
      (after a s).worker.Agree .unnumbered (after b s).worker) ∧
    (∀ a b, (linesOf a).filter (fun line => !(read line).isIdle) =
        (linesOf b).filter (fun line => !(read line).isIdle) →
      (after a s).worker.Agree .unlogged (after b s).worker) := by
  have hnumbered := hd.mono View.calls_eq_unnumbered
  have hlogged := hd.mono View.calls_eq_unlogged
  have hworker := fun text => (serveAll_eq h text).2.2
  refine ⟨fun text => ?_, fun a b c hlines => ?_, fun a b => ?_, fun a b hlines => ?_,
    fun a b hlines => ?_⟩
  · obtain ⟨hok, hfree, hafter⟩ := serveAll_eq h text
    have hagree := agree_carryOut (readings text) 1 (.refl hd)
    rw [← hafter] at hagree
    have hcontroller := hagree.controller
    rw [h.ready.controller_carryOut] at hcontroller
    refine ⟨hok, hfree, hagree, hcontroller, ?_⟩
    rwa [Controller.runAll_events] at hcontroller
  · have hreadings : readings c = readings a ++ readings b := by
      rw [readings, hlines, List.map_append]
      rfl
    rw [hworker c, hreadings]
    exact agree_after_after View.numberless_unnumbered h hnumbered a b
  · rw [hworker]
    have hsame := (filter_readings_append a b).symm
    exact (agree_after_after View.numberless_unnumbered h hnumbered a b).trans
      ((unseen_blank _).agree_of_filter_eq View.numberless_unnumbered hsame h.ready hnumbered)
  · rw [hworker, hworker]
    refine (unseen_blank _).agree_of_filter_eq View.numberless_unnumbered ?_ h.ready hnumbered
    rw [filter_readings, filter_readings, hlines]
  · rw [hworker, hworker]
    refine unseen_idle.agree_of_filter_eq View.numberless_unlogged ?_ h.ready hlogged
    rw [filter_readings, filter_readings, hlines]

/-- A service that has been asked to start polling and waits for messages. -/
def attended : Service :=
  (((Service.start Service.opening).enqueue (.event .startPolling)).step.fetch 0).2

/-- It has come to that by one call. -/
theorem free_attended : attended.Free := by
  have hposted := (Service.Deals.start (c := Service.opening)).enqueue (.event .startPolling)
  have hreturned := (hposted.carryOut rfl rfl).fetch (t := 0) rfl
  exact ⟨hreturned.ready rfl, rfl⟩

/-- A feed of two events. -/
def script : String :=
  "[\"set_alert\",5]\n[\"stop_polling\"]"

/-- The same with a blank line and a remark. -/
def remarked : String :=
  "\n # off\n" ++ script

/-- The same with a line that is no event, and with an alert that is refused. -/
def padded : String :=
  "off\n[\"set_alert\",-2]" ++ remarked

/-- The alert is set and polling stops, whatever stands between, and twice if that is fed twice. -/
theorem serveAll_folds_attended :
    attended.Free ∧ attended.worker.controller.platform.Discreet .calls ∧
      (serveAll padded.toUTF8.toList attended).1 = .ok () ∧
      (attended.worker.controller.runAll
          [.event (.setAlert (-2)), .event (.setAlert 5), .event .stopPolling]).Agree .calls
        (after padded attended).worker.controller ∧
      ((attended.worker.controller.setAlert (-2)).2.setAlert 5).2.stopPolling.Agree .calls
        (after padded attended).worker.controller ∧
      (after padded (after script attended)).worker.Agree .unnumbered
        (after (script ++ "\n" ++ padded) attended).worker ∧
      (after script attended).worker.Agree .unnumbered (after remarked attended).worker ∧
      (after script attended).worker.Agree .unlogged (after padded attended).worker := by
  have hdiscreet : attended.worker.controller.platform.Discreet .calls := fun _ _ _ => rfl
  obtain ⟨hfold, happend, -, hremarks, hidle⟩ := serveAll_folds free_attended hdiscreet
  obtain ⟨hok, -, -, hcalls, hfollowed⟩ := hfold padded
  have hevents : (readings padded).filterMap Reading.event? =
      [.setAlert (-2), .setAlert 5, .stopPolling] := by decide +kernel
  rw [hevents] at hcalls hfollowed
  exact ⟨free_attended, hdiscreet, hok, hcalls, hfollowed,
    happend script padded _ (by decide +kernel), hremarks script remarked (by decide +kernel),
    hidle script padded (by decide +kernel)⟩

end Feed

end FastPath
