import FastPath.Proofs.Answers
import FastPath.Proofs.Polling

/-!
# Where offload is off

Offload stays off where the configuration says so, where one of the kernel tables could not be
opened and where the daemon cannot be reached. A controller without a backend is `Inert`: it writes
nothing but notices into the journal, and it keeps nothing. Requests only ever stop polling and
change its interval (`run_eq_whileOff`), so a controller that is inert at the start is so for good
(`inert_of_lacking`).
-/

namespace FastPath

open Std

/-- An entry of the log. -/
def Entry.isNotice : Entry → Bool
  | .notice _ => true
  | _ => false

/-- What a backend is built from is not there. -/
def Source.IsLacking : Source → Prop
  | .tables opened => ∃ t, opened t = false
  | .daemon reachable => reachable = false

/-- Every table is among the six. -/
theorem TableLabel.mem_all (t : TableLabel) : t ∈ TableLabel.all := by
  cases t <;> decide

/-- No backend is chosen where offload is not wanted or what it is built from is not there. -/
theorem Source.select_eq_none {enabled : Bool} {source : Source}
    (h : enabled = false ∨ source.IsLacking) : (source.select enabled).1 = none := by
  cases enabled with
  | false => rfl
  | true =>
    obtain hlacking := h.resolve_left nofun
    cases source with
    | tables opened =>
      obtain ⟨t, ht⟩ := hlacking
      have hmissing : t ∈ missing opened := by
        rw [missing, List.mem_filter, ht]
        exact ⟨t.mem_all, rfl⟩
      unfold Source.select
      simp only [Bool.not_true, Bool.false_eq_true, if_false]
      split
      · rename_i hnone
        rw [hnone] at hmissing
        cases hmissing
      · rfl
    | daemon reachable =>
      obtain rfl : reachable = false := hlacking
      rfl

namespace Controller

/-- The controller has done nothing to the platform `p` but give notices, and keeps nothing. -/
structure Inert (p : Platform) (c : Controller) : Prop where
  backend : c.backend = none
  notices : p.Writes Entry.isNotice c.platform
  kernel : c.platform.kernel = p.kernel
  daemon : c.platform.daemon = p.daemon
  registry : c.registry = .empty
  upstreams : c.upstreams = .empty
  pendingLimits : c.pendingLimits = ∅
  polling : c.polling.on = false

variable {p : Platform} {c : Controller}

/-- A notice is nothing more. -/
theorem Inert.note (h : Inert p c) (n : Notice) : Inert p (c.note n) :=
  { h with notices := h.notices.trans (Platform.writes_push _ rfl) }

/-- Polling that is stopped was off. -/
theorem Inert.endPolling (h : Inert p c) : Inert p c.endPolling := by
  unfold Controller.endPolling
  rw [if_neg (by simp [h.polling])]
  exact { h with polling := rfl }

/-- Where offload is off, no request does anything. -/
theorem Inert.run (h : Inert p c) (op : Operation) : Inert p (c.run op).2 := by
  rw [run_eq_whileOff h.backend]
  unfold whileOff
  split
  · exact h.endPolling
  · exact h.endPolling
  · exact { h with }
  · exact h

/-- Nor do any number of them. -/
theorem Inert.runAll (h : Inert p c) (ops : List Operation) : Inert p (c.runAll ops) := by
  induction ops generalizing c with
  | nil => exact h
  | cons op ops ih => exact ih (h.run op)

/-- A configured limit is checked, and not kept. -/
theorem Inert.configureLimit (h : Inert p c) (limit : String × Quota) :
    Inert p (c.configureLimit limit) := by
  have hset : (c.setLimit limit.1 limit.2).2 = c :=
    run_eq_whileOff h.backend (.event (.setLimit ..))
  unfold Controller.configureLimit
  split <;> rename_i heq <;> rw [heq] at hset <;> obtain rfl := hset
  · exact h
  · exact h.note _

/-- Without a backend a controller starts inert, whatever limits are configured. -/
theorem inert_start {config : Config} {source : Source} (attacher : Bool) (p : Platform)
    (h : (source.select config.offloadEnabled).1 = none) :
    Inert p (start config source attacher p) := by
  have hidle : Inert p (idle p none config.pollIntervalMs attacher) :=
    ⟨rfl, .refl _ p, rfl, rfl, rfl, rfl, rfl, rfl⟩
  have hlimits : ∀ (limits : List (String × Quota)) {c : Controller}, Inert p c →
      Inert p (limits.foldl Controller.configureLimit c) := by
    intro limits
    induction limits with
    | nil => exact id
    | cons limit limits ih => exact fun hc => ih (hc.configureLimit limit)
  unfold start
  dsimp only
  rw [h]
  exact hlimits _ (hidle.note _)

/-- A controller has the backend that its source chooses, if any. -/
theorem backend_start (config : Config) (source : Source) (attacher : Bool) (p : Platform) :
    (start config source attacher p).backend = (source.select config.offloadEnabled).1 := by
  cases hselect : (source.select config.offloadEnabled).1 with
  | none => exact (inert_start attacher p hselect).backend
  | some b =>
    let chosen := (source.select config.offloadEnabled).2
    obtain ⟨q, -, hclear, -⟩ :=
      exists_attempt_clearAll b (p.note chosen) config.pollIntervalMs attacher
    have hstart : start config source attacher p =
        config.dataLimits.toList.foldl configureLimit (idle q b config.pollIntervalMs attacher) := by
      rw [← hclear]
      unfold start
      simp only [hselect]
      rfl
    have hsteps : Steps b (fun _ _ => True) _ _ :=
      closure_foldl Steps.backend_eq (fun c l => steps_configureLimit c l)
        config.dataLimits.toList (rfl : (idle q b config.pollIntervalMs attacher).backend = some b)
    rw [hstart]
    exact hsteps.backend_eq

/-- Without a backend no rule is ever kept, whatever is asked and whatever traffic there is. -/
theorem registry_undergoAll_of_none (b : Backend) (hs : List Happening) (hb : c.backend = none) :
    (c.undergoAll b hs).backend = none ∧ (c.undergoAll b hs).registry = c.registry := by
  induction hs generalizing c with
  | nil => exact ⟨hb, rfl⟩
  | cons e hs ih =>
    have he : (c.undergo b e).backend = none ∧ (c.undergo b e).registry = c.registry := by
      cases e with
      | operation op =>
        refine ⟨(run_of_none hb op).1, ?_⟩
        show (c.run op).2.registry = c.registry
        rw [run_eq_whileOff hb]
        unfold whileOff
        split
        · exact (idle_endPolling c).registry
        · exact (idle_endPolling c).registry
        · rfl
        · rfl
      | traffic i more => exact ⟨hb, rfl⟩
    obtain ⟨hbackend, hregistry⟩ := ih he.1
    exact ⟨hbackend, hregistry.trans he.2⟩

/-- Where offload is not wanted, or what it is built from is not there, nothing is ever called and
nothing is kept, whatever has been asked: there are no rules, no upstreams and no limits that wait,
and polling is off. A limit or an alert is still refused if its quota is negative and not the one
for none, and accepted otherwise. -/
theorem inert_of_lacking {config : Config} {source : Source} {attacher : Bool} {p : Platform}
    (h : config.offloadEnabled = false ∨ source.IsLacking) (ops : List Operation) :
    let c := (start config source attacher p).runAll ops
    Inert p c ∧ (∀ d, c.rulesFor d = []) ∧ ∀ q : Quota,
      let answer := if q = -1 ∨ 0 ≤ q then .ok () else .error (.invalidQuota q)
      (∀ iface, (c.setLimit iface q).1 = answer) ∧ (c.setAlert q).1 = answer := by
  intro c
  have hinert : Inert p c := (inert_start attacher p (Source.select_eq_none h)).runAll ops
  refine ⟨hinert, fun d => ?_, fun q => ⟨fun iface => ?_, ?_⟩⟩
  · rw [rulesFor, hinert.registry, Registry.rulesFor_empty]
  · rw [setLimit_answer, Quota.check_eq]
  · rw [setAlert_answer, Quota.check_eq]

/-- What is asked of a controller all the same. -/
def askedInVain : List Operation :=
  [.event (.upstreamName 100 "rmnet0"), .event (.addRule "wlan0" (sharedRule 10)),
    .event (.setLimit "rmnet0" 5000), .event (.setAlert (-3)), .event .startPolling,
    .event (.attach "wlan0" "rmnet0"), .event (.addDownstream "wlan0"), .tick, .shutDown]

/-- A source whose table of limits could not be opened. -/
def withoutLimits : Source := .tables (· ≠ .limit)

theorem isLacking_withoutLimits : withoutLimits.IsLacking :=
  ⟨.limit, rfl⟩

/-- Nothing comes of it where the table of limits could not be opened, and a limit below minus one
is refused there. -/
theorem inert_of_lacking_limits :
    withoutLimits.IsLacking ∧
      Inert .empty ((start .default withoutLimits true .empty).runAll askedInVain) ∧
      (((start .default withoutLimits true .empty).runAll askedInVain).setLimit "rmnet0" (-3)).1 =
        .error (.invalidQuota (-3)) := by
  obtain ⟨hinert, -, hanswer⟩ :=
    @inert_of_lacking .default withoutLimits true .empty (.inr isLacking_withoutLimits) askedInVain
  exact ⟨isLacking_withoutLimits, hinert, (hanswer (-3)).1 "rmnet0"⟩

end Controller

end FastPath
