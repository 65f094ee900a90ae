import FastPath.Controller.Operation
import FastPath.Proofs.Rests
import FastPath.Proofs.Works
import Mathlib.Logic.Relation

/-!
# Operations as sequences of steps

Most operations are made of others: rules are moved by removing and adding them one by one, and the
end of a controller is a flush of every downstream and more. `Errand` has the changes that those are
made of. `Chore` has all changes that are not taken apart any further and that neither name an
upstream nor set a limit, and `Step` has the namings and the limits as well. `steps_run` shows that
every operation of a controller with a backend is a sequence of steps. What every step preserves
thus holds after every operation.

Names of upstreams matter to some properties, so a step says which namings it may carry out. An
operation that has nothing to do with names and limits is a sequence of chores alone (`chores_run`),
and one that has nothing to do with the alert and with polling either is a sequence of errands
(`errands_run`).
-/

namespace FastPath

open Relation

/-- The operation names an upstream. An index or a name that stands for none is ignored. -/
def Operation.Names (op : Operation) (i : IfIndex) (name : String) : Prop :=
  i ≠ 0 ∧ !name.isEmpty ∧
    (op = .event (.upstreamName i name) ∨ ∃ d, op = .event (.upstreamChanged d (some ⟨i, name⟩)))

/-- The operation has nothing to do with names and limits of upstreams. -/
def Operation.isChore : Operation → Bool
  | .event (.upstreamName ..) | .event (.upstreamChanged _ (some _))
  | .event (.setLimit ..) => false
  | _ => true

/-- The operation has to do with rules, programs or the monitor, it publishes, or it only asks. -/
def Operation.isErrand : Operation → Bool
  | .event (.upstreamName ..) | .event (.upstreamChanged _ (some _)) | .event (.setLimit ..)
  | .event (.setAlert _) | .event .startPolling | .event .stopPolling
  | .event (.setPollInterval _) | .tick | .shutDown => false
  | _ => true

namespace Controller

/-- A change that leaves rules, accounts, limits and stores alone. -/
inductive Still : Controller → Controller → Prop
  | note (c : Controller) {n : Notice} (h : n.isPlain) : Still c (c.note n)
  | armAlert (c : Controller) (q : Quota) : Still c (c.armAlert q).2
  | beginPolling (c : Controller) : Still c c.beginPolling.2
  | endPolling (c : Controller) : Still c c.endPolling
  | setPollInterval (c : Controller) (ms : UInt64) : Still c (c.setPollInterval ms)
  | attach (c : Controller) (pair : Pair) : Still c (c.attach pair)
  | detach (c : Controller) (pair : Pair) : Still c (c.detach pair)
  | addDownstream (c : Controller) (d : DownstreamId) : Still c (c.addDownstream d)
  | removeDownstream (c : Controller) (d : DownstreamId) : Still c (c.removeDownstream d)

/-- One change of a controller with the backend `b` that has to do with rules, traffic that is
published, programs or the monitor. -/
inductive Errand (b : Backend) : Controller → Controller → Prop
  | install (c : Controller) (d : DownstreamId) (rule : Rule) : Errand b c (c.install b d rule).2
  | uninstall (c : Controller) (d : DownstreamId) (neighbor : Ipv6) :
    Errand b c (c.uninstall b d neighbor).2
  | forget (c : Controller) (d : DownstreamId) (h : c.rulesFor d = []) :
    Errand b c { c with registry := c.registry.forget d }
  | publish (c : Controller) : Errand b c c.publish
  | note (c : Controller) {n : Notice} (h : n.isPlain) : Errand b c (c.note n)
  | attach (c : Controller) (pair : Pair) : Errand b c (c.attach pair)
  | detach (c : Controller) (pair : Pair) : Errand b c (c.detach pair)
  | addDownstream (c : Controller) (d : DownstreamId) : Errand b c (c.addDownstream d)
  | removeDownstream (c : Controller) (d : DownstreamId) : Errand b c (c.removeDownstream d)

/-- One change of a controller with the backend `b` that neither names an upstream nor sets a
limit. -/
inductive Chore (b : Backend) : Controller → Controller → Prop
  | install (c : Controller) (d : DownstreamId) (rule : Rule) : Chore b c (c.install b d rule).2
  | uninstall (c : Controller) (d : DownstreamId) (neighbor : Ipv6) :
    Chore b c (c.uninstall b d neighbor).2
  | forget (c : Controller) (d : DownstreamId) (h : c.rulesFor d = []) :
    Chore b c { c with registry := c.registry.forget d }
  | poll (c : Controller) : Chore b c (c.poll b)
  | publish (c : Controller) : Chore b c c.publish
  | still {c c' : Controller} (h : Still c c') : Chore b c c'

/-- One change of a controller with the backend `b`, which names upstreams as `names` allows. -/
inductive Step (b : Backend) (names : IfIndex → String → Prop) : Controller → Controller → Prop
  | chore {c c' : Controller} (h : Chore b c c') : Step b names c c'
  | nameUpstream (c : Controller) (i : IfIndex) (name : String)
    (h : i ≠ 0 → !name.isEmpty → names i name) : Step b names c (c.nameUpstream b i name)
  | limit (c : Controller) (iface : String) (q : Quota) : Step b names c (c.limit b iface q).2

/-- Any number of errands. -/
abbrev Errands (b : Backend) : Controller → Controller → Prop :=
  ReflTransGen (Errand b)

/-- Any number of chores. -/
abbrev Chores (b : Backend) : Controller → Controller → Prop :=
  ReflTransGen (Chore b)

/-- Any number of steps. -/
abbrev Steps (b : Backend) (names : IfIndex → String → Prop) : Controller → Controller → Prop :=
  ReflTransGen (Step b names)

variable {b : Backend} {names : IfIndex → String → Prop} {c c' : Controller}

/-- An errand is a chore. -/
theorem Errand.chore (h : Errand b c c') : Chore b c c' := by
  cases h with
  | install d rule => exact .install c d rule
  | uninstall d n => exact .uninstall c d n
  | forget d h => exact .forget c d h
  | publish => exact .publish c
  | note h => exact .still (.note c h)
  | attach pair => exact .still (.attach c pair)
  | detach pair => exact .still (.detach c pair)
  | addDownstream d => exact .still (.addDownstream c d)
  | removeDownstream d => exact .still (.removeDownstream c d)

/-- Errands are chores. -/
theorem Errands.chores (h : Errands b c c') : Chores b c c' :=
  ReflTransGen.mono (fun _ _ => Errand.chore) _ _ h

/-- Chores are steps. -/
theorem Chores.steps (h : Chores b c c') : Steps b names c c' :=
  ReflTransGen.mono (fun _ _ => Step.chore) _ _ h

/-- A still change leaves a controller idle. -/
theorem Still.idle (h : Still c c') : Idle c c' := by
  cases h with
  | note h => exact idle_note c (Notice.isMinor_of_isPlain h)
  | armAlert q => exact idle_armAlert q c
  | beginPolling => exact idle_beginPolling c
  | endPolling => exact idle_endPolling c
  | setPollInterval ms => exact idle_setPollInterval ms c
  | attach pair => exact idle_changeAttachments (Attachments.aside_attach pair) c
  | detach pair => exact idle_changeAttachments (Attachments.aside_detach pair) c
  | addDownstream d => exact idle_changeMonitoring (Monitoring.aside_add d) c
  | removeDownstream d => exact idle_changeMonitoring (Monitoring.aside_remove d) c

/-! ## The backend stays -/

theorem backend_install (b : Backend) (d : DownstreamId) (rule : Rule) (c : Controller) :
    (c.install b d rule).2.backend = c.backend := by
  rcases install_cases b d rule c with ⟨p, h, -⟩ | ⟨-, p, q, -, -, h⟩ <;> rw [h]

theorem backend_uninstall (b : Backend) (d : DownstreamId) (n : Ipv6) (c : Controller) :
    (c.uninstall b d n).2.backend = c.backend := by
  rcases uninstall_cases b d n c with ⟨p, h, -⟩ | ⟨rule, -, p, q, -, -, h⟩ <;> rw [h]
  obtain ⟨p', -, h | ⟨-, q', -, h⟩⟩ := release_cases b rule.upstream
    { c with platform := q, registry := c.registry.erase d n } <;> rw [h]

/-- A chore keeps the backend. -/
theorem Chore.backend_eq (h : Chore b c c') : c'.backend = c.backend := by
  cases h with
  | install d rule => exact backend_install b d rule c
  | uninstall d n => exact backend_uninstall b d n c
  | forget => rfl
  | poll => rcases poll_cases b c with h | ⟨p, -, h⟩ <;> exact h.backend
  | publish =>
    obtain ⟨p, h, -⟩ := publish_cases c
    rw [h]
  | still h => exact h.idle.backend

/-- A step keeps the backend. -/
theorem Step.backend_eq (h : Step b names c c') : c'.backend = c.backend := by
  cases h with
  | chore h => exact h.backend_eq
  | nameUpstream i name =>
    rcases nameUpstream_cases b i name c with h | ⟨-, -, h⟩ <;> exact h.backend
  | limit iface q => exact (rests_limit iface q c).backend

/-- Any number of chores keep the backend. -/
theorem Chores.backend_eq (h : Chores b c c') : c'.backend = c.backend := by
  induction h with
  | refl => rfl
  | tail _ h ih => exact h.backend_eq.trans ih

/-- Any number of errands keep the backend. -/
theorem Errands.backend_eq (h : Errands b c c') : c'.backend = c.backend :=
  h.chores.backend_eq

/-- Any number of steps keep the backend. -/
theorem Steps.backend_eq (h : Steps b names c c') : c'.backend = c.backend := by
  induction h with
  | refl => rfl
  | tail _ h ih => exact h.backend_eq.trans ih

/-! ## Sequences -/

section

variable {R : Controller → Controller → Prop}

/-- A change that needs the backend is a sequence if it is one with the backend. -/
theorem closure_withBackend {f : Backend → Controller → Controller} (hb : c.backend = some b)
    (hf : ReflTransGen R c (f b c)) : ReflTransGen R c (c.withBackend f) := by
  rwa [withBackend, hb]

/-- Sequences, one for each element of a list, make one sequence. -/
theorem closure_foldl {f : Controller → α → Controller}
    (hbackend : ∀ {c c'}, ReflTransGen R c c' → c'.backend = c.backend)
    (hf : ∀ c a, c.backend = some b → ReflTransGen R c (f c a)) (l : List α)
    (hb : c.backend = some b) : ReflTransGen R c (l.foldl f c) := by
  induction l generalizing c with
  | nil => exact .refl
  | cons a l ih =>
    have h : ReflTransGen R c (f c a) := hf c a hb
    have hb' : (f c a).backend = some b := (hbackend h).trans hb
    exact h.trans (ih hb')

end

/-- Rules are removed one by one. -/
theorem errands_uninstallEach (d : DownstreamId) (rules : List Rule) (c : Controller) :
    Errands b c (uninstallEach b d rules c).2 := by
  induction rules generalizing c with
  | nil => exact .refl
  | cons rule rules ih => exact .head (.uninstall c d rule.neighbor) (ih _)

/-- Rules are moved by removing them all and adding them again. -/
theorem errands_rebind (d : DownstreamId) (u : IfIndex) (hb : c.backend = some b) :
    Errands b c (c.rebind b d u) := by
  unfold rebind
  -- Without rules there is only a notice.
  split
  · exact .single (.note c rfl)
  · have h : Errands b c (uninstallEach b d (c.rulesFor d) c).2 := errands_uninstallEach d _ c
    have hb' : (uninstallEach b d (c.rulesFor d) c).2.backend = some b := h.backend_eq.trans hb
    exact h.trans (closure_foldl Errands.backend_eq
      (fun c rule _ => .single (.install c d (rule.onUpstream u))) _ hb')

/-- A downstream is forgotten only once its rules have been removed. -/
theorem errands_flush (d : DownstreamId) (c : Controller) : Errands b c (c.flush b d) := by
  unfold flush
  have h : Errands b c (uninstallEach b d (c.rulesFor d) c).2 := errands_uninstallEach d _ c
  dsimp only
  split
  · rename_i hnil
    exact h.tail (.forget _ d hnil)
  · exact h.tail (.note _ rfl)

/-! ## Operations -/

variable (c)

theorem errands_updateRules (d : DownstreamId) (u : IfIndex) (hb : c.backend = some b) :
    Errands b c (c.updateRules d u) :=
  closure_withBackend hb (errands_rebind d u hb)

theorem errands_clearRules (d : DownstreamId) (hb : c.backend = some b) :
    Errands b c (c.clearRules d) :=
  closure_withBackend hb (errands_flush d c)

theorem errands_pushStats (hb : c.backend = some b) : Errands b c c.pushStats :=
  closure_withBackend hb (.single (.publish c))

/-- Pairs are detached one by one. -/
theorem changeAttachments_detachAll : c.changeAttachments Attachments.detachAll =
    c.attachments.pairs.toList.foldl (fun c pair => c.detach pair) c := by
  have hfold : ∀ (pairs : List Pair) (c : Controller),
      c.changeAttachments (fun a p =>
        pairs.foldl (fun x pair => Attachments.detach pair x.1 x.2) (a, p)) =
          pairs.foldl (fun c pair => c.detach pair) c := by
    intro pairs
    induction pairs with
    | nil =>
      intro c
      unfold changeAttachments withBackend
      split <;> rfl
    | cons pair pairs ih =>
      intro c
      rw [List.foldl_cons, ← ih]
      unfold detach changeAttachments withBackend
      split
      · rename_i hb
        simp only [hb, List.foldl_cons]
      · rename_i hb
        simp only [hb]
  rw [← hfold]
  unfold changeAttachments withBackend
  split <;> rfl

/-- Downstreams stop to be monitored one by one. -/
theorem changeMonitoring_removeAll : c.changeMonitoring Monitoring.removeAll =
    c.monitoring.active.toList.foldl (fun c d => c.removeDownstream d) c := by
  have hfold : ∀ (ds : List DownstreamId) (c : Controller),
      c.changeMonitoring (fun m p =>
        ds.foldl (fun x d => Monitoring.remove d x.1 x.2) (m, p)) =
          ds.foldl (fun c d => c.removeDownstream d) c := by
    intro ds
    induction ds with
    | nil =>
      intro c
      unfold changeMonitoring withBackend
      split <;> rfl
    | cons d ds ih =>
      intro c
      rw [List.foldl_cons, ← ih]
      unfold removeDownstream changeMonitoring withBackend
      split
      · rename_i hb
        simp only [hb, List.foldl_cons]
      · rename_i hb
        simp only [hb]
  rw [← hfold]
  unfold changeMonitoring withBackend
  split <;> rfl

theorem errands_detachAll (hb : c.backend = some b) :
    Errands b c (c.changeAttachments Attachments.detachAll) := by
  rw [changeAttachments_detachAll]
  exact closure_foldl Errands.backend_eq (fun c pair _ => .single (.detach c pair)) _ hb

theorem errands_removeAll (hb : c.backend = some b) :
    Errands b c (c.changeMonitoring Monitoring.removeAll) := by
  rw [changeMonitoring_removeAll]
  exact closure_foldl Errands.backend_eq (fun c d _ => .single (.removeDownstream c d)) _ hb

/-- Once polling is stopped, the end flushes every downstream, then publishes, and takes down the
rest. -/
theorem errands_shutDown (hb : c.backend = some b) : Errands b c.stopPolling c.shutDown := by
  have hb' : c.stopPolling.backend = some b := (idle_endPolling c).backend.trans hb
  refine closure_withBackend hb' ?_
  have hflush : Errands b c.stopPolling _ :=
    closure_foldl Errands.backend_eq (fun c d => errands_clearRules c d)
      c.stopPolling.registry.downstreams hb'
  have hpush := hflush.trans (errands_pushStats _ ((Errands.backend_eq hflush).trans hb'))
  have hdetach := hpush.trans (errands_detachAll _ ((Errands.backend_eq hpush).trans hb'))
  have hremove := hdetach.trans (errands_removeAll _ ((Errands.backend_eq hdetach).trans hb'))
  exact hremove.tail (.note _ rfl)

/-- The end is a sequence of chores. -/
theorem chores_shutDown (hb : c.backend = some b) : Chores b c c.shutDown :=
  .head (.still (.endPolling c)) (errands_shutDown c hb).chores

/-- An operation on rules, programs or the monitor, a publication or a question is a sequence of
errands. -/
theorem errands_run {op : Operation} (hop : op.isErrand) (hb : c.backend = some b) :
    Errands b c (c.run op).2 := by
  cases op with
  | event e =>
    cases e with
    | addRule d rule =>
      show Errands b c (c.addRule d rule).2
      rw [addRule, hb]
      exact .single (.install c d rule)
    | removeRule d rule =>
      show Errands b c (c.removeRule d rule).2
      rw [removeRule, hb]
      exact .single (.uninstall c d rule.neighbor)
    | updateRules d u => exact errands_updateRules c d u hb
    | clearRules d => exact errands_clearRules c d hb
    | upstreamChanged d u =>
      cases u with
      | none => exact errands_clearRules c d hb
      | some info => cases hop
    | pushStats => exact errands_pushStats c hb
    | attach internal external => exact .single (.attach c _)
    | detach internal external => exact .single (.detach c _)
    | addDownstream d => exact .single (.addDownstream c d)
    | removeDownstream d => exact .single (.removeDownstream c d)
    | dump => exact .refl
    | _ => cases hop
  | rulesFor d => exact .refl
  | pollInterval => exact .refl
  | tick => cases hop
  | shutDown => cases hop

/-- An operation that has nothing to do with names and limits is a sequence of chores. -/
theorem chores_run {op : Operation} (hop : op.isChore) (hb : c.backend = some b) :
    Chores b c (c.run op).2 := by
  by_cases herrand : op.isErrand
  · exact (errands_run c herrand hb).chores
  -- What is left has to do with the alert or with polling.
  cases op with
  | event e =>
    cases e with
    | setAlert q =>
      show Chores b c (c.setAlert q).2
      rw [setAlert, enabled, hb]
      exact .single (.still (.armAlert c q))
    | startPolling =>
      show Chores b c c.startPolling.2
      rw [startPolling, enabled, hb]
      exact .single (.still (.beginPolling c))
    | stopPolling => exact .single (.still (.endPolling c))
    | setPollInterval ms => exact .single (.still (.setPollInterval c ms))
    | upstreamChanged d u =>
      cases u with
      | none => exact absurd rfl herrand
      | some info => cases hop
    | upstreamName i name => cases hop
    | setLimit iface q => cases hop
    | _ => exact absurd rfl herrand
  | tick => exact closure_withBackend hb (.single (.poll c))
  | shutDown => exact chores_shutDown c hb
  | _ => exact absurd rfl herrand

theorem steps_addUpstreamName (i : IfIndex) (name : String)
    (h : i ≠ 0 → !name.isEmpty → names i name) (hb : c.backend = some b) :
    Steps b names c (c.addUpstreamName i name) :=
  closure_withBackend hb (.single (.nameUpstream c i name h))

/-- A name leaves the backend as it is. -/
theorem backend_addUpstreamName (i : IfIndex) (name : String) (hb : c.backend = some b) :
    (c.addUpstreamName i name).backend = some b := by
  have hsteps : Steps b (fun _ _ => True) c (c.addUpstreamName i name) :=
    steps_addUpstreamName c i name (fun _ _ => trivial) hb
  exact hsteps.backend_eq.trans hb

theorem steps_setLimit (iface : String) (q : Quota) (hb : c.backend = some b) :
    Steps b names c (c.setLimit iface q).2 := by
  rw [setLimit, hb]
  exact .single (.limit c iface q)

/-- Every operation of a controller with a backend is a sequence of steps. -/
theorem steps_run (op : Operation) (hb : c.backend = some b)
    (hnames : ∀ i name, op.Names i name → names i name) : Steps b names c (c.run op).2 := by
  by_cases hop : op.isChore
  · exact (chores_run c hop hb).steps
  -- What is left is a naming, a change of upstream, which is a naming and a move, or a limit.
  cases op with
  | event e =>
    cases e with
    | upstreamName i name =>
      exact steps_addUpstreamName c i name (fun hi hn => hnames _ _ ⟨hi, hn, .inl rfl⟩) hb
    | upstreamChanged d u =>
      cases u with
      | none => exact absurd rfl hop
      | some info =>
        have hname : Steps b names c (c.addUpstreamName info.ifIndex info.name) :=
          steps_addUpstreamName c info.ifIndex info.name
            (fun hi hn => hnames _ _ ⟨hi, hn, .inr ⟨d, rfl⟩⟩) hb
        have hb' := backend_addUpstreamName c info.ifIndex info.name hb
        exact hname.trans (errands_updateRules _ d info.ifIndex hb').chores.steps
    | setLimit iface q => exact steps_setLimit c iface q hb
    | _ => exact absurd rfl hop
  | _ => exact absurd rfl hop

/-- No operation changes the backend. -/
theorem backend_run (op : Operation) (hb : c.backend = some b) :
    (c.run op).2.backend = some b := by
  have hsteps : Steps b (fun _ _ => True) c (c.run op).2 :=
    steps_run c op hb fun _ _ _ => trivial
  exact hsteps.backend_eq.trans hb

/-! ## The start -/

/-- A controller that is at work on nothing, after leftovers were cleared on the platform `p`. -/
structure Blank (b : Backend) (p : Platform) (c : Controller) : Prop where
  backend : c.backend = some b
  registry : c.registry = .empty
  upstreams : c.upstreams = .empty
  /-- A kernel table is cleared, or the journal shows that it was not. -/
  stores : ∃ cleared, c.platform.stores = p.stores.clear b cleared ∧
    (b = .tables → ∀ t, cleared t ∨ p.Shows (Entry.isUncleared t) c.platform)
  opening : p.Writes Entry.isOpening c.platform

/-- Nothing has been told of rules and traffic yet. -/
theorem Blank.quiet {p : Platform} (h : Blank b p c) : p.Quiet c.platform :=
  h.opening.mono Entry.isMinor_of_isOpening

/-- The choice of a backend is plain news. -/
theorem isPlain_select (source : Source) (enabled : Bool) : (source.select enabled).2.isPlain := by
  unfold Source.select
  repeat' split
  all_goals rfl

/-- A configured limit is taken, or it is ignored with a notice. -/
theorem steps_configureLimit (l : String × Quota) (hb : c.backend = some b) :
    Steps b names c (c.configureLimit l) := by
  have h : Steps b names c (c.setLimit l.1 l.2).2 := steps_setLimit c l.1 l.2 hb
  unfold configureLimit
  split <;> rename_i heq <;> rw [heq] at h
  · exact h
  · exact h.tail (.chore (.still (.note _ rfl)))

/-- Without a backend configured limits are not taken. -/
theorem backend_configureLimit (l : String × Quota) (hb : c.backend = none) :
    (c.configureLimit l).backend = none := by
  unfold configureLimit setLimit
  rw [hb]
  dsimp only
  split <;> rename_i heq <;> obtain ⟨-, rfl⟩ := Prod.mk.inj heq <;> exact hb

/-- Leftovers are cleared, or kept with a notice. Either way there is nothing at work. -/
theorem exists_attempt_clearAll (b : Backend) (p : Platform) (ms : UInt64) (attacher : Bool) :
    ∃ q cleared, (idle p b ms attacher).attempt b.clearAll .leftoversKept = idle q b ms attacher ∧
      p.Works (p.stores.clear b cleared) q ∧ p.Writes Entry.isOpening q ∧
      (b = .tables → ∀ t, cleared t ∨ p.Shows (Entry.isUncleared t) q) ∧
      (p.Willing → ∀ t, cleared t) := by
  rcases hclear : p.perform b.clearAll with ⟨res, q⟩
  obtain ⟨cleared, hs, hshown, hres⟩ := Backend.clearAll_cases hclear
  have hopening : p.Writes Entry.isOpening q :=
    hs.writes Entry.isOpening_of_isInner fun _ => rfl
  rcases hres with ⟨rfl, hall⟩ | ⟨⟨f, rfl⟩, hr⟩ <;> simp only [attempt, perform, idle, hclear]
  · exact ⟨q, cleared, rfl, hs.works, hopening, hshown, fun _ => hall⟩
  · refine ⟨q.note (.leftoversKept f), cleared, rfl, hs.works.note rfl,
      hopening.trans (Platform.writes_push q rfl), fun hb t => ?_, fun hp => ?_⟩
    · exact (hshown hb t).imp_right (·.mono List.suffix_rfl (List.suffix_cons ..))
    · exact absurd hr hp.not_refuses

/-- A controller with a backend starts at work on nothing, once leftovers were cleared, and takes
the configured limits. -/
theorem exists_start {config : Config} {source : Source} {attacher : Bool} {p : Platform}
    (hb : (start config source attacher p).backend = some b) :
    ∃ q cleared, start config source attacher p =
        config.dataLimits.toList.foldl configureLimit (idle q b config.pollIntervalMs attacher) ∧
      Blank b p (idle q b config.pollIntervalMs attacher) ∧
      p.Works (p.stores.clear b cleared) q ∧ (p.Willing → ∀ t, cleared t) := by
  have hchosen := isPlain_select source config.offloadEnabled
  rcases hselect : source.select config.offloadEnabled with ⟨_ | b', chosen⟩ <;>
    rw [hselect] at hchosen <;> simp only [start, hselect] at hb ⊢
  · -- No backend was found, and configured limits do not bring one.
    have hnone : ∀ (ls : List (String × Quota)) (c : Controller), c.backend = none →
        (ls.foldl configureLimit c).backend = none := by
      intro ls
      induction ls with
      | nil => exact fun _ h => h
      | cons l ls ih => exact fun c h => ih _ (backend_configureLimit c l h)
    rw [hnone] at hb
    · cases hb
    · rfl
  · obtain ⟨q, cleared, hq, hs, hopening, hshown, hall⟩ :=
      exists_attempt_clearAll b' (p.note chosen) config.pollIntervalMs attacher
    have hstart : ((idle p (some b') config.pollIntervalMs attacher).note chosen).withBackend
        (fun b c => c.attempt b.clearAll .leftoversKept) =
          idle q (some b') config.pollIntervalMs attacher := hq
    rw [hstart] at hb ⊢
    have hidle : (idle q (some b') config.pollIntervalMs attacher).backend = some b' := rfl
    have hsteps : Steps b' (fun _ _ => True) _ _ := closure_foldl Steps.backend_eq
      (fun c l => steps_configureLimit c l) config.dataLimits.toList hidle
    obtain rfl : b' = b := Option.some.inj (hsteps.backend_eq.symm.trans hb)
    have hnote : p.Works p.stores (p.note chosen) :=
      Platform.works_note p (Notice.isMinor_of_isPlain hchosen)
    have hblank : Blank b' p (idle q b' config.pollIntervalMs attacher) :=
      ⟨rfl, rfl, rfl, ⟨cleared, hs.stores, fun hb t => (hshown hb t).imp_right
        (·.mono (List.suffix_cons ..) List.suffix_rfl)⟩,
        (Platform.writes_push p hchosen).trans hopening⟩
    exact ⟨q, cleared, rfl, hblank, hnote.trans hs, hall⟩

/-- A controller starts at work on nothing and takes the configured limits. -/
theorem steps_start (names : IfIndex → String → Prop) {config : Config} {source : Source}
    {attacher : Bool} {p : Platform} (hb : (start config source attacher p).backend = some b) :
    ∃ c, Blank b p c ∧ Steps b names c (start config source attacher p) := by
  obtain ⟨q, -, hstart, hblank, -, -⟩ := exists_start hb
  rw [hstart]
  exact ⟨_, hblank, closure_foldl Steps.backend_eq (fun c l => steps_configureLimit c l) _ rfl⟩

end Controller

end FastPath
