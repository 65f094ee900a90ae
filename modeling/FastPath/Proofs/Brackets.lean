import FastPath.Proofs.Counts
import FastPath.Proofs.Readings

/-!
# What is opened is closed

The counters of an upstream are opened with a first limit, may get other limits, and are read and
cleared at the end; then they may be opened again. A binding is started and stopped in turn. So
goes the order of the requests about one upstream or one interface, whatever is asked of the
controller and whichever requests are refused: `Orderly` says so of an upstream together with the
limits that it remembers in the meantime, and `Bracketed` says so of requests alone. What is open at
the end belongs to live rules.
-/

namespace FastPath

/-! ## Words of brackets -/

/-- What a request does to something that is opened and closed. -/
inductive Bracket
  | opens
  /-- What is open is used and stays open. -/
  | again
  | closes
deriving DecidableEq

/-- Read from its end, the word is a prefix of `(opens again* closes)*`. The flag tells whether a
bracket is left open. -/
inductive Bracketed : Bool → List Bracket → Prop
  | nil : Bracketed false []
  | opens {w : List Bracket} (h : Bracketed false w) : Bracketed true (.opens :: w)
  | again {w : List Bracket} (h : Bracketed true w) : Bracketed true (.again :: w)
  | closes {w : List Bracket} (h : Bracketed true w) : Bracketed false (.closes :: w)

/-- One more rule opens a bracket if it is the first one. -/
theorem Bracketed.one_more {count : Nat} {w : List Bracket}
    (h : Bracketed (decide (count ≠ 0)) w) :
    Bracketed (decide (count + 1 ≠ 0)) ((if count = 0 then [.opens] else []) ++ w) := by
  rcases count with _ | count
  · exact h.opens
  · exact h

/-- One rule less closes it if it was the last one. -/
theorem Bracketed.one_less {count : Nat} {w : List Bracket}
    (h : Bracketed (decide (count ≠ 0)) w) :
    Bracketed (decide (count - 1 ≠ 0)) ((if count = 1 then [.closes] else []) ++ w) := by
  rcases count with _ | _ | count
  · exact h
  · exact h.closes
  · exact h

/-- What a request does to the counters of an upstream. -/
def Request.onCounters (u : IfIndex) : Request → Option Bracket
  | .setQuota i _ isFirst => if i = u then some (if isFirst then .opens else .again) else none
  | .readAndClear i => if i = u then some .closes else none
  | _ => none

/-- What a request does to the binding of an interface. -/
def Request.onBinding (d : IfIndex) : Request → Option Bracket
  | .startForwarding i _ => if i = d then some .opens else none
  | .stopForwarding i _ => if i = d then some .closes else none
  | _ => none

/-- The request that an entry tells of, refused or not. -/
def Entry.request? : Entry → Option Request
  | .call (.request r) _ => some r
  | _ => none

/-- The requests of a journal, refused or not, the latest first. -/
def requests (past : List Entry) : List Request :=
  past.filterMap Entry.request?

/-- The limit of an upstream, by the journal: what was remembered or asked for last as another
limit. -/
def limitTold : List Entry → IfIndex → Quota
  | [], _ => .unlimited
  | .notice (.limitStored i q) :: past, u => if i = u then q else limitTold past u
  | .call (.request (.setQuota i q false)) _ :: past, u => if i = u then q else limitTold past u
  | _ :: past, u => limitTold past u

/-! ## Words about limits -/

/-- Something that is done about the limit of an upstream. -/
inductive LimitDeed
  /-- Counters are asked for, with a first limit. -/
  | first (q : Quota)
  /-- Another limit is asked for. -/
  | other (q : Quota)
  /-- Another limit is remembered. -/
  | stored (q : Quota)
  /-- Counters and limit are cleared. -/
  | cleared

/-- What is done about a limit, as far as the backend is asked. -/
def LimitDeed.bracket? : LimitDeed → Option Bracket
  | first _ => some .opens
  | other _ => some .again
  | stored _ => none
  | cleared => some .closes

/-- Counters are opened with the limit as it is by then, and cleared before they are opened again.
The limit changes through the backend while they are open and without it else. The flag tells
whether they are open, and the quota is the limit. The latest deed comes first. -/
inductive Orderly : Bool → Quota → List LimitDeed → Prop
  | nil : Orderly false .unlimited []
  | first {q : Quota} {w : List LimitDeed} (h : Orderly false q w) : Orderly true q (.first q :: w)
  | other {q : Quota} {w : List LimitDeed} (h : Orderly true q w) (q' : Quota) :
    Orderly true q' (.other q' :: w)
  | stored {q : Quota} {w : List LimitDeed} (h : Orderly false q w) (q' : Quota) :
    Orderly false q' (.stored q' :: w)
  | cleared {q : Quota} {w : List LimitDeed} (h : Orderly true q w) : Orderly false q (.cleared :: w)

/-- The limit that a word leaves. -/
def lastLimitOf : List LimitDeed → Quota
  | [] => .unlimited
  | .other q :: _ | .stored q :: _ => q
  | .first _ :: w | .cleared :: w => lastLimitOf w

section

variable {isOpen : Bool} {q : Quota} {w : List LimitDeed}

/-- The requests of an orderly word are brackets. -/
theorem Orderly.bracketed (h : Orderly isOpen q w) :
    Bracketed isOpen (w.filterMap LimitDeed.bracket?) := by
  induction h with
  | nil => exact .nil
  | first _ ih => exact ih.opens
  | other _ q' ih => exact ih.again
  | stored _ q' ih => exact ih
  | cleared _ ih => exact ih.closes

/-- One more rule opens counters if it is the first one. -/
theorem Orderly.one_more {count : Nat} (h : Orderly (decide (count ≠ 0)) q w) :
    Orderly (decide (count + 1 ≠ 0)) q ((if count = 0 then [.first q] else []) ++ w) := by
  rcases count with _ | count
  · exact h.first
  · exact h

/-- One rule less clears them if it was the last one. -/
theorem Orderly.one_less {count : Nat} (h : Orderly (decide (count ≠ 0)) q w) :
    Orderly (decide (count - 1 ≠ 0)) q ((if count = 1 then [.cleared] else []) ++ w) := by
  rcases count with _ | _ | count
  · exact h
  · exact h.cleared
  · exact h

/-- The limit is the one that the word leaves. -/
theorem Orderly.lastLimitOf_eq (h : Orderly isOpen q w) : lastLimitOf w = q := by
  induction h with
  | nil => rfl
  | first _ ih => exact ih
  | other => rfl
  | stored => rfl
  | cleared _ ih => exact ih

/-- Counters are opened with the limit that was left before. -/
theorem Orderly.first_eq (h : Orderly isOpen q w) {newer older : List LimitDeed} {q' : Quota}
    (hw : w = newer ++ .first q' :: older) : q' = lastLimitOf older := by
  induction h generalizing newer with
  | nil => simp at hw
  | first h ih =>
    rcases newer with _ | ⟨deed, newer⟩
    · obtain ⟨hfirst, rfl⟩ := List.cons.inj hw
      rw [h.lastLimitOf_eq, LimitDeed.first.inj hfirst]
    · exact ih (List.cons.inj hw).2
  | other _ _ ih | stored _ _ ih | cleared _ ih =>
    rcases newer with _ | ⟨deed, newer⟩
    · cases (List.cons.inj hw).1
    · exact ih (List.cons.inj hw).2

end

/-! ## Readings -/

/-- What is done about the limit of an upstream. -/
def limitDeeds (u : IfIndex) : Reading LimitDeed where
  asked
    | .setQuota i q isFirst => if i = u then some (if isFirst then .first q else .other q) else none
    | .readAndClear i => if i = u then some .cleared else none
    | _ => none
  stored i q := if i = u then some (.stored q) else none
  aside _ _ := none

/-- What is done about the binding of an interface. -/
def bindingDeeds (d : IfIndex) : Reading Bracket where
  asked := Request.onBinding d
  stored _ _ := none
  aside _ _ := none

/-- The deeds that are requests are the requests about counters. -/
theorem onCounters_requests (past : List Entry) (u : IfIndex) :
    (requests past).filterMap (Request.onCounters u) =
      ((limitDeeds u).word past).filterMap LimitDeed.bracket? := by
  rw [requests, Reading.word, List.filterMap_filterMap, List.filterMap_filterMap]
  congr 1
  funext e
  cases e with
  | call c refusal =>
    cases c with
    | request r =>
      cases r with
      | setQuota i q isFirst =>
        show (if i = u then some _ else none) =
          (if i = u then some _ else none : Option LimitDeed).bind LimitDeed.bracket?
        split
        · cases isFirst <;> rfl
        · rfl
      | readAndClear i =>
        show (if i = u then some _ else none) =
          (if i = u then some _ else none : Option LimitDeed).bind LimitDeed.bracket?
        split <;> rfl
      | _ => rfl
    | _ => rfl
  | notice n =>
    cases n with
    | limitStored i q =>
      show none = (if i = u then some _ else none : Option LimitDeed).bind LimitDeed.bracket?
      split <;> rfl
    | _ => rfl
  | shown text => rfl

/-- The deeds about a binding are the requests about it. -/
theorem onBinding_requests (past : List Entry) (d : IfIndex) :
    (requests past).filterMap (Request.onBinding d) = (bindingDeeds d).word past := by
  rw [requests, Reading.word, List.filterMap_filterMap]
  congr 1
  funext e
  cases e with
  | call c refusal =>
    cases c with
    | request r => cases r <;> rfl
    | _ => rfl
  | notice n => cases n <;> rfl
  | shown text => rfl

/-- The limit that the journal tells is the one that the deeds leave. -/
theorem limitTold_eq (past : List Entry) (u : IfIndex) :
    limitTold past u = lastLimitOf ((limitDeeds u).word past) := by
  induction past with
  | nil => rfl
  | cons e past ih =>
    have hcons : (limitDeeds u).word (e :: past) =
        ((limitDeeds u).pick e).toList ++ (limitDeeds u).word past := by
      rw [Reading.word, List.filterMap_cons]
      cases (limitDeeds u).pick e <;> rfl
    rw [hcons]
    cases e with
    | call c refusal =>
      cases c with
      | request r =>
        cases r with
        | setQuota i q isFirst =>
          show _ = lastLimitOf ((if i = u then some _ else none : Option LimitDeed).toList ++ _)
          cases isFirst with
          | true => split <;> exact ih
          | false =>
            rw [limitTold]
            split
            · rfl
            · exact ih
        | readAndClear i =>
          show _ = lastLimitOf ((if i = u then some _ else none : Option LimitDeed).toList ++ _)
          split <;> exact ih
        | _ => exact ih
      | _ => exact ih
    | notice n =>
      cases n with
      | limitStored i q =>
        show _ = lastLimitOf ((if i = u then some _ else none : Option LimitDeed).toList ++ _)
        rw [limitTold]
        split
        · rfl
        · exact ih
      | _ => exact ih
    | shown text => exact ih

namespace Controller

open Platform

variable {b : Backend} {names : IfIndex → String → Prop} {c c' : Controller}

/-! ## What a step adds -/

/-- Counters are open for the upstreams with rules, with the limits that upstreams have, and
bindings for the interfaces with rules. -/
structure Ordered (c : Controller) : Prop where
  limits : ∀ u, Orderly (decide (c.upstreams.ruleCount u ≠ 0)) (c.upstreams.quota u)
    ((limitDeeds u).word c.platform.past)
  bindings : ∀ d, Bracketed (decide (c.registry.rulesOn d ≠ 0))
    ((bindingDeeds d).word c.platform.past)

/-- Where nothing is written about limits and bindings the order stays with counts and limits. -/
theorem Ordered.keep (h : Ordered c) (hrules : ∀ d, c'.registry.rulesOn d = c.registry.rulesOn d)
    (hcount : ∀ u, c'.upstreams.ruleCount u = c.upstreams.ruleCount u)
    (hquota : ∀ u, c'.upstreams.quota u = c.upstreams.quota u)
    (hlimits : ∀ u, (limitDeeds u).Adds [] c.platform c'.platform)
    (hbindings : ∀ d, (bindingDeeds d).Adds [] c.platform c'.platform) : Ordered c' where
  limits u := by
    rw [hcount, hquota, hlimits u]
    exact h.limits u
  bindings d := by
    rw [hrules, hbindings d]
    exact h.bindings d

/-- A calm change keeps the order. -/
theorem Ordered.calm (h : Ordered c) (hcalm : Calm c c') : Ordered c' :=
  h.keep (fun d => by rw [hcalm.registry]) hcalm.count hcalm.quota
    (fun u => (limitDeeds u).adds_of_unread hcalm.platform)
    fun d => (bindingDeeds d).adds_of_unread hcalm.platform

/-- A rule that is added opens what it is the first one to need. -/
theorem Ordered.install (h : Ordered c) (b : Backend) (d : DownstreamId) (rule : Rule) :
    Ordered (c.install b d rule).2 where
  limits u := by
    rcases install_adds (limitDeeds u) b d rule c with ⟨p, hinstall, hp⟩ | ⟨-, p, hinstall, hp⟩ <;>
      rw [hinstall] <;> dsimp only <;> rw [hp]
    · exact h.limits u
    · rw [UpstreamTable.ruleCount_acquire, UpstreamTable.quota_acquire]
      by_cases hu : rule.upstream = u
      · have hword : c.lettersWith (limitDeeds u) rule =
            if c.upstreams.ruleCount u = 0 then [.first (c.upstreams.quota u)] else [] := by
          simp [lettersWith, limitDeeds, hu]
        rw [hword, if_pos hu]
        exact (h.limits u).one_more
      · have hword : c.lettersWith (limitDeeds u) rule = [] := by
          simp [lettersWith, limitDeeds, hu]
        rw [hword, if_neg hu]
        exact h.limits u
  bindings i := by
    rcases install_adds (bindingDeeds i) b d rule c with ⟨p, hinstall, hp⟩ | ⟨-, p, hinstall, hp⟩ <;>
      rw [hinstall] <;> dsimp only <;> rw [hp]
    · exact h.bindings i
    · rw [Registry.rulesOn_push]
      by_cases hi : rule.downstream = i
      · have hword : c.lettersWith (bindingDeeds i) rule =
            if c.registry.rulesOn i = 0 then [.opens] else [] := by
          simp [lettersWith, bindingDeeds, Request.onBinding, hi]
        rw [hword, if_pos hi]
        exact (h.bindings i).one_more
      · have hword : c.lettersWith (bindingDeeds i) rule = [] := by
          simp [lettersWith, bindingDeeds, Request.onBinding, hi]
        rw [hword, if_neg hi]
        exact h.bindings i

/-- A rule that is removed closes what it was the last one to need. -/
theorem Ordered.uninstall (h : Ordered c) (b : Backend) (d : DownstreamId) (n : Ipv6) :
    Ordered (c.uninstall b d n).2 where
  limits u := by
    rcases uninstall_adds (limitDeeds u) b d n c with ⟨p, huninstall, hp⟩ |
      ⟨rule, -, t, p, huninstall, hcount, hquota, hp⟩ <;> rw [huninstall] <;> dsimp only <;> rw [hp]
    · exact h.limits u
    · rw [hcount, hquota, UpstreamTable.ruleCount_release]
      by_cases hu : rule.upstream = u
      · have hword : c.lettersWithout (limitDeeds u) rule =
            if c.upstreams.ruleCount u = 1 then [.cleared] else [] := by
          simp [lettersWithout, limitDeeds, hu]
        rw [hword, if_pos hu, hu]
        exact (h.limits u).one_less
      · have hword : c.lettersWithout (limitDeeds u) rule = [] := by
          simp [lettersWithout, limitDeeds, hu]
        rw [hword, if_neg hu]
        exact h.limits u
  bindings i := by
    rcases uninstall_adds (bindingDeeds i) b d n c with ⟨p, huninstall, hp⟩ |
      ⟨rule, hfind, t, p, huninstall, -, -, hp⟩ <;> rw [huninstall] <;> dsimp only <;> rw [hp]
    · exact h.bindings i
    · have hcount := c.registry.rulesOn_erase hfind i
      by_cases hi : rule.downstream = i
      · have hword : c.lettersWithout (bindingDeeds i) rule =
            if c.registry.rulesOn i = 1 then [.closes] else [] := by
          simp [lettersWithout, bindingDeeds, Request.onBinding, hi]
        rw [if_pos hi] at hcount
        have hless : (c.registry.erase d n).rulesOn i = c.registry.rulesOn i - 1 := by omega
        rw [hword, hless]
        exact (h.bindings i).one_less
      · have hword : c.lettersWithout (bindingDeeds i) rule = [] := by
          simp [lettersWithout, bindingDeeds, Request.onBinding, hi]
        rw [if_neg hi, Nat.add_zero] at hcount
        rw [hword, ← hcount]
        exact h.bindings i

/-- A limit that is applied is asked for while counters are open, and remembered else. -/
theorem Ordered.applyLimit (h : Ordered c) (b : Backend) (i : IfIndex) (q : Quota) :
    Ordered (c.applyLimit b i q) where
  limits u := by
    obtain ⟨p, happly, hp⟩ := applyLimit_adds (limitDeeds u) b i q c
    rw [happly]
    dsimp only
    rw [hp, UpstreamTable.ruleCount_modify_quota, UpstreamTable.quota_modify]
    by_cases hu : i = u
    · subst hu
      have hlimits := h.limits i
      rw [if_pos rfl]
      split <;> rename_i hcount
      · simp only [hcount, ne_eq, not_true_eq_false, decide_false] at hlimits ⊢
        simpa [limitDeeds] using hlimits.stored q
      · simp only [hcount, ne_eq, not_false_eq_true, decide_true] at hlimits ⊢
        simpa [limitDeeds] using hlimits.other q
    · rw [if_neg hu]
      simpa [limitDeeds, hu] using h.limits u
  bindings d := by
    obtain ⟨p, happly, hp⟩ := applyLimit_adds (bindingDeeds d) b i q c
    rw [happly]
    dsimp only
    rw [hp]
    simpa [bindingDeeds, Request.onBinding] using h.bindings d

/-- A chore keeps the order. -/
theorem Ordered.chore (h : Ordered c) (hchore : Chore b c c') : Ordered c' := by
  cases hchore with
  | install d rule => exact h.install b d rule
  | uninstall d n => exact h.uninstall b d n
  | forget d hnil =>
    exact h.keep (fun i => c.registry.countP_live_forget hnil _) (fun _ => rfl) (fun _ => rfl)
      (fun _ => rfl) fun _ => rfl
  | poll => exact h.calm (calm_poll b c)
  | publish => exact h.calm (calm_publish c)
  | still hstill =>
    have hidle : Idle c c' := hstill.idle
    refine h.keep (fun d => by rw [hidle.registry]) (fun u => ?_) hidle.quota
      (fun u => hstill.adds_nil (limitDeeds u) fun _ _ => rfl)
      fun d => hstill.adds_nil (bindingDeeds d) fun _ _ => rfl
    rw [UpstreamTable.ruleCount_eq, hidle.account, UpstreamTable.ruleCount_eq]

/-- Every step keeps the order. -/
theorem Ordered.step (hstep : Step b names c c') (h : Ordered c) : Ordered c' := by
  cases hstep with
  | chore hchore => exact h.chore hchore
  | nameUpstream i name =>
    obtain ⟨c₁, hcalm, hname | ⟨q, hname⟩⟩ := nameUpstream_calm_cases b i name c <;> rw [hname]
    · exact h.calm hcalm
    · exact (h.calm hcalm).applyLimit b i q
  | limit iface q =>
    rcases limit_calm_cases b iface q c with hcalm | ⟨i, hlimit⟩
    · exact h.calm hcalm
    · rw [hlimit]
      exact h.applyLimit b i q

/-- A controller that is at work on nothing has opened nothing. -/
theorem ordered_of_blank {p : Platform} (hpast : p.past = []) (h : Blank b p c) : Ordered c := by
  have hunread : p.Writes Entry.isUnread c.platform :=
    h.opening.mono Entry.isUnread_of_isOpening
  have hword : ∀ {α : Type} (g : Reading α), g.word c.platform.past = [] := by
    intro α g
    rw [g.adds_of_unread hunread, hpast]
    rfl
  refine ⟨fun u => ?_, fun d => ?_⟩
  · rw [hword, h.upstreams]
    exact .nil
  · rw [hword, h.registry]
    exact .nil

/-- The requests about an upstream make up brackets, which are open while it has live rules: first a
limit with which its counters are created, then other limits, then the clearing, and so on. The
first limit of each is the one that was told by then, and what is told is the limit that the
upstream has. The requests about an interface make up brackets as well, without anything in between:
binding and unbinding alternate, and the interface is left bound while it has live rules. -/
theorem bracketed_of_reachable {p : Platform} (hpast : p.past = []) (h : Reachable b p c) :
    (∀ u,
      (∃ isOpen, Bracketed isOpen ((requests c.platform.past).filterMap (Request.onCounters u)) ∧
        (isOpen ↔ ∃ d, ∃ r ∈ c.rulesFor d, r.upstream = u)) ∧
      (∀ newer older q refusal, c.platform.past =
        newer ++ .call (.request (.setQuota u q true)) refusal :: older → q = limitTold older u) ∧
      c.upstreams.quota u = limitTold c.platform.past u) ∧
    ∀ d, ∃ isOpen, Bracketed isOpen ((requests c.platform.past).filterMap (Request.onBinding d)) ∧
      (isOpen ↔ ∃ dn, ∃ r ∈ c.rulesFor dn, r.downstream = d) := by
  have hcounted : Counted c := counted_of_reachable h
  have hordered : Ordered c := h.preserves_steps (fun hblank _ _ => ordered_of_blank hpast hblank)
    Ordered.step fun i more hc => hc.keep (fun _ => rfl) (fun _ => rfl) (fun _ => rfl)
      (fun u => by rw [Reading.Adds, past_count]; rfl) fun d => by rw [Reading.Adds, past_count]; rfl
  refine ⟨fun u => ?_, fun d => ?_⟩
  · have hlimits := hordered.limits u
    refine ⟨⟨decide (c.upstreams.ruleCount u ≠ 0), ?_, ?_⟩, fun newer older q refusal hsplit => ?_,
      ?_⟩
    · rw [onCounters_requests]
      exact hlimits.bracketed
    · rw [decide_eq_true_iff]
      exact hcounted.ruleCount_ne_zero u
    · -- The first limit is a deed that stands between the newer ones and the older ones.
      have hword : (limitDeeds u).word c.platform.past =
          (limitDeeds u).word newer ++ .first q :: (limitDeeds u).word older := by
        rw [hsplit, Reading.word, List.filterMap_append, List.filterMap_cons_some]
        · rfl
        · exact if_pos rfl
      rw [limitTold_eq]
      exact hlimits.first_eq hword
    · rw [limitTold_eq, hlimits.lastLimitOf_eq]
  · refine ⟨decide (c.registry.rulesOn d ≠ 0), ?_, ?_⟩
    · rw [onBinding_requests]
      exact hordered.bindings d
    · rw [decide_eq_true_iff, Registry.rulesOn, Registry.countP_live_ne_zero]
      simp only [decide_eq_true_iff]
      rfl

/-- The upstream of two downstreams gets another limit, loses both rules and gets one again. -/
def reopened : List Operation :=
  [.event (.upstreamName 100 "rmnet0"), .event (.setLimit "rmnet0" 5000),
    .event (.removeRule "wlan0" (sharedRule 10)), .event (.removeRule "usb0" (sharedRule 11)),
    .event (.addRule "wlan0" (sharedRule 10))]

/-- The counters of the upstream are opened, given another limit, cleared and opened again. One
interface is bound, unbound and bound again, and the other one is only bound and unbound. -/
theorem bracketed_reopened :
    let c := shared (.tables fun _ => true) reopened
    (requests c.platform.past).filterMap (Request.onCounters 100) =
      [.opens, .closes, .again, .opens] ∧
    (∃ isOpen, Bracketed isOpen ((requests c.platform.past).filterMap (Request.onCounters 100)) ∧
      (isOpen ↔ ∃ d, ∃ r ∈ c.rulesFor d, r.upstream = 100)) ∧
    5000 = limitTold c.platform.past 100 ∧
    (requests c.platform.past).filterMap (Request.onBinding 11) = [.closes, .opens] ∧
    ∃ isOpen, Bracketed isOpen ((requests c.platform.past).filterMap (Request.onBinding 11)) ∧
      (isOpen ↔ ∃ dn, ∃ r ∈ c.rulesFor dn, r.downstream = 11) := by
  intro c
  have h := bracketed_of_reachable rfl (reachable_shared_tables reopened)
  have hquota : c.upstreams.quota 100 = 5000 := by decide +kernel
  exact ⟨by decide +kernel, (h.1 100).1, hquota.symm.trans (h.1 100).2.2, by decide +kernel, h.2 11⟩

end Controller

end FastPath
