import FastPath.Proofs.Atomicity
import FastPath.Proofs.Disabled

/-!
# Rules that are cleared or moved together

To clear or to move the rules of a downstream a list of them is walked while the list that it was
taken from changes, each rule is found by its neighbor anew, and the removal of each can fail. A
move then adds the rules that are gone to the other upstream, and again each can fail. The `trials`
of a walk tell which requests succeed, each asked where the walk has got to by then. What is left of
the rules can be read off them: those that could not be removed stay in front as they were, and
those that could be moved follow, both in the order that they had. The invariant of either loop is
that the list is made of what the walk is done with and what is still to come, with different
neighbors throughout.
-/

namespace FastPath

/-! ## Trials -/

/-- The rules whose request succeeded. -/
def served (trials : List (Rule × Bool)) : List Rule :=
  (trials.filter fun t => t.2).map Prod.fst

/-- The rules whose request failed. -/
def denied (trials : List (Rule × Bool)) : List Rule :=
  (trials.filter fun t => !t.2).map Prod.fst

theorem mem_served {trials : List (Rule × Bool)} {rule : Rule} :
    rule ∈ served trials ↔ (rule, true) ∈ trials := by
  simp [served]

theorem mem_denied {trials : List (Rule × Bool)} {rule : Rule} :
    rule ∈ denied trials ↔ (rule, false) ∈ trials := by
  simp [denied]

/-- A rule that was tried was denied or served. -/
theorem mem_denied_or_served {trials : List (Rule × Bool)} {rule : Rule}
    (h : rule ∈ trials.map Prod.fst) : rule ∈ denied trials ∨ rule ∈ served trials := by
  obtain ⟨⟨_, ok⟩, hmem, rfl⟩ := List.mem_map.mp h
  cases ok with
  | false => exact .inl (mem_denied.mpr hmem)
  | true => exact .inr (mem_served.mpr hmem)

/-- Every rule was served or denied, and no rule was both. -/
theorem perm_denied_served (trials : List (Rule × Bool)) :
    (denied trials ++ served trials).Perm (trials.map Prod.fst) := by
  have hsplit := (List.filter_append_perm (fun t : Rule × Bool => t.2) trials).map Prod.fst
  rw [List.map_append] at hsplit
  exact List.perm_append_comm.trans hsplit

/-- Where rules have different neighbors, those before one of them do not have its neighbor, and
without it neighbors are still different. -/
theorem neighbors_of_nodup {before after : List Rule} {rule : Rule}
    (h : ((before ++ rule :: after).map Rule.neighbor).Nodup) :
    (∀ other ∈ before, other.neighbor ≠ rule.neighbor) ∧
      ((before ++ after).map Rule.neighbor).Nodup := by
  have hsublist : (before ++ after).Sublist (before ++ rule :: after) :=
    (List.sublist_cons_self rule after).append_left before
  refine ⟨fun other hmem => ?_, (hsublist.map _).nodup h⟩
  rw [List.map_append, List.nodup_append] at h
  exact h.2.2 _ (List.mem_map_of_mem hmem) _ List.mem_cons_self

namespace Controller

variable {b : Backend} {c : Controller} {d : DownstreamId} {u : IfIndex}

/-- Each of some rules, with whether its request succeeds. It is made where the rules before it have
left the controller. -/
def trials (request : Rule → Act Unit) (next : Rule → Controller → Controller) :
    List Rule → Controller → List (Rule × Bool)
  | [], _ => []
  | rule :: rules, c =>
    (rule, (c.platform.perform (request rule)).1.isOk) :: trials request next rules (next rule c)

/-- The removals of some rules of a downstream, one after the other. -/
def removalsOf (b : Backend) (d : DownstreamId) : List Rule → Controller → List (Rule × Bool) :=
  trials b.removeRule fun rule c => (c.uninstall b d rule.neighbor).2

/-- The additions of some rules to a downstream, on another upstream, one after the other. -/
def additionsOf (b : Backend) (d : DownstreamId) (u : IfIndex) :
    List Rule → Controller → List (Rule × Bool) :=
  trials (fun rule => b.addRule (rule.onUpstream u)) fun rule c =>
    (c.install b d (rule.onUpstream u)).2

/-- The controller once some rules have been added to a downstream on another upstream. -/
def installEach (b : Backend) (d : DownstreamId) (u : IfIndex) (rules : List Rule)
    (c : Controller) : Controller :=
  rules.foldl (fun c rule => (c.install b d (rule.onUpstream u)).2) c

/-- Every rule is tried once, in order. -/
theorem map_fst_trials (request : Rule → Act Unit) (next : Rule → Controller → Controller)
    (rules : List Rule) (c : Controller) : (trials request next rules c).map Prod.fst = rules := by
  induction rules generalizing c with
  | nil => rfl
  | cons rule rules ih => exact congrArg (rule :: ·) (ih _)

/-! ## One rule -/

/-- A request that succeeds ends well. -/
theorem isOk_perform_iff {p : Platform} {a : Act Unit} :
    (p.perform a).1.isOk = true ↔ (p.perform a).1 = .ok () := by
  rcases (p.perform a).1 with f | ⟨⟩ <;> simp [Except.isOk, Except.toBool]

/-- A rule that is found is erased if its removal succeeds, and else it stays. -/
theorem uninstall_of_find? {n : Ipv6} {rule : Rule} (hfind : c.registry.find? d n = some rule) :
    (c.uninstall b d n).1 = (c.platform.perform (b.removeRule rule)).1.isOk ∧
      (c.uninstall b d n).2.registry = if (c.platform.perform (b.removeRule rule)).1.isOk
        then c.registry.erase d n else c.registry := by
  have hanswer : (c.uninstall b d n).1 = (c.platform.perform (b.removeRule rule)).1.isOk := by
    rw [Bool.eq_iff_iff, uninstall_eq_true_iff, isOk_perform_iff, hfind]
    simp
  rw [← hanswer]
  rcases uninstall_cases b d n c with ⟨p, h, -⟩ | ⟨_, -, p, q, -, -, h⟩ <;> rw [h]
  · exact ⟨rfl, rfl⟩
  · refine ⟨rfl, ?_⟩
    obtain ⟨p', -, h | ⟨-, q', -, h⟩⟩ := release_cases b _
      { c with platform := q, registry := c.registry.erase d n } <;> rw [h] <;> rfl

/-- A rule for a new neighbor is pushed if its addition succeeds, and else nothing is. -/
theorem install_of_free {rule : Rule} (hfree : c.registry.find? d rule.neighbor = none) :
    (c.install b d rule).2.registry = if (c.platform.perform (b.addRule rule)).1.isOk
      then c.registry.push d rule else c.registry := by
  have hanswer : (c.install b d rule).1 = (c.platform.perform (b.addRule rule)).1.isOk := by
    rw [Bool.eq_iff_iff, install_eq_true_iff, isOk_perform_iff, and_iff_right hfree]
  rw [← hanswer]
  rcases install_cases b d rule c with ⟨p, h, -⟩ | ⟨-, p, q, -, -, h⟩ <;> rw [h] <;> rfl

/-! ## All rules -/

/-- The rules that could not be removed are left after those that the walk is done with, and other
downstreams keep theirs. The rules that are gone are those that could be removed. -/
theorem uninstallEach_rules {kept rules : List Rule} (hrules : c.rulesFor d = kept ++ rules)
    (hdistinct : ((kept ++ rules).map Rule.neighbor).Nodup) :
    (uninstallEach b d rules c).1 = served (removalsOf b d rules c) ∧
      ∀ d', (uninstallEach b d rules c).2.rulesFor d' =
        if d = d' then kept ++ denied (removalsOf b d rules c) else c.rulesFor d' := by
  induction rules generalizing c kept with
  | nil =>
    refine ⟨rfl, fun d' => ?_⟩
    split
    · rename_i hd
      rw [← hd]
      exact hrules
    · rfl
  | cons rule rules ih =>
    obtain ⟨hother, hrest⟩ := neighbors_of_nodup hdistinct
    obtain ⟨hanswer, hregistry⟩ :=
      uninstall_of_find? (b := b) (c.registry.find?_of_rulesFor_eq hrules hother)
    let next := (c.uninstall b d rule.neighbor).2
    have hwalk : uninstallEach b d (rule :: rules) c =
        (if (c.uninstall b d rule.neighbor).1 then rule :: (uninstallEach b d rules next).1
          else (uninstallEach b d rules next).1, (uninstallEach b d rules next).2) := rfl
    have htrials : removalsOf b d (rule :: rules) c =
        (rule, (c.platform.perform (b.removeRule rule)).1.isOk) :: removalsOf b d rules next := rfl
    rw [hwalk, hanswer, htrials]
    cases hok : (c.platform.perform (b.removeRule rule)).1.isOk <;> rw [hok] at hregistry
    · -- The walk is done with the rule, which stays.
      have hnext : ∀ d', next.rulesFor d' = c.rulesFor d' := fun d' =>
        congrArg (·.rulesFor d') hregistry
      rw [List.append_cons] at hrules hdistinct
      obtain ⟨hgone, hleft⟩ := ih ((hnext d).trans hrules) hdistinct
      refine ⟨hgone, fun d' => ?_⟩
      rw [hleft, hnext, List.append_assoc]
      rfl
    · -- The rule is taken out, and the next one takes its place.
      have hnext : ∀ d', next.rulesFor d' =
          if d = d' then kept ++ rules else c.rulesFor d' := fun d' => by
        show next.registry.rulesFor d' = _
        rw [hregistry]
        show (c.registry.erase d rule.neighbor).rulesFor d' = _
        by_cases hd : d = d'
        · rw [← hd, if_pos rfl]
          exact c.registry.rulesFor_erase_of_rulesFor_eq hrules hother
        · rw [Registry.rulesFor_erase, if_neg hd, if_neg hd]
          rfl
      obtain ⟨hgone, hleft⟩ := ih ((hnext d).trans (if_pos rfl)) hrest
      refine ⟨congrArg (rule :: ·) hgone, fun d' => ?_⟩
      rw [hleft, hnext]
      split
      · rfl
      · rfl

/-- The rules that could be added follow those that the downstream has already, and other
downstreams keep theirs. -/
theorem installEach_rules {rules : List Rule}
    (hdistinct : ((c.rulesFor d ++ rules).map Rule.neighbor).Nodup) (d' : DownstreamId) :
    (installEach b d u rules c).rulesFor d' = if d = d'
      then c.rulesFor d ++ (served (additionsOf b d u rules c)).map (·.onUpstream u)
      else c.rulesFor d' := by
  induction rules generalizing c with
  | nil =>
    show c.rulesFor d' = if d = d' then c.rulesFor d ++ [] else c.rulesFor d'
    split
    · rename_i hd
      rw [← hd, List.append_nil]
    · rfl
  | cons rule rules ih =>
    obtain ⟨hother, hrest⟩ := neighbors_of_nodup hdistinct
    have hfree : c.registry.find? d (rule.onUpstream u).neighbor = none :=
      c.registry.find?_eq_none hother
    have hregistry := install_of_free (b := b) hfree
    let next := (c.install b d (rule.onUpstream u)).2
    have htrials : additionsOf b d u (rule :: rules) c =
        (rule, (c.platform.perform (b.addRule (rule.onUpstream u))).1.isOk) ::
          additionsOf b d u rules next := rfl
    show (installEach b d u rules next).rulesFor d' = _
    rw [htrials]
    cases hok : (c.platform.perform (b.addRule (rule.onUpstream u))).1.isOk <;>
      rw [hok] at hregistry
    · have hnext : ∀ d', next.rulesFor d' = c.rulesFor d' := fun d' =>
        congrArg (·.rulesFor d') hregistry
      rw [ih (by rwa [hnext]), hnext, hnext]
      rfl
    · -- The rule comes last for now, on the other upstream but with the neighbor that it had.
      have hnext : ∀ d', next.rulesFor d' =
          if d = d' then c.rulesFor d ++ [rule.onUpstream u] else c.rulesFor d' := fun d' => by
        show next.registry.rulesFor d' = _
        rw [hregistry]
        exact c.registry.rulesFor_push d d' _
      have hdistinct' : ((next.rulesFor d ++ rules).map Rule.neighbor).Nodup := by
        rw [hnext, if_pos rfl]
        simpa [Rule.onUpstream] using hdistinct
      rw [ih hdistinct', hnext, hnext, if_pos rfl, List.append_assoc]
      split
      · rfl
      · rfl

/-! ## Every history -/

/-- The controller was started on the platform `p`, with the backend `b` or with none, and has had a
history since. -/
def Underway (b : Backend) (p : Platform) (c : Controller) : Prop :=
  ∃ config source attacher hs, (∀ b' ∈ (start config source attacher p).backend, b' = b) ∧
    c = (start config source attacher p).undergoAll b hs

/-- Either it has the backend, or it has never had a rule. -/
theorem Underway.cases {p : Platform} (h : Underway b p c) :
    Reachable b p c ∨ c.backend = none ∧ ∀ d, c.rulesFor d = [] := by
  obtain ⟨config, source, attacher, hs, hbackend, rfl⟩ := h
  cases hb : (start config source attacher p).backend with
  | some b' =>
    obtain rfl := hbackend b' hb
    exact .inl ⟨_, hs, ⟨config, source, attacher, hb, rfl⟩, rfl⟩
  | none =>
    obtain ⟨hnone, hregistry⟩ := registry_undergoAll_of_none b hs hb
    have hinert : Inert p (start config source attacher p) :=
      inert_start attacher p ((backend_start config source attacher p).symm.trans hb)
    refine .inr ⟨hnone, fun d => ?_⟩
    rw [rulesFor, hregistry, hinert.registry, Registry.rulesFor_empty]

/-- No downstream has two rules for a neighbor. -/
theorem Underway.distinct {p : Platform} (h : Underway b p c) (d : DownstreamId) :
    ((c.rulesFor d).map Rule.neighbor).Nodup := by
  rcases h.cases with hreach | ⟨-, hempty⟩
  · exact (counted_of_reachable hreach).distinct d
  · rw [hempty]
    exact List.nodup_nil

/-- The removals of the rules of a downstream, when they are cleared or moved. -/
def removals (b : Backend) (d : DownstreamId) (c : Controller) : List (Rule × Bool) :=
  removalsOf b d (c.rulesFor d) c

/-- The controller once the rules of a downstream have been tried to remove. -/
def emptied (b : Backend) (d : DownstreamId) (c : Controller) : Controller :=
  (uninstallEach b d (c.rulesFor d) c).2

/-- The additions of the rules that are gone, when the rules of a downstream are moved. -/
def additions (b : Backend) (d : DownstreamId) (u : IfIndex) (c : Controller) :
    List (Rule × Bool) :=
  additionsOf b d u (served (c.removals b d)) (c.emptied b d)

section

variable (hdistinct : ((c.rulesFor d).map Rule.neighbor).Nodup)
include hdistinct

/-- The rules that could not be removed are left, and those that could be are gone. -/
theorem emptied_rules : (uninstallEach b d (c.rulesFor d) c).1 = served (c.removals b d) ∧
    ∀ d', (c.emptied b d).rulesFor d' =
      if d = d' then denied (c.removals b d) else c.rulesFor d' := by
  have hwalk := uninstallEach_rules (b := b) (List.nil_append (c.rulesFor d)).symm hdistinct
  exact hwalk

/-- A downstream that is forgotten had no rules left. -/
theorem flush_rules (d' : DownstreamId) : (c.flush b d).rulesFor d' =
    if d = d' then denied (c.removals b d) else c.rulesFor d' := by
  rw [← (emptied_rules hdistinct).2 d']
  unfold flush
  dsimp only
  split
  · rename_i hnil
    exact Registry.rulesFor_forget_of_nil _ hnil d'
  · rfl

/-- The rules that are left and those that are gone have different neighbors. -/
theorem distinct_emptied :
    (((c.emptied b d).rulesFor d ++ served (c.removals b d)).map Rule.neighbor).Nodup := by
  have hperm := (perm_denied_served (c.removals b d)).map Rule.neighbor
  rw [removals, removalsOf, map_fst_trials] at hperm
  rw [(emptied_rules hdistinct).2, if_pos rfl]
  exact hperm.nodup_iff.mpr hdistinct

/-- The rules that are gone are added again where there are any to move. -/
theorem rebind_rules (d' : DownstreamId) : (c.rebind b d u).rulesFor d' = if d = d'
    then denied (c.removals b d) ++ (served (c.additions b d u)).map (·.onUpstream u)
    else c.rulesFor d' := by
  obtain ⟨hgone, hleft⟩ := emptied_rules (b := b) hdistinct
  have hmove : (c.rebind b d u).rulesFor d' =
      (installEach b d u (served (c.removals b d)) (c.emptied b d)).rulesFor d' := by
    rw [← hgone]
    unfold rebind emptied
    split
    · rename_i hnil
      rw [hnil]
      rfl
    · rfl
  rw [hmove, installEach_rules (distinct_emptied hdistinct), hleft, hleft, if_pos rfl]
  split
  · rfl
  · rfl

/-- When a rule is added again, the downstream has none for its neighbor. -/
theorem find?_installEach {before after : List Rule} {rule : Rule}
    (h : served (c.removals b d) = before ++ rule :: after) :
    (installEach b d u before (c.emptied b d)).registry.find? d rule.neighbor = none := by
  have hall := distinct_emptied (b := b) hdistinct
  rw [h, ← List.append_assoc] at hall
  obtain ⟨hother, hrest⟩ := neighbors_of_nodup hall
  have hbefore : (((c.emptied b d).rulesFor d ++ before).map Rule.neighbor).Nodup := by
    rw [List.map_append] at hrest
    exact (List.nodup_append.mp hrest).1
  refine Registry.find?_eq_none _ fun other hmem => ?_
  have hrules := installEach_rules (b := b) (u := u) hbefore d
  rw [if_pos rfl] at hrules
  have hmem' : other ∈ (installEach b d u before (c.emptied b d)).rulesFor d := hmem
  rw [hrules] at hmem'
  rcases List.mem_append.mp hmem' with hmem' | hmem'
  · exact hother other (List.mem_append_left _ hmem')
  · -- On the other upstream a rule has the neighbor that it had.
    obtain ⟨old, hold, rfl⟩ := List.mem_map.mp hmem'
    have htried : old ∈ (additionsOf b d u before (c.emptied b d)).map Prod.fst :=
      List.mem_map_of_mem (f := Prod.fst) (mem_served.mp hold)
    rw [additionsOf, map_fst_trials] at htried
    exact hother old (List.mem_append_right _ htried)

end

/-- Whatever fails, those rules of a downstream are left once its rules have been cleared that could
not be removed. Once its rules have been moved, those follow that could be removed and added again,
each on the other upstream and else as it was. Both are in the order that the rules had, and rules
of other downstreams are not touched. No rule is in the way of another when it is added again, so
that the rules which are missing are those that could be removed but not added again. -/
theorem rulesFor_bulk {p : Platform} (h : Underway b p c) (d : DownstreamId) (u : IfIndex) :
    (∀ d', (c.clearRules d).rulesFor d' =
      if d = d' then denied (c.removals b d) else c.rulesFor d') ∧
    (∀ d', (c.updateRules d u).rulesFor d' = if d = d'
      then denied (c.removals b d) ++ (served (c.additions b d u)).map (·.onUpstream u)
      else c.rulesFor d') ∧
    (c.removals b d).map Prod.fst = c.rulesFor d ∧
    (c.additions b d u).map Prod.fst = served (c.removals b d) ∧
    (∀ before rule after, served (c.removals b d) = before ++ rule :: after →
      (installEach b d u before (c.emptied b d)).registry.find? d rule.neighbor = none) ∧
    ∀ rule ∈ c.rulesFor d, rule ∈ denied (c.removals b d) ∨ rule ∈ served (c.additions b d u) ∨
      (rule, true) ∈ c.removals b d ∧ (rule, false) ∈ c.additions b d u := by
  have hremovals : (c.removals b d).map Prod.fst = c.rulesFor d := map_fst_trials ..
  have hadditions : (c.additions b d u).map Prod.fst = served (c.removals b d) :=
    map_fst_trials ..
  have hmissing : ∀ rule ∈ c.rulesFor d,
      rule ∈ denied (c.removals b d) ∨ rule ∈ served (c.additions b d u) ∨
        (rule, true) ∈ c.removals b d ∧ (rule, false) ∈ c.additions b d u := by
    intro rule hrule
    rw [← hremovals] at hrule
    rcases mem_denied_or_served hrule with hkept | hgone
    · exact .inl hkept
    · have htried := hgone
      rw [← hadditions] at htried
      rcases mem_denied_or_served htried with hlost | hmoved
      · exact .inr (.inr ⟨mem_served.mp hgone, mem_denied.mp hlost⟩)
      · exact .inr (.inl hmoved)
  have hdistinct := h.distinct d
  have hclear : ∀ d', (c.clearRules d).rulesFor d' = (c.flush b d).rulesFor d' := by
    intro d'
    rcases h.cases with hreach | ⟨hnone, hempty⟩
    · rw [clearRules, withBackend, hreach.backend]
    · rw [clearRules, withBackend_none hnone, flush_rules hdistinct, removals, hempty, hempty]
      exact (ite_self _).symm
  have hupdate : ∀ d', (c.updateRules d u).rulesFor d' = (c.rebind b d u).rulesFor d' := by
    intro d'
    rcases h.cases with hreach | ⟨hnone, hempty⟩
    · rw [updateRules, withBackend, hreach.backend]
    · rw [updateRules, withBackend_none hnone, rebind_rules hdistinct, additions, removals, hempty,
        hempty]
      exact (ite_self _).symm
  exact ⟨fun d' => (hclear d').trans (flush_rules hdistinct d'),
    fun d' => (hupdate d').trans (rebind_rules hdistinct d'), hremovals, hadditions,
    fun _ _ _ => find?_installEach hdistinct, hmissing⟩

/-- One of a few rules for different neighbors. -/
def ruleFor (neighbor : UInt16) : Rule :=
  ⟨100, 10, ⟨#v[0x2001, 0xdb8, 0, 0, 0, 0, 0, neighbor]⟩, .zero, .zero⟩

/-- The entry of the first rule cannot be deleted, and that of the third one cannot be put under
another upstream. -/
def sticky (_ : List Entry) : Call → Option String
  | .table .downstream6 (.delete key) => if key = (ruleFor 1).key.bytes then some "busy" else none
  | .table .downstream6 (.update key _) =>
    if key = ((ruleFor 3).onUpstream 200).key.bytes then some "full" else none
  | _ => none

/-- A controller with four rules. -/
def loaded : Controller :=
  (start .default (.tables fun _ => true) true (.failing sticky .sorted)).undergoAll .tables
    ([1, 2, 3, 4].map fun n => .operation (.event (.addRule "wlan0" (ruleFor n))))

/-- Cleared, it keeps the first rule. Moved, that rule stays in front, the third one is lost and the
others follow on the other upstream. -/
theorem rulesFor_bulk_loaded :
    Underway .tables (.failing sticky .sorted) loaded ∧
    (loaded.clearRules "wlan0").rulesFor "wlan0" = [ruleFor 1] ∧
    (loaded.updateRules "wlan0" 200).rulesFor "wlan0" =
      [ruleFor 1, (ruleFor 2).onUpstream 200, (ruleFor 4).onUpstream 200] ∧
    (ruleFor 3, true) ∈ loaded.removals .tables "wlan0" ∧
    (ruleFor 3, false) ∈ loaded.additions .tables "wlan0" 200 := by
  have hbackend : (start .default (.tables fun _ => true) true (.failing sticky .sorted)).backend =
      some .tables := rfl
  have hunderway : Underway .tables (.failing sticky .sorted) loaded :=
    ⟨_, _, _, _, fun _ hb => (Option.some.inj (hbackend.symm.trans hb)).symm, rfl⟩
  have hremovals : loaded.removals .tables "wlan0" =
      [(ruleFor 1, false), (ruleFor 2, true), (ruleFor 3, true), (ruleFor 4, true)] := by
    decide +kernel
  have hadditions : loaded.additions .tables "wlan0" 200 =
      [(ruleFor 2, true), (ruleFor 3, false), (ruleFor 4, true)] := by
    decide +kernel
  obtain ⟨hclear, hupdate, -⟩ := rulesFor_bulk hunderway "wlan0" 200
  have hcleared := hclear "wlan0"
  have hupdated := hupdate "wlan0"
  rw [if_pos rfl, hremovals] at hcleared
  rw [if_pos rfl, hremovals, hadditions] at hupdated
  exact ⟨hunderway, hcleared, hupdated, by simp [hremovals], by simp [hadditions]⟩

end Controller

end FastPath
