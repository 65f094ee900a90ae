import FastPath.Proofs.Attribution
import FastPath.Proofs.Waiting

/-!
# Limits and names in either order

A limit that comes before the name of its upstream waits and is applied once the upstream has the
name. A limit that comes after it is applied right away, on top of the one that waited, if one did.
Unless a call fails, both lead to the same limits, the same names and the same stores
(`limit_name_comm`). This depends on a relation between two tables that nobody checks: no limit
waits for a name that an upstream has (`Limited.notMem_pendingLimits`), so that a name which is not
news may leave the limits that wait alone.
-/

namespace FastPath

open Std

/-! ## Calls that fail -/

/-- An entry that tells of a call that failed. -/
def Entry.isFailedCall : Entry → Bool
  | .call _ refusal => refusal.isSome
  | _ => false

/-- The stores once a limit has been set again: it takes counters for it to stand beside. -/
def Stores.resetLimit (b : Backend) (i : IfIndex) (q : Quota) (x : Stores) : Stores :=
  if x.HasCounters b i then x.setLimit b i q else x

/-- Of two limits the later one remains. -/
theorem Stores.resetLimit_resetLimit (b : Backend) (i : IfIndex) (q q' : Quota) (x : Stores) :
    (x.resetLimit b i q).resetLimit b i q' = x.resetLimit b i q' := by
  have hinsert : ∀ t : ExtTreeMap IfIndex Quota, (t.insert i q).insert i q' = t.insert i q' := by
    intro t
    refine ExtTreeMap.ext_getElem? fun j => ?_
    simp only [ExtTreeMap.getElem?_insert]
    split <;> rfl
  unfold resetLimit
  by_cases hx : x.HasCounters b i
  · have hset : (x.setLimit b i q).HasCounters b i := by cases b <;> exact hx
    rw [if_pos hx, if_pos hset, if_pos hx]
    cases b with
    | tables => simp only [setLimit, edit, Slot.limit, hinsert]
    | daemon => simp only [setLimit, hinsert]
    | rehearsal => rfl
  · rw [if_neg hx, if_neg hx]

namespace Platform

variable {p q : Platform} {α : Type}

/-- Where nothing fails after a call, it is the call that failed. -/
theorem shows_of_ask_bind {call : Call} {g : Unit → Act α} {e : Failure}
    (hg : ∀ m : Platform, ∃ v m', m.perform (g ()) = (.ok v, m'))
    (h : p.perform (Act.ask call >>= g) = (.error e, q)) : p.Shows Entry.isFailedCall q := by
  rcases perform_ask_bind_told h with ⟨reason, -, -, rfl⟩ | ⟨-, h⟩
  · exact shows_push p rfl
  · obtain ⟨v, m, hok⟩ := hg (p.push (.call call none))
    cases hok.symm.trans h

end Platform

open Platform

variable {b : Backend} {p q : Platform} {i : IfIndex} {quota : Quota}

/-- Beside counters a limit fails only where an access does. -/
theorem TableBackend.shows_setQuota {e : Failure} (hcounters : i ∈ p.kernel.stats)
    (h : p.perform (setQuota i quota false) = (.error e, q)) : p.Shows Entry.isFailedCall q := by
  rw [setQuota] at h
  rcases perform_within_bind_cases h with ⟨existing, m, hget, h⟩ | ⟨_, hget, -⟩
  · rcases Slot.get_told hget with ⟨_, _, hres, -⟩ | ⟨hres, rfl⟩
    · cases hres
    · -- The counters are found, so that only the update is left to fail.
      obtain rfl := Except.ok.inj hres
      obtain ⟨counters, hfound⟩ := Option.isSome_iff_exists.mp
        (ExtTreeMap.mem_iff_isSome_getElem?.mp hcounters)
      have hcontent : (Slot.stats.content p)[i]? = some counters := hfound
      rw [hcontent] at h
      have hupdate : (p.push (.call (lookUp i) none)).perform
          ((Slot.limit.update i quota).within (.updateLimit i)) = (.error e, q) := h
      obtain ⟨res, hupdate, hok, -⟩ := perform_within_cases hupdate
      cases res with
      | ok v => cases hok v rfl
      | error e' =>
        have hshows := shows_of_ask_bind (fun m => ⟨_, _, rfl⟩) hupdate
        exact hshows.mono (List.suffix_cons ..) List.suffix_rfl
  · exact shows_of_ask_bind (fun m => ⟨_, _, rfl⟩) hget

namespace Backend

/-- Beside counters a limit fails only where a call does. -/
theorem shows_setQuota {e : Failure} (hcounters : p.stores.HasCounters b i)
    (h : p.perform (b.setQuota i quota false) = (.error e, q)) : p.Shows Entry.isFailedCall q := by
  cases b with
  | tables =>
    let asked := p.announce (.request (.setQuota i quota false))
    have hthere : i ∈ asked.kernel.stats := hcounters rfl
    have hserve : asked.perform (TableBackend.setQuota i quota false) = (.error e, q) := h
    exact (TableBackend.shows_setQuota hthere hserve).mono (List.suffix_cons ..) List.suffix_rfl
  | daemon =>
    have hserve : (p.announce (.request (.setQuota i quota false))).perform
        ((Daemon.setQuota i quota).within (.daemonSetQuota i)) = (.error e, q) := h
    obtain ⟨res, hcall, hok, -⟩ := perform_within_cases hserve
    cases res with
    | ok v => cases hok v rfl
    | error e' =>
      have hshows := shows_of_ask_bind (fun m => ⟨_, _, rfl⟩) hcall
      exact hshows.mono (List.suffix_cons ..) List.suffix_rfl
  | rehearsal => exact shows_of_ask_bind (fun m => ⟨_, _, rfl⟩) h

/-- A limit is set again if there are counters, unless a call fails. -/
theorem setQuota_again {res : Except Failure Unit}
    (h : p.perform (b.setQuota i quota false) = (res, q)) :
    p.past <:+ q.past ∧
      (p.Shows Entry.isFailedCall q ∨ q.stores = p.stores.resetLimit b i quota) := by
  unfold Stores.resetLimit
  rcases setQuota_cases h with ⟨⟨e, rfl⟩, hs, -⟩ | ⟨-, hfirst⟩ | ⟨-, hs, hnone, -⟩ |
    ⟨-, hfirst | hcounters, hs⟩
  · refine ⟨hs.quiet.past_suffix, ?_⟩
    by_cases hcounters : p.stores.HasCounters b i
    · exact .inl (shows_setQuota hcounters h)
    · rw [if_neg hcounters]
      exact .inr hs.stores
  · cases hfirst
  · rw [if_neg hnone]
    exact ⟨hs.quiet.past_suffix, .inr hs.stores⟩
  · cases hfirst
  · rw [if_pos hcounters]
    exact ⟨hs.quiet.past_suffix, .inr hs.stores⟩

end Backend

/-! ## Names and limits of one upstream -/

namespace UpstreamTable

variable {t : UpstreamTable} {j : IfIndex} {n : String}

/-- Two changes of one record are one change. -/
theorem modify_modify (t : UpstreamTable) (i : IfIndex) (f g : Upstream → Upstream) :
    (t.modify i f).modify i g = t.modify i fun u => g (f u) := by
  have hrecord : (t.modify i f).findOrFresh i = f (t.findOrFresh i) := by
    rw [findOrFresh_modify, if_pos rfl]
  rw [modify, hrecord]
  refine congrArg (fun records => { t with records }) (ExtTreeMap.ext_getElem? fun k => ?_)
  simp only [modify, set, ExtTreeMap.getElem?_insert]
  split <;> rfl

theorem nameOf_setName (t : UpstreamTable) (i j : IfIndex) (n : String) :
    (t.setName i n).nameOf j = if i = j then some n else t.nameOf j := by
  rw [nameOf_eq, account_setName, nameOf_eq]
  split <;> rfl

/-- A limit is nothing to the names. -/
theorem nameOf_modify_quota (t : UpstreamTable) (i j : IfIndex) (q : Quota) :
    (t.modify i fun u => { u with quota := q }).nameOf j = t.nameOf j := by
  rw [nameOf_eq, account_modify_quota, nameOf_eq]

/-- A name that an upstream has already is not news. -/
theorem setName_eq_self (h : t.nameOf i = some n) : t.setName i n = t := by
  obtain ⟨u, hu, hname⟩ := Option.bind_eq_some_iff.mp h
  have hrecord : { t.findOrFresh i with name := some n } = u := by
    rw [findOrFresh, hu, Option.getD_some, ← hname]
  rw [setName, modify, hrecord, set]
  refine congrArg (fun records => { t with records }) (ExtTreeMap.ext_getElem? fun k => ?_)
  rw [ExtTreeMap.getElem?_insert]
  split
  · rename_i hk
    rw [← Std.compare_eq_iff_eq.mp hk, hu]
  · rfl

/-- The only upstream with a name is found by it. -/
theorem findByName_of_only (hname : t.nameOf i = some n)
    (honly : ∀ j, t.nameOf j = some n → j = i) : t.findByName n = some i :=
  (t.findByName_eq_some_iff i n).mpr
    ⟨hname, fun j hj => by rw [honly j hj]; exact UInt32.le_refl i⟩

/-- A name that no other upstream has is found once the upstream has it. -/
theorem findByName_setName (honly : ∀ j, t.nameOf j = some n → j = i) :
    (t.setName i n).findByName n = some i := by
  refine findByName_of_only ?_ fun j hj => ?_
  · rw [nameOf_setName, if_pos rfl]
  · rw [nameOf_setName] at hj
    split at hj
    · rename_i hij
      exact hij.symm
    · exact honly j hj

/-- A limit is nothing to what is found by a name. -/
theorem findByName_modify_quota (t : UpstreamTable) (j : IfIndex) (q : Quota) (n : String) :
    (t.modify j fun u => { u with quota := q }).findByName n = t.findByName n := by
  refine Option.ext fun i => ?_
  rw [findByName_eq_some_iff, findByName_eq_some_iff]
  simp only [nameOf_modify_quota]

/-- Nothing is found by a name that no upstream has. -/
theorem findByName_eq_none_iff : t.findByName n = none ↔ ∀ j, t.nameOf j ≠ some n := by
  constructor
  · intro hnone j hj
    obtain ⟨u, hu, hname⟩ := Option.bind_eq_some_iff.mp hj
    have hmem := ExtTreeMap.mem_toList_iff_getElem?_eq_some.mpr hu
    exact List.find?_eq_none.mp (Option.map_eq_none_iff.mp hnone) _ hmem (decide_eq_true hname)
  · exact fun hnone => Option.eq_none_iff_forall_ne_some.mpr fun j hj =>
      hnone j ((t.findByName_eq_some_iff j n).mp hj).1

end UpstreamTable

namespace Controller

variable {c m : Controller} {n : String} {q : Quota}

/-- The stores once a limit is applied to an upstream: it is set again if rules use the upstream. -/
def storesWithLimit (b : Backend) (i : IfIndex) (q : Quota) (c : Controller) : Stores :=
  if c.upstreams.ruleCount i = 0 then c.platform.stores else c.platform.stores.resetLimit b i q

/-- From `c` to `c'` an upstream got a name and a limit, and none is left to wait for the name. The
limit is in the stores if rules use the upstream, unless a call has failed. -/
structure Capped (b : Backend) (i : IfIndex) (n : String) (q : Quota) (c c' : Controller) :
    Prop where
  upstreams : c'.upstreams = (c.upstreams.setName i n).modify i fun u => { u with quota := q }
  pending : c'.pendingLimits = c.pendingLimits.erase n
  stores : c.platform.Shows Entry.isFailedCall c'.platform ∨
    c'.platform.stores = c.storesWithLimit b i q

/-- A limit that is applied is remembered, and it is set again if rules use the upstream. -/
theorem applyLimit_again (b : Backend) (i : IfIndex) (q : Quota) (c : Controller) :
    ∃ r, c.applyLimit b i q = { c with
        upstreams := c.upstreams.modify i fun u => { u with quota := q }
        platform := r } ∧ c.platform.past <:+ r.past ∧
      (c.platform.Shows Entry.isFailedCall r ∨ r.stores = c.storesWithLimit b i q) := by
  unfold storesWithLimit
  refine exists_applyLimit (R := fun r => c.platform.past <:+ r.past ∧
    (c.platform.Shows Entry.isFailedCall r ∨ r.stores = _)) b i q c (fun hzero => ?_)
    (fun hused _ _ hset => ?_) fun {r} f h => ?_
  · rw [if_pos hzero]
    exact ⟨List.suffix_cons .., .inr rfl⟩
  · rw [if_neg hused]
    exact Backend.setQuota_again hset
  · have hlonger : r.past <:+ (r.note (.limitNotSet i f)).past := List.suffix_cons ..
    exact ⟨h.1.trans hlonger, h.2.imp_left (·.mono List.suffix_rfl hlonger)⟩

/-- The last step to a name with a limit, whatever came before it: the limit is applied. -/
theorem capped_applyLimit
    (hupstreams : (m.upstreams.modify i fun u => { u with quota := q }) =
      (c.upstreams.setName i n).modify i fun u => { u with quota := q })
    (hpending : m.pendingLimits = c.pendingLimits.erase n)
    (hpast : c.platform.past <:+ m.platform.past)
    (hstores : c.platform.Shows Entry.isFailedCall m.platform ∨
      m.storesWithLimit b i q = c.storesWithLimit b i q) :
    Capped b i n q c (m.applyLimit b i q) := by
  obtain ⟨r, happly, hlonger, hr⟩ := applyLimit_again b i q m
  rw [happly]
  refine ⟨hupstreams, hpending, ?_⟩
  rcases hstores with hfailed | hstores
  · exact .inl (hfailed.mono List.suffix_rfl hlonger)
  · rw [← hstores]
    exact hr.imp_left (·.mono hpast List.suffix_rfl)

/-- A name is nothing to what a limit makes of the stores. -/
theorem storesWithLimit_setName (hstores : m.platform.stores = c.platform.stores)
    (hname : m.upstreams = c.upstreams.setName i n) :
    m.storesWithLimit b i q = c.storesWithLimit b i q := by
  rw [storesWithLimit, storesWithLimit, hname, UpstreamTable.ruleCount_setName, hstores]

/-- Nor is an earlier limit, unless a call has failed. -/
theorem storesWithLimit_applyLimit (b : Backend) (i : IfIndex) (q q' : Quota) (c : Controller) :
    c.platform.Shows Entry.isFailedCall (c.applyLimit b i q').platform ∨
      (c.applyLimit b i q').storesWithLimit b i q = c.storesWithLimit b i q := by
  obtain ⟨r, happly, -, hr⟩ := applyLimit_again b i q' c
  rw [happly]
  refine hr.imp_right fun hr => ?_
  unfold storesWithLimit at hr ⊢
  simp only [UpstreamTable.ruleCount_modify_quota, hr]
  split
  · rfl
  · exact Stores.resetLimit_resetLimit ..

/-! ## Requests -/

/-- A name that an upstream has already changes nothing. -/
theorem nameUpstream_of_old (hi : i ≠ 0) (hn : n ≠ "") (hname : c.upstreams.nameOf i = some n) :
    c.nameUpstream b i n = c := by
  have hvalid : ¬(i = 0 ∨ n.isEmpty) := by simp [hi, hn]
  rw [nameUpstream, if_neg hvalid, rename]
  simp only [hname, if_true]

/-- A new name is recorded, and then the limit that waits for it is looked for. -/
theorem nameUpstream_of_new (hi : i ≠ 0) (hn : n ≠ "") (hname : c.upstreams.nameOf i ≠ some n) :
    ∃ p, c.platform.Keeps p ∧ c.nameUpstream b i n =
      { c with upstreams := c.upstreams.setName i n, platform := p }.resolveLimit b i n := by
  have hvalid : ¬(i = 0 ∨ n.isEmpty) := by simp [hi, hn]
  rw [nameUpstream, if_neg hvalid, rename]
  cases hold : c.upstreams.nameOf i with
  | none => exact ⟨_, keeps_note _ rfl, rfl⟩
  | some old =>
    have hne : old ≠ n := fun heq => hname (heq ▸ hold)
    simp only [if_neg hne]
    exact ⟨_, (keeps_note _ rfl).trans (keeps_note _ rfl), rfl⟩

/-- A limit for a name with a bearer is applied. -/
theorem limit_of_some (hq : q.Acceptable) (hfind : c.upstreams.findByName n = some i) :
    c.limit b n q = (.ok (), c.applyLimit b i q) := by
  have hcheck : q.check = .ok () := if_pos hq
  simp only [limit, hcheck, hfind]

/-- A limit for a name without a bearer waits. -/
theorem limit_of_none (hq : q.Acceptable) (hfind : c.upstreams.findByName n = none) :
    c.limit b n q = (.ok (), { c with
      pendingLimits := c.pendingLimits.insert n q }.note (.limitPending n q)) := by
  have hcheck : q.check = .ok () := if_pos hq
  simp only [limit, hcheck, hfind]

/-- A limit that waits for a name is applied. -/
theorem resolveLimit_of_some (hwaits : c.pendingLimits[n]? = some q) :
    c.resolveLimit b i n = ({ c with
      pendingLimits := c.pendingLimits.erase n }.note (.pendingLimitApplied n q)).applyLimit
        b i q := by
  simp only [resolveLimit, hwaits]

/-! ## Either order -/

/-- Where the upstream has the name already, a limit is all there is to apply. -/
theorem capped_of_named (hname : c.upstreams.nameOf i = some n) (hnone : n ∉ c.pendingLimits) :
    Capped b i n q c (c.applyLimit b i q) := by
  refine capped_applyLimit ?_ (erase_eq_self hnone).symm List.suffix_rfl (.inr rfl)
  rw [UpstreamTable.setName_eq_self hname]

section

variable (hi : i ≠ 0) (hn : n ≠ "") (hq : q.Acceptable)
  (honly : ∀ j, c.upstreams.nameOf j = some n → j = i)

include hi hn hq honly

/-- The limit comes first: it waits, unless the upstream has the name already. -/
theorem capped_limit_name (hwait : c.upstreams.nameOf i = some n → n ∉ c.pendingLimits) :
    (c.limit b n q).1 = .ok () ∧ Capped b i n q c ((c.limit b n q).2.nameUpstream b i n) := by
  by_cases hname : c.upstreams.nameOf i = some n
  · have hlimit := limit_of_some (b := b) hq (UpstreamTable.findByName_of_only hname honly)
    obtain ⟨r, happly, -⟩ := applyLimit_again b i q c
    have hkept : (c.applyLimit b i q).upstreams.nameOf i = some n := by
      rw [happly, UpstreamTable.nameOf_modify_quota, hname]
    rw [hlimit, nameUpstream_of_old hi hn hkept]
    exact ⟨rfl, capped_of_named hname (hwait hname)⟩
  · have hnone : ∀ j, c.upstreams.nameOf j ≠ some n := fun j hj => hname (honly j hj ▸ hj)
    rw [limit_of_none hq (UpstreamTable.findByName_eq_none_iff.mpr hnone)]
    let w := { c with pendingLimits := c.pendingLimits.insert n q }.note (.limitPending n q)
    obtain ⟨p, hp, hnew⟩ := nameUpstream_of_new (b := b) (c := w) hi hn hname
    have hwaits : w.pendingLimits[n]? = some q := ExtTreeMap.getElem?_insert_self
    let m := { w with upstreams := w.upstreams.setName i n, platform := p }
    have happlied := hnew.trans (resolveLimit_of_some (b := b) (i := i) (c := m) hwaits)
    rw [happlied]
    refine ⟨rfl, capped_applyLimit rfl ?_ ?_ (.inr (storesWithLimit_setName ?_ rfl))⟩
    · exact erase_insert c.pendingLimits n q
    · have hnamed : c.platform.past <:+ p.past :=
        (List.suffix_cons ..).trans hp.quiet.past_suffix
      exact hnamed.trans (List.suffix_cons ..)
    · exact hp.stores

/-- The name comes first: a limit that waited for it is applied before the new one is. -/
theorem capped_name_limit (hwait : c.upstreams.nameOf i = some n → n ∉ c.pendingLimits) :
    ((c.nameUpstream b i n).limit b n q).1 = .ok () ∧
      Capped b i n q c ((c.nameUpstream b i n).limit b n q).2 := by
  by_cases hname : c.upstreams.nameOf i = some n
  · rw [nameUpstream_of_old hi hn hname,
      limit_of_some hq (UpstreamTable.findByName_of_only hname honly)]
    exact ⟨rfl, capped_of_named hname (hwait hname)⟩
  · obtain ⟨p, hp, hnew⟩ := nameUpstream_of_new (b := b) hi hn hname
    let w := { c with upstreams := c.upstreams.setName i n, platform := p }
    have hfind : w.upstreams.findByName n = some i := UpstreamTable.findByName_setName honly
    have hstores : w.storesWithLimit b i q = c.storesWithLimit b i q :=
      storesWithLimit_setName hp.stores rfl
    rw [hnew]
    cases hold : w.pendingLimits[n]? with
    | none =>
      rw [resolveLimit_of_none hold, limit_of_some hq hfind]
      refine ⟨rfl, capped_applyLimit rfl ?_ hp.quiet.past_suffix (.inr hstores)⟩
      rw [erase_eq_self]
      rw [ExtTreeMap.mem_iff_isSome_getElem?, hold]
      exact Bool.false_ne_true
    | some q' =>
      -- The limit that waited is applied, and the new one comes on top of it.
      let r := { w with pendingLimits := w.pendingLimits.erase n }.note (.pendingLimitApplied n q')
      have hr : c.platform.past <:+ r.platform.past :=
        hp.quiet.past_suffix.trans (List.suffix_cons ..)
      obtain ⟨s, happly, hs, -⟩ := applyLimit_again b i q' r
      have hfind' : (r.applyLimit b i q').upstreams.findByName n = some i := by
        rw [happly]
        exact (UpstreamTable.findByName_modify_quota ..).trans hfind
      rw [resolveLimit_of_some hold, limit_of_some hq hfind']
      refine ⟨rfl, capped_applyLimit ?_ ?_ ?_ ?_⟩
      · rw [happly]
        exact UpstreamTable.modify_modify w.upstreams i (fun u => { u with quota := q' })
          fun u => { u with quota := q }
      · rw [happly]
        rfl
      · rw [happly]
        exact hr.trans hs
      · refine (storesWithLimit_applyLimit b i q q' r).imp (·.mono hr List.suffix_rfl) fun h => ?_
        exact h.trans hstores

end

/-- A limit for a name and the name of the upstream can come in either order, whatever name, limit
and rules the upstream has and whatever limit waits for the name: unless a call fails, both orders
lead to the same upstreams, the same limits that wait and the same stores. -/
theorem limit_name_comm {p : Platform} (h : Reachable b p c) (hi : i ≠ 0) (hn : n ≠ "")
    (honly : ∀ j, c.upstreams.nameOf j = some n → j = i) (hq : q.Acceptable)
    (hfirst : c.platform.Writes (fun e => !e.isFailedCall)
      ((c.setLimit n q).2.addUpstreamName i n).platform)
    (hlast : c.platform.Writes (fun e => !e.isFailedCall)
      ((c.addUpstreamName i n).setLimit n q).2.platform) :
    let c₁ := (c.setLimit n q).2.addUpstreamName i n
    let c₂ := ((c.addUpstreamName i n).setLimit n q).2
    (c.setLimit n q).1 = .ok () ∧ ((c.addUpstreamName i n).setLimit n q).1 = .ok () ∧
      c₁.upstreams = c₂.upstreams ∧
      c₁.pendingLimits = c₂.pendingLimits ∧ n ∉ c₁.pendingLimits ∧
      c₁.platform.kernel = c₂.platform.kernel ∧ c₁.platform.daemon = c₂.platform.daemon ∧
      c₁.upstreams.nameOf i = some n ∧ c₁.upstreams.quota i = q := by
  obtain ⟨past, hpast⟩ := exists_limited h
  have hwait : c.upstreams.nameOf i = some n → n ∉ c.pendingLimits := hpast.notMem_pendingLimits
  -- The backend stays, so that both requests reach it in both orders.
  have hsteps : Steps b (fun _ _ => False) c (c.setLimit n q).2 := steps_setLimit c n q h.backend
  have hlimited : (c.setLimit n q).2.backend = some b := hsteps.backend_eq.trans h.backend
  have hnamed : (c.addUpstreamName i n).backend = some b :=
    backend_addUpstreamName c i n h.backend
  simp only [setLimit, addUpstreamName, withBackend, h.backend] at hlimited hnamed hfirst hlast ⊢
  simp only [hlimited, hnamed] at hfirst hlast ⊢
  obtain ⟨hok₁, h₁⟩ := capped_limit_name (b := b) hi hn hq honly hwait
  obtain ⟨hok₂, h₂⟩ := capped_name_limit (b := b) hi hn hq honly hwait
  have hstores₁ := h₁.stores.resolve_left fun hfailed => hfailed.not_writes hfirst
  have hstores₂ := h₂.stores.resolve_left fun hfailed => hfailed.not_writes hlast
  have hstores := hstores₁.trans hstores₂.symm
  refine ⟨hok₁, hok₂, h₁.upstreams.trans h₂.upstreams.symm, h₁.pending.trans h₂.pending.symm, ?_,
    congrArg Stores.kernel hstores, congrArg Stores.daemon hstores, ?_, ?_⟩
  · rw [h₁.pending]
    simp
  · rw [h₁.upstreams, UpstreamTable.nameOf_modify_quota, UpstreamTable.nameOf_setName, if_pos rfl]
  · rw [h₁.upstreams, UpstreamTable.quota_modify, if_pos rfl]

/-- An upstream with a rule and a name, while a limit waits for another name. -/
def onHold : Controller :=
  (start .default (.tables fun _ => true) true .empty).runAll
    [.event (.upstreamName 100 "rmnet0"), .event (.addRule "wlan0" (sharedRule 10)),
      .event (.setLimit "rmnet1" 7000)]

/-- In both orders the upstream ends with the new name, and with the limit that came last. -/
theorem limit_name_comm_onHold :
    let c₁ := (onHold.setLimit "rmnet1" 5000).2.addUpstreamName 100 "rmnet1"
    let c₂ := ((onHold.addUpstreamName 100 "rmnet1").setLimit "rmnet1" 5000).2
    Reachable .tables .empty onHold ∧
      (∀ j, onHold.upstreams.nameOf j = some "rmnet1" → j = 100) ∧
      c₁.upstreams = c₂.upstreams ∧ "rmnet1" ∉ c₁.pendingLimits ∧
      c₁.platform.kernel.limit = c₂.platform.kernel.limit ∧
      c₁.platform.kernel.limit[(100 : IfIndex)]? = some 5000 := by
  have hreach : Reachable .tables .empty onHold :=
    ⟨_, _, ⟨_, _, _, rfl, rfl⟩, (undergoAll_operations ..).symm⟩
  have hnobody : onHold.upstreams.findByName "rmnet1" = none := by decide +kernel
  have honly : ∀ j, onHold.upstreams.nameOf j = some "rmnet1" → j = 100 := fun j hj =>
    absurd hj (UpstreamTable.findByName_eq_none_iff.mp hnobody j)
  have hlimit (c : Controller) (hb : c.backend = some .tables) :
      c.platform.past <:+ (c.setLimit "rmnet1" 5000).2.platform.past := by
    have hsteps : Steps .tables (fun _ _ => True) c _ := steps_setLimit c "rmnet1" 5000 hb
    exact hsteps.past_suffix
  have hname (c : Controller) (hb : c.backend = some .tables) :
      c.platform.past <:+ (c.addUpstreamName 100 "rmnet1").platform.past := by
    have hsteps : Steps .tables (fun _ _ => True) c _ :=
      steps_addUpstreamName c 100 "rmnet1" (fun _ _ => trivial) hb
    exact hsteps.past_suffix
  obtain ⟨-, -, hupstreams, -, hnone, hkernel, -⟩ := limit_name_comm hreach (i := 100)
    (n := "rmnet1") (q := 5000) (by decide) (by decide) honly (by decide)
    (writes_of_suffix ((hlimit _ rfl).trans (hname _ rfl)) (by decide +kernel))
    (writes_of_suffix ((hname _ rfl).trans (hlimit _ rfl)) (by decide +kernel))
  refine ⟨hreach, honly, hupstreams, hnone, congrArg KernelTables.limit hkernel, ?_⟩
  decide +kernel

end Controller

end FastPath
