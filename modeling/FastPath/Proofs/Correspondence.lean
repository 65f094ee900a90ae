import FastPath.Proofs.Counters
import FastPath.Proofs.Mirror

/-!
# Kernel tables and what the daemon keeps

The kernel tables and the daemon keep the same things in different shapes. Where the daemon has the
parcel of a rule the kernel has its target, and the kernel has counters from the first rule of an
upstream on, while the daemon has them only once there was traffic. Stores that `Match` go on
matching while the same is asked of both, and what is read off them is the same.
-/

namespace FastPath

open Std

/-- The target that the kernel has where the daemon has the parcel. -/
def Parcel.image (p : Parcel) : Target :=
  ⟨p.output, p.target, p.source, Target.ipv6EtherType, Target.defaultMtu⟩

namespace Stores

/-- The kernel tables of `x` have what the daemon of `y` keeps. Each parcel is under its own key,
and final readings are reported under the index that was asked for. -/
structure Match (x y : Stores) : Prop where
  rules : ∀ k : RuleKey, x.kernel.downstream6[k]? = y.daemon.rules[k]?.map Parcel.image
  keys : ∀ {k : RuleKey} {parcel : Parcel}, y.daemon.rules[k]? = some parcel → parcel.key = k
  limits : x.kernel.limit = y.daemon.quotas
  counted : ∀ i, x.counted .tables i = y.counted .daemon i
  counters : ∀ i, i ∈ y.daemon.stats → i ∈ x.kernel.stats
  reportedAs : y.daemon.reportedAs = ∅

variable {x y x' y' : Stores}

/-- A change of limits and counters that is nothing to rules and traffic. -/
theorem Match.same (h : x.Match y) (hx : Same .tables x x') (hy : Same .daemon y y')
    (hlimits : x'.kernel.limit = y'.daemon.quotas)
    (hcounters : ∀ i, i ∈ y'.daemon.stats → i ∈ x'.kernel.stats) : x'.Match y' where
  rules k := by rw [hx.rules, hy.parcels, h.rules]
  keys hk := h.keys (hy.parcels ▸ hk)
  limits := hlimits
  counted i := by rw [hx.counted, hy.counted, h.counted]
  counters := hcounters
  reportedAs := hy.reportedAs.trans h.reportedAs

/-- A rule is installed in both. -/
theorem Match.install (h : x.Match y) (r : Rule) :
    (x.install .tables r).Match (y.install .daemon r) where
  rules k := by
    show (x.kernel.downstream6.insert r.key r.target)[k]? =
      (y.daemon.rules.insert r.key r.parcel)[k]?.map Parcel.image
    rw [ExtTreeMap.getElem?_insert, ExtTreeMap.getElem?_insert]
    split
    · rfl
    · exact h.rules k
  keys := by
    intro k parcel hk
    have hinsert : (y.daemon.rules.insert r.key r.parcel)[k]? = some parcel := hk
    rw [ExtTreeMap.getElem?_insert] at hinsert
    split at hinsert
    · rename_i hkey
      rw [← Option.some.inj hinsert]
      exact Std.compare_eq_iff_eq.mp hkey
    · exact h.keys hinsert
  limits := h.limits
  counted := h.counted
  counters := h.counters
  reportedAs := h.reportedAs

/-- A rule is removed from both. -/
theorem Match.uninstall (h : x.Match y) (r : Rule) :
    (x.uninstall .tables r).Match (y.uninstall .daemon r) where
  rules k := by
    show (x.kernel.downstream6.erase r.key)[k]? =
      (y.daemon.rules.erase r.key)[k]?.map Parcel.image
    rw [ExtTreeMap.getElem?_erase, ExtTreeMap.getElem?_erase]
    split
    · rfl
    · exact h.rules k
  keys := by
    intro k parcel hk
    have herase : (y.daemon.rules.erase r.key)[k]? = some parcel := hk
    rw [ExtTreeMap.getElem?_erase] at herase
    split at herase
    · cases herase
    · exact h.keys herase
  limits := h.limits
  counted := h.counted
  counters := h.counters
  reportedAs := h.reportedAs

/-- A binding is nothing to what matches. -/
theorem Match.bind (h : x.Match y) (d u : IfIndex) :
    (x.bind .tables d u).Match (y.bind .daemon d u) :=
  h.same (same_bind x d u) (same_bind y d u) h.limits h.counters

/-- Nor is its removal. -/
theorem Match.unbind (h : x.Match y) (d : IfIndex) :
    (x.unbind .tables d).Match (y.unbind .daemon d) :=
  h.same (same_unbind x d) (same_unbind y d) h.limits h.counters

/-- A limit is set in both. -/
theorem Match.setLimit (h : x.Match y) (i : IfIndex) (q : Quota) :
    (x.setLimit .tables i q).Match (y.setLimit .daemon i q) := by
  refine h.same (same_setLimit x i q) (same_setLimit y i q) ?_ h.counters
  exact congrArg (·.insert i q) h.limits

/-- The first limit gives the kernel counters, which count nothing yet. -/
theorem Match.grant (h : x.Match y) (i : IfIndex) (q : Quota) :
    (x.grant .tables i q).Match (y.grant .daemon i q) := by
  refine h.same ((same_openCounters x i).trans (same_setLimit _ i q))
    ((same_openCounters y i).trans (same_setLimit _ i q)) ?_ fun j hj => ?_
  · have hgrant : (x.grant .tables i q).limits .tables = x.kernel.limit.insert i q :=
      limits_grant (b := .tables) x i q nofun
    exact hgrant.trans (congrArg (·.insert i q) h.limits)
  · exact (mem_stats_grant x i q j).mpr (ExtTreeMap.mem_insert.mpr (.inr (h.counters j hj)))

/-- Counters and limit are dropped from both. -/
theorem Match.revoke (h : x.Match y) (i : IfIndex) :
    (x.revoke .tables i).Match (y.revoke .daemon i) where
  rules := h.rules
  keys := h.keys
  limits := congrArg (·.erase i) h.limits
  counted j := by
    have hx := (same_dropLimit (b := .tables) (x.closeCounters .tables i) i).counted j
    have hy := (same_dropLimit (b := .daemon) (y.closeCounters .daemon i) i).counted j
    rw [Stores.revoke, Stores.revoke, hx, hy, counted_closeCounters, counted_closeCounters,
      h.counted]
  counters j hj := by
    have hdaemon : j ∈ y.daemon.stats.erase i := hj
    show j ∈ x.kernel.stats.erase i
    rw [ExtTreeMap.mem_erase] at hdaemon ⊢
    exact hdaemon.imp_right (h.counters j)
  reportedAs := h.reportedAs

/-- The daemon reports under the index that was asked for, as the kernel tables do. -/
theorem Match.reportedAs_eq (h : x.Match y) (i : IfIndex) :
    y.reportedAs .daemon i = x.reportedAs .tables i := by
  show y.daemon.reportedAs.getD i i = i
  rw [h.reportedAs]
  rfl

/-- Traffic of an interface that the kernel has counters for is counted in both. -/
theorem Match.count {p q : Platform} (h : p.stores.Match q.stores) {i : IfIndex}
    (hi : i ∈ p.kernel.stats) (more : Counters) :
    (p.count .tables i more).stores.Match (q.count .daemon i more).stores := by
  obtain ⟨kernelStats, daemonStats, hcount, hmem⟩ := p.count_cases .tables i more
  have hcounted : ∀ j, (p.count .tables i more).stores.counted .tables j =
      (q.count .daemon i more).stores.counted .daemon j := by
    intro j
    have hhas : p.stores.HasCounters .tables i := fun _ => hi
    have hhas' : q.stores.HasCounters .daemon i := nofun
    simp only [counted_count, h.counted, hhas, hhas', and_true]
  rw [hcount] at hcounted ⊢
  refine ⟨h.rules, h.keys, h.limits, hcounted, fun j hj => (hmem j).mpr ?_, h.reportedAs⟩
  have hj : j ∈ q.daemon.stats.insert i _ := hj
  rw [ExtTreeMap.mem_insert, Std.compare_eq_iff_eq] at hj
  rcases hj with rfl | hj
  · exact hi
  · exact h.counters j hj

/-- What readings leave in the record of an upstream. -/
theorem records_readings (b : Backend) (x : Stores) (t : UpstreamTable) (i : IfIndex) :
    ((x.readings b).foldl UpstreamTable.recordReading t).records[i]? =
      if i ∈ (x.readings b).map InterfaceTraffic.ifIndex
      then some { t.findOrFresh i with lastRead := x.counted b i } else t.records[i]? := by
  obtain ⟨hdistinct, hcounted⟩ := readings_cases b x
  obtain ⟨hread, hother⟩ := t.records_foldl_recordReading hdistinct
  split
  · rename_i hi
    obtain ⟨r, hr, rfl⟩ := List.mem_map.mp hi
    rw [hread r hr, hcounted r hr]
  · rename_i hi
    exact hother i hi

/-- Readings are of the interfaces that have counters. -/
theorem mem_readings_iff {ν : Type} (t : ExtTreeMap IfIndex ν) (f : ν → Traffic) (i : IfIndex) :
    i ∈ (t.toList.map fun (i, v) => (⟨i, f v⟩ : InterfaceTraffic)).map InterfaceTraffic.ifIndex ↔
      i ∈ t := by
  rw [List.map_map, ← ExtTreeMap.mem_keys, ← ExtTreeMap.map_fst_toList_eq_keys]
  rfl

/-- Readings of matching stores leave the same, if the upstreams with counters are known and what
has no counters in the daemon has not been read either. -/
theorem Match.foldl_readings (h : x.Match y) {t : UpstreamTable}
    (hknown : ∀ i ∈ x.kernel.stats, i ∈ t.records)
    (hread : ∀ i, i ∉ y.daemon.stats → (t.account i).lastRead = .zero) :
    (y.readings .daemon).foldl UpstreamTable.recordReading t =
      (x.readings .tables).foldl UpstreamTable.recordReading t := by
  rw [UpstreamTable.foldl_recordReading_eq, UpstreamTable.foldl_recordReading_eq t (x.readings _)]
  refine congrArg (fun records => { t with records }) (ExtTreeMap.ext_getElem? fun i => ?_)
  have hkernel : i ∈ (x.readings .tables).map InterfaceTraffic.ifIndex ↔ i ∈ x.kernel.stats :=
    mem_readings_iff x.kernel.stats Counters.traffic i
  have hdaemon : i ∈ (y.readings .daemon).map InterfaceTraffic.ifIndex ↔ i ∈ y.daemon.stats :=
    mem_readings_iff y.daemon.stats id i
  simp only [records_readings, hkernel, hdaemon, h.counted]
  by_cases hy : i ∈ y.daemon.stats
  · rw [if_pos hy, if_pos (h.counters i hy)]
  · rw [if_neg hy]
    split
    · -- The kernel has counters that have counted nothing, and nothing was read before.
      rename_i hx
      have hzero : y.counted .daemon i = .zero := ExtTreeMap.getD_eq_fallback hy
      have hlast := hread i hy
      rw [UpstreamTable.account, UpstreamTable.findOrFresh] at hlast
      rw [hzero, UpstreamTable.findOrFresh]
      rw [ExtTreeMap.getElem?_eq_some_getElem (hknown i hx)] at hlast ⊢
      rw [← hlast]
      rfl
    · rfl

end Stores

/-! ## What others are told -/

namespace Platform

/-- What others than the backend are told, the latest first. -/
def outward (p : Platform) : List Entry :=
  p.past.filter fun e => !e.isPrivate

/-- Work for the backend is told to nobody else. -/
theorem Works.outward {p q : Platform} {x : Stores} (h : p.Works x q) : q.outward = p.outward :=
  h.past.filter_eq fun he => by simp [he]

/-- Neither platform refuses anything, and others are told the same on both. -/
structure Paired (p q : Platform) : Prop where
  left : p.Compliant
  right : q.Compliant
  outward : q.outward = p.outward

variable {p q p' q' : Platform} {x y : Stores}

/-- Work for the backends leaves platforms paired. -/
theorem Paired.works (h : p.Paired q) (hp : p.Works x p') (hq : q.Works y q') : p'.Paired q' where
  left := hp.compliant h.left
  right := hq.compliant h.right
  outward := hq.outward.trans (h.outward.trans hp.outward.symm)

/-- The same is written on both platforms. -/
theorem Paired.write (h : p.Paired q) (es : List Entry) : (p.write es).Paired (q.write es) where
  left := h.left.write es
  right := h.right.write es
  outward := by
    show (es ++ q.past).filter _ = (es ++ p.past).filter _
    rw [List.filter_append, List.filter_append]
    exact congrArg _ h.outward

/-- The same notice is given on both platforms. -/
theorem Paired.note (h : p.Paired q) (n : Notice) : (p.note n).Paired (q.note n) :=
  h.write [.notice n]

end Platform

end FastPath
