import FastPath.Proofs.Readings

/-!
# Counters that could not be had

The kernel enforces a limit only next to the counters of its upstream. They are created together
with the first limit, which the journal shows as a request, and every other limit is turned down
where they are not there. So counters that are missing after a first limit are missing for a reason
that the journal shows as well: the look-up failed, or the creation did. Such counters are
`Uncounted`, until they are asked for anew. What neither creates nor clears the counters of an
interface `Sustains` them, and the reason why they are missing as well.
-/

namespace FastPath

open Std

/-! ## What the journal tells -/

/-- The requests that create the counters of an interface. -/
def openings (u : IfIndex) : Reading Unit where
  asked
    | .setQuota i _ true => if i = u then some () else none
    | _ => none
  stored _ _ := none
  aside _ _ := none

/-- An entry that tells of no request to create the counters of an interface. -/
def Entry.isSilentOn (u : IfIndex) (e : Entry) : Bool :=
  ((openings u).pick e).isNone

/-- An entry that tells of a failed access to a kernel table. -/
def Entry.isFailedAccess : Entry → Bool
  | .call (.table ..) (some _) => true
  | _ => false

/-- What is not read is silent. -/
theorem Entry.isSilentOn_of_isUnread {e : Entry} (u : IfIndex) (h : e.isUnread) :
    e.isSilentOn u := by
  rw [isSilentOn, Reading.pick_of_isUnread h]
  rfl

/-- The look-up of the counters of an interface. -/
def lookUp (u : IfIndex) : Call :=
  .table .stats (.get (indexBytes u))

/-- The creation of the counters of an interface. -/
def creation (u : IfIndex) : Call :=
  .table .stats (.insert (indexBytes u) Counters.zero.bytes)

/-- By the journal, the counters of an interface were to be created along with a first limit, and
the look-up or the creation failed. They were not to be created again since. -/
inductive Uncounted (u : IfIndex) : List Entry → Prop
  | unread (quota : Quota) (reason : String) (past : List Entry) :
    Uncounted u (.call (lookUp u) (some (.refused reason)) ::
      .call (.request (.setQuota u quota true)) none :: past)
  | uncreated (quota : Quota) (reason : String) (past : List Entry) :
    Uncounted u (.call (creation u) (some (.refused reason)) :: .call (lookUp u) none ::
      .call (.request (.setQuota u quota true)) none :: past)
  | later {e : Entry} {past : List Entry} (he : e.isSilentOn u) (h : Uncounted u past) :
    Uncounted u (e :: past)

/-- Counters that are not had are not had until they are asked for anew. -/
theorem Uncounted.writes {u : IfIndex} {p q : Platform} (h : Uncounted u p.past)
    (hwrites : p.Writes (Entry.isSilentOn u) q) : Uncounted u q.past :=
  hwrites.preserves .later h

namespace Platform

variable {p q r : Platform} {u : IfIndex}

/-- Between `p` and `q` an access to a kernel table has failed. -/
abbrev Breaks (p q : Platform) : Prop :=
  p.Shows Entry.isFailedAccess q

/-- Counters of an interface that are there at `p` are there at `q` as well, and nobody asked to
create them in between. -/
structure Sustains (u : IfIndex) (p q : Platform) : Prop where
  counters : u ∈ p.kernel.stats → u ∈ q.kernel.stats
  past : p.Writes (Entry.isSilentOn u) q

theorem Sustains.refl (u : IfIndex) (p : Platform) : p.Sustains u p := ⟨id, .refl _ p⟩

theorem Sustains.trans (h : Sustains u p q) (h' : Sustains u q r) : Sustains u p r :=
  ⟨h'.counters ∘ h.counters, h.past.trans h'.past⟩

/-- What is not read sustains counters. -/
theorem sustains_push (u : IfIndex) (p : Platform) {e : Entry} (he : e.isUnread) :
    p.Sustains u (p.push e) :=
  ⟨id, writes_push p (Entry.isSilentOn_of_isUnread u he)⟩

/-- So does what leaves the stores alone, if it is not read. -/
theorem sustains_of_unread (u : IfIndex) (hstores : q.stores = p.stores)
    (hpast : p.Writes Entry.isUnread q) : p.Sustains u q := by
  refine ⟨fun hu => ?_, hpast.mono (Entry.isSilentOn_of_isUnread u)⟩
  show u ∈ q.stores.kernel.stats
  rw [hstores]
  exact hu

/-- So does a request that neither creates counters nor clears them. -/
theorem Serves.sustains {req : Request} {x : Stores} (h : p.Serves req x q)
    (hreq : (openings u).pick (.call (.request req) none) = none)
    (hx : u ∈ p.kernel.stats → u ∈ x.kernel.stats) : p.Sustains u q := by
  refine ⟨fun hu => ?_, h.writes_of_pick hreq⟩
  show u ∈ q.stores.kernel.stats
  rw [h.stores]
  exact hx hu

/-- An interface has counters, or the journal shows that they could not be had. -/
def Accounts (u : IfIndex) (p : Platform) : Prop :=
  u ∈ p.kernel.stats ∨ Uncounted u p.past

/-- Either stays so while counters are sustained. -/
theorem Accounts.sustained (h : Accounts u p) (hq : p.Sustains u q) : Accounts u q :=
  h.imp hq.counters (·.writes hq.past)

end Platform

/-! ## Accesses to the tables -/

namespace Slot

open Platform

variable {κ ν : Type} [Ord κ] [TransOrd κ] {s : Slot κ ν} {key : κ} {value : ν} {p q : Platform}

/-- A look-up leaves itself behind, as the last entry. -/
theorem get_told {res : Except Failure (Option ν)} (h : p.perform (s.get key) = (res, q)) :
    (∃ reason e, res = .error e ∧
      q = p.push (.call (.table s.label (.get (s.keyBytes key))) (some (.refused reason)))) ∨
    res = .ok (s.content p)[key]? ∧
      q = p.push (.call (.table s.label (.get (s.keyBytes key))) none) := by
  rcases perform_ask_bind_told h with hfailed | ⟨-, h⟩
  · exact .inl hfailed
  · obtain ⟨rfl, rfl⟩ := Prod.mk.inj h
    exact .inr ⟨rfl, rfl⟩

/-- An update that fails is the last entry, and one that does not puts the value in place. -/
theorem update_told {res : Except Failure Unit} (h : p.perform (s.update key value) = (res, q)) :
    (∃ reason a, q = p.push (.call (.table s.label a) (some (.refused reason)))) ∨
    ∃ m, m.kernel = p.kernel ∧ q = s.put key value m := by
  rcases perform_ask_bind_told h with ⟨reason, e, -, hq⟩ | ⟨-, h⟩
  · exact .inl ⟨reason, _, hq⟩
  · exact .inr ⟨p.push _, rfl, (Prod.mk.inj h).2.symm⟩

/-- An insertion that is refused is the last entry. One that is not collides with an entry under the
key, or it puts the value in place. -/
theorem insert_told {res : Except Failure Unit} (h : p.perform (s.insert key value) = (res, q)) :
    (∃ reason e, res = .error e ∧ q = p.push (.call
      (.table s.label (.insert (s.keyBytes key) (s.valueBytes value))) (some (.refused reason)))) ∨
    (key ∈ s.content p ∧ q.kernel = p.kernel) ∨
    ∃ m, key ∉ s.content p ∧ m.kernel = p.kernel ∧ p.past <:+ m.past ∧ res = .ok () ∧
      q = s.put key value m := by
  rw [Slot.insert, perform_bind, perform_get] at h
  dsimp only at h
  split at h
  · rename_i hkey
    obtain rfl := (Prod.mk.inj h).2
    exact .inr (.inl ⟨hkey.2, rfl⟩)
  · rename_i hfree
    rcases perform_ask_bind_told h with hfailed | ⟨hpass, h⟩
    · exact .inl hfailed
    · exact .inr (.inr ⟨p.push _, fun hkey => hfree ⟨by rw [hpass]; rfl, hkey⟩, rfl, ⟨[_], rfl⟩,
        (Prod.mk.inj h).1.symm, (Prod.mk.inj h).2.symm⟩)

/-- A deletion that is refused is the last entry, and one that is not takes the entry out. -/
theorem delete_told {res : Except Failure Bool} (h : p.perform (s.delete key) = (res, q)) :
    (∃ reason e, res = .error e ∧
      q = p.push (.call (.table s.label (.delete (s.keyBytes key))) (some (.refused reason)))) ∨
    ∃ m found, m.kernel = p.kernel ∧ res = .ok found ∧ q = s.remove key m := by
  rcases perform_ask_bind_told h with hfailed | ⟨-, h⟩
  · exact .inl hfailed
  · exact .inr ⟨p.push _, _, rfl, (Prod.mk.inj h).1.symm, (Prod.mk.inj h).2.symm⟩

end Slot

namespace TableBackend

open Platform

variable {p q : Platform} {i : IfIndex} {quota : Quota} {isFirst : Bool}

/-- The last step of setting a limit, where counters are there. -/
theorem updateLimit_told {res : Except Failure Unit} (hthere : i ∈ p.kernel.stats)
    (h : p.perform ((Slot.limit.update i quota).within (.updateLimit i)) = (res, q)) :
    i ∈ q.kernel.stats ∧ (q.kernel.limit[i]? = some quota ∨ p.Breaks q) := by
  obtain ⟨res', h, -⟩ := perform_within_cases h
  rcases Slot.update_told h with ⟨reason, a, rfl⟩ | ⟨m, hm, rfl⟩
  · exact ⟨hthere, .inr (shows_push p rfl)⟩
  · refine ⟨?_, .inl ExtTreeMap.getElem?_insert_self⟩
    show i ∈ m.kernel.stats
    rw [hm]
    exact hthere

/-- What becomes of a limit in the kernel, and what the journal tells of it. -/
theorem setQuota_told {res : Except Failure Unit}
    (h : p.perform (setQuota i quota isFirst) = (res, q)) :
    (∃ reason, q = p.push (.call (lookUp i) (some (.refused reason)))) ∨
    (isFirst = true ∧ ∃ reason, q = (p.push (.call (lookUp i) none)).push
      (.call (creation i) (some (.refused reason)))) ∨
    (isFirst = false ∧ i ∉ p.kernel.stats ∧ q.kernel = p.kernel) ∨
    (isFirst = true ∨ i ∈ p.kernel.stats) ∧ i ∈ q.kernel.stats ∧
      (q.kernel.limit[i]? = some quota ∨ p.Breaks q) := by
  rw [setQuota] at h
  -- Two of the four cases are a look-up with one result in `h` and the other one in what it told.
  rcases perform_within_bind_cases h with ⟨existing, k, hget, h⟩ | ⟨e, hget, -⟩ <;>
    rcases Slot.get_told hget with ⟨reason, e', hres, rfl⟩ | ⟨hres, rfl⟩
  · cases hres
  · obtain rfl := Except.ok.inj hres
    let m := p.push (.call (lookUp i) none)
    by_cases hthere : i ∈ p.kernel.stats
    · -- The counters are kept, and the limit comes next to them.
      obtain ⟨counters, hget⟩ := Option.isSome_iff_exists.mp
        (ExtTreeMap.mem_iff_isSome_getElem?.mp hthere)
      have hcontent : (Slot.stats.content p)[i]? = some counters := hget
      rw [hcontent] at h
      have hlast : ∃ l : Platform, i ∈ l.kernel.stats ∧ p.past <:+ l.past ∧
          l.perform ((Slot.limit.update i quota).within (.updateLimit i)) = (res, q) := by
        cases isFirst
        · exact ⟨m, hthere, ⟨[_], rfl⟩, h⟩
        · exact ⟨m.note (.statsEntryKept i), hthere, ⟨[_, _], rfl⟩, h⟩
      obtain ⟨l, hl, hpast, h⟩ := hlast
      obtain ⟨hstats, hlimit⟩ := updateLimit_told hl h
      exact .inr (.inr (.inr ⟨.inr hthere, hstats,
        hlimit.imp_right (·.mono hpast List.suffix_rfl)⟩))
    · have hcontent : (Slot.stats.content p)[i]? = none := ExtTreeMap.getElem?_eq_none hthere
      rw [hcontent] at h
      cases isFirst with
      | false =>
        obtain ⟨-, rfl⟩ := Prod.mk.inj h
        exact .inr (.inr (.inl ⟨rfl, hthere, rfl⟩))
      | true =>
        -- The counters are created first, and if that fails it is the last thing done.
        have hfree : i ∉ Slot.stats.content m := hthere
        rcases perform_within_bind_cases h with ⟨_, l, hinsert, h⟩ | ⟨e, hinsert, -⟩ <;>
          rcases Slot.insert_told hinsert with
            ⟨reason, e', hres', rfl⟩ | ⟨hkey, -⟩ | ⟨n, -, -, hn, hres', rfl⟩
        · cases hres'
        · exact absurd hkey hfree
        · have hput : i ∈ (Slot.stats.put i .zero n).kernel.stats := ExtTreeMap.mem_insert_self
          have hpast : p.past <:+ (Slot.stats.put i .zero n).past :=
            (List.suffix_cons _ p.past).trans hn
          obtain ⟨hstats, hlimit⟩ := updateLimit_told hput h
          exact .inr (.inr (.inr ⟨.inl rfl, hstats,
            hlimit.imp_right (·.mono hpast List.suffix_rfl)⟩))
        · exact .inr (.inl ⟨rfl, reason, rfl⟩)
        · exact absurd hkey hfree
        · cases hres'
  · exact .inl ⟨reason, rfl⟩
  · cases hres

end TableBackend

/-! ## Requests -/

namespace Backend

open Platform

variable {p q : Platform} {u : IfIndex}

/-- A rule that is installed, or not, sustains all counters. -/
theorem sustains_addRule {r : Rule} {res : Except Failure Unit}
    (h : p.perform (tables.addRule r) = (res, q)) : p.Sustains u q := by
  rcases addRule_cases h with ⟨-, hs, -⟩ | ⟨-, hs⟩
  · exact hs.sustains rfl id
  · exact hs.sustains rfl id

/-- So does one that is removed. -/
theorem sustains_removeRule {r : Rule} {res : Except Failure Unit}
    (h : p.perform (tables.removeRule r) = (res, q)) : p.Sustains u q := by
  rcases removeRule_cases h with ⟨-, hs, -⟩ | ⟨-, hs⟩
  · exact hs.sustains rfl id
  · exact hs.sustains rfl id

/-- So does a binding. -/
theorem sustains_startForwarding {d v : IfIndex} {res : Except Failure Unit}
    (h : p.perform (tables.startForwarding d v) = (res, q)) : p.Sustains u q := by
  rcases startForwarding_cases h with ⟨-, hs, -⟩ | ⟨-, -, -, m, a, hs, rfl⟩ | ⟨-, -, hs⟩
  · exact hs.sustains rfl id
  · have hserved : p.Sustains u m := hs.sustains rfl id
    exact hserved.trans (sustains_push u m rfl)
  · exact hs.sustains rfl id

/-- So does one that is removed. -/
theorem sustains_stopForwarding {d v : IfIndex} {res : Except Failure Unit}
    (h : p.perform (tables.stopForwarding d v) = (res, q)) : p.Sustains u q := by
  rcases stopForwarding_cases h with ⟨-, hs, -⟩ | ⟨-, hs⟩
  · exact hs.sustains rfl id
  · exact hs.sustains rfl id

/-- A limit sustains all counters, except that the first one of an interface asks for its own. -/
theorem sustains_setQuota {i : IfIndex} {quota : Quota} {isFirst : Bool}
    {res : Except Failure Unit} (hother : isFirst = true → i ≠ u)
    (h : p.perform (tables.setQuota i quota isFirst) = (res, q)) : p.Sustains u q := by
  -- Only the first limit of the interface itself would be picked.
  have hreq : (openings u).pick (.call (.request (.setQuota i quota isFirst)) none) = none := by
    cases isFirst with
    | false => rfl
    | true => exact if_neg (hother rfl)
  have hopen : u ∈ p.kernel.stats → u ∈ (p.stores.openCounters .tables i).kernel.stats := by
    intro hu
    unfold Stores.openCounters
    dsimp only
    split
    · exact hu
    · exact ExtTreeMap.mem_insert.mpr (.inr hu)
  rcases setQuota_cases h with ⟨-, hs, -⟩ | ⟨⟨-, hs, -⟩, -⟩ | ⟨-, hs, -⟩ | ⟨-, -, hs⟩
  · exact hs.sustains hreq id
  · exact hs.sustains hreq hopen
  · exact hs.sustains hreq id
  · refine hs.sustains hreq fun hu => ?_
    cases isFirst with
    | false => exact hu
    | true => exact hopen hu

/-- The counters of one interface are cleared, and all others are sustained. -/
theorem sustains_readAndClear {i : IfIndex} {res : Except Failure InterfaceTraffic}
    (hother : i ≠ u) (h : p.perform (tables.readAndClear i) = (res, q)) : p.Sustains u q := by
  have hclose : u ∈ p.kernel.stats → u ∈ (p.stores.closeCounters .tables i).kernel.stats :=
    fun hu => ExtTreeMap.mem_erase.mpr ⟨mt Std.compare_eq_iff_eq.mp hother, hu⟩
  rcases readAndClear_cases h with ⟨-, hs, -⟩ | ⟨-, hs, -⟩ | ⟨-, -, hs | ⟨hs, -⟩⟩
  · exact hs.sustains rfl id
  · exact hs.sustains rfl id
  · exact hs.sustains rfl hclose
  · exact hs.sustains rfl hclose

/-- After the first limit of an interface it has counters, or the journal shows that they could not
be had. -/
theorem accounts_setQuota {quota : Quota} {res : Except Failure Unit}
    (h : p.perform (tables.setQuota u quota true) = (res, q)) : q.Accounts u := by
  have hserve : (p.announce (.request (.setQuota u quota true))).perform
      (TableBackend.setQuota u quota true) = (res, q) := h
  rcases TableBackend.setQuota_told hserve with ⟨reason, rfl⟩ | ⟨-, reason, rfl⟩ | ⟨hfirst, -⟩ |
    ⟨-, hthere, -⟩
  · exact .inr (.unread quota reason p.past)
  · exact .inr (.uncreated quota reason p.past)
  · cases hfirst
  · exact .inl hthere

end Backend

end FastPath
