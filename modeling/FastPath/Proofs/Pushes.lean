import FastPath.Proofs.Conservation
import FastPath.Proofs.Outcomes
import Mathlib.Algebra.BigOperators.Group.List.Basic
import Mathlib.Algebra.GroupWithZero.Nat

/-!
# When traffic is published

A poll overwrites what was read before, and a publication compares what was read last with what was
read last at the publication before. So the total that is published is made of growths from
publication to publication, while all that was counted is made of growths from reading to reading.
The former is never more. It is the same as long as counters run forwards, and also if one starts
anew, provided that this is the first thing to be read of it after a publication and that it stays
below its old value up to the next one. Else a publication does not see all that was counted, and
the total depends on when traffic is published.
-/

namespace FastPath

open Std

/-! ## Growth of numbers -/

/-- The growth of a counter, as a number. -/
def rise (new old : Nat) : Nat :=
  if old ≤ new then new - old else new

/-- The growth from reading to reading, added up. -/
def risen : Nat → List Nat → Nat
  | _, [] => 0
  | old, r :: rs => rise r old + risen r rs

/-- The growth from publication to publication, added up. Each list has the readings between two
publications. -/
def pushed : Nat → List (List Nat) → Nat
  | _, [] => 0
  | old, rs :: rss => rise (rs.getLastD old) old + pushed (rs.getLastD old) rss

/-- A publication after the readings sees all that was counted since `old` was published: the
readings never fall, or they fall once, from `old` itself, and stay below it. -/
def Seen (old : Nat) (rs : List Nat) : Prop :=
  (old :: rs).Pairwise (· ≤ ·) ∨
    ∃ n low, rs = List.replicate n old ++ low ∧ low.Pairwise (· ≤ ·) ∧ ∀ r ∈ low, r < old

/-- Every publication sees all that was counted since the one before. -/
def SeenThrough : Nat → List (List Nat) → Prop
  | _, [] => True
  | old, rs :: rss => Seen old rs ∧ SeenThrough (rs.getLastD old) rss

/-- A detour never makes for less growth. It makes for as much if the counter did not fall, if it
fell to a value from which it did not get back, or if the detour is none. -/
theorem rise_le_rise_add_rise (a b c : Nat) :
    rise c a ≤ rise b a + rise c b ∧
      (rise b a + rise c b = rise c a ↔ (a ≤ b ∧ b ≤ c) ∨ (b ≤ c ∧ c < a) ∨ b = a) := by
  unfold rise
  split <;> split <;> split <;> omega

/-- The last of several readings that do not fall is the largest. -/
theorem le_getLastD {old r : Nat} {rs : List Nat} (h : (old :: rs).Pairwise (· ≤ ·))
    (hr : r ∈ old :: rs) : r ≤ rs.getLastD old := by
  induction rs generalizing old r with
  | nil =>
    obtain rfl := List.mem_singleton.mp hr
    exact Nat.le_refl _
  | cons r' rs ih =>
    rw [List.getLastD_cons]
    obtain ⟨hle, htail⟩ := List.pairwise_cons.mp h
    rcases List.mem_cons.mp hr with rfl | hr
    · exact Nat.le_trans (hle r' List.mem_cons_self) (ih htail List.mem_cons_self)
    · exact ih htail hr

/-- The last of several readings is seen with all before it, if it was seen from the first reading
on and that reading was no detour. -/
theorem seen_cons {old r : Nat} {rs : List Nat} :
    Seen old (r :: rs) ↔ Seen r rs ∧ ((old ≤ r ∧ r ≤ rs.getLastD r) ∨
      (r ≤ rs.getLastD r ∧ rs.getLastD r < old) ∨ r = old) := by
  have hlast : rs.getLastD r ∈ r :: rs := List.getLastD_mem_cons
  constructor
  · rintro (hrising | ⟨_ | n, low, hlow, hrising, hbelow⟩)
    · obtain ⟨hle, htail⟩ := List.pairwise_cons.mp hrising
      exact ⟨.inl htail, .inl ⟨hle r List.mem_cons_self, le_getLastD htail List.mem_cons_self⟩⟩
    · -- The counter starts anew with the first reading.
      obtain rfl : r :: rs = low := hlow
      exact ⟨.inl hrising, .inr (.inl ⟨le_getLastD hrising List.mem_cons_self, hbelow _ hlast⟩)⟩
    · -- The first reading is still the old one.
      rw [List.replicate_succ, List.cons_append] at hlow
      obtain ⟨rfl, rfl⟩ := List.cons.inj hlow
      exact ⟨.inr ⟨n, low, rfl, hrising, hbelow⟩, .inr (.inr rfl)⟩
  · rintro ⟨hseen, hdetour⟩
    by_cases hr : r = old
    · subst hr
      rcases hseen with hrising | ⟨n, low, rfl, hrising, hbelow⟩
      · have hfirst : ∀ x ∈ r :: rs, r ≤ x := by
          intro x hx
          rcases List.mem_cons.mp hx with rfl | hx
          · exact Nat.le_refl _
          · exact List.rel_of_pairwise_cons hrising hx
        exact .inl (List.pairwise_cons.mpr ⟨hfirst, hrising⟩)
      · exact .inr ⟨n + 1, low, rfl, hrising, hbelow⟩
    · -- The readings after the first one do not fall, since the last one is not below the first.
      have hrising : (r :: rs).Pairwise (· ≤ ·) := by
        rcases hseen with hrising | ⟨n, low, rfl, hrising, hbelow⟩
        · exact hrising
        · rcases List.eq_nil_or_concat low with rfl | ⟨low', last, rfl⟩
          · rw [List.append_nil, ← List.replicate_succ]
            exact List.pairwise_replicate.mpr (.inr (Nat.le_refl r))
          · have hfell : last < r := hbelow last (by simp)
            simp at hdetour
            omega
      have hall : ∀ x ∈ r :: rs, r ≤ x ∧ x ≤ rs.getLastD r := by
        intro x hx
        refine ⟨?_, le_getLastD hrising hx⟩
        rcases List.mem_cons.mp hx with rfl | hx
        · exact Nat.le_refl _
        · exact List.rel_of_pairwise_cons hrising hx
      rcases hdetour with ⟨hold, -⟩ | ⟨-, hbelow⟩ | heq
      · exact .inl (List.pairwise_cons.mpr ⟨fun x hx => Nat.le_trans hold (hall x hx).1, hrising⟩)
      · exact .inr ⟨0, r :: rs, rfl, hrising, fun x hx => Nat.lt_of_le_of_lt (hall x hx).2 hbelow⟩
      · exact absurd heq hr

/-- The growth up to the last reading is at most the growth from reading to reading, and all of it
if the last reading is seen with all before it. -/
theorem rise_le_risen (old : Nat) (rs : List Nat) :
    rise (rs.getLastD old) old ≤ risen old rs ∧
      (rise (rs.getLastD old) old = risen old rs ↔ Seen old rs) := by
  induction rs generalizing old with
  | nil =>
    have hzero : rise old old = 0 := by simp [rise]
    exact ⟨Nat.le_of_eq hzero, iff_of_true hzero (.inl (List.pairwise_singleton _ old))⟩
  | cons r rs ih =>
    obtain ⟨hle, heq⟩ := ih r
    obtain ⟨hdetour, hdetour'⟩ := rise_le_rise_add_rise old r (rs.getLastD r)
    rw [List.getLastD_cons, risen, seen_cons, ← heq, ← hdetour']
    omega

/-- Readings one after the other. -/
theorem risen_append (old : Nat) (rs rs' : List Nat) :
    risen old (rs ++ rs') = risen old rs + risen (rs.getLastD old) rs' := by
  induction rs generalizing old with
  | nil => exact (Nat.zero_add _).symm
  | cons r rs ih => rw [List.cons_append, risen, risen, ih, List.getLastD_cons, Nat.add_assoc]

/-- The growth from publication to publication is at most that from reading to reading, and all of
it if every publication sees all that was counted. -/
theorem pushed_le_risen (old : Nat) (rss : List (List Nat)) :
    pushed old rss ≤ risen old rss.flatten ∧
      (pushed old rss = risen old rss.flatten ↔ SeenThrough old rss) := by
  induction rss generalizing old with
  | nil => exact ⟨Nat.le_refl _, iff_of_true rfl trivial⟩
  | cons rs rss ih =>
    obtain ⟨hle, heq⟩ := ih (rs.getLastD old)
    obtain ⟨hle', heq'⟩ := rise_le_risen old rs
    rw [List.flatten_cons, risen_append, pushed, SeenThrough, ← heq, ← heq']
    omega

/-- A reading at the start that was published already makes no difference. -/
theorem pushed_modifyHead (old : Nat) (rss : List (List Nat)) :
    pushed old (rss.modifyHead (old :: ·)) = pushed old rss := by
  cases rss with
  | nil => rfl
  | cons rs rss => rw [List.modifyHead_cons, pushed, pushed, List.getLastD_cons]

/-- Publications see everything of a counter that never runs backwards. -/
theorem seenThrough_of_rising {old : Nat} {rss : List (List Nat)}
    (h : (old :: rss.flatten).Pairwise (· ≤ ·)) : SeenThrough old rss := by
  induction rss generalizing old with
  | nil => trivial
  | cons rs rss ih =>
    rw [List.flatten_cons, ← List.cons_append] at h
    obtain ⟨hrs, hrss, hle⟩ := List.pairwise_append.mp h
    refine ⟨.inl hrs, ih (List.pairwise_cons.mpr ⟨fun r hr => ?_, hrss⟩)⟩
    exact hle _ List.getLastD_mem_cons r hr

/-- What a counter gained since an earlier reading. -/
theorem Counter.of_since_eq_rise (k : Counter) (new old : Traffic) :
    k.of (new.since old) = rise (k.of new) (k.of old) := by
  unfold rise
  split
  · rename_i h
    exact k.of_since h
  · rename_i h
    cases k <;> exact congrArg UInt64.toNat (if_neg (mt UInt64.le_iff_toNat_le.mp h))

/-- What a publication tells of an upstream, if the sum does not saturate. -/
theorem Counter.of_unpublished_eq (k : Counter) {a : Account}
    (h : k.of (a.lastRead.since a.published) + k.of a.pending < UInt64.size) :
    k.of a.unpublished = rise (k.of a.lastRead) (k.of a.published) + k.of a.pending := by
  rw [Account.unpublished, k.of_add h, k.of_since_eq_rise]

/-! ## Upstreams with the same name -/

namespace UpstreamTable

variable (t : UpstreamTable) {name : String} {i : IfIndex} {k : Counter}

/-- The upstreams with a name. -/
def carriers (name : String) : List IfIndex :=
  (t.records.toList.filter fun (_, u) => u.name = some name).map Prod.fst

/-- Who carries a name can be told from the accounts. -/
theorem mem_carriers : i ∈ t.carriers name ↔ (t.account i).name = some name := by
  rw [carriers, List.mem_map]
  constructor
  · rintro ⟨⟨j, u⟩, hentry, rfl⟩
    obtain ⟨hmem, hname⟩ := List.mem_filter.mp hentry
    rw [account, findOrFresh, ExtTreeMap.mem_toList_iff_getElem?_eq_some.mp hmem]
    exact of_decide_eq_true hname
  · intro h
    obtain ⟨u, hget, hu⟩ := t.exists_record i h
    refine ⟨(i, u), List.mem_filter.mpr ⟨?_, decide_eq_true ?_⟩, rfl⟩
    · exact ExtTreeMap.mem_toList_iff_getElem?_eq_some.mpr hget
    · rw [← h, ← hu]
      rfl

theorem nodup_carriers : (t.carriers name).Nodup := by
  have hkeys : (t.records.toList.map Prod.fst).Nodup := by
    rw [ExtTreeMap.map_fst_toList_eq_keys]
    exact t.records.nodup_keys
  exact hkeys.sublist (List.filter_sublist.map Prod.fst)

/-- As long as names stay, the same upstreams carry them. -/
theorem carriers_perm {t t' : UpstreamTable}
    (h : ∀ i, (t'.account i).name = (t.account i).name) :
    (t'.carriers name).Perm (t.carriers name) := by
  refine (List.perm_ext_iff_of_nodup t'.nodup_carriers t.nodup_carriers).mpr fun i => ?_
  rw [mem_carriers, mem_carriers, h]

/-- A publication tells, under a name, of the unpublished traffic of all upstreams with the name. -/
theorem sum_deltas :
    k.sum ((t.deltas.filter fun d => d.1 = name).map Prod.snd) =
      ((t.carriers name).map fun i => k.of (t.account i).unpublished).sum := by
  have haccount : ∀ e ∈ t.records.toList, (t.account e.1).unpublished = e.2.unpublished := by
    intro e he
    rw [account, findOrFresh, ExtTreeMap.mem_toList_iff_getElem?_eq_some.mp he]
    rfl
  unfold deltas carriers
  -- Record by record, each with its own account.
  generalize t.records.toList = es at haccount
  induction es with
  | nil => rfl
  | cons e es ih =>
    obtain ⟨he, hes⟩ := List.forall_mem_cons.mp haccount
    specialize ih hes
    cases hname : e.2.name with
    | none => simpa [hname] using ih
    | some n =>
      by_cases hn : n = name
      · simpa [hname, hn, Counter.sum, he] using ih
      · simpa [hname, hn] using ih

end UpstreamTable

/-! ## Polls and publications -/

namespace Controller

variable {b : Backend} {c c' c'' : Controller} {i : IfIndex} {k : Counter}

/-- Poll while the kernel and the daemon keep the given stores. -/
def observe (c : Controller) (x : Stores) : Controller :=
  { c with platform := { c.platform with kernel := x.kernel, daemon := x.daemon } }.tick

/-- Poll several times, with whatever stores there are by then. -/
def observeAll (c : Controller) (xs : List Stores) : Controller :=
  xs.foldl observe c

/-- Publish after several polls. -/
def report (c : Controller) (xs : List Stores) : Controller :=
  (c.observeAll xs).pushStats

/-- Publish several times. -/
def reportAll (c : Controller) (xss : List (List Stores)) : Controller :=
  xss.foldl report c

/-- What polls leave as the last reading of an upstream, by one counter, one after the other. -/
def polls (i : IfIndex) (k : Counter) : Controller → List Stores → List Nat
  | _, [] => []
  | c, x :: xs => k.of ((c.observe x).upstreams.account i).lastRead :: polls i k (c.observe x) xs

/-- What the polls before each publication leave as the last reading. -/
def polled (i : IfIndex) (k : Counter) : Controller → List (List Stores) → List (List Nat)
  | _, [] => []
  | c, xs :: xss => c.polls i k xs :: polled i k (c.report xs) xss

/-- All readings that the publications are made of. The first is from before the polls. -/
def readings (i : IfIndex) (k : Counter) (c : Controller) (xss : List (List Stores)) :
    List (List Nat) :=
  (c.polled i k xss).modifyHead (k.of (c.upstreams.account i).lastRead :: ·)

/-- The account of an upstream as each publication finds it. -/
def pushes (i : IfIndex) : Controller → List (List Stores) → List Account
  | _, [] => []
  | c, xs :: xss => (c.observeAll xs).upstreams.account i :: pushes i (c.report xs) xss

/-- The traffic of an upstream that publications tell of, by one counter. -/
def reported (i : IfIndex) (k : Counter) (c : Controller) (xss : List (List Stores)) : Nat :=
  k.sum ((c.pushes i xss).map Account.unpublished)

/-- From `c` to `c'` nothing happens to the accounts but readings, and nothing is published. -/
structure Reads (c c' : Controller) : Prop where
  backend : c'.backend = c.backend
  account : ∀ i, ∃ last, c'.upstreams.account i = { c.upstreams.account i with lastRead := last }
  told : ∀ o name k, told o name k c'.platform.past = told o name k c.platform.past

theorem Reads.refl (c : Controller) : Reads c c :=
  ⟨rfl, fun i => ⟨(c.upstreams.account i).lastRead, rfl⟩, fun _ _ _ => rfl⟩

theorem Reads.trans (h : Reads c c') (h' : Reads c' c'') : Reads c c'' where
  backend := h'.backend.trans h.backend
  account i := by
    obtain ⟨last, hlast⟩ := h.account i
    obtain ⟨last', hlast'⟩ := h'.account i
    exact ⟨last', by rw [hlast', hlast]⟩
  told o name k := (h'.told o name k).trans (h.told o name k)

/-- Names stay while readings are stored. -/
theorem Reads.name (h : Reads c c') (i : IfIndex) :
    (c'.upstreams.account i).name = (c.upstreams.account i).name := by
  obtain ⟨last, hlast⟩ := h.account i
  rw [hlast]

/-- Nothing is read by a controller that is idle. -/
theorem Idle.reads (h : Idle c c') : Reads c c' where
  backend := h.backend
  account i := ⟨(c.upstreams.account i).lastRead, h.account i⟩
  told _ _ _ := told_of_quiet h.platform.quiet

/-- A poll only reads. -/
theorem reads_poll (b : Backend) (c : Controller) : Reads c (c.poll b) := by
  rcases poll_cases b c with hidle | ⟨p, hs, hidle⟩
  · exact hidle.reads
  · refine Reads.trans ?_ hidle.reads
    exact ⟨rfl, fun i => c.upstreams.exists_account_foldl_recordReading i _,
      fun _ _ _ => told_of_quiet hs.quiet⟩

theorem reads_observe (c : Controller) (x : Stores) : Reads c (c.observe x) := by
  let found := { c with platform := { c.platform with kernel := x.kernel, daemon := x.daemon } }
  have hfound : Reads c found := ⟨rfl, (Reads.refl c).account, fun _ _ _ => rfl⟩
  refine hfound.trans ?_
  show Reads found found.tick
  unfold tick withBackend
  split
  · exact reads_poll _ _
  · exact .refl _

theorem reads_observeAll (c : Controller) (xs : List Stores) : Reads c (c.observeAll xs) := by
  induction xs generalizing c with
  | nil => exact .refl c
  | cons x xs ih => exact (reads_observe c x).trans (ih (c.observe x))

/-- The last of several polls leaves the last reading. -/
theorem lastRead_observeAll (c : Controller) (xs : List Stores) :
    k.of ((c.observeAll xs).upstreams.account i).lastRead =
      (c.polls i k xs).getLastD (k.of (c.upstreams.account i).lastRead) := by
  induction xs generalizing c with
  | nil => rfl
  | cons x xs ih =>
    rw [polls, List.getLastD_cons]
    exact ih (c.observe x)

theorem report_eq_publish (hb : c.backend = some b) (xs : List Stores) :
    c.report xs = (c.observeAll xs).publish := by
  unfold report pushStats withBackend
  rw [(reads_observeAll c xs).backend.trans hb]

/-- A publication after several polls settles all accounts with a name, and tells of all that they
have not published. -/
theorem report_cases (hb : c.backend = some b) (xs : List Stores) :
    (c.report xs).backend = some b ∧
      (∀ i, (c.report xs).upstreams.account i =
        let a := (c.observeAll xs).upstreams.account i
        if a.name.isSome then a.settle else a) ∧
      ∀ o name k, told o name k (c.report xs).platform.past =
        (((c.observeAll xs).upstreams.carriers name).map fun i =>
          k.of ((c.observeAll xs).upstreams.account i).unpublished).sum +
        told o name k c.platform.past := by
  have hreads := reads_observeAll c xs
  have hb' : (c.observeAll xs).backend = some b := hreads.backend.trans hb
  obtain ⟨p, hpublish, hp⟩ := publish_cases (c.observeAll xs)
  rw [report_eq_publish hb, hpublish]
  refine ⟨hb', fun i => UpstreamTable.account_settle _ i, fun o name k => ?_⟩
  rw [told_publish_cases hp, UpstreamTable.sum_deltas, hreads.told]

/-- Names stay over publications. -/
theorem name_report (hb : c.backend = some b) (xs : List Stores) (i : IfIndex) :
    ((c.report xs).upstreams.account i).name = (c.upstreams.account i).name := by
  rw [(report_cases hb xs).2.1, ← (reads_observeAll c xs).name i]
  dsimp only
  split <;> rfl

/-- What is published under a name is what the publications tell of the upstreams with the name. -/
theorem told_reportAll (hb : c.backend = some b) (xss : List (List Stores)) (o : Owner)
    (name : String) (k : Counter) :
    told o name k (c.reportAll xss).platform.past = told o name k c.platform.past +
      ((c.upstreams.carriers name).map fun i => c.reported i k xss).sum := by
  induction xss generalizing c with
  | nil =>
    have hnone : ((c.upstreams.carriers name).map fun i => c.reported i k []).sum = 0 :=
      List.sum_map_zero
    rw [hnone]
    rfl
  | cons xs xss ih =>
    obtain ⟨hb', -, htold⟩ := report_cases hb xs
    have hcarriers : ((c.observeAll xs).upstreams.carriers name).Perm
        (c.upstreams.carriers name) := UpstreamTable.carriers_perm (reads_observeAll c xs).name
    have hcarriers' : ((c.report xs).upstreams.carriers name).Perm
        (c.upstreams.carriers name) := UpstreamTable.carriers_perm (name_report hb xs)
    have hsplit : ∀ j, c.reported j k (xs :: xss) =
        k.of ((c.observeAll xs).upstreams.account j).unpublished +
          (c.report xs).reported j k xss := fun _ => rfl
    calc told o name k ((c.report xs).reportAll xss).platform.past
      _ = told o name k (c.report xs).platform.past +
          (((c.report xs).upstreams.carriers name).map fun j =>
            (c.report xs).reported j k xss).sum := ih hb'
      _ = told o name k c.platform.past + ((c.upstreams.carriers name).map fun j =>
            c.reported j k (xs :: xss)).sum := by
        simp only [htold, hsplit, List.sum_map_add, (hcarriers.map _).sum_eq,
          (hcarriers'.map _).sum_eq]
        omega

/-- Publications tell of what was pending, and of the growth from publication to publication. -/
theorem reported_eq_pushed (hb : c.backend = some b)
    (hname : (c.upstreams.account i).name.isSome) {xss : List (List Stores)} (hxss : xss ≠ [])
    (hexact : ∀ a ∈ c.pushes i xss,
      k.of (a.lastRead.since a.published) + k.of a.pending < UInt64.size) :
    c.reported i k xss = k.of (c.upstreams.account i).pending +
      pushed (k.of (c.upstreams.account i).published) (c.readings i k xss) := by
  induction xss generalizing c with
  | nil => exact absurd rfl hxss
  | cons xs xss ih =>
    obtain ⟨hfirst, hrest⟩ := List.forall_mem_cons.mp hexact
    obtain ⟨last, hlast⟩ := (reads_observeAll c xs).account i
    have hlastRead := lastRead_observeAll (i := i) (k := k) c xs
    have hunpublished := k.of_unpublished_eq hfirst
    simp only [hlast] at hlastRead hunpublished
    -- The account is settled after the first publication, so that nothing is pending any more.
    have hsettled : (c.report xs).upstreams.account i =
        { c.upstreams.account i with lastRead := last, published := last, pending := .zero } := by
      rw [(report_cases hb xs).2.1, hlast]
      exact if_pos hname
    have hthen : (c.report xs).reported i k xss =
        pushed (k.of last) ((c.report xs).polled i k xss) := by
      by_cases hxss' : xss = []
      · subst hxss'
        rfl
      · rw [ih (report_cases hb xs).1 (by rwa [name_report hb]) hxss' hrest, readings, hsettled,
          pushed_modifyHead, k.of_zero, Nat.zero_add]
    have hsplit : c.reported i k (xs :: xss) =
        k.of ((c.observeAll xs).upstreams.account i).unpublished +
          (c.report xs).reported i k xss := rfl
    rw [hsplit, hthen, hlast, hunpublished, readings, polled, List.modifyHead_cons, pushed,
      List.getLastD_cons, ← hlastRead]
    omega

/-! ## Polls do not depend on publications -/

/-- What polls leave when they come one after the other. -/
theorem polls_append (c : Controller) (xs ys : List Stores) :
    c.polls i k (xs ++ ys) = c.polls i k xs ++ (c.observeAll xs).polls i k ys := by
  induction xs generalizing c with
  | nil => rfl
  | cons x xs ih => exact congrArg (List.cons _) (ih (c.observe x))

/-- A poll that is not refused leaves what the stores have of an upstream, if they have it. -/
theorem observe_willing (hb : c.backend = some b) (hp : c.platform.Willing) (x : Stores)
    (i : IfIndex) :
    (c.observe x).platform.Willing ∧
      ((c.observe x).upstreams.account i).lastRead =
        ((x.readings b).find? fun r => r.ifIndex = i).elim (c.upstreams.account i).lastRead
          InterfaceTraffic.traffic := by
  let found := { c with platform := { c.platform with kernel := x.kernel, daemon := x.daemon } }
  have hfound : found.platform.Willing := hp
  obtain ⟨p, hworks, hpoll⟩ := poll_willing (b := b) hfound
  have hobserve : c.observe x = found.poll b := by
    show found.tick = _
    unfold tick withBackend
    rw [show found.backend = some b from hb]
  let read := { found with
    platform := p, upstreams := (x.readings b).foldl UpstreamTable.recordReading c.upstreams }
  have hidle : Idle read (c.observe x) := by
    rw [hobserve, hpoll]
    exact idle_checkAlert _
  refine ⟨?_, ?_⟩
  · have hread : read.platform.Willing := hworks.willing hfound
    unfold Platform.Willing
    rwa [hidle.platform.refuses]
  · obtain ⟨hdistinct, -⟩ := Stores.readings_cases b x
    obtain ⟨hread, hother⟩ := c.upstreams.account_foldl_recordReading hdistinct
    rw [hidle.account i]
    show (((x.readings b).foldl UpstreamTable.recordReading c.upstreams).account i).lastRead = _
    cases hfind : (x.readings b).find? fun r => r.ifIndex = i with
    | none =>
      have hi : i ∉ (x.readings b).map InterfaceTraffic.ifIndex := by
        intro hi
        obtain ⟨r, hr, hri⟩ := List.mem_map.mp hi
        exact List.find?_eq_none.mp hfind r hr (decide_eq_true hri)
      rw [hother i hi]
      rfl
    | some r =>
      have hri : r.ifIndex = i :=
        of_decide_eq_true (List.find?_some (p := fun (r : InterfaceTraffic) => r.ifIndex = i) hfind)
      rw [← hri, hread r (List.mem_of_find?_eq_some hfind)]
      rfl

/-- Polls that are not refused leave the same whatever was published before. -/
theorem polls_congr (hb : c.backend = some b) (hb' : c'.backend = some b)
    (hp : c.platform.Willing) (hp' : c'.platform.Willing)
    (h : (c'.upstreams.account i).lastRead = (c.upstreams.account i).lastRead) (xs : List Stores) :
    c'.polls i k xs = c.polls i k xs := by
  induction xs generalizing c c' with
  | nil => rfl
  | cons x xs ih =>
    obtain ⟨hwilling, hlast⟩ := observe_willing hb hp x i
    obtain ⟨hwilling', hlast'⟩ := observe_willing hb' hp' x i
    have hsame : ((c'.observe x).upstreams.account i).lastRead =
        ((c.observe x).upstreams.account i).lastRead := by rw [hlast', hlast, h]
    have hrest := ih ((reads_observe c x).backend.trans hb) ((reads_observe c' x).backend.trans hb')
      hwilling hwilling' hsame
    rw [polls, polls, hsame, hrest]

/-- A backend that was willing is so after polls. -/
theorem observeAll_willing (hb : c.backend = some b) (hp : c.platform.Willing)
    (xs : List Stores) : (c.observeAll xs).platform.Willing := by
  induction xs generalizing c with
  | nil => exact hp
  | cons x xs ih =>
    exact ih ((reads_observe c x).backend.trans hb) (observe_willing hb hp x 0).1

/-- Publications neither change what was read last nor whether polls are refused. -/
theorem report_willing (hb : c.backend = some b) (hp : c.platform.Willing) (xs : List Stores) :
    (c.report xs).platform.Willing ∧
      ((c.report xs).upstreams.account i).lastRead =
        ((c.observeAll xs).upstreams.account i).lastRead := by
  have hwilling := observeAll_willing hb hp xs
  refine ⟨?_, ?_⟩
  · obtain ⟨p, hpublish, hp'⟩ := publish_cases (c.observeAll xs)
    have hrefuses : p.refuses = (c.observeAll xs).platform.refuses := by
      rcases hp' with ⟨-, rfl⟩ | rfl <;> rfl
    rw [report_eq_publish hb, hpublish]
    unfold Platform.Willing
    rwa [hrefuses]
  · rw [(report_cases hb xs).2.1]
    dsimp only
    split <;> rfl

/-- Where no poll is refused, what polls leave does not depend on the publications between them. -/
theorem flatten_polled (hb : c.backend = some b) (hp : c.platform.Willing)
    (xss : List (List Stores)) : (c.polled i k xss).flatten = c.polls i k xss.flatten := by
  induction xss generalizing c with
  | nil => rfl
  | cons xs xss ih =>
    obtain ⟨hwilling, hlast⟩ := report_willing (i := i) hb hp xs
    rw [polled, List.flatten_cons, List.flatten_cons, polls_append,
      ih (report_cases hb xs).1 hwilling]
    congr 1
    exact polls_congr ((reads_observeAll c xs).backend.trans hb) (report_cases hb xs).1
      (observeAll_willing hb hp xs) hwilling hlast xss.flatten

/-! ## Totals -/

/-- The readings that publications are made of, without the publications. -/
theorem flatten_readings {xss : List (List Stores)} (hxss : xss ≠ []) :
    (c.readings i k xss).flatten =
      k.of (c.upstreams.account i).lastRead :: (c.polled i k xss).flatten := by
  cases xss with
  | nil => exact absurd rfl hxss
  | cons xs xss => rfl

/-- The total that is published of an upstream is never more than what was pending and the growth
from reading to reading. It is as much if every publication sees all that was counted. So the total
does not depend on when traffic is published as long as publications do, and they do so wherever the
counter never falls. -/
theorem reported_eq_of_seenThrough (hb : c.backend = some b) {name : String}
    (hname : (c.upstreams.account i).name = some name) {xss yss : List (List Stores)}
    (hxss : xss ≠ []) (hyss : yss ≠ [])
    (hsame : (c.polled i k xss).flatten = (c.polled i k yss).flatten)
    (hexact : ∀ a ∈ c.pushes i xss ++ c.pushes i yss,
      k.of (a.lastRead.since a.published) + k.of a.pending < UInt64.size) :
    let published := k.of (c.upstreams.account i).published
    let counted := k.of (c.upstreams.account i).pending +
      risen published (c.readings i k xss).flatten
    let seen := fun zss => SeenThrough published (c.readings i k zss)
    (∀ o, told o name k (c.reportAll xss).platform.past =
      told o name k c.platform.past +
        ((c.upstreams.carriers name).map fun j => c.reported j k xss).sum) ∧
    c.reported i k xss ≤ counted ∧
    (c.reported i k xss = counted ↔ seen xss) ∧
    (seen xss → seen yss → c.reported i k xss = c.reported i k yss) ∧
    ((published :: (c.readings i k xss).flatten).Pairwise (· ≤ ·) →
      c.reported i k xss = c.reported i k yss) := by
  intro published counted seen
  have hsome : (c.upstreams.account i).name.isSome := by rw [hname]; rfl
  have hreadings : (c.readings i k xss).flatten = (c.readings i k yss).flatten := by
    rw [flatten_readings hxss, flatten_readings hyss, hsame]
  obtain ⟨hx, hy⟩ := List.forall_mem_append.mp hexact
  have hreported : c.reported i k xss = k.of (c.upstreams.account i).pending +
      pushed published (c.readings i k xss) := reported_eq_pushed hb hsome hxss hx
  have hreported' : c.reported i k yss = k.of (c.upstreams.account i).pending +
      pushed published (c.readings i k yss) := reported_eq_pushed hb hsome hyss hy
  obtain ⟨hle, hiff⟩ := pushed_le_risen published (c.readings i k xss)
  obtain ⟨-, hiff'⟩ := pushed_le_risen published (c.readings i k yss)
  have hequal : seen xss → seen yss → c.reported i k xss = c.reported i k yss := by
    intro hseen hseen'
    rw [hreported, hreported', hiff.mpr hseen, hiff'.mpr hseen', hreadings]
  refine ⟨fun o => told_reportAll hb xss o name k, ?_, ?_, hequal, fun hrising => ?_⟩
  · rw [hreported]
    exact Nat.add_le_add_left hle _
  · rw [hreported]
    exact Nat.add_left_cancel_iff.trans hiff
  · exact hequal (seenThrough_of_rising hrising) (seenThrough_of_rising (hreadings ▸ hrising))

/-- Kernel tables with a counter for one upstream. -/
def counting (bytes : UInt64) : Stores :=
  let stats : ExtTreeMap IfIndex Counters := ∅
  ⟨{ KernelTables.empty with stats := stats.insert 100 { Counters.zero with rxBytes := bytes } },
    .empty⟩

/-- A controller with a named upstream of which nothing was read yet. -/
def nameOnly : Controller :=
  (tethered.run (.event (.upstreamName 100 "rmnet0"))).2

/-- Polls of a counter that starts anew right after a publication. -/
def startedAnew : List (List Stores) :=
  [[counting 60, counting 100], [counting 30, counting 50]]

/-- The same polls, and a publication after each. -/
def startedAnew' : List (List Stores) :=
  [[counting 60], [counting 100], [counting 30], [counting 50]]

theorem seenThrough_startedAnew :
    SeenThrough 0 (nameOnly.readings 100 .rxBytes startedAnew) ∧
      SeenThrough 0 (nameOnly.readings 100 .rxBytes startedAnew') := by
  have hreadings : nameOnly.readings 100 .rxBytes startedAnew = [[0, 60, 100], [30, 50]] := by
    decide +kernel
  have hreadings' : nameOnly.readings 100 .rxBytes startedAnew' = [[0, 60], [100], [30], [50]] := by
    decide +kernel
  rw [hreadings, hreadings']
  refine ⟨⟨.inl (by decide), .inr ⟨0, [30, 50], rfl, by decide, by decide⟩, trivial⟩, ?_⟩
  exact ⟨.inl (by decide), .inl (by decide), .inr ⟨0, [30], rfl, by decide, by decide⟩,
    .inl (by decide), trivial⟩

/-- Both ways 100 bytes are published, and 50 after the counter has started anew. -/
theorem reported_startedAnew :
    startedAnew.flatten = startedAnew'.flatten ∧
      told .interface "rmnet0" .rxBytes (nameOnly.reportAll startedAnew).platform.past = 150 ∧
      nameOnly.reported 100 .rxBytes startedAnew = nameOnly.reported 100 .rxBytes startedAnew' := by
  have hbackend : nameOnly.backend = some .tables := rfl
  have hname : (nameOnly.upstreams.account 100).name = some "rmnet0" := by decide +kernel
  have hpushed : startedAnew ≠ [] ∧ startedAnew' ≠ [] := ⟨by decide, by decide⟩
  have hwilling : nameOnly.platform.Willing := fun _ _ _ => rfl
  have hpolls : startedAnew.flatten = startedAnew'.flatten := rfl
  have hsame : (nameOnly.polled 100 .rxBytes startedAnew).flatten =
      (nameOnly.polled 100 .rxBytes startedAnew').flatten := by
    rw [flatten_polled hbackend hwilling, hpolls, flatten_polled hbackend hwilling]
  have hexact : ∀ a ∈ nameOnly.pushes 100 startedAnew ++ nameOnly.pushes 100 startedAnew',
      Counter.of .rxBytes (a.lastRead.since a.published) + Counter.of .rxBytes a.pending <
        UInt64.size := by decide +kernel
  obtain ⟨htold, -, -, hequal, -⟩ :=
    reported_eq_of_seenThrough hbackend hname hpushed.1 hpushed.2 hsame hexact
  obtain ⟨hseen, hseen'⟩ := seenThrough_startedAnew
  refine ⟨hpolls, (htold .interface).trans (by decide +kernel), ?_⟩
  exact hequal hseen hseen'

/-- If a counter starts anew between a poll and a publication, the total depends on when traffic is
published: a publication in time tells of 100 bytes more. -/
theorem told_ne_told_of_restart :
    (nameOnly.polled 100 .rxBytes [[counting 100, counting 30]]).flatten = [100, 30] ∧
      (nameOnly.polled 100 .rxBytes [[counting 100], [counting 30]]).flatten = [100, 30] ∧
      told .interface "rmnet0" .rxBytes
        (nameOnly.reportAll [[counting 100, counting 30]]).platform.past = 30 ∧
      told .interface "rmnet0" .rxBytes
        (nameOnly.reportAll [[counting 100], [counting 30]]).platform.past = 130 := by
  decide +kernel

end Controller

end FastPath
