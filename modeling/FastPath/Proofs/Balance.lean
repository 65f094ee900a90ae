import FastPath.Proofs.Counters

/-!
# The balance of one counter

Traffic that the kernel has counted for an upstream is in one of four places: in a publication, in
the pending traffic of cleared counters, between the last publication and the last reading, or
between the last reading and the counters. `Balance` says so of one counter of one upstream. Reading
moves traffic from the last place to the one before, a publication empties the two in the middle,
and clearing counters moves what they had to the pending traffic. A failure moves nothing.
-/

namespace FastPath

open Std

variable {k : Counter}

/-! ## What is published -/

/-- One counter of several traffics, added up. -/
def Counter.sum (k : Counter) : List Traffic → Nat
  | [] => 0
  | t :: ts => k.of t + k.sum ts

/-- Without traffic the sum is zero. -/
theorem Counter.sum_eq_zero {ts : List Traffic} (h : ∀ t ∈ ts, t = .zero) : k.sum ts = 0 := by
  induction ts with
  | nil => rfl
  | cons t ts ih =>
    obtain ⟨ht, hts⟩ := List.forall_mem_cons.mp h
    rw [sum, ht, of_zero, ih hts]

/-- The traffic under a name, by one counter, that an entry of the journal publishes to an owner. -/
def Entry.told (o : Owner) (name : String) (k : Counter) : Entry → Nat
  | .call (.publish perInterface perOwner) _ =>
    k.sum (((perInterface ++ perOwner).filter fun s => s.owner = o ∧ s.iface = name).map
      Share.traffic)
  | _ => 0

/-- The traffic that entries publish together. -/
def told (o : Owner) (name : String) (k : Counter) : List Entry → Nat
  | [] => 0
  | e :: past => e.told o name k + told o name k past

/-- The traffic of an upstream that was published to an owner, by one counter. Without a name
nothing is published. -/
def Controller.delivered (c : Controller) (o : Owner) (i : IfIndex) (k : Counter) : Nat :=
  (c.upstreams.nameOf i).elim 0 fun name => told o name k c.platform.past

variable {o : Owner} {name : String}

/-- Minor entries publish nothing. -/
theorem told_append_minor {es : List Entry} (h : ∀ e ∈ es, e.isMinor) (past : List Entry) :
    told o name k (es ++ past) = told o name k past := by
  induction es with
  | nil => rfl
  | cons e es ih =>
    obtain ⟨he, hes⟩ := List.forall_mem_cons.mp h
    -- A publication is not minor, and all other entries have nothing to tell.
    have hzero : e.told o name k = 0 := by
      cases e with
      | call c refusal => cases c <;> first | rfl | cases he
      | notice n => rfl
      | shown text => rfl
    rw [List.cons_append, told, hzero, Nat.zero_add, ih hes]

/-- Nothing is published in quiet. -/
theorem told_of_quiet {p q : Platform} (h : p.Quiet q) :
    told o name k q.past = told o name k p.past := by
  obtain ⟨es, hes, hpast⟩ := h
  rw [hpast, told_append_minor hes]

/-- A notice publishes nothing. -/
theorem told_note (n : Notice) (p : Platform) :
    told o name k (p.note n).past = told o name k p.past := by
  show 0 + told o name k p.past = _
  rw [Nat.zero_add]

/-- The shares of an owner under a name are made of the deltas under the name, and the other owner
has none of them. -/
theorem filter_shares (o o' : Owner) (name : String) (deltas : List (String × Traffic)) :
    (Controller.shares o' deltas).filter (fun s => s.owner = o ∧ s.iface = name) =
      if o' = o then Controller.shares o' (deltas.filter fun d => d.1 = name) else [] := by
  rw [Controller.shares, List.filter_map]
  split
  · rename_i ho
    simp [Controller.shares, Function.comp_def, ho]
  · rename_i ho
    simp [Function.comp_def, ho]

/-- Published traffic is told of once to every owner. -/
theorem told_publish (p : Platform) (deltas : List (String × Traffic)) :
    told o name k (p.announce (.publish (Controller.shares .interface deltas)
      (Controller.shares .tethering deltas))).past =
      k.sum ((deltas.filter fun d => d.1 = name).map Prod.snd) + told o name k p.past := by
  show Entry.told o name k (.call (.publish _ _) none) + told o name k p.past = _
  rw [Entry.told, List.filter_append, filter_shares, filter_shares]
  cases o <;> simp [Controller.shares, Function.comp_def]

/-! ## The balance of one counter -/

/-- Where the traffic counted for an upstream is, for one counter: what was delivered, the account,
what the counters have now, and the total. -/
structure Balance (k : Counter) (delivered : Nat) (a : Account) (counted : Traffic) (total : Nat) :
    Prop where
  published_le : k.of a.published ≤ k.of a.lastRead
  lastRead_le : k.of a.lastRead ≤ k.of counted
  published_le_delivered : k.of a.published ≤ delivered
  total_eq : delivered + k.of a.pending + k.of counted = total + k.of a.published

namespace Balance

variable {delivered total : Nat} {a : Account} {counted : Traffic}

/-- Nothing was counted at first. -/
theorem fresh (k : Counter) : Balance k 0 .fresh .zero 0 := by
  constructor <;> simp [Account.fresh]

/-- The count of rules is nothing to the balance. -/
theorem recount (h : Balance k delivered a counted total) (n : Nat) :
    Balance k delivered { a with ruleCount := n } counted total :=
  ⟨h.published_le, h.lastRead_le, h.published_le_delivered, h.total_eq⟩

/-- Nor is the name. -/
theorem rename (h : Balance k delivered a counted total) (name : Option String) :
    Balance k delivered { a with name } counted total :=
  ⟨h.published_le, h.lastRead_le, h.published_le_delivered, h.total_eq⟩

/-- Reading brings the last reading up to the counters. -/
theorem read (h : Balance k delivered a counted total) :
    Balance k delivered { a with lastRead := counted } counted total where
  published_le := Nat.le_trans h.published_le h.lastRead_le
  lastRead_le := Nat.le_refl _
  published_le_delivered := h.published_le_delivered
  total_eq := h.total_eq

/-- Clearing counters makes their unpublished traffic pending. -/
theorem fold (h : Balance k delivered a counted total) (hbound : total < UInt64.size) :
    Balance k delivered (a.fold counted) .zero total := by
  obtain ⟨h₁, h₂, h₃, h₄⟩ := h
  -- The counters never ran behind the last publication, so the growth is a difference.
  have hsince : k.of (counted.since a.published) = k.of counted - k.of a.published :=
    k.of_since (Nat.le_trans h₁ h₂)
  have hpending : k.of (a.pending.add (counted.since a.published)) =
      k.of a.pending + (k.of counted - k.of a.published) := by
    rw [k.of_add (by omega), hsince]
  constructor <;> simp only [Account.fold, Counter.of_zero, hpending] <;> omega

/-- What a publication has to tell of. -/
theorem of_unpublished (h : Balance k delivered a counted total) (hbound : total < UInt64.size) :
    k.of a.unpublished = k.of a.lastRead - k.of a.published + k.of a.pending := by
  obtain ⟨h₁, h₂, h₃, h₄⟩ := h
  have hsince : k.of (a.lastRead.since a.published) = k.of a.lastRead - k.of a.published :=
    k.of_since h₁
  rw [Account.unpublished, k.of_add (by omega), hsince]

/-- A publication delivers the pending traffic and all that was read. -/
theorem settle (h : Balance k delivered a counted total) (hbound : total < UInt64.size) :
    Balance k (k.of a.unpublished + delivered) a.settle counted total := by
  rw [h.of_unpublished hbound]
  obtain ⟨h₁, h₂, h₃, h₄⟩ := h
  constructor <;> simp only [Account.settle, Counter.of_zero] <;> omega

/-- The kernel counts more. -/
theorem count (h : Balance k delivered a counted total) {more : Traffic}
    (hbound : total + k.of more < UInt64.size) :
    Balance k delivered a (counted.plus more) (total + k.of more) := by
  obtain ⟨h₁, h₂, h₃, h₄⟩ := h
  have hplus : k.of (counted.plus more) = k.of counted + k.of more := k.of_plus (by omega)
  constructor <;> omega

/-- A balance accounts for all traffic. -/
theorem accounts (h : Balance k delivered a counted total) :
    k.of a.published ≤ k.of a.lastRead ∧ k.of a.lastRead ≤ k.of counted ∧
      delivered + k.of a.pending + (k.of a.lastRead - k.of a.published) +
        (k.of counted - k.of a.lastRead) = total := by
  obtain ⟨h₁, h₂, h₃, h₄⟩ := h
  omega

end Balance

end FastPath
