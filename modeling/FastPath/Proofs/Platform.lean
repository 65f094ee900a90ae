import FastPath.Backend

/-!
# What a step against the platform leaves behind

A step that ends leaves a result and a platform. `perform_bind_cases` takes a chain of steps apart
at its first step, and the lemmas after it say of each access to a table and of each call to the
daemon what it leaves. It `Leads` to a platform with certain stores, with nothing but inner entries
written down on the way. A step fails because a call was `Refused`, which changes no store, or for a
cause of its own, which the lemma about it names.
-/

namespace FastPath

open Std

/-- What the kernel and the daemon keep. -/
structure Stores where
  kernel : KernelTables
  daemon : DaemonTables

/-- What the kernel and the daemon of a platform keep. -/
def Platform.stores (p : Platform) : Stores := ⟨p.kernel, p.daemon⟩

/-- A notice by which a backend remarks on an access of its own. -/
def Notice.isRemark : Notice → Bool
  | .ruleNotInTable _ | .bindingNotInTable .. | .statsEntryKept _ | .noLimitEntry _
  | .limitNotDeleted .. | .tablesCleared => true
  | _ => false

/-- A call to the backend, or of the backend to its tables or to the daemon. -/
def Call.isBackend : Call → Bool
  | .request _ | .table .. | .daemon _ => true
  | _ => false

/-- An entry that does not tell of a collision: of a call that was let through and failed all the
same, since the key was there already. -/
def Entry.isSmooth : Entry → Bool
  | .call _ (some (.keyExists _)) => false
  | _ => true

/-- An entry that tells that a kernel table was not cleared. -/
def Entry.isUncleared (t : TableLabel) : Entry → Bool
  | .call (.table t' .clear) (some (.refused _)) => t' = t
  | _ => false

/-- An entry that serving a request leaves in the journal, unless it collides. -/
def Entry.isInner : Entry → Bool
  | .call _ (some (.keyExists _)) => false
  | .call (.table ..) _ | .call (.daemon _) _ => true
  | .notice n => n.isRemark
  | _ => false

/-- An inner entry tells of no collision. -/
theorem Entry.isSmooth_of_isInner {e : Entry} (h : e.isInner) : e.isSmooth := by
  unfold isSmooth
  split
  · cases h
  · rfl

namespace Platform

/-- The platform `q` comes after `p`, and only such entries were written in between as `f` allows.
-/
def Writes (f : Entry → Bool) (p q : Platform) : Prop :=
  ∃ es : List Entry, (∀ e ∈ es, f e) ∧ q.past = es ++ p.past

section

variable {f g : Entry → Bool} {p q r : Platform}

theorem Writes.refl (f : Entry → Bool) (p : Platform) : p.Writes f p :=
  ⟨[], by simp, rfl⟩

theorem Writes.trans (h : p.Writes f q) (h' : q.Writes f r) : p.Writes f r := by
  obtain ⟨es, hes, hq⟩ := h
  obtain ⟨es', hes', hr⟩ := h'
  refine ⟨es' ++ es, List.forall_mem_append.mpr ⟨hes', hes⟩, ?_⟩
  rw [hr, hq, List.append_assoc]

/-- More entries may be allowed. -/
theorem Writes.mono (h : p.Writes f q) (hfg : ∀ {e}, f e → g e) : p.Writes g q := by
  obtain ⟨es, hes, hq⟩ := h
  exact ⟨es, fun e he => hfg (hes e he), hq⟩

/-- Nothing is taken out of the journal. -/
theorem Writes.past_suffix (h : p.Writes f q) : p.past <:+ q.past := by
  obtain ⟨es, -, hq⟩ := h
  exact ⟨es, hq.symm⟩

/-- What holds of a journal holds of it with entries on top that keep it, each of them. -/
theorem append_preserves {P : List Entry → Prop}
    (hkeep : ∀ {e : Entry} {past}, f e → P past → P (e :: past)) {es past : List Entry}
    (hes : ∀ e ∈ es, f e) (hpast : P past) : P (es ++ past) := by
  -- The entries come on top one by one, the oldest first.
  induction es with
  | nil => exact hpast
  | cons e es ih =>
    obtain ⟨he, hes⟩ := List.forall_mem_cons.mp hes
    exact hkeep he (ih hes)

/-- What every entry that is written keeps holds of the journal in the end. -/
theorem Writes.preserves {P : List Entry → Prop} (h : p.Writes f q)
    (hkeep : ∀ {e : Entry} {past}, f e → P past → P (e :: past)) (hp : P p.past) : P q.past := by
  obtain ⟨es, hes, hq⟩ := h
  rw [hq]
  exact append_preserves hkeep hes hp

/-- What was written is what the journal has got longer by. -/
theorem writes_of_suffix (h : p.past <:+ q.past)
    (hf : ∀ e ∈ q.past.take (q.past.length - p.past.length), f e) : p.Writes f q := by
  obtain ⟨es, hes⟩ := h
  refine ⟨es, ?_, hes.symm⟩
  rwa [← hes, List.length_append, Nat.add_sub_cancel, List.take_left] at hf

/-- One entry is written. -/
theorem writes_push (p : Platform) {e : Entry} (he : f e) : p.Writes f (p.push e) :=
  ⟨[e], List.forall_mem_singleton.mpr he, rfl⟩

/-- A selection from the journal stays as it is while nothing is written that it selects. -/
theorem Writes.filter_eq (h : p.Writes f q) (hfg : ∀ {e}, f e → !g e) :
    q.past.filter g = p.past.filter g := by
  obtain ⟨es, hes, hq⟩ := h
  have hnone : es.filter g = [] :=
    List.filter_eq_nil_iff.mpr fun e he => by simpa using hfg (hes e he)
  rw [hq, List.filter_append, hnone, List.nil_append]

/-- Between `p` and `q` an entry was written for which `f` holds. -/
def Shows (f : Entry → Bool) (p q : Platform) : Prop :=
  ∃ es, q.past = es ++ p.past ∧ ∃ e ∈ es, f e

/-- One entry is shown. -/
theorem shows_push (p : Platform) {e : Entry} (he : f e) : p.Shows f (p.push e) :=
  ⟨[e], rfl, e, List.mem_singleton_self e, he⟩

/-- What is shown is shown also if more is looked at, before or after. -/
theorem Shows.mono {p' q' : Platform} (h : p.Shows f q) (hp : p'.past <:+ p.past)
    (hq : q.past <:+ q'.past) : p'.Shows f q' := by
  obtain ⟨es, hpast, e, he, hshown⟩ := h
  obtain ⟨before, hp⟩ := hp
  obtain ⟨after, hq⟩ := hq
  refine ⟨after ++ es ++ before, ?_, e, by simp [he], hshown⟩
  rw [← hq, hpast, ← hp, List.append_assoc, List.append_assoc]

/-- What is shown was written, along with everything else. -/
theorem Shows.exists_mem (h : p.Shows f q) (hwrites : p.Writes g q) :
    ∃ es, (∀ e ∈ es, g e) ∧ (∃ e ∈ es, f e) ∧ q.past = es ++ p.past := by
  obtain ⟨es, hpast, hshown⟩ := h
  obtain ⟨written, hwritten, hq⟩ := hwrites
  obtain rfl : es = written := List.append_cancel_right (hpast.symm.trans hq)
  exact ⟨es, hwritten, hshown, hpast⟩

/-- Nothing is shown where no such entry is written. -/
theorem Shows.not_writes (h : p.Shows f q) : ¬p.Writes (fun e => !f e) q := by
  intro hwrites
  obtain ⟨es, hnot, ⟨e, he, hshown⟩, -⟩ := h.exists_mem hwrites
  have hnot : (!f e) = true := hnot e he
  rw [hshown] at hnot
  cases hnot

/-- What an entry that is shown starts, and every entry that is written keeps, holds of the journal
in the end. -/
theorem Shows.preserves {P : List Entry → Prop} (h : p.Shows f q) (hwrites : p.Writes g q)
    (hstart : ∀ {e : Entry} past, f e → P (e :: past))
    (hkeep : ∀ {e : Entry} {past}, g e → P past → P (e :: past)) : P q.past := by
  obtain ⟨es, hes, ⟨e, he, hshown⟩, hq⟩ := h.exists_mem hwrites
  obtain ⟨newer, older, rfl⟩ := List.append_of_mem he
  rw [hq, List.append_assoc]
  exact append_preserves hkeep (fun e he => hes e (List.mem_append_left _ he)) (hstart _ hshown)

end

/-- The platform `q` comes after `p` and keeps the stores `x`, with nothing but inner entries
written in between. -/
structure Leads (p : Platform) (x : Stores) (q : Platform) : Prop where
  stores : q.stores = x
  /-- What is refused stays a matter of the past alone. -/
  refuses : q.refuses = p.refuses
  past : p.Writes Entry.isInner q

/-- The platform refuses some call to the backend or by it, now or after some entries more. -/
def Refuses (p : Platform) : Prop :=
  ∃ (es : List Entry) (c : Call), c.isBackend ∧ (p.refuses (es ++ p.past) c).isSome

/-- A step from `p` to `q` failed since a call was refused, and changed no store. -/
def Refused (p : Platform) (res : Except Failure α) (q : Platform) : Prop :=
  (∃ f, res = .error f) ∧ p.Leads p.stores q ∧ p.Refuses

/-- A platform leads to itself. -/
theorem Leads.refl (p : Platform) : p.Leads p.stores p :=
  ⟨rfl, rfl, .refl _ p⟩

/-- What a platform keeps can be changed without a word. -/
theorem Leads.change {p q : Platform} {x : Stores} (h : p.Leads x q) (r : Platform)
    (hr : r.refuses = q.refuses) (hp : r.past = q.past) : p.Leads r.stores r :=
  ⟨rfl, hr.trans h.refuses, by rw [Writes, hp]; exact h.past⟩

/-- Writing an inner entry changes no store. -/
theorem leads_push (p : Platform) {e : Entry} (he : e.isInner) : p.Leads p.stores (p.push e) :=
  ⟨rfl, rfl, writes_push p he⟩

/-! ## Chains of steps -/

/-- A step that fails at once. -/
theorem perform_throw (p : Platform) (f : Failure) :
    p.perform (throw f : Act α) = (.error f, p) := rfl

/-- The step that looks at the platform. -/
theorem perform_get (p : Platform) : p.perform (get : Act Platform) = (.ok p, p) := rfl

/-- The step that puts a platform in place. -/
theorem perform_set (p q : Platform) : p.perform (set q : Act PUnit) = (.ok ⟨⟩, q) := rfl

/-- The step that changes the platform. -/
theorem perform_modify (p : Platform) (f : Platform → Platform) :
    p.perform (modify f : Act PUnit) = (.ok ⟨⟩, f p) := rfl

/-- A chain goes on where its first step ends, unless that fails. -/
theorem perform_bind (p : Platform) (x : Act α) (f : α → Act β) :
    p.perform (x >>= f) = match p.perform x with
      | (.ok a, q) => q.perform (f a)
      | (.error e, q) => (.error e, q) := by
  -- The chain is one of state steps, which goes on by cases of the result.
  show (match p.perform x with
    | (r, q) => q.perform (ExceptT.mk (ExceptT.bindCont f r) : Act β)) = _
  rcases p.perform x with ⟨_ | _, _⟩ <;> rfl

/-- A step with a remedy ends where the step does, or else where the remedy does. -/
theorem perform_tryCatch (p : Platform) (x : Act α) (h : Failure → Act α) :
    p.perform (tryCatch x h) = match p.perform x with
      | (.ok v, q) => (.ok v, q)
      | (.error e, q) => q.perform (h e) := by
  simp only [perform, ExceptT.run_tryCatch, StateT.run_bind]
  rcases (ExceptT.run x).run p with ⟨_ | _, _⟩ <;> rfl

variable {p q : Platform}

/-- A chain ends where its rest ends, or where its first step fails. -/
theorem perform_bind_cases {x : Act α} {f : α → Act β} {res : Except Failure β}
    (h : p.perform (x >>= f) = (res, q)) :
    (∃ a m, p.perform x = (.ok a, m) ∧ m.perform (f a) = (res, q)) ∨
      ∃ e, p.perform x = (.error e, q) ∧ res = .error e := by
  rw [perform_bind] at h
  rcases hx : p.perform x with ⟨e | a, m⟩ <;> rw [hx] at h
  · obtain ⟨rfl, rfl⟩ := Prod.mk.inj h
    exact .inr ⟨e, rfl, rfl⟩
  · exact .inl ⟨a, m, rfl, h⟩

/-- A step within an attempt ends where the step does; only its failure says more. -/
theorem perform_within_cases {a : Attempt} {x : Act α} {res : Except Failure α}
    (h : p.perform (x.within a) = (res, q)) :
    ∃ res', p.perform x = (res', q) ∧ (∀ v, res' = .ok v → res = .ok v) ∧
      ∀ e, res' = .error e → ∃ f, res = .error f := by
  rw [Act.within, perform_tryCatch] at h
  rcases hx : p.perform x with ⟨e | v, m⟩ <;> rw [hx] at h
  · obtain ⟨rfl, rfl⟩ := Prod.mk.inj h
    exact ⟨.error e, rfl, by simp, fun _ _ => ⟨_, rfl⟩⟩
  · obtain ⟨rfl, rfl⟩ := Prod.mk.inj h
    exact ⟨.ok v, rfl, fun _ h => h, by simp⟩

/-- A chain whose first step is within an attempt ends where its rest ends, or where the step
fails. -/
theorem perform_within_bind_cases {a : Attempt} {x : Act α} {f : α → Act β}
    {res : Except Failure β} (h : p.perform (x.within a >>= f) = (res, q)) :
    (∃ v m, p.perform x = (.ok v, m) ∧ m.perform (f v) = (res, q)) ∨
      ∃ e, p.perform x = (.error e, q) ∧ ∃ e', res = .error e' := by
  rcases perform_bind_cases h with ⟨v, m, hx, h⟩ | ⟨e', hx, rfl⟩ <;>
    obtain ⟨res', hx, hok, herror⟩ := perform_within_cases hx <;> rcases res' with e | v'
  · obtain ⟨_, hcontra⟩ := herror e rfl
    cases hcontra
  · obtain rfl := Except.ok.inj (hok v' rfl)
    exact .inl ⟨v, m, hx, h⟩
  · exact .inr ⟨e, hx, e', rfl⟩
  · cases hok v' rfl

/-- A step taken for its outcome ends where the step does, and does not fail. -/
theorem perform_outcome (p : Platform) (x : Act α) :
    p.perform x.outcome = (.ok (p.perform x).1, (p.perform x).2) := by
  have hmap : p.perform (Except.ok (ε := Failure) <$> x) = match p.perform x with
      | (.ok v, q) => (.ok (.ok v), q)
      | (.error e, q) => (.error e, q) := by
    rw [map_eq_pure_bind, perform_bind]
    rcases p.perform x with ⟨_ | _, _⟩ <;> rfl
  rw [Act.outcome, perform_tryCatch, hmap]
  rcases p.perform x with ⟨_ | _, _⟩ <;> rfl

/-! ## Calls -/

/-- A call is let through, or it is refused and fails; it is written down either way. -/
theorem perform_ask_cases {c : Call} {res : Except Failure Unit}
    (h : p.perform (Act.ask c) = (res, q)) :
    (p.refuses p.past c = none ∧ res = .ok () ∧ q = p.push (.call c none)) ∨
      ∃ reason, p.refuses p.past c = some reason ∧ res = .error ⟨none, .refused reason⟩ ∧
        q = p.push (.call c (some (.refused reason))) := by
  rw [Act.ask, perform_bind, perform_get] at h
  dsimp only at h
  split at h
  · rename_i hpass
    rw [perform_set] at h
    obtain ⟨rfl, rfl⟩ := Prod.mk.inj h
    exact .inl ⟨hpass, rfl, rfl⟩
  · rename_i reason hrefuse
    rw [perform_bind, perform_set] at h
    dsimp only at h
    rw [perform_throw] at h
    obtain ⟨rfl, rfl⟩ := Prod.mk.inj h
    exact .inr ⟨reason, hrefuse, rfl, rfl⟩

/-- A chain that starts with a call fails with the call as its last entry, or goes on after it. -/
theorem perform_ask_bind_told {c : Call} {f : Unit → Act β} {res : Except Failure β}
    (h : p.perform (Act.ask c >>= f) = (res, q)) :
    (∃ reason e, res = .error e ∧ q = p.push (.call c (some (.refused reason)))) ∨
      p.refuses p.past c = none ∧ (p.push (.call c none)).perform (f ()) = (res, q) := by
  rcases perform_bind_cases h with ⟨_, m, hask, h⟩ | ⟨e, hask, rfl⟩ <;>
    rcases perform_ask_cases hask with ⟨hpass, hres, rfl⟩ | ⟨reason, -, hres, rfl⟩
  · exact .inr ⟨hpass, h⟩
  · cases hres
  · cases hres
  · exact .inl ⟨reason, e, rfl, rfl⟩

/-- A step that starts with a call fails since the call was refused, or goes on after it with the
stores as they were. -/
theorem perform_ask_bind_cases {c : Call} {f : Unit → Act β} {res : Except Failure β}
    (hc : (Entry.call c none).isInner) (h : p.perform (Act.ask c >>= f) = (res, q)) :
    p.Refused res q ∨
      ∃ m, p.refuses p.past c = none ∧ p.Leads p.stores m ∧ m.perform (f ()) = (res, q) := by
  rcases hask : p.perform (Act.ask c) with ⟨res', m⟩
  rw [perform_bind, hask] at h
  rcases perform_ask_cases hask with ⟨hpass, rfl, rfl⟩ | ⟨reason, hrefuse, rfl, rfl⟩
  · exact .inr ⟨_, hpass, leads_push p hc, h⟩
  · obtain ⟨rfl, rfl⟩ := Prod.mk.inj h
    have hcall : c.isBackend ∧ (Entry.call c (some (.refused reason))).isInner := by
      cases c <;> first | exact ⟨rfl, rfl⟩ | cases hc
    have hrefuses : p.Refuses := ⟨[], c, hcall.1, by rw [List.nil_append, hrefuse]; rfl⟩
    exact .inl ⟨⟨_, rfl⟩, leads_push p hcall.2, hrefuses⟩

/-- A remark, made on some condition, changes no store. -/
theorem perform_remark_cases {c : Prop} [Decidable c] {n : Notice} {res : Except Failure PUnit}
    (hn : n.isRemark) (h : p.perform (if c then Act.note n else pure ()) = (res, q)) :
    res = .ok ⟨⟩ ∧ p.Leads p.stores q := by
  split at h
  · obtain ⟨rfl, rfl⟩ := Prod.mk.inj h
    exact ⟨rfl, leads_push p hn⟩
  · obtain ⟨rfl, rfl⟩ := Prod.mk.inj h
    exact ⟨rfl, .refl p⟩

end Platform

/-! ## Accesses to the tables -/

/-- Change one table. -/
def Stores.edit {κ ν : Type} [Ord κ] (x : Stores) (s : Slot κ ν)
    (f : ExtTreeMap κ ν → ExtTreeMap κ ν) : Stores :=
  { x with kernel := s.write (f (s.read x.kernel)) x.kernel }

namespace Slot

open Platform

variable {κ ν : Type} [Ord κ] {s : Slot κ ν} {key : κ} {value : ν} {p q : Platform}

/-- A table is changed without a word. -/
theorem leads_put {m : Platform} (h : p.Leads p.stores m) (f : ExtTreeMap κ ν → ExtTreeMap κ ν) :
    p.Leads (p.stores.edit s f) (s.store (f (s.content m)) m) := by
  rw [← h.stores]
  exact h.change (s.store (f (s.content m)) m) rfl rfl

/-- Clearing leaves a table without entries, unless it is refused, as the journal shows. -/
theorem clear_cases {res : Except Failure Unit} (h : p.perform s.clear = (res, q)) :
    (p.Refused res q ∧ p.Shows (Entry.isUncleared s.label) q) ∨
      (res = .ok () ∧ p.Leads (p.stores.edit s fun _ => ∅) q) := by
  rcases perform_ask_bind_cases rfl h with hr | ⟨m, -, hm, h⟩
  · rcases perform_ask_bind_told h with ⟨reason, e, -, rfl⟩ | ⟨-, h⟩
    · exact .inl ⟨hr, shows_push p (decide_eq_true rfl)⟩
    · -- A call that was let through does not fail.
      rw [perform_modify] at h
      obtain ⟨rfl, -⟩ := Prod.mk.inj h
      obtain ⟨⟨_, hf⟩, -⟩ := hr
      cases hf
  · rw [perform_modify] at h
    obtain ⟨rfl, rfl⟩ := Prod.mk.inj h
    exact .inr ⟨rfl, leads_put hm _⟩

variable [TransOrd κ]

/-- A look-up finds what is under the key. -/
theorem get_cases {res : Except Failure (Option ν)} (h : p.perform (s.get key) = (res, q)) :
    p.Refused res q ∨ (res = .ok (s.read p.stores.kernel)[key]? ∧ p.Leads p.stores q) := by
  rcases perform_ask_bind_cases rfl h with hr | ⟨m, -, hm, h⟩
  · exact .inl hr
  · rw [perform_bind, perform_get] at h
    obtain ⟨rfl, rfl⟩ := Prod.mk.inj h
    exact .inr ⟨by rw [← hm.stores]; rfl, hm⟩

/-- An insertion needs a key that is not there, else it collides. -/
theorem insert_cases {res : Except Failure Unit} (h : p.perform (s.insert key value) = (res, q)) :
    p.Refused res q ∨
      ((∃ f, res = .error f) ∧ key ∈ s.read p.stores.kernel ∧
        q = p.push (.call (.table s.label (.insert (s.keyBytes key) (s.valueBytes value)))
          (some (.keyExists s.label)))) ∨
      (res = .ok () ∧ key ∉ s.read p.stores.kernel ∧
        p.Leads (p.stores.edit s (·.insert key value)) q) := by
  rw [Slot.insert, perform_bind, perform_get] at h
  dsimp only at h
  split at h
  · -- The call is let through, but the key is there.
    rename_i hkey
    rw [perform_bind, perform_set] at h
    dsimp only at h
    rw [perform_throw] at h
    obtain ⟨rfl, rfl⟩ := Prod.mk.inj h
    exact .inr (.inl ⟨⟨_, rfl⟩, hkey.2, rfl⟩)
  · rename_i hkey
    rcases perform_ask_bind_cases rfl h with hr | ⟨m, hpass, hm, h⟩
    · exact .inl hr
    · rw [perform_modify] at h
      obtain ⟨rfl, rfl⟩ := Prod.mk.inj h
      have hfree : key ∉ s.content p := fun hmem => hkey ⟨by rw [hpass]; rfl, hmem⟩
      exact .inr (.inr ⟨rfl, hfree, leads_put hm _⟩)

/-- An update puts the value under the key. -/
theorem update_cases {res : Except Failure Unit} (h : p.perform (s.update key value) = (res, q)) :
    p.Refused res q ∨ (res = .ok () ∧ p.Leads (p.stores.edit s (·.insert key value)) q) := by
  rcases perform_ask_bind_cases rfl h with hr | ⟨m, -, hm, h⟩
  · exact .inl hr
  · rw [perform_modify] at h
    obtain ⟨rfl, rfl⟩ := Prod.mk.inj h
    exact .inr ⟨rfl, leads_put hm _⟩

/-- A deletion takes the key out and tells whether it was there. -/
theorem delete_cases {res : Except Failure Bool} (h : p.perform (s.delete key) = (res, q)) :
    p.Refused res q ∨ (res = .ok (decide (key ∈ s.read p.stores.kernel)) ∧
      p.Leads (p.stores.edit s (·.erase key)) q) := by
  rcases perform_ask_bind_cases rfl h with hr | ⟨m, -, hm, h⟩
  · exact .inl hr
  · rw [perform_bind, perform_get] at h
    dsimp only at h
    rw [perform_bind, perform_set] at h
    obtain ⟨rfl, rfl⟩ := Prod.mk.inj h
    exact .inr ⟨by rw [← hm.stores]; rfl, leads_put hm _⟩

/-- A listing has every entry. -/
theorem entries_cases {res : Except Failure (List (κ × ν))}
    (h : p.perform s.entries = (res, q)) :
    p.Refused res q ∨ (res = .ok (s.read p.stores.kernel).toList ∧ p.Leads p.stores q) := by
  rcases perform_ask_bind_cases rfl h with hr | ⟨m, -, hm, h⟩
  · exact .inl hr
  · rw [perform_bind, perform_get] at h
    obtain ⟨rfl, rfl⟩ := Prod.mk.inj h
    exact .inr ⟨by rw [← hm.stores]; rfl, hm⟩

end Slot

/-! ## Calls to the daemon -/

namespace Daemon

open Platform

variable {p q : Platform}

/-- What the daemon keeps is changed without a word. -/
theorem leads_change {m : Platform} (h : p.Leads p.stores m) (f : DaemonTables → DaemonTables) :
    p.Leads { p.stores with daemon := f p.stores.daemon } { m with daemon := f m.daemon } := by
  rw [← h.stores]
  exact h.change { m with daemon := f m.daemon } rfl rfl

/-- A call to the daemon that only changes what it keeps does so, unless it is refused. -/
theorem change_cases {d : DaemonCall} {f : DaemonTables → DaemonTables} {res : Except Failure Unit}
    (h : p.perform (Act.ask (.daemon d) >>= fun _ => change f) = (res, q)) :
    p.Refused res q ∨
      (res = .ok () ∧ p.Leads { p.stores with daemon := f p.stores.daemon } q) := by
  rcases perform_ask_bind_cases rfl h with hr | ⟨m, -, hm, h⟩
  · exact .inl hr
  · rw [change, perform_modify] at h
    obtain ⟨rfl, rfl⟩ := Prod.mk.inj h
    exact .inr ⟨rfl, leads_change hm f⟩

/-- The report of the daemon lists all traffic. -/
theorem getStats_cases {res : Except Failure (List InterfaceTraffic)}
    (h : p.perform getStats = (res, q)) :
    p.Refused res q ∨
      (res = .ok (p.stores.daemon.stats.toList.map fun (i, t) => ⟨i, t⟩) ∧
        p.Leads p.stores q) := by
  rcases perform_ask_bind_cases rfl h with hr | ⟨m, -, hm, h⟩
  · exact .inl hr
  · rw [perform_bind, perform_get] at h
    obtain ⟨rfl, rfl⟩ := Prod.mk.inj h
    exact .inr ⟨by rw [← hm.stores]; rfl, hm⟩

/-- The daemon reports the final traffic of an interface and forgets its traffic and its quota. -/
theorem getAndClear_cases {i : IfIndex} {res : Except Failure InterfaceTraffic}
    (h : p.perform (getAndClear i) = (res, q)) :
    p.Refused res q ∨
      (res = .ok ⟨p.stores.daemon.reportedAs.getD i i, p.stores.daemon.stats.getD i .zero⟩ ∧
        p.Leads { p.stores with daemon := { p.stores.daemon with
          stats := p.stores.daemon.stats.erase i
          quotas := p.stores.daemon.quotas.erase i } } q) := by
  rcases perform_ask_bind_cases rfl h with hr | ⟨m, -, hm, h⟩
  · exact .inl hr
  · rw [perform_bind, perform_get] at h
    dsimp only at h
    rw [perform_bind, change, perform_modify] at h
    obtain ⟨rfl, rfl⟩ := Prod.mk.inj h
    exact .inr ⟨by rw [← hm.stores]; rfl, leads_change hm fun d =>
      { d with stats := d.stats.erase i, quotas := d.quotas.erase i }⟩

end Daemon

end FastPath
