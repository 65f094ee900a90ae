import FastPath.Controller.Operation

/-!
# Answers

The only operations that can be refused are those that ask for a quota. They are refused for the
quota alone, whatever the state (`run_error_iff`), and then they change nothing (`run_of_refused`).
-/

namespace FastPath

/-- The quota that an operation asks for. -/
def Operation.quota? : Operation → Option Quota
  | .event (.setLimit _ q) | .event (.setAlert q) => some q
  | _ => none

/-- The operation asks for a quota that is not acceptable. -/
def Operation.IsRefused (op : Operation) : Prop :=
  ∃ q ∈ op.quota?, ¬q.Acceptable

/-- A quota is acceptable if it is none or not negative. -/
theorem Quota.check_eq (q : Quota) :
    q.check = if q = -1 ∨ 0 ≤ q then .ok () else .error (.invalidQuota q) := by
  have hiff : q.Acceptable ↔ q = -1 ∨ 0 ≤ q := or_comm
  unfold Quota.check
  simp only [hiff]

/-- A quota that is not acceptable is the reason for a refusal. -/
theorem Quota.check_error_iff {q : Quota} {e : RequestError} :
    q.check = .error e ↔ ¬q.Acceptable ∧ e = .invalidQuota q := by
  unfold Quota.check
  split
  · rename_i hq
    exact ⟨nofun, fun h => absurd hq h.1⟩
  · rename_i hq
    rw [Except.error.injEq, and_iff_right hq]
    exact eq_comm

namespace Controller

variable (c : Controller)

/-- A limit is accepted if its quota is, whether offload is on or off and whatever is known of the
interface. -/
theorem setLimit_answer (iface : String) (q : Quota) : (c.setLimit iface q).1 = q.check := by
  unfold setLimit
  split
  · unfold limit
    split
    · rename_i hcheck
      exact hcheck.symm
    · rename_i hcheck
      rw [hcheck]
      split <;> rfl
  · rfl

/-- An alert is accepted if its quota is. -/
theorem setAlert_answer (q : Quota) : (c.setAlert q).1 = q.check := by
  unfold setAlert
  split
  · unfold armAlert
    split <;> rename_i hcheck <;> exact hcheck.symm
  · rfl

/-- A limit whose quota is not accepted changes nothing. -/
theorem setLimit_of_error {q : Quota} {e : RequestError} (h : q.check = .error e)
    (iface : String) : (c.setLimit iface q).2 = c := by
  unfold setLimit
  split
  · rw [limit, h]
  · rfl

/-- Nor does such an alert. -/
theorem setAlert_of_error {q : Quota} {e : RequestError} (h : q.check = .error e) :
    (c.setAlert q).2 = c := by
  unfold setAlert
  split
  · rw [armAlert, h]
  · rfl

/-- An operation is refused exactly for the quota that it asks for. -/
theorem run_error_iff {op : Operation} {e : RequestError} :
    (c.run op).1 = .error e ↔ ∃ q ∈ op.quota?, ¬q.Acceptable ∧ e = .invalidQuota q := by
  have hquota : ∀ {q : Quota} {answer : Except RequestError Unit}, answer = q.check →
      (answer.map (fun _ => Reply.done) = .error e ↔
        ∃ q' ∈ some q, ¬q'.Acceptable ∧ e = .invalidQuota q') := by
    rintro q _ rfl
    simp only [Option.mem_some_iff, exists_eq_left', ← Quota.check_error_iff]
    cases q.check <;> simp [Except.map]
  have hnone : ∀ {r : Reply}, op.quota? = none → ((.ok r : Except RequestError Reply) = .error e ↔
      ∃ q ∈ op.quota?, ¬q.Acceptable ∧ e = .invalidQuota q) := by
    intro r hop
    rw [hop]
    exact ⟨nofun, nofun⟩
  cases op with
  | event e =>
    cases e with
    | setLimit iface q => exact hquota (c.setLimit_answer iface q)
    | setAlert q => exact hquota (c.setAlert_answer q)
    | _ => exact hnone rfl
  | _ => exact hnone rfl

/-- No operation results in the answer that the service has stopped. -/
theorem run_ne_stopped (op : Operation) : (c.run op).1 ≠ .error .stopped := by
  intro h
  obtain ⟨q, -, -, he⟩ := c.run_error_iff.mp h
  cases he

/-- An operation that is refused changes nothing. -/
theorem run_of_refused {op : Operation} (h : op.IsRefused) : (c.run op).2 = c := by
  obtain ⟨q, hop, hq⟩ := h
  have hcheck : q.check = .error (.invalidQuota q) := Quota.check_error_iff.mpr ⟨hq, rfl⟩
  cases op with
  | event e =>
    cases e with
    | setLimit iface q' =>
      obtain rfl := Option.some.inj hop
      exact c.setLimit_of_error hcheck iface
    | setAlert q' =>
      obtain rfl := Option.some.inj hop
      exact c.setAlert_of_error hcheck
    | _ => cases hop
  | _ => cases hop

end Controller

end FastPath
