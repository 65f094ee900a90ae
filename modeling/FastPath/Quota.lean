/-!
# Quotas

A quota is a number of bytes, and minus one stands for none. It caps the traffic of an upstream or
arms the alert; no other negative number is accepted for either.
-/

namespace FastPath

/-- A data limit or an alert threshold in bytes. -/
abbrev Quota := Int64

namespace Quota

/-- The quota that sets no bound. -/
def unlimited : Quota := -1

/-- A caller may ask for this quota. -/
def Acceptable (q : Quota) : Prop := 0 ≤ q ∨ q = unlimited

instance (q : Quota) : Decidable q.Acceptable := inferInstanceAs (Decidable (_ ∨ _))

end Quota

/-- Why a request was not served. -/
inductive RequestError
  /-- The quota is negative and not the one for none. -/
  | invalidQuota (q : Quota)
  /-- The worker that serves requests is gone. -/
  | stopped
deriving DecidableEq

/-- The wording of an error. -/
def RequestError.message : RequestError → String
  | invalidQuota q => s!"invalid quota value {q.toInt}"
  | stopped => "offload service stopped"

/-- Refuse a quota that is not acceptable. -/
def Quota.check (q : Quota) : Except RequestError Unit :=
  if q.Acceptable then .ok () else .error (.invalidQuota q)

end FastPath
