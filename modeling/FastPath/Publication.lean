import FastPath.Json.Decode
import FastPath.Json.Printer
import FastPath.Platform.Basic

/-!
# Publication

Traffic and alerts are published as lines, each a JSON object that names its type and the time. A
line never holds a line feed of its own, so whoever reads the lines can tell them apart.
-/

namespace FastPath

/-- What is told to the outside. -/
inductive Publication
  | stats (perInterface perOwner : List Share)
  | alert
deriving DecidableEq

/-- The name of an owner. -/
def Owner.text : Owner → String
  | interface => "interface"
  | tethering => "tethering"

/-- Write traffic as fields. -/
def Traffic.fields (t : Traffic) : List (String × Json) :=
  [("rx_bytes", .ofWord64 t.rxBytes), ("rx_packets", .ofWord64 t.rxPackets),
   ("tx_bytes", .ofWord64 t.txBytes), ("tx_packets", .ofWord64 t.txPackets)]

/-- Write a share. The fields of its traffic stand beside the others. -/
def Share.toJson (s : Share) : Json :=
  .object ([("iface", .string s.iface), ("owner", .string s.owner.text)] ++ s.traffic.fields)

namespace Publication

/-- What a call publishes, if it does. -/
def ofCall? : Call → Option Publication
  | .publish perInterface perOwner => some (.stats perInterface perOwner)
  | .alert => some .alert
  | _ => none

/-- Write a publication made at a time. -/
def toJson (timestamp : String) : Publication → Json
  | stats perInterface perOwner =>
    .object [("type", .string "stats"), ("timestamp", .string timestamp),
      ("per_iface", .array (perInterface.map Share.toJson)),
      ("per_owner", .array (perOwner.map Share.toJson))]
  | alert => .object [("type", .string "alert"), ("timestamp", .string timestamp)]

/-- The line of a publication made at a time. -/
def line (timestamp : String) (p : Publication) : String :=
  (p.toJson timestamp).compact ++ "\n"

/-- What is noted when a publication fails. -/
def notPublished : Publication → OutletFailure → Notice
  | stats .. => .statsNotPublished
  | alert => .alertNotPublished

/-- Where lines go. Both steps may fail with a reason. -/
structure Outlet (m : Type → Type) where
  write : String → m (Except String Unit)
  flush : m (Except String Unit)

/-- Publish. The result is the notice of a failure. -/
def send [Monad m] (out : Outlet m) (timestamp : String) (p : Publication) : m (Option Notice) := do
  match ← out.write (p.line timestamp) with
  | .error reason => return some (p.notPublished (.write reason))
  | .ok () =>
    match ← out.flush with
    | .error reason => return some (p.notPublished (.flush reason))
    | .ok () => return none

end Publication

end FastPath
