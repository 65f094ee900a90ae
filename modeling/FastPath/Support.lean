import FastPath.Notice

/-!
# Support of this program

Tables and forwarding programs are opened by a loader that this program is built without, so it
opens none of them and says so.
-/

namespace FastPath

namespace Support

/-- Open the pinned tables. -/
def openTables : (TableLabel → Bool) × Notice :=
  (fun _ => false, .tablesUnsupported)

/-- Get ready to attach the configured programs. The result says whether they can be attached. -/
def openPrograms (c : Config) : Bool × Notice :=
  (false, c.programObject.elim .noProgramObject .programsUnsupported)

end Support

end FastPath
