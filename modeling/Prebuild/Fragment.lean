import Prebuild.Event
import Prebuild.Json.Reader

/-!
# Configuration fragments

A fragment is a JSON file that contributes to the configuration. It may be missing. Where an
object is asked for, a value that counts as absent contributes nothing and any other value
that is no object is refused.
-/

namespace Prebuild

structure Fragment where
  file : Path
  value : Json

/-- The members of a value from a file, if it has any to contribute. -/
def Json.membersOf (file : Path) (what : String) : Json → Except Failure (Option Json.Members)
  | .object ms => .ok (some ms)
  | j => if j.isVoid then .ok none else .error (.fragment file (.notObject what j.kind))

namespace Fragment

/-- The members of the fragment itself. -/
def members? (f : Fragment) : Except Failure (Option Json.Members) :=
  f.value.membersOf f.file "top level"

/-- The members of the object under a key of the fragment. -/
def block? (f : Fragment) (key : String) : Except Failure (Option Json.Members) := do
  match (← f.members?).bind (·.find? key) with
  | none => .ok none
  | some j => j.membersOf f.file key

/-- The fragment in a file, if there is such a file. -/
def load (fs : FileSystem) (file : Path) : Reported (Option Fragment) := do
  if fs.reaches file then
    match fs.readText file with
    | .error e => Reported.fail (.unreadableFragment file e)
    | .ok text =>
      match Json.read text with
      | .error e => Reported.fail (.fragment file (.notJson e))
      | .ok j => return some ⟨file, j⟩
  else
    Reported.report (.noFragment file)
    return none

end Fragment

end Prebuild
