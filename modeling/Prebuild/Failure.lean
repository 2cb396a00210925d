import Prebuild.Json.Fault
import Prebuild.Source.Location
import Prebuild.FileSystem.Change
import Prebuild.FileSystem.Walk
import Prebuild.Settings.Reader

/-!
# Failures

Everything that can end a pass, a build or a command early. A missing fragment is not among
them.
-/

namespace Prebuild

/-- What is wrong with the content of a fragment, or with what was merged from it. -/
inductive FragmentFault where
  | notJson (error : Json.Error)
  | notObject (what : String) (found : String)
deriving DecidableEq

def FragmentFault.message : FragmentFault → String
  | .notJson e => e.message
  | .notObject what found => "`" ++ what ++ "` must be a JSON object, found " ++ found

inductive Failure where
  | unreadableFragment (file : Path) (refusal : Refusal)
  | fragment (file : Path) (fault : FragmentFault)
  /-- A settings file that is no YAML document. -/
  | notYaml
  | settings (fault : SettingsFault)
  | walk (fault : WalkFault)
  | unreadableSource (file : Path) (refusal : Refusal)
  | location (fault : LocationFault)
  | write (fault : WriteFault)
deriving DecidableEq

namespace Failure

/-- The text of what failed while files were read or written. -/
def inFilesystem (detail : String) : String := "Filesystem operation error: " ++ detail

/-- What is said about a settings file that is no YAML document. -/
def notYamlReason : String := "not a single well-formed document"

def message : Failure → String
  | .unreadableFragment file r =>
    inFilesystem ("Failed to read fragment '" ++ file.display ++ "': " ++ r.message)
  | .fragment file fault =>
    "Configuration parsing error in " ++ file.display ++ ": " ++ fault.message
  | .notYaml => "YAML parsing error: " ++ notYamlReason
  | .settings fault => "Settings error: " ++ fault.message
  | .walk fault => "Source tree walk error: " ++ fault.message
  | .unreadableSource file r =>
    inFilesystem ("Failed to read '" ++ file.display ++ "': " ++ r.message)
  | .location fault => "Path operation error: " ++ fault.message
  | .write fault => inFilesystem fault.message

end Failure

end Prebuild
