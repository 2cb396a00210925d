/-!
# Why an operation on files is refused
-/

namespace Prebuild

inductive Refusal where
  | notFound
  | inputOutput
  | busy
  | exists
  | notDirectory
  | isDirectory
  | invalidArgument
  | fileTooLarge
  | noSpace
  | nameTooLong
  | tooManyLinks
  | quotaExceeded
  | nulInPath
  | notText
deriving DecidableEq, Repr

/-- The text of a refusal. Those of the operating system come with its number for them. -/
def Refusal.message : Refusal → String
  | .notFound => "No such file or directory (os error 2)"
  | .inputOutput => "Input/output error (os error 5)"
  | .busy => "Device or resource busy (os error 16)"
  | .exists => "File exists (os error 17)"
  | .notDirectory => "Not a directory (os error 20)"
  | .isDirectory => "Is a directory (os error 21)"
  | .invalidArgument => "Invalid argument (os error 22)"
  | .fileTooLarge => "File too large (os error 27)"
  | .noSpace => "No space left on device (os error 28)"
  | .nameTooLong => "File name too long (os error 36)"
  | .tooManyLinks => "Too many levels of symbolic links (os error 40)"
  | .quotaExceeded => "Disk quota exceeded (os error 122)"
  | .nulInPath => "file name contained an unexpected NUL byte"
  | .notText => "stream did not contain valid UTF-8"

end Prebuild
