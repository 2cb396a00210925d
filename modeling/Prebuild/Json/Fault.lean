/-!
# What is wrong with a JSON text

A fault has a cause and a place. The place is given by how many bytes of the text lie behind
it, so that a reader that only holds the rest of the text can name it; line and column are
worked out from the whole text at the end. Lines end at line feeds only, and columns count
bytes.
-/

namespace Prebuild.Json

/-- Why a text is not JSON. -/
inductive Cause where
  | endInValue
  | endInList
  | endInObject
  | endInString
  | noValue
  | wrongWord
  | wrongNumber
  | numberOutOfRange
  | controlInString
  | wrongEscape
  | loneSurrogate
  | surrogateNotContinued
  | noListSeparator
  | noObjectSeparator
  | noColon
  | keyNotString
  | trailingComma
  | trailingCharacters
  | tooDeep
deriving DecidableEq

def Cause.message : Cause → String
  | .endInValue => "EOF while parsing a value"
  | .endInList => "EOF while parsing a list"
  | .endInObject => "EOF while parsing an object"
  | .endInString => "EOF while parsing a string"
  | .noValue => "expected value"
  | .wrongWord => "expected ident"
  | .wrongNumber => "invalid number"
  | .numberOutOfRange => "number out of range"
  | .controlInString => "control character (\\u0000-\\u001F) found while parsing a string"
  | .wrongEscape => "invalid escape"
  | .loneSurrogate => "lone leading surrogate in hex escape"
  | .surrogateNotContinued => "unexpected end of hex escape"
  | .noListSeparator => "expected `,` or `]`"
  | .noObjectSeparator => "expected `,` or `\x7d`"
  | .noColon => "expected `:`"
  | .keyNotString => "key must be a string"
  | .trailingComma => "trailing comma"
  | .trailingCharacters => "trailing characters"
  | .tooDeep => "recursion limit exceeded"

/-- A cause, and the number of bytes behind the place it is seen at. -/
structure Fault where
  cause : Cause
  behind : Nat
deriving DecidableEq

/-- A fault with its line, from 1, and the number of bytes before it on that line. -/
structure Error where
  cause : Cause
  line : Nat
  column : Nat
deriving DecidableEq

/-- Works out where in `text` a fault lies. -/
def Fault.locate (fault : Fault) (text : String) : Error :=
  let bytes := text.toUTF8.data.toList
  let before := bytes.take (bytes.length - fault.behind)
  let lineFeed : UInt8 := 10
  { cause := fault.cause
    line := before.count lineFeed + 1
    column := (before.reverse.takeWhile (· ≠ lineFeed)).length }

def Error.message (e : Error) : String :=
  e.cause.message ++ " at line " ++ toString e.line ++ " column " ++ toString e.column

/-- The number of bytes of a text. -/
def byteCount (cs : List Char) : Nat := cs.foldr (fun c n => c.utf8Size + n) 0

/-- Fails just behind the first byte of what is left, or at the end. -/
def failPast {α : Type} (cause : Cause) (cs : List Char) : Except Fault α :=
  .error ⟨cause, byteCount cs - 1⟩

/-- Fails in front of what is left. -/
def failBefore {α : Type} (cause : Cause) (cs : List Char) : Except Fault α :=
  .error ⟨cause, byteCount cs⟩

end Prebuild.Json
