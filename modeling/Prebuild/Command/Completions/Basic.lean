import Prebuild.Command.Grammar

/-!
# What completion scripts are written from

A script completes the words of a command line, given the verbs that stand in it so far. So
it is written from the verbs of the program, each with the names that lead to it.
-/

namespace Prebuild.Command

/-- A verb, and the names that lead to it from the program. -/
structure VerbAt where
  path : List String
  verb : Verb

mutual

/-- A verb and all below it, each before the ones below. -/
def places (path : List String) : Verb → List VerbAt
  | ⟨name, help, flags, argument?, verbs⟩ =>
    ⟨path, ⟨name, help, flags, argument?, verbs⟩⟩ :: placesOf path verbs

/-- The verbs of a list and all below them. -/
def placesOf (path : List String) : List Verb → List VerbAt
  | [] => []
  | v :: vs => places (path ++ [v.name]) v ++ placesOf path vs

end

namespace VerbAt

/-- The program and all its verbs. -/
def all : List VerbAt := places [] program

/-- The program and all its verbs in the order of their paths. -/
def sorted : List VerbAt := all.mergeSort fun a b => !(b.path < a.path)

/-- The names that lead to the verb, that of the program first. -/
def names (p : VerbAt) : List String := program.name :: p.path

/-- The names, joined by a separator. -/
def joined (p : VerbAt) (separator : String) : String := separator.intercalate p.names

/-- A name for the verb that a script can use for a function or a state. -/
def symbol (p : VerbAt) : String := p.joined "__subcmd__"

end VerbAt

namespace Flag

def takesValue (f : Flag) : Bool := f.parameter?.isSome

/-- Whether the value of the flag is a path. -/
def takesPath (f : Flag) : Bool := f.parameter?.any fun p => p.sort = .path

/-- How the flag is written by its short name. -/
def shortForm? (f : Flag) : Option String := f.short?.map fun c => "-" ++ String.singleton c

/-- How the flag is written by its long name. -/
def longForm (f : Flag) : String := "--" ++ f.long

end Flag

/-- The flags that take a value, and then the others. -/
def arranged (flags : List Flag) : List Flag :=
  flags.filter Flag.takesValue ++ flags.filter (!·.takesValue)

/-- A text in single quotes, where a quote inside it is written in another way. -/
def quoted (quote : String) (s : String) : String :=
  "'" ++ String.join (s.toList.map fun c => if c = '\'' then quote else String.singleton c) ++ "'"

/-- Lines, each ended by a line feed. -/
def unlines (lines : List String) : String := String.join (lines.map (· ++ "\n"))

end Prebuild.Command
