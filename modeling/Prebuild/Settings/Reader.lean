import Prebuild.Settings.Basic
import Prebuild.FileSystem.Lookup
import Prebuild.Yaml.Reader
import Prebuild.Decimal.Layout
import Prebuild.Text.Quoted

/-!
# Reading settings

A settings file is a YAML mapping from names of fields to texts. Fields that it leaves out
have their conventional value, and so have all if it says nothing at all. Whatever else it
says is refused, so that a misspelled name does not go unnoticed. The pairs are read in the
order they are written in and the first that is wrong is the one reported.
-/

namespace Prebuild

/-- What is wrong with settings. -/
inductive SettingsFault where
  | unreadable (file : Path) (refusal : Refusal)
  | notMapping (found : String)
  | nameNotText (found : String)
  | unknownField (name : String)
  | repeatedField (field : Settings.Field)
  | valueNotText (field : Settings.Field) (found : String)
deriving DecidableEq

namespace SettingsFault

def mismatch (found expected : String) : String :=
  "invalid type: " ++ found ++ ", expected " ++ expected

/-- The names of all fields, as a message lists them. -/
def fieldList : String :=
  ", ".intercalate (Settings.Field.all.map fun f => "`" ++ f.name ++ "`")

def message : SettingsFault → String
  | .unreadable file r => "Failed to read '" ++ file.display ++ "': " ++ r.message
  | .notMapping found => mismatch found "struct GeneratorSettings"
  | .nameNotText found => mismatch found "field identifier"
  | .unknownField name => "unknown field `" ++ name ++ "`, expected one of " ++ fieldList
  | .repeatedField f => "duplicate field `" ++ f.name ++ "`"
  | .valueNotText f found => mismatch found f.expectation

end SettingsFault

namespace Yaml.Value

/-- Floating point values are named with all their digits. -/
def realLayout : Decimal.Layout where
  full := none
  tie := .up

/-- What a value is, as a message names it. -/
def description : Yaml.Value → String
  | .null => "unit value"
  | .bool b => "boolean `" ++ (if b then "true" else "false") ++ "`"
  | .integer n => "integer `" ++ toString n ++ "`"
  | .real x => "floating point `" ++ realLayout.render x ++ "`"
  | .string s => "string " ++ Text.quote s
  | .sequence _ => "sequence"
  | .mapping _ => "map"
  | .tagged _ v => v.description

/-- The text that a value is. -/
def text? : Yaml.Value → Option String
  | .string s => some s
  | .tagged _ v => v.text?
  | _ => none

end Yaml.Value

namespace Settings

/-- The field that a key names. -/
def readField (key : Yaml.Value) : Except SettingsFault Field :=
  match key.text? with
  | none => .error (.nameNotText key.description)
  | some name =>
    match Field.ofName? name with
    | none => .error (.unknownField name)
    | some f => .ok f

/-- The text that a value of a field is. -/
def readText (f : Field) (value : Yaml.Value) : Except SettingsFault String :=
  match value.text? with
  | none => .error (.valueNotText f value.description)
  | some text => .ok text

/-- Puts the values of pairs in; `given` holds the fields that were put in before. -/
def readPairs (given : List Field) (s : Settings) :
    List (Yaml.Value × Yaml.Value) → Except SettingsFault Settings
  | [] => .ok s
  | (key, value) :: pairs => do
    let f ← readField key
    if given.contains f then .error (.repeatedField f)
    else
      let text ← readText f value
      readPairs (f :: given) (s.set f (f.ofText text)) pairs

/-- The settings that a value spells. -/
def ofValue (v : Yaml.Value) : Except SettingsFault Settings :=
  match v.untagged with
  | .null => .ok conventional
  | .mapping pairs => readPairs [] conventional pairs
  | v => .error (.notMapping v.description)

end Settings

end Prebuild
