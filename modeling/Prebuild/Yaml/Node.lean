import Prebuild.Yaml.Token

/-!
# Nodes

The nodes of a document form a tree. A node may carry an anchor and a tag; where nothing
stands, an empty plain scalar does. Tags are resolved here, as the handles that a document
declares end with it. What an alias holds depends on how far it is understood: the name that
is written, or the number of the anchor it leads to.
-/

namespace Prebuild.Yaml

/-- What may stand in front of a node. -/
structure Properties where
  anchor? : Option String
  tag? : Option (List UInt8)

def Properties.none : Properties := ⟨.none, .none⟩

inductive Node (ι : Type) where
  | alias (target : ι)
  | scalar (properties : Properties) (text : String) (plain : Bool)
  | sequence (properties : Properties) (items : List (Node ι))
  | mapping (properties : Properties) (pairs : List (Node ι × Node ι))

/-- A node as it is written. -/
abbrev WrittenNode := Node String

namespace WrittenNode

/-- What stands for a node that is not written. -/
def absent : WrittenNode := .scalar .none "" true

/-- Handles of tags, with what they stand for. -/
abbrev Handles := List (String × List UInt8)

/-- The tag that says nothing. -/
def lone : List UInt8 := Text.encode "!"

/-- The handles that every document has. -/
def commonHandles : Handles := [("!", lone), ("!!", Text.encode "tag:yaml.org,2002:")]

/-- A tag without its handle. -/
def resolveTag (handles : Handles) (handle : String) (suffix : List UInt8) :
    Option (List UInt8) :=
  if handle.isEmpty then some suffix
  else (handles.lookup handle).map (· ++ suffix)

/-- The properties in front of a node: an anchor and a tag at most, in either order. The
handle of the tag has to be declared. -/
def readProperties (handles : Handles) : List Token → Option (Properties × List Token)
  | .anchor a :: .tag h s :: ts => do return (⟨a, ← resolveTag handles h s⟩, ts)
  | .tag h s :: .anchor a :: ts => do return (⟨a, ← resolveTag handles h s⟩, ts)
  | .anchor a :: ts => some (⟨a, none⟩, ts)
  | .tag h s :: ts => do return (⟨none, ← resolveTag handles h s⟩, ts)
  | ts => some (⟨none, none⟩, ts)

/-- A scalar with its properties. A tag that says nothing is left out. -/
def ofScalar (p : Properties) (text : String) (plain : Bool) : WrittenNode :=
  .scalar (if p.tag? = some lone then { p with tag? := none } else p) text plain

/-- Whether the next token is one of those behind which no node was written. -/
def isAbsent (ends : List Token) (ts : List Token) : Bool :=
  match ts with
  | [] => true
  | t :: _ => ends.contains t

mutual

/-- Reads a node. In a block it may be a block collection, and where `indentless` holds also
a sequence that is not indented. Each call uses up a step or a token. -/
def read (handles : Handles) (inBlock indentless : Bool) :
    Nat → List Token → Option (WrittenNode × List Token)
  | 0, _ => none
  | steps + 1, ts =>
    match ts with
    | .alias name :: ts => some (.alias name, ts)
    | _ => do
      let (p, ts) ← readProperties handles ts
      match ts with
      | .blockEntry :: _ =>
        if indentless then
          let (items, ts) ← readIndentless handles steps ts
          return (.sequence p items, ts)
        else unwritten p ts
      | .scalar text plain :: ts => return (ofScalar p text plain, ts)
      | .flowSequence :: ts => do
        let (items, ts) ← readFlowItems handles true steps ts
        return (.sequence p items, ts)
      | .flowMapping :: ts => do
        let (pairs, ts) ← readFlowPairs handles true steps ts
        return (.mapping p pairs, ts)
      | .blockSequence :: rest =>
        if inBlock then
          let (items, ts) ← readItems handles steps rest
          return (.sequence p items, ts)
        else unwritten p ts
      | .blockMapping :: rest =>
        if inBlock then
          let (pairs, ts) ← readPairs handles steps rest
          return (.mapping p pairs, ts)
        else unwritten p ts
      | _ => unwritten p ts
where
  /-- Only a node with properties may go without content. -/
  unwritten (p : Properties) (ts : List Token) : Option (WrittenNode × List Token) :=
    if p.anchor?.isSome || p.tag?.isSome then some (.scalar p "" true, ts) else none

/-- Reads a node, or none where one of `ends` comes next. -/
def readOptional (handles : Handles) (inBlock indentless : Bool) (ends : List Token) :
    Nat → List Token → Option (WrittenNode × List Token)
  | 0, _ => none
  | steps + 1, ts =>
    if isAbsent ends ts then some (absent, ts)
    else read handles inBlock indentless steps ts

/-- Reads the items of a block sequence, and its end. -/
def readItems (handles : Handles) : Nat → List Token → Option (List WrittenNode × List Token)
  | 0, _ => none
  | steps + 1, ts =>
    match ts with
    | .blockEntry :: ts => do
      let (n, ts) ← readOptional handles true false [.blockEntry, .blockEnd] steps ts
      let (ns, ts) ← readItems handles steps ts
      return (n :: ns, ts)
    | .blockEnd :: ts => some ([], ts)
    | _ => none

/-- Reads the items of a sequence that is not indented, up to what is no item. -/
def readIndentless (handles : Handles) :
    Nat → List Token → Option (List WrittenNode × List Token)
  | 0, _ => none
  | steps + 1, ts =>
    match ts with
    | .blockEntry :: ts => do
      let (n, ts) ←
        readOptional handles true false [.blockEntry, .key, .value, .blockEnd] steps ts
      let (ns, ts) ← readIndentless handles steps ts
      return (n :: ns, ts)
    | ts => some ([], ts)

/-- Reads the value of a pair, if a value indicator comes next. -/
def readValue (handles : Handles) (inBlock : Bool) (ends : List Token) :
    Nat → List Token → Option (WrittenNode × List Token)
  | 0, _ => none
  | steps + 1, ts =>
    match ts with
    | .value :: ts => readOptional handles inBlock inBlock ends steps ts
    | ts => some (absent, ts)

/-- Reads the pairs of a block mapping, and its end. -/
def readPairs (handles : Handles) :
    Nat → List Token → Option (List (WrittenNode × WrittenNode) × List Token)
  | 0, _ => none
  | steps + 1, ts =>
    match ts with
    | .key :: ts => do
      let (k, ts) ← readOptional handles true true [.key, .value, .blockEnd] steps ts
      let (v, ts) ← readValue handles true [.key, .value, .blockEnd] steps ts
      let (ps, ts) ← readPairs handles steps ts
      return ((k, v) :: ps, ts)
    | .blockEnd :: ts => some ([], ts)
    | _ => none

/-- Reads the items of a sequence in brackets, and the closing bracket. A pair may stand for
a mapping of one; its key may be missing only if a separator comes next, and that separator
is then used up. -/
def readFlowItems (handles : Handles) (first : Bool) :
    Nat → List Token → Option (List WrittenNode × List Token)
  | 0, _ => none
  | steps + 1, ts =>
    match ts with
    | .flowSequenceEnd :: ts => some ([], ts)
    | _ => do
      let ts ←
        match first, ts with
        | true, ts => some ts
        | false, .flowEntry :: ts => some ts
        | false, _ => none
      match ts with
      | .flowSequenceEnd :: ts => return ([], ts)
      | .key :: ts =>
        let (k, ts) ←
          if isAbsent [.value, .flowEntry, .flowSequenceEnd] ts then some (absent, ts.tail)
          else read handles false false steps ts
        let (v, ts) ← readValue handles false [.flowEntry, .flowSequenceEnd] steps ts
        let (ns, ts) ← readFlowItems handles false steps ts
        return (.mapping .none [(k, v)] :: ns, ts)
      | ts =>
        let (n, ts) ← read handles false false steps ts
        let (ns, ts) ← readFlowItems handles false steps ts
        return (n :: ns, ts)

/-- Reads the pairs of a mapping in braces, and the closing brace. A key alone stands for a
pair without a value. -/
def readFlowPairs (handles : Handles) (first : Bool) :
    Nat → List Token → Option (List (WrittenNode × WrittenNode) × List Token)
  | 0, _ => none
  | steps + 1, ts =>
    match ts with
    | .flowMappingEnd :: ts => some ([], ts)
    | _ => do
      let ts ←
        match first, ts with
        | true, ts => some ts
        | false, .flowEntry :: ts => some ts
        | false, _ => none
      match ts with
      | .flowMappingEnd :: ts => return ([], ts)
      | .key :: ts =>
        let (k, ts) ←
          readOptional handles false false [.value, .flowEntry, .flowMappingEnd] steps ts
        let (v, ts) ← readValue handles false [.flowEntry, .flowMappingEnd] steps ts
        let (ps, ts) ← readFlowPairs handles false steps ts
        return ((k, v) :: ps, ts)
      | ts =>
        let (k, ts) ← read handles false false steps ts
        let (ps, ts) ← readFlowPairs handles false steps ts
        return ((k, absent) :: ps, ts)

end

/-- Reads the directives in front of a document. The version has to be 1.1 or 1.2, and
neither it nor a handle may be given twice. -/
def readDirectives (version : Bool) (handles : Handles) :
    List Token → Option (Handles × List Token)
  | .version major minor :: ts =>
    if version || major ≠ 1 || (minor ≠ 1 && minor ≠ 2) then none
    else readDirectives true handles ts
  | .tagHandle handle beginning :: ts =>
    if (handles.lookup handle).isSome then none
    else readDirectives version (handles ++ [(handle, beginning)]) ts
  | ts => some (handles ++ commonHandles, ts)

/-- The root of the only document of a stream, or nothing if the stream is empty. -/
def ofTokens? (ts : List Token) : Option (Option WrittenNode) :=
  let steps := 4 * ts.length + 4
  match ts with
  | [] => some none
  | t :: _ => do
    let (root, ts) ←
      match t with
      | .documentStart | .version _ _ | .tagHandle _ _ => do
        let (handles, ts) ← readDirectives false [] ts
        match ts with
        | .documentStart :: ts =>
          match ts with
          | [] | .documentStart :: _ | .documentEnd :: _ | .version _ _ :: _
          | .tagHandle _ _ :: _ => some (absent, ts)
          | _ => read handles true false steps ts
        | _ => none
      | _ => read commonHandles true false steps ts
    if ts.all (· = .documentEnd) then return some root else none

end WrittenNode

end Prebuild.Yaml
