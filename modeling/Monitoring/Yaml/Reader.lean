import Monitoring.Yaml.Resolution
import Monitoring.Yaml.Token

namespace Monitoring.Yaml

structure Node where
  scalar : Scalar
  tag : Option (List Char)
  deriving DecidableEq, Repr

namespace Node

def empty : Node := ⟨⟨"", true⟩, none⟩

def nullTag : List Char := "tag:yaml.org,2002:null".toList

def text? (n : Node) : Option (Option String) :=
  let text := n.scalar.text
  if !n.scalar.isPlain then some (some text)
  else
    match n.tag with
    | none => some (if nullTexts.contains text then none else some text)
    | some tag =>
      if tag ≠ nullTag then some (some text)
      else if text ≠ "" && nullTexts.contains text then some none
      else none

end Node

structure References where
  handles : List (List Char × List Char)
  anchors : List (List Char × Option Node)

namespace References

def standardHandles : List (List Char × List Char) :=
  [(['!'], ['!']), (['!', '!'], "tag:yaml.org,2002:".toList)]

def resolveTag (r : References) (handle suffix : List Char) : Option (List Char) :=
  if handle.isEmpty then some suffix else (r.handles.lookup handle).map (· ++ suffix)

def define (r : References) (anchor : Option (List Char)) (n : Option Node) : References :=
  match anchor with
  | none => r
  | some name => { r with anchors := (name, n) :: r.anchors }

end References

structure Properties where
  anchor : Option (List Char)
  tag : Option (List Char)

namespace Properties

def isNone (p : Properties) : Bool := p.anchor.isNone && p.tag.isNone

def scalarTag (p : Properties) : Option (List Char) := p.tag.filter (· ≠ ['!'])

end Properties

abbrev Tokens := List Token

def readProperties (r : References) : Tokens → Option (Properties × Tokens)
  | .anchor name :: .tag handle suffix :: rest => do
    return (⟨some name, some (← r.resolveTag handle suffix)⟩, rest)
  | .tag handle suffix :: .anchor name :: rest => do
    return (⟨some name, some (← r.resolveTag handle suffix)⟩, rest)
  | .anchor name :: rest => some (⟨some name, none⟩, rest)
  | .tag handle suffix :: rest => do return (⟨none, some (← r.resolveTag handle suffix)⟩, rest)
  | rest => some (⟨none, none⟩, rest)

def readNode (r : References) (ts : Tokens) : Option (Node × References × Tokens) := do
  match ts with
  | .alias name :: rest =>
    let n ← (r.anchors.lookup name).join
    return (n, r, rest)
  | _ =>
    let (p, rest) ← readProperties r ts
    match rest with
    | .scalar s :: rest =>
      let n : Node := ⟨s, p.scalarTag⟩
      return (n, r.define p.anchor n, rest)
    | .openBrace :: _ | .openBracket :: _ | .mappingStart :: _ | .sequenceStart :: _
    | .hyphen :: _ => none
    | rest =>
      if p.isNone then none
      else
        let n : Node := ⟨⟨"", true⟩, p.tag⟩
        return (n, r.define p.anchor n, rest)

def readOptional (ends : List Token) (r : References) (ts : Tokens) :
    Option (Node × References × Tokens) :=
  if ts.head?.any ends.contains then some (.empty, r, ts) else readNode r ts

abbrev Entry := String × Option String

def readBlockEntries (fuel : Nat) (r : References) (ts : Tokens) :
    Option (List Entry × Tokens) :=
  match fuel, ts with
  | _, .blockEnd :: rest => some ([], rest)
  | fuel + 1, .key :: rest => do
    let ends : List Token := [.key, .value, .blockEnd]
    let (key, r, rest) ← readOptional ends r rest
    let (value, r, rest) ← match rest with
      | .value :: rest => readOptional ends r rest
      | rest => some (.empty, r, rest)
    let text ← value.text?
    let (more, rest) ← readBlockEntries fuel r rest
    return ((key.scalar.text, text) :: more, rest)
  | _, _ => none

def readFlowEntries (fuel : Nat) (r : References) (ts : Tokens) : Option (List Entry × Tokens) :=
  match fuel, ts with
  | _, .closeBrace :: rest => some ([], rest)
  | 0, _ => none
  | fuel + 1, ts => do
    let (key, value, r, rest) ← match ts with
      | .key :: rest => do
        let (key, r, rest) ← readOptional [.value, .comma, .closeBrace] r rest
        match rest with
        | .value :: rest => do
          let (value, r, rest) ← readOptional [.comma, .closeBrace] r rest
          some (key, value, r, rest)
        | rest => some (key, .empty, r, rest)
      | ts => do
        let (key, r, rest) ← readNode r ts
        some (key, .empty, r, rest)
    let text ← value.text?
    match rest with
    | .comma :: rest => do
      let (more, rest) ← readFlowEntries fuel r rest
      return ((key.scalar.text, text) :: more, rest)
    | .closeBrace :: rest => return ([(key.scalar.text, text)], rest)
    | _ => none

def readRoot (r : References) (ts : Tokens) : Option (List Entry × Tokens) := do
  let (p, rest) ← readProperties r ts
  match rest with
  | .openBrace :: rest => readFlowEntries rest.length (r.define p.anchor none) rest
  | .mappingStart :: rest => readBlockEntries rest.length (r.define p.anchor none) rest
  | _ =>
    let (n, _, rest) ← readNode r ts
    if n.scalar.text = "" && n.tag.isNone then return ([], rest) else none

def readDirectives (versioned : Bool) (handles : List (List Char × List Char)) :
    Tokens → Option (List (List Char × List Char) × Tokens)
  | .version major minor :: rest =>
    if versioned || major ≠ 1 || minor ≠ 1 && minor ≠ 2 then none
    else readDirectives true handles rest
  | .handle handle start :: rest =>
    if (handles.lookup handle).isSome then none
    else readDirectives versioned ((handle, start) :: handles) rest
  | rest => some (handles, rest)

def readDocument (ts : Tokens) : Option (List Entry × Tokens) := do
  let (handles, rest) ← readDirectives false [] ts
  let r : References := ⟨handles ++ References.standardHandles, []⟩
  match rest with
  | .documentStart :: rest =>
    if rest.isEmpty || rest.head? = some .documentEnd then return ([], rest) else readRoot r rest
  | _ => if rest = ts then readRoot r ts else none

def readMapping (text : String) : Option (List Entry) := do
  let ts ← tokens? text
  if ts.isEmpty then return []
  else
    let (entries, rest) ← readDocument ts
    if rest.all (· = Token.documentEnd) then return entries else none

end Monitoring.Yaml
