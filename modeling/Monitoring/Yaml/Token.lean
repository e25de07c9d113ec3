import Monitoring.Yaml.Scalar

/-!
The tokens of YAML text. Line ends and columns turn into tokens here: a mapping starts at the first
key of a new column, and ends before what stands left of it. A key is only known by the colon
behind it, so its tokens are put in later, before a candidate that is kept in mind.
-/

namespace Monitoring.Yaml

inductive Token
  | version (major minor : Nat)
  | handle (handle start : List Char)
  | documentStart
  | documentEnd
  | sequenceStart
  | mappingStart
  | blockEnd
  | openBracket
  | closeBracket
  | openBrace
  | closeBrace
  | hyphen
  | comma
  | key
  | value
  | anchor (name : List Char)
  | alias (name : List Char)
  | tag (handle suffix : List Char)
  | scalar (scalar : Scalar)
  deriving DecidableEq, Repr

def isWordChar (c : Char) : Bool := c.isAlphanum || c = '_' || c = '-'

def takeAnchor (cs : List Char) : Option (List Char × List Char) :=
  let name := cs.takeWhile isWordChar
  let rest := cs.drop name.length
  if !name.isEmpty && (isBlankOrEnd rest || rest.head?.any "?:,]\x7d%@\x60".toList.contains) then
    some (name, rest)
  else none

def followingBytes? (first : Nat) : Option Nat :=
  if first < 0x80 then some 0
  else if 0xC0 ≤ first && first < 0xE0 then some 1
  else if 0xE0 ≤ first && first < 0xF0 then some 2
  else if 0xF0 ≤ first && first < 0xF8 then some 3
  else none

def takeFollowing : (count : Nat) → List Char → Option (List Char)
  | 0, cs => some cs
  | count + 1, '%' :: rest => do
    let (n, rest) ← Text.takeHex 0 2 rest
    if 0x80 ≤ n && n < 0xC0 then takeFollowing count rest else none
  | _ + 1, _ => none

def takeTagEscape (cs : List Char) : Option (Char × List Char) := do
  let (n, rest) ← Text.takeHex 0 2 cs
  let count ← followingBytes? n
  let rest ← takeFollowing count rest
  return (if count = 0 then Char.ofNat n else '\ufffd', rest)

def takeTagText (fuel : Nat) (verbatim : Bool) (cs : List Char) : Option (List Char × List Char) :=
  match fuel, cs with
  | fuel + 1, c :: rest =>
    if c = '%' then do
      let (e, rest) ← takeTagEscape rest
      let (text, rest) ← takeTagText fuel verbatim rest
      return (e :: text, rest)
    else if isWordChar c || ";/?:@&=+$.!~*'()".toList.contains c ||
        verbatim && ",[]".toList.contains c then do
      let (text, rest) ← takeTagText fuel verbatim rest
      return (c :: text, rest)
    else some ([], cs)
  | _, _ => some ([], cs)

def takeHandle (cs : List Char) : Option (List Char × List Char) := do
  match cs with
  | '!' :: rest =>
    let word := rest.takeWhile isWordChar
    match rest.drop word.length with
    | '!' :: rest => return ('!' :: word ++ ['!'], rest)
    | rest => return ('!' :: word, rest)
  | _ => none

def isNamedHandle (handle : List Char) : Bool := 1 < handle.length && handle.getLast? = some '!'

def takeTag (flow : Bool) (cs : List Char) : Option (Token × List Char) := do
  let (token, rest) ← match cs with
    | '!' :: '<' :: rest => do
      let (text, rest) ← takeTagText rest.length true rest
      match rest with
      | '>' :: rest => if text.isEmpty then none else some (Token.tag [] text, rest)
      | _ => none
    | _ => do
      let (handle, rest) ← takeHandle cs
      let (text, rest) ← takeTagText rest.length false rest
      if isNamedHandle handle then
        if text.isEmpty then none else some (Token.tag handle text, rest)
      else
        let suffix := handle.drop 1 ++ text
        some (if suffix.isEmpty then Token.tag [] ['!'] else Token.tag ['!'] suffix, rest)
  if isBlankOrEnd rest || flow && rest.head? = some ',' then return (token, rest) else none

def takeVersionNumber (cs : List Char) : Option (Nat × List Char) :=
  let digits := cs.takeWhile Char.isDigit
  if digits.isEmpty || 9 < digits.length then none
  else some (Text.digitsValue 0 digits, cs.drop digits.length)

def takeDirective (cs : List Char) : Option (Token × List Char) := do
  let name := cs.takeWhile isWordChar
  let rest := cs.drop name.length
  if !isBlankOrEnd rest then none
  else
    let rest := rest.dropWhile isBlank
    let (token, rest) ← match String.ofList name with
      | "YAML" => do
        let (major, rest) ← takeVersionNumber rest
        match rest with
        | '.' :: rest => do
          let (minor, rest) ← takeVersionNumber rest
          some (Token.version major minor, rest)
        | _ => none
      | "TAG" => do
        let (handle, rest) ← takeHandle rest
        if (handle.length = 1 || isNamedHandle handle) && rest.head?.any isBlank then
          let rest := rest.dropWhile isBlank
          let (start, rest) ← takeTagText rest.length true rest
          if start.isEmpty || !isBlankOrEnd rest then none
          else some (Token.handle handle start, rest)
        else none
      | _ => none
    let rest := rest.dropWhile isBlank
    let rest := if rest.head? = some '#' then rest.dropWhile fun c => !isLineBreak c else rest
    match rest with
    | [] => return (token, [])
    | c :: rest => if isLineBreak c then return (token, rest) else none

structure Candidate where
  isRequired : Bool
  place : Nat
  line : Nat
  column : Nat

/-- The state of reading: what is left and where it stands, the columns of open sequences and
mappings, the candidates of the innermost flow collection and those around it, whether a key can
start here, and the tokens, the last one first. -/
structure TokenReader where
  rest : List Char
  line : Nat
  column : Nat
  indents : List Nat
  candidate : Option Candidate
  outer : List (Option Candidate)
  allowsKey : Bool
  tokens : List Token

namespace TokenReader

def start (cs : List Char) : TokenReader := ⟨cs, 0, 0, [], none, [], true, []⟩

def inFlow (s : TokenReader) : Bool := !s.outer.isEmpty

def push (s : TokenReader) (t : Token) : TokenReader := { s with tokens := t :: s.tokens }

def insert (s : TokenReader) (place : Nat) (t : Token) : TokenReader :=
  let (later, earlier) := s.tokens.splitAt (s.tokens.length - place)
  { s with tokens := later ++ t :: earlier }

def seek (s : TokenReader) (rest : List Char) : TokenReader :=
  let (line, column) := (s.rest.take (s.rest.length - rest.length)).foldl
    (fun (line, column) c => if isLineBreak c then (line + 1, 0) else (line, column + 1))
    (s.line, s.column)
  { s with rest := rest, line := line, column := column }

def dropCandidate (s : TokenReader) : Option TokenReader :=
  if s.candidate.any Candidate.isRequired then none else some { s with candidate := none }

def saveCandidate (s : TokenReader) : Option TokenReader := do
  if s.allowsKey then
    let isRequired := !s.inFlow && s.indents.head? = some s.column
    let s ← s.dropCandidate
    return { s with candidate := some ⟨isRequired, s.tokens.length, s.line, s.column⟩ }
  else return s

def isFresh (s : TokenReader) (k : Candidate) : Bool :=
  k.line = s.line && s.column ≤ k.column + 1024

def openColumn (s : TokenReader) (column place : Nat) (t : Token) : TokenReader :=
  if s.inFlow || s.indents.head?.any (column ≤ ·) then s
  else { s.insert place t with indents := column :: s.indents }

def closeColumns (s : TokenReader) (column : Option Nat) : TokenReader :=
  if s.inFlow then s
  else
    let (closed, indents) := s.indents.span fun i => column.all (· < i)
    { s with
      indents := indents
      tokens := closed.map (fun _ => Token.blockEnd) ++ s.tokens }

def passGap (flow allowsKey inComment : Bool) : List Char → Bool × List Char
  | [] => (allowsKey, [])
  | c :: rest =>
    if isLineBreak c then passGap flow (allowsKey || !flow) false rest
    else if inComment || c = ' ' || c = '\t' && (flow || !allowsKey) then
      passGap flow allowsKey inComment rest
    else if c = '#' then passGap flow allowsKey true rest
    else (allowsKey, c :: rest)

def toToken (s : TokenReader) : TokenReader :=
  let (allowsKey, rest) := passGap s.inFlow s.allowsKey false s.rest
  let s := { s.seek rest with allowsKey := allowsKey }
  s.closeColumns (some s.column)

def breakOff (s : TokenReader) : Option TokenReader := do
  let s ← (s.closeColumns none).dropCandidate
  return { s with allowsKey := false }

def readOpening (s : TokenReader) (t : Token) : Option TokenReader := do
  let s ← s.saveCandidate
  let inner := { s with candidate := none, outer := s.candidate :: s.outer, allowsKey := true }
  return (inner.push t).seek (s.rest.drop 1)

def readClosing (s : TokenReader) (t : Token) : Option TokenReader := do
  let s ← s.dropCandidate
  let around := { s with candidate := s.outer.head?.join, outer := s.outer.tail, allowsKey := false }
  return (around.push t).seek (s.rest.drop 1)

def readComma (s : TokenReader) : Option TokenReader := do
  let s ← s.dropCandidate
  return ({ s with allowsKey := true }.push .comma).seek (s.rest.drop 1)

def readHyphen (s : TokenReader) : Option TokenReader := do
  if !s.inFlow && !s.allowsKey then none
  else
    let s ← (s.openColumn s.column s.tokens.length .sequenceStart).dropCandidate
    return ({ s with allowsKey := true }.push .hyphen).seek (s.rest.drop 1)

def readKeyMark (s : TokenReader) : Option TokenReader := do
  if !s.inFlow && !s.allowsKey then none
  else
    let s ← (s.openColumn s.column s.tokens.length .mappingStart).dropCandidate
    return ({ s with allowsKey := !s.inFlow }.push .key).seek (s.rest.drop 1)

def readValueMark (s : TokenReader) : Option TokenReader :=
  match s.candidate.filter s.isFresh with
  | some k =>
    let s := (s.insert k.place .key).openColumn k.column k.place .mappingStart
    some (({ s with candidate := none, allowsKey := false }.push .value).seek (s.rest.drop 1))
  | none => do
    let s ← s.dropCandidate
    if !s.inFlow && !s.allowsKey then none
    else
      let s := s.openColumn s.column s.tokens.length .mappingStart
      return ({ s with allowsKey := !s.inFlow }.push .value).seek (s.rest.drop 1)

def readStart (s : TokenReader) (token : Option (Token × List Char)) : Option TokenReader := do
  let s ← s.saveCandidate
  let (t, rest) ← token
  return ({ s with allowsKey := false }.push t).seek rest

def readBlockScalar (s : TokenReader) (literal : Bool) : Option TokenReader := do
  let s ← s.dropCandidate
  let (text, rest) ← readBlock literal s.indents.head? (s.rest.drop 1)
  return ({ s with allowsKey := true }.push (.scalar ⟨String.ofList text, false⟩)).seek rest

def readPlainScalar (s : TokenReader) : Option TokenReader := do
  let s ← s.saveCandidate
  let (text, ended, rest) ←
    readPlain s.rest.length s.inFlow (s.indents.head?.elim 0 (· + 1)) s.rest
  return ({ s with allowsKey := ended }.push (.scalar ⟨String.ofList text, true⟩)).seek rest

def quotedToken (double : Bool) (cs : List Char) : Option (Token × List Char) := do
  let (text, rest) ← readQuoted (cs.length + 1) double [] [] cs
  return (.scalar ⟨String.ofList text, false⟩, rest)

def anchorToken (make : List Char → Token) (cs : List Char) : Option (Token × List Char) := do
  let (name, rest) ← takeAnchor cs
  return (make name, rest)

def readToken (s : TokenReader) : Option TokenReader :=
  match s.rest with
  | [] => none
  | c :: rest =>
    if s.column = 0 && c = '%' then do
      let s ← s.breakOff
      let (t, rest) ← takeDirective rest
      return (s.push t).seek rest
    else if s.column = 0 && isMarker '-' s.rest then do
      return ((← s.breakOff).push .documentStart).seek (s.rest.drop 3)
    else if s.column = 0 && isMarker '.' s.rest then do
      return ((← s.breakOff).push .documentEnd).seek (s.rest.drop 3)
    else if c = '[' then s.readOpening .openBracket
    else if c = '\x7b' then s.readOpening .openBrace
    else if c = ']' then s.readClosing .closeBracket
    else if c = '\x7d' then s.readClosing .closeBrace
    else if c = ',' then s.readComma
    else if c = '-' && isBlankOrEnd rest then s.readHyphen
    else if c = '?' && (s.inFlow || isBlankOrEnd rest) then s.readKeyMark
    else if c = ':' && (s.inFlow || isBlankOrEnd rest) then s.readValueMark
    else if c = '*' then s.readStart (anchorToken .alias rest)
    else if c = '&' then s.readStart (anchorToken .anchor rest)
    else if c = '!' then s.readStart (takeTag s.inFlow s.rest)
    else if c = '|' && !s.inFlow then s.readBlockScalar true
    else if c = '>' && !s.inFlow then s.readBlockScalar false
    else if c = '\'' then s.readStart (quotedToken false rest)
    else if c = '"' then s.readStart (quotedToken true rest)
    else if startsPlain s.rest then s.readPlainScalar
    else none

def readAll (fuel : Nat) (s : TokenReader) : Option (List Token) :=
  let s := s.toToken
  match fuel with
  | 0 => none
  | fuel + 1 =>
    if s.rest.isEmpty then s.breakOff.map fun s => s.tokens.reverse
    else s.readToken.bind (readAll fuel)

end TokenReader

def unifyBreaks : List Char → List Char
  | [] => []
  | '\r' :: '\n' :: rest => '\n' :: unifyBreaks rest
  | c :: rest => (if c = '\r' || c = '\u0085' then '\n' else c) :: unifyBreaks rest

def isAllowed (c : Char) : Bool :=
  let n := c.toNat
  n = 0x9 || n = 0xA || n = 0xD || (0x20 ≤ n && n ≤ 0x7E) || n = 0x85 ||
    (0xA0 ≤ n && n ≤ 0xFFFD) || 0x10000 ≤ n

def tokens? (text : String) : Option (List Token) :=
  let cs := text.toList
  let cs := if cs.head? = some '\ufeff' then cs.drop 1 else cs
  if cs.all isAllowed then TokenReader.readAll (cs.length + 1) (.start (unifyBreaks cs)) else none

end Monitoring.Yaml
