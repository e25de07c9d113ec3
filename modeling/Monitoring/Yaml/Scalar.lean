import Monitoring.Text.Character
import Monitoring.Yaml.Resolution

namespace Monitoring.Yaml

structure Scalar where
  text : String
  isPlain : Bool
  deriving DecidableEq, Repr

def isLineBreak (c : Char) : Bool :=
  c = '\n' || c = '\r' || c = '\u0085' || c = '\u2028' || c = '\u2029'

def isBlank (c : Char) : Bool := c = ' ' || c = '\t'

def isBlankOrEnd : List Char → Bool
  | [] => true
  | c :: _ => isBlank c || isLineBreak c

def isFlowIndicator (c : Char) : Bool := ",[]\x7b\x7d".toList.contains c

def startsPlain : List Char → Bool
  | [] => false
  | c :: rest =>
    if c = '-' || c = '?' || c = ':' then !isBlankOrEnd rest
    else !isBlank c && !isLineBreak c && !",[]\x7b\x7d#&*!|>'\"%@\x60".toList.contains c

def plainLine (flow : Bool) (afterBlank : Bool) : List Char → List Char × List Char
  | [] => ([], [])
  | c :: rest =>
    let colon := c = ':' && (isBlankOrEnd rest || flow && (rest.head?.any fun d =>
      isFlowIndicator d || d = '?'))
    if isLineBreak c || colon || c = '#' && afterBlank || flow && isFlowIndicator c then ([], c :: rest)
    else
      let (line, rest) := plainLine flow (isBlank c) rest
      (c :: line, rest)

def trimEnd (cs : List Char) : List Char := (cs.reverse.dropWhile isBlank).reverse

def passLines (least : Nat) (breaks : List Char) (column : Nat) :
    List Char → Option (List Char × Nat × List Char)
  | [] => some (breaks, column, [])
  | c :: rest =>
    if isLineBreak c then passLines least (breaks ++ [c]) 0 rest
    else if c = '\t' && column < least then none
    else if isBlank c then passLines least breaks (column + 1) rest
    else some (breaks, column, c :: rest)

def fold : List Char → List Char
  | ['\n'] => [' ']
  | '\n' :: more => more
  | breaks => breaks

def isMarker (c : Char) (cs : List Char) : Bool :=
  [c, c, c].isPrefixOf cs && isBlankOrEnd (cs.drop 3)

def isMarkerAt (column : Nat) (cs : List Char) : Bool :=
  column = 0 && (isMarker '-' cs || isMarker '.' cs)

def readPlain (fuel : Nat) (flow : Bool) (least : Nat) (cs : List Char) :
    Option (List Char × Bool × List Char) :=
  let (line, rest) := plainLine flow false cs
  if rest.head? = some ':' && !isBlankOrEnd (rest.drop 1) then none
  else
    match fuel with
    | 0 => some (trimEnd line, false, rest)
    | fuel + 1 =>
      if rest.head?.any isLineBreak then do
        let (breaks, column, next) ← passLines least [] 0 rest
        let stops := next.isEmpty || next.head? = some '#' || !flow && column < least ||
          isMarkerAt column next
        if stops then return (trimEnd line, true, next)
        else
          let (more, ended, rest) ← readPlain fuel flow least next
          if more.isEmpty then return (trimEnd line, true, next)
          else return (trimEnd line ++ fold breaks ++ more, ended, rest)
      else return (trimEnd line, false, rest)

def takeEscape : List Char → Option (Char × List Char)
  | [] => none
  | c :: rest =>
    let code (count : Nat) : Option (Char × List Char) :=
      match Text.takeHex 0 count rest with
      | some (n, rest) => if h : n.isValidChar then some (Char.ofNatAux n h, rest) else none
      | none => none
    match c with
    | '0' => some ('\x00', rest)
    | 'a' => some ('\x07', rest)
    | 'b' => some ('\x08', rest)
    | 't' | '\t' => some ('\t', rest)
    | 'n' => some ('\n', rest)
    | 'v' => some ('\x0b', rest)
    | 'f' => some ('\x0c', rest)
    | 'r' => some ('\r', rest)
    | 'e' => some ('\x1b', rest)
    | ' ' | '"' | '/' | '\\' => some (c, rest)
    | 'N' => some ('\u0085', rest)
    | '_' => some ('\u00a0', rest)
    | 'L' => some ('\u2028', rest)
    | 'P' => some ('\u2029', rest)
    | 'x' => code 2
    | 'u' => code 4
    | 'U' => code 8
    | _ => none

def readQuoted (fuel : Nat) (double : Bool) (text blanks : List Char) (cs : List Char) :
    Option (List Char × List Char) :=
  match fuel, cs with
  | 0, _ => none
  | _, [] => none
  | fuel + 1, c :: rest =>
    if isLineBreak c then do
      let (breaks, column, next) ← passLines 0 [] 0 cs
      if isMarkerAt column next then none
      else readQuoted fuel double ((fold breaks).reverse ++ text) [] next
    else if isBlank c then readQuoted fuel double text (c :: blanks) rest
    else if double && c = '"' then some ((blanks ++ text).reverse, rest)
    else if double && c = '\\' then
      if rest.head?.any isLineBreak then do
        let (breaks, column, next) ← passLines 0 [] 0 (rest.drop 1)
        if isMarkerAt column next then none
        else readQuoted fuel double (breaks.reverse ++ blanks ++ text) [] next
      else do
        let (e, rest) ← takeEscape rest
        readQuoted fuel double (e :: blanks ++ text) [] rest
    else if !double && c = '\'' then
      match rest with
      | '\'' :: rest => readQuoted fuel double ('\'' :: blanks ++ text) [] rest
      | _ => some ((blanks ++ text).reverse, rest)
    else readQuoted fuel double (c :: blanks ++ text) [] rest

inductive Chomping
  | strip
  | clip
  | keep
  deriving DecidableEq, Repr

def takeBlockMarks (cs : List Char) : Option (Chomping × Option Nat × List Char) :=
  let chomping (cs : List Char) : Chomping × List Char :=
    match cs with
    | '-' :: rest => (.strip, rest)
    | '+' :: rest => (.keep, rest)
    | _ => (.clip, cs)
  let indent (cs : List Char) : Option Nat × List Char :=
    match cs with
    | d :: rest => if d.isDigit then (some (d.toNat - '0'.toNat), rest) else (none, cs)
    | [] => (none, [])
  let (first, rest) := chomping cs
  let (depth, rest) := indent rest
  let (second, rest) := if first = .clip then chomping rest else (first, rest)
  if depth = some 0 then none else some (second, depth, rest)

def eatIndent (limit : Option Nat) (column : Nat) : List Char → Nat × List Char
  | ' ' :: rest =>
    if limit.all fun l => column < l then eatIndent limit (column + 1) rest
    else (column, ' ' :: rest)
  | cs => (column, cs)

def emptyLines (fuel : Nat) (limit : Option Nat) (widest : Nat) (breaks : List Char)
    (cs : List Char) : Option (Nat × List Char × Nat × List Char) :=
  let (column, rest) := eatIndent limit 0 cs
  match fuel, rest with
  | fuel + 1, c :: more =>
    if c = '\t' && limit.all (fun l => column < l) then none
    else if isLineBreak c then emptyLines fuel limit (max widest column) (breaks ++ [c]) more
    else some (max widest column, breaks, column, rest)
  | _, _ => some (max widest column, breaks, column, rest)

def readBlockLines (fuel : Nat) (literal : Bool) (chomping : Chomping) (indent : Nat)
    (text lineBreak : List Char) (afterBlank : Bool) (empty : List Char) (column : Nat)
    (cs : List Char) : Option (List Char × List Char) :=
  let finished :=
    let lastBreak := if chomping = .strip then [] else lineBreak
    let more := if chomping = .keep then empty else []
    some (text.reverse ++ lastBreak ++ more, cs)
  match fuel with
  | 0 => finished
  | fuel + 1 =>
    if column ≠ indent || cs.isEmpty then finished
    else do
      let startsBlank := cs.head?.any isBlank
      let folds := !literal && lineBreak = ['\n'] && !afterBlank && !startsBlank
      let joint := if !folds then lineBreak else if empty.isEmpty then [' '] else []
      let line := cs.takeWhile fun c => !isLineBreak c
      let text := line.reverse ++ empty.reverse ++ joint ++ text
      match cs.drop line.length with
      | c :: rest =>
        let (_, empty, column, rest) ← emptyLines rest.length (some indent) 0 [] rest
        readBlockLines fuel literal chomping indent text [c] startsBlank empty column rest
      | [] => readBlockLines fuel literal chomping indent text [] startsBlank [] 0 []

def readBlock (literal : Bool) (parent : Option Nat) (cs : List Char) :
    Option (List Char × List Char) := do
  let (chomping, depth, rest) ← takeBlockMarks cs
  let rest := rest.dropWhile isBlank
  let rest := if rest.head? = some '#' then rest.dropWhile fun c => !isLineBreak c else rest
  let lines ← match rest with
    | [] => some []
    | c :: rest => if isLineBreak c then some rest else none
  let fixed := depth.map (parent.getD 0 + ·)
  let (widest, empty, column, rest) ← emptyLines lines.length fixed 0 [] lines
  let indent := fixed.getD (max widest (max 1 (parent.elim 0 (· + 1))))
  readBlockLines (rest.length + 1) literal chomping indent [] [] false empty column rest

end Monitoring.Yaml
