import Monitoring.Json.Printer
import Monitoring.Yaml.Scalar

namespace Monitoring.Yaml

def isPrintable (c : Char) : Bool :=
  c = '\n' || ' ' ≤ c && c ≤ '~' || '\u00a0' ≤ c && c ≠ '\ufeff' && c ≠ '\ufffe' && c ≠ '\uffff'

def hasNeighbours (p q : Char → Bool) : List Char → Bool
  | c :: d :: rest => p c && q d || hasNeighbours p q (d :: rest)
  | _ => false

def needsDouble (cs : List Char) : Bool :=
  !cs.all isPrintable || hasNeighbours (· = ' ') isLineBreak cs

def isEdge (c : Char) : Bool := c = ' ' || isLineBreak c

def startsMarker (cs : List Char) : Bool := "---".toList.isPrefixOf cs || "...".toList.isPrefixOf cs

def allowsPlain (cs : List Char) : Bool :=
  !needsDouble cs && !cs.any isLineBreak && startsPlain cs && !cs.getLast?.any isEdge &&
    !startsMarker cs && (plainLine false false cs).2.isEmpty

def allowsSingle (cs : List Char) : Bool :=
  !needsDouble cs && !hasNeighbours isLineBreak (· = ' ') cs

def allowsLiteral (cs : List Char) : Bool := !needsDouble cs && cs.getLast? ≠ some ' '

inductive Style
  | plain
  | single
  | double
  | literal
  deriving DecidableEq, Repr

namespace Style

def ofText (s : String) : Style :=
  let cs := s.toList
  if cs.contains '\n' then if allowsLiteral cs then literal else double
  else if allowsPlain cs && !isAmbiguous s then plain
  else if allowsSingle cs then single
  else double

def ofKey (s : String) : Style := if s.toList.any isLineBreak then double else ofText s

end Style

def indentation (column : Nat) : List Char := List.replicate column ' '

def singleChars (column : Nat) (broken : Bool) : List Char → List Char
  | [] => if broken then indentation column else []
  | c :: rest =>
    if isLineBreak c then c :: singleChars column true rest
    else
      let start := if broken then indentation column else []
      start ++ (if c = '\'' then ['\'', '\''] else [c]) ++ singleChars column false rest

def shortEscape? (c : Char) : Option Char :=
  [('\x00', '0'), ('\x07', 'a'), ('\x08', 'b'), ('\t', 't'), ('\n', 'n'), ('\x0b', 'v'),
   ('\x0c', 'f'), ('\r', 'r'), ('\x1b', 'e'), ('"', '"'), ('\\', '\\'), ('\u0085', 'N'),
   ('\u2028', 'L'), ('\u2029', 'P')].lookup c

def hexChars (n : Nat) : (count : Nat) → List Char
  | 0 => []
  | count + 1 => hexChars (n / 16) count ++ [(Nat.digitChar (n % 16)).toUpper]

def escapeChars (c : Char) : List Char :=
  match shortEscape? c with
  | some e => ['\\', e]
  | none =>
    if c.toNat ≤ 0xFF then '\\' :: 'x' :: hexChars c.toNat 2
    else if c.toNat ≤ 0xFFFF then '\\' :: 'u' :: hexChars c.toNat 4
    else '\\' :: 'U' :: hexChars c.toNat 8

def doubleChar (c : Char) : List Char :=
  if isPrintable c && !isLineBreak c && c ≠ '"' && c ≠ '\\' then [c] else escapeChars c

def literalLines (column : Nat) (broken : Bool) : List Char → List Char
  | [] => if broken then [] else ['\n']
  | c :: rest =>
    if isLineBreak c then c :: literalLines column true rest
    else (if broken then indentation column else []) ++ c :: literalLines column false rest

def literalMarks (cs : List Char) : List Char :=
  let depth := if cs.head?.any isEdge then ['2'] else []
  let chomping := match cs.reverse with
    | [] => ['-']
    | [c] => if isLineBreak c then ['+'] else ['-']
    | c :: d :: _ => if !isLineBreak c then ['-'] else if isLineBreak d then ['+'] else []
  depth ++ chomping

def textLines (style : Style) (column : Nat) (cs : List Char) : List Char :=
  match style with
  | .plain => cs ++ ['\n']
  | .single => '\'' :: (singleChars column false cs ++ ['\'', '\n'])
  | .double => '"' :: (cs.flatMap doubleChar ++ ['"', '\n'])
  | .literal => '|' :: (literalMarks cs ++ '\n' :: literalLines column true cs)

def keyChars (key : String) : List Char :=
  match Style.ofKey key with
  | .double => '"' :: (key.toList.flatMap doubleChar ++ ['"'])
  | .single => '\'' :: (singleChars 0 false key.toList ++ ['\''])
  | _ => key.toList

def scalarLines (column : Nat) : Json → List Char
  | .string s => textLines (Style.ofText s) (column + 2) s.toList
  | j => j.chars .compact 0 ++ ['\n']

mutual

def valueLines (isItem : Bool) (column : Nat) : Json → List Char
  | .array items =>
    if items.isEmpty then [' ', '[', ']', '\n']
    else if isItem then ' ' :: itemLines [] (column + 2) items
    else '\n' :: itemLines (indentation column) column items
  | .object fields =>
    if fields.isEmpty then [' ', '\x7b', '\x7d', '\n']
    else if isItem then ' ' :: fieldLines [] (column + 2) fields
    else '\n' :: fieldLines (indentation (column + 2)) (column + 2) fields
  | scalar => ' ' :: scalarLines column scalar

def itemLines (start : List Char) (column : Nat) : List Json → List Char
  | [] => []
  | item :: rest =>
    start ++ '-' :: (valueLines true column item ++ itemLines (indentation column) column rest)

def fieldLines (start : List Char) (column : Nat) : List (String × Json) → List Char
  | [] => []
  | (key, value) :: rest =>
    start ++ keyChars key ++ ':' :: (valueLines false column value ++
      fieldLines (indentation column) column rest)

end

def render (j : Json) : String :=
  String.ofList (match j with
    | .array (item :: rest) => itemLines [] 0 (item :: rest)
    | .object (field :: rest) => fieldLines [] 0 (field :: rest)
    | j => (valueLines false 0 j).drop 1)

end Monitoring.Yaml
