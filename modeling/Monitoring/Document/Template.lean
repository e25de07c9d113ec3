import Monitoring.Document.Token
import Monitoring.Text.Character

namespace Monitoring.Document

inductive LiteralEnd
  | quote
  | delimiter (name : List Char)
  | marker

namespace LiteralEnd

def isQuote : LiteralEnd → Bool
  | quote => true
  | _ => false

def isReached (ending : LiteralEnd) (cs : List Char) : Bool :=
  match ending with
  | quote => cs.head? = some '"'
  | delimiter name => (takeLineBreak cs).any fun (_, rest) => name.isPrefixOf (dropBlanks rest)
  | marker => false

end LiteralEnd

def takeLiteral (ending : LiteralEnd) (cs : List Char) : List Char × List Char :=
  match cs with
  | [] => ([], [])
  | '$' :: '$' :: '\x7b' :: rest =>
    let (text, rest) := takeLiteral ending rest
    ('$' :: '\x7b' :: text, rest)
  | '%' :: '%' :: '\x7b' :: rest =>
    let (text, rest) := takeLiteral ending rest
    ('%' :: '\x7b' :: text, rest)
  | '$' :: '\x7b' :: _ => ([], cs)
  | '%' :: '\x7b' :: _ => ([], cs)
  | c :: rest =>
    if ending.isReached cs then ([], cs)
    else if ending.isQuote && c = '\\' then
      match h : takeEscape rest with
      | some (e, after) =>
        have := takeEscape_length h
        let (text, after) := takeLiteral ending after
        (e :: text, after)
      | none => ([], cs)
    else
      let (text, rest) := takeLiteral ending rest
      (c :: text, rest)
  termination_by cs.length
  decreasing_by all_goals simp_all only [List.length_cons]; omega

def takeText (cs : List Char) : Option (String × List Char) := do
  let (text, rest) := takeLiteral .quote cs
  return (String.ofList text, ← takeChar '"' rest)

def stripStart (cs : List Char) : List Char :=
  let rest := dropBlanks cs
  match takeLineBreak rest with
  | some (_, rest) => rest
  | none => rest

def stripEnd (cs : List Char) : List Char :=
  let start := dropBlanks cs.reverse
  match start with
  | '\n' :: '\r' :: start => start.reverse
  | '\n' :: start => start.reverse
  | _ => start.reverse

inductive TemplateElement
  | literal (text : List Char)
  | marked (part : TemplatePart) (stripBefore stripAfter : Bool)

namespace TemplateElement

def stripsBefore : TemplateElement → Bool
  | marked _ before _ => before
  | literal _ => false

def parts (stripFirst stripLast : Bool) : List TemplateElement → List TemplatePart
  | [] => []
  | literal text :: rest =>
    let text := if stripFirst then stripStart text else text
    let strips := match rest with
      | [] => stripLast
      | next :: _ => next.stripsBefore
    .literal (String.ofList (if strips then stripEnd text else text)) :: parts false stripLast rest
  | marked part _ after :: rest => part :: parts after stripLast rest

def toQuoted : List TemplateElement → Term
  | [] => .text ""
  | [literal text] => .text (String.ofList text)
  | elements => .template (parts false false elements)

def append (text : List Char) : List TemplateElement → List TemplateElement
  | [] => [literal text]
  | [literal last] => [literal (last ++ text)]
  | e :: rest => e :: append text rest

end TemplateElement

def linesOf (line : List Char) : List Char → List (List Char)
  | [] => if line.isEmpty then [] else [line.reverse]
  | '\r' :: '\n' :: rest => line.reverse :: linesOf [] rest
  | '\n' :: rest => line.reverse :: linesOf [] rest
  | c :: rest => linesOf (c :: line) rest

def leastIndentation (goesOn : Bool) (text : List Char) : Option Nat :=
  let lines := ((linesOf [] text).drop (if goesOn then 1 else 0)).filter fun l => !l.isEmpty
  let depths := lines.map fun l => (l.takeWhile Text.isBlankChar).length
  if depths.contains 0 then none else depths.min?

def dedentLines (goesOn : Bool) (depth : Nat) (text : List Char) : List Char :=
  let lines := match linesOf [] text with
    | [] => []
    | first :: rest =>
      (if goesOn then first else first.drop depth) :: rest.map fun l => l.drop depth
  ['\n'].intercalate lines ++ (if text.getLast? = some '\n' then ['\n'] else [])

def commonIndentation (goesOn : Bool) (depth : Option Nat) : List TemplateElement → Option Nat
  | [] => depth
  | .literal text :: rest =>
    let depth := match leastIndentation goesOn text, depth with
      | some n, some m => some (min n m)
      | some n, none => some n
      | none, depth => depth
    commonIndentation (text.getLast? ≠ some '\n') depth rest
  | .marked .. :: rest => if goesOn then commonIndentation true depth rest else none

def dedent (elements : List TemplateElement) : List TemplateElement :=
  match commonIndentation false none elements with
  | none => elements
  | some depth =>
    (elements.zipIdx).map fun (e, i) =>
      match e with
      | .literal text => .literal (dedentLines (i ≠ 0) depth text)
      | e => e

end Monitoring.Document
