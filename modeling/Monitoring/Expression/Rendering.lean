import Monitoring.Expression.Parser

namespace Monitoring

def needsQuotes (text : String) : Bool :=
  text.isEmpty || text.toList.any (fun c => !Token.isWordChar c) || (Keyword.ofWord? text).isSome

def escapeQuoted : List Char → List Char
  | [] => []
  | c :: cs => if c = '\'' || c = '\\' then '\\' :: c :: escapeQuoted cs else c :: escapeQuoted cs

def operandChars (text : String) : List Char :=
  if needsQuotes text then '\'' :: (escapeQuoted text.toList ++ ['\'']) else text.toList

namespace Comparison

def entityChars : Option Entity → List Char
  | some e => e.keyword.toList ++ [':']
  | none => []

def valueChars : Option String → List Char
  | some v => ' ' :: operandChars v
  | none => []

def chars (c : Comparison) : List Char :=
  entityChars c.entity ++ operandChars c.tag ++
    ' ' :: ((Text.asciiLower c.operator.keyword).toList ++ valueChars c.value)

end Comparison

namespace Expression

def parenthesized (cs : List Char) : List Char := '(' :: (cs ++ [')'])

def isLogical : Expression → Bool
  | logical .. => true
  | _ => false

def bindsLooser (parent : LogicalOperator) : Expression → Bool
  | logical .disjunction _ _ => parent = .conjunction
  | _ => false

def chars : Expression → List Char
  | logical op l r =>
    let left := if l.bindsLooser op then parenthesized l.chars else l.chars
    let right := if r.bindsLooser op then parenthesized r.chars else r.chars
    left ++ ' ' :: ((Text.asciiLower op.keyword).toList ++ ' ' :: right)
  | negation e => "not ".toList ++ if e.isLogical then parenthesized e.chars else e.chars
  | comparison c => c.chars

def render (e : Expression) : String := String.ofList e.chars

def normalize (text : String) : Except ParseError String := (parse text).map render

end Expression

end Monitoring
