import Monitoring.Document.Template

/-!
Reading documents. An expression ends with its line except inside parentheses and behind them. The
number of nested calls is bounded by `fuel`, of which every character of the text pays for more
than the calls it can need.
-/

namespace Monitoring.Document

def takeForIntro (cs : List Char) : Option ((Option String × String) × List Char) := do
  let (first, rest) ← takeName (skip true cs)
  match skip true rest with
  | ',' :: rest => do
    let (second, rest) ← takeName (skip true rest)
    return ((some first, second), ← takeWord "in" (skip true rest))
  | rest => return ((none, first), ← takeWord "in" rest)

def takeStripMark (cs : List Char) : Bool × List Char :=
  match cs with
  | '~' :: rest => (true, rest)
  | _ => (false, cs)

def takeMarkerEnd (cs : List Char) : Option (Bool × List Char) := do
  let (strips, rest) := takeStripMark (skip true cs)
  return (strips, ← takeChar '\x7d' rest)

def takeWordMarker (word : String) (cs : List Char) : Option ((Bool × Bool) × List Char) := do
  let (before, rest) := takeStripMark (← takeWord "%\x7b" cs)
  let rest ← takeWord word (skip true rest)
  let (after, rest) ← takeMarkerEnd rest
  return ((before, after), rest)

mutual

def readTerm (fuel : Nat) (lines : Bool) (cs : List Char) : Option (Term × List Char) :=
  match fuel with
  | 0 => none
  | fuel + 1 => do
    let (t, rest) ← readOperand fuel lines none cs
    readTail fuel (lines || t.endsInParenthesis) t rest

def readTail (fuel : Nat) (lines : Bool) (t : Term) (cs : List Char) :
    Option (Term × List Char) :=
  match fuel with
  | 0 => none
  | fuel + 1 =>
    let next := skip lines cs
    match next with
    | '.' :: '.' :: _ => some (t, cs)
    | '.' :: _ => do
      let (path, rest) ← readPath fuel lines next
      readTail fuel lines (.access t path) rest
    | '[' :: _ => do
      let (path, rest) ← readPath fuel lines next
      readTail fuel lines (.access t path) rest
    | '?' :: rest => do
      let (whenTrue, rest) ← readTerm fuel lines (skip lines rest)
      let rest ← takeChar ':' (skip lines rest)
      let (whenFalse, rest) ← readTerm fuel lines (skip lines rest)
      return (.conditional t whenTrue whenFalse, rest)
    | _ =>
      match takeOperator next with
      | some (op, rest) => do
        let (right, rest) ← readTerm fuel lines (skip lines rest)
        return (t.join op right, rest)
      | none => some (t, cs)

/-- An operand. Of several signs before it only the last counts, and one next to a number belongs
to the number. -/
def readOperand (fuel : Nat) (lines : Bool) (sign : Option UnaryOperator) (cs : List Char) :
    Option (Term × List Char) :=
  match fuel with
  | 0 => none
  | fuel + 1 =>
    let signed (t : Term) : Term := sign.elim t fun op => .unary op t
    match cs with
    | '-' :: rest =>
      match takeNumber rest with
      | some (n, rest) => some (signed (.number n.neg), rest)
      | none => readOperand fuel lines (some .negative) (skip lines rest)
    | '!' :: rest => readOperand fuel lines (some .not) (skip lines rest)
    | _ => do
      let (t, rest) ← readPrimary fuel cs
      return (signed t, rest)

def readPath (fuel : Nat) (lines : Bool) (cs : List Char) : Option (List Access × List Char) :=
  match fuel with
  | 0 => none
  | fuel + 1 =>
    match skip lines cs with
    | '.' :: '.' :: _ => some ([], cs)
    | '.' :: rest =>
      match skip true rest with
      | '*' :: rest => do
        let (more, rest) ← readPath fuel lines rest
        return (Access.gather [] more, rest)
      | rest =>
        match takeName rest with
        | some (name, rest) => do
          let (more, rest) ← readPath fuel lines rest
          return (.field name :: more, rest)
        | none => do
          let (place, rest) ← takePlace rest
          let (more, rest) ← readPath fuel lines rest
          return (.element (.number (.whole place)) :: more, rest)
    | '[' :: rest =>
      match skip true rest with
      | '*' :: rest => do
        let rest ← takeChar ']' (skip true rest)
        let (more, rest) ← readPath fuel lines rest
        return (.each :: more, rest)
      | rest => do
        let (index, rest) ← readTerm fuel false rest
        let rest ← takeChar ']' (skip true rest)
        let (more, rest) ← readPath fuel lines rest
        return (.element index :: more, rest)
    | _ => some ([], cs)

def readPrimary (fuel : Nat) (cs : List Char) : Option (Term × List Char) :=
  match fuel with
  | 0 => none
  | fuel + 1 =>
    match cs with
    | '"' :: rest => do
      let (elements, rest) ← readElements fuel .quote rest
      return (TemplateElement.toQuoted elements, ← takeChar '"' rest)
    | '<' :: '<' :: '-' :: rest => do
      let (elements, rest) ← readHeredoc fuel rest
      return (.template (TemplateElement.parts false false (dedent elements)), rest)
    | '<' :: '<' :: rest => do
      let (elements, rest) ← readHeredoc fuel rest
      return (.template (TemplateElement.parts false false elements), rest)
    | '(' :: rest => do
      let (inner, rest) ← readTerm fuel true (skip true rest)
      return (.parenthesis inner, ← takeChar ')' (skip true rest))
    | '[' :: rest =>
      match takeFor (skip true rest) with
      | some rest => readListFor fuel rest
      | none => do
        let (items, rest) ← readItems fuel ']' (skip true rest)
        return (.list items, rest)
    | '\x7b' :: rest =>
      match takeFor (skip true rest) with
      | some rest => readObjectFor fuel rest
      | none => do
        let (fields, rest) ← readFields fuel (skip true rest)
        return (.object (fields.foldl (fun done f => f.put done) []), rest)
    | _ =>
      match takeNumber cs with
      | some (n, rest) => some (.number n, rest)
      | none => do
        let (name, rest) ← takeName cs
        match skip true rest with
        | '(' :: rest => do
          let (arguments, rest) ← readItems fuel ')' (skip true rest)
          return (.call name arguments, rest)
        | _ =>
          match name with
          | "null" => return (.null, rest)
          | "true" => return (.boolean true, rest)
          | "false" => return (.boolean false, rest)
          | _ => return (.variable name, rest)

def readItems (fuel : Nat) (close : Char) (cs : List Char) : Option (List Term × List Char) :=
  match fuel with
  | 0 => none
  | fuel + 1 =>
    match takeChar close cs with
    | some rest => some ([], rest)
    | none => do
      let (first, rest) ← readTerm fuel false cs
      match skip true rest with
      | ',' :: rest => do
        let (more, rest) ← readItems fuel close (skip true rest)
        return (first :: more, rest)
      | '.' :: '.' :: '.' :: rest =>
        if close = ')' then return ([first], ← takeChar close (skip true rest)) else none
      | rest => return ([first], ← takeChar close rest)

def readFields (fuel : Nat) (cs : List Char) : Option (List ObjectField × List Char) :=
  match fuel with
  | 0 => none
  | fuel + 1 =>
    match cs with
    | '\x7d' :: rest => some ([], rest)
    | _ => do
      let (key, rest) ← readTerm fuel false cs
      let rest ← match skip false rest with
        | '=' :: rest => some rest
        | ':' :: rest => some rest
        | _ => none
      let (value, rest) ← readTerm fuel false (skip false rest)
      let field := match key with
        | .variable name => ObjectField.named name value
        | key => .computed key value
      match skip false rest with
      | ',' :: rest => do
        let (more, rest) ← readFields fuel (skip true rest)
        return (field :: more, rest)
      | '\x7d' :: rest => return ([field], rest)
      | rest => do
        let rest ← lineEnd rest
        let (more, rest) ← readFields fuel (skip true rest)
        return (field :: more, rest)

def readCondition (fuel : Nat) (cs : List Char) : Option (Term × List Char) :=
  match fuel with
  | 0 => none
  | fuel + 1 =>
    match takeWord "if" (skip true cs) with
    | none => some (.boolean true, cs)
    | some rest => readTerm fuel false (skip true rest)

def readListFor (fuel : Nat) (cs : List Char) : Option (Term × List Char) :=
  match fuel with
  | 0 => none
  | fuel + 1 => do
    let ((key, value), rest) ← takeForIntro cs
    let (collection, rest) ← readTerm fuel false (skip true rest)
    let rest ← takeChar ':' (skip true rest)
    let (result, rest) ← readTerm fuel false (skip true rest)
    let (condition, rest) ← readCondition fuel rest
    let rest ← takeChar ']' (skip true rest)
    return (.listFor key value collection result condition, rest)

def readObjectFor (fuel : Nat) (cs : List Char) : Option (Term × List Char) :=
  match fuel with
  | 0 => none
  | fuel + 1 => do
    let ((key, value), rest) ← takeForIntro cs
    let (collection, rest) ← readTerm fuel false (skip true rest)
    let rest ← takeChar ':' (skip true rest)
    let (resultKey, rest) ← readTerm fuel false (skip true rest)
    let rest ← takeWord "=>" (skip true rest)
    let (result, rest) ← readTerm fuel false (skip true rest)
    let (grouped, rest) := match takeWord "..." (skip true rest) with
      | some rest => (true, rest)
      | none => (false, rest)
    let (condition, rest) ← readCondition fuel rest
    let rest ← takeChar '\x7d' (skip true rest)
    return (.objectFor key value collection resultKey result grouped condition, rest)

/-- A heredoc, read behind its arrows: the lines up to the first one, but that next to the arrows,
which starts with the delimiter. Without such a line it has no content, and the next line starts
with the delimiter. -/
def readHeredoc (fuel : Nat) (cs : List Char) : Option (List TemplateElement × List Char) :=
  match fuel with
  | 0 => none
  | fuel + 1 => do
    let (delimiter, rest) ← takeName cs
    let (_, start) ← takeLineBreak rest
    let content := do
      let (elements, rest) ← readElements fuel (.delimiter delimiter.toList) start
      let (lineBreak, rest) ← takeLineBreak rest
      return (TemplateElement.append lineBreak elements, rest)
    let (elements, rest) := content.getD ([], start)
    return (elements, ← takeWord delimiter (dropBlanks rest))

def readElements (fuel : Nat) (ending : LiteralEnd) (cs : List Char) :
    Option (List TemplateElement × List Char) :=
  match fuel with
  | 0 => none
  | fuel + 1 =>
    match takeLiteral ending cs with
    | (c :: text, rest) => do
      let (more, rest) ← readElements fuel ending rest
      return (.literal (c :: text) :: more, rest)
    | ([], _) =>
      match cs with
      | '$' :: '\x7b' :: rest => do
        let (before, rest) := takeStripMark rest
        let (t, rest) ← readTerm fuel false (skip true rest)
        let (after, rest) ← takeMarkerEnd rest
        let (more, rest) ← readElements fuel ending rest
        return (.marked (.interpolation t) before after :: more, rest)
      | '%' :: '\x7b' :: rest => do
        let (before, rest) := takeStripMark rest
        let inside := skip true rest
        let directive := match takeWord "if" inside with
          | some rest => some (readChoice fuel rest)
          | none => (takeWord "for" inside).map (readLoop fuel)
        match directive with
        | none => some ([], cs)
        | some directive => do
          let (part, after, rest) ← directive
          let (more, rest) ← readElements fuel ending rest
          return (.marked part before after :: more, rest)
      | _ => some ([], cs)

def readChoice (fuel : Nat) (cs : List Char) : Option (TemplatePart × Bool × List Char) :=
  match fuel with
  | 0 => none
  | fuel + 1 => do
    let (condition, rest) ← readTerm fuel false (skip true cs)
    let (start, rest) ← takeMarkerEnd rest
    let (whenTrue, rest) ← readElements fuel .marker rest
    match takeWordMarker "else" rest with
    | some ((before, after), rest) => do
      let (whenFalse, rest) ← readElements fuel .marker rest
      let ((stop, last), rest) ← takeWordMarker "endif" rest
      return (.choice condition (TemplateElement.parts start before whenTrue)
        (TemplateElement.parts after stop whenFalse), last, rest)
    | none => do
      let ((stop, last), rest) ← takeWordMarker "endif" rest
      return (.choice condition (TemplateElement.parts start stop whenTrue) [], last, rest)

def readLoop (fuel : Nat) (cs : List Char) : Option (TemplatePart × Bool × List Char) :=
  match fuel with
  | 0 => none
  | fuel + 1 => do
    let ((key, value), rest) ← takeForIntro cs
    let (collection, rest) ← readTerm fuel false (skip true rest)
    let (start, rest) ← takeMarkerEnd rest
    let (body, rest) ← readElements fuel .marker rest
    let ((stop, last), rest) ← takeWordMarker "endfor" rest
    return (.loop key value collection (TemplateElement.parts start stop body), last, rest)

end

def takeLabels (fuel : Nat) (cs : List Char) : Option (List String × List Char) :=
  match fuel with
  | 0 => none
  | fuel + 1 =>
    match skip false cs with
    | '\x7b' :: rest => some ([], rest)
    | '"' :: rest => do
      let (label, rest) ← takeText rest
      let (more, rest) ← takeLabels fuel rest
      return (label :: more, rest)
    | rest => do
      let (label, rest) ← takeName rest
      let (more, rest) ← takeLabels fuel rest
      return (label :: more, rest)

def attributesDistinct (b : Body) : Bool := decide (b.attributes.map Prod.fst).Nodup

mutual

def readBody (fuel : Nat) (inBlock : Bool) (cs : List Char) : Option (Body × List Char) :=
  match fuel with
  | 0 => none
  | fuel + 1 =>
    match skip true cs with
    | [] => if inBlock then none else some ([], [])
    | c :: rest =>
      if inBlock && c = '\x7d' then some ([], rest)
      else do
        let (s, rest) ← readStructure fuel (c :: rest)
        let rest ← lineEnd rest
        let (more, rest) ← readBody fuel inBlock rest
        return (s :: more, rest)

def readStructure (fuel : Nat) (cs : List Char) : Option (Structure × List Char) :=
  match fuel with
  | 0 => none
  | fuel + 1 => do
    let (name, rest) ← takeName cs
    match skip false rest with
    | '=' :: rest => do
      let (t, rest) ← readTerm fuel false (skip false rest)
      return (.attribute name t, rest)
    | rest => do
      let (labels, rest) ← takeLabels fuel rest
      let (body, rest) ← readBlock fuel rest
      if attributesDistinct body then return (.block name labels body, rest) else none

def readBlock (fuel : Nat) (cs : List Char) : Option (Body × List Char) :=
  match fuel with
  | 0 => none
  | fuel + 1 =>
    match lineEnd cs with
    | some rest => readBody fuel true rest
    | none =>
      match skip false cs with
      | '\x7d' :: rest => some ([], rest)
      | rest => do
        let (s, rest) ← readStructure fuel rest
        match s, skip false rest with
        | .attribute name t, '\x7d' :: rest => return ([.attribute name t], rest)
        | _, _ => none

end

def parse (text : String) : Option Body := do
  let cs := text.toList
  let (body, _) ← readBody (8 * (cs.length + 1)) false cs
  if attributesDistinct body then return body else none

end Monitoring.Document
