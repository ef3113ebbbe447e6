import RouteScript.Xml.Lexeme

/-!
# Tokens before the root element

Outside the root element a document consists of tokens: blanks, comments and processing instructions,
and the pieces of the document type declaration.
-/

namespace RouteScript.Xml

inductive Occurrence where
  | once
  | optional
  | anyNumber
  | atLeastOnce
  deriving DecidableEq, Repr

/-- A token outside the root element. A literal is given by the rest of the document from behind its
opening quote on, and its length. -/
inductive PrologToken where
  | space
  | comment
  | instruction
  | declaration
  | opening (word : Text)
  | conditionalOpening
  | conditionalClosing
  | closing
  | elementStart
  | literal (value : Source) (length : Nat)
  | name (text : Text)
  | prefixedName (text : Text)
  | nameToken
  | countedName (count : Occurrence)
  | poundName (text : Text)
  | percent
  | parameterReference
  | comma
  | bar
  | openBracket
  | closeBracket
  | openParen
  | closeParen (count : Occurrence)
  deriving DecidableEq, Repr

def endsWord (s : Source) : Bool :=
  match s with
  | [] => true
  | g :: _ => isSpace g || "),|[%>".toList.any fun c => g = mark c

def occurrence? : Glyph → Option Occurrence
  | .char 0x3F => some .optional
  | .char 0x2A => some .anyNumber
  | .char 0x2B => some .atLeastOnce
  | _ => none

inductive WordKind where
  | name
  | prefixedName
  | other
  deriving DecidableEq, Repr

def WordKind.token (text : Text) : WordKind → PrologToken
  | .name => .name text
  | .prefixedName => .prefixedName text
  | .other => .nameToken

/-- The rest of a word, whose characters so far are `done`, the last one first. -/
def wordRest (fuel : Nat) (kind : WordKind) (done : Text) (s : Source) :
    Reading (PrologToken × Source) :=
  match fuel with
  | 0 => .error .unclosed
  | fuel + 1 =>
    let (part, t) := nameRest s
    let done := part.reverse ++ done
    match t with
    | .char 0x3A :: u =>
      let done := .char ':' :: done
      match kind with
      | .name =>
        if u.head?.any continuesName then wordRest fuel .prefixedName done u
        else if u = [] then .error .unclosed
        else wordRest fuel .other done u
      | _ => wordRest fuel .other done u
    | _ =>
      if endsWord t then .ok (kind.token done.reverse, t)
      else
        match t.head?.bind occurrence? with
        | some count => if kind = .other then .error (.wrong t) else .ok (.countedName count, t.tail)
        | none => .error (stuck t)

def word (s : Source) : Reading (PrologToken × Source) :=
  if s.head?.any startsName then wordRest (s.length + 1) .name [] s
  else if s.head?.any continuesName || s.head? = some (mark ':') then
    wordRest (s.length + 1) .other [] s
  else .error (stuck s)

def literalLength (quote : Glyph) : Source → Reading (Nat × Source)
  | [] => .error .unclosed
  | g :: t =>
    if g = quote then .ok (0, t)
    else if !g.isChar then .error (stuck (g :: t))
    else (literalLength quote t).map fun (n, rest) => (n + 1, rest)

/-- A literal after its opening quote. A blank, a bracket, a percent sign or the end of the
declaration has to follow it. -/
def literal (quote : Glyph) (s : Source) : Reading (PrologToken × Source) := do
  let (length, t) ← literalLength quote s
  let follows := match t with
    | [] => true
    | g :: _ => isSpace g || g = mark '>' || g = mark '%' || g = mark '['
  if follows then return (.literal s length, t) else .error (.wrong t)

def declarationOpening (s : Source) : Reading (PrologToken × Source) :=
  let isLetter (g : Glyph) : Bool :=
    match g with
    | .char n => (CodePoint.ofNat n).isAsciiLetter || n = 0x5F
    | _ => false
  match s with
  | .char 0x2D :: t => (comment t).map (PrologToken.comment, ·)
  | .char 0x5B :: t => .ok (.conditionalOpening, t)
  | g :: _ =>
    if isLetter g then
      let t := s.dropWhile isLetter
      let opened : Reading (PrologToken × Source) := .ok (.opening (textOf (s.takeWhile isLetter)), t)
      match t with
      | .char 0x25 :: u =>
        if u = [] then .error .unclosed
        else if u.head?.any isSpace ∨ u.head? = some (mark '%') then .error (.wrong t)
        else opened
      | _ => if t.head?.any isSpace then opened else .error (missing t)
    else .error (.wrong s)
  | [] => .error .unclosed

def percent (s : Source) : Reading (PrologToken × Source) :=
  if s.head?.any isSpace ∨ s.head? = some (mark '%') then .ok (.percent, s)
  else do
    let (_, t) ← name s
    match t with
    | .char 0x3B :: rest => return (.parameterReference, rest)
    | _ => .error (stuck t)

def pound (s : Source) : Reading (PrologToken × Source) := do
  let (text, t) ← name s
  let follows := match t with
    | [] => true
    | g :: _ => isSpace g || g = mark ')' || g = mark '>' || g = mark '%' || g = mark '|'
  if follows then return (.poundName text, t) else .error (stuck t)

def closingParen (s : Source) : Reading (PrologToken × Source) :=
  match s with
  | [] => .ok (.closeParen .once, [])
  | g :: t =>
    match occurrence? g with
    | some count => .ok (.closeParen count, t)
    | none =>
      if isSpace g || g = mark '>' || g = mark ',' || g = mark '|' || g = mark ')' then
        .ok (.closeParen .once, s)
      else .error (.wrong s)

def closingBracket (s : Source) : Reading (PrologToken × Source) :=
  match s with
  | .char 0x5D :: .char 0x3E :: t => .ok (.conditionalClosing, t)
  | [.char 0x5D] => .error .unclosed
  | _ => .ok (.closeBracket, s)

def markup (s : Source) : Reading (PrologToken × Source) :=
  match s with
  | .char 0x21 :: t => declarationOpening t
  | .char 0x3F :: t =>
    (instruction t).map fun (isXml, rest) =>
      ((if isXml then .declaration else .instruction), rest)
  | .char n :: _ =>
    if isNameStart n ∨ 0x80 ≤ n then .ok (.elementStart, mark '<' :: s) else .error (.wrong s)
  | .broken :: _ | .cut :: _ => .ok (.elementStart, mark '<' :: s)
  | _ => .error (stuck s)

def prologToken (s : Source) : Reading (PrologToken × Source) :=
  match s with
  | [] => .error .unclosed
  | .char 0x22 :: t => literal (mark '"') t
  | .char 0x27 :: t => literal (mark '\'') t
  | .char 0x3C :: t => markup t
  | .char 0x25 :: t => percent t
  | .char 0x23 :: t => pound t
  | .char 0x2C :: t => .ok (.comma, t)
  | .char 0x7C :: t => .ok (.bar, t)
  | .char 0x3E :: t => .ok (.closing, t)
  | .char 0x5B :: t => .ok (.openBracket, t)
  | .char 0x5D :: t => closingBracket t
  | .char 0x28 :: t => .ok (.openParen, t)
  | .char 0x29 :: t => closingParen t
  | g :: _ => if isSpace g then .ok (.space, s.dropWhile isSpace) else word s

end RouteScript.Xml
