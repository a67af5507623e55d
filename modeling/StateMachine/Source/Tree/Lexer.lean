import StateMachine.Source.Tree
import StateMachine.Text.Blank
import StateMachine.Text.Identifier
import StateMachine.Text.Quoted

/-!
# Reading trees

Source text is cut into trees from left to right: blanks and comments are skipped, comments that
document an item become attributes, brackets have to match, and everything else is a literal, a
mark or a word. Every reader takes the characters ahead and gives back what it read with the
characters behind it; reading fails as a whole if a piece cannot be read.
-/

namespace StateMachine.Source

namespace Lexer

/-! ### Comments and blanks -/

/-- The rest of a line, and what stands from its end on; a carriage return before the line feed
belongs to neither. -/
def restOfLine : List Char → List Char × List Char
  | [] => ([], [])
  | '\n' :: rest => ([], '\n' :: rest)
  | '\r' :: '\n' :: rest => ([], '\n' :: rest)
  | c :: rest =>
    let (line, behind) := restOfLine rest
    (c :: line, behind)

/-- The inside of a block comment after its opening, up to the mark that closes it; comments may
be nested to a depth. -/
def blockComment : Nat → List Char → Option (List Char × List Char)
  | _, [] => none
  | depth, '/' :: '*' :: rest => do
    let (inner, behind) ← blockComment (depth + 1) rest
    some ('/' :: '*' :: inner, behind)
  | 0, '*' :: '/' :: rest => some ([], rest)
  | depth + 1, '*' :: '/' :: rest => do
    let (inner, behind) ← blockComment depth rest
    some ('*' :: '/' :: inner, behind)
  | depth, c :: rest => do
    let (inner, behind) ← blockComment depth rest
    some (c :: inner, behind)

/-- The rest behind one blank or one comment that is not documentation, if the text starts with
one. -/
def skipOne : List Char → Option (List Char)
  | '/' :: '/' :: '/' :: '/' :: rest => some (restOfLine rest).2
  | '/' :: '/' :: '/' :: _ => none
  | '/' :: '/' :: '!' :: _ => none
  | '/' :: '/' :: rest => some (restOfLine rest).2
  | '/' :: '*' :: '*' :: '/' :: rest => some rest
  | '/' :: '*' :: '*' :: '*' :: rest => (blockComment 0 ('*' :: '*' :: rest)).map Prod.snd
  | '/' :: '*' :: '*' :: _ => none
  | '/' :: '*' :: '!' :: _ => none
  | '/' :: '*' :: rest => (blockComment 0 rest).map Prod.snd
  | c :: rest => if Text.isBlank c then some rest else none
  | [] => none

/-- Whether every carriage return stands before a line feed. -/
def hasPairedReturns : List Char → Bool
  | [] => true
  | '\r' :: '\n' :: rest => hasPairedReturns rest
  | '\r' :: _ => false
  | _ :: rest => hasPairedReturns rest

/-- A comment that documents something: its text, and whether it documents what encloses it. -/
def docComment (cs : List Char) : Option ((List Char × Bool) × List Char) := do
  let ((text, inner), rest) ←
    match cs with
    | '/' :: '/' :: '!' :: rest =>
      let (line, behind) := restOfLine rest
      some ((line, true), behind)
    | '/' :: '*' :: '!' :: rest => (blockComment 0 rest).map (fun p => ((p.1, true), p.2))
    | '/' :: '/' :: '/' :: '/' :: _ => none
    | '/' :: '/' :: '/' :: rest =>
      let (line, behind) := restOfLine rest
      some ((line, false), behind)
    | '/' :: '*' :: '*' :: '*' :: _ => none
    | '/' :: '*' :: '*' :: rest => (blockComment 0 rest).map (fun p => ((p.1, false), p.2))
    | _ => none
  if hasPairedReturns text then some ((text, inner), rest) else none

/-! ### Words -/

def identifier : List Char → Option (List Char × List Char)
  | c :: rest =>
    if Text.isIdentStart c then
      some (c :: rest.takeWhile Text.isIdentContinue, rest.dropWhile Text.isIdentContinue)
    else none
  | [] => none

def neverRaw : List String := ["_", "super", "self", "Self", "crate"]

/-- An identifier, with or without a raw mark. -/
def anyIdentifier : List Char → Option (List Char × List Char)
  | 'r' :: '#' :: rest => do
    let (name, behind) ← identifier rest
    if String.ofList name ∈ neverRaw then none else some ('r' :: '#' :: name, behind)
  | cs => identifier cs

def literalOpenings : List String :=
  ["r\"", "r#\"", "r##", "b\"", "b\x27", "br\"", "br#", "c\"", "cr\"", "cr#"]

/-- A word: an identifier that does not look like the start of a literal. -/
def word (cs : List Char) : Option (Tree × List Char) :=
  if literalOpenings.any (fun o => o.toList.isPrefixOf cs) then none
  else do
    let (name, rest) ← anyIdentifier cs
    some (.word (String.ofList name), rest)

def suffix (cs : List Char) : List Char × List Char := (identifier cs).getD ([], cs)

/-! ### Marks -/

def markChars : List Char := "~!@#$%^&*-=+|;:,<.>/?\x27".toList

/-- Whether the text starts with a mark that does not open a comment. -/
def startsWithMark : List Char → Bool
  | '/' :: '/' :: _ => false
  | '/' :: '*' :: _ => false
  | c :: _ => c ∈ markChars
  | [] => false

/-- A mark. An apostrophe is one only at the start of a lifetime. -/
def mark (cs : List Char) : Option (Tree × List Char) :=
  match cs with
  | '\x27' :: rest => do
    let (_, behind) ← anyIdentifier rest
    let raw := ['r', '#'].isPrefixOf rest
    match behind with
    | '\x27' :: _ => none
    | '#' :: _ => if raw then some (.mark '\x27' .joint, rest) else none
    | _ => some (.mark '\x27' .joint, rest)
  | c :: rest =>
    if startsWithMark cs then some (.mark c (if startsWithMark rest then .joint else .alone), rest)
    else none
  | [] => none

/-! ### Characters and strings -/

def hexDigit (c : Char) : Option Nat :=
  if '0' ≤ c ∧ c ≤ '9' then some (c.toNat - '0'.toNat)
  else if 'a' ≤ c ∧ c ≤ 'f' then some (c.toNat - 'a'.toNat + 10)
  else if 'A' ≤ c ∧ c ≤ 'F' then some (c.toNat - 'A'.toNat + 10)
  else none

def charOfNat? (n : Nat) : Option Char := if n.isValidChar then some (Char.ofNat n) else none

/-- A code point between braces, after its opening brace: one to six hexadecimal digits, with
underscores after the first. -/
def codePoint (value digits : Nat) : List Char → Option (Char × List Char)
  | [] => none
  | '_' :: rest => if digits = 0 then none else codePoint value digits rest
  | '\x7d' :: rest =>
    if digits = 0 then none else (charOfNat? value).map (·, rest)
  | c :: rest => do
    let d ← hexDigit c
    if digits = 6 then none else codePoint (value * 16 + d) (digits + 1) rest

/-- The characters that a backslash and one letter stand for. -/
def shortEscape (c : Char) : Option Char :=
  if c = 'n' then some '\n'
  else if c = 'r' then some '\r'
  else if c = 't' then some '\t'
  else if c = '0' then some '\x00'
  else if c = '\\' ∨ c = '\x27' ∨ c = '"' then some c
  else none

def hexPair : List Char → Option (Nat × List Char)
  | a :: b :: rest => do some ((← hexDigit a) * 16 + (← hexDigit b), rest)
  | _ => none

/-- What follows a backslash in a character or string, line breaks excepted. -/
def charEscape : List Char → Option (Char × List Char)
  | 'x' :: rest => do
    let (n, behind) ← hexPair rest
    if n < 128 then some (Char.ofNat n, behind) else none
  | 'u' :: '\x7b' :: rest => codePoint 0 0 rest
  | c :: rest => (shortEscape c).map (·, rest)
  | [] => none

/-- What follows a backslash in a byte or byte string, line breaks excepted. -/
def byteEscape : List Char → Option (UInt8 × List Char)
  | 'x' :: rest => (hexPair rest).map (fun p => (.ofNat p.1, p.2))
  | c :: rest => (shortEscape c).map (fun e => (.ofNat e.toNat, rest))
  | [] => none

/-- The rest behind the blanks that follow a line break after a backslash. Something has to
follow, and a carriage return has to stand before a line feed. -/
def continuation : List Char → Option (List Char)
  | [] => none
  | '\r' :: '\n' :: rest => continuation rest
  | '\r' :: _ => none
  | c :: rest => if c = ' ' ∨ c = '\t' ∨ c = '\n' then continuation rest else some (c :: rest)

/-- The inside of a string after its opening quote, for as many steps as `fuel` allows. The
`escape` tells what follows a backslash; a carriage return with its line feed counts as the line
feed alone. -/
def cooked (escape : List Char → Option (Char × List Char)) :
    Nat → List Char → Option (List Char × List Char)
  | 0, _ => none
  | _ + 1, [] => none
  | _ + 1, '"' :: rest => some ([], rest)
  | fuel + 1, '\r' :: rest =>
    match rest with
    | '\n' :: rest => do
      let (inner, behind) ← cooked escape fuel rest
      some ('\n' :: inner, behind)
    | _ => none
  | fuel + 1, '\\' :: '\n' :: rest => do cooked escape fuel (← continuation ('\n' :: rest))
  | fuel + 1, '\\' :: '\r' :: rest => do cooked escape fuel (← continuation ('\r' :: rest))
  | fuel + 1, '\\' :: rest => do
    let (c, rest) ← escape rest
    let (inner, behind) ← cooked escape fuel rest
    some (c :: inner, behind)
  | fuel + 1, c :: rest => do
    let (inner, behind) ← cooked escape fuel rest
    some (c :: inner, behind)

/-- The inside of a raw string after its opening quote, up to a quote followed by the closing
marks. -/
def rawInside (closing : List Char) : List Char → Option (List Char × List Char)
  | [] => none
  | '\r' :: '\n' :: rest => do
    let (inner, behind) ← rawInside closing rest
    some ('\r' :: '\n' :: inner, behind)
  | '\r' :: _ => none
  | c :: rest =>
    if c = '"' ∧ closing.isPrefixOf rest then some ([], rest.drop closing.length)
    else do
      let (inner, behind) ← rawInside closing rest
      some (c :: inner, behind)

def raw (cs : List Char) : Option (List Char × List Char) :=
  let hashes := cs.takeWhile (· = '#')
  match cs.dropWhile (· = '#') with
  | '"' :: rest => if 255 < hashes.length then none else rawInside hashes rest
  | _ => none

/-- A character after its opening quote, up to the closing one. -/
def character (cs : List Char) : Option (Char × List Char) := do
  let (c, rest) ←
    match cs with
    | '\\' :: rest => charEscape rest
    | c :: rest => some (c, rest)
    | [] => none
  match rest with
  | '\x27' :: rest => some (c, rest)
  | _ => none

def byte (cs : List Char) : Option (UInt8 × List Char) := do
  let (b, rest) ←
    match cs with
    | '\\' :: rest => byteEscape rest
    | c :: rest => if c.toNat < 128 then some (.ofNat c.toNat, rest) else none
    | [] => none
  match rest with
  | '\x27' :: rest => some (b, rest)
  | _ => none

/-- What a byte string holds, as characters with the same codes. -/
def byteEscapeAsChar (cs : List Char) : Option (Char × List Char) :=
  (byteEscape cs).map (fun p => (Char.ofNat p.1.toNat, p.2))

/-- What a terminated string holds, as characters: none of them may be zero. -/
def cStringEscape (cs : List Char) : Option (Char × List Char) :=
  (charEscape cs <|> byteEscapeAsChar cs).filter (·.1 ≠ '\x00')

def quoted (cs : List Char) : Option (LiteralValue × List Char) :=
  let fuel := cs.length + 1
  let string (r : Option (List Char × List Char)) : Option (LiteralValue × List Char) :=
    r.map (fun p => (.str (String.ofList p.1), p.2))
  let bytes (r : Option (List Char × List Char)) : Option (LiteralValue × List Char) :=
    (r.filter (fun p => (cs.take (cs.length - p.2.length)).all (·.toNat < 128))).map
      (fun p => (.byteString, p.2))
  let terminated (r : Option (List Char × List Char)) : Option (LiteralValue × List Char) :=
    (r.filter (·.1.all (· ≠ '\x00'))).map (fun p => (.cString, p.2))
  match cs with
  | '"' :: rest => string (cooked charEscape fuel rest)
  | 'r' :: rest => string (raw rest)
  | 'b' :: '"' :: rest => bytes (cooked byteEscapeAsChar fuel rest)
  | 'b' :: 'r' :: rest => bytes (raw rest)
  | 'c' :: '"' :: rest => terminated (cooked cStringEscape fuel rest)
  | 'c' :: 'r' :: rest => terminated (raw rest)
  | 'b' :: '\x27' :: rest => (byte rest).map (fun p => (.byte p.1, p.2))
  | '\x27' :: rest => (character rest).map (fun p => (.char p.1, p.2))
  | _ => none

/-! ### Numbers -/

def isDigitOrGap (c : Char) : Bool := c.isDigit || c = '_'

/-- The number written by decimal digits; gaps do not count. -/
def decimalValue (cs : List Char) : Nat :=
  (cs.filter Char.isDigit).foldl (fun n c => n * 10 + (c.toNat - '0'.toNat)) 0

/-- Fails if an identifier could go on. -/
def wordBreak (cs : List Char) : Option (List Char) :=
  match cs with
  | c :: _ => if Text.isIdentContinue c then none else some cs
  | [] => some cs

/-- The sign, the digits and the rest of an exponent after its letter. -/
def exponentPart (cs : List Char) : Option (Int × List Char) :=
  let lead := cs.takeWhile (fun c => c = '+' ∨ c = '-' ∨ c = '_')
  let rest := cs.dropWhile (fun c => c = '+' ∨ c = '-' ∨ c = '_')
  let digits := rest.takeWhile isDigitOrGap
  let signs := lead.filter (· ≠ '_')
  if digits.isEmpty ∨ 1 < signs.length then none
  else
    let n : Int := decimalValue digits
    some (if signs = ['-'] then -n else n, rest.dropWhile isDigitOrGap)

/-- The fraction of a number after its point, and its number of digits. The point of a range or
of a field is none of a number. -/
def fractionPart (cs : List Char) : Option (List Char × List Char) :=
  match cs with
  | [] => some ([], [])
  | c :: _ =>
    if c = '.' ∨ Text.isIdentStart c then none
    else some (cs.takeWhile isDigitOrGap, cs.dropWhile isDigitOrGap)

/-- A number with a point or an exponent, without suffix. An exponent without digits is left for
the suffix if there is a point. -/
def floatPart (cs : List Char) : Option (Decimal × List Char) :=
  let whole := cs.takeWhile isDigitOrGap
  let rest := cs.dropWhile isDigitOrGap
  let scaled (digits : List Char) (places : Nat) (rest : List Char) :
      Option (Decimal × List Char) :=
    match rest with
    | c :: behind =>
      if c = 'e' ∨ c = 'E' then
        (exponentPart behind).map (fun p => (⟨decimalValue digits, p.1 - places⟩, p.2))
      else none
    | [] => none
  match rest with
  | '.' :: rest => do
    let (fraction, rest) ← fractionPart rest
    let digits := whole ++ fraction
    let places := (fraction.filter Char.isDigit).length
    scaled digits places rest <|> some (⟨decimalValue digits, -(places : Int)⟩, rest)
  | _ => scaled whole 0 rest

def integerBase : List Char → Nat × List Char
  | '0' :: 'x' :: rest => (16, rest)
  | '0' :: 'o' :: rest => (8, rest)
  | '0' :: 'b' :: rest => (2, rest)
  | cs => (10, cs)

/-- The digits of an integer. A decimal digit that is too large for the base is a mistake, and a
letter that is too large ends the number. -/
def integerDigits (base : Nat) (value : Nat) (empty : Bool) : List Char → Option (Nat × List Char)
  | [] => if empty then none else some (value, [])
  | '_' :: rest => if empty ∧ base = 10 then none else integerDigits base value empty rest
  | c :: rest =>
    match hexDigit c with
    | some d =>
      if d < base then integerDigits base (value * base + d) false rest
      else if c.isDigit ∨ empty then none
      else some (value, c :: rest)
    | none => if empty then none else some (value, c :: rest)

def number (cs : List Char) : Option (LiteralValue × List Char) :=
  let finish (make : String → LiteralValue) (rest : List Char) :
      Option (LiteralValue × List Char) := do
    let (name, behind) := suffix rest
    some (make (String.ofList name), ← wordBreak behind)
  match cs with
  | c :: _ =>
    if !c.isDigit then none
    else
      (do
        let (d, rest) ← floatPart cs
        finish (.float d) rest) <|>
      (do
        let (base, digits) := integerBase cs
        let (n, rest) ← integerDigits base 0 true digits
        finish (.int n) rest)
  | [] => none

/-- What stands in place of a literal that could not be read where it was first written. It starts
with a bracket but does not open a group. -/
def placeholder : List Char := "(/*ERROR*/)".toList

/-- A literal. What stands in quotes may have a suffix too, which has no meaning. -/
def literal (cs : List Char) : Option (Tree × List Char) := do
  let (value, rest) ←
    if placeholder.isPrefixOf cs then some (.unreadable, cs.drop placeholder.length)
    else ((quoted cs).map (fun p => (p.1, (suffix p.2).2))) <|> number cs
  some (.literal ⟨String.ofList (cs.take (cs.length - rest.length)), value⟩, rest)

/-! ### Trees -/

/-- The escapes of a string literal in source text: a zero before an octal digit is written with
two digits, and a single quote is not escaped. -/
def escapeAll : List Char → List Char
  | [] => []
  | c :: rest =>
    let octalNext := rest.head?.any (fun d => '0' ≤ d && d ≤ '7')
    let here := if c = '\x00' ∧ octalNext then ['\\', 'x', '0', '0'] else Text.escape .double c
    here ++ escapeAll rest

end Lexer

def Literal.ofString (s : String) : Literal :=
  ⟨String.ofList ('"' :: Lexer.escapeAll s.toList ++ ['"']), .str s⟩

namespace Lexer

/-- The attribute that a documenting comment stands for. -/
def docTrees (text : List Char) (inner : Bool) : List Tree :=
  .mark '#' .alone :: (if inner then [.mark '!' .alone] else []) ++
    [.group .bracket
      [.word "doc", .mark '=' .alone, .literal (.ofString (String.ofList text))]]

def opens? (c : Char) : Option Delimiter :=
  if c = '(' then some .paren else if c = '[' then some .bracket
  else if c = '\x7b' then some .brace else none

def closes? (c : Char) : Option Delimiter :=
  if c = ')' then some .paren else if c = ']' then some .bracket
  else if c = '\x7d' then some .brace else none

/-- The groups around the place of reading, innermost first, each with the trees before it in
reverse order. -/
abbrev Stack := List (Delimiter × List Tree)

/-- Reads trees for as many steps as `fuel` allows, given the trees of the innermost group so far
in reverse order. -/
def trees : Nat → Stack → List Tree → List Char → Option (List Tree)
  | 0, _, _, _ => none
  | fuel + 1, stack, done, cs =>
    match skipOne cs with
    | some rest => trees fuel stack done rest
    | none =>
      match docComment cs with
      | some ((text, inner), rest) =>
        trees fuel stack ((docTrees text inner).reverse ++ done) rest
      | none =>
        match cs with
        | [] => if stack.isEmpty then some done.reverse else none
        | c :: rest =>
          match if placeholder.isPrefixOf cs then none else opens? c, closes? c with
          | some d, _ => trees fuel ((d, done) :: stack) [] rest
          | none, some d =>
            match stack with
            | (d', before) :: outer =>
              if d = d' then trees fuel outer (.group d done.reverse :: before) rest else none
            | [] => none
          | none, none =>
            match literal cs <|> mark cs <|> word cs with
            | some (t, rest) => trees fuel stack (t :: done) rest
            | none => none

end Lexer

/-- The trees of a source text, if it can be read. A mark of byte order in front is skipped. Each
step reads at least one character, so there are no more steps than characters. -/
def Tree.ofString? (s : String) : Option (List Tree) :=
  let cs :=
    match s.toList with
    | '\ufeff' :: rest => rest
    | cs => cs
  Lexer.trees (cs.length + 1) [] [] cs

end StateMachine.Source
