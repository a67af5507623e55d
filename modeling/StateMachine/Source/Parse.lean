import StateMachine.Number.Integer
import StateMachine.Source.Tree

/-!
# Parsing trees

A parser reads trees from the front and fails with the reason why it cannot go on. Trees that a
parser leaves unread inside a group are a fault too, but one that only counts if nothing else is
wrong, so the cursor remembers the first such group.

Parsed marks are spelled anew: the marks of one operator are joined to each other, and the last
one stands alone.
-/

namespace StateMachine.Source

/-- What a parser can look for. -/
inductive Sought
  | token (text : String)
  | identifier
  | anyIdentifier
  | lifetime
  | literal
  | stringLiteral
  | integerLiteral
  | booleanLiteral
  | group (delimiter : Delimiter)
  | anyGroup
  | expression
  | loopOrBlock
  | rangeEnd
  | identifierOrLiteral
  | identifierOrInteger
  | identifierOrUnderscore
  | commaOrSemicolon
  | pathSegment
  deriving DecidableEq

/-- How a message names what was looked for. -/
def Sought.text : Sought → String
  | .token text => "`" ++ text ++ "`"
  | .identifier => "identifier"
  | .anyIdentifier => "ident"
  | .lifetime => "lifetime"
  | .literal => "literal"
  | .stringLiteral => "string literal"
  | .integerLiteral => "integer literal"
  | .booleanLiteral => "boolean literal"
  | .group d => d.name
  | .anyGroup => "delimiter"
  | .expression => "an expression"
  | .loopOrBlock => "loop or block expression"
  | .rangeEnd => "range upper bound"
  | .identifierOrLiteral => "identifier or literal"
  | .identifierOrInteger => "identifier or integer"
  | .identifierOrUnderscore => "identifier or underscore"
  | .commaOrSemicolon => "`,` or `;`"
  | .pathSegment => "path segment after `::`"

/-- Why trees do not follow the grammar. -/
inductive GrammarFault
  /-- None of the alternatives was found; `atEnd` tells whether the message says that nothing at
  all was left. -/
  | expected (atEnd : Bool) (alternatives : List Sought)
  | keyword (word : String)
  /-- Trees are left over, in a group or at the end. -/
  | leftover (group : Option Delimiter)
  | unendedStatement
  | chainedComparison
  /-- Something follows a cast that cannot. -/
  | afterCast (what : String)
  | nestedAttribute
  | attributedRange
  | labelledJump
  | suffixedField
  /-- The number of a field is too large or negative. -/
  | fieldNumber (cause : IntegerFault)
  | unreadableField
  | objectWithoutTrait
  | opaqueWithoutTrait
  /-- A bound is both optional and stated for all of some lifetimes. -/
  | optionalBinder
  | misplacedModifier (text : String)
  | misplacedCapture
  | conditionParameters
  | openRangeInSlice
  | secondReceiver
  | misplacedReceiver
  | negativeInherent
  deriving DecidableEq

def GrammarFault.message : GrammarFault → String
  | .expected atEnd alternatives =>
    let texts := alternatives.map Sought.text
    let wanted :=
      match texts with
      | [a] => "expected " ++ a
      | [a, b] => "expected " ++ a ++ " or " ++ b
      | _ => "expected one of: " ++ ", ".intercalate texts
    match atEnd, texts with
    | true, [] => "unexpected end of input"
    | false, [] => "unexpected token"
    | true, _ => "unexpected end of input, " ++ wanted
    | false, _ => wanted
  | .keyword word => "expected identifier, found keyword `" ++ word ++ "`"
  | .leftover (some d) => "unexpected token, expected `" ++ d.closing ++ "`"
  | .leftover none => "unexpected token"
  | .unendedStatement => "unexpected token, expected `;`"
  | .chainedComparison => "comparison operators cannot be chained"
  | .afterCast what => "casts cannot be followed by " ++ what
  | .nestedAttribute => "unexpected attribute inside of attribute"
  | .attributedRange => "attributes are not allowed on range expressions starting with `..`"
  | .labelledJump => "parentheses required"
  | .suffixedField => "expected unsuffixed integer"
  | .fieldNumber cause => cause.message
  | .unreadableField => "cannot parse string into token stream"
  | .objectWithoutTrait => "at least one trait is required for an object type"
  | .opaqueWithoutTrait => "at least one trait must be specified"
  | .optionalBinder => "`for<...>` binder not allowed with `?` trait polarity modifier"
  | .misplacedModifier text => "`" ++ text ++ "` is not allowed here"
  | .misplacedCapture => "`use<...>` precise capturing syntax is not allowed here"
  | .conditionParameters =>
    "generic parameters on `where` clauses are reserved for future use"
  | .openRangeInSlice => "range pattern is not allowed unparenthesized inside slice pattern"
  | .secondReceiver => "unexpected second method receiver"
  | .misplacedReceiver => "unexpected method receiver"
  | .negativeInherent => "inherent impls cannot be negative"

/-- The place of a parser. -/
structure Cursor where
  rest : List Tree
  /-- The first group in which trees were left over. -/
  leftover : Option Delimiter

/-- Reads a value from the front of trees. -/
abbrev Parse := StateT Cursor (Except GrammarFault)

namespace Parse

variable {α : Type}

def ahead : Parse (List Tree) := do return (← get).rest

def moveTo (rest : List Tree) : Parse Unit := modify (fun c => { c with rest := rest })

def atEnd : Parse Bool := do return (← ahead).isEmpty

/-- Fails for want of one of the alternatives, saying so if no trees are left. -/
def expected (alternatives : List Sought) : Parse α := do
  throw (.expected (← atEnd) alternatives)

/-- Reads `p` if the condition holds, else nothing. -/
def ifThen (condition : Parse Bool) (p : Parse (List Tree)) : Parse (List Tree) := do
  if ← condition then p else pure []

/-- The trees read since an earlier place, as they stand there. -/
def since (before : List Tree) : Parse (List Tree) := do
  return before.take (before.length - (← ahead).length)

/-- Reads `p` if that is possible, and otherwise stays in place. -/
def attempt (p : Parse α) : Parse (Option α) := fun c =>
  match p c with
  | .ok (a, c') => .ok (some a, c')
  | .error _ => .ok (none, c)

/-- The trees behind the first one; a lifetime counts as one tree. -/
def behindFirst : List Tree → List Tree
  | .mark '\x27' .joint :: .word _ :: rest => rest
  | _ :: rest => rest
  | [] => []

/-- The trees behind the first `n`. -/
def behind : Nat → List Tree → List Tree
  | 0, trees => trees
  | n + 1, trees => behind n (behindFirst trees)

/-- What a test says behind the first `n` trees. -/
def peekBehind (n : Nat) (test : Parse Bool) : Parse Bool := fun c =>
  match test { c with rest := behind n c.rest } with
  | .ok (found, _) => .ok (found, c)
  | .error fault => .error fault

/-! ### Marks -/

/-- Takes the marks of one operator from the front, and spells them anew. -/
def takeMark : List Char → List Tree → Option (List Tree × List Tree)
  | [], rest => some ([], rest)
  | [c], .mark c' _ :: rest => if c = c' then some ([.mark c .alone], rest) else none
  | c :: cs, .mark c' .joint :: rest =>
    if c = c' then (takeMark cs rest).map (fun p => (.mark c .joint :: p.1, p.2)) else none
  | _, _ => none

def peekMark (text : String) : Parse Bool := do
  return (takeMark text.toList (← ahead)).isSome

/-- Whether an operator is ahead that is not the start of one of the longer ones. -/
def peekMarkBut (text : String) (longer : List String) : Parse Bool := do
  let trees ← ahead
  return (takeMark text.toList trees).isSome &&
    longer.all (fun other => (takeMark other.toList trees).isNone)

def peekDot : Parse Bool := peekMarkBut "." [".."]

def mark (text : String) : Parse (List Tree) := do
  match takeMark text.toList (← ahead) with
  | some (spelled, rest) =>
    moveTo rest
    return spelled
  | none => throw (.expected false [.token text])

def optionalMark (text : String) : Parse (List Tree) := ifThen (peekMark text) (mark text)

/-! ### Words -/

def keywords : List String :=
  ["_", "abstract", "as", "async", "await", "become", "box", "break", "const", "continue",
    "crate", "do", "dyn", "else", "enum", "extern", "false", "final", "fn", "for", "if", "impl",
    "in", "let", "loop", "macro", "match", "mod", "move", "mut", "override", "priv", "pub", "ref",
    "return", "Self", "self", "static", "struct", "super", "trait", "true", "try", "type",
    "typeof", "unsafe", "unsized", "use", "virtual", "where", "while", "yield"]

/-- The word at the front. -/
def frontWord? : List Tree → Option String
  | .word text :: _ => some text
  | _ => none

def peekWord (text : String) : Parse Bool := do return frontWord? (← ahead) == some text

def peekOneOf (texts : List String) : Parse Bool := do
  return (frontWord? (← ahead)).any (· ∈ texts)

def peekAnyWord : Parse Bool := do return (frontWord? (← ahead)).isSome

def peekIdentifier : Parse Bool := do return (frontWord? (← ahead)).any (· ∉ keywords)

def word (text : String) : Parse (List Tree) := do
  if ← peekWord text then
    moveTo ((← ahead).drop 1)
    return [.word text]
  else expected [.token text]

def optionalWord (text : String) : Parse (List Tree) := ifThen (peekWord text) (word text)

def anyWord : Parse String := do
  match frontWord? (← ahead) with
  | some text =>
    moveTo ((← ahead).drop 1)
    return text
  | none => expected [.anyIdentifier]

def identifier : Parse String := do
  match frontWord? (← ahead) with
  | some text => if text ∈ keywords then throw (.keyword text) else anyWord
  | none => expected [.identifier]

def name : Parse (List Tree) := do return [.word (← identifier)]

/-- An identifier, or one of some keywords that may stand in its place, as a tree. -/
def nameOr (texts : List String) : Parse (List Tree) := do
  if ← peekOneOf texts then return [.word (← anyWord)] else name

/-! ### Lifetimes -/

def takeLifetime : List Tree → Option (List Tree × List Tree)
  | .mark '\x27' .joint :: .word name :: rest => some ([.mark '\x27' .joint, .word name], rest)
  | _ => none

def peekLifetime : Parse Bool := do return (takeLifetime (← ahead)).isSome

def lifetime : Parse (List Tree) := do
  match takeLifetime (← ahead) with
  | some (spelled, rest) =>
    moveTo rest
    return spelled
  | none => expected [.lifetime]

def optionalLifetime : Parse (List Tree) := ifThen peekLifetime lifetime

/-! ### Literals -/

/-- Takes a literal from the front; truth values are literals too. -/
def takeLiteral : List Tree → Option (Literal × List Tree)
  | .literal l :: rest => some (l, rest)
  | .word text :: rest =>
    if text = "true" then some (⟨text, .bool true⟩, rest)
    else if text = "false" then some (⟨text, .bool false⟩, rest)
    else none
  | _ => none

/-- Takes a literal from the front, and tells whether it is a number with a minus sign. -/
def takeSigned : List Tree → Option ((Bool × Literal) × List Tree)
  | .mark '-' _ :: .literal l :: rest =>
    match l.value with
    | .int _ _ | .float _ _ => some ((true, l), rest)
    | _ => none
  | trees => (takeLiteral trees).map (fun p => ((false, p.1), p.2))

def peekLiteral : Parse Bool := do return (takeSigned (← ahead)).isSome

/-- A literal of some kind, with a minus sign if it has one. -/
def literalOf (kind : Sought) (pick : LiteralValue → Option α) : Parse (Bool × α) := do
  match takeSigned (← ahead) with
  | some ((negative, l), rest) =>
    match pick l.value with
    | some a =>
      moveTo rest
      return (negative, a)
    | none => expected [kind]
  | none => expected [kind]

def literal : Parse (List Tree) := do
  match takeSigned (← ahead) with
  | some ((negative, l), rest) =>
    moveTo rest
    return (if negative then [.mark '-' .alone] else []) ++ [.literal l]
  | none => expected [.literal]

def peekString : Parse Bool := do
  match ← ahead with
  | .literal ⟨_, .str _⟩ :: _ => return true
  | _ => return false

/-! ### Groups -/

def peekGroup (d : Delimiter) : Parse Bool := do
  match ← ahead with
  | .group d' _ :: _ => return d == d'
  | _ => return false

/-- Reads the inside of a group, and tells whether trees are left over in it. -/
def enter (d : Delimiter) (p : Parse α) : Parse (α × Bool) := do
  match ← ahead with
  | .group d' inner :: rest =>
    if d = d' then
      moveTo inner
      let a ← p
      let unread := !(← atEnd)
      moveTo rest
      return (a, unread)
    else expected [.group d]
  | _ => expected [.group d]

/-- Remembers a group with trees left over, unless there is one already. -/
def noteLeftover (d : Delimiter) (unread : Bool) : Parse Unit :=
  modify (fun c => { c with leftover := c.leftover <|> (if unread then some d else none) })

/-- Reads the inside of a group. -/
def inGroup (d : Delimiter) (p : Parse α) : Parse α := do
  let (a, unread) ← enter d p
  noteLeftover d unread
  return a

/-- Reads the inside of a group and then what follows it. Trees left over in what follows are
noticed before those in the group. -/
def inGroupThen {β : Type} (d : Delimiter) (p : Parse α) (rest : α → Parse β) : Parse β := do
  let (a, unread) ← enter d p
  let b ← rest a
  noteLeftover d unread
  return b

/-- A group with its brackets, spelled anew inside. -/
def group (d : Delimiter) (p : Parse (List Tree)) : Parse (List Tree) := do
  return [.group d (← inGroup d p)]

/-- A group with its brackets, and what follows it, noticing what is left over in this first. -/
def groupThen (d : Delimiter) (p rest : Parse (List Tree)) : Parse (List Tree) :=
  inGroupThen d p (fun inner => do return .group d inner :: (← rest))

def anything : Parse (List Tree) := do
  let trees ← ahead
  moveTo []
  return trees

def anyGroup : Parse (List Tree) := do
  match ← ahead with
  | .group d inner :: rest =>
    moveTo rest
    return [.group d inner]
  | _ => expected [.anyGroup]

/-! ### Lists -/

/-- An item of a list, with the separator behind it if there is one. -/
abbrev Entry (α : Type) := α × List Tree

def Entry.trees (spelled : α → List Tree) (entries : List (Entry α)) : List Tree :=
  entries.flatMap (fun e => spelled e.1 ++ e.2)

/-- Items with separators between them up to an end, for as many items as `fuel` allows. -/
def listFrom (p : Parse α) (separator : String) (ends : Parse Bool) :
    Nat → Parse (List (Entry α))
  | 0 => return []
  | fuel + 1 => do
    if ← ends then return []
    let a ← p
    if ← ends then return [(a, [])]
    let s ← mark separator
    return (a, s) :: (← listFrom p separator ends fuel)

/-- Items with separators between them up to an end; a separator may stand last. -/
def list (p : Parse α) (separator : String) (ends : Parse Bool) : Parse (List (Entry α)) := do
  listFrom p separator ends ((← ahead).length + 1)

/-- Items for as long as separators stand between them, for as many items as `fuel` allows. -/
def chainFrom (p : Parse α) (separator : String) (ends : Parse Bool) :
    Nat → Parse (List (Entry α))
  | 0 => return []
  | fuel + 1 => do
    if ← ends then return []
    let a ← p
    if ← peekMark separator then
      let s ← mark separator
      return (a, s) :: (← chainFrom p separator ends fuel)
    else return [(a, [])]

/-- Items for as long as separators stand between them; none is read at an end. -/
def chain (p : Parse α) (separator : String) (ends : Parse Bool) : Parse (List (Entry α)) := do
  chainFrom p separator ends ((← ahead).length + 1)

def commaList (p : Parse α) : Parse (List (Entry α)) := list p "," atEnd

def commaTrees (p : Parse (List Tree)) : Parse (List Tree) := Entry.trees id <$> commaList p

/-- Reads `p` for as long as a test holds, for as many times as `fuel` allows. -/
def repeatedFrom (test : Parse Bool) (p : Parse (List α)) : Nat → Parse (List α)
  | 0 => return []
  | fuel + 1 => do
    if ← test then
      let first ← p
      return first ++ (← repeatedFrom test p fuel)
    else return []

/-- Reads `p` for as long as a test holds. -/
def repeated (test : Parse Bool) (p : Parse (List α)) : Parse (List α) := do
  repeatedFrom test p ((← ahead).length + 1)

def untilEnd (p : Parse (List Tree)) : Parse (List Tree) :=
  repeated (do return !(← atEnd)) p

def all (p : Parse α) (trees : List Tree) : Except GrammarFault α := do
  let (a, c) ← p.run ⟨trees, none⟩
  match c.leftover, c.rest with
  | some d, _ => throw (.leftover (some d))
  | none, [] => pure a
  | none, _ => throw (.leftover none)

end Parse

def comma : Tree := .mark ',' .alone

end StateMachine.Source
