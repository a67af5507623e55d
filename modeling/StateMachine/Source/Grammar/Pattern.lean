import StateMachine.Source.Grammar.Path

/-!
# Patterns

A pattern is a name, a literal, a range, a path with what is nested in it, or several patterns
between brackets. Where alternatives are allowed, vertical bars stand between them.
-/

namespace StateMachine.Source

open Parse

/-! ### Members -/

/-- The number of a field without a name, written in decimal without a suffix. -/
def fieldNumber : Parse (List Tree) := do
  let (negative, digits, suffix) ← literalOf .integerLiteral (fun
    | .int n suffix => some (n, suffix)
    | _ => none)
  if suffix ≠ "" then throw .suffixedField
  else
    match readInteger 0 4294967295 negative digits with
    | .error cause => throw (.fieldNumber cause)
    | .ok n => return [.literal ⟨toString n.toNat, .int n.toNat ""⟩]

def peekInteger : Parse Bool := do
  match takeSigned (← ahead) with
  | some ((_, ⟨_, .int _ _⟩), _) => return true
  | _ => return false

/-- The name of a field: an identifier or a number. The flag tells whether it is a number. -/
def member : Parse (Bool × List Tree) := do
  if ← peekIdentifier then return (false, ← name)
  else if ← peekInteger then return (true, ← fieldNumber)
  else expected [.identifierOrInteger]

/-! ### Alternatives -/

def peekBar : Parse Bool := peekMarkBut "|" ["||", "|="]

/-- Alternatives with vertical bars between them, behind what stands before the first. -/
def alternatives (r : Rules) (leading : List Tree) : Parse Pattern := do
  let first ← r.pattern
  let more ← repeated peekBar (do return (← mark "|") ++ (← r.pattern).trees)
  if leading.isEmpty && more.isEmpty then return first
  else return ⟨.other, leading ++ first.trees ++ more⟩

/-- A pattern with alternatives; a vertical bar may stand before the first of them. -/
def wholePattern (r : Rules) : Parse Pattern := do alternatives r (← optionalMark "|")

def wholePatternTrees (r : Rules) : Parse (List Tree) := Pattern.trees <$> wholePattern r

/-! ### Ranges -/

def endsPatternRange : Parse Bool := do
  return (← atEnd) || (← peekMark "|") || (← peekMark "=") || (← peekMarkBut ":" ["::"]) ||
    (← peekMark ",") || (← peekMark ";") || (← peekWord "if")

def patternBound (r : Rules) : Parse (List Tree) := do
  if ← peekLiteral then literal
  else if ← peekPathStart then Path.trees <$> qualifiedPath r true
  else if ← peekWord "const" then return (← word "const") ++ (← attributedBlock r)
  else expected [.literal, .identifier, .token "::", .token "<", .token "self", .token "Self",
    .token "super", .token "crate", .token "const"]

def rangeEnd (r : Rules) (closed : Bool) : Parse (List Tree) := do
  if ← endsPatternRange then
    if closed then expected [.rangeEnd] else return []
  else patternBound r

/-- The marks of a range: whether its end is included, and the trees. -/
def rangeMarks : Parse (Bool × List Tree) := do
  if ← peekMark "..=" then return (true, ← mark "..=")
  else if ← peekMark "..." then expected [.token "..="]
  else return (false, ← mark "..")

/-- The rest of a range behind its start. Three points are written as two with an equals sign. -/
def rangeBehind (r : Rules) (start : List Tree) : Parse Pattern := do
  let (closed, marks) ←
    if ← peekMark "..." then do
      let _ ← mark "..."
      pure (true, [Tree.mark '.' .joint, .mark '.' .joint, .mark '=' .alone])
    else rangeMarks
  let stop ← rangeEnd r closed
  return ⟨if stop.isEmpty then .openRange else .other, start ++ marks ++ stop⟩

/-- A range without a start, or two points for all that is not named. -/
def rangeWithoutStart (r : Rules) : Parse Pattern := do
  let (closed, marks) ← rangeMarks
  let stop ← rangeEnd r closed
  return ⟨if stop.isEmpty then .rest else .openRange, marks ++ stop⟩

/-- What a start may be the start of: a range, or a pattern of its own. -/
def rangeOrAlone (r : Rules) (start : List Tree) : Parse Pattern := do
  if ← peekMark ".." then rangeBehind r start else return ⟨.other, start⟩

/-! ### Records -/

/-- A field of a record: a name, which may be bound in some way, or a field with its pattern. -/
def fieldPattern (r : Rules) : Parse (List Tree) := do
  let before ← ahead
  let boxed ← optionalWord "box"
  let binding := (← optionalWord "ref") ++ (← optionalWord "mut")
  if boxed.isEmpty && binding.isEmpty then
    let (numbered, field) ← member
    if numbered || (← peekMark ":") then
      return field ++ (← mark ":") ++ (← wholePatternTrees r)
    else return field
  else
    let field ← name
    if boxed.isEmpty then return binding ++ field else since before

/-- The fields of a record, for as many as `fuel` allows. Two points for all others end them. -/
def fieldPatternsFrom (r : Rules) : Nat → Parse (List Tree)
  | 0 => return []
  | fuel + 1 => do
    if ← atEnd then return []
    let attrs ← attributeTrees r
    if ← peekMark ".." then return attrs ++ (← mark "..")
    else
      let field ← fieldPattern r
      if ← atEnd then return attrs ++ field
      else
        let c ← mark ","
        return attrs ++ field ++ c ++ (← fieldPatternsFrom r fuel)

def recordPattern (r : Rules) : Parse (List Tree) :=
  group .brace (do fieldPatternsFrom r ((← ahead).length + 1))

/-! ### The other patterns -/

/-- A pattern that starts with a path: a call of a macro, a record, a tuple, a range or the path
itself. -/
def pathPattern (r : Rules) : Parse Pattern := do
  let p ← qualifiedPath r true
  match ← macroCall? p with
  | some trees => return ⟨.other, trees⟩
  | none =>
    if ← peekGroup .brace then return ⟨.other, p.trees ++ (← recordPattern r)⟩
    else if ← peekGroup .paren then
      return ⟨.other, p.trees ++ (← group .paren (commaTrees (wholePatternTrees r)))⟩
    else rangeOrAlone r p.trees

/-- A name that is bound, with the pattern for its value if there is one. -/
def namePattern (r : Rules) : Parse Pattern := do
  let binding := (← optionalWord "ref") ++ (← optionalWord "mut")
  let bound ← nameOr ["self"]
  let value ← ifThen (peekMark "@") (do return (← mark "@") ++ (← r.pattern).trees)
  return ⟨.other, binding ++ bound ++ value⟩

def parenPattern (r : Rules) : Parse Pattern := do
  return ⟨.other, ← group .paren (commaTrees (wholePatternTrees r))⟩

/-- One item of a slice, which is no range that lacks an end. -/
def sliceItem (r : Rules) : Parse (List Tree) := do
  let p ← wholePattern r
  if p.kind = .openRange then throw .openRangeInSlice else return p.trees

/-- Whether a path is ahead that is more than a name. -/
def peekPathPattern : Parse Bool := do
  let follows : Parse Bool := do
    return (← peekMark "::") || (← peekMark "!") || (← peekGroup .brace) || (← peekGroup .paren) ||
      (← peekMark "..")
  return ((← peekIdentifier) && (← peekBehind 1 follows)) ||
    ((← peekWord "self") && (← peekBehind 1 (peekMark "::"))) || (← peekMark "::") ||
    (← peekMark "<") || (← peekOneOf ["Self", "super", "crate"])

/-- What a pattern can start with; two points are left out if three are there. -/
def patternStarts (points : Bool) : List Sought :=
  [.identifier, .token "::", .token "<", .token "_", .literal, .token "const", .token "ref",
    .token "mut", .token "&", .group .paren, .group .bracket] ++
    (if points then [] else [.token ".."]) ++ [.token "const"]

def patternRule (r : Rules) : Parse Pattern := do
  let before ← ahead
  if ← peekPathPattern then pathPattern r
  else if ← peekWord "_" then return ⟨.other, ← word "_"⟩
  else if ← peekWord "box" then
    let _ ← word "box"
    let _ ← r.pattern
    return ⟨.verbatim, ← since before⟩
  else if (← peekMark "-") || (← peekLiteral) || (← peekWord "const") then
    rangeOrAlone r (← patternBound r)
  else if (← peekOneOf ["ref", "mut", "self"]) || (← peekIdentifier) then namePattern r
  else if ← peekMark "&" then
    return ⟨.other, (← mark "&") ++ (← optionalWord "mut") ++ (← r.pattern).trees⟩
  else if ← peekGroup .paren then parenPattern r
  else if ← peekGroup .bracket then
    return ⟨.other, ← group .bracket (commaTrees (sliceItem r))⟩
  else if ← peekMarkBut ".." ["..."] then rangeWithoutStart r
  else expected (patternStarts (← peekMark ".."))

end StateMachine.Source
