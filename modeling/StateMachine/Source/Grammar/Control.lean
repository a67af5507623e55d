import StateMachine.Source.Grammar.Pattern

/-!
# Conditions, loops and matches

Expressions that start with a word of their own and end in a block. Their conditions cannot be
records, since the brace behind a name opens the block.
-/

namespace StateMachine.Source

open Parse

/-! ### Conditions -/

/-- A condition with its branches, for as many branches as `fuel` allows. -/
def conditionalFrom (r : Rules) : Nat → Parse (List Tree)
  | 0 => expected [.token "if"]
  | fuel + 1 => do
    let first := (← word "if") ++ (← r.expr false).trees ++ (← block r)
    if ← peekWord "else" then
      let other ← word "else"
      if ← peekWord "if" then return first ++ other ++ (← conditionalFrom r fuel)
      else if ← peekGroup .brace then return first ++ other ++ (← block r)
      else expected [.token "if", .group .brace]
    else return first

def conditional (r : Rules) : Parse Expr := do
  return .other .conditional (← conditionalFrom r ((← ahead).length + 1))

/-! ### Loops -/

def whileLoop (r : Rules) (label : List Tree) : Parse Expr := do
  let opening ← word "while"
  let test ← r.expr false
  return .other .whileLoop (label ++ opening ++ test.trees ++ (← attributedBlock r))

def forLoop (r : Rules) (label : List Tree) : Parse Expr := do
  let opening := (← word "for") ++ (← wholePatternTrees r) ++ (← word "in")
  let values ← r.expr false
  return .other .forLoop (label ++ opening ++ values.trees ++ (← attributedBlock r))

def endlessLoop (r : Rules) (label : List Tree) : Parse Expr := do
  return .other .endlessLoop (label ++ (← word "loop") ++ (← attributedBlock r))

def blockExpr (r : Rules) (label : List Tree) : Parse Expr := do
  return .other .block (label ++ (← attributedBlock r))

/-- A loop or a block behind a label. -/
def labelled (r : Rules) : Parse Expr := do
  let label := (← lifetime) ++ (← mark ":")
  if ← peekWord "while" then whileLoop r label
  else if ← peekWord "for" then forLoop r label
  else if ← peekWord "loop" then endlessLoop r label
  else if ← peekGroup .brace then blockExpr r label
  else expected [.loopOrBlock]

/-! ### Matches -/

/-- One arm of a match. Only behind a block may the comma be missing before another arm. -/
def arm (r : Rules) : Parse (List Tree) := do
  let pattern := (← attributeTrees r) ++ (← wholePatternTrees r)
  let guard ← ifThen (peekWord "if") (do return (← word "if") ++ (← r.exprTrees))
  let arrow ← mark "=>"
  let body ← r.leading
  let c ← if body.needsComma && !(← atEnd) then mark "," else optionalMark ","
  return pattern ++ guard ++ arrow ++ body.trees ++ c

def matching (r : Rules) : Parse Expr := do
  let opening ← word "match"
  let subject ← r.expr false
  let arms ← group .brace (do return (← innerAttributeTrees r) ++ (← untilEnd (arm r)))
  return .other .matching (opening ++ subject.trees ++ arms)

/-! ### Blocks with a word -/

/-- A block behind a word. -/
def wordBlock (text : String) (form : Form) (block : Parse (List Tree)) : Parse Expr := do
  return .other form ((← word text) ++ (← block))

def peekWordBlock (text : String) : Parse Bool := do
  return (← peekWord text) && (← peekBehind 1 (peekGroup .brace))

/-- An expression that ends in a block, if one is ahead. Behind the word that a loop over values
starts with there may be parameters instead. -/
def control? (r : Rules) (parameters : Parse Bool) : Parse (Option Expr) := do
  if ← peekWord "if" then some <$> conditional r
  else if ← peekWord "while" then some <$> whileLoop r []
  else if (← peekWord "for") && !(← peekBehind 1 parameters) then some <$> forLoop r []
  else if ← peekWord "loop" then some <$> endlessLoop r []
  else if ← peekWord "match" then some <$> matching r
  else if ← peekWordBlock "try" then some <$> wordBlock "try" .tryBlock (block r)
  else if ← peekWord "unsafe" then some <$> wordBlock "unsafe" .unsafeBlock (attributedBlock r)
  else if ← peekWordBlock "const" then some <$> wordBlock "const" .constBlock (attributedBlock r)
  else if ← peekGroup .brace then some <$> blockExpr r []
  else if ← peekLifetime then some <$> labelled r
  else return none

end StateMachine.Source
