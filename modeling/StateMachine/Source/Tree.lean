import StateMachine.Number.Shortest

/-!
# Token trees

Source text as a reader of declarations sees it: words, marks, literals and bracketed groups. A
mark remembers whether it stands directly before another one. `Tree.spell` writes trees with one
space between them, and none after a joint mark.
-/

namespace StateMachine.Source

/-- Whether a mark is followed directly by another mark. -/
inductive Spacing
  | alone
  | joint
  deriving DecidableEq

inductive Delimiter
  | paren
  | bracket
  | brace
  deriving DecidableEq

/-- What a literal stands for. -/
inductive LiteralValue
  | bool (value : Bool)
  | int (value : Nat) (suffix : String)
  | float (value : Decimal) (suffix : String)
  | char (value : Char)
  | str (value : String)
  | byte (value : UInt8)
  | byteString
  | cString
  /-- A literal that could not be read where it was first written. -/
  | unreadable

/-- A literal: its text, and what it stands for. -/
structure Literal where
  text : String
  value : LiteralValue

inductive Tree
  | word (text : String)
  | mark (char : Char) (spacing : Spacing)
  | literal (literal : Literal)
  | group (delimiter : Delimiter) (inner : List Tree)

namespace Delimiter

def opening : Delimiter → String
  | .paren => "("
  | .bracket => "["
  | .brace => "\x7b"

def closing : Delimiter → String
  | .paren => ")"
  | .bracket => "]"
  | .brace => "\x7d"

def name : Delimiter → String
  | .paren => "parentheses"
  | .bracket => "square brackets"
  | .brace => "curly braces"

/-- A text between brackets. Braces keep a space on either side, and one space if there is no
text. -/
def enclose (d : Delimiter) (text : String) : String :=
  match d with
  | .brace =>
    if text = "" then d.opening ++ " " ++ d.closing
    else d.opening ++ " " ++ text ++ " " ++ d.closing
  | _ => d.opening ++ text ++ d.closing

end Delimiter

/-- The suffix of a number; other literals have none. -/
def Literal.suffix (l : Literal) : String :=
  match l.value with
  | .int _ suffix => suffix
  | .float _ suffix => suffix
  | _ => ""

namespace Tree

/-- Whether the next tree follows without a space. -/
def isJoint : Tree → Bool
  | .mark _ .joint => true
  | _ => false

mutual

def text : Tree → String
  | .word text => text
  | .mark c _ => String.singleton c
  | .literal l => l.text
  | .group d inner => d.enclose (spell inner)

def spell : List Tree → String
  | [] => ""
  | t :: rest =>
    let tail := spell rest
    if rest.isEmpty || t.isJoint then text t ++ tail else text t ++ " " ++ tail

end

mutual

/-- The number of trees in a tree. -/
def size : Tree → Nat
  | .group _ inner => sizeList inner + 1
  | _ => 1

def sizeList : List Tree → Nat
  | [] => 0
  | t :: rest => size t + sizeList rest

end

end Tree

end StateMachine.Source
