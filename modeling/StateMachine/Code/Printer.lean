import StateMachine.Code.Basic
import StateMachine.Declaration.Literal

/-!
# Text of code

Code is written as tokens with one space between them.
-/

namespace StateMachine

variable {k : Kind}

/-- Tokens with one space between them. -/
def words (ws : List String) : String := " ".intercalate (ws.filter (· ≠ ""))

def braced (ws : List String) : String := Source.Delimiter.brace.enclose (words ws)

def stateLiteral (i : StateId) : String := @Symbol.literal .u32 i

def hashLiteral (h : Int32) : String := @Symbol.literal .i32 h

/-- The text of the symbol being read. -/
def symbolText : String := ":: core :: convert :: AsRef :: < str > :: as_ref (token)"

/-- The hash of the symbol being read. -/
def symbolHash : String := ":: fsmgen :: TokenValue :: switch_hash (token)"

def Test.text : {k : Kind} → Test k → String
  | _, .hashIs hash => symbolHash ++ " == " ++ hashLiteral hash
  | _, .sameAs value => ":: fsmgen :: TokenValue :: same (token , & " ++ value.literal ++ ")"
  | _, .within start stop =>
    ":: fsmgen :: token :: within (token , & " ++ start.literal ++ " , & " ++ stop.literal ++ ")"
  | _, .textIs value => symbolText ++ " == " ++ @Symbol.literal .str value
  | _, .textWithin start stop =>
    braced ["let text = " ++ symbolText ++ " ;",
      "text >= " ++ @Symbol.literal .str start,
      "&& text <= " ++ @Symbol.literal .str stop]
  | _, .both first second => first.text ++ " && " ++ second.text

def Check.text (c : Check k) : String :=
  words ["if", c.test.text, braced ["return", stateLiteral c.target, ";"]]

def Arm.text : Arm k → String
  | .leave target => words ["return", stateLiteral target]
  | .test checks => braced (checks.map Check.text)

/-- The text of a pattern with its arm. -/
def armText (pattern : String) (body : String) : String := words [pattern, "=>", body, ","]

def Selection.text : Selection k → String
  | .byHash arms =>
    words ["match hash",
      braced (arms.map (fun a => armText (hashLiteral a.1) a.2.text) ++ ["_ =>", braced []])]
  | .byOffset origin arms =>
    words ["match hash . wrapping_sub (" ++ hashLiteral origin ++ ") as u32",
      braced (arms.map (fun a => armText (stateLiteral a.1) a.2.text) ++ ["_ =>", braced []])]

def Block.text : Block k → String
  | .constant target => stateLiteral target
  | .either test yes no =>
    words ["if", test.text, braced [stateLiteral yes], "else", braced [stateLiteral no]]
  | .select selection checks fallback =>
    braced (["let hash = " ++ symbolHash ++ " ;", selection.text] ++ checks.map Check.text ++
      [stateLiteral fallback])

def Code.text (c : Code k) : String :=
  words ["match state",
    braced (c.blocks.map (fun b => armText (stateLiteral b.1) b.2.text) ++
      [armText "_" (stateLiteral exitId)])]

end StateMachine
