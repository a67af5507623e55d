import StateMachine.Declaration.Assembly

/-!
# Gallery

Machines declared in source text, one for each way in which symbols are told apart.
-/

namespace StateMachine

structure Exhibit where
  name : String
  label : LabelType
  arguments : String
  /-- The transitions of its declaration, as source, target and guard. -/
  transitions : List (String × String × String)

namespace Exhibit

def attributeText (t : String × String × String) : String :=
  let (source, target, guard) := t
  let on := if guard = "" then "" else ", on = " ++ guard
  "#[transition(from = " ++ source ++ ", to = " ++ target ++ on ++ ")]"

def item (e : Exhibit) : String :=
  " ".intercalate (e.transitions.map attributeText ++ ["pub struct " ++ e.name ++ ";"])

def declaration (e : Exhibit) : Except Refusal Declaration :=
  Declaration.ofSource e.arguments e.item

end Exhibit

/-- Counts up to four. -/
def counter : Exhibit where
  name := "Counter"
  label := .i32
  arguments := "state = i32, token = i32, init = 0, exit = 99"
  transitions := [("0", "1", "1"), ("1", "2", "2"), ("2", "3", "3"), ("3", "4", "4")]

/-- Tells words from numbers. -/
def lexer : Exhibit where
  name := "Lexer"
  label := .i32
  arguments := "state = i32, token = char, init = 0, exit = 99"
  transitions :=
    [ ("0", "1", "\x27a\x27..=\x27z\x27"), ("0", "2", "\x270\x27..=\x279\x27"),
      ("0", "3", "[\x27x\x27, \x27_\x27]"), ("1", "1", "\x27a\x27..=\x27z\x27"),
      ("1", "2", "\x270\x27..=\x279\x27"), ("1", "4", "\x27 \x27"),
      ("2", "2", "\x270\x27..=\x279\x27"), ("2", "4", ""), ("3", "1", "\x27a\x27..=\x27z\x27"),
      ("4", "99", "\x27.\x27"), ("4", "1", "") ]

/-- Reads words some of which share a hash. -/
def wordReader : Exhibit where
  name := "Words"
  label := .str
  arguments := "state = &\x27static str, token = &str, init = \"start\", exit = \"stop\""
  transitions :=
    [ ("\"start\"", "\"upper\"", "\"Aa\""), ("\"start\"", "\"lower\"", "\"BB\""),
      ("\"upper\"", "\"lower\"", "[\"BB\", \"cc\"]"), ("\"upper\"", "\"upper\"", "\"d\"..=\"dz\""),
      ("\"lower\"", "\"upper\"", "\"Aa\""), ("\"lower\"", "\"stop\"", "") ]

/-- Reads integers that are wider than their hash. -/
def wide : Exhibit where
  name := "Wide"
  label := .i32
  arguments := "state = i32, token = i64, init = 0, exit = 9"
  transitions :=
    [ ("0", "1", "1"), ("0", "2", "4294967296"), ("0", "3", "-5..=-2"), ("1", "9", ""),
      ("2", "3", "-1"), ("3", "2", "") ]

/-- Tells odd from even digits, with dense switches. -/
def parity : Exhibit where
  name := "Parity"
  label := .i32
  arguments := "state = i32, token = u8, init = 0, exit = 9, strategy = \"dense\""
  transitions :=
    [ ("0", "1", "[1, 3, 5]"), ("0", "2", "[2, 4, 6]"), ("1", "2", "[2, 4, 6]"),
      ("2", "1", "[1, 3, 5]"), ("1", "9", "0") ]

/-- Tells numbers by their bits. -/
def floats : Exhibit where
  name := "Floats"
  label := .i32
  arguments := "state = i32, token = f64, init = 0, exit = 9"
  transitions :=
    [ ("0", "1", "0.0"), ("0", "2", "-0.0"), ("0", "4", "1.0"), ("0", "5", "5.299808824e-315"),
      ("0", "6", "2.5..=3.5"), ("1", "9", ""), ("2", "9", ""), ("4", "9", ""), ("5", "9", ""),
      ("6", "9", "") ]

/-- Goes back and forth. -/
def toggle : Exhibit where
  name := "Toggle"
  label := .i32
  arguments := "state = i32, token = bool, init = 0, exit = 9"
  transitions :=
    [ ("0", "1", "true"), ("0", "2", "false"), ("1", "1", "true"), ("1", "2", "false"),
      ("2", "1", "true"), ("2", "9", "false") ]

/-- Reads texts with sparse switches; two spellings stand for the same state. -/
def texts : Exhibit where
  name := "Texts"
  label := .i32
  arguments := "state = i32, token = String, init = 0, exit = 9, strategy = \"sparse\""
  transitions :=
    [ ("0", "1", "\"a\"..=\"m\""), ("0", "2", "[\"AaAa\", \"BBBB\", \"AaBB\", \"d\"]"),
      ("0", "3", ""), ("1", "2", "\"go\""), ("2", "1", "\"BBAa\""), ("3", "0x9", ""),
      ("0x9", "9", "") ]

def gallery : List Exhibit :=
  [counter, lexer, wordReader, wide, parity, floats, toggle, texts]

def Exhibit.find? (name : String) : Option Exhibit := gallery.find? (fun e => e.name = name)

end StateMachine
