import StateMachine.Text.Printable

/-!
# Quoted text

Characters between single quotes and strings between double quotes, with the quote, the backslash
and a few control characters escaped by name and every other hidden character by its code point.
-/

namespace StateMachine.Text

/-- The mark around a quoted text. -/
inductive Quote
  | single
  | double
  deriving DecidableEq

def Quote.mark : Quote → Char
  | .single => '\x27'
  | .double => '"'

/-- The code point in hexadecimal, without padding, between braces. -/
def escapeCode (c : Char) : List Char :=
  '\\' :: 'u' :: '\x7b' :: Nat.toDigits 16 c.toNat ++ ['\x7d']

/-- How one character is written between quotes. -/
def escape (q : Quote) (c : Char) : List Char :=
  if c = '\x00' then ['\\', '0']
  else if c = '\t' then ['\\', 't']
  else if c = '\n' then ['\\', 'n']
  else if c = '\r' then ['\\', 'r']
  else if c = '\\' then ['\\', '\\']
  else if c = q.mark then ['\\', c]
  else if isPrintable c then [c]
  else escapeCode c

/-- A list of characters between quotes. -/
def quote (q : Quote) (cs : List Char) : List Char :=
  q.mark :: cs.flatMap (escape q) ++ [q.mark]

def quoteString (s : String) : String := String.ofList (quote .double s.toList)

def quoteChar (c : Char) : String := String.ofList (quote .single [c])

end StateMachine.Text
