/-!
# Digests

A fast digest of words, with no strength against collisions. Words are added one after another, and
each sum is multiplied by a constant. Bytes are brought down to one word first: a pair of words
takes in sixteen bytes at a time, then both ends of what is left, and is multiplied together.
-/

namespace StateMachine.Digest

def add (hash word : UInt64) : UInt64 := (hash + word) * 0xf1357aea2e62a9c5

/-- The digest of words. The high bits of a product are the better ones, so they are rotated to the
low end. -/
def ofWords (words : List UInt64) : UInt64 :=
  let hash := words.foldl add 0
  hash <<< 26 ||| hash >>> 38

/-- The two halves of a product, laid over each other. -/
def mix (x y : UInt64) : UInt64 :=
  let product := x.toNat * y.toNat
  .ofNat product ^^^ .ofNat (product / UInt64.size)

/-- The lowest bytes of a word, from the low end. -/
def bytes (width : Nat) (word : UInt64) : List UInt8 :=
  (List.range width).map fun i => (word >>> (8 * .ofNat i)).toUInt8

def word (bs : List UInt8) : UInt64 := bs.foldr (fun b w => w <<< 8 ||| b.toUInt64) 0

/-- Takes blocks of sixteen bytes into a pair of words. -/
def absorb : Nat → List UInt8 → UInt64 × UInt64 → UInt64 × UInt64
  | 0, _, pair => pair
  | n + 1, bs, (a, b) =>
    absorb n (bs.drop 16)
      (b, mix (a ^^^ word (bs.take 8)) (0xa4093822299f31d0 ^^^ word ((bs.drop 8).take 8)))

/-- The words at both ends of the last sixteen bytes. They overlap if there are fewer. -/
def ends (bs : List UInt8) : UInt64 × UInt64 :=
  let n := bs.length
  if 8 ≤ n then (word ((bs.drop (n - 16)).take 8), word (bs.drop (n - 8)))
  else if 4 ≤ n then (word (bs.take 4), word (bs.drop (n - 4)))
  else (word (bs.take 1), word [bs.getD (n / 2) 0, bs.getD (n - 1) 0])

/-- One word for bytes. Blocks that are not among the last sixteen bytes are taken in first. -/
def ofBytes (bs : List UInt8) : UInt64 :=
  let n := bs.length
  let (a, b) := absorb ((n - 1) / 16) bs (0x243f6a8885a308d3, 0x13198a2e03707344)
  let (x, y) := ends bs
  mix (a ^^^ x) (b ^^^ y) ^^^ .ofNat n

/-- The words of a text. The second one marks its end. -/
def text (s : String) : List UInt64 := [ofBytes s.toUTF8.data.toList, 0xff]

end StateMachine.Digest
