import StateMachine.Number.Format

/-!
# Similarity of words

The Jaro–Winkler similarity of two words, and the most similar word of a list. Two characters
match if they are equal and not too far apart, and each character matches at most once; matching
characters that come in another order count half, and a common beginning brings words that are
similar already closer together.

Similarities are computed in double precision: every step is exact up to the rounding of its
result. This decides about words whose similarity lies at a threshold.
-/

namespace StateMachine.Text

/-- A fraction that is not negative; the denominator is not zero. -/
structure Ratio where
  num : Nat
  den : Nat

namespace Ratio

def below (a b : Ratio) : Bool := a.num * b.den < b.num * a.den

def rounded (a : Ratio) : Ratio :=
  let bits := Format.binary64.round a.num a.den
  let e := Format.binary64.exponent bits
  ⟨Format.binary64.significand bits * Nat.pow 2 e.toNat, Nat.pow 2 (-e).toNat⟩

def plus (a b : Ratio) : Ratio := rounded ⟨a.num * b.den + b.num * a.den, a.den * b.den⟩

def times (a b : Ratio) : Ratio := rounded ⟨a.num * b.num, a.den * b.den⟩

/-- The rounded distance to one, zero for a fraction that is not smaller than one. -/
def complement (a : Ratio) : Ratio := rounded ⟨a.den - a.num, a.den⟩

end Ratio

/-- The double-precision number nearest to a quotient. -/
def share (m n : Nat) : Ratio := Ratio.rounded ⟨m, n⟩

/-- The first unmatched place within a distance of `i` that holds the character, if there is
one. Places are given with their index, their character and whether they are matched. -/
def matchPlace? (range i : Nat) (c : Char) (places : List (Nat × Char × Bool)) : Option Nat :=
  (places.find? (fun p => i ≤ p.1 + range && p.1 ≤ i + range && p.2.1 == c && !p.2.2)).map Prod.fst

/-- The characters of `a` that match, in order, and the places of `b` with their matches. -/
def matchAll (range : Nat) : List (Nat × Char) → List (Nat × Char × Bool) →
    List Char × List (Nat × Char × Bool)
  | [], places => ([], places)
  | (i, c) :: rest, places =>
    match matchPlace? range i c places with
    | some j =>
      let marked := places.map (fun p => if p.1 = j then (p.1, p.2.1, true) else p)
      let (found, final) := matchAll range rest marked
      (c :: found, final)
    | none => matchAll range rest places

/-- The Jaro similarity: the mean of the share of matching characters in either word, and of the
share of those that are in order. -/
def jaro (a b : List Char) : Ratio :=
  if a.isEmpty && b.isEmpty then ⟨1, 1⟩
  else
    let range := max a.length b.length / 2 - 1
    let (inA, places) := matchAll range (a.zipIdx.map (fun p => (p.2, p.1)))
      (b.zipIdx.map (fun p => (p.2, p.1, false)))
    let inB := (places.filter (·.2.2)).map (·.2.1)
    let m := inA.length
    let swapped := ((inA.zip inB).filter (fun p => p.1 ≠ p.2)).length / 2
    if m = 0 then ⟨0, 1⟩
    else
      let sum := ((share m a.length).plus (share m b.length)).plus (share (m - swapped) m)
      Ratio.rounded ⟨sum.num, 3 * sum.den⟩

/-- The number of characters at the beginning that two words have in common, up to four. -/
def commonStart (a b : List Char) : Nat :=
  (((a.zip b).take 4).takeWhile (fun p => p.1 = p.2)).length

/-- The Jaro–Winkler similarity: a common beginning takes a tenth of the remaining distance for
each character, if the words are similar by more than seven tenths. -/
def jaroWinkler (a b : List Char) : Ratio :=
  let s := jaro a b
  if (share 7 10).below s then
    s.plus (((share 1 10).times ⟨commonStart a b, 1⟩).times s.complement)
  else s

/-- The word of a list that is most similar to a given one, by more than four fifths; the first of
equally similar ones. -/
def mostSimilar? (word : String) (candidates : List String) : Option String :=
  let best := candidates.foldl (fun (best : Option (Ratio × String)) c =>
    let s := jaroWinkler word.toList c.toList
    let better := best.all (fun b => b.1.below s)
    if (share 4 5).below s && better then some (s, c) else best) none
  best.map Prod.snd

end StateMachine.Text
