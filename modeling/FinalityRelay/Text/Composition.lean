import FinalityRelay.Text.CombiningClass
import FinalityRelay.Text.Composition.Pairs

/-! Texts in their composed form: a character and its marks are taken apart, the marks put in the order
of their classes, and what can be joined is joined again. -/

namespace FinalityRelay.Text

structure Composite where
  whole : Nat
  base : Nat
  part : Nat

def composites : List Composite :=
  (RangeTable.words compositionPairs).map fun w =>
    let parts := (w.dropWhile (· != '=')).drop 1
    ⟨RangeTable.number (w.takeWhile (· != '=')), RangeTable.number (parts.takeWhile (· != '+')),
      RangeTable.number ((parts.dropWhile (· != '+')).drop 1)⟩

def pairKey (base part : Nat) : Nat := base * 0x110000 + part

def wholeTable : RangeTable Composite := .ofRows (composites.map fun c => ⟨c.whole, c.whole, c⟩)

def pairTable : RangeTable Nat :=
  .ofRows (composites.map fun c => ⟨pairKey c.base c.part, pairKey c.base c.part, c.whole⟩)

/-! The syllables of Hangul are laid out by rule: 19 initials, 21 vowels, and 27 finals or none. -/

def firstSyllable : Nat := 0xAC00

def firstInitial : Nat := 0x1100

def firstVowel : Nat := 0x1161

/-- The place of the final that is none. -/
def noFinal : Nat := 0x11A7

def isSyllable (n : Nat) : Bool := firstSyllable ≤ n && n < firstSyllable + 19 * 21 * 28

def takeSyllableApart (n : Nat) : List Nat :=
  let i := n - firstSyllable
  let ending := if i % 28 = 0 then [] else [noFinal + i % 28]
  (firstInitial + i / 588) :: (firstVowel + i % 588 / 28) :: ending

def joinSyllable? (a b : Nat) : Option Nat :=
  if firstInitial ≤ a ∧ a < firstInitial + 19 ∧ firstVowel ≤ b ∧ b < firstVowel + 21 then
    some (firstSyllable + ((a - firstInitial) * 21 + (b - firstVowel)) * 28)
  else if isSyllable a ∧ (a - firstSyllable) % 28 = 0 ∧ noFinal < b ∧ b < noFinal + 28 then
    some (a + (b - noFinal))
  else none

def join? (a b : Nat) : Option Nat := (joinSyllable? a b).or (pairTable.value? (pairKey a b))

/-- Takes the base of a character apart up to `depth` times. -/
def takeBaseApart : Nat → Nat → List Nat → List Nat
  | 0, n, parts => n :: parts
  | depth + 1, n, parts =>
    match wholeTable.value? n with
    | some c => takeBaseApart depth c.base (c.part :: parts)
    | none => n :: parts

/-- The parts of a character. A base is itself made of parts at most twice. -/
def takeApart (n : Nat) : List Nat :=
  if isSyllable n then takeSyllableApart n else takeBaseApart 3 n []

/-- Puts a character in front, behind the marks of lower classes. -/
def insertMark (n : Nat) : List Nat → List Nat
  | [] => [n]
  | m :: ms =>
    if combiningClass m < combiningClass n ∧ combiningClass m ≠ 0 then m :: insertMark n ms
    else n :: m :: ms

/-- Puts marks next to each other in the order of their classes; those of one class stay as they are. -/
def orderMarks (ns : List Nat) : List Nat := ns.foldr insertMark []

/-- Joins a base with the marks that follow it, unless one of the same or a higher class stands between
them. `between` are the marks that stay, last one first. -/
def joinFrom (base : Nat) (between : List Nat) : List Nat → List Nat
  | [] => base :: between.reverse
  | n :: ns =>
    let free := between.head?.all fun m => combiningClass m < combiningClass n
    match if free then join? base n else none with
    | some whole => joinFrom whole between ns
    | none =>
      if combiningClass n = 0 then base :: (between.reverse ++ joinFrom n [] ns)
      else joinFrom base (n :: between) ns

def joinAll : List Nat → List Nat
  | [] => []
  | n :: ns => joinFrom n [] ns

def composed (cs : List Char) : List Char :=
  (joinAll (orderMarks (cs.flatMap fun c => takeApart c.toNat))).map Char.ofNat

end FinalityRelay.Text
