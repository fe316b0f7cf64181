import FinalityRelay.Foreign.Punycode
import FinalityRelay.Text.Composition
import FinalityRelay.Text.Direction
import FinalityRelay.Text.Folding
import FinalityRelay.Text.Joining

/-! Domain names in their ASCII form: folded and composed, labels beyond ASCII in their coded form. A
label that is coded already has to be one that coding gives. -/

namespace FinalityRelay.Domain

open Text

/-- Characters of ASCII that no name may hold: controls, the space, and those that have a meaning in
addresses. -/
def isReserved (c : Char) : Bool :=
  c.toNat ≤ 0x20 || c.toNat = 0x7F || "%#/:<>?@[\\]^|".toList.contains c

def isAscii (cs : List Char) : Bool := cs.all (·.toNat < 128)

def labels (name : List Char) : List (List Char) := name.splitOn '.'

/-- How long a label beyond ASCII may be, and how long its coded form. -/
def longestLabel : Nat := 1000

def longestCode : Nat := 2000

/-- What a label says: a coded one is decoded. -/
def decoded? (label : List Char) : Option (List Char) :=
  match label with
  | 'x' :: 'n' :: '-' :: '-' :: code =>
    if longestCode < code.length ∨ ¬isAscii code then none
    else
      (Punycode.decode code).filter fun l =>
        !isAscii l && isFolded l && composed l = l && Punycode.encode l = code
  | _ => some label

def encoded (label : List Char) : List Char :=
  if isAscii label then label else "xn--".toList ++ Punycode.encode label

/-- Whether the characters that bind or part others stand where they may: after a sign that takes the
vowel off a consonant, or, to part them, between letters that would join. `before` are the characters
in front, last one first. -/
def bindersFit (before : List Char) : List Char → Bool
  | [] => true
  | c :: cs =>
    let afterVirama := before.head?.any fun b => combiningClass b.toNat = virama
    let fits :=
      if c = '\u200c' then
        afterVirama || (joinsFirst [.left, .dual] before && joinsFirst [.right, .dual] cs)
      else c != '\u200d' || afterVirama
    fits && bindersFit (c :: before) cs

/-- A label does not begin with a mark. -/
def isSound (label : List Char) : Bool :=
  !label.head?.any isMark && bindersFit [] label &&
    (isAscii label || label.length ≤ longestLabel)

def directions (label : List Char) : List Direction := label.map Direction.ofChar

/-- Once a name holds characters written from right to left, each label keeps to one direction. -/
def directionsAgree (ls : List (List Char)) : Bool :=
  !(ls.any fun l => (directions l).any (·.isRightward)) || ls.all fun l => Direction.agree (directions l)

def toAscii? (cs : List Char) : Option (List Char) := do
  let name := composed (← fold? cs)
  if name.any isReserved then none
  else
    let ls ← (labels name).mapM decoded?
    if ls.all isSound && directionsAgree ls then
      return List.intercalate ['.'] (ls.map encoded)
    else none

end FinalityRelay.Domain
