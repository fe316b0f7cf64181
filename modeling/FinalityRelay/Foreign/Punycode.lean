/-! Labels of a domain name beyond ASCII: their ASCII characters, then the others as differences in
base 36 with a bias that adapts to the differences before. -/

namespace FinalityRelay.Punycode

def digitChar (n : Nat) : Char := if n < 26 then Char.ofNat (97 + n) else Char.ofNat (22 + n)

def digit? (c : Char) : Option Nat :=
  if 'a' ≤ c ∧ c ≤ 'z' then some (c.toNat - 97)
  else if 'A' ≤ c ∧ c ≤ 'Z' then some (c.toNat - 65)
  else if '0' ≤ c ∧ c ≤ '9' then some (c.toNat - 22)
  else none

/-- The least digit that does not end a number at place `k`, between 1 and 26. -/
def threshold (k bias : Nat) : Nat := max 1 (min 26 (k - bias))

def adaptFrom (k delta : Nat) : Nat :=
  if 455 < delta then adaptFrom (k + 36) (delta / 35) else k + 36 * delta / (delta + 38)
termination_by delta
decreasing_by omega

/-- The bias after a difference, which is the first one or not. -/
def adapt (delta points : Nat) (first : Bool) : Nat :=
  let delta := if first then delta / 700 else delta / 2
  adaptFrom 0 (delta + delta / points)

def writeNumber (bias k n : Nat) : List Char :=
  let t := threshold k bias
  if n < t then [digitChar n]
  else digitChar (t + (n - t) % (36 - t)) :: writeNumber bias (k + 36) ((n - t) / (36 - t))
termination_by n
decreasing_by
  have : 1 ≤ threshold k bias := by simp only [threshold]; omega
  exact Nat.lt_of_le_of_lt (Nat.div_le_self _ _) (by omega)

/-- An encoding in progress: what is written, the difference so far, the bias, and how many
characters are placed. -/
structure Progress where
  out : List Char
  delta : Nat
  bias : Nat
  placed : Nat

/-- Goes over the label once and places the characters with the number `m`. -/
def place (basic m : Nat) (p : Progress) (c : Char) : Progress :=
  if c.toNat < m then { p with delta := p.delta + 1 }
  else if c.toNat = m then
    ⟨p.out ++ writeNumber p.bias 36 p.delta, 0, adapt p.delta (p.placed + 1) (p.placed = basic),
      p.placed + 1⟩
  else p

def placeAll (label : List Char) (basic : Nat) : Nat → List Nat → Progress → Progress
  | _, [], p => p
  | n, m :: ms, p =>
    let p := { p with delta := p.delta + (m - n) * (p.placed + 1) }
    let p := label.foldl (place basic m) p
    placeAll label basic (m + 1) ms { p with delta := p.delta + 1 }

def encode (label : List Char) : List Char :=
  let basic := label.filter (·.toNat < 128)
  let others := ((label.filter (128 ≤ ·.toNat)).map Char.toNat).mergeSort.eraseDups
  let p := placeAll label basic.length 128 others ⟨[], 0, 72, basic.length⟩
  basic ++ (if basic.isEmpty then [] else ['-']) ++ p.out

/-- Reads a number and gives the characters after it. -/
def readNumber (bias : Nat) : Nat → Nat → Nat → List Char → Option (Nat × List Char)
  | _, _, _, [] => none
  | k, weight, n, c :: r => do
    let d ← digit? c
    let n := n + d * weight
    let t := threshold k bias
    if d < t then return (n, r) else readNumber bias (k + 36) (weight * (36 - t)) n r

/-- Inserts characters, at most one for each character of the input: each number tells the place and
the next greater code point. -/
def decodeFrom : Nat → List Char → Nat → Nat → Nat → List Char → Option (List Char)
  | _, out, _, _, _, [] => some out
  | 0, _, _, _, _, _ :: _ => none
  | fuel + 1, out, n, i, bias, c :: cs => do
    let (delta, rest) ← readNumber bias 36 1 0 (c :: cs)
    let length := out.length + 1
    let n := n + (i + delta) / length
    let slot := (i + delta) % length
    if ¬n.isValidChar then none
    else
      decodeFrom fuel (out.take slot ++ Char.ofNat n :: out.drop slot) n (slot + 1)
        (adapt delta length (i = 0)) rest

def decode (label : List Char) : Option (List Char) :=
  let tail := (label.reverse.takeWhile (· != '-')).reverse
  let basic := label.take (label.length - tail.length - 1)
  decodeFrom tail.length basic 128 0 72 tail

end FinalityRelay.Punycode
