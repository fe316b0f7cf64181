/-! JSON values as they stand in a text: numbers keep their digits, members their order and
repetition. A text is `none` where its escapes leave a surrogate without its partner. -/

namespace FinalityRelay

structure Number where
  negative : Bool
  whole : Nat
  fraction : List Char
  exponent : Option Int
deriving DecidableEq

inductive Json
  | null
  | bool (b : Bool)
  | number (n : Number)
  | text (s : Option String)
  | list (items : List Json)
  | object (members : List (Option String × Json))

namespace Number

def ofNat (n : Nat) : Number := ⟨false, n, [], none⟩

def ofInt (i : Int) : Number := ⟨i < 0, i.natAbs, [], none⟩

/-- The integer that a number without fraction and exponent denotes; minus zero is not one. -/
def int? (n : Number) : Option Int :=
  if n.fraction = [] ∧ n.exponent = none ∧ ¬(n.negative ∧ n.whole = 0) then
    some (if n.negative then -(n.whole : Int) else n.whole)
  else none

def isDigit (c : Char) : Bool := '0' ≤ c && c ≤ '9'

def ofDigits (cs : List Char) : Nat := Nat.ofDigitChars 10 cs 0

/-- A whole part, which starts with a zero only when it is the zero. -/
def readWhole (cs : List Char) : Option (Nat × List Char) :=
  match cs.takeWhile isDigit with
  | [] => none
  | d :: ds => if d = '0' ∧ ds ≠ [] then none else some (ofDigits (d :: ds), cs.dropWhile isDigit)

def readFraction : List Char → Option (List Char × List Char)
  | '.' :: r => if r.takeWhile isDigit = [] then none else some (r.takeWhile isDigit, r.dropWhile isDigit)
  | cs => some ([], cs)

def readSign : List Char → Bool × List Char
  | '-' :: r => (true, r)
  | '+' :: r => (false, r)
  | cs => (false, cs)

def readExponent : List Char → Option (Option Int)
  | [] => some none
  | c :: r =>
    let (negative, ds) := readSign r
    if (c = 'e' ∨ c = 'E') ∧ ds ≠ [] ∧ ds.all isDigit then
      some (some (if negative then -(ofDigits ds : Int) else ofDigits ds))
    else none

def read? (cs : List Char) : Option Number := do
  let (negative, cs) := match cs with
    | '-' :: r => (true, r)
    | cs => (false, cs)
  let (whole, cs) ← readWhole cs
  let (fraction, cs) ← readFraction cs
  let exponent ← readExponent cs
  return ⟨negative, whole, fraction, exponent⟩

/-- An exponent has a sign, always. -/
def writeExponent : Option Int → List Char
  | none => []
  | some (.ofNat n) => 'e' :: '+' :: Nat.toDigits 10 n
  | some (.negSucc n) => 'e' :: '-' :: Nat.toDigits 10 (n + 1)

def write (n : Number) : List Char :=
  (if n.negative then ['-'] else []) ++ Nat.toDigits 10 n.whole ++
    (if n.fraction = [] then [] else '.' :: n.fraction) ++ writeExponent n.exponent

end Number

namespace Json

def ofNat (n : Nat) : Json := .number (.ofNat n)

def ofInt (i : Int) : Json := .number (.ofInt i)

def ofString (s : String) : Json := .text (some s)

def record (members : List (String × Json)) : Json :=
  .object (members.map fun m => (some m.1, m.2))

def nat? : Json → Option Nat
  | .number n => n.int?.bind Int.toNat?
  | _ => none

def int? : Json → Option Int
  | .number n => n.int?
  | _ => none

def string? : Json → Option String
  | .text s => s
  | _ => none

/-- The values under a key, in order. -/
def membersOf (key : String) (members : List (Option String × Json)) : List Json :=
  (members.filter fun m => m.1 = some key).map Prod.snd

end Json

end FinalityRelay
