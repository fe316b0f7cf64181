import FinalityRelay.Settings.Basic
import FinalityRelay.Text.Blank

/-! Spans of time as text: `0`, or numbers each with a unit after it, such as `1h 30min` and `1.5s`.
White space may stand anywhere but inside a unit, and every amount has to come out exact. -/

namespace FinalityRelay.Span

def isDigit (c : Char) : Bool := '0' ≤ c && c ≤ '9'

def isUnitChar (c : Char) : Bool :=
  ('a' ≤ c && c ≤ 'z') || ('A' ≤ c && c ≤ 'Z') || c = 'µ'

/-- What may stand in a number: digits, and blanks that mean nothing. -/
def isNumberChar (c : Char) : Bool := isDigit c || Text.isBlank c

structure Term where
  whole : List Char
  fraction : Option (List Char)
  unit : List Char

def splitFraction : List Char → Option (List Char) × List Char
  | '.' :: r => (some ((r.takeWhile isNumberChar).filter isDigit), r.dropWhile isNumberChar)
  | cs => (none, cs)

theorem length_splitFraction (cs : List Char) : (splitFraction cs).2.length ≤ cs.length := by
  unfold splitFraction
  split
  · exact Nat.le_succ_of_le (List.dropWhile_suffix _).length_le
  · exact Nat.le_refl _

/-- The terms of a text. After a unit has to come a blank, a digit or the end. -/
def terms (cs : List Char) : Option (List Term) :=
  match _h : cs.dropWhile Text.isBlank with
  | [] => some []
  | c :: r =>
    if isDigit c then
      let tail := splitFraction (r.dropWhile isNumberChar)
      let next := tail.2.dropWhile isUnitChar
      if next.head?.all isNumberChar then do
        let ts ← terms next
        return ⟨c :: (r.takeWhile isNumberChar).filter isDigit, tail.1, tail.2.takeWhile isUnitChar⟩ :: ts
      else none
    else none
termination_by cs.length
decreasing_by
  have h1 : (c :: r).length ≤ cs.length := _h ▸ (List.dropWhile_suffix _).length_le
  have h2 := length_splitFraction (r.dropWhile isNumberChar)
  have h3 : (r.dropWhile isNumberChar).length ≤ r.length := (List.dropWhile_suffix _).length_le
  exact Nat.lt_of_le_of_lt (Nat.le_trans (List.dropWhile_suffix _).length_le (Nat.le_trans h2 h3)) h1

/-- A unit as a number of seconds or of nanoseconds. Fractions are taken of seconds from the hour on
and of nanoseconds below it. -/
inductive TimeUnit
  | nanosecond
  | fine (perUnit : Nat)
  | second
  | minute
  | coarse (perUnit : Nat)

def TimeUnit.ofText? (cs : List Char) : Option TimeUnit :=
  match String.ofList cs with
  | "nanos" | "nsec" | "ns" => some .nanosecond
  | "usec" | "us" | "µs" => some (.fine 1000)
  | "millis" | "msec" | "ms" => some (.fine 1000000)
  | "seconds" | "second" | "secs" | "sec" | "s" => some .second
  | "minutes" | "minute" | "min" | "mins" | "m" => some .minute
  | "hours" | "hour" | "hr" | "hrs" | "h" => some (.coarse 3600)
  | "days" | "day" | "d" => some (.coarse 86400)
  | "weeks" | "week" | "wk" | "wks" | "w" => some (.coarse 604800)
  | "months" | "month" | "M" => some (.coarse 2630016)
  | "years" | "year" | "yr" | "yrs" | "y" => some (.coarse 31557600)
  | _ => none

/-- The seconds and nanoseconds of a whole number of units. -/
def TimeUnit.whole (n : Nat) : TimeUnit → Nat × Nat
  | .nanosecond => (0, n)
  | .fine k => (0, n * k)
  | .second => (n, 0)
  | .minute => (n * 60, 0)
  | .coarse k => (n * k, 0)

/-- What one unit is for its fractions: a number of seconds, and one of nanoseconds. -/
def TimeUnit.parts? : TimeUnit → Option (Nat × Nat)
  | .nanosecond => none
  | .fine k => some (0, k)
  | .second => some (0, 1000000000)
  | .minute => some (0, 60000000000)
  | .coarse k => some (k, 0)

/-- A number of at most 64 bits. -/
def word? (n : Nat) : Option Nat := if n < UInt64.size then some n else none

def exactly? (n d : Nat) : Option Nat := do
  let n ← word? n
  if n % d = 0 then return n / d else none

def TimeUnit.part? (digits : List Char) (u : TimeUnit) : Option (Nat × Nat) := do
  if digits = [] then none
  let d ← word? (Nat.pow 10 digits.length)
  let n ← word? (Nat.ofDigitChars 10 digits 0)
  let (s, ns) ← u.parts?
  return (← exactly? (n * s) d, ← exactly? (n * ns) d)

/-- Adds seconds and nanoseconds to a sum of them, whose nanoseconds are less than a second. -/
def add? (sum : Nat × Nat) (seconds nanoseconds : Nat) : Option (Nat × Nat) := do
  let s ← word? seconds
  let ns ← word? (sum.2 + (← word? nanoseconds))
  return (← word? (sum.1 + s + ns / 1000000000), ns % 1000000000)

def addTerm? (sum : Nat × Nat) (t : Term) : Option (Nat × Nat) := do
  let n ← word? (Nat.ofDigitChars 10 t.whole 0)
  let u ← TimeUnit.ofText? t.unit
  let sum ← add? sum (u.whole n).1 (u.whole n).2
  match t.fraction with
  | none => return sum
  | some digits =>
    let (s, ns) ← u.part? digits
    add? sum s ns

def parse? (s : String) : Option Span :=
  if s = "0" then some ⟨0, 0⟩
  else do
    let ts ← terms s.toList
    if ts.isEmpty then none
    let (seconds, nanoseconds) ← ts.foldlM addTerm? (0, 0)
    return ⟨UInt64.ofNat seconds, UInt32.ofNat nanoseconds⟩

end FinalityRelay.Span
