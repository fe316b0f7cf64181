import FinalityRelay.Json.Basic

/-! JSON numbers as double-precision numbers, and back to the fewest digits that read as the same
double. Reading keeps as many digits as fit 64 bits and scales by one power of ten. -/

namespace FinalityRelay

namespace Number

/-- Appends digits to a number as long as it fits 64 bits, and gives the digits left over. -/
def absorb : Nat → List Char → Nat × List Char
  | s, [] => (s, [])
  | s, c :: r =>
    let t := 10 * s + (c.toNat - 48)
    if t < UInt64.size then absorb t r else (s, c :: r)

def powerOfTen (k : Nat) : Float := Float.ofScientific 1 false k

/-- Divides by `10 ^ k`, by at most `10 ^ 308` at a time. -/
def shrink (f : Float) (k : Nat) : Float :=
  if k ≤ 308 then f / powerOfTen k
  else if f == 0 then f
  else shrink (f / powerOfTen 308) (k - 308)
termination_by k
decreasing_by omega

def scale? (f : Float) : Int → Option Float
  | .ofNat k =>
    if k ≤ 308 then
      let g := f * powerOfTen k
      if g.isInf then none else some g
    else if f == 0 then some f else none
  | .negSucc k => some (shrink f (k + 1))

/-- The double that a number stands for, unless it is too large for one. -/
def float? (n : Number) : Option Float := do
  let (s, wholeLeft) := absorb 0 (Nat.toDigits 10 n.whole)
  let (s, fractionLeft) := absorb s n.fraction
  let places := n.fraction.length - fractionLeft.length
  let exponent := (wholeLeft.length : Int) - places + n.exponent.getD 0
  let f ← scale? (UInt64.ofNat s).toFloat exponent
  return if n.negative then -f else f

end Number

/-- A positive number `num / den` and the numbers around it, from `low / den` to `high / den`, that
round to the same double; the ends belong to them when `closed`. -/
structure Rounding where
  num : Nat
  low : Nat
  high : Nat
  den : Nat
  closed : Bool

namespace Rounding

def ofMantissa (m : Nat) (q : Int) (lowest : Bool) : Rounding :=
  let num := 4 * m
  let low := if m = 1 <<< 52 ∧ ¬lowest then 4 * m - 1 else 4 * m - 2
  let high := 4 * m + 2
  match q - 2 with
  | .ofNat k => ⟨num <<< k, low <<< k, high <<< k, 1, m % 2 = 0⟩
  | .negSucc k => ⟨num, low, high, 1 <<< (k + 1), m % 2 = 0⟩

def contains (r : Rounding) (num den : Nat) : Bool :=
  if r.closed then r.low * den ≤ num * r.den && num * r.den ≤ r.high * den
  else r.low * den < num * r.den && num * r.den < r.high * den

/-- The decimal place of the first digit: `num / den` is at least `10 ^ place`, less than ten times
as much. -/
def place (r : Rounding) : Int :=
  if r.den ≤ r.num then (Nat.toDigits 10 (r.num / r.den)).length - 1
  else -((Nat.toDigits 10 ((r.den - 1) / r.num)).length : Int)

/-- The multiple of `10 ^ e` that is nearest to the number among those around it, as its factor. -/
def onGrid? (r : Rounding) (e : Int) : Option Nat :=
  let up := match e with
    | .ofNat k => (Nat.pow 10 k, 1)
    | .negSucc k => (1, Nat.pow 10 (k + 1))
  let n := r.num * up.2
  let d := r.den * up.1
  let below := n / d
  let fits := fun k => 0 < k && r.contains (k * up.1) up.2
  let nearer :=
    if 2 * (n % d) < d then below
    else if d < 2 * (n % d) then below + 1
    else if below % 2 = 0 then below else below + 1
  if fits nearer then some nearer
  else if fits below then some below
  else if fits (below + 1) then some (below + 1)
  else none

/-- The coarsest grid with such a multiple, from `digits` more digits on. -/
def shortest (r : Rounding) : Nat → Int → Nat × Int
  | 0, e => (r.num / r.den, e)
  | more + 1, e =>
    match r.onGrid? e with
    | some k => (k, e)
    | none => shortest r more (e - 1)

end Rounding

namespace Number

/-- Digits `k` at the decimal place `e`: positional with at least one decimal from `1e-5` up to
`1e16`, else with one digit before the point and an exponent. -/
def ofDecimal (negative : Bool) (k : Nat) (e : Int) : Number :=
  let digits := Nat.toDigits 10 k
  let point := digits.length + e
  if 0 ≤ e ∧ point ≤ 16 then ⟨negative, k * Nat.pow 10 e.toNat, ['0'], none⟩
  else if 0 < point ∧ point ≤ 16 then
    ⟨negative, ofDigits (digits.take point.toNat), digits.drop point.toNat, none⟩
  else if -5 < point ∧ point ≤ 0 then
    ⟨negative, 0, List.replicate (-point).toNat '0' ++ digits, none⟩
  else ⟨negative, ofDigits (digits.take 1), digits.drop 1, some (point - 1)⟩

/-- A finite double in the fewest digits that read as it, the nearest of those. -/
def ofFloat (f : Float) : Number :=
  let b : Nat := f.toBits.toNat
  let negative := b >>> 63 = 1
  let biased := (b >>> 52) % 2048
  let fraction := b % (1 <<< 52)
  if biased = 0 ∧ fraction = 0 then ⟨negative, 0, ['0'], none⟩
  else
    let m := if biased = 0 then fraction else fraction + (1 <<< 52)
    let q := ((if biased = 0 then 1 else biased : Nat) : Int) - 1075
    let r := Rounding.ofMantissa m q (biased ≤ 1)
    let (k, e) := r.shortest 18 (r.place + 1)
    ofDecimal negative k e

end Number

end FinalityRelay
