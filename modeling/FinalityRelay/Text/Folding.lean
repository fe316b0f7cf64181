import FinalityRelay.Text.Folding.Exclusions
import FinalityRelay.Text.Folding.Letters
import FinalityRelay.Text.Folding.Sequences
import FinalityRelay.Text.RangeTable

/-! Texts in the one form that stands for all those read alike: small letters for capitals, plain
characters for their variants, and nothing for characters without a form of their own. -/

namespace FinalityRelay.Text

/-- What the code points of a range fold to: all to the same, or each to its own, which lies as far
from the target of the first one as it does from the first one. -/
inductive Folding
  | together (targets : List Nat)
  | apart (target : Nat)
  | everySecond (target : Nat)

namespace Folding

/-- The target of a code point that lies at some distance from the first one of its range. -/
def target? (distance : Nat) : Folding → Option (List Nat)
  | together ts => some ts
  | apart t => some [t + distance]
  | everySecond t => if distance % 2 = 0 then some [t + distance] else none

/-- A row is a range, a sign and a target, whose numbers plus signs join. -/
def rowOf (word : List Char) : RangeRow Folding :=
  let sign := fun c => c = '=' || c = '>' || c = '~'
  let (first, last) := RangeTable.range (word.takeWhile (!sign ·))
  let targets := (word.dropWhile (!sign ·)).drop 1
  let value := match (word.dropWhile (!sign ·)).head? with
    | some '>' => apart (RangeTable.number targets)
    | some '~' => everySecond (RangeTable.number targets)
    | _ => together ((targets.splitOn '+').map RangeTable.number)
  ⟨first, last, value⟩

def table : RangeTable Folding :=
  .ofRows ((RangeTable.words letterFoldings ++ RangeTable.words sequenceFoldings).map rowOf)

def ignored : RangeTable Unit := .ofRanges ignoredRanges

def excluded : RangeTable Unit := .ofRanges excludedRanges

/-- What a character folds to, unless it is excluded. -/
def ofChar? (c : Char) : Option (List Char) :=
  let n := c.toNat
  match (table.row? n).bind fun row => row.value.target? (n - row.first) with
  | some ts => some (ts.map Char.ofNat)
  | none =>
    if (ignored.value? n).isSome then some []
    else if (excluded.value? n).isSome then none
    else some [c]

end Folding

def fold? (cs : List Char) : Option (List Char) := (cs.mapM Folding.ofChar?).map List.flatten

/-- Whether each character stands for itself. -/
def isFolded (cs : List Char) : Bool := cs.all fun c => Folding.ofChar? c = some [c]

end FinalityRelay.Text
