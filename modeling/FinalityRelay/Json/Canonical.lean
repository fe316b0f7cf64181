import FinalityRelay.Json.Float

/-! The value of a JSON text without the accidents of its writing: an object has its keys in order
and the last value of each, a number is an integer of 64 bits or a double. -/

namespace FinalityRelay

def Number.canonical? (n : Number) : Option Number :=
  match n.int? with
  | some i => if Int64.minValue.toInt ≤ i ∧ i < UInt64.size then some n else n.float?.map .ofFloat
  | none => n.float?.map .ofFloat

namespace Json

/-- Puts a value under a key, in place of the one there. -/
def insertMember (key : String) (j : Json) : List (String × Json) → List (String × Json)
  | [] => [(key, j)]
  | (k, i) :: r =>
    if key < k then (key, j) :: (k, i) :: r
    else if key = k then (key, j) :: r
    else (k, i) :: insertMember key j r

def ofSorted (members : List (String × Json)) : Json :=
  record (members.foldl (fun ms m => insertMember m.1 m.2 ms) [])

mutual

/-- Fails where a text is spoiled, a number has no double, or more than `n` lists and objects are
open at once. -/
def canonical? (n : Nat) : Json → Option Json
  | .null => some .null
  | .bool b => some (.bool b)
  | .number x => x.canonical?.map .number
  | .text s => s.map .ofString
  | .list items =>
    match n with
    | 0 => none
    | n + 1 => (canonicalItems? n items).map .list
  | .object members =>
    match n with
    | 0 => none
    | n + 1 => (canonicalMembers? n members).map ofSorted

def canonicalItems? (n : Nat) : List Json → Option (List Json)
  | [] => some []
  | j :: r => do
    let j ← canonical? n j
    let r ← canonicalItems? n r
    return j :: r

def canonicalMembers? (n : Nat) : List (Option String × Json) → Option (List (String × Json))
  | [] => some []
  | (k, j) :: r => do
    let k ← k
    let j ← canonical? n j
    let r ← canonicalMembers? n r
    return (k, j) :: r

end

end Json

end FinalityRelay
