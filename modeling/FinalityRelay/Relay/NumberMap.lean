/-! Maps and sets of block numbers, as lists in ascending order of the numbers. -/

namespace FinalityRelay

abbrev NumberMap (α : Type) : Type := List (UInt32 × α)

abbrev NumberSet : Type := NumberMap Unit

namespace NumberMap

variable {α : Type}

def get? (m : NumberMap α) (n : UInt32) : Option α := m.lookup n

/-- Puts a value under a number, in place of the one there. -/
def insert (n : UInt32) (a : α) : NumberMap α → NumberMap α
  | [] => [(n, a)]
  | (k, b) :: r =>
    if n < k then (n, a) :: (k, b) :: r
    else if n = k then (n, a) :: r
    else (k, b) :: insert n a r

def erase (m : NumberMap α) (n : UInt32) : NumberMap α := m.filter (·.1 ≠ n)

def keys (m : NumberMap α) : List UInt32 := m.map Prod.fst

def values (m : NumberMap α) : List α := m.map Prod.snd

/-- The part below a number. -/
def below (m : NumberMap α) (n : UInt32) : NumberMap α := m.filter (·.1 < n)

/-- The part from a number on. -/
def upFrom (m : NumberMap α) (n : UInt32) : NumberMap α := m.filter (n ≤ ·.1)

end NumberMap

def NumberSet.add (s : NumberSet) (n : UInt32) : NumberSet := NumberMap.insert n () s

end FinalityRelay
