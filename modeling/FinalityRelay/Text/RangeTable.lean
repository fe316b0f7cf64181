import FinalityRelay.Bytes.Hex

/-! Tables of code points: ranges in ascending order, none overlapping another, each with a value. They
are written as texts of hexadecimal numbers with blanks between them. -/

namespace FinalityRelay

structure RangeRow (α : Type) where
  first : Nat
  last : Nat
  value : α

structure RangeTable (α : Type) where
  rows : Array (RangeRow α)

namespace RangeTable

variable {α : Type}

/-- The row that holds a number, among `count` rows from `start` on. -/
def search (rows : Array (RangeRow α)) (n start count : Nat) : Option (RangeRow α) :=
  if count = 0 then none
  else
    match rows[start + count / 2]? with
    | none => none
    | some row =>
      if n < row.first then search rows n start (count / 2)
      else if row.last < n then search rows n (start + count / 2 + 1) (count - count / 2 - 1)
      else some row
termination_by count
decreasing_by all_goals omega

def row? (t : RangeTable α) (n : Nat) : Option (RangeRow α) := search t.rows n 0 t.rows.size

def value? (t : RangeTable α) (n : Nat) : Option α := (t.row? n).map RangeRow.value

def ofRows (rows : List (RangeRow α)) : RangeTable α :=
  ⟨(rows.mergeSort fun a b => a.first ≤ b.first).toArray⟩

/-- The texts between blanks and line ends. -/
def words (text : String) : List (List Char) :=
  (text.toList.splitOnP fun c => c = ' ' || c = '\n').filter (· ≠ [])

def number (word : List Char) : Nat :=
  (word.filterMap Hex.digit?).foldl (fun n d => 16 * n + d) 0

/-- One number, or two around a hyphen: the first and the last one of a range. -/
def range (word : List Char) : Nat × Nat :=
  match word.dropWhile (· != '-') with
  | [] => (number word, number word)
  | _ :: last => (number (word.takeWhile (· != '-')), number last)

def rowsOf (value : α) (text : String) : List (RangeRow α) :=
  (words text).map fun w => ⟨(range w).1, (range w).2, value⟩

/-- The table of some values, each with the ranges that have it. -/
def ofClasses (classes : List (α × String)) : RangeTable α :=
  ofRows (classes.flatMap fun c => rowsOf c.1 c.2)

def ofRanges (text : String) : RangeTable Unit := ofRows (rowsOf () text)

end RangeTable

end FinalityRelay
