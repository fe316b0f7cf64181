import FinalityRelay.Chain.Block

/-! The blocks remembered by the relay: at most `capacity` records in the order in which they came,
no two with the same id. -/

namespace FinalityRelay

structure Ledger where
  capacity : Nat
  records : List BlockRecord

namespace Ledger

/-- An empty ledger, which holds at least one record whatever the capacity asked for. -/
def ofCapacity (capacity : Nat) : Ledger := ⟨max capacity 1, []⟩

def get? (l : Ledger) (id : Digest) : Option BlockRecord := l.records.find? (·.id = id)

def size (l : Ledger) : Nat := l.records.length

/-- Adds a record and evicts the earliest one of a full ledger; `none` if the id is there. -/
def record? (l : Ledger) (r : BlockRecord) : Option Ledger :=
  if (l.get? r.id).isSome then none
  else if l.capacity ≤ l.size then some { l with records := l.records.drop 1 ++ [r] }
  else some { l with records := l.records ++ [r] }

/-- Follows the links to previous blocks, `steps` of them. -/
def ancestor? (l : Ledger) (id : Digest) : Nat → Option BlockRecord
  | 0 => l.get? id
  | steps + 1 => (l.get? id).bind fun r => l.ancestor? r.previous steps

/-- The number of the earliest record. -/
def oldest? (l : Ledger) : Option UInt32 := l.records.head?.map (·.number)

def clear (l : Ledger) : Ledger := { l with records := [] }

end Ledger

end FinalityRelay
