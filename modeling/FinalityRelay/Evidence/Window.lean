import FinalityRelay.Chain.Header

/-! Windows of a proof: headers spaced one cadence apart, from the subject block on, and after each
of them the ids of the first few blocks that follow it. -/

namespace FinalityRelay

structure Window where
  headers : List SignedHeader
  gaps : List (List Digest)
deriving DecidableEq

inductive WindowUpdate
  | headerAppended
  | idAppended
  | idDropped
  | ignored
deriving DecidableEq

namespace Window

/-- The distance of two headers, one round of producers. -/
def cadence : Nat := 12

def maxHeaders : Nat := 15

def maxGapIds : Nat := 10

/-- The distance from the first header at which a window can no longer grow. -/
def maxSpan : Nat := 180

def ofSubject (h : SignedHeader) : Window := ⟨[h], [[]]⟩

def first (w : Window) : UInt32 := (w.headers.head?.map SignedHeader.number).getD 0

def last (w : Window) : UInt32 := (w.headers.getLast?.map SignedHeader.number).getD 0

def isComplete (w : Window) : Bool := maxHeaders ≤ w.headers.length

def isExhausted (w : Window) (number : UInt32) : Bool := maxSpan ≤ number.toNat - w.first.toNat

/-- Adds an id to the last gap, unless that is full. -/
def pushId (w : Window) (id : Digest) : Window × WindowUpdate :=
  match w.gaps.getLast? with
  | none => (w, .idDropped)
  | some gap =>
    if gap.length < maxGapIds then
      (⟨w.headers, w.gaps.dropLast ++ [gap ++ [id]]⟩, .idAppended)
    else (w, .idDropped)

/-- Takes in the next finalized block. -/
def push (w : Window) (number : UInt32) (id : Digest) (h : SignedHeader) : Window × WindowUpdate :=
  if number ≤ w.last ∨ w.isComplete then (w, .ignored)
  else if number.toNat - w.last.toNat = cadence then
    (⟨w.headers ++ [h], w.gaps ++ [[]]⟩, .headerAppended)
  else w.pushId id

open Fields RecordField

def codec : Codec Window :=
  (field (required "headers" (.list SignedHeader.codec)) <|
    field (required "id_gaps" (.list (.list .digest32))) <| done).codec.via
    (fun w => (w.headers, w.gaps, ()))
    (fun (h, g, _) => some ⟨h, g⟩)

end Window

end FinalityRelay
