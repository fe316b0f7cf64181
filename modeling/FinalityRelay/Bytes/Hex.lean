/-! Byte strings as hexadecimal text: two digits a byte, lower case when written, either case
when read. -/

namespace FinalityRelay.Hex

def ofByte (b : UInt8) : List Char :=
  [Nat.digitChar (b.toNat / 16), Nat.digitChar (b.toNat % 16)]

def write (bs : List UInt8) : List Char :=
  bs.flatMap ofByte

def digit? (c : Char) : Option Nat :=
  if '0' ≤ c ∧ c ≤ '9' then some (c.toNat - 48)
  else if 'a' ≤ c ∧ c ≤ 'f' then some (c.toNat - 87)
  else if 'A' ≤ c ∧ c ≤ 'F' then some (c.toNat - 55)
  else none

def read? : List Char → Option (List UInt8)
  | [] => some []
  | [_] => none
  | a :: b :: r => do
    let high ← digit? a
    let low ← digit? b
    let bytes ← read? r
    return UInt8.ofNat (16 * high + low) :: bytes

/-- Text after one optional `0x`. -/
def unmarked : List Char → List Char
  | '0' :: 'x' :: r => r
  | cs => cs

end FinalityRelay.Hex
