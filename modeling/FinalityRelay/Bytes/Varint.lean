import FinalityRelay.Bytes.Reader

/-! Numbers in base 128, least significant digit first; all bytes but the last have their top bit
set. A width says how many bytes a number may take and how large a last byte at that length may be.
Padded forms such as `80 00` are read. -/

namespace FinalityRelay.Varint

structure Width where
  bytes : Nat
  lastByte : Nat

def Width.word16 : Width := ⟨3, 3⟩
def Width.word32 : Width := ⟨5, 15⟩
def Width.word64 : Width := ⟨10, 1⟩

def write (n : Nat) : List UInt8 :=
  if n < 128 then [UInt8.ofNat n] else UInt8.ofNat (n % 128 + 128) :: write (n / 128)
termination_by n
decreasing_by omega

def readUpTo (lastByte : Nat) : Nat → Reader Nat
  | 0 => Reader.fail .badVarint
  | k + 1 => do
    let b ← Reader.byte
    if b.toNat < 128 then
      if k = 0 ∧ lastByte < b.toNat then Reader.fail .badVarint else return b.toNat
    else
      let n ← readUpTo lastByte k
      return b.toNat - 128 + 128 * n

def read (w : Width) : Reader Nat := readUpTo w.lastByte w.bytes

/-- Signed numbers take turns: 0, -1, 1, -2, 2 and so on. -/
def zigzag (i : Int) : Nat := if i < 0 then 2 * i.natAbs - 1 else 2 * i.natAbs

def unzigzag (n : Nat) : Int := if n % 2 = 0 then (n / 2 : Nat) else -((n / 2 + 1 : Nat) : Int)

end FinalityRelay.Varint
