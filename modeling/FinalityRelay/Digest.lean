import FinalityRelay.Bytes.Hex

/-! Digests of 32 bytes. As a merkle node a digest tells its side by the top bit of its first
byte; as a block id it carries the block number, big-endian, in its first four bytes. -/

namespace FinalityRelay

structure Digest where
  bytes : List UInt8
  length_bytes : bytes.length = 32
deriving DecidableEq

namespace Digest

def zero : Digest := ⟨List.replicate 32 0, by simp⟩

instance : Inhabited Digest := ⟨zero⟩

def ofBytes? (bs : List UInt8) : Option Digest :=
  if h : bs.length = 32 then some ⟨bs, h⟩ else none

def hex (d : Digest) : String :=
  String.ofList (Hex.write d.bytes)

/-- The marked form, `0x` and 64 lower-case digits. -/
def text (d : Digest) : String :=
  "0x" ++ d.hex

def ofText? (s : String) : Option Digest :=
  (Hex.read? (Hex.unmarked s.toList)).bind ofBytes?

def mapHead (f : UInt8 → UInt8) (d : Digest) : Digest :=
  ⟨d.bytes.modifyHead f, by simp [d.length_bytes]⟩

def asLeft (d : Digest) : Digest := d.mapHead (· &&& 0x7f)

def asRight (d : Digest) : Digest := d.mapHead (· ||| 0x80)

def isRight (d : Digest) : Bool := d.bytes.head? |>.any (· &&& 0x80 != 0)

/-- The block number that a block id carries. -/
def number (d : Digest) : UInt32 :=
  (d.bytes.take 4).foldl (fun n b => n <<< 8 ||| b.toUInt32) 0

def numberBytes (n : UInt32) : List UInt8 :=
  [(n >>> 24).toUInt8, (n >>> 16).toUInt8, (n >>> 8).toUInt8, n.toUInt8]

def withNumber (n : UInt32) (d : Digest) : Digest :=
  ⟨numberBytes n ++ d.bytes.drop 4, by simp [numberBytes, d.length_bytes]⟩

end Digest

end FinalityRelay
