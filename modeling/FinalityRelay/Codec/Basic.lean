import FinalityRelay.Bytes.Varint
import FinalityRelay.Digest.Sha256
import FinalityRelay.Json.Basic
import FinalityRelay.Name

/-! A codec gives a type its two outer forms: the canonical bytes, which are what is hashed, and
JSON. JSON is read under a limit on how many lists and objects may be open at once. -/

namespace FinalityRelay

structure Codec (α : Type) where
  write : α → List UInt8
  read : Reader α
  toJson : α → Json
  ofJson? : Nat → Json → Option α

namespace Codec

variable {α β : Type}

/-- How many lists and objects of a JSON text may be open at once. -/
def maxDepth : Nat := 127

def decode? (c : Codec α) (j : Json) : Option α := c.ofJson? maxDepth j

def digest (c : Codec α) (a : α) : Digest := sha256 (c.write a)

/-- The form of `β` for the values of `α`, which are some of those of `β`. -/
def via (c : Codec β) (parts : α → β) (ofParts? : β → Option α) : Codec α where
  write a := c.write (parts a)
  read := do
    let b ← c.read
    match ofParts? b with
    | some a => return a
    | none => Reader.fail .invalidValue
  toJson a := c.toJson (parts a)
  ofJson? n j := (c.ofJson? n j).bind ofParts?

def word16 : Codec UInt16 where
  write n := Varint.write n.toNat
  read := do return UInt16.ofNat (← Varint.read .word16)
  toJson n := .ofNat n.toNat
  ofJson? _ j := do
    let n ← j.nat?
    if n < UInt16.size then return UInt16.ofNat n else none

def word32 : Codec UInt32 where
  write n := Varint.write n.toNat
  read := do return UInt32.ofNat (← Varint.read .word32)
  toJson n := .ofNat n.toNat
  ofJson? _ j := do
    let n ← j.nat?
    if n < UInt32.size then return UInt32.ofNat n else none

def word64 : Codec UInt64 where
  write n := Varint.write n.toNat
  read := do return UInt64.ofNat (← Varint.read .word64)
  toJson n := .ofNat n.toNat
  ofJson? _ j := do
    let n ← j.nat?
    if n < UInt64.size then return UInt64.ofNat n else none

def int64 : Codec Int64 where
  write n := Varint.write (Varint.zigzag n.toInt)
  read := do return Int64.ofInt (Varint.unzigzag (← Varint.read .word64))
  toJson n := .ofInt n.toInt
  ofJson? _ j := do
    let n ← j.int?
    if Int64.minValue.toInt ≤ n ∧ n ≤ Int64.maxValue.toInt then return Int64.ofInt n else none

def flag : Codec Bool where
  write b := [if b then 1 else 0]
  read := do
    match (← Reader.byte).toNat with
    | 0 => return false
    | 1 => return true
    | _ => Reader.fail .badBool
  toJson b := .bool b
  ofJson?
    | _, .bool b => some b
    | _, _ => none

/-- Byte strings: their length before them, or hex digits. -/
def bytes : Codec (List UInt8) where
  write bs := Varint.write bs.length ++ bs
  read := do Reader.take (← Varint.read .word64)
  toJson bs := .ofString (String.ofList (Hex.write bs))
  ofJson? _ j := do Hex.read? (Hex.unmarked (← j.string?).toList)

def text : Codec String where
  write s := Varint.write s.utf8ByteSize ++ s.toUTF8.data.toList
  read := do
    let bs ← Reader.take (← Varint.read .word64)
    match String.fromUTF8? ⟨bs.toArray⟩ with
    | some s => return s
    | none => Reader.fail .badUtf8
  toJson s := .ofString s
  ofJson? _ j := j.string?

def digest32 : Codec Digest where
  write d := d.bytes
  read := do
    match Digest.ofBytes? (← Reader.take 32) with
    | some d => return d
    | none => Reader.fail .unexpectedEnd
  toJson d := .ofString d.text
  ofJson? _ j := do Digest.ofText? (← j.string?)

def name : Codec Name where
  write n := word64.write n.value
  read := do return ⟨← word64.read⟩
  toJson n := .ofString n.text
  ofJson? _ j := do (Name.parse (← j.string?)).toOption

def option (c : Codec α) : Codec (Option α) where
  write
    | none => [0]
    | some a => 1 :: c.write a
  read := do
    match (← Reader.byte).toNat with
    | 0 => return none
    | 1 => return some (← c.read)
    | _ => Reader.fail .badOption
  toJson
    | none => .null
    | some a => c.toJson a
  ofJson?
    | _, .null => some none
    | n, j => (c.ofJson? n j).map some

def list (c : Codec α) : Codec (List α) where
  write as := Varint.write as.length ++ as.flatMap c.write
  read := do c.read.repeated (← Varint.read .word64)
  toJson as := .list (as.map c.toJson)
  ofJson?
    | n + 1, .list js => js.mapM (c.ofJson? n)
    | _, _ => none

def pair (c : Codec α) (d : Codec β) : Codec (α × β) where
  write p := c.write p.1 ++ d.write p.2
  read := do return (← c.read, ← d.read)
  toJson p := .list [c.toJson p.1, d.toJson p.2]
  ofJson?
    | n + 1, .list [i, j] => do return (← c.ofJson? n i, ← d.ofJson? n j)
    | _, _ => none

end Codec

end FinalityRelay
