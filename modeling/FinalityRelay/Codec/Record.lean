import FinalityRelay.Codec.Basic

/-! Codecs of records, field by field. The bytes are those of the fields in order. The JSON form is
an object with all fields; read are objects with any further members, and lists of the fields in
order. -/

namespace FinalityRelay

/-- A field: its key, its form, the value it has where an object leaves it out, and whether it may
also be missing at the end of a list. -/
structure RecordField (α : Type) where
  key : String
  codec : Codec α
  absent? : Option α
  short : Bool

namespace RecordField

variable {α : Type}

def required (key : String) (c : Codec α) : RecordField α := ⟨key, c, none, false⟩

/-- An optional field, which only a list has to hold. -/
def nullable (key : String) (c : Codec α) : RecordField (Option α) :=
  ⟨key, c.option, some none, false⟩

def defaulted (key : String) (c : Codec α) (value : α) : RecordField α := ⟨key, c, some value, true⟩

end RecordField

inductive Fields : Type → Type 1
  | done : Fields Unit
  | field {α β : Type} (f : RecordField α) (rest : Fields β) : Fields (α × β)

namespace Fields

variable {α : Type}

def write : {α : Type} → Fields α → α → List UInt8
  | _, .done, _ => []
  | _, .field f rest, (a, b) => f.codec.write a ++ rest.write b

def read : {α : Type} → Fields α → Reader α
  | _, .done => pure ()
  | _, .field f rest => do
    let a ← f.codec.read
    let b ← rest.read
    return (a, b)

def toMembers : {α : Type} → Fields α → α → List (String × Json)
  | _, .done, _ => []
  | _, .field f rest, (a, b) => (f.key, f.codec.toJson a) :: rest.toMembers b

/-- The values under the keys. A key may stand only once. -/
def ofMembers? (n : Nat) (members : List (Option String × Json)) : {α : Type} → Fields α → Option α
  | _, .done => some ()
  | _, .field f rest => do
    let a ← match Json.membersOf f.key members with
      | [] => f.absent?
      | [j] => f.codec.ofJson? n j
      | _ => none
    let b ← rest.ofMembers? n members
    return (a, b)

def ofItems? (n : Nat) : {α : Type} → Fields α → List Json → Option α
  | _, .done, [] => some ()
  | _, .done, _ :: _ => none
  | _, .field f rest, [] => do
    let a ← if f.short then f.absent? else none
    let b ← rest.ofItems? n []
    return (a, b)
  | _, .field f rest, j :: js => do
    let a ← f.codec.ofJson? n j
    let b ← rest.ofItems? n js
    return (a, b)

def ofJson? (fs : Fields α) : Nat → Json → Option α
  | n + 1, .object members =>
    if members.all (·.1.isSome) then fs.ofMembers? n members else none
  | n + 1, .list items => fs.ofItems? n items
  | _, _ => none

def codec (fs : Fields α) : Codec α where
  write := fs.write
  read := fs.read
  toJson a := Json.record (fs.toMembers a)
  ofJson? := fs.ofJson?

end Fields

end FinalityRelay
