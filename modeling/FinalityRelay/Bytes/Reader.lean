/-! Reading values off the front of a list of bytes. A reader gives the value and the bytes after
it, so readers follow one another in `do` notation. -/

namespace FinalityRelay

inductive BinaryError
  | unexpectedEnd
  | badVarint
  | badBool
  | badUtf8
  | badOption
  | invalidValue
  | notReadable
deriving DecidableEq

def BinaryError.message : BinaryError → String
  | .unexpectedEnd => "Hit the end of buffer, expected more data"
  | .badVarint => "Found a varint that didn't terminate. Is the usize too big for this platform?"
  | .badBool => "Found a bool that wasn't 0 or 1"
  | .badUtf8 => "Tried to parse invalid utf-8"
  | .badOption => "Found an Option discriminant that wasn't 0 or 1"
  | .invalidValue => "Serde Deserialization Error"
  | .notReadable => "This form can only be written"

def Reader (α : Type) : Type := List UInt8 → Except BinaryError (α × List UInt8)

namespace Reader

instance : Monad Reader where
  pure a := fun bs => .ok (a, bs)
  bind r f := fun bs =>
    match r bs with
    | .ok (a, rest) => f a rest
    | .error e => .error e

def fail {α : Type} (e : BinaryError) : Reader α := fun _ => .error e

def byte : Reader UInt8
  | [] => .error .unexpectedEnd
  | b :: rest => .ok (b, rest)

def take (n : Nat) : Reader (List UInt8) := fun bs =>
  let front := bs.take n
  if front.length = n then .ok (front, bs.drop n) else .error .unexpectedEnd

/-- Reads `n` values one after another. -/
def repeated {α : Type} (r : Reader α) : Nat → Reader (List α)
  | 0 => pure []
  | n + 1 => do
    let a ← r
    let as ← repeated r n
    return a :: as

end Reader

end FinalityRelay
