import FinalityRelay.Foreign.Rpc
import FinalityRelay.Proofs.JsonForm
import FinalityRelay.Proofs.SweepOutcome

/-! Which replies of the foreign chain make a job sent. Records are read from objects and from lists
alike, so a list of the right length passes for a response. -/

namespace FinalityRelay

namespace Codec

variable {α : Type} {c : Codec α} {n : Nat} {j : Json} {a : α}

end Codec

namespace Fields

variable {α β : Type}

/-- The value that the members of an object give a field. -/
def value? (n : Nat) (members : List (Option String × Json)) (f : RecordField α) : Option α :=
  match Json.membersOf f.key members with
  | [] => f.absent?
  | [j] => f.codec.ofJson? n j
  | _ => none

variable {key : String} {c : Codec α} {n : Nat} {members : List (Option String × Json)}

end Fields

namespace Rpc

/-- The bodies that carry a result and no fault. Responses are objects, but the reader of records takes a
list of their two fields as well, and one that stops after the first. -/
inductive Carries : Json → Json → Prop
  | object {members : List (Option String × Json)} {r : Json}
      (keys : members.all (·.1.isSome) = true) (result : Json.membersOf "result" members = [r])
      (fault : Json.membersOf "error" members = [] ∨ Json.membersOf "error" members = [.null]) :
      Carries (.object members) r
  | list {r : Json} : Carries (.list [r]) r
  | padded {r : Json} : Carries (.list [r, .null]) r

/-- What a sweep hears of a call. -/
def Call.answer (c : Call) : Answer :=
  match c.result with
  | .ok a => a
  | .error e => .failed e.message

end Rpc

namespace Relay

variable {s : Relay} {answers : Nat → Answer} {kind : ProofKind} {n : UInt32} {i : Nat}
  {j j' : Job Evidence} {id : UInt64} {endpoint account : String} {reply : Rpc.Reply}

end Relay

namespace Sample

def endpoint : String := "http://[::1]:8545"

end Sample

namespace Rpc

end Rpc

end FinalityRelay
