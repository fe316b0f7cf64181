import FinalityRelay.Chain.Action
import FinalityRelay.Chain.Header
import FinalityRelay.Json.Canonical
import FinalityRelay.Merkle.Accumulator

/-! What the host chain reports: irreversible blocks and applied transactions. -/

namespace FinalityRelay

/-- A block that became irreversible, with the tree of the ids of all blocks before it. -/
structure FinalizedBlock where
  id : Digest
  number : UInt32
  header : SignedHeader
  history : Accumulator
deriving DecidableEq

/-- A block as it is remembered. -/
structure BlockRecord where
  id : Digest
  number : UInt32
  previous : Digest
  actionRoot : Digest
  history : Accumulator
  header : SignedHeader
  announces : Bool
deriving DecidableEq

structure Transaction where
  id : Digest
  traces : List Trace
  receipts : List Receipt
deriving DecidableEq

inductive Notification
  | finalized (b : FinalizedBlock)
  | applied (t : Transaction)
deriving DecidableEq

def FinalizedBlock.record (b : FinalizedBlock) : BlockRecord where
  id := b.id
  number := b.number
  previous := b.header.header.previous
  actionRoot := b.header.header.actionRoot
  history := b.history
  header := b.header
  announces := b.header.header.announced?.isSome

/-- The schedule that a remembered block announces. -/
def BlockRecord.announced? (r : BlockRecord) : Option Schedule :=
  if r.announces then r.header.header.announced? else none

open Fields RecordField

def FinalizedBlock.codec : Codec FinalizedBlock :=
  (field (required "id" .digest32) <| field (required "block_num" .word32) <|
    field (required "header" SignedHeader.codec) <|
    field (required "blockroot_merkle" Accumulator.codec) <| done).codec.via
    (fun b => (b.id, b.number, b.header, b.history, ()))
    (fun (i, n, h, m, _) => some ⟨i, n, h, m⟩)

def BlockRecord.codec : Codec BlockRecord :=
  (field (required "id" .digest32) <| field (required "number" .word32) <|
    field (required "previous" .digest32) <| field (required "action_root" .digest32) <|
    field (required "cumulative_merkle" Accumulator.codec) <|
    field (required "raw" SignedHeader.codec) <|
    field (required "has_schedule_change" .flag) <| done).codec.via
    (fun r => (r.id, r.number, r.previous, r.actionRoot, r.history, r.header, r.announces, ()))
    (fun (i, n, p, a, m, h, c, _) => some ⟨i, n, p, a, m, h, c⟩)

def Transaction.codec : Codec Transaction :=
  (field (required "transaction_id" .digest32) <|
    field (required "action_traces" (.list Trace.codec)) <|
    field (required "receipts" (.list Receipt.codec)) <| done).codec.via
    (fun t => (t.id, t.traces, t.receipts, ()))
    (fun (i, t, r, _) => some ⟨i, t, r⟩)

namespace Notification

def ofTagged? (tag : String) (body : Json) : Option Notification :=
  if tag = "finalized_block" then (FinalizedBlock.codec.decode? body).map .finalized
  else if tag = "applied_transaction" then (Transaction.codec.decode? body).map .applied
  else none

/-- The members of a record with its kind in front of them. -/
def withTag (tag : String) : Json → Json
  | .object members => .object ((some "type", .ofString tag) :: members)
  | j => j

/-- A notification is a block or a transaction together with the name of its kind, which is the
member `type` of an object or the first element of a list. All of it has to be sound, members that
are not used included. -/
def codec : Codec Notification where
  write
    | .finalized b => Codec.text.write "finalized_block" ++ FinalizedBlock.codec.write b
    | .applied t => Codec.text.write "applied_transaction" ++ Transaction.codec.write t
  read := Reader.fail .notReadable
  toJson
    | .finalized b => withTag "finalized_block" (FinalizedBlock.codec.toJson b)
    | .applied t => withTag "applied_transaction" (Transaction.codec.toJson t)
  ofJson? n j :=
    if (j.canonical? n).isNone then none
    else match j with
      | .object members =>
        match Json.membersOf "type" members with
        | [.text (some tag)] =>
          ofTagged? tag (.object (members.filter fun m => m.1 ≠ some "type"))
        | _ => none
      | .list (.text (some tag) :: items) => ofTagged? tag (.list items)
      | _ => none

end Notification

end FinalityRelay
