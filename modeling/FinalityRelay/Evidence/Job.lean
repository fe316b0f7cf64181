import FinalityRelay.Chain.Block
import FinalityRelay.Evidence.Window
import FinalityRelay.Relay.Event

/-! Proof jobs: the evidence collected for one event. A job collects until its window is complete or
can no longer grow, is then ready, and is sent once the foreign chain accepted it. -/

namespace FinalityRelay

inductive Status
  | collecting
  | ready
  | sent
deriving DecidableEq

/-- A new schedule, and the digest of the one announced before it. -/
structure ScheduleEvidence where
  schedule : Schedule
  legacyHash : Option Digest
deriving DecidableEq

/-- A deposit, with the digests of all receipts of its block in the order of execution. The path from
its receipt to the block's action root is filled in before a submission. -/
structure DepositEvidence where
  transactionId : Digest
  action : Action
  receipt : Receipt
  siblings : List Digest
  path : List Digest
deriving DecidableEq

structure Job (ε : Type) where
  subject : UInt32
  subjectId : Digest
  status : Status
  anchor : Accumulator
  window : Window
  evidence : ε
deriving DecidableEq

/-- Computes the path anew, for the first sibling that is the digest of the receipt. -/
def DepositEvidence.refreshPath (e : DepositEvidence) : Except MerkleError DepositEvidence :=
  (Merkle.inclusionPath (e.siblings.idxOf e.receipt.digest) e.siblings).map
    fun path => { e with path }

namespace Job

variable {ε : Type}

def ofSubject (r : BlockRecord) (anchor : Accumulator) (evidence : ε) : Job ε where
  subject := r.number
  subjectId := r.id
  status := .collecting
  anchor := anchor
  window := .ofSubject r.header
  evidence := evidence

/-- Feeds a finalized block to a collecting job; others stay as they are. -/
def collect (j : Job ε) (r : BlockRecord) : Job ε × List Event :=
  if j.status = .collecting then
    let window := (j.window.push r.number r.id r.header).1
    if window.isComplete then ({ j with window, status := .ready }, [])
    else if window.isExhausted r.number then
      ({ j with window, status := .ready }, [.closedEarly j.subject window.headers.length])
    else ({ j with window }, [])
  else (j, [])

/-- The job after an acceptance, which only a ready one can get. -/
def sent? (j : Job ε) : Option (Job ε) :=
  if j.status = .ready then some { j with status := .sent } else none

end Job

open Fields RecordField

/-- A status is its number in the bytes; in JSON it is its name, also as the only key of an object
whose value is null. -/
def Status.codec : Codec Status where
  write
    | .collecting => [0]
    | .ready => [1]
    | .sent => [2]
  read := do
    match ← Varint.read .word32 with
    | 0 => return .collecting
    | 1 => return .ready
    | 2 => return .sent
    | _ => Reader.fail .invalidValue
  toJson
    | .collecting => .ofString "Collecting"
    | .ready => .ofString "Ready"
    | .sent => .ofString "Sent"
  ofJson? n j :=
    let ofName? : String → Option Status := fun s =>
      if s = "Collecting" then some .collecting
      else if s = "Ready" then some .ready
      else if s = "Sent" then some .sent
      else none
    match n, j with
    | _, .text s => s.bind ofName?
    | _ + 1, .object [(some s, .null)] => ofName? s
    | _, _ => none

def ScheduleEvidence.codec : Codec ScheduleEvidence :=
  (field (required "schedule" Schedule.codec) <|
    field (nullable "legacy_schedule_hash" .digest32) <| done).codec.via
    (fun e => (e.schedule, e.legacyHash, ()))
    (fun (s, h, _) => some ⟨s, h⟩)

def DepositEvidence.codec : Codec DepositEvidence :=
  (field (required "transaction_id" .digest32) <| field (required "action" Action.codec) <|
    field (required "action_receipt" Receipt.codec) <|
    field (required "sibling_receipt_digests" (.list .digest32)) <|
    field (required "receipt_inclusion_path" (.list .digest32)) <| done).codec.via
    (fun e => (e.transactionId, e.action, e.receipt, e.siblings, e.path, ()))
    (fun (t, a, r, s, p, _) => some ⟨t, a, r, s, p⟩)

def Job.codec {ε : Type} (c : Codec ε) : Codec (Job ε) :=
  (field (required "subject_block_num" .word32) <|
    field (required "subject_block_id" .digest32) <| field (required "status" Status.codec) <|
    field (required "anchor_merkle" Accumulator.codec) <|
    field (required "window" Window.codec) <| field (required "evidence" c) <| done).codec.via
    (fun j => (j.subject, j.subjectId, j.status, j.anchor, j.window, j.evidence, ()))
    (fun (n, i, s, a, w, e, _) => some ⟨n, i, s, a, w, e⟩)

end FinalityRelay
