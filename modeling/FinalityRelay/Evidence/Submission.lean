import FinalityRelay.Evidence.Job

/-! What is sent to the foreign chain, and what it answers. -/

namespace FinalityRelay

structure ScheduleSubmission where
  subject : UInt32
  legacyHash : Option Digest
  schedule : Schedule
  anchor : Accumulator
  headers : List SignedHeader
  gaps : List (List Digest)
deriving DecidableEq

structure DepositSubmission where
  subject : UInt32
  transactionId : Digest
  action : Action
  receipt : Receipt
  path : List Digest
  anchor : Accumulator
  headers : List SignedHeader
  gaps : List (List Digest)
deriving DecidableEq

inductive Submission
  | schedule (s : ScheduleSubmission)
  | deposit (s : DepositSubmission)
deriving DecidableEq

/-- The message of an acceptance is the reference of the foreign transaction, else the reason. A
failure is an answer that did not come. -/
inductive Answer
  | accepted (message : String)
  | rejected (message : String)
  | failed (message : String)
deriving DecidableEq

/-- An answer that did come, as it is written. -/
structure Verdict where
  accepted : Bool
  message : String
deriving DecidableEq

def ScheduleSubmission.ofJob (j : Job ScheduleEvidence) : ScheduleSubmission where
  subject := j.subject
  legacyHash := j.evidence.legacyHash
  schedule := j.evidence.schedule
  anchor := j.anchor
  headers := j.window.headers
  gaps := j.window.gaps

def DepositSubmission.ofJob (j : Job DepositEvidence) : DepositSubmission where
  subject := j.subject
  transactionId := j.evidence.transactionId
  action := j.evidence.action
  receipt := j.evidence.receipt
  path := j.evidence.path
  anchor := j.anchor
  headers := j.window.headers
  gaps := j.window.gaps

open Fields RecordField

def Verdict.codec : Codec Verdict :=
  (field (required "accepted" .flag) <| field (required "message" .text) <| done).codec.via
    (fun v => (v.accepted, v.message, ()))
    (fun (a, m, _) => some ⟨a, m⟩)

def ScheduleSubmission.codec : Codec ScheduleSubmission :=
  (field (required "subject_block_num" .word32) <|
    field (nullable "legacy_schedule_hash" .digest32) <|
    field (required "schedule" Schedule.codec) <|
    field (required "anchor_merkle" Accumulator.codec) <|
    field (required "headers" (.list SignedHeader.codec)) <|
    field (required "id_gaps" (.list (.list .digest32))) <| done).codec.via
    (fun s => (s.subject, s.legacyHash, s.schedule, s.anchor, s.headers, s.gaps, ()))
    (fun (n, l, s, a, h, g, _) => some ⟨n, l, s, a, h, g⟩)

def DepositSubmission.codec : Codec DepositSubmission :=
  (field (required "subject_block_num" .word32) <|
    field (required "transaction_id" .digest32) <| field (required "action" Action.codec) <|
    field (required "action_receipt" Receipt.codec) <|
    field (required "receipt_inclusion_path" (.list .digest32)) <|
    field (required "anchor_merkle" Accumulator.codec) <|
    field (required "headers" (.list SignedHeader.codec)) <|
    field (required "id_gaps" (.list (.list .digest32))) <| done).codec.via
    (fun s => (s.subject, s.transactionId, s.action, s.receipt, s.path, s.anchor, s.headers, s.gaps,
      ()))
    (fun (n, t, a, r, p, m, h, g, _) => some ⟨n, t, a, r, p, m, h, g⟩)

end FinalityRelay
