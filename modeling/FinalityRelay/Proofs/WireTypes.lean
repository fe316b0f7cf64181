import FinalityRelay.Evidence.Submission
import FinalityRelay.Proofs.SnapshotForm
import FinalityRelay.Sample.Deposit

/-! The binary form of every type that has one that can be read. A form says where it ends, so forms can
stand behind one another, and no two values share one. -/

namespace FinalityRelay

open Codec Fields

theorem Trace.codec_roundTrips : Trace.codec.RoundTrips fun _ => True :=
  RoundTrips.via_parts
    (field_roundTrips word32_roundTrips <| field_roundTrips name_roundTrips <|
      field_roundTrips Action.codec_roundTrips <|
      field_roundTrips Receipt.codec_roundTrips.option <| field_roundTrips word32_roundTrips <|
      field_roundTrips text_roundTrips.option done_roundTrips)
    (fun _ => rfl) (by simp)

theorem Asset.codec_roundTrips : Asset.codec.RoundTrips fun _ => True :=
  RoundTrips.via_parts
    (field_roundTrips int64_roundTrips <| field_roundTrips word64_roundTrips done_roundTrips)
    (fun _ => rfl) (by simp)

theorem Transfer.codec_roundTrips : Transfer.codec.RoundTrips fun _ => True :=
  RoundTrips.via_parts
    (field_roundTrips name_roundTrips <| field_roundTrips name_roundTrips <|
      field_roundTrips Asset.codec_roundTrips <| field_roundTrips text_roundTrips done_roundTrips)
    (fun _ => rfl) (by simp)

def FinalizedBlock.Consistent (b : FinalizedBlock) : Prop := b.history.Consistent

theorem FinalizedBlock.codec_roundTrips :
    FinalizedBlock.codec.RoundTrips FinalizedBlock.Consistent :=
  RoundTrips.via_parts
    (field_roundTrips digest32_roundTrips <| field_roundTrips word32_roundTrips <|
      field_roundTrips SignedHeader.codec_roundTrips <|
      field_roundTrips Accumulator.codec_roundTrips done_roundTrips)
    (fun _ => rfl) (by simp [FinalizedBlock.Consistent])

theorem Transaction.codec_roundTrips : Transaction.codec.RoundTrips fun _ => True :=
  RoundTrips.via_parts
    (field_roundTrips digest32_roundTrips <|
      field_roundTrips (Trace.codec_roundTrips.list
        (write_via_ne_nil (write_field_ne_nil fun _ => Varint.write_ne_nil _))) <|
      field_roundTrips (Receipt.codec_roundTrips.list
        (write_via_ne_nil (write_field_ne_nil fun _ => Varint.write_ne_nil _))) done_roundTrips)
    (fun _ => rfl) (by simp)

def ScheduleSubmission.Consistent (s : ScheduleSubmission) : Prop := s.anchor.Consistent

theorem ScheduleSubmission.codec_roundTrips :
    ScheduleSubmission.codec.RoundTrips ScheduleSubmission.Consistent :=
  RoundTrips.via_parts
    (field_roundTrips word32_roundTrips <| field_roundTrips digest32_roundTrips.option <|
      field_roundTrips Schedule.codec_roundTrips <| field_roundTrips Accumulator.codec_roundTrips <|
      field_roundTrips (SignedHeader.codec_roundTrips.list SignedHeader.write_ne_nil) <|
      field_roundTrips gaps_roundTrips done_roundTrips)
    (fun _ => rfl) (by simp [ScheduleSubmission.Consistent])

def DepositSubmission.Consistent (s : DepositSubmission) : Prop := s.anchor.Consistent

theorem DepositSubmission.codec_roundTrips :
    DepositSubmission.codec.RoundTrips DepositSubmission.Consistent :=
  RoundTrips.via_parts
    (field_roundTrips word32_roundTrips <| field_roundTrips digest32_roundTrips <|
      field_roundTrips Action.codec_roundTrips <| field_roundTrips Receipt.codec_roundTrips <|
      field_roundTrips digests_roundTrips <| field_roundTrips Accumulator.codec_roundTrips <|
      field_roundTrips (SignedHeader.codec_roundTrips.list SignedHeader.write_ne_nil) <|
      field_roundTrips gaps_roundTrips done_roundTrips)
    (fun _ => rfl) (by simp [DepositSubmission.Consistent])

theorem Verdict.codec_roundTrips : Verdict.codec.RoundTrips fun _ => True :=
  RoundTrips.via_parts
    (field_roundTrips flag_roundTrips <| field_roundTrips text_roundTrips done_roundTrips)
    (fun _ => rfl) (by simp)

/-- The types whose bytes can be read, each by its codec and what holds of its values: accumulators in
them have as many nodes as their counts ask for. -/
inductive WireForm : {α : Type} → Codec α → (α → Prop) → Prop
  | digest : WireForm .digest32 fun _ => True
  | name : WireForm .name fun _ => True
  | permission : WireForm Permission.codec fun _ => True
  | action : WireForm Action.codec fun _ => True
  | receipt : WireForm Receipt.codec fun _ => True
  | trace : WireForm Trace.codec fun _ => True
  | asset : WireForm Asset.codec fun _ => True
  | transfer : WireForm Transfer.codec fun _ => True
  | producer : WireForm Producer.codec fun _ => True
  | schedule : WireForm Schedule.codec fun _ => True
  | extension : WireForm Extension.codec fun _ => True
  | header : WireForm Header.codec fun _ => True
  | signedHeader : WireForm SignedHeader.codec fun _ => True
  | accumulator : WireForm Accumulator.codec Accumulator.Consistent
  | record : WireForm BlockRecord.codec BlockRecord.Consistent
  | block : WireForm FinalizedBlock.codec FinalizedBlock.Consistent
  | transaction : WireForm Transaction.codec fun _ => True
  | window : WireForm Window.codec fun _ => True
  | status : WireForm Status.codec fun _ => True
  | scheduleEvidence : WireForm ScheduleEvidence.codec fun _ => True
  | depositEvidence : WireForm DepositEvidence.codec fun _ => True
  | scheduleJob : WireForm (Job.codec ScheduleEvidence.codec) Job.Consistent
  | depositJob : WireForm (Job.codec DepositEvidence.codec) Job.Consistent
  | snapshot : WireForm Snapshot.codec Snapshot.Consistent
  | scheduleSubmission : WireForm ScheduleSubmission.codec ScheduleSubmission.Consistent
  | depositSubmission : WireForm DepositSubmission.codec DepositSubmission.Consistent
  | verdict : WireForm Verdict.codec fun _ => True

namespace WireForm

variable {α : Type} {c : Codec α} {sound : α → Prop}

theorem roundTrips (w : WireForm c sound) : c.RoundTrips sound := by
  cases w with
  | digest => exact digest32_roundTrips
  | name => exact name_roundTrips
  | permission => exact Permission.codec_roundTrips
  | action => exact Action.codec_roundTrips
  | receipt => exact Receipt.codec_roundTrips
  | trace => exact Trace.codec_roundTrips
  | asset => exact Asset.codec_roundTrips
  | transfer => exact Transfer.codec_roundTrips
  | producer => exact Producer.codec_roundTrips
  | schedule => exact Schedule.codec_roundTrips
  | extension => exact Extension.codec_roundTrips
  | header => exact Header.codec_roundTrips
  | signedHeader => exact SignedHeader.codec_roundTrips
  | accumulator => exact Accumulator.codec_roundTrips
  | record => exact BlockRecord.codec_roundTrips
  | block => exact FinalizedBlock.codec_roundTrips
  | transaction => exact Transaction.codec_roundTrips
  | window => exact Window.codec_roundTrips
  | status => exact Status.codec_roundTrips
  | scheduleEvidence => exact ScheduleEvidence.codec_roundTrips
  | depositEvidence => exact DepositEvidence.codec_roundTrips
  | scheduleJob => exact Job.codec_roundTrips ScheduleEvidence.codec_roundTrips
  | depositJob => exact Job.codec_roundTrips DepositEvidence.codec_roundTrips
  | snapshot => exact Snapshot.codec_roundTrips
  | scheduleSubmission => exact ScheduleSubmission.codec_roundTrips
  | depositSubmission => exact DepositSubmission.codec_roundTrips
  | verdict => exact Verdict.codec_roundTrips

/-- Reading takes exactly the bytes of the value off the front of whatever they stand in front of. So
two values with the same bytes are one. A byte string is shorter than 2^64 bytes. -/
theorem selfDelimiting (w : WireForm c sound) {a : α} (ha : sound a)
    (hl : (c.write a).length < 2 ^ 64) :
    (∀ rest, c.read (c.write a ++ rest) = .ok (a, rest)) ∧ ∀ b, c.write b = c.write a → b = a := by
  have hr := w.roundTrips.read_write ha hl
  refine ⟨hr, fun b hb => ?_⟩
  have hread : c.read (c.write b ++ []) = .ok (a, []) := by
    rw [hb]
    exact hr []
  exact (w.roundTrips.eq_of_read hread).1.symm

end WireForm

namespace Sample

/-- What a relay saves while it proves a schedule change and a deposit of its newest block. -/
def saved : Snapshot where
  blocks := [record 4]
  scheduleJobs := [.ofSubject (record 4) (.ofLeaves [blockId 1, blockId 2, blockId 3])
    ⟨schedule 2, some (schedule 1).digest⟩]
  depositJobs := [.ofSubject (record 4) (.ofLeaves [blockId 1, blockId 2, blockId 3]) (evidence 1 2)]
  activeSchedule := some (schedule 2)

end Sample

theorem WireForm.selfDelimiting_saved :
    Sample.saved.Consistent ∧ (Snapshot.codec.write Sample.saved).length < 2 ^ 64 ∧
      Snapshot.codec.read (Snapshot.codec.write Sample.saved ++ [1, 2, 3]) =
        .ok (Sample.saved, [1, 2, 3]) := by
  have hrecord : (Sample.record 4).history.Consistent := by decide +kernel
  have hanchor : (Accumulator.ofLeaves
      [Sample.blockId 1, Sample.blockId 2, Sample.blockId 3]).Consistent := by decide +kernel
  have hc : Sample.saved.Consistent :=
    ⟨List.forall_mem_singleton.mpr hrecord, List.forall_mem_singleton.mpr hanchor,
      List.forall_mem_singleton.mpr hanchor⟩
  have hl : (Snapshot.codec.write Sample.saved).length < 2 ^ 64 := by decide +kernel
  exact ⟨hc, hl, (WireForm.snapshot.selfDelimiting hc hl).1 [1, 2, 3]⟩

end FinalityRelay
