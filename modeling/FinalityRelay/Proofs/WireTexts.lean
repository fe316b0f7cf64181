import FinalityRelay.Proofs.JsonForm
import FinalityRelay.Proofs.WireTypes

/-! The JSON text of every type, notifications included, reads as the value that it was written for. -/

namespace FinalityRelay

open Codec Fields

theorem Permission.codec_renders : Permission.codec.Renders 1 fun _ => True :=
  Fields.Renders.via
    (field_renders name_renders <| field_renders name_renders done_renders)
    (by decide) (by simp)

theorem Action.codec_renders : Action.codec.Renders 3 fun _ => True :=
  Fields.Renders.via
    (field_renders name_renders <| field_renders name_renders <|
      field_renders Permission.codec_renders.list <| field_renders bytes_renders done_renders)
    (by decide) (by simp)

theorem Receipt.codec_renders : Receipt.codec.Renders 3 fun _ => True :=
  Fields.Renders.via
    (field_renders name_renders <| field_renders digest32_renders <| field_renders word64_renders <|
      field_renders word64_renders <| field_renders (name_renders.pair word64_renders).list <|
      field_renders word32_renders <| field_renders word32_renders done_renders)
    (by decide) (by simp)

theorem Trace.codec_renders : Trace.codec.Renders 4 fun _ => True :=
  Fields.Renders.via
    (field_renders word32_renders <| field_renders name_renders <|
      field_renders Action.codec_renders <| field_renders (Receipt.codec_renders.option nofun) <|
      field_renders word32_renders <| field_renders (text_renders.option nofun) done_renders)
    (by decide) (by simp)

theorem Asset.codec_renders : Asset.codec.Renders 1 fun _ => True :=
  Fields.Renders.via
    (field_renders int64_renders <| field_renders word64_renders done_renders)
    (by decide) (by simp)

theorem Transfer.codec_renders : Transfer.codec.Renders 2 fun _ => True :=
  Fields.Renders.via
    (field_renders name_renders <| field_renders name_renders <|
      field_renders Asset.codec_renders <| field_renders text_renders done_renders)
    (by decide) (by simp)

theorem Producer.codec_renders : Producer.codec.Renders 1 fun _ => True :=
  Fields.Renders.via
    (field_renders name_renders <| field_renders bytes_renders done_renders)
    (by decide) (by simp)

theorem Schedule.codec_renders : Schedule.codec.Renders 3 fun _ => True :=
  Fields.Renders.via
    (field_renders word32_renders <| field_renders Producer.codec_renders.list done_renders)
    (by decide) (by simp)

theorem Extension.codec_renders : Extension.codec.Renders 1 fun _ => True :=
  Fields.Renders.via
    (field_renders word16_renders <| field_renders bytes_renders done_renders)
    (by decide) (by simp)

theorem Header.codec_renders : Header.codec.Renders 4 fun _ => True :=
  Fields.Renders.via
    (field_renders word32_renders <| field_renders name_renders <| field_renders word16_renders <|
      field_renders digest32_renders <| field_renders digest32_renders <|
      field_renders digest32_renders <| field_renders word32_renders <|
      field_renders (Schedule.codec_renders.option nofun) <|
      field_renders Extension.codec_renders.list done_renders)
    (by decide) (by simp)

theorem SignedHeader.codec_renders : SignedHeader.codec.Renders 5 fun _ => True :=
  Fields.Renders.via
    (field_renders Header.codec_renders <| field_renders bytes_renders done_renders)
    (by decide) (by simp)

theorem Accumulator.codec_renders : Accumulator.codec.Renders 2 Accumulator.Consistent :=
  Fields.Renders.via
    (field_renders word64_renders <| field_renders digest32_renders.list done_renders)
    (by decide)
    (fun m hm => ⟨by simp, by
      simp [Accumulator.ofParts, show m.nodes.length = _ from hm, Except.toOption]⟩)

theorem BlockRecord.codec_renders : BlockRecord.codec.Renders 6 BlockRecord.Consistent :=
  Fields.Renders.via
    (field_renders digest32_renders <| field_renders word32_renders <|
      field_renders digest32_renders <| field_renders digest32_renders <|
      field_renders Accumulator.codec_renders <| field_renders SignedHeader.codec_renders <|
      field_renders flag_renders done_renders)
    (by decide) (by simp [BlockRecord.Consistent])

theorem FinalizedBlock.codec_renders : FinalizedBlock.codec.Renders 6 FinalizedBlock.Consistent :=
  Fields.Renders.via
    (field_renders digest32_renders <| field_renders word32_renders <|
      field_renders SignedHeader.codec_renders <|
      field_renders Accumulator.codec_renders done_renders)
    (by decide) (by simp [FinalizedBlock.Consistent])

theorem Transaction.codec_renders : Transaction.codec.Renders 6 fun _ => True :=
  Fields.Renders.via
    (field_renders digest32_renders <| field_renders Trace.codec_renders.list <|
      field_renders Receipt.codec_renders.list done_renders)
    (by decide) (by simp)

theorem Window.codec_renders : Window.codec.Renders 7 fun _ => True :=
  Fields.Renders.via
    (field_renders SignedHeader.codec_renders.list <|
      field_renders digest32_renders.list.list done_renders)
    (by decide) (by simp)

theorem Status.codec_renders : Status.codec.Renders 0 fun _ => True where
  plain s n _ := by cases s <;> exact .text _
  ofJson?_toJson s n _ _ := by cases s <;> simp [Status.codec, Json.ofString]

theorem ScheduleEvidence.codec_renders : ScheduleEvidence.codec.Renders 4 fun _ => True :=
  Fields.Renders.via
    (field_renders Schedule.codec_renders <|
      field_renders (digest32_renders.option nofun) done_renders)
    (by decide) (by simp)

theorem DepositEvidence.codec_renders : DepositEvidence.codec.Renders 4 fun _ => True :=
  Fields.Renders.via
    (field_renders digest32_renders <| field_renders Action.codec_renders <|
      field_renders Receipt.codec_renders <| field_renders digest32_renders.list <|
      field_renders digest32_renders.list done_renders)
    (by decide) (by simp)

theorem Job.codec_renders {ε : Type} {c : Codec ε} (h : c.Renders 4 fun _ => True) :
    (Job.codec c).Renders 8 Job.Consistent :=
  Fields.Renders.via
    (field_renders word32_renders <| field_renders digest32_renders <|
      field_renders Status.codec_renders <| field_renders Accumulator.codec_renders <|
      field_renders Window.codec_renders <| field_renders h done_renders)
    ⟨by simp [keys, RecordField.required], by decide⟩ (by simp [Job.Consistent])

theorem Snapshot.codec_renders : Snapshot.codec.Renders 10 Snapshot.Consistent :=
  Fields.Renders.via
    (field_renders BlockRecord.codec_renders.list <|
      field_renders (Job.codec_renders ScheduleEvidence.codec_renders).list <|
      field_renders (Job.codec_renders DepositEvidence.codec_renders).list <|
      field_renders (Schedule.codec_renders.option nofun) done_renders)
    (by decide)
    (fun p hp => ⟨⟨hp.blocks, hp.scheduleJobs, hp.depositJobs, by simp⟩, rfl⟩)

theorem ScheduleSubmission.codec_renders :
    ScheduleSubmission.codec.Renders 7 ScheduleSubmission.Consistent :=
  Fields.Renders.via
    (field_renders word32_renders <| field_renders (digest32_renders.option nofun) <|
      field_renders Schedule.codec_renders <| field_renders Accumulator.codec_renders <|
      field_renders SignedHeader.codec_renders.list <|
      field_renders digest32_renders.list.list done_renders)
    (by decide) (by simp [ScheduleSubmission.Consistent])

theorem DepositSubmission.codec_renders :
    DepositSubmission.codec.Renders 7 DepositSubmission.Consistent :=
  Fields.Renders.via
    (field_renders word32_renders <| field_renders digest32_renders <|
      field_renders Action.codec_renders <| field_renders Receipt.codec_renders <|
      field_renders digest32_renders.list <| field_renders Accumulator.codec_renders <|
      field_renders SignedHeader.codec_renders.list <|
      field_renders digest32_renders.list.list done_renders)
    (by decide) (by simp [DepositSubmission.Consistent])

theorem Verdict.codec_renders : Verdict.codec.Renders 1 fun _ => True :=
  Fields.Renders.via
    (field_renders flag_renders <| field_renders text_renders done_renders)
    (by decide) (by simp)

namespace Notification

def Consistent : Notification → Prop
  | .finalized b => b.Consistent
  | .applied _ => True

theorem plain_withTag {n : Nat} {members : List (String × Json)} (tag : String)
    (h : Json.Plain n (Json.record members)) : Json.Plain n (withTag tag (Json.record members)) := by
  obtain ⟨m, rfl, hm⟩ := h.of_record
  have hall : ∀ p ∈ ("type", Json.ofString tag) :: members, Json.Plain m p.2 :=
    List.forall_mem_cons.mpr ⟨.text tag, hm⟩
  exact .record hall

/-- The kind is taken from the record again, which has no member `type` of its own. -/
theorem ofJson?_withTag {n : Nat} {members : List (String × Json)} {tag : String} {x : Notification}
    (hplain : Json.Plain n (Json.record members)) (hkeys : "type" ∉ members.map Prod.fst)
    (hx : ofTagged? tag (Json.record members) = some x) :
    codec.ofJson? n (withTag tag (Json.record members)) = some x := by
  obtain ⟨k, hk⟩ := (plain_withTag tag hplain).exists_canonical?
  have htag : Json.membersOf "type" ((some "type", .text (some tag)) ::
      members.map fun p => (some p.1, p.2)) = [.text (some tag)] :=
    congrArg _ (Json.membersOf_eq_nil hkeys)
  have hrest : ((some "type", .text (some tag)) :: members.map fun p => (some p.1, p.2)).filter
      (fun m => m.1 ≠ some "type") = members.map fun p => (some p.1, p.2) := by
    rw [List.filter_cons_of_neg (by simp), List.filter_eq_self]
    intro p hp
    obtain ⟨m, hm, rfl⟩ := List.mem_map.mp hp
    have hne : m.1 ≠ "type" := fun he => hkeys (he ▸ List.mem_map_of_mem hm)
    simpa using hne
  simp only [codec, withTag, Json.record, Json.ofString] at hk ⊢
  rw [hk, htag]
  simp only [Option.isNone_some, Bool.false_eq_true, if_false]
  rw [hrest]
  exact hx

theorem codec_renders : codec.Renders 6 Consistent where
  plain x n hn := by
    cases x with
    | finalized b => exact plain_withTag _ (FinalizedBlock.codec_renders.plain b n hn)
    | applied t => exact plain_withTag _ (Transaction.codec_renders.plain t n hn)
  ofJson?_toJson x n hn hx := by
    cases x with
    | finalized b =>
      have hb := FinalizedBlock.codec_renders.ofJson?_toJson b maxDepth (by decide) hx
      refine ofJson?_withTag (FinalizedBlock.codec_renders.plain b n hn) ?_ ?_
      · simp [toMembers, RecordField.required]
      · exact congrArg (Option.map Notification.finalized) hb
    | applied t =>
      have ht := Transaction.codec_renders.ofJson?_toJson t maxDepth (by decide) trivial
      refine ofJson?_withTag (Transaction.codec_renders.plain t n hn) ?_ ?_
      · simp [toMembers, RecordField.required]
      · exact congrArg (Option.map Notification.applied) ht

end Notification

variable {α : Type} {c : Codec α} {sound : α → Prop}

theorem WireForm.renders (w : WireForm c sound) : c.Renders 10 sound := by
  cases w with
  | digest => exact digest32_renders.mono (by decide)
  | name => exact name_renders.mono (by decide)
  | permission => exact Permission.codec_renders.mono (by decide)
  | action => exact Action.codec_renders.mono (by decide)
  | receipt => exact Receipt.codec_renders.mono (by decide)
  | trace => exact Trace.codec_renders.mono (by decide)
  | asset => exact Asset.codec_renders.mono (by decide)
  | transfer => exact Transfer.codec_renders.mono (by decide)
  | producer => exact Producer.codec_renders.mono (by decide)
  | schedule => exact Schedule.codec_renders.mono (by decide)
  | extension => exact Extension.codec_renders.mono (by decide)
  | header => exact Header.codec_renders.mono (by decide)
  | signedHeader => exact SignedHeader.codec_renders.mono (by decide)
  | accumulator => exact Accumulator.codec_renders.mono (by decide)
  | record => exact BlockRecord.codec_renders.mono (by decide)
  | block => exact FinalizedBlock.codec_renders.mono (by decide)
  | transaction => exact Transaction.codec_renders.mono (by decide)
  | window => exact Window.codec_renders.mono (by decide)
  | status => exact Status.codec_renders.mono (by decide)
  | scheduleEvidence => exact ScheduleEvidence.codec_renders.mono (by decide)
  | depositEvidence => exact DepositEvidence.codec_renders.mono (by decide)
  | scheduleJob => exact (Job.codec_renders ScheduleEvidence.codec_renders).mono (by decide)
  | depositJob => exact (Job.codec_renders DepositEvidence.codec_renders).mono (by decide)
  | snapshot => exact Snapshot.codec_renders
  | scheduleSubmission => exact ScheduleSubmission.codec_renders.mono (by decide)
  | depositSubmission => exact DepositSubmission.codec_renders.mono (by decide)
  | verdict => exact Verdict.codec_renders.mono (by decide)

/-- All types. Notifications are read as texts only. -/
inductive TextForm : {α : Type} → Codec α → (α → Prop) → Prop
  | wire {α : Type} {c : Codec α} {sound : α → Prop} (w : WireForm c sound) : TextForm c sound
  | notification : TextForm Notification.codec Notification.Consistent

namespace TextForm

theorem renders (w : TextForm c sound) : c.Renders 10 sound := by
  cases w with
  | wire w => exact w.renders
  | notification => exact Notification.codec_renders.mono (by decide)

/-- A text reads as the value that it was written for, which is written as the same text again. -/
theorem printed_reads_back (w : TextForm c sound) {a : α} (ha : sound a) :
    c.parse? (c.print a) = some a ∧ (c.parse? (c.print a)).map c.print = some (c.print a) := by
  have hr := w.renders.parse?_print (by decide) ha
  exact ⟨hr, by rw [hr, Option.map_some]⟩

end TextForm

namespace Sample

/-- A block with three blocks before it that announces a schedule. -/
def lateAnnouncement : FinalizedBlock :=
  { plainBlock 4 (some (schedule 1)) with history := .ofLeaves [blockId 1, blockId 2, blockId 3] }

end Sample

theorem TextForm.lateAnnouncement_reads_back :
    (Notification.finalized Sample.lateAnnouncement).Consistent ∧
      Notification.codec.parse? (Notification.codec.print (.finalized Sample.lateAnnouncement)) =
        some (.finalized Sample.lateAnnouncement) := by
  have hc : Sample.lateAnnouncement.history.Consistent := by decide +kernel
  exact ⟨hc, (TextForm.notification.printed_reads_back (a := .finalized Sample.lateAnnouncement) hc).1⟩

end FinalityRelay
