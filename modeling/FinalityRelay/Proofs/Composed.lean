import FinalityRelay.Relay.Snapshot

/-! The binary forms of a snapshot, as put together from those of numbers, byte strings, names and
digests. What is true of these, and kept by every way to put forms together, is true of a snapshot. -/

namespace FinalityRelay

/-- The codecs that are put together from a few plain ones. One that goes by way of another accepts only
parts that are those of a value. -/
inductive Codec.Composed : {α : Type} → Codec α → Prop
  | word16 : Composed word16
  | word32 : Composed word32
  | word64 : Composed word64
  | flag : Composed flag
  | bytes : Composed bytes
  | digest32 : Composed digest32
  | name : Composed name
  | status : Composed Status.codec
  | option {α : Type} {c : Codec α} (h : Composed c) : Composed c.option
  | list {α : Type} {c : Codec α} (h : Composed c) : Composed c.list
  | pair {α β : Type} {c : Codec α} {d : Codec β} (h : Composed c) (h' : Composed d) :
    Composed (c.pair d)
  | done : Composed Fields.done.codec
  | field {α β : Type} {f : RecordField α} {rest : Fields β} (h : Composed f.codec)
    (h' : Composed rest.codec) : Composed (Fields.field f rest).codec
  | via {α β : Type} {c : Codec β} {parts : α → β} {ofParts? : β → Option α} (h : Composed c)
    (hp : ∀ b a, ofParts? b = some a → parts a = b) : Composed (c.via parts ofParts?)

open Codec

theorem Permission.codec_composed : Composed Permission.codec :=
  .via (.field .name <| .field .name .done) fun _ _ h => by cases h; rfl

theorem Action.codec_composed : Composed Action.codec :=
  .via (.field .name <| .field .name <| .field Permission.codec_composed.list <|
    .field .bytes .done) fun _ _ h => by cases h; rfl

theorem Receipt.codec_composed : Composed Receipt.codec :=
  .via (.field .name <| .field .digest32 <| .field .word64 <| .field .word64 <|
    .field (Composed.pair .name .word64).list <| .field .word32 <| .field .word32 .done)
    fun _ _ h => by cases h; rfl

theorem Producer.codec_composed : Composed Producer.codec :=
  .via (.field .name <| .field .bytes .done) fun _ _ h => by cases h; rfl

theorem Schedule.codec_composed : Composed Schedule.codec :=
  .via (.field .word32 <| .field Producer.codec_composed.list .done) fun _ _ h => by cases h; rfl

theorem Extension.codec_composed : Composed Extension.codec :=
  .via (.field .word16 <| .field .bytes .done) fun _ _ h => by cases h; rfl

theorem Header.codec_composed : Composed Header.codec :=
  .via (.field .word32 <| .field .name <| .field .word16 <| .field .digest32 <| .field .digest32 <|
    .field .digest32 <| .field .word32 <| .field Schedule.codec_composed.option <|
    .field Extension.codec_composed.list .done) fun _ _ h => by cases h; rfl

theorem SignedHeader.codec_composed : Composed SignedHeader.codec :=
  .via (.field Header.codec_composed <| .field .bytes .done) fun _ _ h => by cases h; rfl

theorem Accumulator.codec_composed : Composed Accumulator.codec := by
  refine .via (.field .word64 <| .field (Composed.list .digest32) .done) fun b a h => ?_
  simp only [ofParts] at h
  split at h
  · cases h
    rfl
  · simp [Except.toOption] at h

theorem BlockRecord.codec_composed : Composed BlockRecord.codec :=
  .via (.field .digest32 <| .field .word32 <| .field .digest32 <| .field .digest32 <|
    .field Accumulator.codec_composed <| .field SignedHeader.codec_composed <| .field .flag .done)
    fun _ _ h => by cases h; rfl

theorem Window.codec_composed : Composed Window.codec :=
  .via (.field SignedHeader.codec_composed.list <| .field (Composed.list <| .list .digest32) .done)
    fun _ _ h => by cases h; rfl

theorem ScheduleEvidence.codec_composed : Composed ScheduleEvidence.codec :=
  .via (.field Schedule.codec_composed <| .field (Composed.option .digest32) .done)
    fun _ _ h => by cases h; rfl

theorem DepositEvidence.codec_composed : Composed DepositEvidence.codec :=
  .via (.field .digest32 <| .field Action.codec_composed <| .field Receipt.codec_composed <|
    .field (Composed.list .digest32) <| .field (Composed.list .digest32) .done)
    fun _ _ h => by cases h; rfl

theorem Job.codec_composed {ε : Type} {c : Codec ε} (h : Composed c) : Composed (Job.codec c) :=
  .via (.field .word32 <| .field .digest32 <| .field .status <| .field Accumulator.codec_composed <|
    .field Window.codec_composed <| .field h .done) fun _ _ h => by cases h; rfl

theorem Snapshot.codec_composed : Composed Snapshot.codec :=
  .via (.field BlockRecord.codec_composed.list <|
    .field (Job.codec_composed ScheduleEvidence.codec_composed).list <|
    .field (Job.codec_composed DepositEvidence.codec_composed).list <|
    .field Schedule.codec_composed.option .done) fun _ _ h => by cases h; rfl

end FinalityRelay
