import FinalityRelay.Proofs.BlockStep
import FinalityRelay.Proofs.SnapshotForm
import FinalityRelay.Sample.Chain

/-! The schedule that a block announces. Its record only marks that there is one, and the mark never hides
it; of several announcements in a header the first one that can be read counts. -/

namespace FinalityRelay

namespace Extension

variable {e : Extension} {s : Schedule}

/-- An extension with the id of announcements whose data starts with the bytes of a schedule. -/
def Carries (e : Extension) (s : Schedule) : Prop :=
  e.id = 1 ∧ ∃ rest, Schedule.codec.read e.data = .ok (s, rest)

theorem schedule?_eq_some_iff : e.schedule? = some s ↔ e.Carries s := by
  rw [schedule?, Carries]
  by_cases hid : e.id = scheduleId
  · rw [if_pos hid, and_iff_right (show e.id = 1 from hid)]
    cases hr : Schedule.codec.read e.data with
    | error _ => simp [Except.toOption]
    | ok p => simp [Except.toOption, Prod.ext_iff]
  · rw [if_neg hid]
    exact iff_of_false (by simp) fun h => hid h.1

theorem schedule?_eq_none_iff : e.schedule? = none ↔ ∀ s, ¬e.Carries s := by
  simp only [Option.eq_none_iff_forall_ne_some, ne_eq, schedule?_eq_some_iff]

/-- An announcement is read as the schedule it was made for. -/
theorem ofSchedule_carries (h : (Schedule.codec.write s).length < 2 ^ 64) : (ofSchedule s).Carries s := by
  have hr := Schedule.codec_roundTrips.read_write trivial h []
  rw [List.append_nil] at hr
  exact ⟨rfl, [], hr⟩

end Extension

namespace Header

variable {h : Header} {s : Schedule}

/-- A header announces its new producers, or else what the first extension carries that carries a
schedule. -/
def Announces (h : Header) (s : Schedule) : Prop :=
  h.newProducers = some s ∨ h.newProducers = none ∧ ∃ before e after,
    h.extensions = before ++ e :: after ∧ e.Carries s ∧ ∀ x ∈ before, ∀ s', ¬x.Carries s'

theorem announced?_eq_some_iff : h.announced? = some s ↔ h.Announces s := by
  rw [announced?, Announces]
  cases h.newProducers with
  | some s' => simp
  | none =>
    simp only [List.findSome?_eq_some_iff, Extension.schedule?_eq_some_iff, Extension.schedule?_eq_none_iff,
      reduceCtorEq, false_or, true_and]

end Header

namespace FinalizedBlock

/-- The record of a block gives the schedule that its header announces. An announcement is found among any
other extensions, unless there are new producers or a schedule before it can be read. A byte string is
shorter than 2^64 bytes. -/
theorem announcement_found (b : FinalizedBlock) :
    b.record.announced? = b.header.header.announced? ∧
    (∀ s, b.header.header.announced? = some s ↔ b.header.header.Announces s) ∧
    ∀ s before after, (Schedule.codec.write s).length < 2 ^ 64 →
      b.header.header.newProducers = none →
      b.header.header.extensions = before ++ .ofSchedule s :: after →
      (∀ e ∈ before, ∀ s', ¬e.Carries s') → b.record.announced? = some s := by
  refine ⟨b.announced?_record, fun s => Header.announced?_eq_some_iff, fun s before after hl hn he hb => ?_⟩
  rw [b.announced?_record, Header.announced?_eq_some_iff]
  exact .inr ⟨hn, before, _, after, he, Extension.ofSchedule_carries hl, hb⟩

end FinalizedBlock

namespace Sample

/-- A block that announces a schedule between extensions of another kind or without a schedule, and another
schedule after it. -/
def crowdedBlock : FinalizedBlock :=
  { plainBlock 9 none with
    header.header.extensions :=
      [⟨2, Schedule.codec.write (schedule 5)⟩, ⟨1, [0xff]⟩, .ofSchedule (schedule 2),
        .ofSchedule (schedule 3)] }

end Sample

theorem FinalizedBlock.announcement_found_crowdedBlock :
    (Schedule.codec.write (Sample.schedule 2)).length < 2 ^ 64 ∧
      Sample.crowdedBlock.header.header.newProducers = none ∧
      Sample.crowdedBlock.record.announced? = some (Sample.schedule 2) := by
  have hl : (Schedule.codec.write (Sample.schedule 2)).length < 2 ^ 64 := by decide +kernel
  refine ⟨hl, rfl, (announcement_found Sample.crowdedBlock).2.2 (Sample.schedule 2)
    [⟨2, Schedule.codec.write (Sample.schedule 5)⟩, ⟨1, [0xff]⟩] [.ofSchedule (Sample.schedule 3)]
    hl rfl rfl fun e he => ?_⟩
  refine Extension.schedule?_eq_none_iff.mp ?_
  revert e
  decide +kernel

end FinalityRelay
