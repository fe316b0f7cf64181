import FinalityRelay.Proofs.RoundTrip
import FinalityRelay.Relay.Snapshot

/-! The snapshot file gives back the snapshot that was written to it, or refuses to be read, which it
does not do if its accumulators are consistent and it is shorter than 2^64 bytes. -/

namespace FinalityRelay

open Codec Fields

theorem Permission.codec_roundTrips : Permission.codec.RoundTrips fun _ => True :=
  RoundTrips.via_parts
    (field_roundTrips name_roundTrips <| field_roundTrips name_roundTrips done_roundTrips)
    (fun _ => rfl) (by simp)

theorem Permission.write_ne_nil (p : Permission) : Permission.codec.write p ≠ [] :=
  write_via_ne_nil (write_field_ne_nil fun _ => Varint.write_ne_nil _) p

theorem Action.codec_roundTrips : Action.codec.RoundTrips fun _ => True :=
  RoundTrips.via_parts
    (field_roundTrips name_roundTrips <| field_roundTrips name_roundTrips <|
      field_roundTrips (Permission.codec_roundTrips.list Permission.write_ne_nil) <|
      field_roundTrips bytes_roundTrips done_roundTrips)
    (fun _ => rfl) (by simp)

theorem Receipt.codec_roundTrips : Receipt.codec.RoundTrips fun _ => True :=
  RoundTrips.via_parts
    (field_roundTrips name_roundTrips <| field_roundTrips digest32_roundTrips <|
      field_roundTrips word64_roundTrips <| field_roundTrips word64_roundTrips <|
      field_roundTrips ((name_roundTrips.pair word64_roundTrips).list
        (write_pair_ne_nil fun _ => Varint.write_ne_nil _)) <|
      field_roundTrips word32_roundTrips <| field_roundTrips word32_roundTrips done_roundTrips)
    (fun _ => rfl) (by simp)

theorem Producer.codec_roundTrips : Producer.codec.RoundTrips fun _ => True :=
  RoundTrips.via_parts
    (field_roundTrips name_roundTrips <| field_roundTrips bytes_roundTrips done_roundTrips)
    (fun _ => rfl) (by simp)

theorem Schedule.codec_roundTrips : Schedule.codec.RoundTrips fun _ => True :=
  RoundTrips.via_parts
    (field_roundTrips word32_roundTrips <|
      field_roundTrips (Producer.codec_roundTrips.list
        (write_via_ne_nil (write_field_ne_nil fun _ => Varint.write_ne_nil _))) done_roundTrips)
    (fun _ => rfl) (by simp)

theorem Extension.codec_roundTrips : Extension.codec.RoundTrips fun _ => True :=
  RoundTrips.via_parts
    (field_roundTrips word16_roundTrips <| field_roundTrips bytes_roundTrips done_roundTrips)
    (fun _ => rfl) (by simp)

theorem Header.codec_roundTrips : Header.codec.RoundTrips fun _ => True :=
  RoundTrips.via_parts
    (field_roundTrips word32_roundTrips <| field_roundTrips name_roundTrips <|
      field_roundTrips word16_roundTrips <| field_roundTrips digest32_roundTrips <|
      field_roundTrips digest32_roundTrips <| field_roundTrips digest32_roundTrips <|
      field_roundTrips word32_roundTrips <|
      field_roundTrips Schedule.codec_roundTrips.option <|
      field_roundTrips (Extension.codec_roundTrips.list
        (write_via_ne_nil (write_field_ne_nil fun _ => Varint.write_ne_nil _))) done_roundTrips)
    (fun _ => rfl) (by simp)

theorem Header.write_ne_nil (h : Header) : Header.codec.write h ≠ [] :=
  write_via_ne_nil (write_field_ne_nil fun _ => Varint.write_ne_nil _) h

theorem SignedHeader.codec_roundTrips : SignedHeader.codec.RoundTrips fun _ => True :=
  RoundTrips.via_parts
    (field_roundTrips Header.codec_roundTrips <| field_roundTrips bytes_roundTrips done_roundTrips)
    (fun _ => rfl) (by simp)

theorem SignedHeader.write_ne_nil (h : SignedHeader) : SignedHeader.codec.write h ≠ [] :=
  write_via_ne_nil (write_field_ne_nil Header.write_ne_nil) h

theorem Digest.write_ne_nil (d : Digest) : digest32.write d ≠ [] := by
  have := d.length_bytes
  simp only [digest32, ne_eq, ← List.length_eq_zero_iff]
  omega

theorem digests_roundTrips : digest32.list.RoundTrips fun _ => True :=
  (digest32_roundTrips.list Digest.write_ne_nil).mono (by simp)

theorem gaps_roundTrips : digest32.list.list.RoundTrips fun _ => True :=
  (digests_roundTrips.list write_list_ne_nil).mono (by simp)

/-- An accumulator with as many nodes as its count asks for; decoding accepts no other. -/
def Accumulator.Consistent (m : Accumulator) : Prop :=
  m.nodes.length = Accumulator.expectedNodes m.count.toNat

instance (m : Accumulator) : Decidable m.Consistent := inferInstanceAs (Decidable (_ = _))

theorem Accumulator.codec_roundTrips : Accumulator.codec.RoundTrips Accumulator.Consistent := by
  refine RoundTrips.via
    (field_roundTrips word64_roundTrips <| field_roundTrips digests_roundTrips done_roundTrips)
    (fun a b hb => ?_) (fun a ha => ⟨by simp, ?_⟩)
  · simp only [Accumulator.ofParts] at hb
    split at hb
    · exact (Option.some.inj hb).symm
    · simp [Except.toOption] at hb
  · simp only [Accumulator.ofParts, if_pos (show a.nodes.length = _ from ha)]
    rfl

def BlockRecord.Consistent (r : BlockRecord) : Prop := r.history.Consistent

theorem BlockRecord.codec_roundTrips : BlockRecord.codec.RoundTrips BlockRecord.Consistent :=
  RoundTrips.via_parts
    (field_roundTrips digest32_roundTrips <| field_roundTrips word32_roundTrips <|
      field_roundTrips digest32_roundTrips <| field_roundTrips digest32_roundTrips <|
      field_roundTrips Accumulator.codec_roundTrips <|
      field_roundTrips SignedHeader.codec_roundTrips <|
      field_roundTrips flag_roundTrips done_roundTrips)
    (fun _ => rfl) (by simp [BlockRecord.Consistent])

theorem Window.codec_roundTrips : Window.codec.RoundTrips fun _ => True :=
  RoundTrips.via_parts
    (field_roundTrips (SignedHeader.codec_roundTrips.list SignedHeader.write_ne_nil) <|
      field_roundTrips gaps_roundTrips done_roundTrips)
    (fun _ => rfl) (by simp)

theorem ScheduleEvidence.codec_roundTrips : ScheduleEvidence.codec.RoundTrips fun _ => True :=
  RoundTrips.via_parts
    (field_roundTrips Schedule.codec_roundTrips <|
      field_roundTrips digest32_roundTrips.option done_roundTrips)
    (fun _ => rfl) (by simp)

theorem DepositEvidence.codec_roundTrips : DepositEvidence.codec.RoundTrips fun _ => True :=
  RoundTrips.via_parts
    (field_roundTrips digest32_roundTrips <| field_roundTrips Action.codec_roundTrips <|
      field_roundTrips Receipt.codec_roundTrips <| field_roundTrips digests_roundTrips <|
      field_roundTrips digests_roundTrips done_roundTrips)
    (fun _ => rfl) (by simp)

theorem Status.codec_roundTrips : Status.codec.RoundTrips fun _ => True :=
  .of_read_write fun s rest => by cases s <;> rfl

namespace Job

variable {ε : Type}

def Consistent (j : Job ε) : Prop := j.anchor.Consistent

theorem codec_roundTrips {c : Codec ε} (h : c.RoundTrips fun _ => True) :
    (Job.codec c).RoundTrips Job.Consistent :=
  RoundTrips.via_parts
    (field_roundTrips word32_roundTrips <| field_roundTrips digest32_roundTrips <|
      field_roundTrips Status.codec_roundTrips <|
      field_roundTrips Accumulator.codec_roundTrips <|
      field_roundTrips Window.codec_roundTrips <| field_roundTrips h done_roundTrips)
    (fun _ => rfl) (by simp [Job.Consistent])

theorem write_ne_nil (c : Codec ε) (j : Job ε) : (Job.codec c).write j ≠ [] :=
  write_via_ne_nil (write_field_ne_nil fun _ => Varint.write_ne_nil _) j

end Job

namespace Snapshot

structure Consistent (p : Snapshot) : Prop where
  blocks : ∀ r ∈ p.blocks, r.Consistent
  scheduleJobs : ∀ j ∈ p.scheduleJobs, j.Consistent
  depositJobs : ∀ j ∈ p.depositJobs, j.Consistent

theorem codec_roundTrips : Snapshot.codec.RoundTrips Snapshot.Consistent :=
  RoundTrips.via_parts
    (field_roundTrips (BlockRecord.codec_roundTrips.list
        (write_via_ne_nil (write_field_ne_nil Digest.write_ne_nil))) <|
      field_roundTrips ((Job.codec_roundTrips ScheduleEvidence.codec_roundTrips).list
        (Job.write_ne_nil _)) <|
      field_roundTrips ((Job.codec_roundTrips DepositEvidence.codec_roundTrips).list
        (Job.write_ne_nil _)) <|
      field_roundTrips Schedule.codec_roundTrips.option done_roundTrips)
    (fun _ => rfl) (fun p hp => ⟨hp.blocks, hp.scheduleJobs, hp.depositJobs, by simp⟩)

theorem decode_body (body : List UInt8) : decode (magic ++ version :: body) =
    match codec.read body with
    | .error e => .error (.codec e)
    | .ok (q, []) => .ok q
    | .ok (_, b :: rest) => .error (.trailingBytes (b :: rest).length) := by
  have ht : (magic ++ version :: body).take 4 = magic := rfl
  rw [decode, if_neg (not_not.mpr ht)]
  exact if_neg (not_not.mpr rfl)

theorem encode_eq (p : Snapshot) : p.encode = magic ++ version :: codec.write p := rfl

/-- What a file is read as is what was written to it. -/
theorem eq_of_decode_encode {p q : Snapshot} (h : decode p.encode = .ok q) : q = p := by
  rw [encode_eq, decode_body] at h
  split at h
  · simp at h
  · rename_i q' hr
    rw [← List.append_nil (codec.write p)] at hr
    rw [← Except.ok.inj h]
    exact (codec_roundTrips.eq_of_read hr).1
  · simp at h

theorem read_write {p : Snapshot} (hp : p.Consistent) (hl : p.encode.length < 2 ^ 64)
    (rest : List UInt8) : codec.read (codec.write p ++ rest) = .ok (p, rest) := by
  have hw : (codec.write p).length < 2 ^ 64 := by
    simp only [encode, List.length_append, List.length_cons] at hl
    omega
  exact codec_roundTrips.read_write hp hw rest

theorem decode_encode {p : Snapshot} (hp : p.Consistent) (hl : p.encode.length < 2 ^ 64) :
    decode p.encode = .ok p := by
  have hr := read_write hp hl []
  rw [List.append_nil] at hr
  rw [encode_eq, decode_body, hr]

end Snapshot

end FinalityRelay
