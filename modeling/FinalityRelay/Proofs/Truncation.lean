import FinalityRelay.Proofs.Composed
import FinalityRelay.Proofs.WireTypes

/-! A snapshot file that is cut short or goes on after its end is refused. A reader works its way from the
front: it gives the same answer when more bytes are put behind, unless it ran out of them. -/

namespace FinalityRelay

namespace Reader

variable {α β : Type} {r : Reader α} {f : α → Reader β}

/-- More bytes behind change nothing but what is left over, unless the reader ran out of bytes. -/
structure Stable (r : Reader α) : Prop where
  ok : ∀ {bs a rest}, r bs = .ok (a, rest) → ∀ more, r (bs ++ more) = .ok (a, rest ++ more)
  error : ∀ {bs e}, r bs = .error e → e ≠ .unexpectedEnd → ∀ more, r (bs ++ more) = .error e

theorem Stable.pure (a : α) : (Pure.pure a : Reader α).Stable where
  ok {bs b rest} h more := by
    obtain ⟨rfl, rfl⟩ := Prod.mk.inj (Except.ok.inj h)
    rfl
  error {bs e} h := by simp at h

theorem Stable.fail (e : BinaryError) : (Reader.fail e : Reader α).Stable where
  ok {bs a rest} h := by simp at h
  error {bs e'} h _ _ := h

theorem Stable.byte : byte.Stable where
  ok {bs a rest} h more := by
    cases bs with
    | nil => simp [Reader.byte] at h
    | cons b bs =>
      obtain ⟨rfl, rfl⟩ := Prod.mk.inj (Except.ok.inj h)
      rfl
  error {bs e} h hne := by
    cases bs with
    | nil => exact absurd (Except.error.inj h).symm hne
    | cons b bs => simp [Reader.byte] at h

theorem Stable.take (n : Nat) : (take n).Stable where
  ok {bs a rest} h more := by
    simp only [Reader.take] at h
    split at h
    · rename_i hlen
      have hle : n ≤ bs.length := by
        rw [List.length_take] at hlen
        omega
      obtain ⟨rfl, rfl⟩ := Prod.mk.inj (Except.ok.inj h)
      simp only [Reader.take, List.take_append_of_le_length hle, List.drop_append_of_le_length hle,
        if_pos hlen]
    · simp at h
  error {bs e} h hne := by
    simp only [Reader.take] at h
    split at h
    · simp at h
    · exact absurd (Except.error.inj h).symm hne

theorem Stable.bind (h : r.Stable) (hf : ∀ a, (f a).Stable) : (r >>= f).Stable where
  ok {bs a rest} hr more := by
    cases hb : r bs with
    | error e => simp [bind_of_error hb] at hr
    | ok p =>
      rw [bind_of_ok hb] at hr
      rw [bind_of_ok (h.ok hb more)]
      exact (hf p.1).ok hr more
  error {bs e} hr hne more := by
    cases hb : r bs with
    | error e' =>
      rw [bind_of_error hb] at hr
      rw [bind_of_error (h.error hb (Except.error.inj hr ▸ hne) more)]
      exact hr
    | ok p =>
      rw [bind_of_ok hb] at hr
      rw [bind_of_ok (h.ok hb more)]
      exact (hf p.1).error hr hne more

theorem Stable.repeated (h : r.Stable) (n : Nat) : (r.repeated n).Stable := by
  induction n with
  | zero => exact .pure []
  | succ n ih => exact h.bind fun a => ih.bind fun as => .pure (a :: as)

/-- What is read to its last byte cannot be read without it. -/
theorem Stable.read_cut (h : r.Stable) {front more : List UInt8} {a : α}
    (hr : r (front ++ more) = .ok (a, [])) (hne : more ≠ []) : r front = .error .unexpectedEnd := by
  cases hf : r front with
  | ok p =>
    rw [h.ok hf more] at hr
    simp [hne] at hr
  | error e =>
    by_contra he
    rw [h.error hf (fun h => he (by rw [h])) more] at hr
    simp at hr

end Reader

open Reader

theorem Varint.stable_readUpTo (lastByte k : Nat) : (readUpTo lastByte k).Stable := by
  induction k with
  | zero => exact .fail _
  | succ k ih =>
    refine Stable.byte.bind fun b => ?_
    split
    · split
      · exact .fail _
      · exact .pure _
    · exact ih.bind fun n => .pure _

theorem Varint.stable_read (w : Width) : (read w).Stable := stable_readUpTo w.lastByte w.bytes

theorem Codec.Composed.stable {α : Type} {c : Codec α} (h : c.Composed) : c.read.Stable := by
  induction h with
  | word16 => exact (Varint.stable_read .word16).bind fun n => .pure _
  | word32 => exact (Varint.stable_read .word32).bind fun n => .pure _
  | word64 => exact (Varint.stable_read .word64).bind fun n => .pure _
  | flag =>
    refine Stable.byte.bind fun b => ?_
    split
    · exact .pure _
    · exact .pure _
    · exact .fail _
  | bytes => exact (Varint.stable_read .word64).bind fun n => .take n
  | digest32 =>
    refine (Stable.take 32).bind fun bs => ?_
    split
    · exact .pure _
    · exact .fail _
  | name =>
    exact ((Varint.stable_read .word64).bind fun n => .pure (UInt64.ofNat n)).bind fun v => .pure _
  | status =>
    refine (Varint.stable_read .word32).bind fun n => ?_
    split
    · exact .pure _
    · exact .pure _
    · exact .pure _
    · exact .fail _
  | option _ ih =>
    refine Stable.byte.bind fun b => ?_
    split
    · exact .pure _
    · exact ih.bind fun a => .pure _
    · exact .fail _
  | list _ ih => exact (Varint.stable_read .word64).bind fun n => ih.repeated n
  | pair _ _ ih ih' => exact ih.bind fun a => ih'.bind fun b => .pure _
  | done => exact .pure _
  | field _ _ ih ih' => exact ih.bind fun a => ih'.bind fun b => .pure _
  | via _ _ ih =>
    refine ih.bind fun b => ?_
    split
    · exact .pure _
    · exact .fail _

namespace Snapshot

variable {p : Snapshot} {front body mark : List UInt8}

theorem decode_of_mark_ne (hl : mark.length = 4) (hm : mark ≠ magic) (body : List UInt8) :
    decode (mark ++ body) = .error .invalidMagic := by
  have ht : (mark ++ body).take 4 = mark := by rw [← hl, List.take_left]
  rw [decode, ht, if_pos hm]

theorem decode_of_length_lt (h : front.length < 4) : decode front = .error .invalidMagic := by
  refine if_pos fun ht => ?_
  have hlen := congrArg List.length ht
  rw [List.length_take, magic] at hlen
  simp only [List.length_cons, List.length_nil] at hlen
  omega

theorem decode_of_version_ne {v : UInt8} (hv : v ≠ version) (body : List UInt8) :
    decode (magic ++ v :: body) = .error (.unsupportedVersion v) := by
  have ht : (magic ++ v :: body).take 4 = magic := rfl
  rw [decode, if_neg (not_not.mpr ht)]
  exact if_pos hv

theorem decode_magic : decode magic = .error (.codec .unexpectedEnd) := rfl

/-- The file of a snapshot is read as that snapshot. It is refused with bytes behind it, whose number is
told, and when it is cut short, wherever the cut falls. A wrong mark or version is refused whatever
follows. -/
theorem refuses_cut_or_extended (hp : p.Consistent) (hl : p.encode.length < 2 ^ 64) :
    decode p.encode = .ok p ∧
    (∀ tail, tail ≠ [] → decode (p.encode ++ tail) = .error (.trailingBytes tail.length)) ∧
    (∀ front, front <+: p.encode → front ≠ p.encode →
      decode front = .error (if front.length < 4 then .invalidMagic else .codec .unexpectedEnd)) ∧
    (∀ mark body, mark.length = 4 → mark ≠ magic → decode (mark ++ body) = .error .invalidMagic) ∧
    ∀ v body, v ≠ version → decode (magic ++ v :: body) = .error (.unsupportedVersion v) := by
  refine ⟨decode_encode hp hl, fun tail ht => ?_, fun front hf hne => ?_,
    fun mark body hlen hm => decode_of_mark_ne hlen hm body, fun v body hv => decode_of_version_ne hv body⟩
  · obtain ⟨b, rest, rfl⟩ := List.exists_cons_of_ne_nil ht
    rw [encode_eq, List.append_assoc, List.cons_append, decode_body, read_write hp hl]
  · by_cases hlt : front.length < 4
    · rw [if_pos hlt, decode_of_length_lt hlt]
    rw [if_neg hlt]
    -- What is left of the file starts with the mark, and the cut falls into the rest of it.
    obtain ⟨more, hmore⟩ := hf
    have hmagic : front.take 4 = magic := by
      have htake := congrArg (List.take 4) hmore
      rwa [List.take_append_of_le_length (by omega)] at htake
    have hrest : front.drop 4 ++ more = version :: codec.write p := by
      have hdrop := congrArg (List.drop 4) hmore
      rwa [List.drop_append_of_le_length (by omega)] at hdrop
    rw [← List.take_append_drop 4 front, hmagic]
    cases hd : front.drop 4 with
    | nil => rw [List.append_nil, decode_magic]
    | cons v body =>
      rw [hd] at hrest
      obtain ⟨rfl, hbody⟩ := List.cons.inj hrest
      have hm : more ≠ [] := by
        rintro rfl
        exact hne (by rw [← hmore, List.append_nil])
      have hr := read_write hp hl []
      rw [List.append_nil, ← hbody] at hr
      rw [decode_body, codec_composed.stable.read_cut hr hm]

end Snapshot

theorem Snapshot.refuses_cut_or_extended_saved :
    Sample.saved.Consistent ∧ Sample.saved.encode.length < 2 ^ 64 ∧
      decode (Sample.saved.encode ++ [1, 2, 3]) = .error (.trailingBytes 3) ∧
      decode (Sample.saved.encode.take 300) = .error (.codec .unexpectedEnd) := by
  have hrecord : (Sample.record 4).history.Consistent := by decide +kernel
  have hanchor : (Accumulator.ofLeaves
      [Sample.blockId 1, Sample.blockId 2, Sample.blockId 3]).Consistent := by decide +kernel
  have hc : Sample.saved.Consistent :=
    ⟨List.forall_mem_singleton.mpr hrecord, List.forall_mem_singleton.mpr hanchor,
      List.forall_mem_singleton.mpr hanchor⟩
  have hlong : 300 < Sample.saved.encode.length := by decide +kernel
  have hl : Sample.saved.encode.length < 2 ^ 64 := by decide +kernel
  obtain ⟨-, htail, hcut, -⟩ := refuses_cut_or_extended hc hl
  have hlen : (Sample.saved.encode.take 300).length = 300 := by
    rw [List.length_take, Nat.min_eq_left hlong.le]
  have hfront := hcut (Sample.saved.encode.take 300) (List.take_prefix 300 _) fun he => by
    rw [he] at hlen
    omega
  rw [hlen] at hfront
  exact ⟨hc, hl, htail [1, 2, 3] (by simp), hfront⟩

end FinalityRelay
