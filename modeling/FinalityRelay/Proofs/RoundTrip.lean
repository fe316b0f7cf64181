import FinalityRelay.Codec.Record
import Mathlib

/-! Reading undoes writing, whatever bytes follow. A value that its own form cannot hold, such as a list
of 2^64 elements or an accumulator with too few nodes, is refused and never read as another one. -/

namespace FinalityRelay

namespace Reader

variable {α β : Type} {r : Reader α} {f : α → Reader β} {bs rest : List UInt8}

@[simp] theorem pure_apply (a : α) (bs : List UInt8) : (pure a : Reader α) bs = .ok (a, bs) := rfl

@[simp] theorem fail_apply (e : BinaryError) (bs : List UInt8) :
    (fail e : Reader α) bs = .error e := rfl

theorem bind_of_ok {a : α} (h : r bs = .ok (a, rest)) : (r >>= f) bs = f a rest := by
  simp only [bind, h]

theorem bind_of_error {e : BinaryError} (h : r bs = .error e) : (r >>= f) bs = .error e := by
  simp only [bind, h]

theorem byte_cons (b : UInt8) (bs : List UInt8) : byte (b :: bs) = .ok (b, bs) := rfl

theorem take_append {front : List UInt8} {n : Nat} (h : front.length = n) (rest : List UInt8) :
    take n (front ++ rest) = .ok (front, rest) := by
  simp [take, ← h]

end Reader

namespace Varint

theorem write_ne_nil (n : Nat) : write n ≠ [] := by
  rw [write]
  split <;> simp

/-- A number is read back if and only if the given count of bytes can hold it. -/
theorem readUpTo_write {lastByte : Nat} (hl : lastByte < 128) (k n : Nat) (rest : List UInt8) :
    readUpTo lastByte (k + 1) (write n ++ rest) =
      if n < (lastByte + 1) * 128 ^ k then .ok (n, rest) else .error .badVarint := by
  induction k generalizing n with
  | zero =>
    rw [write]
    split
    · rename_i hn
      have hb : (UInt8.ofNat n).toNat = n := by simp; omega
      rw [List.singleton_append, readUpTo, Reader.bind_of_ok (Reader.byte_cons _ _), hb, if_pos hn]
      by_cases hlt : lastByte < n
      · rw [if_pos ⟨rfl, hlt⟩, if_neg (by omega), Reader.fail_apply]
      · rw [if_neg (by omega), if_pos (by omega), Reader.pure_apply]
    · rename_i hn
      have hb : (UInt8.ofNat (n % 128 + 128)).toNat = n % 128 + 128 := by simp; omega
      have hf : readUpTo lastByte 0 (write (n / 128) ++ rest) = .error .badVarint := rfl
      rw [List.cons_append, readUpTo, Reader.bind_of_ok (Reader.byte_cons _ _), hb,
        if_neg (by omega), Reader.bind_of_error hf, if_neg (by omega)]
  | succ k ih =>
    have hpos : 0 < 128 ^ k := by positivity
    rw [write]
    split
    · rename_i hn
      have hb : (UInt8.ofNat n).toNat = n := by simp; omega
      have hlt : n < (lastByte + 1) * 128 ^ (k + 1) := by
        rw [Nat.pow_succ]
        nlinarith
      rw [List.singleton_append, readUpTo, Reader.bind_of_ok (Reader.byte_cons _ _), hb, if_pos hn,
        if_neg (by omega), if_pos hlt, Reader.pure_apply]
    · rename_i hn
      have hb : (UInt8.ofNat (n % 128 + 128)).toNat = n % 128 + 128 := by simp; omega
      have hiff : n / 128 < (lastByte + 1) * 128 ^ k ↔ n < (lastByte + 1) * 128 ^ (k + 1) := by
        rw [Nat.div_lt_iff_lt_mul (by omega), Nat.pow_succ, Nat.mul_assoc]
      rw [List.cons_append, readUpTo, Reader.bind_of_ok (Reader.byte_cons _ _), hb,
        if_neg (by omega)]
      by_cases hlt : n / 128 < (lastByte + 1) * 128 ^ k
      · have hr := ih (n / 128)
        rw [if_pos hlt] at hr
        rw [Reader.bind_of_ok hr, if_pos (hiff.mp hlt), Reader.pure_apply]
        have hd : n % 128 + 128 - 128 + 128 * (n / 128) = n := by omega
        rw [hd]
      · have hr := ih (n / 128)
        rw [if_neg hlt] at hr
        rw [Reader.bind_of_error hr, if_neg (mt hiff.mpr hlt)]

theorem read_word16 (n : Nat) (rest : List UInt8) : read .word16 (write n ++ rest) =
    if n < 2 ^ 16 then .ok (n, rest) else .error .badVarint :=
  readUpTo_write (by decide) 2 n rest

theorem read_word32 (n : Nat) (rest : List UInt8) : read .word32 (write n ++ rest) =
    if n < 2 ^ 32 then .ok (n, rest) else .error .badVarint :=
  readUpTo_write (by decide) 4 n rest

theorem read_word64 (n : Nat) (rest : List UInt8) : read .word64 (write n ++ rest) =
    if n < 2 ^ 64 then .ok (n, rest) else .error .badVarint :=
  readUpTo_write (by decide) 9 n rest

theorem unzigzag_zigzag (i : Int) : unzigzag (zigzag i) = i := by
  simp only [unzigzag, zigzag]
  split <;> split <;> omega

theorem zigzag_lt {i : Int} {k : Nat} (hl : -2 ^ k ≤ i) (hu : i < 2 ^ k) : zigzag i < 2 ^ (k + 1) := by
  rw [zigzag, Nat.pow_succ]
  have hp : ((2 ^ k : Nat) : Int) = 2 ^ k := by norm_num
  split <;> omega

end Varint

namespace Codec

variable {α β : Type} {c : Codec α} {d : Codec β} {sound : α → Prop} {sound' : β → Prop}

/-- What follows is never touched, and only a value that is not sound or whose form has 2^64 bytes
or more can be refused. -/
def RoundTrips (c : Codec α) (sound : α → Prop) : Prop :=
  ∀ a rest, c.read (c.write a ++ rest) = .ok (a, rest) ∨
    (∃ e, c.read (c.write a ++ rest) = .error e) ∧ (sound a → 2 ^ 64 ≤ (c.write a).length)

theorem RoundTrips.read_write (h : c.RoundTrips sound) {a : α} (ha : sound a)
    (hl : (c.write a).length < 2 ^ 64) (rest : List UInt8) :
    c.read (c.write a ++ rest) = .ok (a, rest) := by
  rcases h a rest with h | ⟨-, h⟩
  · exact h
  · exact absurd (h ha) (Nat.not_le.mpr hl)

theorem RoundTrips.eq_of_read (h : c.RoundTrips sound) {a b : α} {rest rest' : List UInt8}
    (hr : c.read (c.write a ++ rest) = .ok (b, rest')) : b = a ∧ rest' = rest := by
  rcases h a rest with h | ⟨⟨e, h⟩, -⟩
  · simpa [h, eq_comm] using hr
  · simp [h] at hr

theorem RoundTrips.of_read_write (h : ∀ a rest, c.read (c.write a ++ rest) = .ok (a, rest)) :
    c.RoundTrips sound :=
  fun a rest => .inl (h a rest)

theorem RoundTrips.mono {sound₂ : α → Prop} (h : c.RoundTrips sound)
    (hs : ∀ a, sound₂ a → sound a) : c.RoundTrips sound₂ :=
  fun a rest => (h a rest).imp_right fun hr => ⟨hr.1, fun ha => hr.2 (hs a ha)⟩

theorem word16_roundTrips : word16.RoundTrips fun _ => True := .of_read_write fun a rest => by
  have hr := Varint.read_word16 a.toNat rest
  rw [if_pos a.toNat_lt] at hr
  simp only [word16]
  rw [Reader.bind_of_ok hr, Reader.pure_apply, UInt16.ofNat_toNat]

theorem word32_roundTrips : word32.RoundTrips fun _ => True := .of_read_write fun a rest => by
  have hr := Varint.read_word32 a.toNat rest
  rw [if_pos a.toNat_lt] at hr
  simp only [word32]
  rw [Reader.bind_of_ok hr, Reader.pure_apply, UInt32.ofNat_toNat]

theorem read_word64 (a : UInt64) (rest : List UInt8) :
    word64.read (word64.write a ++ rest) = .ok (a, rest) := by
  have hr := Varint.read_word64 a.toNat rest
  rw [if_pos a.toNat_lt] at hr
  simp only [word64]
  rw [Reader.bind_of_ok hr, Reader.pure_apply, UInt64.ofNat_toNat]

theorem word64_roundTrips : word64.RoundTrips fun _ => True := .of_read_write read_word64

theorem int64_roundTrips : int64.RoundTrips fun _ => True := .of_read_write fun a rest => by
  have hr := Varint.read_word64 (Varint.zigzag a.toInt) rest
  rw [if_pos (Varint.zigzag_lt a.le_toInt a.toInt_lt)] at hr
  simp only [int64]
  rw [Reader.bind_of_ok hr, Reader.pure_apply, Varint.unzigzag_zigzag, Int64.ofInt_toInt]

theorem flag_roundTrips : flag.RoundTrips fun _ => True := .of_read_write fun a rest => by
  cases a <;> rfl

theorem name_roundTrips : name.RoundTrips fun _ => True := .of_read_write fun a rest => by
  simp only [name]
  rw [Reader.bind_of_ok (read_word64 a.value rest), Reader.pure_apply]

theorem digest32_roundTrips : digest32.RoundTrips fun _ => True := .of_read_write fun a rest => by
  have hr := Reader.take_append a.length_bytes rest
  simp only [digest32]
  rw [Reader.bind_of_ok hr, Digest.ofBytes?, dif_pos a.length_bytes]
  rfl

theorem bytes_roundTrips : bytes.RoundTrips fun _ => True := by
  intro a rest
  have hr := Varint.read_word64 a.length (a ++ rest)
  simp only [bytes, List.append_assoc]
  split at hr
  · exact .inl (by rw [Reader.bind_of_ok hr, Reader.take_append rfl])
  · refine .inr ⟨⟨_, Reader.bind_of_error hr⟩, fun _ => ?_⟩
    simp only [List.length_append]
    omega

theorem text_roundTrips : text.RoundTrips fun _ => True := by
  intro s rest
  have hr := Varint.read_word64 s.utf8ByteSize (s.toUTF8.data.toList ++ rest)
  have hlen : s.toUTF8.data.toList.length = s.utf8ByteSize := s.size_toByteArray
  have hs : String.fromUTF8? ⟨s.toUTF8.data.toList.toArray⟩ = some s := by
    rw [Array.toArray_toList]
    exact dif_pos s.isValidUTF8
  simp only [text, List.append_assoc]
  split at hr
  · rw [Reader.bind_of_ok hr, Reader.bind_of_ok (Reader.take_append hlen rest), hs]
    exact .inl rfl
  · refine .inr ⟨⟨_, Reader.bind_of_error hr⟩, fun _ => ?_⟩
    simp only [List.length_append, hlen]
    omega

theorem RoundTrips.option (h : c.RoundTrips sound) :
    c.option.RoundTrips fun o => ∀ a ∈ o, sound a := by
  rintro (_ | a) rest
  · exact .inl rfl
  · have hb : c.option.read (c.option.write (some a) ++ rest) =
        (do return some (← c.read) : Reader (Option α)) (c.write a ++ rest) := rfl
    rw [hb]
    rcases h a rest with hr | ⟨⟨e, hr⟩, hl⟩
    · exact .inl (by rw [Reader.bind_of_ok hr, Reader.pure_apply])
    · refine .inr ⟨⟨e, Reader.bind_of_error hr⟩, fun ha => ?_⟩
      have hl := hl (ha a rfl)
      simp only [Codec.option, List.length_cons]
      omega

theorem RoundTrips.pair (h : c.RoundTrips sound) (h' : d.RoundTrips sound') :
    (c.pair d).RoundTrips fun p => sound p.1 ∧ sound' p.2 := by
  rintro ⟨a, b⟩ rest
  simp only [Codec.pair, List.append_assoc, List.length_append]
  rcases h a (d.write b ++ rest) with hr | ⟨⟨e, hr⟩, hl⟩
  · rw [Reader.bind_of_ok hr]
    rcases h' b rest with hr' | ⟨⟨e, hr'⟩, hl'⟩
    · exact .inl (by rw [Reader.bind_of_ok hr', Reader.pure_apply])
    · exact .inr ⟨⟨e, Reader.bind_of_error hr'⟩, fun hs => by have := hl' hs.2; omega⟩
  · exact .inr ⟨⟨e, Reader.bind_of_error hr⟩, fun hs => by have := hl hs.1; omega⟩

theorem RoundTrips.repeated (h : c.RoundTrips sound) (as : List α) (rest : List UInt8) :
    c.read.repeated as.length (as.flatMap c.write ++ rest) = .ok (as, rest) ∨
      (∃ e, c.read.repeated as.length (as.flatMap c.write ++ rest) = .error e) ∧
        ((∀ a ∈ as, sound a) → 2 ^ 64 ≤ (as.flatMap c.write).length) := by
  induction as with
  | nil => exact .inl rfl
  | cons a as ih =>
    simp only [List.length_cons, Reader.repeated, List.flatMap_cons, List.append_assoc,
      List.length_append]
    rcases h a (as.flatMap c.write ++ rest) with hr | ⟨⟨e, hr⟩, hl⟩
    · rw [Reader.bind_of_ok hr]
      rcases ih with hi | ⟨⟨e, hi⟩, hl⟩
      · exact .inl (by rw [Reader.bind_of_ok hi, Reader.pure_apply])
      · refine .inr ⟨⟨e, Reader.bind_of_error hi⟩, fun hs => ?_⟩
        have := hl fun b hb => hs b (List.mem_cons_of_mem _ hb)
        omega
    · refine .inr ⟨⟨e, Reader.bind_of_error hr⟩, fun hs => ?_⟩
      have := hl (hs a List.mem_cons_self)
      omega

theorem length_le_flatMap_write (hc : ∀ a, c.write a ≠ []) (as : List α) :
    as.length ≤ (as.flatMap c.write).length := by
  induction as with
  | nil => simp
  | cons a as ih =>
    have := List.length_pos_iff.mpr (hc a)
    simp only [List.length_cons, List.flatMap_cons, List.length_append]
    omega

theorem RoundTrips.list (h : c.RoundTrips sound) (hc : ∀ a, c.write a ≠ []) :
    c.list.RoundTrips fun as => ∀ a ∈ as, sound a := by
  intro as rest
  have hr := Varint.read_word64 as.length (as.flatMap c.write ++ rest)
  have hle := length_le_flatMap_write hc as
  simp only [Codec.list, List.append_assoc, List.length_append]
  split at hr
  · rw [Reader.bind_of_ok hr]
    refine (h.repeated as rest).imp_right fun hi => ⟨hi.1, fun hs => ?_⟩
    have := hi.2 hs
    omega
  · exact .inr ⟨⟨_, Reader.bind_of_error hr⟩, fun _ => by omega⟩

/-- A form by way of another one: sound are the values that their parts give back. -/
theorem RoundTrips.via {parts : α → β} {ofParts? : β → Option α} (h : d.RoundTrips sound')
    (hp : ∀ a b, ofParts? (parts a) = some b → b = a)
    (hs : ∀ a, sound a → sound' (parts a) ∧ ofParts? (parts a) = some a) :
    (d.via parts ofParts?).RoundTrips sound := by
  intro a rest
  simp only [Codec.via]
  rcases h (parts a) rest with hr | ⟨⟨e, hr⟩, hl⟩
  · rw [Reader.bind_of_ok hr]
    cases ho : ofParts? (parts a) with
    | none => exact .inr ⟨⟨_, rfl⟩, fun ha => by simp [(hs a ha).2] at ho⟩
    | some b =>
      rw [hp a b ho]
      exact .inl rfl
  · exact .inr ⟨⟨e, Reader.bind_of_error hr⟩, fun ha => hl (hs a ha).1⟩

/-- A form whose parts always give the value back, such as that of a record. -/
theorem RoundTrips.via_parts {parts : α → β} {ofParts? : β → Option α} (h : d.RoundTrips sound')
    (hp : ∀ a, ofParts? (parts a) = some a) (hs : ∀ a, sound a → sound' (parts a)) :
    (d.via parts ofParts?).RoundTrips sound :=
  h.via (fun a b hb => by simpa [hp, eq_comm] using hb) fun a ha => ⟨hs a ha, hp a⟩

theorem write_via_ne_nil {parts : α → β} {ofParts? : β → Option α} (h : ∀ b, d.write b ≠ [])
    (a : α) : (d.via parts ofParts?).write a ≠ [] :=
  h (parts a)

theorem write_pair_ne_nil (h : ∀ a, c.write a ≠ []) (p : α × β) : (c.pair d).write p ≠ [] :=
  List.append_ne_nil_of_left_ne_nil (h p.1) _

theorem write_list_ne_nil (as : List α) : c.list.write as ≠ [] :=
  List.append_ne_nil_of_left_ne_nil (Varint.write_ne_nil as.length) _

end Codec

namespace Fields

variable {α β : Type}

theorem write_field_ne_nil {f : RecordField α} {rest : Fields β} (h : ∀ a, f.codec.write a ≠ [])
    (p : α × β) : (field f rest).codec.write p ≠ [] :=
  List.append_ne_nil_of_left_ne_nil (h p.1) _

theorem done_roundTrips : done.codec.RoundTrips fun _ => True := fun _ _ => .inl rfl

theorem field_roundTrips {f : RecordField α} {rest : Fields β} {sound : α → Prop}
    {sound' : β → Prop} (h : f.codec.RoundTrips sound) (h' : rest.codec.RoundTrips sound') :
    (field f rest).codec.RoundTrips fun p => sound p.1 ∧ sound' p.2 :=
  h.pair h'

end Fields

end FinalityRelay
