import FinalityRelay.Proofs.Truncation

/-! The only freedom of a reader: a number may go on with zero digits. So of all files of a snapshot the one
that is written is the shortest, and no other one is as short. -/

namespace FinalityRelay

/-- The first bytes are the second ones, except that numbers may be padded: the last byte of a number gets
its top bit set, and digits that are all zero follow it. -/
inductive Padded : List UInt8 → List UInt8 → Prop
  | nil : Padded [] []
  | same (b : UInt8) {bs ws : List UInt8} (h : Padded bs ws) : Padded (b :: bs) (b :: ws)
  | zeros {b : UInt8} (hb : b < 128) (k : Nat) {bs ws : List UInt8} (h : Padded bs ws) :
    Padded ((b + 128) :: (List.replicate k 128 ++ 0 :: bs)) (b :: ws)

namespace Padded

variable {bs ws bs' ws' : List UInt8}

theorem refl : ∀ bs, Padded bs bs
  | [] => nil
  | b :: bs => same b (refl bs)

theorem append (h : Padded bs ws) (h' : Padded bs' ws') : Padded (bs ++ bs') (ws ++ ws') := by
  induction h with
  | nil => exact h'
  | same b _ ih => exact same b ih
  | zeros hb k _ ih =>
    rw [List.cons_append, List.append_assoc, List.cons_append]
    exact zeros hb k ih

/-- Padding makes longer. -/
theorem eq_or_length_lt (h : Padded bs ws) : bs = ws ∨ ws.length < bs.length := by
  induction h with
  | nil => exact .inl rfl
  | same b _ ih => exact ih.imp (congrArg (b :: ·)) Nat.succ_lt_succ
  | zeros _ k h ih =>
    refine .inr ?_
    simp only [List.length_cons, List.length_append, List.length_replicate]
    rcases ih with rfl | ih <;> omega

/-- A digit in front of a padded zero makes a padded number of one digit. -/
theorem cons_of_zero {b : UInt8} (hb : b < 128) (h : Padded bs [0]) : Padded ((b + 128) :: bs) [b] := by
  cases h with
  | same _ h =>
    cases h
    exact zeros hb 0 nil
  | zeros _ k h =>
    cases h
    exact zeros hb (k + 1) nil

end Padded

namespace Reader

variable {α β : Type} {r : Reader α} {f : α → Reader β} {a : α} {b : β}
  {ws ws' bs bs' rest : List UInt8} {n : Nat}

theorem eq_cons_of_byte {b : UInt8} (h : byte bs = .ok (b, rest)) : bs = b :: rest := by
  match bs, h with
  | c :: bs, h =>
    obtain ⟨rfl, rfl⟩ := Prod.mk.inj (Except.ok.inj h)
    rfl

theorem eq_append_of_take (h : take n bs = .ok (ws, rest)) : ws.length = n ∧ bs = ws ++ rest := by
  rw [take] at h
  split at h
  · rename_i hlen
    obtain ⟨rfl, rfl⟩ := Prod.mk.inj (Except.ok.inj h)
    exact ⟨hlen, (List.take_append_drop n bs).symm⟩
  · simp at h

theorem exists_of_bind (h : (r >>= f) bs = .ok (b, rest)) :
    ∃ a bs', r bs = .ok (a, bs') ∧ f a bs' = .ok (b, rest) := by
  cases hr : r bs with
  | error e => simp [bind_of_error hr] at h
  | ok p => exact ⟨p.1, p.2, rfl, by rwa [bind_of_ok hr] at h⟩

theorem exists_of_map {g : α → β} (h : (do return g (← r) : Reader β) bs = .ok (b, rest)) :
    ∃ a, r bs = .ok (a, rest) ∧ g a = b := by
  obtain ⟨a, bs', ha, h⟩ := exists_of_bind h
  obtain ⟨rfl, rfl⟩ := Prod.mk.inj (Except.ok.inj h)
  exact ⟨a, ha, rfl⟩

/-- The bytes before `rest` are `ws` up to padding, and a reader that finds `ws` reads `a`. -/
structure Rereads (r : Reader α) (ws bs : List UInt8) (a : α) (rest : List UInt8) : Prop where
  padded : ∃ front, bs = front ++ rest ∧ Padded front ws
  again : ∀ more, r (ws ++ more) = .ok (a, more)

namespace Rereads

theorem pure (a : α) (bs : List UInt8) : (Pure.pure a : Reader α).Rereads [] bs a bs :=
  ⟨⟨[], rfl, .nil⟩, fun _ => rfl⟩

theorem byte (b : UInt8) (rest : List UInt8) : byte.Rereads [b] (b :: rest) b rest :=
  ⟨⟨[b], rfl, .refl [b]⟩, fun _ => rfl⟩

theorem take (h : ws.length = n) (rest : List UInt8) : (take n).Rereads ws (ws ++ rest) ws rest :=
  ⟨⟨ws, rfl, .refl ws⟩, take_append h⟩

theorem bind (h : r.Rereads ws bs a bs') (h' : (f a).Rereads ws' bs' b rest) :
    (r >>= f).Rereads (ws ++ ws') bs b rest := by
  obtain ⟨front, rfl, hf⟩ := h.padded
  obtain ⟨front', rfl, hf'⟩ := h'.padded
  refine ⟨⟨front ++ front', (List.append_assoc _ _ _).symm, hf.append hf'⟩, fun more => ?_⟩
  rw [List.append_assoc, bind_of_ok (h.again _), h'.again]

theorem map (h : r.Rereads ws bs a rest) (g : α → β) :
    (r >>= fun a => Pure.pure (g a)).Rereads ws bs (g a) rest := by
  have hm := h.bind (f := fun a => Pure.pure (g a)) (pure (g a) rest)
  rwa [List.append_nil] at hm

end Rereads

end Reader

namespace Varint

variable {lastByte n k : Nat} {bs rest : List UInt8}

/-- A number is its last digit, or starts with a digit and goes on with another number. -/
theorem digit_of_readUpTo (h : readUpTo lastByte (k + 1) bs = .ok (n, rest)) :
    (∃ b : UInt8, b < 128 ∧ (k = 0 → b.toNat ≤ lastByte) ∧ bs = b :: rest ∧ n = b.toNat) ∨
      ∃ (b : UInt8) (bs' : List UInt8) (m : Nat), b < 128 ∧ bs = (b + 128) :: bs' ∧
        readUpTo lastByte k bs' = .ok (m, rest) ∧ n = b.toNat + 128 * m := by
  rw [readUpTo] at h
  obtain ⟨b, bs', hb, hn⟩ := Reader.exists_of_bind h
  obtain rfl := Reader.eq_cons_of_byte hb
  split at hn
  · rename_i hlt
    split at hn
    · simp at hn
    · rename_i hlast
      obtain ⟨rfl, rfl⟩ := Prod.mk.inj (Except.ok.inj hn)
      exact .inl ⟨b, UInt8.lt_iff_toNat_lt.mpr hlt, by omega, rfl, rfl⟩
  · rename_i hge
    obtain ⟨m, hm, rfl⟩ := Reader.exists_of_map hn
    have hle : (128 : UInt8) ≤ b := UInt8.le_iff_toNat_le.mpr (Nat.not_lt.mp hge)
    have hsub : (b - 128).toNat = b.toNat - 128 := UInt8.toNat_sub_of_le _ _ hle
    have hmax := b.toNat_lt
    refine .inr ⟨b - 128, bs', m, ?_, by rw [UInt8.sub_add_cancel], hm, by rw [hsub]⟩
    rw [UInt8.lt_iff_toNat_lt, hsub]
    exact Nat.sub_lt_left_of_lt_add (Nat.not_lt.mp hge) hmax

theorem lt_of_readUpTo (h : readUpTo lastByte (k + 1) bs = .ok (n, rest)) :
    n < (lastByte + 1) * 128 ^ k := by
  induction k generalizing n bs with
  | zero =>
    obtain ⟨b, -, hlast, -, rfl⟩ | ⟨b, bs', m, -, -, hm, -⟩ := digit_of_readUpTo h
    · have := hlast rfl
      omega
    · simp [readUpTo] at hm
  | succ k ih =>
    have hpos : 0 < 128 ^ k := by positivity
    rw [Nat.pow_succ, ← Nat.mul_assoc]
    obtain ⟨b, hb, -, -, rfl⟩ | ⟨b, bs', m, hb, -, hm, rfl⟩ := digit_of_readUpTo h
    · have hb := UInt8.lt_iff_toNat_lt.mp hb
      have : 1 ≤ (lastByte + 1) * 128 ^ k := Nat.mul_pos (Nat.succ_pos _) hpos
      exact hb.trans_le (Nat.le_mul_of_pos_left 128 this)
    · have hb : b.toNat < 128 := UInt8.lt_iff_toNat_lt.mp hb
      have := ih hm
      omega

theorem write_digit {b : UInt8} (hb : b < 128) : write b.toNat = [b] := by
  have hb : b.toNat < 128 := UInt8.lt_iff_toNat_lt.mp hb
  rw [write, if_pos hb, UInt8.ofNat_toNat]

theorem write_digit_add {b : UInt8} (hb : b < 128) {m : Nat} (hm : m ≠ 0) :
    write (b.toNat + 128 * m) = (b + 128) :: write m := by
  have hb : b.toNat < 128 := UInt8.lt_iff_toNat_lt.mp hb
  have hbyte : UInt8.ofNat (b.toNat + 128) = b + 128 := by rw [UInt8.ofNat_add, UInt8.ofNat_toNat]; rfl
  rw [write, if_neg (by omega), show (b.toNat + 128 * m) % 128 = b.toNat by omega,
    show (b.toNat + 128 * m) / 128 = m by omega, hbyte]

/-- What is read as a number is the number as it is written, up to padding. -/
theorem padded_of_readUpTo (h : readUpTo lastByte k bs = .ok (n, rest)) :
    ∃ front, bs = front ++ rest ∧ Padded front (write n) := by
  induction k generalizing n bs with
  | zero => simp [readUpTo] at h
  | succ k ih =>
    obtain ⟨b, hb, -, rfl, rfl⟩ | ⟨b, bs', m, hb, rfl, hm, rfl⟩ := digit_of_readUpTo h
    · exact ⟨[b], rfl, write_digit hb ▸ .refl [b]⟩
    · obtain ⟨front, rfl, hf⟩ := ih hm
      refine ⟨(b + 128) :: front, rfl, ?_⟩
      -- Digits that add up to nothing are not written, and only then does the file differ from what was read.
      rcases eq_or_ne m 0 with rfl | hm
      · rw [show write 0 = [0] from write_digit (b := 0) (by decide)] at hf
        rw [Nat.mul_zero, Nat.add_zero, write_digit hb]
        exact .cons_of_zero hb hf
      · rw [write_digit_add hb hm]
        exact .same _ hf

theorem rereads (hl : lastByte < 128) (h : readUpTo lastByte (k + 1) bs = .ok (n, rest)) :
    (readUpTo lastByte (k + 1)).Rereads (write n) bs n rest :=
  ⟨padded_of_readUpTo h, fun more => by rw [readUpTo_write hl, if_pos (lt_of_readUpTo h)]⟩

theorem rereads_word16 (h : read .word16 bs = .ok (n, rest)) :
    n < 2 ^ 16 ∧ (read .word16).Rereads (write n) bs n rest :=
  ⟨lt_of_readUpTo h, rereads (by decide) h⟩

theorem rereads_word32 (h : read .word32 bs = .ok (n, rest)) :
    n < 2 ^ 32 ∧ (read .word32).Rereads (write n) bs n rest :=
  ⟨lt_of_readUpTo h, rereads (by decide) h⟩

theorem rereads_word64 (h : read .word64 bs = .ok (n, rest)) :
    n < 2 ^ 64 ∧ (read .word64).Rereads (write n) bs n rest :=
  ⟨lt_of_readUpTo h, rereads (by decide) h⟩

end Varint

namespace Codec

variable {α β : Type} {c : Codec α} {d : Codec β}

/-- What is read is what is written for it, up to padding, and what is written for it is read. -/
def Faithful (c : Codec α) : Prop :=
  ∀ {bs a rest}, c.read bs = .ok (a, rest) → c.read.Rereads (c.write a) bs a rest

/-- A form that is a number, if the values that are read are written as the number they were made of. -/
theorem faithful_of_number {w : Varint.Width} {ofNat : Nat → α}
    (hread : c.read = do return ofNat (← Varint.read w))
    (h : ∀ {n bs rest}, Varint.read w bs = .ok (n, rest) →
      c.write (ofNat n) = Varint.write n ∧ (Varint.read w).Rereads (Varint.write n) bs n rest) :
    c.Faithful := by
  intro bs a rest ha
  rw [hread] at ha ⊢
  obtain ⟨n, hn, rfl⟩ := Reader.exists_of_map ha
  obtain ⟨hw, hr⟩ := h hn
  rw [hw]
  exact hr.map ofNat

theorem word16_faithful : word16.Faithful := faithful_of_number rfl fun hn => by
  obtain ⟨hlt, hr⟩ := Varint.rereads_word16 hn
  exact ⟨congrArg Varint.write (UInt16.toNat_ofNat_of_lt' hlt), hr⟩

theorem word32_faithful : word32.Faithful := faithful_of_number rfl fun hn => by
  obtain ⟨hlt, hr⟩ := Varint.rereads_word32 hn
  exact ⟨congrArg Varint.write (UInt32.toNat_ofNat_of_lt' hlt), hr⟩

theorem word64_faithful : word64.Faithful := faithful_of_number rfl fun hn => by
  obtain ⟨hlt, hr⟩ := Varint.rereads_word64 hn
  exact ⟨congrArg Varint.write (UInt64.toNat_ofNat_of_lt' hlt), hr⟩

theorem name_faithful : name.Faithful := by
  intro bs a rest h
  obtain ⟨v, hv, rfl⟩ := Reader.exists_of_map h
  exact (word64_faithful hv).map Name.mk

theorem flag_faithful : flag.Faithful := by
  intro bs a rest h
  obtain ⟨b, bs', hb, ha⟩ := Reader.exists_of_bind h
  obtain rfl := Reader.eq_cons_of_byte hb
  generalize hn : b.toNat = n at ha
  match n, ha with
  | 0, ha =>
    obtain rfl : b = 0 := UInt8.toNat_inj.mp hn
    obtain ⟨rfl, rfl⟩ := Prod.mk.inj (Except.ok.inj ha)
    exact ⟨⟨[0], rfl, .refl _⟩, fun _ => rfl⟩
  | 1, ha =>
    obtain rfl : b = 1 := UInt8.toNat_inj.mp hn
    obtain ⟨rfl, rfl⟩ := Prod.mk.inj (Except.ok.inj ha)
    exact ⟨⟨[1], rfl, .refl _⟩, fun _ => rfl⟩

theorem bytes_faithful : bytes.Faithful := by
  intro bs a rest h
  obtain ⟨n, bs', hn, ha⟩ := Reader.exists_of_bind h
  obtain ⟨rfl, rfl⟩ := Reader.eq_append_of_take ha
  exact (Varint.rereads_word64 hn).2.bind (.take rfl rest)

theorem digest32_faithful : digest32.Faithful := by
  intro bs a rest h
  obtain ⟨ds, bs', hd, ha⟩ := Reader.exists_of_bind h
  obtain ⟨hl, rfl⟩ := Reader.eq_append_of_take hd
  rw [Digest.ofBytes?, dif_pos hl] at ha
  obtain ⟨rfl, rfl⟩ := Prod.mk.inj (Except.ok.inj ha)
  exact ⟨⟨ds, rfl, .refl ds⟩, digest32_roundTrips.read_write trivial (hl.trans_lt (by decide))⟩

theorem status_faithful : Status.codec.Faithful := by
  intro bs a rest h
  obtain ⟨n, bs', hn, ha⟩ := Reader.exists_of_bind h
  obtain ⟨-, hr⟩ := Varint.rereads_word32 hn
  split at ha
  · obtain ⟨rfl, rfl⟩ := Prod.mk.inj (Except.ok.inj ha)
    rw [show Varint.write 0 = [0] from Varint.write_digit (b := 0) (by decide)] at hr
    exact ⟨hr.padded, fun _ => rfl⟩
  · obtain ⟨rfl, rfl⟩ := Prod.mk.inj (Except.ok.inj ha)
    rw [show Varint.write 1 = [1] from Varint.write_digit (b := 1) (by decide)] at hr
    exact ⟨hr.padded, fun _ => rfl⟩
  · obtain ⟨rfl, rfl⟩ := Prod.mk.inj (Except.ok.inj ha)
    rw [show Varint.write 2 = [2] from Varint.write_digit (b := 2) (by decide)] at hr
    exact ⟨hr.padded, fun _ => rfl⟩
  · simp at ha

theorem Faithful.option (h : c.Faithful) : c.option.Faithful := by
  intro bs a rest ho
  obtain ⟨b, bs', hb, ha⟩ := Reader.exists_of_bind ho
  obtain rfl := Reader.eq_cons_of_byte hb
  generalize hn : b.toNat = n at ha
  match n, ha with
  | 0, ha =>
    obtain rfl : b = 0 := UInt8.toNat_inj.mp hn
    obtain ⟨rfl, rfl⟩ := Prod.mk.inj (Except.ok.inj ha)
    exact ⟨⟨[0], rfl, .refl _⟩, fun _ => rfl⟩
  | 1, ha =>
    obtain rfl : b = 1 := UInt8.toNat_inj.mp hn
    obtain ⟨v, hv, rfl⟩ := Reader.exists_of_map (r := c.read) (g := some) ha
    exact (Reader.Rereads.byte 1 bs').bind ((h hv).map some)

theorem Faithful.pair (h : c.Faithful) (h' : d.Faithful) : (c.pair d).Faithful := by
  rintro bs ⟨a, b⟩ rest hp
  obtain ⟨a', bs', ha, hp⟩ := Reader.exists_of_bind hp
  obtain ⟨b', hb, hab⟩ := Reader.exists_of_map hp
  obtain ⟨rfl, rfl⟩ := Prod.mk.inj hab
  exact (h ha).bind ((h' hb).map (Prod.mk a'))

theorem Faithful.repeated (h : c.Faithful) {n : Nat} {bs rest : List UInt8} {as : List α}
    (hr : c.read.repeated n bs = .ok (as, rest)) :
    as.length = n ∧ (c.read.repeated n).Rereads (as.flatMap c.write) bs as rest := by
  induction n generalizing bs as with
  | zero =>
    obtain ⟨rfl, rfl⟩ := Prod.mk.inj (Except.ok.inj hr)
    exact ⟨rfl, .pure [] bs⟩
  | succ n ih =>
    obtain ⟨a, bs', ha, hr⟩ := Reader.exists_of_bind hr
    obtain ⟨as', has, rfl⟩ := Reader.exists_of_map hr
    obtain ⟨hlen, hi⟩ := ih has
    rw [List.flatMap_cons]
    exact ⟨congrArg (· + 1) hlen, (h ha).bind (hi.map (a :: ·))⟩

theorem Faithful.list (h : c.Faithful) : c.list.Faithful := by
  intro bs as rest hl
  obtain ⟨n, bs', hn, hr⟩ := Reader.exists_of_bind hl
  obtain ⟨rfl, hr⟩ := h.repeated hr
  exact (Varint.rereads_word64 hn).2.bind hr

/-- A form by way of another one, if only the parts of a value make one up. -/
theorem Faithful.via {parts : α → β} {ofParts? : β → Option α} (h : d.Faithful)
    (hp : ∀ b a, ofParts? b = some a → parts a = b) : (d.via parts ofParts?).Faithful := by
  intro bs a rest hv
  obtain ⟨b, bs', hb, ha⟩ := Reader.exists_of_bind hv
  cases ho : ofParts? b with
  | none => simp [ho] at ha
  | some a' =>
    rw [ho] at ha
    obtain ⟨rfl, rfl⟩ := Prod.mk.inj (Except.ok.inj ha)
    -- What was read are the parts of the value, so `h` speaks about what is written for it.
    obtain rfl := hp b a' ho
    have hr := h hb
    exact ⟨hr.padded, fun more => (Reader.bind_of_ok (hr.again more)).trans (by rw [ho]; rfl)⟩

theorem Composed.faithful (h : c.Composed) : c.Faithful := by
  induction h with
  | word16 => exact word16_faithful
  | word32 => exact word32_faithful
  | word64 => exact word64_faithful
  | flag => exact flag_faithful
  | bytes => exact bytes_faithful
  | digest32 => exact digest32_faithful
  | name => exact name_faithful
  | status => exact status_faithful
  | option _ ih => exact ih.option
  | list _ ih => exact ih.list
  | pair _ _ ih ih' => exact ih.pair ih'
  | done =>
    intro bs a rest h
    obtain ⟨rfl, rfl⟩ := Prod.mk.inj (Except.ok.inj h)
    exact .pure () bs
  | field _ _ ih ih' => exact ih.pair ih'
  | via _ hp ih => exact ih.via hp

end Codec

namespace Snapshot

variable {p : Snapshot} {bs : List UInt8}

theorem eq_of_decode (h : decode bs = .ok p) :
    ∃ body, bs = magic ++ version :: body ∧ codec.read body = .ok (p, []) := by
  have hmark : bs.take 4 = magic := by
    by_contra hne
    rw [decode, if_pos hne] at h
    simp at h
  obtain ⟨rest, rfl⟩ : ∃ rest, bs = magic ++ rest := ⟨bs.drop 4, by rw [← hmark, List.take_append_drop]⟩
  cases rest with
  | nil => simp [decode_magic] at h
  | cons v body =>
    by_cases hv : v = version
    · subst hv
      refine ⟨body, rfl, ?_⟩
      rw [decode_body] at h
      split at h
      · simp at h
      · rename_i hr
        rw [hr, Except.ok.inj h]
      · simp at h
    · simp [decode_of_version_ne hv] at h

/-- Of all files that are read as a snapshot the one that is written for it is the shortest, and the only one
of its length. Any other one is this file with some numbers padded. -/
theorem encode_shortest (h : decode bs = .ok p) :
    Padded bs p.encode ∧ decode p.encode = .ok p ∧ p.encode.length ≤ bs.length ∧
      (p.encode.length = bs.length → bs = p.encode) := by
  obtain ⟨body, rfl, hr⟩ := eq_of_decode h
  have hw := codec_composed.faithful hr
  obtain ⟨front, rfl, hf⟩ := hw.padded
  have hpad : Padded (magic ++ version :: (front ++ [])) p.encode := by
    rw [List.append_nil, encode_eq]
    exact Padded.append (.refl magic) (.same version hf)
  have hagain : decode p.encode = .ok p := by
    have hr := hw.again []
    rw [List.append_nil] at hr
    rw [encode_eq, decode_body, hr]
  refine ⟨hpad, hagain, ?_, fun hlen => ?_⟩
  · rcases hpad.eq_or_length_lt with he | hlt
    · exact (congrArg List.length he).ge
    · exact hlt.le
  · exact hpad.eq_or_length_lt.resolve_right (by omega)

end Snapshot

namespace Sample

/-- What a relay saves after a single block, one that announced a schedule. -/
def savedOnce : Snapshot := ⟨[(plainBlock 7 (some (schedule 2))).record], [], [], some (schedule 2)⟩

/-- Its file with the number of blocks in three bytes. -/
def paddedFile : List UInt8 :=
  Snapshot.magic ++ Snapshot.version :: 0x81 :: 0x80 :: 0x00 :: (Snapshot.codec.write savedOnce).tail

end Sample

theorem Snapshot.encode_shortest_paddedFile :
    decode Sample.paddedFile = .ok Sample.savedOnce ∧ decode Sample.savedOnce.encode = .ok Sample.savedOnce ∧
      Padded Sample.paddedFile Sample.savedOnce.encode ∧
      Sample.savedOnce.encode.length + 2 = Sample.paddedFile.length := by
  have hread : decode Sample.paddedFile = .ok Sample.savedOnce := by decide +kernel
  obtain ⟨hpad, hagain, -, -⟩ := encode_shortest hread
  exact ⟨hread, hagain, hpad, by decide +kernel⟩

end FinalityRelay
