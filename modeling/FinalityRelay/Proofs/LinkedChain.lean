import FinalityRelay.Proofs.History
import FinalityRelay.Proofs.WindowForm

/-! Chains of blocks that link to one another. A relay that is fed such a chain in order accepts all of
it, up to the largest number there is. -/

namespace FinalityRelay

namespace Digest

theorem toNat_shift_or {x : UInt32} (b : UInt8) (hx : x.toNat < 2 ^ 24) :
    (x <<< 8 ||| b.toUInt32).toNat = x.toNat * 256 + b.toNat := by
  have hb := b.toNat_lt
  have hs : (x <<< 8).toNat = x.toNat <<< 8 := by
    rw [UInt32.toNat_shiftLeft]
    have h8 : (8 : UInt32).toNat % 32 = 8 := rfl
    rw [h8, Nat.shiftLeft_eq]
    omega
  rw [UInt32.toNat_or, hs, UInt8.toNat_toUInt32, ← Nat.shiftLeft_add_eq_or_of_lt (by omega),
    Nat.shiftLeft_eq]

theorem toNat_foldl_bytes (bs : List UInt8) {x : UInt32}
    (hx : (x.toNat + 1) * 256 ^ bs.length ≤ 2 ^ 32) :
    (bs.foldl (fun (n : UInt32) b => n <<< 8 ||| b.toUInt32) x).toNat =
      bs.foldl (fun n b => n * 256 + b.toNat) x.toNat := by
  induction bs generalizing x with
  | nil => rfl
  | cons b bs ih =>
    have hb := b.toNat_lt
    rw [List.length_cons, Nat.pow_succ, Nat.mul_comm (256 ^ _), ← Nat.mul_assoc] at hx
    have hpos := Nat.pow_pos (n := bs.length) (show 0 < 256 by decide)
    have hle := (Nat.le_mul_of_pos_right ((x.toNat + 1) * 256) hpos).trans hx
    have hs := toNat_shift_or (x := x) b (by omega)
    have hx' : ((x <<< 8 ||| b.toUInt32).toNat + 1) * 256 ^ bs.length ≤ 2 ^ 32 :=
      (Nat.mul_le_mul_right _ (by omega)).trans hx
    rw [List.foldl_cons, ih hx', hs]
    rfl

/-- The number that is written over the front of a digest is read back from it. -/
theorem number_withNumber (d : Digest) (n : UInt32) : (d.withNumber n).number = n := by
  have hb : ∀ k : UInt32, (n >>> k).toUInt8.toNat = n.toNat / 2 ^ (k.toNat % 32) % 256 := by
    intro k
    rw [UInt32.toNat_toUInt8, UInt32.toNat_shiftRight, Nat.shiftRight_eq_div_pow]
  have ht : (d.withNumber n).bytes.take 4 = numberBytes n := rfl
  have hn := n.toNat_lt
  refine UInt32.toNat_inj.mp ?_
  rw [number, ht, toNat_foldl_bytes _ (by simp [numberBytes])]
  simp only [numberBytes, List.foldl_cons, List.foldl_nil, hb, UInt32.toNat_toUInt8,
    UInt32.reduceToNat, Nat.reduceMod, Nat.reducePow]
  omega

end Digest

theorem Header.number_id (h : Header) : h.id.number = h.number := h.digest.number_withNumber h.number

def finalizedBlocks (is : List Input) : List FinalizedBlock := is.filterMap Input.finalized?

theorem finalizedBlocks_map (bs : List FinalizedBlock) :
    finalizedBlocks (bs.map fun b => .task (.notify (.finalized b))) = bs := by
  rw [finalizedBlocks, List.filterMap_map]
  exact List.filterMap_some

theorem finalizedBlocks_snoc (ts : List Turn) (t : Turn) :
    finalizedBlocks ((ts ++ [t]).map Turn.input) =
      finalizedBlocks (ts.map Turn.input) ++ t.input.finalized?.toList := by
  cases h : t.input.finalized? <;> simp [finalizedBlocks, h]

/-- Blocks with the numbers and ids of their headers, each of which extends the one before. -/
structure Linked (bs : List FinalizedBlock) : Prop where
  numbers : Window.Numbered bs
  ids : ∀ b ∈ bs, b.id = b.header.id
  links : bs.IsChain fun a b => b.header.header.previous = a.id

namespace Linked

variable {bs cs : List FinalizedBlock} {a b : FinalizedBlock}

theorem sublist (h : Linked bs) (hi : cs <:+: bs) : Linked cs where
  numbers := fun b hb => h.numbers b (hi.subset hb)
  ids := fun b hb => h.ids b (hi.subset hb)
  links := h.links.infix hi

theorem number_id (h : Linked bs) (hb : b ∈ bs) : b.id.number = b.number := by
  rw [h.ids b hb, h.numbers b hb]
  exact b.header.header.number_id

/-- Numbers count up, and start again at zero after the largest one. -/
theorem number_succ (h : Linked bs) (hi : [a, b] <:+: bs) : b.number = a.number + 1 := by
  have hl : b.header.header.previous = a.id := by simpa using h.links.infix hi
  rw [h.numbers b (hi.subset (by simp)), ← h.number_id (b := a) (hi.subset (by simp)), ← hl]
  rfl

/-- Numbers that ascend do so one by one. -/
theorem numbers_eq (h : Linked (a :: bs)) (hasc : (a :: bs).Pairwise (·.number < ·.number)) :
    (a :: bs).map (·.number.toNat) = List.range' a.number.toNat (bs.length + 1) := by
  induction bs generalizing a with
  | nil => rfl
  | cons b bs ih =>
    obtain ⟨hlt, hasc'⟩ := List.pairwise_cons.mp hasc
    have hb : b.number.toNat = a.number.toNat + 1 := by
      have hn := h.number_succ (a := a) (b := b) ⟨[], bs, rfl⟩
      have hab := UInt32.lt_iff_toNat_lt.mp (hlt b List.mem_cons_self)
      have hlt := b.number.toNat_lt
      have hs := congrArg UInt32.toNat hn
      rw [UInt32.toNat_add, UInt32.toNat_one] at hs
      omega
    have ht := ih (h.sublist (List.suffix_cons a _).isInfix) hasc'
    rw [List.map_cons, ht, hb, List.length_cons]
    rfl

end Linked

namespace Relay

variable {s : Relay} {bs : List FinalizedBlock} {b : FinalizedBlock}

theorem Recalls.accepts_next (h : s.Recalls bs) (hl : Linked (bs ++ [b]))
    (hlast : ∀ a ∈ bs, a.number ≠ Deposits.lastNumber) : s.accepts b = true := by
  have hlt : ∀ a ∈ bs, a.number < b.number := by
    intro a ha
    obtain ⟨front, c, rfl⟩ := (List.eq_nil_or_concat' bs).resolve_left (List.ne_nil_of_mem ha)
    have hc : c.number.toNat ≠ 2 ^ 32 - 1 := fun he =>
      hlast c (by simp) (UInt32.toNat_inj.mp he)
    have hbound := c.number.toNat_lt
    have hs : b.number.toNat = c.number.toNat + 1 := by
      rw [hl.number_succ (a := c) (b := b) ⟨front, [], by simp⟩, UInt32.toNat_add, UInt32.toNat_one]
      omega
    have hac : a.number.toNat ≤ c.number.toNat := by
      rcases List.mem_append.mp ha with ha | ha
      · have hp := (List.pairwise_append.mp h.ascending).2.2 a ha c (by simp)
        exact Nat.le_of_lt (UInt32.lt_iff_toNat_lt.mp hp)
      · rw [List.mem_singleton.mp ha]
    exact UInt32.lt_iff_toNat_lt.mpr (by omega)
  refine (s.accepts_iff b).mpr ⟨?_, fun hid => ?_⟩
  · rw [Relay.isStale, h.last]
    cases hg : bs.getLast? with
    | none => rfl
    | some a =>
      have hab := hlt a (List.mem_of_getLast? hg)
      simp [UInt32.not_le.mpr hab]
  · obtain ⟨r, hr, hrb⟩ := List.mem_map.mp hid
    obtain ⟨a, ha, rfl⟩ := List.mem_map.mp (h.records.subset hr)
    have hn : a.number = b.number := by
      rw [← hl.number_id (List.mem_append_left _ ha), ← hl.number_id (b := b) (by simp)]
      exact congrArg Digest.number hrb
    exact UInt32.lt_irrefl _ (hn ▸ hlt a ha)

theorem Recalls.not_accepts (h : s.Recalls bs) {a : FinalizedBlock} (ha : a ∈ bs)
    (hn : a.number = Deposits.lastNumber) (b : FinalizedBlock) : s.accepts b = false := by
  obtain ⟨last, hl, hle⟩ := (s.isStale_iff _).mp (h.isStale a ha)
  have hs : s.isStale b.number = true := by
    refine (s.isStale_iff _).mpr ⟨last, hl, UInt32.le_trans ?_ hle⟩
    rw [hn, UInt32.le_iff_toNat_le]
    have hb := b.number.toNat_lt
    have hm : Deposits.lastNumber.toNat = 2 ^ 32 - 1 := rfl
    omega
  simp [accepts, hs]

/-- The accepted blocks of a linked chain are its first ones. -/
theorem accepted_prefix (h : s.Recalls []) {is : List Input}
    (hl : Linked (finalizedBlocks ((s.run is).map Turn.input))) :
    acceptedBlocks (s.run is) <+: finalizedBlocks ((s.run is).map Turn.input) := by
  have hp := run_induction (P := fun ts s => s.Recalls (acceptedBlocks ts) ∧
      (Linked (finalizedBlocks (ts.map Turn.input)) →
        acceptedBlocks ts <+: finalizedBlocks (ts.map Turn.input) ∧
        (acceptedBlocks ts = finalizedBlocks (ts.map Turn.input) ∨
          ∃ a ∈ acceptedBlocks ts, a.number = Deposits.lastNumber)))
    ⟨h, fun _ => ⟨List.prefix_refl _, .inl rfl⟩⟩
    (fun ts t hv hs => ?_) is
  · exact (hp.2 hl).1
  · obtain ⟨hr, hs⟩ := hs
    rw [acceptedBlocks_snoc, finalizedBlocks_snoc]
    refine ⟨hv.recalls hr, fun hlink => ?_⟩
    obtain ⟨hpre, hend⟩ := hs (hlink.sublist ⟨[], t.input.finalized?.toList, by simp⟩)
    cases hi : t.input.finalized? with
    | none =>
      have ha : t.accepted? = none := by simp [Turn.accepted?, hi]
      simpa [ha] using And.intro hpre hend
    | some b =>
      rw [hi, Option.toList_some] at hlink
      by_cases hm : ∃ a ∈ acceptedBlocks ts, a.number = Deposits.lastNumber
      · obtain ⟨a, ha, hn⟩ := hm
        have hb : t.accepted? = none := by
          simp [Turn.accepted?, hi, Option.filter_some, hr.not_accepts ha hn b]
        rw [hb, Option.toList_none, List.append_nil]
        exact ⟨hpre.trans (List.prefix_append _ _), .inr ⟨a, ha, hn⟩⟩
      · have he := hend.resolve_right hm
        have hacc := hr.accepts_next (b := b) (he ▸ hlink) fun a ha hn => hm ⟨a, ha, hn⟩
        have hb : t.accepted? = some b := by simp [Turn.accepted?, hi, Option.filter_some, hacc]
        rw [hb, he]
        exact ⟨List.prefix_refl _, .inl rfl⟩

end Relay

end FinalityRelay
