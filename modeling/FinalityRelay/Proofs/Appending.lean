import FinalityRelay.Proofs.Peaks
import FinalityRelay.Proofs.SnapshotForm

/-! Appending to an accumulator whose nodes may be any digests. If there are as many of them as the count
asks for, a leaf finds a left node at every level where it needs one, and what it leaves behind is as many
nodes as the next count asks for. -/

namespace FinalityRelay

namespace Accumulator

/-- A node on its way up: whether it joined itself already, the nodes that it did not read yet, and those
that are kept. -/
structure Ascent where
  padded : Bool
  top : Digest
  unread : List Digest
  kept : List Digest

/-- One level up. Where the bit of the count is one there has to be a left node to join. -/
def Ascent.step? (a : Ascent) : Bool → Option Ascent
  | true =>
    match a.unread with
    | [] => none
    | left :: unread =>
      some ⟨a.padded, Merkle.parent left a.top, unread, if a.padded then a.kept ++ [left] else a.kept⟩
  | false =>
    some ⟨true, Merkle.parent a.top a.top, a.unread, if a.padded then a.kept else a.kept ++ [a.top]⟩

/-- Appends a leaf level by level, and gives the node that it arrives at as well. Nothing comes of it if a
node is missing on the way. -/
def append? (m : Accumulator) (leaf : Digest) : Option (Digest × Accumulator) := do
  let n := m.count.toNat
  let levels := List.range (Nat.clog 2 (n + 1))
  let a ← (levels.map n.testBit).foldlM Ascent.step? ⟨false, leaf, m.nodes, []⟩
  return (a.top, ⟨m.count + 1, a.kept ++ [a.top]⟩)

/-- There is a bit for every level of the tree that the next leaf belongs to. -/
theorem bits_eq_map_testBit (n : Nat) : bits n = (List.range (Nat.clog 2 (n + 1))).map n.testBit := by
  induction n using bits.induct with
  | case1 => simp [bits]
  | case2 n hn ih =>
    have hc : Nat.clog 2 (n + 1) = Nat.clog 2 (n / 2 + 1) + 1 := by
      rw [Nat.clog_of_two_le (by decide) (by omega)]
      congr 2
      omega
    have h0 : n.testBit 0 = decide (n % 2 = 1) := Nat.testBit_zero n
    have hs : n.testBit ∘ Nat.succ = (n / 2).testBit := funext fun k => Nat.testBit_succ n k
    rw [bits, if_neg hn, ih, hc, List.range_succ_eq_map, List.map_cons, List.map_map, h0, hs]

theorem one_le_count_bits {n : Nat} (hn : n ≠ 0) : 1 ≤ (bits n).count true := by
  induction n using Nat.evenOddRec with
  | h0 => exact absurd rfl hn
  | h_even n ih =>
    have hn : n ≠ 0 := by omega
    rw [bits_two_mul hn, List.count_cons_of_ne (by decide)]
    exact ih hn
  | h_odd n =>
    rw [bits_two_mul_add_one, List.count_cons_self]
    exact Nat.le_add_left 1 _

theorem count_bits_le_expectedNodes (n : Nat) : (bits n).count true ≤ expectedNodes n := by
  rw [expectedNodes]
  split <;> omega

theorem expectedNodes_two_mul (n : Nat) : expectedNodes (2 * n) = expectedNodes n := by
  rcases eq_or_ne n 0 with rfl | hn
  · rfl
  · rw [expectedNodes, bits_two_mul hn, List.count_cons_of_ne (by decide), expectedNodes]

theorem expectedNodes_two_mul_add_one {n : Nat} (hn : n ≠ 0) :
    expectedNodes (2 * n + 1) = (bits n).count true + 2 := by
  have hle := one_le_count_bits hn
  rw [expectedNodes, bits_two_mul_add_one, List.count_cons_self, if_neg (by omega)]

section Climb

variable (top : Digest) (nodes : List Digest)

/-- Once a node joined itself all left nodes are kept. -/
theorem length_climb_padded (bs : List Bool) : (climb true top bs nodes).length = bs.count true + 1 := by
  induction bs generalizing top nodes with
  | nil => rfl
  | cons b bs ih => cases b <;> simp [climb, ih]

/-- The carry of the count and the climb of the leaf go through the same levels. -/
theorem length_climb_bits (n : Nat) : (climb false top (bits n) nodes).length = expectedNodes (n + 1) := by
  induction n using Nat.evenOddRec generalizing top nodes with
  | h0 => simp [bits, climb, expectedNodes]
  | h_even n ih =>
    rcases eq_or_ne n 0 with rfl | hn
    · exact ih top nodes
    · -- The leaf joins itself here, so every left node above it is kept: one for each bit that is one.
      rw [bits_two_mul hn, climb, if_neg (by decide), List.length_cons, length_climb_padded,
        expectedNodes_two_mul_add_one hn]
  | h_odd n ih =>
    -- The leaf completes a pair, which is the next leaf of a tree with half as many.
    have hs : 2 * n + 1 + 1 = 2 * (n + 1) := by omega
    rw [bits_two_mul_add_one, climb, if_neg (by decide), ih, hs, expectedNodes_two_mul]

end Climb

/-- With a left node for every bit that is one an ascent gets to the top, and leaves what a climb does. -/
theorem exists_ascent (bs : List Bool) (a : Ascent) (h : bs.count true ≤ a.unread.length) :
    ∃ b : Ascent, bs.foldlM Ascent.step? a = some b ∧
      b.kept ++ [b.top] = a.kept ++ climb a.padded a.top bs a.unread := by
  induction bs generalizing a with
  | nil => exact ⟨a, rfl, rfl⟩
  | cons bit bs ih =>
    obtain ⟨padded, top, unread, kept⟩ := a
    cases bit with
    | true =>
      rw [List.count_cons_self] at h
      match unread, h with
      | left :: unread, h =>
        obtain ⟨b, hb, hk⟩ := ih ⟨padded, Merkle.parent left top, unread,
          if padded then kept ++ [left] else kept⟩ (Nat.le_of_succ_le_succ h)
        refine ⟨b, hb, hk.trans ?_⟩
        cases padded <;> simp [climb]
    | false =>
      rw [List.count_cons_of_ne (by decide)] at h
      obtain ⟨b, hb, hk⟩ := ih ⟨true, Merkle.parent top top, unread,
        if padded then kept else kept ++ [top]⟩ h
      refine ⟨b, hb, hk.trans ?_⟩
      cases padded <;> simp [climb]

theorem ofParts_eq_ok_iff {count : UInt64} {nodes : List Digest} {m : Accumulator} :
    ofParts count nodes = .ok m ↔ m = ⟨count, nodes⟩ ∧ m.Consistent := by
  rw [ofParts]
  split
  · rename_i h
    constructor
    · rintro ⟨⟩
      exact ⟨rfl, h⟩
    · rintro ⟨rfl, -⟩
      rfl
  · rename_i h
    refine iff_of_false (by simp) ?_
    rintro ⟨rfl, hc⟩
    exact h hc

theorem toNat_count_append {m : Accumulator} (h : m.count < 0xffffffffffffffff) (leaf : Digest) :
    (m.append leaf).count.toNat = m.count.toNat + 1 := by
  have hlt : m.count.toNat < 2 ^ 64 - 1 := UInt64.lt_iff_toNat_lt.mp h
  rw [append, if_neg (UInt64.ne_of_lt h), UInt64.toNat_add, UInt64.toNat_one]
  omega

theorem consistent_append {m : Accumulator} (h : m.count < 0xffffffffffffffff) (leaf : Digest) :
    (m.append leaf).Consistent := by
  rw [Consistent, toNat_count_append h, Accumulator.append, length_climb_bits]

/-- Whatever the nodes of an accumulator are that was made of parts, a leaf never lacks one. The count grows
by one, the parts that come of it make up an accumulator again, and its root is the node that the leaf
arrived at. -/
theorem append_total {count : UInt64} {nodes : List Digest} {m : Accumulator}
    (h : ofParts count nodes = .ok m) (hc : count < 0xffffffffffffffff) (leaf : Digest) :
    ∃ top, m.append? leaf = some (top, m.append leaf) ∧
      (m.append leaf).count.toNat = count.toNat + 1 ∧
      ofParts (m.append leaf).count (m.append leaf).nodes = .ok (m.append leaf) ∧
      (m.append leaf).root = top := by
  obtain ⟨rfl, hm⟩ := ofParts_eq_ok_iff.mp h
  have hle : (bits count.toNat).count true ≤ nodes.length := by
    rw [show nodes.length = expectedNodes count.toNat from hm]
    exact count_bits_le_expectedNodes _
  obtain ⟨a, ha, hk⟩ := exists_ascent (bits count.toNat) ⟨false, leaf, nodes, []⟩ hle
  rw [List.nil_append] at hk
  have happend : append ⟨count, nodes⟩ leaf = ⟨count + 1, a.kept ++ [a.top]⟩ := by
    rw [append, if_neg (UInt64.ne_of_lt hc), hk]
  refine ⟨a.top, ?_, toNat_count_append hc leaf, ofParts_eq_ok_iff.mpr ⟨rfl, consistent_append hc leaf⟩, ?_⟩
  · rw [append?, ← bits_eq_map_testBit, ha, happend]
    rfl
  · rw [happend, root, List.getLast?_concat]
    rfl

/-- The last leaf for which there is room, on top of nodes that no leaves lead to. -/
theorem append_before_largest_count :
    let m : Accumulator := ⟨0xfffffffffffffffe, List.replicate 64 .zero⟩
    ofParts 0xfffffffffffffffe (List.replicate 64 .zero) = .ok m ∧
      (m.append .zero).count = 0xffffffffffffffff ∧ (m.append? .zero).isSome ∧
      ofParts (m.append .zero).count (m.append .zero).nodes = .ok (m.append .zero) := by
  intro m
  have hm : m.Consistent := by decide +kernel
  have hp : ofParts 0xfffffffffffffffe (List.replicate 64 .zero) = .ok m := ofParts_eq_ok_iff.mpr ⟨rfl, hm⟩
  obtain ⟨top, ha, hcount, hparts, -⟩ := append_total hp (by decide) .zero
  exact ⟨hp, UInt64.toNat_inj.mp hcount, by rw [ha]; rfl, hparts⟩

end Accumulator

end FinalityRelay
