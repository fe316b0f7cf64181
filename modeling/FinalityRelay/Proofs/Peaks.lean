import FinalityRelay.Merkle.Accumulator
import FinalityRelay.Proofs.Levels

/-! What an accumulator holds is a function of the leaves that were appended: the roots of the perfect
trees that their number splits into, and the root of all of them. -/

namespace FinalityRelay

section Numbers

variable {q k : Nat}

theorem isPowerOfTwo_two_mul (q : Nat) : (2 * q).isPowerOfTwo ↔ q.isPowerOfTwo := by
  constructor
  · rintro ⟨k, hk⟩
    cases k with
    | zero => omega
    | succ k => exact ⟨k, by rw [pow_succ] at hk; omega⟩
  · rintro ⟨k, rfl⟩
    exact ⟨k + 1, by rw [pow_succ, Nat.mul_comm]⟩

theorem isPowerOfTwo_two_mul_add_one (q : Nat) : (2 * q + 1).isPowerOfTwo ↔ q = 0 := by
  constructor
  · rintro ⟨k, hk⟩
    cases k with
    | zero => omega
    | succ k => rw [pow_succ] at hk; omega
  · rintro rfl
    exact ⟨0, rfl⟩

theorem Accumulator.bits_two_mul (hq : q ≠ 0) : bits (2 * q) = false :: bits q := by
  rw [bits, if_neg (by omega), Nat.mul_div_cancel_left q (by decide)]
  simp

theorem Accumulator.bits_two_mul_add_one (q : Nat) : bits (2 * q + 1) = true :: bits q := by
  rw [bits, if_neg (by omega), show (2 * q + 1) / 2 = q by omega]
  simp [Nat.add_mod]

end Numbers

namespace Merkle

variable {front : List Digest} {k : Nat}

/-- How many leaves come before the perfect tree that bit `k` of their number stands for: as many as the
higher bits are worth. -/
def before (n k : Nat) : Nat := n / 2 ^ (k + 1) * 2 ^ (k + 1)

/-- The leaves of the perfect tree that bit `k` of their number stands for. -/
def subtree (leaves : List Digest) (k : Nat) : List Digest :=
  (leaves.drop (before leaves.length k)).take (2 ^ k)

/-- The roots of the perfect trees, the smallest one first. -/
def peaks (leaves : List Digest) : List Digest :=
  leaves.length.bitIndices.map fun k => root (subtree leaves k)

theorem before_succ (n k : Nat) : before n (k + 1) = 2 * before (n / 2) k := by
  rw [before, before, pow_succ' 2 (k + 1), Nat.div_div_eq_div_mul, Nat.mul_left_comm]

theorem before_add_le {n : Nat} (hk : n.testBit k = true) : before n k + 2 ^ k ≤ n := by
  have hb : n / 2 ^ k % 2 = 1 := by
    rw [Nat.testBit_eq_decide_div_mod_eq] at hk
    exact of_decide_eq_true hk
  have hq : n / 2 ^ k / 2 * 2 + 1 = n / 2 ^ k := by omega
  calc before n k + 2 ^ k = (n / 2 ^ k / 2 * 2 + 1) * 2 ^ k := by
        rw [before, pow_succ, ← Nat.div_div_eq_div_mul]
        ring
    _ = n / 2 ^ k * 2 ^ k := by rw [hq]
    _ ≤ n := Nat.div_mul_le_self n (2 ^ k)

theorem subtree_zero_concat (h : front.length % 2 = 0) (last : Digest) :
    subtree (front ++ [last]) 0 = [last] := by
  have hb : before (front ++ [last]).length 0 = front.length := by
    rw [before, List.length_append, List.length_singleton]
    omega
  rw [subtree, hb, List.drop_left]
  rfl

/-- A last leaf alone is not in the trees of the higher bits. -/
theorem subtree_succ_concat (h : front.length % 2 = 0) (last : Digest)
    (hk : (front.length / 2).testBit k = true) :
    subtree (front ++ [last]) (k + 1) = subtree front (k + 1) := by
  have hle := before_add_le hk
  have hpos := Nat.two_pow_pos k
  have hb : before (front ++ [last]).length (k + 1) = before front.length (k + 1) := by
    rw [before_succ, before_succ, List.length_append, List.length_singleton]
    congr 2
    omega
  rw [subtree, subtree, hb, before_succ, pow_succ, List.drop_append_of_le_length (by omega),
    List.take_append_of_le_length]
  rw [List.length_drop]
  omega

theorem parents_subtree (h : front.length % 2 = 0) (k : Nat) :
    parents (subtree front (k + 1)) = subtree (parents front) k := by
  have hl : (parents front).length = front.length / 2 := by
    have := two_mul_length_parents h
    omega
  rw [subtree, subtree, hl, before_succ, pow_succ', parents_take, parents_drop]

/-- No tree of a higher bit is a leaf alone, so each of them grows from the level above. -/
theorem root_subtree_succ (h : front.length % 2 = 0) (k : Nat) :
    root (subtree front (k + 1)) = root (subtree (parents front) k) := by
  rw [← parents_subtree h, root_parents]
  rw [subtree, before_succ, pow_succ, List.length_take, List.length_drop]
  omega

theorem peaks_parents (h : front.length % 2 = 0) : peaks (parents front) = peaks front := by
  rw [peaks, peaks, ← two_mul_length_parents h, Nat.bitIndices_two_mul, List.map_map]
  exact List.map_congr_left fun k _ => (root_subtree_succ h k).symm

theorem peaks_concat (h : front.length % 2 = 0) (last : Digest) :
    peaks (front ++ [last]) = last :: peaks (parents front) := by
  have hl := two_mul_length_parents h
  have hn : (front ++ [last]).length = 2 * (parents front).length + 1 := by
    rw [List.length_append, List.length_singleton, hl]
  rw [peaks, hn, Nat.bitIndices_two_mul_add_one, List.map_cons, subtree_zero_concat h, List.map_map,
    peaks]
  refine congrArg₂ _ (by rw [root]) (List.map_congr_left fun k hk => ?_)
  have hk : (front.length / 2).testBit k = true := by
    rw [← hl, Nat.mul_div_cancel_left _ (by decide)]
    exact Nat.mem_bitIndices.mp hk
  rw [Function.comp_apply, subtree_succ_concat h last hk, root_subtree_succ h]

theorem peaks_of_isPowerOfTwo {leaves : List Digest} (h : leaves.length.isPowerOfTwo) :
    peaks leaves = [root leaves] := by
  obtain ⟨k, hk⟩ := h
  have hb : before leaves.length k = 0 := by
    rw [before, hk, Nat.div_eq_of_lt (Nat.pow_lt_pow_succ (by decide)), Nat.zero_mul]
  rw [peaks, hk, Nat.bitIndices_two_pow, List.map_singleton, subtree, hb, List.drop_zero,
    List.take_of_length_le (Nat.le_of_eq hk)]

end Merkle

namespace Accumulator

open Merkle (parents peaks)

/-- The nodes that are held for some leaves. -/
def nodesOf (leaves : List Digest) : List Digest :=
  peaks leaves ++
    if leaves.length = 0 ∨ leaves.length.isPowerOfTwo then [] else [Merkle.root leaves]

theorem nodesOf_parents {front : List Digest} (h : front.length % 2 = 0) :
    nodesOf (parents front) = nodesOf front := by
  have hl := Merkle.two_mul_length_parents h
  have h0 : front.length = 0 ↔ (parents front).length = 0 := by omega
  have hp := isPowerOfTwo_two_mul (parents front).length
  rw [hl] at hp
  rw [nodesOf, nodesOf, Merkle.peaks_parents h, Merkle.root_parents (by omega)]
  simp only [h0, hp]

theorem nodesOf_concat {front : List Digest} (hne : front ≠ []) (h : front.length % 2 = 0)
    (last : Digest) :
    nodesOf (front ++ [last]) = last :: (peaks (parents front) ++ [Merkle.root (front ++ [last])]) := by
  have hl := Merkle.two_mul_length_parents h
  have hpos := List.length_pos_iff.mpr hne
  have hp : ¬(2 * (parents front).length + 1).isPowerOfTwo := by
    rw [isPowerOfTwo_two_mul_add_one]
    omega
  rw [hl] at hp
  rw [nodesOf, Merkle.peaks_concat h, if_neg]
  · rfl
  · simpa using hp

theorem getLast?_nodesOf (leaves : List Digest) :
    (nodesOf leaves).getLast?.getD .zero = Merkle.root leaves := by
  by_cases h : leaves.length = 0 ∨ leaves.length.isPowerOfTwo
  · rw [nodesOf, if_pos h, List.append_nil]
    rcases h with h | h
    · rw [List.length_eq_zero_iff.mp h]
      simp [peaks, Merkle.root]
    · rw [Merkle.peaks_of_isPowerOfTwo h]
      rfl
  · rw [nodesOf, if_neg h, List.getLast?_concat]
    rfl

/-- Once a node stands without a sibling the peaks are all kept, and the climb ends at the root. What is
held beyond the peaks is not read. -/
theorem climb_padded (leaves : List Digest) (top : Digest) (rest : List Digest) :
    climb true top (bits leaves.length) (peaks leaves ++ rest) =
      peaks leaves ++ [Merkle.root (leaves ++ [top])] := by
  induction leaves using Merkle.level_induction generalizing top with
  | nil => simp [bits, climb, peaks, Merkle.root]
  | even front hne h ih =>
    have hl := Merkle.two_mul_length_parents h
    have hpos := List.length_pos_iff.mpr hne
    have hr : Merkle.root (parents front ++ [Merkle.parent top top]) = Merkle.root (front ++ [top]) := by
      rw [← Merkle.parents_concat h, Merkle.root_parents (by simpa using hne)]
    rw [← hl, bits_two_mul (by omega), climb, ← Merkle.peaks_parents h, ih, if_pos rfl, hr]
  | odd front last h ih =>
    have hl := Merkle.two_mul_length_parents h
    have hr : Merkle.root (parents front ++ [Merkle.parent last top]) =
        Merkle.root (front ++ [last] ++ [top]) := by
      rw [← Merkle.parents_concat_concat h, Merkle.root_parents (by simp)]
    rw [List.length_append, List.length_singleton, ← hl, bits_two_mul_add_one, Merkle.peaks_concat h,
      List.cons_append, climb, List.headD_cons, List.tail_cons, ih, if_pos rfl, hr]
    rfl

/-- A climb that starts at a leaf joins peaks as long as their bits are set. -/
theorem climb_leaf (leaves : List Digest) (top : Digest) (rest : List Digest) :
    climb false top (bits leaves.length) (peaks leaves ++ rest) = nodesOf (leaves ++ [top]) := by
  induction leaves using Merkle.level_induction generalizing top with
  | nil =>
    have hp : [top].length.isPowerOfTwo := ⟨0, rfl⟩
    rw [List.nil_append, nodesOf, if_pos (.inr hp), Merkle.peaks_of_isPowerOfTwo hp]
    simp [bits, climb, Merkle.root]
  | even front hne h =>
    have hl := Merkle.two_mul_length_parents h
    have hpos := List.length_pos_iff.mpr hne
    have hr : Merkle.root (parents front ++ [Merkle.parent top top]) = Merkle.root (front ++ [top]) := by
      rw [← Merkle.parents_concat h, Merkle.root_parents (by simpa using hne)]
    rw [← hl, bits_two_mul (by omega), climb, ← Merkle.peaks_parents h, climb_padded, if_neg (by decide),
      hr, nodesOf_concat hne h]
  | odd front last h ih =>
    have hl := Merkle.two_mul_length_parents h
    have he : (front ++ [last] ++ [top]).length % 2 = 0 := by
      rw [List.length_append, List.length_append, List.length_singleton, List.length_singleton]
      omega
    rw [List.length_append, List.length_singleton, ← hl, bits_two_mul_add_one, Merkle.peaks_concat h,
      List.cons_append, climb, List.headD_cons, List.tail_cons, ih, if_neg (by decide),
      ← nodesOf_parents he, Merkle.parents_concat_concat h]

/-- What an accumulator is after these leaves. -/
structure Holds (m : Accumulator) (leaves : List Digest) : Prop where
  count : m.count.toNat = leaves.length
  nodes : m.nodes = nodesOf leaves

namespace Holds

variable {m : Accumulator} {leaves : List Digest}

theorem root (h : m.Holds leaves) : m.root = Merkle.root leaves := by
  rw [Accumulator.root, h.nodes, getLast?_nodesOf]

theorem append (h : m.Holds leaves) (leaf : Digest) (hl : leaves.length + 1 < 2 ^ 64) :
    (m.append leaf).Holds (leaves ++ [leaf]) where
  count := by
    have hne : m.count ≠ 0xffffffffffffffff := by
      intro he
      have hc := h.count
      rw [he] at hc
      have hmax : (0xffffffffffffffff : UInt64).toNat = 2 ^ 64 - 1 := rfl
      omega
    have hs : (m.count + 1).toNat = m.count.toNat + 1 := by
      rw [UInt64.toNat_add, UInt64.toNat_one, h.count]
      omega
    rw [Accumulator.append, if_neg hne, hs, h.count, List.length_append, List.length_singleton]
  nodes := by
    rw [Accumulator.append, h.count, h.nodes, nodesOf, climb_leaf]

theorem appendAll (h : m.Holds leaves) {more : List Digest} (hl : (leaves ++ more).length < 2 ^ 64) :
    (m.appendAll more).Holds (leaves ++ more) := by
  induction more generalizing m leaves with
  | nil =>
    rw [List.append_nil]
    exact h
  | cons leaf more ih =>
    rw [List.append_cons] at hl ⊢
    exact ih (h.append leaf (by simp at hl; omega)) hl

end Holds

theorem holds_ofLeaves {leaves : List Digest} (h : leaves.length < 2 ^ 64) :
    (ofLeaves leaves).Holds leaves := by
  have hempty : empty.Holds [] := ⟨rfl, rfl⟩
  exact hempty.appendAll h

/-- Appending leaf by leaf gives the root of all leaves so far each time, and leaves the roots of the
perfect trees, and that of all leaves unless it is one of these. -/
theorem ofLeaves_holds_roots {leaves : List Digest} (h : leaves.length < 2 ^ 64) :
    (∀ front leaf, front ++ [leaf] <+: leaves →
      ((ofLeaves front).append leaf).root = Merkle.root (front ++ [leaf])) ∧
    (ofLeaves leaves).count.toNat = leaves.length ∧
    (ofLeaves leaves).nodes =
      (leaves.length.bitIndices.map fun k =>
        Merkle.root ((leaves.drop (leaves.length / 2 ^ (k + 1) * 2 ^ (k + 1))).take (2 ^ k))) ++
      if leaves.length = 0 ∨ leaves.length.isPowerOfTwo then [] else [Merkle.root leaves] := by
  refine ⟨fun front leaf hp => ?_, (holds_ofLeaves h).count, (holds_ofLeaves h).nodes⟩
  have hle := hp.length_le
  rw [List.length_append, List.length_singleton] at hle
  exact ((holds_ofLeaves (by omega)).append leaf (by omega)).root

theorem nodes_of_three_leaves :
    [Digest.zero, Digest.zero.asRight, Digest.zero].length < 2 ^ 64 ∧
      (ofLeaves [.zero, Digest.zero.asRight, .zero]).nodes =
        [.zero, Merkle.parent .zero Digest.zero.asRight,
          Merkle.parent (Merkle.parent .zero Digest.zero.asRight) (Merkle.parent .zero .zero)] := by
  have hl : [Digest.zero, Digest.zero.asRight, Digest.zero].length < 2 ^ 64 := by decide
  have hn := (ofLeaves_holds_roots hl).2.2
  have hb : Nat.bitIndices 3 = [0, 1] := by decide
  have hp : ¬Nat.isPowerOfTwo 3 := by decide
  refine ⟨hl, hn.trans ?_⟩
  simp [hb, hp, List.take, Merkle.root, Merkle.parents]

end Accumulator

end FinalityRelay
