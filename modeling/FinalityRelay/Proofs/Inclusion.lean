import FinalityRelay.Evidence.Job
import FinalityRelay.Proofs.Binding

/-! A leaf that is joined with its siblings on the way up becomes the root, and the sides of the siblings
tell its place. So does the receipt of a deposit with its path, over the receipts of its block. -/

namespace FinalityRelay

namespace Digest

theorem asRight_asRight (d : Digest) : d.asRight.asRight = d.asRight :=
  asRight_eq_asRight_iff.mpr d.asLeft_asRight

theorem isRight_asRight (d : Digest) : d.asRight.isRight = true := by
  have hb : ∀ b : UInt8, (b ||| 0x80) &&& 0x80 ≠ 0 := by decide +kernel
  have ha : d.asRight.bytes = d.bytes.modifyHead (· ||| 0x80) := rfl
  have hlen := d.length_bytes
  rw [isRight, ha]
  cases hd : d.bytes with
  | nil => simp [hd] at hlen
  | cons b bs => simp [hb]

end Digest

namespace Merkle

variable {level leaves : List Digest} {i : Nat}

theorem join_asRight (node other : Digest) : join node other.asRight = parent node other := by
  rw [join, if_pos other.isRight_asRight, parent, parent, Digest.asRight_asRight]

theorem join_asLeft (node other : Digest) : join node other.asLeft = parent other node := by
  rw [join, if_neg (by simp [Digest.isRight_asLeft]), parent, parent, Digest.asLeft_asLeft]

theorem getElem?_parents (level : List Digest) (i : Nat) :
    (parents level)[i]? = level[2 * i]?.map fun a => parent a (level[2 * i + 1]?.getD a) := by
  rw [parents_eq, List.getElem?_map, getElem?_levelMessages, Option.map_map]
  rfl

/-- A node and its sibling are the two children of the node above. -/
theorem getElem?_parents_half (hi : i < level.length) :
    (parents level)[i / 2]? = some (join level[i] (sibling i level)) := by
  rw [getElem?_parents, sibling]
  by_cases he : i % 2 = 0
  · have hleft : 2 * (i / 2) = i := by omega
    rw [hleft, if_pos he, join_asRight, List.getElem?_eq_getElem hi]
    simp [List.getD_eq_getElem?_getD, hi]
  · have hleft : 2 * (i / 2) = i - 1 := by omega
    have hright : 2 * (i / 2) + 1 = i := by omega
    have hlt : i - 1 < level.length := by omega
    rw [hright, hleft, if_neg he, join_asLeft, List.getElem?_eq_getElem hlt]
    simp [List.getD_eq_getElem?_getD, hi, hlt]

theorem rootFromPath_siblings (hi : i < leaves.length) :
    rootFromPath leaves[i] (siblings i leaves) = root leaves := by
  induction i, leaves using siblings.induct with
  | case1 i => simp at hi
  | case2 i a => simp [siblings, root, rootFromPath]
  | case3 i a b r ih =>
    have hup := getElem?_parents_half hi
    have hlt : i / 2 < (parents (a :: b :: r)).length := by
      rw [length_parents]
      omega
    rw [List.getElem?_eq_getElem hlt] at hup
    have hrest := ih hlt
    rw [Option.some.inj hup] at hrest
    rw [siblings, rootFromPath, List.foldl_cons, ← rootFromPath, hrest, root]

theorem length_siblings (i : Nat) (leaves : List Digest) :
    (siblings i leaves).length = Nat.clog 2 leaves.length := by
  induction i, leaves using siblings.induct with
  | case1 i => simp [siblings]
  | case2 i a => simp [siblings]
  | case3 i a b r ih =>
    rw [siblings, List.length_cons, ih]
    exact (clog_length_parents (by simp)).symm

/-- A sibling stands on the right of the nodes at even places, and on the left of the others. -/
theorem isRight_sibling (i : Nat) (level : List Digest) :
    (sibling i level).isRight = !i.testBit 0 := by
  rw [sibling, Nat.testBit_zero]
  split
  · rename_i he
    simp [Digest.isRight_asRight, he]
  · rename_i ho
    simp [Digest.isRight_asLeft, show i % 2 = 1 by omega]

theorem isRight_getElem_siblings {k : Nat} (hk : k < (siblings i leaves).length) :
    (siblings i leaves)[k].isRight = !i.testBit k := by
  induction i, leaves using siblings.induct generalizing k with
  | case1 i => simp [siblings] at hk
  | case2 i a => simp [siblings] at hk
  | case3 i a b r ih =>
    rw [siblings, List.length_cons] at hk
    cases k with
    | zero => simp only [siblings, List.getElem_cons_zero, isRight_sibling]
    | succ k =>
      simp only [siblings, List.getElem_cons_succ, ih (Nat.lt_of_succ_lt_succ hk), Nat.testBit_succ]

theorem lt_two_pow_length_siblings (hi : i < leaves.length) : i < 2 ^ (siblings i leaves).length := by
  rw [length_siblings]
  exact hi.trans_le (Nat.le_pow_clog (by decide) _)

theorem eq_of_siblings_eq {j : Nat} {others : List Digest} (hi : i < leaves.length)
    (hj : j < others.length) (h : siblings j others = siblings i leaves) : j = i := by
  have hlt := lt_two_pow_length_siblings hi
  have hlt' := lt_two_pow_length_siblings hj
  rw [h] at hlt'
  refine Nat.eq_of_testBit_eq fun k => ?_
  by_cases hk : k < (siblings i leaves).length
  · have hk' : k < (siblings j others).length := h ▸ hk
    have hside := isRight_getElem_siblings hk
    have hside' := isRight_getElem_siblings hk'
    simp only [h] at hside'
    rw [hside'] at hside
    exact Bool.not_inj hside
  · have hpow := Nat.pow_le_pow_right (n := 2) (by decide) (Nat.le_of_not_lt hk)
    rw [Nat.testBit_eq_false_of_lt (hlt.trans_le hpow),
      Nat.testBit_eq_false_of_lt (hlt'.trans_le hpow)]

/-- The path of a leaf is as long as its tree is high and leads from the leaf to the root. Its sides are
the binary digits of the leaf's place, so no other place has the same path, in whatever list of leaves. A
place has no path only if it is beyond the last leaf. -/
theorem inclusionPath_leads_to_root (i : Nat) (leaves : List Digest) :
    (∀ hi : i < leaves.length, ∃ path, inclusionPath i leaves = .ok path ∧
      path.length = Nat.clog 2 leaves.length ∧ rootFromPath leaves[i] path = root leaves ∧
      (∀ k (hk : k < path.length), path[k].isRight = true ↔ i.testBit k = false) ∧
      ∀ j others, inclusionPath j others = .ok path → j = i) ∧
    ∀ e, inclusionPath i leaves = .error e ↔
      leaves.length ≤ i ∧ e = .invalidIndex i leaves.length := by
  refine ⟨fun hi => ⟨siblings i leaves, if_pos hi, length_siblings i leaves,
    rootFromPath_siblings hi, fun k hk => ?_, fun j others hj => ?_⟩, fun e => ?_⟩
  · rw [isRight_getElem_siblings hk, Bool.not_eq_true']
  · unfold inclusionPath at hj
    split at hj
    · rename_i hlt
      exact eq_of_siblings_eq hi hlt (Except.ok.inj hj)
    · simp at hj
  · unfold inclusionPath
    split
    · rename_i hlt
      simp [Nat.not_le.mpr hlt]
    · rename_i hge
      simp [Nat.le_of_not_lt hge, eq_comm]

end Merkle

theorem DepositEvidence.rootFromPath_of_refreshPath {e e' : DepositEvidence}
    (h : e.refreshPath = .ok e') :
    Merkle.rootFromPath e'.receipt.digest e'.path = Merkle.root e.siblings := by
  unfold refreshPath Merkle.inclusionPath at h
  by_cases hi : e.siblings.idxOf e.receipt.digest < e.siblings.length
  · rw [if_pos hi] at h
    have hroot := Merkle.rootFromPath_siblings hi
    rw [List.getElem_idxOf hi] at hroot
    rw [← Except.ok.inj h]
    exact hroot
  · rw [if_neg hi] at h
    simp [Except.map] at h

end FinalityRelay
