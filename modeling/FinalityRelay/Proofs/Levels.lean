import FinalityRelay.Merkle.Tree
import Mathlib

/-! The marks of the nodes of a tree and its levels: the parents of the parts of a level, and an induction
that climbs from each level to the one above. -/

namespace FinalityRelay

namespace Digest

variable {d e : Digest}

theorem asRight_asLeft (d : Digest) : d.asLeft.asRight = d.asRight := by
  have hb : ∀ b : UInt8, (b &&& 0x7f) ||| 0x80 = b ||| 0x80 := by decide +kernel
  simp only [asLeft, asRight, mapHead, List.modifyHead_modifyHead, Function.comp_def, hb]

theorem asLeft_asRight (d : Digest) : d.asRight.asLeft = d.asLeft := by
  have hb : ∀ b : UInt8, (b ||| 0x80) &&& 0x7f = b &&& 0x7f := by decide +kernel
  simp only [asLeft, asRight, mapHead, List.modifyHead_modifyHead, Function.comp_def, hb]

theorem asLeft_asLeft (d : Digest) : d.asLeft.asLeft = d.asLeft := by
  rw [← asLeft_asRight d.asLeft, asRight_asLeft, asLeft_asRight]

theorem isRight_asLeft (d : Digest) : d.asLeft.isRight = false := by
  have hb : ∀ b : UInt8, (b &&& 0x7f) &&& 0x80 = 0 := by decide +kernel
  have ha : d.asLeft.bytes = d.bytes.modifyHead (· &&& 0x7f) := rfl
  rw [isRight, ha]
  cases d.bytes <;> simp [hb]

/-- Marking a digest forgets its top bit and nothing else, whichever the side. -/
theorem asRight_eq_asRight_iff : d.asRight = e.asRight ↔ d.asLeft = e.asLeft := by
  constructor
  · intro h
    rw [← asLeft_asRight, h, asLeft_asRight]
  · intro h
    rw [← asRight_asLeft, h, asRight_asLeft]

end Digest

namespace Merkle

variable {front level : List Digest}

theorem parents_append (h : front.length % 2 = 0) (rest : List Digest) :
    parents (front ++ rest) = parents front ++ parents rest := by
  induction front using parents.induct with
  | case1 a b r ih =>
    have hr : r.length % 2 = 0 := by
      rw [List.length_cons, List.length_cons] at h
      omega
    simp [parents, ih hr]
  | case2 a => simp at h
  | case3 => simp [parents]

theorem parents_concat (h : front.length % 2 = 0) (a : Digest) :
    parents (front ++ [a]) = parents front ++ [parent a a] :=
  parents_append h [a]

theorem parents_concat_concat (h : front.length % 2 = 0) (a b : Digest) :
    parents (front ++ [a] ++ [b]) = parents front ++ [parent a b] := by
  rw [List.append_assoc]
  exact parents_append h [a, b]

theorem two_mul_length_parents (h : front.length % 2 = 0) :
    2 * (parents front).length = front.length := by
  rw [length_parents]
  omega

theorem parents_take (level : List Digest) (i : Nat) :
    parents (level.take (2 * i)) = (parents level).take i := by
  induction level using parents.induct generalizing i with
  | case1 a b r ih =>
    cases i with
    | zero => simp [parents]
    | succ i => simp [Nat.mul_succ, parents, ih]
  | case2 a =>
    cases i with
    | zero => simp [parents]
    | succ i => simp [Nat.mul_succ, parents]
  | case3 => simp [parents]

theorem parents_drop (level : List Digest) (i : Nat) :
    parents (level.drop (2 * i)) = (parents level).drop i := by
  induction level using parents.induct generalizing i with
  | case1 a b r ih =>
    cases i with
    | zero => simp
    | succ i => simp [Nat.mul_succ, parents, ih]
  | case2 a =>
    cases i with
    | zero => simp
    | succ i => simp [Nat.mul_succ, parents]
  | case3 => simp [parents]

theorem root_parents (h : level.length ≠ 1) : root (parents level) = root level := by
  match level, h with
  | [], _ => rfl
  | [_], h => simp at h
  | a :: b :: r, _ => rw [root]

/-- The height of a tree falls by one from a level to the one above. -/
theorem clog_length_parents (h : 2 ≤ level.length) :
    Nat.clog 2 level.length = Nat.clog 2 (parents level).length + 1 := by
  rw [Nat.clog_of_two_le (by decide) h, length_parents]
  rfl

/-- A level is empty, or the parents of its pairs make up the level above, but for a last node alone. -/
theorem level_induction {P : List Digest → Prop} (nil : P [])
    (even : ∀ front, front ≠ [] → front.length % 2 = 0 → P (parents front) → P front)
    (odd : ∀ front last, front.length % 2 = 0 → P (parents front) → P (front ++ [last]))
    (level : List Digest) : P level := by
  induction hn : level.length using Nat.strong_induction_on generalizing level with
  | _ n ih =>
    subst hn
    rcases List.eq_nil_or_concat level with rfl | ⟨front, last, rfl⟩
    · exact nil
    · rw [List.concat_eq_append] at ih ⊢
      rcases Nat.mod_two_eq_zero_or_one front.length with hf | hf
      · refine odd front last hf (ih _ ?_ _ rfl)
        simp only [length_parents, List.length_append, List.length_singleton]
        omega
      · have hl : (front ++ [last]).length % 2 = 0 := by
          rw [List.length_append, List.length_singleton]
          omega
        refine even _ (by simp) hl (ih _ ?_ _ rfl)
        simp only [length_parents, List.length_append, List.length_singleton]
        omega

end Merkle

end FinalityRelay
