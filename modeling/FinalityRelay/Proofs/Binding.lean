import FinalityRelay.Proofs.Levels

/-! A root binds its leaves. Whoever finds a path from some digest to the root of a tree has found a leaf
of the tree, or two messages whose hashes agree. -/

namespace FinalityRelay

namespace Merkle

/-- The 64 bytes that are hashed into the parent of two nodes. -/
def message (left right : Digest) : List UInt8 := left.asLeft.bytes ++ right.asRight.bytes

theorem parent_eq (left right : Digest) : parent left right = sha256 (message left right) := rfl

theorem eq_of_message_eq {a b c d : Digest} (h : message a b = message c d) :
    a.asLeft = c.asLeft ∧ b.asLeft = d.asLeft := by
  have hl : a.asLeft.bytes.length = c.asLeft.bytes.length := by
    rw [Digest.length_bytes, Digest.length_bytes]
  obtain ⟨hleft, hright⟩ := List.append_inj h hl
  refine ⟨?_, Digest.asRight_eq_asRight_iff.mp ?_⟩
  · cases ha : a.asLeft
    cases hc : c.asLeft
    simpa [ha, hc] using hleft
  · cases hb : b.asRight
    cases hd : d.asRight
    simpa [hb, hd] using hright

/-- What is hashed for the parents of a level. -/
def levelMessages : List Digest → List (List UInt8)
  | a :: b :: r => message a b :: levelMessages r
  | [a] => [message a a]
  | [] => []

/-- What is hashed for the root of a list of leaves. -/
def rootMessages : List Digest → List (List UInt8)
  | [] => []
  | [_] => []
  | a :: b :: r => levelMessages (a :: b :: r) ++ rootMessages (parents (a :: b :: r))
termination_by level => level.length
decreasing_by simp [length_parents]; omega

theorem rootMessages_of_two_le {level : List Digest} (h : 2 ≤ level.length) :
    rootMessages level = levelMessages level ++ rootMessages (parents level) := by
  match level, h with
  | a :: b :: r, _ => rw [rootMessages]

/-- What is hashed when a node is joined with the next node of a path. -/
def joinMessage (node other : Digest) : List UInt8 :=
  if other.isRight then message node other else message other node

/-- What is hashed on the way from a node along a path. -/
def pathMessages : Digest → List Digest → List (List UInt8)
  | _, [] => []
  | node, other :: path => joinMessage node other :: pathMessages (join node other) path

theorem join_eq (node other : Digest) : join node other = sha256 (joinMessage node other) := by
  unfold join joinMessage
  split <;> rfl

theorem parents_eq (level : List Digest) : parents level = (levelMessages level).map sha256 := by
  induction level using parents.induct with
  | case1 a b r ih => simp only [parents, levelMessages, List.map_cons, ih, parent_eq]
  | case2 a => rfl
  | case3 => rfl

theorem getElem?_levelMessages (level : List Digest) (i : Nat) :
    (levelMessages level)[i]? = level[2 * i]?.map fun a => message a (level[2 * i + 1]?.getD a) := by
  induction level using parents.induct generalizing i with
  | case1 a b r ih =>
    cases i with
    | zero => simp [levelMessages]
    | succ i => simp [Nat.mul_succ, levelMessages, ih]
  | case2 a => cases i <;> simp [levelMessages, Nat.mul_succ]
  | case3 => simp [levelMessages]

/-- No two of the messages have hashes that agree but for the top bit. -/
def Separated (messages : List (List UInt8)) : Prop :=
  ∀ m ∈ messages, ∀ m' ∈ messages, (sha256 m).asLeft = (sha256 m').asLeft → m = m'

theorem Separated.subset {messages more : List (List UInt8)} (h : Separated more)
    (hs : messages ⊆ more) : Separated messages :=
  fun m hm m' hm' he => h m (hs hm) m' (hs hm') he

theorem separated_of_nodup {messages : List (List UInt8)}
    (h : (messages.map fun m => (sha256 m).asLeft).Nodup) : Separated messages :=
  fun _ hm _ hm' he => List.inj_on_of_nodup_map h hm hm' he

/-- One step down: if a node joined with another one agrees with a parent above a level, then the node
agrees with a child of it. That is the child on the side which the other one leaves free, if there is one
on that side. -/
theorem exists_child {level : List Digest} {node other top : Digest} {i : Nat}
    (hsep : Separated (joinMessage node other :: levelMessages level))
    (htop : (parents level)[i]? = some top) (h : top.asLeft = (join node other).asLeft) :
    ∃ k child, level[k]? = some child ∧ child.asLeft = node.asLeft ∧
      ∀ j < level.length, j / 2 = i → j.testBit 0 = !other.isRight → j = k := by
  rw [parents_eq, List.getElem?_map, getElem?_levelMessages] at htop
  obtain ⟨a, ha, hm⟩ : ∃ a, level[2 * i]? = some a ∧
      sha256 (message a (level[2 * i + 1]?.getD a)) = top := by
    simpa using htop
  have hmem : message a (level[2 * i + 1]?.getD a) ∈ levelMessages level :=
    List.mem_of_getElem? (i := i) (by rw [getElem?_levelMessages, ha]; rfl)
  rw [← hm, join_eq] at h
  have he := hsep _ (List.mem_cons_of_mem _ hmem) _ List.mem_cons_self h
  cases hr : other.isRight with
  | true =>
    rw [joinMessage, if_pos hr] at he
    refine ⟨2 * i, a, ha, (eq_of_message_eq he).1, fun j _ hj hbit => ?_⟩
    simp only [Nat.testBit_zero, Bool.not_true, decide_eq_false_iff_not] at hbit
    omega
  | false =>
    rw [joinMessage, if_neg (by simp [hr])] at he
    have hb := (eq_of_message_eq he).2
    cases hn : level[2 * i + 1]? with
    | none =>
      have hlen := List.getElem?_eq_none_iff.mp hn
      rw [hn, Option.getD_none] at hb
      refine ⟨2 * i, a, ha, hb, fun j hlt hj hbit => ?_⟩
      simp only [Nat.testBit_zero, Bool.not_false, decide_eq_true_eq] at hbit
      omega
    | some b =>
      rw [hn, Option.getD_some] at hb
      refine ⟨2 * i + 1, b, hn, hb, fun j _ hj hbit => ?_⟩
      simp only [Nat.testBit_zero, Bool.not_false, decide_eq_true_eq] at hbit
      omega

/-- The number whose binary digits are the sides that a path leaves free, one for each level. -/
def IsPosition (path : List Digest) (j : Nat) : Prop :=
  ∀ k, j.testBit k = path[k]?.any fun other => !other.isRight

theorem IsPosition.tail {other : Digest} {path : List Digest} {j : Nat}
    (h : IsPosition (other :: path) j) : IsPosition path (j / 2) := by
  intro k
  have hk := h (k + 1)
  rwa [Nat.testBit_succ, List.getElem?_cons_succ] at hk

theorem exists_leaf {leaves : List Digest} {x : Digest} {path : List Digest} (hne : leaves ≠ [])
    (hlen : path.length = Nat.clog 2 leaves.length) (hroot : rootFromPath x path = root leaves)
    (hsep : Separated (pathMessages x path ++ rootMessages leaves)) :
    ∃ i leaf, leaves[i]? = some leaf ∧ leaf.asLeft = x.asLeft ∧
      ∀ j < leaves.length, IsPosition path j → j = i := by
  have hpos := List.length_pos_iff.mpr hne
  -- The rest of the path leads to the same root from the level above, where places are halved.
  induction path generalizing x leaves with
  | nil =>
    have hone : leaves.length = 1 := by
      by_contra hn
      rw [clog_length_parents (by omega)] at hlen
      simp at hlen
    obtain ⟨a, rfl⟩ := List.length_eq_one_iff.mp hone
    rw [root] at hroot
    exact ⟨0, a, rfl, by rw [← hroot]; rfl, fun j hj _ => by simpa using hj⟩
  | cons other path ih =>
    have htwo : 2 ≤ leaves.length := by
      by_contra hn
      rw [show leaves.length = 1 by omega] at hlen
      simp at hlen
    have hup := clog_length_parents htwo
    have hpar : 0 < (parents leaves).length := by
      rw [length_parents]
      omega
    rw [pathMessages, rootMessages_of_two_le htwo] at hsep
    rw [← root_parents (by omega)] at hroot
    obtain ⟨i, top, htop, hagree, hi⟩ := ih (x := join x other) (List.length_pos_iff.mp hpar)
      (by rw [List.length_cons] at hlen; omega) hroot
      (hsep.subset fun m hm => by
        rcases List.mem_append.mp hm with hm | hm <;> simp [hm]) hpar
    obtain ⟨k, leaf, hk, hleaf, hj⟩ := exists_child
      (hsep.subset fun m hm => by
        rcases List.mem_cons.mp hm with rfl | hm
        · simp
        · simp [hm]) htop hagree
    refine ⟨k, leaf, hk, hleaf, fun j hlt hpos => hj j hlt ?_ (by simpa using hpos 0)⟩
    refine hi _ ?_ hpos.tail
    rw [length_parents]
    omega

/-- A path of the height of a tree that leads from a digest to its root starts at a leaf, whose place is
told by the sides of the path unless that place is beyond the last leaf. Otherwise two different messages
were hashed whose hashes agree but for the top bit. -/
theorem root_binds_path {leaves : List Digest} {x : Digest} {path : List Digest} (hne : leaves ≠ [])
    (hlen : path.length = Nat.clog 2 leaves.length) (hroot : rootFromPath x path = root leaves)
    (hsep : Separated (pathMessages x path ++ rootMessages leaves)) :
    (∃ leaf ∈ leaves, leaf.asLeft = x.asLeft) ∧ (leaves.length = 1 → leaves = [x]) ∧
      ∀ j (hj : j < leaves.length), (∀ k, j.testBit k = path[k]?.any fun other => !other.isRight) →
        leaves[j].asLeft = x.asLeft := by
  obtain ⟨i, leaf, hi, hleaf, hj⟩ := exists_leaf hne hlen hroot hsep
  refine ⟨⟨leaf, List.mem_of_getElem? hi, hleaf⟩, fun hone => ?_, fun j hlt hpos => ?_⟩
  · obtain ⟨a, rfl⟩ := List.length_eq_one_iff.mp hone
    have hnil : path = [] := by simpa using hlen
    rw [hnil, root] at hroot
    rw [← hroot]
    rfl
  · obtain rfl := hj j hlt hpos
    rw [List.getElem?_eq_getElem hlt] at hi
    rw [Option.some.inj hi, hleaf]

/-- The last of three leaves, found with its mark changed and joined with itself. -/
theorem root_binds_third_leaf :
    let a := Digest.zero.withNumber 1
    let b := Digest.zero.withNumber 2
    let c := Digest.zero.withNumber 3
    let path := [c.asRight, (parent a b).asLeft]
    [a, b, c] ≠ [] ∧ path.length = Nat.clog 2 [a, b, c].length ∧
      rootFromPath c.asRight path = root [a, b, c] ∧
      Separated (pathMessages c.asRight path ++ rootMessages [a, b, c]) ∧
      [a, b, c][2].asLeft = c.asRight.asLeft := by
  intro a b c path
  have hlen : path.length = Nat.clog 2 [a, b, c].length := by decide
  have hjoin : ∀ node : Digest, joinMessage node (parent a b).asLeft = message (parent a b) node := by
    intro node
    rw [joinMessage, Digest.isRight_asLeft, if_neg (by decide), message, Digest.asLeft_asLeft, message]
  have hlast : joinMessage c.asRight c.asRight = message c c := by decide
  have hnode : join c.asRight c.asRight = parent c c := by rw [join_eq, hlast, parent_eq]
  have hroot : rootFromPath c.asRight path = root [a, b, c] := by
    have hr : root [a, b, c] = parent (parent a b) (parent c c) := by simp [root, parents]
    rw [hr, rootFromPath, List.foldl_cons, List.foldl_cons, List.foldl_nil, hnode, join_eq, hjoin,
      ← parent_eq]
  have hsep : Separated (pathMessages c.asRight path ++ rootMessages [a, b, c]) := by
    have hp : pathMessages c.asRight path = [message c c, message (parent a b) (parent c c)] := by
      rw [pathMessages, hlast, hnode, pathMessages, hjoin, pathMessages]
    have hr : rootMessages [a, b, c] =
        [message a b, message c c, message (parent a b) (parent c c)] := by
      simp [rootMessages, levelMessages, parents]
    have hd : Separated [message a b, message c c, message (parent a b) (parent c c)] := by
      have hn : [(parent a b).asLeft, (parent c c).asLeft,
          (parent (parent a b) (parent c c)).asLeft].Nodup := by
        decide +kernel
      refine separated_of_nodup ?_
      simpa only [List.map_cons, List.map_nil, ← parent_eq] using hn
    rw [hp, hr]
    exact hd.subset (by simp)
  have hpos : ∀ k, Nat.testBit 2 k = path[k]?.any fun other => !other.isRight := by
    intro k
    rcases k with _ | _ | k
    · decide
    · have hp : path[1]? = some (parent a b).asLeft := rfl
      rw [hp, Option.any_some, Digest.isRight_asLeft]
      rfl
    · simp [path, Nat.testBit_succ]
  exact ⟨by simp, hlen, hroot, hsep,
    (root_binds_path (by simp) hlen hroot hsep).2.2 2 (by simp) hpos⟩

end Merkle

end FinalityRelay
