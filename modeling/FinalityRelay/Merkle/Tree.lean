import FinalityRelay.Digest.Sha256

/-! Merkle trees over a whole list of leaves. Two nodes are joined with the left one marked left and
the right one marked right; a level with an odd number of nodes joins its last node with itself. -/

namespace FinalityRelay

inductive MerkleError
  | invalidIndex (index len : Nat)
  | leafCountMismatch (expected actual : Nat)
  | inconsistentState (nodeCount activeNodes : Nat)
deriving DecidableEq

def MerkleError.message : MerkleError → String
  | .invalidIndex i n =>
    "leaf index " ++ toString i ++ " is out of range for " ++ toString n ++ " leaves"
  | .leafCountMismatch e a => "expected " ++ toString e ++ " leaves, got " ++ toString a
  | .inconsistentState n a =>
    toString a ++ " active nodes are inconsistent with " ++ toString n ++ " appended leaves"

namespace Merkle

def parent (left right : Digest) : Digest :=
  sha256 (left.asLeft.bytes ++ right.asRight.bytes)

def parents : List Digest → List Digest
  | a :: b :: r => parent a b :: parents r
  | [a] => [parent a a]
  | [] => []

theorem length_parents : ∀ level, (parents level).length = (level.length + 1) / 2
  | [] => rfl
  | [_] => by simp [parents]
  | _ :: _ :: r => by simp [parents, length_parents r]; omega

/-- The root of a list of leaves; that of no leaves is the zero digest. -/
def root : List Digest → Digest
  | [] => .zero
  | [a] => a
  | a :: b :: r => root (parents (a :: b :: r))
termination_by level => level.length
decreasing_by simp [length_parents]; omega

/-- The node that joins node `i` of a level, marked with its side. -/
def sibling (i : Nat) (level : List Digest) : Digest :=
  if i % 2 = 0 then (level.getD (i + 1) (level.getD i .zero)).asRight
  else (level.getD (i - 1) .zero).asLeft

def siblings (i : Nat) : List Digest → List Digest
  | [] => []
  | [_] => []
  | a :: b :: r => sibling i (a :: b :: r) :: siblings (i / 2) (parents (a :: b :: r))
termination_by level => level.length
decreasing_by simp [length_parents]; omega

/-- The siblings on the way from a leaf to the root. -/
def inclusionPath (i : Nat) (leaves : List Digest) : Except MerkleError (List Digest) :=
  if i < leaves.length then .ok (siblings i leaves) else .error (.invalidIndex i leaves.length)

/-- Joins a node with the next node of a path, on the side that its mark tells. -/
def join (node other : Digest) : Digest :=
  if other.isRight then parent node other else parent other node

def rootFromPath (leaf : Digest) (path : List Digest) : Digest := path.foldl join leaf

end Merkle

end FinalityRelay
