import FinalityRelay.Codec.Record
import FinalityRelay.Merkle.Tree

/-! An append-only merkle tree that keeps only what appending needs: bottom up, the left nodes that
wait for a right sibling, then the root unless the tree is perfect. -/

namespace FinalityRelay

structure Accumulator where
  count : UInt64
  nodes : List Digest
deriving DecidableEq

namespace Accumulator

def empty : Accumulator := ⟨0, []⟩

instance : Inhabited Accumulator := ⟨empty⟩

/-- The binary digits of a number, least significant first. -/
def bits (n : Nat) : List Bool :=
  if n = 0 then [] else (n % 2 = 1) :: bits (n / 2)
termination_by n
decreasing_by omega

/-- How many nodes are kept for `n` leaves. -/
def expectedNodes (n : Nat) : Nat :=
  let ones := (bits n).count true
  if ones ≤ 1 then ones else ones + 1

def ofParts (count : UInt64) (nodes : List Digest) : Except MerkleError Accumulator :=
  if nodes.length = expectedNodes count.toNat then .ok ⟨count, nodes⟩
  else .error (.inconsistentState count.toNat nodes.length)

def root (m : Accumulator) : Digest := m.nodes.getLast?.getD .zero

/-- The nodes after a new one, `top`, climbs the levels of a tree with the given count: at a one it
joins the waiting left node, at a zero itself. Left nodes are kept from the first zero on. -/
def climb (padded : Bool) (top : Digest) : List Bool → List Digest → List Digest
  | [], _ => [top]
  | true :: bits, nodes =>
    let left := nodes.headD .zero
    let rest := climb padded (Merkle.parent left top) bits nodes.tail
    if padded then left :: rest else rest
  | false :: bits, nodes =>
    let rest := climb true (Merkle.parent top top) bits nodes
    if padded then rest else top :: rest

def append (m : Accumulator) (leaf : Digest) : Accumulator where
  count := if m.count = 0xffffffffffffffff then m.count else m.count + 1
  nodes := climb false leaf (bits m.count.toNat) m.nodes

def appendAll (m : Accumulator) (leaves : List Digest) : Accumulator := leaves.foldl append m

def ofLeaves (leaves : List Digest) : Accumulator := empty.appendAll leaves

/-- The path of a leaf, given all the leaves appended so far. -/
def inclusionPath (m : Accumulator) (i : Nat) (leaves : List Digest) :
    Except MerkleError (List Digest) :=
  if leaves.length = m.count.toNat then Merkle.inclusionPath i leaves
  else .error (.leafCountMismatch m.count.toNat leaves.length)

open Fields RecordField

def codec : Codec Accumulator :=
  (field (required "node_count" .word64) <|
    field (required "active_nodes" (.list .digest32)) <| done).codec.via
    (fun m => (m.count, m.nodes, ()))
    (fun (n, ns, _) => (ofParts n ns).toOption)

end Accumulator

end FinalityRelay
