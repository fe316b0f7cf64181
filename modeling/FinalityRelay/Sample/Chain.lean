import FinalityRelay.Chain.Block

/-! Made-up chains to try the relay with: linked headers and blocks, and records of them. -/

namespace FinalityRelay.Sample

/-- A name that is known to be one. -/
def name (s : String) : Name := (Name.parse s).toOption.getD default

/-- An id for a block that the chain itself does not hold. -/
def blockId (number : UInt32) : Digest :=
  (sha256 (Digest.numberBytes number)).withNumber number

def signedHeader (previous : Digest) : SignedHeader where
  header :=
    { timestamp := (previous.number + 1) * 2
      producer := name "producer1"
      confirmed := 0
      previous
      transactionRoot := .zero
      actionRoot := .zero
      scheduleVersion := 0
      newProducers := none
      extensions := [] }
  signature := List.replicate 65 0x5a

def schedule (version : UInt32) : Schedule where
  version
  producers :=
    [⟨name "producer1", List.replicate 33 2⟩, ⟨name "producer2", List.replicate 33 3⟩]

/-- `count` blocks from `previous` on, given the tree of all ids up to there. -/
def blocksAfter (previous : Digest) (history : Accumulator) : Nat → List FinalizedBlock
  | 0 => []
  | count + 1 =>
    let header := signedHeader previous
    let id := header.id
    ⟨id, header.number, header, history⟩ :: blocksAfter id (history.append id) count

def blocks (first : UInt32) (count : Nat) : List FinalizedBlock :=
  let previous := blockId (first - 1)
  blocksAfter previous (Accumulator.empty.append previous) count

/-- A block with a made-up id that announces a schedule, or none. -/
def plainBlock (number : UInt32) (newProducers : Option Schedule) : FinalizedBlock where
  id := Digest.zero.withNumber number
  number
  header :=
    { header :=
        { timestamp := number * 2
          producer := default
          confirmed := 0
          previous := Digest.zero.withNumber (number - 1)
          transactionRoot := .zero
          actionRoot := .zero
          scheduleVersion := 0
          newProducers
          extensions := [] }
      signature := [] }
  history := .empty

/-- A record of a block with this number, the first one of its chain. -/
def record (number : UInt32) : BlockRecord :=
  let previous := blockId (number - 1)
  let header := signedHeader previous
  FinalizedBlock.record ⟨header.id, header.number, header, Accumulator.empty.append previous⟩

def withIds (b : FinalizedBlock) : FinalizedBlock :=
  { b with id := b.header.id, number := b.header.number }

/-- Links blocks to one another after their headers were changed. -/
def relinkAfter (parent : FinalizedBlock) : List FinalizedBlock → List FinalizedBlock
  | [] => []
  | b :: rest =>
    let b := withIds
      { b with
        header.header.previous := parent.id
        history := parent.history.append parent.id }
    b :: relinkAfter b rest

def relink : List FinalizedBlock → List FinalizedBlock
  | [] => []
  | b :: rest =>
    let b := withIds b
    b :: relinkAfter b rest

end FinalityRelay.Sample
