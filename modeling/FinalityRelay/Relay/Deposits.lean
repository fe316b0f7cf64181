import FinalityRelay.Chain.Block
import FinalityRelay.Relay.Event
import FinalityRelay.Relay.NumberMap

/-! Deposits into the bridge account, from the transaction that makes one until its block is final. -/

namespace FinalityRelay

structure Candidate where
  transactionId : Digest
  action : Action
  receipt : Receipt
deriving DecidableEq

/-- A deposit whose block is final, with the digests of all receipts of that block. -/
structure Deposit where
  candidate : Candidate
  digests : List Digest
deriving DecidableEq

/-- What is known of a block that is not final yet. -/
structure PendingBlock where
  digests : List Digest
  candidate : Option Candidate
deriving DecidableEq

/-- The accounts to watch, and the blocks with receipts that are not final yet. -/
structure Deposits where
  tokenContract : Name
  bridgeAccount : Name
  pending : NumberMap PendingBlock

namespace Deposits

def watching (tokenContract bridgeAccount : Name) : Deposits := ⟨tokenContract, bridgeAccount, []⟩

/-- The name `transfer`. -/
def transferName : Name := ⟨0xcdcd3c2d57000000⟩

/-- A successful transfer of the token contract from another account to the bridge. -/
def isDeposit (d : Deposits) (t : Trace) : Bool :=
  t.exception.isNone && t.receiver = d.tokenContract && t.action.account = d.tokenContract &&
    t.action.name = transferName &&
    match t.action.transfer? with
    | .ok x => x.recipient = d.bridgeAccount && x.sender != d.bridgeAccount
    | .error _ => false

/-- The candidate of a transaction is its last deposit; `none` if a deposit lacks its receipt. -/
def candidate? (id : Digest) : List Trace → Option Candidate → Option (Option Candidate)
  | [], found => some found
  | t :: ts, _ =>
    match t.receipt with
    | none => none
    | some receipt => candidate? id ts (some ⟨id, t.action, receipt⟩)

def pendingAt (d : Deposits) (n : UInt32) : PendingBlock := (d.pending.get? n).getD ⟨[], none⟩

def setPending (d : Deposits) (n : UInt32) (p : PendingBlock) : Deposits :=
  { d with pending := d.pending.insert n p }

/-- Records the receipts of an executed transaction in the block of its first trace, and its
candidate, if it has one, in place of that of an earlier transaction. -/
def apply (d : Deposits) (t : Transaction) : Deposits × List Event :=
  match t.traces with
  | [] => (d, [])
  | first :: _ =>
    let n := first.blockNumber
    let old := d.pendingAt n
    let digests := old.digests ++ t.receipts.map Receipt.digest
    match candidate? t.id (t.traces.filter d.isDeposit) none with
    | none => (d.setPending n ⟨digests, old.candidate⟩, [.depositWithoutReceipt t.id])
    | some none => (d.setPending n ⟨digests, old.candidate⟩, [])
    | some (some c) => (d.setPending n ⟨digests, some c⟩, [.depositCandidate n t.id])

/-- Takes the deposit of a block that became final and forgets all blocks before the next number. -/
def take (d : Deposits) (r : BlockRecord) : Deposits × Option Deposit × List Event :=
  let next := if r.number = 0xffffffff then r.number else r.number + 1
  let settled := d.pending.below next
  let d := { d with pending := d.pending.upFrom next }
  match settled.getLast? with
  | some (n, ⟨digests, some c⟩) =>
    if n = r.number then
      let root := Merkle.root digests
      (d, some ⟨c, digests⟩,
        if root = r.actionRoot then [] else [.receiptsMismatch n root r.actionRoot])
    else (d, none, [])
  | _ => (d, none, [])

def clear (d : Deposits) : Deposits := { d with pending := [] }

end Deposits

end FinalityRelay
