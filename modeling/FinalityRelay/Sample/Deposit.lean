import FinalityRelay.Evidence.Job
import FinalityRelay.Sample.Chain

/-! Made-up deposits to try the relay with. -/

namespace FinalityRelay.Sample

def tokenContract : String := "eosio.token"

def bridgeAccount : String := "bridge"

def littleEndian (n : UInt64) : List UInt8 := (Sha256.lengthBytes n).reverse

def transactionId (seed : UInt64) : Digest := sha256 (littleEndian seed)

/-- A transfer from an account into the bridge. -/
def transfer (sender : Name) (amount : Int64) : Action where
  account := name tokenContract
  name := name "transfer"
  authorization := [⟨sender, name "active"⟩]
  data := Transfer.codec.write ⟨sender, name bridgeAccount, ⟨amount, 0x04534f4504⟩, ""⟩

def receipt (action : Action) (receiver : Name) (sequence : UInt64) : Receipt where
  receiver
  actDigest := action.digest
  globalSequence := sequence
  recvSequence := sequence
  authSequence := [(receiver, sequence)]
  codeSequence := 1
  abiSequence := 1

/-- A transaction that makes a deposit, with `count` receipts, at least that of the deposit. -/
def deposit (seed : UInt64) (number : UInt32) (sender : Name) (count : Nat) : Transaction :=
  let action := transfer sender 100
  let saturated := fun n : Nat => UInt64.ofNat (min n (UInt64.size - 1))
  let base := (saturated (seed.toNat * 1000)).toNat
  let own := receipt action (name tokenContract) (saturated base)
  { id := transactionId seed
    traces := [⟨1, name tokenContract, action, some own, number, none⟩]
    receipts := own :: (List.range (count - 1)).map fun i =>
      receipt action (name bridgeAccount) (saturated (base + i + 1)) }

/-- The evidence of a deposit whose receipt is that at position `i` of `count`. -/
def evidence (i count : Nat) : DepositEvidence :=
  let action := transfer (name "alice") 5
  let receiptAt := fun n : Nat => receipt action (name tokenContract) (UInt64.ofNat n)
  { transactionId := transactionId (UInt64.ofNat i)
    action
    receipt := receiptAt i
    siblings := (List.range count).map fun n => (receiptAt n).digest
    path := [] }

end FinalityRelay.Sample
