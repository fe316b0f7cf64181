import FinalityRelay.Name

/-! The settings of a relay. -/

namespace FinalityRelay

/-- A span of time as whole seconds and nanoseconds. -/
structure Span where
  seconds : UInt64
  nanoseconds : UInt32
deriving DecidableEq

def Span.toNanoseconds (s : Span) : Nat := s.seconds.toNat * 1000000000 + s.nanoseconds.toNat

structure Settings where
  foreignEndpoint : String
  foreignAccount : String
  bridgeAccount : Name
  tokenContract : Name
  dataDir : String
  purgeHistory : Bool
  ledgerCapacity : Nat
  dispatchInterval : Span
deriving DecidableEq

namespace Settings

def defaultEndpoint : String := "http://127.0.0.1:8888"

/-- The name `eosio.token`. -/
def defaultTokenContract : Name := ⟨0x5530ea033482a600⟩

def defaults : Settings where
  foreignEndpoint := defaultEndpoint
  foreignAccount := ""
  bridgeAccount := ⟨0⟩
  tokenContract := defaultTokenContract
  dataDir := "."
  purgeHistory := false
  ledgerCapacity := 1024
  dispatchInterval := ⟨1, 0⟩

def snapshotName : String := "bridge_relay.dat"

/-- A name below a directory; one slash stands between them, none after an empty directory. -/
def joinPath (dir name : String) : String :=
  if dir.isEmpty || dir.endsWith "/" then dir ++ name else dir ++ "/" ++ name

def snapshotPath (s : Settings) : String := joinPath s.dataDir snapshotName

end Settings

end FinalityRelay
