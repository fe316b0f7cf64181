import FinalityRelay.Evidence.JobTable
import FinalityRelay.Relay.Deposits
import FinalityRelay.Relay.Ledger
import FinalityRelay.Relay.Snapshot

/-! The relay: it remembers finalized blocks, opens a job for every schedule change and every deposit
whose anchor it still knows, and feeds the blocks that follow to the jobs. -/

namespace FinalityRelay

structure Relay where
  ledger : Ledger
  deposits : Deposits
  scheduleJobs : JobTable ScheduleEvidence
  depositJobs : JobTable DepositEvidence
  activeSchedule : Option Schedule
  lastFinalized : Option UInt32

structure Progress where
  lastFinalized : Option UInt32
  collecting : Nat
  ready : Nat
  sent : Nat
deriving DecidableEq

def Progress.zero : Progress := ⟨none, 0, 0, 0⟩

namespace Relay

/-- How many links lie between a subject block and the block whose history anchors its proof. -/
def anchorDepth : Nat := 2

def start (tokenContract bridgeAccount : Name) (capacity : Nat) : Relay where
  ledger := .ofCapacity capacity
  deposits := .watching tokenContract bridgeAccount
  scheduleJobs := .empty
  depositJobs := .empty
  activeSchedule := none
  lastFinalized := none

def progress (s : Relay) : Progress where
  lastFinalized := s.lastFinalized
  collecting := s.scheduleJobs.count .collecting + s.depositJobs.count .collecting
  ready := s.scheduleJobs.count .ready + s.depositJobs.count .ready
  sent := s.scheduleJobs.count .sent + s.depositJobs.count .sent

def apply (s : Relay) (t : Transaction) : Relay × List Event :=
  let (deposits, events) := s.deposits.apply t
  ({ s with deposits }, events)

def anchor? (s : Relay) (r : BlockRecord) : Option Accumulator :=
  (s.ledger.ancestor? r.id anchorDepth).map (·.history)

def collect (s : Relay) (r : BlockRecord) : Relay × List Event :=
  let (scheduleJobs, schedules, events) := s.scheduleJobs.collect r
  let (depositJobs, deposits, more) := s.depositJobs.collect r
  ({ s with scheduleJobs, depositJobs },
    events ++ schedules.map (.ready .schedule) ++ more ++ deposits.map (.ready .deposit))

def openSchedule (s : Relay) (r : BlockRecord) : Relay × List Event :=
  match r.announced? with
  | none => (s, [])
  | some schedule =>
    let legacyHash := s.activeSchedule.map Schedule.digest
    let s := { s with activeSchedule := some schedule }
    match s.anchor? r with
    | none => (s, [.scheduleWithoutAnchor r.number])
    | some anchor =>
      ({ s with scheduleJobs := s.scheduleJobs.insert (.ofSubject r anchor ⟨schedule, legacyHash⟩) },
        [.scheduleAnnounced schedule.version r.number])

def openDeposit (s : Relay) (r : BlockRecord) : Relay × List Event :=
  let (deposits, deposit, events) := s.deposits.take r
  let s := { s with deposits }
  match deposit with
  | none => (s, events)
  | some d =>
    match s.anchor? r with
    | none => (s, events ++ [.depositWithoutAnchor r.number])
    | some anchor =>
      let evidence :=
        ⟨d.candidate.transactionId, d.candidate.action, d.candidate.receipt, d.digests, []⟩
      ({ s with depositJobs := s.depositJobs.insert (.ofSubject r anchor evidence) },
        events ++ [.depositFound r.number d.candidate.transactionId])

/-- Forgets the sent jobs of blocks older than all that are remembered. -/
def prune (s : Relay) : Relay × List Event :=
  match s.ledger.oldest? with
  | none => (s, [])
  | some oldest =>
    let (scheduleJobs, m) := s.scheduleJobs.pruneSent oldest
    let (depositJobs, n) := s.depositJobs.pruneSent oldest
    ({ s with scheduleJobs, depositJobs }, if m + n = 0 then [] else [.pruned (m + n) oldest])

/-- Takes in a remembered block: it grows the windows first and opens its own jobs then, so that a
job never sees its own subject block. -/
def accept (s : Relay) (r : BlockRecord) : Relay × List Event :=
  let (s, collected) := s.collect r
  let (s, schedule) := s.openSchedule r
  let (s, deposit) := s.openDeposit r
  let (s, pruned) := s.prune
  (s, collected ++ schedule ++ deposit ++ pruned)

def isStale (s : Relay) (number : UInt32) : Bool := s.lastFinalized.any (number ≤ ·)

/-- Handles a block that became final; one that is not newer than the last one is ignored. -/
def finalize (s : Relay) (b : FinalizedBlock) : Relay × List Event :=
  if s.isStale b.number then (s, [.staleBlock b.number])
  else match s.ledger.record? b.record with
    | none => (s, [.knownBlock b.id])
    | some ledger => accept { s with ledger, lastFinalized := some b.number } b.record

def notify (s : Relay) : Notification → Relay × List Event
  | .finalized b => s.finalize b
  | .applied t => s.apply t

def snapshot (s : Relay) : Snapshot where
  blocks := s.ledger.records
  scheduleJobs := s.scheduleJobs.toList
  depositJobs := s.depositJobs.toList
  activeSchedule := s.activeSchedule

def clear (s : Relay) : Relay where
  ledger := s.ledger.clear
  deposits := s.deposits.clear
  scheduleJobs := .empty
  depositJobs := .empty
  activeSchedule := none
  lastFinalized := none

/-- Moves what a snapshot holds out of the relay. -/
def takeSnapshot (s : Relay) : Snapshot × Relay := (s.snapshot, s.clear)

/-- Remembers a block of a snapshot, unless its id is known. -/
def restoreBlock (s : Relay) (r : BlockRecord) : Relay :=
  match s.ledger.record? r with
  | none => s
  | some ledger =>
    { s with ledger, lastFinalized := some ((s.lastFinalized.map (max r.number)).getD r.number) }

def restore (s : Relay) (p : Snapshot) : Relay :=
  let s := { s with activeSchedule := p.activeSchedule <|> s.activeSchedule }
  let s := p.blocks.foldl restoreBlock s
  { s with
    scheduleJobs := s.scheduleJobs.insertAll p.scheduleJobs
    depositJobs := s.depositJobs.insertAll p.depositJobs }

end Relay

end FinalityRelay
