import FinalityRelay.Merkle.Tree

/-! What the relay reports while it works: events, each with a level and a message. -/

namespace FinalityRelay

inductive Level
  | debug
  | info
  | warn
  | error
deriving DecidableEq

def Level.text : Level → String
  | .debug => "DEBUG"
  | .info => "INFO"
  | .warn => "WARN"
  | .error => "ERROR"

/-- The two kinds of proofs. -/
inductive ProofKind
  | schedule
  | deposit
deriving DecidableEq

def ProofKind.text : ProofKind → String
  | .schedule => "schedule change"
  | .deposit => "deposit"

inductive Event
  | staleBlock (number : UInt32)
  | knownBlock (id : Digest)
  | closedEarly (subject : UInt32) (headers : Nat)
  | ready (kind : ProofKind) (subject : UInt32)
  | scheduleAnnounced (version number : UInt32)
  | scheduleWithoutAnchor (number : UInt32)
  | depositFound (number : UInt32) (transaction : Digest)
  | depositWithoutAnchor (number : UInt32)
  | depositWithoutReceipt (transaction : Digest)
  | depositCandidate (number : UInt32) (transaction : Digest)
  | receiptsMismatch (number : UInt32) (recorded committed : Digest)
  | pruned (jobs : Nat) (oldest : UInt32)
  | accepted (kind : ProofKind) (subject : UInt32) (message : String)
  | rejected (kind : ProofKind) (subject : UInt32) (message : String)
  | failed (kind : ProofKind) (subject : UInt32) (message : String)
  | unprovable (subject : UInt32) (cause : MerkleError)
  | swept (accepted rejected dropped : Nat)
  | streamEnded
  | skippedLine (number : Nat)
  | unreadable
  | purged (path : String)
  | restored (blocks scheduleJobs depositJobs : Nat) (path : String)
  | saved (blocks scheduleJobs depositJobs : Nat) (path : String)
deriving DecidableEq

namespace Event

def level : Event → Level
  | .staleBlock _ | .knownBlock _ | .depositWithoutReceipt _ | .depositCandidate _ _ | .pruned _ _
  | .swept _ _ _ => .debug
  | .ready _ _ | .scheduleAnnounced _ _ | .depositFound _ _ | .accepted _ _ _ | .purged _
  | .restored _ _ _ _ | .saved _ _ _ _ => .info
  | .closedEarly _ _ | .scheduleWithoutAnchor _ | .depositWithoutAnchor _ | .receiptsMismatch _ _ _
  | .rejected _ _ _ | .failed _ _ _ | .unprovable _ _ | .streamEnded | .skippedLine _ => .warn
  | .unreadable => .error

def readyText : ProofKind → String
  | .schedule => "Schedule change proof"
  | .deposit => "Deposit proof"

def contents (blocks scheduleJobs depositJobs : Nat) : String :=
  toString blocks ++ " blocks, " ++ toString scheduleJobs ++ " schedule change jobs and " ++
    toString depositJobs ++ " deposit jobs"

def message : Event → String
  | .staleBlock n =>
    "Ignoring block " ++ toString n ++ ", it is not newer than the last finalized one"
  | .knownBlock id => "Block " ++ id.text ++ " is already recorded"
  | .closedEarly s n =>
    "Job for block " ++ toString s ++ " closes its window with " ++ toString n ++
      " headers, a cadence block was missed"
  | .ready k s => readyText k ++ " for block " ++ toString s ++ " is ready"
  | .scheduleAnnounced v n =>
    "Producer schedule version " ++ toString v ++ " announced in block " ++ toString n
  | .scheduleWithoutAnchor n =>
    "Dropping schedule change of block " ++ toString n ++ ": its anchor block is no longer retained"
  | .depositFound n t => "Deposit in block " ++ toString n ++ ", transaction " ++ t.text
  | .depositWithoutAnchor n =>
    "Dropping deposit of block " ++ toString n ++ ": its anchor block is no longer retained"
  | .depositWithoutReceipt t =>
    "Deposit in transaction " ++ t.text ++ " has no receipt yet, skipping it"
  | .depositCandidate n t =>
    "Deposit candidate in block " ++ toString n ++ ", transaction " ++ t.text
  | .receiptsMismatch n r c =>
    "Receipts recorded for block " ++ toString n ++ " hash to " ++ r.text ++
      ", the header commits to " ++ c.text
  | .pruned j n => "Pruned " ++ toString j ++ " sent jobs older than block " ++ toString n
  | .accepted k s m =>
    "The foreign chain accepted the " ++ k.text ++ " proof for block " ++ toString s ++ ": " ++ m
  | .rejected k s m =>
    "The foreign chain rejected the " ++ k.text ++ " proof for block " ++ toString s ++ ": " ++ m
  | .failed k s m =>
    "Failed to submit the " ++ k.text ++ " proof for block " ++ toString s ++ ": " ++ m
  | .unprovable s e =>
    "Dropping deposit proof for block " ++ toString s ++ ", its receipt cannot be proven: " ++
      e.message
  | .swept a r d =>
    "Dispatch sweep: " ++ toString a ++ " accepted, " ++ toString r ++ " rejected, " ++
      toString d ++ " dropped"
  | .streamEnded => "The host notification stream ended, only dispatching from now on"
  | .skippedLine n => "skipped line " ++ toString n
  | .unreadable => "failed to read"
  | .purged p => "Purged relay history at " ++ p
  | .restored b s d p => "Restored " ++ contents b s d ++ " from " ++ p
  | .saved b s d p => "Saved " ++ contents b s d ++ " to " ++ p

def render (e : Event) : String := e.level.text ++ " " ++ e.message

end Event

end FinalityRelay
