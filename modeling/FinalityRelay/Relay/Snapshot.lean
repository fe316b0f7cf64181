import FinalityRelay.Evidence.Job
import FinalityRelay.Relay.Event

/-! The state that outlives a restart, and its file: a mark, a version byte and the canonical bytes.
A file is used up by the start that reads it. -/

namespace FinalityRelay

structure Snapshot where
  blocks : List BlockRecord
  scheduleJobs : List (Job ScheduleEvidence)
  depositJobs : List (Job DepositEvidence)
  activeSchedule : Option Schedule
deriving DecidableEq

inductive SnapshotError
  | io
  | codec (cause : BinaryError)
  | invalidMagic
  | unsupportedVersion (found : UInt8)
  | trailingBytes (n : Nat)
deriving DecidableEq

namespace Snapshot

def empty : Snapshot := ⟨[], [], [], none⟩

def isEmpty (s : Snapshot) : Bool :=
  s.blocks.isEmpty && s.scheduleJobs.isEmpty && s.depositJobs.isEmpty && s.activeSchedule.isNone

open Fields RecordField

def codec : Codec Snapshot :=
  (field (required "blocks" (.list BlockRecord.codec)) <|
    field (required "schedule_jobs" (.list (Job.codec ScheduleEvidence.codec))) <|
    field (required "action_jobs" (.list (Job.codec DepositEvidence.codec))) <|
    field (nullable "active_schedule" Schedule.codec) <| done).codec.via
    (fun s => (s.blocks, s.scheduleJobs, s.depositJobs, s.activeSchedule, ()))
    (fun (b, s, d, a, _) => some ⟨b, s, d, a⟩)

/-- The letters `BRLY`. -/
def magic : List UInt8 := [66, 82, 76, 89]

def version : UInt8 := 2

def encode (s : Snapshot) : List UInt8 := magic ++ version :: codec.write s

def decode (bs : List UInt8) : Except SnapshotError Snapshot :=
  if bs.take 4 ≠ magic then .error .invalidMagic
  else match bs.drop 4 with
    | [] => .error (.codec .unexpectedEnd)
    | v :: body =>
      if v ≠ version then .error (.unsupportedVersion v)
      else match codec.read body with
        | .error e => .error (.codec e)
        | .ok (s, []) => .ok s
        | .ok (_, b :: rest) => .error (.trailingBytes (b :: rest).length)

end Snapshot

/-- The text of an input or output failure ends where the operating system's own words would. -/
def SnapshotError.message : SnapshotError → String
  | .io => "snapshot i/o failed"
  | .codec e => "snapshot codec failed: " ++ e.message
  | .invalidMagic => "the file is not a relay snapshot"
  | .unsupportedVersion v =>
    "unsupported snapshot version " ++ toString v ++ ", expected " ++ toString Snapshot.version
  | .trailingBytes n => toString n ++ " unexpected bytes after the snapshot body"

/-- The place of the snapshot file: what is there, and which operations on it succeed. -/
structure SnapshotFile where
  path : String
  content : Option (List UInt8)
  readable : Bool
  deletable : Bool
  writable : Bool

namespace SnapshotFile

def absent (path : String) : SnapshotFile := ⟨path, none, true, true, true⟩

/-- A place on which every operation fails. -/
def blocked (path : String) (content : Option (List UInt8)) : SnapshotFile :=
  ⟨path, content, false, false, false⟩

/-- A place where no file can be made, and none is. -/
def unwritable (path : String) : SnapshotFile := ⟨path, none, true, true, false⟩

def longestName : Nat := 255

/-- The place that a name gives below an empty directory, unless it starts at the root. The name may
lead through directories yet to be made. It may also be none that a file can have, or that of a
directory. -/
def below (directory name : String) : SnapshotFile :=
  let path := if name.startsWith "/" then name else directory ++ "/" ++ name
  let parts := name.toList.splitOn '/'
  let named := parts.filter fun p => p ≠ [] ∧ p ≠ ['.'] ∧ p ≠ ['.', '.']
  if name.toList.contains '\x00' ∨
      parts.any fun p => longestName < (String.ofList p).utf8ByteSize then
    blocked path none
  else if named = [] then blocked path (some [])
  else if parts.getLast? ≠ named.getLast? then unwritable path
  else absent path

def write (f : SnapshotFile) (s : Snapshot) : Except SnapshotError (SnapshotFile × List Event) :=
  if f.writable then
    .ok ({ f with content := some s.encode },
      [.saved s.blocks.length s.scheduleJobs.length s.depositJobs.length f.path])
  else .error .io

/-- Deletes the file. One that is not there is no failure. -/
def delete (f : SnapshotFile) : Except SnapshotError SnapshotFile :=
  if f.deletable then .ok { f with content := none } else .error .io

/-- What came of loading a snapshot, and the file as it is then. -/
structure Loading where
  outcome : Except SnapshotError (Option Snapshot)
  file : SnapshotFile
  events : List Event

/-- Loads the snapshot of a file that has some content, and uses the file up. -/
def consume (f : SnapshotFile) (bs : List UInt8) : Loading :=
  match Snapshot.decode bs with
  | .error e => ⟨.error e, f, []⟩
  | .ok s =>
    match f.delete with
    | .error e => ⟨.error e, f, []⟩
    | .ok rest =>
      ⟨.ok (some s), rest,
        [.restored s.blocks.length s.scheduleJobs.length s.depositJobs.length f.path]⟩

/-- Deletes the file unread when `purge` is set, else reads and then deletes it. A file that is not
there is no failure; one that cannot be decoded stays. -/
def load (f : SnapshotFile) (purge : Bool) : Loading :=
  if purge then
    match f.delete with
    | .error e => ⟨.error e, f, []⟩
    | .ok rest => ⟨.ok none, rest, if f.content.isSome then [.purged f.path] else []⟩
  else if f.readable then
    match f.content with
    | none => ⟨.ok none, f, []⟩
    | some bs => f.consume bs
  else ⟨.error .io, f, []⟩

end SnapshotFile

end FinalityRelay
