import FinalityRelay.Foreign.Rpc
import FinalityRelay.Relay.Feed
import FinalityRelay.Service.Session
import FinalityRelay.Settings.Options

/-! The command line. It runs the service on a feed for one interval and prints the requests that are
to be posted to the foreign chain. It posts none itself, so every proof stays ready in the snapshot. -/

namespace FinalityRelay.CommandLine

def describe : OptionKey → String
  | .bridgeAccount => "account on the host chain that receives deposits"
  | .tokenContract => "token contract whose transfers are deposits (eosio.token)"
  | .dataDir => "directory of the relay snapshot (.)"
  | .purgeHistory => "discard the snapshot of the previous run"
  | .ledgerCapacity => "number of finalized blocks kept in memory (1024)"
  | .dispatchInterval => "delay between two sweeps (1s)"
  | .foreignEndpoint => "endpoint of the foreign chain (http://127.0.0.1:8888)"
  | .foreignAccount => "account on the foreign chain that submits the proofs"
  | .requestTimeout => "timeout of a single request (30s)"
  | .hostFeed => "file of notifications, one a line; standard input if absent"

def help : String :=
  "Relays finality proofs of bridge events to a foreign chain\n\n" ++
    String.join (OptionKey.all.map fun k =>
      "  --" ++ k.argument ++ " [" ++ k.environment ++ "]\n      " ++ describe k ++ "\n")

def version : String := "0.1.0"

/-- What to print about arguments that do not lead to a run, and the exit code. -/
def usage : UsageError → String × UInt32
  | .helpWanted => (help, 0)
  | .versionWanted => (version, 0)
  | .missingRequired => ("error: a required argument is missing", 2)
  | .unknownArgument => ("error: an argument is not known", 2)
  | .conflict => ("error: an argument was given twice", 2)
  | .invalidValue => ("error: an argument has no value, or one that is not allowed", 2)
  | .tooManyValues => ("error: an argument that takes no value has one", 2)
  | .valueValidation => ("error: the value of an argument is malformed", 2)

partial def readAll (h : IO.FS.Stream) (acc : ByteArray) : IO ByteArray := do
  let chunk ← h.read 65536
  if chunk.isEmpty then return acc else readAll h (acc ++ chunk)

def content? (read : IO ByteArray) : IO (Option (List UInt8)) := do
  try return some (← read).data.toList catch _ => return none

def feed (o : Options) : IO Feed := do
  match o.hostFeed with
  | some path => return .ofContent (← content? (IO.FS.readBinFile path))
  | none => return .ofContent (← content? (do readAll (← IO.getStdin) .empty))

def snapshotFile (path : String) : IO SnapshotFile := do
  try
    let bytes ← IO.FS.readBinFile path
    return { SnapshotFile.absent path with content := some bytes.data.toList }
  catch
    | .noFileOrDirectory _ _ _ => return .absent path
    | _ => return .blocked path none

def store (dir : String) (before after : SnapshotFile) : IO Unit := do
  match before.content, after.content with
  | _, some bytes =>
    unless dir.isEmpty do IO.FS.createDirAll dir
    IO.FS.writeBinFile after.path ⟨bytes.toArray⟩
  | some _, none => IO.FS.removeFile after.path
  | none, none => pure ()

def report (events : List Event) : IO Unit := do
  for e in events do
    if e.level ≠ .debug then IO.eprintln e.render

/-- The requests of a run, which are numbered from one on. -/
def requests (s : Settings) (submissions : List (Nat × Submission)) : List Rpc.Request :=
  match Url.parse s.foreignEndpoint with
  | .error _ => []
  | .ok url => submissions.zipIdx.map fun (m, i) =>
    .ofSubmission url (UInt64.ofNat (i + 1)) s.foreignAccount m.2

def relay (o : Options) : IO UInt32 := do
  let settings := o.settings
  let feed ← feed o
  let before ← snapshotFile settings.snapshotPath
  let items := feed.notifications.map FeedItem.notification
  let sweep := Wait.sleep (settings.dispatchInterval.toNanoseconds + 1)
  let (session, after) :=
    Session.run settings items (fun _ => ⟨.failed "no connection", 0⟩) [sweep] before
  report feed.events
  report session.events
  match session.started with
  | .error e =>
    IO.eprintln ("error: " ++ e.message)
    return 1
  | .ok _ =>
    for r in requests settings session.submissions do IO.println r.body.render
    store settings.dataDir before after
    return 0

def run (arguments : List String) : IO UInt32 := do
  let environment ← OptionKey.all.mapM fun k => do
    return (k.environment, ← IO.getEnv k.environment)
  match Options.ofArguments arguments fun name => (environment.lookup name).join with
  | .ok o => relay o
  | .error e =>
    let (message, code) := usage e
    if code = 0 then IO.println message else IO.eprintln message
    return code

end FinalityRelay.CommandLine

def main (arguments : List String) : IO UInt32 := FinalityRelay.CommandLine.run arguments
