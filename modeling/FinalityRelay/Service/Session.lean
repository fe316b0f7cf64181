import FinalityRelay.Service.Basic

/-! A service from its start to its stop, and an observer who waits for things to happen. At a moment
at which both are due the observer goes first. -/

namespace FinalityRelay

inductive Condition
  | finalized (number : UInt32)
  | sent (jobs : Nat)

def Condition.holds (c : Condition) (p : Progress) : Bool :=
  match c with
  | .finalized n => p.lastFinalized.any (n ≤ ·)
  | .sent k => k ≤ p.sent

/-- What an observer does: wait for a condition, but not longer than some time, or sleep. -/
inductive Wait
  | condition (c : Condition) (timeout : Nat)
  | sleep (span : Nat)

inductive WaitResult
  | done
  | timeout
  | closed
deriving DecidableEq

structure Waited where
  result : WaitResult
  moment : Nat
  progress : Progress

namespace Service

/-- Lets the service run until a condition holds or a moment comes. -/
def await (replies : Nat → Reply) (c : Condition) (limit now : Nat) (s : Service) :
    WaitResult × Nat × Service :=
  if c.holds s.progress then (.done, now, s)
  else if _h : s.next < limit then await replies c limit s.next (s.settle replies)
  else (.timeout, limit, s)
termination_by work limit s
decreasing_by exact work_settle_lt replies _h

def wait (replies : Nat → Reply) (now : Nat) (s : Service) : Wait → WaitResult × Nat × Service
  | .condition c timeout => s.await replies c (now + timeout) now
  | .sleep span => (.done, now + span, s.runBefore replies (now + span))

/-- The waits one after another, the moment at which they are over, and the service then. -/
def waits (replies : Nat → Reply) (now : Nat) (s : Service) : List Wait → List Waited × Nat × Service
  | [] => ([], now, s)
  | w :: rest =>
    let (result, now, s) := s.wait replies now w
    let (later, sessionEnd) := s.waits replies now rest
    (⟨result, now, s.progress⟩ :: later, sessionEnd)

end Service

/-- What was to be seen of a service from outside; `atStart` is what it showed once all was done that
could be done at its first moment. -/
structure Session where
  started : Except StartError Unit
  atStart : Progress
  waits : List Waited
  stopped : Nat
  progress : Progress
  submissions : List (Nat × Submission)
  events : List Event

namespace Session

/-- The waits for a service that did not start: no condition will come to hold. -/
def idleWaits (now : Nat) : List Wait → List Waited × Nat
  | [] => ([], now)
  | .condition c _ :: rest =>
    let (later, stopped) := idleWaits now rest
    (⟨if c.holds .zero then .done else .closed, now, .zero⟩ :: later, stopped)
  | .sleep span :: rest =>
    let (later, stopped) := idleWaits (now + span) rest
    (⟨.done, now + span, .zero⟩ :: later, stopped)

def ofFailure (e : StartError) (waits : List Wait) : Session :=
  let (waited, stopped) := idleWaits 0 waits
  ⟨.error e, .zero, waited, stopped, .zero, [], []⟩

def run (settings : Settings) (feed : List FeedItem) (replies : Nat → Reply) (waits : List Wait)
    (file : SnapshotFile) : Session × SnapshotFile :=
  match Service.start settings feed file with
  | (.error e, file) => (ofFailure e waits, file)
  | (.ok s, file) =>
    let s := s.runBefore replies 1
    let (waited, now, running) := s.waits replies 0 waits
    let (stopped, file) := running.stop now file
    (⟨.ok (), s.progress, waited, stopped.now, stopped.progress, stopped.submissions.reverse,
      stopped.events.reverse⟩, file)

end Session

end FinalityRelay
