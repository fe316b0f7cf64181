import FinalityRelay.Relay.Sweep
import FinalityRelay.Service.Ticker
import FinalityRelay.Settings.Basic

/-! The relay as a service. It sweeps at regular moments and else takes in what the feed brings; what
it shows to observers is brought up to date after each of these. -/

namespace FinalityRelay

/-- What a feed brings: a notification, or nothing for a while. -/
inductive FeedItem
  | notification (n : Notification)
  | silence (span : Nat)

structure Reply where
  answer : Answer
  delay : Nat

inductive StartError
  | zeroInterval
  | snapshot (cause : SnapshotError)
deriving DecidableEq

def StartError.message : StartError → String
  | .zeroInterval => "The dispatch interval must be positive"
  | .snapshot e => e.message

/-- A service at the moment `now`; moments are nanoseconds since its start. `progress` is what
observers see, and `sweepEnd` is set during a sweep. The feed is silent before `feedResumes`. Events
and submissions stand latest first. -/
structure Service where
  relay : Relay
  progress : Progress
  ticker : Ticker
  feed : List FeedItem
  feedResumes : Nat
  feedEnded : Bool
  sweepEnd : Option Nat
  now : Nat
  submissions : List (Nat × Submission)
  events : List Event

def Relay.ofSettings (s : Settings) : Relay :=
  .start s.tokenContract s.bridgeAccount s.ledgerCapacity

namespace Service

/-- Starts a service with what the snapshot file holds, and gives the file as the start leaves it. -/
def start (settings : Settings) (feed : List FeedItem) (file : SnapshotFile) :
    Except StartError Service × SnapshotFile :=
  if h : 0 < settings.dispatchInterval.toNanoseconds then
    let loading := file.load settings.purgeHistory
    match loading.outcome with
    | .error e => (.error (.snapshot e), loading.file)
    | .ok found =>
      let fresh := Relay.ofSettings settings
      let relay := (found.map fresh.restore).getD fresh
      (.ok
        { relay
          progress := relay.progress
          ticker := .ofPeriod settings.dispatchInterval.toNanoseconds h
          feed
          feedResumes := 0
          feedEnded := false
          sweepEnd := none
          now := 0
          submissions := []
          events := loading.events.reverse },
        loading.file)
  else (.error .zeroInterval, file)

def next (s : Service) : Nat :=
  match s.sweepEnd with
  | some t => t
  | none =>
    if s.feedEnded then max s.now s.ticker.next
    else max s.now (min s.ticker.next s.feedResumes)

/-- The moments of the submissions of a sweep, and that of its end. -/
def stamp (delays : Nat → Nat) (now : Nat) : List Submission → List (Nat × Submission) × Nat
  | [] => ([], now)
  | s :: rest =>
    let (later, sweepEnd) := stamp (fun i => delays (i + 1)) (now + delays 0) rest
    ((now, s) :: later, sweepEnd)

/-- The event that sums up a sweep in which something happened. -/
def summary (r : SweepReport) : List Event :=
  if r.submitted = 0 ∧ r.dropped = 0 then [] else [.swept r.accepted r.rejected r.dropped]

def sweep (s : Service) (replies : Nat → Reply) (now : Nat) : Service :=
  let reply := fun i => replies (s.submissions.length + i)
  let done := s.relay.sweep fun i => (reply i).answer
  let (stamped, sweepEnd) := stamp (fun i => (reply i).delay) now done.submissions
  { s with
    relay := done.relay
    ticker := s.ticker.take now
    sweepEnd := some sweepEnd
    now
    submissions := stamped.reverse ++ s.submissions
    events := (done.events ++ summary done.report).reverse ++ s.events }

def endSweep (s : Service) (now : Nat) : Service :=
  { s with now, sweepEnd := none, progress := s.relay.progress }

/-- Ends a sweep if one is under way; else begins one if it is due; else takes in what the feed
brings. The reply to submission `i` of the service is `replies i`. -/
def step (s : Service) (replies : Nat → Reply) : Service :=
  match s.sweepEnd with
  | some t => s.endSweep t
  | none =>
    let now := s.next
    if s.ticker.next ≤ now then s.sweep replies now
    else match s.feed with
      | [] => { s with now, feedEnded := true, events := .streamEnded :: s.events }
      | .silence span :: feed => { s with now, feed, feedResumes := now + span }
      | .notification n :: feed =>
        let (relay, events) := s.relay.notify n
        { s with now, feed, relay, progress := relay.progress, events := events.reverse ++ s.events }

/-- A bound on the number of steps before a moment. -/
def work (limit : Nat) (s : Service) : Nat :=
  2 * (limit - s.ticker.next) + s.feed.length + (!s.feedEnded).toNat + s.sweepEnd.isSome.toNat

theorem ticker_next_le_next {s : Service} (hs : s.sweepEnd = none) (he : s.feedEnded = true) :
    s.ticker.next ≤ s.next := by
  simp only [next, hs, he, if_true]
  exact Nat.le_max_right _ _

theorem work_sweep_lt {s : Service} {limit now : Nat} (replies : Nat → Reply)
    (hs : s.sweepEnd = none) (hn : s.ticker.next < limit) :
    work limit (s.sweep replies now) < work limit s := by
  have ht := s.ticker.next_lt_take now
  simp only [work, sweep, hs, Option.isSome_some, Option.isSome_none, Bool.toNat_true,
    Bool.toNat_false]
  omega

theorem work_step_lt {s : Service} {limit : Nat} (replies : Nat → Reply) (h : s.next < limit) :
    work limit (s.step replies) < work limit s := by
  unfold step
  split
  next t hs => simp [work, endSweep, hs]
  next hs =>
    dsimp only
    split
    next hd => exact work_sweep_lt replies hs (Nat.lt_of_le_of_lt hd h)
    next hd =>
      have he : s.feedEnded = false := by
        cases he : s.feedEnded
        · rfl
        · exact absurd (ticker_next_le_next hs he) hd
      split <;> simp_all [work]

def runBefore (replies : Nat → Reply) (limit : Nat) (s : Service) : Service :=
  if _h : s.next < limit then runBefore replies limit (s.step replies) else s
termination_by work limit s
decreasing_by exact work_step_lt replies _h

theorem work_runBefore_le (replies : Nat → Reply) {early limit : Nat} (hl : early ≤ limit)
    (s : Service) : work limit (s.runBefore replies early) ≤ work limit s := by
  fun_induction runBefore replies early s with
  | case1 s h ih =>
    exact Nat.le_trans ih (Nat.le_of_lt (work_step_lt replies (Nat.lt_of_lt_of_le h hl)))
  | case2 => exact Nat.le_refl _

/-- Takes all steps of the moment at which the next one is due. -/
def settle (replies : Nat → Reply) (s : Service) : Service := s.runBefore replies (s.next + 1)

theorem work_settle_lt (replies : Nat → Reply) {limit : Nat} {s : Service} (h : s.next < limit) :
    work limit (s.settle replies) < work limit s := by
  unfold settle runBefore
  rw [dif_pos (Nat.lt_succ_self _)]
  exact Nat.lt_of_le_of_lt (work_runBefore_le replies h _) (work_step_lt replies h)

/-- Stops the service at a moment, or at the end of the sweep under way then, and writes the
snapshot. -/
def stop (s : Service) (now : Nat) (file : SnapshotFile) : Service × SnapshotFile :=
  let s := match s.sweepEnd with
    | some t => s.endSweep t
    | none => { s with now }
  let (snapshot, relay) := s.relay.takeSnapshot
  let s := { s with relay }
  match file.write snapshot with
  | .ok (file, events) => ({ s with events := events.reverse ++ s.events }, file)
  | .error _ => (s, file)

end Service

end FinalityRelay
