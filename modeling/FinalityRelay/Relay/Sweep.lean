import FinalityRelay.Evidence.Submission
import FinalityRelay.Relay.State

/-! A sweep submits every ready job once, schedule changes first, each kind by ascending subject.
Accepted jobs are sent; the others stay ready for the next sweep. -/

namespace FinalityRelay

structure SweepReport where
  accepted : Nat
  rejected : Nat
  dropped : Nat
deriving DecidableEq

namespace SweepReport

def zero : SweepReport := ⟨0, 0, 0⟩

def submitted (r : SweepReport) : Nat := r.accepted + r.rejected

def count (r : SweepReport) : Answer → SweepReport
  | .accepted _ => { r with accepted := r.accepted + 1 }
  | .rejected _ | .failed _ => { r with rejected := r.rejected + 1 }

end SweepReport

/-- A relay in the course of a sweep, with the submissions made so far. -/
structure Sweep where
  relay : Relay
  report : SweepReport
  submissions : List Submission
  events : List Event

namespace Sweep

def answered (kind : ProofKind) (subject : UInt32) : Answer → Event
  | .accepted m => .accepted kind subject m
  | .rejected m => .rejected kind subject m
  | .failed m => .failed kind subject m

/-- Makes a submission and counts its answer, the one at the position of the submission. -/
def submit (w : Sweep) (answers : Nat → Answer) (kind : ProofKind) (subject : UInt32)
    (s : Submission) : Sweep × Answer :=
  let answer := answers w.submissions.length
  ({ w with
      report := w.report.count answer
      submissions := w.submissions ++ [s]
      events := w.events ++ [answered kind subject answer] },
    answer)

def submitSchedule (answers : Nat → Answer) (w : Sweep) (n : UInt32) : Sweep :=
  match w.relay.scheduleJobs.get? n with
  | none => w
  | some j =>
    match w.submit answers .schedule n (.schedule (.ofJob j)) with
    | (w, .accepted _) =>
      { w with relay.scheduleJobs := w.relay.scheduleJobs.markSent n }
    | (w, _) => w

/-- A deposit whose receipt is not among those of its block can never be proven and is dropped. -/
def submitDeposit (answers : Nat → Answer) (w : Sweep) (n : UInt32) : Sweep :=
  match w.relay.depositJobs.get? n with
  | none => w
  | some j =>
    match j.evidence.refreshPath with
    | .error e =>
      { w with
        relay.depositJobs := w.relay.depositJobs.erase n
        report.dropped := w.report.dropped + 1
        events := w.events ++ [.unprovable n e] }
    | .ok evidence =>
      let w := { w with relay.depositJobs := w.relay.depositJobs.setEvidence n evidence }
      match w.submit answers .deposit n (.deposit (.ofJob { j with evidence })) with
      | (w, .accepted _) => { w with relay.depositJobs := w.relay.depositJobs.markSent n }
      | (w, _) => w

end Sweep

/-- Submits the ready jobs; the answer to submission `i` of the sweep is `answers i`. -/
def Relay.sweep (s : Relay) (answers : Nat → Answer) : Sweep :=
  let w : Sweep := ⟨s, .zero, [], []⟩
  let w := (s.scheduleJobs.subjects .ready).foldl (Sweep.submitSchedule answers) w
  (s.depositJobs.subjects .ready).foldl (Sweep.submitDeposit answers) w

end FinalityRelay
