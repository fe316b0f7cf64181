import FinalityRelay.Evidence.Job
import FinalityRelay.Relay.NumberMap

/-! Jobs by the number of their subject block, with the numbers of each status listed apart, so that
blocks and sweeps visit only the jobs that they act on. -/

namespace FinalityRelay

structure JobTable (ε : Type) where
  jobs : NumberMap (Job ε)
  collecting : NumberSet
  ready : NumberSet
  sent : NumberSet

namespace JobTable

variable {ε : Type}

def empty : JobTable ε := ⟨[], [], [], []⟩

def index (t : JobTable ε) : Status → NumberSet
  | .collecting => t.collecting
  | .ready => t.ready
  | .sent => t.sent

def mapIndex (t : JobTable ε) (f : NumberSet → NumberSet) : Status → JobTable ε
  | .collecting => { t with collecting := f t.collecting }
  | .ready => { t with ready := f t.ready }
  | .sent => { t with sent := f t.sent }

def get? (t : JobTable ε) (n : UInt32) : Option (Job ε) := t.jobs.get? n

def size (t : JobTable ε) : Nat := t.jobs.length

def count (t : JobTable ε) (s : Status) : Nat := (t.index s).length

def subjects (t : JobTable ε) (s : Status) : List UInt32 := (t.index s).keys

def toList (t : JobTable ε) : List (Job ε) := t.jobs.values

def erase (t : JobTable ε) (n : UInt32) : JobTable ε :=
  match t.get? n with
  | some j => ({ t with jobs := t.jobs.erase n } : JobTable ε).mapIndex (·.erase n) j.status
  | none => t

/-- Adds a job in place of the one with the same subject. -/
def insert (t : JobTable ε) (j : Job ε) : JobTable ε :=
  let t := (t.erase j.subject).mapIndex (·.add j.subject) j.status
  { t with jobs := t.jobs.insert j.subject j }

def ofList (js : List (Job ε)) : JobTable ε := js.foldl insert empty

def insertAll (t : JobTable ε) (js : List (Job ε)) : JobTable ε := js.foldl insert t

def setEvidence (t : JobTable ε) (n : UInt32) (evidence : ε) : JobTable ε :=
  match t.get? n with
  | some j => { t with jobs := t.jobs.insert n { j with evidence } }
  | none => t

/-- Feeds a block to the jobs with the given numbers. Gives the jobs, the numbers of those that are
ready after it, and what is reported. -/
def feed (r : BlockRecord) :
    List UInt32 → NumberMap (Job ε) → NumberMap (Job ε) × List UInt32 × List Event
  | [], jobs => (jobs, [], [])
  | n :: ns, jobs =>
    match jobs.get? n with
    | none => feed r ns jobs
    | some j =>
      let (j, events) := j.collect r
      let (jobs, readied, more) := feed r ns (jobs.insert n j)
      (jobs, if j.status = .ready then n :: readied else readied, events ++ more)

/-- Feeds a finalized block to every collecting job. Gives also the subjects of the jobs that became
ready. -/
def collect (t : JobTable ε) (r : BlockRecord) : JobTable ε × List UInt32 × List Event :=
  let (jobs, readied, events) := feed r t.collecting.keys t.jobs
  ({ t with
      jobs
      collecting := readied.foldl (fun s n => NumberMap.erase s n) t.collecting
      ready := readied.foldl NumberSet.add t.ready },
    readied, events)

/-- The table after a job was accepted, if it was ready. -/
def sent? (t : JobTable ε) (n : UInt32) : Option (JobTable ε) := do
  let j ← (← t.get? n).sent?
  return { t with
    jobs := t.jobs.insert n j
    ready := NumberMap.erase t.ready n
    sent := t.sent.add n }

def markSent (t : JobTable ε) (n : UInt32) : JobTable ε := (t.sent? n).getD t

def pruneSent (t : JobTable ε) (n : UInt32) : JobTable ε × Nat :=
  let old := NumberMap.below t.sent n
  ({ t with
      jobs := old.keys.foldl NumberMap.erase t.jobs
      sent := NumberMap.upFrom t.sent n },
    old.length)

end JobTable

end FinalityRelay
