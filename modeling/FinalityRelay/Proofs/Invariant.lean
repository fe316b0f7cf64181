import FinalityRelay.Proofs.Deposits
import FinalityRelay.Proofs.JobTable
import FinalityRelay.Proofs.Ledger

/-! The jobs of a relay by kind and subject, and what holds of a relay at all times: its jobs are about
blocks up to the last finalized one, which is the newest of the ledger. -/

namespace FinalityRelay

namespace Relay

variable {s : Relay}

def job? (s : Relay) : ProofKind → UInt32 → Option (Job Evidence)
  | .schedule, n => (s.scheduleJobs.get? n).map (Job.map .schedule)
  | .deposit, n => (s.depositJobs.get? n).map (Job.map .deposit)

theorem subject_of_job? (hs : s.scheduleJobs.WellFormed) (hd : s.depositJobs.WellFormed)
    {kind : ProofKind} {n : UInt32} {j : Job Evidence} (hj : s.job? kind n = some j) :
    j.subject = n := by
  cases kind with
  | schedule =>
    obtain ⟨i, hi, rfl⟩ := Option.map_eq_some_iff.mp hj
    exact hs.subject hi
  | deposit =>
    obtain ⟨i, hi, rfl⟩ := Option.map_eq_some_iff.mp hj
    exact hd.subject hi

theorem kind_of_job? {kind : ProofKind} {n : UInt32} {j : Job Evidence}
    (hj : s.job? kind n = some j) : j.evidence.kind = kind := by
  cases kind with
  | schedule =>
    obtain ⟨i, -, rfl⟩ := Option.map_eq_some_iff.mp hj
    rfl
  | deposit =>
    obtain ⟨i, -, rfl⟩ := Option.map_eq_some_iff.mp hj
    rfl

theorem job?_congr {s s' : Relay} (hs : s'.scheduleJobs = s.scheduleJobs)
    (hd : s'.depositJobs = s.depositJobs) (kind : ProofKind) (n : UInt32) :
    s'.job? kind n = s.job? kind n := by
  cases kind <;> simp only [job?, hs, hd]

/-- The job tables of the relay list their jobs correctly. -/
structure Indexed (s : Relay) : Prop where
  scheduleJobs : s.scheduleJobs.WellFormed
  depositJobs : s.depositJobs.WellFormed

/-- The kinds and subjects of the jobs in one status. -/
def keys (s : Relay) (status : Status) : List (ProofKind × UInt32) :=
  (s.scheduleJobs.subjects status).map (.schedule, ·) ++
    (s.depositJobs.subjects status).map (.deposit, ·)

theorem Indexed.keys_nodup (h : s.Indexed) (status : Status) : (s.keys status).Nodup := by
  refine List.nodup_append.mpr ⟨?_, ?_, ?_⟩
  · exact (h.scheduleJobs.subjects_nodup status).map fun a b hab => (Prod.mk.inj hab).2
  · exact (h.depositJobs.subjects_nodup status).map fun a b hab => (Prod.mk.inj hab).2
  · intro a ha b hb hab
    obtain ⟨i, -, rfl⟩ := List.mem_map.mp ha
    obtain ⟨k, -, rfl⟩ := List.mem_map.mp hb
    simp at hab

theorem Indexed.mem_keys_iff (h : s.Indexed) {status : Status} {kind : ProofKind} {n : UInt32} :
    (kind, n) ∈ s.keys status ↔ ∃ j, s.job? kind n = some j ∧ j.status = status := by
  cases kind with
  | schedule => simp [keys, job?, h.scheduleJobs.mem_subjects]
  | deposit => simp [keys, job?, h.depositJobs.mem_subjects]

theorem progress_sent (s : Relay) : s.progress.sent = (s.keys .sent).length := by
  simp only [progress, keys, List.length_append, List.length_map, JobTable.length_subjects]

structure Invariant (s : Relay) : Prop where
  ledger : s.ledger.WellFormed
  numbers : s.ledger.records.Pairwise (·.number < ·.number)
  last : s.lastFinalized = s.ledger.records.getLast?.map (·.number)
  pending : s.deposits.pending.Ascending
  scheduleJobs : s.scheduleJobs.WellFormed
  depositJobs : s.depositJobs.WellFormed
  stale : ∀ {kind n j}, s.job? kind n = some j → s.isStale n = true

theorem isStale_iff (s : Relay) (n : UInt32) :
    s.isStale n = true ↔ ∃ last, s.lastFinalized = some last ∧ n ≤ last := by
  cases h : s.lastFinalized <;> simp [isStale, h]

theorem isStale_congr {s s' : Relay} (h : s'.lastFinalized = s.lastFinalized) (n : UInt32) :
    s'.isStale n = s.isStale n := by
  simp only [isStale, h]

@[simp]
theorem job?_start (tokenContract bridgeAccount : Name) (capacity : Nat) (kind : ProofKind)
    (n : UInt32) : (start tokenContract bridgeAccount capacity).job? kind n = none := by
  cases kind <;> rfl

theorem invariant_start (tokenContract bridgeAccount : Name) (capacity : Nat) :
    (start tokenContract bridgeAccount capacity).Invariant where
  ledger := Ledger.wellFormed_ofCapacity capacity
  numbers := List.Pairwise.nil
  last := rfl
  pending := List.Pairwise.nil
  scheduleJobs := JobTable.wellFormed_empty
  depositJobs := JobTable.wellFormed_empty
  stale h := by simp at h

namespace Invariant

variable {kind : ProofKind} {n : UInt32} {j : Job Evidence}

theorem indexed (h : s.Invariant) : s.Indexed := ⟨h.scheduleJobs, h.depositJobs⟩

theorem subject (h : s.Invariant) (hj : s.job? kind n = some j) : j.subject = n :=
  subject_of_job? h.scheduleJobs h.depositJobs hj

theorem number_le (h : s.Invariant) {r : BlockRecord} (hr : r ∈ s.ledger.records) :
    s.isStale r.number = true := by
  rw [isStale_iff, h.last]
  cases hl : s.ledger.records.getLast? with
  | none => simp [List.getLast?_eq_none_iff.mp hl] at hr
  | some l =>
    refine ⟨l.number, rfl, ?_⟩
    obtain ⟨front, hf⟩ := List.getLast?_eq_some_iff.mp hl
    rw [hf] at hr
    rcases List.mem_append.mp hr with hr | hr
    · have hp := hf ▸ h.numbers
      exact UInt32.le_of_lt ((List.pairwise_append.mp hp).2.2 r hr l (by simp))
    · simp only [List.mem_singleton] at hr
      exact hr ▸ UInt32.le_refl _

end Invariant

end Relay

end FinalityRelay
