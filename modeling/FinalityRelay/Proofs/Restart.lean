import FinalityRelay.Proofs.Invariant
import FinalityRelay.Proofs.SnapshotForm

/-! What a relay that takes over from another one through a snapshot holds: the same jobs, schedule and
last finalized number, as many of the newest records as fit, and nothing that was pending. -/

namespace FinalityRelay

namespace Relay

variable {s s' : Relay} {tokenContract bridgeAccount : Name} {capacity : Nat}

/-- A fresh relay with the content of the snapshot file of another one. -/
def restart (s : Relay) (tokenContract bridgeAccount : Name) (capacity : Nat) :
    Except SnapshotError Relay :=
  (Snapshot.decode s.snapshot.encode).map (start tokenContract bridgeAccount capacity).restore

/-- What a relay leaves to the one that takes over. -/
def successor (s : Relay) (tokenContract bridgeAccount : Name) (capacity : Nat) : Relay where
  ledger := ⟨max capacity 1, s.ledger.records.rtake (max capacity 1)⟩
  deposits := .watching tokenContract bridgeAccount
  scheduleJobs := s.scheduleJobs
  depositJobs := s.depositJobs
  activeSchedule := s.activeSchedule
  lastFinalized := s.lastFinalized

theorem restore_snapshot (h : s.Invariant) (tokenContract bridgeAccount : Name) (capacity : Nat) :
    (start tokenContract bridgeAccount capacity).restore s.snapshot =
      s.successor tokenContract bridgeAccount capacity := by
  let fresh : Relay :=
    { start tokenContract bridgeAccount capacity with activeSchedule := s.activeSchedule }
  have he : fresh.Extends s.ledger.records := by
    refine ⟨?_, h.numbers, fun last hl => ?_⟩
    · simpa [fresh, start, Ledger.ofCapacity] using h.ledger.ids
    · simp [fresh, start] at hl
  have hf := foldl_restoreBlock (s := fresh) (Ledger.wellFormed_ofCapacity capacity) he
  have ha : (s.snapshot.activeSchedule <|>
      (start tokenContract bridgeAccount capacity).activeSchedule) = s.activeSchedule := by
    cases hs : s.activeSchedule <;> simp [snapshot, start, hs]
  have hs : JobTable.empty.insertAll s.scheduleJobs.toList = s.scheduleJobs :=
    h.scheduleJobs.insertAll_toList
  have hd : JobTable.empty.insertAll s.depositJobs.toList = s.depositJobs :=
    h.depositJobs.insertAll_toList
  have hb : s.snapshot.blocks.foldl restoreBlock
      { start tokenContract bridgeAccount capacity with activeSchedule := s.activeSchedule } =
      s.ledger.records.foldl restoreBlock fresh := rfl
  simp only [restore, ha]
  rw [hb, hf, successor, h.last]
  simp [fresh, start, Ledger.ofCapacity, snapshot, hs, hd]

theorem restart_eq (h : s.Invariant) (hr : s.restart tokenContract bridgeAccount capacity = .ok s') :
    s' = s.successor tokenContract bridgeAccount capacity := by
  unfold restart at hr
  cases hd : Snapshot.decode s.snapshot.encode with
  | error e => simp [hd, Except.map] at hr
  | ok p =>
    rw [hd, Snapshot.eq_of_decode_encode hd] at hr
    rw [← restore_snapshot h]
    exact (Except.ok.inj hr).symm

/-- A restart succeeds if the accumulators are sound and the file is not of astronomical size. -/
theorem restart_ok (h : s.Invariant) (hc : s.snapshot.Consistent)
    (hl : s.snapshot.encode.length < 2 ^ 64) :
    s.restart tokenContract bridgeAccount capacity =
      .ok (s.successor tokenContract bridgeAccount capacity) := by
  rw [restart, Snapshot.decode_encode hc hl, Except.map, restore_snapshot h]

theorem job?_successor (s : Relay) (kind : ProofKind) (n : UInt32) :
    (s.successor tokenContract bridgeAccount capacity).job? kind n = s.job? kind n :=
  job?_congr rfl rfl kind n

theorem Invariant.successor (h : s.Invariant) (tokenContract bridgeAccount : Name) (capacity : Nat) :
    (s.successor tokenContract bridgeAccount capacity).Invariant where
  ledger := by
    refine ⟨by simp only [Relay.successor]; omega, ?_, ?_⟩
    · simp only [Relay.successor, List.rtake, List.length_drop]
      omega
    · exact h.ledger.ids.sublist ((Ledger.rtake_sublist _ _).map _)
  numbers := h.numbers.sublist (Ledger.rtake_sublist _ _)
  last := by
    simp only [Relay.successor]
    rw [Ledger.getLast?_rtake (by omega), h.last]
  pending := List.Pairwise.nil
  scheduleJobs := h.scheduleJobs
  depositJobs := h.depositJobs
  stale hj := h.stale (job?_successor s _ _ ▸ hj)

end Relay

end FinalityRelay
