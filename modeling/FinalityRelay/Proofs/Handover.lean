import FinalityRelay.Proofs.Reload
import FinalityRelay.Proofs.WindowRun

/-! What passes from a relay to the next one through a snapshot file, whatever the room that the next
one has, and what stays behind. -/

namespace FinalityRelay

namespace Relay

variable {s : Relay}

/-- A relay that loads what another one has left. -/
structure TakesOver (s r : Relay) (tokenContract bridgeAccount : Name) (capacity : Nat) : Prop where
  scheduleJobs : r.scheduleJobs = s.scheduleJobs
  depositJobs : r.depositJobs = s.depositJobs
  activeSchedule : r.activeSchedule = s.activeSchedule
  lastFinalized : r.lastFinalized = s.lastFinalized
  room : r.ledger.capacity = max capacity 1
  records : r.ledger.records = s.ledger.records.rtake (min s.ledger.records.length (max capacity 1))
  deposits : r.deposits = .watching tokenContract bridgeAccount

theorem takesOver_successor (s : Relay) (tokenContract bridgeAccount : Name) (capacity : Nat) :
    s.TakesOver (s.successor tokenContract bridgeAccount capacity) tokenContract bridgeAccount
      capacity where
  scheduleJobs := rfl
  depositJobs := rfl
  activeSchedule := rfl
  lastFinalized := rfl
  room := rfl
  records := (Ledger.rtake_min_length _ _).symm
  deposits := rfl

theorem clear_eq_start (h : s.Invariant) :
    s.clear = start s.deposits.tokenContract s.deposits.bridgeAccount s.ledger.capacity := by
  have hcap : max s.ledger.capacity 1 = s.ledger.capacity := max_eq_left h.ledger.positive
  simp only [clear, start, Ledger.clear, Ledger.ofCapacity, Deposits.clear, Deposits.watching, hcap]

/-- A snapshot whose length fits in 64 bits can be read again. Whatever relay loads it has the same jobs,
schedule and last finalized number, and as many of the newest records as fit; the first one is left
as new. -/
theorem takeSnapshot_restores (tokenContract bridgeAccount : Name) (capacity : Nat)
    {inputs : List Input}
    (hc : ∀ b, Input.task (.notify (.finalized b)) ∈ inputs → b.history.Consistent) :
    let s := (start tokenContract bridgeAccount capacity).last
      ((start tokenContract bridgeAccount capacity).run inputs)
    s.takeSnapshot.1.encode.length < 2 ^ 64 →
      (∃ p, Snapshot.decode s.takeSnapshot.1.encode = .ok p ∧
        ∀ token bridge room, s.TakesOver ((start token bridge room).restore p) token bridge room) ∧
      s.takeSnapshot.2 = start s.deposits.tokenContract s.deposits.bridgeAccount s.ledger.capacity := by
  intro s hl
  obtain ⟨hi, hs⟩ := run_storable (invariant_start tokenContract bridgeAccount capacity)
    (storable_start tokenContract bridgeAccount capacity) hc
  refine ⟨⟨s.snapshot, Snapshot.decode_encode (hs.snapshot hi) hl, fun token bridge room => ?_⟩,
    clear_eq_start hi⟩
  rw [restore_snapshot hi]
  exact s.takesOver_successor token bridge room

end Relay

namespace Sample

/-- A schedule is announced and its job taken over by another relay. -/
def handedOver : List Input :=
  announcement ++ [.restart default default 4, .task (.notify (.finalized (plainBlock 6 none)))]

end Sample

theorem Relay.restores_handedOver :
    let s := (start default default 5).last ((start default default 5).run Sample.handedOver)
    (∀ b, Input.task (.notify (.finalized b)) ∈ Sample.handedOver → b.history.Consistent) ∧
      s.takeSnapshot.1.encode.length < 2 ^ 64 ∧ s.ledger.records.length = 4 ∧
      ∃ p, Snapshot.decode s.takeSnapshot.1.encode = .ok p ∧
        s.TakesOver ((start default default 2).restore p) default default 2 := by
  intro s
  have hc : ∀ b, Input.task (.notify (.finalized b)) ∈ Sample.handedOver → b.history.Consistent := by
    intro b hb
    have he : Accumulator.empty.Consistent := by decide +kernel
    simp only [Sample.handedOver, Sample.announcement, List.map_cons, List.map_nil, List.cons_append,
      List.nil_append, List.mem_cons, List.not_mem_nil, Input.task.injEq, Task.notify.injEq,
      Notification.finalized.injEq, reduceCtorEq, false_or, or_false] at hb
    rcases hb with rfl | rfl | rfl | rfl | rfl <;> exact he
  have hl : s.takeSnapshot.1.encode.length < 2 ^ 64 := by decide +kernel
  have hsize : s.ledger.records.length = 4 := by decide +kernel
  obtain ⟨⟨p, hp, hover⟩, -⟩ := takeSnapshot_restores default default 5 hc hl
  exact ⟨hc, hl, hsize, p, hp, hover default default 2⟩

end FinalityRelay
