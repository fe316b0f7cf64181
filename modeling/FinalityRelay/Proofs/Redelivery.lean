import FinalityRelay.Proofs.JobLife
import FinalityRelay.Proofs.LinkedChain
import FinalityRelay.Sample.Chain

/-! The order in which a relay holds its blocks, at all times of a run. What was delivered once, whether it
was accepted or not, is stale from then on, as long as ids carry the numbers of their blocks. -/

namespace FinalityRelay

namespace Relay

variable {s : Relay} {b : FinalizedBlock}

/-- Records with ascending numbers, of which the newest is the last finalized one, and no job that is
about a later block. -/
structure Ordered (s : Relay) : Prop where
  records : s.ledger.records.Pairwise (·.number < ·.number)
  last : s.lastFinalized = s.ledger.records.getLast?.map (·.number)
  unset_iff : s.lastFinalized = none ↔ s.ledger.records = []
  oldest_iff : ∀ k, s.ledger.oldest? = some k ↔
    k ∈ s.ledger.records.map (·.number) ∧ ∀ r ∈ s.ledger.records, k ≤ r.number
  scheduleJobs : ∀ j ∈ s.scheduleJobs.toList, ∃ last, s.lastFinalized = some last ∧ j.subject ≤ last
  depositJobs : ∀ j ∈ s.depositJobs.toList, ∃ last, s.lastFinalized = some last ∧ j.subject ≤ last

theorem Invariant.oldest_iff (h : s.Invariant) (k : UInt32) : s.ledger.oldest? = some k ↔
    k ∈ s.ledger.records.map (·.number) ∧ ∀ r ∈ s.ledger.records, k ≤ r.number := by
  rw [Ledger.oldest?]
  cases hr : s.ledger.records with
  | nil => simp
  | cons r rs =>
    have hlt := (List.pairwise_cons.mp (hr ▸ h.numbers)).1
    simp only [List.head?_cons, Option.map_some, Option.some.injEq, List.map_cons, List.mem_cons,
      List.mem_map, forall_eq_or_imp]
    constructor
    · rintro rfl
      exact ⟨.inl rfl, UInt32.le_refl _, fun r' hr' => UInt32.le_of_lt (hlt r' hr')⟩
    · rintro ⟨rfl | ⟨r', hr', rfl⟩, hle, -⟩
      · rfl
      · exact absurd (hlt r' hr') (UInt32.not_lt.mpr hle)

theorem Invariant.ordered (h : s.Invariant) : s.Ordered where
  records := h.numbers
  last := h.last
  unset_iff := by simp [h.last]
  oldest_iff := h.oldest_iff
  scheduleJobs j hj := by
    have hg := congrArg (Option.map (Job.map Evidence.schedule)) (h.scheduleJobs.get?_of_mem_toList hj)
    have hj' : s.job? .schedule j.subject = some (j.map .schedule) := hg
    exact (s.isStale_iff j.subject).mp (h.stale hj')
  depositJobs j hj := by
    have hg := congrArg (Option.map (Job.map Evidence.deposit)) (h.depositJobs.get?_of_mem_toList hj)
    have hj' : s.job? .deposit j.subject = some (j.map .deposit) := hg
    exact (s.isStale_iff j.subject).mp (h.stale hj')

theorem finalize_of_isStale (hb : s.isStale b.number = true) : (s.finalize b).1 = s := by
  rw [finalize, if_pos hb]

/-- A block that is not accepted is stale already, since a remembered id carries a remembered number. -/
theorem isStale_of_not_accepts (h : s.Invariant) (hr : ∀ r ∈ s.ledger.records, r.id.number = r.number)
    (hb : b.id.number = b.number) (ha : s.accepts b = false) : s.isStale b.number = true := by
  by_contra hs
  have hid : b.id ∈ s.ledger.records.map (·.id) := by
    by_contra hid
    have hacc := (s.accepts_iff b).mpr ⟨by simpa using hs, hid⟩
    exact Bool.false_ne_true (ha.symm.trans hacc)
  obtain ⟨r, hm, he⟩ := List.mem_map.mp hid
  have hn : r.number = b.number := by rw [← hr r hm, ← hb, he]
  exact hs (hn ▸ h.number_le hm)

end Relay

namespace Turn

variable {t : Turn} {b : FinalizedBlock}

theorem Valid.isStale_of_delivered (ht : t.Valid) (h : t.before.Invariant)
    (hr : ∀ r ∈ t.before.ledger.records, r.id.number = r.number) (hb : b.id.number = b.number)
    (hi : t.input = .task (.notify (.finalized b))) : t.after.isStale b.number = true := by
  by_cases ha : t.before.accepts b = true
  · have he := (ht.eq_accept h (accepted?_of_accepts hi ha)).1
    rw [he, Relay.isStale_congr (Relay.lastFinalized_accept _ _), Relay.isStale_remember]
    exact UInt32.le_refl _
  · have hs := Relay.isStale_of_not_accepts h hr hb (by simpa using ha)
    exact ht.isStale h hs

theorem Valid.lastFinalized_le (ht : t.Valid) (h : t.before.Invariant) {n : UInt32}
    (hn : t.before.lastFinalized = some n) : ∃ m, t.after.lastFinalized = some m ∧ n ≤ m := by
  refine (t.after.isStale_iff n).mp (ht.isStale h ?_)
  exact (t.before.isStale_iff n).mpr ⟨n, hn, UInt32.le_refl n⟩

end Turn

namespace Relay

/-- What is stale after a turn is stale after each later one. -/
theorem run_isStale {s : Relay} (h : s.Invariant) {is : List Input} {past future : List Turn} {t : Turn}
    (hrun : s.run is = past ++ t :: future) {n : UInt32} (hn : t.after.isStale n = true) :
    ∀ t' ∈ t :: future, t'.after.isStale n = true := by
  intro t' ht'
  rcases List.mem_cons.mp ht' with rfl | ht'
  · exact hn
  · have hp := run_pairwise (P := fun t s => ∀ n, t.after.isStale n = true → s.isStale n = true)
      (fun t hv h => hv.invariant h) (fun _ _ _ _ hn => hn)
      (fun _ t' hv h hs n hn => hv.isStale h (hs n hn)) h is
    rw [hrun] at hp
    obtain ⟨hv, hi, hs⟩ := (List.pairwise_cons.mp (List.pairwise_append.mp hp).2.1).1 t' ht'
    exact hv.isStale hi (hs n hn)

/-- Whatever a relay is given, its blocks stay in order and its last finalized number never falls. If
all ids carry their numbers, a block that was delivered before, no matter when and whether it is still
remembered, changes nothing at all. -/
theorem run_ordered (tokenContract bridgeAccount : Name) (capacity : Nat) (inputs : List Input) :
    let turns := (start tokenContract bridgeAccount capacity).run inputs
    (∀ t ∈ turns, t.before.Ordered ∧ t.after.Ordered ∧
      ∀ n, t.before.lastFinalized = some n → ∃ m, t.after.lastFinalized = some m ∧ n ≤ m) ∧
    ((∀ b, Input.task (.notify (.finalized b)) ∈ inputs → b.id.number = b.number) →
      ∀ (past : List Turn) t future, turns = past ++ t :: future →
        ∀ b, t.input = .task (.notify (.finalized b)) →
          ∀ t' ∈ t :: future, (t'.after.notify (.finalized b)).1 = t'.after) := by
  intro turns
  have hstart := invariant_start tokenContract bridgeAccount capacity
  refine ⟨fun t ht => ?_, fun hids past t future hrun b hb t' ht' => ?_⟩
  · obtain ⟨hv, hbefore, hafter⟩ := run_invariant hstart inputs t ht
    exact ⟨hbefore.ordered, hafter.ordered, fun n hn => hv.lastFinalized_le hbefore hn⟩
  · obtain ⟨hv, hr⟩ := run_before (P := fun ts s => s.Recalls (acceptedBlocks ts))
      (recalls_start tokenContract bridgeAccount capacity)
      (fun ts t hv h => by
        rw [acceptedBlocks_snoc]
        exact hv.recalls h) hrun
    have hmem : t ∈ turns := by simp [hrun]
    have hrecords : ∀ r ∈ t.before.ledger.records, r.id.number = r.number := by
      intro r hm
      obtain ⟨a, ha, rfl⟩ := List.mem_map.mp (hr.records.subset hm)
      have ha' : a ∈ acceptedBlocks turns := by
        rw [hrun, acceptedBlocks, List.filterMap_append]
        exact List.mem_append_left _ ha
      exact hids a (mem_inputs_of_accepted ha')
    have hdelivered : b.id.number = b.number := hids b (hb ▸ mem_inputs_of_mem_run hmem)
    have hs := hv.isStale_of_delivered hr.invariant hrecords hdelivered hb
    exact finalize_of_isStale (run_isStale hstart hrun hs t' ht')

end Relay

namespace Sample

/-- A block is forgotten by a relay with little room and delivered to the one that takes over. -/
def evicted : List Input :=
  [.task (.notify (.finalized (plainBlock 1 (some ⟨1, []⟩)))),
    .task (.notify (.finalized (plainBlock 2 none))),
    .task (.notify (.finalized (plainBlock 4 none))), .restart default default 1]

end Sample

theorem Relay.redelivery_of_evicted :
    let s := start default default 2
    (∀ b, Input.task (.notify (.finalized b)) ∈ Sample.evicted → b.id.number = b.number) ∧
      (s.last (s.run Sample.evicted)).ledger.records.map (·.number) = [4] ∧
      ((s.last (s.run Sample.evicted)).notify (.finalized (Sample.plainBlock 1 (some ⟨1, []⟩)))).1 =
        s.last (s.run Sample.evicted) := by
  intro s
  have hids : ∀ b, Input.task (.notify (.finalized b)) ∈ Sample.evicted → b.id.number = b.number := by
    intro b hb
    simp only [Sample.evicted, List.mem_cons, Input.task.injEq, Task.notify.injEq,
      Notification.finalized.injEq, reduceCtorEq, List.not_mem_nil, or_false] at hb
    rcases hb with rfl | rfl | rfl <;> exact Digest.number_withNumber _ _
  have hnumbers : (s.last (s.run Sample.evicted)).ledger.records.map (·.number) = [4] := by
    decide +kernel
  obtain ⟨t, future, hrun⟩ : ∃ t future, s.run Sample.evicted = t :: future := ⟨_, _, rfl⟩
  have hinput : t.input = .task (.notify (.finalized (Sample.plainBlock 1 (some ⟨1, []⟩)))) := by
    obtain ⟨i, is, hi, his, -⟩ := exists_turn?_of_run_eq_cons hrun
    rw [(valid_of_turn? hi).2]
    exact (List.cons.inj his).1.symm
  have hlast : ∃ t' ∈ t :: future, s.last (s.run Sample.evicted) = t'.after := by
    refine ⟨_, List.getLast_mem (List.cons_ne_nil t future), ?_⟩
    rw [hrun, last, List.getLast?_eq_some_getLast (List.cons_ne_nil t future)]
    rfl
  obtain ⟨t', ht', he⟩ := hlast
  refine ⟨hids, hnumbers, ?_⟩
  rw [he]
  exact (run_ordered default default 2 Sample.evicted).2 hids [] t future hrun _ hinput t' ht'

end FinalityRelay
