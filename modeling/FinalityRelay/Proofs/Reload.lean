import FinalityRelay.Proofs.History

/-! The restart of a relay under its own configuration. If the blocks came with consistent accumulators
the snapshot can be read again, and all that the restart loses is what was pending. -/

namespace FinalityRelay

structure Relay.Storable (s : Relay) : Prop where
  records : ∀ r ∈ s.ledger.records, r.Consistent
  jobs : ∀ {kind n j}, s.job? kind n = some j → j.Consistent

namespace Relay

variable {s : Relay} {r : BlockRecord}

theorem storable_start (tokenContract bridgeAccount : Name) (capacity : Nat) :
    (start tokenContract bridgeAccount capacity).Storable where
  records := by simp [start, Ledger.ofCapacity]
  jobs hj := by simp at hj

theorem mem_of_ancestor? {l : Ledger} {steps : Nat} {id : Digest}
    (h : l.ancestor? id steps = some r) : r ∈ l.records := by
  induction steps generalizing id with
  | zero => exact List.mem_of_find?_eq_some h
  | succ steps ih =>
    obtain ⟨r', -, hr⟩ := Option.bind_eq_some_iff.mp h
    exact ih hr

theorem Storable.anchor (h : s.Storable) {anchor : Accumulator} (ha : s.anchor? r = some anchor) :
    anchor.Consistent := by
  obtain ⟨r', hr, rfl⟩ := Option.map_eq_some_iff.mp ha
  exact h.records r' (mem_of_ancestor? hr)

theorem Storable.snapshot (h : s.Storable) (hi : s.Invariant) : s.snapshot.Consistent where
  blocks := h.records
  scheduleJobs j hj := by
    have hg : s.job? .schedule j.subject = some (j.map .schedule) :=
      congrArg (Option.map _) (hi.scheduleJobs.get?_of_mem_toList hj)
    exact h.jobs hg
  depositJobs j hj := by
    have hg : s.job? .deposit j.subject = some (j.map .deposit) :=
      congrArg (Option.map _) (hi.depositJobs.get?_of_mem_toList hj)
    exact h.jobs hg

end Relay

namespace Turn

variable {t : Turn}

theorem Valid.storable (ht : t.Valid) (hi : t.before.Invariant) (h : t.before.Storable)
    (hb : ∀ b ∈ t.accepted?, b.history.Consistent) : t.after.Storable := by
  cases ht.shape hi with
  | quiet jobs _ _ _ _ records =>
    exact ⟨fun r hr => h.records r (records.subset hr), fun hj => h.jobs (jobs _ _ ▸ hj)⟩
  | block b input accepts after =>
    have hc : b.record.Consistent := hb b (accepted?_of_accepts input accepts)
    have hs : (t.before.remember b).Storable := by
      refine ⟨fun r hr => ?_, fun hj => h.jobs hj⟩
      rcases List.mem_append.mp ((Ledger.rtake_sublist _ _).subset hr) with hr | hr
      · exact h.records r hr
      · exact List.mem_singleton.mp hr ▸ hc
    rw [after]
    refine ⟨by rw [Relay.accept_fst]; exact hs.records, fun {kind n j} hj => ?_⟩
    rcases Relay.job?_of_accepts hi accepts kind n with ⟨i, ho, -, -, hafter⟩ | ⟨-, hafter⟩
    · obtain ⟨anchor, ha, he⟩ := Relay.opening?_eq_some ho
      rw [hafter] at hj
      rw [← Option.some.inj hj, he]
      exact hs.anchor ha
    · rw [hafter] at hj
      obtain ⟨i, hi, rfl⟩ := Option.map_eq_some_iff.mp (Option.filter_eq_some_iff.mp hj).1
      rw [Job.Consistent, Job.anchor_collect]
      exact h.jobs hi
  | sweep answers input after =>
    refine ⟨?_, fun {kind n j} hj => ?_⟩
    · rw [after, (t.before.frame_sweep answers).ledger]
      exact h.records
    · have hw := Relay.swept hi.indexed answers kind n
      rw [← after, hj] at hw
      obtain ⟨i, hi⟩ := hw.exists_before
      rw [hi] at hw
      have hd : j.anchor = i.anchor := congrArg Dossier.anchor hw.dossier
      rw [Job.Consistent, hd]
      exact h.jobs hi

end Turn

namespace Relay

variable {s : Relay} {tokenContract bridgeAccount : Name} {capacity : Nat}

/-- What tasks leave as it was when the relay started. -/
def setup (s : Relay) : Nat × Name × Name :=
  (s.ledger.capacity, s.deposits.tokenContract, s.deposits.bridgeAccount)

theorem setup_accept (s : Relay) (b : FinalizedBlock) :
    ((s.remember b).accept b.record).1.setup = s.setup := by
  rw [accept_fst, setup, Deposits.take_fst]
  rfl

theorem setup_handle (h : s.Invariant) (t : Task) : (s.handle t).after.setup = s.setup := by
  cases t with
  | notify x =>
    cases x with
    | finalized b =>
      have he : (s.handle (.notify (.finalized b))).after = (s.finalize b).1 := rfl
      rw [he]
      by_cases hb : s.accepts b = true
      · rw [finalize_of_accepts h.ledger hb, setup_accept]
      · rw [(finalize_of_not_accepts (by simpa using hb)).1]
    | applied x =>
      have he : (s.handle (.notify (.applied x))).after =
          { s with deposits := (s.deposits.apply x).1 } := rfl
      rw [he, Deposits.apply_fst]
      cases x.traces <;> rfl
  | sweep answers =>
    have hf := s.frame_sweep answers
    have he : (s.handle (.sweep answers)).after = (s.sweep answers).relay := rfl
    simp only [he, setup, hf.ledger, hf.deposits]

/-- A relay under its own configuration loses nothing in a restart but what was pending. -/
theorem successor_self (h : s.Invariant)
    (hs : s.setup = (max capacity 1, tokenContract, bridgeAccount)) :
    s.successor tokenContract bridgeAccount capacity = { s with deposits := s.deposits.clear } := by
  simp only [setup, Prod.mk.injEq] at hs
  obtain ⟨hc, ht, hb⟩ := hs
  have hr : s.ledger.records.rtake s.ledger.capacity = s.ledger.records :=
    Ledger.rtake_of_length_le h.ledger.size_le
  rw [successor, ← hc, ← ht, ← hb, hr]
  rfl

theorem run_storable (h : s.Invariant) (hs : s.Storable) {is : List Input}
    (hc : ∀ b, Input.task (.notify (.finalized b)) ∈ is → b.history.Consistent) :
    (s.last (s.run is)).Invariant ∧ (s.last (s.run is)).Storable := by
  have hp := run_induction
    (P := fun ts r => (∀ b ∈ acceptedBlocks ts, b.history.Consistent) → r.Invariant ∧ r.Storable)
    (fun _ => ⟨h, hs⟩)
    (fun ts t hv hr hb => by
      rw [acceptedBlocks_snoc] at hb
      obtain ⟨hi, hst⟩ := hr fun b hm => hb b (List.mem_append_left _ hm)
      refine ⟨hv.invariant hi, hv.storable hi hst fun b hm => hb b ?_⟩
      exact List.mem_append_right _ (Option.mem_toList.mpr hm))
    is
  exact hp fun b hb => hc b (mem_inputs_of_accepted hb)

/-- What every relay is that did nothing but tasks from its start on. -/
theorem run_tasks (tokenContract bridgeAccount : Name) (capacity : Nat) {tasks : List Task}
    (hc : ∀ b, Task.notify (.finalized b) ∈ tasks → b.history.Consistent) :
    let s := start tokenContract bridgeAccount capacity
    let s' := s.last (s.run (tasks.map .task))
    s'.Invariant ∧ s'.Storable ∧ s'.setup = (max capacity 1, tokenContract, bridgeAccount) := by
  intro s s'
  have hstart : s.Invariant := invariant_start tokenContract bridgeAccount capacity
  have hc' : ∀ b, Input.task (.notify (.finalized b)) ∈ tasks.map .task → b.history.Consistent :=
    fun b hb => hc b (by simpa using hb)
  obtain ⟨hi, hs⟩ := run_storable hstart (storable_start _ _ _) hc'
  have hp := run_induction (P := fun ts r => (∀ t ∈ ts, t.input ∈ tasks.map .task) →
      r.Invariant ∧ r.setup = (max capacity 1, tokenContract, bridgeAccount))
    (fun _ => ⟨hstart, rfl⟩)
    (fun ts t hv hts hin => by
      obtain ⟨hi, he⟩ := hts fun t' ht' => hin t' (List.mem_append_left _ ht')
      obtain ⟨task, -, hti⟩ := List.mem_map.mp (hin t (by simp))
      exact ⟨hv.invariant hi, by rw [hv.eq_handle hti.symm, setup_handle hi, he]⟩)
    (tasks.map .task)
  exact ⟨hi, hs, (hp fun t ht => mem_inputs_of_mem_run ht).2⟩

end Relay

end FinalityRelay
