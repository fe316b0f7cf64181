import FinalityRelay.Proofs.History
import FinalityRelay.Proofs.WindowForm
import FinalityRelay.Sample.Chain

/-! Windows in a run: at all times, the window of every job is that of its subject after the blocks that
the relay has accepted so far. -/

namespace FinalityRelay

open Window

/-- A relay whose jobs follow the blocks that it has accepted. -/
structure Relay.Follows (bs : List FinalizedBlock) (s : Relay) : Prop where
  recalls : s.Recalls bs
  jobs : ∀ {kind n j}, s.job? kind n = some j → j.Follows bs n

theorem Swept.follows {o : Option (Job Evidence)} {as : List Attempt} {j' : Job Evidence}
    {bs : List FinalizedBlock} {n : UInt32} (h : Swept o as (some j'))
    (ho : ∀ j, o = some j → j.Follows bs n) : j'.Follows bs n := by
  cases h with
  | resting => exact ho j' rfl
  | @attempted j i a hr hp =>
    have hj := ho j rfl
    obtain ⟨e, -, rfl⟩ := Job.prepared?_eq_some_iff.mp hp
    have hs : ({ j with evidence := e } : Job Evidence).status = .ready := hr
    have hc := hj.collecting
    rw [hr] at hc
    refine ⟨hj.present, ?_, ?_⟩
    · rw [← hj.window, Job.answered, Job.accepted, if_pos hs]
      split <;> rfl
    · rw [Job.status_answered hs, ← hc]
      split <;> simp

namespace Turn

variable {t : Turn} {bs : List FinalizedBlock}

theorem Valid.follows (ht : t.Valid) (h : t.before.Follows bs)
    (hbs : Numbered (bs ++ t.accepted?.toList)) : t.after.Follows (bs ++ t.accepted?.toList) := by
  have hi := h.recalls.invariant
  refine ⟨ht.recalls h.recalls, fun {kind n j} hj => ?_⟩
  cases ht.shape hi with
  | quiet jobs _ _ _ accepted =>
    rw [accepted, Option.toList_none, List.append_nil]
    exact h.jobs (jobs kind n ▸ hj)
  | block b input accepts after =>
    have hlt : ∀ a ∈ bs, a.number.toNat < b.number.toNat := fun a hm =>
      UInt32.lt_iff_toNat_lt.mp (h.recalls.lt_of_accepts accepts a hm)
    rw [accepted?_of_accepts input accepts, Option.toList_some] at hbs ⊢
    rw [after] at hj
    rcases Relay.job?_of_accepts hi accepts kind n with ⟨i, ho, rfl, -, hafter⟩ | ⟨-, hafter⟩
    · obtain ⟨anchor, -, he⟩ := Relay.opening?_eq_some ho
      rw [hafter] at hj
      rw [← Option.some.inj hj, he]
      exact Job.Follows.ofSubject hlt anchor i.evidence
    · rw [hafter] at hj
      obtain ⟨i, hb, rfl⟩ := Option.map_eq_some_iff.mp (Option.filter_eq_some_iff.mp hj).1
      exact (h.jobs hb).collect hbs hlt
  | sweep answers input after =>
    have hw := Relay.swept hi.indexed answers kind n
    rw [← after, hj] at hw
    rw [accepted?_of_sweep input, Option.toList_none, List.append_nil]
    exact hw.follows fun j hb => h.jobs hb

end Turn

namespace Relay

variable {s : Relay}

theorem follows_start (tokenContract bridgeAccount : Name) (capacity : Nat) :
    (start tokenContract bridgeAccount capacity).Follows [] where
  recalls := recalls_start tokenContract bridgeAccount capacity
  jobs hj := by simp at hj

theorem run_follows (h : s.Follows []) {is : List Input}
    (hnum : Numbered (acceptedBlocks (s.run is))) :
    (s.last (s.run is)).Follows (acceptedBlocks (s.run is)) := by
  have hp := run_induction
    (P := fun ts s => Numbered (acceptedBlocks ts) → s.Follows (acceptedBlocks ts))
    (fun _ => h)
    (fun ts t hv hs hn => by
      rw [acceptedBlocks_snoc] at hn ⊢
      exact hv.follows (hs fun b hb => hn b (List.mem_append_left _ hb)) hn)
    is
  exact hp hnum

/-- In every run over blocks with the numbers of their headers, the window of a job and whether it
collects are functions of the blocks accepted so far. -/
theorem window_eq_ofBlocks (tokenContract bridgeAccount : Name) (capacity : Nat) {inputs : List Input}
    (hnum : ∀ b, Input.task (.notify (.finalized b)) ∈ inputs → b.number = b.header.number)
    {kind : ProofKind} {n : UInt32} {j : Job Evidence}
    (hj : ((start tokenContract bridgeAccount capacity).last
      ((start tokenContract bridgeAccount capacity).run inputs)).job? kind n = some j) :
    let bs := acceptedBlocks ((start tokenContract bridgeAccount capacity).run inputs)
    (blockAt? bs n.toNat).isSome ∧ j.window = .ofBlocks bs n ∧
      j.window.headers.length = reach bs n + 1 ∧
      (j.status = .collecting ↔
        reach bs n < maxHeaders - 1 ∧ ∀ b ∈ bs, b.number.toNat < n.toNat + maxSpan) := by
  intro bs
  have hs := run_follows (follows_start tokenContract bridgeAccount capacity)
    fun b hb => hnum b (mem_inputs_of_accepted hb)
  have hf := hs.jobs hj
  refine ⟨hf.present, hf.window, ?_, hf.collecting.trans isOpen_iff⟩
  rw [hf.window]
  exact length_headers_ofBlocks hf.present

end Relay

namespace Sample

/-- Three linked blocks, the last of which announces a schedule, and one that skips a number. -/
def announcement : List Input :=
  [plainBlock 1 none, plainBlock 2 none, plainBlock 3 (some ⟨1, []⟩), plainBlock 5 none].map
    fun b => .task (.notify (.finalized b))

end Sample

theorem Relay.window_of_announcement :
    (∀ b, Input.task (.notify (.finalized b)) ∈ Sample.announcement → b.number = b.header.number) ∧
      ∃ j, ((start default default 5).last ((start default default 5).run Sample.announcement)).job?
          .schedule 3 = some j ∧
        j.window =
          .ofBlocks (acceptedBlocks ((start default default 5).run Sample.announcement)) 3 := by
  have hnum : ∀ b, Input.task (.notify (.finalized b)) ∈ Sample.announcement →
      b.number = b.header.number := by
    intro b hb
    simp only [Sample.announcement, List.map_cons, List.map_nil, List.mem_cons, List.not_mem_nil,
      Input.task.injEq, Task.notify.injEq, Notification.finalized.injEq, or_false] at hb
    rcases hb with rfl | rfl | rfl | rfl <;> decide
  obtain ⟨j, hj⟩ := Option.isSome_iff_exists.mp (show (((start default default 5).last
    ((start default default 5).run Sample.announcement)).job? .schedule 3).isSome by decide)
  exact ⟨hnum, j, hj, (window_eq_ofBlocks default default 5 hnum hj).2.1⟩

end FinalityRelay
