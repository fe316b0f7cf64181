import FinalityRelay.Proofs.Offers
import FinalityRelay.Proofs.Partition
import FinalityRelay.Proofs.Refresh

/-! One sweep from end to end, whatever the answers: its submissions and their order, what becomes of each
job, and what is reported. -/

namespace FinalityRelay

namespace JobTable

variable {ε : Type} {t : JobTable ε} {j : Job ε}

def readyJobs (t : JobTable ε) : List (Job ε) := t.toList.filter (·.status = .ready)

theorem status_map_of_mem_readyJobs {δ : Type} (hj : j ∈ t.readyJobs) (f : ε → δ) :
    (j.map f).status = .ready := by
  rw [Job.status_map]
  exact of_decide_eq_true (List.mem_filter.mp hj).2

theorem WellFormed.get?_of_mem_readyJobs (h : t.WellFormed) (hj : j ∈ t.readyJobs) :
    t.get? j.subject = some j :=
  h.mem_toList_iff.mp (List.mem_filter.mp hj).1

theorem WellFormed.readyJobs_ascending (h : t.WellFormed) :
    t.readyJobs.Pairwise (·.subject < ·.subject) := by
  have hp := h.subjects_pairwise .ready
  rw [h.subjects_eq_filter] at hp
  exact List.pairwise_map.mp hp

end JobTable

/-- What a ready job becomes by the answer to its submission. -/
def Answer.status (a : Answer) : Status := if a.isAccepted then .sent else .ready

namespace Job

variable {ε δ : Type}

theorem map_injective {f : ε → δ} (hf : Function.Injective f) : Function.Injective (Job.map f) := by
  rintro ⟨⟩ ⟨⟩ h
  simp only [map, Job.mk.injEq] at h
  obtain ⟨rfl, rfl, rfl, rfl, rfl, he⟩ := h
  rw [hf he]

theorem answered_of_ready {j : Job ε} (h : j.status = .ready) (a : Answer) :
    j.answered a = { j with status := a.status } := by
  by_cases ha : a.isAccepted = true
  · simp [answered, accepted, Answer.status, ha, h]
  · simp [answered, Answer.status, ha, ← h]

def proven (j : Job DepositEvidence) : Job DepositEvidence := { j with evidence := j.evidence.proven }

theorem prepared?_of_isProvable {j : Job DepositEvidence} (h : j.evidence.IsProvable) :
    (j.map Evidence.deposit).prepared? = some (j.proven.map .deposit) := by
  have hp := DepositEvidence.refreshPath_of_isProvable h
  simp [prepared?, map, Evidence.refreshed?, hp, Except.toOption, proven]

theorem prepared?_eq_none_iff {j : Job DepositEvidence} :
    (j.map Evidence.deposit).prepared? = none ↔ ¬j.evidence.IsProvable := by
  have he := Evidence.refreshed?_eq_none_iff (e := .deposit j.evidence)
  simpa [prepared?, map, DepositEvidence.IsProvable] using he

end Job

/-! ### One job -/

namespace Swept

variable {o o' : Option (Job Evidence)} {j j' : Job Evidence} {as : List Attempt}

theorem of_resting (h : Swept o as o') (hr : ∀ j ∈ o, j.status ≠ .ready) : o' = o := by
  cases h with
  | resting => rfl
  | unprovable hj => exact absurd hj (hr _ rfl)
  | attempted _ hj => exact absurd hj (hr _ rfl)

theorem of_resting_map {ε : Type} {f : ε → Evidence} {o o' : Option (Job ε)}
    (h : Swept (o.map (Job.map f)) as (o'.map (Job.map f))) (hf : Function.Injective f)
    (hr : ∀ j ∈ o, j.status ≠ .ready) : o' = o := by
  refine Option.map_injective (Job.map_injective hf) (h.of_resting fun j hj => ?_)
  obtain ⟨i, hi, rfl⟩ := Option.map_eq_some_iff.mp hj
  exact hr i hi

theorem of_unprovable (h : Swept (some j) as o') (hr : j.status = .ready) (hp : j.prepared? = none) :
    o' = none := by
  cases h with
  | resting hne => exact absurd hr (hne j rfl)
  | unprovable => rfl
  | attempted _ _ hp' => simp [hp] at hp'

theorem of_prepared (h : Swept (some j) as o') (hr : j.status = .ready)
    (hp : j.prepared? = some j') :
    ∃ a, as = [⟨j'.submission, a⟩] ∧ o' = some { j' with status := a.status } := by
  have hr' : j'.status = .ready := (Job.status_prepared hp).trans hr
  cases h with
  | resting hne => exact absurd hr (hne j rfl)
  | unprovable _ hp' => simp [hp] at hp'
  | attempted a _ hp' =>
    obtain rfl := Option.some.inj (hp.symm.trans hp')
    exact ⟨a, rfl, by rw [Job.answered_of_ready hr']⟩

end Swept

namespace Relay

variable {s : Relay} {answers : Nat → Answer} {kind : ProofKind} {n : UInt32}

/-- A submission is answered at its place, and the answer decides about the job it was made for. -/
theorem job?_of_submission (h : s.Indexed) {i : Nat} {j j' : Job Evidence}
    (hj : s.job? kind n = some j) (hr : j.status = .ready) (hp : j.prepared? = some j')
    (hi : (s.sweep answers).submissions[i]? = some j'.submission) :
    (s.sweep answers).relay.job? kind n = some { j' with status := (answers i).status } := by
  have ho : s.offer? (kind, n) = some j'.submission := by simp [offer?, hj, hp]
  obtain ⟨hk, hn⟩ := about_of_offer? h ho
  have hm : ⟨j'.submission, answers i⟩ ∈
      ((s.sweep answers).attempts answers).filter (·.isAbout kind n) := by
    refine List.mem_filter.mpr ⟨List.mem_of_getElem? (i := i) ?_, decide_eq_true ⟨hk, hn⟩⟩
    rw [Sweep.attempts, List.getElem?_mapIdx, hi]
    rfl
  have hw := swept h answers kind n
  rw [hj] at hw
  obtain ⟨a, has, hafter⟩ := hw.of_prepared hr hp
  rw [has, List.mem_singleton, Attempt.mk.injEq] at hm
  rw [hafter, hm.2]

/-! ### Submissions -/

def provableDeposits (s : Relay) : List (Job DepositEvidence) :=
  s.depositJobs.readyJobs.filter (·.evidence.IsProvable)

def unprovableDeposits (s : Relay) : List (Job DepositEvidence) :=
  s.depositJobs.readyJobs.filter (¬·.evidence.IsProvable)

theorem due_eq (h : s.Indexed) :
    s.due = s.scheduleJobs.readyJobs.map (fun j => (.schedule, j.subject)) ++
      s.depositJobs.readyJobs.map fun j => (.deposit, j.subject) := by
  rw [due, h.scheduleJobs.subjects_eq_filter, h.depositJobs.subjects_eq_filter, List.map_map,
    List.map_map]
  rfl

theorem job?_of_schedule (h : s.Indexed) {j : Job ScheduleEvidence}
    (hj : j ∈ s.scheduleJobs.readyJobs) : s.job? .schedule j.subject = some (j.map .schedule) := by
  rw [job?, h.scheduleJobs.get?_of_mem_readyJobs hj, Option.map_some]

theorem job?_of_deposit (h : s.Indexed) {j : Job DepositEvidence}
    (hj : j ∈ s.depositJobs.readyJobs) : s.job? .deposit j.subject = some (j.map .deposit) := by
  rw [job?, h.depositJobs.get?_of_mem_readyJobs hj, Option.map_some]

theorem offers_eq (h : s.Indexed) :
    s.offers = s.scheduleJobs.readyJobs.map (fun j => .schedule (.ofJob j)) ++
      s.provableDeposits.map fun j => .deposit (.ofJob j.proven) := by
  have hs : s.scheduleJobs.readyJobs.filterMap (fun j => s.offer? (.schedule, j.subject)) =
      s.scheduleJobs.readyJobs.map fun j => .schedule (.ofJob j) := by
    refine List.filterMap_eq_map_iff_forall_eq_some.mpr fun j hj => ?_
    rw [offer?, job?_of_schedule h hj]
    rfl
  have hskip : s.depositJobs.readyJobs.filterMap (fun j => s.offer? (.deposit, j.subject)) =
      s.provableDeposits.filterMap fun j => s.offer? (.deposit, j.subject) := by
    rw [provableDeposits, List.filterMap_filter]
    refine List.filterMap_congr fun j hj => ?_
    by_cases hp : j.evidence.IsProvable
    · simp [hp]
    · simp [hp, offer?, job?_of_deposit h hj, Job.prepared?_eq_none_iff.mpr hp]
  have hd : s.provableDeposits.filterMap (fun j => s.offer? (.deposit, j.subject)) =
      s.provableDeposits.map fun j => .deposit (.ofJob j.proven) := by
    refine List.filterMap_eq_map_iff_forall_eq_some.mpr fun j hj => ?_
    obtain ⟨hj, hp⟩ := List.mem_filter.mp hj
    rw [offer?, job?_of_deposit h hj, Option.bind_some,
      Job.prepared?_of_isProvable (of_decide_eq_true hp)]
    rfl
  rw [offers, due_eq h, List.filterMap_append, List.filterMap_map, List.filterMap_map]
  exact congrArg₂ _ hs (hskip.trans hd)

theorem countP_drops (h : s.Indexed) : s.due.countP s.drops = s.unprovableDeposits.length := by
  have hs : s.scheduleJobs.readyJobs.countP (s.drops ∘ fun j => (.schedule, j.subject)) = 0 := by
    refine List.countP_eq_zero.mpr fun j hj => ?_
    simp [drops, job?_of_schedule h hj, Job.prepared?, Job.map, Evidence.refreshed?]
  have hd : s.depositJobs.readyJobs.countP (s.drops ∘ fun j => (.deposit, j.subject)) =
      s.unprovableDeposits.length := by
    rw [unprovableDeposits, ← List.countP_eq_length_filter]
    refine List.countP_congr fun j hj => ?_
    simp [drops, job?_of_deposit h hj, Job.prepared?_eq_none_iff]
  rw [due_eq h, List.countP_append, List.countP_map, List.countP_map, hs, hd, Nat.zero_add]

theorem length_readyJobs (h : s.Indexed) :
    s.scheduleJobs.readyJobs.length + s.provableDeposits.length + s.unprovableDeposits.length =
      s.progress.ready := by
  have hsplit := List.length_eq_length_filter_add
    (l := s.depositJobs.readyJobs) fun j => decide j.evidence.IsProvable
  have hs := h.scheduleJobs.count_eq .ready
  have hd := h.depositJobs.count_eq .ready
  simp only [progress, provableDeposits, unprovableDeposits, JobTable.readyJobs, hs, hd] at hsplit ⊢
  simp only [decide_not]
  omega

end Relay

/-! ### Report -/

namespace Sweep

variable {answers : Nat → Answer} {w : Sweep}

structure Tallied (answers : Nat → Answer) (w : Sweep) : Prop where
  accepted : w.report.accepted = (w.attempts answers).countP (·.answer.isAccepted)
  rejected : w.report.rejected = (w.attempts answers).countP (!·.answer.isAccepted)

theorem Tallied.step (h : w.Tallied answers) (kind : ProofKind) (n : UInt32) :
    (w.step answers (kind, n)).Tallied answers := by
  have hr := report_step answers w kind n
  have ha := (step_spec answers w kind n).attempts
  cases hat : w.attempt? answers kind n with
  | none =>
    rw [hat, Option.toList_none, List.append_nil] at ha
    simp only [hat] at hr
    exact ⟨by rw [hr, ha, h.accepted], by rw [hr, ha, h.rejected]⟩
  | some a =>
    rw [hat, Option.toList_some] at ha
    simp only [hat] at hr
    constructor
    · rw [hr, ha, List.countP_append, List.countP_singleton, ← h.accepted]
      cases a.answer <;> rfl
    · rw [hr, ha, List.countP_append, List.countP_singleton, ← h.rejected]
      cases a.answer <;> rfl

theorem Tallied.foldl (h : w.Tallied answers) (ps : List (ProofKind × UInt32)) :
    (ps.foldl (Sweep.step answers) w).Tallied answers := by
  induction ps generalizing w with
  | nil => exact h
  | cons p ps ih => exact ih (h.step p.1 p.2)

theorem Tallied.total (h : w.Tallied answers) :
    w.report.accepted + w.report.rejected = w.submissions.length := by
  have hs := List.length_eq_countP_add_countP (l := w.attempts answers) (·.answer.isAccepted)
  have hl := congrArg List.length (map_submission_attempts answers w)
  rw [List.length_map] at hl
  rw [h.accepted, h.rejected, ← hl, hs]
  simp

/-- What a sweep under the given answers makes of a relay. -/
structure Outcome (s : Relay) (answers : Nat → Answer) (w : Sweep) : Prop where
  /-- All ready schedule jobs are submitted, and then all ready deposit jobs that can be proven. -/
  submissions : w.submissions = s.scheduleJobs.readyJobs.map (fun j => .schedule (.ofJob j)) ++
    s.provableDeposits.map fun j => .deposit (.ofJob j.proven)
  schedules_ascending : s.scheduleJobs.readyJobs.Pairwise (·.subject < ·.subject)
  deposits_ascending : s.provableDeposits.Pairwise (·.subject < ·.subject)
  /-- The answer to its submission makes a job sent, or leaves it ready. -/
  schedule : ∀ (i : Nat) (j : Job ScheduleEvidence), s.scheduleJobs.readyJobs[i]? = some j →
    w.relay.scheduleJobs.get? j.subject = some { j with status := (answers i).status }
  deposit : ∀ (i : Nat) (j : Job DepositEvidence), s.provableDeposits[i]? = some j →
    w.relay.depositJobs.get? j.subject =
      some { j.proven with status := (answers (s.scheduleJobs.readyJobs.length + i)).status }
  unprovable : ∀ j ∈ s.unprovableDeposits, w.relay.depositJobs.get? j.subject = none
  /-- Where there was no ready job, nothing changes. -/
  schedule_resting : ∀ n, (∀ j ∈ s.scheduleJobs.get? n, j.status ≠ .ready) →
    w.relay.scheduleJobs.get? n = s.scheduleJobs.get? n
  deposit_resting : ∀ n, (∀ j ∈ s.depositJobs.get? n, j.status ≠ .ready) →
    w.relay.depositJobs.get? n = s.depositJobs.get? n
  tally : w.Tallied answers
  dropped : w.report.dropped = s.unprovableDeposits.length
  total : w.report.accepted + w.report.rejected + w.report.dropped = s.progress.ready
  indexed : w.relay.Indexed
  frame : w.relay =
    { s with scheduleJobs := w.relay.scheduleJobs, depositJobs := w.relay.depositJobs }

end Sweep

namespace Relay

variable {s : Relay} {answers : Nat → Answer}

theorem get?_of_schedule (h : s.Indexed) {i : Nat} {j : Job ScheduleEvidence}
    (hi : s.scheduleJobs.readyJobs[i]? = some j) :
    (s.sweep answers).relay.scheduleJobs.get? j.subject =
      some { j with status := (answers i).status } := by
  have hm := List.mem_of_getElem? hi
  have hx : (s.sweep answers).submissions[i]? = some (j.map Evidence.schedule).submission := by
    have hlt := (List.getElem?_eq_some_iff.mp hi).1
    rw [submissions_sweep h, offers_eq h, List.getElem?_append_left (by simpa using hlt),
      List.getElem?_map, hi]
    rfl
  have hr := JobTable.status_map_of_mem_readyJobs hm Evidence.schedule
  have hj := job?_of_submission h (job?_of_schedule h hm) hr rfl hx
  exact Option.map_injective (Job.map_injective fun _ _ => Evidence.schedule.inj) hj

theorem get?_of_deposit (h : s.Indexed) {i : Nat} {j : Job DepositEvidence}
    (hi : s.provableDeposits[i]? = some j) :
    (s.sweep answers).relay.depositJobs.get? j.subject =
      some { j.proven with status := (answers (s.scheduleJobs.readyJobs.length + i)).status } := by
  obtain ⟨hm, hp⟩ := List.mem_filter.mp (List.mem_of_getElem? hi)
  have hx : (s.sweep answers).submissions[s.scheduleJobs.readyJobs.length + i]? =
      some (j.proven.map Evidence.deposit).submission := by
    rw [submissions_sweep h, offers_eq h, List.getElem?_append_right (by simp), List.length_map,
      Nat.add_sub_cancel_left, List.getElem?_map, hi]
    rfl
  have hr := JobTable.status_map_of_mem_readyJobs hm Evidence.deposit
  have hprep := Job.prepared?_of_isProvable (of_decide_eq_true hp)
  have hj := job?_of_submission h (job?_of_deposit h hm) hr hprep hx
  exact Option.map_injective (Job.map_injective fun _ _ => Evidence.deposit.inj) hj

theorem get?_of_unprovable (h : s.Indexed) {j : Job DepositEvidence}
    (hj : j ∈ s.unprovableDeposits) : (s.sweep answers).relay.depositJobs.get? j.subject = none := by
  obtain ⟨hm, hp⟩ := List.mem_filter.mp hj
  have hw := swept h answers .deposit j.subject
  rw [job?_of_deposit h hm] at hw
  have hr := JobTable.status_map_of_mem_readyJobs hm Evidence.deposit
  have hn := hw.of_unprovable hr (Job.prepared?_eq_none_iff.mpr (of_decide_eq_true hp))
  exact Option.map_eq_none_iff.mp hn

theorem tallied_sweep (s : Relay) (answers : Nat → Answer) : (s.sweep answers).Tallied answers := by
  rw [sweep_eq]
  exact Sweep.Tallied.foldl ⟨rfl, rfl⟩ _

theorem outcome_sweep (h : s.Indexed) (answers : Nat → Answer) :
    Sweep.Outcome s answers (s.sweep answers) where
  submissions := (submissions_sweep h answers).trans (offers_eq h)
  schedules_ascending := h.scheduleJobs.readyJobs_ascending
  deposits_ascending := h.depositJobs.readyJobs_ascending.filter _
  schedule _ _ := get?_of_schedule h
  deposit _ _ := get?_of_deposit h
  unprovable _ := get?_of_unprovable h
  schedule_resting n := (swept h answers .schedule n).of_resting_map fun _ _ => Evidence.schedule.inj
  deposit_resting n := (swept h answers .deposit n).of_resting_map fun _ _ => Evidence.deposit.inj
  tally := tallied_sweep s answers
  dropped := (dropped_sweep h answers).trans (countP_drops h)
  total := by
    have ht := (tallied_sweep s answers).total
    have hd := (dropped_sweep h answers).trans (countP_drops h)
    rw [ht, hd, submissions_sweep h, offers_eq h, List.length_append, List.length_map,
      List.length_map, length_readyJobs h]
  indexed :=
    have hf := s.frame_sweep answers
    ⟨hf.scheduleJobs h.scheduleJobs, hf.depositJobs h.depositJobs⟩
  frame := by
    have hf := s.frame_sweep answers
    rw [← hf.ledger, ← hf.deposits, ← hf.activeSchedule, ← hf.lastFinalized]

end Relay

namespace Sample

def readyJob {ε : Type} (number : UInt32) (evidence : ε) : Job ε :=
  { Job.ofSubject (plainBlock number none).record .empty evidence with status := .ready }

/-- Two schedule jobs and two deposit jobs are ready, one of these without the receipts of its block. The
others still collect or are sent. -/
def laden : Relay :=
  { Relay.start default default 5 with
    scheduleJobs := .ofList
      [readyJob 7 ⟨schedule 2, none⟩, readyJob 4 ⟨schedule 1, none⟩,
        { readyJob 2 ⟨schedule 0, none⟩ with status := .sent }]
    depositJobs := .ofList
      [readyJob 5 { evidence 0 1 with siblings := [] }, readyJob 4 (evidence 0 1),
        { readyJob 8 (evidence 0 1) with status := .collecting }] }

def alternating (i : Nat) : Answer := if i % 2 = 0 then .accepted "" else .failed ""

end Sample

theorem Relay.outcome_laden :
    Sample.laden.Indexed ∧
      Sweep.Outcome Sample.laden Sample.alternating (Sample.laden.sweep Sample.alternating) ∧
      (Sample.laden.sweep Sample.alternating).report = ⟨2, 1, 1⟩ := by
  have hi : Sample.laden.Indexed :=
    ⟨JobTable.wellFormed_empty.insertAll _, JobTable.wellFormed_empty.insertAll _⟩
  refine ⟨hi, outcome_sweep hi Sample.alternating, ?_⟩
  decide +kernel

end FinalityRelay
