import FinalityRelay.Relay.Sweep
import FinalityRelay.Proofs.BlockStep

/-! What a sweep does: each job that is ready at its start is prepared and attempted once, or dropped
when it cannot be prepared, and nothing else of the relay changes. -/

namespace FinalityRelay

structure Attempt where
  submission : Submission
  answer : Answer
deriving DecidableEq

def Attempt.isAbout (kind : ProofKind) (n : UInt32) (a : Attempt) : Bool :=
  a.submission.kind = kind ∧ a.submission.subject = n

def Job.answered {ε : Type} (j : Job ε) (a : Answer) : Job ε := if a.isAccepted then j.accepted else j

theorem Job.answered_map {ε δ : Type} (j : Job ε) (f : ε → δ) (a : Answer) :
    (j.map f).answered a = (j.answered a).map f := by
  by_cases ha : a.isAccepted = true <;> simp [answered, ha, accepted_map]

theorem Job.dossier_answered (j : Job Evidence) (a : Answer) : (j.answered a).dossier = j.dossier := by
  unfold answered
  split
  · exact dossier_accepted j
  · rfl

theorem Job.status_answered {ε : Type} {j : Job ε} (h : j.status = .ready) (a : Answer) :
    (j.answered a).status = if a.isAccepted then .sent else .ready := by
  by_cases ha : a.isAccepted = true <;> simp [answered, accepted, ha, h]

theorem JobTable.get?_markSent_ite {ε : Type} (t : JobTable ε) (a : Answer) (n m : UInt32) :
    (if a.isAccepted then t.markSent n else t).get? m =
      if m = n then (t.get? m).map (·.answered a) else t.get? m := by
  by_cases ha : a.isAccepted = true
  · simp only [ha, if_true, get?_markSent, Job.answered]
  · simp [ha, Job.answered]

namespace Sweep

variable {answers : Nat → Answer} {w : Sweep} {kind : ProofKind} {n : UInt32}

def attempts (answers : Nat → Answer) (w : Sweep) : List Attempt :=
  w.submissions.mapIdx fun i s => ⟨s, answers i⟩

theorem map_submission_attempts (answers : Nat → Answer) (w : Sweep) :
    (w.attempts answers).map Attempt.submission = w.submissions := by
  refine List.ext_getElem (by simp [attempts]) fun i _ _ => ?_
  simp [attempts]

theorem submission_mem_of_attempt {a : Attempt} (ha : a ∈ w.attempts answers) :
    a.submission ∈ w.submissions := by
  rw [← map_submission_attempts answers]
  exact List.mem_map_of_mem ha

/-- One step of a sweep, for the job of the given kind and subject. -/
def step (answers : Nat → Answer) (w : Sweep) : ProofKind × UInt32 → Sweep
  | (.schedule, n) => w.submitSchedule answers n
  | (.deposit, n) => w.submitDeposit answers n

def attempt? (answers : Nat → Answer) (w : Sweep) (kind : ProofKind) (n : UInt32) : Option Attempt :=
  ((w.relay.job? kind n).bind Job.prepared?).map fun j =>
    ⟨j.submission, answers w.submissions.length⟩

def left? (answers : Nat → Answer) (w : Sweep) (kind : ProofKind) (n : UInt32) :
    Option (Job Evidence) :=
  ((w.relay.job? kind n).bind Job.prepared?).map fun j => j.answered (answers w.submissions.length)

/-- What no step of a sweep changes. -/
structure Frame (w w' : Sweep) : Prop where
  ledger : w'.relay.ledger = w.relay.ledger
  deposits : w'.relay.deposits = w.relay.deposits
  activeSchedule : w'.relay.activeSchedule = w.relay.activeSchedule
  lastFinalized : w'.relay.lastFinalized = w.relay.lastFinalized
  scheduleJobs : w.relay.scheduleJobs.WellFormed → w'.relay.scheduleJobs.WellFormed
  depositJobs : w.relay.depositJobs.WellFormed → w'.relay.depositJobs.WellFormed
  opened : w'.events.filterMap Event.opened? = w.events.filterMap Event.opened?

theorem Frame.refl (w : Sweep) : w.Frame w := ⟨rfl, rfl, rfl, rfl, id, id, rfl⟩

theorem Frame.trans {w' w'' : Sweep} (h : w.Frame w') (h' : w'.Frame w'') : w.Frame w'' where
  ledger := h'.ledger.trans h.ledger
  deposits := h'.deposits.trans h.deposits
  activeSchedule := h'.activeSchedule.trans h.activeSchedule
  lastFinalized := h'.lastFinalized.trans h.lastFinalized
  scheduleJobs := h'.scheduleJobs ∘ h.scheduleJobs
  depositJobs := h'.depositJobs ∘ h.depositJobs
  opened := h'.opened.trans h.opened

/-- What a step does: it touches no job but its own, and makes at most one attempt. -/
structure StepSpec (answers : Nat → Answer) (w : Sweep) (kind : ProofKind) (n : UInt32)
    (w' : Sweep) : Prop where
  frame : w.Frame w'
  job : ∀ k m, w'.relay.job? k m =
    if k = kind ∧ m = n then w.left? answers kind n else w.relay.job? k m
  attempts : w'.attempts answers = w.attempts answers ++ (w.attempt? answers kind n).toList

theorem attempts_submit (w : Sweep) (kind : ProofKind) (subject : UInt32) (x : Submission) :
    (w.submit answers kind subject x).1.attempts answers =
      w.attempts answers ++ [⟨x, answers w.submissions.length⟩] := by
  simp [attempts, submit, List.mapIdx_append]

theorem opened_submit (w : Sweep) (kind : ProofKind) (subject : UInt32) (x : Submission) :
    (w.submit answers kind subject x).1.events.filterMap Event.opened? =
      w.events.filterMap Event.opened? := by
  simp only [submit, List.filterMap_append]
  cases answers w.submissions.length <;> simp [answered, Event.opened?]

theorem submitSchedule_of_none (hj : w.relay.scheduleJobs.get? n = none) :
    w.submitSchedule answers n = w := by
  simp [submitSchedule, hj]

theorem submitSchedule_of_some {j : Job ScheduleEvidence}
    (hj : w.relay.scheduleJobs.get? n = some j) :
    w.submitSchedule answers n =
      { (w.submit answers .schedule n (.schedule (.ofJob j))).1 with
        relay.scheduleJobs :=
          if (answers w.submissions.length).isAccepted then w.relay.scheduleJobs.markSent n
          else w.relay.scheduleJobs } := by
  simp only [submitSchedule, hj, submit]
  cases answers w.submissions.length <;> rfl

theorem submitDeposit_of_none (hj : w.relay.depositJobs.get? n = none) :
    w.submitDeposit answers n = w := by
  simp [submitDeposit, hj]

theorem submitDeposit_of_error {j : Job DepositEvidence} {e : MerkleError}
    (hj : w.relay.depositJobs.get? n = some j) (he : j.evidence.refreshPath = .error e) :
    w.submitDeposit answers n =
      { w with
        relay.depositJobs := w.relay.depositJobs.erase n
        report.dropped := w.report.dropped + 1
        events := w.events ++ [.unprovable n e] } := by
  simp [submitDeposit, hj, he]

theorem submitDeposit_of_ok {j : Job DepositEvidence} {evidence : DepositEvidence}
    (hj : w.relay.depositJobs.get? n = some j) (he : j.evidence.refreshPath = .ok evidence) :
    w.submitDeposit answers n =
      { (w.submit answers .deposit n (.deposit (.ofJob { j with evidence }))).1 with
        relay.depositJobs :=
          if (answers w.submissions.length).isAccepted then
            (w.relay.depositJobs.setEvidence n evidence).markSent n
          else w.relay.depositJobs.setEvidence n evidence } := by
  simp only [submitDeposit, hj, he, submit]
  cases answers w.submissions.length <;> rfl

theorem left?_of_prepared (answers : Nat → Answer) {j j' : Job Evidence}
    (hj : w.relay.job? kind n = some j) (hp : j.prepared? = some j') :
    w.left? answers kind n = some (j'.answered (answers w.submissions.length)) := by
  simp [left?, hj, hp]

theorem attempt?_of_prepared (answers : Nat → Answer) {j j' : Job Evidence}
    (hj : w.relay.job? kind n = some j) (hp : j.prepared? = some j') :
    w.attempt? answers kind n = some ⟨j'.submission, answers w.submissions.length⟩ := by
  simp [attempt?, hj, hp]

/-- A step without an attempt: there is no job, or it cannot be prepared. -/
theorem nothing_of_unprepared (answers : Nat → Answer)
    (hp : (w.relay.job? kind n).bind Job.prepared? = none) :
    w.left? answers kind n = none ∧ w.attempt? answers kind n = none := by
  simp [left?, attempt?, hp]

theorem step_schedule_spec (answers : Nat → Answer) (w : Sweep) (n : UInt32) :
    w.StepSpec answers .schedule n (w.step answers (.schedule, n)) := by
  have hs : w.step answers (.schedule, n) = w.submitSchedule answers n := rfl
  cases hj : w.relay.scheduleJobs.get? n with
  | none =>
    have hn : w.relay.job? .schedule n = none := by simp [Relay.job?, hj]
    obtain ⟨hl, ha⟩ := nothing_of_unprepared answers (by rw [hn]; rfl)
    rw [hs, submitSchedule_of_none hj]
    refine ⟨.refl w, fun k m => ?_, by simp [ha]⟩
    by_cases hk : k = .schedule ∧ m = n
    · rw [if_pos hk, hk.1, hk.2, hl, hn]
    · rw [if_neg hk]
  | some j =>
    have hn : w.relay.job? .schedule n = some (j.map .schedule) := by simp [Relay.job?, hj]
    have hp : (j.map Evidence.schedule).prepared? = some (j.map .schedule) := rfl
    rw [hs, submitSchedule_of_some hj]
    refine ⟨⟨rfl, rfl, rfl, rfl, fun h => ?_, id, opened_submit w _ n (.schedule (.ofJob j))⟩,
      fun k m => ?_, ?_⟩
    · simp only
      split
      · exact h.markSent n
      · exact h
    · cases k with
      | deposit => rfl
      | schedule =>
        have hl := left?_of_prepared answers hn hp
        rw [Job.answered_map] at hl
        simp only [Relay.job?, JobTable.get?_markSent_ite, true_and]
        by_cases hm : m = n <;> simp [hm, hj, hl]
    · rw [attempt?_of_prepared answers hn hp]
      exact attempts_submit w .schedule n _

theorem step_deposit_spec (answers : Nat → Answer) (w : Sweep) (n : UInt32) :
    w.StepSpec answers .deposit n (w.step answers (.deposit, n)) := by
  have hs : w.step answers (.deposit, n) = w.submitDeposit answers n := rfl
  cases hj : w.relay.depositJobs.get? n with
  | none =>
    have hn : w.relay.job? .deposit n = none := by simp [Relay.job?, hj]
    obtain ⟨hl, ha⟩ := nothing_of_unprepared answers (by rw [hn]; rfl)
    rw [hs, submitDeposit_of_none hj]
    refine ⟨.refl w, fun k m => ?_, by simp [ha]⟩
    by_cases hk : k = .deposit ∧ m = n
    · rw [if_pos hk, hk.1, hk.2, hl, hn]
    · rw [if_neg hk]
  | some j =>
    have hn : w.relay.job? .deposit n = some (j.map .deposit) := by simp [Relay.job?, hj]
    cases he : j.evidence.refreshPath with
    | error e =>
      have hp : (j.map Evidence.deposit).prepared? = none := by
        simp [Job.prepared?, Job.map, Evidence.refreshed?, he, Except.toOption]
      obtain ⟨hl, ha⟩ := nothing_of_unprepared answers (by rw [hn]; exact hp)
      rw [hs, submitDeposit_of_error hj he]
      refine ⟨⟨rfl, rfl, rfl, rfl, id, fun h => h.erase n, ?_⟩, fun k m => ?_, ?_⟩
      · simp [Event.opened?]
      · cases k with
        | schedule => rfl
        | deposit => by_cases hm : m = n <;> simp [Relay.job?, JobTable.get?_erase, hm, hl]
      · simp [attempts, ha]
    | ok evidence =>
      let i : Job DepositEvidence := { j with evidence }
      have hp : (j.map Evidence.deposit).prepared? = some (i.map .deposit) := by
        simp [Job.prepared?, Job.map, Evidence.refreshed?, he, Except.toOption, i]
      rw [hs, submitDeposit_of_ok hj he]
      refine ⟨⟨rfl, rfl, rfl, rfl, id, fun h => ?_, opened_submit w _ n (.deposit (.ofJob i))⟩,
        fun k m => ?_, ?_⟩
      · simp only
        split
        · exact (h.setEvidence n evidence).markSent n
        · exact h.setEvidence n evidence
      · cases k with
        | schedule => rfl
        | deposit =>
          have hg : (w.relay.depositJobs.setEvidence n evidence).get? n = some i := by
            simp [JobTable.get?_setEvidence, hj, i]
          have hl := left?_of_prepared answers hn hp
          rw [Job.answered_map] at hl
          simp only [Relay.job?, JobTable.get?_markSent_ite, true_and]
          by_cases hm : m = n
          · simp [hm, hg, hl]
          · simp [hm, JobTable.get?_setEvidence]
      · rw [attempt?_of_prepared answers hn hp]
        exact attempts_submit w .deposit n _

theorem step_spec (answers : Nat → Answer) (w : Sweep) (kind : ProofKind) (n : UInt32) :
    w.StepSpec answers kind n (w.step answers (kind, n)) := by
  cases kind with
  | schedule => exact step_schedule_spec answers w n
  | deposit => exact step_deposit_spec answers w n

end Sweep

namespace Relay

variable {s : Relay} {answers : Nat → Answer} {kind : ProofKind} {n : UInt32}

/-- The jobs that a sweep attempts, in its order. -/
def due (s : Relay) : List (ProofKind × UInt32) :=
  (s.scheduleJobs.subjects .ready).map (.schedule, ·) ++
    (s.depositJobs.subjects .ready).map (.deposit, ·)

theorem sweep_eq (s : Relay) (answers : Nat → Answer) :
    s.sweep answers = s.due.foldl (Sweep.step answers) ⟨s, .zero, [], []⟩ := by
  simp only [sweep, due, List.foldl_append, List.foldl_map]
  rfl

theorem due_nodup (h : s.Indexed) : s.due.Nodup := h.keys_nodup .ready

theorem mem_due_iff (h : s.Indexed) :
    (kind, n) ∈ s.due ↔ ∃ j, s.job? kind n = some j ∧ j.status = .ready :=
  h.mem_keys_iff

end Relay

namespace Sweep

variable {answers : Nat → Answer} {w : Sweep} {kind : ProofKind} {n : UInt32}

theorem isAbout_attempt? (hs : w.relay.scheduleJobs.WellFormed) (hd : w.relay.depositJobs.WellFormed)
    {a : Attempt} (ha : w.attempt? answers kind n = some a) (k : ProofKind) (m : UInt32) :
    a.isAbout k m = decide (k = kind ∧ m = n) := by
  simp only [attempt?, Option.map_eq_some_iff, Option.bind_eq_some_iff] at ha
  obtain ⟨j', ⟨j, hj, hp⟩, rfl⟩ := ha
  obtain ⟨e, he, rfl⟩ := Job.prepared?_eq_some_iff.mp hp
  have hsub : j.subject = n := Relay.subject_of_job? hs hd hj
  have hkind : e.kind = kind := by
    rw [← Relay.kind_of_job? hj]
    exact Evidence.kind_of_refreshed? he
  simp only [Attempt.isAbout, Job.subject_submission, Job.kind_submission, hsub, hkind, eq_comm]

theorem frame_foldl (ps : List (ProofKind × UInt32)) (w : Sweep) :
    w.Frame (ps.foldl (step answers) w) := by
  induction ps generalizing w with
  | nil => exact .refl w
  | cons p ps ih => exact (step_spec answers w p.1 p.2).frame.trans (ih _)

/-- Steps for other jobs leave a job alone and make no attempt for it. -/
theorem foldl_of_notMem (answers : Nat → Answer) (hs : w.relay.scheduleJobs.WellFormed)
    (hd : w.relay.depositJobs.WellFormed) {ps : List (ProofKind × UInt32)} (hn : (kind, n) ∉ ps) :
    (ps.foldl (step answers) w).relay.job? kind n = w.relay.job? kind n ∧
      ((ps.foldl (step answers) w).attempts answers).filter (·.isAbout kind n) =
        (w.attempts answers).filter (·.isAbout kind n) := by
  induction ps generalizing w with
  | nil => exact ⟨rfl, rfl⟩
  | cons p ps ih =>
    obtain ⟨k, m⟩ := p
    obtain ⟨hne, hn⟩ := not_or.mp (List.mem_cons.not.mp hn)
    have hp : ¬(kind = k ∧ n = m) := fun hp => hne (by rw [hp.1, hp.2])
    have hw := step_spec answers w k m
    obtain ⟨hj, ha⟩ := ih (hw.frame.scheduleJobs hs) (hw.frame.depositJobs hd) hn
    refine ⟨hj.trans ((hw.job kind n).trans (if_neg hp)), ha.trans ?_⟩
    rw [hw.attempts, List.filter_append]
    cases hat : w.attempt? answers k m with
    | none => simp
    | some a =>
      have hf : a.isAbout kind n = false := by
        rw [isAbout_attempt? hs hd hat]
        exact decide_eq_false hp
      simp [hf]

theorem foldl_of_mem (answers : Nat → Answer) (hs : w.relay.scheduleJobs.WellFormed)
    (hd : w.relay.depositJobs.WellFormed) {ps : List (ProofKind × UInt32)} (hps : ps.Nodup) (hn : (kind, n) ∈ ps) :
    ∃ a, (ps.foldl (step answers) w).relay.job? kind n =
        ((w.relay.job? kind n).bind Job.prepared?).map (·.answered a) ∧
      ((ps.foldl (step answers) w).attempts answers).filter (·.isAbout kind n) =
        (w.attempts answers).filter (·.isAbout kind n) ++
          (((w.relay.job? kind n).bind Job.prepared?).map fun j => ⟨j.submission, a⟩).toList := by
  induction ps generalizing w with
  | nil => simp at hn
  | cons p ps ih =>
    obtain ⟨hp, hnd⟩ := List.nodup_cons.mp hps
    obtain ⟨k, m⟩ := p
    have hw := step_spec answers w k m
    have hs' := hw.frame.scheduleJobs hs
    have hd' := hw.frame.depositJobs hd
    have ha := hw.attempts
    by_cases hk : kind = k ∧ n = m
    · obtain ⟨rfl, rfl⟩ := hk
      obtain ⟨hj', ha'⟩ := foldl_of_notMem answers hs' hd' hp
      refine ⟨answers w.submissions.length, ?_, ?_⟩
      · rw [List.foldl_cons, hj', hw.job, if_pos ⟨rfl, rfl⟩]
        rfl
      · have hf : ((w.attempt? answers kind n).toList).filter (·.isAbout kind n) =
            (w.attempt? answers kind n).toList := by
          refine List.filter_eq_self.mpr fun a hm => ?_
          rw [isAbout_attempt? hs hd (Option.mem_toList.mp hm)]
          exact decide_eq_true ⟨rfl, rfl⟩
        rw [List.foldl_cons, ha', ha, List.filter_append, hf]
        rfl
    · have hm : (kind, n) ∈ ps := by
        rcases List.mem_cons.mp hn with he | hm
        · exact absurd (Prod.mk.inj he) hk
        · exact hm
      have hf : ((w.attempt? answers k m).toList).filter (·.isAbout kind n) = [] := by
        refine List.filter_eq_nil_iff.mpr fun a hm => ?_
        rw [isAbout_attempt? hs hd (Option.mem_toList.mp hm)]
        simpa using hk
      obtain ⟨a, hj', ha'⟩ := ih hs' hd' hnd hm
      rw [hw.job, if_neg hk] at hj' ha'
      refine ⟨a, hj', ?_⟩
      rw [List.foldl_cons, ha', ha, List.filter_append, hf, List.append_nil]

end Sweep

/-- What a sweep makes of a job, and its attempts for it: ready jobs are prepared and attempted once,
unless they cannot be prepared, and others rest. -/
inductive Swept : Option (Job Evidence) → List Attempt → Option (Job Evidence) → Prop
  | resting {o} (h : ∀ j ∈ o, j.status ≠ .ready) : Swept o [] o
  | unprovable {j} (h : j.status = .ready) (hp : j.prepared? = none) : Swept (some j) [] none
  | attempted {j j'} (a : Answer) (h : j.status = .ready) (hp : j.prepared? = some j') :
    Swept (some j) [⟨j'.submission, a⟩] (some (j'.answered a))

theorem Swept.unique {o o₁ o₂ : Option (Job Evidence)} {as : List Attempt} (h₁ : Swept o as o₁)
    (h₂ : Swept o as o₂) : o₁ = o₂ := by
  cases h₁ with
  | resting hr =>
    cases h₂ with
    | resting => rfl
    | unprovable h => exact absurd h (hr _ rfl)
  | unprovable h =>
    cases h₂ with
    | resting hr => exact absurd h (hr _ rfl)
    | unprovable => rfl
  | attempted a h hp =>
    generalize has : [_] = as at h₂
    cases h₂ with
    | resting => simp at has
    | unprovable => simp at has
    | attempted a' h' hp' =>
      obtain rfl := Option.some.inj (hp.symm.trans hp')
      simp only [List.cons.injEq, Attempt.mk.injEq, true_and, and_true] at has
      rw [has]

theorem Swept.exists_before {o : Option (Job Evidence)} {as : List Attempt} {j' : Job Evidence}
    (h : Swept o as (some j')) : ∃ j, o = some j := by
  cases h with
  | resting => exact ⟨j', rfl⟩
  | attempted => exact ⟨_, rfl⟩

theorem Swept.of_gone {j : Job Evidence} {as : List Attempt} (h : Swept (some j) as none) :
    j.status = .ready ∧ j.prepared? = none := by
  cases h with
  | unprovable hr hp => exact ⟨hr, hp⟩

theorem Swept.dossier {j j' : Job Evidence} {as : List Attempt} (h : Swept (some j) as (some j')) :
    j'.dossier = j.dossier := by
  cases h with
  | resting => rfl
  | attempted a _ hp => exact (Job.dossier_answered _ a).trans (Job.dossier_prepared hp)

theorem Swept.of_attempt {o o' : Option (Job Evidence)} {as : List Attempt} {a : Attempt}
    (h : Swept o as o') (ha : a ∈ as) :
    ∃ j j', o = some j ∧ j.status = .ready ∧ j.prepared? = some j' ∧ a.submission = j'.submission := by
  cases h with
  | resting => simp at ha
  | unprovable => simp at ha
  | attempted answer hr hp => exact ⟨_, _, rfl, hr, hp, by rw [List.mem_singleton.mp ha]⟩

namespace Relay

variable {s : Relay} {kind : ProofKind} {n : UInt32}

theorem swept (h : s.Indexed) (answers : Nat → Answer) (kind : ProofKind) (n : UInt32) :
    Swept (s.job? kind n) (((s.sweep answers).attempts answers).filter (·.isAbout kind n))
      ((s.sweep answers).relay.job? kind n) := by
  rw [sweep_eq]
  by_cases hn : (kind, n) ∈ s.due
  · obtain ⟨a, hj', ha⟩ := Sweep.foldl_of_mem answers (w := ⟨s, .zero, [], []⟩)
      h.scheduleJobs h.depositJobs (due_nodup h) hn
    obtain ⟨j, hj, hr⟩ := (mem_due_iff h).mp hn
    simp only [hj, Option.bind_some] at hj' ha
    rw [hj', ha, hj]
    cases hp : j.prepared? with
    | none => exact .unprovable hr hp
    | some j' => exact .attempted a hr hp
  · obtain ⟨hj', ha⟩ := Sweep.foldl_of_notMem answers (w := ⟨s, .zero, [], []⟩)
      h.scheduleJobs h.depositJobs hn
    rw [hj', ha]
    refine .resting fun j hj hr => hn ?_
    exact (mem_due_iff h).mpr ⟨j, hj, hr⟩

theorem exists_job_of_submission (h : s.Invariant) {answers : Nat → Answer} {x : Submission}
    (hx : x ∈ (s.sweep answers).submissions) :
    ∃ j j', s.job? x.kind x.subject = some j ∧ j.status = .ready ∧ j.prepared? = some j' ∧
      x = j'.submission := by
  rw [← Sweep.map_submission_attempts answers] at hx
  obtain ⟨a, ha, rfl⟩ := List.mem_map.mp hx
  have hm : a ∈ ((s.sweep answers).attempts answers).filter
      (·.isAbout a.submission.kind a.submission.subject) :=
    List.mem_filter.mpr ⟨ha, by simp [Attempt.isAbout]⟩
  exact (swept h.indexed answers _ _).of_attempt hm

theorem frame_sweep (s : Relay) (answers : Nat → Answer) :
    Sweep.Frame ⟨s, .zero, [], []⟩ (s.sweep answers) := by
  rw [sweep_eq]
  exact Sweep.frame_foldl _ _

theorem Invariant.sweep (h : s.Invariant) (answers : Nat → Answer) :
    (s.sweep answers).relay.Invariant := by
  have hf := s.frame_sweep answers
  refine ⟨?_, ?_, ?_, ?_, hf.scheduleJobs h.scheduleJobs, hf.depositJobs h.depositJobs, ?_⟩
  · exact hf.ledger ▸ h.ledger
  · exact hf.ledger ▸ h.numbers
  · rw [hf.lastFinalized, hf.ledger]
    exact h.last
  · exact hf.deposits ▸ h.pending
  · intro kind n j hj
    rw [isStale_congr hf.lastFinalized]
    have hw := swept h.indexed answers kind n
    rw [hj] at hw
    obtain ⟨i, hi⟩ := hw.exists_before
    exact h.stale hi

end Relay

end FinalityRelay
