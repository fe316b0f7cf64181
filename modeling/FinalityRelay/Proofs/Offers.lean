import FinalityRelay.Proofs.SweepStep

/-! What a sweep submits does not depend on the answers. So these may be given by what is submitted
instead of by place. Neither does it depend on them which jobs it drops. -/

namespace FinalityRelay

/-- What is submitted for the job of the given kind and subject, if it is due. -/
def Relay.offer? (s : Relay) (p : ProofKind × UInt32) : Option Submission :=
  ((s.job? p.1 p.2).bind Job.prepared?).map Job.submission

def Relay.offers (s : Relay) : List Submission := s.due.filterMap s.offer?

namespace Sweep

variable {answers : Nat → Answer}

theorem submissions_step (w : Sweep) (p : ProofKind × UInt32) :
    (w.step answers p).submissions = w.submissions ++ (w.relay.offer? p).toList := by
  have ha := congrArg (List.map Attempt.submission) (step_spec answers w p.1 p.2).attempts
  rw [List.map_append, map_submission_attempts, map_submission_attempts] at ha
  refine ha.trans (congrArg _ ?_)
  simp only [attempt?, Relay.offer?]
  cases (w.relay.job? p.1 p.2).bind Job.prepared? <;> rfl

theorem submissions_foldl {ps : List (ProofKind × UInt32)} (hps : ps.Nodup) (w : Sweep) :
    (ps.foldl (step answers) w).submissions = w.submissions ++ ps.filterMap w.relay.offer? := by
  induction ps generalizing w with
  | nil => simp
  | cons p ps ih =>
    obtain ⟨hp, hps⟩ := List.nodup_cons.mp hps
    have ho : ∀ q ∈ ps, (w.step answers p).relay.offer? q = w.relay.offer? q := by
      intro q hq
      have hne : ¬(q.1 = p.1 ∧ q.2 = p.2) := fun he => hp (Prod.ext he.1 he.2 ▸ hq)
      have hj := (step_spec answers w p.1 p.2).job q.1 q.2
      rw [if_neg hne] at hj
      exact congrArg (fun o => (o.bind Job.prepared?).map Job.submission) hj
    rw [List.foldl_cons, ih hps, submissions_step, List.filterMap_congr ho, List.append_assoc]
    cases ha : w.relay.offer? p <;> simp [ha]

end Sweep

theorem SweepReport.dropped_count (r : SweepReport) (a : Answer) :
    (r.count a).dropped = r.dropped := by
  cases a <;> rfl

/-- Whether a sweep gives up the job of the given kind and subject, if it is due. -/
def Relay.drops (s : Relay) (p : ProofKind × UInt32) : Bool :=
  (s.job? p.1 p.2).any fun j => j.prepared?.isNone

namespace Sweep

variable {answers : Nat → Answer}

/-- A step counts the answer to its attempt, or the job that it gives up. -/
theorem report_step (answers : Nat → Answer) (w : Sweep) (kind : ProofKind) (n : UInt32) :
    (w.step answers (kind, n)).report =
      match w.attempt? answers kind n with
      | some a => w.report.count a.answer
      | none => { w.report with dropped := w.report.dropped + (w.relay.drops (kind, n)).toNat } := by
  cases kind with
  | schedule =>
    have hs : w.step answers (.schedule, n) = w.submitSchedule answers n := rfl
    rw [hs]
    cases hj : w.relay.scheduleJobs.get? n with
    | none => simp [submitSchedule_of_none hj, attempt?, Relay.drops, Relay.job?, hj]
    | some j =>
      have hn : w.relay.job? .schedule n = some (j.map .schedule) := by simp [Relay.job?, hj]
      have hp : (j.map Evidence.schedule).prepared? = some (j.map .schedule) := rfl
      rw [submitSchedule_of_some hj, attempt?_of_prepared answers hn hp]
      rfl
  | deposit =>
    have hs : w.step answers (.deposit, n) = w.submitDeposit answers n := rfl
    rw [hs]
    cases hj : w.relay.depositJobs.get? n with
    | none => simp [submitDeposit_of_none hj, attempt?, Relay.drops, Relay.job?, hj]
    | some j =>
      have hn : w.relay.job? .deposit n = some (j.map .deposit) := by simp [Relay.job?, hj]
      cases he : j.evidence.refreshPath with
      | error e =>
        have hp : (j.map Evidence.deposit).prepared? = none := by
          simp [Job.prepared?, Job.map, Evidence.refreshed?, he, Except.toOption]
        simp [submitDeposit_of_error hj he, attempt?, Relay.drops, hn, hp]
      | ok evidence =>
        let i : Job DepositEvidence := { j with evidence }
        have hp : (j.map Evidence.deposit).prepared? = some (i.map .deposit) := by
          simp [Job.prepared?, Job.map, Evidence.refreshed?, he, Except.toOption, i]
        rw [submitDeposit_of_ok hj he, attempt?_of_prepared answers hn hp]
        rfl

theorem dropped_step (w : Sweep) (p : ProofKind × UInt32) :
    (w.step answers p).report.dropped = w.report.dropped + (w.relay.drops p).toNat := by
  rw [report_step answers w p.1 p.2]
  cases ha : w.attempt? answers p.1 p.2 with
  | none => rfl
  | some a =>
    obtain ⟨j', hj', -⟩ := Option.map_eq_some_iff.mp ha
    obtain ⟨j, hj, hp⟩ := Option.bind_eq_some_iff.mp hj'
    simp [SweepReport.dropped_count, Relay.drops, hj, hp]

theorem dropped_foldl {ps : List (ProofKind × UInt32)} (hps : ps.Nodup) (w : Sweep) :
    (ps.foldl (step answers) w).report.dropped = w.report.dropped + ps.countP w.relay.drops := by
  induction ps generalizing w with
  | nil => rfl
  | cons p ps ih =>
    obtain ⟨hp, hps⟩ := List.nodup_cons.mp hps
    have hd : ∀ q ∈ ps, (w.step answers p).relay.drops q = w.relay.drops q := by
      intro q hq
      have hne : ¬(q.1 = p.1 ∧ q.2 = p.2) := fun he => hp (Prod.ext he.1 he.2 ▸ hq)
      have hj := (step_spec answers w p.1 p.2).job q.1 q.2
      rw [if_neg hne] at hj
      exact congrArg (fun o => o.any fun j => j.prepared?.isNone) hj
    have hc : ps.countP (w.step answers p).relay.drops = ps.countP w.relay.drops :=
      List.countP_congr fun q hq => by rw [hd q hq]
    rw [List.foldl_cons, ih hps, dropped_step, hc, List.countP_cons]
    cases w.relay.drops p with
    | true =>
      simp only [Bool.toNat_true, if_true]
      omega
    | false => simp

end Sweep

namespace Relay

variable {s : Relay} {kind : ProofKind} {n : UInt32}

theorem dropped_sweep (h : s.Indexed) (answers : Nat → Answer) :
    (s.sweep answers).report.dropped = s.due.countP s.drops := by
  rw [sweep_eq, Sweep.dropped_foldl (due_nodup h)]
  exact Nat.zero_add _

theorem submissions_sweep (h : s.Indexed) (answers : Nat → Answer) :
    (s.sweep answers).submissions = s.offers := by
  rw [sweep_eq, Sweep.submissions_foldl (due_nodup h)]
  rfl

theorem about_of_offer? (h : s.Indexed) {p : ProofKind × UInt32} {x : Submission}
    (hx : s.offer? p = some x) : x.kind = p.1 ∧ x.subject = p.2 := by
  simp only [offer?, Option.map_eq_some_iff, Option.bind_eq_some_iff] at hx
  obtain ⟨j', ⟨j, hj, hp⟩, rfl⟩ := hx
  obtain ⟨e, he, rfl⟩ := Job.prepared?_eq_some_iff.mp hp
  have hn : j.subject = p.2 := subject_of_job? h.scheduleJobs h.depositJobs hj
  rw [Job.kind_submission, Job.subject_submission]
  exact ⟨(Evidence.kind_of_refreshed? he).trans (kind_of_job? hj), hn⟩

theorem mem_offers_iff (h : s.Invariant) {x : Submission} :
    x ∈ s.offers ↔ ∃ j, s.job? x.kind x.subject = some j ∧ j.status = .ready ∧
      j.prepared?.map Job.submission = some x := by
  rw [offers, List.mem_filterMap]
  constructor
  · rintro ⟨⟨kind, n⟩, hp, hx⟩
    obtain ⟨hk, hn⟩ := about_of_offer? h.indexed hx
    obtain ⟨j, hj, hr⟩ := (mem_due_iff h.indexed).mp hp
    rw [hk, hn]
    refine ⟨j, hj, hr, ?_⟩
    rw [offer?, hj] at hx
    exact hx
  · rintro ⟨j, hj, hr, hx⟩
    refine ⟨(x.kind, x.subject), (mem_due_iff h.indexed).mpr ⟨j, hj, hr⟩, ?_⟩
    rw [offer?, hj]
    exact hx

theorem eq_of_mem_offers (h : s.Invariant) {x y : Submission} (hx : x ∈ s.offers) (hy : y ∈ s.offers)
    (hk : y.kind = x.kind) (hn : y.subject = x.subject) : y = x := by
  obtain ⟨j, hj, -, hxj⟩ := (mem_offers_iff h).mp hx
  obtain ⟨i, hi, -, hyi⟩ := (mem_offers_iff h).mp hy
  rw [hk, hn, hj] at hi
  rw [← Option.some.inj hi, hxj] at hyi
  exact (Option.some.inj hyi).symm

/-- The order of a sweep. -/
def precedes (p q : ProofKind × UInt32) : Prop :=
  p.1 = .schedule ∧ q.1 = .deposit ∨ p.1 = q.1 ∧ p.2 < q.2

theorem due_pairwise (h : s.Indexed) : s.due.Pairwise precedes := by
  have hk : ∀ (kind : ProofKind) {ns : List UInt32}, ns.Pairwise (· < ·) →
      (ns.map (kind, ·)).Pairwise precedes := fun kind ns hns =>
    List.pairwise_map.mpr (hns.imp fun hlt => .inr ⟨rfl, hlt⟩)
  refine List.pairwise_append.mpr ⟨hk _ (h.scheduleJobs.subjects_pairwise .ready),
    hk _ (h.depositJobs.subjects_pairwise .ready), fun p hp q hq => ?_⟩
  obtain ⟨n, -, rfl⟩ := List.mem_map.mp hp
  obtain ⟨m, -, rfl⟩ := List.mem_map.mp hq
  exact .inl ⟨rfl, rfl⟩

theorem precedes_asymm {p q : ProofKind × UInt32} (hpq : precedes p q) : ¬precedes q p := by
  rintro hqp
  rcases hpq with ⟨hp, hq⟩ | ⟨hk, hlt⟩
  · rcases hqp with ⟨hq', -⟩ | ⟨hk', -⟩
    · simp [hq] at hq'
    · simp [hp, hq] at hk'
  · rcases hqp with ⟨hq', hp'⟩ | ⟨-, hlt'⟩
    · simp [hp', hq'] at hk
    · exact UInt32.lt_irrefl _ (UInt32.lt_trans hlt hlt')

/-- Answers to the submissions of a sweep, whatever their places. -/
def answersBy (s : Relay) (f : Submission → Answer) : Nat → Answer :=
  fun i => (s.offers[i]?.map f).getD (.failed "")

theorem attempts_answersBy (h : s.Invariant) (f : Submission → Answer) :
    (s.sweep (s.answersBy f)).attempts (s.answersBy f) = s.offers.map fun x => ⟨x, f x⟩ := by
  rw [Sweep.attempts, submissions_sweep h.indexed]
  refine List.ext_getElem (by simp) fun i hi _ => ?_
  have hi : i < s.offers.length := by simpa using hi
  simp [answersBy, hi]

end Relay

end FinalityRelay
