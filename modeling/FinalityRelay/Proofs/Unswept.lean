import FinalityRelay.Proofs.History
import FinalityRelay.Proofs.Offers
import FinalityRelay.Sample.Chain

/-! Sweeps leave the evidence alone. A relay that is swept is compared with one that is given the same
notifications and is never swept, which loses no job before it is sent. -/

namespace FinalityRelay

theorem Evidence.refreshed?_withoutPath (e : Evidence) : e.withoutPath.refreshed? = e.refreshed? := by
  cases e <;> rfl

namespace Job

variable {j j' : Job Evidence}

/-- A job but for what sweeps change: the acceptance of a ready job, and the path of a deposit. -/
def unswept (j : Job Evidence) : Job Evidence :=
  { j with
    status := if j.status = .sent then .ready else j.status
    evidence := j.evidence.withoutPath }

theorem unswept_of_ne_sent (h : j.status ≠ .sent) :
    j.unswept = { j with evidence := j.evidence.withoutPath } := by
  rw [unswept, if_neg h]

theorem status_unswept_eq_collecting_iff : j.unswept.status = .collecting ↔ j.status = .collecting := by
  cases h : j.status <;> simp [unswept, h]

theorem unswept_collect (j : Job Evidence) (r : BlockRecord) :
    (j.collect r).1.unswept = (j.unswept.collect r).1 := by
  by_cases h : j.status = .collecting
  · have hc : (j.collect r).1.status ≠ .sent := by
      rw [Ne, status_collect_sent, h]
      decide
    rw [unswept_of_ne_sent hc, unswept_of_ne_sent (by simp [h]), collect_fst, collect_fst, if_pos h,
      if_pos h]
    rfl
  · rw [collect_of_ne r h, collect_of_ne r (status_unswept_eq_collecting_iff.not.mpr h)]

theorem unswept_answered (j : Job Evidence) (a : Answer) : (j.answered a).unswept = j.unswept := by
  unfold answered accepted
  split
  · split
    · rename_i h
      simp [unswept, h]
    · rfl
  · rfl

theorem unswept_prepared (h : j.prepared? = some j') : j'.unswept = j.unswept := by
  obtain ⟨e, he, rfl⟩ := prepared?_eq_some_iff.mp h
  simp only [unswept, Evidence.withoutPath_of_refreshed? he]

/-- What is submitted for a ready job does not depend on the path that it had before. -/
theorem prepared?_unswept (h : j.status = .ready) : j.unswept.prepared? = j.prepared? := by
  rw [unswept_of_ne_sent (by simp [h]), prepared?, prepared?]
  simp only [Evidence.refreshed?_withoutPath]

theorem ready_of_unswept (h : j.status = .ready) (hu : j'.unswept = j.unswept) (hs : j'.status ≠ .sent) :
    j'.status = .ready := by
  have hst : j'.unswept.status = j.unswept.status := congrArg Job.status hu
  rw [unswept_of_ne_sent hs, unswept_of_ne_sent (by simp [h])] at hst
  exact hst.trans h

end Job

def Task.notification? : Task → Option Notification
  | .notify x => some x
  | .sweep _ => none

namespace Relay

variable {s s₀ : Relay} {kind : ProofKind} {n : UInt32} {j : Job Evidence}

theorem job?_notify_of_ready (h : s.Invariant) (hj : s.job? kind n = some j) (hr : j.status = .ready)
    (x : Notification) : (s.notify x).1.job? kind n = some j := by
  cases x with
  | applied t => exact hj
  | finalized b =>
    have hf : (s.notify (.finalized b)).1 = (s.finalize b).1 := rfl
    rw [hf]
    by_cases hb : s.accepts b = true
    · rw [finalize_of_accepts h.ledger hb]
      rcases job?_of_accepts h hb kind n with ⟨-, -, -, hn, -⟩ | ⟨-, ha⟩
      · simp [hj] at hn
      · have hc : (j.collect b.record).1 = j := Job.collect_of_ne _ (by simp [hr])
        have hret : JobTable.retained (s.remember b).ledger.oldest? n j = true :=
          decide_eq_true (.inl (by simp [hr]))
        rw [ha, hj, Option.map_some, hc, Option.filter_some, if_pos hret]
    · rw [(finalize_of_not_accepts (by simpa using hb)).1, hj]

theorem offers_notify (h : s.Invariant) (x : Notification) : s.offers ⊆ (s.notify x).1.offers := by
  intro y hy
  obtain ⟨j, hj, hr, hyj⟩ := (mem_offers_iff h).mp hy
  exact (mem_offers_iff (h.notify x)).mpr ⟨j, job?_notify_of_ready h hj hr x, hr, hyj⟩

def notifyAll (s : Relay) (xs : List Notification) : Relay := xs.foldl (fun s x => (s.notify x).1) s

theorem invariant_notifyAll (h : s.Invariant) (xs : List Notification) : (s.notifyAll xs).Invariant := by
  induction xs generalizing s with
  | nil => exact h
  | cons x xs ih => exact ih (h.notify x)

theorem offers_notifyAll (h : s.Invariant) (xs : List Notification) :
    s.offers ⊆ (s.notifyAll xs).offers := by
  induction xs generalizing s with
  | nil => exact List.Subset.refl _
  | cons x xs ih => exact List.Subset.trans (offers_notify h x) (ih (h.notify x))

/-- A relay that was swept, as seen from one that was not: there are no other jobs, and they differ in
what sweeps change only. -/
structure SweptFrom (s₀ s : Relay) : Prop where
  ledger : s.ledger = s₀.ledger
  deposits : s.deposits = s₀.deposits
  activeSchedule : s.activeSchedule = s₀.activeSchedule
  lastFinalized : s.lastFinalized = s₀.lastFinalized
  jobs : ∀ {kind n j}, s.job? kind n = some j → ∃ j₀, s₀.job? kind n = some j₀ ∧
    j₀.unswept = j.unswept ∧ (j₀.status = .sent → j.status = .sent)

namespace SweptFrom

theorem refl (s : Relay) : s.SweptFrom s := ⟨rfl, rfl, rfl, rfl, fun hj => ⟨_, hj, rfl, id⟩⟩

theorem opening? (h : s₀.SweptFrom s) (b : FinalizedBlock) (kind : ProofKind) :
    (s.remember b).opening? b.record kind = (s₀.remember b).opening? b.record kind := by
  have ha : (s.remember b).anchor? b.record = (s₀.remember b).anchor? b.record := by
    simp only [Relay.anchor?, Relay.remember, h.ledger]
  have hs : (s.remember b).activeSchedule = (s₀.remember b).activeSchedule := h.activeSchedule
  have hd : (s.remember b).deposits = (s₀.remember b).deposits := h.deposits
  cases kind with
  | schedule => simp only [Relay.opening?, scheduleOpening?, ha, hs]
  | deposit => simp only [Relay.opening?, depositOpening?, ha, hd]

theorem accepts (h : s₀.SweptFrom s) (b : FinalizedBlock) : s.accepts b = s₀.accepts b := by
  simp only [Relay.accepts, isStale_congr h.lastFinalized, h.ledger]

theorem accept (h : s₀.SweptFrom s) (hi₀ : s₀.Invariant) (hi : s.Invariant) {b : FinalizedBlock}
    (hb : s.accepts b = true) :
    ((s₀.remember b).accept b.record).1.SweptFrom ((s.remember b).accept b.record).1 := by
  have hr : (s.remember b).ledger = (s₀.remember b).ledger := by simp only [Relay.remember, h.ledger]
  have hd : (s.remember b).deposits = (s₀.remember b).deposits := h.deposits
  have hs : (s.remember b).activeSchedule = (s₀.remember b).activeSchedule := h.activeSchedule
  refine ⟨?_, ?_, ?_, ?_, fun {kind n j} hj => ?_⟩
  · rw [accept_fst, accept_fst, hr]
  · simp only [accept_fst, hd]
  · simp only [accept_fst, hs]
  · simp only [accept_fst]
    rfl
  · rw [job?_accept_eq hi hb, h.opening?, hr] at hj
    rw [job?_accept_eq hi₀ (h.accepts b ▸ hb)]
    rcases Option.or_eq_some_iff.mp hj with ho | ⟨hn, hf⟩
    · exact ⟨j, by rw [ho, Option.some_or], rfl, id⟩
    · obtain ⟨hm, hret⟩ := Option.filter_eq_some_iff.mp hf
      obtain ⟨i, hi, rfl⟩ := Option.map_eq_some_iff.mp hm
      obtain ⟨i₀, hi₀, hu, hsent⟩ := h.jobs hi
      have hsent' : (i₀.collect b.record).1.status = .sent → (i.collect b.record).1.status = .sent := by
        rw [Job.status_collect_sent, Job.status_collect_sent]
        exact hsent
      have hret' : JobTable.retained (s₀.remember b).ledger.oldest? n (i₀.collect b.record).1 = true := by
        rcases of_decide_eq_true hret with hne | hall
        · exact decide_eq_true (.inl fun he => hne (hsent' he))
        · exact decide_eq_true (.inr hall)
      refine ⟨(i₀.collect b.record).1, ?_, ?_, hsent'⟩
      · rw [hn, Option.none_or, hi₀, Option.map_some, Option.filter_some, if_pos hret']
      · rw [Job.unswept_collect, Job.unswept_collect, hu]

theorem notify (h : s₀.SweptFrom s) (hi₀ : s₀.Invariant) (hi : s.Invariant) (x : Notification) :
    (s₀.notify x).1.SweptFrom (s.notify x).1 := by
  cases x with
  | applied t =>
    have hd : (s.deposits.apply t).1 = (s₀.deposits.apply t).1 := by rw [h.deposits]
    exact ⟨h.ledger, hd, h.activeSchedule, h.lastFinalized, fun hj => h.jobs hj⟩
  | finalized b =>
    simp only [Relay.notify]
    by_cases hb : s.accepts b = true
    · rw [finalize_of_accepts hi.ledger hb, finalize_of_accepts hi₀.ledger (h.accepts b ▸ hb)]
      exact h.accept hi₀ hi hb
    · have hb : s.accepts b = false := by simpa using hb
      rw [(finalize_of_not_accepts hb).1, (finalize_of_not_accepts (h.accepts b ▸ hb)).1]
      exact h

theorem sweep (h : s₀.SweptFrom s) (hi : s.Invariant) (answers : Nat → Answer) :
    s₀.SweptFrom (s.sweep answers).relay := by
  have hf := s.frame_sweep answers
  refine ⟨hf.ledger.trans h.ledger, hf.deposits.trans h.deposits,
    hf.activeSchedule.trans h.activeSchedule, hf.lastFinalized.trans h.lastFinalized,
    fun {kind n j'} hj' => ?_⟩
  have hw := swept hi.indexed answers kind n
  rw [hj'] at hw
  obtain ⟨j, hj⟩ := hw.exists_before
  obtain ⟨j₀, hj₀, hu, hsent⟩ := h.jobs hj
  rw [hj] at hw
  generalize ((s.sweep answers).attempts answers).filter (·.isAbout kind n) = as at hw
  -- A job that cannot be prepared is dropped here, and is the other relay's only from now on.
  cases hw with
  | resting => exact ⟨j₀, hj₀, hu, hsent⟩
  | attempted a hr hp =>
    refine ⟨j₀, hj₀, ?_, fun hs => absurd (hsent hs) (by simp [hr])⟩
    rw [Job.unswept_answered, Job.unswept_prepared hp, hu]

theorem offers (h : s₀.SweptFrom s) (hi₀ : s₀.Invariant) (hi : s.Invariant) : s.offers ⊆ s₀.offers := by
  intro x hx
  obtain ⟨j, hj, hr, hxj⟩ := (mem_offers_iff hi).mp hx
  obtain ⟨j₀, hj₀, hu, hsent⟩ := h.jobs hj
  have hr₀ : j₀.status = .ready := Job.ready_of_unswept hr hu fun hs => by simp [hsent hs] at hr
  refine (mem_offers_iff hi₀).mpr ⟨j₀, hj₀, hr₀, ?_⟩
  rw [← Job.prepared?_unswept hr₀, hu, Job.prepared?_unswept hr, hxj]

/-- Whatever the sweeps and their answers, they submit what the relay without them would offer in the
end. -/
theorem run (h : s₀.SweptFrom s) (hi₀ : s₀.Invariant) (hi : s.Invariant) (tasks : List Task) :
    let unswept := s₀.notifyAll (tasks.filterMap Task.notification?)
    unswept.SweptFrom (s.last (s.run (tasks.map .task))) ∧
      ∀ a ∈ (s.run (tasks.map .task)).flatMap Turn.attempts, a.submission ∈ unswept.offers := by
  induction tasks generalizing s₀ s with
  | nil => exact ⟨h, by simp [Relay.run]⟩
  | cons task tasks ih =>
    have hrun : s.run ((task :: tasks).map .task) =
        s.handle task :: (s.handle task).after.run (tasks.map .task) := rfl
    intro unswept
    rw [hrun, last_cons]
    cases task with
    | notify x =>
      obtain ⟨hl, ha⟩ := ih (h.notify hi₀ hi x) (hi₀.notify x) (hi.notify x)
      exact ⟨hl, ha⟩
    | sweep answers =>
      obtain ⟨hl, ha⟩ := ih (h.sweep hi answers) hi₀ (hi.sweep answers)
      refine ⟨hl, fun a hm => ?_⟩
      -- What is offered now is offered in the end, since no ready job changes without a sweep.
      rcases List.mem_append.mp hm with hm | hm
      · have hx := Sweep.submission_mem_of_attempt hm
        rw [submissions_sweep hi.indexed] at hx
        exact offers_notifyAll hi₀ _ (h.offers hi₀ hi hx)
      · exact ha a hm

end SweptFrom

/-- Relays that differ in what sweeps change only: in the acceptance of jobs, in their paths, and in
which of them are left. -/
structure SameEvidence (s s' : Relay) : Prop where
  ledger : s'.ledger = s.ledger
  deposits : s'.deposits = s.deposits
  activeSchedule : s'.activeSchedule = s.activeSchedule
  lastFinalized : s'.lastFinalized = s.lastFinalized
  jobs : ∀ {kind n j j'}, s.job? kind n = some j → s'.job? kind n = some j' → j'.unswept = j.unswept

theorem SweptFrom.sameEvidence {s' : Relay} (h : s₀.SweptFrom s) (h' : s₀.SweptFrom s') :
    s.SameEvidence s' where
  ledger := h'.ledger.trans h.ledger.symm
  deposits := h'.deposits.trans h.deposits.symm
  activeSchedule := h'.activeSchedule.trans h.activeSchedule.symm
  lastFinalized := h'.lastFinalized.trans h.lastFinalized.symm
  jobs {kind n j j'} hj hj' := by
    obtain ⟨i, hi, hu, -⟩ := h.jobs hj
    obtain ⟨i', hi', hu', -⟩ := h'.jobs hj'
    rw [← hu, ← hu', Option.some.inj (hi'.symm.trans hi)]

/-- However sweeps are placed among the same notifications and whatever is answered, the evidence in
the end is the same, and so is all that is ever submitted for a subject. -/
theorem sweeps_immaterial (tokenContract bridgeAccount : Name) (capacity : Nat) (before : List Input)
    {tasks tasks' : List Task}
    (h : tasks'.filterMap Task.notification? = tasks.filterMap Task.notification?) :
    let fresh := start tokenContract bridgeAccount capacity
    let s := fresh.last (fresh.run before)
    let turns := s.run (tasks.map .task)
    let turns' := s.run (tasks'.map .task)
    (s.last turns).SameEvidence (s.last turns') ∧
      ∀ a ∈ (turns ++ turns').flatMap Turn.attempts, ∀ a' ∈ (turns ++ turns').flatMap Turn.attempts,
        a'.submission.kind = a.submission.kind → a'.submission.subject = a.submission.subject →
          a'.submission = a.submission := by
  intro fresh s turns turns'
  have hi : s.Invariant := invariant_last (invariant_start _ _ _) before
  obtain ⟨hl, ha⟩ := (SweptFrom.refl s).run hi hi tasks
  obtain ⟨hl', ha'⟩ := (SweptFrom.refl s).run hi hi tasks'
  rw [h] at hl' ha'
  have hoffers : ∀ a ∈ (turns ++ turns').flatMap Turn.attempts,
      a.submission ∈ (s.notifyAll (tasks.filterMap Task.notification?)).offers := by
    intro a hm
    rw [List.flatMap_append] at hm
    rcases List.mem_append.mp hm with hm | hm
    · exact ha a hm
    · exact ha' a hm
  refine ⟨hl.sameEvidence hl', fun a hm a' hm' hk hn => ?_⟩
  exact eq_of_mem_offers (invariant_notifyAll hi _) (hoffers a hm) (hoffers a' hm') hk hn

end Relay

namespace Sample

/-- Three linked blocks, the last of which announces a schedule. -/
def announced : List Task :=
  [plainBlock 1 none, plainBlock 2 none, plainBlock 3 (some ⟨1, []⟩)].map
    fun b => .notify (.finalized b)

/-- A block that is too far away for every window, which makes all jobs ready. -/
def farBlock : Task := .notify (.finalized (plainBlock 200 none))

def swept : List Task :=
  announced ++ [farBlock, .sweep fun _ => .rejected "", .sweep fun _ => .accepted ""]

def sweptTooEarly : List Task :=
  announced ++ [.sweep fun _ => .accepted "", farBlock, .sweep fun _ => .failed ""]

end Sample

theorem Relay.resubmission_of_announced :
    Sample.sweptTooEarly.filterMap Task.notification? = Sample.swept.filterMap Task.notification? ∧
      let s := start default default 5
      let turns := s.run (Sample.swept.map .task)
      let turns' := s.run (Sample.sweptTooEarly.map .task)
      ∃ a ∈ turns.flatMap Turn.attempts, ∃ a' ∈ turns'.flatMap Turn.attempts,
        a'.answer ≠ a.answer ∧ a'.submission = a.submission := by
  have hn : Sample.sweptTooEarly.filterMap Task.notification? =
      Sample.swept.filterMap Task.notification? := rfl
  refine ⟨hn, ?_⟩
  intro s turns turns'
  have hex : ∃ a ∈ turns.flatMap Turn.attempts, ∃ a' ∈ turns'.flatMap Turn.attempts,
      a'.answer ≠ a.answer ∧ a'.submission.kind = a.submission.kind ∧
        a'.submission.subject = a.submission.subject := by
    decide +kernel
  obtain ⟨a, ha, a', ha', hne, hk, hs⟩ := hex
  refine ⟨a, ha, a', ha', hne, (sweeps_immaterial default default 5 [] hn).2 a ?_ a' ?_ hk hs⟩
  · rw [List.flatMap_append]
    exact List.mem_append_left _ ha
  · rw [List.flatMap_append]
    exact List.mem_append_right _ ha'

end FinalityRelay
