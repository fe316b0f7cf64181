import FinalityRelay.Proofs.History
import FinalityRelay.Proofs.JobLife
import FinalityRelay.Sample.Chain

/-! The schedules that accepted blocks announce, one after the other. The proof of each carries the
digest of the one announced before it, whatever became of the job of that. -/

namespace FinalityRelay

/-- The schedules that some blocks announce, each with the number of its block. -/
def announcements (bs : List FinalizedBlock) : List (UInt32 × Schedule) :=
  bs.filterMap fun b => b.header.header.announced?.map fun schedule => (b.number, schedule)

theorem announcements_append (bs cs : List FinalizedBlock) :
    announcements (bs ++ cs) = announcements bs ++ announcements cs :=
  List.filterMap_append

theorem announcements_singleton (b : FinalizedBlock) : announcements [b] =
    (b.header.header.announced?.map fun schedule => (b.number, schedule)).toList := by
  rw [announcements, List.filterMap_cons]
  cases b.header.header.announced? <;> rfl

theorem pairwise_announcements {bs : List FinalizedBlock} (h : bs.Pairwise (·.number < ·.number)) :
    (announcements bs).Pairwise (·.1 < ·.1) := by
  refine List.Pairwise.filterMap _ (fun a b hab x hx y hy => ?_) h
  obtain ⟨_, -, rfl⟩ := Option.map_eq_some_iff.mp hx
  obtain ⟨_, -, rfl⟩ := Option.map_eq_some_iff.mp hy
  exact hab

/-- The schedule is that announced in block `n`, and the digest is of the one announced before. -/
def ScheduleEvidence.Succeeds (as : List (UInt32 × Schedule)) (n : UInt32) (e : ScheduleEvidence) :
    Prop :=
  ∃ front rest, as = front ++ (n, e.schedule) :: rest ∧
    e.legacyHash = front.getLast?.map fun a => a.2.digest

theorem ScheduleEvidence.Succeeds.append {as : List (UInt32 × Schedule)} {n : UInt32}
    {e : ScheduleEvidence} (h : e.Succeeds as n) (more : List (UInt32 × Schedule)) :
    e.Succeeds (as ++ more) n := by
  obtain ⟨front, rest, rfl, hl⟩ := h
  exact ⟨front, rest ++ more, by simp, hl⟩

theorem Job.evidence_eq_of_dossier {j j' : Job Evidence} {e : ScheduleEvidence}
    (hd : j'.dossier = j.dossier) (he : j'.evidence = .schedule e) : j.evidence = .schedule e := by
  have hw : j'.evidence.withoutPath = j.evidence.withoutPath := congrArg Dossier.evidence hd
  rw [he] at hw
  cases hj : j.evidence with
  | schedule e' => rwa [hj, eq_comm] at hw
  | deposit d => simp [hj, Evidence.withoutPath] at hw

theorem Job.evidence_of_submission {j : Job Evidence} {x : ScheduleSubmission}
    (h : j.submission = .schedule x) : j.evidence = .schedule ⟨x.schedule, x.legacyHash⟩ := by
  unfold submission at h
  split at h
  · rename_i e he
    rw [he, ← Submission.schedule.inj h]
    rfl
  · simp at h

/-- A relay that has seen some announcements. -/
structure Relay.Succession (as : List (UInt32 × Schedule)) (s : Relay) : Prop where
  active : s.activeSchedule = as.getLast?.map Prod.snd
  jobs : ∀ {n j e}, s.job? .schedule n = some j → j.evidence = .schedule e → e.Succeeds as n

namespace Turn

variable {t : Turn} {bs : List FinalizedBlock}

theorem Valid.activeSchedule (ht : t.Valid) (h : t.before.Invariant) :
    t.after.activeSchedule =
      (t.accepted?.bind fun b => b.header.header.announced?).or t.before.activeSchedule := by
  cases ht.effect h with
  | ignored accepted after => simp [accepted, after]
  | applied x input after => simp [accepted?_of_applied input, after, Relay.apply]
  | block b input accepts after =>
    rw [accepted?_of_accepts input accepts, after, Relay.accept_fst, b.announced?_record]
    rfl
  | sweep answers input after =>
    simp [accepted?_of_sweep input, after, (t.before.frame_sweep answers).activeSchedule]
  | restart _ _ _ input after =>
    simp [accepted?_of_restart input, after, Relay.successor]

theorem succeeds_of_opening {s : Relay} {as : List (UInt32 × Schedule)} {b : FinalizedBlock}
    {j : Job Evidence} {e : ScheduleEvidence} (h : s.Succession as)
    (hj : (s.remember b).opening? b.record .schedule = some j) (he : j.evidence = .schedule e) :
    e.Succeeds (as ++ announcements [b]) b.number := by
  obtain ⟨i, hi, rfl⟩ := Option.map_eq_some_iff.mp hj
  simp only [Relay.scheduleOpening?, Option.bind_eq_some_iff, Option.map_eq_some_iff,
    b.announced?_record] at hi
  obtain ⟨schedule, hs, anchor, -, rfl⟩ := hi
  have hactive : (s.remember b).activeSchedule = as.getLast?.map Prod.snd := h.active
  obtain rfl := Evidence.schedule.inj he
  refine ⟨as, [], ?_, ?_⟩
  · rw [announcements_singleton, hs]
    rfl
  · simp only [Job.ofSubject, hactive, Option.map_map]
    rfl

theorem Valid.succession (ht : t.Valid) (hi : t.before.Invariant)
    (h : t.before.Succession (announcements bs)) :
    t.after.Succession (announcements (bs ++ t.accepted?.toList)) := by
  rw [announcements_append]
  refine ⟨?_, fun {n j e} hj he => ?_⟩
  · rw [ht.activeSchedule hi, h.active]
    cases hb : t.accepted? with
    | none => simp [announcements]
    | some b =>
      rw [Option.toList_some, announcements_singleton, Option.bind_some]
      cases hs : b.header.header.announced? <;> simp
  · -- an old job keeps its evidence while announcements are added behind its own
    cases hb : t.before.job? .schedule n with
    | some i =>
      have hs := ht.jobStep hi .schedule n
      rw [hb, hj] at hs
      exact (h.jobs hb (Job.evidence_eq_of_dossier hs.dossier he)).append _
    | none =>
      obtain ⟨b, haccepted, -, rfl, ho, -⟩ := ht.opening_of_appears hi hb hj
      rw [haccepted, Option.toList_some]
      exact succeeds_of_opening h ho he

end Turn

namespace Relay

/-- The active schedule is the one that was announced last. Every schedule job, and every schedule that
is submitted, carries the schedule announced in its block and the digest of the one before that. -/
theorem schedules_succeed (tokenContract bridgeAccount : Name) (capacity : Nat)
    (inputs : List Input) :
    let s := start tokenContract bridgeAccount capacity
    let turns := s.run inputs
    let as := announcements (acceptedBlocks turns)
    as.Pairwise (·.1 < ·.1) ∧
      (s.last turns).activeSchedule = as.getLast?.map Prod.snd ∧
      (∀ n j, (s.last turns).scheduleJobs.get? n = some j → j.evidence.Succeeds as n) ∧
      ∀ (past : List Turn) t future, turns = past ++ t :: future → ∀ a ∈ t.attempts, ∀ x,
        a.submission = .schedule x →
          ScheduleEvidence.Succeeds (announcements (acceptedBlocks past)) x.subject
            ⟨x.schedule, x.legacyHash⟩ := by
  intro s turns as
  have hstart : s.Recalls (acceptedBlocks []) ∧ s.Succession (announcements (acceptedBlocks [])) := by
    refine ⟨recalls_start tokenContract bridgeAccount capacity, rfl, fun {n j e} hj => ?_⟩
    simp [s] at hj
  have hstep : ∀ ts t, Turn.Valid t →
      t.before.Recalls (acceptedBlocks ts) ∧ t.before.Succession (announcements (acceptedBlocks ts)) →
      t.after.Recalls (acceptedBlocks (ts ++ [t])) ∧
        t.after.Succession (announcements (acceptedBlocks (ts ++ [t]))) := by
    intro ts t hv h
    rw [acceptedBlocks_snoc]
    exact ⟨hv.recalls h.1, hv.succession h.1.invariant h.2⟩
  obtain ⟨hr, hs⟩ := run_induction (P := fun ts s => s.Recalls (acceptedBlocks ts) ∧
    s.Succession (announcements (acceptedBlocks ts))) hstart hstep inputs
  refine ⟨pairwise_announcements hr.ascending, hs.active, fun n j hj => ?_, ?_⟩
  · exact hs.jobs (congrArg (Option.map (Job.map Evidence.schedule)) hj) rfl
  · intro past t future hrun a ha x hx
    obtain ⟨hv, hr, hs⟩ := run_before (P := fun ts s => s.Recalls (acceptedBlocks ts) ∧
      s.Succession (announcements (acceptedBlocks ts))) hstart hstep hrun
    obtain ⟨j, j', hj, -, hp, hsub⟩ := hv.job_of_attempt hr.invariant ha
    rw [hx] at hj hsub
    exact hs.jobs hj (Job.evidence_eq_of_dossier (Job.dossier_prepared hp)
      (Job.evidence_of_submission hsub.symm))

end Relay

namespace Sample

/-- Two announcements, the first of which has no anchor, and a restart between them. -/
def renewal : List Input :=
  [.task (.notify (.finalized (plainBlock 1 (some ⟨1, []⟩)))), .restart default default 5,
    .task (.notify (.finalized (plainBlock 2 none))),
    .task (.notify (.finalized (plainBlock 3 (some ⟨2, []⟩))))]

end Sample

theorem Relay.succession_of_renewal :
    let s := start default default 5
    (s.last (s.run Sample.renewal)).scheduleJobs.get? 1 = none ∧
      ∃ j, (s.last (s.run Sample.renewal)).scheduleJobs.get? 3 = some j ∧
        j.evidence = ⟨⟨2, []⟩, some (Schedule.digest ⟨1, []⟩)⟩ := by
  intro s
  have hnone : (s.last (s.run Sample.renewal)).scheduleJobs.get? 1 = none := by decide +kernel
  have hsome : ((s.last (s.run Sample.renewal)).scheduleJobs.get? 3).isSome := by decide +kernel
  have has : announcements (acceptedBlocks (s.run Sample.renewal)) =
      [(1, ⟨1, []⟩), (3, ⟨2, []⟩)] := by
    decide +kernel
  obtain ⟨j, hj⟩ := Option.isSome_iff_exists.mp hsome
  obtain ⟨front, rest, hsplit, hlegacy⟩ :=
    (schedules_succeed default default 5 Sample.renewal).2.2.1 3 j hj
  refine ⟨hnone, j, hj, ?_⟩
  have hpair := has.symm.trans hsplit
  cases front with
  | nil => simp at hpair
  | cons a front =>
    obtain ⟨rfl, htail⟩ := List.cons.inj hpair
    cases front with
    | nil =>
      obtain ⟨he, -⟩ := List.cons.inj htail
      have hj' : j.evidence = ⟨j.evidence.schedule, j.evidence.legacyHash⟩ := rfl
      rw [hj', hlegacy, ← (Prod.mk.inj he).2]
      rfl
    | cons a' front => simp at htail

end FinalityRelay
