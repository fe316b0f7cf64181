import FinalityRelay.Proofs.Run

/-! The life of a job. A block that a relay has accepted never opens a job again, so each kind and
subject has at most one job in a run. It moves forward only, and no attempt follows its acceptance. -/

namespace FinalityRelay

/-- What a turn can do to the job of one kind and subject, with its attempts for that job. -/
inductive JobStep : Option (Job Evidence) → List Attempt → Option (Job Evidence) → Prop
  | kept {o} : JobStep o [] o
  | opened {j} (h : j.status = .collecting) : JobStep none [] (some j)
  | collected {j} (r : BlockRecord) : JobStep (some j) [] (some (j.collect r).1)
  | pruned {j} (h : j.status = .sent) : JobStep (some j) [] none
  | swept {o as o'} (h : Swept o as o') : JobStep o as o'

namespace JobStep

variable {o o' : Option (Job Evidence)} {as : List Attempt} {j j' : Job Evidence}

theorem length_le (h : JobStep o as o') : as.length ≤ 1 := by
  cases h with
  | swept h => cases h <;> simp
  | _ => simp

theorem status (h : JobStep (some j) as (some j')) :
    j'.status = j.status ∨ j.status = .collecting ∧ j'.status = .ready ∨
      j.status = .ready ∧ j'.status = .sent := by
  cases h with
  | kept => exact .inl rfl
  | collected r =>
    by_cases hc : j.status = .collecting
    · rcases j.status_collect r hc with hs | hs <;> simp [hc, hs]
    · rw [Job.collect_of_ne r hc]
      exact .inl rfl
  | swept h =>
    cases h with
    | resting => exact .inl rfl
    | attempted a hr hp =>
      rw [Job.status_answered ((Job.status_prepared hp).trans hr), hr]
      split <;> simp

theorem sent_iff (h : JobStep o as o') :
    (∃ j j', o = some j ∧ o' = some j' ∧ j.status ≠ .sent ∧ j'.status = .sent) ↔
      ∃ a ∈ as, a.answer.isAccepted = true := by
  cases h with
  | kept =>
    simp only [List.not_mem_nil, false_and, exists_false, iff_false]
    rintro ⟨j, j', rfl, he, hn, hs⟩
    exact hn (Option.some.inj he ▸ hs)
  | opened => simp
  | collected r =>
    simp only [List.not_mem_nil, false_and, exists_false, iff_false]
    rintro ⟨j, j', hj, he, hn, hs⟩
    obtain rfl := Option.some.inj hj
    obtain rfl := Option.some.inj he
    exact hn ((Job.status_collect_sent _ r).mp hs)
  | pruned => simp
  | swept h =>
    cases h with
    | resting =>
      simp only [List.not_mem_nil, false_and, exists_false, iff_false]
      rintro ⟨j, j', rfl, he, hn, hs⟩
      exact hn (Option.some.inj he ▸ hs)
    | unprovable => simp
    | attempted a hr hp =>
      have hs := Job.status_answered ((Job.status_prepared hp).trans hr) a
      by_cases ha : a.isAccepted = true <;> simp [hs, ha, hr]

theorem dossier (h : JobStep (some j) as (some j')) : j'.dossier = j.dossier := by
  cases h with
  | kept => rfl
  | collected r => exact Job.dossier_collect j r
  | swept h => exact h.dossier

theorem of_none (h : JobStep none as o') : as = [] := by
  cases h with
  | kept => rfl
  | opened => rfl
  | swept h =>
    cases h
    rfl

theorem of_sent (h : JobStep (some j) as o') (hj : j.status = .sent) :
    as = [] ∧ ∀ j', o' = some j' → j'.status = .sent := by
  cases h with
  | kept => exact ⟨rfl, fun j' he => Option.some.inj he ▸ hj⟩
  | collected r => exact ⟨rfl, fun j' he => Option.some.inj he ▸ (Job.status_collect_sent j r).mpr hj⟩
  | pruned => exact ⟨rfl, fun j' he => by simp at he⟩
  | swept h =>
    cases h with
    | resting => exact ⟨rfl, fun j' he => Option.some.inj he ▸ hj⟩
    | unprovable hr => simp [hj] at hr
    | attempted a hr => simp [hj] at hr

end JobStep

/-- A relay that opens no more job of this kind and subject, and whose job of them, if any, is as
told. -/
def Relay.Holds (s : Relay) (kind : ProofKind) (n : UInt32) (p : Job Evidence → Prop) : Prop :=
  s.isStale n = true ∧ ∀ j, s.job? kind n = some j → p j

namespace Turn

variable {t : Turn} {kind : ProofKind} {n : UInt32}

theorem Valid.jobStep (ht : t.Valid) (h : t.before.Invariant) (kind : ProofKind) (n : UInt32) :
    JobStep (t.before.job? kind n) (t.attempts.filter (·.isAbout kind n)) (t.after.job? kind n) := by
  cases ht.shape h with
  | quiet jobs _ attempts =>
    rw [jobs, attempts]
    exact .kept
  | block b _ accepts after attempts =>
    rw [after, attempts]
    rcases Relay.job?_of_accepts h accepts kind n with ⟨j, ho, -, hb, ha⟩ | ⟨-, ha⟩
    · obtain ⟨_, -, he⟩ := Relay.opening?_eq_some ho
      rw [hb, ha]
      exact .opened (by rw [he]; rfl)
    · rw [ha]
      cases hj : t.before.job? kind n with
      | none => exact .kept
      | some j =>
        rw [Option.map_some, Option.filter_some]
        by_cases hr : JobTable.retained (t.before.remember b).ledger.oldest? n
            (j.collect b.record).1 = true
        · rw [if_pos hr]
          exact .collected b.record
        · rw [if_neg hr]
          refine .pruned ?_
          simp only [JobTable.retained, decide_eq_true_eq, not_or, not_not] at hr
          exact (Job.status_collect_sent j b.record).mp hr.1
  | sweep answers _ after attempts =>
    rw [after, attempts]
    exact .swept (Relay.swept h.indexed answers kind n)

/-- A block opens jobs of its own number, which was not stale, and where there are none. -/
theorem Valid.of_opens (ht : t.Valid) (h : t.before.Invariant) (ho : t.opens kind n = true) :
    t.before.isStale n = false ∧ t.before.job? kind n = none ∧
      ∃ j, t.after.job? kind n = some j ∧ j.subject = n ∧ j.status = .collecting := by
  have ho : (kind, n) ∈ t.events.filterMap Event.opened? := of_decide_eq_true ho
  cases ht.shape h with
  | quiet _ _ _ opened => simp [opened] at ho
  | sweep _ _ _ _ opened => simp [opened] at ho
  | block b _ accepts after _ events =>
    rw [events, Relay.mem_opened_accept] at ho
    obtain ⟨hn, hs⟩ := ho
    obtain ⟨j, hj⟩ := Option.isSome_iff_exists.mp hs
    have hst := ((t.before.accepts_iff b).mp accepts).1
    have hbn : b.number = n := hn
    rw [after]
    rcases Relay.job?_of_accepts h accepts kind n with ⟨i, hi, -, hb, ha⟩ | ⟨hne, -⟩
    · obtain ⟨_, -, he⟩ := Relay.opening?_eq_some hi
      exact ⟨hbn ▸ hst, hb, i, ha, by rw [he]; exact hbn, by rw [he]; rfl⟩
    · exact absurd hbn (hne j hj)

theorem Valid.opens_of_appears (ht : t.Valid) (h : t.before.Invariant)
    (hb : t.before.job? kind n = none) (ha : (t.after.job? kind n).isSome) : t.opens kind n = true := by
  obtain ⟨j, hj⟩ := Option.isSome_iff_exists.mp ha
  refine decide_eq_true ?_
  cases ht.shape h with
  | quiet jobs => simp [← jobs, hj] at hb
  | sweep answers _ after =>
    have hw := Relay.swept h.indexed answers kind n
    rw [← after, hj] at hw
    obtain ⟨i, hi⟩ := hw.exists_before
    simp [hb] at hi
  | block b _ accepts after _ events =>
    rw [events, Relay.mem_opened_accept]
    rw [after] at hj
    rcases Relay.job?_of_accepts h accepts kind n with ⟨i, hi, hn, -, -⟩ | ⟨-, he⟩
    · exact ⟨hn, by simp [hi]⟩
    · rw [he, hb] at hj
      simp at hj

/-- A job that appears is that of the block which the turn accepts. -/
theorem Valid.opening_of_appears {j : Job Evidence} (ht : t.Valid) (h : t.before.Invariant)
    (hb : t.before.job? kind n = none) (ha : t.after.job? kind n = some j) :
    ∃ b, t.accepted? = some b ∧ t.before.accepts b = true ∧ b.number = n ∧
      (t.before.remember b).opening? b.record kind = some j ∧
      t.events = ((t.before.remember b).accept b.record).2 := by
  cases ht.shape h with
  | quiet jobs => simp [← jobs, ha] at hb
  | sweep answers _ after =>
    have hw := Relay.swept h.indexed answers kind n
    rw [← after, ha] at hw
    obtain ⟨i, hi⟩ := hw.exists_before
    simp [hb] at hi
  | block b input accepts after _ events =>
    rw [after] at ha
    rcases Relay.job?_of_accepts h accepts kind n with ⟨i, hi, hn, -, he⟩ | ⟨-, he⟩
    · rw [he] at ha
      exact ⟨b, accepted?_of_accepts input accepts, accepts, hn, Option.some.inj ha ▸ hi, events⟩
    · rw [he, hb] at ha
      simp at ha

/-- Attempts are made for ready jobs, in sweeps only. -/
theorem Valid.job_of_attempt {a : Attempt} (ht : t.Valid) (h : t.before.Invariant)
    (ha : a ∈ t.attempts) :
    ∃ j j', t.before.job? a.submission.kind a.submission.subject = some j ∧ j.status = .ready ∧
      j.prepared? = some j' ∧ a.submission = j'.submission := by
  cases ht.shape h with
  | quiet _ _ attempts => simp [attempts] at ha
  | block _ _ _ _ attempts => simp [attempts] at ha
  | sweep answers _ _ attempts =>
    rw [attempts] at ha
    exact Relay.exists_job_of_submission h (Sweep.submission_mem_of_attempt ha)

theorem Valid.isStale (ht : t.Valid) (h : t.before.Invariant) (hn : t.before.isStale n = true) :
    t.after.isStale n = true := by
  cases ht.shape h with
  | quiet _ last => exact Relay.isStale_congr last n ▸ hn
  | block b _ accepts after =>
    rw [after, Relay.isStale_congr (Relay.lastFinalized_accept _ _)]
    exact Relay.isStale_remember_of_isStale accepts hn
  | sweep answers _ after =>
    rw [after, Relay.isStale_congr (t.before.frame_sweep answers).lastFinalized]
    exact hn

/-- A property of jobs that no turn breaks holds on, since no new job can take the place of the old. -/
theorem Valid.holds {p : Job Evidence → Prop} (ht : t.Valid) (h : t.before.Invariant)
    (hstep : ∀ j as j', JobStep (some j) as (some j') → p j → p j')
    (hp : t.before.Holds kind n p) : t.after.Holds kind n p := by
  refine ⟨ht.isStale h hp.1, fun j' hj' => ?_⟩
  have hs := ht.jobStep h kind n
  rw [hj'] at hs
  cases hb : t.before.job? kind n with
  | none =>
    have ho := ht.opens_of_appears h hb (by simp [hj'])
    exact absurd ((ht.of_opens h ho).1.symm.trans hp.1) Bool.false_ne_true
  | some j => exact hstep j _ j' (hb ▸ hs) (hp.2 j hb)

theorem Valid.of_leaves {j : Job Evidence} (ht : t.Valid) (h : t.before.Invariant)
    (hb : t.before.job? kind n = some j) (ha : t.after.job? kind n = none) :
    (j.status = .sent ∧ (∃ b, t.input = .task (.notify (.finalized b))) ∧
      ∃ oldest, t.after.ledger.oldest? = some oldest ∧ n < oldest) ∨
    (kind = .deposit ∧ j.status = .ready ∧ (∃ answers, t.input = .task (.sweep answers)) ∧
      j.evidence.refreshed? = none) := by
  cases ht.shape h with
  | quiet jobs => simp [← jobs, ha] at hb
  | block b input accepts after =>
    refine .inl ?_
    rw [after] at ha
    rcases Relay.job?_of_accepts h accepts kind n with ⟨i, -, -, -, he⟩ | ⟨-, he⟩
    · simp [ha] at he
    · rw [ha, hb, Option.map_some, eq_comm, Option.filter_some] at he
      have hr : ¬ JobTable.retained (t.before.remember b).ledger.oldest? n
          (j.collect b.record).1 = true := by
        intro hr
        simp [hr] at he
      simp only [JobTable.retained, decide_eq_true_eq, not_or, not_not, not_forall] at hr
      obtain ⟨hs, oldest, ho, hlt⟩ := hr
      refine ⟨(Job.status_collect_sent j b.record).mp hs, ⟨b, input⟩, oldest, ?_,
        UInt32.not_le.mp hlt⟩
      rw [after, Relay.accept_fst]
      exact ho
  | sweep answers input after =>
    refine .inr ?_
    have hw := Relay.swept h.indexed answers kind n
    rw [← after, ha, hb] at hw
    obtain ⟨hr, hp⟩ := hw.of_gone
    have he : j.evidence.refreshed? = none := by simpa [Job.prepared?] using hp
    refine ⟨?_, hr, ⟨answers, input⟩, he⟩
    obtain ⟨d, hd, -⟩ := Evidence.refreshed?_eq_none_iff.mp he
    rw [← Relay.kind_of_job? hb, hd]
    rfl

end Turn

/-- The life of the job of one kind and subject over the turns of a run. -/
structure SingleLife (turns : List Turn) (kind : ProofKind) (n : UInt32) : Prop where
  /-- At most one job is opened. -/
  opened_once : (turns.filter (·.opens kind n)).length ≤ 1
  /-- It takes the place of no other job, and starts to collect. -/
  opened_fresh : ∀ t ∈ turns, t.opens kind n = true → t.before.job? kind n = none ∧
    ∃ j, t.after.job? kind n = some j ∧ j.subject = n ∧ j.status = .collecting
  /-- There is no job that was not opened. -/
  opened_only : ∀ t ∈ turns, t.before.job? kind n = none → (t.after.job? kind n).isSome →
    t.opens kind n = true
  /-- Its status moves forward only. -/
  advances : ∀ t ∈ turns, ∀ j j', t.before.job? kind n = some j → t.after.job? kind n = some j' →
    j'.status = j.status ∨ j.status = .collecting ∧ j'.status = .ready ∨
      j.status = .ready ∧ j'.status = .sent
  /-- It becomes sent in the turn in which an attempt for it is accepted. -/
  sent_iff : ∀ t ∈ turns,
    (∃ j j', t.before.job? kind n = some j ∧ t.after.job? kind n = some j' ∧
      j.status ≠ .sent ∧ j'.status = .sent) ↔
    ∃ a ∈ t.attempts, a.isAbout kind n = true ∧ a.answer.isAccepted = true
  /-- No attempt for it follows an accepted one. -/
  settled : (turns.flatMap Turn.attempts).Pairwise fun a a' =>
    ¬(a.isAbout kind n = true ∧ a.answer.isAccepted = true ∧ a'.isAbout kind n = true)
  /-- What it is about never changes. -/
  same : ∀ t ∈ turns, ∀ t' ∈ turns, ∀ j j', t.after.job? kind n = some j →
    t'.after.job? kind n = some j' → j'.dossier = j.dossier
  /-- It leaves when it is sent and older than the ledger, or when it is a deposit that cannot be
  proven. -/
  leaves : ∀ t ∈ turns, ∀ j, t.before.job? kind n = some j → t.after.job? kind n = none →
    (j.status = .sent ∧ (∃ b, t.input = .task (.notify (.finalized b))) ∧
      ∃ oldest, t.after.ledger.oldest? = some oldest ∧ n < oldest) ∨
    (kind = .deposit ∧ j.status = .ready ∧ (∃ answers, t.input = .task (.sweep answers)) ∧
      j.evidence.refreshed? = none)

namespace Relay

variable {s : Relay} {kind : ProofKind} {n : UInt32}

theorem run_opened_once (hs : s.Invariant) (is : List Input) (kind : ProofKind) (n : UInt32) :
    ((s.run is).filter (·.opens kind n)).length ≤ 1 := by
  have hp := run_pairwise (P := fun t s => t.opens kind n = true → s.isStale n = true)
    (fun t hv h => hv.invariant h)
    (fun t hv h ho => by
      obtain ⟨-, -, j, hj, -⟩ := hv.of_opens h ho
      exact (hv.invariant h).stale hj)
    (fun t t' hv h hst ho => hv.isStale h (hst ho)) hs is
  have hf : ((s.run is).filter (·.opens kind n)).Pairwise fun _ _ => False := by
    refine List.pairwise_filter.mpr (hp.imp fun {t t'} ht ho ho' => ?_)
    obtain ⟨hv, h, hst⟩ := ht
    exact Bool.false_ne_true ((hv.of_opens h ho').1.symm.trans (hst ho))
  generalize (s.run is).filter (·.opens kind n) = ts at hf
  match ts, hf with
  | [], _ => simp
  | [_], _ => simp
  | _ :: _ :: _, hf => exact ((List.pairwise_cons.mp hf).1 _ List.mem_cons_self).elim

theorem run_settled (hs : s.Invariant) (is : List Input) (kind : ProofKind) (n : UInt32) :
    ((s.run is).flatMap Turn.attempts).Pairwise fun a a' =>
      ¬(a.isAbout kind n = true ∧ a.answer.isAccepted = true ∧ a'.isAbout kind n = true) := by
  have hp := run_pairwise
    (P := fun (t : Turn) (s : Relay) =>
      (∃ a ∈ t.attempts, a.isAbout kind n = true ∧ a.answer.isAccepted = true) →
        s.Holds kind n fun j => j.status = .sent)
    (fun t hv h => hv.invariant h)
    (fun t hv h ha => by
      obtain ⟨a, hm, hab, hac⟩ := ha
      obtain ⟨_, j', -, hj', -, hst⟩ := (hv.jobStep h kind n).sent_iff.mpr
        ⟨a, List.mem_filter.mpr ⟨hm, hab⟩, hac⟩
      refine ⟨(hv.invariant h).stale hj', fun i hi => ?_⟩
      exact Option.some.inj (hj'.symm.trans hi) ▸ hst)
    (fun t t' hv h hst ha => hv.holds h (fun j as j' hj hp => (hj.of_sent hp).2 j' rfl) (hst ha))
    hs is
  refine List.pairwise_flatMap.mpr ⟨fun t ht => ?_, hp.imp fun {t t'} ht a ha a' ha' hh => ?_⟩
  · obtain ⟨hv, h, -⟩ := run_invariant hs is t ht
    have hl := (hv.jobStep h kind n).length_le
    have hf : (t.attempts.filter (·.isAbout kind n)).Pairwise fun _ _ => False := by
      generalize t.attempts.filter (·.isAbout kind n) = as at hl
      match as, hl with
      | [], _ => exact List.Pairwise.nil
      | [_], _ => exact List.pairwise_singleton _ _
      | _ :: _ :: _, hl => simp at hl
    exact (List.pairwise_filter.mp hf).imp fun {a a'} hh hn => hh hn.1 hn.2.2
  · obtain ⟨hv, h, hst⟩ := ht
    have hh' := hst ⟨a, ha, hh.1, hh.2.1⟩
    have hm : a' ∈ t'.attempts.filter (·.isAbout kind n) := List.mem_filter.mpr ⟨ha', hh.2.2⟩
    have hj := hv.jobStep h kind n
    cases hb : t'.before.job? kind n with
    | none =>
      rw [hb] at hj
      rw [hj.of_none] at hm
      simp at hm
    | some j =>
      rw [hb] at hj
      rw [(hj.of_sent (hh'.2 j hb)).1] at hm
      simp at hm

theorem run_same (hs : s.Invariant) (is : List Input) (kind : ProofKind) (n : UInt32) :
    ∀ t ∈ s.run is, ∀ t' ∈ s.run is, ∀ j j', t.after.job? kind n = some j →
      t'.after.job? kind n = some j' → j'.dossier = j.dossier := by
  have hp := run_pairwise
    (P := fun (t : Turn) (s : Relay) => ∀ j, t.after.job? kind n = some j →
      s.Holds kind n fun j' => j'.dossier = j.dossier)
    (fun t hv h => hv.invariant h)
    (fun t hv h j hj => ⟨(hv.invariant h).stale hj, fun j' hj' => by
      rw [Option.some.inj (hj.symm.trans hj')]⟩)
    (fun t t' hv h hd j hj =>
      hv.holds h (fun i as i' hi he => hi.dossier.trans he) (hd j hj))
    hs is
  let R : Turn → Turn → Prop := fun t t' => ∀ j j', t.after.job? kind n = some j →
    t'.after.job? kind n = some j' → j'.dossier = j.dossier
  have : Std.Symm R := ⟨fun t t' h j j' hj hj' => (h j' j hj' hj).symm⟩
  have hr : ∀ t ∈ s.run is, R t t := fun t _ j j' hj hj' => by
    rw [Option.some.inj (hj.symm.trans hj')]
  have hrun : (s.run is).Pairwise R := hp.imp fun {t t'} ht j j' hj hj' => by
    obtain ⟨hv, h, hd⟩ := ht
    exact (hv.holds h (fun i as i' hi he => hi.dossier.trans he) (hd j hj)).2 j' hj'
  exact fun t ht t' ht' => hrun.forall_of_forall hr ht ht'

/-- Whatever a relay is given, in whatever order: every event has at most one job, which is sent at most
once. -/
theorem singleLife_run (tokenContract bridgeAccount : Name) (capacity : Nat) (inputs : List Input)
    (kind : ProofKind) (n : UInt32) :
    SingleLife ((start tokenContract bridgeAccount capacity).run inputs) kind n := by
  have hs := invariant_start tokenContract bridgeAccount capacity
  have hv := run_invariant hs inputs
  refine ⟨run_opened_once hs inputs kind n, ?_, ?_, ?_, ?_, run_settled hs inputs kind n,
    run_same hs inputs kind n, ?_⟩
  · intro t ht ho
    exact ((hv t ht).1.of_opens (hv t ht).2.1 ho).2
  · intro t ht hb ha
    exact (hv t ht).1.opens_of_appears (hv t ht).2.1 hb ha
  · intro t ht j j' hj hj'
    have hstep := (hv t ht).1.jobStep (hv t ht).2.1 kind n
    rw [hj, hj'] at hstep
    exact hstep.status
  · intro t ht
    rw [((hv t ht).1.jobStep (hv t ht).2.1 kind n).sent_iff]
    simp only [List.mem_filter, and_assoc]
  · intro t ht j hj ha
    exact (hv t ht).1.of_leaves (hv t ht).2.1 hj ha

end Relay

end FinalityRelay
