import FinalityRelay.Evidence.JobTable
import FinalityRelay.Proofs.Job
import FinalityRelay.Proofs.NumberMap

/-! The job table as a function from subjects to jobs. Its indexes repeat the statuses of the jobs, and
each operation is described by what it does to the job of one subject. -/

namespace FinalityRelay

namespace JobTable

variable {ε : Type} {t : JobTable ε}

/-- A table whose indexes list the jobs of each status, and whose jobs stand under their subjects. -/
structure WellFormed (t : JobTable ε) : Prop where
  jobs : t.jobs.Ascending
  index : ∀ s, (t.index s).Ascending
  subject : ∀ {n j}, t.get? n = some j → j.subject = n
  mem_subjects : ∀ {s n}, n ∈ t.subjects s ↔ ∃ j, t.get? n = some j ∧ j.status = s

@[simp] theorem get?_empty (n : UInt32) : (empty : JobTable ε).get? n = none := rfl

theorem wellFormed_empty : (empty : JobTable ε).WellFormed where
  jobs := List.Pairwise.nil
  index s := by cases s <;> exact List.Pairwise.nil
  subject h := by simp at h
  mem_subjects {s n} := by cases s <;> simp [subjects, index, empty, NumberMap.keys, get?]

theorem subjects_eq (t : JobTable ε) (s : Status) : t.subjects s = (t.index s).keys := rfl

theorem length_subjects (t : JobTable ε) (s : Status) : (t.subjects s).length = t.count s := by
  simp [count, subjects, NumberMap.keys]

theorem WellFormed.subjects_nodup (h : t.WellFormed) (s : Status) : (t.subjects s).Nodup :=
  (h.index s).keys_nodup

theorem WellFormed.subjects_pairwise (h : t.WellFormed) (s : Status) :
    (t.subjects s).Pairwise (· < ·) :=
  (h.index s).keys_pairwise

/-- A well-formed table is determined by the jobs it holds. -/
theorem WellFormed.ext {t t' : JobTable ε} (h : t.WellFormed) (h' : t'.WellFormed)
    (he : ∀ n, t.get? n = t'.get? n) : t = t' := by
  have hj : t.jobs = t'.jobs := h.jobs.ext h'.jobs he
  have hi : ∀ s, t.index s = t'.index s := by
    intro s
    refine (h.index s).ext (h'.index s) fun n => ?_
    have hm : n ∈ t.subjects s ↔ n ∈ t'.subjects s := by
      rw [h.mem_subjects, h'.mem_subjects, he]
    rw [subjects_eq, subjects_eq, NumberMap.mem_keys_iff, NumberMap.mem_keys_iff] at hm
    cases ha : NumberMap.get? (t.index s) n <;> cases hb : NumberMap.get? (t'.index s) n <;>
      simp_all
  obtain ⟨a, b, c, d⟩ := t
  obtain ⟨a', b', c', d'⟩ := t'
  have hc := hi .collecting
  have hr := hi .ready
  have hs := hi .sent
  simp only at hc hr hs hj
  subst hj hc hr hs
  rfl

/-! ### Single jobs -/

@[simp] theorem jobs_mapIndex (f : NumberSet → NumberSet) (s : Status) :
    (t.mapIndex f s).jobs = t.jobs := by
  cases s <;> rfl

theorem index_mapIndex (f : NumberSet → NumberSet) (s s' : Status) :
    (t.mapIndex f s).index s' = if s' = s then f (t.index s') else t.index s' := by
  cases s <;> cases s' <;> rfl

theorem get?_erase (t : JobTable ε) (k n : UInt32) :
    (t.erase k).get? n = if n = k then none else t.get? n := by
  unfold erase
  split
  · rw [get?, jobs_mapIndex, NumberMap.get?_erase]
    rfl
  · rename_i h
    by_cases hn : n = k <;> simp [hn, h]

theorem WellFormed.erase (h : t.WellFormed) (k : UInt32) : (t.erase k).WellFormed := by
  cases hk : t.get? k with
  | none => simpa [JobTable.erase, hk] using h
  | some j =>
    have he : t.erase k =
        ({ t with jobs := t.jobs.erase k } : JobTable ε).mapIndex (·.erase k) j.status := by
      simp only [JobTable.erase, hk]
    refine ⟨?_, ?_, ?_, ?_⟩
    · rw [he, jobs_mapIndex]
      exact h.jobs.erase k
    · intro s
      rw [he, index_mapIndex]
      split
      · exact (h.index s).erase k
      · exact h.index s
    · intro n i hi
      rw [get?_erase] at hi
      split at hi
      · simp at hi
      · exact h.subject hi
    · intro s n
      have hs : n ∈ (t.erase k).subjects s ↔ n ≠ k ∧ n ∈ t.subjects s := by
        rw [he, subjects_eq, index_mapIndex]
        split
        · exact NumberMap.mem_keys_erase
        · rename_i hne
          refine ⟨fun hm => ⟨fun hnk => ?_, hm⟩, And.right⟩
          obtain ⟨i, hi, rfl⟩ := h.mem_subjects.mp (show n ∈ t.subjects s from hm)
          rw [hnk, hk] at hi
          exact hne (Option.some.inj hi ▸ rfl)
      rw [hs, h.mem_subjects, get?_erase]
      by_cases hn : n = k <;> simp [hn]

theorem get?_insert (t : JobTable ε) (j : Job ε) (n : UInt32) :
    (t.insert j).get? n = if n = j.subject then some j else t.get? n := by
  rw [insert, get?, jobs_mapIndex, NumberMap.get?_insert, ← get?, get?_erase]
  by_cases hn : n = j.subject <;> simp [hn]

theorem WellFormed.insert (h : t.WellFormed) (j : Job ε) : (t.insert j).WellFormed := by
  have he := h.erase j.subject
  have hi : ∀ s, (t.insert j).index s =
      ((t.erase j.subject).mapIndex (·.add j.subject) j.status).index s := by
    intro s
    cases s <;> rfl
  refine ⟨?_, ?_, ?_, ?_⟩
  · rw [JobTable.insert, jobs_mapIndex]
    exact he.jobs.insert _ _
  · intro s
    rw [hi, index_mapIndex]
    split
    · exact (he.index s).insert _ _
    · exact he.index s
  · intro n i hg
    rw [get?_insert] at hg
    split at hg
    · rename_i hn
      rw [hn, Option.some.inj hg]
    · exact h.subject hg
  · intro s n
    have hs : n ∈ (t.insert j).subjects s ↔
        (n = j.subject ∧ s = j.status) ∨ n ∈ (t.erase j.subject).subjects s := by
      rw [subjects_eq, hi, index_mapIndex, subjects_eq]
      split
      · rename_i hst
        simp only [NumberSet.add, NumberMap.mem_keys_insert, hst, and_true]
      · rename_i hst
        simp only [hst, and_false, false_or]
    rw [hs, he.mem_subjects, get?_insert, get?_erase]
    by_cases hn : n = j.subject
    · simp [hn, eq_comm]
    · simp [hn]

theorem get?_setEvidence (t : JobTable ε) (k : UInt32) (e : ε) (n : UInt32) :
    (t.setEvidence k e).get? n =
      if n = k then (t.get? n).map (fun j => { j with evidence := e }) else t.get? n := by
  unfold setEvidence
  split
  · rename_i j hj
    rw [get?, NumberMap.get?_insert]
    by_cases hn : n = k
    · simp [hn, hj]
    · simp only [hn, if_false]
      rfl
  · rename_i hk
    by_cases hn : n = k <;> simp [hn, hk]

theorem WellFormed.setEvidence (h : t.WellFormed) (k : UInt32) (e : ε) :
    (t.setEvidence k e).WellFormed := by
  cases hk : t.get? k with
  | none => simpa [JobTable.setEvidence, hk] using h
  | some j =>
    have hi : ∀ s, (t.setEvidence k e).index s = t.index s := by
      intro s
      simp only [JobTable.setEvidence, hk]
      cases s <;> rfl
    refine ⟨?_, ?_, ?_, ?_⟩
    · simp only [JobTable.setEvidence, hk]
      exact h.jobs.insert _ _
    · intro s
      rw [hi]
      exact h.index s
    · intro n i hg
      rw [get?_setEvidence] at hg
      split at hg
      · obtain ⟨i', hi', rfl⟩ := Option.map_eq_some_iff.mp hg
        exact h.subject (j := i') hi'
      · exact h.subject hg
    · intro s n
      rw [subjects_eq, hi, ← subjects_eq, h.mem_subjects, get?_setEvidence]
      by_cases hn : n = k <;> simp [hn]

theorem get?_markSent (t : JobTable ε) (k n : UInt32) :
    (t.markSent k).get? n = if n = k then (t.get? n).map Job.accepted else t.get? n := by
  cases hk : t.get? k with
  | none =>
    have he : t.markSent k = t := by simp [markSent, sent?, hk]
    by_cases hn : n = k <;> simp [he, hn, hk]
  | some j =>
    by_cases hr : j.status = .ready
    · have he : (t.markSent k).jobs = t.jobs.insert k { j with status := .sent } := by
        simp [markSent, sent?, hk, Job.sent?, hr]
      rw [get?, he, NumberMap.get?_insert]
      by_cases hn : n = k
      · simp [hn, hk, Job.accepted, hr]
      · simp only [hn, if_false]
        rfl
    · have he : t.markSent k = t := by simp [markSent, sent?, hk, Job.sent?, hr]
      by_cases hn : n = k <;> simp [he, hn, hk, Job.accepted, hr]

theorem WellFormed.markSent (h : t.WellFormed) (k : UInt32) : (t.markSent k).WellFormed := by
  by_cases hk : ∃ j, t.get? k = some j ∧ j.status = .ready
  · obtain ⟨j, hk, hr⟩ := hk
    have he : t.markSent k = { t with
        jobs := t.jobs.insert k { j with status := .sent }
        ready := NumberMap.erase t.ready k
        sent := t.sent.add k } := by
      simp [JobTable.markSent, sent?, hk, Job.sent?, hr]
    refine ⟨?_, ?_, ?_, ?_⟩
    · rw [he]
      exact h.jobs.insert _ _
    · intro s
      rw [he]
      cases s
      · exact h.index .collecting
      · exact (h.index .ready).erase k
      · exact (h.index .sent).insert k ()
    · intro n i hg
      rw [get?_markSent] at hg
      split at hg
      · obtain ⟨i', hi', rfl⟩ := Option.map_eq_some_iff.mp hg
        have hs := h.subject hi'
        simp only [Job.accepted]
        split <;> exact hs
      · exact h.subject hg
    · intro s n
      have hs : n ∈ (t.markSent k).subjects s ↔ (n = k ∧ s = .sent) ∨ n ≠ k ∧ n ∈ t.subjects s := by
        have hm : k ∉ t.subjects .collecting ∧ k ∉ t.subjects .sent := by
          constructor <;> rw [h.mem_subjects] <;> simp [hk, hr]
        rw [he]
        cases s
        · have hn : n ∈ t.subjects .collecting → n ≠ k := fun ha hb => hm.1 (hb ▸ ha)
          change n ∈ t.subjects .collecting ↔ _
          simpa using hn
        · refine NumberMap.mem_keys_erase.trans ?_
          simp only [reduceCtorEq, and_false, false_or]
          rfl
        · refine NumberMap.mem_keys_insert.trans ?_
          by_cases hn : n = k <;> simp [hn]
          rfl
      rw [hs, h.mem_subjects, get?_markSent]
      by_cases hn : n = k
      · simp [hn, hk, Job.accepted, hr, eq_comm]
      · simp [hn]
  · have he : t.markSent k = t := by
      cases hg : t.get? k with
      | none => simp [JobTable.markSent, sent?, hg]
      | some j =>
        have hr : j.status ≠ .ready := fun hr => hk ⟨j, hg, hr⟩
        simp [JobTable.markSent, sent?, hg, Job.sent?, hr]
    rwa [he]

/-! ### Feeding blocks -/

/-- Feeding touches the jobs with the given numbers, once each. -/
theorem get?_feed (r : BlockRecord) {ns : List UInt32} (hns : ns.Nodup) (jobs : NumberMap (Job ε))
    (n : UInt32) :
    NumberMap.get? (feed r ns jobs).1 n =
      if n ∈ ns then (jobs.get? n).map (fun j => (j.collect r).1) else jobs.get? n := by
  induction ns generalizing jobs with
  | nil => simp [feed]
  | cons k ns ih =>
    obtain ⟨hk, hns⟩ := List.nodup_cons.mp hns
    cases hj : jobs.get? k with
    | none =>
      simp only [feed, hj, ih hns, List.mem_cons]
      by_cases hn : n = k
      · simp [hn, hk, hj]
      · simp [hn]
    | some j =>
      simp only [feed, hj, ih hns, List.mem_cons, NumberMap.get?_insert]
      by_cases hn : n = k
      · simp [hn, hk, hj]
      · simp [hn]

theorem mem_feed_readied (r : BlockRecord) {ns : List UInt32} (hns : ns.Nodup)
    (jobs : NumberMap (Job ε)) (n : UInt32) :
    n ∈ (feed r ns jobs).2.1 ↔
      n ∈ ns ∧ ∃ j, jobs.get? n = some j ∧ (j.collect r).1.status = .ready := by
  induction ns generalizing jobs with
  | nil => simp [feed]
  | cons k ns ih =>
    obtain ⟨hk, hns⟩ := List.nodup_cons.mp hns
    cases hj : jobs.get? k with
    | none =>
      simp only [feed, hj, ih hns, List.mem_cons]
      by_cases hn : n = k
      · simp [hn, hk, hj]
      · simp [hn]
    | some j =>
      simp only [feed, hj]
      by_cases hs : (j.collect r).1.status = .ready
      · simp only [hs, if_true, List.mem_cons, ih hns, NumberMap.get?_insert]
        by_cases hn : n = k
        · simp [hn, hj, hs]
        · simp [hn]
      · simp only [hs, if_false, List.mem_cons, ih hns, NumberMap.get?_insert]
        by_cases hn : n = k
        · simp [hn, hk, hj, hs]
        · simp [hn]

theorem ascending_feed (r : BlockRecord) (ns : List UInt32) {jobs : NumberMap (Job ε)}
    (h : jobs.Ascending) : NumberMap.Ascending (feed r ns jobs).1 := by
  induction ns generalizing jobs with
  | nil => exact h
  | cons k ns ih =>
    cases hj : jobs.get? k with
    | none => simpa only [feed, hj] using ih h
    | some j => simpa only [feed, hj] using ih (h.insert k (j.collect r).1)

theorem get?_collect (h : t.WellFormed) (r : BlockRecord) (n : UInt32) :
    (t.collect r).1.get? n = (t.get? n).map fun j => (j.collect r).1 := by
  have hf : (t.collect r).1.get? n = NumberMap.get? (feed r t.collecting.keys t.jobs).1 n := rfl
  have hnd : (NumberMap.keys t.collecting).Nodup := h.subjects_nodup .collecting
  rw [hf, get?_feed r hnd]
  split
  · rfl
  · rename_i hn
    cases hj : t.get? n with
    | none => exact hj
    | some j =>
      have hs : j.status ≠ .collecting := fun hs =>
        hn (h.mem_subjects (s := .collecting).mpr ⟨j, hj, hs⟩)
      rw [Option.map_some, Job.collect_of_ne r hs]
      exact hj

theorem mem_readied (h : t.WellFormed) (r : BlockRecord) (n : UInt32) :
    n ∈ (t.collect r).2.1 ↔
      ∃ j, t.get? n = some j ∧ j.status = .collecting ∧ (j.collect r).1.status = .ready := by
  have hf : (t.collect r).2.1 = (feed r t.collecting.keys t.jobs).2.1 := rfl
  have hnd : (NumberMap.keys t.collecting).Nodup := h.subjects_nodup .collecting
  rw [hf, mem_feed_readied r hnd]
  constructor
  · rintro ⟨hn, j, hj, hs⟩
    obtain ⟨i, hi, hc⟩ := h.mem_subjects (s := .collecting).mp hn
    have he : i = j := Option.some.inj (hi.symm.trans hj)
    exact ⟨j, hj, he ▸ hc, hs⟩
  · rintro ⟨j, hj, hc, hs⟩
    exact ⟨h.mem_subjects (s := .collecting).mpr ⟨j, hj, hc⟩, j, hj, hs⟩

theorem WellFormed.collect (h : t.WellFormed) (r : BlockRecord) : (t.collect r).1.WellFormed := by
  let readied := (t.collect r).2.1
  have hc : (t.collect r).1.index .collecting = readied.foldl NumberMap.erase t.collecting := rfl
  have hr : (t.collect r).1.index .ready = readied.foldl NumberSet.add t.ready := rfl
  have hs : (t.collect r).1.index .sent = t.sent := rfl
  refine ⟨?_, ?_, ?_, ?_⟩
  · exact ascending_feed r t.collecting.keys h.jobs
  · intro s
    cases s
    · exact hc ▸ (h.index .collecting).foldl_erase readied
    · exact hr ▸ NumberSet.ascending_foldl_add (h.index .ready) readied
    · exact h.index .sent
  · intro n i hg
    rw [get?_collect h] at hg
    obtain ⟨j, hj, rfl⟩ := Option.map_eq_some_iff.mp hg
    simpa using h.subject hj
  · intro s n
    have hm : n ∈ readied ↔ _ := mem_readied h r n
    rw [subjects_eq, get?_collect h]
    cases s
    · rw [hc, NumberMap.mem_keys_iff, NumberMap.get?_foldl_erase]
      have hi := h.mem_subjects (s := .collecting) (n := n)
      rw [subjects_eq, NumberMap.mem_keys_iff] at hi
      change (NumberMap.get? t.collecting n).isSome ↔ _ at hi
      split
      · rename_i hn
        obtain ⟨j, hj, _, hst⟩ := hm.mp hn
        simp [hj, hst]
      · rename_i hn
        rw [hi]
        constructor
        · rintro ⟨j, hj, hst⟩
          refine ⟨(j.collect r).1, by simp [hj], ?_⟩
          rcases Job.status_collect r hst with hst' | hst'
          · exact hst'
          · exact absurd (hm.mpr ⟨j, hj, hst, hst'⟩) hn
        · rintro ⟨i, hi, hst⟩
          obtain ⟨j, hj, rfl⟩ := Option.map_eq_some_iff.mp hi
          refine ⟨j, hj, ?_⟩
          by_contra hne
          rw [Job.collect_of_ne r hne] at hst
          exact hne hst
    · rw [hr, NumberSet.mem_keys_foldl_add, hm]
      have hi := h.mem_subjects (s := .ready) (n := n)
      change n ∈ NumberMap.keys t.ready ↔ _ at hi
      rw [hi]
      constructor
      · rintro (⟨j, hj, _, hst⟩ | ⟨j, hj, hst⟩)
        · exact ⟨(j.collect r).1, by simp [hj], hst⟩
        · exact ⟨j, by simp [hj, Job.collect_of_ne r (show j.status ≠ .collecting by simp [hst])], hst⟩
      · rintro ⟨i, hi, hst⟩
        obtain ⟨j, hj, rfl⟩ := Option.map_eq_some_iff.mp hi
        by_cases hcoll : j.status = .collecting
        · exact .inl ⟨j, hj, hcoll, hst⟩
        · exact .inr ⟨j, hj, by rwa [Job.collect_of_ne r hcoll] at hst⟩
    · rw [hs]
      have hi := h.mem_subjects (s := .sent) (n := n)
      change n ∈ NumberMap.keys t.sent ↔ _ at hi
      rw [hi]
      constructor
      · rintro ⟨j, hj, hst⟩
        exact ⟨(j.collect r).1, by simp [hj], (j.status_collect_sent r).mpr hst⟩
      · rintro ⟨i, hi, hst⟩
        obtain ⟨j, hj, rfl⟩ := Option.map_eq_some_iff.mp hi
        exact ⟨j, hj, (j.status_collect_sent r).mp hst⟩

/-! ### Pruning -/

theorem get?_pruneSent (h : t.WellFormed) (k n : UInt32) :
    (t.pruneSent k).1.get? n = (t.get? n).filter fun j => j.status ≠ .sent ∨ k ≤ n := by
  have hp : (t.pruneSent k).1.get? n =
      NumberMap.get? ((NumberMap.below t.sent k).keys.foldl NumberMap.erase t.jobs) n := rfl
  have hm := h.mem_subjects (s := .sent) (n := n)
  change n ∈ NumberMap.keys t.sent ↔ _ at hm
  simp only [hp, NumberMap.get?_foldl_erase, NumberMap.mem_keys_below, hm]
  change (if _ then none else t.get? n) = _
  cases hj : t.get? n with
  | none => simp
  | some j =>
    by_cases hs : j.status = .sent
    · by_cases hn : n < k
      · simp [hs, hn, Option.filter_some, UInt32.not_le.mpr hn]
      · simp [hs, hn, Option.filter_some, UInt32.not_lt.mp hn]
    · simp [hs, Option.filter_some]

theorem WellFormed.pruneSent (h : t.WellFormed) (k : UInt32) : (t.pruneSent k).1.WellFormed := by
  refine ⟨?_, ?_, ?_, ?_⟩
  · exact h.jobs.foldl_erase _
  · intro s
    cases s
    · exact h.index .collecting
    · exact h.index .ready
    · exact (h.index .sent).upFrom k
  · intro n i hg
    rw [get?_pruneSent h] at hg
    exact h.subject (Option.filter_eq_some_iff.mp hg).1
  · intro s n
    have hs : n ∈ (t.pruneSent k).1.subjects s ↔ n ∈ t.subjects s ∧ (s ≠ .sent ∨ k ≤ n) := by
      cases s
      · simp only [ne_eq, reduceCtorEq, not_false_eq_true, true_or, and_true]
        rfl
      · simp only [ne_eq, reduceCtorEq, not_false_eq_true, true_or, and_true]
        rfl
      · refine NumberMap.mem_keys_upFrom.trans ?_
        simp only [ne_eq, not_true_eq_false, false_or]
        exact and_comm
    rw [hs, h.mem_subjects, get?_pruneSent h]
    constructor
    · rintro ⟨⟨j, hj, rfl⟩, hn⟩
      exact ⟨j, Option.filter_eq_some_iff.mpr ⟨hj, decide_eq_true hn⟩, rfl⟩
    · rintro ⟨j, hj, rfl⟩
      obtain ⟨hj, hn⟩ := Option.filter_eq_some_iff.mp hj
      exact ⟨⟨j, hj, rfl⟩, of_decide_eq_true hn⟩

/-! ### Rebuilding -/

theorem WellFormed.insertAll (h : t.WellFormed) (js : List (Job ε)) :
    (t.insertAll js).WellFormed := by
  induction js generalizing t with
  | nil => exact h
  | cons j js ih => exact ih (h.insert j)

theorem get?_insertAll_of_notMem {js : List (Job ε)} {n : UInt32}
    (hn : ∀ j ∈ js, j.subject ≠ n) (t : JobTable ε) : (t.insertAll js).get? n = t.get? n := by
  induction js generalizing t with
  | nil => rfl
  | cons j js ih =>
    have he := ih (fun i hi => hn i (List.mem_cons_of_mem _ hi)) (t.insert j)
    rw [get?_insert, if_neg (Ne.symm (hn j List.mem_cons_self))] at he
    exact he

theorem get?_insertAll {js : List (Job ε)} (hjs : js.Pairwise (·.subject ≠ ·.subject)) {j : Job ε}
    (hj : j ∈ js) (t : JobTable ε) : (t.insertAll js).get? j.subject = some j := by
  induction js generalizing t with
  | nil => simp at hj
  | cons i js ih =>
    obtain ⟨hi, hjs⟩ := List.pairwise_cons.mp hjs
    rcases List.mem_cons.mp hj with rfl | hj
    · have he := get?_insertAll_of_notMem (fun k hk => Ne.symm (hi k hk)) (t.insert j)
      rw [get?_insert, if_pos rfl] at he
      exact he
    · exact ih hjs hj (t.insert i)

theorem WellFormed.get?_of_mem_toList (h : t.WellFormed) {j : Job ε} (hj : j ∈ t.toList) :
    t.get? j.subject = some j := by
  obtain ⟨p, hp, rfl⟩ := List.mem_map.mp hj
  have hg : t.get? p.1 = some p.2 := h.jobs.get?_of_mem hp
  rwa [h.subject hg]

/-- Listing the jobs of a table and inserting them into an empty one gives the table back. -/
theorem WellFormed.insertAll_toList (h : t.WellFormed) : empty.insertAll t.toList = t := by
  refine (wellFormed_empty.insertAll _).ext h fun n => ?_
  have hsub : ∀ p ∈ t.jobs, p.2.subject = p.1 := fun p hp => h.subject (h.jobs.get?_of_mem hp)
  have hp : t.toList.Pairwise (·.subject ≠ ·.subject) := by
    refine List.pairwise_map.mpr (h.jobs.imp_of_mem fun {a b} ha hb hlt he => ?_)
    rw [hsub a ha, hsub b hb] at he
    exact UInt32.lt_irrefl _ (he ▸ hlt)
  cases hj : t.get? n with
  | none =>
    rw [get?_insertAll_of_notMem, get?_empty]
    intro i hi he
    have hg := h.get?_of_mem_toList hi
    rw [he, hj] at hg
    simp at hg
  | some j =>
    have hm : j ∈ t.toList := List.mem_map.mpr ⟨(n, j), NumberMap.mem_of_get? hj, rfl⟩
    have he := get?_insertAll hp hm empty
    rwa [h.subject hj] at he

end JobTable

end FinalityRelay
