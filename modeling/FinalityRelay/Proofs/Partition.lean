import FinalityRelay.Proofs.JobTable

/-! Any sequence of operations on a job table leaves every job in the index of its status and in no
other. A block therefore reaches each collecting job, once, and the readied subjects come in order. -/

namespace FinalityRelay

namespace JobTable

variable {ε : Type} {t : JobTable ε}

/-- What can be done to a job table. -/
inductive Operation (ε : Type)
  | insert (j : Job ε)
  | erase (n : UInt32)
  | setEvidence (n : UInt32) (evidence : ε)
  | collect (r : BlockRecord)
  | markSent (n : UInt32)
  | pruneSent (n : UInt32)
  | clear
  | ofList (js : List (Job ε))

def perform (t : JobTable ε) : Operation ε → JobTable ε
  | .insert j => t.insert j
  | .erase n => t.erase n
  | .setEvidence n evidence => t.setEvidence n evidence
  | .collect r => (t.collect r).1
  | .markSent n => t.markSent n
  | .pruneSent n => (t.pruneSent n).1
  | .clear => empty
  | .ofList js => ofList js

def performAll (t : JobTable ε) (os : List (Operation ε)) : JobTable ε := os.foldl perform t

theorem WellFormed.perform (h : t.WellFormed) (o : Operation ε) : (t.perform o).WellFormed := by
  cases o with
  | insert j => exact h.insert j
  | erase n => exact h.erase n
  | setEvidence n evidence => exact h.setEvidence n evidence
  | collect r => exact h.collect r
  | markSent n => exact h.markSent n
  | pruneSent n => exact h.pruneSent n
  | clear => exact wellFormed_empty
  | ofList js => exact wellFormed_empty.insertAll js

theorem WellFormed.performAll (h : t.WellFormed) (os : List (Operation ε)) :
    (t.performAll os).WellFormed := by
  induction os generalizing t with
  | nil => exact h
  | cons o os ih => exact ih (h.perform o)

/-! ### Indexes -/

theorem WellFormed.mem_toList_iff (h : t.WellFormed) {j : Job ε} :
    j ∈ t.toList ↔ t.get? j.subject = some j :=
  ⟨h.get?_of_mem_toList, fun hj => List.mem_map.mpr ⟨(j.subject, j), NumberMap.mem_of_get? hj, rfl⟩⟩

theorem WellFormed.map_subject_toList (h : t.WellFormed) :
    t.toList.map (·.subject) = t.jobs.keys := by
  rw [toList, NumberMap.values, NumberMap.keys, List.map_map]
  exact List.map_congr_left fun p hp => h.subject (h.jobs.get?_of_mem hp)

/-- An index lists the subjects of the jobs with its status, in order. -/
theorem WellFormed.subjects_eq_filter (h : t.WellFormed) (s : Status) :
    t.subjects s = (t.toList.filter (·.status = s)).map (·.subject) := by
  have hsub : ((t.toList.filter (·.status = s)).map (·.subject)).Pairwise (· < ·) := by
    have hk := h.jobs.keys_pairwise
    rw [← h.map_subject_toList] at hk
    exact hk.sublist (List.filter_sublist.map _)
  have hmem : ∀ n, n ∈ t.subjects s ↔ n ∈ (t.toList.filter (·.status = s)).map (·.subject) := by
    intro n
    simp only [h.mem_subjects, List.mem_map, List.mem_filter, decide_eq_true_eq, h.mem_toList_iff]
    constructor
    · rintro ⟨j, hj, hs⟩
      exact ⟨j, ⟨(h.subject hj).symm ▸ hj, hs⟩, h.subject hj⟩
    · rintro ⟨j, ⟨hj, hs⟩, rfl⟩
      exact ⟨j, hj, hs⟩
  have hnodup := hsub.imp fun {a b} hlt => UInt32.ne_of_lt hlt
  have hp := (List.perm_ext_iff_of_nodup (h.subjects_nodup s) hnodup).mpr hmem
  refine hp.eq_of_pairwise (fun a b _ _ hab hba => ?_) (h.subjects_pairwise s) hsub
  exact absurd (UInt32.lt_trans hab hba) (UInt32.lt_irrefl _)

theorem length_filter_status (js : List (Job ε)) :
    (js.filter (·.status = .collecting)).length + (js.filter (·.status = .ready)).length +
      (js.filter (·.status = .sent)).length = js.length := by
  induction js with
  | nil => rfl
  | cons j js ih =>
    cases hs : j.status <;> simp [hs] <;> omega

theorem WellFormed.count_eq (h : t.WellFormed) (s : Status) :
    t.count s = (t.toList.filter (·.status = s)).length := by
  rw [← length_subjects, h.subjects_eq_filter, List.length_map]

/-- The indexes divide the jobs among them. -/
structure Partitioned (t : JobTable ε) : Prop where
  subject : ∀ n j, t.get? n = some j → j.subject = n
  listed_iff : ∀ s n, n ∈ t.subjects s ↔ ∃ j, t.get? n = some j ∧ j.status = s
  listing : ∀ s, t.subjects s = (t.toList.filter (·.status = s)).map (·.subject)
  ascending : ∀ s, (t.subjects s).Pairwise (· < ·)
  count : ∀ s, t.count s = (t.toList.filter (·.status = s)).length
  size : t.count .collecting + t.count .ready + t.count .sent = t.size

theorem WellFormed.partitioned (h : t.WellFormed) : t.Partitioned where
  subject _ _ := h.subject
  listed_iff _ _ := h.mem_subjects
  listing := h.subjects_eq_filter
  ascending := h.subjects_pairwise
  count := h.count_eq
  size := by
    rw [h.count_eq, h.count_eq, h.count_eq, length_filter_status]
    simp [toList, size, NumberMap.values]

/-! ### Blocks -/

theorem readied_sublist (r : BlockRecord) (ns : List UInt32) (jobs : NumberMap (Job ε)) :
    (feed r ns jobs).2.1.Sublist ns := by
  induction ns generalizing jobs with
  | nil => exact List.Sublist.refl _
  | cons n ns ih =>
    cases hj : jobs.get? n with
    | none =>
      simp only [feed, hj]
      exact (ih jobs).cons n
    | some j =>
      simp only [feed, hj]
      split
      · exact (ih _).cons_cons n
      · exact (ih _).cons n

/-- Each of the jobs makes its reports once. -/
theorem events_feed (r : BlockRecord) {ns : List UInt32} (hns : ns.Nodup) (jobs : NumberMap (Job ε)) :
    (feed r ns jobs).2.2 = ns.flatMap fun n => (jobs.get? n).elim [] fun j => (j.collect r).2 := by
  induction ns generalizing jobs with
  | nil => rfl
  | cons n ns ih =>
    obtain ⟨hn, hns⟩ := List.nodup_cons.mp hns
    cases hj : jobs.get? n with
    | none => simp [feed, hj, ih hns]
    | some j =>
      have hrest : (ns.flatMap fun k => ((NumberMap.insert n (j.collect r).1 jobs).get? k).elim []
          fun j => (j.collect r).2) =
          ns.flatMap fun k => (jobs.get? k).elim [] fun j => (j.collect r).2 := by
        refine List.flatMap_congr fun k hk => ?_
        rw [NumberMap.get?_insert, if_neg fun he : k = n => hn (he ▸ hk)]
      simp only [feed, hj, ih hns, hrest, List.flatMap_cons, Option.elim_some]

/-- What a block does to a table. -/
structure Fed (t : JobTable ε) (r : BlockRecord) : Prop where
  /-- Collecting jobs take the block in once, others stay as they are. -/
  jobs : ∀ n, (t.collect r).1.get? n =
    (t.get? n).map fun j => if j.status = .collecting then (j.collect r).1 else j
  reports : (t.collect r).2.2 =
    (t.toList.filter (·.status = .collecting)).flatMap fun j => (j.collect r).2
  ascending : (t.collect r).2.1.Pairwise (· < ·)
  readied_iff : ∀ n, n ∈ (t.collect r).2.1 ↔
    (∃ j, t.get? n = some j ∧ j.status = .collecting) ∧
      ∃ j, (t.collect r).1.get? n = some j ∧ j.status = .ready

theorem WellFormed.fed (h : t.WellFormed) (r : BlockRecord) : t.Fed r where
  jobs n := by
    rw [get?_collect h]
    refine Option.map_congr fun j _ => ?_
    split
    · rfl
    · rename_i hs
      exact Job.collect_of_ne r hs
  reports := by
    have hf := events_feed r (h.subjects_nodup .collecting) t.jobs
    have he : (t.collect r).2.2 = (feed r (t.subjects .collecting) t.jobs).2.2 := rfl
    rw [he, hf, h.subjects_eq_filter, List.flatMap_map]
    refine List.flatMap_congr fun j hj => ?_
    have hg : t.jobs.get? j.subject = some j := h.mem_toList_iff.mp (List.mem_filter.mp hj).1
    rw [hg, Option.elim_some]
  ascending :=
    (h.subjects_pairwise .collecting).sublist (readied_sublist r (t.subjects .collecting) t.jobs)
  readied_iff n := by
    rw [mem_readied h, get?_collect h]
    constructor
    · rintro ⟨j, hj, hs, hr⟩
      exact ⟨⟨j, hj, hs⟩, (j.collect r).1, by rw [hj, Option.map_some], hr⟩
    · rintro ⟨⟨j, hj, hs⟩, i, hi, hr⟩
      rw [hj, Option.map_some] at hi
      exact ⟨j, hj, hs, by rw [Option.some.inj hi]; exact hr⟩

/-- However a table came about, its indexes divide its jobs, and the next block reaches exactly those
that collect. -/
theorem performAll_partitioned (os : List (Operation ε)) :
    (empty.performAll os).Partitioned ∧ ∀ r, (empty.performAll os).Fed r :=
  have h := wellFormed_empty.performAll os
  ⟨h.partitioned, h.fed⟩

end JobTable

end FinalityRelay
