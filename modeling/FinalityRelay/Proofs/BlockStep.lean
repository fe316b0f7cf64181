import FinalityRelay.Proofs.Invariant

/-! What a finalized block does: it is ignored, or it is remembered, grows the windows of the jobs that
collect, opens at most one job of each kind, and prunes sent jobs that are older than the ledger. -/

namespace FinalityRelay

namespace JobTable

variable {ε : Type} {t : JobTable ε}

/-- A table after a block: its jobs take the block in, the job of the block is added and sent jobs below
the oldest remembered number go. -/
def advance (t : JobTable ε) (r : BlockRecord) (opening : Option (Job ε)) (oldest : Option UInt32) :
    JobTable ε :=
  let t := (t.collect r).1
  let t := opening.elim t t.insert
  oldest.elim t fun k => (t.pruneSent k).1

theorem WellFormed.advance (h : t.WellFormed) (r : BlockRecord) (opening : Option (Job ε))
    (oldest : Option UInt32) : (t.advance r opening oldest).WellFormed := by
  have hc := h.collect r
  cases opening with
  | none =>
    cases oldest with
    | none => exact hc
    | some k => exact hc.pruneSent k
  | some j =>
    cases oldest with
    | none => exact hc.insert j
    | some k => exact (hc.insert j).pruneSent k

def retained (oldest : Option UInt32) (n : UInt32) (j : Job ε) : Bool :=
  j.status ≠ .sent ∨ ∀ k ∈ oldest, k ≤ n

theorem retained_map {δ : Type} (oldest : Option UInt32) (n : UInt32) (f : ε → δ) (j : Job ε) :
    retained oldest n (j.map f) = retained oldest n j := rfl

theorem get?_advance_of_ne (h : t.WellFormed) (r : BlockRecord) {opening : Option (Job ε)}
    (oldest : Option UInt32) {n : UInt32} (hn : ∀ j ∈ opening, j.subject ≠ n) :
    (t.advance r opening oldest).get? n =
      ((t.get? n).map fun j => (j.collect r).1).filter (retained oldest n) := by
  have hi : (opening.elim (t.collect r).1 (t.collect r).1.insert).get? n =
      (t.get? n).map fun j => (j.collect r).1 := by
    rw [← get?_collect h]
    cases opening with
    | none => rfl
    | some j => exact (get?_insert _ _ _).trans (if_neg (hn j rfl).symm)
  have hw : (opening.elim (t.collect r).1 (t.collect r).1.insert).WellFormed := by
    cases opening with
    | none => exact h.collect r
    | some j => exact (h.collect r).insert j
  rw [← hi]
  cases oldest with
  | none =>
    have hk : ∀ o : Option (Job ε), o.filter (retained none n) = o := by
      intro o
      cases o <;> simp [retained]
    exact (hk _).symm
  | some k =>
    refine (get?_pruneSent hw k n).trans ?_
    congr 1
    funext j
    simp [retained]

theorem get?_advance_of_opening (h : t.WellFormed) (r : BlockRecord) (oldest : Option UInt32)
    {j : Job ε} (hj : j.status = .collecting) :
    (t.advance r (some j) oldest).get? j.subject = some j := by
  have hi : ((t.collect r).1.insert j).get? j.subject = some j := by
    rw [get?_insert, if_pos rfl]
  cases oldest with
  | none => exact hi
  | some k =>
    refine (get?_pruneSent ((h.collect r).insert j) k j.subject).trans ?_
    rw [hi, Option.filter_some]
    simp [hj]

end JobTable

def Event.opened? : Event → Option (ProofKind × UInt32)
  | .scheduleAnnounced _ n => some (.schedule, n)
  | .depositFound n _ => some (.deposit, n)
  | _ => none

theorem Job.event_of_collect {ε : Type} {j : Job ε} {r : BlockRecord} {e : Event}
    (he : e ∈ (j.collect r).2) : ∃ n k, e = .closedEarly n k := by
  unfold Job.collect at he
  simp only at he
  split_ifs at he <;> simp at he
  exact ⟨_, _, he⟩

theorem JobTable.event_of_feed {ε : Type} {r : BlockRecord} {ns : List UInt32}
    {jobs : NumberMap (Job ε)} {e : Event} (he : e ∈ (feed r ns jobs).2.2) :
    ∃ n k, e = .closedEarly n k := by
  induction ns generalizing jobs with
  | nil => simp [feed] at he
  | cons n ns ih =>
    unfold feed at he
    split at he
    · exact ih he
    · rcases List.mem_append.mp he with he | he
      · exact Job.event_of_collect he
      · exact ih he

theorem Deposits.opened_take (d : Deposits) (r : BlockRecord) :
    (d.take r).2.2.filterMap Event.opened? = [] := by
  unfold take
  simp only
  split
  · split_ifs <;> rfl
  · rfl

theorem Deposits.opened_apply (d : Deposits) (t : Transaction) :
    (d.apply t).2.filterMap Event.opened? = [] := by
  unfold apply
  split
  · rfl
  · simp only
    split <;> rfl

theorem FinalizedBlock.announced?_record (b : FinalizedBlock) :
    b.record.announced? = b.header.header.announced? := by
  have hr : b.record.announced? =
      if b.header.header.announced?.isSome then b.header.header.announced? else none := rfl
  rw [hr]
  cases b.header.header.announced? <;> rfl

namespace Relay

variable {s : Relay} {b : FinalizedBlock} {r : BlockRecord} {kind : ProofKind} {n : UInt32}

/-- The job of the schedule that a remembered block announces, if its anchor is still known. -/
def scheduleOpening? (s : Relay) (r : BlockRecord) : Option (Job ScheduleEvidence) :=
  r.announced?.bind fun schedule => (s.anchor? r).map fun anchor =>
    .ofSubject r anchor ⟨schedule, s.activeSchedule.map Schedule.digest⟩

def depositOpening? (s : Relay) (r : BlockRecord) : Option (Job DepositEvidence) :=
  (s.deposits.take r).2.1.bind fun d => (s.anchor? r).map fun anchor =>
    .ofSubject r anchor
      ⟨d.candidate.transactionId, d.candidate.action, d.candidate.receipt, d.digests, []⟩

def opening? (s : Relay) (r : BlockRecord) : ProofKind → Option (Job Evidence)
  | .schedule => (s.scheduleOpening? r).map (Job.map .schedule)
  | .deposit => (s.depositOpening? r).map (Job.map .deposit)

theorem collect_fst (s : Relay) (r : BlockRecord) : (s.collect r).1 =
    { s with
      scheduleJobs := (s.scheduleJobs.collect r).1
      depositJobs := (s.depositJobs.collect r).1 } := rfl

theorem openSchedule_fst (s : Relay) (r : BlockRecord) : (s.openSchedule r).1 =
    { s with
      scheduleJobs := (s.scheduleOpening? r).elim s.scheduleJobs s.scheduleJobs.insert
      activeSchedule := r.announced?.or s.activeSchedule } := by
  have ha : ∀ schedule, anchor? { s with activeSchedule := some schedule } r = s.anchor? r :=
    fun _ => rfl
  unfold openSchedule scheduleOpening?
  cases r.announced? with
  | none => rfl
  | some schedule =>
    simp only [ha]
    cases s.anchor? r <;> rfl

theorem openDeposit_fst (s : Relay) (r : BlockRecord) : (s.openDeposit r).1 =
    { s with
      deposits := (s.deposits.take r).1
      depositJobs := (s.depositOpening? r).elim s.depositJobs s.depositJobs.insert } := by
  have ha : ∀ deposits, anchor? { s with deposits } r = s.anchor? r := fun _ => rfl
  unfold openDeposit depositOpening?
  simp only
  cases (s.deposits.take r).2.1 with
  | none => rfl
  | some d =>
    simp only [ha]
    cases s.anchor? r <;> rfl

theorem prune_fst (s : Relay) : s.prune.1 =
    { s with
      scheduleJobs := s.ledger.oldest?.elim s.scheduleJobs fun k => (s.scheduleJobs.pruneSent k).1
      depositJobs := s.ledger.oldest?.elim s.depositJobs fun k => (s.depositJobs.pruneSent k).1 } := by
  unfold prune
  cases s.ledger.oldest? <;> rfl

theorem accept_fst (s : Relay) (r : BlockRecord) : (s.accept r).1 =
    { ledger := s.ledger
      deposits := (s.deposits.take r).1
      scheduleJobs := s.scheduleJobs.advance r (s.scheduleOpening? r) s.ledger.oldest?
      depositJobs := s.depositJobs.advance r (s.depositOpening? r) s.ledger.oldest?
      activeSchedule := r.announced?.or s.activeSchedule
      lastFinalized := s.lastFinalized } := by
  have hp : (s.accept r).1 = (((s.collect r).1.openSchedule r).1.openDeposit r).1.prune.1 := rfl
  rw [hp, collect_fst, openSchedule_fst, openDeposit_fst, prune_fst]
  rfl

theorem accept_snd (s : Relay) (r : BlockRecord) : (s.accept r).2 =
    (s.collect r).2 ++ ((s.collect r).1.openSchedule r).2 ++
      (((s.collect r).1.openSchedule r).1.openDeposit r).2 ++
      (((s.collect r).1.openSchedule r).1.openDeposit r).1.prune.2 := rfl

theorem event_of_collect {e : Event} (he : e ∈ (s.collect r).2) :
    (∃ n k, e = .closedEarly n k) ∨ ∃ kind n, e = .ready kind n := by
  simp only [collect, List.mem_append, List.mem_map] at he
  obtain ((he | ⟨n, -, rfl⟩) | he) | ⟨n, -, rfl⟩ := he
  · exact .inl (JobTable.event_of_feed he)
  · exact .inr ⟨_, n, rfl⟩
  · exact .inl (JobTable.event_of_feed he)
  · exact .inr ⟨_, n, rfl⟩

theorem event_of_prune {e : Event} (he : e ∈ s.prune.2) : ∃ m k, e = .pruned m k := by
  unfold prune at he
  split at he
  · simp at he
  · simp only at he
    split_ifs at he <;> simp at he
    exact ⟨_, _, he⟩

theorem opened_collect (s : Relay) (r : BlockRecord) :
    (s.collect r).2.filterMap Event.opened? = [] := by
  refine List.filterMap_eq_nil_iff.mpr fun e he => ?_
  obtain ⟨n, k, rfl⟩ | ⟨kind, n, rfl⟩ := event_of_collect he <;> rfl

theorem opened_openSchedule (s : Relay) (r : BlockRecord) :
    (s.openSchedule r).2.filterMap Event.opened? =
      if (s.scheduleOpening? r).isSome then [(.schedule, r.number)] else [] := by
  have ha : ∀ schedule, anchor? { s with activeSchedule := some schedule } r = s.anchor? r :=
    fun _ => rfl
  unfold openSchedule scheduleOpening?
  cases r.announced? with
  | none => rfl
  | some schedule =>
    simp only [ha]
    cases s.anchor? r <;> rfl

theorem opened_openDeposit (s : Relay) (r : BlockRecord) :
    (s.openDeposit r).2.filterMap Event.opened? =
      if (s.depositOpening? r).isSome then [(.deposit, r.number)] else [] := by
  have ha : ∀ deposits, anchor? { s with deposits } r = s.anchor? r := fun _ => rfl
  have ht := s.deposits.opened_take r
  unfold openDeposit depositOpening?
  simp only
  cases (s.deposits.take r).2.1 with
  | none => exact ht
  | some d =>
    simp only [ha]
    cases s.anchor? r <;> simp [ht, Event.opened?]

theorem opened_prune (s : Relay) : s.prune.2.filterMap Event.opened? = [] := by
  refine List.filterMap_eq_nil_iff.mpr fun e he => ?_
  obtain ⟨m, k, rfl⟩ := event_of_prune he
  rfl

theorem mem_opened_accept (s : Relay) (r : BlockRecord) (kind : ProofKind) (n : UInt32) :
    (kind, n) ∈ (s.accept r).2.filterMap Event.opened? ↔ r.number = n ∧ (s.opening? r kind).isSome := by
  have hs : (s.collect r).1.scheduleOpening? r = s.scheduleOpening? r := rfl
  have hd : ((s.collect r).1.openSchedule r).1.depositOpening? r = s.depositOpening? r := by
    rw [openSchedule_fst]
    rfl
  rw [accept_snd]
  simp only [List.filterMap_append, opened_collect, opened_openSchedule, opened_openDeposit,
    opened_prune, hs, hd, List.nil_append, List.append_nil, List.mem_append]
  cases kind with
  | schedule =>
    by_cases ho : (s.scheduleOpening? r).isSome
    · by_cases hq : (s.depositOpening? r).isSome <;> simp [opening?, ho, hq, eq_comm]
    · by_cases hq : (s.depositOpening? r).isSome <;> simp [opening?, ho, hq]
  | deposit =>
    by_cases ho : (s.scheduleOpening? r).isSome
    · by_cases hq : (s.depositOpening? r).isSome <;> simp [opening?, ho, hq, eq_comm]
    · by_cases hq : (s.depositOpening? r).isSome <;> simp [opening?, ho, hq, eq_comm]

theorem scheduleOpening?_eq_some {j : Job ScheduleEvidence} (hj : s.scheduleOpening? r = some j) :
    ∃ anchor, s.anchor? r = some anchor ∧ j = .ofSubject r anchor j.evidence := by
  simp only [scheduleOpening?, Option.map_eq_some_iff, Option.bind_eq_some_iff] at hj
  obtain ⟨_, -, anchor, ha, rfl⟩ := hj
  exact ⟨anchor, ha, rfl⟩

theorem depositOpening?_eq_some {j : Job DepositEvidence} (hj : s.depositOpening? r = some j) :
    ∃ anchor, s.anchor? r = some anchor ∧ j = .ofSubject r anchor j.evidence := by
  simp only [depositOpening?, Option.map_eq_some_iff, Option.bind_eq_some_iff] at hj
  obtain ⟨_, -, anchor, ha, rfl⟩ := hj
  exact ⟨anchor, ha, rfl⟩

theorem opening?_eq_some {j : Job Evidence} (hj : s.opening? r kind = some j) :
    ∃ anchor, s.anchor? r = some anchor ∧ j = .ofSubject r anchor j.evidence := by
  cases kind with
  | schedule =>
    obtain ⟨i, hi, rfl⟩ := Option.map_eq_some_iff.mp hj
    obtain ⟨anchor, ha, he⟩ := scheduleOpening?_eq_some hi
    exact ⟨anchor, ha, congrArg (Job.map Evidence.schedule) he⟩
  | deposit =>
    obtain ⟨i, hi, rfl⟩ := Option.map_eq_some_iff.mp hj
    obtain ⟨anchor, ha, he⟩ := depositOpening?_eq_some hi
    exact ⟨anchor, ha, congrArg (Job.map Evidence.deposit) he⟩

/-- Whether a block is taken in: it is newer than the last one and its id is not remembered. -/
def accepts (s : Relay) (b : FinalizedBlock) : Bool :=
  !s.isStale b.number && (s.ledger.get? b.id).isNone

/-- The relay that has recorded a block and not acted on it yet. -/
def remember (s : Relay) (b : FinalizedBlock) : Relay :=
  { s with
    ledger.records := (s.ledger.records ++ [b.record]).rtake s.ledger.capacity
    lastFinalized := some b.number }

theorem finalize_of_accepts (h : s.ledger.WellFormed) (hb : s.accepts b = true) :
    s.finalize b = (s.remember b).accept b.record := by
  simp only [accepts, Bool.and_eq_true, Bool.not_eq_true', Option.isNone_iff_eq_none] at hb
  have hr : s.ledger.record? b.record =
      some { s.ledger with records := (s.ledger.records ++ [b.record]).rtake s.ledger.capacity } := by
    refine h.record?_eq_some_iff.mpr ⟨?_, rfl⟩
    rw [← Ledger.get?_isSome_iff]
    simp [FinalizedBlock.record, hb.2]
  rw [finalize, hb.1, hr]
  rfl

theorem finalize_of_not_accepts (hb : s.accepts b = false) :
    (s.finalize b).1 = s ∧ (s.finalize b).2.filterMap Event.opened? = [] := by
  unfold finalize
  by_cases hs : s.isStale b.number = true
  · rw [if_pos hs]
    exact ⟨rfl, rfl⟩
  · have hi : (s.ledger.get? b.id).isSome := by
      simpa [accepts, hs, Option.isSome_iff_ne_none] using hb
    have hr : s.ledger.record? b.record = none := by
      rw [Ledger.record?]
      exact if_pos hi
    rw [if_neg hs, hr]
    exact ⟨rfl, rfl⟩

/-! ### Jobs across a block -/

theorem job?_accept_of_ne (h : s.Invariant) (hn : ∀ j ∈ s.opening? r kind, r.number ≠ n) :
    (s.accept r).1.job? kind n =
      ((s.job? kind n).map fun j => (j.collect r).1).filter
        (JobTable.retained s.ledger.oldest? n) := by
  have hm : ∀ {ε : Type} (f : ε → Evidence) (o : Option (Job ε)),
      ((o.map fun j => (j.collect r).1).filter (JobTable.retained s.ledger.oldest? n)).map (Job.map f) =
        ((o.map (Job.map f)).map fun j => (j.collect r).1).filter
          (JobTable.retained s.ledger.oldest? n) := by
    intro ε f o
    cases o with
    | none => rfl
    | some j =>
      simp only [Option.map_some, Job.collect_map, Option.filter_some, JobTable.retained_map]
      by_cases hk : JobTable.retained s.ledger.oldest? n (j.collect r).1 = true <;> simp [hk]
  rw [accept_fst]
  cases kind with
  | schedule =>
    have hs : ∀ j ∈ s.scheduleOpening? r, j.subject ≠ n := by
      intro j hj
      obtain ⟨_, _, he⟩ := scheduleOpening?_eq_some hj
      rw [he]
      exact hn _ (congrArg (Option.map (Job.map Evidence.schedule)) hj)
    simp only [job?, JobTable.get?_advance_of_ne h.scheduleJobs r _ hs, hm]
  | deposit =>
    have hs : ∀ j ∈ s.depositOpening? r, j.subject ≠ n := by
      intro j hj
      obtain ⟨_, _, he⟩ := depositOpening?_eq_some hj
      rw [he]
      exact hn _ (congrArg (Option.map (Job.map Evidence.deposit)) hj)
    simp only [job?, JobTable.get?_advance_of_ne h.depositJobs r _ hs, hm]

theorem job?_accept_of_opening (h : s.Invariant) {j : Job Evidence}
    (hj : s.opening? r kind = some j) : (s.accept r).1.job? kind r.number = some j := by
  rw [accept_fst]
  cases kind with
  | schedule =>
    obtain ⟨i, hi, rfl⟩ := Option.map_eq_some_iff.mp hj
    obtain ⟨_, _, he⟩ := scheduleOpening?_eq_some hi
    have hsub : i.subject = r.number := congrArg Job.subject he
    have hst : i.status = .collecting := congrArg Job.status he
    simp only [job?, hi, ← hsub, JobTable.get?_advance_of_opening h.scheduleJobs r _ hst]
    rfl
  | deposit =>
    obtain ⟨i, hi, rfl⟩ := Option.map_eq_some_iff.mp hj
    obtain ⟨_, _, he⟩ := depositOpening?_eq_some hi
    have hsub : i.subject = r.number := congrArg Job.subject he
    have hst : i.status = .collecting := congrArg Job.status he
    simp only [job?, hi, ← hsub, JobTable.get?_advance_of_opening h.depositJobs r _ hst]
    rfl

theorem lastFinalized_accept (s : Relay) (r : BlockRecord) :
    (s.accept r).1.lastFinalized = s.lastFinalized := by
  rw [accept_fst]

theorem accepts_iff (s : Relay) (b : FinalizedBlock) :
    s.accepts b = true ↔ s.isStale b.number = false ∧ b.id ∉ s.ledger.records.map (·.id) := by
  rw [← Ledger.get?_isSome_iff]
  simp [accepts]

theorem isStale_remember (s : Relay) (b : FinalizedBlock) (n : UInt32) :
    (s.remember b).isStale n = true ↔ n ≤ b.number := by
  simp [isStale, remember]

/-- What is stale stays so, since only newer blocks are accepted. -/
theorem isStale_remember_of_isStale (hb : s.accepts b = true) (hn : s.isStale n = true) :
    (s.remember b).isStale n = true := by
  rw [isStale_remember]
  obtain ⟨last, hl, hle⟩ := (s.isStale_iff n).mp hn
  have hs := ((s.accepts_iff b).mp hb).1
  rw [isStale, hl, Option.any_some, decide_eq_false_iff_not] at hs
  exact UInt32.le_trans hle (UInt32.le_of_lt (UInt32.not_le.mp hs))

namespace Invariant

theorem remember (h : s.Invariant) (hb : s.accepts b = true) : (s.remember b).Invariant where
  ledger := by
    refine h.ledger.record? (r := b.record) (h.ledger.record?_eq_some_iff.mpr ⟨?_, rfl⟩)
    exact ((s.accepts_iff b).mp hb).2
  numbers := by
    refine List.Pairwise.sublist (Ledger.rtake_sublist _ _) ?_
    refine List.pairwise_append.mpr ⟨h.numbers, List.pairwise_singleton _ _, fun r hr r' hr' => ?_⟩
    have hs := ((s.accepts_iff b).mp hb).1
    obtain ⟨last, hl, hle⟩ := (s.isStale_iff r.number).mp (h.number_le hr)
    rw [isStale, hl, Option.any_some, decide_eq_false_iff_not] at hs
    rw [List.mem_singleton.mp hr']
    exact UInt32.lt_of_le_of_lt hle (UInt32.not_le.mp hs)
  last := by
    simp only [Relay.remember, Ledger.getLast?_rtake h.ledger.positive, List.getLast?_append]
    rfl
  pending := h.pending
  scheduleJobs := h.scheduleJobs
  depositJobs := h.depositJobs
  stale {kind n j} hj := isStale_remember_of_isStale hb (h.stale hj)

theorem accept (h : s.Invariant) (hr : s.isStale r.number = true) : (s.accept r).1.Invariant where
  ledger := by
    rw [accept_fst]
    exact h.ledger
  numbers := by
    rw [accept_fst]
    exact h.numbers
  last := by
    rw [accept_fst]
    exact h.last
  pending := by
    rw [accept_fst]
    exact Deposits.ascending_take h.pending r
  scheduleJobs := by
    rw [accept_fst]
    exact h.scheduleJobs.advance r _ _
  depositJobs := by
    rw [accept_fst]
    exact h.depositJobs.advance r _ _
  stale {kind n j} hj := by
    rw [isStale_congr (lastFinalized_accept s r)]
    by_cases hn : ∀ j ∈ s.opening? r kind, r.number ≠ n
    · rw [job?_accept_of_ne h hn] at hj
      obtain ⟨i, hi, -⟩ := Option.map_eq_some_iff.mp (Option.filter_eq_some_iff.mp hj).1
      exact h.stale hi
    · simp only [not_forall, not_not] at hn
      obtain ⟨_, _, rfl⟩ := hn
      exact hr

theorem finalize (h : s.Invariant) (b : FinalizedBlock) : (s.finalize b).1.Invariant := by
  by_cases hb : s.accepts b = true
  · rw [finalize_of_accepts h.ledger hb]
    refine (h.remember hb).accept ?_
    exact (isStale_remember s b b.number).mpr (UInt32.le_refl _)
  · rw [(finalize_of_not_accepts (by simpa using hb)).1]
    exact h

theorem apply (h : s.Invariant) (t : Transaction) : (s.apply t).1.Invariant where
  ledger := h.ledger
  numbers := h.numbers
  last := h.last
  pending := Deposits.ascending_apply h.pending t
  scheduleJobs := h.scheduleJobs
  depositJobs := h.depositJobs
  stale hj := h.stale hj

theorem notify (h : s.Invariant) (x : Notification) : (s.notify x).1.Invariant := by
  cases x with
  | finalized b => exact h.finalize b
  | applied t => exact h.apply t

end Invariant

theorem job?_eq_none_of_accepts (h : s.Invariant) (hb : s.accepts b = true) (kind : ProofKind) :
    s.job? kind b.number = none := by
  refine Option.eq_none_iff_forall_ne_some.mpr fun j hj => ?_
  exact Bool.false_ne_true (((s.accepts_iff b).mp hb).1.symm.trans (h.stale hj))

/-- An accepted block opens a job where there was none, or leaves a job to take the block in. -/
theorem job?_of_accepts (h : s.Invariant) (hb : s.accepts b = true) (kind : ProofKind) (n : UInt32) :
    (∃ j, (s.remember b).opening? b.record kind = some j ∧ b.number = n ∧ s.job? kind n = none ∧
      ((s.remember b).accept b.record).1.job? kind n = some j) ∨
    ((∀ j ∈ (s.remember b).opening? b.record kind, b.number ≠ n) ∧
      ((s.remember b).accept b.record).1.job? kind n =
        ((s.job? kind n).map fun j => (j.collect b.record).1).filter
          (JobTable.retained (s.remember b).ledger.oldest? n)) := by
  by_cases hn : ∀ j ∈ (s.remember b).opening? b.record kind, b.number ≠ n
  · exact .inr ⟨hn, job?_accept_of_ne (h.remember hb) hn⟩
  · simp only [not_forall, not_not] at hn
    obtain ⟨j, hj, rfl⟩ := hn
    exact .inl ⟨j, hj, rfl, job?_eq_none_of_accepts h hb kind,
      job?_accept_of_opening (h.remember hb) hj⟩

/-- The job of an accepted block, or what the block leaves of a job from before. -/
theorem job?_accept_eq (h : s.Invariant) (hb : s.accepts b = true) (kind : ProofKind) (n : UInt32) :
    ((s.remember b).accept b.record).1.job? kind n =
      (((s.remember b).opening? b.record kind).filter fun _ => b.number = n).or
        (((s.job? kind n).map fun j => (j.collect b.record).1).filter
          (JobTable.retained (s.remember b).ledger.oldest? n)) := by
  rcases job?_of_accepts h hb kind n with ⟨j, ho, hn, hj, ha⟩ | ⟨hn, ha⟩
  · rw [ha, ho, Option.filter_some, if_pos (decide_eq_true hn)]
    rfl
  · have hf : (((s.remember b).opening? b.record kind).filter fun _ => b.number = n) = none := by
      refine Option.filter_eq_none_iff.mpr fun j hj => ?_
      simpa using hn j hj
    rw [ha, hf, Option.none_or]

end Relay

end FinalityRelay
