import FinalityRelay.Proofs.Inclusion
import FinalityRelay.Proofs.JobLife
import FinalityRelay.Proofs.Offers
import FinalityRelay.Proofs.Provenance
import FinalityRelay.Proofs.Unswept

/-! When a submitted deposit can be verified. Its path leads to the action root of its block unless a
mismatch was reported when the block became final, and it has a path if the transactions came with the
receipts of their deposits. -/

namespace FinalityRelay

def Event.isMismatch : Event → Bool
  | .receiptsMismatch _ _ _ => true
  | _ => false

/-- Whether a turn reported that the receipts of a block are not those that its header commits to. -/
def Turn.mismatched (t : Turn) : Bool := t.events.any Event.isMismatch

theorem Deposits.isMismatch_take {d : Deposits} {r : BlockRecord} {e : Deposit}
    (he : (d.take r).2.1 = some e) :
    (d.take r).2.2.any Event.isMismatch = decide (Merkle.root e.digests ≠ r.actionRoot) := by
  unfold take at he ⊢
  simp only at he ⊢
  split at he
  · rename_i n digests c hs
    by_cases hn : n = r.number
    · rw [if_pos hn] at he ⊢
      obtain rfl := Option.some.inj he
      by_cases hr : Merkle.root digests = r.actionRoot <;> simp [hr, Event.isMismatch]
    · simp [hn] at he
  · simp at he

namespace Relay

variable {s : Relay} {r : BlockRecord}

theorem isMismatch_collect (s : Relay) (r : BlockRecord) :
    (s.collect r).2.any Event.isMismatch = false := by
  refine List.any_eq_false.mpr fun e he => ?_
  obtain ⟨n, k, rfl⟩ | ⟨kind, n, rfl⟩ := event_of_collect he <;> simp [Event.isMismatch]

theorem isMismatch_openSchedule (s : Relay) (r : BlockRecord) :
    (s.openSchedule r).2.any Event.isMismatch = false := by
  unfold openSchedule
  split
  · rfl
  · simp only
    split <;> rfl

theorem isMismatch_openDeposit (s : Relay) (r : BlockRecord) :
    (s.openDeposit r).2.any Event.isMismatch = (s.deposits.take r).2.2.any Event.isMismatch := by
  unfold openDeposit
  simp only
  split
  · rfl
  · split <;> simp [Event.isMismatch]

theorem isMismatch_prune (s : Relay) : s.prune.2.any Event.isMismatch = false := by
  refine List.any_eq_false.mpr fun e he => ?_
  obtain ⟨m, k, rfl⟩ := event_of_prune he
  simp [Event.isMismatch]

theorem isMismatch_accept (s : Relay) (r : BlockRecord) :
    (s.accept r).2.any Event.isMismatch = (s.deposits.take r).2.2.any Event.isMismatch := by
  have hd : ((s.collect r).1.openSchedule r).1.deposits = s.deposits := by
    rw [openSchedule_fst]
    rfl
  simp only [accept_snd, List.any_append, isMismatch_collect, isMismatch_openSchedule,
    isMismatch_openDeposit, isMismatch_prune, hd, Bool.or_false, Bool.false_or]

end Relay

/-! ### What a job is checked against -/

theorem Window.head?_push {w : Window} {h : SignedHeader} (hw : w.headers.head? = some h)
    (number : UInt32) (id : Digest) (next : SignedHeader) :
    (w.push number id next).1.headers.head? = some h := by
  unfold push
  split_ifs
  · exact hw
  · rw [List.head?_append_of_ne_nil _ (by rintro he; simp [he] at hw)]
    exact hw
  · unfold pushId
    split
    · exact hw
    · split_ifs <;> exact hw

namespace Evidence

def siblings : Evidence → List Digest
  | .schedule _ => []
  | .deposit e => e.siblings

theorem siblings_withoutPath (e : Evidence) : e.withoutPath.siblings = e.siblings := by
  cases e <;> rfl

end Evidence

/-- The job of a block that was accepted in a turn: it starts with the header of the block, and its
receipts lead to the action root there unless the turn reported a mismatch. -/
structure Job.Settles (t : Turn) (j : Job Evidence) (b : FinalizedBlock) : Prop where
  accepted : t.accepted? = some b
  subject : b.number = j.subject
  header : j.window.headers.head? = some b.header
  root : Merkle.root j.evidence.siblings = b.header.header.actionRoot ↔ t.mismatched = false

theorem JobStep.head? {j j' : Job Evidence} {as : List Attempt} {h : SignedHeader}
    (hs : JobStep (some j) as (some j')) (hj : j.window.headers.head? = some h) :
    j'.window.headers.head? = some h := by
  cases hs with
  | kept => exact hj
  | collected r =>
    rw [Job.collect_fst]
    split
    · exact Window.head?_push hj _ _ _
    · exact hj
  | swept hw =>
    cases hw with
    | resting => exact hj
    | attempted a hr hp =>
      obtain ⟨e, -, rfl⟩ := Job.prepared?_eq_some_iff.mp hp
      unfold Job.answered Job.accepted
      split_ifs <;> exact hj

theorem Job.Settles.step {t : Turn} {j j' : Job Evidence} {b : FinalizedBlock} {as : List Attempt}
    (h : j.Settles t b) (hs : JobStep (some j) as (some j')) : j'.Settles t b := by
  have hd := hs.dossier
  have hsib : j'.evidence.siblings = j.evidence.siblings := by
    have he : j'.evidence.withoutPath = j.evidence.withoutPath := congrArg Dossier.evidence hd
    rw [← Evidence.siblings_withoutPath, he, Evidence.siblings_withoutPath]
  exact ⟨h.accepted, h.subject.trans (congrArg Dossier.subject hd).symm, hs.head? h.header,
    hsib ▸ h.root⟩

theorem Relay.settles_of_opening {s : Relay} {b : FinalizedBlock} {j : Job Evidence}
    (hj : (s.remember b).opening? b.record .deposit = some j) :
    j.window.headers.head? = some b.header ∧
      (Merkle.root j.evidence.siblings = b.header.header.actionRoot ↔
        ((s.remember b).accept b.record).2.any Event.isMismatch = false) := by
  obtain ⟨i, hi, rfl⟩ := Option.map_eq_some_iff.mp hj
  simp only [depositOpening?, Option.bind_eq_some_iff, Option.map_eq_some_iff] at hi
  obtain ⟨d, hd, anchor, -, rfl⟩ := hi
  rw [isMismatch_accept, Deposits.isMismatch_take hd, decide_eq_false_iff_not, not_not]
  exact ⟨rfl, Iff.rfl⟩

theorem Turn.Valid.settles_of_appears {t : Turn} {n : UInt32} {j : Job Evidence} (ht : t.Valid)
    (h : t.before.Invariant) (hb : t.before.job? .deposit n = none)
    (ha : t.after.job? .deposit n = some j) : ∃ b, j.Settles t b := by
  obtain ⟨b, haccepted, -, hn, hj, hevents⟩ := ht.opening_of_appears h hb ha
  obtain ⟨hhead, hroot⟩ := Relay.settles_of_opening hj
  have hsub := (ht.invariant h).subject ha
  refine ⟨b, haccepted, hn.trans hsub.symm, hhead, ?_⟩
  rw [mismatched, hevents]
  exact hroot

/-- Every deposit job was opened by a turn that it settles. -/
structure Relay.Attested (ts : List Turn) (s : Relay) : Prop where
  invariant : s.Invariant
  jobs : ∀ {n j}, s.job? .deposit n = some j →
    ∃ t ∈ ts, t.opens .deposit n = true ∧ ∃ b, j.Settles t b

theorem Turn.Valid.attested {t : Turn} {ts : List Turn} (ht : t.Valid) (h : t.before.Attested ts) :
    t.after.Attested (ts ++ [t]) where
  invariant := ht.invariant h.invariant
  jobs {n j'} hj' := by
    have hs := ht.jobStep h.invariant .deposit n
    -- a job that was there keeps what it is checked against, a new one is settled by this turn
    cases hb : t.before.job? .deposit n with
    | none =>
      have ho := ht.opens_of_appears h.invariant hb (by simp [hj'])
      exact ⟨t, by simp, ho, ht.settles_of_appears h.invariant hb hj'⟩
    | some j =>
      obtain ⟨t₀, ht₀, ho, b, hset⟩ := h.jobs hb
      rw [hb, hj'] at hs
      exact ⟨t₀, List.mem_append_left _ ht₀, ho, b, hset.step hs⟩

/-! ### Receipts that are at hand -/

/-- The receipts of a transaction include those of its deposits. -/
def Transaction.ListsDeposits (tokenContract bridgeAccount : Name) (t : Transaction) : Prop :=
  ∀ x ∈ t.traces, x.IsDeposit tokenContract bridgeAccount → ∀ receipt ∈ x.receipt,
    receipt ∈ t.receipts

/-- The digest of the receipt of a candidate is among those of its block. -/
def PendingBlock.Complete (p : PendingBlock) : Prop :=
  ∀ c ∈ p.candidate, c.receipt.digest ∈ p.digests

namespace Deposits

variable {d : Deposits}

theorem complete_pendingAt (h : ∀ n, ∀ p ∈ d.pending.get? n, p.Complete) (n : UInt32) :
    (d.pendingAt n).Complete := by
  rw [pendingAt]
  cases hp : d.pending.get? n with
  | none => simp [PendingBlock.Complete]
  | some p => exact h n p hp

theorem complete_pendingAfter (h : ∀ n, ∀ p ∈ d.pending.get? n, p.Complete) {t : Transaction}
    (ht : t.ListsDeposits d.tokenContract d.bridgeAccount) (n : UInt32) :
    (d.pendingAfter t n).Complete := by
  intro c hc
  rcases Option.or_eq_some_iff.mp hc with hc | ⟨-, hc⟩
  · obtain ⟨-, hmade⟩ := candidate?_eq_some (Option.join_eq_some_iff.mp hc)
    obtain ⟨-, x, hx, -, hr⟩ := hmade.resolve_left (by simp)
    obtain ⟨hx, hd⟩ := List.mem_filter.mp hx
    exact List.mem_append_right _ (List.mem_map_of_mem (ht x hx (isDeposit_iff.mp hd) _ hr))
  · exact List.mem_append_left _ (complete_pendingAt h n c hc)

theorem complete_apply (h : ∀ n, ∀ p ∈ d.pending.get? n, p.Complete) {t : Transaction}
    (ht : t.ListsDeposits d.tokenContract d.bridgeAccount) :
    ∀ n, ∀ p ∈ (d.apply t).1.pending.get? n, p.Complete := by
  intro n p hp
  rw [apply_fst] at hp
  cases hx : t.traces with
  | nil =>
    rw [hx] at hp
    exact h n p hp
  | cons first rest =>
    simp only [hx, setPending, NumberMap.get?_insert] at hp
    split at hp
    · rw [← Option.some.inj hp]
      exact complete_pendingAfter h ht _
    · exact h n p hp

theorem complete_take (h : ∀ n, ∀ p ∈ d.pending.get? n, p.Complete) (r : BlockRecord) :
    ∀ n, ∀ p ∈ (d.take r).1.pending.get? n, p.Complete := by
  intro n p hp
  rw [take_fst, NumberMap.get?_upFrom] at hp
  split at hp
  · exact h n p hp
  · simp at hp

theorem mem_digests_of_take (hasc : d.pending.Ascending)
    (h : ∀ n, ∀ p ∈ d.pending.get? n, p.Complete) {r : BlockRecord} {e : Deposit}
    (he : (d.take r).2.1 = some e) : e.candidate.receipt.digest ∈ e.digests := by
  rw [take_deposit hasc] at he
  split at he
  · simp at he
  · obtain ⟨p, hp, hc⟩ := Option.bind_eq_some_iff.mp he
    obtain ⟨c, hpc, rfl⟩ := Option.map_eq_some_iff.mp hc
    exact h _ p hp c hpc

end Deposits

/-- No candidate and no job lacks its receipt among those of its block. -/
structure Relay.Provable (s : Relay) : Prop where
  invariant : s.Invariant
  pending : ∀ n, ∀ p ∈ s.deposits.pending.get? n, p.Complete
  jobs : ∀ {kind n j}, s.job? kind n = some j → j.evidence.refreshed? ≠ none

namespace Relay.Provable

variable {s : Relay}

theorem start (tokenContract bridgeAccount : Name) (capacity : Nat) :
    (start tokenContract bridgeAccount capacity).Provable where
  invariant := invariant_start tokenContract bridgeAccount capacity
  pending n p hp := by simp [Relay.start, Deposits.watching] at hp
  jobs hj := by simp at hj

theorem of_opening (h : s.Provable) {r : BlockRecord} {kind : ProofKind} {j : Job Evidence}
    (hj : s.opening? r kind = some j) : j.evidence.refreshed? ≠ none := by
  rw [Ne, Evidence.refreshed?_eq_none_iff]
  rintro ⟨e, he, hm⟩
  cases kind with
  | schedule =>
    obtain ⟨i, -, rfl⟩ := Option.map_eq_some_iff.mp hj
    simp [Job.map] at he
  | deposit =>
    obtain ⟨i, hi, rfl⟩ := Option.map_eq_some_iff.mp hj
    simp only [depositOpening?, Option.bind_eq_some_iff, Option.map_eq_some_iff] at hi
    obtain ⟨d, hd, anchor, -, rfl⟩ := hi
    obtain rfl := Evidence.deposit.inj he
    exact hm (Deposits.mem_digests_of_take h.invariant.pending h.pending hd)

theorem remember (h : s.Provable) {b : FinalizedBlock} (hb : s.accepts b = true) :
    (s.remember b).Provable :=
  ⟨h.invariant.remember hb, h.pending, h.jobs⟩

theorem dropped_sweep (h : s.Provable) (answers : Nat → Answer) :
    (s.sweep answers).report.dropped = 0 := by
  rw [Relay.dropped_sweep h.invariant.indexed, List.countP_eq_zero]
  rintro ⟨kind, n⟩ -
  rw [drops]
  cases hj : s.job? kind n with
  | none => simp
  | some j => simp [Job.prepared?, h.jobs hj]

end Relay.Provable

theorem JobStep.refreshed? {j j' : Job Evidence} {as : List Attempt}
    (hs : JobStep (some j) as (some j')) : j'.evidence.refreshed? = j.evidence.refreshed? := by
  have he : j'.evidence.withoutPath = j.evidence.withoutPath := congrArg Dossier.evidence hs.dossier
  rw [← Evidence.refreshed?_withoutPath, he, Evidence.refreshed?_withoutPath]

namespace Turn

variable {t : Turn}

theorem Valid.provable (ht : t.Valid) (h : t.before.Provable)
    (hlist : ∀ x, t.input = .task (.notify (.applied x)) →
      x.ListsDeposits t.before.deposits.tokenContract t.before.deposits.bridgeAccount) :
    t.after.Provable where
  invariant := ht.invariant h.invariant
  pending := by
    cases ht.effect h.invariant with
    | ignored _ after => exact after ▸ h.pending
    | applied x input after => exact after ▸ Deposits.complete_apply h.pending (hlist x input)
    | block b _ _ after =>
      rw [after, Relay.accept_fst]
      exact Deposits.complete_take h.pending b.record
    | sweep answers _ after =>
      rw [after, (t.before.frame_sweep answers).deposits]
      exact h.pending
    | restart _ _ _ _ after => simp [after, Relay.successor, Deposits.watching]
  jobs {kind n j'} hj' := by
    have hs := ht.jobStep h.invariant kind n
    cases hb : t.before.job? kind n with
    | some j =>
      rw [hb, hj'] at hs
      exact hs.refreshed? ▸ h.jobs hb
    | none =>
      obtain ⟨b, -, hacc, -, hj, -⟩ := ht.opening_of_appears h.invariant hb hj'
      exact (h.remember hacc).of_opening hj

end Turn

/-- What is submitted for a deposit job leads from the receipt to the root of its siblings. -/
theorem Job.rootFromPath_of_submission {j j' : Job Evidence} {x : DepositSubmission}
    (hp : j.prepared? = some j') (hx : j'.submission = .deposit x) :
    Merkle.rootFromPath x.receipt.digest x.path = Merkle.root j.evidence.siblings ∧
      x.headers = j.window.headers := by
  obtain ⟨e, he, rfl⟩ := Job.prepared?_eq_some_iff.mp hp
  cases hj : j.evidence with
  | schedule d =>
    rw [hj] at he
    simp [← Option.some.inj he, submission] at hx
  | deposit d =>
    rw [hj] at he
    obtain ⟨d', hd, rfl⟩ := Option.map_eq_some_iff.mp he
    have hok : d.refreshPath = .ok d' := by
      cases hr : d.refreshPath with
      | error err => simp [hr, Except.toOption] at hd
      | ok d'' => simpa [hr, Except.toOption] using hd
    simp only [submission, Submission.deposit.injEq] at hx
    rw [← hx]
    exact ⟨DepositEvidence.rootFromPath_of_refreshPath hok, rfl⟩

theorem Turn.Valid.verifies_iff {t : Turn} {past : List Turn} {a : Attempt} {x : DepositSubmission}
    (ht : t.Valid) (h : t.before.Attested past) (ha : a ∈ t.attempts)
    (hx : a.submission = .deposit x) :
    ∃ t₀ ∈ past, t₀.opens .deposit x.subject = true ∧ ∃ b, t₀.accepted? = some b ∧
      b.number = x.subject ∧ x.headers.head? = some b.header ∧
      (Merkle.rootFromPath x.receipt.digest x.path = b.header.header.actionRoot ↔
        t₀.mismatched = false) := by
  obtain ⟨j, j', hj, -, hp, hs⟩ := ht.job_of_attempt h.invariant ha
  rw [hx] at hj hs
  obtain ⟨t₀, ht₀, ho, b, hset⟩ := h.jobs hj
  obtain ⟨hroot, hheaders⟩ := Job.rootFromPath_of_submission hp hs.symm
  have hsub : j.subject = x.subject := h.invariant.subject hj
  rw [hroot, hheaders]
  exact ⟨t₀, ht₀, ho, b, hset.accepted, hset.subject.trans hsub, hset.header, hset.root⟩

theorem Turn.Valid.keeps_deposits {t : Turn} {answers : Nat → Answer} (ht : t.Valid)
    (h : t.before.Provable) (hi : t.input = .task (.sweep answers)) {n : UInt32}
    (hn : (t.before.job? .deposit n).isSome) : (t.after.job? .deposit n).isSome := by
  obtain ⟨j, hj⟩ := Option.isSome_iff_exists.mp hn
  rw [Option.isSome_iff_ne_none]
  intro hgone
  rcases ht.of_leaves h.invariant hj hgone with ⟨-, ⟨b, hb⟩, -⟩ | ⟨-, -, -, hr⟩
  · simp [hi] at hb
  · exact h.jobs hj hr

namespace Relay

theorem attested_start (tokenContract bridgeAccount : Name) (capacity : Nat) :
    (start tokenContract bridgeAccount capacity).Attested [] where
  invariant := invariant_start tokenContract bridgeAccount capacity
  jobs hj := by simp at hj

/-- The proof of a submitted deposit leads to the action root of its first header if and only if no
mismatch was reported when the block of its job became final. No sweep drops a deposit job if the
transactions come with the receipts of their deposits. -/
theorem deposit_verifies_iff (tokenContract bridgeAccount : Name) (capacity : Nat)
    (inputs : List Input) :
    let turns := (start tokenContract bridgeAccount capacity).run inputs
    (∀ (past : List Turn) t future, turns = past ++ t :: future → ∀ a ∈ t.attempts, ∀ x,
      a.submission = .deposit x →
        ∃ t₀ b, past.filter (·.opens .deposit x.subject) = [t₀] ∧ t₀.accepted? = some b ∧
          b.number = x.subject ∧ x.headers.head? = some b.header ∧
          (Merkle.rootFromPath x.receipt.digest x.path = b.header.header.actionRoot ↔
            t₀.mismatched = false)) ∧
    ((∀ t ∈ turns, ∀ x, t.input = .task (.notify (.applied x)) →
        x.ListsDeposits t.before.deposits.tokenContract t.before.deposits.bridgeAccount) →
      ∀ t ∈ turns, ∀ answers, t.input = .task (.sweep answers) →
        (t.before.sweep answers).report.dropped = 0 ∧
          ∀ n, (t.before.job? .deposit n).isSome → (t.after.job? .deposit n).isSome) := by
  intro turns
  refine ⟨fun past t future hrun a ha x hx => ?_, fun hlist t ht answers hi => ?_⟩
  · obtain ⟨hv, hatt⟩ := run_before (P := fun ts s => s.Attested ts)
      (attested_start tokenContract bridgeAccount capacity) (fun ts t hv hs => hv.attested hs) hrun
    obtain ⟨t₀, ht₀, ho, b, hb⟩ := hv.verifies_iff hatt ha hx
    refine ⟨t₀, b, ?_, hb⟩
    have hmem : t₀ ∈ past.filter (·.opens .deposit x.subject) := List.mem_filter.mpr ⟨ht₀, ho⟩
    have hlen : (past.filter (·.opens .deposit x.subject)).length ≤ 1 := by
      have honce : (turns.filter (·.opens .deposit x.subject)).length ≤ 1 :=
        run_opened_once (invariant_start tokenContract bridgeAccount capacity) inputs .deposit _
      rw [hrun, List.filter_append, List.length_append] at honce
      omega
    obtain ⟨t', ht'⟩ := List.length_eq_one_iff.mp (hlen.antisymm (List.length_pos_of_mem hmem))
    rw [ht'] at hmem ⊢
    rw [List.mem_singleton.mp hmem]
  · obtain ⟨past, future, hrun⟩ := List.append_of_mem ht
    obtain ⟨hv, hp⟩ := run_split (P := fun _ s => s.Provable)
      (Provable.start tokenContract bridgeAccount capacity)
      (fun ts t rest hts hv hs => hv.provable hs (hlist t (by simp [turns, hts]))) hrun
    exact ⟨hp.dropped_sweep answers, fun n hn => hv.keeps_deposits hp hi hn⟩

end Relay

namespace Sample

def settledTransaction : Transaction := deposit 1 3 (name "alice") 2

/-- A deposit in a block which commits to its receipts. -/
def committedDeposit : List Input :=
  let b := plainBlock 3 none
  let root := Merkle.root (settledTransaction.receipts.map Receipt.digest)
  [.task (.notify (.finalized (plainBlock 1 none))), .task (.notify (.finalized (plainBlock 2 none))),
    .task (.notify (.applied settledTransaction)),
    .task (.notify (.finalized { b with header.header.actionRoot := root })),
    .task (.notify (.finalized (plainBlock 200 none))), .task (.sweep fun _ => .accepted "")]

end Sample

theorem Relay.verifies_of_committedDeposit :
    let turns := (start (Sample.name Sample.tokenContract) (Sample.name Sample.bridgeAccount) 5).run
      Sample.committedDeposit
    (∃ t ∈ turns, ∃ a ∈ t.attempts, ∃ x b, a.submission = .deposit x ∧
      x.headers.head? = some b ∧
      Merkle.rootFromPath x.receipt.digest x.path = b.header.actionRoot) ∧
    (∀ t ∈ turns, ∀ x, t.input = .task (.notify (.applied x)) →
      x.ListsDeposits t.before.deposits.tokenContract t.before.deposits.bridgeAccount) ∧
    ∀ t ∈ turns, ∀ answers, t.input = .task (.sweep answers) →
      (t.before.sweep answers).report.dropped = 0 := by
  intro turns
  let glance (t : Turn) := (t.mismatched, t.attempts.map fun a => a.submission.kind)
  have hmap : turns.map glance = List.replicate 5 (false, []) ++ [(false, [.deposit])] := by
    decide +kernel
  have hlist : ∀ t ∈ turns, ∀ x, t.input = .task (.notify (.applied x)) →
      x.ListsDeposits t.before.deposits.tokenContract t.before.deposits.bridgeAccount := by
    intro t ht x hx
    have hm := mem_inputs_of_mem_run ht
    simp only [hx, Sample.committedDeposit, List.mem_cons, List.not_mem_nil, Input.task.injEq,
      Task.notify.injEq, Notification.applied.injEq, reduceCtorEq, false_or, or_false] at hm
    subst hm
    intro trace htrace _ receipt hreceipt
    rw [List.mem_singleton.mp htrace] at hreceipt
    rw [← Option.some.inj hreceipt]
    exact List.mem_cons_self
  obtain ⟨hverifies, hdrops⟩ := deposit_verifies_iff (Sample.name Sample.tokenContract)
    (Sample.name Sample.bridgeAccount) 5 Sample.committedDeposit
  refine ⟨?_, hlist, fun t ht answers hi => (hdrops hlist t ht answers hi).1⟩
  have hquiet : ∀ t ∈ turns, t.mismatched = false := by
    intro t ht
    have hm : glance t ∈ turns.map glance := List.mem_map_of_mem ht
    rw [hmap] at hm
    rcases List.mem_append.mp hm with hm | hm
    · exact congrArg Prod.fst (List.eq_of_mem_replicate hm)
    · exact congrArg Prod.fst (List.mem_singleton.mp hm)
  have hlast : turns.getLast?.map glance = some (false, [.deposit]) := by
    rw [← List.getLast?_map, hmap, List.getLast?_concat]
  obtain ⟨t, ht, hk⟩ := Option.map_eq_some_iff.mp hlast
  obtain ⟨past, hrun⟩ := List.getLast?_eq_some_iff.mp ht
  obtain ⟨a, hat, hk⟩ := List.map_eq_singleton_iff.mp (congrArg Prod.snd hk)
  have ha : a ∈ t.attempts := by rw [hat, List.mem_singleton]
  cases hx : a.submission with
  | schedule x => simp [hx, Submission.kind] at hk
  | deposit x =>
    obtain ⟨t₀, b, hopen, -, -, hhead, hiff⟩ := hverifies past t [] hrun a ha x hx
    have ht₀ : t₀ ∈ turns := by
      rw [hrun]
      exact List.mem_append_left _ (List.mem_of_mem_filter (hopen ▸ List.mem_singleton_self t₀))
    exact ⟨t, hrun ▸ by simp, a, ha, x, b.header, hx, hhead, hiff.mpr (hquiet t₀ ht₀)⟩

end FinalityRelay
