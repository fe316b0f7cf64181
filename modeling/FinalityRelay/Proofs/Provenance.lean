import FinalityRelay.Proofs.History
import FinalityRelay.Sample.Deposit

/-! Where the submitted deposits come from. Each one was made by a transfer of a transaction that was
applied before its block became final. -/

namespace FinalityRelay

variable {tokenContract bridgeAccount : Name}

/-- A successful transfer of the token contract from another account to the bridge. -/
structure Trace.IsDeposit (tokenContract bridgeAccount : Name) (x : Trace) : Prop where
  exception : x.exception = none
  receiver : x.receiver = tokenContract
  account : x.action.account = tokenContract
  name : Name.parse "transfer" = .ok x.action.name
  transfer : ∃ data, x.action.transfer? = .ok data ∧ data.recipient = bridgeAccount ∧
    data.sender ≠ bridgeAccount

/-- A transaction in block `n` that makes the deposit `c`. -/
structure Transaction.Makes (tokenContract bridgeAccount : Name) (t : Transaction) (n : UInt32)
    (c : Candidate) : Prop where
  id : t.id = c.transactionId
  block : t.traces.head?.map Trace.blockNumber = some n
  receipts : ∀ x ∈ t.traces, x.IsDeposit tokenContract bridgeAccount → x.receipt.isSome
  deposit : ∃ x ∈ t.traces, x.IsDeposit tokenContract bridgeAccount ∧ x.action = c.action ∧
    x.receipt = some c.receipt

namespace Deposits

variable {d : Deposits} {n : UInt32} {c : Candidate}

theorem parse_transfer : Name.parse "transfer" = .ok transferName := by decide

theorem isDeposit_iff {x : Trace} :
    d.isDeposit x = true ↔ x.IsDeposit d.tokenContract d.bridgeAccount := by
  constructor
  · intro h
    simp only [isDeposit, Bool.and_eq_true, Option.isNone_iff_eq_none, decide_eq_true_eq] at h
    obtain ⟨⟨⟨⟨he, hr⟩, ha⟩, hn⟩, ht⟩ := h
    refine ⟨he, hr, ha, hn ▸ parse_transfer, ?_⟩
    cases hx : x.action.transfer? with
    | error e => simp [hx] at ht
    | ok data => exact ⟨data, rfl, by simpa [hx] using ht⟩
  · rintro ⟨he, hr, ha, hn, data, hx, ht⟩
    have hn : x.action.name = transferName := Except.ok.inj (hn.symm.trans parse_transfer)
    simp [isDeposit, he, hr, ha, hn, hx, ht]

theorem candidate?_eq_some {id : Digest} {xs : List Trace} {found : Option Candidate}
    (h : candidate? id xs found = some (some c)) :
    (∀ x ∈ xs, x.receipt.isSome) ∧ (found = some c ∨
      id = c.transactionId ∧ ∃ x ∈ xs, x.action = c.action ∧ x.receipt = some c.receipt) := by
  induction xs generalizing found with
  | nil => exact ⟨by simp, .inl (Option.some.inj h)⟩
  | cons x xs ih =>
    cases hx : x.receipt with
    | none => simp [candidate?, hx] at h
    | some receipt =>
      simp only [candidate?, hx] at h
      obtain ⟨hall, hc⟩ := ih h
      refine ⟨List.forall_mem_cons.mpr ⟨by simp [hx], hall⟩, .inr ?_⟩
      rcases hc with hc | ⟨hid, y, hy, hc⟩
      · rw [← Option.some.inj hc]
        exact ⟨rfl, x, List.mem_cons_self, rfl, hx⟩
      · exact ⟨hid, y, List.mem_cons_of_mem x hy, hc⟩

def candidateAt? (d : Deposits) (n : UInt32) : Option Candidate :=
  (d.pending.get? n).bind PendingBlock.candidate

theorem candidate_pendingAt : (d.pendingAt n).candidate = d.candidateAt? n := by
  rw [pendingAt, candidateAt?]
  cases d.pending.get? n <;> rfl

theorem candidateAt?_apply {t : Transaction} (h : (d.apply t).1.candidateAt? n = some c) :
    t.Makes d.tokenContract d.bridgeAccount n c ∨ d.candidateAt? n = some c := by
  rw [apply_fst] at h
  cases ht : t.traces with
  | nil =>
    rw [ht] at h
    exact .inr h
  | cons first rest =>
    simp only [ht, candidateAt?, setPending, NumberMap.get?_insert] at h
    by_cases hn : n = first.blockNumber
    · rw [if_pos hn, Option.bind_some] at h
      rcases Option.or_eq_some_iff.mp h with hc | ⟨-, hc⟩
      · obtain ⟨hall, hmade⟩ := candidate?_eq_some (Option.join_eq_some_iff.mp hc)
        obtain ⟨hid, x, hx, ha, hr⟩ := hmade.resolve_left (by simp)
        obtain ⟨hx, hd⟩ := List.mem_filter.mp hx
        refine .inl ⟨hid, by simp [ht, hn], fun y hy hd => ?_, x, hx, isDeposit_iff.mp hd, ha, hr⟩
        exact hall y (List.mem_filter.mpr ⟨hy, isDeposit_iff.mpr hd⟩)
      · rw [candidate_pendingAt, ← hn] at hc
        exact .inr hc
    · rw [if_neg hn] at h
      exact .inr h

theorem candidateAt?_take {r : BlockRecord} (h : (d.take r).1.candidateAt? n = some c) :
    d.candidateAt? n = some c := by
  rw [take_fst, candidateAt?, NumberMap.get?_upFrom] at h
  split at h
  · exact h
  · simp at h

theorem candidateAt?_of_take (h : d.pending.Ascending) {r : BlockRecord} {e : Deposit}
    (he : (d.take r).2.1 = some e) : d.candidateAt? r.number = some e.candidate := by
  rw [take_deposit h] at he
  split at he
  · simp at he
  · obtain ⟨p, hp, hc⟩ := Option.bind_eq_some_iff.mp he
    obtain ⟨c, hpc, rfl⟩ := Option.map_eq_some_iff.mp hc
    rw [candidateAt?, hp, Option.bind_some, hpc]

end Deposits

namespace Evidence

def candidate? : Evidence → Option Candidate
  | .schedule _ => none
  | .deposit e => some ⟨e.transactionId, e.action, e.receipt⟩

theorem candidate?_withoutPath (e : Evidence) : e.withoutPath.candidate? = e.candidate? := by
  cases e <;> rfl

end Evidence

theorem Job.candidate?_of_dossier {j j' : Job Evidence} (h : j'.dossier = j.dossier) :
    j'.evidence.candidate? = j.evidence.candidate? := by
  have he : j'.evidence.withoutPath = j.evidence.withoutPath := congrArg Dossier.evidence h
  rw [← Evidence.candidate?_withoutPath, he, Evidence.candidate?_withoutPath]

theorem Job.candidate?_of_submission {j : Job Evidence} {x : DepositSubmission}
    (h : j.submission = .deposit x) :
    x.subject = j.subject ∧ j.evidence.candidate? = some ⟨x.transactionId, x.action, x.receipt⟩ := by
  cases he : j.evidence with
  | schedule e => simp [submission, he] at h
  | deposit e =>
    simp only [submission, he, Submission.deposit.injEq] at h
    rw [← h]
    exact ⟨rfl, rfl⟩

section

variable {n : UInt32} {c : Candidate} {ts us : List Turn}

/-- Some turn applied a transaction that makes the deposit `c` in block `n`. -/
def Applied (tokenContract bridgeAccount : Name) (n : UInt32) (c : Candidate) (ts : List Turn) : Prop :=
  ∃ t ∈ ts, ∃ x, t.input = .task (.notify (.applied x)) ∧ x.Makes tokenContract bridgeAccount n c

/-- After such a turn another one accepted a block with number `n`. -/
def Settled (tokenContract bridgeAccount : Name) (n : UInt32) (c : Candidate) (ts : List Turn) : Prop :=
  ∃ t₁ t₂ x b, [t₁, t₂].Sublist ts ∧ t₁.input = .task (.notify (.applied x)) ∧
    x.Makes tokenContract bridgeAccount n c ∧ t₂.accepted? = some b ∧ b.number = n

theorem Applied.append (h : Applied tokenContract bridgeAccount n c ts) (us : List Turn) :
    Applied tokenContract bridgeAccount n c (ts ++ us) := by
  obtain ⟨t, ht, hx⟩ := h
  exact ⟨t, List.mem_append_left us ht, hx⟩

theorem Settled.append (h : Settled tokenContract bridgeAccount n c ts) (us : List Turn) :
    Settled tokenContract bridgeAccount n c (ts ++ us) := by
  obtain ⟨t₁, t₂, x, b, hs, hx⟩ := h
  exact ⟨t₁, t₂, x, b, hs.trans (List.sublist_append_left ts us), hx⟩

theorem Applied.settled (h : Applied tokenContract bridgeAccount n c ts) {t : Turn} {b : FinalizedBlock}
    (hb : t.accepted? = some b) (hn : b.number = n) :
    Settled tokenContract bridgeAccount n c (ts ++ [t]) := by
  obtain ⟨t₁, ht₁, x, hi, hm⟩ := h
  exact ⟨t₁, t, x, b, (List.singleton_sublist.mpr ht₁).append (List.Sublist.refl [t]), hi, hm, hb, hn⟩

end

namespace Relay

variable {s : Relay} {ts : List Turn}

/-- Every candidate was applied, and every deposit that has a job is settled. -/
structure Traced (tokenContract bridgeAccount : Name) (ts : List Turn) (s : Relay) : Prop where
  invariant : s.Invariant
  token : s.deposits.tokenContract = tokenContract
  bridge : s.deposits.bridgeAccount = bridgeAccount
  pending : ∀ {n c}, s.deposits.candidateAt? n = some c → Applied tokenContract bridgeAccount n c ts
  jobs : ∀ {kind n j c}, s.job? kind n = some j → j.evidence.candidate? = some c →
    Settled tokenContract bridgeAccount n c ts

theorem traced_start (capacity : Nat) :
    (start tokenContract bridgeAccount capacity).Traced tokenContract bridgeAccount [] where
  invariant := invariant_start tokenContract bridgeAccount capacity
  token := rfl
  bridge := rfl
  pending h := by simp [start, Deposits.watching, Deposits.candidateAt?] at h
  jobs hj := by simp at hj

theorem candidate?_opening {r : BlockRecord} {kind : ProofKind} {j : Job Evidence} {c : Candidate}
    (hp : s.deposits.pending.Ascending) (hj : s.opening? r kind = some j)
    (hc : j.evidence.candidate? = some c) : s.deposits.candidateAt? r.number = some c := by
  cases kind with
  | schedule =>
    obtain ⟨i, -, rfl⟩ := Option.map_eq_some_iff.mp hj
    simp [Job.map, Evidence.candidate?] at hc
  | deposit =>
    obtain ⟨i, hi, rfl⟩ := Option.map_eq_some_iff.mp hj
    simp only [depositOpening?, Option.bind_eq_some_iff, Option.map_eq_some_iff] at hi
    obtain ⟨e, he, anchor, -, rfl⟩ := hi
    rw [Deposits.candidateAt?_of_take hp he]
    exact hc

namespace Traced

theorem append (h : s.Traced tokenContract bridgeAccount ts) (us : List Turn) :
    s.Traced tokenContract bridgeAccount (ts ++ us) where
  invariant := h.invariant
  token := h.token
  bridge := h.bridge
  pending hc := (h.pending hc).append us
  jobs hj hc := (h.jobs hj hc).append us

theorem apply (h : s.Traced tokenContract bridgeAccount ts) {t : Turn} {x : Transaction}
    (ht : t.input = .task (.notify (.applied x))) :
    (s.apply x).1.Traced tokenContract bridgeAccount (ts ++ [t]) where
  invariant := h.invariant.apply x
  token := by
    simp only [Relay.apply, Deposits.apply_fst, ← h.token]
    cases x.traces <;> rfl
  bridge := by
    simp only [Relay.apply, Deposits.apply_fst, ← h.bridge]
    cases x.traces <;> rfl
  pending {n c} hc := by
    rcases Deposits.candidateAt?_apply hc with hm | hc
    · rw [h.token, h.bridge] at hm
      exact ⟨t, by simp, x, ht, hm⟩
    · exact (h.pending hc).append [t]
  jobs {kind n j c} hj hc := by
    have hj : s.job? kind n = some j := hj
    exact (h.jobs hj hc).append [t]

theorem accept (h : s.Traced tokenContract bridgeAccount ts) {t : Turn} {b : FinalizedBlock}
    (ht : t.accepted? = some b) (hb : s.accepts b = true) :
    ((s.remember b).accept b.record).1.Traced tokenContract bridgeAccount (ts ++ [t]) where
  invariant := by
    rw [← finalize_of_accepts h.invariant.ledger hb]
    exact h.invariant.finalize b
  token := by
    rw [accept_fst, Deposits.take_fst]
    exact h.token
  bridge := by
    rw [accept_fst, Deposits.take_fst]
    exact h.bridge
  pending {n c} hc := by
    rw [accept_fst] at hc
    exact (h.pending (Deposits.candidateAt?_take hc)).append [t]
  jobs {kind n j c} hj hc := by
    rcases job?_of_accepts h.invariant hb kind n with ⟨i, ho, hn, -, ha⟩ | ⟨-, ha⟩
    · rw [ha] at hj
      rw [Option.some.inj hj] at ho
      -- What was pending for this very block is what the job is about.
      have hpend := candidate?_opening (h.invariant.remember hb).pending ho hc
      subst hn
      exact (h.pending hpend).settled ht rfl
    · rw [ha] at hj
      obtain ⟨i, hi, rfl⟩ := Option.map_eq_some_iff.mp (Option.filter_eq_some_iff.mp hj).1
      rw [Job.evidence_collect] at hc
      exact (h.jobs hi hc).append [t]

theorem sweep (h : s.Traced tokenContract bridgeAccount ts) (answers : Nat → Answer) :
    (s.sweep answers).relay.Traced tokenContract bridgeAccount ts where
  invariant := h.invariant.sweep answers
  token := by
    rw [(s.frame_sweep answers).deposits]
    exact h.token
  bridge := by
    rw [(s.frame_sweep answers).deposits]
    exact h.bridge
  pending hc := by
    rw [(s.frame_sweep answers).deposits] at hc
    exact h.pending hc
  jobs {kind n j c} hj hc := by
    have hw := swept h.invariant.indexed answers kind n
    rw [hj] at hw
    obtain ⟨i, hi⟩ := hw.exists_before
    rw [hi] at hw
    rw [Job.candidate?_of_dossier hw.dossier] at hc
    exact h.jobs hi hc

theorem successor (h : s.Traced tokenContract bridgeAccount ts) (capacity : Nat) :
    (s.successor tokenContract bridgeAccount capacity).Traced tokenContract bridgeAccount ts where
  invariant := h.invariant.successor tokenContract bridgeAccount capacity
  token := rfl
  bridge := rfl
  pending hc := by simp [Relay.successor, Deposits.watching, Deposits.candidateAt?] at hc
  jobs hj hc := h.jobs (job?_successor s _ _ ▸ hj) hc

end Traced

end Relay

theorem Turn.Valid.traced {t : Turn} {ts : List Turn} (ht : t.Valid)
    (h : t.before.Traced tokenContract bridgeAccount ts)
    (hsame : ∀ k b c, t.input = .restart k b c → k = tokenContract ∧ b = bridgeAccount) :
    t.after.Traced tokenContract bridgeAccount (ts ++ [t]) := by
  cases hi : t.input with
  | task task =>
    have he : t.after = (t.before.handle task).after := congrArg Turn.after (ht.eq_handle hi)
    rw [he]
    cases task with
    | notify x =>
      cases x with
      | applied x => exact h.apply hi
      | finalized b =>
        have hf : (t.before.handle (.notify (.finalized b))).after = (t.before.finalize b).1 := rfl
        rw [hf]
        by_cases hb : t.before.accepts b = true
        · rw [Relay.finalize_of_accepts h.invariant.ledger hb]
          exact h.accept (accepted?_of_accepts hi hb) hb
        · rw [(Relay.finalize_of_not_accepts (by simpa using hb)).1]
          exact h.append [t]
    | sweep answers => exact (h.sweep answers).append [t]
  | restart k b capacity =>
    obtain ⟨rfl, rfl⟩ := hsame k b capacity hi
    obtain ⟨s', hs, he⟩ := ht.eq_restart hi
    have ha : t.after = s' := congrArg Turn.after he
    rw [ha, Relay.restart_eq h.invariant hs]
    exact (h.successor capacity).append [t]

namespace Relay

/-- Every deposit that is ever submitted, in a run with restarts under the same accounts only, was made
by a transaction applied earlier, and after that its block was accepted. -/
theorem deposit_has_origin (tokenContract bridgeAccount : Name) (capacity : Nat) {inputs : List Input}
    (hsame : ∀ k b c, Input.restart k b c ∈ inputs → k = tokenContract ∧ b = bridgeAccount)
    {past future : List Turn} {t : Turn}
    (ht : (start tokenContract bridgeAccount capacity).run inputs = past ++ t :: future)
    {a : Attempt} (ha : a ∈ t.attempts) {x : DepositSubmission} (hx : a.submission = .deposit x) :
    ∃ t₁ t₂ transaction b, [t₁, t₂].Sublist past ∧
      t₁.input = .task (.notify (.applied transaction)) ∧
      transaction.Makes tokenContract bridgeAccount x.subject ⟨x.transactionId, x.action, x.receipt⟩ ∧
      t₂.accepted? = some b ∧ b.number = x.subject := by
  have hin : ∀ t' ∈ past, t'.input ∈ inputs := fun t' ht' =>
    mem_inputs_of_mem_run (ht ▸ List.mem_append_left _ ht')
  obtain ⟨hv, htraced⟩ := run_before
    (P := fun ts s => (∀ t' ∈ ts, t'.input ∈ inputs) → s.Traced tokenContract bridgeAccount ts)
    (fun _ => traced_start capacity)
    (fun ts t' hv hs hts => by
      refine hv.traced (hs fun t'' ht'' => hts t'' (List.mem_append_left _ ht'')) fun k b c hi => ?_
      exact hsame k b c (hi ▸ hts t' (by simp)))
    ht
  have h := htraced hin
  cases hv.shape h.invariant with
  | quiet _ _ attempts => simp [attempts] at ha
  | block _ _ _ _ attempts => simp [attempts] at ha
  | sweep answers _ _ attempts =>
    rw [attempts] at ha
    have hm := Sweep.submission_mem_of_attempt ha
    obtain ⟨j, j', hj, -, hp, hs⟩ := exists_job_of_submission h.invariant hm
    obtain ⟨hn, hc⟩ := Job.candidate?_of_submission (hs.symm.trans hx)
    rw [Job.candidate?_of_dossier (Job.dossier_prepared hp)] at hc
    rw [hx] at hj
    exact h.jobs hj hc

end Relay

namespace Sample

/-- A deposit that becomes final and is submitted after a restart. -/
def settledDeposit : List Input :=
  [.task (.notify (.finalized (plainBlock 1 none))), .task (.notify (.finalized (plainBlock 2 none))),
    .task (.notify (.applied (deposit 1 3 (name "alice") 1))),
    .task (.notify (.finalized (plainBlock 3 none))),
    .task (.notify (.finalized (plainBlock 200 none))),
    .restart (name Sample.tokenContract) (name Sample.bridgeAccount) 5,
    .task (.sweep fun _ => .accepted "")]

end Sample

theorem Relay.origin_of_settledDeposit :
    let token := Sample.name Sample.tokenContract
    let bridge := Sample.name Sample.bridgeAccount
    (∀ k b c, Input.restart k b c ∈ Sample.settledDeposit → k = token ∧ b = bridge) ∧
      ∃ past t a x, (start token bridge 5).run Sample.settledDeposit = past ++ [t] ∧ a ∈ t.attempts ∧
        a.submission = .deposit x ∧ ∃ t₁ t₂ transaction b, [t₁, t₂].Sublist past ∧
          t₁.input = .task (.notify (.applied transaction)) ∧
          transaction.Makes token bridge x.subject ⟨x.transactionId, x.action, x.receipt⟩ ∧
          t₂.accepted? = some b ∧ b.number = x.subject := by
  intro token bridge
  have hsame : ∀ k b c, Input.restart k b c ∈ Sample.settledDeposit → k = token ∧ b = bridge := by
    intro k b c hm
    simp only [Sample.settledDeposit, List.mem_cons, List.not_mem_nil, Input.restart.injEq,
      reduceCtorEq, false_or, or_false] at hm
    exact ⟨hm.1, hm.2.1⟩
  refine ⟨hsame, ?_⟩
  have hlast : (((start token bridge 5).run Sample.settledDeposit).getLast?.map fun t =>
      t.attempts.map fun a => a.submission.kind) = some [.deposit] := by
    decide +kernel
  obtain ⟨t, ht, hk⟩ := Option.map_eq_some_iff.mp hlast
  obtain ⟨past, hrun⟩ := List.getLast?_eq_some_iff.mp ht
  obtain ⟨a, hat, hk⟩ := List.map_eq_singleton_iff.mp hk
  have ha : a ∈ t.attempts := by rw [hat, List.mem_singleton]
  cases hx : a.submission with
  | schedule x => simp [hx, Submission.kind] at hk
  | deposit x =>
    exact ⟨past, t, a, x, hrun, ha, hx, deposit_has_origin token bridge 5 hsame hrun ha hx⟩

end FinalityRelay
