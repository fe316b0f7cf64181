import FinalityRelay.Proofs.Offers
import FinalityRelay.Proofs.Reload
import FinalityRelay.Sample.Deposit

/-! Two relays that differ in what is pending for some blocks. As long as both are given the same, they
differ in the deposit jobs of those blocks and in nothing else. -/

namespace FinalityRelay

/-- Something to do for a relay, with answers by what is submitted. -/
inductive Errand
  | notify (n : Notification)
  | sweep (answer : Submission → Answer)

namespace Relay

def taskOf (s : Relay) : Errand → Task
  | .notify n => .notify n
  | .sweep answer => .sweep (s.answersBy answer)

def pursue (s : Relay) : List Errand → List Turn
  | [] => []
  | e :: es =>
    let t := s.handle (s.taskOf e)
    t :: t.after.pursue es

end Relay

/-- Whether a job is not about a deposit of one of the lost blocks. -/
def isSpared (lost : UInt32 → Bool) (kind : ProofKind) (n : UInt32) : Bool :=
  kind = .schedule ∨ lost n = false

/-- Relays that agree but for the deposits of the lost blocks. What is pending for a stale block does
not count, since it will never be used. -/
structure Relay.Agrees (lost : UInt32 → Bool) (s s' : Relay) : Prop where
  ledger : s'.ledger = s.ledger
  setup : s'.setup = s.setup
  activeSchedule : s'.activeSchedule = s.activeSchedule
  lastFinalized : s'.lastFinalized = s.lastFinalized
  jobs : ∀ {kind n}, isSpared lost kind n → s'.job? kind n = s.job? kind n
  pending : ∀ {n}, s.isStale n = false → lost n = false →
    s'.deposits.pending.get? n = s.deposits.pending.get? n

def Attempt.isSpared (lost : UInt32 → Bool) (a : Attempt) : Bool :=
  FinalityRelay.isSpared lost a.submission.kind a.submission.subject

/-- Turns after which the relays agree, with the same attempts but for the deposits of the lost
blocks. -/
structure Turn.Agrees (lost : UInt32 → Bool) (t t' : Turn) : Prop where
  after : t.after.Agrees lost t'.after
  attempts : t'.attempts.filter (Attempt.isSpared lost) = t.attempts.filter (Attempt.isSpared lost)

namespace Relay

variable {lost : UInt32 → Bool} {s s' : Relay} {b : FinalizedBlock} {kind : ProofKind} {n : UInt32}

namespace Agrees

theorem isStale (h : s.Agrees lost s') (n : UInt32) : s'.isStale n = s.isStale n :=
  isStale_congr h.lastFinalized n

theorem accepts (h : s.Agrees lost s') (b : FinalizedBlock) : s'.accepts b = s.accepts b := by
  simp only [Relay.accepts, h.isStale, h.ledger]

theorem anchor? (h : s.Agrees lost s') (b : FinalizedBlock) (r : BlockRecord) :
    (s'.remember b).anchor? r = (s.remember b).anchor? r := by
  simp only [Relay.anchor?, Relay.remember, h.ledger]

theorem opening? (h : s.Agrees lost s') (hi : s.Invariant) (hi' : s'.Invariant)
    (hb : s.accepts b = true) (hn : isSpared lost kind b.number) :
    (s'.remember b).opening? b.record kind = (s.remember b).opening? b.record kind := by
  cases kind with
  | schedule =>
    have ha : (s'.remember b).activeSchedule = (s.remember b).activeSchedule := h.activeSchedule
    simp only [Relay.opening?, scheduleOpening?, h.anchor?, ha]
  | deposit =>
    have hl : lost b.number = false := by simpa [isSpared] using hn
    have hs := ((s.accepts_iff b).mp hb).1
    have ht : (s'.deposits.take b.record).2.1 = (s.deposits.take b.record).2.1 := by
      have hp : s'.deposits.pending.get? b.record.number = s.deposits.pending.get? b.record.number :=
        h.pending hs hl
      rw [Deposits.take_deposit hi.pending, Deposits.take_deposit hi'.pending]
      simp only [Deposits.depositAt?, hp]
    have ht' : ((s'.remember b).deposits.take b.record).2.1 =
        ((s.remember b).deposits.take b.record).2.1 := ht
    simp only [Relay.opening?, depositOpening?, h.anchor?, ht']

theorem accept (h : s.Agrees lost s') (hi : s.Invariant) (hi' : s'.Invariant)
    (hb : s.accepts b = true) :
    ((s.remember b).accept b.record).1.Agrees lost ((s'.remember b).accept b.record).1 := by
  have hr : (s'.remember b).ledger = (s.remember b).ledger := by simp only [Relay.remember, h.ledger]
  refine ⟨?_, ?_, ?_, ?_, fun {kind n} hn => ?_, fun {n} hs hl => ?_⟩
  · simp only [accept_fst, hr]
  · rw [setup_accept, setup_accept, h.setup]
  · have ha : (s'.remember b).activeSchedule = (s.remember b).activeSchedule := h.activeSchedule
    simp only [accept_fst, ha]
  · simp only [accept_fst]
    rfl
  · rw [job?_accept_eq hi hb, job?_accept_eq hi' (h.accepts b ▸ hb), h.jobs hn, hr]
    by_cases hnb : b.number = n
    · rw [h.opening? hi hi' hb (hnb ▸ hn)]
    · have hf : ∀ o : Option (Job Evidence), (o.filter fun _ => b.number = n) = none := fun o =>
        Option.filter_eq_none_iff.mpr fun _ _ => by simpa using hnb
      rw [hf, hf]
  · have hold : s.isStale n = false := by
      rw [← Bool.not_eq_true] at hs ⊢
      intro hold
      rw [isStale_congr (lastFinalized_accept _ _)] at hs
      exact hs (isStale_remember_of_isStale hb hold)
    have hp : (s'.remember b).deposits.pending.get? n = (s.remember b).deposits.pending.get? n :=
      h.pending hold hl
    simp only [accept_fst, Deposits.take_fst, NumberMap.get?_upFrom, hp]

theorem finalize (h : s.Agrees lost s') (hi : s.Invariant) (hi' : s'.Invariant) (b : FinalizedBlock) :
    (s.finalize b).1.Agrees lost (s'.finalize b).1 := by
  by_cases hb : s.accepts b = true
  · rw [finalize_of_accepts hi.ledger hb, finalize_of_accepts hi'.ledger (h.accepts b ▸ hb)]
    exact h.accept hi hi' hb
  · have hb : s.accepts b = false := by simpa using hb
    rw [(finalize_of_not_accepts hb).1, (finalize_of_not_accepts (h.accepts b ▸ hb)).1]
    exact h

theorem apply (h : s.Agrees lost s') (t : Transaction) : (s.apply t).1.Agrees lost (s'.apply t).1 := by
  have hset := h.setup
  simp only [Relay.setup, Prod.mk.injEq] at hset
  obtain ⟨hcap, htoken, hbridge⟩ := hset
  have hd : s'.deposits.isDeposit = s.deposits.isDeposit := by
    funext t
    simp only [Deposits.isDeposit, htoken, hbridge]
  refine ⟨h.ledger, ?_, h.activeSchedule, h.lastFinalized, h.jobs, fun {n} hs hl => ?_⟩
  · simp only [Relay.setup, Relay.apply, Deposits.apply_fst]
    cases t.traces <;> simp only [Deposits.setPending, hcap, htoken, hbridge]
  · have hp := h.pending hs hl
    simp only [Relay.apply, Deposits.apply_fst]
    cases t.traces with
    | nil => exact hp
    | cons first rest =>
      simp only [Deposits.setPending, NumberMap.get?_insert]
      split
      · rename_i hn
        simp only [Deposits.pendingAfter, Deposits.pendingAt, hd, ← hn, hp]
      · exact hp

theorem offer? (h : s.Agrees lost s') {p : ProofKind × UInt32} (hp : isSpared lost p.1 p.2) :
    s'.offer? p = s.offer? p := by
  simp only [Relay.offer?, h.jobs hp]

theorem due (h : s.Agrees lost s') (hi : s.Invariant) (hi' : s'.Invariant) :
    (s'.due.filter fun p => isSpared lost p.1 p.2) = s.due.filter fun p => isSpared lost p.1 p.2 := by
  refine List.Perm.eq_of_pairwise (fun p q _ _ hpq hqp => absurd hqp (precedes_asymm hpq))
    ((due_pairwise hi'.indexed).filter _) ((due_pairwise hi.indexed).filter _) ?_
  refine (List.perm_ext_iff_of_nodup ((due_nodup hi'.indexed).filter _)
    ((due_nodup hi.indexed).filter _)).mpr ?_
  rintro ⟨kind, n⟩
  simp only [List.mem_filter, mem_due_iff hi.indexed, mem_due_iff hi'.indexed]
  exact and_congr_left fun hp => by rw [h.jobs hp]

theorem offers (h : s.Agrees lost s') (hi : s.Invariant) (hi' : s'.Invariant) :
    (s'.offers.filter fun x => isSpared lost x.kind x.subject) =
      s.offers.filter fun x => isSpared lost x.kind x.subject := by
  have hf : ∀ {r : Relay}, r.Invariant → (r.offers.filter fun x => isSpared lost x.kind x.subject) =
      (r.due.filter fun p => isSpared lost p.1 p.2).filterMap r.offer? := by
    intro r hr
    rw [Relay.offers, List.filter_filterMap, List.filterMap_filter]
    refine List.filterMap_congr fun p _ => ?_
    cases hx : r.offer? p with
    | none => simp
    | some x =>
      obtain ⟨hk, hn⟩ := about_of_offer? hr.indexed hx
      rw [Option.filter_some, hk, hn]
  rw [hf hi, hf hi', h.due hi hi']
  exact List.filterMap_congr fun p hp => h.offer? (List.mem_filter.mp hp).2

theorem sweep (h : s.Agrees lost s') (hi : s.Invariant) (hi' : s'.Invariant)
    {answers answers' : Nat → Answer}
    (ha : ((s'.sweep answers').attempts answers').filter (Attempt.isSpared lost) =
      ((s.sweep answers).attempts answers).filter (Attempt.isSpared lost)) :
    (s.sweep answers).relay.Agrees lost (s'.sweep answers').relay := by
  have hf := s.frame_sweep answers
  have hf' := s'.frame_sweep answers'
  refine ⟨?_, ?_, ?_, ?_, fun {kind n} hn => ?_, fun {n} hs hl => ?_⟩
  · rw [hf'.ledger, hf.ledger, h.ledger]
  · simp only [Relay.setup, hf'.ledger, hf.ledger, hf'.deposits, hf.deposits]
    exact h.setup
  · rw [hf'.activeSchedule, hf.activeSchedule, h.activeSchedule]
  · rw [hf'.lastFinalized, hf.lastFinalized, h.lastFinalized]
  · have habout : ∀ as : List Attempt, as.filter (·.isAbout kind n) =
        (as.filter (Attempt.isSpared lost)).filter (·.isAbout kind n) := by
      intro as
      rw [List.filter_filter]
      refine List.filter_congr fun a _ => ?_
      by_cases hk : a.isAbout kind n = true
      · obtain ⟨rfl, rfl⟩ := of_decide_eq_true hk
        simp [hk, Attempt.isSpared, hn]
      · simp [hk]
    have hw := swept hi.indexed answers kind n
    have hw' := swept hi'.indexed answers' kind n
    rw [habout, ha, ← habout, h.jobs hn] at hw'
    exact hw'.unique hw
  · rw [hf'.deposits, hf.deposits]
    exact h.pending (isStale_congr hf.lastFinalized n ▸ hs) hl

theorem notify (h : s.Agrees lost s') (hi : s.Invariant) (hi' : s'.Invariant) (x : Notification) :
    (s.notify x).1.Agrees lost (s'.notify x).1 := by
  cases x with
  | finalized b => exact h.finalize hi hi' b
  | applied t => exact h.apply t

/-- Relays that agree keep to it if equal submissions get equal answers. -/
theorem pursue (h : s.Agrees lost s') (hi : s.Invariant) (hi' : s'.Invariant) (es : List Errand) :
    List.Forall₂ (Turn.Agrees lost) (s.pursue es) (s'.pursue es) := by
  induction es generalizing s s' with
  | nil => exact .nil
  | cons e es ih =>
    have ht : (s.handle (s.taskOf e)).Agrees lost (s'.handle (s'.taskOf e)) := by
      cases e with
      | notify x => exact ⟨h.notify hi hi' x, rfl⟩
      | sweep f =>
        have ha : ∀ {r : Relay}, r.Invariant →
            ((r.sweep (r.answersBy f)).attempts (r.answersBy f)).filter (Attempt.isSpared lost) =
              (r.offers.filter fun x => isSpared lost x.kind x.subject).map fun x => ⟨x, f x⟩ := by
          intro r hr
          rw [attempts_answersBy hr, List.filter_map]
          rfl
        have hatt := (ha hi').trans ((congrArg _ (h.offers hi hi')).trans (ha hi).symm)
        exact ⟨h.sweep hi hi' hatt, hatt⟩
    exact .cons ht (ih ht.after (invariant_handle hi _) (invariant_handle hi' _))

/-- If no block is lost the places of the submissions are the same, and so the answers may be given by
place as well. -/
theorem run (h : s.Agrees (fun _ => false) s') (hi : s.Invariant) (hi' : s'.Invariant)
    (tasks : List Task) :
    List.Forall₂ (Turn.Agrees fun _ => false) (s.run (tasks.map .task)) (s'.run (tasks.map .task)) := by
  induction tasks generalizing s s' with
  | nil => exact .nil
  | cons t ts ih =>
    have ht : (s.handle t).Agrees (fun _ => false) (s'.handle t) := by
      cases t with
      | notify x => exact ⟨h.notify hi hi' x, rfl⟩
      | sweep answers =>
        have ho : s'.offers = s.offers := by simpa [isSpared] using h.offers hi hi'
        have ha : (s'.sweep answers).attempts answers = (s.sweep answers).attempts answers := by
          rw [Sweep.attempts, Sweep.attempts, submissions_sweep hi.indexed,
            submissions_sweep hi'.indexed, ho]
        exact ⟨h.sweep hi hi' (congrArg _ ha), congrArg _ ha⟩
    exact .cons ht (ih ht.after (invariant_handle hi _) (invariant_handle hi' _))

end Agrees

/-- Whether something is pending for a block that may still become final. -/
def awaits (s : Relay) (n : UInt32) : Bool := (s.deposits.pending.get? n).isSome && !s.isStale n

theorem agrees_clear (s : Relay) : s.Agrees s.awaits { s with deposits := s.deposits.clear } where
  ledger := rfl
  setup := rfl
  activeSchedule := rfl
  lastFinalized := rfl
  jobs _ := rfl
  pending {n} hs hl := by
    have hn : s.deposits.pending.get? n = none := by simpa [awaits, hs] using hl
    rw [hn]
    rfl

theorem Agrees.mono {gone : UInt32 → Bool} (h : s.Agrees lost s')
    (hl : ∀ n, gone n = false → lost n = false) : s.Agrees gone s' where
  ledger := h.ledger
  setup := h.setup
  activeSchedule := h.activeSchedule
  lastFinalized := h.lastFinalized
  jobs {kind n} hn := by
    refine h.jobs ?_
    rcases of_decide_eq_true hn with hk | hg
    · exact decide_eq_true (.inl hk)
    · exact decide_eq_true (.inr (hl n hg))
  pending hs hg := h.pending hs (hl _ hg)

/-- A restart under the same configuration succeeds and loses nothing but what is pending. Whatever is
done then, that shows in the deposit jobs of the blocks that are awaited only, and not at all if none
is. -/
theorem restart_agrees (tokenContract bridgeAccount : Name) (capacity : Nat) {tasks : List Task}
    (hc : ∀ b, Task.notify (.finalized b) ∈ tasks → b.history.Consistent) :
    let fresh := start tokenContract bridgeAccount capacity
    let s := fresh.last (fresh.run (tasks.map .task))
    let restarted := { s with deposits := s.deposits.clear }
    s.snapshot.encode.length < 2 ^ 64 →
      s.restart tokenContract bridgeAccount capacity = .ok restarted ∧
        (∀ errands,
          List.Forall₂ (Turn.Agrees s.awaits) (s.pursue errands) (restarted.pursue errands)) ∧
        ((∀ n, s.awaits n = false) → ∀ later : List Task, List.Forall₂ (Turn.Agrees fun _ => false)
          (s.run (later.map .task)) (restarted.run (later.map .task))) := by
  intro fresh s restarted hl
  obtain ⟨hi, hs, hset⟩ := run_tasks tokenContract bridgeAccount capacity hc
  have he : s.successor tokenContract bridgeAccount capacity = restarted := successor_self hi hset
  have hi' : restarted.Invariant := he ▸ hi.successor tokenContract bridgeAccount capacity
  have ha : s.Agrees s.awaits restarted := agrees_clear s
  refine ⟨?_, ha.pursue hi hi', fun hn => (ha.mono fun n _ => hn n).run hi hi'⟩
  rw [restart_ok hi (hs.snapshot hi) hl, he]

end Relay

namespace Sample

/-- Two blocks and a deposit that is made in the block to follow. -/
def openDeposit : List Task :=
  [.notify (.finalized (plainBlock 1 none)), .notify (.finalized (plainBlock 2 none)),
    .notify (.applied (deposit 1 3 (name "alice") 1))]

def awaiting : Relay :=
  let fresh := Relay.start (name tokenContract) (name bridgeAccount) 5
  fresh.last (fresh.run (openDeposit.map .task))

end Sample

/-- The block of a deposit opens a job, unless the relay was restarted in between. -/
theorem Relay.deposit_lost_in_restart :
    ((Sample.awaiting.finalize (Sample.plainBlock 3 none)).1.job? .deposit 3).isSome ∧
      (Sample.awaiting.restart (Sample.name Sample.tokenContract) (Sample.name Sample.bridgeAccount)
        5).toOption.map (fun s => (s.finalize (Sample.plainBlock 3 none)).1.job? .deposit 3) =
          some none := by
  decide +kernel

theorem Relay.restart_of_awaiting :
    (∀ b, Task.notify (.finalized b) ∈ Sample.openDeposit → b.history.Consistent) ∧
      Sample.awaiting.snapshot.encode.length < 2 ^ 64 ∧
      Sample.awaiting.restart (Sample.name Sample.tokenContract) (Sample.name Sample.bridgeAccount) 5 =
        .ok { Sample.awaiting with deposits := Sample.awaiting.deposits.clear } := by
  have hc : ∀ b, Task.notify (.finalized b) ∈ Sample.openDeposit → b.history.Consistent := by
    intro b hb
    have he : Accumulator.empty.Consistent := by decide +kernel
    simp only [Sample.openDeposit, List.mem_cons, List.not_mem_nil, Task.notify.injEq,
      Notification.finalized.injEq, reduceCtorEq, or_false] at hb
    rcases hb with rfl | rfl <;> exact he
  have hl : Sample.awaiting.snapshot.encode.length < 2 ^ 64 := by decide +kernel
  exact ⟨hc, hl, (restart_agrees _ _ 5 hc hl).1⟩

end FinalityRelay
