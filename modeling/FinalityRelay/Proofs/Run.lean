import FinalityRelay.Proofs.Restart
import FinalityRelay.Proofs.SweepStep

/-! Runs of a relay: notifications, sweeps and restarts in any order. Each turn of a run ignores what it
is given, accepts a block or sweeps. -/

namespace FinalityRelay

/-- Something to do for a relay. Answer `i` of a sweep is the one to its submission `i`. -/
inductive Task
  | notify (n : Notification)
  | sweep (answers : Nat → Answer)

/-- A task, or a restart into a fresh relay of some configuration. -/
inductive Input
  | task (t : Task)
  | restart (tokenContract bridgeAccount : Name) (capacity : Nat)

def Input.finalized? : Input → Option FinalizedBlock
  | .task (.notify (.finalized b)) => some b
  | _ => none

theorem Input.eq_of_finalized? {i : Input} {b : FinalizedBlock} (h : i.finalized? = some b) :
    i = .task (.notify (.finalized b)) := by
  unfold finalized? at h
  split at h
  · rw [Option.some.inj h]
  · simp at h

/-- One step of a run, with the attempts it made and the events it reported. -/
structure Turn where
  input : Input
  before : Relay
  after : Relay
  attempts : List Attempt
  events : List Event

namespace Relay

variable {s : Relay}

def handle (s : Relay) (t : Task) : Turn :=
  match t with
  | .notify n => ⟨.task t, s, (s.notify n).1, [], (s.notify n).2⟩
  | .sweep answers =>
    let w := s.sweep answers
    ⟨.task t, s, w.relay, w.attempts answers, w.events⟩

theorem invariant_handle (h : s.Invariant) (t : Task) : (s.handle t).after.Invariant := by
  cases t with
  | notify x => exact h.notify x
  | sweep answers => exact h.sweep answers

/-- The turn of an input; there is none if the snapshot of a restart cannot be read. -/
def turn? (s : Relay) (i : Input) : Option Turn :=
  match i with
  | .task t => some (s.handle t)
  | .restart tokenContract bridgeAccount capacity =>
    (s.restart tokenContract bridgeAccount capacity).toOption.map fun s' => ⟨i, s, s', [], []⟩

/-- The turns of a run, which ends where an input has none. -/
def run (s : Relay) : List Input → List Turn
  | [] => []
  | i :: is =>
    match s.turn? i with
    | none => []
    | some t => t :: t.after.run is

def last (s : Relay) (turns : List Turn) : Relay := (turns.getLast?.map Turn.after).getD s

end Relay

namespace Turn

variable {t : Turn} {kind : ProofKind} {n : UInt32}

/-- The turns that relays make. -/
def Valid (t : Turn) : Prop := t.before.turn? t.input = some t

def opens (kind : ProofKind) (n : UInt32) (t : Turn) : Bool :=
  (kind, n) ∈ t.events.filterMap Event.opened?

def accepted? (t : Turn) : Option FinalizedBlock := t.input.finalized?.filter t.before.accepts

theorem input_of_accepted? {b : FinalizedBlock} (h : t.accepted? = some b) :
    t.input = .task (.notify (.finalized b)) :=
  Input.eq_of_finalized? (Option.filter_eq_some_iff.mp h).1

theorem accepts_of_accepted? {b : FinalizedBlock} (h : t.accepted? = some b) :
    t.before.accepts b = true :=
  (Option.filter_eq_some_iff.mp h).2

theorem accepted?_of_accepts {b : FinalizedBlock} (hi : t.input = .task (.notify (.finalized b)))
    (hb : t.before.accepts b = true) : t.accepted? = some b := by
  simp [accepted?, hi, Input.finalized?, hb]

theorem accepted?_of_applied {x : Transaction} (hi : t.input = .task (.notify (.applied x))) :
    t.accepted? = none := by
  simp [accepted?, hi, Input.finalized?]

theorem accepted?_of_restart {tokenContract bridgeAccount : Name} {capacity : Nat}
    (hi : t.input = .restart tokenContract bridgeAccount capacity) : t.accepted? = none := by
  simp [accepted?, hi, Input.finalized?]

theorem accepted?_of_sweep {answers : Nat → Answer} (hi : t.input = .task (.sweep answers)) :
    t.accepted? = none := by
  simp [accepted?, hi, Input.finalized?]

/-- What the input of a turn does. -/
inductive Effect (t : Turn) : Prop
  | ignored (accepted : t.accepted? = none) (after : t.after = t.before) (attempts : t.attempts = [])
      (opened : t.events.filterMap Event.opened? = [])
  | applied (x : Transaction) (input : t.input = .task (.notify (.applied x)))
      (after : t.after = (t.before.apply x).1) (attempts : t.attempts = [])
      (opened : t.events.filterMap Event.opened? = [])
  | block (b : FinalizedBlock) (input : t.input = .task (.notify (.finalized b)))
      (accepts : t.before.accepts b = true)
      (after : t.after = ((t.before.remember b).accept b.record).1) (attempts : t.attempts = [])
      (events : t.events = ((t.before.remember b).accept b.record).2)
  | sweep (answers : Nat → Answer) (input : t.input = .task (.sweep answers))
      (after : t.after = (t.before.sweep answers).relay)
      (attempts : t.attempts = (t.before.sweep answers).attempts answers)
      (opened : t.events.filterMap Event.opened? = [])
  | restart (tokenContract bridgeAccount : Name) (capacity : Nat)
      (input : t.input = .restart tokenContract bridgeAccount capacity)
      (after : t.after = t.before.successor tokenContract bridgeAccount capacity)
      (attempts : t.attempts = []) (opened : t.events.filterMap Event.opened? = [])

/-- What a turn does: nothing to any job, or what an accepted block does, or what a sweep does. -/
inductive Shape (t : Turn) : Prop
  | quiet (jobs : ∀ kind n, t.after.job? kind n = t.before.job? kind n)
      (last : t.after.lastFinalized = t.before.lastFinalized) (attempts : t.attempts = [])
      (opened : t.events.filterMap Event.opened? = []) (accepted : t.accepted? = none)
      (records : t.after.ledger.records <:+ t.before.ledger.records)
  | block (b : FinalizedBlock) (input : t.input = .task (.notify (.finalized b)))
      (accepts : t.before.accepts b = true)
      (after : t.after = ((t.before.remember b).accept b.record).1) (attempts : t.attempts = [])
      (events : t.events = ((t.before.remember b).accept b.record).2)
  | sweep (answers : Nat → Answer) (input : t.input = .task (.sweep answers))
      (after : t.after = (t.before.sweep answers).relay)
      (attempts : t.attempts = (t.before.sweep answers).attempts answers)
      (opened : t.events.filterMap Event.opened? = [])

theorem Valid.eq_handle {task : Task} (ht : t.Valid) (hi : t.input = .task task) :
    t = t.before.handle task := by
  unfold Valid at ht
  rw [hi] at ht
  exact (Option.some.inj ht).symm

theorem Valid.eq_restart {tokenContract bridgeAccount : Name} {capacity : Nat} (ht : t.Valid)
    (hi : t.input = .restart tokenContract bridgeAccount capacity) :
    ∃ s', t.before.restart tokenContract bridgeAccount capacity = .ok s' ∧
      t = ⟨t.input, t.before, s', [], []⟩ := by
  unfold Valid at ht
  rw [hi] at ht
  obtain ⟨s', hs, he⟩ := Option.map_eq_some_iff.mp ht
  refine ⟨s', ?_, ?_⟩
  · cases hr : t.before.restart tokenContract bridgeAccount capacity with
    | error e => simp [hr, Except.toOption] at hs
    | ok s'' => simpa [hr, Except.toOption] using hs
  · rw [hi]
    exact he.symm

theorem Valid.eq_accept {b : FinalizedBlock} (ht : t.Valid) (h : t.before.Invariant)
    (hb : t.accepted? = some b) :
    t.after = ((t.before.remember b).accept b.record).1 ∧
      t.events = ((t.before.remember b).accept b.record).2 := by
  have hf := Relay.finalize_of_accepts h.ledger (accepts_of_accepted? hb)
  rw [ht.eq_handle (input_of_accepted? hb)]
  exact ⟨congrArg Prod.fst hf, congrArg Prod.snd hf⟩

theorem Valid.effect (ht : t.Valid) (h : t.before.Invariant) : t.Effect := by
  cases hi : t.input with
  | task task =>
    have he := ht.eq_handle hi
    cases task with
    | notify x =>
      cases x with
      | finalized b =>
        by_cases hb : t.before.accepts b = true
        · have hf := Relay.finalize_of_accepts h.ledger hb
          refine .block b hi hb ?_ ?_ ?_ <;> rw [he]
          · exact congrArg Prod.fst hf
          · rfl
          · exact congrArg Prod.snd hf
        · obtain ⟨hs, ho⟩ := Relay.finalize_of_not_accepts (b := b) (by simpa using hb)
          refine .ignored ?_ ?_ ?_ ?_
          · simp [accepted?, hi, Input.finalized?, hb]
          all_goals rw [he]
          · exact hs
          · rfl
          · exact ho
      | applied x =>
        refine .applied x hi ?_ ?_ ?_ <;> rw [he]
        · rfl
        · rfl
        · exact Deposits.opened_apply t.before.deposits x
    | sweep answers =>
      refine .sweep answers hi ?_ ?_ ?_ <;> rw [he]
      · rfl
      · rfl
      · exact (t.before.frame_sweep answers).opened
  | restart tokenContract bridgeAccount capacity =>
    obtain ⟨s', hs, he⟩ := ht.eq_restart hi
    refine .restart tokenContract bridgeAccount capacity hi ?_ ?_ ?_ <;> rw [he]
    · exact Relay.restart_eq h hs
    · rfl

theorem Valid.invariant (ht : t.Valid) (h : t.before.Invariant) : t.after.Invariant := by
  cases ht.effect h with
  | ignored _ after => exact after ▸ h
  | applied x _ after => exact after ▸ h.apply x
  | block b _ accepts after =>
    rw [after, ← Relay.finalize_of_accepts h.ledger accepts]
    exact h.finalize b
  | sweep answers _ after => exact after ▸ h.sweep answers
  | restart _ _ _ _ after => exact after ▸ h.successor _ _ _

theorem Valid.shape (ht : t.Valid) (h : t.before.Invariant) : t.Shape := by
  cases ht.effect h with
  | ignored accepted after attempts opened =>
    exact .quiet (fun _ _ => by rw [after]) (by rw [after]) attempts opened accepted (by rw [after])
  | applied x input after attempts opened =>
    refine .quiet (fun _ _ => ?_) (by rw [after]; rfl) attempts opened (accepted?_of_applied input)
      (by rw [after]; rfl)
    rw [after]
    exact Relay.job?_congr rfl rfl _ _
  | block b input accepts after attempts events => exact .block b input accepts after attempts events
  | sweep answers input after attempts opened => exact .sweep answers input after attempts opened
  | restart _ _ _ input after attempts opened =>
    refine .quiet (fun _ _ => ?_) (by rw [after]; rfl) attempts opened (accepted?_of_restart input)
      (by rw [after]; exact List.drop_suffix _ _)
    rw [after]
    exact Relay.job?_successor t.before _ _

end Turn

namespace Relay

variable {s : Relay} {i : Input} {is : List Input}

theorem valid_of_turn? {t : Turn} (ht : s.turn? i = some t) : t.before = s ∧ t.input = i := by
  cases i with
  | task task =>
    rw [← Option.some.inj ht]
    cases task <;> exact ⟨rfl, rfl⟩
  | restart tokenContract bridgeAccount capacity =>
    obtain ⟨s', -, rfl⟩ := Option.map_eq_some_iff.mp ht
    exact ⟨rfl, rfl⟩

/-- An invariant of all turns holds throughout a run. -/
theorem run_preserves {P : Relay → Prop} (hP : ∀ t : Turn, t.Valid → P t.before → P t.after)
    (hs : P s) (is : List Input) : ∀ t ∈ s.run is, t.Valid ∧ P t.before ∧ P t.after := by
  induction is generalizing s with
  | nil => simp [run]
  | cons i is ih =>
    unfold run
    cases ht : s.turn? i with
    | none => simp
    | some t =>
      obtain ⟨hb, hi⟩ := valid_of_turn? ht
      have hv : t.Valid := by rw [Turn.Valid, hb, hi, ht]
      have ha := hP t hv (hb ▸ hs)
      intro t' ht'
      rcases List.mem_cons.mp ht' with rfl | ht'
      · exact ⟨hv, hb ▸ hs, ha⟩
      · exact ih ha t' ht'

/-- What a turn brings about and later turns keep is there before every later turn. -/
theorem run_pairwise {P : Turn → Relay → Prop} {I : Relay → Prop}
    (hI : ∀ t : Turn, t.Valid → I t.before → I t.after)
    (hnew : ∀ t : Turn, t.Valid → I t.before → P t t.after)
    (hkeep : ∀ t t' : Turn, t'.Valid → I t'.before → P t t'.before → P t t'.after)
    (hs : I s) (is : List Input) :
    (s.run is).Pairwise fun t t' => t'.Valid ∧ I t'.before ∧ P t t'.before := by
  induction is generalizing s with
  | nil => exact List.Pairwise.nil
  | cons i is ih =>
    unfold run
    cases ht : s.turn? i with
    | none => exact List.Pairwise.nil
    | some t =>
      obtain ⟨hb, hi⟩ := valid_of_turn? ht
      have hv : t.Valid := by rw [Turn.Valid, hb, hi, ht]
      have ha := hI t hv (hb ▸ hs)
      refine List.pairwise_cons.mpr ⟨fun t' ht' => ?_, ih ha⟩
      have hp := run_preserves (P := fun s => I s ∧ P t s)
        (fun t'' hv'' h => ⟨hI t'' hv'' h.1, hkeep t t'' hv'' h.1 h.2⟩)
        ⟨ha, hnew t hv (hb ▸ hs)⟩ is t' ht'
      exact ⟨hp.1, hp.2.1⟩

theorem run_invariant (hs : s.Invariant) (is : List Input) :
    ∀ t ∈ s.run is, t.Valid ∧ t.before.Invariant ∧ t.after.Invariant :=
  run_preserves (fun _ hv h => hv.invariant h) hs is

end Relay

end FinalityRelay
