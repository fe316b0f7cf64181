import FinalityRelay.Proofs.Run

/-! What a relay has accepted in the course of a run: blocks with ascending numbers, of which it
remembers the last ones. -/

namespace FinalityRelay

/-- The blocks that some turns accept, in order. -/
def acceptedBlocks (turns : List Turn) : List FinalizedBlock := turns.filterMap Turn.accepted?

theorem acceptedBlocks_snoc (ts : List Turn) (t : Turn) :
    acceptedBlocks (ts ++ [t]) = acceptedBlocks ts ++ t.accepted?.toList := by
  cases h : t.accepted? <;> simp [acceptedBlocks, h]

/-- What a relay recalls of the blocks it has accepted. -/
structure Relay.Recalls (bs : List FinalizedBlock) (s : Relay) : Prop where
  invariant : s.Invariant
  ascending : bs.Pairwise (·.number < ·.number)
  last : s.lastFinalized = bs.getLast?.map (·.number)
  records : s.ledger.records <:+ bs.map FinalizedBlock.record

namespace Relay.Recalls

variable {bs : List FinalizedBlock} {s : Relay} {b : FinalizedBlock}

theorem isStale (h : s.Recalls bs) : ∀ a ∈ bs, s.isStale a.number = true := by
  intro a ha
  cases hl : bs.getLast? with
  | none => simp [List.getLast?_eq_none_iff.mp hl] at ha
  | some l =>
    refine (s.isStale_iff _).mpr ⟨l.number, by rw [h.last, hl]; rfl, ?_⟩
    obtain ⟨front, rfl⟩ := List.getLast?_eq_some_iff.mp hl
    rcases List.mem_append.mp ha with ha | ha
    · exact UInt32.le_of_lt ((List.pairwise_append.mp h.ascending).2.2 a ha l (by simp))
    · rw [List.mem_singleton.mp ha]
      exact UInt32.le_refl _

theorem lt_of_accepts (h : s.Recalls bs) (hb : s.accepts b = true) : ∀ a ∈ bs, a.number < b.number := by
  intro a ha
  obtain ⟨last, hl, hle⟩ := (s.isStale_iff a.number).mp (h.isStale a ha)
  have hs := ((s.accepts_iff b).mp hb).1
  rw [Relay.isStale, hl, Option.any_some, decide_eq_false_iff_not] at hs
  exact UInt32.lt_of_le_of_lt hle (UInt32.not_le.mp hs)

theorem accept (h : s.Recalls bs) (hb : s.accepts b = true) :
    ((s.remember b).accept b.record).1.Recalls (bs ++ [b]) where
  invariant := by
    rw [← finalize_of_accepts h.invariant.ledger hb]
    exact h.invariant.finalize b
  ascending := by
    refine List.pairwise_append.mpr ⟨h.ascending, List.pairwise_singleton _ _, fun a ha c hc => ?_⟩
    rw [List.mem_singleton.mp hc]
    exact h.lt_of_accepts hb a ha
  last := by simp [lastFinalized_accept, remember]
  records := by
    rw [accept_fst, List.map_append]
    obtain ⟨front, hf⟩ := h.records
    refine (List.drop_suffix _ _).trans ⟨front, ?_⟩
    rw [← hf, List.append_assoc]
    rfl

end Relay.Recalls

namespace Turn

variable {t : Turn} {bs : List FinalizedBlock}

theorem Valid.recalls (ht : t.Valid) (h : t.before.Recalls bs) :
    t.after.Recalls (bs ++ t.accepted?.toList) := by
  cases ht.shape h.invariant with
  | quiet _ last _ _ accepted records =>
    rw [accepted, Option.toList_none, List.append_nil]
    exact ⟨ht.invariant h.invariant, h.ascending, last.trans h.last, records.trans h.records⟩
  | block b input accepts after =>
    rw [accepted?_of_accepts input accepts, Option.toList_some, after]
    exact h.accept accepts
  | sweep answers input after =>
    have hf := t.before.frame_sweep answers
    rw [accepted?_of_sweep input, Option.toList_none, List.append_nil, after]
    refine ⟨h.invariant.sweep answers, h.ascending, hf.lastFinalized.trans h.last, ?_⟩
    rw [hf.ledger]
    exact h.records

end Turn

namespace Relay

variable {s : Relay}

theorem last_cons (s : Relay) (t : Turn) (ts : List Turn) : s.last (t :: ts) = t.after.last ts := by
  cases h : ts.getLast? <;> simp [last, List.getLast?_cons, h]

theorem exists_turn?_of_run_eq_cons {is : List Input} {t : Turn} {ts : List Turn}
    (h : s.run is = t :: ts) :
    ∃ i is', s.turn? i = some t ∧ is = i :: is' ∧ ts = t.after.run is' := by
  cases is with
  | nil => simp [run] at h
  | cons i is =>
    unfold run at h
    cases hi : s.turn? i with
    | none => simp [hi] at h
    | some t' =>
      simp only [hi, List.cons.injEq] at h
      obtain ⟨rfl, hts⟩ := h
      exact ⟨i, is, hi, rfl, hts.symm⟩

/-- Induction over a run, up to some turn of it, and over all that has happened before. -/
theorem run_before {P : List Turn → Relay → Prop} (h : P [] s)
    (hstep : ∀ ts t, Turn.Valid t → P ts t.before → P (ts ++ [t]) t.after) {is : List Input}
    {past future : List Turn} {t : Turn} (ht : s.run is = past ++ t :: future) :
    t.Valid ∧ P past t.before := by
  have hp : ∀ (past : List Turn) (is : List Input) (s : Relay) (ts : List Turn), P ts s →
      s.run is = past ++ t :: future → t.Valid ∧ P (ts ++ past) t.before := by
    intro past
    induction past with
    | nil =>
      intro is s ts hs ht
      obtain ⟨i, is, hi, -, -⟩ := exists_turn?_of_run_eq_cons ht
      obtain ⟨hb, hin⟩ := valid_of_turn? hi
      rw [List.append_nil, hb]
      exact ⟨by rw [Turn.Valid, hb, hin, hi], hs⟩
    | cons t' past ih =>
      intro is s ts hs ht
      obtain ⟨i, is, hi, -, hrun⟩ := exists_turn?_of_run_eq_cons ht
      obtain ⟨hb, hin⟩ := valid_of_turn? hi
      have hv : t'.Valid := by rw [Turn.Valid, hb, hin, hi]
      rw [List.append_cons]
      exact ih is t'.after (ts ++ [t']) (hstep ts t' hv (hb ▸ hs)) hrun.symm
  exact hp past is s [] h ht

/-- As `run_before`, where each step knows its place in the run. -/
theorem run_split {P : List Turn → Relay → Prop} {is : List Input} (h : P [] s)
    (hstep : ∀ ts t rest, s.run is = ts ++ t :: rest → Turn.Valid t → P ts t.before →
      P (ts ++ [t]) t.after)
    {past future : List Turn} {t : Turn} (ht : s.run is = past ++ t :: future) :
    t.Valid ∧ P past t.before := by
  obtain ⟨hv, hp⟩ := run_before (P := fun ts r => ∀ rest, s.run is = ts ++ rest → P ts r)
    (fun _ _ => h)
    (fun ts t hv hp rest hrest => by
      rw [List.append_assoc, List.singleton_append] at hrest
      exact hstep ts t rest hrest hv (hp _ hrest))
    ht
  exact ⟨hv, hp _ ht⟩

theorem run_induction {P : List Turn → Relay → Prop} (h : P [] s)
    (hstep : ∀ ts t, Turn.Valid t → P ts t.before → P (ts ++ [t]) t.after) (is : List Input) :
    P (s.run is) (s.last (s.run is)) := by
  rcases List.eq_nil_or_concat' (s.run is) with hr | ⟨past, t, hr⟩
  · rw [hr]
    exact h
  · obtain ⟨hv, hp⟩ := run_before h hstep hr
    have hl : s.last (past ++ [t]) = t.after := by simp [last]
    rw [hr, hl]
    exact hstep past t hv hp

theorem invariant_last (h : s.Invariant) (is : List Input) : (s.last (s.run is)).Invariant :=
  run_induction (P := fun _ s => s.Invariant) h (fun _ _ hv hs => hv.invariant hs) is

theorem recalls_start (tokenContract bridgeAccount : Name) (capacity : Nat) :
    (start tokenContract bridgeAccount capacity).Recalls [] where
  invariant := invariant_start tokenContract bridgeAccount capacity
  ascending := List.Pairwise.nil
  last := rfl
  records := List.suffix_refl _

theorem mem_inputs_of_mem_run {is : List Input} {t : Turn} (ht : t ∈ s.run is) : t.input ∈ is := by
  induction is generalizing s with
  | nil => simp [run] at ht
  | cons i is ih =>
    unfold run at ht
    cases hi : s.turn? i with
    | none => simp [hi] at ht
    | some t' =>
      simp only [hi, List.mem_cons] at ht
      rcases ht with rfl | ht
      · rw [(valid_of_turn? hi).2]
        exact List.mem_cons_self
      · exact List.mem_cons_of_mem _ (ih ht)

theorem mem_inputs_of_accepted {is : List Input} {b : FinalizedBlock}
    (hb : b ∈ acceptedBlocks (s.run is)) : Input.task (.notify (.finalized b)) ∈ is := by
  obtain ⟨t, ht, hb⟩ := List.mem_filterMap.mp hb
  exact t.input_of_accepted? hb ▸ mem_inputs_of_mem_run ht

end Relay

end FinalityRelay
