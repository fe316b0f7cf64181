import FinalityRelay.Relay.Deposits
import FinalityRelay.Proofs.NumberMap

/-! What is pending for a block after a transaction and after a finalization. The deposit of a block
depends on nothing but what is pending for that block. -/

namespace FinalityRelay

namespace NumberMap

variable {α : Type}

theorem Ascending.getLast?_eq_some {m : NumberMap α} (h : m.Ascending) {n : UInt32} {a : α}
    (hn : m.get? n = some a) (hle : ∀ e ∈ m, e.1 ≤ n) : m.getLast? = some (n, a) := by
  induction m with
  | nil => simp at hn
  | cons e m ih =>
    obtain ⟨hlt, hm⟩ := List.pairwise_cons.mp h
    cases m with
    | nil =>
      obtain ⟨k, b⟩ := e
      rw [get?_cons] at hn
      by_cases hk : n = k <;> simp_all
    | cons f m =>
      have hne : n ≠ e.1 := by
        rintro rfl
        have hf := hle f (by simp)
        exact absurd (hlt f List.mem_cons_self) (UInt32.not_lt.mpr hf)
      rw [get?_cons, if_neg hne] at hn
      rw [List.getLast?_cons_cons]
      exact ih hm hn fun e' he' => hle e' (List.mem_cons_of_mem _ he')

end NumberMap

namespace Deposits

variable {d : Deposits}

/-- The largest block number; blocks with this number settle nothing. -/
def lastNumber : UInt32 := 0xffffffff

/-- The first number that is not settled by a block with the given one. -/
def nextNumber (n : UInt32) : UInt32 := if n = lastNumber then n else n + 1

theorem lt_nextNumber_iff {k n : UInt32} (h : n ≠ lastNumber) : k < nextNumber n ↔ k ≤ n := by
  have hn : n.toNat + 1 < 2 ^ 32 := by
    have hne : n.toNat ≠ 2 ^ 32 - 1 := fun he => h (UInt32.toNat_inj.mp he)
    have hlt := n.toNat_lt
    omega
  have hs : (n + 1).toNat = n.toNat + 1 := by
    rw [UInt32.toNat_add, UInt32.toNat_one]
    omega
  rw [nextNumber, if_neg h, UInt32.lt_iff_toNat_lt, UInt32.le_iff_toNat_le, hs]
  omega

def depositAt? (d : Deposits) (n : UInt32) : Option Deposit :=
  (d.pending.get? n).bind fun p => p.candidate.map fun c => ⟨c, p.digests⟩

theorem take_fst (d : Deposits) (r : BlockRecord) :
    (d.take r).1 = { d with pending := d.pending.upFrom (nextNumber r.number) } := by
  unfold take
  simp only
  split
  · split <;> rfl
  · rfl

/-- What is taken from the settled entries, of which only the last one counts. -/
theorem take_deposit_eq (d : Deposits) (r : BlockRecord) :
    (d.take r).2.1 =
      match (d.pending.below (nextNumber r.number)).getLast? with
      | some (n, ⟨digests, some c⟩) => if n = r.number then some ⟨c, digests⟩ else none
      | _ => none := by
  unfold take nextNumber lastNumber
  simp only
  cases (d.pending.below _).getLast? with
  | none => rfl
  | some e =>
    obtain ⟨n, digests, candidate⟩ := e
    cases candidate with
    | none => rfl
    | some c => by_cases hn : n = r.number <;> simp [hn]

theorem take_deposit (h : d.pending.Ascending) (r : BlockRecord) :
    (d.take r).2.1 = if r.number = lastNumber then none else d.depositAt? r.number := by
  rw [take_deposit_eq]
  by_cases hl : r.number = lastNumber
  · rw [if_pos hl]
    split
    · rename_i n digests c he
      have hm := List.mem_of_getLast? he
      have hlt : n < nextNumber r.number := of_decide_eq_true (List.mem_filter.mp hm).2
      rw [nextNumber, if_pos hl] at hlt
      exact if_neg (UInt32.ne_of_lt hlt)
    · rfl
  · have hg : ∀ n, (d.pending.below (nextNumber r.number)).get? n =
        if n ≤ r.number then d.pending.get? n else none := by
      intro n
      rw [NumberMap.get?_below]
      simp only [lt_nextNumber_iff hl]
    rw [if_neg hl, depositAt?]
    cases hp : d.pending.get? r.number with
    | none =>
      split
      · rename_i n digests c he
        refine if_neg fun hn => ?_
        have hm := (h.below (nextNumber r.number)).get?_of_mem (List.mem_of_getLast? he)
        rw [hg, hn, hp] at hm
        simp at hm
      · rfl
    | some p =>
      have he := (h.below (nextNumber r.number)).getLast?_eq_some (n := r.number) (a := p)
        (by rw [hg, if_pos (UInt32.le_refl _), hp])
        fun e hm => (lt_nextNumber_iff hl).mp (of_decide_eq_true (List.mem_filter.mp hm).2)
      rw [he]
      obtain ⟨digests, candidate⟩ := p
      cases candidate <;> simp

theorem ascending_take (h : d.pending.Ascending) (r : BlockRecord) :
    (d.take r).1.pending.Ascending := by
  rw [take_fst]
  exact h.upFrom _

def pendingAfter (d : Deposits) (t : Transaction) (n : UInt32) : PendingBlock :=
  ⟨(d.pendingAt n).digests ++ t.receipts.map Receipt.digest,
    ((candidate? t.id (t.traces.filter d.isDeposit) none).join).or (d.pendingAt n).candidate⟩

theorem apply_fst (d : Deposits) (t : Transaction) : (d.apply t).1 =
    match t.traces with
    | [] => d
    | first :: _ => d.setPending first.blockNumber (d.pendingAfter t first.blockNumber) := by
  unfold apply pendingAfter
  cases t.traces with
  | nil => rfl
  | cons first rest =>
    simp only
    split <;> rename_i hc <;> simp [hc]

theorem ascending_apply (h : d.pending.Ascending) (t : Transaction) :
    (d.apply t).1.pending.Ascending := by
  rw [apply_fst]
  split
  · exact h
  · exact h.insert _ _

end Deposits

end FinalityRelay
