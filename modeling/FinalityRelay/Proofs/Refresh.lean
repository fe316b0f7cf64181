import FinalityRelay.Proofs.Inclusion
import FinalityRelay.Sample.Deposit

/-! The path from the receipt of a deposit to the root of its block, computed anew in the evidence that
holds it. It is the path of the first sibling that is the digest of the receipt, whatever was stored before;
without such a sibling nothing is stored. -/

namespace FinalityRelay

theorem Merkle.inclusionPath_eq_ok_iff {i : Nat} {leaves path : List Digest} :
    inclusionPath i leaves = .ok path ↔ i < leaves.length ∧ siblings i leaves = path := by
  rw [inclusionPath]
  split
  · rename_i hi
    rw [Except.ok.injEq, and_iff_right hi]
  · rename_i hi
    exact iff_of_false nofun fun h => hi h.1

namespace DepositEvidence

variable {e : DepositEvidence}

/-- The receipt is among those of its block. -/
def IsProvable (e : DepositEvidence) : Prop := e.receipt.digest ∈ e.siblings

instance (e : DepositEvidence) : Decidable e.IsProvable := inferInstanceAs (Decidable (_ ∈ _))

def proven (e : DepositEvidence) : DepositEvidence :=
  { e with path := Merkle.siblings (e.siblings.idxOf e.receipt.digest) e.siblings }

theorem refreshPath_of_isProvable (h : e.IsProvable) : e.refreshPath = .ok e.proven := by
  have hi : e.siblings.idxOf e.receipt.digest < e.siblings.length := List.idxOf_lt_length_iff.mpr h
  rw [refreshPath, Merkle.inclusionPath, if_pos hi]
  rfl

theorem refreshPath_of_not_isProvable (h : ¬e.IsProvable) :
    e.refreshPath = .error (.invalidIndex e.siblings.length e.siblings.length) := by
  rw [refreshPath, List.idxOf_of_notMem h, Merkle.inclusionPath, if_neg (Nat.lt_irrefl _)]
  rfl

/-- Refreshing in place: a search, a climb and an assignment, one after the other. A failure does not undo
what was assigned before it. -/
def refresh : EStateM MerkleError DepositEvidence (List Digest) := do
  let e ← get
  let place := (e.siblings.idxOf? e.receipt.digest).getD e.siblings.length
  let path ← liftExcept (Merkle.inclusionPath place e.siblings)
  set { e with path }
  return (← get).path

/-- What is refreshed in place is what is refreshed in a copy; a failure leaves the evidence behind. -/
theorem run_refresh (e : DepositEvidence) :
    refresh.run e = match e.refreshPath with
      | .ok e' => .ok e'.path e'
      | .error err => .error err e := by
  rw [refreshPath, List.idxOf_eq_getD_idxOf?, refresh]
  simp only [EStateM.run_bind, EStateM.run_get]
  cases Merkle.inclusionPath ((e.siblings.idxOf? e.receipt.digest).getD e.siblings.length) e.siblings with
  | error err => rfl
  | ok path => rfl

theorem run_refresh_of_isProvable (h : e.IsProvable) : refresh.run e = .ok e.proven.path e.proven := by
  rw [run_refresh, refreshPath_of_isProvable h]

theorem run_refresh_of_not_isProvable (h : ¬e.IsProvable) :
    refresh.run e = .error (.invalidIndex e.siblings.length e.siblings.length) e := by
  rw [run_refresh, refreshPath_of_not_isProvable h]

/-- A path that leads from the receipt to the root of the siblings. It belongs to the first place of the
receipt among them, and to no other place. -/
structure Proves (e : DepositEvidence) (path : List Digest) : Prop where
  leads : Merkle.rootFromPath e.receipt.digest path = Merkle.root e.siblings
  first : ∃ before after, e.siblings = before ++ e.receipt.digest :: after ∧
    e.receipt.digest ∉ before ∧
    ∀ i, Merkle.inclusionPath i e.siblings = .ok path ↔ i = before.length

theorem proves_proven (h : e.IsProvable) : e.Proves e.proven.path where
  leads := rootFromPath_of_refreshPath (refreshPath_of_isProvable h)
  first := by
    obtain ⟨before, after, hs, hb⟩ := List.eq_append_cons_of_mem h
    have hfirst : e.siblings.idxOf e.receipt.digest = before.length := by
      rw [hs, List.idxOf_append_of_notMem hb, List.idxOf_cons_self, Nat.add_zero]
    have hlt : before.length < e.siblings.length := by
      rw [← hfirst]
      exact List.idxOf_lt_length_iff.mpr h
    have hpath : e.proven.path = Merkle.siblings before.length e.siblings := by
      rw [← hfirst]
      rfl
    refine ⟨before, after, hs, hb, fun i => ?_⟩
    rw [hpath, Merkle.inclusionPath_eq_ok_iff]
    constructor
    · rintro ⟨hi, hp⟩
      exact Merkle.eq_of_siblings_eq hlt hi hp
    · rintro rfl
      exact ⟨hlt, rfl⟩

/-- Refreshing succeeds exactly if the receipt is among those of its block. What it stores proves the
receipt, and depends on nothing that was stored before. A failure names the place behind the last sibling
and changes nothing. -/
theorem refresh_stores_proof_or_nothing (e : DepositEvidence) :
    ((∃ path e', refresh.run e = .ok path e') ↔ e.receipt.digest ∈ e.siblings) ∧
    (∀ path e', refresh.run e = .ok path e' →
      e.refreshPath = .ok e' ∧ e' = { e with path } ∧ e.Proves path ∧
        ∀ stored, refresh.run { e with path := stored } = .ok path e') ∧
    ∀ err e', refresh.run e = .error err e' →
      e.refreshPath = .error err ∧ e' = e ∧
        err = .invalidIndex e.siblings.length e.siblings.length := by
  by_cases h : e.IsProvable
  · have hr := run_refresh_of_isProvable h
    refine ⟨iff_of_true ⟨_, _, hr⟩ h, ?_, ?_⟩
    · intro path e' hok
      obtain ⟨rfl, rfl⟩ := EStateM.Result.ok.inj (hr.symm.trans hok)
      refine ⟨refreshPath_of_isProvable h, rfl, proves_proven h, fun stored => ?_⟩
      -- Neither the search nor the climb looks at the stored path.
      exact run_refresh_of_isProvable (e := { e with path := stored }) h
    · intro err e' herr
      exact nomatch hr.symm.trans herr
  · have hr := run_refresh_of_not_isProvable h
    refine ⟨iff_of_false ?_ h, ?_, ?_⟩
    · rintro ⟨path, e', hok⟩
      exact nomatch hr.symm.trans hok
    · intro path e' hok
      exact nomatch hr.symm.trans hok
    · intro err e' herr
      obtain ⟨rfl, rfl⟩ := EStateM.Result.error.inj (hr.symm.trans herr)
      exact ⟨refreshPath_of_not_isProvable h, rfl, rfl⟩

end DepositEvidence

namespace Sample

/-- A deposit whose receipt is in its block twice, with a path from elsewhere. -/
def recurringDeposit : DepositEvidence :=
  let action := transfer (name "alice") 5
  let own := receipt action (name tokenContract) 1
  { transactionId := transactionId 1
    action
    receipt := own
    siblings := [.zero, own.digest, .zero, own.digest, .zero]
    path := [.zero] }

/-- The same deposit in a block without its receipt. -/
def foreignDeposit : DepositEvidence := { recurringDeposit with siblings := [.zero] }

end Sample

/-- The path of the second place is stored, not that of the fourth. -/
theorem DepositEvidence.refresh_recurringDeposit :
    let e := Sample.recurringDeposit
    let f := Sample.foreignDeposit
    (∃ path, Merkle.inclusionPath 1 e.siblings = .ok path ∧
      refresh.run e = .ok path { e with path }) ∧
    refresh.run f = .error (.invalidIndex 1 1) f := by
  intro e f
  have hne : e.receipt.digest ≠ .zero := by decide +kernel
  constructor
  · obtain ⟨hiff, hok, -⟩ := refresh_stores_proof_or_nothing e
    have hmem : e.receipt.digest ∈ e.siblings := List.mem_cons_of_mem _ List.mem_cons_self
    obtain ⟨path, e', hr⟩ := hiff.mpr hmem
    obtain ⟨-, rfl, hp, -⟩ := hok path e' hr
    obtain ⟨before, after, hs, hb, hi⟩ := hp.first
    refine ⟨path, (hi 1).mpr ?_, hr⟩
    match before, hs, hb with
    | [], hs, _ => exact absurd (List.cons.inj hs).1.symm hne
    | [_], _, _ => rfl
    | _ :: b :: _, hs, hb =>
      have hat : b = e.receipt.digest := (List.cons.inj (List.cons.inj hs).2).1.symm
      simp [hat] at hb
  · obtain ⟨hiff, -, herr⟩ := refresh_stores_proof_or_nothing f
    have hno : f.receipt.digest ∉ f.siblings := fun h => hne (List.mem_singleton.mp h)
    cases hr : refresh.run f with
    | ok path f' => exact absurd (hiff.mp ⟨path, f', hr⟩) hno
    | error err f' =>
      obtain ⟨-, rfl, rfl⟩ := herr err f' hr
      rfl

end FinalityRelay
