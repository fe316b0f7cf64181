import FinalityRelay.Proofs.Detection

/-! What a final block settles: all that is pending up to its number, unless that is the largest one there
is. A block with that number has no successor to cut at, and leaves what is pending for itself. -/

namespace FinalityRelay

namespace Deposits

variable {d : Deposits}

theorem depositAt?_eq_some_iff {n : UInt32} {x : Deposit} :
    d.depositAt? n = some x ↔ d.pending.get? n = some ⟨x.digests, some x.candidate⟩ := by
  rw [depositAt?, Option.bind_eq_some_iff]
  constructor
  · rintro ⟨⟨digests, candidate⟩, hp, hx⟩
    obtain ⟨c, rfl, rfl⟩ := Option.map_eq_some_iff.mp hx
    exact hp
  · exact fun hp => ⟨_, hp, rfl⟩

theorem get?_take (d : Deposits) (r : BlockRecord) (n : UInt32) :
    (d.take r).1.pending.get? n = if nextNumber r.number ≤ n then d.pending.get? n else none := by
  rw [take_fst, NumberMap.get?_upFrom]

/-- A block settles all up to its number: it takes its deposit, with all digests that are pending with it,
leaves nothing behind, and does not touch what is pending for later blocks. -/
structure Settles (d : Deposits) (r : BlockRecord) : Prop where
  deposit_iff : ∀ x, (d.take r).2.1 = some x ↔
    d.pending.get? r.number = some ⟨x.digests, some x.candidate⟩
  gone : ∀ n ≤ r.number, (d.take r).1.pending.get? n = none
  kept : ∀ n, r.number < n → (d.take r).1.pending.get? n = d.pending.get? n

theorem settles_of_ne (h : d.pending.Ascending) {r : BlockRecord} (hr : r.number ≠ lastNumber) :
    d.Settles r where
  deposit_iff x := by rw [take_deposit h, if_neg hr, depositAt?_eq_some_iff]
  gone n hn := by rw [get?_take, if_neg (UInt32.not_le.mpr ((lt_nextNumber_iff hr).mpr hn))]
  kept n hn := by
    have hnext : ¬n < nextNumber r.number := by
      rw [lt_nextNumber_iff hr, UInt32.not_le]
      exact hn
    rw [get?_take, if_pos (UInt32.not_lt.mp hnext)]

theorem le_lastNumber (n : UInt32) : n ≤ lastNumber :=
  UInt32.le_iff_toNat_le.mpr (Nat.le_of_lt_succ n.toNat_lt)

/-- A block with the largest number takes nothing and forgets what is below it only. -/
theorem take_lastNumber (h : d.pending.Ascending) {r : BlockRecord} (hr : r.number = lastNumber) :
    (d.take r).2.1 = none ∧
      ∀ n, (d.take r).1.pending.get? n = if n = lastNumber then d.pending.get? n else none := by
  refine ⟨by rw [take_deposit h, if_pos hr], fun n => ?_⟩
  have hn : nextNumber r.number ≤ n ↔ n = lastNumber := by
    rw [nextNumber, if_pos hr, hr]
    exact ⟨fun hle => UInt32.le_antisymm (le_lastNumber n) hle, fun he => he ▸ UInt32.le_refl _⟩
  simp only [get?_take, hn]

/-- A block settles all up to its number if and only if this is not the largest one, or nothing is pending
for it. What is pending for the largest number is there after any block, and is never found. -/
theorem settles_iff (h : d.pending.Ascending) (r : BlockRecord) :
    (d.Settles r ↔ r.number < lastNumber ∨ d.pending.get? lastNumber = none) ∧
    (d.take r).1.pending.get? lastNumber = d.pending.get? lastNumber ∧
    (r.number = lastNumber → (d.take r).2.1 = none) := by
  by_cases hr : r.number = lastNumber
  · obtain ⟨hnone, hget⟩ := take_lastNumber h hr
    have hlast := hget lastNumber
    rw [if_pos rfl] at hlast
    refine ⟨⟨fun hs => ?_, fun hor => ?_⟩, hlast, fun _ => hnone⟩
    · exact .inr (hlast ▸ hs.gone lastNumber (hr ▸ UInt32.le_refl _))
    · have hempty := hor.resolve_left (hr ▸ UInt32.lt_irrefl _)
      refine ⟨fun x => ?_, fun n _ => ?_, fun n hn => ?_⟩
      · rw [hnone, hr, hempty]
        exact iff_of_false nofun nofun
      · rw [hget]
        split
        · rename_i hn
          rw [hn, hempty]
        · rfl
      · exact absurd (le_lastNumber n) (UInt32.not_le.mpr (hr ▸ hn))
  · have hlt : r.number < lastNumber := UInt32.lt_of_le_of_ne (le_lastNumber _) hr
    have hs := settles_of_ne h hr
    exact ⟨iff_of_true hs (.inl hlt), hs.kept lastNumber hlt, fun he => absurd he hr⟩

end Deposits

namespace Sample

/-- What is pending after deposits in blocks 6 and 7 and in one of the largest number. -/
def threeDeposits : Deposits :=
  (Deposits.watching (name tokenContract) (name bridgeAccount)).performAll
    [.apply (deposit 1 6 (name "alice") 2), .apply (deposit 2 7 (name "bob") 1),
      .apply (deposit 3 Deposits.lastNumber (name "alice") 1)]

end Sample

theorem Deposits.settles_threeDeposits :
    Sample.threeDeposits.pending.keys = [6, 7, lastNumber] ∧
      Sample.threeDeposits.Settles (Sample.plainBlock 6 none).record ∧
      (Sample.threeDeposits.take (Sample.plainBlock 6 none).record).2.1.isSome ∧
      (Sample.threeDeposits.take (Sample.plainBlock 6 none).record).1.pending.keys = [7, lastNumber] := by
  have ha : Sample.threeDeposits.pending.Ascending :=
    ascending_performAll (d := watching _ _) List.Pairwise.nil _
  have hs := (settles_iff ha (Sample.plainBlock 6 none).record).1.mpr (.inl (by decide))
  exact ⟨by decide +kernel, hs, by decide +kernel, by decide +kernel⟩

/-- The deposit of a block of the largest number is not found when this block becomes final, and stays
pending. -/
theorem Deposits.lastBlock_unsettled :
    let r := (Sample.plainBlock lastNumber none).record
    (∃ p ∈ Sample.threeDeposits.pending.get? r.number, p.candidate.isSome) ∧
      (Sample.threeDeposits.take r).2.1 = none ∧
      (Sample.threeDeposits.take r).1.pending.keys = [lastNumber] ∧ ¬Sample.threeDeposits.Settles r := by
  intro r
  have hpending : ∃ p ∈ Sample.threeDeposits.pending.get? r.number, p.candidate.isSome := by decide +kernel
  have hkeys : (Sample.threeDeposits.take r).1.pending.keys = [lastNumber] := by decide +kernel
  refine ⟨hpending, by decide +kernel, hkeys, fun hs => ?_⟩
  have hgone := hs.gone lastNumber (UInt32.le_refl _)
  have hmem := NumberMap.mem_keys_iff.mp (hkeys ▸ List.mem_singleton_self lastNumber)
  rw [hgone] at hmem
  exact absurd hmem (by decide)

end FinalityRelay
