import FinalityRelay.Relay.State
import Mathlib

/-! The ledger keeps the last records of those that were added, each id once. Recording a list of fresh
records, as a restored relay does, leaves the last ones of the whole. -/

namespace FinalityRelay

namespace Ledger

variable {l l' : Ledger} {r : BlockRecord}

structure WellFormed (l : Ledger) : Prop where
  positive : 0 < l.capacity
  size_le : l.records.length ≤ l.capacity
  ids : (l.records.map (·.id)).Nodup

theorem wellFormed_ofCapacity (capacity : Nat) : (ofCapacity capacity).WellFormed where
  positive := by simp only [ofCapacity]; omega
  size_le := by simp [ofCapacity]
  ids := by simp [ofCapacity]

theorem get?_isSome_iff (l : Ledger) (id : Digest) :
    (l.get? id).isSome ↔ id ∈ l.records.map (·.id) := by
  simp only [get?, List.find?_isSome, List.mem_map, decide_eq_true_eq]

theorem WellFormed.get?_eq_some_iff (h : l.WellFormed) {id : Digest} :
    l.get? id = some r ↔ r ∈ l.records ∧ r.id = id := by
  have hmem : ∀ {r'}, l.get? id = some r' → r' ∈ l.records ∧ r'.id = id := fun hr' =>
    ⟨List.mem_of_find?_eq_some hr', by simpa using List.find?_some hr'⟩
  refine ⟨hmem, fun ⟨hr, hid⟩ => ?_⟩
  have hs : (l.get? id).isSome := (l.get?_isSome_iff id).mpr (List.mem_map.mpr ⟨r, hr, hid⟩)
  obtain ⟨r', hr'⟩ := Option.isSome_iff_exists.mp hs
  obtain ⟨hm, hid'⟩ := hmem hr'
  rw [hr', List.inj_on_of_nodup_map h.ids hm hr (hid'.trans hid.symm)]

theorem rtake_of_length_le {α : Type} {n : Nat} {as : List α} (h : as.length ≤ n) :
    as.rtake n = as := by
  simp [List.rtake, Nat.sub_eq_zero_of_le h]

theorem rtake_sublist {α : Type} (n : Nat) (as : List α) : (as.rtake n).Sublist as :=
  List.drop_sublist _ _

theorem rtake_min_length {α : Type} (n : Nat) (as : List α) :
    as.rtake (min as.length n) = as.rtake n := by
  simp only [List.rtake]
  congr 1
  omega

theorem rtake_append_rtake {α : Type} (n : Nat) (as bs : List α) :
    (as.rtake n ++ bs).rtake n = (as ++ bs).rtake n := by
  have hd : as.rtake n ++ bs = (as ++ bs).drop (as.length - n) := by
    rw [List.rtake, List.drop_append_of_le_length (by omega)]
  rw [hd, List.rtake, List.rtake, List.drop_drop]
  congr 1
  simp only [List.length_drop, List.length_append]
  omega

theorem getLast?_rtake {α : Type} {n : Nat} (hn : 0 < n) (as : List α) :
    (as.rtake n).getLast? = as.getLast? := by
  rw [List.rtake, List.getLast?_drop]
  split
  · rename_i h
    have : as.length = 0 := by omega
    simp [List.length_eq_zero_iff.mp this]
  · rfl

theorem WellFormed.record?_eq_some_iff (h : l.WellFormed) :
    l.record? r = some l' ↔ r.id ∉ l.records.map (·.id) ∧
      l' = { l with records := (l.records ++ [r]).rtake l.capacity } := by
  unfold record?
  rw [← get?_isSome_iff]
  by_cases hid : (l.get? r.id).isSome = true
  · simp [hid]
  · have hs := h.size_le
    have hp := h.positive
    rw [if_neg hid]
    by_cases hc : l.capacity ≤ l.size
    · have he : l.records.length = l.capacity := Nat.le_antisymm hs hc
      have hl : (l.records ++ [r]).rtake l.capacity = l.records.drop 1 ++ [r] := by
        rw [List.rtake, List.drop_append_of_le_length (by simp; omega)]
        simp [he]
      rw [if_pos hc, hl]
      simp [hid, eq_comm]
    · have hl : (l.records ++ [r]).rtake l.capacity = l.records ++ [r] :=
        rtake_of_length_le (by simp only [size] at hc; simp; omega)
      rw [if_neg hc, hl]
      simp [hid, eq_comm]

theorem WellFormed.record? (h : l.WellFormed) (hr : l.record? r = some l') : l'.WellFormed := by
  obtain ⟨hid, rfl⟩ := h.record?_eq_some_iff.mp hr
  refine ⟨h.positive, ?_, ?_⟩
  · simp only [List.rtake, List.length_drop]
    omega
  · have hnd : ((l.records ++ [r]).map (·.id)).Nodup := by
      rw [List.map_append, List.nodup_append]
      refine ⟨h.ids, by simp, fun a ha b hb he => ?_⟩
      simp only [List.map_cons, List.map_nil, List.mem_singleton] at hb
      exact hid (hb ▸ he ▸ ha)
    exact hnd.sublist ((rtake_sublist _ _).map _)

end Ledger

namespace Relay

variable {s : Relay} {rs : List BlockRecord}

/-- Records with new ids and ascending numbers above the last finalized one. -/
structure Extends (s : Relay) (rs : List BlockRecord) : Prop where
  ids : ((s.ledger.records ++ rs).map (·.id)).Nodup
  numbers : rs.Pairwise (·.number < ·.number)
  above : ∀ last, s.lastFinalized = some last → ∀ r ∈ rs, last < r.number

theorem restoreBlock_of_extends {r : BlockRecord} (h : s.ledger.WellFormed)
    (he : s.Extends (r :: rs)) :
    s.restoreBlock r = { s with
      ledger.records := (s.ledger.records ++ [r]).rtake s.ledger.capacity
      lastFinalized := some r.number } := by
  have hid : r.id ∉ s.ledger.records.map (·.id) := by
    have hnd := he.ids
    rw [List.map_append, List.nodup_append] at hnd
    exact fun hm => hnd.2.2 _ hm r.id (by simp) rfl
  have hl : (s.lastFinalized.map (max r.number)).getD r.number = r.number := by
    cases hlast : s.lastFinalized with
    | none => rfl
    | some last =>
      have hlt := he.above last hlast r List.mem_cons_self
      have hm : max r.number last = if r.number ≤ last then last else r.number := rfl
      simp [hm, UInt32.not_le.mpr hlt]
  rw [restoreBlock, (h.record?_eq_some_iff).mpr ⟨hid, rfl⟩]
  simp only [hl]

theorem Extends.tail {r : BlockRecord} (h : s.ledger.WellFormed) (he : s.Extends (r :: rs)) :
    (s.restoreBlock r).Extends rs := by
  obtain ⟨hlt, hp⟩ := List.pairwise_cons.mp he.numbers
  rw [restoreBlock_of_extends h he]
  refine ⟨?_, hp, fun last hl a ha => ?_⟩
  · have hs : ((s.ledger.records ++ [r]).rtake s.ledger.capacity ++ rs).Sublist
        (s.ledger.records ++ r :: rs) := by
      rw [List.append_cons s.ledger.records r rs]
      exact (Ledger.rtake_sublist _ _).append_right rs
    exact he.ids.sublist (hs.map _)
  · rw [← Option.some.inj hl]
    exact hlt a ha

theorem wellFormed_restoreBlock {r : BlockRecord} (h : s.ledger.WellFormed) :
    (s.restoreBlock r).ledger.WellFormed := by
  unfold restoreBlock
  split
  · exact h
  · rename_i l hl
    exact h.record? hl

/-- A relay that takes in such records remembers the last ones of all. -/
theorem foldl_restoreBlock (h : s.ledger.WellFormed) (he : s.Extends rs) :
    rs.foldl restoreBlock s = { s with
      ledger.records := (s.ledger.records ++ rs).rtake s.ledger.capacity
      lastFinalized := (rs.getLast?.map (·.number)).or s.lastFinalized } := by
  induction rs generalizing s with
  | nil => simp [Ledger.rtake_of_length_le h.size_le]
  | cons r rs ih =>
    rw [List.foldl_cons, ih (wellFormed_restoreBlock h) (he.tail h), restoreBlock_of_extends h he]
    simp only [Ledger.rtake_append_rtake, List.append_assoc, List.singleton_append, List.getLast?_cons,
      Option.map_some, Option.some_or]
    cases rs.getLast? <;> rfl

end Relay

end FinalityRelay
