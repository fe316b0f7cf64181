import FinalityRelay.Relay.NumberMap
import Mathlib

/-! Maps by block number as functions: what a lookup finds after each operation. A map is determined
by its lookups as long as its keys ascend. -/

namespace FinalityRelay

namespace NumberMap

variable {α : Type}

def Ascending (m : NumberMap α) : Prop := m.Pairwise (·.1 < ·.1)

@[simp] theorem get?_nil (n : UInt32) : get? ([] : NumberMap α) n = none := rfl

theorem get?_cons (n k : UInt32) (a : α) (m : NumberMap α) :
    get? ((k, a) :: m) n = if n = k then some a else m.get? n := by
  by_cases h : n = k
  · simp [get?, h]
  · simp [get?, List.lookup_cons, h, beq_eq_false_iff_ne.mpr h]

theorem get?_insert (k n : UInt32) (a : α) (m : NumberMap α) :
    (insert k a m).get? n = if n = k then some a else m.get? n := by
  induction m with
  | nil => simp [insert, get?_cons]
  | cons p m ih =>
    obtain ⟨k', b⟩ := p
    simp only [insert]
    split
    · simp [get?_cons]
    · rename_i hlt
      split
      · rename_i he
        subst he
        by_cases hn : n = k <;> simp [get?_cons, hn]
      · rename_i hne
        rw [get?_cons, ih, get?_cons]
        by_cases hn : n = k'
        · subst hn
          simp [Ne.symm hne]
        · simp [hn]

theorem get?_filter (p : UInt32 → Bool) (m : NumberMap α) (n : UInt32) :
    get? (m.filter fun e => p e.1) n = if p n then m.get? n else none := by
  induction m with
  | nil => simp
  | cons e m ih =>
    obtain ⟨k, b⟩ := e
    rw [List.filter_cons, get?_cons]
    by_cases hp : p k = true
    · simp only [hp, if_true, get?_cons, ih]
      by_cases hn : n = k
      · simp [hn, hp]
      · simp [hn]
    · rw [if_neg hp, ih]
      by_cases hn : n = k
      · simp [hn, hp]
      · simp [hn]

theorem get?_erase (m : NumberMap α) (k n : UInt32) :
    (m.erase k).get? n = if n = k then none else m.get? n := by
  rw [NumberMap.erase, get?_filter (fun i => decide (i ≠ k))]
  by_cases hn : n = k <;> simp [hn]

theorem get?_below (m : NumberMap α) (k n : UInt32) :
    (m.below k).get? n = if n < k then m.get? n else none := by
  rw [NumberMap.below, get?_filter (fun i => decide (i < k))]
  simp only [decide_eq_true_eq]

theorem get?_upFrom (m : NumberMap α) (k n : UInt32) :
    (m.upFrom k).get? n = if k ≤ n then m.get? n else none := by
  rw [NumberMap.upFrom, get?_filter (fun i => decide (k ≤ i))]
  simp only [decide_eq_true_eq]

theorem mem_of_get? {m : NumberMap α} {n : UInt32} {a : α} (h : m.get? n = some a) :
    (n, a) ∈ m := by
  induction m with
  | nil => simp at h
  | cons e m ih =>
    obtain ⟨k, b⟩ := e
    rw [get?_cons] at h
    split at h
    · rename_i he
      simp_all
    · exact List.mem_cons_of_mem _ (ih h)

theorem Ascending.get?_of_mem {m : NumberMap α} (h : m.Ascending) {n : UInt32} {a : α}
    (hm : (n, a) ∈ m) : m.get? n = some a := by
  induction m with
  | nil => simp at hm
  | cons e m ih =>
    obtain ⟨k, b⟩ := e
    obtain ⟨hk, hr⟩ := List.pairwise_cons.mp h
    rw [get?_cons]
    rcases List.mem_cons.mp hm with he | hm
    · simp_all
    · have hlt : k < n := hk _ hm
      have hne : n ≠ k := fun he => by simp [he] at hlt
      simpa [hne] using ih hr hm

theorem Ascending.get?_eq_some_iff {m : NumberMap α} (h : m.Ascending) {n : UInt32} {a : α} :
    m.get? n = some a ↔ (n, a) ∈ m :=
  ⟨mem_of_get?, h.get?_of_mem⟩

theorem mem_keys_iff {m : NumberMap α} {n : UInt32} : n ∈ m.keys ↔ (m.get? n).isSome := by
  induction m with
  | nil => simp [keys]
  | cons e m ih =>
    obtain ⟨k, b⟩ := e
    have hk : n ∈ keys ((k, b) :: m) ↔ n = k ∨ n ∈ keys m := by simp [keys]
    rw [hk, get?_cons, ih]
    by_cases hn : n = k <;> simp [hn]

theorem mem_keys_insert {m : NumberMap α} {k n : UInt32} {a : α} :
    n ∈ (insert k a m).keys ↔ n = k ∨ n ∈ m.keys := by
  rw [mem_keys_iff, mem_keys_iff, get?_insert]
  by_cases hn : n = k <;> simp [hn]

theorem mem_keys_erase {m : NumberMap α} {k n : UInt32} :
    n ∈ (m.erase k).keys ↔ n ≠ k ∧ n ∈ m.keys := by
  rw [mem_keys_iff, mem_keys_iff, get?_erase]
  by_cases hn : n = k <;> simp [hn]

theorem mem_keys_below {m : NumberMap α} {k n : UInt32} :
    n ∈ (m.below k).keys ↔ n < k ∧ n ∈ m.keys := by
  rw [mem_keys_iff, mem_keys_iff, get?_below]
  by_cases hn : n < k <;> simp [hn]

theorem mem_keys_upFrom {m : NumberMap α} {k n : UInt32} :
    n ∈ (m.upFrom k).keys ↔ k ≤ n ∧ n ∈ m.keys := by
  rw [mem_keys_iff, mem_keys_iff, get?_upFrom]
  by_cases hn : k ≤ n <;> simp [hn]

theorem get?_foldl_erase (ns : List UInt32) (m : NumberMap α) (n : UInt32) :
    (ns.foldl NumberMap.erase m).get? n = if n ∈ ns then none else m.get? n := by
  induction ns generalizing m with
  | nil => simp
  | cons k ns ih =>
    rw [List.foldl_cons, ih, get?_erase]
    by_cases hn : n = k <;> simp [hn]

theorem Ascending.keys_pairwise {m : NumberMap α} (h : m.Ascending) :
    m.keys.Pairwise (· < ·) :=
  List.pairwise_map.mpr h

theorem Ascending.keys_nodup {m : NumberMap α} (h : m.Ascending) : m.keys.Nodup :=
  h.keys_pairwise.imp fun hlt he => by simp [he] at hlt

theorem Ascending.filter {m : NumberMap α} (h : m.Ascending) (p : UInt32 × α → Bool) :
    Ascending (m.filter p) :=
  List.Pairwise.filter p h

theorem Ascending.erase {m : NumberMap α} (h : m.Ascending) (n : UInt32) :
    (m.erase n).Ascending :=
  h.filter _

theorem Ascending.below {m : NumberMap α} (h : m.Ascending) (n : UInt32) :
    (m.below n).Ascending :=
  h.filter _

theorem Ascending.upFrom {m : NumberMap α} (h : m.Ascending) (n : UInt32) :
    (m.upFrom n).Ascending :=
  h.filter _

theorem mem_insert {k : UInt32} {a : α} {m : NumberMap α} {e : UInt32 × α}
    (h : e ∈ insert k a m) : e = (k, a) ∨ e ∈ m := by
  induction m with
  | nil => simpa [insert] using h
  | cons p m ih =>
    simp only [insert] at h
    split at h
    · simpa using h
    · split at h
      · rcases List.mem_cons.mp h with h | h
        · exact .inl h
        · exact .inr (List.mem_cons_of_mem _ h)
      · rcases List.mem_cons.mp h with h | h
        · exact .inr (by simp [h])
        · exact (ih h).imp_right (List.mem_cons_of_mem _)

theorem Ascending.insert {m : NumberMap α} (h : m.Ascending) (k : UInt32) (a : α) :
    (insert k a m).Ascending := by
  induction m with
  | nil => simp [NumberMap.insert, Ascending]
  | cons p m ih =>
    obtain ⟨k', b⟩ := p
    obtain ⟨hk, hr⟩ := List.pairwise_cons.mp h
    simp only [NumberMap.insert]
    split
    · rename_i hlt
      refine List.pairwise_cons.mpr ⟨fun e he => ?_, h⟩
      rcases List.mem_cons.mp he with he | he
      · simpa [he] using hlt
      · exact UInt32.lt_trans hlt (hk e he)
    · rename_i hge
      split
      · rename_i he
        subst he
        exact List.pairwise_cons.mpr ⟨hk, hr⟩
      · rename_i hne
        refine List.pairwise_cons.mpr ⟨fun e he => ?_, ih hr⟩
        rcases mem_insert he with he | he
        · subst he
          exact UInt32.lt_of_le_of_ne (UInt32.not_lt.mp hge) (Ne.symm hne)
        · exact hk e he

theorem Ascending.foldl_erase {m : NumberMap α} (h : m.Ascending) (ns : List UInt32) :
    Ascending (ns.foldl NumberMap.erase m) := by
  induction ns generalizing m with
  | nil => exact h
  | cons k ns ih => exact ih (h.erase k)

/-- Maps with ascending keys that agree in all lookups are equal. -/
theorem Ascending.ext {m m' : NumberMap α} (h : m.Ascending) (h' : m'.Ascending)
    (he : ∀ n, m.get? n = m'.get? n) : m = m' := by
  have hnd : ∀ {l : NumberMap α}, l.Ascending → l.Nodup := fun hl =>
    hl.imp fun {a b} hlt heq => by simp [heq] at hlt
  have hp : m.Perm m' := (List.perm_ext_iff_of_nodup (hnd h) (hnd h')).mpr fun ⟨n, a⟩ => by
    rw [← h.get?_eq_some_iff, ← h'.get?_eq_some_iff, he]
  refine hp.eq_of_pairwise (fun a b _ _ hab hba => ?_) h h'
  exact absurd (UInt32.lt_trans hab hba) (UInt32.lt_irrefl _)

end NumberMap

namespace NumberSet

theorem mem_keys_foldl_add {s : NumberSet} {ns : List UInt32} {n : UInt32} :
    n ∈ NumberMap.keys (ns.foldl NumberSet.add s) ↔ n ∈ ns ∨ n ∈ NumberMap.keys s := by
  induction ns generalizing s with
  | nil => simp
  | cons k ns ih =>
    rw [List.foldl_cons, ih, NumberSet.add, NumberMap.mem_keys_insert, List.mem_cons]
    tauto

theorem ascending_foldl_add {s : NumberSet} (h : s.Ascending) (ns : List UInt32) :
    NumberMap.Ascending (ns.foldl NumberSet.add s) := by
  induction ns generalizing s with
  | nil => exact h
  | cons k ns ih => exact ih (h.insert k ())

end NumberSet

end FinalityRelay
