import FinalityRelay.Proofs.Job

/-! The window of a subject as a function of the accepted blocks. Headers stand in slots one cadence
apart. The first empty slot ends the headers, and the ids after the last header fill one more gap. -/

namespace FinalityRelay

namespace Window

/-- The number of the block whose header has the given place in the window of a subject. -/
def slot (n : UInt32) (i : Nat) : Nat := n.toNat + cadence * i

theorem slot_succ (n : UInt32) (i : Nat) : slot n (i + 1) = slot n i + 12 := by
  simp only [slot, cadence]
  omega

theorem slot_le_slot (n : UInt32) {i k : Nat} (h : i ≤ k) : slot n i ≤ slot n k := by
  simp only [slot, cadence]
  omega

theorem slot_maxHeaders (n : UInt32) : slot n maxHeaders = n.toNat + maxSpan := rfl

def blockAt? (bs : List FinalizedBlock) (m : Nat) : Option FinalizedBlock :=
  bs.find? fun b => b.number.toNat = m

def between (bs : List FinalizedBlock) (lo hi : Nat) : List FinalizedBlock :=
  bs.filter fun b => lo < b.number.toNat ∧ b.number.toNat < hi

/-- The blocks above a number, up to and including the first one that reaches another number. -/
def upTo (bs : List FinalizedBlock) (lo hi : Nat) : List FinalizedBlock :=
  let later := bs.filter fun b => lo < b.number.toNat
  later.takeWhile (fun b => b.number.toNat < hi) ++
    (later.dropWhile fun b => b.number.toNat < hi).take 1

/-- The place of the last header: all slots up to it are filled. -/
def reach (bs : List FinalizedBlock) (n : UInt32) : Nat :=
  Nat.findGreatest (fun k => ∀ i ≤ k, (blockAt? bs (slot n i)).isSome) (maxHeaders - 1)

def gapIds (bs : List FinalizedBlock) : List Digest := (bs.map (·.id)).take maxGapIds

/-- The window of a subject after the given blocks. -/
def ofBlocks (bs : List FinalizedBlock) (n : UInt32) : Window where
  headers := (List.range (reach bs n + 1)).filterMap fun i => (blockAt? bs (slot n i)).map (·.header)
  gaps := (List.range (reach bs n)).map (fun i => gapIds (between bs (slot n i) (slot n (i + 1)))) ++
    [if reach bs n = maxHeaders - 1 then []
      else gapIds (upTo bs (slot n (reach bs n)) (n.toNat + maxSpan))]

def isOpen (bs : List FinalizedBlock) (n : UInt32) : Bool :=
  reach bs n < maxHeaders - 1 ∧ ∀ b ∈ bs, b.number.toNat < n.toNat + maxSpan

variable {bs : List FinalizedBlock} {b : FinalizedBlock} {n : UInt32}

/-! ### The place of the last header -/

theorem reach_le (bs : List FinalizedBlock) (n : UInt32) : reach bs n ≤ maxHeaders - 1 :=
  Nat.findGreatest_le _

theorem isSome_of_le_reach (hn : (blockAt? bs n.toNat).isSome) {i : Nat} (hi : i ≤ reach bs n) :
    (blockAt? bs (slot n i)).isSome := by
  have h0 : ∀ i ≤ 0, (blockAt? bs (slot n i)).isSome := by
    intro i hi
    rw [Nat.le_zero.mp hi]
    exact hn
  exact Nat.findGreatest_spec (P := fun k => ∀ i ≤ k, (blockAt? bs (slot n i)).isSome)
    (Nat.zero_le _) h0 i hi

theorem isNone_of_reach_lt (hn : (blockAt? bs n.toNat).isSome) (hlt : reach bs n < maxHeaders - 1) :
    blockAt? bs (slot n (reach bs n + 1)) = none := by
  have hg : ¬ ∀ i ≤ reach bs n + 1, (blockAt? bs (slot n i)).isSome :=
    Nat.findGreatest_is_greatest (Nat.lt_succ_self _) hlt
  by_contra hs
  refine hg fun i hi => ?_
  rcases Nat.lt_or_ge i (reach bs n + 1) with hi' | hi'
  · exact isSome_of_le_reach hn (Nat.le_of_lt_succ hi')
  · rw [Nat.le_antisymm hi hi']
    exact Option.isSome_iff_ne_none.mpr hs

theorem reach_eq {k : Nat} (hk : k ≤ maxHeaders - 1)
    (hs : ∀ i ≤ k, (blockAt? bs (slot n i)).isSome)
    (hnone : k < maxHeaders - 1 → blockAt? bs (slot n (k + 1)) = none) : reach bs n = k := by
  refine Nat.le_antisymm ?_ (Nat.le_findGreatest hk hs)
  by_contra hlt
  have hle := reach_le bs n
  have hsome : (blockAt? bs (slot n (k + 1))).isSome :=
    isSome_of_le_reach (hs 0 (Nat.zero_le k)) (by omega)
  rw [hnone (by omega)] at hsome
  simp at hsome

/-! ### One more block -/

theorem lt_of_blockAt? (hb : ∀ a ∈ bs, a.number.toNat < b.number.toNat) {m : Nat}
    (hm : (blockAt? bs m).isSome) : m < b.number.toNat := by
  obtain ⟨a, ha⟩ := Option.isSome_iff_exists.mp hm
  have hn : a.number.toNat = m := by simpa [blockAt?] using List.find?_some ha
  exact hn ▸ hb a (List.mem_of_find?_eq_some ha)

theorem blockAt?_snoc (hb : ∀ a ∈ bs, a.number.toNat < b.number.toNat) (m : Nat) :
    blockAt? (bs ++ [b]) m = if b.number.toNat = m then some b else blockAt? bs m := by
  simp only [blockAt?, List.find?_append]
  by_cases hm : b.number.toNat = m
  · have hnone : blockAt? bs m = none := by
      by_contra hs
      have hlt := lt_of_blockAt? hb (Option.isSome_iff_ne_none.mpr hs)
      omega
    simp only [blockAt?] at hnone
    simp [hm, hnone]
  · simp [hm]

theorem blockAt?_snoc_of_isSome (hb : ∀ a ∈ bs, a.number.toNat < b.number.toNat) {m : Nat}
    (hm : (blockAt? bs m).isSome) : blockAt? (bs ++ [b]) m = blockAt? bs m := by
  have hlt := lt_of_blockAt? hb hm
  rw [blockAt?_snoc hb, if_neg (by omega)]

theorem between_snoc {lo hi : Nat} (h : hi ≤ b.number.toNat) :
    between (bs ++ [b]) lo hi = between bs lo hi := by
  have hnot : ¬(lo < b.number.toNat ∧ b.number.toNat < hi) := by omega
  simp [between, hnot]

theorem reach_snoc_of_eq (hb : ∀ a ∈ bs, a.number.toNat < b.number.toNat)
    (hn : (blockAt? bs n.toNat).isSome) (hlt : reach bs n < maxHeaders - 1)
    (he : b.number.toNat = slot n (reach bs n + 1)) : reach (bs ++ [b]) n = reach bs n + 1 := by
  refine reach_eq hlt (fun i hi => ?_) fun _ => ?_
  · rcases Nat.lt_or_ge i (reach bs n + 1) with hi' | hi'
    · have hs := isSome_of_le_reach hn (Nat.le_of_lt_succ hi')
      rwa [blockAt?_snoc_of_isSome hb hs]
    · rw [Nat.le_antisymm hi hi', blockAt?_snoc hb, if_pos he]
      rfl
  · have hs := slot_succ n (reach bs n + 1)
    rw [blockAt?_snoc hb, if_neg (by omega)]
    by_contra hsome
    have hlt := lt_of_blockAt? hb (Option.isSome_iff_ne_none.mpr hsome)
    omega

theorem reach_snoc_of_ne (hb : ∀ a ∈ bs, a.number.toNat < b.number.toNat)
    (hn : (blockAt? bs n.toNat).isSome)
    (hne : reach bs n < maxHeaders - 1 → b.number.toNat ≠ slot n (reach bs n + 1)) :
    reach (bs ++ [b]) n = reach bs n := by
  refine reach_eq (reach_le bs n) (fun i hi => ?_) fun hlt => ?_
  · have hs := isSome_of_le_reach hn hi
    rwa [blockAt?_snoc_of_isSome hb hs]
  · rw [blockAt?_snoc hb, if_neg (hne hlt)]
    exact isNone_of_reach_lt hn hlt

theorem headers_snoc (hb : ∀ a ∈ bs, a.number.toNat < b.number.toNat)
    (hn : (blockAt? bs n.toNat).isSome) {k : Nat} (hk : k ≤ reach bs n) :
    (List.range (k + 1)).filterMap (fun i => (blockAt? (bs ++ [b]) (slot n i)).map (·.header)) =
      (List.range (k + 1)).filterMap fun i => (blockAt? bs (slot n i)).map (·.header) := by
  refine List.filterMap_congr fun i hi => ?_
  have hs := isSome_of_le_reach hn (i := i) (by have := List.mem_range.mp hi; omega)
  rw [blockAt?_snoc_of_isSome hb hs]

theorem gaps_snoc (hb : ∀ a ∈ bs, a.number.toNat < b.number.toNat)
    (hn : (blockAt? bs n.toNat).isSome) :
    (List.range (reach bs n)).map
        (fun i => gapIds (between (bs ++ [b]) (slot n i) (slot n (i + 1)))) =
      (List.range (reach bs n)).map fun i => gapIds (between bs (slot n i) (slot n (i + 1))) := by
  refine List.map_congr_left fun i hi => ?_
  have hs := isSome_of_le_reach hn (i := i + 1) (by have := List.mem_range.mp hi; omega)
  rw [between_snoc (Nat.le_of_lt (lt_of_blockAt? hb hs))]

theorem upTo_of_lt {hi : Nat} (h : ∀ a ∈ bs, a.number.toNat < hi) (lo : Nat) :
    upTo bs lo hi = bs.filter fun b => lo < b.number.toNat := by
  have hl : ∀ a ∈ bs.filter (fun b => lo < b.number.toNat), decide (a.number.toNat < hi) = true :=
    fun a ha => decide_eq_true (h a (List.mem_filter.mp ha).1)
  simp only [upTo]
  rw [List.takeWhile_eq_self_iff.mpr hl, List.dropWhile_eq_nil_iff.mpr hl]
  simp

theorem upTo_snoc_of_lt {lo hi : Nat} (h : ∀ a ∈ bs, a.number.toNat < hi) (hlo : lo < b.number.toNat) :
    upTo (bs ++ [b]) lo hi = upTo bs lo hi ++ [b] := by
  have hl : ∀ a ∈ bs.filter (fun b => lo < b.number.toNat), decide (a.number.toNat < hi) = true :=
    fun a ha => decide_eq_true (h a (List.mem_filter.mp ha).1)
  rw [upTo_of_lt h]
  simp only [upTo, List.filter_append]
  rw [List.takeWhile_append_of_pos hl, List.dropWhile_append_of_pos hl]
  by_cases hb : b.number.toNat < hi <;> simp [hlo, hb]

theorem upTo_snoc_of_exists {lo hi : Nat} (h : ∃ a ∈ bs, lo < a.number.toNat ∧ hi ≤ a.number.toNat) :
    upTo (bs ++ [b]) lo hi = upTo bs lo hi := by
  let later := bs.filter fun b => lo < b.number.toNat
  let under : FinalizedBlock → Bool := fun b => b.number.toNat < hi
  have hd : later.dropWhile under ≠ [] := by
    obtain ⟨a, ha, hlo, hhi⟩ := h
    intro hnil
    have hu := List.dropWhile_eq_nil_iff.mp hnil a (List.mem_filter.mpr ⟨ha, decide_eq_true hlo⟩)
    exact Nat.not_lt.mpr hhi (of_decide_eq_true hu)
  have ht : (later.takeWhile under).length ≠ later.length := by
    have hl := congrArg List.length (later.takeWhile_append_dropWhile (p := under))
    have hp := List.length_pos_iff.mpr hd
    rw [List.length_append] at hl
    omega
  have hu : upTo (bs ++ [b]) lo hi =
      (later ++ [b].filter fun b => lo < b.number.toNat).takeWhile under ++
        ((later ++ [b].filter fun b => lo < b.number.toNat).dropWhile under).take 1 := by
    simp only [upTo, List.filter_append, later, under]
  rw [hu, List.takeWhile_append, if_neg ht, List.dropWhile_append,
    if_neg (by simpa [List.isEmpty_iff] using hd),
    List.take_append_of_le_length (List.length_pos_iff.mpr hd)]
  rfl

/-! ### Growth -/

theorem isOpen_iff : isOpen bs n = true ↔
    reach bs n < maxHeaders - 1 ∧ ∀ b ∈ bs, b.number.toNat < n.toNat + maxSpan := by
  simp [isOpen]

theorem ofBlocks_snoc_of_eq (hb : ∀ a ∈ bs, a.number.toNat < b.number.toNat)
    (hn : (blockAt? bs n.toNat).isSome) (ho : isOpen bs n = true)
    (he : b.number.toNat = slot n (reach bs n + 1)) :
    ofBlocks (bs ++ [b]) n =
      ⟨(ofBlocks bs n).headers ++ [b.header], (ofBlocks bs n).gaps ++ [[]]⟩ := by
  obtain ⟨hlt, hspan⟩ := isOpen_iff.mp ho
  have hr := reach_snoc_of_eq hb hn hlt he
  have hlast : gapIds (upTo bs (slot n (reach bs n)) (n.toNat + maxSpan)) =
      gapIds (between bs (slot n (reach bs n)) (slot n (reach bs n + 1))) := by
    rw [upTo_of_lt hspan]
    congr 1
    refine List.filter_congr fun a ha => ?_
    have hlt := hb a ha
    simp [← he, hlt]
  have hnew : upTo (bs ++ [b]) (slot n (reach bs n + 1)) (n.toNat + maxSpan) = [] := by
    have hnil : (bs ++ [b]).filter (fun a => slot n (reach bs n + 1) < a.number.toNat) = [] := by
      refine List.filter_eq_nil_iff.mpr fun a ha => ?_
      rcases List.mem_append.mp ha with ha | ha
      · have hlt := hb a ha
        simp only [decide_eq_true_eq]
        omega
      · simp only [List.mem_singleton] at ha
        simp [ha, he]
    simp [upTo, hnil]
  simp only [ofBlocks, hr, hnew, Window.mk.injEq]
  constructor
  · rw [List.range_succ, List.filterMap_append, headers_snoc hb hn (Nat.le_refl _)]
    simp [blockAt?_snoc hb, ← he]
  · rw [List.range_succ, List.map_append, gaps_snoc hb hn, if_neg (Nat.ne_of_lt hlt), hlast]
    simp [between_snoc (Nat.le_of_eq he.symm), gapIds]

theorem gapIds_snoc (bs : List FinalizedBlock) (b : FinalizedBlock) :
    gapIds (bs ++ [b]) = if (gapIds bs).length < maxGapIds then gapIds bs ++ [b.id] else gapIds bs := by
  simp only [gapIds, List.map_append, List.map_cons, List.map_nil, List.length_take, List.length_map]
  by_cases hl : bs.length < maxGapIds
  · rw [if_pos (by omega), List.take_of_length_le (by simp; omega),
      List.take_of_length_le (by simp; omega)]
  · rw [if_neg (by omega), List.take_append_of_le_length (by simp; omega)]

theorem ofBlocks_snoc_of_ne (hb : ∀ a ∈ bs, a.number.toNat < b.number.toNat)
    (hn : (blockAt? bs n.toNat).isSome) (ho : isOpen bs n = true)
    (hne : b.number.toNat ≠ slot n (reach bs n + 1)) :
    ofBlocks (bs ++ [b]) n = ((ofBlocks bs n).pushId b.id).1 := by
  obtain ⟨hlt, hspan⟩ := isOpen_iff.mp ho
  have hr := reach_snoc_of_ne hb hn fun _ => hne
  have hlo := lt_of_blockAt? hb (isSome_of_le_reach hn (Nat.le_refl (reach bs n)))
  have hg : (ofBlocks bs n).gaps.getLast? =
      some (gapIds (upTo bs (slot n (reach bs n)) (n.toNat + maxSpan))) := by
    simp [ofBlocks, Nat.ne_of_lt hlt]
  have hd : (ofBlocks bs n).gaps.dropLast = (List.range (reach bs n)).map fun i =>
      gapIds (between bs (slot n i) (slot n (i + 1))) := by
    simp [ofBlocks]
  have hnew : ofBlocks (bs ++ [b]) n = ⟨(ofBlocks bs n).headers, (ofBlocks bs n).gaps.dropLast ++
      [gapIds (upTo bs (slot n (reach bs n)) (n.toNat + maxSpan) ++ [b])]⟩ := by
    simp only [ofBlocks, hr, headers_snoc hb hn (Nat.le_refl _), gaps_snoc hb hn,
      upTo_snoc_of_lt hspan hlo, if_neg (Nat.ne_of_lt hlt), List.dropLast_concat]
  rw [hnew, gapIds_snoc]
  simp only [pushId, hg]
  split
  · rfl
  · have hback : (ofBlocks bs n).gaps.dropLast ++
        [gapIds (upTo bs (slot n (reach bs n)) (n.toNat + maxSpan))] = (ofBlocks bs n).gaps := by
      rw [hd]
      simp [ofBlocks, Nat.ne_of_lt hlt]
    rw [hback]

theorem ofBlocks_snoc_of_closed (hb : ∀ a ∈ bs, a.number.toNat < b.number.toNat)
    (hn : (blockAt? bs n.toNat).isSome) (ho : isOpen bs n = false) :
    ofBlocks (bs ++ [b]) n = ofBlocks bs n ∧ isOpen (bs ++ [b]) n = false := by
  by_cases hr : reach bs n = maxHeaders - 1
  · have hr' := reach_snoc_of_ne hb hn fun hlt => absurd hr (Nat.ne_of_lt hlt)
    refine ⟨?_, ?_⟩
    · simp only [ofBlocks, hr', headers_snoc hb hn (Nat.le_refl _), gaps_snoc hb hn, if_pos hr]
    · simp [isOpen, hr', hr]
  · have hle := reach_le bs n
    have hex : ∃ a ∈ bs, n.toNat + maxSpan ≤ a.number.toNat := by
      by_contra hnot
      simp only [not_exists, not_and, not_le] at hnot
      have ho' := isOpen_iff.mpr ⟨by omega, hnot⟩
      exact Bool.false_ne_true (ho.symm.trans ho')
    obtain ⟨a, ha, hspan⟩ := hex
    have hlt := hb a ha
    have h15 := slot_maxHeaders n
    have hnext := slot_le_slot n (i := reach bs n + 1) (k := maxHeaders) (by omega)
    have hsucc := slot_succ n (reach bs n)
    have hr' := reach_snoc_of_ne hb hn fun _ => by omega
    refine ⟨?_, ?_⟩
    · simp only [ofBlocks, hr', headers_snoc hb hn (Nat.le_refl _), gaps_snoc hb hn]
      rw [upTo_snoc_of_exists ⟨a, ha, by omega, hspan⟩]
    · by_contra hopen
      have hs := (isOpen_iff.mp (Bool.not_eq_false _ ▸ hopen)).2 a (List.mem_append_left _ ha)
      omega

/-! ### The first and last header -/

theorem head?_ofBlocks (hn : (blockAt? bs n.toNat).isSome) :
    (ofBlocks bs n).headers.head? = (blockAt? bs n.toNat).map (·.header) := by
  obtain ⟨a, ha⟩ := Option.isSome_iff_exists.mp hn
  have h0 : blockAt? bs (slot n 0) = some a := ha
  simp [ofBlocks, List.range_succ_eq_map, h0, ha]

theorem getLast?_ofBlocks (hn : (blockAt? bs n.toNat).isSome) :
    (ofBlocks bs n).headers.getLast? =
      (blockAt? bs (slot n (reach bs n))).map (·.header) := by
  obtain ⟨a, ha⟩ := Option.isSome_iff_exists.mp (isSome_of_le_reach hn (Nat.le_refl (reach bs n)))
  simp [ofBlocks, List.range_succ, ha]

theorem length_headers_ofBlocks (hn : (blockAt? bs n.toNat).isSome) :
    (ofBlocks bs n).headers.length = reach bs n + 1 := by
  have hs : ∀ k ≤ reach bs n + 1, ((List.range k).filterMap fun i =>
      (blockAt? bs (slot n i)).map (·.header)).length = k := by
    intro k hk
    induction k with
    | zero => rfl
    | succ k ih =>
      obtain ⟨a, ha⟩ := Option.isSome_iff_exists.mp (isSome_of_le_reach hn (Nat.le_of_succ_le_succ hk))
      rw [List.range_succ, List.filterMap_append, List.length_append, ih (by omega)]
      simp [ha]
  exact hs _ (Nat.le_refl _)

/-- Blocks that carry the numbers of their headers. -/
def Numbered (bs : List FinalizedBlock) : Prop := ∀ b ∈ bs, b.number = b.header.number

theorem number_of_blockAt? (hbs : Numbered bs) {m : Nat} {a : FinalizedBlock}
    (ha : blockAt? bs m = some a) : a.header.number.toNat = m := by
  rw [← hbs a (List.mem_of_find?_eq_some ha)]
  simpa [blockAt?] using List.find?_some ha

theorem first_ofBlocks (hbs : Numbered bs) (hn : (blockAt? bs n.toNat).isSome) :
    (ofBlocks bs n).first.toNat = n.toNat := by
  obtain ⟨a, ha⟩ := Option.isSome_iff_exists.mp hn
  rw [first, head?_ofBlocks hn, ha]
  exact number_of_blockAt? hbs ha

theorem last_ofBlocks (hbs : Numbered bs) (hn : (blockAt? bs n.toNat).isSome) :
    (ofBlocks bs n).last.toNat = slot n (reach bs n) := by
  obtain ⟨a, ha⟩ := Option.isSome_iff_exists.mp (isSome_of_le_reach hn (Nat.le_refl (reach bs n)))
  rw [last, getLast?_ofBlocks hn, ha]
  exact number_of_blockAt? hbs ha

theorem isComplete_ofBlocks (hn : (blockAt? bs n.toNat).isSome) :
    (ofBlocks bs n).isComplete = true ↔ reach bs n = maxHeaders - 1 := by
  have hle := reach_le bs n
  rw [isComplete, length_headers_ofBlocks hn, decide_eq_true_iff]
  simp only [maxHeaders] at *
  omega

/-- Pushing the next block onto the window of the blocks before it gives that of all of them. -/
theorem push_ofBlocks (hbs : Numbered bs) (hb : ∀ a ∈ bs, a.number.toNat < b.number.toNat)
    (hn : (blockAt? bs n.toNat).isSome) (ho : isOpen bs n = true) :
    ((ofBlocks bs n).push b.number b.id b.header).1 = ofBlocks (bs ++ [b]) n := by
  have hlast := last_ofBlocks hbs hn
  have hlt := lt_of_blockAt? hb (isSome_of_le_reach hn (Nat.le_refl (reach bs n)))
  have hc : ¬(b.number ≤ (ofBlocks bs n).last ∨ (ofBlocks bs n).isComplete = true) := by
    rw [isComplete_ofBlocks hn, UInt32.le_iff_toNat_le]
    have hr := (isOpen_iff.mp ho).1
    omega
  have hs := slot_succ n (reach bs n)
  rw [push, if_neg hc, hlast]
  by_cases he : b.number.toNat = slot n (reach bs n + 1)
  · rw [if_pos (by simp only [cadence]; omega), ofBlocks_snoc_of_eq hb hn ho he]
  · rw [if_neg (by simp only [cadence]; omega), ofBlocks_snoc_of_ne hb hn ho he]

theorem ofBlocks_snoc_self (hb : ∀ a ∈ bs, a.number.toNat < b.number.toNat) :
    ofBlocks (bs ++ [b]) b.number = .ofSubject b.header ∧ isOpen (bs ++ [b]) b.number = true := by
  have hle : ∀ a ∈ bs ++ [b], a.number.toNat ≤ b.number.toNat := by
    intro a ha
    rcases List.mem_append.mp ha with ha | ha
    · exact Nat.le_of_lt (hb a ha)
    · rw [List.mem_singleton.mp ha]
  have h0 : blockAt? (bs ++ [b]) (slot b.number 0) = some b := by
    rw [blockAt?_snoc hb]
    exact if_pos rfl
  have hr : reach (bs ++ [b]) b.number = 0 := by
    refine reach_eq (Nat.zero_le _) (fun i hi => ?_) fun _ => ?_
    · rw [Nat.le_zero.mp hi, h0]
      rfl
    · refine List.find?_eq_none.mpr fun a ha hm => ?_
      have hn := of_decide_eq_true hm
      have hs := slot_succ b.number 0
      have hz : slot b.number 0 = b.number.toNat := rfl
      have := hle a ha
      omega
  have hnil : (bs ++ [b]).filter (fun a => slot b.number 0 < a.number.toNat) = [] := by
    refine List.filter_eq_nil_iff.mpr fun a ha => ?_
    simpa [slot] using hle a ha
  refine ⟨?_, isOpen_iff.mpr ⟨by simp [hr, maxHeaders], fun a ha => ?_⟩⟩
  · simp [ofBlocks, hr, h0, upTo, hnil, gapIds, ofSubject]
  · have := hle a ha
    simp only [maxSpan]
    omega

end Window

/-- A job whose window and status are those of its subject after the given blocks. -/
structure Job.Follows {ε : Type} (bs : List FinalizedBlock) (n : UInt32) (j : Job ε) : Prop where
  present : (Window.blockAt? bs n.toNat).isSome
  window : j.window = .ofBlocks bs n
  collecting : j.status = .collecting ↔ Window.isOpen bs n = true

namespace Job.Follows

variable {ε : Type} {bs : List FinalizedBlock} {b : FinalizedBlock} {n : UInt32} {j : Job ε}

open Window

theorem isOpen_snoc (hbs : Numbered (bs ++ [b])) (hb : ∀ a ∈ bs, a.number.toNat < b.number.toNat)
    (hn : (blockAt? bs n.toNat).isSome) (ho : isOpen bs n = true) :
    isOpen (bs ++ [b]) n = true ↔ ¬((ofBlocks (bs ++ [b]) n).isComplete = true ∨
      (ofBlocks (bs ++ [b]) n).isExhausted b.number = true) := by
  have hn' : (blockAt? (bs ++ [b]) n.toNat).isSome := by rwa [blockAt?_snoc_of_isSome hb hn]
  have hle := reach_le (bs ++ [b]) n
  have hspan := (isOpen_iff.mp ho).2
  have hpos : 0 < maxSpan := by decide
  rw [isComplete_ofBlocks hn', isExhausted, first_ofBlocks hbs hn', decide_eq_true_iff, isOpen_iff]
  constructor
  · rintro ⟨hlt, hall⟩
    have hbn := hall b (List.mem_append_right _ List.mem_cons_self)
    omega
  · intro hnot
    refine ⟨by omega, fun a ha => ?_⟩
    rcases List.mem_append.mp ha with ha | ha
    · exact hspan a ha
    · rw [List.mem_singleton.mp ha]
      omega

theorem collect (h : j.Follows bs n) (hbs : Numbered (bs ++ [b]))
    (hb : ∀ a ∈ bs, a.number.toNat < b.number.toNat) :
    (j.collect b.record).1.Follows (bs ++ [b]) n := by
  have hn := h.present
  have hn' : (blockAt? (bs ++ [b]) n.toNat).isSome := by rwa [blockAt?_snoc_of_isSome hb hn]
  by_cases hs : j.status = .collecting
  · have ho := h.collecting.mp hs
    have hg : j.grown b.record = ofBlocks (bs ++ [b]) n := by
      rw [grown, h.window]
      exact push_ofBlocks (fun a ha => hbs a (List.mem_append_left _ ha)) hb hn ho
    have hc := collect_fst j b.record
    rw [if_pos hs, hg] at hc
    rw [hc]
    refine ⟨hn', rfl, ?_⟩
    rw [isOpen_snoc hbs hb hn ho]
    simp only
    split
    · rename_i hd
      exact ⟨fun hr => by simp at hr, fun hr => absurd hd hr⟩
    · rename_i hd
      exact ⟨fun _ => hd, fun _ => rfl⟩
  · have ho : isOpen bs n = false := by
      rw [← Bool.not_eq_true]
      exact fun ho => hs (h.collecting.mpr ho)
    obtain ⟨hw, ho'⟩ := ofBlocks_snoc_of_closed hb hn ho
    rw [collect_of_ne b.record hs]
    refine ⟨hn', h.window.trans hw.symm, ?_⟩
    simp [hs, ho']

theorem ofSubject (hb : ∀ a ∈ bs, a.number.toNat < b.number.toNat) (anchor : Accumulator)
    (evidence : ε) : (Job.ofSubject b.record anchor evidence).Follows (bs ++ [b]) b.number := by
  obtain ⟨hw, ho⟩ := ofBlocks_snoc_self hb
  refine ⟨?_, hw.symm, ?_⟩
  · simp [blockAt?_snoc hb]
  · simp [ho, Job.ofSubject]

end Job.Follows

end FinalityRelay
