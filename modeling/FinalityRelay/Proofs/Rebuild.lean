import FinalityRelay.Proofs.LinkedChain
import FinalityRelay.Proofs.WindowRun

/-! What a submission over a chain without gaps accounts for. Of the eleven blocks between two headers
the first ten give their ids, and the link of the second header is the id of the last. -/

namespace FinalityRelay

open Window

/-- The ids that headers and gaps account for: the id of each header, the ids of its gap, and the link
of the next header to its predecessor. -/
def rebuiltIds : List SignedHeader → List (List Digest) → List Digest
  | h :: next :: headers, gap :: gaps =>
    h.id :: gap ++ next.header.previous :: rebuiltIds (next :: headers) gaps
  | h :: _, _ => [h.id]
  | [], _ => []

section Contiguous

variable {g : Nat → FinalizedBlock} {first len : Nat}

theorem blockAt?_range (hg : ∀ k < len, (g k).number.toNat = first + k) {k : Nat} (hk : k < len) :
    blockAt? ((List.range len).map g) (first + k) = some (g k) := by
  cases hb : blockAt? ((List.range len).map g) (first + k) with
  | none =>
    have hm := List.find?_eq_none.mp hb (g k) (List.mem_map_of_mem (List.mem_range.mpr hk))
    simp [hg k hk] at hm
  | some a =>
    obtain ⟨i, hi, rfl⟩ := List.mem_map.mp (List.mem_of_find?_eq_some hb)
    have hn : (g i).number.toNat = first + k := by simpa [blockAt?] using List.find?_some hb
    rw [hg i (List.mem_range.mp hi)] at hn
    rw [show i = k by omega]

theorem lt_of_blockAt?_range (hg : ∀ k < len, (g k).number.toNat = first + k) {k : Nat}
    (hk : (blockAt? ((List.range len).map g) (first + k)).isSome) : k < len := by
  obtain ⟨a, ha⟩ := Option.isSome_iff_exists.mp hk
  obtain ⟨i, hi, rfl⟩ := List.mem_map.mp (List.mem_of_find?_eq_some ha)
  have hn : (g i).number.toNat = first + k := by simpa [blockAt?] using List.find?_some ha
  have hi := List.mem_range.mp hi
  rw [hg i hi] at hn
  omega

theorem range_split {i j : Nat} (hij : i ≤ j) (hj : j ≤ len) :
    List.range len = List.range' 0 i ++ List.range' i (j - i) ++ List.range' j (len - j) := by
  have hleft := List.range'_append_1 (s := 0) (m := i) (n := j - i)
  have hright := List.range'_append_1 (s := 0) (m := j) (n := len - j)
  rw [Nat.zero_add, Nat.add_sub_cancel' hij] at hleft
  rw [Nat.zero_add, Nat.add_sub_cancel' hj] at hright
  rw [List.range_eq_range', hleft, hright]

theorem between_range (hg : ∀ k < len, (g k).number.toNat = first + k) {i j : Nat} (hij : i < j)
    (hj : j ≤ len) :
    between ((List.range len).map g) (first + i) (first + j) =
      (List.range' (i + 1) (j - (i + 1))).map g := by
  have hp : ∀ k ∈ List.range len, (decide (first + i < (g k).number.toNat ∧
      (g k).number.toNat < first + j)) = decide (i < k ∧ k < j) := by
    intro k hk
    rw [hg k (List.mem_range.mp hk)]
    simp
  have hout : ∀ s n, (∀ k ∈ List.range' s n, ¬(i < k ∧ k < j)) →
      (List.range' s n).filter (fun k => decide (i < k ∧ k < j)) = [] := fun s n hk =>
    List.filter_eq_nil_iff.mpr fun k hm => by simpa using hk k hm
  have hin : (List.range' (i + 1) (j - (i + 1))).filter (fun k => decide (i < k ∧ k < j)) =
      List.range' (i + 1) (j - (i + 1)) := by
    refine List.filter_eq_self.mpr fun k hk => decide_eq_true ?_
    have := List.mem_range'_1.mp hk
    omega
  rw [between, List.filter_map]
  simp only [Function.comp_def]
  rw [List.filter_congr hp, range_split (i := i + 1) hij hj, List.filter_append, List.filter_append,
    hin, hout, hout]
  · simp
  · intro k hk
    have := List.mem_range'_1.mp hk
    omega
  · intro k hk
    have := List.mem_range'_1.mp hk
    omega

/-- Each round of twelve blocks is rebuilt from a header, ten ids and a link. -/
theorem rebuiltIds_range (rest : List (List Digest)) {p m : Nat}
    (hids : ∀ k, p ≤ k → k ≤ p + 12 * m → (g k).id = (g k).header.id)
    (hlinks : ∀ k, p ≤ k → k < p + 12 * m → (g (k + 1)).header.header.previous = (g k).id) :
    rebuiltIds ((List.range' p (m + 1) 12).map fun k => (g k).header)
        ((List.range' p m 12).map (fun k => (List.range' (k + 1) 10).map fun i => (g i).id) ++ rest) =
      (List.range' p (12 * m + 1)).map fun k => (g k).id := by
  induction m generalizing p with
  | zero =>
    have h0 := hids p (Nat.le_refl _) (Nat.le_refl _)
    cases rest <;> simp [List.range'_succ, rebuiltIds, h0]
  | succ m ih =>
    have hround : List.range' p (12 * (m + 1) + 1) =
        p :: List.range' (p + 1) 10 ++ (p + 11) :: List.range' (p + 12) (12 * m + 1) := by
      rw [show 12 * (m + 1) + 1 = 12 + (12 * m + 1) by omega, ← List.range'_append_1]
      rfl
    have hnext := ih (p := p + 12) (fun k hk hk' => hids k (by omega) (by omega))
      fun k hk hk' => hlinks k (by omega) (by omega)
    have hid := hids p (Nat.le_refl _) (by omega)
    have hlink := hlinks (p + 11) (by omega) (by omega)
    rw [hround, List.map_append, List.map_cons, List.map_cons, ← hnext, ← hlink, hid]
    rw [List.range'_succ (n := m + 1), List.range'_succ (n := m) (s := p)]
    rw [List.range'_succ (n := m), List.map_cons, List.map_cons, List.map_cons, List.cons_append]
    rfl

variable {n : UInt32} {p : Nat}

theorem slot_eq_add (hn : n.toNat = first + p) (i : Nat) : slot n i = first + (p + 12 * i) := by
  simp only [slot, cadence]
  omega

/-- Without gaps between the blocks a window closes with its last header only. -/
theorem reach_of_closed (hg : ∀ k < len, (g k).number.toNat = first + k) (hn : n.toNat = first + p)
    (hp : (blockAt? ((List.range len).map g) n.toNat).isSome)
    (ho : isOpen ((List.range len).map g) n = false) :
    p + 168 < len ∧ reach ((List.range len).map g) n = maxHeaders - 1 := by
  have hlen : p + 168 < len := by
    by_cases hr : reach ((List.range len).map g) n = maxHeaders - 1
    · have hs := isSome_of_le_reach hp (Nat.le_of_eq hr.symm)
      rw [slot_eq_add hn] at hs
      exact lt_of_blockAt?_range hg hs
    · have hle := reach_le ((List.range len).map g) n
      by_contra hnot
      refine Bool.false_ne_true (ho.symm.trans (isOpen_iff.mpr ⟨by omega, fun b hb => ?_⟩))
      obtain ⟨k, hk, rfl⟩ := List.mem_map.mp hb
      have hk := List.mem_range.mp hk
      rw [hg k hk]
      simp only [maxSpan]
      omega
  refine ⟨hlen, reach_eq (Nat.le_refl _) (fun i hi => ?_) fun hlt => absurd hlt (Nat.lt_irrefl _)⟩
  simp only [maxHeaders] at hi
  rw [slot_eq_add hn, blockAt?_range hg (by omega)]
  rfl

theorem range'_step (p m : Nat) : List.range' p m 12 = (List.range m).map fun i => p + 12 * i :=
  List.ext_getElem (by simp) (by simp)

theorem headers_range (hg : ∀ k < len, (g k).number.toNat = first + k) (hn : n.toNat = first + p)
    (hlen : p + 168 < len) (hr : reach ((List.range len).map g) n = maxHeaders - 1) :
    (ofBlocks ((List.range len).map g) n).headers =
      (List.range' p 15 12).map fun k => (g k).header := by
  have hb : ∀ i ∈ List.range 15, (blockAt? ((List.range len).map g) (slot n i)).map (·.header) =
      some (g (p + 12 * i)).header := by
    intro i hi
    have hi := List.mem_range.mp hi
    rw [slot_eq_add hn, blockAt?_range hg (by omega)]
    rfl
  have h15 : maxHeaders - 1 + 1 = 15 := rfl
  simp only [ofBlocks, hr, h15]
  rw [List.filterMap_congr hb, List.filterMap_eq_map', range'_step, List.map_map]
  rfl

theorem gaps_range (hg : ∀ k < len, (g k).number.toNat = first + k) (hn : n.toNat = first + p)
    (hlen : p + 168 < len) (hr : reach ((List.range len).map g) n = maxHeaders - 1) :
    (ofBlocks ((List.range len).map g) n).gaps = (List.range' p 14 12).map
      (fun k => (List.range' (k + 1) 10).map fun i => (g i).id) ++ [[]] := by
  have hb : ∀ i ∈ List.range 14, gapIds (between ((List.range len).map g) (slot n i) (slot n (i + 1))) =
      (List.range' (p + 12 * i + 1) 10).map fun k => (g k).id := by
    intro i hi
    have hi := List.mem_range.mp hi
    rw [slot_eq_add hn, slot_eq_add hn, between_range hg (by omega) (by omega),
      show p + 12 * (i + 1) - (p + 12 * i + 1) = 11 by omega, gapIds, List.map_map, ← List.map_take]
    rfl
  have h14 : maxHeaders - 1 = 14 := rfl
  simp only [ofBlocks, hr, h14, if_true]
  rw [List.map_congr_left hb, range'_step, List.map_map]
  rfl

end Contiguous

theorem Linked.exists_range {bs : List FinalizedBlock} (h : Linked bs)
    (hasc : bs.Pairwise (·.number < ·.number)) (hne : bs ≠ []) :
    ∃ (g : Nat → FinalizedBlock) (first : Nat), (List.range bs.length).map g = bs ∧
      (∀ k < bs.length, (g k).number.toNat = first + k) ∧
      (∀ k < bs.length, (g k).id = (g k).header.id) ∧
      ∀ k, k + 1 < bs.length → (g (k + 1)).header.header.previous = (g k).id := by
  obtain ⟨a, cs, rfl⟩ := List.exists_cons_of_ne_nil hne
  have hnums := h.numbers_eq hasc
  generalize hbs : a :: cs = bs at *
  have hlen : cs.length + 1 = bs.length := by rw [← hbs, List.length_cons]
  rw [hlen] at hnums
  have hget : ∀ {k} (hk : k < bs.length), bs[k]?.getD a = bs[k] := fun hk => by simp [hk]
  refine ⟨fun k => bs[k]?.getD a, a.number.toNat, ?_, fun k hk => ?_, fun k hk => ?_, fun k hk => ?_⟩
  · exact List.ext_getElem (by simp) fun k hk hk' => by simp [hk']
  · have hk' : k < (bs.map (·.number.toNat)).length := by simpa using hk
    have hn : (bs.map (·.number.toNat))[k] = a.number.toNat + k := by simp [hnums]
    simp only
    rw [hget hk, ← hn, List.getElem_map]
  · simp only
    rw [hget hk]
    exact h.ids _ (List.getElem_mem hk)
  · simp only
    rw [hget hk, hget (Nat.lt_of_succ_lt hk)]
    exact List.isChain_iff_getElem.mp h.links k hk

/-- A closed window over linked blocks accounts for the 169 blocks from its subject on. -/
theorem Job.Follows.rebuilt {ε : Type} {bs : List FinalizedBlock} {n : UInt32} {j : Job ε}
    (h : j.Follows bs n) (hl : Linked bs) (hasc : bs.Pairwise (·.number < ·.number))
    (hs : j.status ≠ .collecting) :
    j.window.headers.length = 15 ∧ j.window.gaps.length = 15 ∧
      ∃ mid, mid <:+: bs ∧ mid.map (·.number.toNat) = List.range' n.toNat 169 ∧
        rebuiltIds j.window.headers j.window.gaps = mid.map (·.id) := by
  have hp := h.present
  have ho : isOpen bs n = false := by
    rw [← Bool.not_eq_true]
    exact fun ho => hs (h.collecting.mpr ho)
  obtain ⟨b, hb⟩ := Option.isSome_iff_exists.mp hp
  have hbn : b.number.toNat = n.toNat := by simpa [blockAt?] using List.find?_some hb
  have hmem := List.mem_of_find?_eq_some hb
  obtain ⟨g, first, hrange, hg, hids, hlinks⟩ := hl.exists_range hasc (List.ne_nil_of_mem hmem)
  obtain ⟨p, hpl, hpb⟩ := List.mem_map.mp (hrange.symm ▸ hmem)
  have hn : n.toNat = first + p := by rw [← hbn, ← hpb, hg p (List.mem_range.mp hpl)]
  have hclosed := reach_of_closed hg hn
  have hheaders := headers_range hg hn
  have hgaps := gaps_range hg hn
  rw [hrange] at hclosed hheaders hgaps
  obtain ⟨hend, hr⟩ := hclosed hp ho
  have hmid : (List.range' p 169).map g <:+: bs := by
    refine ⟨(List.range' 0 p).map g, (List.range' (p + 169) (bs.length - (p + 169))).map g, ?_⟩
    have hlen : p + 169 ≤ bs.length := by omega
    have hsplit := range_split (i := p) (Nat.le_add_right p 169) hlen
    rw [Nat.add_sub_cancel_left] at hsplit
    rw [← List.map_append, ← List.map_append, ← hsplit, hrange]
  have hnumbers : ((List.range' p 169).map g).map (·.number.toNat) = List.range' n.toNat 169 := by
    refine List.ext_getElem (by simp) fun i hi _ => ?_
    have hi : i < 169 := by simpa using hi
    simp only [List.getElem_map, List.getElem_range', Nat.one_mul]
    rw [hg (p + i) (by omega), hn, Nat.add_assoc]
  rw [h.window, hheaders hend hr, hgaps hend hr]
  refine ⟨by simp, by simp, _, hmid, hnumbers, ?_⟩
  rw [rebuiltIds_range [[]] (fun k _ hk => hids k (by omega)) fun k _ hk => hlinks k (by omega),
    List.map_map]
  rfl

namespace Relay

theorem map_input_run (s : Relay) (is : List Input) : (s.run is).map Turn.input <+: is := by
  induction is generalizing s with
  | nil => exact List.prefix_refl _
  | cons i is ih =>
    unfold run
    cases ht : s.turn? i with
    | none => exact List.nil_prefix
    | some t =>
      rw [List.map_cons, (valid_of_turn? ht).2]
      exact List.cons_prefix_cons.mpr ⟨rfl, ih t.after⟩

/-- Whatever a relay submits for a subject of a linked chain comes after the block that is 168 above it
and accounts for the ids of all blocks up to there. -/
theorem submission_rebuilds (tokenContract bridgeAccount : Name) (capacity : Nat)
    {inputs : List Input} (hl : Linked (finalizedBlocks inputs)) {answers : Nat → Answer}
    {x : Submission} :
    let turns := (start tokenContract bridgeAccount capacity).run inputs
    x ∈ (((start tokenContract bridgeAccount capacity).last turns).sweep answers).submissions →
      x.headers.length = 15 ∧ x.gaps.length = 15 ∧
        ∃ mid, mid <:+: finalizedBlocks (turns.map Turn.input) ∧
          mid.map (·.number.toNat) = List.range' x.subject.toNat 169 ∧
          rebuiltIds x.headers x.gaps = mid.map (·.id) := by
  intro turns hx
  have hl' : Linked (finalizedBlocks (turns.map Turn.input)) :=
    hl.sublist ((map_input_run _ inputs).filterMap _).isInfix
  have hpre := accepted_prefix (recalls_start tokenContract bridgeAccount capacity) hl'
  have hla := hl'.sublist hpre.isInfix
  have hs := run_follows (follows_start tokenContract bridgeAccount capacity) hla.numbers
  obtain ⟨j, j', hj, hr, hp, hxj⟩ := exists_job_of_submission hs.recalls.invariant hx
  obtain ⟨e, -, rfl⟩ := Job.prepared?_eq_some_iff.mp hp
  have hheaders : x.headers = j.window.headers := by rw [hxj, Job.headers_submission]
  have hgaps : x.gaps = j.window.gaps := by rw [hxj, Job.gaps_submission]
  obtain ⟨h15, h15', mid, hmid, hnums, hids⟩ :=
    (hs.jobs hj).rebuilt hla hs.recalls.ascending (by simp [hr])
  rw [hheaders, hgaps]
  exact ⟨h15, h15', mid, hmid.trans hpre.isInfix, hnums, hids⟩

end Relay

namespace Sample

theorem isChain_relinkAfter (parent : FinalizedBlock) (bs : List FinalizedBlock) :
    (parent :: relinkAfter parent bs).IsChain fun a b => b.header.header.previous = a.id := by
  induction bs generalizing parent with
  | nil => exact List.isChain_singleton _
  | cons b bs ih => exact List.isChain_cons_cons.mpr ⟨rfl, ih _⟩

theorem exists_withIds_relinkAfter {parent b : FinalizedBlock} {bs : List FinalizedBlock}
    (hb : b ∈ relinkAfter parent bs) : ∃ a, b = withIds a := by
  induction bs generalizing parent with
  | nil => simp [relinkAfter] at hb
  | cons c cs ih =>
    rcases List.mem_cons.mp hb with rfl | hb
    · exact ⟨_, rfl⟩
    · exact ih hb

theorem linked_relink (bs : List FinalizedBlock) : Linked (relink bs) := by
  cases bs with
  | nil => exact ⟨by simp [relink, Window.Numbered], by simp [relink], List.IsChain.nil⟩
  | cons b bs =>
    have hw : ∀ c ∈ relink (b :: bs), ∃ a, c = withIds a := by
      intro c hc
      rcases List.mem_cons.mp hc with rfl | hc
      · exact ⟨b, rfl⟩
      · exact exists_withIds_relinkAfter hc
    refine ⟨fun c hc => ?_, fun c hc => ?_, isChain_relinkAfter _ bs⟩
    · obtain ⟨a, rfl⟩ := hw c hc
      rfl
    · obtain ⟨a, rfl⟩ := hw c hc
      rfl

/-- The finalization of 171 linked blocks, the third of which announces a schedule. -/
def announcedChain : List Input :=
  (relink (plainBlock 1 none :: plainBlock 2 none :: plainBlock 3 (some ⟨1, []⟩) ::
    List.replicate 168 (plainBlock 4 none))).map fun b => .task (.notify (.finalized b))

end Sample

theorem Relay.submission_of_announcedChain :
    Linked (finalizedBlocks Sample.announcedChain) ∧
      let turns := (start default default 5).run Sample.announcedChain
      ∃ x ∈ (((start default default 5).last turns).sweep fun _ => .rejected default).submissions,
        x.headers.length = 15 ∧ x.gaps.length = 15 ∧
          ∃ mid, mid <:+: finalizedBlocks (turns.map Turn.input) ∧
            mid.map (·.number.toNat) = List.range' x.subject.toNat 169 ∧
            rebuiltIds x.headers x.gaps = mid.map (·.id) := by
  have hl : Linked (finalizedBlocks Sample.announcedChain) := by
    rw [Sample.announcedChain, finalizedBlocks_map]
    exact Sample.linked_relink _
  obtain ⟨x, hx⟩ := List.exists_mem_of_length_pos (show 0 < (((start default default 5).last
    ((start default default 5).run Sample.announcedChain)).sweep
      fun _ => .rejected default).submissions.length by decide +kernel)
  exact ⟨hl, x, hx, submission_rebuilds default default 5 hl hx⟩

end FinalityRelay
