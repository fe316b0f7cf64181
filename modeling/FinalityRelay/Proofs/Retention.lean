import FinalityRelay.Proofs.Redelivery
import FinalityRelay.Proofs.Unswept

/-! How long jobs stay. Sent jobs stay exactly as long as the block that they are about is remembered; a
block takes no other job away. -/

namespace FinalityRelay

namespace Relay

variable {s : Relay} {bs : List FinalizedBlock} {n k : UInt32}

/-- Of the accepted blocks, those from the oldest remembered number on are remembered. -/
theorem Recalls.remembered_iff (h : s.Recalls bs) (hn : n ∈ bs.map (·.number))
    (hk : s.ledger.oldest? = some k) : n ∈ s.ledger.records.map (·.number) ↔ k ≤ n := by
  obtain ⟨hmem, hle⟩ := (h.invariant.oldest_iff k).mp hk
  constructor
  · intro hr
    obtain ⟨r, hm, rfl⟩ := List.mem_map.mp hr
    exact hle r hm
  · intro hkn
    obtain ⟨front, hf⟩ := h.records
    have hnumbers : (front ++ s.ledger.records).map (·.number) = bs.map (·.number) := by
      rw [hf, List.map_map]
      rfl
    have hasc : (bs.map (·.number)).Pairwise (· < ·) := List.pairwise_map.mpr h.ascending
    rw [← hnumbers, List.map_append] at hn hasc
    rcases List.mem_append.mp hn with hfront | hr
    · -- What was evicted is older than all that is remembered.
      have hlt := (List.pairwise_append.mp hasc).2.2 n hfront k hmem
      exact absurd hkn (UInt32.not_le.mpr hlt)
    · exact hr

/-- A relay that recalls the blocks it has accepted, with jobs about some of them. -/
structure Concerns (bs : List FinalizedBlock) (s : Relay) : Prop where
  recalls : s.Recalls bs
  subjects : ∀ {kind n j}, s.job? kind n = some j → n ∈ bs.map (·.number)

theorem concerns_start (tokenContract bridgeAccount : Name) (capacity : Nat) :
    (start tokenContract bridgeAccount capacity).Concerns [] where
  recalls := recalls_start tokenContract bridgeAccount capacity
  subjects hj := by simp at hj

end Relay

namespace Turn

variable {t : Turn} {b : FinalizedBlock} {bs : List FinalizedBlock}

theorem Valid.concerns (ht : t.Valid) (h : t.before.Concerns bs) :
    t.after.Concerns (bs ++ t.accepted?.toList) := by
  refine ⟨ht.recalls h.recalls, fun {kind n j} hj => ?_⟩
  rw [List.map_append, List.mem_append]
  cases hb : t.before.job? kind n with
  | some i => exact .inl (h.subjects hb)
  | none =>
    obtain ⟨b, ha, -, hn, -⟩ := ht.opening_of_appears h.recalls.invariant hb hj
    exact .inr (by simp [ha, hn])

theorem Valid.oldest_of_accepted (ht : t.Valid) (h : t.before.Invariant) (hb : t.accepted? = some b) :
    ∃ k, t.after.ledger.oldest? = some k ∧ (t.before.remember b).ledger.oldest? = some k := by
  have hledger : t.after.ledger = (t.before.remember b).ledger := by
    rw [(ht.eq_accept h hb).1, Relay.accept_fst]
  have hlast : (t.before.remember b).ledger.records.getLast? = some b.record := by
    simp only [Relay.remember, Ledger.getLast?_rtake h.ledger.positive]
    simp
  cases hr : (t.before.remember b).ledger.records with
  | nil => simp [hr] at hlast
  | cons r rs =>
    have holdest : (t.before.remember b).ledger.oldest? = some r.number := by
      rw [Ledger.oldest?, hr]
      rfl
    exact ⟨r.number, by rw [hledger, holdest], holdest⟩

/-- A job from before takes the block in, unless it is sent and its block is not remembered any more. -/
theorem Valid.job?_of_accepted {kind : ProofKind} {n : UInt32} {j : Job Evidence} (ht : t.Valid)
    (h : t.before.Concerns bs) (hb : t.accepted? = some b) (hj : t.before.job? kind n = some j) :
    t.after.job? kind n =
      if j.status = .sent ∧ n ∉ t.after.ledger.records.map (·.number) then none
      else some (j.collect b.record).1 := by
  have hi := h.recalls.invariant
  obtain ⟨k, hk, hk'⟩ := ht.oldest_of_accepted hi hb
  have hn : n ∈ (bs ++ t.accepted?.toList).map (·.number) := by
    rw [List.map_append]
    exact List.mem_append_left _ (h.subjects hj)
  have hremembered := (ht.recalls h.recalls).remembered_iff hn hk
  rcases Relay.job?_of_accepts hi (accepts_of_accepted? hb) kind n with ⟨_, -, -, hnone, -⟩ | ⟨-, he⟩
  · simp [hj] at hnone
  · rw [(ht.eq_accept hi hb).1, he, hj, hk', Option.map_some, Option.filter_some]
    rw [(ht.eq_accept hi hb).1] at hremembered
    simp only [JobTable.retained, ne_eq, Job.status_collect_sent, hremembered]
    by_cases hs : j.status = .sent
    · by_cases hkn : k ≤ n <;> simp [hs, hkn]
    · simp [hs]

/-- What a turn that accepts a block does to the jobs from before. -/
structure Retains (t : Turn) (b : FinalizedBlock) : Prop where
  /-- The sent jobs after it are those from before whose block is remembered. -/
  sent_iff : ∀ kind n j, t.after.job? kind n = some j ∧ j.status = .sent ↔
    t.before.job? kind n = some j ∧ j.status = .sent ∧ n ∈ t.after.ledger.records.map (·.number)
  /-- All other jobs stay, and take the block in. -/
  unsent : ∀ kind n j, t.before.job? kind n = some j → j.status ≠ .sent →
    t.after.job? kind n = some (j.collect b.record).1

theorem Valid.retains (ht : t.Valid) (h : t.before.Concerns bs) (hb : t.accepted? = some b) :
    t.Retains b where
  sent_iff kind n j := by
    have hi := h.recalls.invariant
    cases hbefore : t.before.job? kind n with
    | none =>
      -- A job that the block opens is not sent.
      refine iff_of_false (fun ⟨hj, hs⟩ => ?_) nofun
      have ho := ht.opens_of_appears hi hbefore (Option.isSome_of_eq_some hj)
      obtain ⟨-, -, i, hafter, -, hc⟩ := ht.of_opens hi ho
      rw [hj] at hafter
      rw [← Option.some.inj hafter, hs] at hc
      cases hc
    | some i =>
      rw [ht.job?_of_accepted h hb hbefore]
      by_cases hs : i.status = .sent
      · have hcollect : (i.collect b.record).1 = i := Job.collect_of_ne _ (by simp [hs])
        rw [hcollect]
        split
        next hgone =>
          refine iff_of_false nofun ?_
          exact fun ⟨_, _, hn⟩ => hgone.2 hn
        next hstays =>
          have hn : n ∈ t.after.ledger.records.map (·.number) := by
            by_contra hn
            exact hstays ⟨hs, hn⟩
          simp only [hn, and_true]
      · -- The block makes no job sent.
        rw [if_neg fun he => hs he.1]
        refine iff_of_false (fun ⟨hj, hsent⟩ => ?_) (fun ⟨hj, hsent, _⟩ => ?_)
        · rw [← Option.some.inj hj] at hsent
          exact hs ((Job.status_collect_sent i _).mp hsent)
        · exact hs (Option.some.inj hj ▸ hsent)
  unsent kind n j hj hs := by
    rw [ht.job?_of_accepted h hb hj, if_neg fun he => hs he.1]

end Turn

namespace Relay

/-- Whatever a relay is given: a block that it accepts leaves of the sent jobs those whose subjects are
still remembered, and all other jobs. -/
theorem run_retains (tokenContract bridgeAccount : Name) (capacity : Nat) (inputs : List Input) :
    ∀ t ∈ (start tokenContract bridgeAccount capacity).run inputs,
      ∀ b, t.accepted? = some b → t.Retains b := by
  intro t ht b hb
  obtain ⟨past, future, hrun⟩ := List.append_of_mem ht
  obtain ⟨hv, hs⟩ := run_before (P := fun ts s => s.Concerns (acceptedBlocks ts))
    (concerns_start tokenContract bridgeAccount capacity)
    (fun ts t hv h => by
      rw [acceptedBlocks_snoc]
      exact hv.concerns h)
    hrun
  exact hv.retains hs hb

end Relay

namespace Sample

/-- A job is sent, and its subject is forgotten two blocks later by a relay that remembers three. -/
def forgotten : List Input :=
  (announced ++ [farBlock, .sweep fun _ => .accepted ""]).map .task ++
    [plainBlock 201 none, plainBlock 202 none].map fun b => .task (.notify (.finalized b))

end Sample

theorem Relay.retains_until_forgotten :
    let turns := (start default default 3).run Sample.forgotten
    (∃ t ∈ turns, t.accepted? = some (Sample.plainBlock 201 none) ∧ ∃ j, j.status = .sent ∧
      t.before.job? .schedule 3 = some j ∧ t.after.job? .schedule 3 = some j) ∧
    ∃ t ∈ turns, t.accepted? = some (Sample.plainBlock 202 none) ∧ ∃ j, j.status = .sent ∧
      t.before.job? .schedule 3 = some j ∧ t.after.job? .schedule 3 ≠ some j := by
  intro turns
  have hretains := run_retains default default 3 Sample.forgotten
  have hstays : ∃ t ∈ turns, t.accepted? = some (Sample.plainBlock 201 none) ∧
      (∃ j ∈ t.before.job? .schedule 3, j.status = .sent) ∧
      3 ∈ t.after.ledger.records.map (·.number) := by
    decide +kernel
  have hgoes : ∃ t ∈ turns, t.accepted? = some (Sample.plainBlock 202 none) ∧
      (∃ j ∈ t.before.job? .schedule 3, j.status = .sent) ∧
      3 ∉ t.after.ledger.records.map (·.number) := by
    decide +kernel
  refine ⟨?_, ?_⟩
  · obtain ⟨t, ht, hb, ⟨j, hj, hs⟩, hn⟩ := hstays
    exact ⟨t, ht, hb, j, hs, hj, (((hretains t ht _ hb).sent_iff .schedule 3 j).mpr ⟨hj, hs, hn⟩).1⟩
  · obtain ⟨t, ht, hb, ⟨j, hj, hs⟩, hn⟩ := hgoes
    refine ⟨t, ht, hb, j, hs, hj, fun hafter => ?_⟩
    exact hn (((hretains t ht _ hb).sent_iff .schedule 3 j).mp ⟨hafter, hs⟩).2.2

end FinalityRelay
