import FinalityRelay.Proofs.JobLife
import FinalityRelay.Proofs.Rebuild

/-! Which events get a job. A proof starts from the history of the block two links before its subject,
so that block and the one between them have to be retained once the subject is recorded. On a chain
without gaps they are if and only if the ledger holds three records. -/

namespace FinalityRelay

namespace Ledger

variable {l : Ledger} {r g : BlockRecord}

/-- `g` is retained, and so is a record between it and `r`. -/
def Anchors (l : Ledger) (r g : BlockRecord) : Prop :=
  g ∈ l.records ∧ ∃ p ∈ l.records, p.id = r.previous ∧ g.id = p.previous

theorem WellFormed.ancestor?_eq_some_iff (h : l.WellFormed) (hr : r ∈ l.records) :
    l.ancestor? r.id Relay.anchorDepth = some g ↔ l.Anchors r g := by
  have hself : l.get? r.id = some r := h.get?_eq_some_iff.mpr ⟨hr, rfl⟩
  simp only [Relay.anchorDepth, ancestor?, hself, Option.bind_some, Option.bind_eq_some_iff,
    h.get?_eq_some_iff, Anchors]
  constructor
  · rintro ⟨p, ⟨hp, hpr⟩, hg, hgp⟩
    exact ⟨hg, p, hp, hpr, hgp⟩
  · rintro ⟨hg, p, hp, hpr, hgp⟩
    exact ⟨p, ⟨hp, hpr⟩, hg, hgp⟩

end Ledger

namespace Relay

variable {s : Relay} {b : FinalizedBlock}

def triggers (s : Relay) (b : FinalizedBlock) : ProofKind → Bool
  | .schedule => b.header.header.announced?.isSome
  | .deposit => (s.deposits.take b.record).2.1.isSome

theorem isSome_opening? (s : Relay) (b : FinalizedBlock) (kind : ProofKind) :
    ((s.remember b).opening? b.record kind).isSome =
      (s.triggers b kind && ((s.remember b).anchor? b.record).isSome) := by
  have hd : (s.remember b).deposits = s.deposits := rfl
  cases kind with
  | schedule =>
    simp only [opening?, scheduleOpening?, triggers, b.announced?_record, Option.isSome_map]
    cases b.header.header.announced? <;> simp
  | deposit =>
    simp only [opening?, depositOpening?, triggers, hd, Option.isSome_map]
    cases (s.deposits.take b.record).2.1 <;> simp

theorem record_mem_remember (h : s.Invariant) (b : FinalizedBlock) :
    b.record ∈ (s.remember b).ledger.records := by
  refine List.mem_of_getLast? ?_
  simp only [remember]
  rw [Ledger.getLast?_rtake h.ledger.positive, List.getLast?_concat]

theorem anchor?_remember (h : s.Invariant) (hb : s.accepts b = true) {history : Accumulator} :
    (s.remember b).anchor? b.record = some history ↔
      ∃ g, (s.remember b).ledger.Anchors b.record g ∧ g.history = history := by
  rw [anchor?, Option.map_eq_some_iff]
  simp only [(h.remember hb).ledger.ancestor?_eq_some_iff (record_mem_remember h b)]

end Relay

/-- The job of an accepted block: there is one if the block has an event and its anchor is retained. -/
structure Turn.Anchored (t : Turn) (b : FinalizedBlock) (kind : ProofKind) : Prop where
  recorded : t.before.ledger.record? b.record = some t.after.ledger
  fresh : t.before.job? kind b.number = none
  opens_iff : t.opens kind b.number = true ↔ (t.after.job? kind b.number).isSome
  isSome_iff : (t.after.job? kind b.number).isSome ↔
    t.before.triggers b kind = true ∧ ∃ g, t.after.ledger.Anchors b.record g
  anchor : ∀ {j g}, t.after.job? kind b.number = some j → t.after.ledger.Anchors b.record g →
    j.anchor = g.history

namespace Turn

variable {t : Turn} {b : FinalizedBlock}

theorem Valid.ledger_of_accepted (ht : t.Valid) (h : t.before.Invariant) (hb : t.accepted? = some b) :
    t.after.ledger = (t.before.remember b).ledger := by
  rw [(ht.eq_accept h hb).1, Relay.accept_fst]

theorem Valid.anchored (ht : t.Valid) (h : t.before.Invariant) (hb : t.accepted? = some b)
    (kind : ProofKind) : t.Anchored b kind := by
  have hacc := accepts_of_accepted? hb
  have hfresh := Relay.job?_eq_none_of_accepts h hacc kind
  have hledger := ht.ledger_of_accepted h hb
  have hanchor : ∀ {history}, (t.before.remember b).anchor? b.record = some history ↔
      ∃ g, t.after.ledger.Anchors b.record g ∧ g.history = history := by
    intro history
    rw [hledger]
    exact Relay.anchor?_remember h hacc
  have hopens : t.opens kind b.number = true ↔ (t.after.job? kind b.number).isSome := by
    refine ⟨fun ho => ?_, ht.opens_of_appears h hfresh⟩
    obtain ⟨-, -, j, hj, -⟩ := ht.of_opens h ho
    rw [hj, Option.isSome_some]
  refine ⟨?_, hfresh, hopens, ?_, fun {j g} hj hg => ?_⟩
  · rw [hledger]
    exact h.ledger.record?_eq_some_iff.mpr ⟨((t.before.accepts_iff b).mp hacc).2, rfl⟩
  · have hmem : t.opens kind b.number = true ↔
        ((t.before.remember b).opening? b.record kind).isSome := by
      rw [opens, decide_eq_true_eq, (ht.eq_accept h hb).2, Relay.mem_opened_accept]
      exact and_iff_right rfl
    rw [← hopens, hmem, Relay.isSome_opening?, Bool.and_eq_true, Option.isSome_iff_exists]
    simp only [hanchor]
    refine and_congr_right fun _ => ⟨fun ⟨_, g, hg, _⟩ => ⟨g, hg⟩, fun ⟨g, hg⟩ => ⟨_, g, hg, rfl⟩⟩
  · obtain ⟨b', hb', -, -, ho, -⟩ := ht.opening_of_appears h hfresh hj
    obtain rfl := Option.some.inj (hb.symm.trans hb')
    obtain ⟨anchor, ha, he⟩ := Relay.opening?_eq_some ho
    have hg' := hanchor.mpr ⟨g, hg, rfl⟩
    rw [he, ← Option.some.inj (ha.symm.trans hg')]
    rfl

end Turn

/-! ### Chains without gaps -/

namespace Linked

variable {bs front : List FinalizedBlock} {a b g p : FinalizedBlock} {l : Ledger}

theorem number_of_previous (h : Linked bs) (ha : a ∈ bs) (hb : b ∈ bs)
    (hp : a.id = b.header.header.previous) : b.number = a.number + 1 := by
  rw [h.numbers b hb, ← h.number_id ha, hp]
  rfl

theorem three_le_of_anchors (h : Linked bs) (hl : l.records ⊆ bs.map FinalizedBlock.record)
    {r r' : BlockRecord} (hr : r ∈ l.records) (ha : l.Anchors r r') : 3 ≤ l.records.length := by
  obtain ⟨hg, p, hp, hpr, hgp⟩ := ha
  obtain ⟨b, hb, rfl⟩ := List.mem_map.mp (hl hr)
  obtain ⟨a, ha, rfl⟩ := List.mem_map.mp (hl hp)
  obtain ⟨c, hc, rfl⟩ := List.mem_map.mp (hl hg)
  have hba : b.number.toNat = (a.number.toNat + 1) % 2 ^ 32 :=
    congrArg UInt32.toNat (h.number_of_previous ha hb hpr)
  have hac : a.number.toNat = (c.number.toNat + 1) % 2 ^ 32 :=
    congrArg UInt32.toNat (h.number_of_previous hc ha hgp)
  have hne : ∀ {x y : FinalizedBlock}, x.number.toNat ≠ y.number.toNat → x.record ≠ y.record :=
    fun hn he => hn (congrArg (fun r : BlockRecord => r.number.toNat) he)
  have hlt := c.number.toNat_lt
  -- numbers along links differ even where they wrap around, so the walk meets no record twice
  have hnd : [c.record, a.record, b.record].Nodup := by
    simp only [List.nodup_cons, List.mem_cons, List.not_mem_nil, or_false, not_or, List.nodup_nil,
      not_false_iff, and_true]
    exact ⟨⟨hne (by omega), hne (by omega)⟩, hne (by omega)⟩
  refine (hnd.subperm ?_).length_le
  simp [hg, hp, hr]

theorem anchors (h : Linked (front ++ [g, p, b]))
    (hl : l.records <:+ (front ++ [g, p, b]).map FinalizedBlock.record) (h3 : 3 ≤ l.records.length) :
    l.Anchors b.record g.record := by
  have hs : [g.record, p.record, b.record] <:+ l.records := by
    refine List.suffix_of_suffix_length_le ?_ hl h3
    rw [List.map_append]
    exact List.suffix_append _ _
  have hlink := h.links.infix (List.suffix_append front [g, p, b]).isInfix
  simp only [List.isChain_cons_cons] at hlink
  exact ⟨hs.subset (by simp), p.record, hs.subset (by simp), hlink.2.1.symm, hlink.1.symm⟩

end Linked

theorem Accumulator.ofLeaves_concat (leaves : List Digest) (leaf : Digest) :
    ofLeaves (leaves ++ [leaf]) = (ofLeaves leaves).append leaf := by
  rw [ofLeaves, appendAll, List.foldl_concat]
  rfl

/-- A linked chain with ascending numbers. The history of a block consists of some first leaves and
the ids of the blocks before it. -/
structure Accrues (leaves : List Digest) (bs : List FinalizedBlock) : Prop where
  linked : Linked bs
  ascending : bs.Pairwise (·.number < ·.number)
  history : ∀ front b rest, bs = front ++ b :: rest →
    b.history = .ofLeaves (leaves ++ front.map (·.id))

namespace Accrues

variable {leaves : List Digest} {bs cs : List FinalizedBlock} {a b c : FinalizedBlock}

theorem of_prefix (h : Accrues leaves bs) (hp : cs <+: bs) : Accrues leaves cs where
  linked := h.linked.sublist hp.isInfix
  ascending := h.ascending.sublist hp.sublist
  history front b rest he := by
    obtain ⟨more, rfl⟩ := hp
    exact h.history front b (rest ++ more) (by simp [he])

theorem number_add_two (h : Accrues leaves bs) (hi : [a, b, c] <:+: bs) :
    a.number.toNat + 2 = c.number.toNat := by
  have hnum := (h.linked.sublist hi).numbers_eq (h.ascending.sublist hi.sublist)
  simp only [List.map_cons, List.map_nil, List.length_cons, List.length_nil, Nat.zero_add,
    List.range', List.cons.injEq] at hnum
  omega

end Accrues

namespace Turn

variable {t : Turn}

inductive LedgerStep (t : Turn) : Prop
  | kept (accepted : t.accepted? = none) (after : t.after.ledger = t.before.ledger)
  | recorded (b : FinalizedBlock) (accepted : t.accepted? = some b)
      (after : t.after.ledger = (t.before.remember b).ledger)
  | reloaded (tokenContract bridgeAccount : Name) (capacity : Nat)
      (input : t.input = .restart tokenContract bridgeAccount capacity)
      (accepted : t.accepted? = none)
      (after : t.after.ledger = (t.before.successor tokenContract bridgeAccount capacity).ledger)

theorem Valid.ledgerStep (ht : t.Valid) (h : t.before.Invariant) : t.LedgerStep := by
  cases ht.effect h with
  | ignored accepted after => exact .kept accepted (by rw [after])
  | applied x input after =>
    exact .kept (accepted?_of_applied input) (by rw [after]; rfl)
  | block b input accepts =>
    have hb := accepted?_of_accepts input accepts
    exact .recorded b hb (ht.ledger_of_accepted h hb)
  | sweep answers input after =>
    exact .kept (accepted?_of_sweep input) (by rw [after, (t.before.frame_sweep answers).ledger])
  | restart k b c input after =>
    exact .reloaded k b c input (accepted?_of_restart input) (by rw [after])

end Turn

theorem exists_pair_of_two_le {α : Type} {as : List α} (h : 2 ≤ as.length) :
    ∃ front a b, as = front ++ [a, b] := by
  have hlast : (as.drop (as.length - 2)).length = 2 := by
    rw [List.length_drop]
    omega
  obtain ⟨a, b, hab⟩ := List.length_eq_two.mp hlast
  exact ⟨as.take (as.length - 2), a, b, by rw [← hab, List.take_append_drop]⟩

/-- A relay with room for three records, which has three as soon as it accepted so many blocks. -/
structure Relay.Roomy (bs : List FinalizedBlock) (s : Relay) : Prop where
  capacity : 3 ≤ s.ledger.capacity
  size : min 3 bs.length ≤ s.ledger.records.length

/-- A relay with room for two records at most, which never opened a job. -/
structure Relay.Idle (s : Relay) : Prop where
  capacity : s.ledger.capacity ≤ 2
  jobs : ∀ kind n, s.job? kind n = none

namespace Turn

variable {t : Turn} {bs : List FinalizedBlock}

theorem Valid.roomy (ht : t.Valid) (hi : t.before.Invariant) (h : t.before.Roomy bs)
    (hroom : ∀ k b c, t.input = .restart k b c → 3 ≤ c) :
    t.after.Roomy (bs ++ t.accepted?.toList) := by
  have hcap := h.capacity
  have hsize := h.size
  cases ht.ledgerStep hi with
  | kept accepted after =>
    rw [accepted, Option.toList_none, List.append_nil]
    exact ⟨after ▸ hcap, after ▸ hsize⟩
  | recorded b accepted after =>
    refine ⟨after ▸ hcap, ?_⟩
    rw [accepted, after]
    simp only [Relay.remember, List.rtake, List.length_drop, List.length_append, Option.toList_some,
      List.length_singleton]
    omega
  | reloaded k b c input accepted after =>
    have hc := hroom k b c input
    rw [accepted, Option.toList_none, List.append_nil]
    refine ⟨?_, ?_⟩ <;> rw [after]
    · exact hc.trans (Nat.le_max_left c 1)
    · simp only [Relay.successor, List.rtake, List.length_drop]
      omega

theorem Valid.three_le_of_job {kind : ProofKind} {n : UInt32} (ht : t.Valid)
    (hr : t.before.Recalls bs) (hl : Linked (bs ++ t.accepted?.toList))
    (hb : t.before.job? kind n = none) (ha : (t.after.job? kind n).isSome) :
    3 ≤ t.after.ledger.records.length := by
  obtain ⟨j, hj⟩ := Option.isSome_iff_exists.mp ha
  obtain ⟨b, haccepted, -, rfl, -⟩ := ht.opening_of_appears hr.invariant hb hj
  obtain ⟨-, g, hg⟩ := (ht.anchored hr.invariant haccepted kind).isSome_iff.mp ha
  have hmem : b.record ∈ t.after.ledger.records := by
    rw [ht.ledger_of_accepted hr.invariant haccepted]
    exact Relay.record_mem_remember hr.invariant b
  exact hl.three_le_of_anchors (ht.recalls hr).records.subset hmem hg

theorem Valid.idle (ht : t.Valid) (hr : t.before.Recalls bs) (hl : Linked (bs ++ t.accepted?.toList))
    (h : t.before.Idle) (htight : ∀ k b c, t.input = .restart k b c → c ≤ 2) : t.after.Idle := by
  have hcap : t.after.ledger.capacity ≤ 2 := by
    cases ht.ledgerStep hr.invariant with
    | kept _ after => exact after ▸ h.capacity
    | recorded b _ after => exact after ▸ h.capacity
    | reloaded k b c input _ after =>
      rw [after]
      exact max_le (htight k b c input) (by decide)
  refine ⟨hcap, fun kind n => Option.not_isSome_iff_eq_none.mp fun ha => ?_⟩
  have h3 := ht.three_le_of_job hr hl (h.jobs kind n) ha
  have hle := (ht.invariant hr.invariant).ledger.size_le
  omega

theorem Valid.anchors_linked {front : List FinalizedBlock} {g p b : FinalizedBlock} (ht : t.Valid)
    (hr : t.before.Recalls (front ++ [g, p])) (hroomy : t.after.Roomy (front ++ [g, p] ++ [b]))
    (hl : Linked (front ++ [g, p] ++ [b])) (hb : t.accepted? = some b) :
    t.after.ledger.Anchors b.record g.record := by
  have hafter := (ht.recalls hr).records
  have hsize := hroomy.size
  simp only [List.length_append, List.length_cons, List.length_nil] at hsize
  rw [hb, Option.toList_some, List.append_assoc] at hafter
  rw [List.append_assoc] at hl
  exact hl.anchors hafter (by omega)

/-- With room for three records, the event of a block gets its job if two blocks precede it, the first
of which is the anchor. -/
theorem Valid.anchored_linked {b : FinalizedBlock} (ht : t.Valid) (hr : t.before.Recalls bs)
    (hroomy : t.after.Roomy (bs ++ [b])) (hl : Linked (bs ++ [b])) (hb : t.accepted? = some b)
    (kind : ProofKind) :
    ((t.after.job? kind b.number).isSome ↔ 2 ≤ bs.length ∧ t.before.triggers b kind = true) ∧
      ∀ j, t.after.job? kind b.number = some j →
        ∃ front g p, bs = front ++ [g, p] ∧ j.anchor = g.history := by
  have hanchored := ht.anchored hr.invariant hb kind
  have hlong : (t.after.job? kind b.number).isSome → 2 ≤ bs.length := fun hs => by
    have h3 := ht.three_le_of_job hr (hb ▸ hl) hanchored.fresh hs
    have hle := (ht.recalls hr).records.length_le
    rw [hb, Option.toList_some, List.length_map, List.length_append, List.length_singleton] at hle
    omega
  refine ⟨⟨fun hs => ⟨hlong hs, (hanchored.isSome_iff.mp hs).1⟩, fun ⟨h2, htrig⟩ => ?_⟩,
    fun j hj => ?_⟩
  · obtain ⟨front, g, p, rfl⟩ := exists_pair_of_two_le h2
    exact hanchored.isSome_iff.mpr ⟨htrig, g.record, ht.anchors_linked hr hroomy hl hb⟩
  · obtain ⟨front, g, p, rfl⟩ := exists_pair_of_two_le (hlong (by rw [hj, Option.isSome_some]))
    exact ⟨front, g, p, rfl, hanchored.anchor hj (ht.anchors_linked hr hroomy hl hb)⟩

end Turn

namespace Turn

variable {t : Turn} {ts : List Turn}

/-- No block of a chain that is fed in order is ignored. -/
theorem accepts_linked (hr : t.before.Recalls (acceptedBlocks ts))
    (hts : acceptedBlocks ts = finalizedBlocks (ts.map input))
    (hl : Linked (finalizedBlocks ((ts ++ [t]).map input)))
    (hasc : (finalizedBlocks ((ts ++ [t]).map input)).Pairwise (·.number < ·.number)) :
    t.accepted? = t.input.finalized? := by
  cases hi : t.input.finalized? with
  | none => simp [accepted?, hi]
  | some b =>
    rw [finalizedBlocks_snoc, hi, ← hts, Option.toList_some] at hl hasc
    have hacc : t.before.accepts b = true := by
      refine hr.accepts_next hl fun a ha hn => ?_
      have hab : a.number < b.number := (List.pairwise_append.mp hasc).2.2 a ha b (by simp)
      have hlt := b.number.toNat_lt
      have hm : a.number.toNat = 2 ^ 32 - 1 := congrArg UInt32.toNat hn
      have := UInt32.lt_iff_toNat_lt.mp hab
      omega
    simp [accepted?, hi, Option.filter_some, hacc]

end Turn

/-- A turn after some others of a run over a chain. -/
structure Turn.Continues (leaves : List Digest) (past : List Turn) (t : Turn) : Prop where
  recalls : t.before.Recalls (acceptedBlocks past)
  past_eq : acceptedBlocks past = finalizedBlocks (past.map Turn.input)
  accepted : t.accepted? = t.input.finalized?
  accrues : Accrues leaves (acceptedBlocks past ++ t.accepted?.toList)

namespace Relay

variable {s : Relay} {is : List Input}

theorem map_input_run_eq (s : Relay) {is : List Input} (h : ∀ k b c, Input.restart k b c ∉ is) :
    (s.run is).map Turn.input = is := by
  induction is generalizing s with
  | nil => rfl
  | cons i is ih =>
    cases i with
    | restart k b c => exact absurd List.mem_cons_self (h k b c)
    | task task =>
      have hin : (s.handle task).input = .task task := by cases task <;> rfl
      have hrest := ih (s.handle task).after fun k b c hm => h k b c (List.mem_cons_of_mem _ hm)
      rw [run]
      simp only [turn?, List.map_cons, hin, hrest]

theorem run_continues {leaves : List Digest} (hs : s.Recalls [])
    (h : Accrues leaves (finalizedBlocks is)) {past future : List Turn} {t : Turn}
    (hrun : s.run is = past ++ t :: future) : t.Valid ∧ t.Continues leaves past := by
  have hpre : ∀ ts t rest, s.run is = ts ++ t :: rest →
      Accrues leaves (finalizedBlocks ((ts ++ [t]).map Turn.input)) := by
    intro ts t rest hts
    have hm := map_input_run s is
    rw [hts, List.append_cons, List.map_append] at hm
    exact h.of_prefix (((List.prefix_append _ _).trans hm).filterMap _)
  have hnext : ∀ ts t rest, s.run is = ts ++ t :: rest → t.before.Recalls (acceptedBlocks ts) →
      acceptedBlocks ts = finalizedBlocks (ts.map Turn.input) → t.Continues leaves ts := by
    intro ts t rest hts hr heq
    have hacc := hpre ts t rest hts
    have haccepted := Turn.accepts_linked hr heq hacc.linked hacc.ascending
    refine ⟨hr, heq, haccepted, ?_⟩
    rwa [finalizedBlocks_snoc, ← heq, ← haccepted] at hacc
  -- that all blocks so far were accepted is what lets the relay take the next one
  obtain ⟨hv, hr, heq⟩ := run_split
    (P := fun ts s => s.Recalls (acceptedBlocks ts) ∧
      acceptedBlocks ts = finalizedBlocks (ts.map Turn.input))
    ⟨hs, rfl⟩
    (fun ts t rest hts hv hp => by
      have hc := hnext ts t rest hts hp.1 hp.2
      rw [finalizedBlocks_snoc, ← hp.2, ← hc.accepted, acceptedBlocks_snoc]
      exact ⟨hv.recalls hp.1, rfl⟩)
    hrun
  exact ⟨hv, hnext past t future hrun hr heq⟩

theorem run_idle {leaves : List Digest} (hs : s.Recalls []) (h : Accrues leaves (finalizedBlocks is))
    (hidle : s.Idle) (htight : ∀ k b c, Input.restart k b c ∈ is → c ≤ 2) {t : Turn}
    (ht : t ∈ s.run is) (kind : ProofKind) (n : UInt32) :
    t.opens kind n = false ∧ t.after.job? kind n = none := by
  have hstep : ∀ ts t rest, s.run is = ts ++ t :: rest → t.Valid → t.before.Idle → t.after.Idle := by
    intro ts t rest hts hv hi
    have hc := (run_continues hs h hts).2
    refine hv.idle hc.recalls hc.accrues.linked hi fun k b c hin => htight k b c ?_
    rw [← hin]
    exact mem_inputs_of_mem_run (s := s) (by simp [hts])
  obtain ⟨past, future, hrun⟩ := List.append_of_mem ht
  obtain ⟨hv, hi⟩ := run_split (P := fun _ s => s.Idle) hidle hstep hrun
  have hafter := (hstep past t future hrun hv hi).jobs kind n
  refine ⟨Bool.eq_false_iff.mpr fun ho => ?_, hafter⟩
  obtain ⟨-, -, j, hj, -⟩ := hv.of_opens (run_continues hs h hrun).2.recalls.invariant ho
  simp [hafter] at hj

theorem run_roomy {leaves : List Digest} (hs : s.Recalls []) (h : Accrues leaves (finalizedBlocks is))
    (hroomy : s.Roomy []) (hroom : ∀ k b c, Input.restart k b c ∈ is → 3 ≤ c)
    {past future : List Turn} {t : Turn} {b : FinalizedBlock} (hrun : s.run is = past ++ t :: future)
    (hb : t.input = .task (.notify (.finalized b))) (kind : ProofKind) :
    let before := finalizedBlocks (past.map Turn.input)
    (t.opens kind b.number = true ↔ 2 ≤ before.length ∧ t.before.triggers b kind = true) ∧
      ∀ j, t.after.job? kind b.number = some j → ∃ front g p, before = front ++ [g, p] ∧
        g.number.toNat + 2 = b.number.toNat ∧
        j.anchor = .ofLeaves (leaves ++ front.map (·.id)) := by
  intro before
  have hstep : ∀ ts t rest, s.run is = ts ++ t :: rest → t.Valid → t.before.Roomy (acceptedBlocks ts) →
      t.after.Roomy (acceptedBlocks ts ++ t.accepted?.toList) := by
    intro ts t rest hts hv hi
    refine hv.roomy (run_continues hs h hts).2.recalls.invariant hi fun k b c hin => hroom k b c ?_
    rw [← hin]
    exact mem_inputs_of_mem_run (s := s) (by simp [hts])
  obtain ⟨hv, hi⟩ := run_split (P := fun ts s => s.Roomy (acceptedBlocks ts)) hroomy
    (fun ts t rest hts hv hp => acceptedBlocks_snoc ts t ▸ hstep ts t rest hts hv hp) hrun
  have hc := (run_continues hs h hrun).2
  have haccepted : t.accepted? = some b := by
    rw [hc.accepted, hb]
    rfl
  have hafter := hstep past t future hrun hv hi
  have hacc := hc.accrues
  rw [haccepted, Option.toList_some] at hafter hacc
  obtain ⟨hiff, hanchor⟩ := hv.anchored_linked hc.recalls hafter hacc.linked haccepted kind
  rw [hc.past_eq] at hiff hanchor hacc
  refine ⟨(hv.anchored hc.recalls.invariant haccepted kind).opens_iff.trans hiff, fun j hj => ?_⟩
  obtain ⟨front, g, p, hbs, hj⟩ := hanchor j hj
  have hsplit : before ++ [b] = front ++ g :: [p, b] := by simp [before, hbs]
  refine ⟨front, g, p, hbs, ?_, ?_⟩
  · exact hacc.number_add_two (hsplit ▸ List.suffix_append front [g, p, b]).isInfix
  · rw [hj, hacc.history front g [p, b] hsplit]

/-- A job is opened exactly for an event whose anchor is retained, and starts from its history. On a
chain that is fed in order a ledger with room for two records opens none, and one with room for three
opens that of every event from the third block on, anchored two blocks before. -/
theorem jobs_anchored (tokenContract bridgeAccount : Name) (capacity : Nat) (inputs : List Input) :
    let turns := (start tokenContract bridgeAccount capacity).run inputs
    (∀ t ∈ turns, ∀ b, t.accepted? = some b → ∀ kind, t.Anchored b kind) ∧
    ∀ leaves, Accrues leaves (finalizedBlocks inputs) →
      ((∀ k b c, Input.restart k b c ∉ inputs) → turns.map Turn.input = inputs) ∧
      (∀ t ∈ turns, t.accepted? = t.input.finalized?) ∧
      (capacity ≤ 2 → (∀ k b c, Input.restart k b c ∈ inputs → c ≤ 2) →
        ∀ t ∈ turns, ∀ kind n, t.opens kind n = false ∧ t.after.job? kind n = none) ∧
      (3 ≤ capacity → (∀ k b c, Input.restart k b c ∈ inputs → 3 ≤ c) →
        ∀ (past : List Turn) t future b, turns = past ++ t :: future →
          t.input = .task (.notify (.finalized b)) → ∀ kind,
          let before := finalizedBlocks (past.map Turn.input)
          (t.opens kind b.number = true ↔ 2 ≤ before.length ∧ t.before.triggers b kind = true) ∧
          ∀ j, t.after.job? kind b.number = some j → ∃ front g p, before = front ++ [g, p] ∧
            g.number.toNat + 2 = b.number.toNat ∧
            j.anchor = .ofLeaves (leaves ++ front.map (·.id))) := by
  intro turns
  have hs := recalls_start tokenContract bridgeAccount capacity
  refine ⟨fun t ht b hb kind => ?_, fun leaves h => ⟨map_input_run_eq _, fun t ht => ?_, ?_, ?_⟩⟩
  · obtain ⟨hv, hi, -⟩ := run_invariant hs.invariant inputs t ht
    exact hv.anchored hi hb kind
  · obtain ⟨past, future, hrun⟩ := List.append_of_mem ht
    exact (run_continues hs h hrun).2.accepted
  · intro hcap htight t ht kind n
    exact run_idle hs h ⟨max_le hcap (by decide), fun kind n => job?_start _ _ _ kind n⟩ htight ht
      kind n
  · intro hcap hroom past t future b hrun hb kind
    exact run_roomy hs h ⟨hcap.trans (Nat.le_max_left _ _), by simp⟩ hroom hrun hb kind

end Relay

namespace Sample

theorem history_relinkAfter {leaves : List Digest} {parent b : FinalizedBlock}
    {bs front rest : List FinalizedBlock} (h : parent.history = .ofLeaves leaves)
    (hb : relinkAfter parent bs = front ++ b :: rest) :
    b.history = .ofLeaves (leaves ++ parent.id :: front.map (·.id)) := by
  induction bs generalizing parent leaves front with
  | nil => simp [relinkAfter] at hb
  | cons c cs ih =>
    have hnext : parent.history.append parent.id = .ofLeaves (leaves ++ [parent.id]) := by
      rw [h, Accumulator.ofLeaves_concat]
    cases front with
    | nil =>
      obtain ⟨rfl, -⟩ := List.cons.inj hb
      exact hnext
    | cons d ds =>
      obtain ⟨rfl, hrest⟩ := List.cons.inj hb
      rw [ih hnext hrest, List.append_assoc]
      rfl

theorem accrues_relink {leaves : List Digest} {b : FinalizedBlock} {bs : List FinalizedBlock}
    (h : b.history = .ofLeaves leaves) (hasc : (relink (b :: bs)).Pairwise (·.number < ·.number)) :
    Accrues leaves (relink (b :: bs)) where
  linked := linked_relink (b :: bs)
  ascending := hasc
  history front c rest he := by
    cases front with
    | nil =>
      obtain ⟨rfl, -⟩ := List.cons.inj he
      rw [List.map_nil, List.append_nil]
      exact h
    | cons d ds =>
      obtain ⟨rfl, hrest⟩ := List.cons.inj he
      exact history_relinkAfter (show (withIds b).history = .ofLeaves leaves from h) hrest

/-- Four linked blocks, the last of which announces a schedule. -/
def announcedFourth : List FinalizedBlock :=
  relink [plainBlock 1 none, plainBlock 2 none, plainBlock 3 none, plainBlock 4 (some ⟨1, []⟩)]

end Sample

theorem Relay.anchor_of_announcedFourth :
    let inputs := Sample.announcedFourth.map fun b => Input.task (.notify (.finalized b))
    Accrues [] (finalizedBlocks inputs) ∧
      ∃ a b c d, Sample.announcedFourth = [a, b, c, d] ∧ ∃ t ∈ (start default default 3).run inputs,
        t.accepted? = some d ∧ ∃ j, t.after.job? .schedule d.number = some j ∧
          j.anchor = .ofLeaves [a.id] := by
  intro inputs
  have hfin : finalizedBlocks inputs = Sample.announcedFourth := finalizedBlocks_map _
  have hacc : Accrues [] (finalizedBlocks inputs) := by
    rw [hfin]
    exact Sample.accrues_relink rfl (by decide +kernel)
  obtain ⟨hjobs, hchain⟩ := jobs_anchored default default 3 inputs
  obtain ⟨hinputs, haccepted, -, hroomy⟩ := hchain [] hacc
  have hno : ∀ k b c, Input.restart k b c ∉ inputs := by simp [inputs]
  let a := Sample.withIds (Sample.plainBlock 1 none)
  obtain ⟨b, c, d, hblocks, hd⟩ : ∃ b c d, Sample.announcedFourth = [a, b, c, d] ∧
      d.header.header.announced?.isSome := ⟨_, _, _, rfl, rfl⟩
  refine ⟨hacc, a, b, c, d, hblocks, ?_⟩
  have hrun : ((start default default 3).run inputs).map Turn.input =
      [a, b, c].map (fun b => .task (.notify (.finalized b))) ++
        [.task (.notify (.finalized d))] := by
    rw [hinputs hno]
    simp [inputs, hblocks]
  obtain ⟨past, l, hsplit, hpast, hl⟩ := List.map_eq_append_iff.mp hrun
  obtain ⟨t, rfl, ht⟩ := List.map_eq_singleton_iff.mp hl
  have hbefore : finalizedBlocks (past.map Turn.input) = [a, b, c] := by
    rw [hpast]
    exact finalizedBlocks_map _
  have hmem : t ∈ (start default default 3).run inputs := by simp [hsplit]
  have htd : t.accepted? = some d := by
    rw [haccepted t hmem, ht]
    rfl
  obtain ⟨hopens, hanchor⟩ := hroomy (Nat.le_refl 3) (fun k b c hm => absurd hm (hno k b c)) past t []
    d hsplit ht .schedule
  rw [hbefore] at hopens hanchor
  obtain ⟨j, hj⟩ := Option.isSome_iff_exists.mp
    ((hjobs t hmem d htd .schedule).opens_iff.mp (hopens.mpr ⟨by simp, hd⟩))
  obtain ⟨front, g, p, hfront, -, hhistory⟩ := hanchor j hj
  obtain ⟨rfl, -⟩ := List.append_inj' (show [a] ++ [b, c] = front ++ [g, p] from hfront) rfl
  exact ⟨t, hmem, htd, j, hj, hhistory⟩

end FinalityRelay
