import FinalityRelay.Proofs.Retention
import FinalityRelay.Service.Session

/-! How many sent jobs a relay shows to observers. These are the sent jobs that it still has: what the
foreign chain accepted counts until a block is accepted after it that leaves its subject forgotten. -/

namespace FinalityRelay

def Attempt.key (a : Attempt) : ProofKind × UInt32 := (a.submission.kind, a.submission.subject)

theorem Attempt.isAbout_iff {a : Attempt} {kind : ProofKind} {n : UInt32} :
    a.isAbout kind n = true ↔ a.key = (kind, n) := by
  simp [isAbout, key]

/-- What a sweep makes sent are the jobs of its accepted attempts. -/
theorem Swept.sent_iff {o o' : Option (Job Evidence)} {as : List Attempt} (h : Swept o as o') :
    (∃ j, o' = some j ∧ j.status = .sent) ↔
      (∃ j, o = some j ∧ j.status = .sent) ∨ ∃ a ∈ as, a.answer.isAccepted = true := by
  cases h with
  | resting => simp
  | unprovable hr => simp [hr]
  | attempted a hr hp =>
    have hs := Job.status_answered ((Job.status_prepared hp).trans hr) a
    by_cases ha : a.isAccepted = true <;> simp [hs, hr, ha]

namespace Turn

variable {t : Turn} {kind : ProofKind} {n : UInt32}

/-- The attempts of a turn that the foreign chain accepted. -/
def acceptances (t : Turn) : List Attempt := t.attempts.filter (·.answer.isAccepted)

/-- Whether a turn accepts a block and the relay remembers none of this number then. -/
def forgets (t : Turn) (n : UInt32) : Bool :=
  t.accepted?.isSome && decide (n ∉ t.after.ledger.records.map (·.number))

theorem mem_acceptances_key_iff :
    (kind, n) ∈ t.acceptances.map Attempt.key ↔
      ∃ a ∈ t.attempts.filter (·.isAbout kind n), a.answer.isAccepted = true := by
  simp only [acceptances, List.mem_map, List.mem_filter, Attempt.isAbout_iff]
  exact ⟨fun ⟨a, ⟨hm, ha⟩, hk⟩ => ⟨a, ⟨hm, hk⟩, ha⟩, fun ⟨a, ⟨hm, hk⟩, ha⟩ => ⟨a, ⟨hm, ha⟩, hk⟩⟩

theorem acceptances_of_accepted {b : FinalizedBlock} (ht : t.Valid) (hb : t.accepted? = some b) :
    t.acceptances = [] := by
  rw [ht.eq_handle (input_of_accepted? hb)]
  rfl

/-- A turn without an accepted block makes sent what the foreign chain accepts in it. -/
theorem Valid.sent_of_not_accepted (ht : t.Valid) (h : t.before.Invariant) (hb : t.accepted? = none) :
    (kind, n) ∈ t.after.keys .sent ↔
      (kind, n) ∈ t.before.keys .sent ∨ (kind, n) ∈ t.acceptances.map Attempt.key := by
  rw [(ht.invariant h).indexed.mem_keys_iff, h.indexed.mem_keys_iff, mem_acceptances_key_iff]
  cases ht.shape h with
  | quiet jobs _ attempts => simp [jobs, attempts]
  | block b input accepts => simp [accepted?_of_accepts input accepts] at hb
  | sweep answers _ after attempts =>
    rw [after, attempts]
    exact (Relay.swept h.indexed answers kind n).sent_iff

/-- A turn that accepts a block forgets the sent jobs whose subjects are not remembered then. -/
theorem Valid.sent_of_accepted {b : FinalizedBlock} {bs : List FinalizedBlock} (ht : t.Valid)
    (h : t.before.Concerns bs) (hb : t.accepted? = some b) :
    (kind, n) ∈ t.after.keys .sent ↔ (kind, n) ∈ t.before.keys .sent ∧ t.forgets n = false := by
  have hi := h.recalls.invariant
  have hf : t.forgets n = false ↔ n ∈ t.after.ledger.records.map (·.number) := by simp [forgets, hb]
  rw [(ht.invariant hi).indexed.mem_keys_iff, hi.indexed.mem_keys_iff, hf]
  simp only [(ht.retains h hb).sent_iff, ← and_assoc, exists_and_right]

end Turn

/-- What the foreign chain accepted in the course of some turns. -/
def acceptances (turns : List Turn) : List Attempt := turns.flatMap Turn.acceptances

/-- The acceptances after which a block is accepted that leaves their subject forgotten. -/
def lapsed : List Turn → List Attempt
  | [] => []
  | t :: ts => (t.acceptances.filter fun a => ts.any (·.forgets a.submission.subject)) ++ lapsed ts

/-- The acceptances that have not lapsed. -/
def standing : List Turn → List Attempt
  | [] => []
  | t :: ts => (t.acceptances.filter fun a => !ts.any (·.forgets a.submission.subject)) ++ standing ts

theorem length_standing_add_lapsed (turns : List Turn) :
    (standing turns).length + (lapsed turns).length = (acceptances turns).length := by
  induction turns with
  | nil => rfl
  | cons t ts ih =>
    have hs := t.acceptances.length_eq_length_filter_add fun a => ts.any (·.forgets a.submission.subject)
    simp only [standing, lapsed, List.length_append]
    simp only [acceptances, List.flatMap_cons, List.length_append] at ih ⊢
    omega

theorem standing_snoc (ts : List Turn) (t : Turn) :
    standing (ts ++ [t]) =
      (standing ts).filter (fun a => !t.forgets a.submission.subject) ++ t.acceptances := by
  induction ts with
  | nil => simp [standing]
  | cons u us ih =>
    simp only [List.cons_append, standing, ih, List.filter_append, List.filter_filter, List.any_append,
      List.any_cons, List.any_nil, Bool.or_false, Bool.not_or, List.append_assoc]
    simp only [Bool.and_comm]

theorem standing_sublist (turns : List Turn) : (standing turns).Sublist (acceptances turns) := by
  induction turns with
  | nil => exact List.Sublist.refl _
  | cons t ts ih => exact List.filter_sublist.append ih

namespace Relay

/-- A relay whose sent jobs are those of the standing acceptances. -/
structure Tallied (turns : List Turn) (s : Relay) : Prop where
  concerns : s.Concerns (acceptedBlocks turns)
  sent_iff : ∀ kind n, (kind, n) ∈ s.keys .sent ↔ (kind, n) ∈ (standing turns).map Attempt.key

theorem tallied_start (tokenContract bridgeAccount : Name) (capacity : Nat) :
    (start tokenContract bridgeAccount capacity).Tallied [] where
  concerns := concerns_start tokenContract bridgeAccount capacity
  sent_iff kind n := by
    rw [(invariant_start tokenContract bridgeAccount capacity).indexed.mem_keys_iff]
    simp [standing]

end Relay

theorem Turn.Valid.tallied {t : Turn} {ts : List Turn} (ht : t.Valid) (h : t.before.Tallied ts) :
    t.after.Tallied (ts ++ [t]) where
  concerns := by
    rw [acceptedBlocks_snoc]
    exact ht.concerns h.concerns
  sent_iff kind n := by
    have hkey : ∀ {a : Attempt}, a.key = (kind, n) → a.submission.subject = n :=
      fun hk => congrArg Prod.snd hk
    rw [standing_snoc, List.map_append, List.mem_append]
    cases hb : t.accepted? with
    | some b =>
      rw [ht.sent_of_accepted h.concerns hb, acceptances_of_accepted ht hb, h.sent_iff]
      simp only [List.map_nil, List.not_mem_nil, or_false, List.mem_map, List.mem_filter,
        Bool.not_eq_true']
      constructor
      · rintro ⟨⟨a, ha, hk⟩, hf⟩
        exact ⟨a, ⟨ha, hkey hk ▸ hf⟩, hk⟩
      · rintro ⟨a, ⟨ha, hf⟩, hk⟩
        exact ⟨⟨a, ha, hk⟩, hkey hk ▸ hf⟩
    | none =>
      rw [ht.sent_of_not_accepted h.concerns.recalls.invariant hb, h.sent_iff]
      simp [forgets, hb]

namespace Relay

variable {s : Relay}

/-- Each job is accepted at most once. -/
theorem nodup_acceptances (h : s.Invariant) (is : List Input) :
    ((acceptances (s.run is)).map Attempt.key).Nodup := by
  have he : acceptances (s.run is) = ((s.run is).flatMap Turn.attempts).filter (·.answer.isAccepted) := by
    rw [acceptances, List.filter_flatMap]
    rfl
  rw [he, List.Nodup, List.pairwise_map, List.pairwise_filter, List.pairwise_iff_forall_sublist]
  intro a a' hsub ha ha' hk
  have hsettled := run_settled h is a.submission.kind a.submission.subject
  refine List.pairwise_iff_forall_sublist.mp hsettled hsub ⟨?_, ha, ?_⟩
  · exact Attempt.isAbout_iff.mpr rfl
  · exact Attempt.isAbout_iff.mpr hk.symm

theorem progress_sent_of_tallied {is : List Input} (h : s.Invariant)
    (ht : (s.last (s.run is)).Tallied (s.run is)) :
    (s.last (s.run is)).progress.sent = (standing (s.run is)).length := by
  have hkeys : ((s.last (s.run is)).keys .sent).Perm ((standing (s.run is)).map Attempt.key) := by
    refine (List.perm_ext_iff_of_nodup ?_ ?_).mpr fun ⟨kind, n⟩ => ht.sent_iff kind n
    · exact ht.concerns.recalls.invariant.indexed.keys_nodup .sent
    · exact (nodup_acceptances h is).sublist ((standing_sublist _).map _)
  rw [progress_sent, hkeys.length_eq, List.length_map]

/-- Whatever a relay is given: the sent jobs that it shows fall behind the acceptances by those that have
lapsed. So an observer who waits for as many sent jobs as there were acceptances is held up if and only if
some of them have lapsed. -/
theorem run_sent (tokenContract bridgeAccount : Name) (capacity : Nat) (inputs : List Input) :
    let s := start tokenContract bridgeAccount capacity
    let turns := s.run inputs
    (s.last turns).progress.sent + (lapsed turns).length = (acceptances turns).length ∧
      ((Condition.sent (acceptances turns).length).holds (s.last turns).progress = true ↔
        lapsed turns = []) := by
  intro s turns
  have hs := invariant_start tokenContract bridgeAccount capacity
  have ht : (s.last turns).Tallied turns :=
    run_induction (tallied_start tokenContract bridgeAccount capacity)
      (fun _ _ hv h => hv.tallied h) inputs
  have hsum : (s.last turns).progress.sent + (lapsed turns).length = (acceptances turns).length := by
    rw [progress_sent_of_tallied hs ht, length_standing_add_lapsed]
  refine ⟨hsum, ?_⟩
  rw [Condition.holds, decide_eq_true_eq, ← List.length_eq_zero_iff]
  omega

/-- One submission is accepted, and two blocks later no sent job is shown. -/
theorem sent_falls_behind :
    let s := start default default 3
    let turns := s.run Sample.forgotten
    (acceptances turns).length = 1 ∧ (s.last turns).progress.sent = 0 ∧
      (∃ t ∈ turns, t.after.progress.sent = 1) ∧
      (Condition.sent 1).holds (s.last turns).progress = false := by
  decide +kernel

end Relay

end FinalityRelay
