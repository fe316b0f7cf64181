import FinalityRelay.Proofs.Provenance

/-! Which deposit is found in a block, as a function of the transactions of that block which came since it
was last settled. Those of other blocks do not matter, wherever they come in between. -/

namespace FinalityRelay

variable {tokenContract bridgeAccount : Name}

instance (x : Trace) : Decidable (x.IsDeposit tokenContract bridgeAccount) :=
  decidable_of_iff ((Deposits.watching tokenContract bridgeAccount).isDeposit x = true)
    Deposits.isDeposit_iff

namespace Transaction

/-- The block of a transaction, which is that of its first trace. -/
def number? (t : Transaction) : Option UInt32 := t.traces.head?.map Trace.blockNumber

def deposits (tokenContract bridgeAccount : Name) (t : Transaction) : List Trace :=
  t.traces.filter fun x => x.IsDeposit tokenContract bridgeAccount

/-- A transaction that makes a deposit and lacks the receipt of none. -/
def IsPromising (tokenContract bridgeAccount : Name) (t : Transaction) : Prop :=
  t.deposits tokenContract bridgeAccount ≠ [] ∧
    ∀ x ∈ t.deposits tokenContract bridgeAccount, x.receipt.isSome

instance (t : Transaction) : Decidable (t.IsPromising tokenContract bridgeAccount) :=
  inferInstanceAs (Decidable (_ ∧ _))

end Transaction

def Trace.candidate? (id : Digest) (x : Trace) : Option Candidate :=
  x.receipt.map fun receipt => ⟨id, x.action, receipt⟩

/-- What a transaction offers by the last of its deposits. -/
def Transaction.lastDeposit? (tokenContract bridgeAccount : Name) (t : Transaction) :
    Option Candidate :=
  (t.deposits tokenContract bridgeAccount).getLast?.bind (Trace.candidate? t.id)

theorem Transaction.IsPromising.isSome_lastDeposit? {t : Transaction}
    (h : t.IsPromising tokenContract bridgeAccount) :
    (t.lastDeposit? tokenContract bridgeAccount).isSome := by
  obtain ⟨hne, hall⟩ := h
  obtain ⟨receipt, hr⟩ := Option.isSome_iff_exists.mp (hall _ (List.getLast_mem hne))
  simp [lastDeposit?, List.getLast?_eq_some_getLast hne, Trace.candidate?, hr]

namespace Deposits

variable {d : Deposits} {n : UInt32}

/-! ### One transaction -/

/-- The last trace counts, and nothing does if one of them has no receipt. -/
theorem candidate?_eq (id : Digest) (xs : List Trace) (found : Option Candidate) :
    candidate? id xs found =
      if ∀ x ∈ xs, x.receipt.isSome then some ((xs.getLast?.bind (Trace.candidate? id)).or found)
      else none := by
  induction xs generalizing found with
  | nil => simp [candidate?]
  | cons x xs ih =>
    cases hx : x.receipt with
    | none => simp [candidate?, hx]
    | some receipt =>
      have hall : (∀ y ∈ x :: xs, y.receipt.isSome) ↔ ∀ y ∈ xs, y.receipt.isSome := by simp [hx]
      simp only [candidate?, hx, ih, hall]
      split
      · rename_i h
        cases hl : xs.getLast? with
        | none => simp [List.getLast?_cons, hl, Trace.candidate?, hx]
        | some y =>
          obtain ⟨r, hr⟩ := Option.isSome_iff_exists.mp (h y (List.mem_of_getLast? hl))
          simp [List.getLast?_cons, hl, Trace.candidate?, hr]
      · rfl

theorem candidate_pendingAfter (d : Deposits) (t : Transaction) (n : UInt32) :
    (d.pendingAfter t n).candidate =
      if t.IsPromising d.tokenContract d.bridgeAccount then
        t.lastDeposit? d.tokenContract d.bridgeAccount
      else (d.pendingAt n).candidate := by
  have hf : t.traces.filter d.isDeposit = t.deposits d.tokenContract d.bridgeAccount :=
    List.filter_congr fun x _ => by rw [Bool.eq_iff_iff, isDeposit_iff, decide_eq_true_iff]
  rw [pendingAfter, hf, candidate?_eq]
  by_cases hp : t.IsPromising d.tokenContract d.bridgeAccount
  · obtain ⟨c, hc⟩ := Option.isSome_iff_exists.mp hp.isSome_lastDeposit?
    rw [if_pos hp, hc, if_pos hp.2, ← Transaction.lastDeposit?, hc]
    rfl
  · rw [if_neg hp]
    split
    · rename_i hall
      have hnil : t.deposits d.tokenContract d.bridgeAccount = [] :=
        not_not.mp fun hne => hp ⟨hne, hall⟩
      simp [hnil]
    · rfl

theorem pendingAt_apply (d : Deposits) (t : Transaction) (n : UInt32) :
    (d.apply t).1.pendingAt n = if t.number? = some n then d.pendingAfter t n else d.pendingAt n := by
  rw [apply_fst]
  cases ht : t.traces with
  | nil => simp [Transaction.number?, ht]
  | cons first rest =>
    simp only [pendingAt, setPending, NumberMap.get?_insert, Transaction.number?, ht,
      List.head?_cons, Option.map_some, Option.some.injEq]
    by_cases hn : first.blockNumber = n
    · simp [hn]
    · simp [hn, Ne.symm hn]

theorem pendingAt_take (d : Deposits) (r : BlockRecord) (hn : n ≠ lastNumber) :
    (d.take r).1.pendingAt n = if n ≤ r.number then ⟨[], none⟩ else d.pendingAt n := by
  have hkept : nextNumber r.number ≤ n ↔ ¬n ≤ r.number := by
    by_cases hl : r.number = lastNumber
    · have hle : n ≤ lastNumber := UInt32.le_iff_toNat_le.mpr (Nat.le_of_lt_succ n.toNat_lt)
      have hlt : ¬lastNumber ≤ n := fun h => hn (UInt32.le_antisymm hle h)
      simp [nextNumber, hl, hle, hlt]
    · rw [← UInt32.not_lt, lt_nextNumber_iff hl]
  rw [take_fst]
  simp only [pendingAt, NumberMap.get?_upFrom, hkept]
  split <;> simp_all

/-! ### Sequences of calls -/

inductive Call
  | apply (t : Transaction)
  | take (r : BlockRecord)

def perform (d : Deposits) : Call → Deposits
  | .apply t => (d.apply t).1
  | .take r => (d.take r).1

def performAll (d : Deposits) (calls : List Call) : Deposits := calls.foldl perform d

namespace Call

def settles (n : UInt32) : Call → Bool
  | .apply _ => false
  | .take r => n ≤ r.number

def transactionIn? (n : UInt32) : Call → Option Transaction
  | .apply t => if t.number? = some n then some t else none
  | .take _ => none

def isElsewhere (n : UInt32) : Call → Bool
  | .apply t => t.number? ≠ some n
  | .take _ => false

end Call

/-- The transactions of a block that came since it was last settled. -/
def unsettled (n : UInt32) (calls : List Call) : List Transaction :=
  (calls.rtakeWhile fun c => !c.settles n).filterMap (Call.transactionIn? n)

def digestsOf (ts : List Transaction) : List Digest :=
  ts.flatMap fun t => t.receipts.map Receipt.digest

/-- What the last promising one of some transactions offers. -/
def lastPromise? (tokenContract bridgeAccount : Name) (ts : List Transaction) : Option Candidate :=
  (ts.filter fun t => t.IsPromising tokenContract bridgeAccount).getLast?.bind
    (Transaction.lastDeposit? tokenContract bridgeAccount)

theorem lastPromise?_concat (ts : List Transaction) (t : Transaction) :
    lastPromise? tokenContract bridgeAccount (ts ++ [t]) =
      if t.IsPromising tokenContract bridgeAccount then t.lastDeposit? tokenContract bridgeAccount
      else lastPromise? tokenContract bridgeAccount ts := by
  unfold lastPromise?
  split <;> rename_i hp <;> simp [hp]

theorem lastPromise?_eq_none_iff {ts : List Transaction} :
    lastPromise? tokenContract bridgeAccount ts = none ↔
      ∀ t ∈ ts, ¬t.IsPromising tokenContract bridgeAccount := by
  unfold lastPromise?
  cases hl : (ts.filter fun t => t.IsPromising tokenContract bridgeAccount).getLast? with
  | none => simpa using List.getLast?_eq_none_iff.mp hl
  | some t =>
    obtain ⟨ht, hp⟩ := List.mem_filter.mp (List.mem_of_getLast? hl)
    have hp : t.IsPromising tokenContract bridgeAccount := of_decide_eq_true hp
    obtain ⟨c, hc⟩ := Option.isSome_iff_exists.mp hp.isSome_lastDeposit?
    rw [Option.bind_some, hc]
    exact iff_of_false (by simp) fun h => h t ht hp

theorem unsettled_apply (n : UInt32) (calls : List Call) (t : Transaction) :
    unsettled n (calls ++ [.apply t]) =
      if t.number? = some n then unsettled n calls ++ [t] else unsettled n calls := by
  unfold unsettled
  rw [List.rtakeWhile_concat_pos _ _ _ (by rfl), List.filterMap_append]
  by_cases ht : t.number? = some n <;> simp [Call.transactionIn?, ht]

theorem unsettled_take (n : UInt32) (calls : List Call) (r : BlockRecord) :
    unsettled n (calls ++ [.take r]) = if n ≤ r.number then [] else unsettled n calls := by
  unfold unsettled
  rw [List.rtakeWhile_concat]
  by_cases hr : n ≤ r.number <;> simp [Call.settles, Call.transactionIn?, hr]

theorem unsettled_filter (n : UInt32) (calls : List Call) :
    unsettled n (calls.filter fun c => !c.isElsewhere n) = unsettled n calls := by
  induction calls using List.reverseRecOn with
  | nil => rfl
  | append_singleton calls c ih =>
    rw [List.filter_append]
    cases c with
    | take r =>
      have hf : [Call.take r].filter (fun c => !c.isElsewhere n) = [.take r] := rfl
      rw [hf, unsettled_take, unsettled_take, ih]
    | apply t =>
      rw [unsettled_apply]
      by_cases ht : t.number? = some n
      · have hf : [Call.apply t].filter (fun c => !c.isElsewhere n) = [.apply t] := by
          simp [Call.isElsewhere, ht]
        rw [hf, unsettled_apply, ih]
      · have hf : [Call.apply t].filter (fun c => !c.isElsewhere n) = [] := by
          simp [Call.isElsewhere, ht]
        rw [hf, List.append_nil, ih, if_neg ht]

theorem performAll_concat (d : Deposits) (calls : List Call) (c : Call) :
    d.performAll (calls ++ [c]) = (d.performAll calls).perform c := by
  simp [performAll]

theorem perform_eq (d : Deposits) (c : Call) :
    d.perform c = { d with pending := (d.perform c).pending } := by
  cases c with
  | apply t =>
    rw [perform, apply_fst]
    split <;> rfl
  | take r => rw [perform, take_fst]

theorem performAll_eq (d : Deposits) (calls : List Call) :
    d.performAll calls = { d with pending := (d.performAll calls).pending } := by
  induction calls using List.reverseRecOn with
  | nil => rfl
  | append_singleton calls c ih =>
    rw [performAll_concat, perform_eq, ih]

theorem ascending_performAll (h : d.pending.Ascending) (calls : List Call) :
    (d.performAll calls).pending.Ascending := by
  induction calls using List.reverseRecOn with
  | nil => exact h
  | append_singleton calls c ih =>
    rw [performAll_concat]
    cases c with
    | apply t => exact ascending_apply ih t
    | take r => exact ascending_take ih r

theorem pendingAt_performAll (tokenContract bridgeAccount : Name) (calls : List Call)
    (hn : n ≠ lastNumber) :
    ((watching tokenContract bridgeAccount).performAll calls).pendingAt n =
      ⟨digestsOf (unsettled n calls),
        lastPromise? tokenContract bridgeAccount (unsettled n calls)⟩ := by
  induction calls using List.reverseRecOn with
  | nil => rfl
  | append_singleton calls c ih =>
    rw [performAll_concat]
    have hd := performAll_eq (watching tokenContract bridgeAccount) calls
    generalize (watching tokenContract bridgeAccount).performAll calls = d at ih hd
    have htoken : d.tokenContract = tokenContract := by rw [hd]; rfl
    have hbridge : d.bridgeAccount = bridgeAccount := by rw [hd]; rfl
    cases c with
    | apply t =>
      rw [perform, pendingAt_apply, unsettled_apply]
      split
      · have hc := candidate_pendingAfter d t n
        rw [htoken, hbridge, ih] at hc
        rw [lastPromise?_concat, ← hc, pendingAfter, ih]
        simp [digestsOf]
      · exact ih
    | take r =>
      rw [perform, pendingAt_take d r hn, unsettled_take]
      split
      · rfl
      · exact ih

/-- The deposit of a block that becomes final after some calls. -/
def foundAfter? (tokenContract bridgeAccount : Name) (calls : List Call) (r : BlockRecord) :
    Option Deposit :=
  (((watching tokenContract bridgeAccount).performAll calls).take r).2.1

theorem foundAfter?_eq (calls : List Call) {r : BlockRecord} (hr : r.number ≠ lastNumber) :
    foundAfter? tokenContract bridgeAccount calls r =
      (lastPromise? tokenContract bridgeAccount (unsettled r.number calls)).map
        fun c => ⟨c, digestsOf (unsettled r.number calls)⟩ := by
  have hp := pendingAt_performAll tokenContract bridgeAccount calls hr
  have ha : (watching tokenContract bridgeAccount).pending.Ascending := List.Pairwise.nil
  rw [foundAfter?, take_deposit (ascending_performAll ha calls), if_neg hr, depositAt?]
  rw [pendingAt] at hp
  cases hg : NumberMap.get? _ r.number with
  | none =>
    rw [hg, Option.getD_none, PendingBlock.mk.injEq] at hp
    rw [← hp.2]
    rfl
  | some p =>
    rw [hg, Option.getD_some] at hp
    rw [hp]
    rfl

/-- The deposit of a block is what the last promising one of its unsettled transactions offers, with the
receipts of all of these; there is none if none is promising. Transactions of other blocks make no
difference. -/
theorem found_of_unsettled (tokenContract bridgeAccount : Name) (calls : List Call) {r : BlockRecord}
    (hr : r.number < lastNumber) :
    (foundAfter? tokenContract bridgeAccount calls r = none ↔
      ∀ t ∈ unsettled r.number calls, ¬t.IsPromising tokenContract bridgeAccount) ∧
    foundAfter? tokenContract bridgeAccount calls r =
      (lastPromise? tokenContract bridgeAccount (unsettled r.number calls)).map
        (fun c => ⟨c, digestsOf (unsettled r.number calls)⟩) ∧
    foundAfter? tokenContract bridgeAccount (calls.filter fun c => !c.isElsewhere r.number) r =
      foundAfter? tokenContract bridgeAccount calls r := by
  have hne : r.number ≠ lastNumber := UInt32.ne_of_lt hr
  refine ⟨?_, foundAfter?_eq calls hne, ?_⟩
  · rw [foundAfter?_eq calls hne, Option.map_eq_none_iff, lastPromise?_eq_none_iff]
  · rw [foundAfter?_eq _ hne, foundAfter?_eq calls hne, unsettled_filter]

end Deposits

namespace Sample

/-- A deposit that is reported before its receipt is there. -/
def hastyDeposit (seed : UInt64) (number : UInt32) : Transaction :=
  let t := deposit seed number (name "carol") 1
  { t with traces := t.traces.map fun x => { x with receipt := none } }

/-- Transactions of block 5 before and after it is settled, the last one hasty, among other calls. -/
def mingledCalls : List Deposits.Call :=
  [.apply (deposit 1 5 (name "alice") 2), .take (plainBlock 5 none).record,
    .apply (deposit 2 5 (name "alice") 2), .apply (deposit 3 6 (name "bob") 1),
    .take (plainBlock 4 none).record, .apply (deposit 4 5 (name "bob") 1), .apply (hastyDeposit 5 5)]

end Sample

theorem Deposits.found_of_mingledCalls :
    let token := Sample.name Sample.tokenContract
    let bridge := Sample.name Sample.bridgeAccount
    let r := (Sample.plainBlock 5 none).record
    r.number < lastNumber ∧ ∃ c, c.transactionId = Sample.transactionId 4 ∧
      foundAfter? token bridge Sample.mingledCalls r = some ⟨c, digestsOf
        [Sample.deposit 2 5 (Sample.name "alice") 2, Sample.deposit 4 5 (Sample.name "bob") 1,
          Sample.hastyDeposit 5 5]⟩ := by
  intro token bridge r
  have hr : r.number < lastNumber := by decide
  refine ⟨hr, ?_⟩
  have hts : unsettled r.number Sample.mingledCalls =
      [Sample.deposit 2 5 (Sample.name "alice") 2, Sample.deposit 4 5 (Sample.name "bob") 1,
        Sample.hastyDeposit 5 5] := rfl
  have hlast : (lastPromise? token bridge (unsettled r.number Sample.mingledCalls)).map
      Candidate.transactionId = some (Sample.transactionId 4) := by
    decide +kernel
  obtain ⟨c, hc, hid⟩ := Option.map_eq_some_iff.mp hlast
  have hfound := (found_of_unsettled token bridge Sample.mingledCalls hr).2.1
  rw [hc, hts, Option.map_some] at hfound
  exact ⟨c, hid, hfound⟩

end FinalityRelay
