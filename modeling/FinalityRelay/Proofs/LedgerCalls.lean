import FinalityRelay.Proofs.Ledger

/-! The ledger under any sequence of calls: a map from ids to the records that were added last, first in,
first out. Kept as a hash map next to a queue of ids, it gives the same answers. -/

namespace FinalityRelay

namespace Ledger

variable {l : Ledger} {rs : List BlockRecord} {r : BlockRecord} {id : Digest} {n capacity : Nat}

/-- What changes a ledger. -/
inductive Call
  | record (r : BlockRecord)
  | clear

def perform (l : Ledger) : Call → Ledger
  | .record r => (l.record? r).getD l
  | .clear => l.clear

def performAll (l : Ledger) (cs : List Call) : Ledger := cs.foldl perform l

/-- The records that were added since the ledger was cleared last; `rs` are those before the calls. -/
def added (l : Ledger) (rs : List BlockRecord) : List Call → List BlockRecord
  | [] => rs
  | .record r :: cs =>
    (l.perform (.record r)).added (if (l.record? r).isSome then rs ++ [r] else rs) cs
  | .clear :: cs => l.clear.added [] cs

/-- There are `n` links to previous blocks from the record of an id to `r`, all between retained records. -/
def Leads (l : Ledger) (id : Digest) (n : Nat) (r : BlockRecord) : Prop :=
  ∃ path : List BlockRecord, path.length = n + 1 ∧ path ⊆ l.records ∧
    path.head?.map (·.id) = some id ∧ path.getLast? = some r ∧
    path.IsChain fun a b => a.previous = b.id

theorem leads_zero_iff : l.Leads id 0 r ↔ r ∈ l.records ∧ r.id = id := by
  constructor
  · rintro ⟨path, hlen, hsub, hhead, hlast, -⟩
    obtain ⟨a, rfl⟩ := List.length_eq_one_iff.mp hlen
    obtain rfl := Option.some.inj hlast
    exact ⟨hsub List.mem_cons_self, Option.some.inj hhead⟩
  · rintro ⟨hr, rfl⟩
    exact ⟨[r], rfl, List.cons_subset.mpr ⟨hr, List.nil_subset _⟩, rfl, rfl, List.isChain_singleton r⟩

theorem leads_succ_iff :
    l.Leads id (n + 1) r ↔ ∃ a, (a ∈ l.records ∧ a.id = id) ∧ l.Leads a.previous n r := by
  constructor
  · rintro ⟨path, hlen, hsub, hhead, hlast, hchain⟩
    match path, hlen with
    | a :: b :: path, hlen =>
      obtain ⟨ha, hsub⟩ := List.cons_subset.mp hsub
      obtain ⟨hab, hchain⟩ := List.isChain_cons_cons.mp hchain
      exact ⟨a, ⟨ha, Option.some.inj hhead⟩, b :: path, Nat.succ.inj hlen, hsub, congrArg some hab.symm,
        hlast, hchain⟩
  · rintro ⟨a, ⟨ha, rfl⟩, path, hlen, hsub, hhead, hlast, hchain⟩
    match path, hlen with
    | b :: path, hlen =>
      exact ⟨a :: b :: path, congrArg (· + 1) hlen, List.cons_subset.mpr ⟨ha, hsub⟩, rfl, hlast,
        List.isChain_cons_cons.mpr ⟨(Option.some.inj hhead).symm, hchain⟩⟩

theorem WellFormed.ancestor?_iff_leads (h : l.WellFormed) : l.ancestor? id n = some r ↔ l.Leads id n r := by
  induction n generalizing id with
  | zero => rw [ancestor?, leads_zero_iff, h.get?_eq_some_iff]
  | succ n ih => simp only [ancestor?, Option.bind_eq_some_iff, leads_succ_iff, h.get?_eq_some_iff, ih]

/-- A ledger whose records are the last ones of those that were added. -/
structure Logs (l : Ledger) (capacity : Nat) (rs : List BlockRecord) : Prop where
  wellFormed : l.WellFormed
  capacity : l.capacity = max capacity 1
  records : l.records = rs.rtake l.capacity

theorem logs_ofCapacity (capacity : Nat) : (ofCapacity capacity).Logs capacity [] where
  wellFormed := wellFormed_ofCapacity capacity
  capacity := rfl
  records := (List.rtake_nil _).symm

theorem Logs.clear (h : l.Logs capacity rs) : l.clear.Logs capacity [] where
  wellFormed := ⟨h.wellFormed.positive, Nat.zero_le _, List.nodup_nil⟩
  capacity := h.capacity
  records := (List.rtake_nil _).symm

theorem Logs.record (h : l.Logs capacity rs) (r : BlockRecord) :
    (l.perform (.record r)).Logs capacity (if (l.record? r).isSome then rs ++ [r] else rs) := by
  cases hr : l.record? r with
  | none =>
    rw [perform, hr]
    exact h
  | some l' =>
    rw [perform, hr]
    obtain ⟨-, rfl⟩ := h.wellFormed.record?_eq_some_iff.mp hr
    refine ⟨h.wellFormed.record? hr, h.capacity, ?_⟩
    rw [Option.getD_some, h.records, rtake_append_rtake]
    rfl

theorem Logs.performAll (h : l.Logs capacity rs) (cs : List Call) :
    (l.performAll cs).Logs capacity (l.added rs cs) := by
  induction cs generalizing l rs with
  | nil => exact h
  | cons c cs ih =>
    cases c with
    | record r => exact ih (h.record r)
    | clear => exact ih h.clear

/-- A bounded map, first in, first out, to which the given records were added. -/
structure Keeps (l : Ledger) (capacity : Nat) (added : List BlockRecord) : Prop where
  records : l.records = added.rtake (min added.length (max capacity 1))
  size : l.size = min added.length (max capacity 1)
  ids : (l.records.map (·.id)).Nodup
  get?_iff : ∀ id r, l.get? id = some r ↔ r ∈ l.records ∧ r.id = id
  absent_iff : ∀ id, l.get? id = none ↔ id ∉ l.records.map (·.id)
  record?_iff : ∀ r, (l.record? r).isSome ↔ r.id ∉ l.records.map (·.id)
  refused : ∀ r, r.id ∈ l.records.map (·.id) → l.perform (.record r) = l
  ancestor?_iff : ∀ id n r, l.ancestor? id n = some r ↔ l.Leads id n r

theorem get?_eq_none_iff (l : Ledger) (id : Digest) : l.get? id = none ↔ id ∉ l.records.map (·.id) := by
  rw [← get?_isSome_iff, Option.not_isSome_iff_eq_none]

theorem record?_eq_none_iff (l : Ledger) (r : BlockRecord) :
    l.record? r = none ↔ r.id ∈ l.records.map (·.id) := by
  rw [record?, ← get?_isSome_iff]
  split
  · simp [*]
  · split <;> simp [*]

theorem Logs.keeps (h : l.Logs capacity rs) : l.Keeps capacity rs where
  records := by rw [rtake_min_length, ← h.capacity, ← h.records]
  size := by
    rw [size, h.records, List.rtake, List.length_drop, h.capacity]
    omega
  ids := h.wellFormed.ids
  get?_iff _ _ := h.wellFormed.get?_eq_some_iff
  absent_iff := l.get?_eq_none_iff
  record?_iff r := by rw [← l.record?_eq_none_iff r, Option.isSome_iff_ne_none]
  refused r hr := by rw [perform, (l.record?_eq_none_iff r).mpr hr, Option.getD_none]
  ancestor?_iff _ _ _ := h.wellFormed.ancestor?_iff_leads

end Ledger

/-! ### A map with a queue -/

instance : Hashable Digest := ⟨fun d => hash d.bytes⟩

/-- Records by their ids, and the ids in the order in which they came. -/
structure QueuedLedger where
  capacity : Nat
  records : Std.HashMap Digest BlockRecord
  queue : List Digest

namespace QueuedLedger

def ofCapacity (capacity : Nat) : QueuedLedger := ⟨max capacity 1, ∅, []⟩

def size (q : QueuedLedger) : Nat := q.queue.length

def get? (q : QueuedLedger) (id : Digest) : Option BlockRecord := q.records[id]?

def evict (q : QueuedLedger) : QueuedLedger :=
  match q.queue with
  | [] => q
  | id :: queue => { q with records := q.records.erase id, queue }

def push (q : QueuedLedger) (r : BlockRecord) : QueuedLedger :=
  { q with records := q.records.insert r.id r, queue := q.queue ++ [r.id] }

/-- Adds a record unless its id is there, and tells whether it did. -/
def record (q : QueuedLedger) (r : BlockRecord) : Bool × QueuedLedger :=
  if q.records.contains r.id then (false, q)
  else (true, (if q.capacity ≤ q.size then q.evict else q).push r)

/-- Follows the links to previous blocks from a record. -/
def climb (q : QueuedLedger) : Nat → BlockRecord → Option BlockRecord
  | 0, r => some r
  | steps + 1, r => (q.get? r.previous).bind (q.climb steps)

def ancestor? (q : QueuedLedger) (id : Digest) (steps : Nat) : Option BlockRecord :=
  (q.get? id).bind (q.climb steps)

def oldest? (q : QueuedLedger) : Option UInt32 := (q.queue.head?.bind q.get?).map (·.number)

def toList (q : QueuedLedger) : List BlockRecord := q.queue.filterMap q.get?

def clear (q : QueuedLedger) : QueuedLedger := { q with records := ∅, queue := [] }

def perform (q : QueuedLedger) : Ledger.Call → QueuedLedger
  | .record r => (q.record r).2
  | .clear => q.clear

def performAll (q : QueuedLedger) (cs : List Ledger.Call) : QueuedLedger := cs.foldl perform q

/-- The map and the queue hold what the ledger does. -/
structure Represents (q : QueuedLedger) (l : Ledger) : Prop where
  capacity : q.capacity = l.capacity
  queue : q.queue = l.records.map (·.id)
  get? : ∀ id, q.get? id = l.get? id

variable {q : QueuedLedger} {l : Ledger}

theorem represents_ofCapacity (capacity : Nat) :
    (ofCapacity capacity).Represents (.ofCapacity capacity) where
  capacity := rfl
  queue := rfl
  get? _ := Std.HashMap.getElem?_empty

namespace Represents

theorem size (h : q.Represents l) : q.size = l.size := by
  rw [QueuedLedger.size, h.queue, List.length_map, Ledger.size]

theorem clear (h : q.Represents l) : q.clear.Represents l.clear where
  capacity := h.capacity
  queue := rfl
  get? _ := Std.HashMap.getElem?_empty

theorem evict (h : q.Represents l) (hids : (l.records.map (·.id)).Nodup) :
    q.evict.Represents { l with records := l.records.drop 1 } := by
  obtain ⟨capacity, records⟩ := l
  cases records with
  | nil =>
    have he : q.evict = q := by rw [QueuedLedger.evict, h.queue]; rfl
    rw [he]
    exact h
  | cons r rs =>
    have he : q.evict = { q with records := q.records.erase r.id, queue := rs.map (·.id) } := by
      rw [QueuedLedger.evict, h.queue]
      rfl
    rw [he]
    refine ⟨h.capacity, rfl, fun id => ?_⟩
    have hfind : q.records[id]? = (r :: rs).find? (·.id = id) := h.get? id
    have hget : (q.records.erase r.id)[id]? = rs.find? (·.id = id) := by
      rw [Std.HashMap.getElem?_erase, hfind]
      by_cases hid : r.id = id
      · -- The id that goes is that of no later record.
        have hnone : rs.find? (·.id = id) = none := by
          refine List.find?_eq_none.mpr fun r' hr' => ?_
          have hne : r.id ∉ rs.map (·.id) := (List.nodup_cons.mp hids).1
          rw [hid] at hne
          simpa using fun he => hne (List.mem_map.mpr ⟨r', hr', he⟩)
        simp [hid, hnone]
      · simp [hid]
    exact hget

theorem push (h : q.Represents l) {r : BlockRecord} (hr : l.get? r.id = none) :
    (q.push r).Represents { l with records := l.records ++ [r] } := by
  refine ⟨h.capacity, by simp [QueuedLedger.push, h.queue], fun id => ?_⟩
  have hfind : q.records[id]? = l.get? id := h.get? id
  have hget : (q.records.insert r.id r)[id]? = (l.get? id).or ([r].find? (·.id = id)) := by
    rw [Std.HashMap.getElem?_insert, hfind]
    by_cases hid : r.id = id
    · have hnone : l.get? id = none := hid ▸ hr
      simp [hid, hnone]
    · simp [hid]
  rw [Ledger.get?, List.find?_append]
  exact hget

theorem contains (h : q.Represents l) (id : Digest) : q.records.contains id = (l.get? id).isSome := by
  rw [Std.HashMap.contains_eq_isSome_getElem?]
  exact congrArg Option.isSome (h.get? id)

theorem record (h : q.Represents l) (hl : l.WellFormed) (r : BlockRecord) :
    (q.record r).1 = (l.record? r).isSome ∧ (q.record r).2.Represents (l.perform (.record r)) := by
  rw [Ledger.perform, QueuedLedger.record, Ledger.record?, h.contains, h.capacity, h.size]
  cases hr : l.get? r.id with
  | some r' => exact ⟨rfl, h⟩
  | none =>
    simp only [Option.isSome_none, Bool.false_eq_true, if_false]
    by_cases hc : l.capacity ≤ l.size
    · rw [if_pos hc, if_pos hc]
      refine ⟨rfl, (h.evict hl.ids).push ?_⟩
      rw [Ledger.get?_eq_none_iff] at hr ⊢
      exact fun hm => hr (((List.drop_sublist 1 l.records).map _).subset hm)
    · rw [if_neg hc, if_neg hc]
      exact ⟨rfl, h.push hr⟩

theorem performAll (h : q.Represents l) {capacity : Nat} {rs : List BlockRecord}
    (hl : l.Logs capacity rs) (cs : List Ledger.Call) : (q.performAll cs).Represents (l.performAll cs) := by
  induction cs generalizing q l rs with
  | nil => exact h
  | cons c cs ih =>
    cases c with
    | record r => exact ih (h.record hl.wellFormed r).2 (hl.record r)
    | clear => exact ih h.clear hl.clear

theorem ancestor? (h : q.Represents l) (id : Digest) (n : Nat) : q.ancestor? id n = l.ancestor? id n := by
  induction n generalizing id with
  | zero =>
    rw [QueuedLedger.ancestor?, h.get?, Ledger.ancestor?]
    exact Option.bind_fun_some _
  | succ n ih =>
    rw [QueuedLedger.ancestor?, h.get?, Ledger.ancestor?]
    exact congrArg _ (funext fun r => ih r.previous)

theorem toList (h : q.Represents l) (hl : l.WellFormed) : q.toList = l.records := by
  have hself : ∀ r ∈ l.records, q.get? r.id = some r := fun r hr => by
    rw [h.get?, hl.get?_eq_some_iff]
    exact ⟨hr, rfl⟩
  rw [QueuedLedger.toList, h.queue, List.filterMap_map]
  exact (List.filterMap_congr hself).trans List.filterMap_some

theorem oldest? (h : q.Represents l) (hl : l.WellFormed) : q.oldest? = l.oldest? := by
  rw [QueuedLedger.oldest?, Ledger.oldest?, h.queue, List.head?_map]
  cases hr : l.records.head? with
  | none => rfl
  | some r =>
    have hg : q.get? r.id = some r := by
      rw [h.get?, hl.get?_eq_some_iff]
      exact ⟨List.mem_of_head? hr, rfl⟩
    simp [hg]

end Represents

/-- The map and the queue answer as the ledger does, and do not change when they refuse a record. -/
structure Answers (q : QueuedLedger) (l : Ledger) : Prop where
  toList : q.toList = l.records
  size : q.size = l.size
  get? : ∀ id, q.get? id = l.get? id
  ancestor? : ∀ id n, q.ancestor? id n = l.ancestor? id n
  oldest? : q.oldest? = l.oldest?
  record : ∀ r, (q.record r).1 = (l.record? r).isSome
  refused : ∀ r, l.record? r = none → (q.record r).2 = q

theorem Represents.answers (h : q.Represents l) (hl : l.WellFormed) : q.Answers l where
  toList := h.toList hl
  size := h.size
  get? := h.get?
  ancestor? := h.ancestor?
  oldest? := h.oldest? hl
  record r := (h.record hl r).1
  refused r hr := by
    have hid := (l.get?_isSome_iff r.id).mpr ((l.record?_eq_none_iff r).mp hr)
    rw [QueuedLedger.record, if_pos (by rw [h.contains, hid])]

end QueuedLedger

/-- Whatever is recorded in a ledger of whatever capacity, and whenever it is cleared: it keeps the last
records of those that it has taken since, and a map with a queue gives the same answers. -/
theorem Ledger.keeps_added (capacity : Nat) (calls : List Call) :
    let l := (ofCapacity capacity).performAll calls
    l.Keeps capacity ((ofCapacity capacity).added [] calls) ∧
      ((QueuedLedger.ofCapacity capacity).performAll calls).Answers l := by
  have hl := logs_ofCapacity capacity
  have hq := (QueuedLedger.represents_ofCapacity capacity).performAll hl calls
  exact ⟨(hl.performAll calls).keeps, hq.answers (hl.performAll calls).wellFormed⟩

end FinalityRelay
