import FinalityRelay.Codec.Record
import FinalityRelay.Proofs.JsonText

/-! Reading undoes writing in JSON too. How deep a form is nested is counted along, since a reader opens no
more than so many lists and objects. -/

namespace FinalityRelay

namespace Json

theorem ofNat_eq_ofInt (n : Nat) : ofNat n = ofInt n := by
  rw [ofNat, ofInt, Number.ofNat_eq_ofInt]

@[simp] theorem int?_ofInt (i : Int) : (ofInt i).int? = some i := Number.int?_ofInt i

@[simp] theorem nat?_ofNat (n : Nat) : (ofNat n).nat? = some n := by
  rw [ofNat, nat?, Number.ofNat_eq_ofInt, Number.int?_ofInt, Option.bind_some, Int.mem_toNat?.mpr rfl]

@[simp] theorem string?_ofString (s : String) : (ofString s).string? = some s := rfl

theorem plain_ofNat {n m : Nat} (h : m < UInt64.size) : Plain n (ofNat m) := by
  have hl : Int64.minValue.toInt ≤ 0 := by decide
  rw [ofNat_eq_ofInt]
  exact .integer (by omega) (by exact_mod_cast h)

theorem membersOf_eq_nil {key : String} {ms : List (String × Json)} (h : key ∉ ms.map Prod.fst) :
    membersOf key (ms.map fun p => (some p.1, p.2)) = [] := by
  simp only [membersOf, List.map_eq_nil_iff, List.filter_eq_nil_iff, List.mem_map]
  rintro _ ⟨m, hm, rfl⟩ he
  exact h (List.mem_map.mpr ⟨m, hm, by simpa using he⟩)

/-- Under a key that stands once is its value alone. -/
theorem membersOf_of_mem {ms : List (String × Json)} (hn : (ms.map Prod.fst).Nodup)
    {m : String × Json} (hm : m ∈ ms) :
    membersOf m.1 (ms.map fun p => (some p.1, p.2)) = [m.2] := by
  induction ms with
  | nil => cases hm
  | cons p ms ih =>
    obtain ⟨hp, hn⟩ := List.nodup_cons.mp hn
    rcases List.mem_cons.mp hm with rfl | hm
    · rw [List.map_cons, membersOf, List.filter_cons_of_pos (by simp), List.map_cons]
      exact congrArg _ (membersOf_eq_nil hp)
    · have hne : p.1 ≠ m.1 := fun he => hp (he ▸ List.mem_map_of_mem hm)
      rw [List.map_cons, membersOf, List.filter_cons_of_neg (by simpa using hne)]
      exact ih hn hm

end Json

namespace Codec

variable {α β : Type} {c : Codec α} {d : Codec β} {sound : α → Prop} {sound' : β → Prop} {k l : Nat}

/-- What is written is plain and opens at most `k` lists and objects at once. From it a sound value is
read wherever so many may be opened. -/
structure Renders (c : Codec α) (k : Nat) (sound : α → Prop) : Prop where
  plain : ∀ a n, k ≤ n → Json.Plain n (c.toJson a)
  ofJson?_toJson : ∀ a n, k ≤ n → sound a → c.ofJson? n (c.toJson a) = some a

theorem Renders.mono (h : c.Renders k sound) (hl : k ≤ l) : c.Renders l sound where
  plain a n hn := h.plain a n (Nat.le_trans hl hn)
  ofJson?_toJson a n hn ha := h.ofJson?_toJson a n (Nat.le_trans hl hn) ha

/-- The JSON text of a value. -/
def print (c : Codec α) (a : α) : String := (c.toJson a).render

def parse? (c : Codec α) (s : String) : Option α := (Json.read? s.toList).bind c.decode?

theorem Renders.parse?_print (h : c.Renders k sound) (hk : k ≤ maxDepth) {a : α} (ha : sound a) :
    c.parse? (c.print a) = some a := by
  have hread := (h.plain a maxDepth hk).read?_write
  rw [parse?, print, Json.render, String.toList_ofList, hread, Option.bind_some, decode?]
  exact h.ofJson?_toJson a maxDepth hk ha

theorem word16_renders : word16.Renders 0 fun _ => True where
  plain a n _ := Json.plain_ofNat (a.toNat_lt.trans (by decide))
  ofJson?_toJson a n _ _ := by simp [word16, a.toNat_lt]

theorem word32_renders : word32.Renders 0 fun _ => True where
  plain a n _ := Json.plain_ofNat (a.toNat_lt.trans (by decide))
  ofJson?_toJson a n _ _ := by simp [word32, a.toNat_lt]

theorem word64_renders : word64.Renders 0 fun _ => True where
  plain a n _ := Json.plain_ofNat a.toNat_lt
  ofJson?_toJson a n _ _ := by simp [word64, a.toNat_lt]

theorem int64_renders : int64.Renders 0 fun _ => True where
  plain a n _ := .integer a.minValue_le_toInt (a.toInt_lt.trans (by decide))
  ofJson?_toJson a n _ _ := by
    simp only [int64, Json.int?_ofInt, Option.bind_eq_bind, Option.bind_some]
    rw [if_pos ⟨a.minValue_le_toInt, a.toInt_le⟩, Int64.ofInt_toInt]
    rfl

theorem flag_renders : flag.Renders 0 fun _ => True where
  plain a _ _ := .bool a
  ofJson?_toJson _ _ _ _ := rfl

theorem text_renders : text.Renders 0 fun _ => True where
  plain s _ _ := .text s
  ofJson?_toJson _ _ _ _ := rfl

theorem bytes_renders : bytes.Renders 0 fun _ => True where
  plain bs _ _ := .text (String.ofList (Hex.write bs))
  ofJson?_toJson bs n _ _ := by simp [bytes, Hex.unmarked_write, Hex.read?_write]

theorem digest32_renders : digest32.Renders 0 fun _ => True where
  plain d _ _ := .text d.text
  ofJson?_toJson d n _ _ := by simp [digest32, Digest.ofText?_text]

theorem name_renders : name.Renders 0 fun _ => True where
  plain m _ _ := .text m.text
  ofJson?_toJson m n _ _ := by simp [name, Name.parse_text, Except.toOption]

/-- An optional value that is there must not look like one that is not. -/
theorem Renders.option (h : c.Renders k sound) (hc : ∀ a, c.toJson a ≠ .null) :
    c.option.Renders k fun o => ∀ a ∈ o, sound a where
  plain o n hn := by
    cases o with
    | none => exact .null
    | some a => exact h.plain a n hn
  ofJson?_toJson o n hn ho := by
    cases o with
    | none => rfl
    | some a =>
      have hr := h.ofJson?_toJson a n hn (ho a rfl)
      have hread : c.option.ofJson? n (c.toJson a) = (c.ofJson? n (c.toJson a)).map some := by
        cases hj : c.toJson a with
        | null => exact absurd hj (hc a)
        | _ => rfl
      exact hread.trans (by rw [hr, Option.map_some])

theorem mapM_ofJson? {js : List Json} {as : List α} {n : Nat} (h : js = as.map c.toJson)
    (hr : ∀ a ∈ as, c.ofJson? n (c.toJson a) = some a) : js.mapM (c.ofJson? n) = some as := by
  subst h
  induction as with
  | nil => rfl
  | cons a as ih =>
    have hrest := ih fun b hb => hr b (List.mem_cons_of_mem a hb)
    rw [List.map_cons, List.mapM_cons, hr a List.mem_cons_self, hrest]
    rfl

theorem Renders.list (h : c.Renders k sound) :
    c.list.Renders (k + 1) fun as => ∀ a ∈ as, sound a where
  plain as n hn := by
    obtain ⟨m, rfl⟩ := Nat.exists_eq_add_of_le' (Nat.le_trans (Nat.le_add_left 1 k) hn)
    refine .list fun j hj => ?_
    obtain ⟨a, -, rfl⟩ := List.mem_map.mp hj
    exact h.plain a m (by omega)
  ofJson?_toJson as n hn has := by
    obtain ⟨m, rfl⟩ := Nat.exists_eq_add_of_le' (Nat.le_trans (Nat.le_add_left 1 k) hn)
    exact mapM_ofJson? rfl fun a ha => h.ofJson?_toJson a m (by omega) (has a ha)

theorem Renders.pair (h : c.Renders k sound) (h' : d.Renders l sound') :
    (c.pair d).Renders (max k l + 1) fun p => sound p.1 ∧ sound' p.2 where
  plain p n hn := by
    obtain ⟨m, rfl⟩ := Nat.exists_eq_add_of_le' (Nat.le_trans (Nat.le_add_left 1 _) hn)
    refine .list fun j hj => ?_
    rcases List.mem_pair.mp hj with rfl | rfl
    · exact h.plain p.1 m (by omega)
    · exact h'.plain p.2 m (by omega)
  ofJson?_toJson p n hn hp := by
    obtain ⟨m, rfl⟩ := Nat.exists_eq_add_of_le' (Nat.le_trans (Nat.le_add_left 1 _) hn)
    have hr := h.ofJson?_toJson p.1 m (by omega) hp.1
    have hr' := h'.ofJson?_toJson p.2 m (by omega) hp.2
    simp [Codec.pair, hr, hr']

theorem Renders.via {parts : α → β} {ofParts? : β → Option α} (h : d.Renders k sound')
    (hs : ∀ a, sound a → sound' (parts a) ∧ ofParts? (parts a) = some a) :
    (d.via parts ofParts?).Renders k sound where
  plain a n hn := h.plain (parts a) n hn
  ofJson?_toJson a n hn ha := by
    have hr := h.ofJson?_toJson (parts a) n hn (hs a ha).1
    simp only [Codec.via, hr, Option.bind_some, (hs a ha).2]

end Codec

namespace Fields

variable {α β : Type} {fs : Fields α} {rest : Fields β} {f : RecordField α} {sound : α → Prop}
  {sound' : β → Prop} {k l : Nat}

def keys : {α : Type} → Fields α → List String
  | _, .done => []
  | _, .field f rest => f.key :: rest.keys

theorem map_fst_toMembers (fs : Fields α) (a : α) : (fs.toMembers a).map Prod.fst = fs.keys := by
  induction fs with
  | done => rfl
  | field f rest ih => simp [toMembers, keys, ih]

/-- The members that a record is written as are plain, and its fields are found among any members where
each of them stands once. -/
structure Renders (fs : Fields α) (k : Nat) (sound : α → Prop) : Prop where
  plain : ∀ a n, k ≤ n → ∀ m ∈ fs.toMembers a, Json.Plain n m.2
  ofMembers?_of_mem : ∀ a n ms, k ≤ n → sound a →
    (∀ m ∈ fs.toMembers a, Json.membersOf m.1 ms = [m.2]) → fs.ofMembers? n ms = some a

theorem done_renders : done.Renders 0 fun _ => True where
  plain _ _ _ _ hm := by cases hm
  ofMembers?_of_mem _ _ _ _ _ _ := rfl

theorem field_renders (h : f.codec.Renders k sound) (h' : rest.Renders l sound') :
    (field f rest).Renders (max k l) fun p => sound p.1 ∧ sound' p.2 where
  plain p n hn m hm := by
    rcases List.mem_cons.mp hm with rfl | hm
    · exact h.plain p.1 n (by omega)
    · exact h'.plain p.2 n (by omega) m hm
  ofMembers?_of_mem p n ms hn hp hms := by
    have hkey := hms (f.key, f.codec.toJson p.1) List.mem_cons_self
    have hr := h.ofJson?_toJson p.1 n (by omega) hp.1
    have hrest := h'.ofMembers?_of_mem p.2 n ms (by omega) hp.2
      fun m hm => hms m (List.mem_cons_of_mem _ hm)
    simp only at hkey
    simp [ofMembers?, hkey, hr, hrest]

theorem Renders.codec (h : fs.Renders k sound) (hk : fs.keys.Nodup) (hl : k < l) :
    fs.codec.Renders l sound where
  plain a n hn := by
    obtain ⟨m, rfl⟩ := Nat.exists_eq_add_of_lt (Nat.lt_of_lt_of_le hl hn)
    exact .record (h.plain a (k + m) (by omega))
  ofJson?_toJson a n hn ha := by
    obtain ⟨m, rfl⟩ := Nat.exists_eq_add_of_lt (Nat.lt_of_lt_of_le hl hn)
    have hkeys : ((fs.toMembers a).map fun p => (some p.1, p.2)).all (·.1.isSome) = true := by simp
    have hread := h.ofMembers?_of_mem a (k + m) _ (by omega) ha fun p hp =>
      Json.membersOf_of_mem (by rwa [map_fst_toMembers]) hp
    exact (if_pos hkeys).trans hread

/-- The form of a structure, whose parts are the fields of a record. -/
theorem Renders.via {γ : Type} {sound₂ : γ → Prop} {parts : γ → α} {ofParts? : α → Option γ}
    (h : fs.Renders k sound) (hk : fs.keys.Nodup ∧ k < l)
    (hs : ∀ c, sound₂ c → sound (parts c) ∧ ofParts? (parts c) = some c) :
    (fs.codec.via parts ofParts?).Renders l sound₂ :=
  (h.codec hk.1 hk.2).via hs

end Fields

end FinalityRelay
