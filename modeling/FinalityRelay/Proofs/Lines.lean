import FinalityRelay.Proofs.JsonText
import FinalityRelay.Relay.Feed

/-! Texts as bytes, the lines that they are cut into, and the blanks around them. JSON texts stay on their
line. -/

namespace FinalityRelay

namespace Text

/-- The UTF-8 form of a text. -/
def bytes (cs : List Char) : List UInt8 := cs.flatMap String.utf8EncodeChar

@[simp] theorem bytes_append (cs ds : List Char) : bytes (cs ++ ds) = bytes cs ++ bytes ds :=
  List.flatMap_append

@[simp] theorem bytes_eq_nil_iff {cs : List Char} : bytes cs = [] ↔ cs = [] := by
  rw [bytes, List.flatMap_eq_nil_iff, List.eq_nil_iff_forall_not_mem]
  exact forall₂_congr fun c _ => iff_false_intro String.utf8EncodeChar_ne_nil

/-- A character is one byte, or several that all have their top bit set. -/
theorem utf8EncodeChar_eq_or (c : Char) :
    String.utf8EncodeChar c = [UInt8.ofNat c.toNat] ∧ c.toNat < 128 ∨
      ∀ b ∈ String.utf8EncodeChar c, 128 ≤ b.toNat := by
  have htop : ∀ n < 128, 128 ≤ (UInt8.ofNat (n + 128)).toNat := by decide
  simp only [String.utf8EncodeChar, ← Char.toNat_val]
  split_ifs with h1 h2 h3
  · exact .inl ⟨rfl, by omega⟩
  · right
    simp only [List.forall_mem_cons]
    exact ⟨htop (c.val.toNat / 64 % 32 + 64) (by omega), htop _ (by omega), nofun⟩
  · right
    simp only [List.forall_mem_cons]
    exact ⟨htop (c.val.toNat / 4096 % 16 + 96) (by omega), htop _ (by omega), htop _ (by omega), nofun⟩
  · right
    simp only [List.forall_mem_cons]
    exact ⟨htop (c.val.toNat / 262144 % 8 + 112) (by omega), htop _ (by omega), htop _ (by omega),
      htop _ (by omega), nofun⟩

theorem newline_not_mem_bytes {cs : List Char} (h : '\n' ∉ cs) : 10 ∉ bytes cs := by
  intro hb
  obtain ⟨c, hc, hbyte⟩ := List.mem_flatMap.mp hb
  rcases utf8EncodeChar_eq_or c with ⟨he, hlt⟩ | htop
  · have hcode : c.toNat = 10 := by
      have hval : (10 : UInt8).toNat = (UInt8.ofNat c.toNat).toNat :=
        congrArg _ (List.mem_singleton.mp (he ▸ hbyte))
      rw [UInt8.toNat_ofNat_of_lt' (hlt.trans (by decide))] at hval
      exact hval.symm
    have hnewline : c = '\n' := by rw [← Char.ofNat_toNat c, hcode]
    exact h (hnewline ▸ hc)
  · exact absurd (htop 10 hbyte) (by decide)

@[simp] theorem fromUTF8?_bytes (cs : List Char) :
    String.fromUTF8? ⟨(bytes cs).toArray⟩ = some (String.ofList cs) := by
  have hbytes : (⟨(bytes cs).toArray⟩ : ByteArray) = (String.ofList cs).toByteArray := by
    rw [String.toByteArray_ofList, List.utf8Encode]
    refine ByteArray.ext (Array.toList_inj.mp ?_)
    rw [List.toList_data_toByteArray, bytes]
  rw [hbytes]
  exact dif_pos (String.ofList cs).isValidUTF8

/-! ### Blanks -/

variable {as bs cs : List Char}

theorem trim_eq_nil_iff : trim cs = [] ↔ ∀ c ∈ cs, isBlank c = true := by
  have hdrop : trim cs = [] ↔ cs.dropWhile isBlank = [] := by
    rw [trim, List.reverse_eq_nil_iff, List.dropWhile_eq_nil_iff]
    constructor
    · intro h
      by_contra hne
      have hhead := List.head_dropWhile_not isBlank hne
      rw [h _ (List.mem_reverse.mpr (List.head_mem hne))] at hhead
      exact absurd hhead (by decide)
    · intro h
      simp [h]
  rw [hdrop, List.dropWhile_eq_nil_iff]

theorem trim_append_left (h : ∀ c ∈ as, isBlank c = true) : trim (as ++ cs) = trim cs := by
  rw [trim, List.dropWhile_append_of_pos h]
  rfl

theorem trim_append_right (h : ∀ c ∈ bs, isBlank c = true) : trim (cs ++ bs) = trim cs := by
  have hrev : ∀ c ∈ bs.reverse, isBlank c = true := fun c hc => h c (List.mem_reverse.mp hc)
  by_cases hcs : ∀ c ∈ cs, isBlank c = true
  · rw [trim_append_left hcs, trim_eq_nil_iff.mpr h, trim_eq_nil_iff.mpr hcs]
  · have hne : cs.dropWhile isBlank ≠ [] := fun hn => hcs (List.dropWhile_eq_nil_iff.mp hn)
    rw [trim, List.dropWhile_append, if_neg (by simpa using hne), List.reverse_append,
      List.dropWhile_append_of_pos hrev]
    rfl

theorem trim_of_ends {c d : Char} (hc : isBlank c = false) (hd : isBlank d = false) :
    trim (c :: (cs ++ [d])) = c :: (cs ++ [d]) := by
  rw [trim, List.dropWhile_cons_of_neg (by simp [hc]), ← List.cons_append, List.reverse_append,
    List.reverse_singleton, List.singleton_append, List.dropWhile_cons_of_neg (by simp [hd]),
    List.reverse_cons, List.reverse_reverse]

end Text

namespace Json

/-- A text without control characters. -/
def Visible (cs : List Char) : Prop := ∀ c ∈ cs, 32 ≤ c.toNat

theorem visible_append {cs ds : List Char} : Visible (cs ++ ds) ↔ Visible cs ∧ Visible ds :=
  List.forall_mem_append

theorem visible_cons {c : Char} {cs : List Char} : Visible (c :: cs) ↔ 32 ≤ c.toNat ∧ Visible cs :=
  List.forall_mem_cons

theorem visible_nil : Visible [] := nofun

theorem visible_escape (c : Char) : Visible (escape c) := by
  have hdigit : ∀ n < 16, 32 ≤ (Nat.digitChar n).toNat := by decide
  unfold escape
  split_ifs with hquote hslash hnewline hreturn htab hback hfeed hcontrol
  iterate 7 · simp [Visible]
  · have hbyte := (UInt8.ofNat c.toNat).toNat_lt
    have hhigh := hdigit ((UInt8.ofNat c.toNat).toNat / 16) (by omega)
    have hlow := hdigit ((UInt8.ofNat c.toNat).toNat % 16) (by omega)
    refine visible_append.mpr ⟨by simp [Visible], ?_⟩
    exact visible_cons.mpr ⟨hhigh, visible_cons.mpr ⟨hlow, visible_nil⟩⟩
  · exact visible_cons.mpr ⟨by omega, visible_nil⟩

theorem visible_quote (s : String) : Visible (quote (some s)) := by
  have hbody : Visible (s.toList.flatMap escape) := by
    intro d hd
    obtain ⟨c, -, hc⟩ := List.mem_flatMap.mp hd
    exact visible_escape c d hc
  have hquote : quote (some s) = '"' :: (s.toList.flatMap escape ++ ['"']) := rfl
  rw [hquote]
  exact visible_cons.mpr ⟨by decide, visible_append.mpr ⟨hbody, by simp [Visible]⟩⟩

theorem visible_writeItems {js : List Json} (h : ∀ j ∈ js, Visible j.write) :
    Visible (writeItems js) := by
  induction js with
  | nil => exact visible_nil
  | cons j js ih =>
    have hj := h j List.mem_cons_self
    cases js with
    | nil => exact hj
    | cons k js =>
      have hrest := ih fun i hi => h i (List.mem_cons_of_mem j hi)
      exact visible_append.mpr ⟨hj, visible_cons.mpr ⟨by decide, hrest⟩⟩

theorem visible_writeMembers {ms : List (String × Json)} (h : ∀ m ∈ ms, Visible m.2.write) :
    Visible (writeMembers (ms.map fun m => (some m.1, m.2))) := by
  induction ms with
  | nil => exact visible_nil
  | cons m ms ih =>
    have hm := h m List.mem_cons_self
    have hkey := visible_quote m.1
    cases ms with
    | nil => exact visible_append.mpr ⟨hkey, visible_cons.mpr ⟨by decide, hm⟩⟩
    | cons p ms =>
      have hrest := ih fun q hq => h q (List.mem_cons_of_mem m hq)
      refine visible_append.mpr ⟨hkey, visible_cons.mpr ⟨by decide, visible_append.mpr ⟨hm, ?_⟩⟩⟩
      exact visible_cons.mpr ⟨by decide, hrest⟩

/-- What is written stays on its line. -/
theorem Plain.visible {n : Nat} {j : Json} (h : Plain n j) : Visible j.write := by
  induction h with
  | null => simp [write, Visible]
  | bool b => cases b <;> simp [write, Visible]
  | @integer n i hl hu =>
    have hdigits : Visible (Nat.toDigits 10 i.natAbs) := by
      intro c hc
      have hrange : '0' ≤ c ∧ c ≤ '9' := by simpa [Number.isDigit] using Number.isDigit_of_mem hc
      have hcode : 48 ≤ c.toNat := UInt32.le_iff_toNat_le.mp hrange.1
      omega
    have hw : (ofInt i).write = _ := Number.write_ofInt i
    rw [hw]
    refine visible_append.mpr ⟨?_, hdigits⟩
    split <;> simp [Visible]
  | text s => exact visible_quote s
  | list _ ih =>
    have hclosed := visible_append.mpr ⟨visible_writeItems ih, (by simp [Visible] : Visible [']'])⟩
    exact visible_cons.mpr ⟨by decide, hclosed⟩
  | record _ ih =>
    have hclosed := visible_append.mpr ⟨visible_writeMembers ih, (by simp [Visible] : Visible ['}'])⟩
    exact visible_cons.mpr ⟨by decide, hclosed⟩

end Json

namespace Feed

variable {l : List UInt8}

theorem linesFrom_append (h : 10 ∉ l) (line rest : List UInt8) :
    linesFrom line (l ++ rest) = linesFrom (l.reverse ++ line) rest := by
  induction l generalizing line with
  | nil => rfl
  | cons b l ih =>
    obtain ⟨hb, hl⟩ := List.ne_and_not_mem_of_not_mem_cons h
    rw [List.cons_append, linesFrom, if_neg hb.symm, ih hl]
    simp

theorem lines_append_newline (h : 10 ∉ l) (rest : List UInt8) :
    lines (l ++ 10 :: rest) = l :: lines rest := by
  rw [lines, linesFrom_append h, linesFrom, if_pos rfl]
  simp [lines]

theorem lines_of_newline_not_mem (h : 10 ∉ l) : lines l = if l = [] then [] else [l] := by
  have hlines := linesFrom_append h [] []
  rw [List.append_nil, List.append_nil] at hlines
  rw [lines, hlines, linesFrom]
  by_cases hl : l = [] <;> simp [hl]

end Feed

end FinalityRelay
