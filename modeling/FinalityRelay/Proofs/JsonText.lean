import FinalityRelay.Json.Canonical
import FinalityRelay.Json.Reader
import FinalityRelay.Json.Writer
import FinalityRelay.Proofs.Spelling

/-! A plain JSON value is read back from the text that it is written as, at any depth. -/

namespace FinalityRelay

namespace Number

@[simp] theorem int?_ofInt (i : Int) : (ofInt i).int? = some i := by
  have hz : ¬(i < 0 ∧ i.natAbs = 0) := by omega
  simp only [int?, ofInt, decide_eq_true_eq, true_and]
  rw [if_pos hz]
  split <;> simp only [Option.some.injEq] <;> omega

theorem ofNat_eq_ofInt (n : Nat) : ofNat n = ofInt n := by
  simp [ofNat, ofInt]

theorem isDigit_of_mem {n : Nat} {c : Char} (hc : c ∈ Nat.toDigits 10 n) : isDigit c = true := by
  have hd := Nat.isDigit_of_mem_toDigits (by decide) (by decide) hc
  simpa only [isDigit, Char.isDigit, Char.le_def] using hd

theorem head_ne_zero {n : Nat} (hn : 0 < n) : (Nat.toDigits 10 n).head? ≠ some '0' := by
  induction n using Nat.strongRecOn with
  | ind n ih =>
    by_cases hlt : n < 10
    · have hall : ∀ n < 10, 0 < n → Nat.digitChar n ≠ '0' := by decide
      rw [Nat.toDigits_of_lt_base hlt]
      simpa using hall n hlt hn
    · rw [Nat.toDigits_of_base_le (by decide) (by omega),
        List.head?_append_of_ne_nil _ Nat.toDigits_ne_nil]
      exact ih (n / 10) (by omega) (by omega)

theorem readWhole_toDigits (n : Nat) : readWhole (Nat.toDigits 10 n) = some (n, []) := by
  have htake : (Nat.toDigits 10 n).takeWhile isDigit = Nat.toDigits 10 n :=
    List.takeWhile_eq_self_iff.mpr fun c hc => isDigit_of_mem hc
  have hdrop : (Nat.toDigits 10 n).dropWhile isDigit = [] :=
    List.dropWhile_eq_nil_iff.mpr fun c hc => isDigit_of_mem hc
  have hvalue : ofDigits (Nat.toDigits 10 n) = n := Nat.ofDigitChars_toDigits (by decide) (by decide)
  rw [readWhole, htake, hdrop]
  cases hd : Nat.toDigits 10 n with
  | nil => exact absurd hd Nat.toDigits_ne_nil
  | cons d ds =>
    have hzero : ¬(d = '0' ∧ ds ≠ []) := by
      rintro ⟨rfl, hds⟩
      rcases Nat.eq_zero_or_pos n with rfl | hn
      · exact hds (List.cons.inj hd).2.symm
      · exact head_ne_zero hn (by rw [hd, List.head?_cons])
    rw [hd] at hvalue
    exact (if_neg hzero).trans (by rw [hvalue])

theorem write_ofInt (i : Int) :
    (ofInt i).write = (if i < 0 then ['-'] else []) ++ Nat.toDigits 10 i.natAbs := by
  simp [ofInt, write, writeExponent]

/-- What is read after a sign. -/
theorem read_toDigits (negative : Bool) (n : Nat) : (do
    let (whole, cs) ← readWhole (Nat.toDigits 10 n)
    let (fraction, cs) ← readFraction cs
    let exponent ← readExponent cs
    return (⟨negative, whole, fraction, exponent⟩ : Number)) = some ⟨negative, n, [], none⟩ := by
  rw [readWhole_toDigits]
  rfl

theorem read?_write_ofInt (i : Int) : read? (ofInt i).write = some (ofInt i) := by
  rw [write_ofInt]
  by_cases hi : i < 0
  · rw [if_pos hi]
    exact (read_toDigits true i.natAbs).trans (by simp [ofInt, hi])
  · rw [if_neg hi, List.nil_append]
    cases hd : Nat.toDigits 10 i.natAbs with
    | nil => exact absurd hd Nat.toDigits_ne_nil
    | cons d ds =>
      have hsign : d ≠ '-' := by
        rintro rfl
        have hdigit := isDigit_of_mem (hd ▸ List.mem_cons_self)
        exact absurd hdigit (by decide)
      have hread := read_toDigits false i.natAbs
      rw [hd] at hread
      simp only [read?]
      split
      · rename_i r he
        exact absurd (List.cons.inj he).1 hsign
      · exact hread.trans (by simp [ofInt, hi])

end Number

namespace Token

/-- Whether a word ends in front of a text. -/
def Breaks (cs : List Char) : Prop := ∀ c ∈ cs.head?, isWordChar c = false

/-- A text that has these tokens, whatever stands in front of it and breaks behind it. -/
def Scans (cs : List Char) (ts : List Token) : Prop :=
  ∀ out rest, Breaks rest → scan .between out (cs ++ rest) = scan .between (ts.reverse ++ out) rest

theorem scans_nil : Scans [] [] := fun _ _ _ => rfl

theorem scan_end (out : List Token) : scan .between out [] = some out.reverse := rfl

theorem scan_between (c : Char) (out : List Token) (rest : List Char) :
    scan .between out (c :: rest) = scan (start c out).1 (start c out).2 rest := rfl

theorem scan_word_cons (w : List Char) (c : Char) (out : List Token) (rest : List Char) :
    scan (.word w) out (c :: rest) =
      if isWordChar c then scan (.word (c :: w)) out rest
      else scan .between (.word w.reverse :: out) (c :: rest) := rfl

theorem Scans.append_punct {cs ds : List Char} {ts us : List Token} {c : Char} (h : Scans cs ts)
    (hc : isPunct c = true) (h' : Scans ds us) : Scans (cs ++ c :: ds) (ts ++ .punct c :: us) := by
  intro out rest hrest
  have hquote : c ≠ '"' := by
    rintro rfl
    exact absurd hc (by decide)
  -- Only what follows a word ends it, so the tokens of `cs` are known by the mark behind it.
  have hbreak : Breaks (c :: (ds ++ rest)) := by
    intro d hd
    rw [← Option.some.inj hd]
    simp [isWordChar, hc]
  have hstart : start c (ts.reverse ++ out) = (.between, .punct c :: (ts.reverse ++ out)) := by
    simp [start, hquote, hc]
  rw [List.append_assoc, List.cons_append, h _ _ hbreak, scan_between, hstart, h' _ _ hrest]
  simp

theorem isWordChar_iff (c : Char) :
    isWordChar c = true ↔ isBlank c = false ∧ isPunct c = false ∧ c ≠ '"' := by
  simp [isWordChar, and_assoc]

theorem isWordChar_of_isDigit {c : Char} (h : Number.isDigit c = true) : isWordChar c = true := by
  have hall : ∀ n < 58, 48 ≤ n → isWordChar (Char.ofNat n) = true := by decide
  have hrange : 48 ≤ c.toNat ∧ c.toNat ≤ 57 := by
    simpa [Number.isDigit, Char.le_def, UInt32.le_iff_toNat_le] using h
  rw [← Char.ofNat_toNat c]
  exact hall c.toNat (by omega) hrange.1

theorem scan_word {w : List Char} (hw : ∀ c ∈ w, isWordChar c = true) (us : List Char)
    (out : List Token) (rest : List Char) :
    scan (.word us) out (w ++ rest) = scan (.word (w.reverse ++ us)) out rest := by
  induction w generalizing us with
  | nil => rfl
  | cons c w ih =>
    rw [List.cons_append, scan_word_cons, if_pos (hw c List.mem_cons_self),
      ih fun d hd => hw d (List.mem_cons_of_mem c hd)]
    simp

theorem scan_word_end (w : List Char) (out : List Token) {rest : List Char} (h : Breaks rest) :
    scan (.word w) out rest = scan .between (.word w.reverse :: out) rest := by
  cases rest with
  | nil => rfl
  | cons c rest => rw [scan_word_cons, h c rfl, if_neg Bool.false_ne_true]

theorem scans_word {w : List Char} (hne : w ≠ []) (hw : ∀ c ∈ w, isWordChar c = true) :
    Scans w [.word w] := by
  intro out rest hrest
  cases w with
  | nil => exact absurd rfl hne
  | cons c w =>
    obtain ⟨hblank, hpunct, hquote⟩ := (isWordChar_iff c).mp (hw c List.mem_cons_self)
    have hstart : start c out = (.word [c], out) := by simp [start, hblank, hpunct, hquote]
    rw [List.cons_append, scan_between, hstart,
      scan_word fun d hd => hw d (List.mem_cons_of_mem c hd), scan_word_end _ _ hrest]
    simp

/-! ### Texts -/

theorem unit?_control {n : Nat} (h : n < 32) :
    unit? '0' '0' (Nat.digitChar (n / 16)) (Nat.digitChar (n % 16)) = some n := by
  have hall : ∀ n < 32,
      unit? '0' '0' (Nat.digitChar (n / 16)) (Nat.digitChar (n % 16)) = some n := by decide
  exact hall n h

theorem scan_escaped_unit (a b c d : Char) (us : List Nat) (out : List Token) (rest : List Char) :
    scan (.text us) out ('\\' :: 'u' :: a :: b :: c :: d :: rest) =
      match unit? a b c d with
      | some u => scan (.text (u :: us)) out rest
      | none => none := rfl

theorem scan_unescaped {c : Char} (hquote : c ≠ '"') (hslash : c ≠ '\\') (hc : ¬c.toNat < 32)
    (us : List Nat) (out : List Token) (rest : List Char) :
    scan (.text us) out (c :: rest) = scan (.text (c.toNat :: us)) out rest := by
  rw [scan.eq_def]
  split <;> simp_all

theorem scan_escape (c : Char) (us : List Nat) (out : List Token) (rest : List Char) :
    scan (.text us) out (Json.escape c ++ rest) = scan (.text (c.toNat :: us)) out rest := by
  unfold Json.escape
  split_ifs with hquote hslash hnewline hreturn htab hback hfeed hcontrol
  · subst hquote; rfl
  · subst hslash; rfl
  · subst hnewline; rfl
  · subst hreturn; rfl
  · subst htab; rfl
  · subst hback; rfl
  · subst hfeed; rfl
  · have hbyte : (UInt8.ofNat c.toNat).toNat = c.toNat := by simp; omega
    simp only [Hex.ofByte, hbyte, List.cons_append, List.nil_append]
    rw [scan_escaped_unit, unit?_control hcontrol]
  · exact scan_unescaped hquote hslash hcontrol us out rest

theorem scan_escaped (cs : List Char) (us : List Nat) (out : List Token) (rest : List Char) :
    scan (.text us) out (cs.flatMap Json.escape ++ rest) =
      scan (.text ((cs.map Char.toNat).reverse ++ us)) out rest := by
  induction cs generalizing us with
  | nil => rfl
  | cons c cs ih =>
    rw [List.flatMap_cons, List.append_assoc, scan_escape, ih]
    simp

/-- No character is a surrogate. -/
theorem assemble_toNat (cs : List Char) : assemble (cs.map Char.toNat) = some cs := by
  induction cs with
  | nil => rfl
  | cons c cs ih =>
    have hc : c.toNat < 0xD800 ∨ 0xDFFF < c.toNat ∧ c.toNat < 0x110000 := c.valid
    rw [List.map_cons, assemble.eq_def]
    simp only
    rw [if_neg (by omega), if_neg (by omega), ih, Option.map_some, Char.ofNat_toNat]

theorem scan_quote (us : List Nat) (out : List Token) (rest : List Char) :
    scan (.text us) out ('"' :: rest) =
      scan .between (.text ((assemble us.reverse).map String.ofList) :: out) rest := rfl

theorem scans_quote (s : String) : Scans (Json.quote (some s)) [.text (some s)] := by
  intro out rest _
  have hunits : ((s.toList.map Char.toNat).reverse ++ []).reverse = s.toList.map Char.toNat := by
    simp
  have hquote : Json.quote (some s) = '"' :: (s.toList.flatMap Json.escape ++ ['"']) := rfl
  have hstart : start '"' out = (.text [], out) := rfl
  rw [hquote, List.cons_append, scan_between, hstart, List.append_assoc, List.singleton_append,
    scan_escaped, scan_quote, hunits, assemble_toNat, Option.map_some, String.ofList_toList,
    List.reverse_singleton, List.singleton_append]

end Token

namespace Json

/-- Values as they are written by a codec: no spoiled texts, integers of 64 bits, and at most `n` lists
and objects open at once. -/
inductive Plain : Nat → Json → Prop
  | null {n : Nat} : Plain n .null
  | bool {n : Nat} (b : Bool) : Plain n (.bool b)
  | integer {n : Nat} {i : Int} (hl : Int64.minValue.toInt ≤ i) (hu : i < UInt64.size) :
    Plain n (ofInt i)
  | text {n : Nat} (s : String) : Plain n (ofString s)
  | list {n : Nat} {items : List Json} (h : ∀ j ∈ items, Plain n j) : Plain (n + 1) (.list items)
  | record {n : Nat} {members : List (String × Json)} (h : ∀ m ∈ members, Plain n m.2) :
    Plain (n + 1) (record members)

/-- Where a value may come next. -/
inductive TakesValue : Next → List Frame → Prop
  | value (st : List Frame) : TakesValue .value st
  | firstItem (st : List Frame) : TakesValue .firstItem (.items [] :: st)

/-- Where the key of a member may come next. -/
inductive TakesKey : Next → Prop
  | key : TakesKey .key
  | firstKey : TakesKey .firstKey

section Steps

variable {next : Next} {st : List Frame} {ts : List Token} {j : Json}

theorem build_word (hn : TakesValue next st) (w : List Char) : build next st (.word w :: ts) =
    match ofToken? (.word w) with
    | some j => build (.afterValue j) st ts
    | none => none := by
  cases hn <;> rfl

theorem build_token {t : Token} (hn : TakesValue next st) (h : ofToken? t = some j) :
    build next st (t :: ts) = build (.afterValue j) st ts := by
  cases t with
  | punct c => cases h
  | text s => cases h; cases hn <;> rfl
  | word w => rw [build_word hn, h]

theorem build_list (hn : TakesValue next st) :
    build next st (.punct '[' :: ts) = build .firstItem (.items [] :: st) ts := by
  cases hn <;> rfl

theorem build_object (hn : TakesValue next st) :
    build next st (.punct '{' :: ts) = build .firstKey (.members [] none :: st) ts := by
  cases hn <;> rfl

theorem build_next_item (done : List Json) : build (.afterValue j) (.items done :: st) (.punct ',' :: ts) =
    build .value (.items (j :: done) :: st) ts := rfl

theorem build_last_item (done : List Json) : build (.afterValue j) (.items done :: st) (.punct ']' :: ts) =
    build (.afterValue (.list (j :: done).reverse)) st ts := rfl

theorem build_key (hn : TakesKey next) (done : List (Option String × Json)) (key s : Option String) :
    build next (.members done key :: st) (.text s :: .punct ':' :: ts) =
      build .value (.members done s :: st) ts := by
  cases hn <;> rfl

theorem build_next_member (done : List (Option String × Json)) (key : Option String) :
    build (.afterValue j) (.members done key :: st) (.punct ',' :: ts) =
      build .key (.members ((key, j) :: done) none :: st) ts := rfl

theorem build_last_member (done : List (Option String × Json)) (key : Option String) :
    build (.afterValue j) (.members done key :: st) (.punct '}' :: ts) =
      build (.afterValue (.object ((key, j) :: done).reverse)) st ts := rfl

end Steps

/-- A text that reads as a value wherever one may stand. -/
def Spells (cs : List Char) (j : Json) : Prop :=
  ∃ ts, Token.Scans cs ts ∧ ∀ next st, TakesValue next st → ∀ us,
    build next st (ts ++ us) = build (.afterValue j) st us

theorem spells_token {cs : List Char} {t : Token} {j : Json} (hs : Token.Scans cs [t])
    (h : ofToken? t = some j) : Spells cs j :=
  ⟨[t], hs, fun _ _ hn _ => build_token hn h⟩

/-- The items of a list from any of them on, up to the closing bracket. -/
theorem exists_tokens_of_items {j : Json} {js : List Json} (h : ∀ k ∈ j :: js, Spells k.write k) :
    ∃ ts, Token.Scans (writeItems (j :: js) ++ [']']) ts ∧
      ∀ next done st, TakesValue next (.items done :: st) → ∀ us,
        build next (.items done :: st) (ts ++ us) =
          build (.afterValue (.list (done.reverse ++ j :: js))) st us := by
  -- `next` is what stands before the first of them, the bracket or a comma; commas come before the rest.
  induction js generalizing j with
  | nil =>
    obtain ⟨ts, hs, hb⟩ := h j List.mem_cons_self
    have hw : writeItems [j] ++ [']'] = j.write ++ [']'] := rfl
    refine ⟨ts ++ [.punct ']'], ?_, fun next done st hn us => ?_⟩
    · rw [hw]
      exact hs.append_punct rfl Token.scans_nil
    · rw [List.append_assoc, hb next _ hn, List.singleton_append, build_last_item, List.reverse_cons]
  | cons k js ih =>
    obtain ⟨ts, hs, hb⟩ := h j List.mem_cons_self
    obtain ⟨us', hsrest, hbrest⟩ := ih fun i hi => h i (List.mem_cons_of_mem j hi)
    have hw : writeItems (j :: k :: js) ++ [']'] = j.write ++ ',' :: (writeItems (k :: js) ++ [']']) :=
      List.append_assoc j.write (',' :: writeItems (k :: js)) [']']
    refine ⟨ts ++ .punct ',' :: us', ?_, fun next done st hn us => ?_⟩
    · rw [hw]
      exact hs.append_punct rfl hsrest
    · rw [List.append_assoc, hb next _ hn, List.cons_append, build_next_item,
        hbrest .value _ _ (.value _), List.reverse_cons, List.append_assoc, List.singleton_append]

/-- The members of an object from any of them on, up to the closing brace. -/
theorem exists_tokens_of_members {m : String × Json} {ms : List (String × Json)}
    (h : ∀ p ∈ m :: ms, Spells p.2.write p.2) :
    ∃ ts, Token.Scans (writeMembers ((m :: ms).map fun p => (some p.1, p.2)) ++ ['}']) ts ∧
      ∀ next, TakesKey next → ∀ done key st us,
        build next (.members done key :: st) (ts ++ us) = build (.afterValue
          (.object (done.reverse ++ (m :: ms).map fun p => (some p.1, p.2)))) st us := by
  induction ms generalizing m with
  | nil =>
    obtain ⟨ts, hs, hb⟩ := h m List.mem_cons_self
    have hw : writeMembers ([m].map fun p => (some p.1, p.2)) ++ ['}'] =
        quote (some m.1) ++ ':' :: (m.2.write ++ ['}']) :=
      List.append_assoc (quote (some m.1)) (':' :: m.2.write) ['}']
    refine ⟨[.text (some m.1)] ++ .punct ':' :: (ts ++ [.punct '}']), ?_,
      fun next hn done key st us => ?_⟩
    · rw [hw]
      exact (Token.scans_quote m.1).append_punct rfl (hs.append_punct rfl Token.scans_nil)
    · simp only [List.cons_append, List.nil_append, List.append_assoc]
      rw [build_key hn, hb .value _ (.value _), build_last_member, List.reverse_cons]
      rfl
  | cons p ms ih =>
    obtain ⟨ts, hs, hb⟩ := h m List.mem_cons_self
    obtain ⟨us', hsrest, hbrest⟩ := ih fun i hi => h i (List.mem_cons_of_mem m hi)
    have hw : writeMembers ((m :: p :: ms).map fun p => (some p.1, p.2)) ++ ['}'] =
        quote (some m.1) ++ ':' :: (m.2.write ++
          ',' :: (writeMembers ((p :: ms).map fun p => (some p.1, p.2)) ++ ['}'])) := by
      simp only [List.map_cons, writeMembers, List.append_assoc, List.cons_append]
    refine ⟨[.text (some m.1)] ++ .punct ':' :: (ts ++ .punct ',' :: us'), ?_,
      fun next hn done key st us => ?_⟩
    · rw [hw]
      exact (Token.scans_quote m.1).append_punct rfl (hs.append_punct rfl hsrest)
    · simp only [List.cons_append, List.nil_append, List.append_assoc]
      rw [build_key hn, hb .value _ (.value _), build_next_member, hbrest .key .key, List.reverse_cons,
        List.append_assoc, List.singleton_append]
      rfl

theorem spells_list {js : List Json} (h : ∀ j ∈ js, Spells j.write j) :
    Spells (Json.list js).write (.list js) := by
  cases js with
  | nil =>
    refine ⟨[] ++ .punct '[' :: ([] ++ [.punct ']']), ?_, fun next st hn us => ?_⟩
    · exact Token.scans_nil.append_punct rfl (Token.scans_nil.append_punct rfl Token.scans_nil)
    · exact (build_list hn).trans rfl
  | cons j js =>
    obtain ⟨ts, hs, hb⟩ := exists_tokens_of_items h
    refine ⟨[] ++ .punct '[' :: ts, Token.scans_nil.append_punct rfl hs, fun next st hn us => ?_⟩
    rw [List.nil_append, List.cons_append, build_list hn, hb _ _ _ (.firstItem st)]
    rfl

theorem spells_record {ms : List (String × Json)} (h : ∀ m ∈ ms, Spells m.2.write m.2) :
    Spells (record ms).write (record ms) := by
  cases ms with
  | nil =>
    refine ⟨[] ++ .punct '{' :: ([] ++ [.punct '}']), ?_, fun next st hn us => ?_⟩
    · exact Token.scans_nil.append_punct rfl (Token.scans_nil.append_punct rfl Token.scans_nil)
    · exact (build_object hn).trans rfl
  | cons m ms =>
    obtain ⟨ts, hs, hb⟩ := exists_tokens_of_members h
    refine ⟨[] ++ .punct '{' :: ts, Token.scans_nil.append_punct rfl hs, fun next st hn us => ?_⟩
    rw [List.nil_append, List.cons_append, build_object hn, hb _ .firstKey]
    rfl

theorem spells_word {w : List Char} {j : Json} (hne : w ≠ [])
    (hw : w.all Token.isWordChar = true) (h : ofWord? w = some j) : Spells w j :=
  spells_token (Token.scans_word hne (List.all_eq_true.mp hw)) h

theorem spells_ofInt (i : Int) : Spells (ofInt i).write (ofInt i) := by
  have hchars : ∀ c ∈ (Number.ofInt i).write, c = '-' ∨ Number.isDigit c = true := by
    intro c hc
    rw [Number.write_ofInt, List.mem_append] at hc
    rcases hc with hc | hc
    · split at hc <;> simp_all
    · exact .inr (Number.isDigit_of_mem hc)
  have hword : ∀ c ∈ (Number.ofInt i).write, Token.isWordChar c = true := by
    intro c hc
    rcases hchars c hc with rfl | hd
    · rfl
    · exact Token.isWordChar_of_isDigit hd
  have hne : (Number.ofInt i).write ≠ [] := by
    rw [Number.write_ofInt]
    exact List.append_ne_nil_of_right_ne_nil _ Nat.toDigits_ne_nil
  have hletter : ∀ c cs, c ≠ '-' → Number.isDigit c = false → (Number.ofInt i).write ≠ c :: cs := by
    intro c cs hc hd he
    rcases hchars c (he ▸ List.mem_cons_self) with rfl | h
    · exact hc rfl
    · exact absurd (h.symm.trans hd) (by decide)
  refine spells_word hne (List.all_eq_true.mpr hword) ?_
  -- The reader tries the three literals before it reads a number.
  have hnull : (Number.ofInt i).write ≠ "null".toList := by
    simpa using hletter 'n' ['u', 'l', 'l'] (by decide) (by decide)
  have htrue : (Number.ofInt i).write ≠ "true".toList := by
    simpa using hletter 't' ['r', 'u', 'e'] (by decide) (by decide)
  have hfalse : (Number.ofInt i).write ≠ "false".toList := by
    simpa using hletter 'f' ['a', 'l', 's', 'e'] (by decide) (by decide)
  have hw : (ofInt i).write = (Number.ofInt i).write := rfl
  rw [hw, ofWord?, if_neg hnull, if_neg htrue, if_neg hfalse, Number.read?_write_ofInt]
  rfl

theorem Plain.spells {n : Nat} {j : Json} (h : Plain n j) : Spells j.write j := by
  induction h with
  | null =>
    have hw : Json.null.write = ['n', 'u', 'l', 'l'] := (by simp : "null".toList = _)
    rw [hw]
    exact spells_word (by decide) rfl (by simp [ofWord?])
  | bool b =>
    cases b with
    | false =>
      have hw : (Json.bool false).write = ['f', 'a', 'l', 's', 'e'] := (by simp : "false".toList = _)
      rw [hw]
      exact spells_word (by decide) rfl (by simp [ofWord?])
    | true =>
      have hw : (Json.bool true).write = ['t', 'r', 'u', 'e'] := (by simp : "true".toList = _)
      rw [hw]
      exact spells_word (by decide) rfl (by simp [ofWord?])
  | integer => exact spells_ofInt _
  | text s => exact spells_token (Token.scans_quote s) rfl
  | list _ ih => exact spells_list ih
  | record _ ih => exact spells_record ih

theorem Plain.of_record {n : Nat} {members : List (String × Json)} (h : Plain n (Json.record members)) :
    ∃ m, n = m + 1 ∧ ∀ p ∈ members, Plain m p.2 := by
  generalize hj : Json.record members = j at h
  cases h with
  | @record m others hm =>
    have hinj : Function.Injective fun p : String × Json => (some p.1, p.2) := by
      rintro ⟨a, b⟩ ⟨c, d⟩ he
      simpa using he
    rw [List.map_injective_iff.mpr hinj (Json.object.inj hj)]
    exact ⟨m, rfl, hm⟩
  | _ => cases hj

/-- Writing a plain value and reading it gives it back. -/
theorem Plain.read?_write {n : Nat} {j : Json} (h : Plain n j) : read? j.write = some j := by
  obtain ⟨ts, hs, hb⟩ := h.spells
  have hscan := hs [] [] (by simp [Token.Breaks])
  have hbuild := hb .value [] (.value []) []
  rw [List.append_nil] at hbuild
  rw [List.append_nil, List.append_nil, Token.scan_end, List.reverse_reverse] at hscan
  rw [read?, Token.all?, hscan, Option.bind_some, hbuild]
  rfl

theorem toList_render (j : Json) : j.render.toList = j.write := String.toList_ofList

theorem exists_canonicalItems? {n : Nat} {js : List Json} (h : ∀ j ∈ js, ∃ k, canonical? n j = some k) :
    ∃ ks, canonicalItems? n js = some ks := by
  induction js with
  | nil => exact ⟨[], rfl⟩
  | cons j js ih =>
    obtain ⟨k, hk⟩ := h j List.mem_cons_self
    obtain ⟨ks, hks⟩ := ih fun i hi => h i (List.mem_cons_of_mem j hi)
    exact ⟨k :: ks, by simp [canonicalItems?, hk, hks]⟩

theorem exists_canonicalMembers? {n : Nat} {ms : List (String × Json)}
    (h : ∀ m ∈ ms, ∃ k, canonical? n m.2 = some k) :
    ∃ ks, canonicalMembers? n (ms.map fun m => (some m.1, m.2)) = some ks := by
  induction ms with
  | nil => exact ⟨[], rfl⟩
  | cons m ms ih =>
    obtain ⟨k, hk⟩ := h m List.mem_cons_self
    obtain ⟨ks, hks⟩ := ih fun i hi => h i (List.mem_cons_of_mem m hi)
    exact ⟨(m.1, k) :: ks, by simp [canonicalMembers?, hk, hks]⟩

theorem Plain.exists_canonical? {n : Nat} {j : Json} (h : Plain n j) :
    ∃ k, canonical? n j = some k := by
  induction h with
  | null => exact ⟨_, rfl⟩
  | bool b => exact ⟨_, rfl⟩
  | @integer n i hl hu =>
    refine ⟨ofInt i, ?_⟩
    rw [ofInt, canonical?, Number.canonical?, Number.int?_ofInt]
    simp only [hl, hu, and_self, if_true, Option.map_some]
  | text s => exact ⟨_, rfl⟩
  | list _ ih =>
    obtain ⟨ks, hks⟩ := exists_canonicalItems? ih
    exact ⟨.list ks, by rw [canonical?, hks, Option.map_some]⟩
  | record _ ih =>
    obtain ⟨ks, hks⟩ := exists_canonicalMembers? ih
    exact ⟨ofSorted ks, by rw [Json.record, canonical?, hks, Option.map_some]⟩

end Json

end FinalityRelay
