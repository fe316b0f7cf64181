import FinalityRelay.Proofs.Lines
import FinalityRelay.Proofs.Spelling

/-! Which texts are names, and which of them are the same one. A text is looked at byte by byte; its first
thirteen symbols fill the number of the name, so that only dots at its end are lost. -/

namespace FinalityRelay

namespace Name

/-! ### Symbols -/

/-- The bytes that names are made of. -/
def alphabet : List UInt8 := Text.bytes ".12345abcdefghijklmnopqrstuvwxyz".toList

/-- Those of them that may stand at the thirteenth place. -/
def lastAlphabet : List UInt8 := Text.bytes ".12345abcdefghij".toList

theorem symbolChar_symbol? {c : Char} {n : Nat} (h : symbol? c = some n) : symbolChar n = c ∧ n < 32 := by
  have hletter : ∀ k < 26, symbolChar (k + 6) = Char.ofNat (k + 97) := by decide
  have hdigit : ∀ k < 5, symbolChar (k + 1) = Char.ofNat (k + 49) := by decide
  have hcode := Char.ofNat_toNat c
  unfold symbol? at h
  split_ifs at h with ha h1 hdot
  · obtain ⟨hlo, hhi⟩ : 97 ≤ c.toNat ∧ c.toNat ≤ 122 := ha
    obtain ⟨k, hk⟩ := Nat.exists_eq_add_of_le hlo
    have hn : n = k + 6 := by
      rw [← Option.some.inj h]
      omega
    rw [hn, hletter k (by omega), Nat.add_comm, ← hk, hcode]
    exact ⟨rfl, by omega⟩
  · obtain ⟨hlo, hhi⟩ : 49 ≤ c.toNat ∧ c.toNat ≤ 53 := h1
    obtain ⟨k, hk⟩ := Nat.exists_eq_add_of_le hlo
    have hn : n = k + 1 := by
      rw [← Option.some.inj h]
      omega
    rw [hn, hdigit k (by omega), Nat.add_comm, ← hk, hcode]
    exact ⟨rfl, by omega⟩
  · rw [← Option.some.inj h, hdot]
    exact ⟨rfl, by decide⟩

/-- The only byte of the character of a symbol. -/
def symbolByte (n : Nat) : UInt8 := UInt8.ofNat (symbolChar n).toNat

theorem utf8EncodeChar_symbolChar {n : Nat} (h : n < 32) :
    String.utf8EncodeChar (symbolChar n) = [symbolByte n] := by
  have hall : ∀ n < 32, String.utf8EncodeChar (symbolChar n) = [symbolByte n] := by decide
  exact hall n h

theorem bytes_map_symbolChar {ns : List Nat} (h : ∀ n ∈ ns, n < 32) :
    Text.bytes (ns.map symbolChar) = ns.map symbolByte := by
  induction ns with
  | nil => rfl
  | cons n ns ih =>
    obtain ⟨hn, hns⟩ := List.forall_mem_cons.mp h
    rw [List.map_cons, List.map_cons, ← ih hns, Text.bytes, List.flatMap_cons, utf8EncodeChar_symbolChar hn]
    rfl

theorem symbolByte_mem_alphabet {n : Nat} (h : n < 32) : symbolByte n ∈ alphabet := by
  have hall : ∀ n < 32, symbolByte n ∈ alphabet := by decide +kernel
  exact hall n h

theorem symbolByte_mem_lastAlphabet_iff {n : Nat} (h : n < 32) : symbolByte n ∈ lastAlphabet ↔ n ≤ 15 := by
  have hall : ∀ n < 32, (symbolByte n ∈ lastAlphabet ↔ n ≤ 15) := by decide +kernel
  exact hall n h

/-- No byte of a character that is no symbol is in the alphabet. -/
theorem notMem_alphabet_of_symbol?_eq_none {c : Char} (h : symbol? c = none) :
    ∀ b ∈ String.utf8EncodeChar c, b ∉ alphabet := by
  intro b hb
  rcases Text.utf8EncodeChar_eq_or c with ⟨he, hlt⟩ | htop
  · have hall : ∀ k < 128, UInt8.ofNat k ∈ alphabet → (symbol? (Char.ofNat k)).isSome := by
      decide +kernel
    intro hm
    rw [he, List.mem_singleton] at hb
    have hs := hall c.toNat hlt (hb ▸ hm)
    rw [Char.ofNat_toNat, h] at hs
    exact absurd hs (by decide)
  · have hall : ∀ b ∈ alphabet, b.toNat < 128 := by decide +kernel
    exact fun hm => absurd (htop b hb) (Nat.not_le.mpr (hall b hm))

/-- A text whose bytes are all in the alphabet is one of symbols. -/
theorem mapM_symbol?_eq_none_iff {cs : List Char} :
    cs.mapM symbol? = none ↔ ∃ b ∈ Text.bytes cs, b ∉ alphabet := by
  induction cs with
  | nil => simp [Text.bytes]
  | cons c cs ih =>
    have hbytes : Text.bytes (c :: cs) = String.utf8EncodeChar c ++ Text.bytes cs := rfl
    rw [hbytes, List.mapM_cons]
    cases hc : symbol? c with
    | none =>
      refine iff_of_true rfl ?_
      obtain ⟨b, hb⟩ := List.exists_mem_of_ne_nil _ (String.utf8EncodeChar_ne_nil (c := c))
      exact ⟨b, List.mem_append_left _ hb, notMem_alphabet_of_symbol?_eq_none hc b hb⟩
    | some n =>
      obtain ⟨rfl, hn⟩ := symbolChar_symbol? hc
      have hhead : ∀ b ∈ String.utf8EncodeChar (symbolChar n), b ∈ alphabet := by
        rw [utf8EncodeChar_symbolChar hn]
        exact List.forall_mem_singleton.mpr (symbolByte_mem_alphabet hn)
      have hrest : (∃ b ∈ String.utf8EncodeChar (symbolChar n) ++ Text.bytes cs, b ∉ alphabet) ↔
          ∃ b ∈ Text.bytes cs, b ∉ alphabet := by
        constructor
        · rintro ⟨b, hb, hout⟩
          rcases List.mem_append.mp hb with hb | hb
          · exact absurd (hhead b hb) hout
          · exact ⟨b, hb, hout⟩
        · rintro ⟨b, hb, hout⟩
          exact ⟨b, List.mem_append_right _ hb, hout⟩
      rw [hrest, ← ih]
      cases cs.mapM symbol? <;> simp

theorem eq_map_symbolChar {cs : List Char} {ns : List Nat} (h : cs.mapM symbol? = some ns) :
    cs = ns.map symbolChar ∧ ∀ n ∈ ns, n < 32 := by
  induction cs generalizing ns with
  | nil =>
    rw [← Option.some.inj h]
    exact ⟨rfl, nofun⟩
  | cons c cs ih =>
    rw [List.mapM_cons] at h
    obtain ⟨n, hn, hrest⟩ := Option.bind_eq_some_iff.mp h
    obtain ⟨ms, hms, he⟩ := Option.bind_eq_some_iff.mp hrest
    obtain ⟨hc, hlt⟩ := symbolChar_symbol? hn
    obtain ⟨hcs, hall⟩ := ih hms
    rw [← Option.some.inj he]
    exact ⟨by rw [List.map_cons, hc, ← hcs], List.forall_mem_cons.mpr ⟨hlt, hall⟩⟩

theorem utf8ByteSize_eq (s : String) : s.utf8ByteSize = (Text.bytes s.toList).length := by
  have hlen : ∀ cs : List Char, String.utf8Len cs = (Text.bytes cs).length := by
    intro cs
    induction cs with
    | nil => rfl
    | cons c cs ih =>
      have hbytes : Text.bytes (c :: cs) = String.utf8EncodeChar c ++ Text.bytes cs := rfl
      rw [String.utf8Len, ih, hbytes, List.length_append, String.length_utf8EncodeChar, Nat.add_comm]
  rw [← hlen, ← String.utf8ByteSize_ofList, String.ofList_toList]

/-! ### Numbers -/

/-- The number whose digits in base 32 are the given ones, from the most significant one on. -/
def ofDigits (d : Nat → Nat) (k : Nat) : Nat := (List.range k).foldl (fun v i => 32 * v + d i) 0

theorem ofDigits_succ (d : Nat → Nat) (k : Nat) : ofDigits d (k + 1) = 32 * ofDigits d k + d k := by
  rw [ofDigits, List.range_succ, List.foldl_append]
  rfl

theorem ofDigits_lt {d : Nat → Nat} (hd : ∀ i, d i < 32) (k : Nat) : ofDigits d k < 32 ^ k := by
  induction k with
  | zero => exact Nat.one_pos
  | succ k ih =>
    have hk := hd k
    rw [ofDigits_succ, Nat.pow_succ]
    omega

theorem ofDigits_shiftRight {d : Nat → Nat} (hd : ∀ i, d i < 32) {j k : Nat} (h : j < k) :
    (ofDigits d k >>> (5 * (k - 1 - j))) % 32 = d j := by
  induction k with
  | zero => omega
  | succ k ih =>
    have hk := hd k
    rw [ofDigits_succ]
    rcases Nat.lt_succ_iff_lt_or_eq.mp h with hlt | rfl
    · -- The last digit is shifted out.
      have hshift : 5 * (k + 1 - 1 - j) = 5 + 5 * (k - 1 - j) := by omega
      have hlast : (32 * ofDigits d k + d k) >>> 5 = ofDigits d k := by
        rw [Nat.shiftRight_eq_div_pow]
        omega
      rw [hshift, Nat.shiftRight_add, hlast, ih hlt]
    · rw [Nat.add_sub_cancel, Nat.sub_self, Nat.mul_zero, Nat.shiftRight_zero]
      omega

/-- Symbols that fit into a name. -/
structure Fits (ns : List Nat) : Prop where
  length_le : ns.length ≤ 13
  lt : ∀ n ∈ ns, n < 32
  last_le : ns.getD 12 0 ≤ 15

namespace Fits

variable {ns : List Nat}

theorem getD_lt (h : Fits ns) (i : Nat) : ns.getD i 0 < 32 := by
  rw [List.getD_eq_getElem?_getD]
  cases hi : ns[i]? with
  | none => decide
  | some n => exact h.lt n (List.mem_of_getElem? hi)

theorem pack_lt (h : Fits ns) : pack ns < 2 ^ 64 := by
  have hupper := ofDigits_lt h.getD_lt 12
  have hlast := h.last_le
  rw [ofDigits] at hupper
  rw [pack]
  omega

/-- All symbols come back, and dots for those that are missing. -/
theorem symbols_pack (h : Fits ns) : symbols (pack ns) = ns ++ List.replicate (13 - ns.length) 0 := by
  have hlast := h.last_le
  have hpack : pack ns = 16 * ofDigits (fun i => ns.getD i 0) 12 + ns.getD 12 0 := rfl
  have hupper : pack ns / 16 = ofDigits (fun i => ns.getD i 0) 12 := by omega
  have hlower : pack ns % 16 = ns.getD 12 0 := by omega
  have hdigits : symbols (pack ns) = (List.range 13).map fun i => ns.getD i 0 := by
    have hdigit : ∀ i ∈ List.range 12,
        (ofDigits (fun i => ns.getD i 0) 12 >>> (5 * (11 - i))) % 32 = ns.getD i 0 :=
      fun i hi => ofDigits_shiftRight h.getD_lt (List.mem_range.mp hi)
    rw [symbols, hupper, hlower, List.map_congr_left hdigit]
    rfl
  have hlength := h.length_le
  rw [hdigits]
  refine List.ext_getElem (by simp; omega) fun i hi _ => ?_
  simp only [List.getElem_map, List.getElem_range, List.getElem_append, List.getElem_replicate,
    List.getD_eq_getElem?_getD]
  split
  · simp [*]
  · rw [List.getElem?_eq_none (by omega)]
    rfl

end Fits

/-! ### Texts -/

theorem trimDots_append_dots (cs : List Char) (k : Nat) :
    trimDots (cs ++ List.replicate k '.') = trimDots cs := by
  rw [trimDots, List.reverse_append, List.reverse_replicate,
    List.dropWhile_append_of_pos fun c hc => by simp [List.eq_of_mem_replicate hc]]
  rfl

theorem text_pack {ns : List Nat} (h : Fits ns) :
    (text ⟨UInt64.ofNat (pack ns)⟩).toList = trimDots (ns.map symbolChar) := by
  have hdots : (List.replicate (13 - ns.length) 0).map symbolChar =
      List.replicate (13 - ns.length) '.' := List.map_replicate
  rw [text, String.toList_ofList, UInt64.toNat_ofNat_of_lt' h.pack_lt, h.symbols_pack, List.map_append,
    hdots, trimDots_append_dots]

theorem text_injective {m n : Name} (h : m.text = n.text) : m = n := by
  have hm := parse_text m
  rw [h, parse_text n] at hm
  exact (Except.ok.inj hm).symm

/-- A text of at most thirteen bytes of the alphabet, the thirteenth of which is one of its first half. -/
structure IsSpelling (s : String) : Prop where
  size_le : (Text.bytes s.toList).length ≤ 13
  bytes : ∀ b ∈ Text.bytes s.toList, b ∈ alphabet
  last : ∀ b ∈ (Text.bytes s.toList)[12]?, b ∈ lastAlphabet

/-- Why a text is no name. -/
def refusal? (s : String) : Option NameError :=
  let bytes := Text.bytes s.toList
  if 13 < bytes.length then some (.tooLong s)
  else if ∃ b ∈ bytes, b ∉ alphabet then some (.invalidCharacter s)
  else if ∃ b ∈ bytes[12]?, b ∉ lastAlphabet then some (.invalidLastCharacter s)
  else none

/-- A text without the dots at its end. -/
def undotted (s : String) : List Char := s.toList.rdropWhile (· == '.')

theorem refusal?_eq_none_iff (s : String) : refusal? s = none ↔ IsSpelling s := by
  rw [refusal?]
  split_ifs with hsize hbytes hlast
  · exact iff_of_false nofun fun h => Nat.not_le.mpr hsize h.size_le
  · obtain ⟨b, hb, hout⟩ := hbytes
    exact iff_of_false nofun fun h => hout (h.bytes b hb)
  · obtain ⟨b, hb, hout⟩ := hlast
    exact iff_of_false nofun fun h => hout (h.last b hb)
  · push Not at hsize hbytes hlast
    exact iff_of_true rfl ⟨hsize, hbytes, hlast⟩

theorem exists_symbols {s : String} (h : ∀ b ∈ Text.bytes s.toList, b ∈ alphabet) :
    ∃ ns, s.toList.mapM symbol? = some ns := by
  cases hns : s.toList.mapM symbol? with
  | none =>
    obtain ⟨b, hb, hout⟩ := mapM_symbol?_eq_none_iff.mp hns
    exact absurd (h b hb) hout
  | some ns => exact ⟨ns, rfl⟩

theorem mem_lastAlphabet_iff {s : String} {ns : List Nat} (h : s.toList.mapM symbol? = some ns) :
    (∀ b ∈ (Text.bytes s.toList)[12]?, b ∈ lastAlphabet) ↔ ns.getD 12 0 ≤ 15 := by
  obtain ⟨hs, hlt⟩ := eq_map_symbolChar h
  rw [hs, bytes_map_symbolChar hlt, List.getElem?_map, List.getD_eq_getElem?_getD]
  cases hn : ns[12]? with
  | none => simp
  | some n => simpa using symbolByte_mem_lastAlphabet_iff (hlt n (List.mem_of_getElem? hn))

theorem IsSpelling.exists_parse {s : String} (h : IsSpelling s) :
    ∃ n, parse s = .ok n ∧ n.text.toList = undotted s := by
  obtain ⟨ns, hns⟩ := exists_symbols h.bytes
  obtain ⟨hs, hlt⟩ := eq_map_symbolChar hns
  have hlast := (mem_lastAlphabet_iff hns).mp h.last
  have hsize := h.size_le
  have hfits : Fits ns := by
    refine ⟨?_, hlt, hlast⟩
    rwa [hs, bytes_map_symbolChar hlt, List.length_map] at hsize
  refine ⟨⟨UInt64.ofNat (pack ns)⟩, ?_, ?_⟩
  · rw [parse, if_neg (Nat.not_lt.mpr (utf8ByteSize_eq s ▸ hsize)), hns]
    exact if_neg (Nat.not_lt.mpr hlast)
  · rw [text_pack hfits, ← hs]
    rfl

theorem parse_of_refusal {s : String} {e : NameError} (h : refusal? s = some e) :
    parse s = .error e := by
  rw [refusal?] at h
  rw [parse, utf8ByteSize_eq]
  split_ifs at h with hsize hbytes hlast
  · rw [if_pos hsize, Option.some.inj h]
  · rw [if_neg hsize, mapM_symbol?_eq_none_iff.mpr hbytes, ← Option.some.inj h]
  · push Not at hbytes
    obtain ⟨ns, hns⟩ := exists_symbols hbytes
    obtain ⟨b, hb, hout⟩ := hlast
    have htop : 15 < ns.getD 12 0 := by
      by_contra hle
      exact hout ((mem_lastAlphabet_iff hns).mpr (Nat.not_lt.mp hle) b hb)
    rw [if_neg hsize, hns, ← Option.some.inj h]
    exact if_pos htop

theorem parse_eq_error_iff (s : String) (e : NameError) : parse s = .error e ↔ refusal? s = some e := by
  refine ⟨fun h => ?_, parse_of_refusal⟩
  cases hr : refusal? s with
  | none =>
    obtain ⟨n, hn, -⟩ := ((refusal?_eq_none_iff s).mp hr).exists_parse
    exact nomatch hn.symm.trans h
  | some e' =>
    have he := (parse_of_refusal hr).symm.trans h
    rw [Except.error.inj he]

theorem parse_eq_ok_iff (s : String) (n : Name) :
    parse s = .ok n ↔ IsSpelling s ∧ n.text.toList = undotted s := by
  constructor
  · intro h
    have hs : IsSpelling s := by
      rw [← refusal?_eq_none_iff, Option.eq_none_iff_forall_ne_some]
      intro e he
      exact nomatch (parse_of_refusal he).symm.trans h
    obtain ⟨m, hm, ht⟩ := hs.exists_parse
    rw [← Except.ok.inj (hm.symm.trans h)]
    exact ⟨hs, ht⟩
  · rintro ⟨hs, ht⟩
    obtain ⟨m, hm, ht'⟩ := hs.exists_parse
    rw [hm, text_injective (String.toList_inj.mp (ht'.trans ht.symm))]

/-- Every number has a text that is read as it, and a text is read if and only if it is a spelling, as the
name that is written like it but for dots at its end. So two spellings are of one name if and only if they
differ in such dots alone. All other texts are refused, for the first of three reasons. -/
theorem spelled_up_to_dots :
    (∀ v : UInt64, parse (text ⟨v⟩) = .ok ⟨v⟩) ∧
    ∀ s : String,
      ((∃ n, parse s = .ok n) ↔ IsSpelling s) ∧
      (∀ n, parse s = .ok n ↔ IsSpelling s ∧ n.text.toList = undotted s) ∧
      (∀ s', (∃ n, parse s = .ok n ∧ parse s' = .ok n) ↔
        IsSpelling s ∧ IsSpelling s' ∧ undotted s = undotted s') ∧
      ∀ e, parse s = .error e ↔ refusal? s = some e := by
  refine ⟨fun v => parse_text ⟨v⟩, fun s => ⟨?_, parse_eq_ok_iff s, fun s' => ?_, parse_eq_error_iff s⟩⟩
  · refine ⟨fun ⟨n, hn⟩ => ((parse_eq_ok_iff s n).mp hn).1, fun h => ?_⟩
    obtain ⟨n, hn, -⟩ := h.exists_parse
    exact ⟨n, hn⟩
  · simp only [parse_eq_ok_iff]
    constructor
    · rintro ⟨n, ⟨hs, ht⟩, hs', ht'⟩
      exact ⟨hs, hs', ht.symm.trans ht'⟩
    · rintro ⟨hs, hs', he⟩
      obtain ⟨n, -, ht⟩ := hs.exists_parse
      exact ⟨n, ⟨hs, ht⟩, hs', ht.trans he⟩

end Name

end FinalityRelay
