import FinalityRelay.Digest
import FinalityRelay.Name
import Mathlib

/-! What bytes and names are spelled as is read as them. -/

namespace FinalityRelay

namespace Hex

theorem digit?_digitChar {n : Nat} (h : n < 16) : digit? (Nat.digitChar n) = some n := by
  have hall : ∀ n < 16, digit? (Nat.digitChar n) = some n := by decide
  exact hall n h

theorem digitChar_ne_x {n : Nat} (h : n < 16) : Nat.digitChar n ≠ 'x' := by
  have hall : ∀ n < 16, Nat.digitChar n ≠ 'x' := by decide
  exact hall n h

theorem read?_write (bs : List UInt8) : read? (write bs) = some bs := by
  induction bs with
  | nil => rfl
  | cons b bs ih =>
    have hb := b.toNat_lt
    have hn : 16 * (b.toNat / 16) + b.toNat % 16 = b.toNat := by omega
    have hw : write (b :: bs) =
        Nat.digitChar (b.toNat / 16) :: Nat.digitChar (b.toNat % 16) :: write bs := rfl
    rw [hw, read?, digit?_digitChar (by omega), digit?_digitChar (by omega), ih]
    simp only [Option.bind_eq_bind, Option.bind_some, Option.pure_def, hn, UInt8.ofNat_toNat]

/-- No digit is taken for the mark. -/
theorem unmarked_write (bs : List UInt8) : unmarked (write bs) = write bs := by
  cases bs with
  | nil => rfl
  | cons b bs =>
    have hx : Nat.digitChar (b.toNat % 16) ≠ 'x' := digitChar_ne_x (by omega)
    have hw : write (b :: bs) =
        Nat.digitChar (b.toNat / 16) :: Nat.digitChar (b.toNat % 16) :: write bs := rfl
    rw [hw, unmarked]
    intro r he
    exact hx (List.cons.inj (List.cons.inj he).2).1

end Hex

theorem Digest.ofText?_text (d : Digest) : ofText? d.text = some d := by
  have ht : d.text.toList = '0' :: 'x' :: Hex.write d.bytes := by simp [text, hex]
  rw [ofText?, ht, Hex.unmarked, Hex.read?_write, Option.bind_some, ofBytes?, dif_pos d.length_bytes]

namespace Name

theorem symbol?_symbolChar {n : Nat} (h : n < 32) : symbol? (symbolChar n) = some n := by
  have hall : ∀ n < 32, symbol? (symbolChar n) = some n := by decide
  exact hall n h

theorem utf8Size_symbolChar {n : Nat} (h : n < 32) : (symbolChar n).utf8Size = 1 := by
  have hall : ∀ n < 32, (symbolChar n).utf8Size = 1 := by decide
  exact hall n h

theorem mapM_symbol? {ns : List Nat} (h : ∀ n ∈ ns, n < 32) :
    (ns.map symbolChar).mapM symbol? = some ns := by
  induction ns with
  | nil => rfl
  | cons n ns ih =>
    simp [symbol?_symbolChar (h n List.mem_cons_self), ih fun m hm => h m (List.mem_cons_of_mem n hm)]

theorem length_symbols (v : Nat) : (symbols v).length = 13 := rfl

theorem symbols_lt (v : Nat) : ∀ n ∈ symbols v, n < 32 := by
  intro n hn
  simp only [symbols, List.mem_append, List.mem_map, List.mem_singleton] at hn
  rcases hn with ⟨i, -, rfl⟩ | rfl <;> omega

/-- The upper digits of a number in base 32, added up from the most significant one. -/
theorem foldl_digits (w m k : Nat) (hk : k ≤ m) :
    (List.range k).foldl (fun v i => 32 * v + (w >>> (5 * (m - 1 - i))) % 32) 0 =
      (w >>> (5 * (m - k))) % 32 ^ k := by
  induction k with
  | zero => simp [Nat.mod_one]
  | succ k ih =>
    rw [List.range_succ, List.foldl_append, ih (by omega)]
    simp only [List.foldl_cons, List.foldl_nil]
    have hshift : 5 * (m - k) = 5 * (m - (k + 1)) + 5 := by omega
    have hlast : m - 1 - k = m - (k + 1) := by omega
    have hpow : 32 ^ (k + 1) = 32 * 32 ^ k := Nat.pow_succ'
    rw [hlast, hshift, Nat.shiftRight_add, hpow, Nat.mod_mul, Nat.shiftRight_eq_div_pow _ 5]
    exact Nat.add_comm _ _

theorem pack_symbols {v : Nat} (h : v < 2 ^ 64) : pack (symbols v) = v := by
  have hget : ∀ i < 12, (symbols v).getD i 0 = ((v / 16) >>> (5 * (12 - 1 - i))) % 32 := by
    intro i hi
    simp [symbols, List.getElem?_append, hi]
  have hlast : (symbols v).getD 12 0 = v % 16 := rfl
  have hupper := foldl_digits (v / 16) 12 12 (by omega)
  rw [pack, List.foldl_ext _ _ _ fun u i hi => by rw [hget i (List.mem_range.mp hi)], hupper, hlast]
  norm_num
  omega

/-- What is cut off are dots only. -/
theorem exists_trimDots_append (cs : List Char) :
    ∃ k, trimDots cs ++ List.replicate k '.' = cs := by
  refine ⟨(cs.reverse.takeWhile (· = '.')).length, ?_⟩
  have hdots : cs.reverse.takeWhile (· = '.') =
      List.replicate (cs.reverse.takeWhile (· = '.')).length '.' :=
    List.eq_replicate_of_mem fun c hc => by simpa using List.mem_takeWhile_imp hc
  rw [trimDots, ← List.reverse_inj, List.reverse_append, List.reverse_replicate, ← hdots,
    List.reverse_reverse, List.takeWhile_append_dropWhile]

theorem getD_append_zeros (ns : List Nat) (k i : Nat) :
    (ns ++ List.replicate k 0).getD i 0 = ns.getD i 0 := by
  simp only [List.getD_eq_getElem?_getD, List.getElem?_append, List.getElem?_replicate]
  split
  · rfl
  · rename_i hi
    rw [List.getElem?_eq_none (by omega)]
    split <;> rfl

theorem pack_append_zeros (ns : List Nat) (k : Nat) : pack (ns ++ List.replicate k 0) = pack ns := by
  simp only [pack, getD_append_zeros]

theorem utf8Len_eq_length {cs : List Char} (h : ∀ c ∈ cs, c.utf8Size = 1) :
    String.utf8Len cs = cs.length := by
  induction cs with
  | nil => rfl
  | cons c cs ih =>
    rw [String.utf8Len, h c List.mem_cons_self, ih fun d hd => h d (List.mem_cons_of_mem c hd),
      List.length_cons]

theorem mapM_symbol?_dots (k : Nat) :
    (List.replicate k '.').mapM symbol? = some (List.replicate k 0) := by
  have hlt : ∀ n ∈ List.replicate k 0, n < 32 := fun n hn => by simp [List.eq_of_mem_replicate hn]
  have hr := mapM_symbol? hlt
  rwa [List.map_replicate] at hr

theorem parse_text (n : Name) : parse n.text = .ok n := by
  have hv : n.value.toNat < 2 ^ 64 := n.value.toNat_lt
  obtain ⟨k, hk⟩ := exists_trimDots_append ((symbols n.value.toNat).map symbolChar)
  have hlist : n.text.toList = trimDots ((symbols n.value.toNat).map symbolChar) :=
    String.toList_ofList
  have hsize : n.text.utf8ByteSize ≤ 13 := by
    have hlen := congrArg List.length hk
    have hones : ∀ c ∈ n.text.toList, c.utf8Size = 1 := by
      intro c hc
      have hm : c ∈ (symbols n.value.toNat).map symbolChar := by
        rw [← hk]
        exact List.mem_append_left _ (hlist ▸ hc)
      obtain ⟨m, hmem, rfl⟩ := List.mem_map.mp hm
      exact utf8Size_symbolChar (symbols_lt _ m hmem)
    rw [← String.ofList_toList (s := n.text), String.utf8ByteSize_ofList, utf8Len_eq_length hones, hlist]
    rw [List.length_append, List.length_map, length_symbols] at hlen
    omega
  have hsyms := mapM_symbol? (symbols_lt n.value.toNat)
  rw [← hk, List.mapM_append, mapM_symbol?_dots] at hsyms
  obtain ⟨ns, hns, hdots⟩ := Option.bind_eq_some_iff.mp hsyms
  have happend : ns ++ List.replicate k 0 = symbols n.value.toNat := Option.some.inj hdots
  have hlast : ns.getD 12 0 = n.value.toNat % 16 := by
    rw [← getD_append_zeros ns k, happend]
    rfl
  have hpack : pack ns = n.value.toNat := by
    rw [← pack_append_zeros ns k, happend, pack_symbols hv]
  rw [parse, if_neg (by omega), hlist, hns]
  simp only [hlast, hpack, UInt64.ofNat_toNat]
  rw [if_neg (by omega)]

end Name

end FinalityRelay
