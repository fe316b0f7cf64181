/-! Account, action and permission names. A name packs up to thirteen symbols into 64 bits,
twelve of five bits from the most significant end and a last one of four bits. -/

namespace FinalityRelay

structure Name where
  value : UInt64
deriving DecidableEq

inductive NameError
  | tooLong (text : String)
  | invalidCharacter (text : String)
  | invalidLastCharacter (text : String)
deriving DecidableEq

def NameError.message : NameError → String
  | .tooLong s => "name `" ++ s ++ "` is longer than 13 characters"
  | .invalidCharacter s => "name `" ++ s ++ "` contains an invalid character"
  | .invalidLastCharacter s => "the thirteenth character of `" ++ s ++ "` must be in `.1-5a-j`"

namespace Name

instance : Inhabited Name := ⟨⟨0⟩⟩

def symbol? (c : Char) : Option Nat :=
  if 'a' ≤ c ∧ c ≤ 'z' then some (c.toNat - 91)
  else if '1' ≤ c ∧ c ≤ '5' then some (c.toNat - 48)
  else if c = '.' then some 0
  else none

def symbolChar (n : Nat) : Char :=
  if n = 0 then '.' else if n ≤ 5 then Char.ofNat (n + 48) else Char.ofNat (n + 91)

/-- Thirteen symbols, missing ones read as dots, in one number. -/
def pack (symbols : List Nat) : Nat :=
  16 * (List.range 12).foldl (fun v i => 32 * v + symbols.getD i 0) 0 + symbols.getD 12 0

def symbols (v : Nat) : List Nat :=
  (List.range 12).map (fun i => ((v / 16) >>> (5 * (11 - i))) % 32) ++ [v % 16]

def parse (s : String) : Except NameError Name :=
  if 13 < s.utf8ByteSize then .error (.tooLong s)
  else match s.toList.mapM symbol? with
    | none => .error (.invalidCharacter s)
    | some syms =>
      if 15 < syms.getD 12 0 then .error (.invalidLastCharacter s)
      else .ok ⟨UInt64.ofNat (pack syms)⟩

def trimDots (cs : List Char) : List Char :=
  (cs.reverse.dropWhile (· = '.')).reverse

def text (n : Name) : String :=
  String.ofList (trimDots ((symbols n.value.toNat).map symbolChar))

end Name

end FinalityRelay
