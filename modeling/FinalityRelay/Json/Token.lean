import FinalityRelay.Bytes.Hex
import FinalityRelay.Json.Basic

/-! The tokens of a JSON text: punctuation, quoted texts, and words, which are the longest runs of
characters that are none of these and no blank. -/

namespace FinalityRelay

inductive Token
  | punct (c : Char)
  | text (s : Option String)
  | word (w : List Char)
deriving DecidableEq

namespace Token

def isBlank (c : Char) : Bool := c = ' ' || c = '\t' || c = '\r' || c = '\n'

def isPunct (c : Char) : Bool :=
  c = '{' || c = '}' || c = '[' || c = ']' || c = ':' || c = ','

def isWordChar (c : Char) : Bool := !isBlank c && !isPunct c && c != '"'

def escaped? : Char → Option Nat
  | '"' => some 34
  | '\\' => some 92
  | '/' => some 47
  | 'b' => some 8
  | 'f' => some 12
  | 'n' => some 10
  | 'r' => some 13
  | 't' => some 9
  | _ => none

def unit? (a b c d : Char) : Option Nat := do
  let a ← Hex.digit? a
  let b ← Hex.digit? b
  let c ← Hex.digit? c
  let d ← Hex.digit? d
  return ((16 * a + b) * 16 + c) * 16 + d

/-- The characters of a list of code points and 16-bit units. A high surrogate joins the low one
that follows it; any other surrogate spoils the text. -/
def assemble : List Nat → Option (List Char)
  | [] => some []
  | u :: r =>
    if 0xD800 ≤ u ∧ u ≤ 0xDBFF then
      match r with
      | v :: r =>
        if 0xDC00 ≤ v ∧ v ≤ 0xDFFF then
          (assemble r).map (Char.ofNat (0x10000 + 1024 * (u - 0xD800) + (v - 0xDC00)) :: ·)
        else none
      | [] => none
    else if 0xDC00 ≤ u ∧ u ≤ 0xDFFF then none
    else (assemble r).map (Char.ofNat u :: ·)

/-- Where a scan stands: between tokens, or inside a word or a text whose part so far it holds,
last element first. -/
inductive Place
  | between
  | word (w : List Char)
  | text (units : List Nat)

/-- Takes in one character between tokens. -/
def start (c : Char) (out : List Token) : Place × List Token :=
  if c = '"' then (.text [], out)
  else if isPunct c then (.between, .punct c :: out)
  else if isBlank c then (.between, out)
  else (.word [c], out)

/-- Splits a text into tokens, adding them in front of `out`, last one first. -/
def scan : Place → List Token → List Char → Option (List Token)
  | .between, out, [] => some out.reverse
  | .word w, out, [] => some (.word w.reverse :: out).reverse
  | .text _, _, [] => none
  | .between, out, c :: r => let (p, out) := start c out; scan p out r
  | .word w, out, c :: r =>
    if isWordChar c then scan (.word (c :: w)) out r
    else let (p, out) := start c (.word w.reverse :: out); scan p out r
  | .text us, out, '"' :: r =>
    scan .between (.text ((assemble us.reverse).map String.ofList) :: out) r
  | .text us, out, '\\' :: 'u' :: a :: b :: c :: d :: r =>
    match unit? a b c d with
    | some u => scan (.text (u :: us)) out r
    | none => none
  | .text us, out, '\\' :: c :: r =>
    match escaped? c with
    | some u => scan (.text (u :: us)) out r
    | none => none
  | .text us, out, c :: r => if c.toNat < 32 then none else scan (.text (c.toNat :: us)) out r

def all? (cs : List Char) : Option (List Token) := scan .between [] cs

end Token

end FinalityRelay
