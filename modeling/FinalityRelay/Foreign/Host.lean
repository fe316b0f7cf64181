import FinalityRelay.Foreign.Domain
import FinalityRelay.Foreign.Percent

/-! Hosts of addresses: domain names, and numbers of the fourth and sixth version of the Internet
protocol in their canonical forms. -/

namespace FinalityRelay

inductive UrlError
  | relativeWithoutBase
  | emptyHost
  | invalidPort
  | invalidIpv4
  | invalidIpv6
  | invalidDomainCharacter
  | invalidDomainName
deriving DecidableEq

def UrlError.message : UrlError → String
  | .relativeWithoutBase => "relative URL without a base"
  | .emptyHost => "empty host"
  | .invalidPort => "invalid port number"
  | .invalidIpv4 => "invalid IPv4 address"
  | .invalidIpv6 => "invalid IPv6 address"
  | .invalidDomainCharacter => "invalid domain character"
  | .invalidDomainName => "invalid international domain name"

namespace Host

/-- The part of a number in base 8, 10 or 16; an empty part is zero. -/
def digits? (base : Nat) (cs : List Char) : Option Nat :=
  cs.foldlM (fun n c => do
    let d ← Hex.digit? c
    if d < base then return base * n + d else none) 0

/-- A part of an address of the fourth version, octal after a zero and hexadecimal after `0x`. -/
def part? : List Char → Option Nat
  | [] => none
  | '0' :: 'x' :: r => digits? 16 r
  | '0' :: 'X' :: r => digits? 16 r
  | '0' :: c :: r => digits? 8 (c :: r)
  | cs => digits? 10 cs

def parts (cs : List Char) : List (List Char) :=
  let ps := Domain.labels cs
  if 1 < ps.length && ps.getLast? = some [] then ps.dropLast else ps

def endsInNumber (cs : List Char) : Bool :=
  match (parts cs).getLast? with
  | some p => p != [] && (p.all (fun c => '0' ≤ c && c ≤ '9') || (part? p).isSome)
  | none => false

/-- The address that up to four parts give, the last one filling the bytes left. -/
def ipv4? (cs : List Char) : Option Nat := do
  let ps := parts cs
  if 4 < ps.length then none
  else
    let ns ← ps.mapM part?
    let last ← ns.getLast?
    let init := ns.dropLast
    if init.any (255 < ·) || 1 <<< (8 * (4 - init.length)) ≤ last then none
    else return init.zipIdx.foldl (fun sum (n, i) => sum + n <<< (8 * (3 - i))) last

def ipv4Text (n : Nat) : List Char :=
  List.intercalate ['.'] ([3, 2, 1, 0].map fun i => Nat.toDigits 10 ((n >>> (8 * i)) % 256))

def byte? (cs : List Char) : Option Nat :=
  match cs with
  | ['0'] => some 0
  | '0' :: _ => none
  | [] => none
  | cs => do
    let n ← digits? 10 cs
    if n ≤ 255 then return n else none

def dotted? (cs : List Char) : Option (List Nat) := do
  match ← (Domain.labels cs).mapM byte? with
  | [a, b, c, d] => return [256 * a + b, 256 * c + d]
  | _ => none

def piece? (cs : List Char) : Option Nat :=
  if cs = [] ∨ 4 < cs.length then none else digits? 16 cs

def colonParts (cs : List Char) : List (List Char) := cs.splitOn ':'

/-- The pieces of one side of an address; only the last one may be dotted. -/
def pieces? (dottedEnd : Bool) : List (List Char) → Option (List Nat)
  | [] => some []
  | [p] => if dottedEnd && p.contains '.' then dotted? p else (piece? p).map ([·])
  | p :: ps => do
    let n ← piece? p
    let ns ← pieces? dottedEnd ps
    return n :: ns

def splitGap : List Char → Option (List Char × List Char)
  | ':' :: ':' :: r => some ([], r)
  | c :: r => (splitGap r).map fun (a, b) => (c :: a, b)
  | [] => none

def side? (dottedEnd : Bool) (cs : List Char) : Option (List Nat) :=
  if cs = [] then some [] else pieces? dottedEnd (colonParts cs)

def ipv6? (cs : List Char) : Option (List Nat) := do
  match splitGap cs with
  | none =>
    let ps ← side? true cs
    if ps.length = 8 then return ps else none
  | some (a, b) =>
    let front ← side? false a
    let back ← side? true b
    if front.length + back.length < 8 then
      return front ++ List.replicate (8 - front.length - back.length) 0 ++ back
    else none

def zeros (ps : List Nat) : Nat := (ps.takeWhile (· = 0)).length

def longestZeros (ps : List Nat) : Nat × Nat :=
  (List.range ps.length).foldl (fun best i =>
    let n := zeros (ps.drop i)
    if best.2 < n then (i, n) else best) (0, 0)

def pieceTexts (ps : List Nat) : List Char :=
  List.intercalate [':'] (ps.map (Nat.toDigits 16))

/-- An address of the sixth version, its first longest run of zeros left out. -/
def ipv6Text (ps : List Nat) : List Char :=
  let (i, n) := longestZeros ps
  if n < 2 then pieceTexts ps
  else pieceTexts (ps.take i) ++ [':', ':'] ++ pieceTexts (ps.drop (i + n))

def bracketed (cs : List Char) : Except UrlError (List Char) :=
  match cs.getLast?, ipv6? cs.dropLast with
  | some ']', some ps => .ok ('[' :: (ipv6Text ps ++ [']']))
  | _, _ => .error .invalidIpv6

def opaqueHost (cs : List Char) : Except UrlError (List Char) :=
  match cs with
  | '[' :: r => bracketed r
  | cs =>
    if cs.any ("\x00\t\n\r #/:<>?@[\\]^|".toList.contains ·) then .error .invalidDomainCharacter
    else .ok (Percent.encode Percent.inOpaqueHost cs)

def domainHost (cs : List Char) : Except UrlError (List Char) :=
  match cs with
  | '[' :: r => bracketed r
  | cs =>
    match String.fromUTF8? ⟨(Percent.decode cs).toArray⟩ with
    | none => .error .invalidDomainName
    | some s =>
      match Domain.toAscii? s.toList with
      | none => .error .invalidDomainName
      | some [] => .error .emptyHost
      | some name =>
        if endsInNumber name then
          match ipv4? name with
          | some n => .ok (ipv4Text n)
          | none => .error .invalidIpv4
        else .ok name

end Host

end FinalityRelay
