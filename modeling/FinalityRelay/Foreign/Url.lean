import FinalityRelay.Foreign.Host

/-! Addresses of the web in their normal form: scheme and host in small letters, no default port, dot
segments resolved, and characters encoded that may not stand for themselves. -/

namespace FinalityRelay

inductive UrlPath
  | unstructured (text : List Char)
  | segments (parts : List (List Char))
deriving DecidableEq

structure Url where
  scheme : List Char
  username : List Char
  password : List Char
  host : Option (List Char)
  port : Option Nat
  path : UrlPath
  query : Option (List Char)
  fragment : Option (List Char)
deriving DecidableEq

namespace Url

/-- The port of a scheme whose addresses have a host of a known kind; files have none. -/
def specialPort? (scheme : List Char) : Option (Option Nat) :=
  match String.ofList scheme with
  | "http" | "ws" => some (some 80)
  | "https" | "wss" => some (some 443)
  | "ftp" => some (some 21)
  | "file" => some none
  | _ => none

def isSpecial (scheme : List Char) : Bool := (specialPort? scheme).isSome

def isLetter (c : Char) : Bool := ('a' ≤ c && c ≤ 'z') || ('A' ≤ c && c ≤ 'Z')

def isDigit (c : Char) : Bool := '0' ≤ c && c ≤ '9'

def isBreak (c : Char) : Bool := c = '\t' || c = '\n' || c = '\r'

def withoutBreaks (cs : List Char) : List Char := cs.filter (!isBreak ·)

def trimmed (cs : List Char) : List Char :=
  let outer := fun c : Char => decide (c.toNat ≤ 0x20)
  ((cs.dropWhile outer).reverse.dropWhile outer).reverse

/-- The scheme, in small letters, and what follows its colon. -/
def splitScheme? : List Char → Option (List Char × List Char)
  | c :: cs =>
    if isLetter c then
      let inScheme := fun c => isLetter c || isDigit c || c = '+' || c = '-' || c = '.'
      match cs.dropWhile inScheme with
      | ':' :: r => some ((c :: cs.takeWhile inScheme).map Char.toLower, r)
      | _ => none
    else none
  | [] => none

def endsAuthority (special : Bool) (c : Char) : Bool :=
  c = '/' || c = '?' || c = '#' || (special && c = '\\')

def splitAt? (cs : List Char) : Option (List Char × List Char) :=
  if cs.contains '@' then
    let after := (cs.reverse.takeWhile (· != '@')).reverse
    some (cs.take (cs.length - after.length - 1), after)
  else none

def splitUser (cs : List Char) : List Char × List Char :=
  (Percent.encode Percent.inUserinfo (cs.takeWhile (· != ':')),
    Percent.encode Percent.inUserinfo ((cs.dropWhile (· != ':')).drop 1))

def splitHost : Bool → List Char → List Char × List Char
  | _, [] => ([], [])
  | inside, c :: cs =>
    if c = ':' && !inside then ([], c :: cs)
    else
      let (host, rest) := splitHost (if c = '[' then true else if c = ']' then false else inside) cs
      (c :: host, rest)

def isSlash (special : Bool) (c : Char) : Bool := c = '/' || (special && c = '\\')

/-- A port number after its colon, and the path after it. That of the scheme itself is left out. -/
def port? (scheme : List Char) : List Char → Except UrlError (Option Nat × List Char)
  | ':' :: cs =>
    let n := Nat.ofDigitChars 10 (cs.takeWhile isDigit) 0
    let path := cs.dropWhile isDigit
    if 65535 < n ∨ ¬path.head?.all (isSlash true) then .error .invalidPort
    else
      .ok (if cs.takeWhile isDigit = [] ∨ specialPort? scheme = some (some n) then none else some n,
        path)
  | path => .ok (none, path)

structure Authority where
  username : List Char
  password : List Char
  host : List Char
  port : Option Nat

/-- The server part at the front, and the path after it: perhaps a user before an at sign, a host,
perhaps a port. `more` tells whether a query or a fragment follows. -/
def authority (scheme front : List Char) (more : Bool) : Except UrlError (Authority × List Char) := do
  let special := isSpecial scheme
  let zone := front.takeWhile (!endsAuthority special ·)
  let path := front.dropWhile (!endsAuthority special ·)
  let (user, server) := (splitAt? zone).getD ([], zone)
  if user = [] ∧ server = [] ∧ zone ≠ [] ∧ (path ≠ [] ∨ more) then throw .emptyHost
  let (username, password) := splitUser user
  let (hostText, rest) := splitHost false server
  if isSpecial scheme ∧ hostText = [] then throw .emptyHost
  let host ← if isSpecial scheme then Host.domainHost hostText else Host.opaqueHost hostText
  if host = [] ∧ rest ≠ [] then throw .emptyHost
  let (port, path) ← port? scheme (rest ++ path)
  if host = [] ∧ (username ≠ [] ∨ password ≠ []) then throw .emptyHost
  return (⟨username, password, host, port⟩, path)

def plainDots : List Char → List Char
  | '%' :: '2' :: c :: r => if c = 'e' || c = 'E' then '.' :: plainDots r else '%' :: '2' :: plainDots (c :: r)
  | c :: r => c :: plainDots r
  | [] => []

def namesParent (s : List Char) : Bool := plainDots s = ['.', '.']

def namesSelf (s : List Char) : Bool := plainDots s = ['.']

def isDrive : List Char → Bool
  | [c, d] => isLetter c && (d = ':' || d = '|')
  | _ => false

def startsAtDrive (s : List Char) : Bool := isDrive (s.takeWhile (· != '\\'))

/-- A path without its last segment, which stays if it is a drive. Segments stand last one first. -/
def parent : List (List Char) → List (List Char)
  | [] => []
  | s :: done => if startsAtDrive s then s :: done else done

/-- Goes to the segment `s` from those so far; `last` tells whether it is the last one. -/
def visit (done : List (List Char)) (s : List Char) (last : Bool) : List (List Char) :=
  let close := fun done : List (List Char) => if last then [] :: done else done
  if namesParent s then close (parent done)
  else if namesSelf s then close done
  else Percent.encode Percent.inPath s :: done

def resolve (done : List (List Char)) : List (List Char) → List (List Char)
  | [] => done.reverse
  | s :: rest => resolve (visit done s rest.isEmpty) rest

/-- A path after its host. Where the kind is known there is always one. -/
def pathOf (special : Bool) : List Char → UrlPath
  | [] => .segments (if special then [[]] else [])
  | c :: cs =>
    .segments (resolve [] ((if isSlash special c then cs else c :: cs).splitOnP (isSlash special)))

def splitTail (cs : List Char) : List Char × Option (List Char) × Option (List Char) :=
  let front := cs.takeWhile (· != '#')
  let fragment := match cs.dropWhile (· != '#') with
    | [] => none
    | _ :: r => some r
  let query := match front.dropWhile (· != '?') with
    | [] => none
    | _ :: r => some r
  (front.takeWhile (· != '?'), query, fragment)

def withAuthority (scheme cs : List Char) : Except UrlError Url := do
  let special := isSpecial scheme
  let (front, query, fragment) := splitTail cs
  let (a, path) ← authority scheme front (query.isSome || fragment.isSome)
  return {
    scheme
    username := a.username
    password := a.password
    host := some a.host
    port := a.port
    path := pathOf special path
    query := query.map (Percent.encode (if special then Percent.inSpecialQuery else Percent.inQuery))
    fragment := fragment.map (Percent.encode Percent.inFragment) }

def withoutAuthority (scheme cs : List Char) : Url :=
  let (path, query, fragment) := splitTail cs
  { scheme
    username := []
    password := []
    host := none
    port := none
    path := if path.head? = some '/' then pathOf false path
      else .unstructured (Percent.encode Percent.isControl path)
    query := query.map (Percent.encode Percent.inQuery)
    fragment := fragment.map (Percent.encode Percent.inFragment) }

/-- A walk along the path of a file: the segments so far, last one first, and whether the first one
was a drive, which belongs to this machine. -/
structure FileWalk where
  done : List (List Char)
  drive : Bool

/-- Whether a break follows the name of a drive with a colon, and more of its segment the break. The
break then ends a segment. -/
def breaksAfterDrive (raw : List Char) : Bool :=
  let name := (withoutBreaks raw).take 2
  isDrive name && name.getLast? = some ':' && (withoutBreaks raw).length > 2 &&
    ((raw.dropWhile (· != ':')).drop 1).head?.any isBreak

def FileWalk.visit (w : FileWalk) (raw : List Char) (last : Bool) : FileWalk :=
  let s := withoutBreaks raw
  if w.done = [] ∧ breaksAfterDrive raw then
    { w with done := [Percent.encode Percent.inPath (s.drop 2), s.take 2] }
  else if w.done = [] ∧ isDrive s then ⟨[s.take 1 ++ [':']], true⟩
  else { w with done := Url.visit w.done s last }

def FileWalk.run (w : FileWalk) : List (List Char) → FileWalk
  | [] => w
  | raw :: rest => (w.visit raw rest.isEmpty).run rest

def withoutEmptyFront (parts : List (List Char)) : List (List Char) :=
  match parts.dropWhile (· = []) with
  | [] => [[]]
  | ps => ps

/-- The path of a file, and whether it starts at a drive. -/
def filePath (raw : List Char) : UrlPath × Bool :=
  let parts := match raw.splitOnP (isSlash true) with
    | p :: q :: ps => if withoutBreaks p = [] then q :: ps else p :: q :: ps
    | ps => ps
  let walk := FileWalk.run ⟨[], false⟩ parts
  (.segments (withoutEmptyFront walk.done.reverse), walk.drive)

/-- Drops `n` characters, and the breaks before them. -/
def dropVisible : Nat → List Char → List Char
  | 0, cs => cs
  | n + 1, cs => dropVisible n ((cs.dropWhile isBreak).drop 1)

def fileHost (text : List Char) : Except UrlError (List Char) := do
  if text = [] then return []
  let host ← Host.domainHost text
  return if host = "localhost".toList then [] else host

/-- The address of a file. Two slashes stand before a host, unless it is the name of a drive. -/
def ofFile (raw : List Char) : Except UrlError Url := do
  let (front, query, fragment) := splitTail raw
  let slashes := (withoutBreaks front).takeWhile (isSlash true)
  let server := dropVisible 2 front
  let hostText := withoutBreaks (server.takeWhile (!isSlash true ·))
  let hasHost := 2 ≤ slashes.length ∧ ¬isDrive hostText
  let host ← fileHost (if hasHost then hostText else [])
  let (path, drive) := filePath
    (if hasHost then server.dropWhile (!isSlash true ·)
    else if 2 ≤ slashes.length then server
    else front)
  return {
    scheme := "file".toList
    username := []
    password := []
    host := some (if drive then [] else host)
    port := none
    path
    query := query.map fun q => Percent.encode Percent.inSpecialQuery (withoutBreaks q)
    fragment := fragment.map fun f => Percent.encode Percent.inFragment (withoutBreaks f) }

def parse (s : String) : Except UrlError Url :=
  let cs := trimmed s.toList
  match splitScheme? (withoutBreaks cs) with
  | none => .error .relativeWithoutBase
  | some (scheme, rest) =>
    match specialPort? scheme with
    | some (some _) => withAuthority scheme (rest.dropWhile (isSlash true))
    | some none => ofFile ((cs.dropWhile (· != ':')).drop 1)
    | none =>
      match rest with
      | '/' :: '/' :: r => withAuthority scheme r
      | _ => .ok (withoutAuthority scheme rest)

def pathText (u : Url) : List Char :=
  match u.path with
  | .unstructured t => t
  | .segments ps =>
    let text := ps.flatMap ('/' :: ·)
    if u.host.isNone && text.take 2 = ['/', '/'] then '/' :: '.' :: text else text

def target (u : Url) : String :=
  String.ofList (u.pathText ++ (u.query.map ('?' :: ·)).getD [])

def userText (u : Url) : List Char :=
  if u.username = [] ∧ u.password = [] then []
  else u.username ++ (if u.password = [] then [] else ':' :: u.password) ++ ['@']

def serverText (u : Url) : List Char :=
  match u.host with
  | none => []
  | some h => '/' :: '/' :: (u.userText ++ h ++ ((u.port.map fun n => ':' :: Nat.toDigits 10 n).getD []))

def text (u : Url) : String :=
  String.ofList (u.scheme ++ ':' :: (u.serverText ++ u.target.toList ++
    (u.fragment.map ('#' :: ·)).getD []))

end Url

end FinalityRelay
