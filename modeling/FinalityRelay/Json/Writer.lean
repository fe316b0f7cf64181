import FinalityRelay.Bytes.Hex
import FinalityRelay.Json.Basic

/-! Compact JSON text: no blanks, and only quotes, backslashes and control characters escaped. -/

namespace FinalityRelay.Json

def escape (c : Char) : List Char :=
  if c = '"' then ['\\', '"']
  else if c = '\\' then ['\\', '\\']
  else if c = '\n' then ['\\', 'n']
  else if c = '\r' then ['\\', 'r']
  else if c = '\t' then ['\\', 't']
  else if c = '\x08' then ['\\', 'b']
  else if c = '\x0c' then ['\\', 'f']
  else if c.toNat < 32 then ['\\', 'u', '0', '0'] ++ Hex.ofByte (UInt8.ofNat c.toNat)
  else [c]

/-- A spoiled text is written as the shortest one, a lone surrogate. -/
def quote : Option String → List Char
  | some s => '"' :: (s.toList.flatMap escape ++ ['"'])
  | none => "\"\\ud800\"".toList

mutual

def write : Json → List Char
  | .null => "null".toList
  | .bool true => "true".toList
  | .bool false => "false".toList
  | .number n => n.write
  | .text s => quote s
  | .list items => '[' :: (writeItems items ++ [']'])
  | .object members => '{' :: (writeMembers members ++ ['}'])

def writeItems : List Json → List Char
  | [] => []
  | [j] => j.write
  | j :: k :: r => j.write ++ ',' :: writeItems (k :: r)

def writeMembers : List (Option String × Json) → List Char
  | [] => []
  | [(k, j)] => quote k ++ ':' :: j.write
  | (k, j) :: m :: r => quote k ++ ':' :: (j.write ++ ',' :: writeMembers (m :: r))

end

def render (j : Json) : String := String.ofList j.write

end FinalityRelay.Json
