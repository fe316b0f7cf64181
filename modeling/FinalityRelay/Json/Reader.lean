import FinalityRelay.Json.Token

/-! Reading one JSON value from a whole text. The values still open are kept on a stack, so a text
may be nested to any depth. -/

namespace FinalityRelay.Json

/-- A list or an object still open, its part so far last element first. -/
inductive Frame
  | items (done : List Json)
  | members (done : List (Option String × Json)) (key : Option String)

/-- What may come next in a text. -/
inductive Next
  | value
  | firstItem
  | firstKey
  | key
  | colon
  | afterValue (j : Json)

def ofWord? (w : List Char) : Option Json :=
  if w = "null".toList then some .null
  else if w = "true".toList then some (.bool true)
  else if w = "false".toList then some (.bool false)
  else (Number.read? w).map .number

/-- The value that a token is by itself. -/
def ofToken? : Token → Option Json
  | .text s => some (.text s)
  | .word w => ofWord? w
  | .punct _ => none

def build : Next → List Frame → List Token → Option Json
  | .afterValue j, [], [] => some j
  | _, _, [] => none
  | .afterValue j, .items done :: st, .punct ',' :: ts => build .value (.items (j :: done) :: st) ts
  | .afterValue j, .items done :: st, .punct ']' :: ts =>
    build (.afterValue (.list (j :: done).reverse)) st ts
  | .afterValue j, .members done k :: st, .punct ',' :: ts =>
    build .key (.members ((k, j) :: done) none :: st) ts
  | .afterValue j, .members done k :: st, .punct '}' :: ts =>
    build (.afterValue (.object ((k, j) :: done).reverse)) st ts
  | .afterValue _, _, _ => none
  | .colon, st, .punct ':' :: ts => build .value st ts
  | .colon, _, _ => none
  | .firstKey, .members [] _ :: st, .punct '}' :: ts => build (.afterValue (.object [])) st ts
  | .firstKey, .members done _ :: st, .text s :: ts => build .colon (.members done s :: st) ts
  | .firstKey, _, _ => none
  | .key, .members done _ :: st, .text s :: ts => build .colon (.members done s :: st) ts
  | .key, _, _ => none
  | .firstItem, .items [] :: st, .punct ']' :: ts => build (.afterValue (.list [])) st ts
  | _, st, .punct '[' :: ts => build .firstItem (.items [] :: st) ts
  | _, st, .punct '{' :: ts => build .firstKey (.members [] none :: st) ts
  | _, st, t :: ts =>
    match ofToken? t with
    | some j => build (.afterValue j) st ts
    | none => none

def read? (cs : List Char) : Option Json :=
  (Token.all? cs).bind (build .value [])

end FinalityRelay.Json
