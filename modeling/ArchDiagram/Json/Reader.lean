import ArchDiagram.Json.Token

/-!
# Reading JSON

Tokens are put together by a machine that keeps the containers that are open on a stack, so that no
depth of nesting is too great for it.

* `Json.ofTokens?`: the value that tokens make.
* `Json.ofOctets?`, `Json.ofText?`: the value that octets or a text make.
-/

namespace ArchDiagram.Json

/-- A container that is open; what it holds is reversed. -/
inductive Frame where
  | array (items : List Json)
  /-- An object in which the value of `key` is being read. -/
  | object (members : List (Option String × Json)) (key : Option String)

/-- What is expected next, with the containers around it, the innermost first. -/
inductive State where
  | value (stack : List Frame)
  /-- A value, or the end of the array just opened. -/
  | firstItem (stack : List Frame)
  /-- A key, or the end of the object just opened. -/
  | firstKey (stack : List Frame)
  | key (stack : List Frame) (members : List (Option String × Json))
  | colon (stack : List Frame) (members : List (Option String × Json)) (key : Option String)
  /-- A value is complete. -/
  | after (stack : List Frame) (value : Json)

def State.begin (stack : List Frame) : Token → Option State
  | .null => some (.after stack .null)
  | .bool b => some (.after stack (.bool b))
  | .number n => some (.after stack (.number n))
  | .string s => some (.after stack (.string s))
  | .openArray => some (.firstItem stack)
  | .openObject => some (.firstKey stack)
  | _ => none

def State.step : State → Token → Option State
  | .value stack, t => begin stack t
  | .firstItem stack, .closeArray => some (.after stack (.array []))
  | .firstItem stack, t => begin (.array [] :: stack) t
  | .firstKey stack, .closeObject => some (.after stack (.object []))
  | .firstKey stack, .string k => some (.colon stack [] k)
  | .key stack ms, .string k => some (.colon stack ms k)
  | .colon stack ms k, .colon => some (.value (.object ms k :: stack))
  | .after (.array xs :: stack) v, .comma => some (.value (.array (v :: xs) :: stack))
  | .after (.array xs :: stack) v, .closeArray =>
    some (.after stack (.array (v :: xs).reverse))
  | .after (.object ms k :: stack) v, .comma => some (.key stack ((k, v) :: ms))
  | .after (.object ms k :: stack) v, .closeObject =>
    some (.after stack (.object ((k, v) :: ms).reverse))
  | _, _ => none

def ofTokens? (ts : List Token) : Option Json := do
  match ← ts.foldlM State.step (.value []) with
  | .after [] v => some v
  | _ => none

def ofOctets? (bs : List UInt8) : Option Json := do
  ofTokens? (← Token.scan bs)

def ofText? (s : String) : Option Json :=
  ofOctets? (Utf8.encode s)

end ArchDiagram.Json
