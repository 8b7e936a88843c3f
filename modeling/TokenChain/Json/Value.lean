import TokenChain.Json.Document
import TokenChain.Json.Number

/-! # JSON values

What a document means when it is read as a whole: every string must be text, every number in range,
and brackets may not nest deeper than a bound. The members of an object are kept in the order of
their names; of members with one name the last counts. -/

namespace TokenChain.Json

/-- A JSON value. -/
inductive Value where
  | null
  | bool (value : Bool)
  | number (value : Number)
  | string (value : String)
  | array (items : List Value)
  | object (members : List (String × Value))
deriving Inhabited

namespace Value

/-- Puts a member in its place; it replaces one with the same name. -/
def insertMember (name : String) (v : Value) : List (String × Value) → List (String × Value)
  | [] => [(name, v)]
  | m :: ms =>
    if name == m.1 then (name, v) :: ms
    else if name.toList < m.1.toList then (name, v) :: m :: ms
    else m :: insertMember name v ms

mutual

/-- The value of a document whose brackets nest at most `depth` deep. -/
def ofDocument? (depth : Nat) : Document → Option Value
  | .null => some .null
  | .bool b => some (.bool b)
  | .number text => (Number.ofText? text).map .number
  | .string text => text.map .string
  | .array items => if depth = 0 then none else (ofItems? (depth - 1) items).map .array
  | .object members => if depth = 0 then none else (ofMembers? (depth - 1) [] members).map .object

/-- The values of the items of an array. -/
def ofItems? (depth : Nat) : List Document → Option (List Value)
  | [] => some []
  | d :: ds => do
    let v ← ofDocument? depth d
    return v :: (← ofItems? depth ds)

/-- The members of an object, put behind those read before. -/
def ofMembers? (depth : Nat) (before : List (String × Value)) :
    List (Option String × Document) → Option (List (String × Value))
  | [] => some before
  | m :: ms => do
    let (name, v) ← ofMember? depth m
    ofMembers? depth (insertMember name v before) ms

/-- One member of an object. -/
def ofMember? (depth : Nat) : Option String × Document → Option (String × Value)
  | (name, d) => do
    let v ← ofDocument? depth d
    return (← name, v)

end

/-- A member of an object. -/
def member? (v : Value) (name : String) : Option Value :=
  match v with
  | object members => members.lookup name
  | _ => none

/-- The text of a string. -/
def string? : Value → Option String
  | string s => some s
  | _ => none

/-! ### Writing -/

/-- A hexadecimal digit. -/
def hexDigit (n : Nat) : Char := if n < 10 then Char.ofNat (48 + n) else Char.ofNat (87 + n)

/-- One character of a string between its quotes. -/
def writeChar (c : Char) : List Char :=
  match c with
  | '\"' => ['\\', '\"']
  | '\\' => ['\\', '\\']
  | '\x08' => ['\\', 'b']
  | '\x0C' => ['\\', 'f']
  | '\n' => ['\\', 'n']
  | '\r' => ['\\', 'r']
  | '\t' => ['\\', 't']
  | c =>
    if c.toNat < 0x20 then ['\\', 'u', '0', '0', hexDigit (c.toNat / 16), hexDigit (c.toNat % 16)]
    else [c]

/-- A string between its quotes. -/
def writeString (s : String) : String := "\"" ++ String.ofList (s.toList.flatMap writeChar) ++ "\""

mutual

/-- A value without any white space. -/
def write : Value → String
  | null => "null"
  | bool b => if b then "true" else "false"
  | number n => n.text
  | string s => writeString s
  | array items => "[" ++ writeItems items ++ "]"
  | object members => "\x7b" ++ writeMembers members ++ "\x7d"

/-- The items of an array with commas between them. -/
def writeItems : List Value → String
  | [] => ""
  | [v] => write v
  | v :: vs => write v ++ "," ++ writeItems vs

/-- The members of an object with commas between them. -/
def writeMembers : List (String × Value) → String
  | [] => ""
  | [m] => writeMember m
  | m :: ms => writeMember m ++ "," ++ writeMembers ms

/-- A name and its value. -/
def writeMember : String × Value → String
  | (name, v) => writeString name ++ ":" ++ write v

end

end Value

end TokenChain.Json
