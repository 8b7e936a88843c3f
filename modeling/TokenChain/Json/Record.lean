import TokenChain.Json.Value

/-! # Records in JSON

How a record with named fields is found in a document. An object gives the fields by name: members
with other names do not count, a field given twice is refused. An array gives the fields by
position, in the order in which they are listed, and may not hold more items than there are fields.
What is missing is left to the reader of the field. -/

namespace TokenChain.Json

/-- The brackets that may nest in a value inside a record. -/
def depthInRecord : Nat := 126

/-- The fields that a document gives, in the order of the names; `none` for a document that cannot
be such a record. -/
def Document.fields? (names : List String) : Document → Option (List (Option Document))
  | .array items => if items.length ≤ names.length then
      some ((List.range names.length).map fun i => items[i]?) else none
  | .object members =>
    if members.all fun m => m.1.isSome then
      names.mapM fun name =>
        match members.filter fun m => m.1 == some name with
        | [] => some none
        | [m] => some (some m.2)
        | _ => none
    else none
  | _ => none

/-- A field that may be missing or null. -/
def optional {α : Type} (read : Document → Option α) : Option Document → Option (Option α)
  | none | some .null => some none
  | some d => (read d).map some

/-- A field that must be there. -/
def required {α : Type} (read : Document → Option α) (d : Option Document) : Option α := d.bind read

/-- The text of a string. -/
def Document.text? : Document → Option String
  | .string text => text
  | _ => none

/-- A whole number of 64 bits with a sign. -/
def Document.int64? : Document → Option Int
  | .number text =>
    match Number.ofText? text with
    | some (.int n) => if n < Int.pow 2 63 then some n else none
    | _ => none
  | _ => none

end TokenChain.Json
