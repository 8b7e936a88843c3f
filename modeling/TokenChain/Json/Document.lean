import TokenChain.Text.Utf8

/-! # JSON documents

The shape of a JSON text: which brackets, strings and numbers it holds, not yet what they mean. A
`Document` keeps the characters of a number and the text of a string; the text is missing where the
escapes or the bytes of the string are no text. Whether that matters depends on who reads the
document: a field that nobody asks for may hold such a string, a number of any size, and brackets of
any depth.

`Document.read?` reads a document that fills all the bytes but for white space. -/

namespace TokenChain.Json

/-- The shape of a JSON text. -/
inductive Document where
  | null
  | bool (value : Bool)
  | number (text : List Char)
  | string (text : Option String)
  | array (items : List Document)
  | object (members : List (Option String × Document))
deriving Inhabited

namespace Document

open TokenChain.Text

/-- The white space of JSON. -/
def isSpace (b : UInt8) : Bool := b == 0x20 || b == 0x0A || b == 0x0D || b == 0x09

/-- The bytes behind any white space. -/
def skipSpace (bs : List UInt8) : List UInt8 := bs.dropWhile isSpace

/-- Whether a byte is a decimal digit. -/
def isDigit (b : UInt8) : Bool := 0x30 ≤ b && b ≤ 0x39

/-! ### Numbers -/

/-- One digit or more. -/
def digits? (bs : List UInt8) : Option (List UInt8 × List UInt8) :=
  let ds := bs.takeWhile isDigit
  if ds.isEmpty then none else some (ds, bs.dropWhile isDigit)

/-- The whole part of a number: no zero in front of other digits. -/
def whole? (bs : List UInt8) : Option (List UInt8 × List UInt8) := do
  let (ds, rest) ← digits? bs
  if ds.head? == some 0x30 && ds.length > 1 then none else some (ds, rest)

/-- The digits behind the point, if there is one. -/
def decimals? : List UInt8 → Option (List UInt8 × List UInt8)
  | 0x2E :: bs => (digits? bs).map fun (ds, rest) => (0x2E :: ds, rest)
  | bs => some ([], bs)

/-- The power of ten, if there is one. -/
def exponent? : List UInt8 → Option (List UInt8 × List UInt8)
  | 0x65 :: bs | 0x45 :: bs =>
    match bs with
    | 0x2B :: bs => (digits? bs).map fun (ds, rest) => (0x65 :: ds, rest)
    | 0x2D :: bs => (digits? bs).map fun (ds, rest) => (0x65 :: 0x2D :: ds, rest)
    | bs => (digits? bs).map fun (ds, rest) => (0x65 :: ds, rest)
  | bs => some ([], bs)

/-- The characters of ASCII bytes. -/
def asciiChars (bs : List UInt8) : List Char := bs.map fun b => Char.ofNat b.toNat

/-- A number without its sign. -/
def unsigned? (bs : List UInt8) : Option (List UInt8 × List UInt8) := do
  let (w, bs) ← whole? bs
  let (d, bs) ← decimals? bs
  let (e, bs) ← exponent? bs
  return (w ++ d ++ e, bs)

/-- A number. -/
def number? : List UInt8 → Option (Document × List UInt8)
  | 0x2D :: bs => (unsigned? bs).map fun (t, rest) => (.number (asciiChars (0x2D :: t)), rest)
  | bs => (unsigned? bs).map fun (t, rest) => (.number (asciiChars t), rest)

/-! ### Strings -/

/-- One character of a string as it is written. -/
inductive Piece where
  | byte (b : UInt8)
  | char (c : Char)
  /-- A code unit of UTF-16 in hexadecimal digits. -/
  | unit (n : Nat)

/-- The value of a hexadecimal digit. -/
def hexValue? (b : UInt8) : Option Nat :=
  if 0x30 ≤ b && b ≤ 0x39 then some (b.toNat - 0x30)
  else if 0x61 ≤ b && b ≤ 0x66 then some (b.toNat - 0x57)
  else if 0x41 ≤ b && b ≤ 0x46 then some (b.toNat - 0x37)
  else none

/-- A code unit in four hexadecimal digits. -/
def unit? (a b c d : UInt8) : Option Nat := do
  return ((← hexValue? a) * 16 + (← hexValue? b)) * 256 + (← hexValue? c) * 16 + (← hexValue? d)

/-- The character of a one-letter escape. -/
def escape? (b : UInt8) : Option Char :=
  if b == 0x22 then some '\"' else if b == 0x5C then some '\\' else if b == 0x2F then some '/'
  else if b == 0x62 then some '\x08' else if b == 0x66 then some '\x0C'
    else if b == 0x6E then some '\n'
  else if b == 0x72 then some '\r' else if b == 0x74 then some '\t' else none

/-- The pieces of a string up to its closing quote, and what follows the quote. -/
def pieces? : List UInt8 → Option (List Piece × List UInt8)
  | [] => none
  | 0x22 :: bs => some ([], bs)
  | 0x5C :: 0x75 :: a :: b :: c :: d :: bs => do
    let n ← unit? a b c d
    let (ps, rest) ← pieces? bs
    return (.unit n :: ps, rest)
  | 0x5C :: b :: bs => do
    let c ← escape? b
    let (ps, rest) ← pieces? bs
    return (.char c :: ps, rest)
  | b :: bs =>
    if b < 0x20 || b == 0x5C then none
    else (pieces? bs).map fun (ps, rest) => (.byte b :: ps, rest)

/-- The bytes of a string; code units beyond the first plane come in pairs. -/
def pieceBytes? : List Piece → Option (List UInt8)
  | [] => some []
  | .byte b :: ps => (pieceBytes? ps).map (b :: ·)
  | .char c :: ps => (pieceBytes? ps).map (Utf8.encode (String.singleton c) ++ ·)
  | .unit n :: ps =>
    if n < 0xD800 || 0xDFFF < n then
      (pieceBytes? ps).map (Utf8.encode (String.singleton (Char.ofNat n)) ++ ·)
    else if n < 0xDC00 then
      match ps with
      | .unit m :: ps =>
        if 0xDC00 ≤ m && m ≤ 0xDFFF then
          let c := Char.ofNat (0x10000 + (n - 0xD800) * 1024 + (m - 0xDC00))
          (pieceBytes? ps).map (Utf8.encode (String.singleton c) ++ ·)
        else none
      | _ => none
    else none

/-- The text of a string, if its pieces are text. -/
def pieceText? (ps : List Piece) : Option String := (pieceBytes? ps).bind Utf8.decode?

/-! ### Documents -/

/-- The bytes of a word behind its first letter, dropped if they are there. -/
def word? (word bs : List UInt8) : Option (List UInt8) :=
  if word.isPrefixOf bs then some (bs.drop word.length) else none

mutual

/-- A document at the front of the bytes, read with brackets up to the given depth. -/
def value? : Nat → List UInt8 → Option (Document × List UInt8)
  | 0, _ => none
  | depth + 1, bs =>
    match skipSpace bs with
    | 0x6E :: bs => (word? [0x75, 0x6C, 0x6C] bs).map fun rest => (.null, rest)
    | 0x74 :: bs => (word? [0x72, 0x75, 0x65] bs).map fun rest => (.bool true, rest)
    | 0x66 :: bs => (word? [0x61, 0x6C, 0x73, 0x65] bs).map fun rest => (.bool false, rest)
    | 0x22 :: bs => (pieces? bs).map fun (ps, rest) => (.string (pieceText? ps), rest)
    | 0x5B :: bs =>
      match skipSpace bs with
      | 0x5D :: rest => some (.array [], rest)
      | bs => (items? depth bs).map fun (items, rest) => (.array items, rest)
    | 0x7B :: bs =>
      match skipSpace bs with
      | 0x7D :: rest => some (.object [], rest)
      | bs => (members? depth bs).map fun (members, rest) => (.object members, rest)
    | bs => number? bs

/-- The items of an array, one or more, up to its closing bracket. -/
def items? : Nat → List UInt8 → Option (List Document × List UInt8)
  | 0, _ => none
  | depth + 1, bs => do
    let (item, bs) ← value? depth bs
    match skipSpace bs with
    | 0x2C :: bs =>
      let (items, rest) ← items? depth bs
      return (item :: items, rest)
    | 0x5D :: rest => return ([item], rest)
    | _ => none

/-- The members of an object, one or more, up to its closing bracket. -/
def members? : Nat → List UInt8 → Option (List (Option String × Document) × List UInt8)
  | 0, _ => none
  | depth + 1, bs => do
    match skipSpace bs with
    | 0x22 :: bs =>
      let (ps, bs) ← pieces? bs
      match skipSpace bs with
      | 0x3A :: bs =>
        let (item, bs) ← value? depth bs
        match skipSpace bs with
        | 0x2C :: bs =>
          let (members, rest) ← members? depth bs
          return ((pieceText? ps, item) :: members, rest)
        | 0x7D :: rest => return ([(pieceText? ps, item)], rest)
        | _ => none
      | _ => none
    | _ => none

end

/-- Reads a document that fills all the bytes. Every bracket, item and member takes a byte, so the
number of bytes bounds the depth. -/
def read? (bs : List UInt8) : Option Document := do
  let (document, rest) ← value? (bs.length + 1) bs
  if (skipSpace rest).isEmpty then some document else none

end Document

end TokenChain.Json
