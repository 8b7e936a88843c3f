import TokenChain.Url.Host

/-! # Reading addresses

`Url.parse` reads a complete address; `Url.join` resolves a relative path against one. Reading
follows the URL standard: blanks around the text and line breaks inside it do not count, a backslash
is a slash where the scheme is special, `.` and `..` are resolved, a default port is dropped. The
name of a drive in a path is never left by `..`.

`Url.join` takes a reference that is a relative path: it has neither a scheme nor a host, does not
begin with a slash, and has no query and no fragment. It replaces what follows the last slash of the
base, and drops the base's query and fragment. -/

namespace TokenChain.Url

/-- Whether a character ends a path segment. -/
def isSlash (special : Bool) (c : Char) : Bool := c == '/' || (special && c == '\\')

/-- Whether a character ends the path. -/
def endsPath (c : Char) : Bool := c == '?' || c == '#'

/-! ### Scheme -/

/-- The scheme in front of the first colon, in small letters, and the rest. -/
def scheme? (cs : List Char) : Option (String × List Char) :=
  let isSchemeChar (c : Char) : Bool := c.isAlphanum || c == '+' || c == '-' || c == '.'
  if cs.head?.any Char.isAlpha then
    match cs.dropWhile isSchemeChar with
    | ':' :: rest => some (String.ofList ((cs.takeWhile isSchemeChar).map Char.toLower), rest)
    | _ => none
  else none

/-! ### Path, query and fragment -/

/-- Whether a segment stands for the directory itself. -/
def isSingleDot (segment : String) : Bool :=
  segment == "." || segment.toLower == "%2e"

/-- Whether a segment stands for the directory above. -/
def isDoubleDot (segment : String) : Bool :=
  segment == ".." || segment.toLower == ".%2e" || segment.toLower == "%2e."
    || segment.toLower == "%2e%2e"

/-- Whether a text is the name of a drive: a letter and a colon, or a bar in its place. -/
def isDrive : List Char → Bool
  | [letter, mark] => letter.isAlpha && (mark == ':' || mark == '|')
  | _ => false

/-- Whether a segment is the name of a drive as it is written. -/
def isPlainDrive (segment : String) : Bool :=
  isDrive segment.toList && segment.toList.getLast? == some ':'

/-- Whether a segment begins with the name of a drive and a character that would end it. -/
def isDriveLike (segment : String) : Bool :=
  isDrive (segment.toList.take 2) && (segment.toList.drop 2).head?.all fun c => "/\\?#".contains c

/-- The directory above; nothing leads out of a drive. -/
def parent (dirs : List String) : List String :=
  if dirs.getLast?.any isDriveLike then dirs else dirs.dropLast

/-- The directories once a segment with a slash behind it has been followed. The name of a drive in
the first place of a path to a file is written with a colon. -/
def enter (file : Bool) (dirs : List String) (segment : String) : List String :=
  if isDoubleDot segment then parent dirs
  else if isSingleDot segment then dirs
  else if file && dirs.isEmpty && isDrive segment.toList then
    [String.ofList (segment.toList.take 1 ++ [':'])]
  else dirs ++ [segment]

/-- The segments of a path that begins in `dirs`. -/
def resolvePath (file : Bool) (dirs : List String) : List (List Char) → List String
  | [] => dirs
  | [segment] =>
    let segment := percentEncode inPathSet segment
    enter file dirs segment ++ (if isDoubleDot segment || isSingleDot segment then [""] else [])
  | segment :: more => resolvePath file (enter file dirs (percentEncode inPathSet segment)) more

/-- Splits a path at its slashes. -/
def splitPath (special : Bool) (cs : List Char) : List (List Char) :=
  (cs.map fun c => if isSlash special c then '/' else c).splitOn '/'

/-- Splits what follows the authority into path, query and fragment. -/
def splitTail (cs : List Char) : List Char × Option (List Char) × Option (List Char) :=
  let path := cs.takeWhile (!endsPath ·)
  match cs.dropWhile (!endsPath ·) with
  | '?' :: rest =>
    let query := rest.takeWhile (· != '#')
    match rest.dropWhile (· != '#') with
    | _ :: fragment => (path, some query, some fragment)
    | [] => (path, some query, none)
  | _ :: fragment => (path, none, some fragment)
  | [] => (path, none, none)

/-- The segments of the path behind an authority or a scheme. -/
def absolutePath (special : Bool) (cs : List Char) : List String :=
  match cs with
  | [] => if special then [""] else []
  | c :: rest =>
    resolvePath false [] (splitPath special (if isSlash special c then rest else c :: rest))

/-- An address with the query and the fragment that follow its path. -/
def withTail (u : Url) (special : Bool) (query fragment : Option (List Char)) : Url :=
  { u with
    query := query.map (percentEncode (inQuerySet special))
    fragment := fragment.map (percentEncode inFragmentSet) }

/-- An address out of its authority and what follows it. -/
def withPath (u : Url) (special : Bool) (cs : List Char) : Url :=
  let (path, query, fragment) := splitTail cs
  withTail { u with path := .segments (absolutePath special path) } special query fragment

/-! ### Authority -/

/-- Splits at the last of the characters that are equal to `x`. -/
def splitLast (x : Char) (cs : List Char) : Option (List Char × List Char) :=
  let back := cs.reverse
  match back.dropWhile (· != x) with
  | _ :: front => some (front.reverse, (back.takeWhile (· != x)).reverse)
  | [] => none

/-- The length of the host in front of the port: a colon inside brackets belongs to the host. -/
def hostLength : Bool → List Char → Nat
  | _, [] => 0
  | inside, c :: cs =>
    if c == ':' && !inside then 0
    else 1 + hostLength (if c == '[' then true else if c == ']' then false else inside) cs

/-- The port that digits write; nothing for no digits. -/
def port? (digits : List Char) : Except UrlError (Option Nat) :=
  let n := Text.Digits.number digits
  if digits.isEmpty then .ok none else if n ≤ 65535 then .ok (some n) else .error .invalidPort

/-- The host and the port of a server, and what is left of its text: a port ends at a backslash,
too. -/
def parseServer (special : Bool) (server : List Char) :
    Except UrlError (String × Option Nat × List Char) := do
  let hostText := server.take (hostLength false server)
  if special && hostText.isEmpty then throw .emptyHost
  let host ← if special then Host.parse hostText else Host.parseOpaque hostText
  match server.drop hostText.length with
  | [] => return (host, none, [])
  | _ :: portText =>
    if hostText.isEmpty then throw .emptyHost
    let rest := portText.dropWhile Char.isDigit
    if rest.head?.any (· ≠ '\\') then throw .invalidPort
    return (host, ← port? (portText.takeWhile Char.isDigit), rest)

/-- User name and password in front of the last at sign, and the server behind it; `ends` tells that
nothing follows the authority. -/
def splitUser (authority : List Char) (ends : Bool) : Except UrlError (List Char × List Char) :=
  match splitLast '@' authority with
  | none => .ok ([], authority)
  | some (user, server) =>
    if user.isEmpty && server.isEmpty && !ends then .error .emptyHost else .ok (user, server)

/-- Reads what follows the two slashes. -/
def parseAuthority (scheme : String) (cs : List Char) : Except UrlError Url := do
  let special := isSpecial scheme
  let stops (c : Char) : Bool := isSlash special c || endsPath c
  let tail := cs.dropWhile (!stops ·)
  let (user, server) ← splitUser (cs.takeWhile (!stops ·)) tail.isEmpty
  let username := user.takeWhile (· != ':')
  let password := (user.dropWhile (· != ':')).drop 1
  let (host, port, rest) ← parseServer special server
  if host.isEmpty && !(username.isEmpty && password.isEmpty) then throw .emptyHost
  return withPath
    { scheme, host := some host
      port := if port == defaultPort? scheme then none else port
      username := percentEncode inUserinfoSet username
      password := percentEncode inUserinfoSet password
      path := .segments [], query := none, fragment := none } special (rest ++ tail)

/-! ### Files -/

/-- The segments of the path to a file without the empty ones in front. -/
def dropEmpty (segments : List String) : List String :=
  match segments.dropWhile String.isEmpty with
  | [] => [""]
  | segments => segments

/-- The address of a file at a host. A path that begins with a drive has no host. -/
def fileAt (host : String) (cs : List Char) : Url :=
  let (path, query, fragment) := splitTail cs
  let segments := resolvePath true [] (splitPath true path)
  let host := if segments.head?.any isPlainDrive then "" else host
  withTail ⟨"file", "", "", some host, none, .segments (dropEmpty segments), none,
    none⟩ true query fragment

/-- Reads what follows the scheme `file`; the local host is not written. -/
def parseFile (cs : List Char) : Except UrlError Url := do
  let slashes := (cs.take 2).takeWhile (isSlash true)
  let rest := cs.drop slashes.length
  if slashes.length < 2 then return fileAt "" rest
  let stops (c : Char) : Bool := isSlash true c || endsPath c
  let hostText := rest.takeWhile (!stops ·)
  let tail := rest.dropWhile (!stops ·)
  if isDrive hostText then return fileAt "" rest
  if hostText.isEmpty then return fileAt "" tail
  let host ← Host.parse hostText
  if host == "localhost" then return fileAt "" tail
  return fileAt host (if tail.head?.any (isSlash true) then tail.drop 1 else tail)

/-! ### Complete addresses and references -/

/-- Reads what follows any other scheme. -/
def parseOther (scheme : String) (cs : List Char) : Except UrlError Url :=
  match cs with
  | '/' :: '/' :: rest => parseAuthority scheme rest
  | '/' :: _ => .ok (withPath ⟨scheme, "", "", none, none, .segments [], none, none⟩ false cs)
  | _ =>
    let (path, query, fragment) := splitTail cs
    .ok (withTail ⟨scheme, "", "", none, none, .opaque_ (percentEncode isControl path), none, none⟩
      false query fragment)

/-- A text without the control characters and spaces around it and without line breaks. -/
def clean (s : String) : List Char :=
  let isEdge (c : Char) : Bool := c.toNat ≤ 0x20
  let cs := ((s.toList.dropWhile isEdge).reverse.dropWhile isEdge).reverse
  cs.filter fun c => !(c == '\t' || c == '\n' || c == '\r')

/-- Reads a complete address. -/
def parse (s : String) : Except UrlError Url :=
  match scheme? (clean s) with
  | none => .error .relativeWithoutBase
  | some (scheme, rest) =>
    if scheme == "file" then parseFile rest
    else if isSpecial scheme then parseAuthority scheme (rest.dropWhile (isSlash true))
    else parseOther scheme rest

/-- The directories in which a reference begins at the path of a file, and what its first segment is
written behind: nothing cuts off a drive in the last place. -/
def fileBase (segments : List String) : List String × String :=
  match segments.getLast? with
  | some last =>
    if !isPlainDrive last then (segments.dropLast, "")
    else if segments.length = 1 then (segments, "")
    else (segments.dropLast, last)
  | none => ([], "")

/-- The segments of a reference at the path of a file. -/
def joinFile (segments : List String) (reference : List (List Char)) : List String :=
  let (dirs, drive) := fileBase segments
  match reference with
  | [] => dirs
  | first :: more =>
    let text := percentEncode inPathSet first
    if !drive.isEmpty && (isDoubleDot text || isSingleDot text) then resolvePath true
      (dirs ++ [drive]) more
    else resolvePath true dirs ((drive.toList ++ first) :: more)

/-- The address that a relative path means at a base. -/
def join (base : Url) (reference : String) : Except UrlError Url :=
  match base.path with
  | .opaque_ _ => .error .relativeWithOpaqueBase
  | .segments segments =>
    let reference := splitPath (isSpecial base.scheme) (clean reference)
    .ok { base with
      path := .segments (if base.scheme == "file" then joinFile segments reference
        else resolvePath false segments.dropLast reference)
      query := none
      fragment := none }

end TokenChain.Url
