/-! # Files

Files and directories by the names along their paths from the root. A path is followed name by name:
a dot names the directory it stands in, two dots the one above, and only a directory leads on. Paths
that do not begin at the root begin in the working directory.

Beside the files of the working directory there are the few places that every system has. -/

namespace TokenChain

/-- What a path names. -/
inductive FileNode where
  | file (content : List UInt8)
  | directory
deriving DecidableEq, Repr, Inhabited

/-- Why a file cannot be read. -/
inductive FileError where
  | missing
  | notADirectory
  | isADirectory
  | nameTooLong
  | zeroByte
deriving DecidableEq, Repr, Inhabited

/-- The text of an error. -/
def FileError.message : FileError → String
  | missing => "No such file or directory (os error 2)"
  | notADirectory => "Not a directory (os error 20)"
  | isADirectory => "Is a directory (os error 21)"
  | nameTooLong => "File name too long (os error 36)"
  | zeroByte => "file name contained an unexpected NUL byte"

/-- Files and directories by the names along their paths. -/
abbrev Files := List (List String × FileNode)

namespace Files

/-- The working directory; a path cannot spell its name out. -/
def workingDirectory : List String := ["tmp", "\x00"]

/-- The parts of a path between its slashes. -/
def parts (path : String) : List String := (path.toList.splitOn '/').map String.ofList

/-- The place of a path below the working directory. -/
def placeOf (path : String) : List String :=
  workingDirectory ++ (parts path).filter fun n => n != "" && n != "."

/-- What every system has, and an empty working directory. -/
def initial : Files :=
  (["bin", "dev", "etc", "home", "lib", "opt", "proc", "root", "run", "sbin", "sys",
    "tmp", "usr", "var"].map fun name => ([name], FileNode.directory)) ++
  [([], .directory), (["dev", "null"], .file []), (workingDirectory, .directory)]

/-- Puts a file or a directory in the place of what a path of the working directory names, or
removes that. The directories along the path are made if need be. -/
def set (files : Files) (path : String) (node : Option FileNode) : Files :=
  let place := placeOf path
  let rest := files.filter fun f => !place.isPrefixOf f.1
  match node with
  | none => rest
  | some node =>
    let above :=
      ((List.range place.length).map place.take).filter fun dir => (rest.lookup dir).isNone
    rest ++ above.map (fun dir => (dir, FileNode.directory)) ++ [(place, node)]

/-- The length of the longest name in bytes. -/
def longestName : Nat := 255

/-- The length of the longest path in bytes. -/
def longestPath : Nat := 4095

/-- Follows the parts of a path from a directory on. -/
def follow (files : Files) (dir : List String) : List String → Except FileError FileNode
  | [] => .ok .directory
  | part :: rest =>
    if part == "" || part == "." then follow files dir rest
    else if part == ".." then follow files dir.dropLast rest
    else if part.utf8ByteSize > longestName then .error .nameTooLong
    else match files.lookup (dir ++ [part]) with
      | none => .error .missing
      | some .directory => follow files (dir ++ [part]) rest
      | some (.file content) => if rest.isEmpty then .ok (.file content) else .error .notADirectory

/-- The content of a file, or why there is none. -/
def read (files : Files) (path : String) : Except FileError (List UInt8) :=
  if path.toList.contains '\x00' then .error .zeroByte
  else if path.isEmpty then .error .missing
  else if path.utf8ByteSize > longestPath then .error .nameTooLong
  else
    let start := if path.toList.head? == some '/' then [] else workingDirectory
    match follow files start (parts path) with
    | .ok (.file content) => .ok content
    | .ok .directory => .error .isADirectory
    | .error e => .error e

end Files

end TokenChain
