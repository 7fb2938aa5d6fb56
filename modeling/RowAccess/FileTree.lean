import RowAccess.Text.Split

/-!
# File trees

What files are there, and what reading one by its path gives. A path is cut at its slashes; empty
parts and single points in it lead nowhere, and two points lead one directory up.
-/

namespace RowAccess

/-- A file with its bytes, or a directory. -/
inductive FileTree
  | file (bytes : ByteArray)
  | directory (entries : List (String × FileTree))

/-- Why a file cannot be read as text. -/
inductive FileFault
  | notFound
  | notDirectory
  | isDirectory
  | nameTooLong
  | nulInPath
  | notText
deriving Repr, DecidableEq

def FileFault.reason : FileFault → String
  | notFound => "No such file or directory (os error 2)"
  | notDirectory => "Not a directory (os error 20)"
  | isDirectory => "Is a directory (os error 21)"
  | nameTooLong => "File name too long (os error 36)"
  | nulInPath => "file name contained an unexpected NUL byte"
  | notText => "stream did not contain valid UTF-8"

namespace FileTree

/-- The most bytes of a part of a path. -/
def longestName : Nat := 255

/-- The most bytes of a path. -/
def longestPath : Nat := 4095

/-- Follows the parts of a path. `up` holds the directories above the current place, the nearest
first. -/
def follow : List FileTree → FileTree → List String → Except FileFault FileTree
  | _, here, [] => .ok here
  | up, here, part :: rest =>
      match here with
      | file _ => .error .notDirectory
      | directory entries =>
          if part = "" ∨ part = "." then follow up here rest
          else if part = ".." then
            match up with
            | [] => follow [] here rest
            | parent :: up => follow up parent rest
          else if longestName < part.utf8ByteSize then .error .nameTooLong
          else
            match entries.lookup part with
            | some next => follow (here :: up) next rest
            | none => .error .notFound

/-- The bytes of the file at a path. A path that does not begin at the root begins there all the
same. -/
def bytesAt (root : FileTree) (path : String) : Except FileFault ByteArray :=
  if path.toList.contains '\x00' then .error .nulInPath
  else if path.isEmpty then .error .notFound
  else if longestPath < path.utf8ByteSize then .error .nameTooLong
  else
    match follow [] root ((Text.splitAtEvery (· == '/') path.toList).map String.ofList) with
    | .error f => .error f
    | .ok (directory _) => .error .isDirectory
    | .ok (file bytes) => .ok bytes

/-- Bytes as text. -/
def text (bytes : ByteArray) : Except FileFault String :=
  match String.fromUTF8? bytes with
  | some s => .ok s
  | none => .error .notText

/-- The text of the file at a path. -/
def textAt (root : FileTree) (path : String) : Except FileFault String :=
  (root.bytesAt path).bind text

/-- A system without files but the empty device. -/
def bare : FileTree :=
  let empty := directory []
  directory
    (("dev", directory [("null", file .empty)]) ::
      ["bin", "boot", "etc", "home", "lib", "media", "mnt", "opt", "proc", "root", "run", "sbin",
        "srv", "sys", "tmp", "usr", "var"].map fun name => (name, empty))

end FileTree

end RowAccess
