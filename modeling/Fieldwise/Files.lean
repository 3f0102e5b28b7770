import Fieldwise.Error
import Fieldwise.Text.Utf8

/-!
# Files

What the library needs to know of a file system is what reading a file yields, and why a file cannot be
written if it cannot. A `Folder` is a file system of its own, made of the files in one directory and
below it.
-/

namespace Fieldwise

/-- Yields the bytes of a file. -/
abbrev FileReader := String → Except FileError (List UInt8)

/-- The text of a file. -/
def FileReader.readText (read : FileReader) (path : String) : Except FileError String := do
  let bytes ← read path
  (Utf8.decodeString bytes).mapError fun _ => .notUtf8

/-- Files by the names of the directories around them and their own. -/
structure Folder where
  files : List (List String × List UInt8)

namespace Folder

/-- The names that a plain path passes, those that lead nowhere left out. -/
def names (path : String) : List String :=
  (path.splitOn "/").filter fun n => !(n.isEmpty || n == ".")

/-- What a path leads to. What lies outside the folder is not known. -/
inductive Target where
  | file (content : List UInt8)
  | directory
  /-- A name that is free, in a directory that is there. -/
  | absent
  /-- A name in a directory that is not there. -/
  | astray
  /-- A name in a file. -/
  | throughFile
  | outside

/-- What names lead to, one after the other, from a directory of the folder. -/
def walk (f : Folder) (directory : List String) : List String → Target
  | [] => .directory
  | "." :: rest => f.walk directory rest
  | ".." :: rest =>
    if directory.isEmpty then (if rest.isEmpty then .directory else .outside)
    else f.walk directory.dropLast rest
  | name :: rest =>
    let here := directory ++ [name]
    match f.files.lookup here with
    | some content => if rest.isEmpty then .file content else .throughFile
    | none =>
      if f.files.any (fun e => here.isPrefixOf e.1) then f.walk here rest
      else if rest.isEmpty then .absent
      else .astray

/-- What a path leads to. A path that ends in a slash leads to no file. -/
def target (f : Folder) (path : String) : Target :=
  if path.isEmpty then .astray
  else if path.startsWith "/" then .outside
  else
    match f.walk [] ((path.splitOn "/").filter fun n => !n.isEmpty) with
    | .file content => if path.endsWith "/" then .throughFile else .file content
    | t => t

/-- Reads a file of the folder. -/
def read (f : Folder) : FileReader := fun path =>
  match f.target path with
  | .file content => .ok content
  | .directory => .error .isDirectory
  | .throughFile => .error .notDirectory
  | .absent | .astray | .outside => .error .missing

/-- Why a file cannot be written. A file is made where a name is free. -/
def writeFault? (f : Folder) (path : String) : Option FileError :=
  match f.target path with
  | .file _ => none
  | .directory => some .isDirectory
  | .throughFile => some .notDirectory
  | .absent => if path.endsWith "/" then some .isDirectory else none
  | .astray | .outside => some .missing

end Folder

end Fieldwise
