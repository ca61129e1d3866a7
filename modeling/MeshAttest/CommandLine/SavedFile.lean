import MeshAttest.Text.Split

/-!
# Files that are named

A name leads through directories to a file: its parts stand between slashes. `SavedFile.read` opens
a name where there is one file, in directories that have no other. What is wrong with a name shows
in its form, or in how it differs from the name of the file.
-/

set_option autoImplicit false

namespace MeshAttest

/-- Why a file cannot be read. -/
inductive FileFault where
  /-- There is a null character in the name. -/
  | nullInName
  | nameTooLong
  | notFound
  /-- The name is that of a directory. -/
  | isDirectory
  /-- The name leads through a file as if it were a directory. -/
  | notDirectory
deriving DecidableEq, Repr

/-- The message of a fault. -/
def FileFault.message : FileFault → String
  | .nullInName => "embedded null byte"
  | .nameTooLong => "The name of the file is too long"
  | .notFound => "There is no such file"
  | .isDirectory => "The file is a directory"
  | .notDirectory => "A directory in the name is a file"

namespace FileName

/-- The most octets of a name. -/
def maximumSize : Nat := 4095

/-- The most octets of a part of a name. -/
def maximumPartSize : Nat := 255

/-- The number of octets of a text. -/
def size (chars : List Char) : Nat := (chars.map Char.utf8Size).foldl (· + ·) 0

/-- The parts of a name. A dot is the place where it stands. -/
def parts (name : List Char) : List (List Char) :=
  (Text.pieces '/' name).filter fun part ↦ part != [] && part != ['.']

/-- Whether a name starts at the root. -/
def isAbsolute (name : List Char) : Bool := name.head? == some '/'

/-- Whether only a directory may bear a name: it ends in a slash or a dot behind one. -/
def endsInDirectory (name : List Char) : Bool :=
  ['/'].isSuffixOf name || ['/', '.'].isSuffixOf name

end FileName

/-- A file with its name, which starts at the root, and its text. -/
structure SavedFile where
  name : String
  text : String
deriving DecidableEq, Repr

namespace SavedFile

/-- Opens a name. Steps back lead to directories, and from the root to the root. -/
def read (file : SavedFile) (name : String) : Except FileFault String :=
  let chars := name.toList
  let down := (FileName.parts chars).dropWhile (· == ['.', '.'])
  let own := FileName.parts file.name.toList
  if '\x00' ∈ chars then .error .nullInName
  else if FileName.maximumSize < FileName.size chars then .error .nameTooLong
  else match down with
    | [] => .error (if chars = [] then .notFound else .isDirectory)
    | first :: _ =>
      if FileName.isAbsolute chars ∧ own.isPrefixOf down then
        if down = own ∧ !FileName.endsInDirectory chars then .ok file.text
        else .error .notDirectory
      else if FileName.maximumPartSize < FileName.size first then .error .nameTooLong
      else .error .notFound

end SavedFile

end MeshAttest
