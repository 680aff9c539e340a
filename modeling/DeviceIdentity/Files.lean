import DeviceIdentity.Text.Glyph
import DeviceIdentity.Text.Pieces

/-!
# Files

What a path leads to, and how it is read. Only what is read is described: a file with its bytes, or
a directory with its entries by name. Either may refuse to be read. A path is followed one name at a
time, and a fault is that of the first name that leads nowhere.

All names are texts. A name that is no text has no place here: no path leads to it, and where
directories are listed such an entry is passed over without a word.
-/
namespace DeviceIdentity

/-- Why something cannot be read from the file system. -/
inductive FileFault where
  | notFound
  | isDirectory
  | notDirectory
  | nameTooLong
  | nulInPath
  | notText
  /-- Any other failure, in the words of the system. -/
  | other (text : String)
deriving DecidableEq, Repr

/-- The text of a fault. -/
def FileFault.message : FileFault → String
  | notFound => "No such file or directory (os error 2)"
  | isDirectory => "Is a directory (os error 21)"
  | notDirectory => "Not a directory (os error 20)"
  | nameTooLong => "File name too long (os error 36)"
  | nulInPath => "file name contained an unexpected NUL byte"
  | notText => "stream did not contain valid UTF-8"
  | other text => text

/-- What a path leads to. -/
inductive Entry where
  | file (bytes : List UInt8)
  | directory (entries : List (String × Entry))
  /-- A directory of which the listing fails behind these entries. -/
  | cut (entries : List (String × Entry)) (fault : FileFault)
  /-- What cannot be opened. -/
  | closed (fault : FileFault)

namespace Entry

/-- The path of a name in a directory. A name that starts with a slash is a path of its own. -/
def pathOf (directory name : String) : String :=
  if name.toList.head? = some '/' then name
  else if directory.toList.getLast?.all (· = '/') then directory ++ name
  else directory ++ "/" ++ name

/-- The longest name that a file can have, in bytes. -/
def nameLimit : Nat := 255

/-- The longest path that can be followed, in bytes. -/
def pathLimit : Nat := 4095

/-- Whether a path can be followed at all, wherever it leads. -/
def checkPath (path : String) : Except FileFault Unit :=
  if '\x00' ∈ path.toList then .error .nulInPath
  else if pathLimit < (Text.utf8 path).length then .error .nameTooLong
  else .ok ()

/-- What names can lead to from an entry. Below a file there is nothing, not even the file itself
under a point. -/
def children : Entry → Except FileFault (List (String × Entry))
  | file _ => .error .notDirectory
  | directory entries | cut entries _ => .ok entries
  | closed fault => .error fault

/-- What names lead to from an entry, one after the other. A point or no name at all stays in the
directory, two points go back to the one around it, which is the first of `outer`. -/
def walk (outer : List Entry) (e : Entry) : List (List Char) → Except FileFault Entry
  | [] => .ok e
  | name :: rest => do
    let entries ← e.children
    if name = [] ∨ name = ['.'] then walk outer e rest
    else if name = ['.', '.'] then
      match outer with
      | [] => walk [] e rest
      | parent :: outer => walk outer parent rest
    else if nameLimit < (Text.utf8 (String.ofList name)).length then .error .nameTooLong
    else
      match entries.lookup (String.ofList name) with
      | some child => walk (e :: outer) child rest
      | none => .error .notFound

/-- What a path leads to from the root of all directories. -/
def follow (root : Entry) (path : String) : Except FileFault Entry := do
  checkPath path
  walk [] root (Text.pieces '/' path.toList)

/-- The text of a file. -/
def text : Entry → Except FileFault String
  | directory _ | cut _ _ => .error .isDirectory
  | closed fault => .error fault
  | file bytes =>
    match Text.ofUtf8? bytes with
    | some text => .ok text
    | none => .error .notText

/-- The text of a file that is opened under a path. -/
def textAt (path : String) (e : Entry) : Except FileFault String := do
  checkPath path
  e.text

/-- The text of a file that need not be there. -/
def readText : Option Entry → Except FileFault String
  | none => .error .notFound
  | some e => e.text

/-- The entries of a directory as they are listed, and the fault with which the listing ends, if
there is one. -/
def listing : Entry → Except FileFault (List (String × Entry) × Option FileFault)
  | file _ => .error .notDirectory
  | directory entries => .ok (entries, none)
  | cut entries fault => .ok (entries, some fault)
  | closed fault => .error fault

/-- The entries of a directory that is listed to the end. -/
def list (e : Entry) : Except FileFault (List (String × Entry)) := do
  match ← e.listing with
  | (entries, none) => return entries
  | (_, some fault) => .error fault

end Entry

end DeviceIdentity
