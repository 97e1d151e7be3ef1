/-!
# Directories

A directory of files, and what a path leads to in it.  A path is followed part by
part: an empty part and a point stay, two points go back, and a name goes on, where
every place that is passed must be a directory.  Names and paths have a greatest
length.  Nothing is known of what lies outside.
-/

namespace ArityLadder

/-- A directory: what stands under each path, given by its parts. -/
structure Directory where
  /-- The bytes of each file, and none for a directory. -/
  contents : List (List String × Option (List UInt8))

/-- Why a file cannot be read. -/
inductive ReadFault where
  /-- The path holds a character that ends a path for the system. -/
  | hasNul
  | tooLong
  | missing
  | notDirectory
  | isDirectory
  | notText
deriving DecidableEq

/-- The wording of a fault. -/
def ReadFault.message : ReadFault → String
  | hasNul => "file name contained an unexpected NUL byte"
  | tooLong => "File name too long (os error 36)"
  | missing => "No such file or directory (os error 2)"
  | notDirectory => "Not a directory (os error 20)"
  | isDirectory => "Is a directory (os error 21)"
  | notText => "stream did not contain valid UTF-8"

namespace Directory

/-- The parts of a path. -/
def parts (path : String) : List String := (path.toList.splitOn '/').map String.ofList

/-- A directory from the contents of its paths; none stands for a directory. -/
def ofPaths (contents : List (String × Option (List UInt8))) : Directory :=
  ⟨contents.map fun (path, bytes) => (parts path, bytes)⟩

/-- The bytes at a place, or none for a directory. -/
def at? (directory : Directory) (place : List String) : Option (Option (List UInt8)) :=
  match directory.contents.lookup place with
  | some bytes => some bytes
  | none =>
    if place = [] ∨ directory.contents.any (fun (path, _) => place.isPrefixOf path) then some none
    else none

/-- A place reached on the way along a path: inside the directory, or so many levels above it. -/
inductive Place where
  | inside (path : List String)
  | above (levels : Nat)
deriving DecidableEq

/-- The greatest number of bytes of a name. -/
def nameLimit : Nat := 255

/-- The greatest number of bytes of a path. -/
def pathLimit : Nat := 4095

/-- The place behind one more part of a path. -/
def step (directory : Directory) (place : Place) (part : String) : Except ReadFault Place :=
  match place with
  | .above levels =>
    if part = "" ∨ part = "." then .ok place
    else if part = ".." then .ok (.above (levels + 1))
    else if nameLimit < part.utf8ByteSize then .error .tooLong
    else .error .missing
  | .inside path =>
    match directory.at? path with
    | none => .error .missing
    | some (some _) => .error .notDirectory
    | some none =>
      if part = "" ∨ part = "." then .ok place
      else if part = ".." then
        .ok (if path = [] then .above 0 else .inside path.dropLast)
      else if nameLimit < part.utf8ByteSize then .error .tooLong
      else if (directory.at? (path ++ [part])).isSome then .ok (.inside (path ++ [part]))
      else .error .missing

/-- The bytes of the file that a path leads to. -/
def bytes (directory : Directory) (path : String) : Except ReadFault (List UInt8) :=
  if '\x00' ∈ path.toList then .error .hasNul
  else if pathLimit < path.utf8ByteSize then .error .tooLong
  else if path = "" then .error .missing
  else do
    let start : Place := if path.toList.head? = some '/' then .above 0 else .inside []
    match ← (parts path).foldlM directory.step start with
    | .above _ => .error .isDirectory
    | .inside place =>
      match directory.at? place with
      | none => .error .missing
      | some none => .error .isDirectory
      | some (some bytes) => .ok bytes

/-- The text of the file that a path leads to, or why it cannot be read. -/
def read (directory : Directory) (path : String) : Except String String :=
  match directory.bytes path with
  | .error fault => .error fault.message
  | .ok bytes =>
    match String.fromUTF8? ⟨bytes.toArray⟩ with
    | some text => .ok text
    | none => .error ReadFault.notText.message

end Directory

end ArityLadder
