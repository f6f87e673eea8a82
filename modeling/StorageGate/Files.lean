/-!
# Files

A tree of files, and what reading a path of it gives.  A path is followed name by name, from the top if it starts with a
slash and else from the working directory.  Each name but the last must be that of a directory, and a path that ends in a
slash ends in an empty name, which stands for the directory itself as a lone dot does; so what follows a file is in the
way of reading, while what follows nothing is missing.
-/
namespace StorageGate

/-- What reading a path gives. -/
inductive Reading where
  | text (content : String)
  /-- Nothing is there. -/
  | missing
  /-- The path is too long or holds a NUL, leads through a file, or is that of a directory. -/
  | unreadable
deriving DecidableEq, Repr

/-- What can be at a place. -/
inductive FileEntry where
  | directory
  | file (content : String)
deriving DecidableEq, Repr

/-- A tree of files.  A place is given by the names that lead there from the top, which is a directory always. -/
structure FileTree where
  entries : List (List String × FileEntry)
  /-- The place of the working directory. -/
  working : List String := []
deriving DecidableEq, Repr

namespace FileTree

/-- How many bytes a name may have. -/
def longestName : Nat := 255

/-- How many bytes a path may have. -/
def longestPath : Nat := 4095

/-- What is at a place. -/
def entry? (files : FileTree) (place : List String) : Option FileEntry :=
  if place.isEmpty then some .directory else files.entries.lookup place

/-- What the names of a path lead to from a place. -/
def follow (files : FileTree) (place : List String) : List String → Reading
  | [] =>
    match files.entry? place with
    | some (.file content) => .text content
    | some .directory => .unreadable
    | none => .missing
  | name :: names =>
    match files.entry? place with
    | some .directory =>
      if name = "" ∨ name = "." then files.follow place names
      else if name = ".." then files.follow place.dropLast names
      else if longestName < name.utf8ByteSize then .unreadable
      else files.follow (place ++ [name]) names
    | some (.file _) => .unreadable
    | none => .missing

/-- What reading a path gives.  The form of a path is judged before it is followed. -/
def read (files : FileTree) (path : String) : Reading :=
  if longestPath < path.utf8ByteSize ∨ path.contains '\x00' then .unreadable
  else if path.isEmpty then .missing
  else
    let names := (path.toList.splitOn '/').map String.ofList
    files.follow (if names.head? = some "" then [] else files.working) names

end FileTree
end StorageGate
