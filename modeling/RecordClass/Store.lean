import RecordClass.FilePath
import RecordClass.Sink

/-! A tree of directories, and the place in it where a path leads. -/

namespace RecordClass

/-- What lies at a place of a tree. -/
inductive StoreEntry where
  | file (contents : String)
  | directory

/-- A tree of directories; a place is named by the names that lead to it from the root. -/
structure Store where
  entries : List (List String × StoreEntry)

namespace Store

/-- The tree that holds its root alone. -/
def empty : Store :=
  ⟨[]⟩

/-- What lies at a place. -/
def entry? (store : Store) (place : List String) : Option StoreEntry :=
  if place.isEmpty then some .directory else store.entries.lookup place

/-- The tree with something else at a place. -/
def set (store : Store) (place : List String) (entry : StoreEntry) : Store :=
  ⟨(place, entry) :: store.entries.filter (fun old => old.1 ≠ place)⟩

/-- Names of up to 255 bytes can lie in a directory. -/
def longestName : Nat :=
  255

/-- Paths of up to 4095 bytes can be followed. -/
def longestPath : Nat :=
  4095

/-- Enters directories one after the other. -/
def enter (store : Store) (place : List String) :
    List String → Except OutputFault (List String)
  | [] => .ok place
  | name :: rest =>
    if name = "." then store.enter place rest
    -- The root is its own parent.
    else if name = ".." then store.enter place.dropLast rest
    else if longestName < name.utf8ByteSize then .error .nameTooLong
    else
      match store.entry? (place ++ [name]) with
      | none => .error .noSuchPlace
      | some (.file _) => .error .notDirectory
      | some .directory => store.enter (place ++ [name]) rest

/-- The place where a file can be written under a path. -/
def placeOf (store : Store) (path : String) : Except OutputFault (List String) := do
  if path.toList.contains '\x00' then throw .nulInName
  if longestPath < path.utf8ByteSize then throw .nameTooLong
  let names := (FilePath.pieces path).filter (fun name => name ≠ "")
  let directory ← store.enter [] names.dropLast
  match names.getLast? with
  | none => throw .isDirectory
  | some name =>
    -- A slash behind the name, or a dot name, asks for a directory.
    if path.toList.getLast? = some '/' ∨ name = "." ∨ name = ".." then throw .isDirectory
    if longestName < name.utf8ByteSize then throw .nameTooLong
    match store.entry? (directory ++ [name]) with
    | some .directory => throw .isDirectory
    | _ => return directory ++ [name]

/-- Writes a file under a path; an older file there is replaced. -/
def write (store : Store) (path contents : String) : Except OutputFault Store := do
  return store.set (← store.placeOf path) (.file contents)

/-- The contents of the file under a path. -/
def read? (store : Store) (path : String) : Option String :=
  match store.placeOf path with
  | .ok place =>
    match store.entry? place with
    | some (.file contents) => some contents
    | _ => none
  | .error _ => none

/-- Makes directories in each other, from a place on. -/
def makeDirectories (place : List String) : List String → Store → Store
  | [], store => store
  | name :: rest, store =>
    makeDirectories (place ++ [name]) rest (store.set (place ++ [name]) .directory)

/-- Makes a directory under a path, with those that it lies in. -/
def makeDirectory (store : Store) (path : String) : Store :=
  makeDirectories [] ((FilePath.pieces path).filter fun name => name ≠ "" ∧ name ≠ ".") store

end Store

end RecordClass
