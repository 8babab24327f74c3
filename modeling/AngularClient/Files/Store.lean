import AngularClient.Dictionary

namespace AngularClient

/-- Names down from the current directory, after as many `..` as lead up from it; or names down from
the root, after an empty name. -/
abbrev Place := List String

namespace Place

def isAbove (place : Place) : Bool := place.all (· == "..") || place == [""]

def step (place : Place) (name : String) : Place :=
  if name ≠ ".." then place ++ [name]
  else if place == [""] then place
  else if place.isAbove then place ++ [".."]
  else place.dropLast

def spell (place : Place) : String := "/".intercalate place

def maxNameSize : Nat := 255

def isNameable (place : Place) : Bool :=
  place.getLast?.all fun name => name.utf8ByteSize ≤ maxNameSize

end Place

namespace Path

def maxSize : Nat := 4095

def isAllowed (path : String) : Bool :=
  path.utf8ByteSize ≤ maxSize && !path.toList.contains '\x00'

end Path

structure Route where
  parent : String
  through : List Place
  target : Place
  /-- Whether the spelling admits a directory only, as a slash at the end does. -/
  needsDirectory : Bool
  deriving DecidableEq

namespace Route

def parts (path : String) : List String := (path.toList.splitOn '/').map String.ofList

def staysPut (part : String) : Bool := part = "" || part = "."

def places (start : Place) : List String → List Place
  | [] => []
  | name :: rest => start.step name :: places (start.step name) rest

def parentParts (parts : List String) : List String :=
  ((parts.reverse.dropWhile staysPut).drop 1 |>.dropWhile staysPut).reverse

def ofPath? (path : String) : Option Route :=
  if path.isEmpty then none
  else
    let parts := parts path
    let start := if path.toList.head? = some '/' then [""] else []
    let visited := places start (parts.filter (! staysPut ·))
    some {
      parent := "/".intercalate (parentParts parts)
      through := visited.dropLast
      target := visited.getLast?.getD start
      needsDirectory := parts.getLast?.any fun part => staysPut part || part = ".."
    }

end Route

inductive FileEntry
  | file (content : ByteArray)
  | directory

def FileEntry.isDirectory : FileEntry → Bool
  | .file _ => false
  | .directory => true

abbrev FileStore := Dictionary FileEntry

namespace FileStore

def at? (store : FileStore) (place : Place) : Option FileEntry :=
  if place.isAbove then some .directory else Dictionary.find? store place.spell

def isDirectory (store : FileStore) (place : Place) : Bool :=
  (store.at? place).any (·.isDirectory)

def lookup? (store : FileStore) (path : String) : Option FileEntry := do
  let route ← Route.ofPath? path
  guard (Path.isAllowed path && route.through.all store.isDirectory)
  let entry ← store.at? route.target
  if route.needsDirectory && !entry.isDirectory then none else some entry

def contains (store : FileStore) (path : String) : Bool := (store.lookup? path).isSome

def read? (store : FileStore) (path : String) : Option ByteArray := do
  match ← store.lookup? path with
  | .file content => some content
  | .directory => none

def readText? (store : FileStore) (path : String) : Option String := do
  String.fromUTF8? (← store.read? path)

def makeDirectories (store : FileStore) : List Place → FileStore × Bool
  | [] => (store, true)
  | place :: rest =>
    match store.at? place with
    | some .directory => makeDirectories store rest
    | some (.file _) => (store, false)
    | none =>
      if place.isNameable then
        makeDirectories (Dictionary.insert place.spell .directory store) rest
      else (store, false)

def makeWay (store : FileStore) (route : Route) : FileStore × Bool :=
  if Path.isAllowed route.parent then store.makeDirectories route.through else (store, false)

/-- Writes a file, after making the directories that lead to it.  The flag tells whether the file
was written; if not, all files are as they were, but directories may have been made. -/
def write (store : FileStore) (path : String) (content : ByteArray) : FileStore × Bool :=
  match Route.ofPath? path with
  | none => (store, false)
  | some route =>
    let (store, ready) := store.makeWay route
    if ready && Path.isAllowed path && route.target.isNameable && !route.needsDirectory &&
        !store.isDirectory route.target then
      (Dictionary.insert route.target.spell (.file content) store, true)
    else (store, false)

def writeText (store : FileStore) (path text : String) : FileStore × Bool :=
  store.write path text.toUTF8

end FileStore

end AngularClient
