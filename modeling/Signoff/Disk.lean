import Signoff.Text.Pieces

namespace Signoff

/-- These are the names on the way from the starting folder. -/
abbrev Disk.Path := List String

/-- Paths begin at the folder in which the programs stand, and nothing outside of it is known. -/
structure Disk (Content : Type) where
  folders : List Disk.Path
  files : List (Disk.Path × Content)

namespace Disk

variable {Content : Type}

/-- This is a disk with empty folders. -/
def ofFolders (folders : List Path) : Disk Content :=
  ⟨folders, []⟩

/-- The starting folder is always there. -/
def isFolder (disk : Disk Content) (path : Path) : Bool :=
  path.isEmpty || disk.folders.contains path

def contentAt? (disk : Disk Content) (path : Path) : Option Content :=
  disk.files.lookup path

/-- A file can stand only in a folder that is there. -/
def hasPlaceFor (disk : Disk Content) (path : Path) : Bool :=
  !disk.isFolder path && disk.isFolder path.dropLast

/-- A file that is there already takes the new content. -/
def put (disk : Disk Content) (path : Path) (content : Content) : Disk Content :=
  { disk with
    files := (path, content) :: disk.files.filter fun file => decide (file.1 ≠ path) }

/-- These are the names between the slashes of a path. -/
def names (text : String) : List String :=
  (Text.pieces '/' text.toList).map String.ofList

def joinedNames (names : List String) : String :=
  String.ofList (Text.joined '/' (names.map String.toList))

/-- An empty name and a single dot stay in a folder. -/
def staysInPlace (name : String) : Bool :=
  name = "" || name = "."

/-- Two dots lead to the folder above. -/
def leadsUp (name : String) : Bool :=
  name = ".."

/-- Every name but the last has to lead to a folder. -/
def follow? (disk : Disk Content) (place : Path) : List String → Option Path
  | [] => some place
  | name :: rest =>
      if !disk.isFolder place then none
      else if staysInPlace name then follow? disk place rest
      else if leadsUp name then
        if place.isEmpty then none else follow? disk place.dropLast rest
      else follow? disk (place ++ [name]) rest

/-- A path that begins with a slash leads to a place that is not known. -/
def find? (disk : Disk Content) (text : String) : Option Content :=
  match names text with
  | "" :: _ :: _ => none
  | parts => (disk.follow? [] parts).bind disk.contentAt?

/-- The name before two dots need not be there, but it must not stand below a file. -/
def settle? (disk : Disk Content) (place : Path) : List String → Option Path
  | [] => some place
  | name :: rest =>
      if staysInPlace name then settle? disk place rest
      else if leadsUp name then
        if place.isEmpty then none else settle? disk place.dropLast rest
      else if (disk.contentAt? place).isSome then none
      else settle? disk (place ++ [name]) rest

end Disk

end Signoff
