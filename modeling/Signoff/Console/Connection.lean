import Signoff.Console.DatabaseRequest
import Signoff.Disk
import Signoff.Store.Basic

namespace Signoff.Console

/-- A database can hold the list of applied migrations before there are any tables. -/
structure Database where
  hasHistory : Bool
  tables : Option Store.Tables
deriving DecidableEq

def Database.empty : Database := ⟨false, none⟩

/-- A file holds a text or a database. -/
inductive FileContent where
  | text (value : String)
  | database (value : Database)
deriving DecidableEq

namespace FileContent

/-- A database with nothing in it is an empty file. -/
def text? : FileContent → Option String
  | text value => some value
  | database value => if value = .empty then some "" else none

/-- An empty file is a database with nothing in it. -/
def database? : FileContent → Option Database
  | text value => if value = "" then some .empty else none
  | database value => some value

end FileContent

/-- This is an open database. -/
structure Connection where
  database : Database
  canWrite : Bool
deriving DecidableEq

/-- A temporary file has no path. -/
structure OpenFile where
  path : Option Disk.Path
  content : FileContent
  canWrite : Bool
deriving DecidableEq

namespace OpenFile

/-- The name of a file has at most so many bytes. -/
def greatestNameSize : Nat := 255

/-- While a database is changed, a file beside it has a name that is longer by so many bytes. -/
def journalNameSize : Nat := 8

def hasNameOfSize (size : Nat) (name : String) : Bool :=
  name.utf8ByteSize ≤ size

/-- A name that begins with a slash leads to a place that is not known. -/
def path? (disk : Disk FileContent) (name : String) : Option Disk.Path :=
  match Disk.names name with
  | "" :: _ => none
  | names =>
      if names.all (hasNameOfSize greatestNameSize) then
        (disk.settle? [] names).filter fun path => !disk.isFolder path
      else none

/-- A change needs room for the longer name. -/
def canChange (opening : DatabaseOpening) (path : Disk.Path) : Bool :=
  opening.access != .reading && !opening.isFrozen &&
    path.all (hasNameOfSize (greatestNameSize - journalNameSize))

/-- A file has to be there already, unless it may be made. -/
def ofOpening? (disk : Disk FileContent) (opening : DatabaseOpening) : Option OpenFile :=
  match opening.place with
  | .temporary => some ⟨none, .database .empty, canChange opening []⟩
  | .file name =>
      (path? disk name).bind fun path =>
        match disk.contentAt? path with
        | some content => some ⟨some path, content, canChange opening path⟩
        | none =>
            if opening.access = .creating && disk.hasPlaceFor path then
              some ⟨some path, .database .empty, canChange opening path⟩
            else none

/-- This function opens the file that is asked for. -/
def ofRequest? (disk : Disk FileContent) (request : DatabaseRequest) : Option OpenFile :=
  request.opening?.bind (ofOpening? disk)

/-- A file can hold something that is no database. -/
def connection? (file : OpenFile) : Option Connection :=
  file.content.database?.map fun database => ⟨database, file.canWrite⟩

/-- A temporary file is not kept. -/
def keep (file : OpenFile) (database : Database) (disk : Disk FileContent) : Disk FileContent :=
  match file.path with
  | some path => disk.put path (.database database)
  | none => disk

end OpenFile

end Signoff.Console
