import Signoff.Evaluation

namespace Signoff

/-- Pages are numbered from one, and page zero is the first page as well. -/
structure PageRequest where
  page : Nat
  perPage : Nat
deriving DecidableEq

namespace PageRequest

def standard : PageRequest := ⟨1, 20⟩

/-- This many items stand before the page. -/
def offset (request : PageRequest) : Nat :=
  (request.page - 1) * request.perPage

def limit (request : PageRequest) : Nat :=
  request.perPage

end PageRequest

structure PageMeta where
  page : Nat
  perPage : Nat
  total : Nat
  totalPages : Nat
deriving DecidableEq

/-- There is always one page, also of an empty list. -/
def countPages (total perPage : Nat) : Nat :=
  if total = 0 ∨ perPage = 0 then 1
  else min ((total + perPage - 1) / perPage) greatestCount

def PageRequest.metaFor (request : PageRequest) (total : Nat) : PageMeta :=
  ⟨request.page, request.perPage, total, countPages total request.perPage⟩

/-- These are the items of one page and its place among all. -/
structure Page (Item : Type) where
  data : List Item
  info : PageMeta

/-- This is the part of a list that a page shows. -/
def PageRequest.slice {Item : Type} (request : PageRequest) (items : List Item) : List Item :=
  (items.drop request.offset).take request.limit

end Signoff
