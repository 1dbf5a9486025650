/-
  Purse.Query.Page

  Windows on a listing.  A request holds a page number from one and a page size in its
  bounds, so its window is always well defined; a page says how the window stands in
  the whole listing.
-/
import Purse.Query.Error

namespace Purse.Query

/-- A page number and a page size that can be asked for. -/
structure PageRequest where
  page : Nat
  size : Nat
  one_le_page : 1 ≤ page
  one_le_size : 1 ≤ size
  size_le : size ≤ largestPage

namespace PageRequest

/-- The size of a page when none is asked for. -/
def defaultSize : Nat := 20

/-- The first page in the default size. -/
def first : PageRequest := ⟨1, defaultSize, by decide, by decide, by decide⟩

/-- The request for a page; the number is checked before the size. -/
def make (page size : Nat) : Except QueryError PageRequest :=
  if hp : 1 ≤ page then
    if hs : 1 ≤ size ∧ size ≤ largestPage then .ok ⟨page, size, hp, hs.1, hs.2⟩
    else .error (.invalidPage .sizeOutOfBounds)
  else .error (.invalidPage .pageBelowOne)

/-- The rows before the page. -/
def offset (request : PageRequest) : Nat := (request.page - 1) * request.size

/-- The rows of a listing that are on the page. -/
def window (request : PageRequest) (rows : List α) : List α :=
  (rows.drop request.offset).take request.size

end PageRequest

/-- One window of a listing. -/
structure Page (α : Type) where
  page : Nat
  size : Nat
  totalPages : Nat
  totalCount : Nat
  rows : List α
  deriving Repr

namespace Page

/-- The page with the given rows, out of `totalCount` rows. -/
def ofRows (request : PageRequest) (totalCount : Nat) (rows : List α) : Page α :=
  { page := request.page, size := request.size, rows, totalCount
    totalPages := (totalCount + request.size - 1) / request.size }

/-- The number of rows on the page. -/
def rowsOnPage (page : Page α) : Nat := page.rows.length

/-- The page with every row changed. -/
def map (f : α → β) (page : Page α) : Page β := { page with rows := page.rows.map f }

end Page

end Purse.Query
