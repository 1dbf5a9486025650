/-
  Purse.Proofs.Query.Windows

  Pages of one size cut a listing into pieces: put together again they are the listing
  (`flatMap_window`), all but the last are full (`length_window_numbered`), and those behind the
  last are empty (`window_numbered_eq_nil`).  How many there are is the length divided by the size,
  rounded up.
-/
import Mathlib.Algebra.Order.Floor.Div
import Mathlib.GroupTheory.GroupAction.Ring
import Purse.Query.Page

namespace Purse.Query

variable {α : Type}

/-- A page can be asked for when its number is not below one and its size is in the bounds. -/
theorem PageRequest.exists_make {page size : Nat} :
    (∃ request, PageRequest.make page size = .ok request ∧ request.page = page ∧
      request.size = size) ↔ 1 ≤ page ∧ 1 ≤ size ∧ size ≤ largestPage := by
  unfold PageRequest.make
  split
  · next numbered =>
      split
      · next bounded => exact ⟨fun _ => ⟨numbered, bounded⟩, fun _ => ⟨_, rfl, rfl, rfl⟩⟩
      · next bounded => exact ⟨nofun, fun h => absurd h.2 bounded⟩
  · next numbered => exact ⟨nofun, fun h => absurd h.1 numbered⟩

namespace PageRequest

variable {request : PageRequest} {rows : List α}

/-- The page of the same size with `k` others before it. -/
def numbered (request : PageRequest) (k : Nat) : PageRequest :=
  { request with page := k + 1, one_le_page := Nat.succ_pos k }

/-- The number of pages of a listing. -/
def pages (request : PageRequest) (count : Nat) : Nat := count ⌈/⌉ request.size

theorem size_pos (request : PageRequest) : 0 < request.size := request.one_le_size

theorem offset_numbered (k : Nat) : (request.numbered k).offset = k * request.size := rfl

theorem window_numbered (k : Nat) :
    (request.numbered k).window rows = (rows.drop (k * request.size)).take request.size := rfl

theorem pages_le_iff {count k : Nat} : request.pages count ≤ k ↔ count ≤ k * request.size := by
  rw [pages, ceilDiv_le_iff_le_mul request.size_pos, Nat.mul_comm]

theorem lt_pages_iff {count k : Nat} : k < request.pages count ↔ k * request.size < count := by
  rw [← Nat.not_le, pages_le_iff, Nat.not_le]

/-- The rows of a page are those from its offset up to the offset of the next one, as far as the
    listing goes. -/
theorem window_eq_extract (request : PageRequest) (rows : List α) :
    request.window rows = rows.extract ((request.page - 1) * request.size)
      (min (request.page * request.size) rows.length) := by
  have next : request.page * request.size = request.offset + request.size := by
    obtain ⟨before, number⟩ := Nat.exists_eq_add_of_le' request.one_le_page
    rw [offset, number, Nat.add_sub_cancel, Nat.add_mul, Nat.one_mul]
  rw [List.extract_eq_take_drop, ← offset, window, List.take_eq_take_iff, List.length_drop, next]
  omega

theorem length_window (request : PageRequest) (rows : List α) :
    (request.window rows).length = min request.size (rows.length - request.offset) := by
  rw [window, List.length_take, List.length_drop]

/-- A page with another one behind it is full. -/
theorem length_window_numbered {k : Nat} (another : k + 1 < request.pages rows.length) :
    ((request.numbered k).window rows).length = request.size := by
  have below : (k + 1) * request.size < rows.length := lt_pages_iff.1 another
  rw [Nat.add_mul, Nat.one_mul] at below
  have left : request.size ≤ rows.length - k * request.size := by omega
  rw [length_window, offset_numbered]
  exact Nat.min_eq_left left

theorem window_numbered_ne_nil {k : Nat} (there : k < request.pages rows.length) :
    (request.numbered k).window rows ≠ [] := by
  have below : k * request.size < rows.length := lt_pages_iff.1 there
  have size : 0 < request.size := request.size_pos
  rw [← List.length_pos_iff, length_window, offset_numbered]
  exact Nat.lt_min.2 ⟨size, Nat.sub_pos_of_lt below⟩

/-- Behind the last page there is nothing. -/
theorem window_numbered_eq_nil {k : Nat} (past : request.pages rows.length ≤ k) :
    (request.numbered k).window rows = [] := by
  rw [window_numbered, List.drop_eq_nil_of_le (pages_le_iff.1 past), List.take_nil]

/-- The first `n` pages are the front of the listing, as far as they reach. -/
theorem flatMap_window_take (request : PageRequest) (rows : List α) (n : Nat) :
    ((List.range n).flatMap fun k => (request.numbered k).window rows) =
      rows.take (n * request.size) := by
  induction n with
  | zero => rw [List.range_zero, List.flatMap_nil, Nat.zero_mul, List.take_zero]
  | succ n ih =>
      rw [List.range_succ, List.flatMap_append, List.flatMap_singleton, ih, window_numbered,
        Nat.add_mul, Nat.one_mul, List.take_add]

/-- All pages together are the listing. -/
theorem flatMap_window (request : PageRequest) (rows : List α) :
    ((List.range (request.pages rows.length)).flatMap fun k => (request.numbered k).window rows) =
      rows := by
  rw [flatMap_window_take]
  exact List.take_of_length_le (pages_le_iff.1 (Nat.le_refl _))

end PageRequest

/-- What makes windows the pages of a listing: each has the rows between its offset and the next,
    together they are the listing, and only the last one may be less than full, without being
    empty. Later ones are empty. -/
structure Cuts (request : PageRequest) (rows : List α) : Prop where
  eq_extract : ∀ k, (request.numbered k).window rows =
    rows.extract (k * request.size) (min ((k + 1) * request.size) rows.length)
  together : ((List.range (request.pages rows.length)).flatMap fun k =>
    (request.numbered k).window rows) = rows
  full : ∀ k, k + 1 < request.pages rows.length →
    ((request.numbered k).window rows).length = request.size
  last : ∀ k, k + 1 = request.pages rows.length → (request.numbered k).window rows ≠ []
  past : ∀ k, request.pages rows.length ≤ k → (request.numbered k).window rows = []

theorem PageRequest.cuts (request : PageRequest) (rows : List α) : Cuts request rows where
  eq_extract k := (request.numbered k).window_eq_extract rows
  together := request.flatMap_window rows
  full _ := length_window_numbered
  last _ h := window_numbered_ne_nil (Nat.lt_of_succ_le (Nat.le_of_eq h))
  past _ := window_numbered_eq_nil

end Purse.Query
