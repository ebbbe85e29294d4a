/-!
# Records

A record takes entries one after the other and gives them back in that order. The lines that a
session has written and the events that it has noted are records.
-/

namespace LineLang

/-- Entries in the order in which they were added. -/
structure Record (α : Type) where
  newestFirst : List α := []
  deriving DecidableEq, Repr

namespace Record

variable {α : Type}

/-- The entries, oldest first. -/
def toList (r : Record α) : List α :=
  r.newestFirst.reverse

/-- Adds one entry. -/
def add (r : Record α) (a : α) : Record α :=
  ⟨a :: r.newestFirst⟩

/-- Adds several entries, the first of them first. -/
def addAll (r : Record α) (as : List α) : Record α :=
  as.foldl add r

/-- Hands out all entries and starts afresh. -/
def take (r : Record α) : List α × Record α :=
  (r.toList, {})

@[simp]
theorem toList_empty : ({} : Record α).toList = [] :=
  rfl

@[simp]
theorem toList_add (r : Record α) (a : α) : (r.add a).toList = r.toList ++ [a] := by
  simp [toList, add]

@[simp]
theorem toList_addAll (r : Record α) (as : List α) : (r.addAll as).toList = r.toList ++ as := by
  induction as generalizing r with
  | nil => simp [addAll]
  | cons a as ih => simpa [addAll] using ih (r.add a)

end Record

end LineLang
