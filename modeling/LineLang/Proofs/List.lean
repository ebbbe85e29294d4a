/-!
# Lists

What a list has at a place, it has there when more elements follow.
-/

namespace List

variable {α : Type} {as bs : List α} {i : Nat} {a : α}

theorem getElem?_append_of_eq_some (h : as[i]? = some a) : (as ++ bs)[i]? = some a := by
  rw [getElem?_append_left (getElem?_eq_some_iff.1 h).1, h]

end List
