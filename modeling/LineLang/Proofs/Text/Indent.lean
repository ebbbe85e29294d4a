import LineLang.Argument
import LineLang.Text.Indent

/-!
# Indentation and its inverse

Taking one unit of indentation off a line undoes putting one on it (`dedent?_eq_some_iff`).
-/

namespace LineLang

namespace Text

theorem after?_eq_some_iff {start cs rest : List Char} :
    after? start cs = some rest ↔ cs = start ++ rest := by
  induction start generalizing cs with
  | nil => simp [after?, eq_comm]
  | cons a start ih =>
    cases cs with
    | nil => simp [after?]
    | cons c cs =>
      by_cases same : a = c
      · simp [after?, same, ih]
      · have differ : ¬ c = a := fun h => same h.symm
        simp [after?, same, differ]

/-- A line with one unit of indentation put in front of it. -/
def indented (line : String) : String :=
  String.ofList (indent ++ line.toList)

theorem dedent?_eq_some_iff {line body : String} :
    dedent? line = some body ↔ line = indented body := by
  simp only [dedent?, indented, Option.map_eq_some_iff, after?_eq_some_iff]
  constructor
  · rintro ⟨cs, split, rfl⟩
    rw [String.toList_ofList, ← split, String.ofList_toList]
  · rintro rfl
    exact ⟨body.toList, String.toList_ofList, String.ofList_toList⟩

theorem isIndented_iff {line : String} : isIndented line = true ↔ ∃ body, line = indented body := by
  simp only [isIndented, Option.isSome_iff_exists, dedent?_eq_some_iff]

theorem isIndented_eq_false_iff {line : String} :
    isIndented line = false ↔ dedent? line = none := by
  rw [isIndented, Option.isSome_eq_false_iff, Option.isNone_iff_eq_none]

end Text

theorem eq_some_of_readName {token? : Option String} {name : String}
    (h : readName token? = .ok name) : token? = some name := by
  unfold readName at h
  split at h
  · split at h
    · cases h
      rfl
    · cases h
  · cases h

end LineLang
