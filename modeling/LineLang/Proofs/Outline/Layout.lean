import LineLang.Outline
import LineLang.Proofs.Text.Indent

/-!
# The layout of a script

A script that is read without a fault has a simple layout (`WellLaid`): indented lines stand right
below a header or below one another, and every other line is a statement. So the statements of the
main program can be told from the bodies by their indentation alone (`main_of_scan`), which is what
passing over a body relies on (`WellLaid.dropWhile`).

All this is said of vocabularies in which an indented line is no statement.
-/

namespace LineLang

namespace Outline

variable {v : Vocabulary} {taken : String → Bool} {k : Int} {lines : List String} {line : String}
  {o o' : Outline} {inBody : Bool}

/-- The lines that are not indented. -/
def atMargin (lines : List String) : List String :=
  lines.filter fun line => !Text.isIndented line

/-- Lines below a header or a body, if `inBody`, or below another statement: only a header and the
body below it are followed by an indented line, and every other line is a statement. -/
inductive WellLaid (v : Vocabulary) : Bool → List String → Prop
  | nil (inBody : Bool) : WellLaid v inBody []
  | body {line : String} {lines : List String} (indented : Text.isIndented line = true)
      (rest : WellLaid v true lines) : WellLaid v true (line :: lines)
  | statement {inBody : Bool} {line : String} {lines : List String} {statement : Statement}
      (margin : Text.isIndented line = false) (parsed : v.parse line = .ok statement)
      (rest : WellLaid v (statement.command = header) lines) : WellLaid v inBody (line :: lines)

/-! ## Passing over a body -/

theorem atMargin_dropWhile (lines : List String) :
    atMargin (lines.dropWhile Text.isIndented) = atMargin lines := by
  induction lines with
  | nil => rfl
  | cons line lines ih =>
    by_cases indented : Text.isIndented line = true
    · rw [List.dropWhile_cons_of_pos indented, ih]
      simp [atMargin, indented]
    · rw [List.dropWhile_cons_of_neg indented]

/-- Below the body of a header stands another statement. -/
theorem WellLaid.dropWhile (h : WellLaid v inBody lines) :
    WellLaid v false (lines.dropWhile Text.isIndented) := by
  induction h with
  | nil => exact .nil false
  | body indented _ ih => rwa [List.dropWhile_cons_of_pos indented]
  | statement margin parsed rest _ =>
    rw [List.dropWhile_cons_of_neg (by simp [margin])]
    exact .statement margin parsed rest

/-! ## The pass -/

section

variable (margin : ∀ {line : String} {statement : Statement}, v.parse line = .ok statement →
  Text.isIndented line = false)

include margin

/-- A line is part of a body, or a statement of the main program. -/
theorem readLine_cases (read : o.readLine v taken k line = .ok o') :
    (o.current.isSome = true ∧ Text.isIndented line = true ∧ o'.current.isSome = true ∧
      o'.main = o.main) ∨
    ∃ statement, v.parse line = .ok statement ∧ Text.isIndented line = false ∧
      o'.current.isSome = decide (statement.command = header) ∧ o'.main = o.main ++ [line] := by
  unfold readLine at read
  split at read
  · next r body current dedented =>
    cases read
    exact .inl ⟨by simp [current], by simp [Text.isIndented, dedented], rfl, rfl⟩
  · unfold readTopLevel at read
    cases parsed : v.parse line with
    | error f => simp [parsed] at read
    | ok statement =>
      refine .inr ⟨statement, rfl, margin parsed, ?_⟩
      simp only [parsed] at read
      split at read
      · next other =>
        cases read
        exact ⟨by simpa using other, rfl⟩
      · next isHeader =>
        split at read
        · cases read
        · split at read
          · cases read
          · cases read
            exact ⟨by simpa using isHeader, rfl⟩

theorem wellLaid_of_readLines (read : readLines v taken k lines o = (o', none)) :
    WellLaid v o.current.isSome lines ∧ o'.main = o.main ++ atMargin lines := by
  induction lines generalizing o k with
  | nil =>
    cases read
    exact ⟨.nil _, by simp [atMargin]⟩
  | cons line rest ih =>
    rw [readLines] at read
    cases step : o.readLine v taken k line with
    | error f => simp [step] at read
    | ok next =>
      simp only [step] at read
      obtain ⟨laid, main⟩ := ih read
      obtain ⟨inside, indented, inside', same⟩ | ⟨statement, parsed, other, header, grown⟩ :=
        readLine_cases margin step
      · rw [inside'] at laid
        rw [inside, main, same]
        exact ⟨.body indented laid, by simp [atMargin, indented]⟩
      · rw [header] at laid
        rw [main, grown]
        exact ⟨.statement other parsed laid, by simp [atMargin, other]⟩

theorem wellLaid_of_scan (read : scan v taken k lines = (o, none)) : WellLaid v false lines :=
  (wellLaid_of_readLines margin read).1

/-- The main program is what is not indented. -/
theorem main_of_scan (read : scan v taken k lines = (o, none)) : o.main = atMargin lines := by
  rw [(wellLaid_of_readLines margin read).2, List.nil_append]

end

end Outline

end LineLang
