import LineLang.Text.Lines

/-!
# Texts that are put together from pieces

A separator cuts a text in two (`pieces_append_cons`), and a text without separators is one piece.
So the tokens of arguments that are written one after the other, each with a space in front, are the
arguments (`tokens_flatMap`).
-/

namespace LineLang.Text

variable {sep : Char → Bool} {cs : List Char}

theorem pieces_append_cons (cs ds : List Char) {c : Char} (separates : sep c = true) :
    pieces sep (cs ++ c :: ds) = pieces sep cs ++ pieces sep ds := by
  rw [pieces, List.splitOnP_append_cons cs ds separates, List.filter_append, List.map_append]
  rfl

theorem pieces_of_whole (some_char : cs ≠ []) (whole : ∀ c ∈ cs, sep c = false) :
    pieces sep cs = [String.ofList cs] := by
  rw [pieces, List.splitOnP_eq_singleton whole]
  simp [some_char]

/-- Separators at the end of a text cut off nothing. -/
theorem pieces_append_of_all (cs : List Char) {ends : List Char}
    (separate : ∀ c ∈ ends, sep c = true) : pieces sep (cs ++ ends) = pieces sep cs := by
  induction ends generalizing cs with
  | nil => rw [List.append_nil]
  | cons c rest ih =>
    have later := fun cs => ih cs fun c member => separate c (List.mem_cons_of_mem _ member)
    have nothing : pieces sep rest = [] := later []
    rw [pieces_append_cons cs rest (separate c List.mem_cons_self), nothing, List.append_nil]

/-- Separators cut a text in two, however many of them stand together. -/
theorem pieces_append_append (cs ds : List Char) {ends : List Char} (filled : ends ≠ [])
    (separate : ∀ c ∈ ends, sep c = true) :
    pieces sep (cs ++ ends ++ ds) = pieces sep cs ++ pieces sep ds := by
  obtain ⟨others, last, rfl⟩ := (List.eq_nil_or_concat ends).resolve_left filled
  rw [List.concat_eq_append] at separate ⊢
  rw [List.forall_mem_append, List.forall_mem_singleton] at separate
  rw [← List.append_assoc, List.append_assoc (cs ++ others), List.singleton_append,
    pieces_append_cons _ _ separate.2, pieces_append_of_all _ separate.1]

/-- Arguments are read as they are written, if they have characters and no spaces. -/
theorem tokens_flatMap {args : List String}
    (readable : ∀ arg ∈ args, arg ≠ "" ∧ ' ' ∉ arg.toList) :
    tokens (args.flatMap fun arg => ' ' :: arg.toList) = args := by
  induction args with
  | nil => rfl
  | cons arg rest ih =>
    obtain ⟨some_char, spaceless⟩ := readable arg List.mem_cons_self
    have later := ih fun arg member => readable arg (List.mem_cons_of_mem _ member)
    have whole : tokens arg.toList = [arg] := by
      have single : tokens arg.toList = [String.ofList arg.toList] := by
        apply pieces_of_whole
        · simpa using some_char
        · intro c member
          have other : c ≠ ' ' := fun same => spaceless (same ▸ member)
          simpa using other
      rwa [String.ofList_toList] at single
    -- The space in front of the argument cuts off nothing, the one after it cuts off the argument.
    have cut (ds : List Char) : tokens (' ' :: ds) = tokens ds :=
      (pieces_append_cons [] ds rfl).trans (List.nil_append _)
    rw [List.flatMap_cons, List.cons_append, cut]
    cases rest with
    | nil => rw [List.flatMap_nil, List.append_nil, whole]
    | cons next rest =>
      rw [List.flatMap_cons, List.cons_append, cut] at later
      rw [List.flatMap_cons, List.cons_append, tokens, pieces_append_cons _ _ rfl]
      change tokens arg.toList ++ tokens _ = _
      rw [whole, later]
      rfl

end LineLang.Text
