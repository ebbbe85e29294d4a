import LineLang.Proofs.Text.Stretches
import Mathlib.Data.List.Basic

/-!
# Line ends

A line ends with CR LF, with CR or with LF. A text that is cut at each CR and at each LF has one
empty line more for each CR LF, but a script has no empty lines, so its lines are the stretches
without CR and LF (`filter_linesFrom`, `scriptLines_eq_iff`). It follows that a line end of any
spelling cuts a script in two (`scriptLines_append_append`), also where the cut separates CR from LF,
and that the spelling of the line ends makes no difference (`Respelled.scriptLines_eq`), so that they
can all be spelled LF (`respelled_unifyLineEnds`).
-/

namespace LineLang.Text

variable {cs ds : List Char} {c : Char} {line : String}

theorem isLineEnd_iff (c : Char) : isLineEnd c = true ↔ c = '\r' ∨ c = '\n' := by
  simp [isLineEnd]

/-- The character belongs to no line end. -/
def IsInside (c : Char) : Prop :=
  c ≠ '\r' ∧ c ≠ '\n'

instance : DecidablePred IsInside :=
  fun _ => inferInstanceAs (Decidable (_ ∧ _))

theorem isInside_iff (c : Char) : IsInside c ↔ isLineEnd c = false := by
  rw [IsInside, ← not_or, ← isLineEnd_iff, Bool.not_eq_true]

/-! ## Lines as stretches -/

/-- Only empty lines depend on whether CR LF is one line end or two. -/
theorem filter_linesFrom (pending cs : List Char) (plain : ∀ c ∈ pending, isLineEnd c = false) :
    (linesFrom pending cs).filter (!·.isEmpty) =
      ((pending.reverse ++ cs).splitOnP isLineEnd).filter (!·.isEmpty) := by
  have whole {pending : List Char} (plain : ∀ c ∈ pending, isLineEnd c = false) :
      pending.reverse.splitOnP isLineEnd = [pending.reverse] :=
    List.splitOnP_eq_singleton fun c member => plain c (List.mem_reverse.1 member)
  fun_induction linesFrom pending cs with
  | case1 pending => rw [List.append_nil, whole plain]
  | case2 pending rest ih =>
    -- The empty line is the one between CR and LF.
    have later : _ = (rest.splitOnP isLineEnd).filter _ := ih (fun _ => nofun)
    have between : ('\n' :: rest).splitOnP isLineEnd = [[]] ++ rest.splitOnP isLineEnd :=
      List.splitOnP_append_cons [] rest rfl
    rw [List.splitOnP_append_cons _ _ rfl, whole plain, between, List.filter_append,
      List.filter_append, ← later, ← List.singleton_append, List.filter_append]
    rfl
  | case3 pending c rest alone here ih =>
    have later : _ = (rest.splitOnP isLineEnd).filter _ := ih (fun _ => nofun)
    rw [List.splitOnP_append_cons _ _ here, whole plain, List.filter_append, ← later,
      ← List.filter_append]
    rfl
  | case4 pending c rest alone inside ih =>
    have plain' : ∀ d ∈ c :: pending, isLineEnd d = false :=
      List.forall_mem_cons.2 ⟨by simpa using inside, plain⟩
    simpa using ih plain'

theorem scriptLines_eq_pieces (script : String) :
    scriptLines script = pieces isLineEnd script.toList := by
  rw [scriptLines, filter_linesFrom [] _ (fun _ => nofun), pieces]
  rfl

/-- The lines of a script are its stretches without CR and LF, and nothing else is. -/
theorem scriptLines_eq_iff (script : String) (lines : List String) :
    scriptLines script = lines ↔
      Stretches IsInside script.toList (lines.map String.toList) := by
  have stretches : Stretches IsInside script.toList ((scriptLines script).map String.toList) := by
    rw [scriptLines_eq_pieces]
    exact stretches_pieces isInside_iff _
  constructor
  · rintro rfl
    exact stretches
  · intro other
    exact (List.map_inj_right fun _ _ => String.toList_inj.1).1 (stretches.unique other)

/-! ## Scripts that are put together -/

/-- The spellings of a line end. -/
def lineEnds : List String :=
  ["\r\n", "\r", "\n"]

/-- Each spelling has characters, and they all separate. -/
theorem separate_of_mem_lineEnds {s : String} (spelled : s ∈ lineEnds) :
    s.toList ≠ [] ∧ ∀ c ∈ s.toList, isLineEnd c = true := by
  have all : lineEnds.all (fun s => !s.toList.isEmpty && s.toList.all isLineEnd) = true := by
    decide +kernel
  simpa using List.all_eq_true.1 all s spelled

theorem pieces_append_lineEnd (cs ds : List Char) {s : String} (spelled : s ∈ lineEnds) :
    pieces isLineEnd (cs ++ s.toList ++ ds) = pieces isLineEnd cs ++ pieces isLineEnd ds := by
  obtain ⟨filled, separate⟩ := separate_of_mem_lineEnds spelled
  exact pieces_append_append cs ds filled separate

theorem scriptLines_append_append (a b : String) {s : String} (spelled : s ∈ lineEnds) :
    scriptLines (a ++ s ++ b) = scriptLines a ++ scriptLines b := by
  simp only [scriptLines_eq_pieces, String.toList_append]
  exact pieces_append_lineEnd _ _ spelled

/-- Lines that are joined are split again, each as it would be alone. -/
theorem scriptLines_intercalate (lines : List String) :
    scriptLines ("\n".intercalate lines) = lines.flatMap scriptLines := by
  induction lines with
  | nil => rfl
  | cons line rest ih =>
    cases rest with
    | nil => simp
    | cons next rest =>
      have text : "\n".intercalate (line :: next :: rest) =
          line ++ "\n" ++ "\n".intercalate (next :: rest) := by
        apply String.toList_inj.1
        simp [String.toList_intercalate, List.intercalate]
      rw [text, scriptLines_append_append _ _ (by decide), ih]
      rfl

/-- A script that has characters and no line end is one line. -/
theorem scriptLines_of_whole (filled : line ≠ "") (whole : ∀ c ∈ line.toList, IsInside c) :
    scriptLines line = [line] := by
  rw [scriptLines_eq_pieces, pieces_of_whole, String.ofList_toList]
  · simpa using filled
  · exact fun c member => (isInside_iff c).1 (whole c member)

/-! ## The spelling of line ends -/

/-- The texts are the same up to the spelling of their line ends. -/
inductive Respelled : List Char → List Char → Prop
  | nil : Respelled [] []
  | cons {c : Char} {cs ds : List Char} (inside : IsInside c) (rest : Respelled cs ds) :
      Respelled (c :: cs) (c :: ds)
  | lineEnd {s t : String} {cs ds : List Char} (spelled : s ∈ lineEnds) (spelled' : t ∈ lineEnds)
      (rest : Respelled cs ds) : Respelled (s.toList ++ cs) (t.toList ++ ds)

/-- Respelling makes no difference to the pieces, whatever stands before. -/
theorem Respelled.pieces_append (h : Respelled cs ds) (before : List Char) :
    pieces isLineEnd (before ++ cs) = pieces isLineEnd (before ++ ds) := by
  induction h generalizing before with
  | nil => rfl
  | @cons c cs ds inside rest ih =>
    rw [List.append_cons before c cs, List.append_cons before c ds]
    exact ih (before ++ [c])
  | lineEnd spelled spelled' rest ih =>
    rw [← List.append_assoc, ← List.append_assoc, pieces_append_lineEnd _ _ spelled,
      pieces_append_lineEnd _ _ spelled']
    exact congrArg _ (ih [])

theorem Respelled.scriptLines_eq {p q : String} (h : Respelled p.toList q.toList) :
    scriptLines p = scriptLines q := by
  rw [scriptLines_eq_pieces, scriptLines_eq_pieces]
  exact h.pieces_append []

/-- CR LF is one line end. -/
theorem unifyLineEnds_pair (cs : List Char) :
    unifyLineEnds ('\r' :: '\n' :: cs) = '\n' :: unifyLineEnds cs := by
  cases cs with
  | nil => rfl
  | cons d ds => simp [unifyLineEnds]

theorem unifyLineEnds_cons (alone : ∀ rest, c = '\r' → cs ≠ '\n' :: rest) :
    unifyLineEnds (c :: cs) = (if c = '\r' then '\n' else c) :: unifyLineEnds cs := by
  cases cs with
  | nil => simp [unifyLineEnds]
  | cons d ds =>
    have apart : ¬ (d = '\n' ∧ c = '\r') := by
      rintro ⟨rfl, rfl⟩
      exact alone ds rfl rfl
    simp [unifyLineEnds, apart]

theorem respelled_unifyLineEnds (cs : List Char) : Respelled cs (unifyLineEnds cs) := by
  -- The text is read as its lines are, one line end at a time; what is pending plays no part.
  induction [], cs using linesFrom.induct with
  | case1 => exact .nil
  | case2 _ rest ih =>
    rw [unifyLineEnds_pair]
    exact @Respelled.lineEnd "\r\n" "\n" _ _ (by decide) (by decide) ih
  | case3 _ c rest alone here ih =>
    rw [unifyLineEnds_cons alone]
    rcases (isLineEnd_iff c).1 here with rfl | rfl
    · exact @Respelled.lineEnd "\r" "\n" _ _ (by decide) (by decide) ih
    · exact @Respelled.lineEnd "\n" "\n" _ _ (by decide) (by decide) ih
  | case4 _ c rest alone inside ih =>
    have kept : IsInside c := (isInside_iff c).2 (by simpa using inside)
    rw [unifyLineEnds_cons alone, if_neg kept.1]
    exact .cons kept ih

theorem not_mem_unifyLineEnds (cs : List Char) : '\r' ∉ unifyLineEnds cs := by
  intro member
  obtain ⟨⟨c, before⟩, -, kept⟩ := List.mem_filterMap.1 member
  grind

/-- The lines of a script are its stretches without CR and LF. Hence a line end of any spelling cuts
a script in two, scripts that differ in the spelling of their line ends have the same lines, all line
ends can be spelled LF, and lines that are joined with LF are split again. -/
theorem scriptLines_up_to_spelling :
    (∀ p lines, scriptLines p = lines ↔ Stretches IsInside p.toList (lines.map String.toList)) ∧
    (∀ a b, ∀ s ∈ lineEnds, scriptLines (a ++ s ++ b) = scriptLines a ++ scriptLines b) ∧
    (∀ p q : String, Respelled p.toList q.toList → scriptLines p = scriptLines q) ∧
    (∀ p : String, Respelled p.toList (unifyLineEnds p.toList) ∧
      '\r' ∉ unifyLineEnds p.toList ∧
      scriptLines (String.ofList (unifyLineEnds p.toList)) = scriptLines p) ∧
    ∀ lines : List String, (∀ line ∈ lines, line ≠ "" ∧ ∀ c ∈ line.toList, IsInside c) →
      scriptLines ("\n".intercalate lines) = lines := by
  refine ⟨scriptLines_eq_iff, fun a b s spelled => scriptLines_append_append a b spelled,
    fun p q same => same.scriptLines_eq, fun p => ?_, fun lines plain => ?_⟩
  · have unified := respelled_unifyLineEnds p.toList
    refine ⟨unified, not_mem_unifyLineEnds _, Eq.symm (Respelled.scriptLines_eq ?_)⟩
    rwa [String.toList_ofList]
  · rw [scriptLines_intercalate, List.flatMap_congr fun line member =>
      scriptLines_of_whole (plain line member).1 (plain line member).2, List.flatMap_singleton']

/-- Line ends of all spellings side by side, a cut between CR and LF, and CR LF and CR that become LF
and CR LF. -/
theorem adjacent_lineEnds_up_to_spelling :
    Stretches IsInside "a\r\nb\rc\n\nd\n".toList [['a'], ['b'], ['c'], ['d']] ∧
    ("\n" ∈ lineEnds ∧ scriptLines ("a\r" ++ "\n" ++ "\n\rb") = ["a", "b"]) ∧
    (Respelled "a\r\n\rb".toList "a\n\r\nb".toList ∧
      scriptLines "a\r\n\rb" = scriptLines "a\n\r\nb") ∧
    (∀ line ∈ ["a b", "c"], line ≠ "" ∧ ∀ c ∈ line.toList, IsInside c) ∧
    scriptLines ("\n".intercalate ["a b", "c"]) = ["a b", "c"] := by
  obtain ⟨stretches, cut, respelled, -, joined⟩ := scriptLines_up_to_spelling
  have spelled : "\n" ∈ lineEnds := by decide
  have same : Respelled "a\r\n\rb".toList "a\n\r\nb".toList :=
    .cons (by decide) (@Respelled.lineEnd "\r\n" "\n" _ _ (by decide) spelled
      (@Respelled.lineEnd "\r" "\r\n" _ _ (by decide) (by decide) (.cons (by decide) .nil)))
  have plain : ∀ line ∈ ["a b", "c"], line ≠ "" ∧ ∀ c ∈ line.toList, IsInside c := by
    have all : ["a b", "c"].all (fun line => line ≠ "" && line.toList.all (IsInside ·)) = true := by
      decide +kernel
    simpa only [List.all_eq_true, Bool.and_eq_true, decide_eq_true_eq] using all
  refine ⟨(stretches _ ["a", "b", "c", "d"]).1 (by decide +kernel), ⟨spelled, ?_⟩,
    ⟨same, respelled _ _ same⟩, plain, joined _ plain⟩
  rw [cut _ _ _ spelled]
  decide +kernel

end LineLang.Text
