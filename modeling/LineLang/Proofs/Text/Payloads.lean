import LineLang.Payload
import LineLang.Proofs.Text.LineEnds
import Mathlib.Data.List.DropRight

/-!
# Payloads lose no line

Raw lines are put together in groups, the stretches of lines that are not empty without their line
ends (`stretches_groupsFrom`). A raw line may have line ends inside it as well, which only a script
splits; no line of the scripts is lost, doubled or moved when the raw lines are put together
(`assemble_keeps_lines`).
-/

namespace LineLang

namespace Text

variable {line : String}

/-- The line is what remains of a raw line without the line ends that close it. -/
def IsChomped (raw line : String) : Prop :=
  (∃ ends : String, raw = line ++ ends ∧ ∀ c ∈ ends.toList, c = '\r' ∨ c = '\n') ∧
    ∀ c, line.toList.getLast? = some c → c ≠ '\r' ∧ c ≠ '\n'

theorem toList_chomp (raw : String) : (chomp raw).toList = raw.toList.rdropWhile isLineEnd :=
  String.toList_ofList

theorem isChomped_chomp (raw : String) : IsChomped raw (chomp raw) := by
  refine ⟨⟨String.ofList (raw.toList.rtakeWhile isLineEnd), ?_, fun c member => ?_⟩,
    fun c last => ?_⟩
  · apply String.toList_inj.1
    rw [String.toList_append, String.toList_ofList, toList_chomp,
      List.rdropWhile_append_rtakeWhile]
  · rw [String.toList_ofList] at member
    exact (isLineEnd_iff c).1 (List.mem_rtakeWhile_imp member)
  · rw [toList_chomp] at last
    have filled : raw.toList.rdropWhile isLineEnd ≠ [] := by
      intro nothing
      rw [nothing] at last
      cases last
    have kept := List.rdropWhile_last_not isLineEnd raw.toList filled
    rw [List.getLast?_eq_some_getLast filled] at last
    cases last
    rwa [isLineEnd_iff, not_or] at kept

/-- The line ends that close a raw line make no difference to its lines. -/
theorem scriptLines_of_isChomped {raw : String} (h : IsChomped raw line) :
    scriptLines raw = scriptLines line := by
  obtain ⟨⟨ends, rfl, separate⟩, -⟩ := h
  rw [scriptLines_eq_pieces, scriptLines_eq_pieces, String.toList_append]
  exact pieces_append_of_all _ fun c member => (isLineEnd_iff c).2 (separate c member)

end Text

namespace Payload

/-! ## Groups -/

/-- The groups are what empty lines leave of the lines. The open group stands before the lines that
are still to come. -/
theorem groupsFrom_eq_filter_splitOnP (pending lines : List String)
    (filled : ∀ line ∈ pending, line.isEmpty = false) :
    groupsFrom pending lines =
      ((pending.reverse ++ lines).splitOnP String.isEmpty).filter (!·.isEmpty) := by
  induction lines generalizing pending with
  | nil =>
    rw [List.append_nil, List.splitOnP_eq_singleton (by simpa using filled), groupsFrom]
    cases pending <;> simp
  | cons line rest ih =>
    rw [groupsFrom]
    cases empty : line.isEmpty with
    | false =>
      have filled' : ∀ line' ∈ line :: pending, line'.isEmpty = false :=
        List.forall_mem_cons.2 ⟨empty, filled⟩
      simpa using ih (line :: pending) filled'
    | true =>
      rw [List.splitOnP_append_cons _ _ empty,
        List.splitOnP_eq_singleton (by simpa using filled), List.filter_append]
      have later := ih [] (fun _ => nofun)
      cases pending with
      | nil => simpa using later
      | cons last others => simpa using later

theorem stretches_groupsFrom (lines : List String) :
    Text.Stretches (· ≠ "") lines (groupsFrom [] lines) := by
  rw [groupsFrom_eq_filter_splitOnP [] lines (fun _ => nofun)]
  refine Text.stretches_filter_splitOnP (fun line => ?_) lines
  simp

/-- The groups together are the lines that are not empty. -/
theorem flatten_groupsFrom (pending lines : List String) :
    (groupsFrom pending lines).flatten = pending.reverse ++ lines.filter (!·.isEmpty) := by
  induction lines generalizing pending with
  | nil => cases pending <;> simp [groupsFrom]
  | cons line rest ih =>
    rw [groupsFrom, List.filter_cons]
    cases line.isEmpty with
    | false => simpa using ih (line :: pending)
    | true => cases pending <;> simp [ih]

/-! ## Lines of payloads -/

theorem flatMap_scriptLines_join (groups : List (List String)) :
    (groups.map join).flatMap Text.scriptLines = groups.flatten.flatMap Text.scriptLines := by
  induction groups with
  | nil => rfl
  | cons group rest ih =>
    rw [List.map_cons, List.flatMap_cons, List.flatten_cons, List.flatMap_append, ih, join,
      Text.scriptLines_intercalate]

/-- An empty line has no part in a script. -/
theorem flatMap_scriptLines_filter (lines : List String) :
    (lines.filter (!·.isEmpty)).flatMap Text.scriptLines = lines.flatMap Text.scriptLines := by
  induction lines with
  | nil => rfl
  | cons line rest ih =>
    rw [List.filter_cons, List.flatMap_cons]
    cases empty : line.isEmpty with
    | false => simp [ih]
    | true =>
      have nothing : Text.scriptLines line = [] := by
        rw [String.isEmpty_iff.1 empty]
        rfl
      simpa [nothing] using ih

/-- The payloads of raw lines are the stretches of lines that are not empty without the line ends
that close them, each stretch joined with LF. The payloads have the same lines as the raw lines, in
the same order. -/
theorem assemble_keeps_lines (lines : List String) :
    (∀ raw, Text.IsChomped raw (Text.chomp raw)) ∧
    (∃ groups, Text.Stretches (· ≠ "") (lines.map Text.chomp) groups ∧
      assemble lines = groups.map "\n".intercalate) ∧
    (assemble lines).flatMap Text.scriptLines = lines.flatMap Text.scriptLines := by
  refine ⟨Text.isChomped_chomp, ⟨_, stretches_groupsFrom _, rfl⟩, ?_⟩
  rw [assemble, flatMap_scriptLines_join, flatten_groupsFrom, List.reverse_nil, List.nil_append,
    flatMap_scriptLines_filter, List.flatMap_map]
  exact List.flatMap_congr fun raw _ =>
    (Text.scriptLines_of_isChomped (Text.isChomped_chomp raw)).symm

/-- Line ends inside a raw line, CR LF cut in two by the joining, and no empty line at the end. -/
example :
    assemble ["a\r\n", "\rb\nc\r", "\r\n", "\n", "d"] = ["a\n\rb\nc", "d"] ∧
    (assemble ["a\r\n", "\rb\nc\r", "\r\n", "\n", "d"]).flatMap Text.scriptLines =
      ["a", "b", "c", "d"] := by
  decide +kernel

end Payload

end LineLang
