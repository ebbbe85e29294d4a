import LineLang.Outline
import LineLang.Proofs.List
import LineLang.Proofs.Text.Indent
import Mathlib.Algebra.Ring.Nat

/-!
# An outline is a partition of its script

Reading a script without a fault loses nothing and misplaces nothing. Every function found stands
where its offset says, with a header above its body and no further indented line below it
(`Placed`). The script is the statements of the main program with the bodies put back below their
headers (`rebuild`). The names are new and distinct. `scan_partition` puts this together.

`Partition` is the invariant of the pass: it says all this of the lines read so far, and that the
body of the function that is still open reaches up to the last of them.
-/

namespace LineLang

/-- The line is a statement that defines a function. -/
def Vocabulary.isHeader (v : Vocabulary) (line : String) : Bool :=
  match v.parse line with
  | .ok statement => statement.command = Outline.header
  | .error _ => false

namespace Outline

variable {v : Vocabulary} {taken : String → Bool} {k : Int} {lines : List String} {line : String}
  {f : Routine} {i : Nat} {o o' : Outline}

/-! ## Places -/

/-- The header of the function is line `i` of the script, whose first line stands at `k`. The body
follows it, indented by one unit, and the line after the body is not indented. -/
structure PlacedAt (v : Vocabulary) (k : Int) (lines : List String) (f : Routine) (i : Nat) :
    Prop where
  offset : f.offset = k + i + 1
  header : ∃ line args, lines[i]? = some line ∧ v.parse line = .ok ⟨Outline.header, f.name :: args⟩
  body : ∀ j line, f.lines[j]? = some line → lines[i + 1 + j]? = some (Text.indented line)
  next : ∀ line, lines[i + 1 + f.lines.length]? = some line → Text.isIndented line = false

/-- The function stands in the script where its offset says. -/
def Placed (v : Vocabulary) (k : Int) (lines : List String) (f : Routine) : Prop :=
  ∃ i, PlacedAt v k lines f i

/-- A line at the end of the script disturbs no function that ended above it, and no other function
if it is not indented. -/
theorem PlacedAt.append_line (h : PlacedAt v k lines f i)
    (apart : f.offset + f.lines.length < k + lines.length ∨ Text.isIndented line = false) :
    PlacedAt v k (lines ++ [line]) f i := by
  have offset := h.offset
  refine ⟨offset, ?_, ?_, ?_⟩
  · obtain ⟨header, args, found, parsed⟩ := h.header
    exact ⟨header, args, List.getElem?_append_of_eq_some found, parsed⟩
  · intro j body inside
    exact List.getElem?_append_of_eq_some (h.body j body inside)
  · intro next found
    rw [List.getElem?_append] at found
    split at found
    · exact h.next next found
    · obtain above | other := apart
      · omega
      · have same : next = line := by grind
        rw [same, other]

/-- An indented line at the end of the script belongs to the function whose body ended there. -/
theorem PlacedAt.append_body (h : PlacedAt v k lines f i)
    (reaches : f.offset + f.lines.length = k + lines.length) (body : String) :
    PlacedAt v k (lines ++ [Text.indented body]) (f.append body) i := by
  have offset := h.offset
  have ends : i + 1 + f.lines.length = lines.length := by omega
  refine ⟨offset, ?_, ?_, ?_⟩
  · obtain ⟨header, args, found, parsed⟩ := h.header
    exact ⟨header, args, List.getElem?_append_of_eq_some found, parsed⟩
  · intro j line inside
    simp only [Routine.append] at inside
    rw [List.getElem?_append] at inside
    split at inside
    · exact List.getElem?_append_of_eq_some (h.body j line inside)
    · have last : j = f.lines.length := by grind
      subst last
      have same : line = body := by simpa using inside.symm
      rw [same, ends]
      simp
  · intro next found
    simp only [Routine.append, List.length_append, List.length_singleton] at found
    rw [← Nat.add_assoc, ends] at found
    simp at found

/-- A header at the end of the script places a function without a body. -/
theorem placedAt_of_header {name : String} {args : List String}
    (parsed : v.parse line = .ok ⟨Outline.header, name :: args⟩) :
    PlacedAt v k (lines ++ [line]) { name, offset := k + lines.length + 1 } lines.length := by
  refine ⟨rfl, ⟨line, args, by simp, parsed⟩, ?_, ?_⟩
  · intro j body inside
    simp at inside
  · intro next found
    simp at found

/-! ## Rebuilding a script -/

/-- Puts the bodies of the functions back below the headers among the statements. -/
def rebuild (v : Vocabulary) : List String → List Routine → List String
  | [], _ => []
  | line :: main, functions =>
    match v.isHeader line, functions with
    | true, f :: functions => line :: (f.lines.map Text.indented ++ rebuild v main functions)
    | _, functions => line :: rebuild v main functions

theorem rebuild_cons_header (header : v.isHeader line = true) (main : List String) (f : Routine)
    (functions : List Routine) :
    rebuild v (line :: main) (f :: functions) =
      line :: (f.lines.map Text.indented ++ rebuild v main functions) := by
  simp only [rebuild, header]

theorem rebuild_cons_other (other : v.isHeader line = false) (main : List String)
    (functions : List Routine) :
    rebuild v (line :: main) functions = line :: rebuild v main functions := by
  simp only [rebuild, other]

/-- Scripts can be rebuilt part by part, if every part has as many functions as headers. -/
theorem rebuild_append {main : List String} {functions : List Routine}
    (enough : main.countP v.isHeader = functions.length) (main' : List String)
    (functions' : List Routine) :
    rebuild v (main ++ main') (functions ++ functions') =
      rebuild v main functions ++ rebuild v main' functions' := by
  induction main generalizing functions with
  | nil =>
    have none : functions = [] := by simpa using enough.symm
    simp [none, rebuild]
  | cons line main ih =>
    cases header : v.isHeader line with
    | false =>
      rw [List.countP_cons_of_neg (by simp [header])] at enough
      simp only [List.cons_append, rebuild_cons_other header, ih enough]
    | true =>
      rw [List.countP_cons_of_pos header] at enough
      cases functions with
      | nil => simp at enough
      | cons f functions =>
        have enough' : main.countP v.isHeader = functions.length := by simpa using enough
        simp only [List.cons_append, rebuild_cons_header header, ih enough', List.append_assoc]

/-- A line that is not indented closes the body above it. -/
theorem readLine_of_unindented (v : Vocabulary) (position : Int)
    (unindented : Text.isIndented line = false) :
    o.readLine v taken position line = o.readTopLevel v taken position line := by
  rw [readLine, Text.isIndented_eq_false_iff.1 unindented]
  cases o.current <;> rfl

/-- What holds of an outline when the lines have been read, the first of which stands at `k`. -/
structure Partition (v : Vocabulary) (taken : String → Bool) (k : Int) (lines : List String)
    (o : Outline) : Prop where
  distinct : (o.functions.map Routine.name).Nodup
  fresh : ∀ f ∈ o.functions, taken f.name = false
  placed : ∀ f ∈ o.functions, Placed v k lines f
  rebuilt : rebuild v o.main o.functions = lines
  enough : o.main.countP v.isHeader = o.functions.length
  /-- A line stands below the body of every function that is closed. -/
  closed : ∀ f ∈ o.closed, f.offset + f.lines.length < k + lines.length
  /-- The body of the open function reaches to the last line, and its header is the last statement
  of the main program. -/
  current : ∀ f, o.current = some f → f.offset + f.lines.length = k + lines.length ∧
    ∃ main line, o.main = main ++ [line] ∧ v.isHeader line = true ∧
      main.countP v.isHeader = o.closed.length

theorem partition_nil (v : Vocabulary) (taken : String → Bool) (k : Int) :
    Partition v taken k [] {} := by
  constructor <;> simp [functions, rebuild]

namespace Partition

/-- No function reaches beyond the lines that have been read. -/
theorem end_le (h : Partition v taken k lines o) (member : f ∈ o.functions) :
    f.offset + f.lines.length ≤ k + lines.length := by
  obtain closed | current := List.mem_append.1 member
  · exact Int.le_of_lt (h.closed f closed)
  · exact Int.le_of_eq (h.current f (Option.mem_toList.1 current)).1

/-- Of the functions found so far only the open one reaches to the last line. A line that closes it
is not indented. -/
theorem apart (h : Partition v taken k lines o)
    (closes : o.current = none ∨ Text.isIndented line = false) (member : f ∈ o.functions) :
    f.offset + f.lines.length < k + lines.length ∨ Text.isIndented line = false := by
  obtain none | other := closes
  · have closed : f ∈ o.closed := by simpa [functions, none] using member
    exact .inl (h.closed f closed)
  · exact .inr other

theorem placed_append (h : Partition v taken k lines o)
    (closes : o.current = none ∨ Text.isIndented line = false) (member : f ∈ o.functions) :
    Placed v k (lines ++ [line]) f := by
  obtain ⟨i, placed⟩ := h.placed f member
  exact ⟨i, placed.append_line (h.apart closes member)⟩

/-- A line of a body is read. -/
theorem append_body (h : Partition v taken k lines o) (open_ : o.current = some f)
    (body : String) :
    Partition v taken k (lines ++ [Text.indented body])
      { o with current := some (f.append body) } := by
  obtain ⟨reaches, main, header, split, isHeader, count⟩ := h.current f open_
  have member : f ∈ o.functions := by simp [functions, open_]
  have functions_eq : o.functions = o.closed ++ [f] := by simp [functions, open_]
  have functions_eq' : functions { o with current := some (f.append body) } =
      o.closed ++ [f.append body] := rfl
  have names : (o.closed ++ [f.append body]).map Routine.name = o.functions.map Routine.name := by
    rw [functions_eq]
    simp [Routine.append]
  constructor
  · rw [functions_eq', names]
    exact h.distinct
  · intro g mem
    rw [functions_eq'] at mem
    obtain closed | last := List.mem_append.1 mem
    · exact h.fresh g (List.mem_append_left _ closed)
    · rw [List.mem_singleton.1 last]
      exact h.fresh f member
  · intro g mem
    rw [functions_eq'] at mem
    obtain closed | last := List.mem_append.1 mem
    · obtain ⟨i, placed⟩ := h.placed g (List.mem_append_left _ closed)
      exact ⟨i, placed.append_line (.inl (h.closed g closed))⟩
    · rw [List.mem_singleton.1 last]
      obtain ⟨i, placed⟩ := h.placed f member
      exact ⟨i, placed.append_body reaches body⟩
  · have rebuilt := h.rebuilt
    rw [functions_eq, split, rebuild_append count, rebuild_cons_header isHeader] at rebuilt
    rw [functions_eq', split, rebuild_append count, rebuild_cons_header isHeader, ← rebuilt]
    simp [Routine.append, rebuild]
  · have enough := h.enough
    rw [functions_eq] at enough
    simpa [functions_eq'] using enough
  · intro g closed
    have above := h.closed g closed
    simp only [List.length_append, List.length_singleton]
    omega
  · intro g same
    cases same
    refine ⟨?_, main, header, split, isHeader, count⟩
    simp only [Routine.append, List.length_append, List.length_singleton]
    omega

/-- A statement of the main program that is no header is read. -/
theorem append_statement (h : Partition v taken k lines o)
    (closes : o.current = none ∨ Text.isIndented line = false)
    (other : v.isHeader line = false) :
    Partition v taken k (lines ++ [line]) { closed := o.functions, main := o.main ++ [line] } := by
  have functions_eq : functions { closed := o.functions, main := o.main ++ [line] } =
      o.functions := by simp [functions]
  constructor
  · rw [functions_eq]
    exact h.distinct
  · rw [functions_eq]
    exact h.fresh
  · rw [functions_eq]
    exact fun g member => h.placed_append closes member
  · have appended := rebuild_append h.enough [line] []
    rw [List.append_nil, h.rebuilt, rebuild_cons_other other] at appended
    rw [functions_eq, appended]
    rfl
  · rw [functions_eq, List.countP_append, h.enough]
    simp [other]
  · intro g member
    have bound := h.end_le member
    simp only [List.length_append, List.length_singleton]
    omega
  · intro g none
    cases none

/-- A header is read. -/
theorem append_header (h : Partition v taken k lines o) {name : String} {args : List String}
    (closes : o.current = none ∨ Text.isIndented line = false)
    (parsed : v.parse line = .ok ⟨Outline.header, name :: args⟩) (untaken : taken name = false)
    (new : ∀ f ∈ o.functions, f.name ≠ name) :
    Partition v taken k (lines ++ [line])
      { closed := o.functions, current := some { name, offset := k + lines.length + 1 },
        main := o.main ++ [line] } := by
  have isHeader : v.isHeader line = true := by simp [Vocabulary.isHeader, parsed]
  have functions_eq : functions
      { closed := o.functions, current := some { name, offset := k + lines.length + 1 },
        main := o.main ++ [line] } =
      o.functions ++ [{ name, offset := k + lines.length + 1 }] := rfl
  constructor
  · rw [functions_eq, List.map_append, List.map_singleton]
    refine List.nodup_append.2 ⟨h.distinct, by simp, ?_⟩
    intro a member b last
    obtain ⟨g, found, rfl⟩ := List.mem_map.1 member
    rw [List.mem_singleton.1 last]
    exact new g found
  · intro g member
    rw [functions_eq] at member
    obtain old | last := List.mem_append.1 member
    · exact h.fresh g old
    · rw [List.mem_singleton.1 last]
      exact untaken
  · intro g member
    rw [functions_eq] at member
    obtain old | last := List.mem_append.1 member
    · exact h.placed_append closes old
    · rw [List.mem_singleton.1 last]
      exact ⟨_, placedAt_of_header parsed⟩
  · rw [functions_eq, rebuild_append h.enough, h.rebuilt, rebuild_cons_header isHeader]
    rfl
  · rw [functions_eq, List.countP_append, h.enough]
    simp [isHeader]
  · intro g member
    have bound := h.end_le member
    simp only [List.length_append, List.length_singleton]
    omega
  · intro g same
    cases same
    refine ⟨?_, o.main, line, rfl, isHeader, h.enough⟩
    simp only [List.length_append, List.length_singleton, List.length_nil]
    omega

/-- A line outside every body keeps the invariant. -/
theorem readTopLevel (h : Partition v taken k lines o)
    (closes : o.current = none ∨ Text.isIndented line = false)
    (read : o.readTopLevel v taken (k + lines.length) line = .ok o') :
    Partition v taken k (lines ++ [line]) o' := by
  unfold Outline.readTopLevel at read
  cases parsed : v.parse line with
  | error f => simp [parsed] at read
  | ok statement =>
    simp only [parsed] at read
    split at read
    case isTrue other =>
      cases read
      exact h.append_statement closes (by simpa [Vocabulary.isHeader, parsed] using other)
    case isFalse isHeader =>
      obtain ⟨command, args⟩ := statement
      obtain rfl : command = Outline.header := by simpa using isHeader
      cases named : readName args[0]? with
      | error f => simp [named] at read
      | ok name =>
        obtain ⟨args, rfl⟩ : ∃ rest, args = name :: rest := by
          have first := eq_some_of_readName named
          cases args with
          | nil => simp at first
          | cons first' rest => exact ⟨rest, by simpa using first⟩
        simp only [named] at read
        split at read
        case isTrue => cases read
        case isFalse new =>
          cases read
          simp only [Bool.or_eq_true, List.any_eq_true, decide_eq_true_eq, not_or, not_exists,
            not_and, Bool.not_eq_true] at new
          exact h.append_header closes parsed new.1 new.2

/-- Every line keeps the invariant. -/
theorem readLine (h : Partition v taken k lines o)
    (read : o.readLine v taken (k + lines.length) line = .ok o') :
    Partition v taken k (lines ++ [line]) o' := by
  unfold Outline.readLine at read
  cases open_ : o.current with
  | none => exact h.readTopLevel (.inl open_) (by simpa only [open_] using read)
  | some f =>
    cases dedented : Text.dedent? line with
    | none =>
      have other := Text.isIndented_eq_false_iff.2 dedented
      exact h.readTopLevel (.inr other) (by simpa only [open_, dedented] using read)
    | some body =>
      simp only [open_, dedented] at read
      cases read
      rw [Text.dedent?_eq_some_iff.1 dedented]
      exact h.append_body open_ body

theorem readLines (h : Partition v taken k lines o) {rest : List String}
    (read : Outline.readLines v taken (k + lines.length) rest o = (o', none)) :
    Partition v taken k (lines ++ rest) o' := by
  induction rest generalizing lines o with
  | nil =>
    cases read
    rwa [List.append_nil]
  | cons line rest ih =>
    rw [Outline.readLines] at read
    cases step : o.readLine v taken (k + lines.length) line with
    | error f => simp [step] at read
    | ok next =>
      simp only [step] at read
      have next : k + ((lines ++ [line]).length : Int) = k + lines.length + 1 := by
        rw [List.length_append, List.length_singleton]
        omega
      have later := ih (h.readLine step) (by rw [next, read])
      rwa [List.append_assoc, List.singleton_append] at later

end Partition

end Outline

end LineLang
