import LineLang.Proofs.Immediate.Meaning
import LineLang.Proofs.Immediate.Sessions
import LineLang.Proofs.List

/-!
# Positions point at the lines that were taken

The immediate interpreter counts the lines that it takes. A function remembers the number of the
first line of its body, and a variable that of the line that changed it last. These numbers are
right after whatever was typed (`positions_point_at_lines`): a body that is being collected ends
with the last line taken, so the next line has the place that follows on the body, and a statement
of a running function is the line at the function's offset plus its pointer (`Stands`).
-/

namespace LineLang

namespace Immediate

variable {i i' : Immediate} {taken : List String} {line name : String} {f : Routine} {v : Variable}
  {args : List String}

/-! ## What the numbers mean -/

/-- The variable that a line sets or lowers, one unit of indentation aside. -/
def changed? (line : String) : Option String :=
  match vocabulary.parse ((Text.dedent? line).getD line) with
  | .ok statement =>
    if statement.command = VariableCommand.set.name ∨ statement.command = VariableCommand.sub.name
    then statement.args[0]? else none
  | .error _ => none

/-- The body of the function stands, indented, from the line with the function's offset on. -/
def Spans (taken : List String) (f : Routine) : Prop :=
  ∃ n : Nat, f.offset = n ∧
    ∀ k line, f.lines[k]? = some line → taken[n + k]? = some (Text.indented line)

/-- The variable was changed last by the line with the number that it remembers. -/
def ChangedBy (taken : List String) (name : String) (v : Variable) : Prop :=
  ∃ n : Nat, v.changedAt = some (n : Int) ∧ ∃ line, taken[n]? = some line ∧
    changed? line = some name

theorem Spans.append (h : Spans taken f) (later : List String) : Spans (taken ++ later) f := by
  obtain ⟨n, offset, lines⟩ := h
  exact ⟨n, offset, fun k line here => List.getElem?_append_of_eq_some (lines k line here)⟩

theorem ChangedBy.append (h : ChangedBy taken name v) (later : List String) :
    ChangedBy (taken ++ later) name v := by
  obtain ⟨n, position, line, here, changed⟩ := h
  exact ⟨n, position, line, List.getElem?_append_of_eq_some here, changed⟩

/-- A statement is carried out as it was typed, or without the indentation that it had in a body. -/
theorem changed?_of_parse {c : VariableCommand} {text : String}
    (source : text = line ∨ text = Text.indented line) (changes : c = .set ∨ c = .sub)
    (parsed : vocabulary.parse line = .ok ⟨c.name, args⟩) (first : args[0]? = some name) :
    changed? text = some name := by
  have bare : (Text.dedent? text).getD text = line := by
    obtain rfl | rfl := source
    · have unindented : Text.isIndented text = false :=
        Bool.eq_false_iff.2 fun indented => parse_immediate_indented_ne_ok indented parsed
      rw [Text.isIndented_eq_false_iff.1 unindented, Option.getD_none]
    · rw [Text.dedent?_eq_some_iff.2 rfl, Option.getD_some]
  unfold changed?
  rw [bare, parsed]
  obtain rfl | rfl := changes <;> simpa using first

/-! ## The invariant -/

/-- The statement is the line at the position of the interpreter. -/
def Stands (taken : List String) (line : String) (i : Immediate) : Prop :=
  ∃ n : Nat, i.positionOr (some i.position) = some (n : Int) ∧
    ∃ text, taken[n]? = some text ∧ (text = line ∨ text = Text.indented line)

/-- All numbers are right for the lines taken so far, and the body that is being collected ends with
the last of them. -/
structure Placed (taken : List String) (i : Immediate) : Prop where
  counted : i.position + 1 = taken.length
  spans : ∀ name f, i.definition name = some f → Spans taken f
  changed : ∀ name v, i.vars.find? name = some v → ChangedBy taken name v
  opened : ∀ name, i.opened = some name →
    ∃ f, i.definition name = some f ∧ f.offset + f.lines.length = taken.length

namespace Placed

theorem congr (h : Placed taken i) (workspace : i'.toWorkspace = i.toWorkspace)
    (position : i'.position = i.position) (opened : i'.opened = i.opened ∨ i'.opened = none) :
    Placed taken i' := by
  refine ⟨position ▸ h.counted, workspace ▸ h.spans, workspace ▸ h.changed, ?_⟩
  intro name open_
  rw [workspace]
  obtain same | none := opened
  · exact h.opened name (same ▸ open_)
  · rw [none] at open_
    cases open_

/-- Pointers and frames do not matter. -/
theorem keeps (h : Placed taken i) (definition : i'.definition = i.definition)
    (vars : i'.vars = i.vars) (position : i'.position = i.position)
    (opened : i'.opened = i.opened) : Placed taken i' :=
  ⟨position ▸ h.counted, definition ▸ h.spans, vars ▸ h.changed,
    fun name open_ => definition ▸ h.opened name (opened ▸ open_)⟩

theorem modify (h : Placed taken i) (id : RoutineId) {change : Routine → Routine}
    (pointer : ∀ r, (change r).rewind = r.rewind) :
    Placed taken (i.onRoutines (·.modify id change)) :=
  h.keeps (Keeps.modify i id pointer).definition rfl rfl rfl

theorem onVariables (h : Placed taken i) (stands : Stands taken line i) {c : VariableCommand}
    {vars : Variables} {lines : List String}
    (parsed : vocabulary.parse line = .ok ⟨c.name, args⟩)
    (done : c.perform args (i.positionOr (some i.position)) i.vars = .ok (vars, lines)) :
    Placed taken ({ i with vars }.onSession (·.write lines)) := by
  refine ⟨h.counted, h.spans, fun other v found => ?_, h.opened⟩
  change vars.find? other = some v at found
  obtain rfl | ⟨name, rfl⟩ | ⟨changes, name, value, named, rfl⟩ :=
    VariableCommand.vars_of_perform done
  · exact h.changed other v found
  · rw [Table.find?_erase] at found
    split at found
    · cases found
    · exact h.changed other v found
  · rw [Variables.write, Table.find?_insert] at found
    split at found
    · next same =>
      cases found
      subst same
      obtain ⟨n, position, text, here, source⟩ := stands
      exact ⟨n, position, text, here,
        changed?_of_parse source changes parsed (eq_some_of_readName named)⟩
    · exact h.changed other v found

theorem opening (h : Placed taken i) (name : String) : Placed taken (i.opening name) := by
  have definition (other : String) : (i.opening name).definition other =
      if other = name then some (Routine.rewind { name, offset := i.position + 1 })
      else i.definition other :=
    Workspace.definition_addFunction _ _ _
  refine ⟨h.counted, fun other f found => ?_, h.changed, fun other open_ => ?_⟩
  · rw [definition] at found
    split at found
    · cases found
      refine ⟨taken.length, h.counted, fun k line here => ?_⟩
      simp [Routine.rewind, Routine.pointAt] at here
    · exact h.spans other f found
  · cases open_
    refine ⟨_, (definition name).trans (if_pos rfl), ?_⟩
    simpa [Routine.rewind, Routine.pointAt] using h.counted

theorem alter (h : Placed taken i) (stands : Stands taken line i) (alters : Alters i line i') :
    Placed taken i' := by
  cases alters with
  | onVariables c args vars lines parsed done => exact h.onVariables stands parsed done
  | setCode => exact h.congr (Session.enter_toWorkspace _ _) rfl (.inl rfl)
  | endSetCode args parsed s closed =>
    exact h.congr (Session.toWorkspace_of_endCode closed) rfl (.inl rfl)
  | define args parsed name => exact h.opening name
  | idle => exact h

/-- A statement of a body is at its place in the body. -/
theorem stands_pointAt (h : Placed taken i) {rest : List RoutineId} {pointer : Nat}
    (stack : i.routines.stack = .function name :: rest) (found : i.definition name = some f)
    (here : f.lines[pointer]? = some line) :
    Stands taken line (i.onRoutines (·.modify (.function name) (·.pointAt pointer))) := by
  obtain ⟨n, offset, lines⟩ := h.spans name f found
  refine ⟨n + pointer, ?_, _, lines pointer line here, .inr rfl⟩
  rw [positionOr_pointAt stack found, offset, Int.natCast_add]

/-- A line that is collected follows on the body. -/
theorem collect (h : Placed taken i) {text : String} (opened : i.opened = some name)
    (dedented : Text.dedent? line = some text) :
    Placed (taken ++ [line]) (i.count.onRoutines (·.modify (.function name) (·.append text))) := by
  obtain ⟨g, found, finish⟩ := h.opened name opened
  have definition (other : String) := definition_append i.count name other text
  have grown : (i.count.onRoutines (·.modify (.function name) (·.append text))).definition name =
      some (g.append text) := by
    rw [definition, if_pos rfl, show i.count.definition name = some g from found, Option.map_some]
  refine ⟨?_, fun other f known => ?_, fun other v known => (h.changed other v known).append _, ?_⟩
  · simp only [onRoutines, count, List.length_append, List.length_singleton]
    have counted := h.counted
    omega
  · by_cases same : other = name
    · subst same
      cases grown.symm.trans known
      obtain ⟨n, offset, lines⟩ := h.spans other g found
      refine ⟨n, offset, fun k line' here => ?_⟩
      change (g.lines ++ [text])[k]? = some line' at here
      by_cases inside : k < g.lines.length
      · rw [List.getElem?_append_left inside] at here
        exact List.getElem?_append_of_eq_some (lines k line' here)
      · have last := (List.getElem?_eq_some_iff.1 here).1
        rw [List.length_append, List.length_singleton] at last
        obtain rfl : k = g.lines.length := by omega
        rw [List.getElem?_concat_length] at here
        cases here
        have next : n + g.lines.length = taken.length := by omega
        rw [next, List.getElem?_concat_length, Text.dedent?_eq_some_iff.1 dedented]
    · rw [definition, if_neg same] at known
      exact (h.spans other f known).append _
  · intro other open_
    cases opened.symm.trans open_
    refine ⟨_, grown, ?_⟩
    simp only [Routine.append, List.length_append, List.length_singleton]
    omega

/-- A line that is carried out has the next number. -/
theorem close (h : Placed taken i) (outside : i.routines.stack = []) (line : String) :
    Placed (taken ++ [line]) { i.count with opened := none } ∧
      Stands (taken ++ [line]) line { i.count with opened := none } := by
  have next : i.position + 1 = taken.length := h.counted
  refine ⟨⟨?_, fun name f found => (h.spans name f found).append _,
    fun name v found => (h.changed name v found).append _, fun name open_ => by cases open_⟩,
    taken.length, ?_, line, List.getElem?_concat_length, .inl rfl⟩
  · simp only [count, List.length_append, List.length_singleton]
    omega
  · simp [Workspace.positionOr, Routines.position?, Routines.top?, count, outside, next]

end Placed

theorem placed_invariant : SessionInvariant Placed Stands where
  body _ :=
    { alter := Placed.alter
      enter := fun h _ => h.keeps rfl rfl rfl rfl
      place := fun h stack found here =>
        ⟨h.modify _ fun _ => rfl, h.stands_pointAt stack found here⟩
      leave := fun {_ name _} h _ =>
        have rewound := h.modify (.function name) fun r => (rfl : r.rewind.rewind = r.rewind)
        rewound.keeps rfl rfl rfl rfl }
  collect h _ := h.collect
  close h outside := h.close outside _
  ready h := h.congr (Session.enter_toWorkspace _ _) rfl (.inr rfl)
  report h := h.congr rfl rfl (.inl rfl)

theorem placed_fresh (strict : Bool) : Placed [] { strict } := by
  refine ⟨rfl, ?_, ?_, ?_⟩
  · intro name f found
    cases found
  · intro name v found
    cases found
  · intro name open_
    cases open_

/-! ## Sessions -/

/-- Whatever was typed: the position is the number of the last line taken, the body of a function
is found among the lines from the function's offset on, and the line with the number that a variable
remembers sets or lowers the variable. -/
theorem positions_point_at_lines (strict : Bool) (lines : List String) :
    (typing lines { strict }).position + 1 = (feed lines { strict }).length ∧
    (∀ f ∈ (typing lines { strict }).functions, Spans (feed lines { strict }) f) ∧
    ∀ e ∈ (typing lines { strict }).vars.entries, ChangedBy (feed lines { strict }) e.1 e.2 := by
  have placed := placed_invariant.holds (placed_fresh strict) lines
  have distinct := distinct_typing strict lines
  refine ⟨placed.counted, fun f member => ?_, fun e member => ?_⟩
  · obtain ⟨name, known⟩ := distinct.exists_find? member
    have found : (typing lines { strict }).definition name = some f.rewind := by
      rw [Workspace.definition, known, Option.map_some]
    exact placed.spans name f.rewind found
  · exact placed.changed e.1 e.2 (Table.find?_of_mem_entries distinct.vars member)

/-- A body that defines a function, whose own body is typed after the call, and a script that fails
in the middle. -/
example :
    feed ["def f", "    set a 5", "    def g", "call f", "    sub a 2", "set code",
      "call g\n\nprint b\nset a 7", "run"] {} =
      ["def f", "    set a 5", "    def g", "call f", "    sub a 2", "set code", "call g",
        "print b", "run"] ∧
    (typing ["def f", "    set a 5", "    def g", "call f", "    sub a 2", "set code",
      "call g\n\nprint b\nset a 7", "run"] {}).vars.entries = [("a", ⟨3, some 4⟩)] := by
  decide +kernel

end Immediate

end LineLang
