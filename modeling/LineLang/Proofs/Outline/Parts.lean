import LineLang.Proofs.Debugger.PartialLoads

/-!
# Reading a script part by part

A script can be cut in two above any line that is not indented. Reading it and defining its
functions is then the same as doing so with the first part and, unless that has a fault, with the
second (`discover_append`). The functions of the first part are known when the second is read, and
its lines are counted.

The pass over the whole script carries the outline of the first part along. `Outline.below` puts
that outline above another one, and lines are read alike with it and without it
(`readLines_below`), if the names of its functions count as taken.
-/

namespace LineLang

/-- Two scripts, one below the other. -/
instance : Append Discovery where
  append a b := ⟨a.functions ++ b.functions, a.main ++ b.main⟩

namespace Outline

variable {v : Vocabulary} {taken : String → Bool} {k : Int} {lines : List String} {line : String}
  {o o' : Outline}

/-! ## One outline below another -/

/-- The outline `o` with the outline `a` above it. A body that is open in `a` is complete. -/
def below (a o : Outline) : Outline where
  closed := a.functions ++ o.closed
  current := o.current
  main := a.main ++ o.main

/-- A name is taken if it was before or if a function of the outline above has it. -/
def takenBelow (taken : String → Bool) (a : Outline) (name : String) : Bool :=
  taken name || a.functions.any (·.name = name)

theorem functions_below (a o : Outline) : (a.below o).functions = a.functions ++ o.functions :=
  List.append_assoc _ _ _

theorem functions_below_empty (a : Outline) : (a.below {}).functions = a.functions :=
  (functions_below a {}).trans (List.append_nil _)

theorem main_below_empty (a : Outline) : (a.below {}).main = a.main :=
  List.append_nil _

/-- A line outside every body looks at the functions and the main program only. -/
theorem readTopLevel_congr (functions : o'.functions = o.functions) (main : o'.main = o.main) :
    o'.readTopLevel v taken k line = o.readTopLevel v taken k line := by
  unfold readTopLevel
  rw [functions, main]

theorem readTopLevel_below (a o : Outline) :
    (a.below o).readTopLevel v taken k line =
      (o.readTopLevel v (takenBelow taken a) k line).map a.below := by
  have main : (a.below o).main ++ [line] = a.main ++ (o.main ++ [line]) := List.append_assoc _ _ _
  unfold readTopLevel
  rw [functions_below, main]
  cases v.parse line with
  | error f => rfl
  | ok statement =>
    dsimp only
    split
    · rfl
    · cases readName statement.args[0]? with
      | error f => rfl
      | ok name =>
        have same : (taken name || (a.functions ++ o.functions).any (·.name = name)) =
            (takenBelow taken a name || o.functions.any (·.name = name)) := by
          rw [List.any_append, takenBelow, Bool.or_assoc]
        dsimp only
        rw [same]
        split <;> rfl

theorem readLine_below (a o : Outline) :
    (a.below o).readLine v taken k line =
      (o.readLine v (takenBelow taken a) k line).map a.below := by
  have current : (a.below o).current = o.current := rfl
  unfold readLine
  rw [current]
  cases o.current with
  | none => exact readTopLevel_below a o
  | some r =>
    cases Text.dedent? line with
    | none => exact readTopLevel_below a o
    | some body => rfl

theorem readLines_below (a o : Outline) :
    readLines v taken k lines (a.below o) =
      (a.below (readLines v (takenBelow taken a) k lines o).1,
        (readLines v (takenBelow taken a) k lines o).2) := by
  induction lines generalizing k o with
  | nil => rfl
  | cons line rest ih =>
    rw [readLines, readLines, readLine_below]
    cases o.readLine v (takenBelow taken a) k line with
    | error f => rfl
    | ok next => exact ih next

/-! ## One part after the other -/

/-- The second part is read with what was found in the first. -/
theorem readLines_append {first : List String}
    (read : readLines v taken k first o = (o', none)) (second : List String) :
    readLines v taken k (first ++ second) o = readLines v taken (k + first.length) second o' := by
  induction first generalizing k o with
  | nil =>
    cases read
    rw [List.nil_append, List.length_nil, Int.natCast_zero, Int.add_zero]
  | cons line rest ih =>
    rw [readLines] at read
    rw [List.cons_append, readLines]
    cases step : o.readLine v taken k line with
    | error f => simp [step] at read
    | ok next =>
      simp only [step] at read ⊢
      have place : k + ((line :: rest).length : Int) = k + 1 + rest.length := by
        rw [List.length_cons]
        omega
      rw [ih read, place]

/-- After a fault nothing is read. -/
theorem readLines_append_of_fault {first : List String} {f : Fault}
    (read : readLines v taken k first o = (o', some f)) (second : List String) :
    readLines v taken k (first ++ second) o = (o', some f) := by
  induction first generalizing k o with
  | nil => cases read
  | cons line rest ih =>
    rw [readLines] at read
    rw [List.cons_append, readLines]
    cases step : o.readLine v taken k line with
    | error f' => simpa only [step] using read
    | ok next =>
      simp only [step] at read ⊢
      exact ih read

/-- Lines that begin at the margin are read as at the start of a script. -/
theorem readLines_of_margin (v : Vocabulary) (taken : String → Bool) (k : Int) (a : Outline)
    (margin : ∀ line, lines.head? = some line → Text.isIndented line = false) :
    (readLines v taken k lines a).1.functions =
        (readLines v taken k lines (a.below {})).1.functions ∧
      (readLines v taken k lines a).1.main = (readLines v taken k lines (a.below {})).1.main ∧
      (readLines v taken k lines a).2 = (readLines v taken k lines (a.below {})).2 := by
  cases lines with
  | nil => exact ⟨(functions_below_empty a).symm, (main_below_empty a).symm, rfl⟩
  | cons line rest =>
    have unindented := margin line List.head?_cons
    rw [readLines, readLines, readLine_of_unindented _ _ unindented,
      readLine_of_unindented _ _ unindented,
      readTopLevel_congr (functions_below_empty a) (main_below_empty a)]
    cases a.readTopLevel v taken k line with
    | error f => exact ⟨(functions_below_empty a).symm, (main_below_empty a).symm, rfl⟩
    | ok next => exact ⟨rfl, rfl, rfl⟩

end Outline

/-! ## Defining the functions of both parts -/

theorem Workspace.isDefined_addFunctions (w : Workspace) (o : Outline) :
    (o.functions.foldl .addFunction w).isDefined = Outline.takenBelow w.isDefined o := by
  have added (fs : List Routine) (w : Workspace) (name : String) :
      (fs.foldl .addFunction w).isDefined name = (w.isDefined name || fs.any (·.name = name)) := by
    induction fs generalizing w with
    | nil => exact (Bool.or_false _).symm
    | cons f fs ih =>
      rw [List.foldl_cons, ih, isDefined_addFunction, List.any_cons]
      have flipped : decide (name = f.name) = decide (f.name = name) :=
        decide_eq_decide.2 eq_comm
      rw [flipped, ← Bool.or_assoc, Bool.or_comm (w.isDefined name)]
  funext name
  exact added o.functions w name

namespace Workspace

/-- A script whose second part begins at the margin is read part by part: the same fault or none,
the same workspace in the end, and without a fault the functions and the main program of the first
part followed by those of the second. -/
theorem discover_append (v : Vocabulary) (k : Int) (first second : List String) (w : Workspace)
    (margin : ∀ line, second.head? = some line → Text.isIndented line = false) :
    discover v k (first ++ second) w =
      (discover v k first w).bind fun a w =>
        (discover v (k + first.length) second w).bind fun b w => .ok w (a ++ b) := by
  rcases read : Outline.scan v w.isDefined k first with ⟨a, fault⟩
  cases fault with
  | some f =>
    have whole : Outline.scan v w.isDefined k (first ++ second) = (a, some f) :=
      Outline.readLines_append_of_fault read second
    simp only [discover, read, whole]
    rfl
  | none =>
    have known : (a.functions.foldl .addFunction w).isDefined = Outline.takenBelow w.isDefined a :=
      w.isDefined_addFunctions a
    rcases below : Outline.scan v (Outline.takenBelow w.isDefined a) (k + first.length) second with
      ⟨b, fault⟩
    rcases whole : Outline.scan v w.isDefined k (first ++ second) with ⟨o, fault'⟩
    -- The pass over both parts finds what the two passes find.
    obtain ⟨functions, main, rfl⟩ :
        o.functions = a.functions ++ b.functions ∧ o.main = a.main ++ b.main ∧ fault' = fault := by
      have later := Outline.readLines_of_margin v w.isDefined (k + first.length) a margin
      rw [← Outline.readLines_append read second, Outline.readLines_below] at later
      change Outline.readLines _ _ _ _ _ = _ at whole below
      rw [whole, below] at later
      exact ⟨later.1.trans (Outline.functions_below a b), later.2⟩
    simp only [discover, read, whole, functions, main, List.foldl_append]
    dsimp only [Reply.bind, Reply.ok]
    rw [known, below]
    cases fault' <;> rfl

/-- The second part calls a function of the first, and defines it anew. -/
theorem discover_append_redefinition :
    (discover (.ofNames ["def", "call", "set"]) 5
        (["def f", "    set a 1", "set b 2"] ++ ["def g", "    call f", "def f", "    set c 3"])
        {}).result = .error (.fault (.redefinedFunction "f")) ∧
    discover (.ofNames ["def", "call", "set"]) 5
        (["def f", "    set a 1", "set b 2"] ++ ["def g", "    call f", "def f", "    set c 3"])
        {} =
      (discover (.ofNames ["def", "call", "set"]) 5 ["def f", "    set a 1", "set b 2"] {}).bind
        fun a w =>
          (discover (.ofNames ["def", "call", "set"]) 8
            ["def g", "    call f", "def f", "    set c 3"] w).bind fun b w => .ok w (a ++ b) := by
  refine ⟨by decide +kernel, discover_append _ 5 _ _ {} ?_⟩
  intro line first
  obtain rfl : "def g" = line := Option.some.inj first
  decide +kernel

end Workspace

end LineLang
