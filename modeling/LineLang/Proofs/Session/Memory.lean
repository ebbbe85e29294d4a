import LineLang.Proofs.Session.Commands

/-!
# Values and changes kept apart

A session keeps the value of a variable and the position of its last change in one entry. `Memory`
keeps the two apart, in a table each, and every command has to bring both up to date
(`Memory.perform`). The two accounts agree: the memory of the variables after a command is what the
command makes of their memory before (`Memory.perform_memory`).

What is done to a memory is a list of deeds. `Memory.Changes` says what one deed can come to.
Whatever the deeds, the memory that they leave is well formed (`Memory.WellFormed.afterAll`): the
two tables have the same keys in the same order, names are words and values are bounded.
-/

namespace LineLang

/-! ## Tables with other values -/

namespace Table

variable {κ α β : Type}

/-- The table with every value changed. -/
def map (f : α → β) (t : Table κ α) : Table κ β :=
  ⟨t.entries.map fun e => (e.1, f e.2)⟩

variable [DecidableEq κ]

theorem contains_map (f : α → β) (t : Table κ α) (k : κ) : (t.map f).contains k = t.contains k := by
  simp [contains, map, Function.comp_def]

theorem find?_map (f : α → β) (t : Table κ α) (k : κ) : (t.map f).find? k = (t.find? k).map f := by
  simp [find?, map, List.find?_map, Function.comp_def]

theorem map_insert (f : α → β) (t : Table κ α) (k : κ) (a : α) :
    (t.insert k a).map f = (t.map f).insert k (f a) := by
  unfold insert
  rw [contains_map]
  split
  · simp only [map, modify, List.map_map, mk.injEq]
    refine List.map_congr_left fun e _ => ?_
    simp only [Function.comp_apply]
    split <;> rfl
  · simp [map]

theorem map_erase (f : α → β) (t : Table κ α) (k : κ) :
    (t.erase k).map f = (t.map f).erase k := by
  simp [map, erase, List.filter_map, Function.comp_def]

/-- An entry after writing is the one that was written, or was there before. -/
theorem mem_entries_insert {t : Table κ α} {k : κ} {a : α} {e : κ × α}
    (member : e ∈ (t.insert k a).entries) : e = (k, a) ∨ e ∈ t.entries := by
  unfold insert at member
  split at member
  · obtain ⟨e', old, rfl⟩ := List.mem_map.1 member
    split
    · next same => exact .inl (Prod.ext same rfl)
    · exact .inr old
  · obtain old | new := List.mem_append.1 member
    · exact .inr old
    · exact .inl (List.mem_singleton.1 new)

end Table

/-! ## Names and values that can be read -/

/-- The text is a word of English letters. -/
def IsWord (text : String) : Prop :=
  text ≠ "" ∧ ∀ c ∈ text.toList, 'a' ≤ c ∧ c ≤ 'z' ∨ 'A' ≤ c ∧ c ≤ 'Z'

theorem isWord_of_readName {token? : Option String} {name : String}
    (named : readName token? = .ok name) : IsWord name := by
  unfold readName at named
  split at named
  · next token =>
    split at named
    · next letters =>
      cases named
      simp only [Bool.and_eq_true, Bool.not_eq_true', List.isEmpty_eq_false_iff,
        List.all_eq_true] at letters
      refine ⟨?_, fun c member => ?_⟩
      · rintro rfl
        exact letters.1 rfl
      · have letter := letters.2 c member
        obtain upper | lower := Bool.or_eq_true_iff.1 letter
        · exact .inr (of_decide_eq_true upper)
        · obtain ⟨low, high⟩ := Bool.and_eq_true_iff.1 lower
          exact .inl ⟨of_decide_eq_true low, of_decide_eq_true high⟩
    · cases named
  · cases named

theorem bounds_of_convertValue {token? : Option String} {value : Int}
    (read : convertValue token? = .ok value) : 1 ≤ value ∧ value ≤ 2147483647 := by
  have bounded : readValue token? = .ok value → 0 < value ∧ value ≤ maxValue := by
    unfold readValue
    grind
  unfold convertValue at read
  split at read
  · cases read
  · cases done : readValue token? with
    | error f =>
      rw [done] at read
      cases read
    | ok v =>
      rw [done] at read
      cases read
      exact bounded done

/-! ## Memories -/

/-- The values of the variables and the positions of their last changes, in two tables. -/
structure Memory where
  values : Table String Int := {}
  changes : Table String (Option Int) := {}

/-- The two tables that the variables stand for. -/
def Variables.memory (vs : Variables) : Memory :=
  ⟨vs.map Variable.value, vs.map Variable.changedAt⟩

namespace Memory

/-- The value of a variable that is set. -/
def read (m : Memory) (name : String) : Except Fault Int :=
  match m.values.find? name with
  | some value => .ok value
  | none => .error .unsetVariable

/-- Sets a variable at a position. -/
def write (m : Memory) (name : String) (value : Int) (position : Option Int) : Memory :=
  ⟨m.values.insert name value, m.changes.insert name position⟩

/-- Removes a variable. -/
def remove (m : Memory) (name : String) : Memory :=
  ⟨m.values.erase name, m.changes.erase name⟩

/-- The memory after a command. -/
def perform (args : List String) (position : Option Int) (m : Memory) :
    VariableCommand → Except Failure Memory
  | .set => do
    let name ← readName args[0]?
    let value ← convertValue args[1]?
    return m.write name value position
  | .sub => do
    let name ← readName args[0]?
    let old ← m.read name
    let value ← convertValue args[1]?
    return m.write name (old - value) position
  | .print => do
    let name ← readName args[0]?
    let _ ← m.read name
    return m
  | .rem => do
    let name ← readName args[0]?
    let _ ← m.read name
    return m.remove name
  | .printMem => return m

theorem read_memory (vs : Variables) (name : String) : vs.memory.read name = vs.read name := by
  unfold read Variables.read Variables.memory
  rw [Table.find?_map]
  cases vs.find? name <;> rfl

theorem write_memory (vs : Variables) (name : String) (value : Int) (position : Option Int) :
    vs.memory.write name value position = (vs.write name value position).memory := by
  simp only [write, Variables.write, Variables.memory, Table.map_insert]

theorem remove_memory (vs : Variables) (name : String) :
    vs.memory.remove name = Variables.memory (vs.erase name) := by
  simp only [remove, Variables.memory, Table.map_erase]

/-- A command does to the memory of the variables what it does to the variables. -/
theorem perform_memory (args : List String) (position : Option Int) (vs : Variables)
    (c : VariableCommand) :
    perform args position vs.memory c =
      (c.perform args position vs).map fun effect => effect.1.memory := by
  cases c with
  | set =>
    unfold perform VariableCommand.perform
    cases readName args[0]? with
    | error f => rfl
    | ok name =>
      simp only [liftM_ok_bind]
      cases convertValue args[1]? with
      | error f => rfl
      | ok value => exact congrArg Except.ok (write_memory vs name value position)
  | sub =>
    unfold perform VariableCommand.perform
    cases readName args[0]? with
    | error f => rfl
    | ok name =>
      simp only [liftM_ok_bind, read_memory]
      cases vs.read name with
      | error f => rfl
      | ok old =>
        simp only [liftM_ok_bind]
        cases convertValue args[1]? with
        | error f => rfl
        | ok value => exact congrArg Except.ok (write_memory vs name (old - value) position)
  | print =>
    unfold perform VariableCommand.perform
    cases readName args[0]? with
    | error f => rfl
    | ok name =>
      simp only [liftM_ok_bind, read_memory]
      cases vs.read name <;> rfl
  | rem =>
    unfold perform VariableCommand.perform
    cases readName args[0]? with
    | error f => rfl
    | ok name =>
      simp only [liftM_ok_bind, read_memory]
      cases vs.read name with
      | error f => rfl
      | ok old => exact congrArg Except.ok (remove_memory vs name)
  | printMem => rfl

end Memory

/-! ## Deeds -/

/-- What can be done to a memory in one go: a command is performed at a position, or all variables
are dropped. -/
inductive Deed
  | perform (command : VariableCommand) (args : List String) (position : Option Int)
  | clear

/-- The command is performed at a position, if it is one. -/
def Deed.IsPlaced : Deed → Prop
  | perform _ _ position => position ≠ none
  | clear => True

namespace Memory

/-- The memory after a deed; a command that fails changes nothing. -/
def after (m : Memory) : Deed → Memory
  | .perform command args position =>
    match m.perform args position command with
    | .ok m' => m'
    | .error _ => m
  | .clear => {}

/-- The memory after several deeds. -/
def afterAll (m : Memory) (deeds : List Deed) : Memory :=
  deeds.foldl after m

theorem afterAll_append (m : Memory) (deeds later : List Deed) :
    m.afterAll (deeds ++ later) = (m.afterAll deeds).afterAll later :=
  List.foldl_append

theorem after_perform_of_ok {vs vs' : Variables} {c : VariableCommand} {args lines : List String}
    {position : Option Int} (done : c.perform args position vs = .ok (vs', lines)) :
    vs.memory.after (.perform c args position) = vs'.memory := by
  rw [after, perform_memory, done]
  rfl

theorem after_perform_of_error {vs : Variables} {c : VariableCommand} {args : List String}
    {position : Option Int} {f : Failure} (failed : c.perform args position vs = .error f) :
    vs.memory.after (.perform c args position) = vs.memory := by
  rw [after, perform_memory, failed]
  rfl

/-- What a command at a position can change a memory to. What is written is as small as a value that
can be read, or as a value that was there. -/
inductive Changes (m : Memory) (position : Option Int) : Memory → Prop
  | keep : Changes m position m
  | remove (name : String) : Changes m position (m.remove name)
  | write (name : String) (value : Int) (word : IsWord name)
      (small : value ≤ 2147483647 ∨ ∃ e ∈ m.values.entries, value ≤ e.2) :
      Changes m position (m.write name value position)

theorem changes_of_perform {m m' : Memory} {args : List String} {position : Option Int}
    {c : VariableCommand} (done : m.perform args position c = .ok m') : m.Changes position m' := by
  cases c with
  | set =>
    obtain ⟨name, named, done⟩ := exists_of_liftM_bind done
    obtain ⟨value, read, done⟩ := exists_of_bind done
    cases done
    exact .write name value (isWord_of_readName named) (.inl (bounds_of_convertValue read).2)
  | sub =>
    obtain ⟨name, named, done⟩ := exists_of_liftM_bind done
    obtain ⟨old, known, done⟩ := exists_of_liftM_bind done
    obtain ⟨value, read, done⟩ := exists_of_bind done
    cases done
    have positive := (bounds_of_convertValue read).1
    unfold Memory.read at known
    split at known
    · next found =>
      cases known
      have smaller : old - value ≤ old := by omega
      exact .write name _ (isWord_of_readName named)
        (.inr ⟨_, Table.mem_entries_of_find? found, smaller⟩)
    · cases known
  | print =>
    obtain ⟨name, -, done⟩ := exists_of_liftM_bind done
    obtain ⟨value, -, done⟩ := exists_of_liftM_bind done
    cases done
    exact .keep
  | rem =>
    obtain ⟨name, -, done⟩ := exists_of_liftM_bind done
    obtain ⟨value, -, done⟩ := exists_of_liftM_bind done
    cases done
    exact .remove name
  | printMem =>
    cases done
    exact .keep

/-- A deed is a change, unless it drops all variables. -/
theorem changes_after (m : Memory) (c : VariableCommand) (args : List String)
    (position : Option Int) : m.Changes position (m.after (.perform c args position)) := by
  dsimp only [after]
  cases done : m.perform args position c with
  | error f => exact .keep
  | ok m' => exact changes_of_perform done

/-- A memory is well formed if its two tables have the same keys in the same order, no key twice,
the keys are words and the values do not exceed the largest that can be written. -/
structure WellFormed (m : Memory) : Prop where
  inStep : m.changes.keys = m.values.keys
  distinct : m.values.keys.Nodup
  words : ∀ name ∈ m.values.keys, IsWord name
  bounded : ∀ e ∈ m.values.entries, e.2 ≤ 2147483647

namespace WellFormed

variable {m m' : Memory} {name : String} {value : Int} {position : Option Int}

theorem empty : WellFormed {} :=
  ⟨rfl, List.nodup_nil, nofun, nofun⟩

theorem write (h : WellFormed m) (word : IsWord name) (small : value ≤ 2147483647)
    (position : Option Int) : WellFormed (m.write name value position) := by
  refine ⟨?_, Table.nodup_keys_insert h.distinct _ _, fun name' member => ?_, fun e member => ?_⟩
  · simp only [Memory.write, Table.keys_insert, h.inStep]
  · obtain ⟨e, entry, rfl⟩ := List.mem_map.1 member
    obtain rfl | old := Table.mem_entries_insert entry
    · exact word
    · exact h.words e.1 (List.mem_map_of_mem old)
  · obtain rfl | old := Table.mem_entries_insert member
    · exact small
    · exact h.bounded e old

theorem remove (h : WellFormed m) (name : String) : WellFormed (m.remove name) := by
  refine ⟨?_, ?_, fun name' member => ?_, fun e member => ?_⟩
  · simp only [Memory.remove, Table.keys_erase, h.inStep]
  · simp only [Memory.remove, Table.keys_erase]
    exact h.distinct.filter _
  · simp only [Memory.remove, Table.keys_erase, List.mem_filter] at member
    exact h.words name' member.1
  · exact h.bounded e (List.mem_filter.1 member).1

theorem changes (h : WellFormed m) (changes : m.Changes position m') : WellFormed m' := by
  cases changes with
  | keep => exact h
  | remove name => exact h.remove name
  | write name value word small =>
    refine h.write word ?_ position
    obtain small | ⟨e, old, smaller⟩ := small
    · exact small
    · exact Int.le_trans smaller (h.bounded e old)

theorem after (h : WellFormed m) (deed : Deed) : WellFormed (m.after deed) := by
  cases deed with
  | clear => exact empty
  | perform c args position => exact h.changes (m.changes_after c args position)

theorem afterAll (h : WellFormed m) (deeds : List Deed) : WellFormed (m.afterAll deeds) := by
  induction deeds generalizing m with
  | nil => exact h
  | cons deed later ih => exact ih (h.after deed)

end WellFormed

/-- Every change of a variable has a position. -/
def Placed (m : Memory) : Prop :=
  ∀ e ∈ m.changes.entries, e.2 ≠ none

namespace Placed

variable {m : Memory}

theorem empty : Placed {} := by
  intro e member
  cases member

theorem after (h : Placed m) {deed : Deed} (placed : deed.IsPlaced) : Placed (m.after deed) := by
  cases deed with
  | clear => exact nofun
  | perform c args position =>
    have changes := m.changes_after c args position
    generalize m.after (.perform c args position) = m' at changes
    cases changes with
    | keep => exact h
    | remove name => exact fun e member => h e (List.mem_filter.1 member).1
    | write name value =>
      intro e member
      obtain rfl | old := Table.mem_entries_insert member
      · exact placed
      · exact h e old

theorem afterAll (h : Placed m) {deeds : List Deed} (placed : ∀ deed ∈ deeds, deed.IsPlaced) :
    Placed (m.afterAll deeds) := by
  induction deeds generalizing m with
  | nil => exact h
  | cons deed later ih =>
    exact ih (h.after (placed deed List.mem_cons_self)) fun deed member =>
      placed deed (List.mem_cons_of_mem _ member)

end Placed

end Memory

end LineLang
