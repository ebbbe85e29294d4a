import LineLang.Proofs.Text.Indent
import LineLang.Proofs.Text.Stretches
import LineLang.Statement
import Mathlib.Control.Monad.Basic

/-!
# The longest name counts

Names are tried on a line one after the other, longer ones first, and a name that does not stand
there as whole words gives way to a shorter one. The statement that comes out is the longest match
(`LongestMatch`), of which there is at most one. So neither the order in which the names were given
nor the order of names of one length has any influence (`parse_longest_match`).
-/

namespace LineLang

variable {name line : String} {statement : Statement}

/-! ## Matches -/

/-- The name stands at the start of the line as whole words. -/
def Opens (name line : String) : Prop :=
  line = name ∨ ∃ rest, line = name ++ " " ++ rest

/-- The line is the command with something after it. It starts with a space, unless it is empty, and
the arguments are the stretches without spaces in it. -/
def Statement.Fits (statement : Statement) (line : String) : Prop :=
  ∃ rest : String, line = statement.command ++ rest ∧
    (rest.toList = [] ∨ rest.toList.head? = some ' ') ∧
    Text.Stretches (· ≠ ' ') rest.toList (statement.args.map String.toList)

/-- The statement fits the line, and no name at the start of the line is longer than its command. -/
structure LongestMatch (names : List String) (line : String) (statement : Statement) : Prop where
  known : statement.command ∈ names
  fits : statement.Fits line
  longest : ∀ name ∈ names, Opens name line → name.length ≤ statement.command.length

theorem opens_iff :
    Opens name line ↔
      ∃ rest, line.toList = name.toList ++ rest ∧ (rest = [] ∨ rest.head? = some ' ') := by
  constructor
  · rintro (rfl | ⟨rest, rfl⟩)
    · exact ⟨[], (List.append_nil _).symm, .inl rfl⟩
    · exact ⟨' ' :: rest.toList, by simp, .inr rfl⟩
  · rintro ⟨rest, text, starts⟩
    cases rest with
    | nil =>
      rw [List.append_nil] at text
      exact .inl (String.toList_inj.1 text)
    | cons c cs =>
      have space : c = ' ' := by simpa using starts
      exact .inr ⟨String.ofList cs, String.toList_inj.1 (by simp [text, space])⟩

theorem Opens.toList_prefix (h : Opens name line) : name.toList <+: line.toList := by
  obtain ⟨rest, text, -⟩ := opens_iff.1 h
  exact ⟨rest, text.symm⟩

/-- Of the names of one length only one can stand at the start of a line. -/
theorem Opens.eq_of_length {other : String} (h : Opens name line) (h' : Opens other line)
    (same : name.length = other.length) : name = other := by
  have length : name.toList.length = other.toList.length := by
    rwa [String.length_toList, String.length_toList]
  have part := List.prefix_of_prefix_length_le h.toList_prefix h'.toList_prefix
    (Nat.le_of_eq length)
  exact String.toList_inj.1 (part.eq_of_length length)

theorem Statement.Fits.opens (h : statement.Fits line) : Opens statement.command line := by
  obtain ⟨rest, rfl, starts, -⟩ := h
  exact opens_iff.2 ⟨rest.toList, String.toList_append, starts⟩

theorem Statement.Fits.unique {other : Statement} (h : statement.Fits line) (h' : other.Fits line)
    (same : statement.command = other.command) : statement = other := by
  obtain ⟨rest, split, -, parts⟩ := h
  obtain ⟨rest', split', -, parts'⟩ := h'
  have rests : rest.toList = rest'.toList := by
    have texts := congrArg String.toList (split.symm.trans split')
    rw [same, String.toList_append, String.toList_append] at texts
    exact List.append_cancel_left texts
  rw [rests] at parts
  have args : statement.args = other.args :=
    (List.map_inj_right fun _ _ => String.toList_inj.1).1 (parts.unique parts')
  cases statement
  cases other
  cases same
  cases args
  rfl

theorem LongestMatch.unique {names : List String} {other : Statement}
    (h : LongestMatch names line statement) (h' : LongestMatch names line other) :
    statement = other := by
  refine h.fits.unique h'.fits (h.fits.opens.eq_of_length h'.fits.opens ?_)
  exact Nat.le_antisymm (h'.longest _ h.known h.fits.opens) (h.longest _ h'.known h'.fits.opens)

namespace Vocabulary

variable {v w : Vocabulary} {names : List String}

/-! ## One name -/

theorem rest?_eq_some_iff {rest : List Char} :
    rest? name line = some rest ↔
      line.toList = name.toList ++ rest ∧ (rest = [] ∨ rest.head? = some ' ') := by
  rw [← Text.after?_eq_some_iff, rest?]
  split
  · next whole =>
    rw [whole]
    refine ⟨fun same => ⟨same, .inl ?_⟩, And.left⟩
    cases same
    rfl
  · next words =>
    rw [words]
    refine ⟨fun same => ⟨same, .inr ?_⟩, And.left⟩
    cases same
    rfl
  · next whole words =>
    constructor
    · intro none
      cases none
    · rintro ⟨found, starts⟩
      cases rest with
      | nil => exact absurd found whole
      | cons c cs =>
        have space : c = ' ' := by simpa using starts
        exact absurd (space ▸ found) (words cs)

/-- The statement that a name and a line make, if the name stands at the start of the line. -/
def attempt? (line name : String) : Option Statement :=
  (rest? name line).map fun rest => ⟨name, Text.tokens rest⟩

/-- Trying a name on a line succeeds with the statement that fits it. -/
theorem attempt?_eq_some_iff :
    attempt? line name = some statement ↔ statement.command = name ∧ statement.Fits line := by
  have parts (rest : List Char) := Text.stretches_tokens rest
  constructor
  · intro attempted
    obtain ⟨rest, found, rfl⟩ := Option.map_eq_some_iff.1 attempted
    obtain ⟨split, starts⟩ := rest?_eq_some_iff.1 found
    refine ⟨rfl, String.ofList rest, String.toList_inj.1 ?_, ?_, ?_⟩
    · rw [split, String.toList_append, String.toList_ofList]
    · rwa [String.toList_ofList]
    · rw [String.toList_ofList]
      exact parts rest
  · rintro ⟨rfl, fits⟩
    have ⟨rest, split, starts, _⟩ := fits
    have found : rest? statement.command line = some rest.toList :=
      rest?_eq_some_iff.2 ⟨by rw [split, String.toList_append], starts⟩
    have attempted : attempt? line statement.command =
        some ⟨statement.command, Text.tokens rest.toList⟩ := by
      rw [attempt?, found]
      rfl
    have fits' : Statement.Fits ⟨statement.command, Text.tokens rest.toList⟩ line :=
      ⟨rest, split, starts, parts rest.toList⟩
    rw [attempted, fits'.unique fits rfl]

theorem attempt?_eq_none_iff : attempt? line name = none ↔ ¬ Opens name line := by
  rw [attempt?, Option.map_eq_none_iff, Option.eq_none_iff_forall_ne_some, opens_iff, not_exists]
  exact forall_congr' fun rest => not_congr rest?_eq_some_iff

/-! ## Names in order -/

/-- The vocabulary has the given names, longer ones before shorter ones. -/
structure Lists (v : Vocabulary) (names : List String) : Prop where
  mem_iff : ∀ name, name ∈ v.names ↔ name ∈ names
  longestFirst : v.names.Pairwise fun a b => b.length ≤ a.length

theorem mem_place {other : String} {names : List String} :
    other ∈ place name names ↔ other = name ∨ other ∈ names := by
  induction names with
  | nil => simp [place]
  | cons first rest ih =>
    unfold place
    split
    · next same => simp [same]
    · split
      · exact List.mem_cons
      · rw [List.mem_cons, ih, List.mem_cons]
        exact or_left_comm

theorem length_le_of_precedes {a b : String} (h : precedes a b = true) : b.length ≤ a.length := by
  simp only [precedes, Bool.or_eq_true, Bool.and_eq_true, decide_eq_true_eq, beq_iff_eq] at h
  omega

theorem length_le_of_not_precedes {a b : String} (h : ¬ precedes a b = true) :
    a.length ≤ b.length := by
  simp only [precedes, Bool.or_eq_true, decide_eq_true_eq] at h
  omega

theorem longestFirst_place (name : String) {names : List String}
    (h : names.Pairwise fun a b => b.length ≤ a.length) :
    (place name names).Pairwise fun a b => b.length ≤ a.length := by
  induction names with
  | nil => exact List.pairwise_singleton _ _
  | cons first rest ih =>
    obtain ⟨shorter, later⟩ := List.pairwise_cons.1 h
    unfold place
    split
    · exact h
    · split
      · next before =>
        have less := length_le_of_precedes before
        refine List.pairwise_cons.2 ⟨fun other member => ?_, h⟩
        obtain rfl | member := List.mem_cons.1 member
        · exact less
        · exact Nat.le_trans (shorter other member) less
      · next behind =>
        refine List.pairwise_cons.2 ⟨fun other member => ?_, ih later⟩
        obtain rfl | member := mem_place.1 member
        · exact length_le_of_not_precedes behind
        · exact shorter other member

theorem lists_ofNames (names : List String) : (ofNames names).Lists names := by
  induction names with
  | nil => exact ⟨fun _ => Iff.rfl, .nil⟩
  | cons name rest ih =>
    refine ⟨fun other => ?_, longestFirst_place name ih.longestFirst⟩
    change other ∈ place name (ofNames rest).names ↔ _
    rw [mem_place, ih.mem_iff, List.mem_cons]

theorem Lists.congr {names' : List String} (h : v.Lists names')
    (same : ∀ name, name ∈ names' ↔ name ∈ names) : v.Lists names :=
  ⟨fun name => (h.mem_iff name).trans (same name), h.longestFirst⟩

theorem Lists.names_ne_nil (h : v.Lists names) (some_name : names ≠ []) : v.names ≠ [] := by
  obtain ⟨name, member⟩ := List.exists_mem_of_ne_nil names some_name
  exact List.ne_nil_of_mem ((h.mem_iff name).2 member)

/-! ## Reading a line -/

theorem candidates_of_ne_nil (some_name : v.names ≠ []) : v.candidates = v.names := by
  simp [candidates, some_name]

theorem parse_eq_ok_iff (some_name : v.names ≠ []) :
    v.parse line = .ok statement ↔ v.names.findSome? (attempt? line) = some statement := by
  unfold parse attempt?
  rw [candidates_of_ne_nil some_name]
  split
  case h_1 found => rw [found, Except.ok.injEq, Option.some.injEq]
  case h_2 failed => simp only [failed, reduceCtorEq]

/-- The first name that stands at the start of the line is the longest one. -/
theorem longestMatch_of_findSome? (h : v.Lists names)
    (found : v.names.findSome? (attempt? line) = some statement) :
    LongestMatch names line statement := by
  obtain ⟨longer, name, shorter, split, attempted, failed⟩ := List.findSome?_eq_some_iff.1 found
  obtain ⟨rfl, fits⟩ := attempt?_eq_some_iff.1 attempted
  refine ⟨(h.mem_iff _).1 (by simp [split]), fits, fun name member opens => ?_⟩
  rw [← h.mem_iff, split, List.mem_append, List.mem_cons] at member
  have sorted := h.longestFirst
  rw [split, List.pairwise_append, List.pairwise_cons] at sorted
  obtain before | rfl | behind := member
  · exact absurd opens (attempt?_eq_none_iff.1 (failed name before))
  · exact Nat.le_refl _
  · exact sorted.2.1.1 name behind

theorem parse_eq_ok_iff_longestMatch (h : v.Lists names) (some_name : names ≠ []) :
    v.parse line = .ok statement ↔ LongestMatch names line statement := by
  rw [parse_eq_ok_iff (h.names_ne_nil some_name)]
  refine ⟨longestMatch_of_findSome? h, fun longest => ?_⟩
  cases found : v.names.findSome? (attempt? line) with
  | some other => rw [(longestMatch_of_findSome? h found).unique longest]
  | none =>
    have failed := List.findSome?_eq_none_iff.1 found _ ((h.mem_iff _).2 longest.known)
    exact absurd longest.fits.opens (attempt?_eq_none_iff.1 failed)

theorem parse_eq_error_iff (h : v.Lists names) (some_name : names ≠ []) {f : Fault} :
    v.parse line = .error f ↔ f = .unknownCommand ∧ ∀ name ∈ names, ¬ Opens name line := by
  have failed_iff : v.names.findSome? (attempt? line) = none ↔
      ∀ name ∈ names, ¬ Opens name line := by
    rw [List.findSome?_eq_none_iff]
    exact forall_congr' fun name => by rw [h.mem_iff, attempt?_eq_none_iff]
  rw [← failed_iff]
  unfold parse attempt?
  rw [candidates_of_ne_nil (h.names_ne_nil some_name)]
  split
  case h_1 found => simp only [found, reduceCtorEq, and_false]
  case h_2 failed => simp only [failed, Except.error.injEq, and_true, eq_comm]

/-- Vocabularies that have the same names, longer ones first, read every line alike. -/
theorem parse_eq_of_lists (h : v.Lists names) (h' : w.Lists names) (some_name : names ≠ []) :
    v.parse line = w.parse line := by
  cases parsed : w.parse line with
  | ok statement =>
    rw [parse_eq_ok_iff_longestMatch h' some_name] at parsed
    rwa [parse_eq_ok_iff_longestMatch h some_name]
  | error f =>
    rw [parse_eq_error_iff h' some_name] at parsed
    rwa [parse_eq_error_iff h some_name]

/-- A vocabulary that is part of another one reads a line as the other one does, if it has the
command of the line. -/
theorem parse_of_subset {names' : List String} (h : v.Lists names) (h' : w.Lists names')
    (part : names ⊆ names') (parsed : w.parse line = .ok statement)
    (known : statement.command ∈ names) : v.parse line = .ok statement := by
  have longest := (parse_eq_ok_iff_longestMatch h' (List.ne_nil_of_mem (part known))).1 parsed
  rw [parse_eq_ok_iff_longestMatch h (List.ne_nil_of_mem known)]
  exact ⟨known, longest.fits, fun name member => longest.longest name (part member)⟩

/-- A line is read as the longest match with the names, if some name stands at its start, and its
command is unknown otherwise. It does not matter in which order and how often the names are given,
nor in which order names of one length are tried. -/
theorem parse_longest_match (names : List String) (line : String) (some_name : names ≠ []) :
    (∀ statement, (ofNames names).parse line = .ok statement ↔
      LongestMatch names line statement) ∧
    ((∃ statement, (ofNames names).parse line = .ok statement) ↔
      ∃ name ∈ names, Opens name line) ∧
    (∀ f, (ofNames names).parse line = .error f ↔
      f = .unknownCommand ∧ ∀ name ∈ names, ¬ Opens name line) ∧
    (∀ names', (∀ name, name ∈ names' ↔ name ∈ names) →
      (ofNames names').parse line = (ofNames names).parse line) ∧
    ∀ v : Vocabulary, v.Lists names → v.parse line = (ofNames names).parse line := by
  have lists := lists_ofNames names
  have failed : ∀ f, (ofNames names).parse line = .error f ↔
      f = .unknownCommand ∧ ∀ name ∈ names, ¬ Opens name line :=
    fun _ => parse_eq_error_iff lists some_name
  refine ⟨fun _ => parse_eq_ok_iff_longestMatch lists some_name, ?_, failed, ?_, ?_⟩
  · constructor
    · rintro ⟨statement, parsed⟩
      have longest := (parse_eq_ok_iff_longestMatch lists some_name).1 parsed
      exact ⟨statement.command, longest.known, longest.fits.opens⟩
    · rintro ⟨name, member, opens⟩
      cases parsed : (ofNames names).parse line with
      | ok statement => exact ⟨statement, rfl⟩
      | error f => exact absurd opens (((failed f).1 parsed).2 name member)
  · exact fun names' same => parse_eq_of_lists ((lists_ofNames names').congr same) lists some_name
  · exact fun v h => parse_eq_of_lists h lists some_name

/-- Names that begin with one another; one of them is empty, and one is given twice. -/
def overlapping : List String :=
  ["set", "", "set code", "s", "set"]

theorem overlapping_longest_match :
    overlapping ≠ [] ∧
    LongestMatch overlapping "set codex  7" ⟨"set", ["codex", "7"]⟩ ∧
    (ofNames ["s", "set", "set code", ""]).parse "set codex  7" = .ok ⟨"set", ["codex", "7"]⟩ ∧
    ∀ name ∈ overlapping, ¬ Opens name "setx 7" := by
  have some_name : overlapping ≠ [] := List.cons_ne_nil _ _
  obtain ⟨parsed, failed⟩ :
      (ofNames overlapping).parse "set codex  7" = .ok ⟨"set", ["codex", "7"]⟩ ∧
      (ofNames overlapping).parse "setx 7" = .error .unknownCommand := by
    decide +kernel
  have same : ∀ name, name ∈ ["s", "set", "set code", ""] ↔ name ∈ overlapping := by
    intro name
    simp only [overlapping, List.mem_cons, List.not_mem_nil, or_false]
    grind
  obtain ⟨longest, -, -, reordered, -⟩ := parse_longest_match overlapping "set codex  7" some_name
  refine ⟨some_name, (longest _).1 parsed, (reordered _ same).trans parsed, ?_⟩
  exact (((parse_longest_match overlapping "setx 7" some_name).2.2.1 _).1 failed).2

end Vocabulary

end LineLang
