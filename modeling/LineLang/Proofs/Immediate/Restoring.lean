import LineLang.Proofs.Debugger.Rewinding
import LineLang.Proofs.Immediate.Course
import LineLang.Proofs.Statement.Values
import LineLang.Proofs.Text.Pieces

/-!
# The interpreter restores itself after every line

Whatever a line does and however it ends, no function is running afterwards and every function is on
its first statement. A line writes what its statements print and, if it is faulty, one message.
Every line is answered, unless a number is too long to be converted (`lines_restore_interpreter`).
-/

namespace LineLang

namespace Routines

variable {κ : Type} [DecidableEq κ] {rs : Routines κ}

theorem Rewound.register (h : Rewound rs) (k : κ) {r : Routine} (start : r.pointer = 0) :
    Rewound (rs.register k r) := by
  intro j off
  rw [routine, Routines.register, Table.find?_insert]
  split
  · exact start
  · exact h j off

theorem Rewound.modify_of_pointer (h : Rewound rs) (k : κ) {change : Routine → Routine}
    (kept : ∀ r, (change r).pointer = r.pointer) : Rewound (rs.modify k change) := by
  intro j off
  obtain same | ⟨-, changed⟩ := rs.routine_modify_cases k j change
  · rw [same]
    exact h j off
  · rw [changed, kept]
    exact h j off

end Routines

namespace Immediate

variable {i i' : Immediate} {line : String}

/-! ## Pointers -/

theorem Alters.rewound (h : Alters i line i') (rewound : i.routines.Rewound) :
    i'.routines.Rewound := by
  cases h with
  | onVariables | idle => exact rewound
  | setCode =>
    have same : (i.onSession Session.requestCode).routines = i.routines :=
      Session.enter_routines _ _
    rwa [same]
  | endSetCode args parsed s closed =>
    have same : s.routines = i.routines :=
      congrArg Workspace.routines (Session.toWorkspace_of_endCode closed)
    change s.routines.Rewound
    rwa [same]
  | define args parsed name => exact rewound.register (.function name) rfl

/-- Whatever is typed, functions that do not run are on their first statement. -/
theorem rewound_invariant :
    SessionInvariant (fun _ i => i.routines.Rewound) fun _ _ _ => True where
  body _ :=
    { alter := fun h _ alters => alters.rewound h
      enter := fun h _ => h.push _
      place := fun h stack _ _ => ⟨h.modify (by simp [stack]) _, trivial⟩
      leave := fun h stack => h.leave stack }
  collect h _ _ _ := h.modify_of_pointer _ fun _ => rfl
  close h _ := ⟨h, trivial⟩
  ready h := by
    rw [onSession, Session.enter_routines]
    exact h
  report h := h

theorem rewound_typing (strict : Bool) (lines : List String) :
    (typing lines { strict }).routines.Rewound :=
  rewound_invariant.holds (fun _ _ => rfl) lines

/-! ## Lines -/

/-- The lines that are written about the answer to a line: the message, if the line is faulty. -/
def reported (answer : Except Failure LineResult) : List String :=
  match answer with
  | .ok result => if result.ok then [] else [result.message]
  | .error _ => []

theorem typing_concat (lines : List String) (text : String) (i : Immediate) :
    typing (lines ++ [text]) i = ((typing lines i).line text).state := by
  rw [typing, List.foldl_append]
  rfl

/-- Faults are answered and reported. -/
theorem settle_cases (reply : Reply Immediate Unit) (text : String)
    (ended : reply.result ≠ .error .unfinished) :
    ((∃ result, (reply.settle fun f i => i.onSession (·.report text f)).result = .ok result) ↔
      ¬ ∃ c, reply.result = .error (.crash c)) ∧
    (reply.settle fun f i => i.onSession (·.report text f)).state.output.toList =
      reply.state.output.toList ++
        reported (reply.settle fun f i => i.onSession (·.report text f)).result := by
  obtain ⟨s, result⟩ := reply
  cases result with
  | ok _ => simp [Reply.settle, reported, LineResult.ok]
  | error f =>
    cases f with
    | fault f =>
      simp [Reply.settle, reported, LineResult.ok, LineResult.message, onSession, Session.report,
        Session.write, Session.note]
    | crash c => simp [Reply.settle, reported]
    | unfinished => exact absurd rfl ended

/-- Whatever was typed before, a line is answered if and only if no statement that it comes to has a
number that is too long. Afterwards no function is running and every function is on its first
statement, whether or not there was an answer. The line has written what its statements print and
then, if it is faulty, the message of the answer. -/
theorem lines_restore_interpreter (strict : Bool) (lines : List String) (text : String) :
    ((∃ result, ((typing lines { strict }).line text).result = .ok result) ↔
      ∀ s ∈ (typing lines { strict }).lineCourse text, ∀ count, ¬ s.2.Overlong s.1 count) ∧
    (typing (lines ++ [text]) { strict }).routines.stack = [] ∧
    (∀ f ∈ (typing (lines ++ [text]) { strict }).functions, f.pointer = 0) ∧
    (typing (lines ++ [text]) { strict }).output.toList =
      (typing lines { strict }).output.toList ++
        ((typing lines { strict }).lineCourse text).flatMap (fun s => s.2.prints s.1) ++
        reported ((typing lines { strict }).line text).result := by
  have outside : (typing lines { strict }).routines.stack = [] := stack_typing rfl lines
  have after : (typing (lines ++ [text]) { strict }).routines.stack = [] := stack_typing rfl _
  obtain ⟨reply, traced, same⟩ := (typing lines { strict }).exists_traced text
  have ended : reply.result ≠ .error .unfinished := by
    intro unfinished
    apply (line_ends outside text).2
    rw [same, Reply.settle, unfinished]
  obtain ⟨answered, written⟩ := settle_cases reply text ended
  rw [← same] at answered written
  refine ⟨?_, after, fun f member => ?_, ?_⟩
  · rw [answered, traced.crashes]
    simp only [not_exists, not_and]
  · obtain ⟨name, found⟩ := (distinct_typing strict (lines ++ [text])).exists_find? member
    have start := rewound_typing strict (lines ++ [text]) (.function name)
      (by rw [after]; exact List.not_mem_nil)
    rwa [Routines.routine, found, Option.getD_some] at start
  · rw [typing_concat, written, traced.output]

/-- A function prints a variable and calls another one, which calls it back. -/
example :
    ((typing ["def f", "    print a", "    call g", "    print a", "def g", "    call f", "set a 3"]
      {}).lineCourse "call f").map Prod.fst = ["call f", "print a", "call g", "call f"] ∧
    (typing ["def f", "    print a", "    call g", "    print a", "def g", "    call f", "set a 3",
      "call f"] {}).output.toList = ["3", (Fault.recursiveCall "f").message] := by
  decide +kernel

/-! ## A line without an answer -/

/-- The number one with zeros in front. -/
def padded (zeros : Nat) : String :=
  String.ofList (List.replicate zeros '0' ++ ['1'])

theorem toList_padded (zeros : Nat) : (padded zeros).toList = List.replicate zeros '0' ++ ['1'] :=
  String.toList_ofList

theorem mem_padded {zeros : Nat} {c : Char} (member : c ∈ (padded zeros).toList) :
    c = '0' ∨ c = '1' := by
  rw [toList_padded] at member
  obtain zero | one := List.mem_append.1 member
  · exact .inl (List.eq_of_mem_replicate zero)
  · exact .inr (List.mem_singleton.1 one)

theorem isValue_padded (zeros : Nat) : IsValue (padded zeros) 1 := by
  have value (n : Nat) : (List.replicate n '0' ++ ['1']).foldl
      (fun n c => 10 * n + (c.toNat - '0'.toNat)) 0 = 1 := by
    induction n with
    | zero => rfl
    | succ n ih => exact ih
  have numeral : IsNumeral (padded zeros).toList := by
    refine ⟨by simp [toList_padded], fun c member => ?_⟩
    obtain rfl | rfl := mem_padded member <;> decide
  have one : decimalValue (padded zeros).toList = 1 := by
    rw [decimalValue_eq_foldl, toList_padded, value]
  have denotes := Denotes.plain numeral
  rw [one] at denotes
  exact ⟨denotes, by decide, by decide⟩

theorem isOverlong_padded (zeros : Nat) : isOverlong (padded zeros) = false :=
  isOverlong_of_isValue (isValue_padded zeros)

theorem integer?_padded (zeros : Nat) : integer? (padded zeros).toList = some 1 :=
  integer?_eq_some_iff.2 (isValue_padded zeros).1

theorem tooLong_padded : TooLong (padded maxDigits) (maxDigits + 1) := by
  refine ⟨?_, Nat.lt_succ_self _⟩
  rw [digitCount?, isOverlong_padded, integer?_padded, toList_padded]
  simp

theorem parse_set {token : String} (some_char : token ≠ "") (spaceless : ' ' ∉ token.toList) :
    vocabulary.parse ("set a " ++ token) = .ok ⟨VariableCommand.set.name, ["a", token]⟩ := by
  have text : ("set a " ++ token).toList =
      's' :: 'e' :: 't' :: ' ' :: 'a' :: ' ' :: token.toList := by
    rw [String.toList_append]
    rfl
  have readable : ∀ arg ∈ ["a", token], arg ≠ "" ∧ ' ' ∉ arg.toList := by
    simp [some_char, spaceless]
  have args : Text.tokens (' ' :: 'a' :: ' ' :: token.toList) = ["a", token] := by
    simpa using Text.tokens_flatMap readable
  have names : vocabulary.names = ["end set code", "print mem", "set code", "print", "call", "def",
      "rem", "run", "set", "sub"] := by decide +kernel
  rw [Vocabulary.parse_eq_ok_iff (by rw [names]; simp), names]
  simp [Vocabulary.attempt?, Vocabulary.rest?, text, Text.after?, args, VariableCommand.name]

/-- The line sets a variable to one, which is a value that can be written, and has no answer. -/
theorem padded_one_unanswered :
    readValue (some (padded maxDigits)) = .ok 1 ∧
    (({} : Immediate).line ("set a " ++ padded maxDigits)).result =
      .error (.crash (.tooManyDigits (maxDigits + 1))) := by
  have some_char : padded maxDigits ≠ "" := by
    intro empty
    have none := toList_padded maxDigits
    simp [empty] at none
  have spaceless : ' ' ∉ (padded maxDigits).toList := fun space =>
    absurd (mem_padded space) (by decide)
  have parsed := parse_set some_char spaceless
  have overlong : Overlong { ({} : Immediate).count with opened := none }
      ("set a " ++ padded maxDigits) (maxDigits + 1) :=
    ⟨.set, _, _, parsed, .set rfl rfl, tooLong_padded⟩
  have crashed : ({} : Immediate).count.statement ("set a " ++ padded maxDigits) = _ :=
    (statement_of_closes rfl (.inl rfl)).trans (dispatch_of_overlong overlong)
  constructor
  · rw [readValue, isOverlong_padded, integer?_padded]
    rfl
  · rw [Immediate.line, if_neg (by decide), crashed]
    rfl

end Immediate

end LineLang
