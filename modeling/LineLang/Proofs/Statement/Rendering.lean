import LineLang.Debugger.Basic
import LineLang.Proofs.Statement.LongestName

/-!
# Statements that are written and read back

A statement is written as its command and then its arguments, each after one space. Read back it is
the same, unless the command and its first arguments are together the name of another command
(`parse_render_iff_of_lists`). The debugger has four such names: `set code`, `print mem`,
`print trace` and `step over` (`parse_render_iff`).
-/

namespace LineLang

/-- The text can be an argument: it has characters, and none of them is a space. -/
def IsToken (text : String) : Prop :=
  text ≠ "" ∧ ' ' ∉ text.toList

instance : DecidablePred IsToken :=
  fun _ => inferInstanceAs (Decidable (_ ∧ _))

/-- The line of a statement. -/
def Statement.render (s : Statement) : String :=
  s.command ++ String.join (s.args.map (" " ++ ·))

variable {s : Statement} {name : String}

theorem toList_join_args (args : List String) :
    (String.join (args.map (" " ++ ·))).toList = args.flatMap fun arg => ' ' :: arg.toList := by
  rw [String.toList_join, List.flatMap_map]
  congr 1
  funext arg
  exact String.toList_append

theorem head?_args (args : List String) :
    (args.flatMap fun arg => ' ' :: arg.toList) = [] ∨
      (args.flatMap fun arg => ' ' :: arg.toList).head? = some ' ' := by
  cases args with
  | nil => exact .inl rfl
  | cons arg rest => exact .inr rfl

theorem Statement.toList_render (s : Statement) :
    s.render.toList = s.command.toList ++ s.args.flatMap fun arg => ' ' :: arg.toList := by
  rw [render, String.toList_append, toList_join_args]

theorem Statement.fits_render (readable : ∀ arg ∈ s.args, IsToken arg) :
    s.Fits s.render := by
  refine ⟨String.join (s.args.map (" " ++ ·)), rfl, ?_, ?_⟩
  · rw [toList_join_args]
    exact head?_args s.args
  · have parts := Text.stretches_tokens (s.args.flatMap fun arg => ' ' :: arg.toList)
    rw [Text.tokens_flatMap readable] at parts
    rwa [toList_join_args]

/-- A text that ends where an argument ends consists of whole arguments. -/
theorem exists_args_of_append {args : List String} {front back : List Char}
    (readable : ∀ arg ∈ args, IsToken arg)
    (split : args.flatMap (fun arg => ' ' :: arg.toList) = front ++ back)
    (starts : back = [] ∨ back.head? = some ' ') :
    ∃ taken, taken <+: args ∧ front = taken.flatMap fun arg => ' ' :: arg.toList := by
  induction args generalizing front with
  | nil =>
    obtain ⟨rfl, -⟩ := List.append_eq_nil_iff.1 split.symm
    exact ⟨[], List.prefix_rfl, rfl⟩
  | cons arg rest ih =>
    cases front with
    | nil => exact ⟨[], List.nil_prefix, rfl⟩
    | cons c front =>
      simp only [List.flatMap_cons, List.cons_append, List.cons.injEq] at split
      obtain ⟨rfl, split⟩ := split
      obtain ⟨more, rfl, later⟩ | ⟨more, within, later⟩ := List.append_eq_append_iff.1 split
      · obtain ⟨taken, part, rfl⟩ :=
          ih (fun arg member => readable arg (List.mem_cons_of_mem _ member)) later
        exact ⟨arg :: taken, List.cons_prefix_cons.2 ⟨rfl, part⟩, rfl⟩
      · -- The cut is right behind the argument: a cut within it would need a space there.
        cases more with
        | nil =>
          refine ⟨[arg], List.cons_prefix_cons.2 ⟨rfl, List.nil_prefix⟩, ?_⟩
          rw [List.append_nil] at within
          simp [within]
        | cons d more =>
          have space : d = ' ' := by simpa [later] using starts
          have inside : ' ' ∈ arg.toList := by simp [within, space]
          exact absurd inside (readable arg List.mem_cons_self).2

/-- Beyond the command, what stands at the start of a written statement as whole words is the
command with some of the arguments. -/
theorem opens_render_iff (readable : ∀ arg ∈ s.args, IsToken arg)
    (longer : s.command.length ≤ name.length) :
    Opens name s.render ↔
      ∃ taken, taken <+: s.args ∧ name = Statement.render ⟨s.command, taken⟩ := by
  rw [opens_iff, s.toList_render]
  constructor
  · rintro ⟨back, text, starts⟩
    have part : s.command.toList <+: name.toList := by
      refine List.prefix_of_prefix_length_le (List.prefix_append _ _) ⟨back, text.symm⟩ ?_
      rwa [String.length_toList, String.length_toList]
    obtain ⟨front, split⟩ := part
    rw [← split, List.append_assoc] at text
    obtain ⟨taken, part, rfl⟩ :=
      exists_args_of_append readable (List.append_cancel_left text) starts
    refine ⟨taken, part, String.toList_inj.1 ?_⟩
    rw [Statement.toList_render, split]
  · rintro ⟨taken, ⟨others, split⟩, rfl⟩
    refine ⟨others.flatMap fun arg => ' ' :: arg.toList, ?_, head?_args others⟩
    rw [Statement.toList_render, ← split, List.flatMap_append, List.append_assoc]

theorem length_lt_render {taken : List String} (some_arg : taken ≠ []) (command : String) :
    command.length < (Statement.render ⟨command, taken⟩).length := by
  cases taken with
  | nil => exact absurd rfl some_arg
  | cons arg rest =>
    rw [← String.length_toList, ← String.length_toList, Statement.toList_render]
    simp

/-- A written statement is read back as it is, unless its command and the first of its arguments
make another name. -/
theorem Vocabulary.parse_render_iff_of_lists {v : Vocabulary} {names : List String}
    (h : v.Lists names) (known : s.command ∈ names)
    (readable : ∀ arg ∈ s.args, IsToken arg) :
    v.parse s.render = .ok s ↔
      ∀ taken, taken <+: s.args → taken ≠ [] → Statement.render ⟨s.command, taken⟩ ∉ names := by
  rw [parse_eq_ok_iff_longestMatch h (List.ne_nil_of_mem known)]
  constructor
  · intro longest taken part some_arg member
    have longer := length_lt_render some_arg s.command
    have opens := (opens_render_iff readable (Nat.le_of_lt longer)).2 ⟨taken, part, rfl⟩
    exact absurd (longest.longest _ member opens) (Nat.not_le_of_lt longer)
  · intro unnamed
    refine ⟨known, s.fits_render readable, fun name member opens => Nat.le_of_not_lt ?_⟩
    intro longer
    obtain ⟨taken, part, rfl⟩ := (opens_render_iff readable (Nat.le_of_lt longer)).1 opens
    refine unnamed taken part ?_ member
    rintro rfl
    simp [Statement.render] at longer

namespace Debugger

/-! ## The names of the debugger -/

/-- The commands and arguments that are together the name of another command. -/
def reserved : List (String × String) :=
  [("set", "code"), ("print", "mem"), ("print", "trace"), ("step", "over")]

/-- A name that begins with another one goes on with one reserved argument. -/
theorem render_mem_names_iff (c : Command) {taken : List String} (some_arg : taken ≠ [])
    (readable : ∀ arg ∈ taken, IsToken arg) :
    Statement.render ⟨c.name, taken⟩ ∈ Command.all.map Command.name ↔
      ∃ word, taken = [word] ∧ (c.name, word) ∈ reserved := by
  constructor
  · intro member
    obtain ⟨longer, listed, same⟩ := List.mem_map.1 member
    -- The arguments are what spaces leave of the longer name behind the shorter one.
    have behind : (Text.after? c.name.toList longer.name.toList).map Text.tokens = some taken := by
      rw [Text.after?_eq_some_iff.2 (same ▸ Statement.toList_render _), Option.map_some,
        Text.tokens_flatMap readable]
    have complete : (Command.all.all fun c => Command.all.all fun longer =>
        ((Text.after? c.name.toList longer.name.toList).map Text.tokens).all fun taken =>
          taken.isEmpty || reserved.any fun pair => pair.1 == c.name && taken == [pair.2]) =
        true := by
      decide +kernel
    have checked := List.all_eq_true.1 (List.all_eq_true.1 complete c c.mem_all) longer listed
    rw [behind] at checked
    obtain ⟨pair, inside, same⟩ : ∃ pair ∈ reserved, pair.1 = c.name ∧ taken = [pair.2] := by
      simpa [some_arg] using checked
    exact ⟨pair.2, same.2, same.1 ▸ inside⟩
  · have named : ∀ pair ∈ reserved,
        Statement.render ⟨pair.1, [pair.2]⟩ ∈ Command.all.map Command.name := by
      decide +kernel
    rintro ⟨word, rfl, inside⟩
    exact named (c.name, word) inside

/-- A statement of the debugger that is written with readable arguments is read back as it is,
unless its first argument makes another name of its command. -/
theorem parse_render_iff (c : Command) (args : List String)
    (readable : ∀ arg ∈ args, IsToken arg) :
    vocabulary.parse (Statement.render ⟨c.name, args⟩) = .ok ⟨c.name, args⟩ ↔
      ¬ (c.name = "set" ∧ args.head? = some "code" ∨
        c.name = "print" ∧ (args.head? = some "mem" ∨ args.head? = some "trace") ∨
        c.name = "step" ∧ args.head? = some "over") := by
  have lists : vocabulary.Lists (Command.all.map Command.name) := Vocabulary.lists_ofNames _
  have known : c.name ∈ Command.all.map Command.name := List.mem_map_of_mem c.mem_all
  have unnamed_iff : (∀ taken, taken <+: args → taken ≠ [] →
      Statement.render ⟨c.name, taken⟩ ∉ Command.all.map Command.name) ↔
      ∀ word, args.head? = some word → (c.name, word) ∉ reserved := by
    constructor
    · intro unnamed word first inside
      obtain ⟨rest, rfl⟩ := List.head?_eq_some_iff.1 first
      have readable' : ∀ arg ∈ [word], IsToken arg := fun arg member =>
        readable arg (List.mem_singleton.1 member ▸ List.mem_cons_self)
      refine unnamed [word] ⟨rest, rfl⟩ (List.cons_ne_nil _ _) ?_
      exact (render_mem_names_iff c (List.cons_ne_nil _ _) readable').2 ⟨word, rfl, inside⟩
    · intro free taken part some_arg member
      have readable' : ∀ arg ∈ taken, IsToken arg := fun arg member =>
        readable arg (part.subset member)
      obtain ⟨word, rfl, inside⟩ := (render_mem_names_iff c some_arg readable').1 member
      obtain ⟨rest, rfl⟩ := part
      exact free word rfl inside
  rw [Vocabulary.parse_render_iff_of_lists lists known readable, unnamed_iff]
  simp only [reserved, List.mem_cons, Prod.mk.injEq, List.not_mem_nil, or_false]
  cases args.head? with
  | none => simp
  | some word =>
    simp only [Option.some.injEq, forall_eq']
    grind

/-- Arguments that go on behind a reserved word are no exception, also if they have line ends. -/
theorem memo_parse_render_iff :
    (∀ arg ∈ ["mem\n", "trace"], IsToken arg) ∧
    vocabulary.parse "print mem\n trace" = .ok ⟨"print", ["mem\n", "trace"]⟩ ∧
    vocabulary.parse "print mem trace" ≠ .ok ⟨"print", ["mem", "trace"]⟩ := by
  have readable : ∀ arg ∈ ["mem\n", "trace"], IsToken arg := by decide +kernel
  have readable' : ∀ arg ∈ ["mem", "trace"], IsToken arg := by decide +kernel
  have kept := parse_render_iff (.session (.onVariables .print)) _ readable
  have taken := parse_render_iff (.session (.onVariables .print)) _ readable'
  refine ⟨readable, kept.2 (by decide +kernel), fun parsed => ?_⟩
  exact absurd (taken.1 parsed) (by decide +kernel)

end Debugger

end LineLang
