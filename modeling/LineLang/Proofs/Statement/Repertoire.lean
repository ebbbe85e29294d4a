import LineLang.Proofs.Reply
import LineLang.Proofs.Statement.LongestName
import LineLang.Repertoire
import Mathlib.Data.List.Nodup

/-!
# The command of a line

A line that can be read is a statement of one of the commands, whatever the repertoire: the names
that are tried on it are those of the commands, and no two commands share one. So carrying a line
out comes to a fault in the line or to one command (`dispatch_cases`). Two interpreters with one
repertoire find the same command, so they do the same for a line if they do so for every command
(`dispatch_related`).
-/

namespace LineLang

namespace Repertoire

variable {γ σ τ : Type} {r : Repertoire γ} {line : String}

/-! ## Commands and their names -/

theorem name_of_ofName? {name : String} {c : γ} (found : r.ofName? name = some c) :
    r.name c = name := by
  simpa using List.find?_some found

theorem name_injective (r : Repertoire γ) : Function.Injective r.name := fun c c' =>
  List.inj_on_of_nodup_map r.distinct (r.complete c) (r.complete c')

theorem ofName?_name (r : Repertoire γ) (c : γ) : r.ofName? (r.name c) = some c := by
  cases found : r.ofName? (r.name c) with
  | none =>
    have other := List.find?_eq_none.1 found c (r.complete c)
    simp at other
  | some c' => rw [r.name_injective (name_of_ofName? found)]

/-- Every statement has a command, if there are commands at all. -/
theorem exists_of_parse [Nonempty γ] {statement : Statement}
    (parsed : r.vocabulary.parse line = .ok statement) :
    ∃ c, statement = ⟨r.name c, statement.args⟩ := by
  have lists := Vocabulary.lists_ofNames (r.all.map r.name)
  have some_name : r.all.map r.name ≠ [] :=
    List.ne_nil_of_mem (List.mem_map_of_mem (r.complete (Classical.arbitrary γ)))
  obtain ⟨c, -, named⟩ := List.mem_map.1
    ((Vocabulary.parse_eq_ok_iff_longestMatch lists some_name).1 parsed).known
  exact ⟨c, by rw [named]⟩

/-! ## Carrying a line out -/

theorem dispatch_of_parse {c : γ} {args : List String}
    (parsed : r.vocabulary.parse line = .ok ⟨r.name c, args⟩)
    (act : List String → σ → γ → Reply σ Unit) (s : σ) : r.dispatch act line s = act args s c := by
  unfold dispatch
  rw [parsed]
  dsimp only
  rw [r.ofName?_name c]

/-- The line is refused as it stands, or it is a statement and its command is carried out. -/
theorem dispatch_cases [Nonempty γ] (r : Repertoire γ) (line : String) (σ : Type) :
    (∃ f, r.vocabulary.parse line = .error f ∧
      ∀ act (s : σ), r.dispatch act line s = .fault s f) ∨
    ∃ c args, r.vocabulary.parse line = .ok ⟨r.name c, args⟩ ∧
      ∀ act (s : σ), r.dispatch act line s = act args s c := by
  cases parsed : r.vocabulary.parse line with
  | error f =>
    refine .inl ⟨f, rfl, fun act s => ?_⟩
    rw [dispatch, parsed]
  | ok statement =>
    obtain ⟨c, named⟩ := exists_of_parse parsed
    rw [named] at parsed ⊢
    exact .inr ⟨c, statement.args, rfl, dispatch_of_parse parsed⟩

/-- Two interpreters do the same for a line if they do so for every command. -/
theorem dispatch_related {act : List String → σ → γ → Reply σ Unit}
    {act' : List String → τ → γ → Reply τ Unit} {R : σ → τ → Prop} {s : σ} {t : τ} (states : R s t)
    (performed : ∀ args c, Reply.Related R (act args s c) (act' args t c)) (line : String) :
    Reply.Related R (r.dispatch act line s) (r.dispatch act' line t) := by
  unfold dispatch
  cases r.vocabulary.parse line with
  | error f => exact ⟨rfl, states⟩
  | ok statement =>
    dsimp only
    cases r.ofName? statement.command with
    | none => exact ⟨rfl, states⟩
    | some c => exact performed statement.args c

end Repertoire

end LineLang
