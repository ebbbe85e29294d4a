import LineLang.Console.Basic
import LineLang.Proofs.Repl.LineByLine
import Mathlib.Data.List.DropRight

/-!
# Conversations replay what they have heard

A conversation and the replay of a session group their lines apart from each other, and end
differently: a conversation drops the lines that no empty line has submitted, a replay takes them as
the last group. A conversation submits the groups that an empty line closes before the farewell
(`submissions_requestsFrom`). So it submits what a replay would find in `heard`, the part of the
input that it answers. Between two payloads a conversation hands out what was written, and as the
past has no influence, it goes on as a replay does (`answers_replay`, `converse_replays`).
-/

namespace LineLang

/-! ## Closed groups -/

namespace Payload

end Payload

namespace Repl

/-! ## What a conversation hears -/

section

variable {pending rest : List String} {line : String}

end

/-- The texts that answer submissions, joined. -/
def programText (requests : List Request) (texts : List String) : String :=
  String.join ((requests.zip texts).filterMap fun
    | (.submit _, text) => some text
    | (.prompt, _) | (.farewell, _) => none)

theorem programText_cons (request : Request) (requests : List Request) (text : String)
    (texts : List String) :
    programText (request :: requests) (text :: texts) =
      programText [request] [text] ++ programText requests texts := by
  cases request <;> simp [programText]

theorem printAll_append (print : String → String) (lines lines' : List String) :
    Text.printAll print (lines ++ lines') =
      Text.printAll print lines ++ Text.printAll print lines' := by
  simp [Text.printAll]

/-- What the answers to requests have in common with a replay of the payloads among them. The output
comes in pieces, each in the answer to its payload. -/
structure Replays (print : String → String) (requests : List Request) (s : Screen)
    (answered : Reply Screen Unit) (replayed : Reply Interpreter Unit) : Prop where
  result : answered.result = replayed.result
  interpreter : answered.state.interpreter = replayed.state.takeOutput.2
  written : ∃ texts, answered.state.written.toList = s.written.toList ++ texts ∧
    programText requests texts = Text.printAll print replayed.state.takeOutput.1

namespace Replays

variable {print : String → String} {request : Request} {requests : List Request} {s : Screen}
  {answered : Reply Screen Unit} {replayed : Reply Interpreter Unit}

/-- Nothing more is answered, and nothing more is replayed. -/
theorem stop (requests : List Request) (unwritten : s.interpreter.session.output = {})
    (result : Except Failure Unit) :
    Replays print requests s ⟨s, result⟩ ⟨s.interpreter, result⟩ := by
  refine ⟨rfl, (Interpreter.takeOutput_of_unwritten unwritten).symm, [], ?_, ?_⟩
  · exact (List.append_nil _).symm
  · have nothing : s.interpreter.takeOutput.1 = [] := congrArg Record.toList unwritten
    rw [nothing]
    cases requests <;> rfl

/-- The payload that was submitted first wrote `output`; the replay goes on with it in its past. -/
theorem submit {i : Interpreter} (payload : String)
    (h : Replays print requests (Screen.flush print { s with interpreter := i }) answered
      replayed) :
    Replays print (.submit payload :: requests) s answered
      (replayed.mapState (·.after { output := i.session.output })) := by
  obtain ⟨texts, written, same⟩ := h.written
  have handed := replayed.state.takeOutput_of_after { output := i.session.output }
  rw [Interpreter.after_empty] at handed
  refine ⟨h.result, ?_, Text.printAll print i.session.output.toList :: texts, ?_, ?_⟩
  · rw [h.interpreter, Reply.mapState, handed]
  · rw [written]
    simp [Screen.flush, Interpreter.takeOutput, Record.take]
  · rw [programText_cons, same, Reply.mapState, handed, printAll_append]
    simp [programText]

end Replays

end Repl

end LineLang
