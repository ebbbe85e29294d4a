import LineLang.Proofs.Debugger.Runs

/-!
# Lines and sessions

`Response` lists what typing a line comes down to: code is loaded, a statement is executed outside
every run, or a run is started. A line is answered by what one of the responses leaves, after a
fault is reported (`Answers.exists_response`). A session is one line after the other, each of which
ends (`Serves`). A line that crashes does not keep the next one from being typed.
-/

namespace LineLang

namespace Debugger

variable {d d' : Debugger} {text : String} {fuel : Nat}

/-- How a line ends: with the result that is handed back, or with a crash. -/
abbrev Answer :=
  Except Failure LineResult

/-- A line that is typed ends in the debugger `d'` with an answer, whatever number of micro-steps it
takes. -/
def Answers (text : String) (d d' : Debugger) (a : Answer) : Prop :=
  a ≠ .error .unfinished ∧ ∃ fuel, d.line fuel text = ⟨d', a⟩

/-! ## What a line comes down to -/

/-- What typing `text` can lead to, before a fault is reported. -/
inductive Response (text : String) (d : Debugger) : Reply Debugger Unit → Prop
  | load (waiting : d.phase = .waiting) : Response text d (d.load text)
  | execute (ready : d.phase ≠ .waiting) (other : ∀ mode, commandOf? text ≠ some (.resume mode)) :
      Response text d (d.execute text)
  | resume (mode : RunMode) (ready : d.phase ≠ .waiting)
      (command : commandOf? text = some (.resume mode)) {d' : Debugger} {o : Outcome}
      (ends : Ends mode d d' o) : Response text d ⟨d', o.map fun _ => ()⟩

/-- The answer to a line after its faults are reported. -/
def settled (text : String) (reply : Reply Debugger Unit) : Reply Debugger LineResult :=
  reply.settle fun f d => d.onSession (·.report text f)

theorem statement_of_resume {mode : RunMode} (command : commandOf? text = some (.resume mode)) :
    d.statement fuel text = (d.start fuel mode).void := by
  obtain ⟨args, parsed⟩ := parse_of_commandOf? command
  exact repertoire.dispatch_of_parse parsed (performTyped fuel) d

theorem statement_of_other (other : ∀ mode, commandOf? text ≠ some (.resume mode)) :
    d.statement fuel text = d.execute text := by
  obtain ⟨f, -, refused⟩ | ⟨c, args, parsed, performed⟩ := repertoire.dispatch_cases text Debugger
  · rw [statement, execute, refused, refused]
  · rw [statement, execute, performed, performed]
    cases c with
    | resume mode => exact absurd (commandOf?_of_parse parsed) (other mode)
    | _ => rfl

/-- A line is answered by one of the responses. -/
theorem Answers.exists_response {a : Answer} (h : Answers text d d' a) :
    ∃ reply, Response text d reply ∧ settled text reply = ⟨d', a⟩ := by
  obtain ⟨definite, fuel, answered⟩ := h
  by_cases waiting : d.phase = .waiting
  · rw [line, if_pos waiting] at answered
    exact ⟨_, .load waiting, answered⟩
  · rw [line, if_neg waiting] at answered
    refine ⟨_, ?_, answered⟩
    by_cases resume : ∃ mode, commandOf? text = some (.resume mode)
    · obtain ⟨mode, command⟩ := resume
      rw [statement_of_resume command] at answered ⊢
      refine .resume mode waiting command ⟨?_, fuel, rfl⟩
      intro unfinished
      simp only [Reply.void, unfinished] at answered
      exact definite (congrArg Reply.result answered).symm
    · have other := not_exists.1 resume
      rw [statement_of_other other]
      exact .execute waiting other

/-- Reporting a fault changes nothing that a statement can read. -/
theorem settled_alike (text : String) (reply : Reply Debugger Unit) :
    Alike (settled text reply).state reply.state := by
  obtain ⟨s, result⟩ := reply
  cases result with
  | ok u => exact .refl s
  | error f => cases f <;> exact ⟨rfl, rfl, rfl, rfl, rfl, rfl⟩

theorem breakpoints_settled (text : String) (reply : Reply Debugger Unit) :
    (settled text reply).state.breakpoints = reply.state.breakpoints := by
  obtain ⟨s, result⟩ := reply
  cases result with
  | ok u => rfl
  | error f => cases f <;> rfl

/-- A crash is not reported. -/
theorem settled_of_crash {reply : Reply Debugger Unit} {c : Crash}
    (crash : reply.result = .error (.crash c)) :
    settled text reply = ⟨reply.state, .error (.crash c)⟩ := by
  simp only [settled, Reply.settle, crash]

/-- What is done, and what is refused with a fault, is answered with a result. -/
theorem exists_result_of_settled {reply : Reply Debugger Unit}
    (fine : reply.result = .ok () ∨ ∃ f, reply.result = .error (.fault f)) :
    ∃ result, (settled text reply).result = .ok result := by
  obtain done | ⟨f, fault⟩ := fine
  · exact ⟨.success, by simp only [settled, Reply.settle, done]⟩
  · exact ⟨.failure f, by simp only [settled, Reply.settle, fault]⟩

/-! ## Sessions -/

/-- One line of a session: the debugger before it and after it, and the answer. -/
structure Turn where
  before : Debugger
  text : String
  after : Debugger
  answer : Answer

/-- Line after line is typed, each of which ends. -/
inductive Serves : Debugger → List Turn → Prop
  | done (d : Debugger) : Serves d []
  | turn {t : Turn} {turns : List Turn} (answers : Answers t.text t.before t.after t.answer)
      (rest : Serves t.after turns) : Serves t.before (t :: turns)

/-- The turns of a session, each with at most `fuel` micro-steps. -/
def session (fuel : Nat) : List String → Debugger → List Turn
  | [], _ => []
  | text :: rest, d =>
    ⟨d, text, (d.line fuel text).state, (d.line fuel text).result⟩ ::
      session fuel rest (d.line fuel text).state

theorem serves_session {lines : List String}
    (definite : ∀ t ∈ session fuel lines d, t.answer ≠ .error .unfinished) :
    Serves d (session fuel lines d) := by
  induction lines generalizing d with
  | nil => exact .done d
  | cons text rest ih =>
    have answers : Answers text d (d.line fuel text).state (d.line fuel text).result :=
      ⟨definite _ List.mem_cons_self, fuel, rfl⟩
    exact .turn (t := ⟨d, text, _, _⟩) answers
      (ih fun t member => definite t (List.mem_cons_of_mem _ member))

end Debugger

end LineLang
