import LineLang.Interpreter
import LineLang.Payload
import LineLang.Text.Blank

/-!
# Conversations

Lines are gathered until an empty line submits them as one payload. `turn` says what a line does to
the lines gathered before it, and `hear` what it asks for: submissions and prompts. A conversation
takes one line after the other and answers what it asks for (`Conversation.take`). What a whole
input asks for is listed by `requests`. How a line of output is written is left to `print`.
-/

namespace LineLang.Repl

/-- What a line does to the lines gathered so far. -/
inductive Turn
  | leave
  | gather (pending : List String)
  | submit (payload : String)
  deriving DecidableEq, Repr

/-- The words that end a conversation. -/
def farewells : List String :=
  ["exit", "quit"]

/-- What a line does, where `pending` holds the lines gathered so far, newest first. A word that
ends the conversation is recognised only at the start of a group. -/
def turn (pending : List String) (line : String) : Turn :=
  if pending.isEmpty && Text.trim line ∈ farewells then .leave
  else if !line.isEmpty then .gather (line :: pending)
  else if pending.isEmpty then .gather []
  else .submit (Payload.join pending.reverse)

/-- What a conversation asks for. -/
inductive Request
  | prompt
  | submit (payload : String)
  | farewell
  deriving DecidableEq, Repr

/-- A prompt is due when no line has been gathered. -/
def promptWhenDue (pending : List String) : List Request :=
  if pending.isEmpty then [.prompt] else []

/-- What a line asks for, and the lines gathered after it, newest first. No lines are gathered after
the line that ends the conversation. -/
def hear (pending : List String) (line : String) : List Request × Option (List String) :=
  match turn pending line with
  | .leave => ([], none)
  | .gather pending => (promptWhenDue pending, some pending)
  | .submit payload => ([.submit payload, .prompt], some [])

/-- What the lines that are left ask for. At the end of the input, lines that were not submitted are
dropped. -/
def requestsFrom (pending : List String) : List String → List Request
  | [] => [.farewell]
  | line :: rest =>
    match hear pending line with
    | (requests, some pending) => requests ++ requestsFrom pending rest
    | (requests, none) => requests

/-- What an input asks for. -/
def requests (lines : List String) : List Request :=
  .prompt :: requestsFrom [] lines

/-! ## Answers -/

/-- An interpreter, and what has been written on the screen. -/
structure Screen where
  interpreter : Interpreter
  written : Record String := {}

namespace Screen

/-- Writes a text. -/
def write (s : Screen) (text : String) : Screen :=
  { s with written := s.written.add text }

/-- Writes the lines that the interpreter has put out. -/
def flush (print : String → String) (s : Screen) : Screen :=
  let (lines, interpreter) := s.interpreter.takeOutput
  { interpreter, written := s.written.add (Text.printAll print lines) }

/-- The screen when what is on it, and what the interpreter has noted, has been handed out. -/
def wiped (s : Screen) : Screen :=
  { interpreter := s.interpreter.takeLog.2 }

/-- Everything that was written. -/
def text (s : Screen) : String :=
  String.join s.written.toList

end Screen

/-- The last words. -/
def goodbye : String :=
  "\nGoodbye!\n"

section

variable (fuel : Nat) (print : String → String) (prompt : String)

/-- Carries out one request, with at most `fuel` micro-steps. -/
def answer (request : Request) (s : Screen) : Reply Screen Unit :=
  match request with
  | .prompt => .ok (s.write prompt) ()
  | .farewell => .ok (s.write goodbye) ()
  | .submit payload =>
    let reply := s.interpreter.line fuel payload
    ⟨Screen.flush print { s with interpreter := reply.state }, reply.result.map fun _ => ()⟩

/-- Carries out requests in turn, up to one that crashes. -/
def answers (requests : List Request) (s : Screen) : Reply Screen Unit :=
  (Reply.forEach (answer fuel print prompt) requests s).void

end

/-! ## Line by line -/

/-- Where a conversation stands: what is on the screen, and the lines gathered so far, newest first.
No lines are gathered when it is over. -/
structure Conversation where
  screen : Screen
  pending : Option (List String)

namespace Conversation

/-- Begins with a prompt. -/
def start (prompt : String) (s : Screen) : Conversation :=
  ⟨s.write prompt, some []⟩

/-- Takes a line and answers what it asks for. -/
def take (fuel : Nat) (print : String → String) (prompt line : String) (c : Conversation) :
    Reply Conversation Unit :=
  match c.pending with
  | none => .ok c ()
  | some pending =>
    let (requests, pending) := hear pending line
    (answers fuel print prompt requests c.screen).mapState (⟨·, pending⟩)

/-- Takes lines in turn. -/
def takeAll (fuel : Nat) (print : String → String) (prompt : String) (lines : List String)
    (c : Conversation) : Reply Conversation Unit :=
  (Reply.forEach (take fuel print prompt) lines c).void

/-- Says goodbye at the end of the input, unless the conversation is over already. -/
def finish (c : Conversation) : Conversation :=
  match c.pending with
  | none => c
  | some _ => ⟨c.screen.write goodbye, none⟩

/-- Takes the lines that are left, up to the end of the input. -/
def hold (fuel : Nat) (print : String → String) (prompt : String) (lines : List String)
    (c : Conversation) : Reply Conversation Unit :=
  (takeAll fuel print prompt lines c).andThen fun c => .ok c.finish ()

/-- The conversation when its screen has been wiped. -/
def wiped (c : Conversation) : Conversation :=
  { c with screen := c.screen.wiped }

end Conversation

/-- A conversation over a whole input. -/
def converse (fuel : Nat) (print : String → String) (prompt : String) (lines : List String)
    (s : Screen) : Reply Screen Unit :=
  (Conversation.hold fuel print prompt lines (.start prompt s)).mapState Conversation.screen

end LineLang.Repl
