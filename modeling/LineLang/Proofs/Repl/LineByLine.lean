import LineLang.Proofs.Session.Past
import LineLang.Repl

/-!
# Conversations line by line

A conversation takes its lines one by one. Over a whole input this comes to answering what the input
asks for (`converse_eq_answers`). Between two lines the screen may be wiped and what was on it be
handed out, since nothing that is said later depends on it: every answer commutes with putting an
earlier screen before the present one (`Conversation.take_after`). So the texts that are handed out
are, put together, what the conversation writes over the whole input (`text_converse`).
-/

namespace LineLang

namespace Reply

variable {σ α β : Type}

theorem void_unit (r : Reply σ Unit) : r.void = r := by
  rcases r with ⟨s, result⟩
  cases result <;> rfl

theorem void_forEach_cons (act : β → σ → Reply σ α) (b : β) (bs : List β) (s : σ) :
    (forEach act (b :: bs) s).void = (act b s).void.andThen fun s => (forEach act bs s).void := by
  rw [forEach]
  rcases act b s with ⟨next, result⟩
  cases result with
  | error e => rfl
  | ok a =>
    change void ⟨(forEach act bs next).state, (forEach act bs next).result.map (a :: ·)⟩ =
      (forEach act bs next).void
    rcases forEach act bs next with ⟨last, others⟩
    cases others <;> rfl

end Reply

namespace Repl

variable {fuel : Nat} {print : String → String} {prompt : String}

/-! ## What an input asks for -/

namespace Conversation

theorem takeAll_cons (line : String) (rest : List String) (c : Conversation) :
    takeAll fuel print prompt (line :: rest) c =
      (take fuel print prompt line c).andThen (takeAll fuel print prompt rest) := by
  rw [takeAll, Reply.void_forEach_cons, Reply.void_unit]
  rfl

end Conversation

namespace Screen

/-- The screen with what stands on an earlier one, and was noted up to then, before its own. -/
def after (s earlier : Screen) : Screen where
  interpreter := s.interpreter.after { log := earlier.interpreter.session.log }
  written := s.written.after earlier.written

theorem wiped_after (s : Screen) : s.wiped.after s = s := by
  have past : Session.after { s.interpreter.session with log := {} }
      { log := s.interpreter.session.log } = s.interpreter.session := by
    simp only [Session.after, Record.empty_after, Record.after_empty]
  have same : s.wiped.interpreter.after { log := s.interpreter.session.log } = s.interpreter :=
    (s.interpreter.onSession_onSession _ _).trans (Interpreter.onSession_eq_self past)
  exact congrArg (Screen.mk · s.written) same

theorem text_after (s earlier : Screen) : (s.after earlier).text = earlier.text ++ s.text := by
  rw [text, after, Record.toList_after, String.join_append]
  rfl

theorem flush_after (s earlier : Screen) :
    (s.after earlier).flush print = (s.flush print).after earlier := by
  have taken := s.interpreter.takeOutput_of_after { log := earlier.interpreter.session.log }
  rw [flush, after, taken]
  rfl

end Screen

theorem answer_after (request : Request) (s earlier : Screen) :
    answer fuel print prompt request (s.after earlier) =
      (answer fuel print prompt request s).mapState (·.after earlier) := by
  cases request with
  | prompt | farewell => rfl
  | submit payload =>
    have taken : (s.after earlier).interpreter.line fuel payload = _ :=
      s.interpreter.line_after fuel payload { log := earlier.interpreter.session.log }
    rw [answer, answer, taken]
    rcases s.interpreter.line fuel payload with ⟨next, result⟩
    exact congrArg (Reply.mk · _) (Screen.flush_after { s with interpreter := next } earlier)

theorem answers_after (requests : List Request) (s earlier : Screen) :
    answers fuel print prompt requests (s.after earlier) =
      (answers fuel print prompt requests s).mapState (·.after earlier) := by
  refine Reply.related_image_iff.1
    (.void (.forEach (R := fun s t : Screen => t = s.after earlier) rfl ?_ requests))
  rintro s _ request rfl
  exact Reply.related_image_iff.2 (answer_after request s earlier)

namespace Conversation

/-- The conversation with an earlier screen before its own. -/
def after (c : Conversation) (earlier : Screen) : Conversation :=
  { c with screen := c.screen.after earlier }

theorem wiped_after (c : Conversation) : c.wiped.after c.screen = c := by
  rw [after, wiped, Screen.wiped_after]

theorem take_after (line : String) (c : Conversation) (earlier : Screen) :
    take fuel print prompt line (c.after earlier) =
      (take fuel print prompt line c).mapState (·.after earlier) := by
  rcases c with ⟨s, _ | pending⟩
  · rfl
  · rw [take, take]
    exact congrArg (Reply.mapState _) (answers_after (hear pending line).1 s earlier)

theorem takeAll_after (lines : List String) (c : Conversation) (earlier : Screen) :
    takeAll fuel print prompt lines (c.after earlier) =
      (takeAll fuel print prompt lines c).mapState (·.after earlier) := by
  refine Reply.related_image_iff.1
    (.void (.forEach (R := fun c e : Conversation => e = c.after earlier) rfl ?_ lines))
  rintro c _ line rfl
  exact Reply.related_image_iff.2 (take_after line c earlier)

theorem finish_after (c : Conversation) (earlier : Screen) :
    (c.after earlier).finish = c.finish.after earlier := by
  rcases c with ⟨s, _ | pending⟩ <;> rfl

theorem hold_after (lines : List String) (c : Conversation) (earlier : Screen) :
    hold fuel print prompt lines (c.after earlier) =
      (hold fuel print prompt lines c).mapState (·.after earlier) := by
  refine Reply.related_image_iff.1
    ((Reply.related_image_iff.2 (takeAll_after lines c earlier)).andThen ?_)
  rintro c _ rfl
  exact Reply.related_image_iff.2 (congrArg (Reply.ok · ()) (c.finish_after earlier))

/-- What is on the screen may be handed out before the lines that are left are taken. -/
theorem text_hold (lines : List String) (c : Conversation) :
    (hold fuel print prompt lines c).state.screen.text =
      c.screen.text ++ (hold fuel print prompt lines c.wiped).state.screen.text := by
  calc (hold fuel print prompt lines c).state.screen.text
      = (hold fuel print prompt lines (c.wiped.after c.screen)).state.screen.text := by
        rw [wiped_after]
    _ = ((hold fuel print prompt lines c.wiped).state.screen.after c.screen).text := by
        rw [hold_after]
        rfl
    _ = _ := Screen.text_after _ _

/-- The texts that are handed out if the screen is wiped after every line. A line that crashes is
the last one. -/
def handedOut (fuel : Nat) (print : String → String) (prompt : String) :
    List String → Conversation → List String
  | [], c => [c.finish.screen.text]
  | line :: rest, c =>
    let reply := take fuel print prompt line c
    reply.state.screen.text ::
      match reply.result with
      | .ok () => handedOut fuel print prompt rest reply.state.wiped
      | .error _ => []

theorem join_handedOut (lines : List String) (c : Conversation) :
    String.join (handedOut fuel print prompt lines c) =
      (hold fuel print prompt lines c).state.screen.text := by
  induction lines generalizing c with
  | nil =>
    rw [handedOut, String.join_cons, String.join_nil, String.append_empty]
    rfl
  | cons line rest ih =>
    rw [handedOut, hold, takeAll_cons]
    rcases take fuel print prompt line c with ⟨next, result⟩
    cases result with
    | error e => simp [Reply.andThen, Reply.bind]
    | ok _ =>
      rw [String.join_cons, ih]
      exact (text_hold rest next).symm

end Conversation

/-- A conversation that is held line by line, with the screen wiped after the first prompt and after
every line, hands out what it writes over the whole input. -/
theorem text_converse (lines : List String) (s : Screen) :
    (converse fuel print prompt lines s).state.text =
      String.join ((Conversation.start prompt s).screen.text ::
        Conversation.handedOut fuel print prompt lines (Conversation.start prompt s).wiped) := by
  rw [String.join_cons, Conversation.join_handedOut]
  exact Conversation.text_hold lines _

end Repl

end LineLang
