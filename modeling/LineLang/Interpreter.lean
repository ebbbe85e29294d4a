import LineLang.Debugger.Run
import LineLang.Immediate

/-!
# Interpreters

The debugger, the immediate interpreter and the bare session, which understands no command, behind
one set of operations.
-/

namespace LineLang

namespace Bare

/-- The repertoire without a command. -/
abbrev repertoire : Repertoire Empty where
  all := []
  name := nofun
  complete := nofun
  distinct := .nil

/-- The vocabulary without a command. -/
def vocabulary : Vocabulary :=
  repertoire.vocabulary

/-- Executes a statement. The only name that can be read is the empty one, and no command has it. -/
def statement (line : String) (s : Session) : Reply Session Unit :=
  repertoire.dispatch (fun _ _ => nofun) line s

/-- Takes code, which a bare session cannot do. -/
def load (_payload : String) (s : Session) : Reply Session Unit :=
  .crash s .unimplemented

/-- Takes a line: as code if code was asked for, as a statement otherwise. A fault is reported. -/
def line (line : String) (s : Session) : Reply Session LineResult :=
  (if s.phase = .waiting then load line s else statement line s).settle (Session.report line)

end Bare

/-- One of the three interpreters in some state. -/
inductive Interpreter
  | bare (s : Session)
  | debugger (d : Debugger)
  | immediate (i : Immediate)

namespace Interpreter

/-- The names of the commands that are understood. -/
def vocabulary : Interpreter → Vocabulary
  | bare _ => Bare.vocabulary
  | debugger _ => Debugger.vocabulary
  | immediate _ => Immediate.vocabulary

/-- The part that all interpreters share. -/
def session : Interpreter → Session
  | bare s => s
  | debugger d => d.toSession
  | immediate i => i.toSession

/-- Changes the part that all interpreters share. -/
def onSession (change : Session → Session) : Interpreter → Interpreter
  | bare s => bare (change s)
  | debugger d => debugger (d.onSession change)
  | immediate i => immediate (i.onSession change)

/-- Executes a statement, with at most `fuel` micro-steps. -/
def statement (fuel : Nat) (line : String) : Interpreter → Reply Interpreter Unit
  | bare s => (Bare.statement line s).mapState bare
  | debugger d => (d.statement fuel line).mapState debugger
  | immediate i => (i.statement line).mapState immediate

/-- Takes a script. -/
def load (payload : String) : Interpreter → Reply Interpreter Unit
  | bare s => (Bare.load payload s).mapState bare
  | debugger d => (d.load payload).mapState debugger
  | immediate i => (i.load payload).mapState immediate

/-- Takes a line, with at most `fuel` micro-steps. -/
def line (fuel : Nat) (line : String) : Interpreter → Reply Interpreter LineResult
  | bare s => (Bare.line line s).mapState bare
  | debugger d => (d.line fuel line).mapState debugger
  | immediate i => (i.line line).mapState immediate

/-- Takes lines in turn, up to one that crashes. -/
def lines (fuel : Nat) : List String → Interpreter → Reply Interpreter (List LineResult) :=
  Reply.forEach (line fuel)

/-- Carries out a command of the debugger in the session of any interpreter. Only the debugger runs
programs and keeps breakpoints. -/
def performDebugger (fuel : Nat) (args : List String) (command : Debugger.Command) :
    Interpreter → Reply Interpreter Unit
  | debugger d => (d.performTyped fuel args command).mapState debugger
  | i =>
    match command with
    | .resume _ => .crash i .noRuns
    | _ =>
      (Debugger.perform args { toSession := i.session } command).mapState fun d =>
        i.onSession fun _ => d.toSession

/-- Carries out a command of the immediate interpreter in the session of any interpreter. Only the
immediate interpreter counts lines, so only it can place a function. -/
def performImmediate (args : List String) (command : Immediate.Command) :
    Interpreter → Reply Interpreter Unit
  | immediate m => (m.performDirectly args command).mapState immediate
  | i =>
    match command with
    | .define =>
      match readName args[0]? with
      | .error f => .fault i f
      | .ok _ => .crash i .noLineCount
    | _ =>
      (Immediate.performDirectly args { toSession := i.session } command).mapState fun m =>
        i.onSession fun _ => m.toSession

/-- The position of statements outside every frame. -/
def outside : Interpreter → Option Int
  | bare _ | debugger _ => none
  | immediate i => some i.position

/-- Hands out the lines written since the last time. -/
def takeOutput (i : Interpreter) : List String × Interpreter :=
  (i.session.output.take.1, i.onSession fun s => { s with output := s.output.take.2 })

/-- Hands out the events noted since the last time. -/
def takeLog (i : Interpreter) : List Event × Interpreter :=
  (i.session.log.take.1, i.onSession fun s => { s with log := s.log.take.2 })

end Interpreter

end LineLang
