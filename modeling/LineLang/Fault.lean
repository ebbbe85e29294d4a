/-!
# Faults

What can be wrong with a line that somebody typed or a statement that a program holds. A fault is
reported as one line of output and the session goes on.
-/

namespace LineLang

/-- The three families of faults. -/
inductive FaultCategory
  | syntactic
  | semantic
  | state
  deriving DecidableEq, Repr

/-- The kinds of fault, without what they are about. -/
inductive FaultKind
  | unknownCommand
  | invalidName
  | invalidValue
  | unsetVariable
  | undefinedFunction
  | redefinedFunction
  | noProgram
  | recursiveCall
  | unrequestedCode
  deriving DecidableEq, Repr

/-- One fault, with the name of the function that it is about. -/
inductive Fault
  | unknownCommand
  | invalidName
  | invalidValue
  | unsetVariable
  | undefinedFunction (name : String)
  | redefinedFunction (name : String)
  | noProgram
  | recursiveCall (name : String)
  | unrequestedCode
  deriving DecidableEq, Repr

namespace FaultKind

/-- All kinds. -/
def all : List FaultKind :=
  [unknownCommand, invalidName, invalidValue, unsetVariable, undefinedFunction, redefinedFunction,
   noProgram, recursiveCall, unrequestedCode]

/-- The word under which a kind is logged. -/
def label : FaultKind → String
  | unknownCommand => "COMMAND_NOT_RECOGNIZED"
  | invalidName => "INVALID_NAME"
  | invalidValue => "INVALID_VALUE"
  | unsetVariable => "VARIABLE_NOT_SET"
  | undefinedFunction => "FUNCTION_NOT_DEFINED"
  | redefinedFunction => "FUNCTION_ALREADY_DEFINED"
  | noProgram => "NO_CODE_LOADED"
  | recursiveCall => "RECURSIVE_CALL"
  | unrequestedCode => "CODE_NOT_REQUESTED"

/-- The kind logged under a word. -/
def ofLabel? (label : String) : Option FaultKind :=
  all.find? (·.label = label)

/-- The family of a kind. -/
def category : FaultKind → FaultCategory
  | unknownCommand | invalidName | invalidValue => .syntactic
  | unsetVariable | undefinedFunction | redefinedFunction | noProgram | recursiveCall => .semantic
  | unrequestedCode => .state

/-- The fault of a kind that is about the function `name`, where the kind is about a function. -/
def about (name : String) : FaultKind → Fault
  | unknownCommand => .unknownCommand
  | invalidName => .invalidName
  | invalidValue => .invalidValue
  | unsetVariable => .unsetVariable
  | undefinedFunction => .undefinedFunction name
  | redefinedFunction => .redefinedFunction name
  | noProgram => .noProgram
  | recursiveCall => .recursiveCall name
  | unrequestedCode => .unrequestedCode

/-- Whether faults of a kind are about a function. -/
def isAboutFunction : FaultKind → Bool
  | undefinedFunction | redefinedFunction | recursiveCall => true
  | _ => false

/-- The fault of a kind, if the name that it needs is given. -/
def fault? (kind : FaultKind) : Option String → Option Fault
  | some name => some (kind.about name)
  | none => if kind.isAboutFunction then none else some (kind.about "")

end FaultKind

namespace Fault

/-- The kind of a fault. -/
def kind : Fault → FaultKind
  | unknownCommand => .unknownCommand
  | invalidName => .invalidName
  | invalidValue => .invalidValue
  | unsetVariable => .unsetVariable
  | undefinedFunction _ => .undefinedFunction
  | redefinedFunction _ => .redefinedFunction
  | noProgram => .noProgram
  | recursiveCall _ => .recursiveCall
  | unrequestedCode => .unrequestedCode

/-- The line that reports a fault. -/
def message : Fault → String
  | unknownCommand => "Command not recognized"
  | invalidName => "Variable name must consist of English letters"
  | invalidValue => "Value must be a natural number"
  | unsetVariable => "Variable is not in memory"
  | undefinedFunction name => "Function " ++ name ++ " is not defined"
  | redefinedFunction name => "Function " ++ name ++ " is already defined"
  | noProgram => "No code loaded"
  | recursiveCall name => "Function " ++ name ++ " is already running"
  | unrequestedCode => "end set code without set code"

end Fault

/-- The message of a kind with a placeholder for the name. -/
def FaultKind.template (kind : FaultKind) : String :=
  (kind.about "\x7bname\x7d").message

end LineLang
