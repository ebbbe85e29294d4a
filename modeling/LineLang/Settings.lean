import LineLang.Text.Blank
import LineLang.Text.Letters

/-!
# Configuration

Settings come from the environment, and values given explicitly take precedence over it.
-/

namespace LineLang

/-- The settings: the level from which log events are shown, the prompt of a conversation, if there
is one, and whether the brackets around code are strict. -/
structure Settings where
  logLevel : String := "WARNING"
  prompt : Option String := some "> "
  strict : Bool := false
  deriving DecidableEq, Repr

namespace Settings

/-- The log levels. -/
def logLevels : List String :=
  ["DEBUG", "INFO", "WARNING", "ERROR", "CRITICAL"]

/-- The words for yes. -/
def affirmations : List String :=
  ["1", "true", "yes", "on"]

/-- The log level that a text names, in either case and with blanks around it. -/
def logLevel? (text : String) : Option String :=
  let level := Text.capitals (Text.trim text)
  if level ∈ logLevels then some level else none

/-- Whether a text says yes, in either case and with blanks around it. -/
def isAffirmative (text : String) : Bool :=
  Text.smalls (Text.trim text) ∈ affirmations

/-- Values given explicitly. -/
structure Overrides where
  logLevel : Option String := none
  prompt : Option String := none
  strict : Option Bool := none

/-- Replaces the settings for which a value is given. -/
def override (c : Settings) (o : Overrides) : Settings where
  logLevel := o.logLevel.getD c.logLevel
  prompt := o.prompt <|> c.prompt
  strict := o.strict.getD c.strict

/-- The variable that names the log level. -/
def levelVariable : String :=
  "KIZHI_LOG_LEVEL"

/-- The variable that holds the prompt. -/
def promptVariable : String :=
  "KIZHI_PROMPT"

/-- The variable that asks for strict brackets. -/
def strictVariable : String :=
  "KIZHI_STRICT"

/-- The settings of an environment, which may mention a variable without giving it a value. A level
that is unknown is disregarded. -/
def ofEnvironment (env : String → Option (Option String)) : Settings :=
  let standard : Settings := {}
  { logLevel := ((env levelVariable).join.bind logLevel?).getD standard.logLevel
    prompt := (env promptVariable).getD standard.prompt
    strict := (env strictVariable).join.any isAffirmative }

end Settings

end LineLang
