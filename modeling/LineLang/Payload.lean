import LineLang.Text.Lines

/-!
# Payloads

A session is typed in groups of lines. An empty line closes a group, and the lines of a group,
joined, are one payload.
-/

namespace LineLang.Payload

/-- The lines of one group as one text. -/
def join (lines : List String) : String :=
  "\n".intercalate lines

/-- The groups of non-empty lines, where `pending` is the group that is still open, newest line
first. -/
def groupsFrom (pending : List String) : List String → List (List String)
  | [] => if pending.isEmpty then [] else [pending.reverse]
  | line :: rest =>
    if !line.isEmpty then groupsFrom (line :: pending) rest
    else if pending.isEmpty then groupsFrom [] rest
    else pending.reverse :: groupsFrom [] rest

/-- The payloads of a list of raw lines. The line ends that close a raw line do not belong to it. -/
def assemble (lines : List String) : List String :=
  (groupsFrom [] (lines.map Text.chomp)).map join

end LineLang.Payload
