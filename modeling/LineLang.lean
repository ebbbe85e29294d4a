import LineLang.Main
import LineLang.Proofs.Debugger.Breakpoints
import LineLang.Proofs.Debugger.Crashes
import LineLang.Proofs.Debugger.Schedule
import LineLang.Proofs.Debugger.StepOver
import LineLang.Proofs.Debugger.Stepping
import LineLang.Proofs.Script.Agreement
import LineLang.Proofs.Immediate.Nesting
import LineLang.Proofs.Debugger.Halting
import LineLang.Proofs.Debugger.Moments
import LineLang.Proofs.Text.Pieces
import LineLang.Proofs.Outline.Layout
import LineLang.Proofs.Debugger.MainLines
import LineLang.Proofs.Debugger.CallSites
import LineLang.Proofs.Debugger.Repeating
import LineLang.Proofs.Immediate.Effect
import LineLang.Proofs.Immediate.Sessions
import LineLang.Proofs.Immediate.Course
import LineLang.Proofs.Immediate.Restoring
import LineLang.Proofs.Immediate.Positions
import LineLang.Proofs.Debugger.PartialLoads
import LineLang.Proofs.Debugger.Retrying
import LineLang.Proofs.Debugger.Brackets
import LineLang.Proofs.Immediate.Scripts
import LineLang.Proofs.Outline.Parts
import LineLang.Proofs.Session.Past
import LineLang.Proofs.Debugger.Quiet
import LineLang.Proofs.Repl.Submissions
import LineLang.Proofs.Session.Memory
import LineLang.Proofs.Session.Stores
import LineLang.Proofs.Statement.LongestName
import LineLang.Proofs.Statement.Rendering
import LineLang.Proofs.Statement.Values
import LineLang.Proofs.Text.LineEnds
import LineLang.Proofs.Text.Payloads
import LineLang.Proofs.Text.Stretches
