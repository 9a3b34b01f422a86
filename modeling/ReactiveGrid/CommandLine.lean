import ReactiveGrid.CommandLine.Request
import ReactiveGrid.Formula
import ReactiveGrid.Script

/-!
# The command line program

A run of the program takes a request and, where a script is asked for, the text that was read for
it. It gives a report: what is written to standard output, what is logged, and the failure, if there
is one. A run that fails writes nothing to standard output.
-/

namespace ReactiveGrid.CommandLine

def versionLine : String := "gridcalc 0.1.0\n"

def helpText : String :=
  "Evaluate arithmetic expressions and drive reactive cell grids\n\n"
    ++ "gridcalc eval EXPRESSION [--var NAME=VALUE]...\n"
    ++ "gridcalc tokens EXPRESSION\n"
    ++ "gridcalc sheet [SCRIPT] [--rows N] [--columns N] [--single-hop] [--trace]\n"
    ++ "gridcalc --version\n"

/-! ### Failures -/

inductive ReadFault where
  | refused (description : String) (number : Nat)
  | noText
deriving DecidableEq

namespace ReadFault

def notFound : ReadFault := refused "No such file or directory" 2

def isDirectory : ReadFault := refused "Is a directory" 21

def message : ReadFault → String
  | refused description number => s!"{description} (os error {number})"
  | noText => "stream did not contain valid UTF-8"

end ReadFault

def decode (bytes : ByteArray) : Except ReadFault String :=
  match String.fromUTF8? bytes with
  | some s => .ok s
  | none => .error .noText

inductive Failure where
  | parse (expression : String) (cause : Expr.Fault)
  | evaluate (cause : Expr.Fault)
  | tokenize (expression : String) (cause : Expr.Fault)
  | read (script : Option String) (cause : ReadFault)
  | create (cause : Refusal)
  | assign (entry : Script.Entry) (cause : Refusal)
deriving DecidableEq

namespace Failure

def context : Failure → String
  | parse e _ => "Failed to parse '" ++ e ++ "'"
  | evaluate _ => "Failed to evaluate expression"
  | tokenize e _ => "Failed to tokenize '" ++ e ++ "'"
  | read (some script) _ => "Failed to read '" ++ script ++ "'"
  | read none _ => "Failed to read from stdin"
  | create _ => "Failed to create grid"
  | assign entry _ => s!"line {entry.line}: cannot assign '{entry.name}'"

def cause : Failure → String
  | parse _ f => f.message
  | evaluate f => f.message
  | tokenize _ f => f.message
  | read _ f => f.message
  | create f => f.message
  | assign _ f => f.message

def text (f : Failure) : String :=
  "Error: " ++ f.context ++ "\n\nCaused by:\n    " ++ f.cause ++ "\n"

end Failure

/-! ### Reports -/

structure Report where
  output : String := ""
  records : List Log.Record := []
  failure : Option Failure := none

namespace Report

def failed (f : Failure) : Report :=
  { failure := some f }

def code (r : Report) : Nat :=
  if r.failure.isSome then 1 else 0

/-- What is written to standard error: the lines that a log makes of the records, and the failure. -/
def errorText (r : Report) (logLines : List Log.Record → List String) : String :=
  (logLines r.records).foldl (fun text line => text ++ line ++ "\n") ""
    ++ (r.failure.map Failure.text).getD ""

end Report

/-! ### Runs -/

def runEval (expression : String) (assignments : List Assignment) : Report :=
  match Formula.parse expression with
  | .error cause => .failed (.parse expression cause)
  | .ok f =>
    match (assignments.foldl (fun (f : Formula) a => f.set a.1 a.2) f).eval with
    | .error cause => .failed (.evaluate cause)
    | .ok value => { output := Decimal.render value ++ "\n" }

def runTokens (expression : String) : Report :=
  match Token.scan expression with
  | .error cause => .failed (.tokenize expression cause)
  | .ok tokens => { output := tokens.foldl (fun out t => out ++ t.text ++ "\n") "" }

def notification (d : Delivery) : Log.Record where
  level := .info
  target := "gridcalc"
  message := "notification"
  fields := [("cell", .plain d.cell.name), ("property", .plain d.property.name),
    ("text", .quoted d.cell.text), ("value", .quoted d.cell.value)]

/-- The records of an event: its own, then one for each listener. -/
def recordsOf (e : Event) : List Log.Record :=
  e.record :: e.deliveries.map notification

/-- The grid on which a script is played. For a trace, each cell has a listener. -/
def startGrid (settings : SheetSettings) : Except Refusal Grid :=
  (Grid.create settings.rows settings.columns settings.propagation).map fun g =>
    if settings.trace then { g with cells := g.cells.map Cell.listen } else g

def cellLine (c : Cell) : String :=
  c.name ++ "\t" ++ c.text ++ "\t" ++ c.value ++ "\n"

def listing (g : Grid) : String :=
  (g.cells.toList.filter (!·.text.isEmpty)).foldl (fun out c => out ++ cellLine c) ""

def runScript (g : Grid) (source : String) : Report :=
  let played := Script.play g #[] (Script.entries source)
  let records := played.events.toList.flatMap recordsOf
  match played.refused with
  | some (entry, cause) => { records := records, failure := some (.assign entry cause) }
  | none => { output := listing played.grid, records := records }

/-- What a script that was read makes of a new grid. A script that cannot be read is refused
first. -/
def runSheet (settings : SheetSettings) (source : Except ReadFault String) : Report :=
  match source with
  | .error cause => .failed (.read settings.script cause)
  | .ok source =>
    match startGrid settings with
    | .error cause => .failed (.create cause)
    | .ok g => runScript g source

/-- Where the script of a request is read from, if it asks for one: from a file or from standard
input. -/
def Request.source? : Request → Option (Option String)
  | sheet settings => some settings.script
  | _ => none

def Request.run (source : Except ReadFault String) : Request → Report
  | eval expression assignments => runEval expression assignments
  | tokens expression => runTokens expression
  | sheet settings => runSheet settings source
  | version => { output := versionLine }
  | help => { output := helpText }

end ReactiveGrid.CommandLine
