import ReactiveGrid.CommandLine.Request

/-!
# Options on the command line

Arguments are options, values of options, and operands. A long option is `--name`, and its value
follows as the next argument or after an equals sign. Short options are one letter after a dash;
several can share the dash, and the value of the last may follow at once. Everything behind `--` is
an operand.

The value of an option that stands in the next argument is only looked at when the next option or
operand has been recognized, or at the end. So an argument that is not recognized is refused before
the value in front of it.

This belongs to the outer layer of the program. What a request does, once it is read, is said without
it.
-/

namespace ReactiveGrid.CommandLine

inductive Effect (σ : Type) where
  | switch (apply : σ → Except UsageError σ)
  | value (apply : String → σ → Except UsageError σ)

structure Flag (σ : Type) where
  long : String
  short : Option Char := none
  effect : Effect σ

structure Usage (σ : Type) where
  flags : List (Flag σ)
  operand? : σ → Option (String → σ → Except UsageError σ)

/-- An option whose value is still to come, or still to be looked at. -/
structure Pending (σ : Type) where
  value : Option String := none
  apply : String → σ → Except UsageError σ

structure Progress (σ : Type) where
  settings : σ
  pending : Option (Pending σ) := none
  ended : Bool := false

namespace Progress

variable {σ : Type}

def settle (p : Progress σ) : Except UsageError (Progress σ) :=
  match p.pending with
  | none => .ok p
  | some { value := none, .. } => .error .misuse
  | some { value := some v, apply } =>
    (apply v p.settings).map fun s => { p with settings := s, pending := none }

def takeFlag (p : Progress σ) (effect : Effect σ) (attached : Option String) :
    Except UsageError (Progress σ) :=
  match effect, attached with
  | .switch _, some _ => .error .misuse
  | .switch apply, none =>
    p.settle.bind fun p => (apply p.settings).map fun s => { p with settings := s }
  | .value apply, some v =>
    p.settle.bind fun p => (apply v p.settings).map fun s => { p with settings := s }
  | .value apply, none => p.settle.map fun p => { p with pending := some { apply := apply } }

def takeLong (u : Usage σ) (p : Progress σ) (body : List Char) : Except UsageError (Progress σ) :=
  let (name, attached) := match Text.splitAtFirst? '=' body with
    | some (name, value) => (name, some (String.ofList value))
    | none => (body, none)
  match u.flags.find? (·.long.toList == name) with
  | none => .error .misuse
  | some flag => p.takeFlag flag.effect attached

def attachedTo : List Char → Option String
  | [] => none
  | '=' :: value => some (String.ofList value)
  | value => some (String.ofList value)

def takeShort (u : Usage σ) (p : Progress σ) : List Char → Except UsageError (Progress σ)
  | [] => .ok p
  | c :: cs =>
    match u.flags.find? (·.short == some c) with
    | none => .error .misuse
    | some flag =>
      match flag.effect with
      | .switch apply => (p.takeFlag (.switch apply) none).bind fun p => p.takeShort u cs
      | .value apply => p.takeFlag (.value apply) (attachedTo cs)

def takeOperand (u : Usage σ) (p : Progress σ) (arg : String) : Except UsageError (Progress σ) :=
  match u.operand? p.settings with
  | none => .error .misuse
  | some take =>
    p.settle.bind fun p => (take arg p.settings).map fun s => { p with settings := s }

def takeWord (u : Usage σ) (p : Progress σ) (arg : String) : Except UsageError (Progress σ) :=
  match p.pending with
  | some { value := none, apply } => .ok { p with pending := some { value := some arg, apply } }
  | _ => p.takeOperand u arg

def take (u : Usage σ) (p : Progress σ) (arg : String) : Except UsageError (Progress σ) :=
  if p.ended then p.takeOperand u arg
  else
    match arg.toList with
    | ['-', '-'] => .ok { p with ended := true }
    | '-' :: '-' :: body => p.takeLong u body
    | '-' :: c :: cs => p.takeShort u (c :: cs)
    | _ => p.takeWord u arg

end Progress

def Usage.settings {σ : Type} (u : Usage σ) (start : σ) (args : List String) :
    Except UsageError σ :=
  (args.foldlM (Progress.take u) { settings := start }).bind fun p => p.settle.map (·.settings)

/-! ### Values -/

/-- The number that a text writes, with an optional sign, if it is not negative and not above a
bound. -/
def number? (bound : Nat) (s : String) : Option Nat :=
  let (negative, digits) := match s.toList with
    | '-' :: digits => (true, digits)
    | '+' :: digits => (false, digits)
    | digits => (false, digits)
  let n := Nat.ofDigitChars 10 digits 0
  if digits.isEmpty || !digits.all Char.isDigit || bound < n || (negative && n != 0) then none
  else some n

def once {α σ : Type} (get : σ → Option α) (put : σ → α → σ) (value? : String → Option α) : Effect σ :=
  .value fun text s =>
    match get s, value? text with
    | none, some v => .ok (put s v)
    | _, _ => .error .misuse

def onceSwitch {σ : Type} (get : σ → Bool) (put : σ → σ) : Effect σ :=
  .switch fun s => if get s then .error .misuse else .ok (put s)

/-! ### Evaluating -/

structure EvalArguments where
  expression : Option String := none
  /-- The assignments, latest first. -/
  assignments : List Assignment := []
  help : Bool := false

namespace EvalArguments

def assign (text : String) (s : EvalArguments) : Except UsageError EvalArguments :=
  match Assignment.parse text with
  | .ok a => .ok { s with assignments := a :: s.assignments }
  | .error cause => .error (.assignment cause)

def usage : Usage EvalArguments where
  flags := [
    { long := "var", short := some 'v', effect := .value assign },
    { long := "help", short := some 'h', effect := .switch fun s => .ok { s with help := true } }]
  operand? s :=
    if s.expression.isSome then none else some fun text s => .ok { s with expression := some text }

def request (s : EvalArguments) : Except UsageError Request :=
  match s.help, s.expression with
  | true, _ => .ok .help
  | false, some e => .ok (.eval e s.assignments.reverse)
  | false, none => .error .misuse

end EvalArguments

/-! ### Listing tokens -/

structure TokensArguments where
  expression : Option String := none
  help : Bool := false

namespace TokensArguments

def usage : Usage TokensArguments where
  flags :=
    [{ long := "help", short := some 'h', effect := .switch fun s => .ok { s with help := true } }]
  operand? s :=
    if s.expression.isSome then none else some fun text s => .ok { s with expression := some text }

def request (s : TokensArguments) : Except UsageError Request :=
  match s.help, s.expression with
  | true, _ => .ok .help
  | false, some e => .ok (.tokens e)
  | false, none => .error .misuse

end TokensArguments

/-! ### Playing a script -/

structure SheetArguments where
  script : Option String := none
  rows : Option Nat := none
  columns : Option Nat := none
  singleHop : Bool := false
  trace : Bool := false
  help : Bool := false

namespace SheetArguments

def maxRows : Nat := UInt32.size - 1

def maxColumns : Nat := UInt16.size - 1

def usage : Usage SheetArguments where
  flags := [
    { long := "rows", short := some 'r'
      effect := once (·.rows) (fun s n => { s with rows := some n }) (number? maxRows) },
    { long := "columns", short := some 'c'
      effect := once (·.columns) (fun s n => { s with columns := some n }) (number? maxColumns) },
    { long := "single-hop"
      effect := onceSwitch (·.singleHop) fun s => { s with singleHop := true } },
    { long := "trace", effect := onceSwitch (·.trace) fun s => { s with trace := true } },
    { long := "help", short := some 'h', effect := .switch fun s => .ok { s with help := true } }]
  operand? s :=
    if s.script.isSome then none
    else some fun text s =>
      if text.isEmpty then .error .misuse else .ok { s with script := some text }

/-- The settings that the arguments for a script make; what they do not say keeps its default. -/
def settings (s : SheetArguments) : SheetSettings :=
  let start : SheetSettings := {}
  { script := s.script
    rows := s.rows.getD start.rows
    columns := s.columns.getD start.columns
    propagation := if s.singleHop then .singleHop else .transitive
    trace := s.trace }

def request (s : SheetArguments) : Except UsageError Request :=
  if s.help then .ok .help else .ok (.sheet s.settings)

end SheetArguments

/-! ### All arguments -/

def Request.ofLeadingOption (arg : List Char) : Except UsageError Request :=
  if arg = "--version".toList then .ok .version
  else if arg = "--help".toList then .ok .help
  else match arg with
    | '-' :: 'V' :: _ => .ok .version
    | '-' :: 'h' :: _ => .ok .help
    | _ => .error .misuse

def Request.ofArguments (args : List String) : Except UsageError Request :=
  match args with
  | [] => .error .misuse
  | "eval" :: args => (EvalArguments.usage.settings {} args).bind EvalArguments.request
  | "tokens" :: args => (TokensArguments.usage.settings {} args).bind TokensArguments.request
  | "sheet" :: args => (SheetArguments.usage.settings {} args).bind SheetArguments.request
  | ["help"] => .ok .help
  | ["help", command] =>
    if ["eval", "tokens", "sheet", "help"].contains command then .ok .help else .error .misuse
  | arg :: _ => Request.ofLeadingOption arg.toList

end ReactiveGrid.CommandLine
