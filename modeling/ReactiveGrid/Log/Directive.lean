import ReactiveGrid.Decimal.Reader
import ReactiveGrid.Log
import ReactiveGrid.Log.Pattern
import ReactiveGrid.Text.Blank
import ReactiveGrid.Text.Lines
import ReactiveGrid.Text.Part

/-!
# Directives

A directive says how verbose a part of the program may be. It is a level, as in `warn`; the name of
a part, which lets everything through; or a part and a level, as in `part=warn`. In brackets behind
the part stands a span of time and, in braces, a field, as in `part[span{field=pattern}]=warn`; each
of them may be missing.

The shape of a directive is read off its source without the blanks around it, but the parts are cut
from the whole source at the offsets found so. Blanks before a directive therefore move its parts,
and blanks behind it belong to the last one.
-/

namespace ReactiveGrid.Log

structure Condition where
  name : String
  pattern : Option (List Char)
deriving DecidableEq

structure Directive where
  /-- How the names of the parts start for which it holds; nothing stands for all parts. -/
  target : String := ""
  span : Option String := none
  condition : Option Condition := none
  verbosity : Nat
deriving DecidableEq

namespace Directive

/-! ### Faults -/

inductive Fault where
  | malformed
  | badLevel
  | badPattern (cause : Pattern.Fault)
deriving DecidableEq

def Fault.message : Fault → String
  | malformed => "invalid filter directive"
  | badLevel =>
    "error parsing level filter: expected one of \"off\", \"error\", \"warn\", \"info\", "
      ++ "\"debug\", \"trace\", or a number 0-5"
  | badPattern cause => "invalid field filter: " ++ cause.message

/-- What becomes of reading a directive. There is nothing at all where a part of it would start or
end inside a character. -/
abbrev Reading (α : Type) := ExceptT Fault Option α

def refuse {α : Type} (f : Fault) : Reading α :=
  throwThe Fault f

/-! ### Levels -/

def levelNames : List (String × Nat) :=
  [("off", 0), ("error", 1), ("warn", 2), ("info", 3), ("debug", 4), ("trace", 5)]

def everything : Nat := Level.trace.verbosity

def dropPlus : List Char → List Char
  | '+' :: digits => digits
  | digits => digits

def verbosity? (cs : List Char) : Option Nat :=
  let digits := dropPlus cs
  if !digits.isEmpty && digits.all Char.isDigit && Nat.ofDigitChars 10 digits 0 ≤ everything then
    some (Nat.ofDigitChars 10 digits 0)
  else (levelNames.find? fun p => p.1.toList == cs.map Char.toLower).map (·.2)

def levelFrom (source : List Char) (start : Nat) : Reading Nat := do
  let level ← Text.fromByte? start source
  if level.isEmpty then return everything
  match verbosity? level with
  | some v => return v
  | none => refuse .badLevel

/-! ### Parts -/

def partAt (source : List Char) (start : Nat) (part : List Char) : Reading String := do
  return String.ofList (← Text.part? start (Text.byteLength part) source)

/-- The condition that a text in braces writes. A second equals sign ends the pattern. -/
def conditionOf (text : List Char) : Reading Condition :=
  match Text.splitAtFirst? '=' text with
  | none => return ⟨String.ofList text, none⟩
  | some (name, value) => do
    let value := value.takeWhile (· ≠ '=')
    if (Decimal.read? value).isNone then
      if let some cause := Pattern.fault? value then refuse (.badPattern cause)
    return ⟨String.ofList name, some value⟩

def closing (source : List Char) (start : Nat) : List Char → Reading Nat
  | [] => return everything
  | c :: _ => if c = '=' then levelFrom source (start + 1) else refuse .malformed

def braces (source : List Char) (target : String) (span : Option String) (start : Nat)
    (cs : List Char) : Reading Directive := do
  let inner := cs.takeWhile (· ≠ '}')
  match cs.dropWhile (· ≠ '}') with
  | [] => refuse .malformed
  | _ :: rest =>
    let text ← partAt source start inner
    if text.isEmpty then refuse .malformed
    let condition ← conditionOf text.toList
    match rest with
    | ']' :: rest =>
      let verbosity ← closing source (start + Text.byteLength inner + 2) rest
      return { target, span, condition := some condition, verbosity }
    | _ => refuse .malformed

def brackets (source : List Char) (target : String) (start : Nat) (cs : List Char) :
    Reading Directive := do
  let inSpan (c : Char) : Bool := c ≠ ']' && c ≠ '{'
  let name := cs.takeWhile inSpan
  match cs.dropWhile inSpan with
  | [] => refuse .malformed
  | c :: rest =>
    let span ← partAt source start name
    let next := start + Text.byteLength name + 1
    if c = ']' then return { target, span := some span, verbosity := ← closing source next rest }
    else braces source target (if span.isEmpty then none else some span) next rest

/-! ### Whole directives -/

def startsPart (c : Char) : Bool :=
  Text.isAlphanumeric c || c == '-' || c == ':' || c == '_'

/-- A directive without an equals sign or a bracket: a level or a part. -/
def ofWord (word : List Char) : Directive :=
  match verbosity? word with
  | some v => { verbosity := v }
  | none => { target := String.ofList word, verbosity := everything }

def parse (source : List Char) : Reading Directive := do
  match Text.trim source with
  | [] => refuse .malformed
  | '[' :: rest => brackets source "" 1 rest
  | c :: cs =>
    if !startsPart c then refuse .malformed
    let inPart (c : Char) : Bool := c ≠ '=' && c ≠ '['
    let part := (c :: cs).takeWhile inPart
    let next := Text.byteLength part + 1
    match (c :: cs).dropWhile inPart with
    | [] => return ofWord source
    | '=' :: _ =>
      let target ← partAt source 0 part
      return { target, verbosity := ← levelFrom source next }
    | _ :: rest => brackets source (← partAt source 0 part) next rest

/-! ### Records -/

def messageField : String := "message"

def hasField (r : Record) (name : String) : Bool :=
  name == messageField || r.fields.any fun f => f.1 == name

/-- Whether a directive holds for a record. No record belongs to a span, and only the names of its
fields count. -/
def concerns (d : Directive) (r : Record) : Bool :=
  d.span.isNone && d.target.toList.isPrefixOf r.target.toList
    && d.condition.all fun c => c.pattern.isNone && hasField r c.name

/-- How specific a directive is beside another: first by the length of the part, then by the field
that it asks for. -/
def compareSpecificity (d e : Directive) : Ordering :=
  (compare d.target.length e.target.length).then
    (compare (d.condition.map (·.name)) (e.condition.map (·.name)))

end Directive

end ReactiveGrid.Log
