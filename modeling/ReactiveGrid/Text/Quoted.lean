import ReactiveGrid.Text.Printable

/-!
# Quoted text

A text between double quotes, as it stands in the description of a cell and in log lines. A quote
and a backslash are written behind a backslash, the common controls by a letter, and every other
character that does not show as itself by its code point in hexadecimal.
-/

namespace ReactiveGrid.Text

def escapeLetter? : Char → Option Char
  | '\x00' => some '0'
  | '\t' => some 't'
  | '\n' => some 'n'
  | '\r' => some 'r'
  | '"' => some '"'
  | '\\' => some '\\'
  | _ => none

def quoteChar (c : Char) : List Char :=
  match escapeLetter? c with
  | some l => ['\\', l]
  | none => if isPrintable c then [c] else '\\' :: 'u' :: '{' :: (Nat.toDigits 16 c.toNat ++ ['}'])

def quote (s : String) : String :=
  String.ofList ('"' :: (s.toList.flatMap quoteChar ++ ['"']))

end ReactiveGrid.Text
