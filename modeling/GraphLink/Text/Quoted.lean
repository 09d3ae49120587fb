import GraphLink.Text.Numeral
import GraphLink.Text.Unprintable

/-! # Quoted text

    Diagnostics show a piece of text between double quotes so that every character in it can be
    seen.  A backslash, a double quote, NUL, tab, line feed and carriage return have a two-character
    form; any other unprintable character is written as its code point in hexadecimal between
    braces; all else, the single quote included, stands for itself. -/

namespace GraphLink.Text

/-- The code point of a character, in hexadecimal between braces. -/
def codePointEscape (c : Char) : List Char :=
  ['\\', 'u', '\x7b'] ++ hexadecimal c.toNat ++ ['\x7d']

/-- How one character stands inside quotes. -/
def quoteChar (c : Char) : List Char :=
  match c with
  | '\x00' => ['\\', '0']
  | '\t' => ['\\', 't']
  | '\n' => ['\\', 'n']
  | '\r' => ['\\', 'r']
  | '\\' => ['\\', '\\']
  | '"' => ['\\', '"']
  | c => if isUnprintable c then codePointEscape c else [c]

/-- A text between double quotes, every character of it visible. -/
def quoted (s : String) : String :=
  String.ofList ('"' :: s.toList.flatMap quoteChar ++ ['"'])

end GraphLink.Text
