import ReleaseUpload.Text.Hex
import ReleaseUpload.Text.Visible

/-!
Quoted text for traces. Quotes and backslashes take a backslash, the usual controls their letters,
and any other character that does not show is written by its number.
-/

namespace ReleaseUpload.Text

/-- Hex digits of a number without leading zeros. -/
def hexNumber (number : Nat) : List Char :=
  match (Hex.digits 8 number).dropWhile (· == '0') with
  | [] => ['0']
  | digits => digits

def quoteChar (c : Char) : List Char :=
  match c with
  | '"' => ['\\', '"']
  | '\\' => ['\\', '\\']
  | '\n' => ['\\', 'n']
  | '\r' => ['\\', 'r']
  | '\t' => ['\\', 't']
  | '\x00' => ['\\', '0']
  | c => if shows c then [c] else ['\\', 'u', '\x7b'] ++ hexNumber c.toNat ++ ['\x7d']

def quote (text : String) : String :=
  String.ofList ('"' :: text.toList.flatMap quoteChar ++ ['"'])

end ReleaseUpload.Text
