import StatusBoard.Text.Blank
import StatusBoard.Text.Quoted.Table

/-!
A text between double quotes, as error messages show the values they complain about: what would
not be seen, or would disturb the text around it, is written as an escape.
-/

namespace StatusBoard.Text.Quoted

def hexDigits (n : Nat) : List Char := Nat.toDigits 16 n

def escape (c : Char) : List Char :=
  match c with
  | '"' => ['\\', '"']
  | '\\' => ['\\', '\\']
  | '\n' => ['\\', 'n']
  | '\r' => ['\\', 'r']
  | '\t' => ['\\', 't']
  | '\x00' => ['\\', '0']
  | c =>
      if ' ' ≤ c ∧ c ≤ '~' then [c]
      else if isControl c || marks.contains c || invisible.contains c || unassigned.contains c then
        ['\\', 'u', '\x7b'] ++ hexDigits c.toNat ++ ['\x7d']
      else [c]

end Quoted

def quoted (t : String) : String :=
  String.ofList (['"'] ++ t.toList.flatMap Quoted.escape ++ ['"'])

end StatusBoard.Text
