import Neighborhood.Text.Hex
import Neighborhood.Text.Printable

/-!
# Quoted text

Text between double quotes, on one line and with visible characters only.

* `Text.escape` — a character as it is, after a backslash, or by its code point in braces
* `Text.quoted` — the text of escaped characters between quotes
-/

namespace Neighborhood.Text

def escape (c : Char) : List Char :=
  match c with
  | '\x00' => ['\\', '0']
  | '\t' => ['\\', 't']
  | '\n' => ['\\', 'n']
  | '\r' => ['\\', 'r']
  | '"' => ['\\', '"']
  | '\\' => ['\\', '\\']
  | c => if isPrintable c then [c] else ['\\', 'u', '\x7b'] ++ Hex.ofNat c.toNat ++ ['\x7d']

def quoted (text : String) : String :=
  String.ofList ('"' :: text.toList.flatMap escape ++ ['"'])

end Neighborhood.Text
