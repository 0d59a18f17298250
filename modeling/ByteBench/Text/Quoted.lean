import ByteBench.Text.Printable
import ByteBench.Text.Radix

/-!
# Quoted text

How a message shows a word of the source: between double quotes, with a backslash before what could
be misread. Characters that could not be seen are given by their code point.
-/

namespace ByteBench.Text

def escapeChar (c : Char) : String :=
  match c with
  | '"' => "\\\""
  | '\\' => "\\\\"
  | '\t' => "\\t"
  | '\n' => "\\n"
  | '\r' => "\\r"
  | '\x00' => "\\0"
  -- braces around the code point are written by their own code points here
  | c => if isPrintable c then c.toString else "\\u\x7b" ++ hexLower c.toNat ++ "\x7d"

def quoted (s : String) : String :=
  "\"" ++ String.join (s.toList.map escapeChar) ++ "\""

end ByteBench.Text
