import CircuitScript.Numeral.Radix
import CircuitScript.Text.Visible

/-! Texts in quotes, with what cannot be shown written as escapes. -/
namespace CircuitScript.Text

def escape (c : Char) : List Char :=
  if c = '"' then ['\\', '"']
  else if c = '\\' then ['\\', '\\']
  else if c = '\n' then ['\\', 'n']
  else if c = '\r' then ['\\', 'r']
  else if c = '\t' then ['\\', 't']
  else if c.toNat = 0 then ['\\', '0']
  else if isVisible c then [c]
  else ['\\', 'u', '{'] ++ Numeral.write .hexadecimal c.toNat ++ ['}']

def quoted (text : String) : String :=
  "\"" ++ String.ofList (text.toList.flatMap escape) ++ "\""

end CircuitScript.Text
