import ArchDiagram.Text.Visible

/-!
# Quoted texts

A quoted text stands between double quotes.  Inside, the double quote, the backslash, the tab, the
two line ends and the zero character have short escapes, and every other character that is not
visible is written by its hexadecimal number in braces.
-/

namespace ArchDiagram.Text

def quoteChar (c : Char) : List Char :=
  if c = '"' then ['\\', '"']
  else if c = '\\' then ['\\', '\\']
  else if c = '\t' then ['\\', 't']
  else if c = '\r' then ['\\', 'r']
  else if c = '\n' then ['\\', 'n']
  else if c.toNat = 0 then ['\\', '0']
  else if isVisible c then [c]
  else ['\\', 'u', Char.ofNat 0x7B] ++ Nat.toDigits 16 c.toNat ++ [Char.ofNat 0x7D]

def quoted (s : String) : String :=
  String.ofList ('"' :: (s.toList.flatMap quoteChar ++ ['"']))

end ArchDiagram.Text
