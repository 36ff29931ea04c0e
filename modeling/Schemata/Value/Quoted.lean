import Schemata.Unicode.GeneralCategory
import Schemata.Value.Text

/-! # Quoting for messages

A string shown inside a message keeps its printable characters. Blanks other than the space,
controls, unassigned characters, and characters that would attach to the one before are written by
number.
-/
namespace Schemata.Text

private def attachingSpacers : Unicode.CodeSet := Unicode.CodeSet.ofText
  "9be 9bf 9d7 9d8 b3e b3f b57 b58 bbe bbf bd7 bd8 cc0 cc1 cc2 cc3 cc7 cc9 cca ccc cd5 cd7 d3e d3f
d57 d58 dcf dd0 ddf de0 1715 1716 1734 1735 1b35 1b36 1b3b 1b3c 1b3d 1b3e 1b43 1b45 1baa 1bab
1bf2 1bf4 200c 200d 302e 3030 a953 a954 a9c0 a9c1 ff9e ffa0 111c0 111c1 11235 11236 1133e 1133f
1134d 1134e 11357 11358 113b8 113b9 113c2 113c3 113c5 113c6 113c7 113ca 113cf 113d0 114b0 114b1
114bd 114be 115af 115b0 116b6 116b7 11930 11931 1193d 1193e 11f41 11f42 16ff0 16ff2 1d165 1d167
1d16d 1d173 e0020 e0080"

private def isAttaching (c : Char) : Bool :=
  ["Mn", "Me"].contains (Unicode.category c) || attachingSpacers.contains c.toNat

private def isPrintable (c : Char) : Bool :=
  c == ' ' || !(["Cc", "Cf", "Cs", "Co", "Cn", "Zl", "Zp", "Zs"].contains (Unicode.category c))

private def numbered (c : Char) : List Char :=
  '\\' :: 'u' :: '\x7b' :: Nat.toDigits 16 c.toNat ++ ['\x7d']

private def shown (c : Char) : List Char :=
  if c = '"' then ['\\', '"']
  else if c = '\\' then ['\\', '\\']
  else if c = '\x00' then ['\\', '0']
  else if c = '\t' then ['\\', 't']
  else if c = '\n' then ['\\', 'n']
  else if c = '\r' then ['\\', 'r']
  else if isPrintable c && !isAttaching c then [c]
  else numbered c

def quoteShown (s : String) : String := String.ofList ('"' :: s.toList.flatMap shown ++ ['"'])

end Schemata.Text
