import Schemata.Unicode.Alphabetic
import Schemata.Unicode.Script
import Schemata.Unicode.WhiteSpace

/-! # Properties by name

A name is folded before it is looked up: an initial `is`, blanks, hyphens and underscores do not
count, nor does the case of its letters. A single name may be that of a binary property, a general
category or a script.
-/
namespace Schemata.Unicode

private def emojiSet : CodeSet := CodeSet.ofText
  "23 24 2a 2b 30 3a a9 aa ae af 203c 203d 2049 204a 2122 2123 2139 213a 2194 219a 21a9 21ab 231a
231c 2328 2329 23cf 23d0 23e9 23f4 23f8 23fb 24c2 24c3 25aa 25ac 25b6 25b7 25c0 25c1 25fb 25ff
2600 2605 260e 260f 2611 2612 2614 2616 2618 2619 261d 261e 2620 2621 2622 2624 2626 2627 262a
262b 262e 2630 2638 263b 2640 2641 2642 2643 2648 2654 265f 2661 2663 2664 2665 2667 2668 2669
267b 267c 267e 2680 2692 2698 2699 269a 269b 269d 26a0 26a2 26a7 26a8 26aa 26ac 26b0 26b2 26bd
26bf 26c4 26c6 26c8 26c9 26ce 26d0 26d1 26d2 26d3 26d5 26e9 26eb 26f0 26f6 26f7 26fb 26fd 26fe
2702 2703 2705 2706 2708 270e 270f 2710 2712 2713 2714 2715 2716 2717 271d 271e 2721 2722 2728
2729 2733 2735 2744 2745 2747 2748 274c 274d 274e 274f 2753 2756 2757 2758 2763 2765 2795 2798
27a1 27a2 27b0 27b1 27bf 27c0 2934 2936 2b05 2b08 2b1b 2b1d 2b50 2b51 2b55 2b56 3030 3031 303d
303e 3297 3298 3299 329a 1f004 1f005 1f0cf 1f0d0 1f170 1f172 1f17e 1f180 1f18e 1f18f 1f191
1f19b 1f1e6 1f200 1f201 1f203 1f21a 1f21b 1f22f 1f230 1f232 1f23b 1f250 1f252 1f300 1f322 1f324
1f394 1f396 1f398 1f399 1f39c 1f39e 1f3f1 1f3f3 1f3f6 1f3f7 1f4fe 1f4ff 1f53e 1f549 1f54f 1f550
1f568 1f56f 1f571 1f573 1f57b 1f587 1f588 1f58a 1f58e 1f590 1f591 1f595 1f597 1f5a4 1f5a6 1f5a8
1f5a9 1f5b1 1f5b3 1f5bc 1f5bd 1f5c2 1f5c5 1f5d1 1f5d4 1f5dc 1f5df 1f5e1 1f5e2 1f5e3 1f5e4 1f5e8
1f5e9 1f5ef 1f5f0 1f5f3 1f5f4 1f5fa 1f650 1f680 1f6c6 1f6cb 1f6d3 1f6d5 1f6d9 1f6dc 1f6e6 1f6e9
1f6ea 1f6eb 1f6ed 1f6f0 1f6f1 1f6f3 1f6fd 1f7e0 1f7ec 1f7f0 1f7f1 1f90c 1f93b 1f93c 1f946 1f947
1fa00 1fa70 1fa7d 1fa80 1fa8b 1fa8e 1fac7 1fac8 1fac9 1facd 1fadd 1fadf 1faeb 1faef 1faf9"

private def ideographicSet : CodeSet := CodeSet.ofText
  "3006 3008 3021 302a 3038 303b 3400 4dc0 4e00 a000 f900 fa6e fa70 fada 16fe4 16fe5 16ff2 16ff7
17000 18cd6 18cff 18d1f 18d80 18df3 1b170 1b2fc 20000 2a6e0 2a700 2b81e 2b820 2ceae 2ceb0 2ebe1
2ebf0 2ee5e 2f800 2fa1e 30000 3134b 31350 3347a"

private def dashSet : CodeSet := CodeSet.ofText
  "2d 2e 58a 58b 5be 5bf 1400 1401 1806 1807 2010 2016 2053 2054 207b 207c 208b 208c 2212 2213
2e17 2e18 2e1a 2e1b 2e3a 2e3c 2e40 2e41 2e5d 2e5e 301c 301d 3030 3031 30a0 30a1 fe31 fe33 fe58
fe59 fe63 fe64 ff0d ff0e 10d6e 10d6f 10ead 10eae"

private def mathSet : CodeSet := CodeSet.ofText
  "2b 2c 3c 3f 5e 5f 7c 7d 7e 7f ac ad b1 b2 d7 d8 f7 f8 3d0 3d3 3d5 3d6 3f0 3f2 3f4 3f7 606 609
2016 2017 2032 2035 2040 2041 2044 2045 2052 2053 2061 2065 207a 207f 208a 208f 20d0 20dd 20e1
20e2 20e5 20e7 20eb 20f0 2102 2103 2107 2108 210a 2114 2115 2116 2118 211e 2124 2125 2128 212a
212c 212e 212f 2132 2133 2139 213c 214a 214b 214c 2190 21a8 21a9 21af 21b0 21b2 21b6 21b8 21bc
21dc 21dd 21de 21e4 21e6 21f4 2300 2308 230c 2320 2322 237c 237d 239b 23b6 23b7 23b8 23d0 23d1
23dc 23e3 25a0 25a2 25ae 25b8 25bc 25c2 25c6 25c8 25ca 25cc 25cf 25d4 25e2 25e3 25e4 25e5 25e7
25ed 25f8 2600 2605 2607 2640 2641 2642 2643 2660 2664 266d 2670 27c0 2800 2900 2b00 2b30 2b45
2b47 2b4d fb29 fb2a fe61 fe67 fe68 fe69 ff0b ff0c ff1c ff1f ff3c ff3d ff3e ff3f ff5c ff5d ff5e
ff5f ffe2 ffe3 ffe9 ffed 10d8e 10d90 1cef0 1cef1 1d400 1d455 1d456 1d49d 1d49e 1d4a0 1d4a2
1d4a3 1d4a5 1d4a7 1d4a9 1d4ad 1d4ae 1d4ba 1d4bb 1d4bc 1d4bd 1d4c4 1d4c5 1d506 1d507 1d50b 1d50d
1d515 1d516 1d51d 1d51e 1d53a 1d53b 1d53f 1d540 1d545 1d546 1d547 1d54a 1d551 1d552 1d6a6 1d6a8
1d7cc 1d7ce 1d800 1ee00 1ee04 1ee05 1ee20 1ee21 1ee23 1ee24 1ee25 1ee27 1ee28 1ee29 1ee33 1ee34
1ee38 1ee39 1ee3a 1ee3b 1ee3c 1ee42 1ee43 1ee47 1ee48 1ee49 1ee4a 1ee4b 1ee4c 1ee4d 1ee50 1ee51
1ee53 1ee54 1ee55 1ee57 1ee58 1ee59 1ee5a 1ee5b 1ee5c 1ee5d 1ee5e 1ee5f 1ee60 1ee61 1ee63 1ee64
1ee65 1ee67 1ee6b 1ee6c 1ee73 1ee74 1ee78 1ee79 1ee7d 1ee7e 1ee7f 1ee80 1ee8a 1ee8b 1ee9c 1eea1
1eea4 1eea5 1eeaa 1eeab 1eebc 1eef0 1eef2 1f8d0 1f8d9"

private def isHexDigit (n : Nat) : Bool :=
  (0x30 ≤ n && n ≤ 0x39) || (0x41 ≤ n && n ≤ 0x46) || (0x61 ≤ n && n ≤ 0x66)

private def isIdentifierStart (c : Char) : Bool :=
  (["Lu", "Ll", "Lt", "Lm", "Lo", "Nl"].contains (category c) && c.toNat != 0x2E2F) ||
    [0x1885, 0x1886, 0x2118, 0x212E, 0x309B, 0x309C].contains c.toNat

/-- Binary properties by their folded names. -/
def binaryClass? (name : String) : Option (Char → Bool) :=
  match name with
  | "alphabetic" | "alpha" => some isAlphabetic
  | "lowercase" | "lower" => some isLowercase
  | "uppercase" | "upper" => some isUppercase
  | "cased" => some isCased
  | "whitespace" | "wspace" | "space" => some isWhiteSpace
  | "joincontrol" | "joinc" => some isJoinControl
  | "asciihexdigit" | "ahex" => some fun c => isHexDigit c.toNat
  | "hexdigit" | "hex" => some fun c =>
      isHexDigit c.toNat || (0xFF00 < c.toNat && isHexDigit (c.toNat - 0xFEE0))
  | "idstart" | "ids" => some isIdentifierStart
  | "ideographic" | "ideo" => some fun c => ideographicSet.contains c.toNat
  | "emoji" => some fun c => emojiSet.contains c.toNat
  | "dash" => some fun c => dashSet.contains c.toNat
  | "math" => some fun c => mathSet.contains c.toNat
  | _ => none

private def isSeparator (c : Char) : Bool := c == ' ' || c == '_' || c == '-'

/-- Drop what does not count in a name. A name that is only `c` after its initial is a property of
its own. -/
def foldName (name : String) : String :=
  let cs := name.toList
  let (stripped, cs) := match cs with
    | i :: s :: rest => if i.toLower == 'i' && s.toLower == 's' then (true, rest) else (false, cs)
    | _ => (false, cs)
  let folded := String.ofList <|
    (cs.filter fun c => !isSeparator c && c.toNat < 0x80).map Char.toLower
  if stripped && folded == "c" then "isc" else folded

/-- The class of a lone name. -/
def nameClass? (name : String) : Option (Char → Bool) :=
  let name := foldName name
  (binaryClass? name).or ((categoryClass? name).or (scriptClass? name))

/-- The class of a property and one of its values. -/
def valueClass? (property value : String) : Option (Char → Bool) :=
  match foldName property with
  | "generalcategory" | "gc" => categoryClass? (foldName value)
  | "script" | "sc" => scriptClass? (foldName value)
  | _ => none

end Schemata.Unicode
