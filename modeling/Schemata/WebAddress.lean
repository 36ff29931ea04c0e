import Schemata.WebAddress.Domain
import Schemata.WebAddress.Ip

/-! # Web addresses

Which texts are absolute addresses. Blanks around the text do not count, and tabs and line ends
nowhere. A scheme is required; what follows it depends on whether the scheme is one of the web, the
one of files, or any other. Only an authority can be wrong: its userinfo, its host and its port.
-/
namespace Schemata.WebAddress

inductive SchemeKind
  | web
  | file
  | other
deriving DecidableEq

def SchemeKind.of (scheme : String) : SchemeKind :=
  if ["http", "https", "ws", "wss", "ftp"].contains scheme then .web
  else if scheme == "file" then .file
  else .other

/-- In addresses of the web and of files a backslash is a slash. -/
def SchemeKind.isSpecial (k : SchemeKind) : Bool := k != .other

private def isTrimmed (c : Char) : Bool := c.toNat ≤ 0x20

private def isSkipped (c : Char) : Bool := c == '\t' || c == '\n' || c == '\r'

private def trimmed (cs : List Char) : List Char :=
  ((cs.dropWhile isTrimmed).reverse.dropWhile isTrimmed).reverse

private def isSchemeChar (c : Char) : Bool := c.isAlphanum || c == '+' || c == '-' || c == '.'

/-- Split a text at the colon after its scheme. -/
def scheme? (cs : List Char) : Option (String × List Char) :=
  match cs.takeWhile isSchemeChar, cs.dropWhile isSchemeChar with
  | c :: scheme, ':' :: rest =>
    if c.isAlpha then some (String.ofList ((c :: scheme).map Char.toLower), rest) else none
  | _, _ => none

/-- Where an authority ends. -/
def endsAuthority (k : SchemeKind) (c : Char) : Bool :=
  c == '/' || c == '?' || c == '#' || (k.isSpecial && c == '\\')

/-! ## Hosts -/

private def percentDecoded : List UInt8 → List UInt8
  | [] => []
  | 0x25 :: a :: b :: rest =>
    match Value.hexValue? (Char.ofNat a.toNat), Value.hexValue? (Char.ofNat b.toNat) with
    | some x, some y => UInt8.ofNat (16 * x + y) :: percentDecoded rest
    | _, _ => 0x25 :: percentDecoded (a :: b :: rest)
  | byte :: rest => byte :: percentDecoded rest

/-- The text after percent decoding, if it is one. -/
def percentDecode? (cs : List Char) : Option String :=
  String.fromUTF8? (ByteArray.mk (percentDecoded (String.ofList cs).toUTF8.toList).toArray)

/-- A host in brackets is a version 6 address. -/
private def bracketed? : List Char → Option Bool
  | '[' :: rest => some (rest.getLast? == some ']' && isIpv6 rest.dropLast)
  | _ => none

private def isDomainHost (cs : List Char) : Bool :=
  match (percentDecode? cs).bind domain? with
  | none => false
  | some labels => labels != [[]] && (!endsInNumber labels || isIpv4 labels)

private def isOpaqueHost (cs : List Char) : Bool :=
  !cs.any (['\x00', '\t', '\n', '\r', ' ', '#', '/', ':', '<', '>', '?', '@', '[', '\\', ']', '^',
    '|'].contains ·)

/-- A host of the web is a domain or an address; any other host is a text without delimiters. -/
def isHost (k : SchemeKind) (cs : List Char) : Bool :=
  (bracketed? cs).getD (if k.isSpecial then isDomainHost cs else isOpaqueHost cs)

/-! ## Authorities -/

/-- The host of an authority, up to a colon outside brackets, and what follows. -/
private def splitHost (bracket : Bool) : List Char → List Char × List Char
  | [] => ([], [])
  | c :: cs =>
    if c == ':' && !bracket then ([], c :: cs)
    else
      let (host, rest) := splitHost (c == '[' || (bracket && c != ']')) cs
      (c :: host, rest)

/-- A port is absent or a number of sixteen bits. -/
private def isPort : List Char → Bool
  | [] => true
  | ':' :: digits =>
    let digits := digits.takeWhile (· != '\\')
    digits.all Char.isDigit && naturalOfDigits digits < 1 <<< 16
  | _ => false

/-- The userinfo is what stands before the last at sign. -/
private def splitUserinfo (cs : List Char) : Option (List Char) × List Char :=
  match cs.reverse.dropWhile (· != '@') with
  | [] => (none, cs)
  | _ :: before => (some before.reverse, (cs.reverse.takeWhile (· != '@')).reverse)

/-- A lone colon writes neither a name nor a password. -/
private def writesUserinfo (userinfo : List Char) : Bool := !userinfo.isEmpty && userinfo != [':']

/-- Is this an authority, with what follows it in the address? -/
def isAuthority (k : SchemeKind) (cs : List Char) : Bool :=
  let authority := cs.takeWhile fun c => !endsAuthority k c
  let after := cs.dropWhile fun c => !endsAuthority k c
  let (userinfo, hostport) := splitUserinfo authority
  let (host, port) := splitHost false hostport
  let deserted := userinfo == some [] && hostport.isEmpty && !after.isEmpty
  let missing := host.isEmpty && (k.isSpecial || !port.isEmpty || userinfo.any writesUserinfo)
  !deserted && !missing && isHost k host && isPort port

private def isSlash (c : Char) : Bool := c == '/' || c == '\\'

private def isDriveLetter : List Char → Bool
  | [c, mark] => c.isAlpha && (mark == ':' || mark == '|')
  | _ => false

private def isFileHost (cs : List Char) : Bool :=
  let host := cs.takeWhile fun c => !endsAuthority .file c
  host.isEmpty || isDriveLetter host || isHost .file host

/-- Is what follows the scheme right for it? -/
def isRest (k : SchemeKind) (cs : List Char) : Bool :=
  match k, cs with
  | .web, cs => isAuthority .web (cs.dropWhile isSlash)
  | .file, a :: b :: rest => if isSlash a && isSlash b then isFileHost rest else true
  | .file, _ => true
  | .other, '/' :: '/' :: rest => isAuthority .other rest
  | .other, _ => true

/-- Is the text an absolute address? -/
def isWebAddress (text : String) : Bool :=
  match scheme? ((trimmed text.toList).filter fun c => !isSkipped c) with
  | some (scheme, rest) => isRest (.of scheme) rest
  | none => false

end Schemata.WebAddress
