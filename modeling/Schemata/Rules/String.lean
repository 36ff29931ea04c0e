import Schemata.Pattern
import Schemata.Pattern.Formats
import Schemata.Rules
import Schemata.WebAddress

/-! # String rules

Lengths count characters. Formats and patterns only say whether a string has them.
-/
namespace Schemata

inductive StringConstraint
  | min (least : Nat)
  | max (most : Nat)
  | length (exact : Nat)
  | pattern (p : Pattern)
  | email
  | url
  | uuid
  | startsWith (text : String)
  | endsWith (text : String)

abbrev StringRules := Rules StringConstraint

namespace StringConstraint

private def counted (code : IssueCode) (relation : String) (n found : Nat) : Violation :=
  ⟨code, s!"String must contain {relation} {n} character(s)", some s!"{found} characters",
    some s!"{relation} {n} characters"⟩

private def malformed (message expected : String) : Violation :=
  ⟨.invalidString, message, none, some expected⟩

private def except (holds : Bool) (v : Violation) : Option Violation :=
  if holds then none else some v

def violation (s : String) : StringConstraint → Option Violation
  | .min n => if s.length < n then some (counted .tooSmall "at least" n s.length) else none
  | .max n => if n < s.length then some (counted .tooBig "at most" n s.length) else none
  | .length n =>
    if s.length < n then some (counted .tooSmall "exactly" n s.length)
    else if n < s.length then some (counted .tooBig "exactly" n s.length)
    else none
  | .pattern p =>
    except (p.isMatch s)
      { malformed "Invalid" ("string matching '" ++ p.source ++ "'") with received := some s }
  | .email => except (Pattern.mailAddress.isMatch s) (malformed "Invalid email" "email")
  | .url => except (WebAddress.isWebAddress s) (malformed "Invalid url" "url")
  | .uuid => except (Pattern.uniqueIdentifier.isMatch s) (malformed "Invalid uuid" "uuid")
  | .startsWith text =>
    except (text.toList.isPrefixOf s.toList)
      (malformed ("Invalid input: must start with \"" ++ text ++ "\"") ("prefix '" ++ text ++ "'"))
  | .endsWith text =>
    except (text.toList.isSuffixOf s.toList)
      (malformed ("Invalid input: must end with \"" ++ text ++ "\"") ("suffix '" ++ text ++ "'"))

/-- Whether a string meets a constraint. -/
def holds (s : String) : StringConstraint → Bool
  | .min n => n ≤ s.length
  | .max n => s.length ≤ n
  | .length n => s.length == n
  | .pattern p => p.isMatch s
  | .email => Pattern.mailAddress.isMatch s
  | .url => WebAddress.isWebAddress s
  | .uuid => Pattern.uniqueIdentifier.isMatch s
  | .startsWith text => text.toList.isPrefixOf s.toList
  | .endsWith text => text.toList.isSuffixOf s.toList

theorem violation_eq_none_iff (s : String) (c : StringConstraint) :
    c.violation s = none ↔ c.holds s = true := by
  cases c with
  | min n | max n => simp [violation, holds]
  | length n =>
    simp only [violation, holds, beq_iff_eq]
    split
    · simp; omega
    · split
      · simp; omega
      · simp; omega
  | pattern p | email | url | uuid | startsWith text | endsWith text =>
    simp [violation, holds, except]

private theorem eq_of_except {holds : Bool} {v w : Violation} (h : except holds v = some w) :
    w = v := by
  cases holds with
  | true => cases h
  | false => cases h; rfl

theorem code_of_violation {s : String} {c : StringConstraint} {v : Violation}
    (h : c.violation s = some v) :
    v.code = .tooSmall ∨ v.code = .tooBig ∨ v.code = .invalidString := by
  cases c with
  | min n | max n =>
    simp only [violation] at h
    split at h
    · cases h; simp [counted]
    · cases h
  | length n =>
    simp only [violation] at h
    split at h
    · cases h; simp [counted]
    · split at h
      · cases h; simp [counted]
      · cases h
  | pattern p | email | url | uuid | startsWith text | endsWith text =>
    rw [eq_of_except h]
    simp [malformed]

end StringConstraint

namespace StringRules

def min (rs : StringRules) (n : Nat) : StringRules := rs.add (.min n)
def max (rs : StringRules) (n : Nat) : StringRules := rs.add (.max n)
def length (rs : StringRules) (n : Nat) : StringRules := rs.add (.length n)
def nonempty (rs : StringRules) : StringRules := rs.min 1
def email (rs : StringRules) : StringRules := rs.add .email
def url (rs : StringRules) : StringRules := rs.add .url
def uuid (rs : StringRules) : StringRules := rs.add .uuid
def startsWith (rs : StringRules) (text : String) : StringRules := rs.add (.startsWith text)
def endsWith (rs : StringRules) (text : String) : StringRules := rs.add (.endsWith text)

/-- A malformed pattern makes no rule. -/
def pattern? (rs : StringRules) (source : String) : Option StringRules :=
  (Pattern.ofText? source).map fun p => rs.add (.pattern p)

def verdict (rs : StringRules) (input : Option Value) (path : Path) : Verdict :=
  match input with
  | some (.string s) => .conclude (.string s) (rs.issues (·.violation s) path)
  | _ => .error (.single (invalidType "string" rs.typeMessage input path))

end StringRules
end Schemata
