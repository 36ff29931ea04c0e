import Schemata.Pattern
import Schemata.Pattern.Formats
import Schemata.Proofs.Acceptance
import Schemata.Proofs.Reading

/-! # The grammar of e-mail addresses

The expression of addresses has three unbounded runs, and a host with several points can be split
between the last two in several ways. Some way exists just when the text is free of white space, has
one at sign that is not the first character, and has a point inside the host after it.
-/
namespace Schemata

/-- The grammar of e-mail addresses. -/
structure MailAddress (text : List Char) : Prop where
  noSpace : ∀ c ∈ text, Unicode.isWhiteSpace c = false
  oneSign : text.count '@' = 1
  parts : ∃ mailbox host, text = mailbox ++ '@' :: host ∧ mailbox ≠ [] ∧
    ∃ label rest, host = label ++ '.' :: rest ∧ label ≠ [] ∧ rest ≠ []

namespace Pattern
open Regex

theorem mailChar_iff {c : Char} : mailChar c = true ↔ c ≠ '@' ∧ Unicode.isWhiteSpace c = false := by
  simp [mailChar, CharSet.compl, CharSet.union, CharSet.single]

def MailPart (part : List Char) : Prop := part ≠ [] ∧ ∀ c ∈ part, mailChar c = true

theorem reads_mailAddress {before word after : List Char} : mailAddress.Reads before word after ↔
    before = [] ∧ after = [] ∧ ∃ mailbox label rest,
      word = mailbox ++ '@' :: (label ++ '.' :: rest) ∧
        MailPart mailbox ∧ MailPart label ∧ MailPart rest := by
  simp only [mailAddress, Regex.concat, only, reads_seq, reads_textStart, reads_textEnd,
    reads_plus_letter, reads_single]
  constructor
  · rintro ⟨_, _, rfl, ⟨rfl, rfl⟩, mailbox, _, rfl, hmailbox, _, _, rfl, rfl, label, _, rfl, hlabel,
      _, _, rfl, rfl, rest, _, rfl, hrest, rfl, rfl⟩
    exact ⟨rfl, rfl, mailbox, label, rest, by simp, hmailbox, hlabel, hrest⟩
  · rintro ⟨rfl, rfl, mailbox, label, rest, rfl, hmailbox, hlabel, hrest⟩
    exact ⟨[], _, rfl, ⟨rfl, rfl⟩, mailbox, _, rfl, hmailbox, ['@'], _, rfl, rfl, label, _, rfl,
      hlabel, ['.'], _, rfl, rfl, rest, [], by simp, hrest, rfl, rfl⟩

theorem MailPart.not_mem {part : List Char} (h : MailPart part) : '@' ∉ part :=
  fun hc => (mailChar_iff.mp (h.2 '@' hc)).1 rfl

theorem mailAddress_iff {text : List Char} : MailAddress text ↔ ∃ mailbox label rest,
    text = mailbox ++ '@' :: (label ++ '.' :: rest) ∧
      MailPart mailbox ∧ MailPart label ∧ MailPart rest := by
  constructor
  · rintro ⟨hspace, hsign, mailbox, host, rfl, hmailbox, label, rest, rfl, hlabel, hrest⟩
    have hcount : mailbox.count '@' = 0 ∧ label.count '@' = 0 ∧ rest.count '@' = 0 := by
      simp [List.count_append] at hsign
      omega
    have hpart {part : List Char} (hne : part ≠ []) (hnone : part.count '@' = 0)
        (hsub : ∀ c ∈ part, Unicode.isWhiteSpace c = false) : MailPart part := by
      refine ⟨hne, fun c hc => mailChar_iff.mpr ⟨?_, hsub c hc⟩⟩
      rintro rfl
      exact List.count_eq_zero.mp hnone hc
    simp only [List.forall_mem_append, List.forall_mem_cons] at hspace
    obtain ⟨hs₁, -, hs₂, -, hs₃⟩ := hspace
    exact ⟨mailbox, label, rest, rfl, hpart hmailbox hcount.1 hs₁, hpart hlabel hcount.2.1 hs₂,
      hpart hrest hcount.2.2 hs₃⟩
  · rintro ⟨mailbox, label, rest, rfl, hmailbox, hlabel, hrest⟩
    have hspace {part : List Char} (h : MailPart part) :
        ∀ c ∈ part, Unicode.isWhiteSpace c = false := fun c hc => (mailChar_iff.mp (h.2 c hc)).2
    refine ⟨?_, ?_, mailbox, _, rfl, hmailbox.1, label, rest, rfl, hlabel.1, hrest.1⟩
    · simp only [List.forall_mem_append, List.forall_mem_cons]
      exact ⟨hspace hmailbox, by decide, hspace hlabel, by decide, hspace hrest⟩
    · simp [List.count_eq_zero.mpr hmailbox.not_mem, List.count_eq_zero.mpr hlabel.not_mem,
        List.count_eq_zero.mpr hrest.not_mem]

theorem isMatch_mailAddress_iff (s : String) :
    mailAddress.isMatch s = true ↔ MailAddress s.toList := by
  simp only [Regex.isMatch_iff, reads_mailAddress, mailAddress_iff]
  constructor
  · rintro ⟨_, word, _, ht, rfl, rfl, hword⟩
    rw [List.nil_append, List.append_nil] at ht
    rw [ht]
    exact hword
  · exact fun h => ⟨[], s.toList, [], by simp, rfl, rfl, h⟩

def mailText : String := "^[^\\s@]+@[^\\s@]+\\.[^\\s@]+$"

theorem ofText?_mailText : ofText? mailText = some ⟨mailText, mailAddress⟩ := by
  have hset : (itemSet [Unicode.isWhiteSpace, CharSet.single '@']).compl = mailChar := by
    rw [itemSet_pair, mailChar]
    funext c
    simp only [CharSet.union, CharSet.compl, Bool.or_comm]
  have hread : ofText? mailText = some ⟨mailText, .concat [.edge Flags.standard.lineStart,
      .plus (.letter (itemSet [Unicode.isWhiteSpace, CharSet.single '@']).compl), only '@',
      .plus (.letter (itemSet [Unicode.isWhiteSpace, CharSet.single '@']).compl), only '.',
      .plus (.letter (itemSet [Unicode.isWhiteSpace, CharSet.single '@']).compl),
      .edge Flags.standard.lineEnd]⟩ := by cbv
  rw [hread, hset, lineStart_standard, lineEnd_standard, mailAddress]

end Pattern

/-- A string passes as an e-mail address just when it is one by the grammar, and it meets the
pattern that is written for addresses just then. -/
theorem email_selects (s : String) :
    (Schema.string (.email .none)).PassesIff (.string s) (MailAddress s.toList) ∧
      ∃ rs, StringRules.pattern? .none Pattern.mailText = some rs ∧
        (Schema.string rs).PassesIff (.string s) (MailAddress s.toList) := by
  have hmatch := Pattern.isMatch_mailAddress_iff s
  refine ⟨(Schema.passesIff_string_add .email s).congr hmatch, ?_⟩
  rw [StringRules.pattern?, Pattern.ofText?_mailText]
  exact ⟨_, rfl, (Schema.passesIff_string_add (.pattern _) s).congr hmatch⟩

end Schemata
