/-
The characters of a redacted URL. They are those of the URL, marks of its own parts, letters of its
scheme in small form, the asterisks of a mask, and, where the query is written again, characters of
coded forms. All but the first are printable ones of ASCII, so the redaction of a legible URL is
legible.
-/

import CatalogReader.Proofs.Text.Legible
import CatalogReader.Proofs.Url.Masking

namespace CatalogReader.Url

open CatalogReader.Text

theorem legible_of_isAlphanum {c : Char} (sound : c.isAlphanum = true) :
    0x20 ≤ c.toNat ∧ c.toNat ≤ 0x7E := by
  have capital (upper : c.isUpper = true) : 65 ≤ c.toNat ∧ c.toNat ≤ 90 :=
    of_decide_eq_true upper
  have small (lower : c.isLower = true) : 97 ≤ c.toNat ∧ c.toNat ≤ 122 :=
    (Bool.and_eq_true_iff.mp lower).imp of_decide_eq_true of_decide_eq_true
  have inside : ((65 ≤ c.toNat ∧ c.toNat ≤ 90) ∨ (97 ≤ c.toNat ∧ c.toNat ≤ 122)) ∨
      48 ≤ c.toNat ∧ c.toNat ≤ 57 :=
    (Bool.or_eq_true_iff.mp sound).imp
      (fun letter => (Bool.or_eq_true_iff.mp letter).imp capital small) toNat_of_isDigit
  omega

theorem legible_of_isSchemeChar {c : Char} (sound : isSchemeChar c = true) :
    0x20 ≤ c.toNat ∧ c.toNat ≤ 0x7E := by
  simp only [isSchemeChar, Bool.or_eq_true, beq_iff_eq] at sound
  rcases sound with ((letter | rfl) | rfl) | rfl
  · exact legible_of_isAlphanum letter
  all_goals decide

theorem legible_of_isUnreserved {c : Char} (sound : isUnreserved c = true) :
    0x20 ≤ c.toNat ∧ c.toNat ≤ 0x7E := by
  simp only [isUnreserved, Bool.or_eq_true, beq_iff_eq] at sound
  rcases sound with ((((letter | rfl) | rfl) | rfl) | rfl) | rfl
  · exact legible_of_isAlphanum letter
  all_goals decide

theorem isLegible_encodeText (text : List Char) : IsLegible (encodeText text) := by
  intro c member
  rcases cases_of_mem_encodeText member with rfl | rfl | unreserved
  · decide
  · decide
  · exact legible_of_isUnreserved unreserved

theorem isLegible_queryOfFields (fields : List Field) : IsLegible (queryOfFields fields) := by
  intro c member
  rcases mem_of_mem_join member with rfl | ⟨piece, among, inside⟩
  · decide
  · obtain ⟨field, -, rfl⟩ := List.mem_map.mp among
    have mark : IsLegible ['='] := by decide
    exact ((isLegible_encodeText field.name).append
      (mark.append (isLegible_encodeText field.value))) c inside

theorem isLegible_maskQuery {query : List Char} (legible : IsLegible query) :
    IsLegible (maskQuery query) := by
  unfold maskQuery
  dsimp only
  split
  · exact isLegible_queryOfFields _
  · exact legible

theorem isLegible_maskAuthority {authority : List Char} (legible : IsLegible authority) :
    IsLegible (maskAuthority authority) := by
  intro c member
  rcases mem_of_mem_maskAuthority member with inside | rfl | rfl
  · exact legible c inside
  · decide
  · decide

/-- All parts of a URL are legible. -/
structure LegibleParts (url : Url) : Prop where
  scheme : IsLegible url.scheme
  authority : IsLegible url.authority
  path : IsLegible url.path
  query : IsLegible url.query
  fragment : IsLegible url.fragment

theorem LegibleParts.masked {url : Url} (parts : url.LegibleParts) : url.masked.LegibleParts where
  scheme := parts.scheme
  authority := isLegible_maskAuthority parts.authority
  path := parts.path
  query := isLegible_maskQuery parts.query
  fragment := parts.fragment

theorem LegibleParts.toText {url : Url} (parts : url.LegibleParts) : IsLegible url.toText := by
  have behind {mark : Char} (legible : IsLegible [mark]) {part : List Char}
      (inside : IsLegible part) : IsLegible (marked mark part) := fun c member =>
    (mem_of_mem_marked member).elim (fun same => legible c (List.mem_singleton.mpr same)) (inside c)
  have front : IsLegible (if url.scheme.isEmpty then [] else url.scheme ++ [':']) := by
    split
    · exact nofun
    · exact parts.scheme.append (by decide)
  have location : IsLegible url.location := fun c member => by
    rcases mem_of_mem_location member with rfl | inAuthority | inPath
    · decide
    · exact parts.authority c inAuthority
    · exact parts.path c inPath
  exact ((front.append location).append (behind (by decide) parts.query)).append
    (behind (by decide) parts.fragment)

/-- What is read of a legible text is legible. -/
theorem legibleParts_of_ofText {text : List Char} {url : Url} (read : ofText text = .ok url)
    (legible : IsLegible text) : url.LegibleParts := by
  obtain rfl := eq_of_ofText read
  have afterScheme : IsLegible (cutScheme (cleaned text)).2 := fun c member =>
    legible c (mem_of_mem_cleaned (mem_of_mem_afterScheme member))
  have cut : IsLegible ((cutAuthority (cutScheme (cleaned text)).2).1 ++
      (cutAuthority (cutScheme (cleaned text)).2).2) := fun c member =>
    afterScheme c (mem_of_cutAuthority rfl member)
  obtain ⟨path, query, fragment, after, parts, whole, -, -, -, behind⟩ :=
    exists_partsOfRest (cutAuthority (cutScheme (cleaned text)).2).2
  have rest : IsLegible (path ++ after) := whole ▸ cut.of_sublist (List.sublist_append_right _ _)
  have marks : IsLegible (query ++ fragment) := fun c member =>
    rest c (List.mem_append_right path (behind c member))
  rw [parts]
  refine ⟨?_, cut.of_sublist (List.sublist_append_left _ _),
    rest.of_sublist (List.sublist_append_left _ _),
    marks.of_sublist (List.sublist_append_left _ _),
    marks.of_sublist (List.sublist_append_right _ _)⟩
  rcases cutScheme_cases (cleaned text) with none | scheme
  · rw [none]
    exact nofun
  · exact fun c member => legible_of_isSchemeChar (scheme.sound c member)

/-- The redaction of a legible URL is legible. -/
theorem isLegible_redact {text shown : String} (legible : IsLegible text.toList)
    (redacted : redact text = .ok shown) : IsLegible shown.toList := by
  obtain ⟨url, read⟩ := exists_of_redact redacted
  have same := (redact_of_read read).symm.trans redacted
  rw [← Except.ok.inj same, String.toList_ofList]
  exact (legibleParts_of_ofText read legible).masked.toText

end CatalogReader.Url
