/-
What is written in coded form is read back. The octets of a character are read as that character
whatever follows them, since the first of them says how many there are and within which bounds the
second one lies; so a text is read back from its octets. An escape is read as its octet, and every
character that is written as it is stands for itself; so a text is read back from its coded form.
No mark is left in a coded text, so the fields of a query are found again between the marks that are
written around them.
-/

import CatalogReader.Proofs.Url.Decoding

namespace CatalogReader.Text

/-! ### Steps of the reader -/

theorem decodeFrom_of_opening {octet : UInt8} {bits following low high : Nat}
    (opens : leadOctet octet = .opening bits following low high) (rest : List UInt8) :
    decodeFrom .ready (octet :: rest) = decodeFrom (.inside bits following low high) rest := by
  show (OctetState.start octet).1 ++ decodeFrom (OctetState.start octet).2 rest = _
  unfold OctetState.start
  rw [opens]
  rfl

/-- An open character takes an octet within its bounds. -/
theorem decodeFrom_of_fitting {octet : UInt8} {bits following low high : Nat}
    (fits : low ≤ octet.toNat ∧ octet.toNat ≤ high) (rest : List UInt8) :
    decodeFrom (.inside bits (following + 2) low high) (octet :: rest) =
      decodeFrom (.inside (bits * 64 + (octet.toNat - 0x80)) (following + 1) 0x80 0xBF) rest := by
  rw [decodeFrom, OctetState.step, if_pos fits, if_neg (by omega)]
  rfl

/-- The last octet of an open character finishes it. -/
theorem decodeFrom_of_last {octet : UInt8} {bits low high : Nat}
    (fits : low ≤ octet.toNat ∧ octet.toNat ≤ high) (rest : List UInt8) :
    decodeFrom (.inside bits 1 low high) (octet :: rest) =
      Char.ofNat (bits * 64 + (octet.toNat - 0x80)) :: decodeFrom .ready rest := by
  rw [decodeFrom, OctetState.step, if_pos fits, if_pos (Nat.le_refl 1)]
  rfl

/-! ### First octets -/

theorem leadOctet_of_two {octet : UInt8} (bounds : 0xC2 ≤ octet.toNat ∧ octet.toNat < 0xE0) :
    leadOctet octet = .opening (octet.toNat - 0xC0) 1 0x80 0xBF := by
  unfold leadOctet
  dsimp only
  rw [if_neg (by omega), if_neg (by omega), if_pos bounds.2]

/-- The second of three octets is bounded where the form would be overlong or a surrogate. -/
theorem leadOctet_of_three {octet : UInt8} (bounds : 0xE0 ≤ octet.toNat ∧ octet.toNat < 0xF0) :
    leadOctet octet = .opening (octet.toNat - 0xE0) 2 (if octet.toNat = 0xE0 then 0xA0 else 0x80)
      (if octet.toNat = 0xED then 0x9F else 0xBF) := by
  unfold leadOctet
  dsimp only
  rw [if_neg (by omega), if_neg (by omega), if_neg (by omega)]
  by_cases first : octet.toNat = 0xE0
  · rw [if_pos first, if_pos first, if_neg (by omega), first]
  · rw [if_neg first, if_neg first]
    by_cases surrogates : octet.toNat = 0xED
    · rw [if_pos surrogates, if_pos surrogates, surrogates]
    · rw [if_neg surrogates, if_neg surrogates, if_pos bounds.2]

/-- The second of four octets is bounded where the form would be overlong or above U+10FFFF. -/
theorem leadOctet_of_four {octet : UInt8} (bounds : 0xF0 ≤ octet.toNat ∧ octet.toNat ≤ 0xF4) :
    leadOctet octet = .opening (octet.toNat - 0xF0) 3 (if octet.toNat = 0xF0 then 0x90 else 0x80)
      (if octet.toNat = 0xF4 then 0x8F else 0xBF) := by
  unfold leadOctet
  dsimp only
  rw [if_neg (by omega), if_neg (by omega), if_neg (by omega), if_neg (by omega),
    if_neg (by omega), if_neg (by omega)]
  by_cases first : octet.toNat = 0xF0
  · rw [if_pos first, if_pos first, if_neg (by omega), first]
  · rw [if_neg first, if_neg first]
    by_cases last : octet.toNat = 0xF4
    · rw [if_neg (by omega), if_pos last, if_pos last, last]
    · rw [if_pos (by omega), if_neg last]

/-! ### Octets of a character -/

theorem toNat_octet {n : Nat} (small : n < 0x100) : (UInt8.ofNat n).toNat = n :=
  UInt8.toNat_ofNat_of_lt' small

/-- What each octet but the first one holds of a character. -/
theorem toNat_laterOctet (n : Nat) : (UInt8.ofNat (n % 64 + 128)).toNat = n % 64 + 128 :=
  toNat_octet (by omega)

theorem laterOctet_fits (n : Nat) :
    0x80 ≤ (UInt8.ofNat (n % 64 + 128)).toNat ∧ (UInt8.ofNat (n % 64 + 128)).toNat ≤ 0xBF := by
  rw [toNat_laterOctet]
  omega

theorem decodeFrom_twoOctets {code : Nat} (bounds : 0x80 ≤ code ∧ code ≤ 0x7FF)
    (rest : List UInt8) :
    decodeFrom .ready
        (UInt8.ofNat (code / 64 % 32 + 192) :: UInt8.ofNat (code % 64 + 128) :: rest) =
      Char.ofNat code :: decodeFrom .ready rest := by
  have lead : (UInt8.ofNat (code / 64 % 32 + 192)).toNat = code / 64 + 192 := by
    rw [toNat_octet (by omega)]
    omega
  have whole : (code / 64 + 192 - 192) * 64 + (code % 64 + 128 - 128) = code := by omega
  rw [decodeFrom_of_opening (leadOctet_of_two (by omega)), decodeFrom_of_last (laterOctet_fits _),
    lead, toNat_laterOctet, whole]

theorem decodeFrom_threeOctets {code : Nat} (bounds : 0x800 ≤ code ∧ code ≤ 0xFFFF)
    (noSurrogate : code < 0xD800 ∨ 0xDFFF < code) (rest : List UInt8) :
    decodeFrom .ready
        (UInt8.ofNat (code / 4096 % 16 + 224) :: UInt8.ofNat (code / 64 % 64 + 128) ::
          UInt8.ofNat (code % 64 + 128) :: rest) =
      Char.ofNat code :: decodeFrom .ready rest := by
  have lead : (UInt8.ofNat (code / 4096 % 16 + 224)).toNat = code / 4096 + 224 := by
    rw [toNat_octet (by omega)]
    omega
  have second : (if code / 4096 + 224 = 0xE0 then 0xA0 else 0x80) ≤ code / 64 % 64 + 128 ∧
      code / 64 % 64 + 128 ≤ (if code / 4096 + 224 = 0xED then 0x9F else 0xBF) := by
    constructor <;> split <;> omega
  have whole : ((code / 4096 + 224 - 224) * 64 + (code / 64 % 64 + 128 - 128)) * 64 +
      (code % 64 + 128 - 128) = code := by omega
  rw [decodeFrom_of_opening (leadOctet_of_three (by omega)), lead,
    decodeFrom_of_fitting (by rw [toNat_laterOctet]; exact second),
    decodeFrom_of_last (laterOctet_fits _), toNat_laterOctet, toNat_laterOctet, whole]

theorem decodeFrom_fourOctets {code : Nat} (bounds : 0x10000 ≤ code ∧ code < 0x110000)
    (rest : List UInt8) :
    decodeFrom .ready
        (UInt8.ofNat (code / 262144 % 8 + 240) :: UInt8.ofNat (code / 4096 % 64 + 128) ::
          UInt8.ofNat (code / 64 % 64 + 128) :: UInt8.ofNat (code % 64 + 128) :: rest) =
      Char.ofNat code :: decodeFrom .ready rest := by
  have lead : (UInt8.ofNat (code / 262144 % 8 + 240)).toNat = code / 262144 + 240 := by
    rw [toNat_octet (by omega)]
    omega
  have second : (if code / 262144 + 240 = 0xF0 then 0x90 else 0x80) ≤ code / 4096 % 64 + 128 ∧
      code / 4096 % 64 + 128 ≤ (if code / 262144 + 240 = 0xF4 then 0x8F else 0xBF) := by
    constructor <;> split <;> omega
  have whole : (((code / 262144 + 240 - 240) * 64 + (code / 4096 % 64 + 128 - 128)) * 64 +
      (code / 64 % 64 + 128 - 128)) * 64 + (code % 64 + 128 - 128) = code := by omega
  rw [decodeFrom_of_opening (leadOctet_of_four (by omega)), lead,
    decodeFrom_of_fitting (by rw [toNat_laterOctet]; exact second),
    decodeFrom_of_fitting (laterOctet_fits _), decodeFrom_of_last (laterOctet_fits _),
    toNat_laterOctet, toNat_laterOctet, toNat_laterOctet, whole]

/-- The octets of a character are read as the character, whatever follows them. -/
theorem decodeFrom_utf8EncodeChar (c : Char) (rest : List UInt8) :
    decodeFrom .ready (String.utf8EncodeChar c ++ rest) = c :: decodeFrom .ready rest := by
  have valid : c.val.toNat < 0xD800 ∨ 0xDFFF < c.val.toNat ∧ c.val.toNat < 0x110000 := c.valid
  have back : Char.ofNat c.val.toNat = c := Char.ofNat_toNat c
  unfold String.utf8EncodeChar
  dsimp only
  generalize c.val.toNat = code at valid back
  subst back
  by_cases one : code ≤ 0x7F
  · have same : (UInt8.ofNat code).toNat = code := toNat_octet (by omega)
    rw [if_pos one]
    show (OctetState.start _).1 ++ decodeFrom (OctetState.start _).2 rest = _
    rw [start_of_single (by omega), same]
    rfl
  rw [if_neg one]
  by_cases two : code ≤ 0x7FF
  · rw [if_pos two]
    exact decodeFrom_twoOctets (by omega) rest
  rw [if_neg two]
  by_cases three : code ≤ 0xFFFF
  · rw [if_pos three]
    exact decodeFrom_threeOctets (by omega) (by omega) rest
  · rw [if_neg three]
    exact decodeFrom_fourOctets (by omega) rest

/-- Every text is read back from its octets. -/
theorem decodeUtf8_flatMap (text : List Char) :
    decodeUtf8 (text.flatMap String.utf8EncodeChar) = text := by
  unfold decodeUtf8
  induction text with
  | nil => rfl
  | cons c rest inductionHypothesis =>
    rw [List.flatMap_cons, decodeFrom_utf8EncodeChar, inductionHypothesis]

end CatalogReader.Text

namespace CatalogReader.Url

open CatalogReader.Text

/-! ### Coded texts -/

theorem octetsOfCoded_of_plain {c : Char} (plain : c ≠ '+' ∧ c ≠ '%') (rest : List Char) :
    octetsOfCoded (c :: rest) = String.utf8EncodeChar c ++ octetsOfCoded rest := by
  rw [octetsOfCoded]
  · exact plain.1
  · rintro _ _ _ rfl
    exact absurd rfl plain.2

theorem octetsOfCoded_percentCoded (octet : UInt8) (rest : List Char) :
    octetsOfCoded (percentCoded octet ++ rest) = octet :: octetsOfCoded rest := by
  have small : octet.toNat / 16 % 16 < 16 ∧ octet.toNat % 16 < 16 := by omega
  have whole : octet.toNat / 16 % 16 * 16 + octet.toNat % 16 = octet.toNat := by
    have := octet.toNat_lt
    omega
  show octetsOfCoded ('%' :: hexDigit .capital (octet.toNat / 16 % 16) ::
    hexDigit .capital (octet.toNat % 16) :: rest) = _
  rw [octetsOfCoded, hexValue?_hexDigit _ _ small.1, hexValue?_hexDigit _ _ small.2]
  dsimp only
  rw [whole, UInt8.ofNat_toNat]

theorem octetsOfCoded_flatMap (octets : List UInt8) (rest : List Char) :
    octetsOfCoded (octets.flatMap percentCoded ++ rest) = octets ++ octetsOfCoded rest := by
  induction octets with
  | nil => rfl
  | cons octet others inductionHypothesis =>
    rw [List.flatMap_cons, List.append_assoc, octetsOfCoded_percentCoded, inductionHypothesis,
      List.cons_append]

theorem plain_of_isUnreserved {c : Char} (unreserved : isUnreserved c = true) :
    c ≠ '+' ∧ c ≠ '%' ∧ c ≠ '&' ∧ c ≠ '=' ∧ c ≠ '#' ∧ c ≠ '\t' ∧ c ≠ '\r' ∧ c ≠ '\n' := by
  refine ⟨?_, ?_, ?_, ?_, ?_, ?_, ?_, ?_⟩ <;> rintro rfl <;> cases unreserved

theorem octetsOfCoded_encodeChar (c : Char) (rest : List Char) :
    octetsOfCoded (encodeChar c ++ rest) = String.utf8EncodeChar c ++ octetsOfCoded rest := by
  unfold encodeChar
  by_cases space : c = ' '
  · subst space
    rfl
  rw [if_neg space]
  by_cases unreserved : isUnreserved c = true
  · obtain ⟨plus, percent, _⟩ := plain_of_isUnreserved unreserved
    rw [if_pos unreserved]
    exact octetsOfCoded_of_plain ⟨plus, percent⟩ rest
  · rw [if_neg unreserved]
    exact octetsOfCoded_flatMap _ rest

/-- Every text is read back from its coded form. -/
theorem decodeText_encodeText (text : List Char) : decodeText (encodeText text) = text := by
  have octets : octetsOfCoded (encodeText text) = text.flatMap String.utf8EncodeChar := by
    unfold encodeText
    induction text with
    | nil => rfl
    | cons c rest inductionHypothesis =>
      rw [List.flatMap_cons, octetsOfCoded_encodeChar, inductionHypothesis, List.flatMap_cons]
  unfold decodeText
  rw [octets]
  exact decodeUtf8_flatMap text

/-- What is written in coded form. -/
theorem cases_of_mem_encodeText {text : List Char} {c : Char} (member : c ∈ encodeText text) :
    c = '+' ∨ c = '%' ∨ isUnreserved c = true := by
  have digits : ∀ value : Fin 16, isUnreserved (hexDigit .capital value) = true := by decide
  obtain ⟨written, _, inside⟩ := List.mem_flatMap.mp member
  unfold encodeChar at inside
  split at inside
  · exact Or.inl (List.mem_singleton.mp inside)
  split at inside
  case isTrue unreserved =>
    obtain rfl := List.mem_singleton.mp inside
    exact Or.inr (Or.inr unreserved)
  case isFalse =>
    obtain ⟨octet, _, coded⟩ := List.mem_flatMap.mp inside
    have cases : c = '%' ∨ c = hexDigit .capital (octet.toNat / 16 % 16) ∨
        c = hexDigit .capital (octet.toNat % 16) := by
      simpa [percentCoded, hexNumber] using coded
    rcases cases with rfl | rfl | rfl
    · exact Or.inr (Or.inl rfl)
    · exact Or.inr (Or.inr (digits ⟨octet.toNat / 16 % 16, by omega⟩))
    · exact Or.inr (Or.inr (digits ⟨octet.toNat % 16, by omega⟩))

/-- No mark of a URL or of its query is written in coded form, nor is anything that is not read. -/
theorem plain_of_mem_encodeText {text : List Char} {c : Char} (member : c ∈ encodeText text) :
    c ≠ '&' ∧ c ≠ '=' ∧ c ≠ '#' ∧ c ≠ '\t' ∧ c ≠ '\r' ∧ c ≠ '\n' := by
  rcases cases_of_mem_encodeText member with rfl | rfl | unreserved
  · decide
  · decide
  · exact (plain_of_isUnreserved unreserved).2.2

/-! ### Queries -/

theorem fieldOfPiece_pieceOfField (field : Field) : fieldOfPiece (pieceOfField field) = field := by
  have cut : cutFirst? '=' (pieceOfField field) =
      some (encodeText field.name, encodeText field.value) :=
    (cutFirst?_eq_some_iff '=' _ _ _).mpr
      ⟨rfl, fun member => (plain_of_mem_encodeText member).2.1 rfl⟩
  unfold fieldOfPiece
  rw [cut]
  simp only [decodeText_encodeText]

theorem plain_of_mem_pieceOfField {field : Field} {c : Char} (member : c ∈ pieceOfField field) :
    c ≠ '&' ∧ c ≠ '#' ∧ c ≠ '\t' ∧ c ≠ '\r' ∧ c ≠ '\n' := by
  rcases List.mem_append.mp member with name | later
  · obtain ⟨mark, _, others⟩ := plain_of_mem_encodeText name
    exact ⟨mark, others⟩
  · rcases List.mem_cons.mp later with rfl | value
    · decide
    · obtain ⟨mark, _, others⟩ := plain_of_mem_encodeText value
      exact ⟨mark, others⟩

theorem plain_of_mem_queryOfFields {fields : List Field} {c : Char}
    (member : c ∈ queryOfFields fields) : c ≠ '#' ∧ c ≠ '\t' ∧ c ≠ '\r' ∧ c ≠ '\n' := by
  rcases mem_of_mem_join member with rfl | ⟨piece, among, inside⟩
  · decide
  · obtain ⟨field, _, rfl⟩ := List.mem_map.mp among
    exact (plain_of_mem_pieceOfField inside).2

/-- All fields are read back from the query that is written for them, the empty ones too: a field
that is written has an equals sign, so that no piece is empty. -/
theorem fieldsOfQuery_queryOfFields (fields : List Field) :
    fieldsOfQuery (queryOfFields fields) = fields := by
  cases fields with
  | nil => rfl
  | cons first others =>
    have absent : ∀ piece ∈ (first :: others).map pieceOfField, '&' ∉ piece := by
      intro piece among member
      obtain ⟨field, _, rfl⟩ := List.mem_map.mp among
      exact (plain_of_mem_pieceOfField member).1 rfl
    have filled : ∀ piece ∈ (first :: others).map pieceOfField, (!piece.isEmpty) = true := by
      intro piece among
      obtain ⟨field, _, rfl⟩ := List.mem_map.mp among
      unfold pieceOfField
      cases encodeText field.name <;> rfl
    have split : pieces '&' (queryOfFields (first :: others)) =
        (first :: others).map pieceOfField := pieces_join (List.cons_ne_nil _ _) absent
    unfold fieldsOfQuery
    rw [split, List.filter_eq_self.mpr filled, List.map_map]
    exact (List.map_congr_left fun field _ => fieldOfPiece_pieceOfField field).trans
      (List.map_id _)

end CatalogReader.Url
