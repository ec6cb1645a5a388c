/-
What stays of a coded text when it is decoded. A character of ASCII that is neither a plus sign nor
a percent sign nor a hexadecimal digit stands for its own octet wherever it is, since no escape can
take it in; and an octet below 0x80 stands for its own character wherever it is, since no character
that is open can take it in. So such a character is found again in what is read.
-/

import CatalogReader.Url.Query

namespace CatalogReader.Text

/-! ### Octets of single characters -/

/-- An open character takes no octet below 0x80. -/
def OctetState.RefusesSingles : OctetState → Prop
  | ready => True
  | inside _ _ low _ => 0x80 ≤ low

theorem low_of_leadOctet {octet : UInt8} {bits following low high : Nat}
    (opened : leadOctet octet = .opening bits following low high) : 0x80 ≤ low := by
  unfold leadOctet at opened
  dsimp only at opened
  repeat' split at opened
  all_goals simp only [LeadOctet.opening.injEq, reduceCtorEq] at opened
  all_goals omega

theorem refusesSingles_start (octet : UInt8) : (OctetState.start octet).2.RefusesSingles := by
  unfold OctetState.start
  split
  · trivial
  case h_2 opened => exact low_of_leadOctet opened
  · trivial

theorem refusesSingles_step (octet : UInt8) {state : OctetState} (sound : state.RefusesSingles) :
    (state.step octet).2.RefusesSingles := by
  cases state with
  | ready => exact refusesSingles_start octet
  | inside bits following low high =>
    unfold OctetState.step
    dsimp only
    split
    · split
      · trivial
      · exact Nat.le_refl 0x80
    · exact refusesSingles_start octet

theorem start_of_single {octet : UInt8} (single : octet.toNat < 0x80) :
    OctetState.start octet = ([Char.ofNat octet.toNat], .ready) := by
  unfold OctetState.start leadOctet
  rw [if_pos single]

theorem mem_step_of_single {octet : UInt8} (single : octet.toNat < 0x80) {state : OctetState}
    (sound : state.RefusesSingles) : Char.ofNat octet.toNat ∈ (state.step octet).1 := by
  cases state with
  | ready =>
    show _ ∈ (OctetState.start octet).1
    rw [start_of_single single]
    exact List.mem_singleton_self _
  | inside bits following low high =>
    have refused : ¬(low ≤ octet.toNat ∧ octet.toNat ≤ high) :=
      fun taken => Nat.not_lt_of_le (Nat.le_trans sound taken.1) single
    unfold OctetState.step
    dsimp only
    rw [if_neg refused, start_of_single single]
    exact List.mem_cons_of_mem _ (List.mem_singleton_self _)

theorem mem_decodeFrom_of_single {octet : UInt8} (single : octet.toNat < 0x80)
    {octets : List UInt8} (member : octet ∈ octets) {state : OctetState}
    (sound : state.RefusesSingles) : Char.ofNat octet.toNat ∈ decodeFrom state octets := by
  induction octets generalizing state with
  | nil => cases member
  | cons first rest inductionHypothesis =>
    refine List.mem_append.mpr ?_
    rcases List.mem_cons.mp member with rfl | later
    · exact Or.inl (mem_step_of_single single sound)
    · exact Or.inr (inductionHypothesis later (refusesSingles_step first sound))

end CatalogReader.Text

namespace CatalogReader.Url

open CatalogReader.Text

/-! ### Coded texts -/

/-- A character of ASCII that is no part of an escape. -/
structure StandsForItself (c : Char) : Prop where
  single : c.toNat < 0x80
  plain : c ≠ '+' ∧ c ≠ '%'
  noDigit : hexValue? c = none

theorem utf8EncodeChar_of_single {c : Char} (single : c.toNat < 0x80) :
    String.utf8EncodeChar c = [UInt8.ofNat c.toNat] := by
  have short : c.val.toNat ≤ 0x7F := Nat.le_of_lt_succ single
  unfold String.utf8EncodeChar
  simp only [short, if_true]
  rfl

theorem mem_octetsOfCoded {c : Char} (itself : StandsForItself c) {coded : List Char}
    (member : c ∈ coded) : UInt8.ofNat c.toNat ∈ octetsOfCoded coded := by
  fun_induction octetsOfCoded coded with
  | case1 => cases member
  | case2 rest inductionHypothesis =>
    rcases List.mem_cons.mp member with plus | later
    · exact absurd plus itself.plain.1
    · exact List.mem_cons_of_mem _ (inductionHypothesis later)
  | case3 high low rest upper lower highDigit lowDigit inductionHypothesis =>
    have noDigit {digit : Char} {value : Nat} (found : hexValue? digit = some value) :
        c ≠ digit := by
      rintro rfl
      rw [itself.noDigit] at found
      cases found
    simp only [List.mem_cons, itself.plain.2, noDigit lowDigit, noDigit highDigit,
      false_or] at member
    exact List.mem_cons_of_mem _ (inductionHypothesis member)
  | case4 high low rest noDigits inductionHypothesis =>
    rcases List.mem_cons.mp member with percent | later
    · exact absurd percent itself.plain.2
    · exact List.mem_cons_of_mem _ (inductionHypothesis later)
  | case5 first rest _ _ inductionHypothesis =>
    refine List.mem_append.mpr ?_
    rcases List.mem_cons.mp member with rfl | later
    · refine Or.inl ?_
      rw [utf8EncodeChar_of_single itself.single]
      exact List.mem_singleton_self _
    · exact Or.inr (inductionHypothesis later)

/-- What stands for itself is found in the decoded text. -/
theorem mem_decodeText {c : Char} (itself : StandsForItself c) {coded : List Char}
    (member : c ∈ coded) : c ∈ decodeText coded := by
  have same : (UInt8.ofNat c.toNat).toNat = c.toNat :=
    UInt8.toNat_ofNat_of_lt' (Nat.lt_trans itself.single (by decide))
  have single : (UInt8.ofNat c.toNat).toNat < 0x80 := by
    rw [same]
    exact itself.single
  have found :=
    @mem_decodeFrom_of_single _ single _ (mem_octetsOfCoded itself member) .ready trivial
  rw [same, Char.ofNat_toNat] at found
  exact found

end CatalogReader.Url
