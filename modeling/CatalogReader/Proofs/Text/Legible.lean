/-
Legible texts: those of printable characters of ASCII. Each character covers one cell, and none of
them breaks a line, moves to a tab stop or is an edge of a grid. The texts that numbers are written
with are legible.
-/

import CatalogReader.Text.Cells

namespace CatalogReader.Text

/-! ### Printable characters -/

/-- All characters of a text are printable ones of ASCII; the space is one of these. -/
def IsLegible (text : List Char) : Prop := ∀ c ∈ text, 0x20 ≤ c.toNat ∧ c.toNat ≤ 0x7E

instance (text : List Char) : Decidable (IsLegible text) :=
  List.decidableBAll (fun c : Char => 0x20 ≤ c.toNat ∧ c.toNat ≤ 0x7E) text

namespace IsLegible

variable {text : List Char}

theorem append (legible : IsLegible text) {more : List Char} (rest : IsLegible more) :
    IsLegible (text ++ more) :=
  fun c member => (List.mem_append.mp member).elim (legible c) (rest c)

theorem of_sublist (legible : IsLegible text) {shown : List Char} (kept : shown.Sublist text) :
    IsLegible shown :=
  fun c member => legible c (kept.subset member)

theorem notMem (legible : IsLegible text) {c : Char} (outside : c.toNat < 0x20 ∨ 0x7E < c.toNat) :
    c ∉ text := fun member => by
  have inside := legible c member
  omega

theorem cells_eq (legible : IsLegible text) : cells text = text.length := by
  induction text with
  | nil => rfl
  | cons c rest inductionHypothesis =>
    obtain ⟨first, others⟩ := List.forall_mem_cons.mp legible
    have one : cellsOf c = 1 := by
      unfold cellsOf
      dsimp only
      rw [if_neg (by omega), if_pos (by omega)]
    rw [cells_cons, one, inductionHypothesis others, List.length_cons, Nat.add_comm]

end IsLegible

/-! ### Numbers -/

theorem toNat_of_isDigit {c : Char} (digit : c.isDigit = true) :
    48 ≤ c.toNat ∧ c.toNat ≤ 57 :=
  (Bool.and_eq_true_iff.mp digit).imp of_decide_eq_true of_decide_eq_true

theorem toNat_of_mem_toDigits {number : Nat} {c : Char} (member : c ∈ Nat.toDigits 10 number) :
    48 ≤ c.toNat ∧ c.toNat ≤ 57 :=
  toNat_of_isDigit (Nat.isDigit_of_mem_toDigits (by decide) (by decide) member)

theorem isLegible_toDigits (number : Nat) : IsLegible (Nat.toDigits 10 number) := by
  intro c member
  have inside := toNat_of_mem_toDigits member
  omega

/-- The digits of a number that is not zero begin with another digit than zero. -/
theorem head?_toDigits {value : Nat} (positive : 0 < value) :
    (Nat.toDigits 10 value).head? ≠ some '0' := by
  have digits : ∀ digit : Fin 10, 0 < digit.val → Nat.digitChar digit.val ≠ '0' := by decide
  induction value using Nat.strongRecOn with
  | ind value inductionHypothesis =>
    rw [Nat.toDigits_eq_if (by decide)]
    split
    case isTrue single =>
      exact fun same => digits ⟨value, single⟩ positive (Option.some.inj same)
    case isFalse several =>
      obtain ⟨first, others, digits⟩ :=
        List.exists_cons_of_ne_nil (@Nat.toDigits_ne_nil (value / 10) 10)
      have earlier := inductionHypothesis (value / 10) (by omega) (by omega)
      rw [digits] at earlier ⊢
      exact earlier

/-- An integer is written with digits, and a minus in front of them if it is negative. -/
theorem toList_toString_int (number : Int) :
    0 ≤ number ∧ (toString number).toList = Nat.toDigits 10 number.natAbs ∨
      number < 0 ∧ (toString number).toList = '-' :: Nat.toDigits 10 number.natAbs := by
  cases number with
  | ofNat value => exact Or.inl ⟨Int.natCast_nonneg value, String.toList_ofList⟩
  | negSucc value =>
    refine Or.inr ⟨Int.negSucc_lt_zero value, ?_⟩
    show ("-" ++ String.ofList (Nat.toDigits 10 (value + 1))).toList = _
    rw [String.toList_append, String.toList_ofList, String.toList_ofList]
    rfl

end CatalogReader.Text
