import Mathlib.Logic.Function.Basic
import RelationMapper.Number.Numeral
import RelationMapper.Proofs.Text.Digit

/-!
# Integers in writing

Different integers are written differently (`intText_injective`), and with nothing but a minus sign and digits.
-/

namespace RelationMapper.Number

/-- Different integers are written differently. -/
theorem intText_injective : Function.Injective intText := by
  have digits (m n : Nat) (h : m.repr = n.repr) : m = n := by
    rw [← Nat.ofDigitChars_ten_toDigits (n := m), ← Nat.toList_repr, h, Nat.toList_repr, Nat.ofDigitChars_ten_toDigits]
  have sign (m n : Nat) : "-" ++ m.repr ≠ n.repr := by
    intro h
    have hm : '-' ∈ Nat.toDigits 10 n := by
      rw [← Nat.toList_repr, ← h, String.toList_append]
      exact List.mem_append_left _ (by decide)
    exact absurd (Text.isDigit_toDigits n '-' hm) (by decide)
  intro m n h
  unfold intText at h
  split at h <;> split at h
  · have := digits _ _ ((String.append_right_inj "-").mp h)
    omega
  · exact absurd h (sign _ _)
  · exact absurd h.symm (sign _ _)
  · have := digits _ _ h
    omega

/-- An integer is written with a minus sign and digits. -/
theorem mem_intText {n : Int} {c : Char} (h : c ∈ (intText n).toList) : c = '-' ∨ c.isDigit = true := by
  have digits (hc : c ∈ n.natAbs.repr.toList) : c.isDigit = true :=
    Text.isDigit_toDigits _ c (Nat.toList_repr ▸ hc)
  unfold intText at h
  split at h
  · rw [String.toList_append] at h
    exact (List.mem_append.mp h).imp List.mem_singleton.mp digits
  · exact Or.inr (digits h)

end RelationMapper.Number
