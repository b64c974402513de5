import Mathlib.Algebra.Ring.Nat
import RelationMapper.Text.Digit

/-!
# Numbers read from digits

A row of decimal digits, of any scripts, stands for a number below the power of ten of its length (`readNat_lt`), and a number
is read back from the digits with which it is written (`readNat_toDigits`). So a number that was read from a row that is not too
long can be written without being too long (`length_toDigits_readNat`).
-/

namespace RelationMapper.Text

/-- A decimal digit is worth nine at most. -/
theorem digitValue?_le {c : Char} {n : Nat} (h : digitValue? c = some n) : n ≤ 9 := by
  rw [digitValue?, Option.map_eq_some_iff] at h
  obtain ⟨z, hz, rfl⟩ := h
  have hblock := List.find?_some hz
  rw [Bool.and_eq_true, decide_eq_true_iff, decide_eq_true_iff] at hblock
  omega

/-- The digits of ASCII are the first block. -/
theorem digitValue?_of_isDigit {c : Char} (h : c.isDigit = true) : digitValue? c = some (c.toNat - '0'.toNat) := by
  have hblock : 48 ≤ c.toNat ∧ c.toNat ≤ 57 := Char.isDigit_iff_toNat.mp h
  rw [digitValue?, digitZeros, List.find?_cons_of_pos (by simp [hblock])]
  rfl

theorem isDigit_zeros (n : Nat) : ∀ c ∈ List.replicate n '0', c.isDigit = true := by
  intro c hc
  rw [List.eq_of_mem_replicate hc]
  rfl

theorem isDigit_toDigits (n : Nat) : ∀ c ∈ Nat.toDigits 10 n, c.isDigit = true :=
  fun _ hc => Nat.isDigit_of_mem_toDigits (by decide) (by decide) hc

theorem isDigit_of_ascii {c : Char} (h : c.isDigit = true) : isDigit c = true := by
  rw [isDigit, digitValue?_of_isDigit h]
  rfl

/-- A row of digits stands for a number below the power of ten of its length. -/
theorem readNat_lt (cs : List Char) : readNat cs < 10 ^ cs.length := by
  -- after some digits, what is read is below the power of ten of their number
  have step (cs : List Char) : ∀ n k, n < 10 ^ k →
      cs.foldl (fun n c => 10 * n + (digitValue? c).getD 0) n < 10 ^ (k + cs.length) := by
    induction cs with
    | nil => exact fun n k h => h
    | cons c cs ih =>
      intro n k h
      have hdigit : (digitValue? c).getD 0 ≤ 9 := by
        cases hc : digitValue? c with
        | none => exact Nat.zero_le 9
        | some d => exact digitValue?_le hc
      have hnext : 10 * n + (digitValue? c).getD 0 < 10 ^ (k + 1) := by
        rw [Nat.pow_succ]
        omega
      rw [List.foldl_cons, List.length_cons, Nat.add_comm cs.length, ← Nat.add_assoc]
      exact ih _ _ hnext
  have hread := step cs 0 0 Nat.one_pos
  rwa [Nat.zero_add] at hread

/-- A row of digits of ASCII stands for the number that it is the numeral of. -/
theorem readNat_of_isDigit {cs : List Char} (h : ∀ c ∈ cs, c.isDigit = true) : readNat cs = Nat.ofDigitChars 10 cs 0 := by
  have step : ∀ n, cs.foldl (fun n c => 10 * n + (digitValue? c).getD 0) n = Nat.ofDigitChars 10 cs n := by
    induction cs with
    | nil => exact fun _ => rfl
    | cons c cs ih =>
      intro n
      rw [List.forall_mem_cons] at h
      rw [List.foldl_cons, digitValue?_of_isDigit h.1, Nat.ofDigitChars_cons]
      exact ih h.2 _
  exact step 0

/-- A number is read back from its digits. -/
theorem readNat_toDigits (n : Nat) : readNat (Nat.toDigits 10 n) = n := by
  rw [readNat_of_isDigit (isDigit_toDigits n), Nat.ofDigitChars_ten_toDigits]

/-- A number has no more digits than the row that it was read from. -/
theorem length_toDigits_readNat {cs : List Char} {limit : Nat} (hlimit : 0 < limit) (h : cs.length ≤ limit) :
    (Nat.toDigits 10 (readNat cs)).length ≤ limit := by
  rw [Nat.length_toDigits_le_iff (by decide) hlimit]
  exact Nat.lt_of_lt_of_le (readNat_lt cs) (Nat.pow_le_pow_right (by decide) h)

end RelationMapper.Text
