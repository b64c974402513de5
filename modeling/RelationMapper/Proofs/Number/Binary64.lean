import Mathlib.Tactic.Ring
import RelationMapper.Number.Binary64

/-!
# The value of a floating point number

Sign, exponent and fraction make up a number (`eq_of_parts`), and a number other than zero has only one significand and exponent
for its value. Hence having the same value is symmetric and transitive, also where one of three numbers is an integer
(`sameValue_of_equalsInt`, `equalsInt_of_sameValue`), and no number has the value of two integers (`int_eq_of_equalsInt`).
-/

namespace RelationMapper.Number.Binary64

variable {x y z : Binary64} {m n : Int}

/-! ## Parts -/

/-- A number is made up of its sign, its exponent and its fraction. -/
theorem eq_of_parts (hs : x.isNegative = y.isNegative) (hb : x.biased = y.biased) (hf : x.fraction = y.fraction) : x = y := by
  obtain ⟨a⟩ := x
  obtain ⟨b⟩ := y
  simp only [isNegative, biased, fraction, UInt64.le_iff_toNat_le, decide_eq_decide] at hs hb hf
  have ha := a.toNat_lt
  have hb' := b.toNat_lt
  refine congrArg mk (UInt64.toNat_inj.mp ?_)
  change 9223372036854775808 ≤ _ ↔ 9223372036854775808 ≤ _ at hs
  omega

/-- A significand has at most 53 binary digits. -/
theorem significand_lt (x : Binary64) : x.significand < 2 ^ 53 := by
  have hf : x.fraction < 0x10000000000000 := Nat.mod_lt _ (by decide)
  unfold significand
  split <;> omega

/-- The exponent of the significand, counted from zero. -/
def place (x : Binary64) : Nat := max x.biased 1

/-- A significand has its leading bit, unless it stands at the least place. -/
theorem place_eq_one_or_le_significand (x : Binary64) : x.place = 1 ∨ 2 ^ 52 ≤ x.significand := by
  unfold place significand
  split
  · left
    omega
  · right
    omega

/-- A value has one significand and place. -/
theorem significand_place_unique (h : x.significand * 2 ^ x.place = y.significand * 2 ^ y.place) :
    x.significand = y.significand ∧ x.place = y.place := by
  have ordered {x y : Binary64} (hle : x.place ≤ y.place) (h : x.significand * 2 ^ x.place = y.significand * 2 ^ y.place) :
      x.significand = y.significand ∧ x.place = y.place := by
    obtain ⟨d, hd⟩ := Nat.exists_eq_add_of_le hle
    have hcancel : x.significand = y.significand * 2 ^ d := by
      rw [hd, pow_add, ← mul_assoc, mul_right_comm] at h
      exact Nat.eq_of_mul_eq_mul_right (Nat.two_pow_pos _) h
    cases d with
    | zero => exact ⟨by simpa using hcancel, by omega⟩
    | succ d =>
      -- the significand at the higher place would be too small
      have hlt := x.significand_lt
      have hpos : 1 ≤ 2 ^ d := Nat.one_le_two_pow
      have hdouble : y.significand * 2 ≤ x.significand := by
        rw [hcancel, pow_succ, ← mul_assoc, mul_right_comm]
        exact Nat.le_mul_of_pos_right _ hpos
      have hplace : 1 ≤ x.place := Nat.le_max_right _ _
      have := y.place_eq_one_or_le_significand
      omega
  rcases Nat.le_total x.place y.place with hle | hle
  · exact ordered hle h
  · obtain ⟨hs, hp⟩ := ordered hle h.symm
    exact ⟨hs.symm, hp.symm⟩

/-! ## Integers -/

/-- The place at which significands are integers. -/
def unitPlace : Nat := 1075

theorem exponent_eq (x : Binary64) : x.exponent = (x.place : Int) - unitPlace := by
  unfold exponent place unitPlace
  split <;> omega

/-- Powers of two that both sides have in common do not matter. -/
theorem scaled_iff (a b p e : Nat) : a * 2 ^ (p - e) = b * 2 ^ (e - p) ↔ a * 2 ^ p = b * 2 ^ e := by
  have hp : p = (p - e) + min p e := by omega
  have he : e = (e - p) + min p e := by omega
  have hpow : a * 2 ^ p = b * 2 ^ e ↔ a * 2 ^ (p - e) * 2 ^ min p e = b * 2 ^ (e - p) * 2 ^ min p e := by
    rw [mul_assoc, mul_assoc, ← pow_add, ← pow_add, ← hp, ← he]
  rw [hpow]
  exact (Nat.mul_left_inj (Nat.two_pow_pos _).ne').symm

/-- A number with the value of an integer is finite, has its sign unless it is zero, and has its magnitude. -/
theorem equalsInt_iff : x.equalsInt n = true ↔ x.isFinite = true ∧ (x.isNegative = decide (n < 0) ∨ x.isZero = true) ∧
    x.significand * 2 ^ x.place = n.natAbs * 2 ^ unitPlace := by
  have hup : x.exponent.toNat = x.place - unitPlace := by
    rw [exponent_eq]
    omega
  have hdown : (-x.exponent).toNat = unitPlace - x.place := by
    rw [exponent_eq]
    omega
  have hmagnitude := scaled_iff x.significand n.natAbs x.place unitPlace
  simp only [equalsInt, Bool.and_eq_true, Bool.or_eq_true, beq_iff_eq, Nat.pow_eq, hup, hdown, hmagnitude, and_assoc]

theorem isZero_iff : x.isZero = true ↔ x.significand = 0 := by
  unfold isZero significand
  rw [Bool.and_eq_true, beq_iff_eq, beq_iff_eq]
  split <;> omega

theorem isNaN_eq_false_of_isFinite (h : x.isFinite = true) : x.isNaN = false := by
  rw [isFinite, bne_iff_ne] at h
  rw [isNaN, beq_false_of_ne h, Bool.false_and]

theorem isFinite_of_isZero (h : x.isZero = true) : x.isFinite = true := by
  rw [isZero, Bool.and_eq_true, beq_iff_eq] at h
  rw [isFinite, h.1]
  rfl

/-- A zero has the value of the integer zero only. -/
theorem equalsInt_of_isZero (h : x.isZero = true) : x.equalsInt n = true ↔ n = 0 := by
  rw [equalsInt_iff, isZero_iff.mp h, Nat.zero_mul]
  constructor
  · rintro ⟨-, -, hn⟩
    have hzero : n.natAbs = 0 := (Nat.mul_eq_zero.mp hn.symm).resolve_right (Nat.two_pow_pos _).ne'
    exact Int.natAbs_eq_zero.mp hzero
  · rintro rfl
    refine ⟨isFinite_of_isZero h, .inr h, ?_⟩
    rw [Int.natAbs_zero, Nat.zero_mul]

/-- Numbers with the value of one integer have the same value. -/
theorem sameValue_of_equalsInt (hx : x.equalsInt n = true) (hy : y.equalsInt n = true) : x.sameValue y = true := by
  obtain ⟨hfinite, hsx, hmx⟩ := equalsInt_iff.mp hx
  obtain ⟨-, hsy, hmy⟩ := equalsInt_iff.mp hy
  obtain ⟨hsignificand, hplace⟩ := significand_place_unique (hmx.trans hmy.symm)
  rw [sameValue, isNaN_eq_false_of_isFinite hfinite]
  by_cases hzero : x.significand = 0
  · simp [isZero_iff.mpr hzero, isZero_iff.mpr (hsignificand ▸ hzero)]
  · -- numbers other than zero have the sign of the integer
    have hzx : ¬x.isZero = true := mt isZero_iff.mp hzero
    have hzy : ¬y.isZero = true := fun h => hzero (hsignificand.trans (isZero_iff.mp h))
    have hsign := (hsx.resolve_right hzx).trans (hsy.resolve_right hzy).symm
    have hparts : x.biased = y.biased ∧ x.fraction = y.fraction := by
      have hlx : x.fraction < 0x10000000000000 := Nat.mod_lt _ (by decide)
      have hly : y.fraction < 0x10000000000000 := Nat.mod_lt _ (by decide)
      unfold significand place at *
      split at hsignificand <;> split at hsignificand <;> omega
    rw [eq_of_parts hsign hparts.1 hparts.2]
    simp

/-- A number with the value of another one has the value of the same integer. -/
theorem equalsInt_of_sameValue (h : x.sameValue y = true) (hy : y.equalsInt n = true) : x.equalsInt n = true := by
  simp only [sameValue, Bool.and_eq_true, Bool.or_eq_true, beq_iff_eq] at h
  rcases h.2 with hbits | ⟨hx, hzero⟩
  · rwa [show x = y from congrArg mk hbits]
  · exact (equalsInt_of_isZero hx).mpr ((equalsInt_of_isZero hzero).mp hy)

/-- No number has the value of two integers. -/
theorem int_eq_of_equalsInt (hm : x.equalsInt m = true) (hn : x.equalsInt n = true) : m = n := by
  by_cases hzero : x.isZero = true
  · rw [(equalsInt_of_isZero hzero).mp hm, (equalsInt_of_isZero hzero).mp hn]
  · obtain ⟨-, hsm, hmm⟩ := equalsInt_iff.mp hm
    obtain ⟨-, hsn, hmn⟩ := equalsInt_iff.mp hn
    have habs : m.natAbs = n.natAbs := Nat.eq_of_mul_eq_mul_right (Nat.two_pow_pos unitPlace) (hmm.symm.trans hmn)
    have hsign := (hsm.resolve_right hzero).symm.trans (hsn.resolve_right hzero)
    rw [decide_eq_decide] at hsign
    omega

/-! ## Numbers with the same value -/

theorem sameValue_symm (h : x.sameValue y = true) : y.sameValue x = true := by
  simp only [sameValue, Bool.and_eq_true, Bool.or_eq_true, beq_iff_eq] at h
  rcases h.2 with hbits | ⟨hx, hy⟩
  · have hxy : x = y := congrArg mk hbits
    subst hxy
    simp [sameValue, h.1]
  · simp [sameValue, isNaN_eq_false_of_isFinite (isFinite_of_isZero hy), hx, hy]

theorem sameValue_trans (h : x.sameValue y = true) (h' : y.sameValue z = true) : x.sameValue z = true := by
  simp only [sameValue, Bool.and_eq_true, Bool.or_eq_true, beq_iff_eq] at h h'
  rcases h.2 with hbits | ⟨hx, hy⟩
  · have hxy : x = y := congrArg mk hbits
    subst hxy
    simpa [sameValue, h.1] using h'.2
  · rcases h'.2 with hbits | ⟨-, hz⟩
    · have hyz : y = z := congrArg mk hbits
      subst hyz
      simp [sameValue, h.1, hx, hy]
    · simp [sameValue, h.1, hx, hz]

end RelationMapper.Number.Binary64
