import RelationMapper.Proofs.Number.Binary64
import RelationMapper.Value

/-!
# Keys that are the same

Being the same key is symmetric (`sameKey_symm`) and transitive (`sameKey_trans`), although a truth value, an integer and a
floating point number can be one key, and although an undefined number and a bare object are not the same key as themselves.
Values are the same key if they are numbers of the same value, tuples of the same keys, moments at the same time, or equal in any
other way (`sameKey_iff`).
-/

namespace RelationMapper

open Number Calendar

/-! ## Moments -/

theorem Calendar.Moment.same_symm {a b : Moment} (h : a.same b = true) : b.same a = true := by
  unfold Moment.same at *
  cases ha : a.offset <;> cases hb : b.offset <;> simp_all

theorem Calendar.Moment.same_trans {a b c : Moment} (h : a.same b = true) (h' : b.same c = true) : a.same c = true := by
  unfold Moment.same at *
  cases ha : a.offset <;> cases hb : b.offset <;> cases hc : c.offset <;> simp_all

namespace Value

variable {a b c : Value}

/-! ## Numbers -/

/-- A value that has the value of an integer: the integer itself, a truth value, or a floating point number. -/
inductive HasInt (n : Int) : Value → Prop where
  | whole {v : Value} : v.int? = some n → HasInt n v
  | real {x : Binary64} : x.equalsInt n = true → HasInt n (.real x)

/-- A truth value is the integer zero or one, and an integer is itself. -/
theorem int?_eq_some {v : Value} {n : Int} : v.int? = some n ↔ (∃ b : Bool, v = .bool b ∧ b.toNat = n) ∨ v = .int n := by
  cases v <;> simp [int?]

theorem HasInt.equalsInt {x : Binary64} {n : Int} (h : HasInt n (.real x)) : x.equalsInt n = true := by
  cases h with
  | whole h => cases h
  | real h => exact h

/-- No value has the value of two integers. -/
theorem HasInt.unique {m n : Int} (hm : HasInt m a) (hn : HasInt n a) : m = n := by
  cases hm with
  | real h => exact Binary64.int_eq_of_equalsInt h hn.equalsInt
  | whole h =>
    cases hn with
    | real => cases h
    | whole h' => exact Option.some.inj (h.symm.trans h')

/-- Numbers have the same value if they have the value of one integer, or are floating point numbers of the same value. -/
theorem sameNumber_iff : a.sameNumber b = true ↔
    (∃ n, HasInt n a ∧ HasInt n b) ∨ ∃ x y, a = .real x ∧ b = .real y ∧ x.sameValue y = true := by
  constructor
  · intro h
    unfold sameNumber at h
    split at h
    · exact .inr ⟨_, _, rfl, rfl, h⟩
    · obtain ⟨n, hn, h⟩ := (Option.any_eq_true _ _).mp h
      exact .inl ⟨n, .real h, .whole hn⟩
    · obtain ⟨n, hn, h⟩ := (Option.any_eq_true _ _).mp h
      exact .inl ⟨n, .whole hn, .real h⟩
    · obtain ⟨m, hm, h⟩ := (Option.any_eq_true _ _).mp h
      obtain ⟨n, hn, h⟩ := (Option.any_eq_true _ _).mp h
      exact .inl ⟨m, .whole hm, .whole (beq_iff_eq.mp h ▸ hn)⟩
  · rintro (⟨n, ha, hb⟩ | ⟨x, y, rfl, rfl, h⟩)
    · cases ha with
      | real h =>
        cases hb with
        | real h' => exact Binary64.sameValue_of_equalsInt h h'
        | whole h' => rcases int?_eq_some.mp h' with ⟨b, rfl, rfl⟩ | rfl <;> simpa [sameNumber, int?] using h
      | whole h =>
        cases hb with
        | real h' => rcases int?_eq_some.mp h with ⟨b, rfl, rfl⟩ | rfl <;> simpa [sameNumber, int?] using h'
        | whole h' =>
          rcases int?_eq_some.mp h with ⟨b, rfl, rfl⟩ | rfl <;> rcases int?_eq_some.mp h' with ⟨b', rfl, hb'⟩ | rfl <;>
            simp [sameNumber, int?, *]
    · exact h

/-- The numbers of the value of an integer are those that have it. -/
theorem sameNumber_int_iff {n : Int} : a.sameNumber (.int n) = true ↔ HasInt n a := by
  rw [sameNumber_iff]
  constructor
  · rintro (⟨m, ha, hm⟩ | ⟨x, y, -, hy, -⟩)
    · rwa [← hm.unique (.whole rfl)]
    · cases hy
  · intro ha
    exact .inl ⟨n, ha, .whole rfl⟩

theorem sameNumber_symm (h : a.sameNumber b = true) : b.sameNumber a = true := by
  rw [sameNumber_iff] at *
  rcases h with ⟨n, ha, hb⟩ | ⟨x, y, ha, hb, h⟩
  · exact .inl ⟨n, hb, ha⟩
  · exact .inr ⟨y, x, hb, ha, Binary64.sameValue_symm h⟩

theorem sameNumber_trans (h : a.sameNumber b = true) (h' : b.sameNumber c = true) : a.sameNumber c = true := by
  rw [sameNumber_iff] at *
  rcases h with ⟨m, ha, hb⟩ | ⟨x, y, rfl, rfl, h⟩
  · rcases h' with ⟨n, hb', hc⟩ | ⟨y, z, rfl, rfl, h'⟩
    · exact .inl ⟨m, ha, hb.unique hb' ▸ hc⟩
    · exact .inl ⟨m, ha, .real (Binary64.equalsInt_of_sameValue (Binary64.sameValue_symm h') hb.equalsInt)⟩
  · rcases h' with ⟨n, hb', hc⟩ | ⟨y', z, hy, rfl, h'⟩
    · exact .inl ⟨n, .real (Binary64.equalsInt_of_sameValue h hb'.equalsInt), hc⟩
    · cases hy
      exact .inr ⟨x, z, rfl, rfl, Binary64.sameValue_trans h h'⟩

/-! ## Keys -/

/-- Values that are the same key and neither numbers nor tuples. -/
inductive SamePlain : Value → Value → Prop where
  | null : SamePlain .null .null
  | text (s : String) : SamePlain (.text s) (.text s)
  | bytes (b : List UInt8) : SamePlain (.bytes b) (.bytes b)
  | moment {m n : Moment} : m.same n = true → SamePlain (.moment m) (.moment n)
  | date (d : Date) : SamePlain (.date d) (.date d)
  | now : SamePlain .now .now

/-- What it takes to be the same key. -/
theorem sameKey_iff : a.sameKey b = true ↔ a.sameNumber b = true ∨ SamePlain a b ∨
    ∃ xs ys, a = .tuple xs ∧ b = .tuple ys ∧ sameKeys xs ys = true := by
  constructor
  · intro h
    unfold sameKey at h
    split at h
    · exact .inr (.inl .null)
    · exact .inr (.inl (beq_iff_eq.mp h ▸ .text _))
    · exact .inr (.inl (beq_iff_eq.mp h ▸ .bytes _))
    · exact .inr (.inl (.moment h))
    · exact .inr (.inl (beq_iff_eq.mp h ▸ .date _))
    · exact .inr (.inl .now)
    · exact .inr (.inr ⟨_, _, rfl, rfl, h⟩)
    · exact .inl h
  · rintro (h | h | ⟨xs, ys, rfl, rfl, h⟩)
    · rcases sameNumber_iff.mp h with ⟨n, ha, hb⟩ | ⟨x, y, rfl, rfl, -⟩
      · cases ha with
        | real => exact h
        | whole ha => rcases int?_eq_some.mp ha with ⟨b, rfl, rfl⟩ | rfl <;> exact h
      · exact h
    · cases h with
      | moment h => exact h
      | _ => simp [sameKey]
    · exact h

theorem SamePlain.symm (h : SamePlain a b) : SamePlain b a := by
  cases h with
  | moment h => exact .moment (Moment.same_symm h)
  | null => exact .null
  | text s => exact .text s
  | bytes b => exact .bytes b
  | date d => exact .date d
  | now => exact .now

theorem SamePlain.trans (h : SamePlain a b) (h' : SamePlain b c) : SamePlain a c := by
  cases h with
  | moment h =>
    cases h' with
    | moment h' => exact .moment (Moment.same_trans h h')
  | _ => exact h'

/-- What is plain is no number. -/
theorem SamePlain.not_sameNumber (h : SamePlain a b) : a.sameNumber c ≠ true := by
  intro hn
  rcases sameNumber_iff.mp hn with ⟨n, ha, -⟩ | ⟨x, y, ha, -, -⟩
  · cases h <;> cases ha <;> contradiction
  · cases h <;> cases ha

/-- A tuple is the same key as tuples only. -/
theorem sameKey_tuple {xs : List Value} : (Value.tuple xs).sameKey b = true ↔ ∃ ys, b = .tuple ys ∧ sameKeys xs ys = true := by
  rw [sameKey_iff]
  constructor
  · rintro (h | h | ⟨xs', ys, hxs, rfl, h⟩)
    · rcases sameNumber_iff.mp h with ⟨n, ha, -⟩ | ⟨x, y, ha, -, -⟩
      · cases ha
        contradiction
      · cases ha
    · cases h
    · cases hxs
      exact ⟨ys, rfl, h⟩
  · rintro ⟨ys, rfl, h⟩
    exact .inr (.inr ⟨xs, ys, rfl, rfl, h⟩)

/-- What is no tuple is a number or plain. -/
theorem sameKey_other (ha : ∀ xs, a ≠ .tuple xs) : a.sameKey b = true ↔ a.sameNumber b = true ∨ SamePlain a b := by
  rw [sameKey_iff]
  constructor
  · rintro (h | h | ⟨xs, ys, rfl, -⟩)
    · exact .inl h
    · exact .inr h
    · exact absurd rfl (ha xs)
  · rintro (h | h)
    · exact .inl h
    · exact .inr (.inl h)

theorem not_tuple_of_sameKey (ha : ∀ xs, a ≠ .tuple xs) (h : a.sameKey b = true) : ∀ ys, b ≠ .tuple ys := by
  rintro ys rfl
  rcases (sameKey_other ha).mp h with h | h
  · rcases sameNumber_iff.mp h with ⟨n, -, hb⟩ | ⟨x, y, -, hb, -⟩
    · cases hb
      contradiction
    · cases hb
  · cases h

theorem sameKey_symm_other (ha : ∀ xs, a ≠ .tuple xs) (h : a.sameKey b = true) : b.sameKey a = true := by
  rw [sameKey_other (not_tuple_of_sameKey ha h)]
  rcases (sameKey_other ha).mp h with h | h
  · exact .inl (sameNumber_symm h)
  · exact .inr h.symm

theorem sameKey_trans_other (ha : ∀ xs, a ≠ .tuple xs) (h : a.sameKey b = true) (h' : b.sameKey c = true) :
    a.sameKey c = true := by
  rw [sameKey_other (not_tuple_of_sameKey ha h)] at h'
  rw [sameKey_other ha] at h ⊢
  rcases h with h | h
  · rcases h' with h' | h'
    · exact .inl (sameNumber_trans h h')
    · exact absurd (sameNumber_symm h) h'.not_sameNumber
  · rcases h' with h' | h'
    · exact absurd h' h.symm.not_sameNumber
    · exact .inr (h.trans h')

mutual

/-- Being the same key is symmetric. -/
theorem sameKey_symm : ∀ {a b : Value}, a.sameKey b = true → b.sameKey a = true
  | .tuple xs, b, h => by
    obtain ⟨ys, rfl, h⟩ := sameKey_tuple.mp h
    exact sameKey_tuple.mpr ⟨xs, rfl, sameKeys_symm h⟩
  | .null, _, h | .bool _, _, h | .int _, _, h | .real _, _, h | .text _, _, h | .bytes _, _, h | .buffer _, _, h
  | .moment _, _, h | .date _, _, h | .now, _, h | .list _, _, h | .set _, _, h | .map _, _, h | .object, _, h =>
    sameKey_symm_other nofun h

theorem sameKeys_symm : ∀ {xs ys : List Value}, sameKeys xs ys = true → sameKeys ys xs = true
  | [], [], _ => rfl
  | x :: xs, y :: ys, h => by
    rw [sameKeys, Bool.and_eq_true] at *
    exact ⟨sameKey_symm h.1, sameKeys_symm h.2⟩

end

mutual

/-- Being the same key is transitive. -/
theorem sameKey_trans : ∀ {a b c : Value}, a.sameKey b = true → b.sameKey c = true → a.sameKey c = true
  | .tuple xs, b, c, h, h' => by
    obtain ⟨ys, rfl, h⟩ := sameKey_tuple.mp h
    obtain ⟨zs, rfl, h'⟩ := sameKey_tuple.mp h'
    exact sameKey_tuple.mpr ⟨zs, rfl, sameKeys_trans h h'⟩
  | .null, _, _, h, h' | .bool _, _, _, h, h' | .int _, _, _, h, h' | .real _, _, _, h, h' | .text _, _, _, h, h'
  | .bytes _, _, _, h, h' | .buffer _, _, _, h, h' | .moment _, _, _, h, h' | .date _, _, _, h, h' | .now, _, _, h, h'
  | .list _, _, _, h, h' | .set _, _, _, h, h' | .map _, _, _, h, h' | .object, _, _, h, h' =>
    sameKey_trans_other nofun h h'

theorem sameKeys_trans : ∀ {xs ys zs : List Value}, sameKeys xs ys = true → sameKeys ys zs = true → sameKeys xs zs = true
  | [], [], _, _, h' => h'
  | x :: xs, y :: ys, [], _, h' => by cases h'
  | x :: xs, y :: ys, z :: zs, h, h' => by
    rw [sameKeys, Bool.and_eq_true] at *
    exact ⟨sameKey_trans h.1 h'.1, sameKeys_trans h.2 h'.2⟩

end

end Value

end RelationMapper
