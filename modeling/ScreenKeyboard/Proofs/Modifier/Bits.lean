import Mathlib.Tactic.Common
import ScreenKeyboard.Modifier.Basic

namespace ScreenKeyboard

namespace Mask

def has (m : Mask) (i : Nat) : Bool :=
  m.bits.getLsbD i

/-- The bits of `a` that `b` does not have, whether they have a flag or not. -/
def without (a b : Mask) : Mask :=
  ⟨a.bits &&& ~~~b.bits⟩

/-- Every bit that is set has a flag. -/
def IsNamed (m : Mask) : Prop :=
  named.contains m = true

instance (m : Mask) : Decidable m.IsNamed :=
  inferInstanceAs (Decidable (_ = _))

theorem ext_has {a b : Mask} (h : ∀ i, a.has i = b.has i) : a = b := by
  cases a; cases b
  simp only [mk.injEq]
  exact BitVec.eq_of_getLsbD_eq fun i _ => h i

@[simp] theorem has_empty (i : Nat) : empty.has i = false := by
  simp [has, empty]

@[simp] theorem has_or (a b : Mask) (i : Nat) : (a ||| b).has i = (a.has i || b.has i) := by
  simp [has]

@[simp] theorem has_and (a b : Mask) (i : Nat) : (a &&& b).has i = (a.has i && b.has i) := by
  simp [has]

@[simp] theorem has_xor (a b : Mask) (i : Nat) : (a ^^^ b).has i = (a.has i ^^ b.has i) := by
  simp [has]

theorem has_eq_false {i : Nat} (m : Mask) (hi : 32 ≤ i) : m.has i = false :=
  BitVec.getLsbD_of_ge m.bits i hi

@[simp] theorem has_complement (m : Mask) (i : Nat) :
    (~~~m).has i = (!m.has i && named.has i) := by
  rcases Nat.lt_or_ge i 32 with hi | hi
  · simp [has, hi]
  · simp only [has_eq_false _ hi, Bool.and_false]

@[simp] theorem has_without (a b : Mask) (i : Nat) :
    (a.without b).has i = (a.has i && !b.has i) := by
  rcases Nat.lt_or_ge i 32 with hi | hi
  · simp [has, without, hi]
  · simp only [has_eq_false _ hi, Bool.false_and]

theorem eq_empty_iff {m : Mask} : m = empty ↔ ∀ i, m.has i = false :=
  ⟨fun h i => by simp [h], fun h => ext_has fun i => by simp [h i]⟩

theorem isEmpty_iff {m : Mask} : m.isEmpty = true ↔ m = empty := by
  cases m
  simp [isEmpty, empty]

theorem isEmpty_eq_false_iff {m : Mask} : m.isEmpty = false ↔ m ≠ empty := by
  rw [← Bool.not_eq_true, isEmpty_iff]

theorem intersects_iff {a b : Mask} :
    a.intersects b = true ↔ ∃ i, a.has i = true ∧ b.has i = true := by
  have hb : a.intersects b = !(a &&& b).isEmpty := rfl
  rw [hb, Bool.not_eq_true', isEmpty_eq_false_iff, Ne, eq_empty_iff]
  simp

theorem contains_iff {a b : Mask} :
    a.contains b = true ↔ ∀ i, b.has i = true → a.has i = true := by
  have hb : a.contains b = true ↔ a &&& b = b := by
    cases a; cases b
    rw [contains, beq_iff_eq, ← mk.injEq]
    rfl
  rw [hb]
  constructor
  · intro h i hi
    have hh : (a &&& b).has i = true := by rw [h]; exact hi
    rw [has_and, Bool.and_eq_true] at hh
    exact hh.1
  · intro h
    apply ext_has
    intro i
    cases hi : b.has i with
    | false => simp [hi]
    | true => simp [hi, h i hi]

theorem contains_eq_false_iff {a b : Mask} :
    a.contains b = false ↔ ∃ i, b.has i = true ∧ a.has i = false := by
  rw [← Bool.not_eq_true, contains_iff]
  simp

theorem contains_trans {a b c : Mask} (h : a.contains b = true) (h' : b.contains c = true) :
    a.contains c = true :=
  contains_iff.mpr fun i hi => contains_iff.mp h i (contains_iff.mp h' i hi)

theorem contains_empty_left {m : Mask} (h : empty.contains m = true) : m = empty := by
  apply eq_empty_iff.mpr
  intro i
  by_contra hh
  simpa using contains_iff.mp h i (by simpa using hh)

theorem has_mask (f : Flag) (i : Nat) : f.mask.has i = decide (i = f.position) := by
  have hp : f.position < 32 := by cases f <;> decide
  rcases Nat.lt_or_ge i 32 with hi | hi
  · simp only [has, Flag.mask, BitVec.getLsbD_shiftLeft, BitVec.getLsbD_one, hi, decide_true,
      Bool.true_and]
    by_cases h : i = f.position
    · simp [h]
    · rcases Nat.lt_or_gt_of_ne h with hlt | hgt
      · simp [h, hlt]
      · have hne : i - f.position ≠ 0 := by omega
        simp [h, hne]
  · have hne : i ≠ f.position := by omega
    simp [has_eq_false _ hi, hne]

theorem contains_mask (m : Mask) (f : Flag) : m.contains f.mask = m.has f.position := by
  rw [Bool.eq_iff_iff, contains_iff]
  constructor
  · intro h
    exact h f.position (by simp [has_mask])
  · intro h i hi
    rw [has_mask, decide_eq_true_eq] at hi
    exact hi ▸ h

theorem contains_and_complement_mask (m : Mask) (f : Flag) :
    (m &&& ~~~f.mask).contains f.mask = false := by
  simp [contains_mask, has_mask]

theorem contains_without_mask (m : Mask) (f : Flag) : (m.without f.mask).contains f.mask = false := by
  simp [contains_mask, has_mask]

theorem without_mask_of_contains {m : Mask} {f : Flag} (h : m.contains f.mask = false) :
    m.without f.mask = m := by
  rw [contains_mask] at h
  apply ext_has
  intro i
  rw [has_without, has_mask]
  by_cases hi : i = f.position
  · simp [hi, h]
  · simp [hi]

theorem and_complement_self (m : Mask) : m &&& ~~~m = empty := by
  apply eq_empty_iff.mpr
  intro i
  cases hi : m.has i <;> simp [hi]

theorem contains_xor (a b : Mask) : a.contains (a ^^^ b) = a.contains b := by
  rw [Bool.eq_iff_iff, contains_iff, contains_iff]
  constructor
  · intro h i hi
    cases ha : a.has i with
    | true => rfl
    | false => exact ha.symm.trans (h i (by simp [ha, hi]))
  · intro h i hi
    cases ha : a.has i with
    | true => rfl
    | false => exact ha.symm.trans (h i (by simpa [ha] using hi))

theorem xor_xor_and (a b : Mask) : (a ^^^ (a ^^^ b)) &&& a = a &&& b := by
  apply ext_has
  intro i
  cases ha : a.has i <;> simp [ha]

theorem isNamed_iff {m : Mask} : m.IsNamed ↔ ∀ i, m.has i = true → named.has i = true :=
  contains_iff

theorem isNamed_empty : empty.IsNamed := by decide

theorem isNamed_mask (f : Flag) : f.mask.IsNamed := by
  cases f <;> decide

theorem IsNamed.or {a b : Mask} (ha : a.IsNamed) (hb : b.IsNamed) : (a ||| b).IsNamed := by
  apply isNamed_iff.mpr
  intro i hi
  rw [has_or, Bool.or_eq_true] at hi
  exact hi.elim (isNamed_iff.mp ha i) (isNamed_iff.mp hb i)

theorem IsNamed.xor {a b : Mask} (ha : a.IsNamed) (hb : b.IsNamed) : (a ^^^ b).IsNamed := by
  apply isNamed_iff.mpr
  intro i hi
  cases hai : a.has i with
  | true => exact isNamed_iff.mp ha i hai
  | false => exact isNamed_iff.mp hb i (by simpa [hai] using hi)

theorem isNamed_and_complement (a b : Mask) : (a &&& ~~~b).IsNamed := by
  apply isNamed_iff.mpr
  intro i hi
  simp only [has_and, has_complement, Bool.and_eq_true] at hi
  exact hi.2.2

/-- Taking a mask away by its complement takes the bits without a flag as well. -/
theorem and_complement (a b : Mask) : a &&& ~~~b = a.without b &&& named := by
  apply ext_has
  intro i
  simp [Bool.and_assoc]

theorem IsNamed.and_complement {a : Mask} (ha : a.IsNamed) (b : Mask) :
    a &&& ~~~b = a.without b := by
  apply ext_has
  intro i
  cases hi : a.has i with
  | false => simp [hi]
  | true => simp [hi, isNamed_iff.mp ha i hi]

def IsSingle (m : Mask) : Prop :=
  m ∈ empty :: Flag.all.map Flag.mask

instance (m : Mask) : Decidable m.IsSingle :=
  inferInstanceAs (Decidable (_ ∈ _))

theorem isSingle_empty : empty.IsSingle := by decide

theorem isSingle_mask (f : Flag) : f.mask.IsSingle := by
  cases f <;> decide

theorem isSingle_cases {m : Mask} (h : m.IsSingle) : m = empty ∨ ∃ f : Flag, m = f.mask := by
  rcases List.mem_cons.mp h with h | h
  · exact Or.inl h
  · obtain ⟨f, _, hf⟩ := List.mem_map.mp h
    exact Or.inr ⟨f, hf.symm⟩

theorem IsSingle.isNamed {m : Mask} (h : m.IsSingle) : m.IsNamed := by
  rcases isSingle_cases h with h | ⟨f, h⟩
  · exact h ▸ isNamed_empty
  · exact h ▸ isNamed_mask f

/-- A single flag cannot be met in part. -/
theorem IsSingle.contains_of_intersects {m other : Mask} (h : m.IsSingle)
    (hi : m.intersects other = true) : other.contains m = true := by
  obtain ⟨i, hm, ho⟩ := intersects_iff.mp hi
  rcases isSingle_cases h with h | ⟨f, h⟩
  · rw [h, has_empty] at hm
    exact Bool.noConfusion hm
  · rw [h, has_mask, decide_eq_true_eq] at hm
    rw [h, contains_mask, ← hm]
    exact ho

theorem intersects_eq_false_iff {a b : Mask} :
    a.intersects b = false ↔ ∀ i, a.has i = true → b.has i = false := by
  rw [← Bool.not_eq_true, intersects_iff]
  simp

theorem intersects_congr {a b c : Mask} (h : ∀ i, c.has i = true → a.has i = b.has i) :
    a.intersects c = b.intersects c := by
  rw [Bool.eq_iff_iff, intersects_iff, intersects_iff]
  constructor
  · rintro ⟨i, ha, hc⟩
    exact ⟨i, (h i hc).symm.trans ha, hc⟩
  · rintro ⟨i, hb, hc⟩
    exact ⟨i, (h i hc).trans hb, hc⟩

theorem intersects_mask (m : Mask) (f : Flag) : m.intersects f.mask = m.has f.position := by
  rw [Bool.eq_iff_iff, intersects_iff]
  simp [has_mask]

theorem intersects_self {m : Mask} (h : m ≠ empty) : m.intersects m = true := by
  by_contra hn
  rw [Bool.not_eq_true, intersects_eq_false_iff] at hn
  apply h
  apply eq_empty_iff.mpr
  intro i
  by_contra hi
  rw [Bool.not_eq_false] at hi
  exact nomatch hi.symm.trans (hn i hi)

theorem intersects_comm (a b : Mask) : a.intersects b = b.intersects a := by
  rw [Bool.eq_iff_iff, intersects_iff, intersects_iff]
  simp only [and_comm]

theorem xor_xor_self (a b : Mask) : a ^^^ (a ^^^ b) = b := by
  apply ext_has
  intro i
  simp

theorem xor_xor_cancel (a b : Mask) : a ^^^ b ^^^ b = a := by
  apply ext_has
  intro i
  simp

theorem xor_eq_or_of_disjoint {a b : Mask} (h : a.intersects b = false) : a ^^^ b = a ||| b := by
  apply ext_has
  intro i
  cases ha : a.has i with
  | false => simp [ha]
  | true => simp [ha, intersects_eq_false_iff.mp h i ha]

theorem and_eq_empty_of_disjoint {a b : Mask} (h : a.intersects b = false) : a &&& b = empty := by
  apply eq_empty_iff.mpr
  intro i
  cases ha : a.has i with
  | false => simp [ha]
  | true => simp [intersects_eq_false_iff.mp h i ha]

theorem and_xor_of_disjoint {a b : Mask} (h : a.intersects b = false) : b &&& (a ^^^ b) = b := by
  apply ext_has
  intro i
  cases ha : a.has i with
  | false => simp [ha]
  | true => simp [intersects_eq_false_iff.mp h i ha]

theorem and_eq_of_contains {a b : Mask} (h : a.contains b = true) : a &&& b = b := by
  apply ext_has
  intro i
  cases hb : b.has i with
  | false => simp [hb]
  | true => simp [hb, contains_iff.mp h i hb]

theorem and_xor_of_contains {a b : Mask} (h : a.contains b = true) : b &&& (a ^^^ b) = empty := by
  apply eq_empty_iff.mpr
  intro i
  cases hb : b.has i with
  | false => simp [hb]
  | true => simp [hb, contains_iff.mp h i hb]

end Mask

end ScreenKeyboard
