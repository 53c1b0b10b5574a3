import Mathlib.Data.List.Forall2
import Mathlib.Data.Nat.Digits.Defs
import Mathlib.Tactic.Ring
import ScreenKeyboard.Proofs.Text.Numeral

namespace ScreenKeyboard.Text

def AreDigits (base : Nat) (cs : List Char) (ds : List Nat) : Prop :=
  List.Forall₂ (fun c d => digitValue? c = some d ∧ d < base) cs ds

instance (base : Nat) (cs : List Char) (ds : List Nat) : Decidable (AreDigits base cs ds) :=
  inferInstanceAs (Decidable (List.Forall₂ _ cs ds))

/-- The characters are the digits of a number in this base, with any zeros in front. -/
def Spells (base : Nat) (cs : List Char) (n : Nat) : Prop :=
  cs ≠ [] ∧ ∃ ds, AreDigits base cs ds ∧ n = Nat.ofDigits base ds.reverse

theorem readDigits_eq_some_iff {base limit acc n : Nat} (hacc : acc ≤ limit) {cs : List Char} :
    readDigits base limit acc cs = some n ↔
      n ≤ limit ∧ ∃ ds, AreDigits base cs ds ∧
        n = acc * base ^ ds.length + Nat.ofDigits base ds.reverse := by
  induction cs generalizing acc with
  | nil =>
    rw [readDigits]
    constructor
    · intro h
      cases h
      exact ⟨hacc, [], .nil, by simp⟩
    · rintro ⟨_, ds, hds, rfl⟩
      cases hds
      simp
  | cons c cs ih =>
    have hvalue : ∀ d ds, acc * base ^ (d :: ds).length + Nat.ofDigits base (d :: ds).reverse =
        (acc * base + d) * base ^ ds.length + Nat.ofDigits base ds.reverse := by
      intro d ds
      rw [Nat.ofDigits_reverse_cons, List.length_cons]
      ring
    rw [readDigits]
    constructor
    · intro h
      split at h
      next d hd =>
        split at h
        next hok =>
          obtain ⟨hn, ds, hds, hv⟩ := (ih hok.2).mp h
          exact ⟨hn, d :: ds, .cons ⟨hd, hok.1⟩ hds, hv.trans (hvalue d ds).symm⟩
        next => cases h
      next => cases h
    · rintro ⟨hn, _, hds, hv⟩
      cases hds with
      | @cons _ d _ ds hd hds =>
        rw [hvalue] at hv
        have hpos : 0 < base ^ ds.length := Nat.pow_pos (by omega)
        have hle : acc * base + d ≤ limit := by
          have := Nat.le_mul_of_pos_right (acc * base + d) hpos
          omega
        simp only [hd.1, hd.2, hle, and_self, ↓reduceIte]
        exact (ih hle).mpr ⟨hn, ds, hds, hv⟩

theorem Spells.exists_digitValue? {base n : Nat} {cs : List Char} (h : Spells base cs n) {c : Char}
    (hc : c ∈ cs) : ∃ d, digitValue? c = some d := by
  obtain ⟨_, ds, hds, _⟩ := h
  obtain ⟨i, hi, rfl⟩ := List.mem_iff_getElem.mp hc
  have hi' : i < ds.length := List.Forall₂.length_eq hds ▸ hi
  exact ⟨ds[i], (List.Forall₂.get hds hi hi').1⟩

theorem spells_digits {base : Nat} (hb : 1 < base) (hb' : base ≤ 16) (n : Nat) :
    Spells base (digits base n) n := by
  have hread := readDigits_digits hb hb' (Nat.le_refl n)
  obtain ⟨_, ds, hds, hn⟩ := (readDigits_eq_some_iff (Nat.zero_le n)).mp hread
  rw [Nat.zero_mul, Nat.zero_add] at hn
  exact ⟨digits_ne_nil base n, ds, hds, hn⟩

theorem not_spells_plus (base : Nat) (cs : List Char) (n : Nat) : ¬Spells base ('+' :: cs) n := by
  rintro ⟨_, _, hds, _⟩
  cases hds with
  | cons hd _ => exact nomatch hd.1

/-- A numeral is one digit or more, for a number up to the limit, after at most one plus sign. -/
theorem readNumeral_eq_some_iff {base limit n : Nat} {cs : List Char} :
    readNumeral base limit cs = some n ↔
      n ≤ limit ∧ (Spells base cs n ∨ ∃ ds, cs = '+' :: ds ∧ Spells base ds n) := by
  have hread : ∀ c cs, readDigits base limit 0 (c :: cs) = some n ↔
      n ≤ limit ∧ Spells base (c :: cs) n := by
    intro c cs
    rw [readDigits_eq_some_iff (Nat.zero_le limit), Spells]
    simp
  have hnil : ¬Spells base [] n := fun h => h.1 rfl
  unfold readNumeral
  split
  next => simp [hnil]
  next => simp [not_spells_plus, hnil]
  next c cs =>
    rw [hread]
    simp [not_spells_plus]
  next c cs hone hplus =>
    have hne : c ≠ '+' := by
      rintro rfl
      cases cs with
      | nil => exact hone rfl rfl
      | cons d cs => exact hplus d cs rfl rfl
    rw [hread]
    simp [hne]

end ScreenKeyboard.Text
