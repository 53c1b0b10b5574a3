import Mathlib.Tactic.Common
import ScreenKeyboard.Text.Basic

namespace ScreenKeyboard.Text

theorem digitValue?_digitChar {d : Nat} (h : d < 16) : digitValue? (digitChar d) = some d := by
  revert h d
  decide

theorem digits_of_lt {base n : Nat} (h : n < base) : digits base n = [digitChar n] := by
  rw [digits, dif_neg (by omega)]

theorem digits_of_le {base n : Nat} (hb : 1 < base) (h : base ≤ n) :
    digits base n = digits base (n / base) ++ [digitChar (n % base)] := by
  rw [digits, dif_pos ⟨hb, h⟩]

theorem digits_ne_nil (base n : Nat) : digits base n ≠ [] := by
  rw [digits]
  split
  next => exact List.append_ne_nil_of_right_ne_nil _ (List.cons_ne_nil _ _)
  next => exact List.cons_ne_nil _ _

theorem exists_digitChar_of_mem {base n : Nat} (hb : 1 < base) {c : Char}
    (h : c ∈ digits base n) : ∃ d < base, c = digitChar d := by
  induction n using Nat.strongRecOn with
  | ind n ih =>
    rcases Nat.lt_or_ge n base with hn | hn
    · rw [digits_of_lt hn] at h
      exact ⟨n, hn, List.mem_singleton.mp h⟩
    · rw [digits_of_le hb hn] at h
      rcases List.mem_append.mp h with h | h
      · exact ih _ (Nat.div_lt_self (by omega) hb) h
      · exact ⟨n % base, Nat.mod_lt _ (by omega), List.mem_singleton.mp h⟩

theorem readDigits_append (base limit acc : Nat) (cs ds : List Char) :
    readDigits base limit acc (cs ++ ds) =
      (readDigits base limit acc cs).bind fun acc => readDigits base limit acc ds := by
  induction cs generalizing acc with
  | nil => rfl
  | cons c cs ih =>
    rw [List.cons_append, readDigits, readDigits]
    cases digitValue? c with
    | none => rfl
    | some d =>
      by_cases h : d < base ∧ acc * base + d ≤ limit
      · simp only [h, and_self, ↓reduceIte, ih]
      · simp only [h, ↓reduceIte, Option.bind_none]

theorem readDigits_digitChar {base limit acc d : Nat} (hb : base ≤ 16) (hd : d < base)
    (hl : acc * base + d ≤ limit) (cs : List Char) :
    readDigits base limit acc (digitChar d :: cs) = readDigits base limit (acc * base + d) cs := by
  have hv : digitValue? (digitChar d) = some d := digitValue?_digitChar (by omega)
  simp only [readDigits, hv, if_pos (show d < base ∧ acc * base + d ≤ limit from ⟨hd, hl⟩)]

theorem readDigits_digits {base limit n : Nat} (hb : 1 < base) (hb' : base ≤ 16) (hn : n ≤ limit) :
    readDigits base limit 0 (digits base n) = some n := by
  induction n using Nat.strongRecOn with
  | ind n ih =>
    rcases Nat.lt_or_ge n base with hlt | hle
    · rw [digits_of_lt hlt, readDigits_digitChar hb' hlt (by omega), Nat.zero_mul, Nat.zero_add]
      rfl
    · have hmod : n % base < base := Nat.mod_lt _ (by omega)
      have hdiv : n / base * base + n % base = n := Nat.div_add_mod' n base
      have hfirst := ih (n / base) (Nat.div_lt_self (by omega) hb)
        (Nat.le_trans (Nat.div_le_self n base) hn)
      rw [digits_of_le hb hle, readDigits_append, hfirst, Option.bind_some,
        readDigits_digitChar hb' hmod (by omega), hdiv]
      rfl

theorem digits_inj {base a b : Nat} (hb : 1 < base) (hb' : base ≤ 16)
    (h : digits base a = digits base b) : a = b := by
  have ha := readDigits_digits hb hb' (Nat.le_max_left a b)
  rw [h, readDigits_digits hb hb' (Nat.le_max_right a b)] at ha
  exact (Option.some.inj ha).symm

theorem readNumeral_digits {base limit n : Nat} (hb : 1 < base) (hb' : base ≤ 16) (hn : n ≤ limit) :
    readNumeral base limit (digits base n) = some n := by
  have hread := readDigits_digits hb hb' hn
  have hplus : '+' ∉ digits base n := by
    intro hm
    obtain ⟨d, hd, he⟩ := exists_digitChar_of_mem hb hm
    have hne : ∀ d < 16, '+' ≠ digitChar d := by decide
    exact hne d (by omega) he
  cases hcs : digits base n with
  | nil => exact absurd hcs (digits_ne_nil base n)
  | cons c cs =>
    rw [hcs] at hread hplus
    have hc : c ≠ '+' := fun he => hplus (he ▸ List.mem_cons_self)
    rw [readNumeral]
    · exact hread
    · rintro rfl
      exact absurd rfl hc
    · rintro _ _ rfl
      exact absurd rfl hc

end ScreenKeyboard.Text
