import Mathlib.Data.List.Basic
import Mathlib.Data.List.TakeWhile
import Mathlib.Tactic.Common
import ScreenKeyboard.Text.Basic

namespace ScreenKeyboard.Text

def AreBlank (cs : List Char) : Prop :=
  ∀ c ∈ cs, isBlank c = true

instance (cs : List Char) : Decidable (AreBlank cs) :=
  List.decidableBAll (fun c => isBlank c = true) cs

/-- The text is empty, or has no blank at either end. -/
structure IsTrimmed (cs : List Char) : Prop where
  head : ∀ c ∈ cs.head?, isBlank c = false
  last : ∀ c ∈ cs.getLast?, isBlank c = false

theorem isTrimmed_of_forall {cs : List Char} (h : ∀ c ∈ cs, isBlank c = false) : IsTrimmed cs :=
  ⟨fun c hc => h c (List.mem_of_head? hc), fun c hc => h c (List.mem_of_getLast? hc)⟩

theorem IsTrimmed.append {before between after : List Char} (hb : IsTrimmed before)
    (ha : IsTrimmed after) (hne : before ≠ []) (hne' : after ≠ []) :
    IsTrimmed (before ++ between ++ after) := by
  constructor
  · rw [List.append_assoc, List.head?_append_of_ne_nil _ hne]
    exact hb.head
  · rw [List.getLast?_append_of_ne_nil _ hne']
    exact ha.last

theorem dropWhile_eq_self {cs : List Char} (h : ∀ c ∈ cs.head?, isBlank c = false) :
    cs.dropWhile isBlank = cs := by
  cases cs with
  | nil => rfl
  | cons c cs => rw [List.dropWhile_cons_of_neg (by simp [h c rfl])]

theorem IsTrimmed.trim_eq {cs : List Char} (h : IsTrimmed cs) : trim cs = cs := by
  have hr : ∀ c ∈ cs.reverse.head?, isBlank c = false := by
    rw [List.head?_reverse]
    exact h.last
  rw [trim, dropWhile_eq_self h.head, trimEnd, dropWhile_eq_self hr, List.reverse_reverse]

theorem trimEnd_append {cs post : List Char} (hpost : AreBlank post) :
    trimEnd (cs ++ post) = trimEnd cs := by
  have hp : AreBlank post.reverse := fun c hc => hpost c (List.mem_reverse.mp hc)
  rw [trimEnd, List.reverse_append, List.dropWhile_append_of_pos hp, trimEnd]

theorem trim_append {pre cs post : List Char} (hpre : AreBlank pre) (hpost : AreBlank post) :
    trim (pre ++ cs ++ post) = trim cs := by
  rw [trim, List.append_assoc, List.dropWhile_append_of_pos hpre, List.dropWhile_append, trim]
  split
  next h => rw [List.isEmpty_iff.mp h, List.dropWhile_eq_nil_iff.mpr hpost]
  next => exact trimEnd_append hpost

theorem exists_blanks_around (cs : List Char) :
    ∃ pre post, AreBlank pre ∧ AreBlank post ∧ cs = pre ++ trim cs ++ post := by
  have hpost : AreBlank ((cs.dropWhile isBlank).reverse.takeWhile isBlank).reverse := by
    intro c hc
    exact List.mem_takeWhile_imp (List.mem_reverse.mp hc)
  refine ⟨cs.takeWhile isBlank, _, fun _ hc => List.mem_takeWhile_imp hc, hpost, ?_⟩
  rw [trim, trimEnd, List.append_assoc, ← List.reverse_append, List.takeWhile_append_dropWhile,
    List.reverse_reverse, List.takeWhile_append_dropWhile]

theorem trim_eq_nil_iff {cs : List Char} : trim cs = [] ↔ AreBlank cs := by
  constructor
  · intro h
    rw [trim, trimEnd, List.reverse_eq_nil_iff, List.dropWhile_eq_nil_iff] at h
    apply List.dropWhile_eq_nil_iff.mp
    by_contra hne
    have hn := List.head_dropWhile_not isBlank hne
    have hb := h _ (List.mem_reverse.mpr (List.head_mem hne))
    exact absurd (hb.symm.trans hn) (by decide)
  · intro h
    have ht : trim (cs ++ [] ++ []) = trim [] := trim_append h (List.forall_mem_nil _)
    rwa [List.append_nil, List.append_nil] at ht

end ScreenKeyboard.Text
