import Mathlib.Data.List.Pairwise
import Mathlib.Tactic.Common
import ScreenKeyboard.Layout.Issue

namespace ScreenKeyboard.Issue

/-- An issue may stand before another: an error before a warning, or one with a path that is no
larger. -/
def MayPrecede (a b : Issue) : Prop :=
  (a.severity = .error ∧ b.severity = .warning) ∨ (a.severity = b.severity ∧ a.path ≤ b.path)

def isAlike (severity : Severity) (path : String) (issue : Issue) : Bool :=
  issue.severity == severity && issue.path == path

/-- A list is another one in order, where issues that are alike have kept their order. -/
structure IsSorting (sorted issues : List Issue) : Prop where
  perm : sorted.Perm issues
  ordered : sorted.Pairwise MayPrecede
  stable : ∀ severity path,
    sorted.filter (isAlike severity path) = issues.filter (isAlike severity path)

theorem precedes_iff {a b : Issue} : a.precedes b = true ↔ a.MayPrecede b := by
  unfold precedes MayPrecede
  cases a.severity <;> cases b.severity <;> simp

theorem MayPrecede.trans {a b c : Issue} (hab : a.MayPrecede b) (hbc : b.MayPrecede c) :
    a.MayPrecede c := by
  rcases hab with ⟨ha, hb⟩ | ⟨hab, hpath⟩
  · rcases hbc with ⟨hb', _⟩ | ⟨hbc, _⟩
    · exact nomatch hb.symm.trans hb'
    · exact Or.inl ⟨ha, hbc.symm.trans hb⟩
  · rcases hbc with ⟨hb, hc⟩ | ⟨hbc, hpath'⟩
    · exact Or.inl ⟨hab.trans hb, hc⟩
    · exact Or.inr ⟨hab.trans hbc, String.le_trans hpath hpath'⟩

theorem mayPrecede_total (a b : Issue) : a.MayPrecede b ∨ b.MayPrecede a := by
  unfold MayPrecede
  have hpath := String.le_total a.path b.path
  cases a.severity <;> cases b.severity <;> simp [hpath]

theorem mayPrecede_of_isAlike {severity : Severity} {path : String} {a b : Issue}
    (ha : a.isAlike severity path = true) (hb : b.isAlike severity path = true) : a.MayPrecede b := by
  simp only [isAlike, Bool.and_eq_true, beq_iff_eq] at ha hb
  have hpath : a.path = b.path := ha.2.trans hb.2.symm
  exact Or.inr ⟨ha.1.trans hb.1.symm, hpath ▸ String.le_refl a.path⟩

theorem precedes_trans (a b c : Issue) (hab : a.precedes b = true) (hbc : b.precedes c = true) :
    a.precedes c = true :=
  precedes_iff.mpr ((precedes_iff.mp hab).trans (precedes_iff.mp hbc))

theorem precedes_total (a b : Issue) : (a.precedes b || b.precedes a) = true := by
  rw [Bool.or_eq_true, precedes_iff, precedes_iff]
  exact mayPrecede_total a b

/-- A stable sort keeps the order of elements each of which may stand before the others. -/
theorem filter_mergeSort {α : Type} {le : α → α → Bool} {p : α → Bool}
    (htrans : ∀ a b c, le a b = true → le b c = true → le a c = true)
    (htotal : ∀ a b, (le a b || le b a) = true)
    (hp : ∀ a b, p a = true → p b = true → le a b = true) (l : List α) :
    (l.mergeSort le).filter p = l.filter p := by
  have hpairwise : (l.filter p).Pairwise fun a b => le a b = true := by
    apply List.pairwise_of_forall_mem_list
    intro a ha b hb
    exact hp a b (List.mem_filter.mp ha).2 (List.mem_filter.mp hb).2
  have hsublist := (List.sublist_mergeSort htrans htotal hpairwise List.filter_sublist).filter p
  rw [List.filter_filter] at hsublist
  simp only [Bool.and_self] at hsublist
  have hlength := ((List.mergeSort_perm l le).filter p).length_eq
  exact (hsublist.eq_of_length hlength.symm).symm

theorem isSorting_sort (issues : List Issue) : IsSorting (sort issues) issues where
  perm := List.mergeSort_perm issues precedes
  ordered := (List.pairwise_mergeSort precedes_trans precedes_total issues).imp precedes_iff.mp
  stable _ _ :=
    filter_mergeSort precedes_trans precedes_total
      (fun _ _ ha hb => precedes_iff.mpr (mayPrecede_of_isAlike ha hb)) issues

theorem IsSorting.pairwise_path {sorted issues : List Issue} (h : IsSorting sorted issues)
    {severity : Severity} (hs : ∀ issue ∈ issues, issue.severity = severity) :
    sorted.Pairwise fun a b => a.path ≤ b.path := by
  refine h.ordered.imp_of_mem ?_
  intro a b ha hb hab
  have ha' := hs a (h.perm.mem_iff.mp ha)
  have hb' := hs b (h.perm.mem_iff.mp hb)
  rcases hab with ⟨he, hw⟩ | ⟨_, hpath⟩
  · rw [ha'] at he
    rw [hb', he] at hw
    exact nomatch hw
  · exact hpath

end ScreenKeyboard.Issue
