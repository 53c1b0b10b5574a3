import Mathlib.Data.List.Forall2
import ScreenKeyboard.Layout.Loading

namespace ScreenKeyboard.BuiltIn

/-- The characters of the lines, and what loading makes of them. The literals are matched with lists
of characters first, so that loading does not have to take them from encoded text. -/
theorem exists_chars_usLines :
    ∃ css, List.Forall₂ (fun line cs => line = String.ofList cs) usLines css ∧
      ∀ text : String, text.toList = css.flatMap (· ++ ['\n']) → (Layout.load text).isOk := by
  apply Exists.intro
  constructor
  · unfold usLines
    dsimp only
    repeat' constructor
  · intro text h
    rw [Layout.load, Layout.ofText, Document.ofText, Token.ofText, h]
    decide +kernel

theorem toList_usText {css : List (List Char)}
    (h : List.Forall₂ (fun line cs => line = String.ofList cs) usLines css) :
    usText.toList = css.flatMap (· ++ ['\n']) := by
  have hlines : usLines = css.map String.ofList := by
    rwa [← List.forall₂_eq_eq_eq, List.forall₂_map_right_iff]
  rw [usText, String.toList_ofList, hlines, List.flatMap_map]
  simp only [String.toList_ofList]

theorem exists_load_usText : ∃ loaded, Layout.load usText = .ok loaded := by
  obtain ⟨css, hcss, hload⟩ := exists_chars_usLines
  have hok := hload usText (toList_usText hcss)
  cases h : Layout.load usText with
  | error error =>
    rw [h] at hok
    exact nomatch hok
  | ok loaded => exact ⟨loaded, rfl⟩

end ScreenKeyboard.BuiltIn
