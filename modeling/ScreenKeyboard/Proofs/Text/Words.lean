import ScreenKeyboard.Proofs.Text.Blank

namespace ScreenKeyboard.Text

/-- The text has these parts in their order, and a gap between each and the next. -/
inductive Separated (gap : List Char → Prop) : List (List Char) → List Char → Prop
  | nil : Separated gap [] []
  | single (part : List Char) : Separated gap [part] part
  | cons {part between next text : List Char} {rest : List (List Char)} :
    gap between → Separated gap (next :: rest) text →
      Separated gap (part :: next :: rest) (part ++ between ++ text)

def IsGap (gap : List Char) : Prop :=
  gap ≠ [] ∧ AreBlank gap

instance (gap : List Char) : Decidable (IsGap gap) :=
  inferInstanceAs (Decidable (gap ≠ [] ∧ AreBlank gap))

def IsWord (word : List Char) : Prop :=
  word ≠ [] ∧ ∀ c ∈ word, isBlank c = false

namespace Separated

variable {gap : List Char → Prop} {parts : List (List Char)} {text : List Char}

theorem intercalate {between : List Char} (hg : gap between) (parts : List (List Char)) :
    Separated gap parts (between.intercalate parts) := by
  induction parts with
  | nil => exact .nil
  | cons part parts ih =>
    cases parts with
    | nil =>
      rw [List.intercalate_singleton]
      exact .single part
    | cons next parts =>
      rw [List.intercalate_cons_cons]
      exact .cons hg ih

theorem not_mem {c : Char} (h : Separated gap parts text) (hparts : ∀ part ∈ parts, c ∉ part)
    (hgap : ∀ between, gap between → c ∉ between) : c ∉ text := by
  induction h with
  | nil => exact List.not_mem_nil
  | single part => exact hparts part List.mem_cons_self
  | cons hg _ ih =>
    have hrest := ih fun part hm => hparts part (List.mem_cons_of_mem _ hm)
    simp only [List.mem_append, not_or]
    exact ⟨⟨hparts _ List.mem_cons_self, hgap _ hg⟩, hrest⟩

theorem isTrimmed (h : Separated gap parts text) (hparts : ∀ part ∈ parts, part ≠ [] ∧ IsTrimmed part) :
    IsTrimmed text ∧ (parts ≠ [] → text ≠ []) := by
  induction h with
  | nil => exact ⟨isTrimmed_of_forall (List.forall_mem_nil _), absurd rfl⟩
  | single part =>
    obtain ⟨hne, ht⟩ := hparts part List.mem_cons_self
    exact ⟨ht, fun _ => hne⟩
  | cons _ _ ih =>
    obtain ⟨hne, ht⟩ := hparts _ List.mem_cons_self
    obtain ⟨ht', hne'⟩ := ih fun part hm => hparts part (List.mem_cons_of_mem _ hm)
    have htext := hne' (List.cons_ne_nil _ _)
    exact ⟨ht.append ht' hne htext, fun _ => List.append_ne_nil_of_right_ne_nil _ htext⟩

end Separated

theorem IsWord.isTrimmed {word : List Char} (h : IsWord word) : IsTrimmed word :=
  isTrimmed_of_forall h.2

theorem IsWord.not_mem {word : List Char} {c : Char} (h : IsWord word) (hc : isBlank c = true) :
    c ∉ word := by
  intro hm
  exact absurd (hc.symm.trans (h.2 c hm)) (by decide)

theorem words_word {word : List Char} (h : IsWord word) : words word = [word] := by
  have hne : word.isEmpty = false := List.isEmpty_eq_false_iff.mpr h.1
  rw [words, List.splitOnP_eq_singleton h.2, List.filter_cons_of_pos (by simp [hne])]
  rfl

theorem words_blanks {blanks : List Char} (h : AreBlank blanks) (cs : List Char) :
    words (blanks ++ cs) = words cs := by
  induction blanks with
  | nil => rfl
  | cons c blanks ih =>
    obtain ⟨hc, h⟩ := List.forall_mem_cons.mp h
    rw [List.cons_append, words, List.splitOnP_cons_eq_if_modifyHead, if_pos hc,
      List.filter_cons_of_neg (by decide)]
    exact ih h

theorem words_append {word between : List Char} (hw : IsWord word) (hg : IsGap between)
    (cs : List Char) : words (word ++ between ++ cs) = word :: words cs := by
  have hne : word.isEmpty = false := List.isEmpty_eq_false_iff.mpr hw.1
  cases between with
  | nil => exact absurd rfl hg.1
  | cons b blanks =>
    obtain ⟨hb, hblanks⟩ := List.forall_mem_cons.mp hg.2
    rw [List.append_assoc, List.cons_append, words, List.splitOnP_append_cons_of_forall_mem hw.2 b hb,
      List.filter_cons_of_pos (by simp [hne])]
    exact congrArg (word :: ·) (words_blanks hblanks cs)

theorem Separated.words {parts : List (List Char)} {text : List Char} (h : Separated IsGap parts text)
    (hparts : ∀ part ∈ parts, IsWord part) : words text = parts := by
  induction h with
  | nil => rfl
  | single part => exact words_word (hparts part List.mem_cons_self)
  | cons hg _ ih =>
    obtain ⟨hpart, hrest⟩ := List.forall_mem_cons.mp hparts
    rw [words_append hpart hg, ih hrest]

/-- The first word of a text, and what is left of it. -/
theorem Separated.cut {word text : List Char} {parts : List (List Char)}
    (h : Separated IsGap (word :: parts) text) (hw : IsWord word)
    (hparts : ∀ part ∈ parts, part ≠ [] ∧ IsTrimmed part) :
    beforeBlank text = word ∧ Separated IsGap parts (trim (afterBlank text)) := by
  have hword : ∀ c ∈ word, (!isBlank c) = true := fun c hc => by simp [hw.2 c hc]
  cases h with
  | single =>
    refine ⟨List.takeWhile_eq_self_iff.mpr hword, ?_⟩
    rw [afterBlank, List.dropWhile_eq_nil_iff.mpr hword]
    exact .nil
  | @cons _ between next rest _ hg hrest =>
    cases between with
    | nil => exact absurd rfl hg.1
    | cons b blanks =>
      obtain ⟨hb, hblanks⟩ := List.forall_mem_cons.mp hg.2
      have htrim : trim (blanks ++ rest) = rest := by
        have ht : trim (blanks ++ rest ++ []) = trim rest :=
          trim_append hblanks (List.forall_mem_nil _)
        rwa [List.append_nil, (hrest.isTrimmed hparts).1.trim_eq] at ht
      rw [beforeBlank, afterBlank, List.append_assoc, List.takeWhile_append_of_pos hword,
        List.dropWhile_append_of_pos hword, List.cons_append,
        List.takeWhile_cons_of_neg (by simp [hb]), List.dropWhile_cons_of_neg (by simp [hb]),
        List.append_nil]
      refine ⟨rfl, ?_⟩
      rw [List.drop_succ_cons, List.drop_zero, htrim]
      exact hrest

end ScreenKeyboard.Text
