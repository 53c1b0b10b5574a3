import Mathlib.Tactic.Common
import ScreenKeyboard.Layout.Loading

namespace ScreenKeyboard

/-- The letter with which the text of a finding starts; it tells findings of different kinds apart.
-/
def Finding.initial : Finding → Char
  | noSections | unnamedLayout => 'L'
  | unnamedSection | sectionWithoutKeys _ | unnamedSymbol => 'S'
  | unnamedKey => 'K'
  | repeatedKeyName _ => 'D'
  | noToggleKey => 'N'
  | unknownOutline _ _ => 'O'
  | unknownKeysym _ => 'U'

theorem head?_toList_append {s : String} {c : Char} (h : s.toList.head? = some c) (t : String) :
    (s ++ t).toList.head? = some c := by
  rw [String.toList_append, List.head?_append, h]
  rfl

theorem Finding.head?_message (f : Finding) : f.message.toList.head? = some f.initial := by
  cases f with
  | noSections | unnamedLayout | unnamedSection | unnamedKey | noToggleKey | unnamedSymbol => decide
  | sectionWithoutKeys _ =>
    exact head?_toList_append (head?_toList_append (c := 'S') (by decide) _) _
  | repeatedKeyName _ =>
    exact head?_toList_append (head?_toList_append (c := 'D') (by decide) _) _
  | unknownOutline _ _ =>
    have h := head?_toList_append (s := "Outline ") (c := 'O') (by decide)
    exact head?_toList_append (head?_toList_append (head?_toList_append (h _) _) _) _
  | unknownKeysym _ =>
    exact head?_toList_append (head?_toList_append (c := 'U') (by decide) _) _

theorem Finding.message_eq_iff {f : Finding} : f.message = "No level toggle key" ↔ f = .noToggleKey := by
  constructor
  · intro h
    have hn : some f.initial = some 'N' := by
      rw [← f.head?_message, h]
      decide
    cases f with
    | noToggleKey => rfl
    | _ => simp [initial] at hn
  · rintro rfl
    rfl

theorem Finding.initial_eq_unknownKeysym {f : Finding} :
    f.initial = 'U' ↔ ∃ text, f = .unknownKeysym text := by
  cases f <;> simp [initial]

theorem Finding.initial_eq_repeatedKeyName {f : Finding} :
    f.initial = 'D' ↔ ∃ name, f = .repeatedKeyName name := by
  cases f <;> simp [initial]

theorem Finding.initial_eq_unknownOutline {f : Finding} :
    f.initial = 'O' ↔ ∃ outline count, f = .unknownOutline outline count := by
  cases f <;> simp [initial]

theorem Finding.message_eq_repeatedKeyName {name : String} {f : Finding} :
    f.message = "Duplicate key name '" ++ name ++ "'" ↔ f = .repeatedKeyName name := by
  constructor
  · intro h
    have hd : some f.initial = some 'D' := by
      rw [← f.head?_message, h]
      exact head?_toList_append (head?_toList_append (by decide) _) _
    obtain ⟨name', rfl⟩ := initial_eq_repeatedKeyName.mp (Option.some.inj hd)
    have hl : ("Duplicate key name '" ++ name' ++ "'").toList =
        ("Duplicate key name '" ++ name ++ "'").toList := congrArg String.toList h
    simp only [String.toList_append] at hl
    have hn := List.append_cancel_left (List.append_cancel_right hl)
    rw [String.toList_inj.mp hn]
  · rintro rfl
    rfl

namespace Layout

variable {layout : Layout}

theorem initial_nameFindings (layout : Layout) :
    ∀ entry ∈ layout.nameFindings, entry.1.initial ∈ ['L', 'S'] := by
  intro entry h
  unfold nameFindings at h
  rcases List.mem_append.mp h with h | h
  · split at h
    · cases List.mem_singleton.mp h
      decide
    · exact absurd h List.not_mem_nil
  · obtain ⟨_, _, h⟩ := List.mem_flatMap.mp h
    rcases List.mem_append.mp h with h | h
    all_goals
      split at h
      · cases List.mem_singleton.mp h
        exact List.mem_cons_of_mem _ List.mem_cons_self
      · exact absurd h List.not_mem_nil

theorem initial_keyFindings (seen : List String) (keys : List (KeyId × KeyLayout)) :
    ∀ entry ∈ keyFindings seen keys, entry.1.initial ∈ ['K', 'D'] := by
  fun_induction keyFindings seen keys with
  | case1 => nofun
  | case2 _ _ _ _ _ ih => exact List.forall_mem_cons.mpr ⟨List.mem_cons_self, ih⟩
  | case3 _ _ _ _ _ _ ih =>
    exact List.forall_mem_cons.mpr ⟨List.mem_cons_of_mem _ List.mem_cons_self, ih⟩
  | case4 _ _ _ _ _ _ ih => exact ih

theorem initial_toggleFindings (layout : Layout) :
    ∀ entry ∈ layout.toggleFindings, entry.1.initial ∈ ['N'] := by
  unfold toggleFindings
  split
  · nofun
  · simp [Finding.initial]

theorem initial_outlineFindings (layout : Layout) :
    ∀ entry ∈ layout.outlineFindings, entry.1.initial ∈ ['O'] := by
  unfold outlineFindings
  extract_lets count
  split
  · nofun
  · intro entry h
    obtain ⟨⟨id, key⟩, _, he⟩ := List.mem_filterMap.mp h
    dsimp only at he
    split at he
    · exact nomatch he
    · cases he
      exact List.mem_cons_self

theorem initial_slotFindings (layout : Layout) :
    ∀ entry ∈ layout.slotFindings, entry.1.initial ∈ ['U', 'S'] := by
  intro entry h
  obtain ⟨⟨place, slot⟩, _, he⟩ := List.mem_filterMap.mp h
  obtain ⟨f, hf, rfl⟩ := Option.map_eq_some_iff.mp he
  cases slot with
  | keysym text face category =>
    simp only [Slot.finding?, Option.ite_none_right_eq_some, Option.some.injEq] at hf
    exact hf.2 ▸ List.mem_cons_self
  | custom name face category modifiers =>
    simp only [Slot.finding?, Option.ite_none_right_eq_some, Option.some.injEq] at hf
    exact hf.2 ▸ List.mem_cons_of_mem _ List.mem_cons_self

theorem filter_initial_eq_nil {entries : List (Finding × Place)} {letters : List Char} {c : Char}
    (h : ∀ entry ∈ entries, entry.1.initial ∈ letters) (hc : c ∉ letters) :
    (entries.filter fun entry => entry.1.initial == c) = [] := by
  rw [List.filter_eq_nil_iff]
  intro entry hm he
  exact hc (beq_iff_eq.mp he ▸ h entry hm)

theorem filter_findings_unknownKeysym (layout : Layout) :
    (layout.findings.filter fun entry => entry.1.initial == 'U') =
      layout.slotFindings.filter fun entry => entry.1.initial == 'U' := by
  simp only [findings, List.filter_append,
    filter_initial_eq_nil (c := 'U') (initial_nameFindings _) (by decide),
    filter_initial_eq_nil (c := 'U') (initial_keyFindings _ _) (by decide),
    filter_initial_eq_nil (c := 'U') (initial_toggleFindings _) (by decide),
    filter_initial_eq_nil (c := 'U') (initial_outlineFindings _) (by decide), List.nil_append]

theorem filter_findings_repeatedKeyName (layout : Layout) :
    (layout.findings.filter fun entry => entry.1.initial == 'D') =
      (keyFindings [] layout.keys).filter fun entry => entry.1.initial == 'D' := by
  simp only [findings, List.filter_append,
    filter_initial_eq_nil (c := 'D') (initial_nameFindings _) (by decide),
    filter_initial_eq_nil (c := 'D') (initial_toggleFindings _) (by decide),
    filter_initial_eq_nil (c := 'D') (initial_outlineFindings _) (by decide),
    filter_initial_eq_nil (c := 'D') (initial_slotFindings _) (by decide), List.nil_append,
    List.append_nil]

theorem filter_findings_unknownOutline (layout : Layout) :
    (layout.findings.filter fun entry => entry.1.initial == 'O') =
      layout.outlineFindings.filter fun entry => entry.1.initial == 'O' := by
  simp only [findings, List.filter_append,
    filter_initial_eq_nil (c := 'O') (initial_nameFindings _) (by decide),
    filter_initial_eq_nil (c := 'O') (initial_keyFindings _ _) (by decide),
    filter_initial_eq_nil (c := 'O') (initial_toggleFindings _) (by decide),
    filter_initial_eq_nil (c := 'O') (initial_slotFindings _) (by decide), List.nil_append,
    List.append_nil]

theorem exists_split_cons {α : Type} {a : α} {l : List α} {P : List α → α → Prop} :
    (∃ before b after, a :: l = before ++ b :: after ∧ P before b) ↔
      P [] a ∨ ∃ before b after, l = before ++ b :: after ∧ P (a :: before) b := by
  constructor
  · rintro ⟨_ | ⟨_, before⟩, b, after, he, hp⟩
    · cases he
      exact Or.inl hp
    · cases he
      exact Or.inr ⟨before, b, after, rfl, hp⟩
  · rintro (hp | ⟨before, b, after, rfl, hp⟩)
    · exact ⟨[], a, l, rfl, hp⟩
    · exact ⟨a :: before, b, after, rfl, hp⟩

/-- A name is repeated where it is not empty and was seen, or is that of a key before. -/
theorem mem_keyFindings_repeated {seen : List String} {keys : List (KeyId × KeyLayout)}
    {name : String} {place : Place} :
    (.repeatedKeyName name, place) ∈ keyFindings seen keys ↔
      ∃ before e after, keys = before ++ e :: after ∧ e.2.name = name ∧ place = .keyName e.1 ∧
        name ≠ "" ∧ (name ∈ seen ∨ ∃ e' ∈ before, e'.2.name = name) := by
  fun_induction keyFindings seen keys with
  | case1 => simp
  | case2 seen id key rest hn ih =>
    have he : key.name = "" := String.isEmpty_iff.mp hn
    rw [exists_split_cons, List.mem_cons, ih]
    grind
  | case3 seen id key rest hn hs ih =>
    have hm : key.name ∈ seen := List.contains_iff_mem.mp hs
    have hne : key.name ≠ "" := fun he => hn (String.isEmpty_iff.mpr he)
    rw [exists_split_cons, List.mem_cons, ih]
    grind
  | case4 seen id key rest hn hs ih =>
    have hm : key.name ∉ seen := fun hm => hs (List.contains_iff_mem.mpr hm)
    rw [exists_split_cons, ih]
    simp only [List.mem_cons]
    grind

theorem mem_toggleFindings {f : Finding} {place : Place} :
    (f, place) ∈ layout.toggleFindings ↔
      (∀ key ∈ layout.keys, key.2.name ≠ toggleKeyName) ∧ f = .noToggleKey ∧ place = .sections := by
  unfold toggleFindings
  split
  next h =>
    obtain ⟨key, hk, he⟩ := List.any_eq_true.mp h
    exact iff_of_false List.not_mem_nil fun hall => hall.1 key hk (beq_iff_eq.mp he)
  next h =>
    have hall : ∀ key ∈ layout.keys, key.2.name ≠ toggleKeyName := fun key hk he =>
      h (List.any_eq_true.mpr ⟨key, hk, beq_iff_eq.mpr he⟩)
    rw [and_iff_right hall]
    simp

theorem mem_findings_noToggleKey {place : Place} :
    (.noToggleKey, place) ∈ layout.findings ↔
      (∀ key ∈ layout.keys, key.2.name ≠ toggleKeyName) ∧ place = .sections := by
  have hnot : ∀ {entries : List (Finding × Place)} {letters : List Char},
      (∀ entry ∈ entries, entry.1.initial ∈ letters) → 'N' ∉ letters →
        (.noToggleKey, place) ∉ entries := fun h hc hm => hc (h _ hm)
  have hname := hnot layout.initial_nameFindings (by decide)
  have hkey := hnot (initial_keyFindings [] layout.keys) (by decide)
  have houtline := hnot layout.initial_outlineFindings (by decide)
  have hslot := hnot layout.initial_slotFindings (by decide)
  simp only [findings, List.mem_append, hname, hkey, houtline, hslot, false_or, or_false,
    mem_toggleFindings, true_and]

theorem eq_of_validate {layout : Layout} {loaded : LoadedLayout} (h : layout.validate = .ok loaded) :
    layout.sections ≠ [] ∧ loaded = { layout, warnings := Issue.sort layout.warnings } := by
  unfold validate at h
  split at h
  next => exact nomatch h
  next hsections =>
    split at h
    next => exact nomatch h
    next => exact ⟨fun he => hsections (he ▸ rfl), (Except.ok.inj h).symm⟩

theorem warnings_of_validate {layout : Layout} {loaded : LoadedLayout}
    (h : layout.validate = .ok loaded) : loaded.warnings = Issue.sort layout.warnings := by
  obtain ⟨_, rfl⟩ := eq_of_validate h
  rfl

theorem warns_noToggleKey_iff {layout : Layout} {loaded : LoadedLayout}
    (h : layout.validate = .ok loaded) :
    (∃ issue ∈ loaded.warnings, issue.message = "No level toggle key") ↔
      ∀ key ∈ layout.keys, key.2.name ≠ toggleKeyName := by
  rw [warnings_of_validate h, Issue.sort]
  constructor
  · rintro ⟨issue, hi, he⟩
    obtain ⟨⟨finding, place⟩, hm, rfl⟩ := List.mem_map.mp (List.mem_mergeSort.mp hi)
    have hf : finding = .noToggleKey := Finding.message_eq_iff.mp he
    exact (mem_findings_noToggleKey.mp (hf ▸ hm)).1
  · intro hn
    have hm := mem_findings_noToggleKey.mpr ⟨hn, rfl⟩
    exact ⟨_, List.mem_mergeSort.mpr (List.mem_map_of_mem hm), rfl⟩

end Layout

end ScreenKeyboard
