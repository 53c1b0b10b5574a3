import Mathlib.Data.List.Perm.Basic
import ScreenKeyboard.Proofs.Layout.Findings
import ScreenKeyboard.Proofs.Layout.Places

namespace ScreenKeyboard

def Issue.opensWith (words : String) (issue : Issue) : Bool :=
  words.toList.isPrefixOf issue.message.toList

def LoadedLayout.reported (loaded : LoadedLayout) (words : String) : List String :=
  (loaded.warnings.filter (Issue.opensWith words)).map Issue.path

/-- The slot does not ask for a keysym whose name cannot be looked up. -/
def Slot.HasPlainKeysym : Slot → Prop
  | .keysym text _ _ => '\x00' ∉ text.toList
  | .custom _ _ _ _ => True

def Layout.HasPlainKeysyms (layout : Layout) : Prop :=
  ∀ slot ∈ layout.slots, slot.2.HasPlainKeysym

instance (slot : Slot) : Decidable slot.HasPlainKeysym :=
  match slot with
  | .keysym text _ _ => inferInstanceAs (Decidable ('\x00' ∉ text.toList))
  | .custom _ _ _ _ => isTrue trivial

instance (layout : Layout) : Decidable layout.HasPlainKeysyms :=
  inferInstanceAs (Decidable (∀ slot ∈ layout.slots, slot.2.HasPlainKeysym))

theorem Slot.HasPlainKeysym.refusedKeysym?_eq {slot : Slot} (h : slot.HasPlainKeysym) :
    slot.refusedKeysym? = none := by
  cases slot with
  | keysym text face category =>
    have hn : Keysym.isUnaskable text = false := by
      rw [Keysym.isUnaskable, List.contains_eq_mem, decide_eq_false_iff_not]
      exact h
    simp [refusedKeysym?, Keysym.isRefused, hn]
  | custom name face category modifiers => rfl

/-- A slot is warned of as an unknown keysym just where it makes no symbol. -/
theorem Slot.exists_unknownKeysym_iff {slot : Slot} :
    (∃ text, slot.finding? = some (.unknownKeysym text)) ↔ slot.symbol? = none := by
  cases slot with
  | keysym text face category =>
    rw [symbol?, Option.map_eq_none_iff, Symbol.ofKeysym?, finding?]
    cases Keysym.parse? text <;> simp
  | custom name face category modifiers =>
    rw [symbol?, finding?]
    split
    all_goals simp

namespace Finding

/-- Words that all findings with their first letter start with are said by no other. -/
theorem opensWith_issue {words : String} {c : Char} (hc : words.toList.head? = some c)
    (hw : ∀ f : Finding, f.initial = c → words.toList <+: f.message.toList) (f : Finding)
    (severity : Severity) (path : String) :
    (f.issue severity path).opensWith words = (f.initial == c) := by
  rw [Bool.eq_iff_iff, beq_iff_eq, Issue.opensWith, List.isPrefixOf_iff_prefix]
  refine ⟨?_, hw f⟩
  rintro ⟨rest, hr⟩
  have hh : (words.toList ++ rest).head? = some f.initial := hr ▸ f.head?_message
  rw [List.head?_append, hc] at hh
  exact (Option.some.inj hh).symm

theorem prefix_toList_append {words s : String} (h : words.toList <+: s.toList) (t : String) :
    words.toList <+: (s ++ t).toList := by
  rw [String.toList_append]
  exact h.trans (List.prefix_append _ _)

end Finding

namespace Layout

variable {layout : Layout} {loaded : LoadedLayout}

theorem map_filterMap_sublist {α β γ : Type} {l : List α} {f : α → Option β} {g : β → γ} {h : α → γ}
    (hf : ∀ a b, f a = some b → g b = h a) : ((l.filterMap f).map g).Sublist (l.map h) := by
  induction l with
  | nil => exact List.Sublist.slnil
  | cons a l ih =>
    rw [List.filterMap_cons]
    split
    next => exact ih.cons _
    next b hb =>
      rw [List.map_cons, hf a b hb]
      exact ih.cons_cons _

theorem nodup_path_slotFindings (layout : Layout) :
    (layout.slotFindings.map fun entry => entry.2.path).Nodup := by
  have hs : (layout.slots.map fun entry => entry.1.path).Nodup := by
    suffices hp : ((layout.slots.map Prod.fst).map Place.path).Nodup by rwa [List.map_map] at hp
    apply (nodup_slots layout).map_on
    intro place hm place' hm' he
    obtain ⟨⟨_, slot⟩, hs, rfl⟩ := List.mem_map.mp hm
    obtain ⟨⟨_, slot'⟩, hs', rfl⟩ := List.mem_map.mp hm'
    obtain ⟨id, group, level, _, rfl, _⟩ := mem_slots.mp hs
    obtain ⟨id', group', level', _, rfl, _⟩ := mem_slots.mp hs'
    obtain ⟨rfl, rfl, rfl⟩ := Place.path_slot_inj he
    rfl
  apply hs.sublist (map_filterMap_sublist _)
  rintro ⟨place, slot⟩ entry he
  obtain ⟨_, _, rfl⟩ := Option.map_eq_some_iff.mp he
  rfl

theorem keyFindings_sublist (seen : List String) (keys : List (KeyId × KeyLayout)) :
    ((keyFindings seen keys).map Prod.snd).Sublist (keys.map fun entry => .keyName entry.1) := by
  fun_induction keyFindings seen keys with
  | case1 => exact List.Sublist.slnil
  | case2 _ _ _ _ _ ih => exact ih.cons_cons _
  | case3 _ _ _ _ _ _ ih => exact ih.cons_cons _
  | case4 _ _ _ _ _ _ ih => exact ih.cons _

theorem nodup_path_keyFindings (layout : Layout) :
    ((keyFindings [] layout.keys).map fun entry => entry.2.path).Nodup := by
  have hk := layout.nodup_map_keys (fun id => (Place.keyName id).path)
    fun _ _ he => Place.path_keyName_inj he
  have hs := (keyFindings_sublist [] layout.keys).map Place.path
  rw [List.map_map, List.map_map] at hs
  exact hk.sublist hs

theorem nodup_path_outlineFindings (layout : Layout) :
    (layout.outlineFindings.map fun entry => entry.2.path).Nodup := by
  have hk := layout.nodup_map_keys (fun id => (Place.keyOutline id).path)
    fun _ _ he => Place.path_keyOutline_inj he
  unfold outlineFindings
  extract_lets count
  split
  · exact List.nodup_nil
  · apply hk.sublist (map_filterMap_sublist _)
    rintro ⟨id, key⟩ entry he
    dsimp only at he
    split at he
    · exact nomatch he
    · cases he
      rfl

theorem perm_reported (h : layout.validate = .ok loaded) {words : String} {c : Char}
    (hc : words.toList.head? = some c)
    (hw : ∀ f : Finding, f.initial = c → words.toList <+: f.message.toList) :
    (loaded.reported words).Perm
      ((layout.findings.filter fun entry => entry.1.initial == c).map fun entry => entry.2.path) := by
  have hp := ((List.mergeSort_perm layout.warnings Issue.precedes).filter (Issue.opensWith words)).map
    Issue.path
  have hf : layout.warnings.filter (Issue.opensWith words) =
      (layout.findings.filter fun entry => entry.1.initial == c).map
        fun entry => entry.1.issue .warning entry.2.path := by
    rw [warnings, List.filter_map]
    congr 1
    apply List.filter_congr
    intro entry _
    exact Finding.opensWith_issue hc hw entry.1 .warning entry.2.path
  rw [hf, List.map_map] at hp
  rw [LoadedLayout.reported, warnings_of_validate h]
  exact hp

theorem nodup_of_perm_filter {paths : List String} {entries : List (Finding × Place)}
    {p : Finding × Place → Bool}
    (h : paths.Perm ((entries.filter p).map fun entry => entry.2.path))
    (hn : (entries.map fun entry => entry.2.path).Nodup) : paths.Nodup :=
  h.nodup_iff.mpr (hn.sublist (List.filter_sublist.map _))

theorem perm_reported_unknownKeysym (h : layout.validate = .ok loaded) :
    (loaded.reported "Unknown keysym").Perm
      ((layout.slotFindings.filter fun entry => entry.1.initial == 'U').map
        fun entry => entry.2.path) := by
  rw [← filter_findings_unknownKeysym]
  apply perm_reported h (by decide)
  intro f hf
  obtain ⟨text, rfl⟩ := Finding.initial_eq_unknownKeysym.mp hf
  exact Finding.prefix_toList_append (Finding.prefix_toList_append (by decide) _) _

theorem perm_reported_repeatedKeyName (h : layout.validate = .ok loaded) :
    (loaded.reported "Duplicate key name").Perm
      (((keyFindings [] layout.keys).filter fun entry => entry.1.initial == 'D').map
        fun entry => entry.2.path) := by
  rw [← filter_findings_repeatedKeyName]
  apply perm_reported h (by decide)
  intro f hf
  obtain ⟨name, rfl⟩ := Finding.initial_eq_repeatedKeyName.mp hf
  exact Finding.prefix_toList_append (Finding.prefix_toList_append (by decide) _) _

theorem perm_reported_unknownOutline (h : layout.validate = .ok loaded) :
    (loaded.reported "Outline").Perm
      ((layout.outlineFindings.filter fun entry => entry.1.initial == 'O').map
        fun entry => entry.2.path) := by
  rw [← filter_findings_unknownOutline]
  apply perm_reported h (by decide)
  intro f hf
  obtain ⟨outline, count, rfl⟩ := Finding.initial_eq_unknownOutline.mp hf
  have hp : ∀ t, "Outline".toList <+: ("Outline " ++ t).toList :=
    Finding.prefix_toList_append (by decide)
  exact Finding.prefix_toList_append
    (Finding.prefix_toList_append (Finding.prefix_toList_append (hp _) _) _) _

theorem mem_reported_unknownKeysym (h : layout.validate = .ok loaded) {path : String} :
    path ∈ loaded.reported "Unknown keysym" ↔ ∃ id group level d slot,
      path = (Place.slot id group level).path ∧ layout.key? id = some d ∧
        d.slot? group level = some slot ∧ slot.symbol? = none := by
  rw [(perm_reported_unknownKeysym h).mem_iff]
  simp only [List.mem_map, List.mem_filter, beq_iff_eq, Prod.exists, slotFindings, List.mem_filterMap,
    Option.map_eq_some_iff, Prod.mk.injEq, Finding.initial_eq_unknownKeysym]
  constructor
  · rintro ⟨_, _, ⟨⟨place, slot, hs, _, hf, rfl, rfl⟩, text, rfl⟩, rfl⟩
    obtain ⟨id, group, level, d, rfl, hd, hg⟩ := mem_slots.mp hs
    exact ⟨id, group, level, d, slot, rfl, hd, hg, Slot.exists_unknownKeysym_iff.mp ⟨text, hf⟩⟩
  · rintro ⟨id, group, level, d, slot, rfl, hd, hg, hn⟩
    obtain ⟨text, hf⟩ := Slot.exists_unknownKeysym_iff.mpr hn
    have hs := mem_slots.mpr ⟨id, group, level, d, rfl, hd, hg⟩
    exact ⟨_, _, ⟨⟨_, slot, hs, _, hf, rfl, rfl⟩, text, rfl⟩, rfl⟩

theorem mem_reported_repeatedKeyName (h : layout.validate = .ok loaded) {path : String} :
    path ∈ loaded.reported "Duplicate key name" ↔ ∃ before e after,
      path = (Place.keyName e.1).path ∧ layout.keys = before ++ e :: after ∧ e.2.name ≠ "" ∧
        ∃ e' ∈ before, e'.2.name = e.2.name := by
  rw [(perm_reported_repeatedKeyName h).mem_iff]
  simp only [List.mem_map, List.mem_filter, beq_iff_eq, Finding.initial_eq_repeatedKeyName]
  constructor
  · rintro ⟨⟨_, place⟩, ⟨hm, name, rfl⟩, rfl⟩
    obtain ⟨before, e, after, hk, rfl, rfl, hn, hs⟩ := mem_keyFindings_repeated.mp hm
    exact ⟨before, e, after, rfl, hk, hn, hs.resolve_left List.not_mem_nil⟩
  · rintro ⟨before, e, after, rfl, hk, hn, hs⟩
    have hm : (.repeatedKeyName e.2.name, .keyName e.1) ∈ keyFindings [] layout.keys :=
      mem_keyFindings_repeated.mpr ⟨before, e, after, hk, rfl, rfl, hn, Or.inr hs⟩
    exact ⟨_, ⟨hm, _, rfl⟩, rfl⟩

theorem mem_reported_unknownOutline (h : layout.validate = .ok loaded) (ho : layout.outlines ≠ [])
    {path : String} :
    path ∈ loaded.reported "Outline" ↔ ∃ id d, path = (Place.keyOutline id).path ∧
      layout.key? id = some d ∧ layout.outlines[d.outline.toNat]? = none := by
  have hl : layout.outlines.length ≠ 0 := fun hl => ho (List.length_eq_zero_iff.mp hl)
  rw [(perm_reported_unknownOutline h).mem_iff]
  simp only [outlineFindings, if_neg hl, List.mem_map, List.mem_filter, beq_iff_eq,
    List.mem_filterMap, Prod.exists, Option.ite_none_left_eq_some, Option.some.injEq, Prod.mk.injEq,
    ← key?_eq_some, List.getElem?_eq_none_iff, Nat.not_lt]
  constructor
  · rintro ⟨_, _, ⟨⟨id, d, hd, hn, rfl, rfl⟩, _⟩, rfl⟩
    exact ⟨id, d, rfl, hd, hn⟩
  · rintro ⟨id, d, rfl, hd, hn⟩
    exact ⟨_, _, ⟨⟨id, d, hd, hn, rfl, rfl⟩, rfl⟩, rfl⟩

/-- Of keys with ids of their own, one repeats another just where the first is not the last. -/
theorem exists_repeat_iff {α : Type} {l : List α} (hl : l.Nodup) {p : α → Bool} :
    (∃ before a after, l = before ++ a :: after ∧ p a = true ∧ ∃ b ∈ before, p b = true) ↔
      ∃ a, l.find? p = some a ∧ (l.filter p).getLast? ≠ some a := by
  constructor
  · rintro ⟨before, a, after, rfl, ha, b, hb, hp⟩
    obtain ⟨c, hc⟩ := Option.isSome_iff_exists.mp (List.find?_isSome.mpr ⟨b, hb, hp⟩)
    refine ⟨c, by rw [List.find?_append, hc]; rfl, ?_⟩
    rw [List.filter_append, List.filter_cons_of_pos ha, List.getLast?_append_cons]
    intro he
    -- The first is before `a`, but the last is `a` or after it.
    have hm : c ∈ a :: after := (List.filter_sublist.cons_cons a).mem (List.mem_of_getLast? he)
    exact (List.nodup_append.mp hl).2.2 c (List.mem_of_find?_eq_some hc) c hm rfl
  · rintro ⟨a, ha, hne⟩
    obtain ⟨hp, before, after, rfl, hb⟩ := List.find?_eq_some_iff_append.mp ha
    have hf : before.filter p = [] := List.filter_eq_nil_iff.mpr fun b hm => by simpa using hb b hm
    rw [List.filter_append, hf, List.nil_append, List.filter_cons_of_pos hp] at hne
    have hr : after.filter p ≠ [] := fun hr => hne (by rw [hr]; rfl)
    obtain ⟨b, hm⟩ := List.exists_mem_of_ne_nil _ hr
    obtain ⟨hm, hpb⟩ := List.mem_filter.mp hm
    obtain ⟨pre, post, rfl⟩ := List.append_of_mem hm
    exact ⟨before ++ a :: pre, b, post, by simp, hpb, a, by simp, hp⟩

theorem mem_findings_repeated {name : String} {place : Place} :
    (.repeatedKeyName name, place) ∈ layout.findings ↔
      (.repeatedKeyName name, place) ∈ keyFindings [] layout.keys := by
  have hf := congrArg (fun entries => (Finding.repeatedKeyName name, place) ∈ entries)
    (filter_findings_repeatedKeyName layout)
  simpa [List.mem_filter, Finding.initial] using hf

theorem warns_repeatedKeyName {name : String} (h : layout.validate = .ok loaded) :
    (∃ issue ∈ loaded.warnings, issue.message = "Duplicate key name '" ++ name ++ "'") ↔
      ∃ place, (.repeatedKeyName name, place) ∈ keyFindings [] layout.keys := by
  rw [warnings_of_validate h, Issue.sort]
  constructor
  · rintro ⟨issue, hi, hm⟩
    obtain ⟨⟨f, place⟩, he, rfl⟩ := List.mem_map.mp (List.mem_mergeSort.mp hi)
    cases Finding.message_eq_repeatedKeyName.mp hm
    exact ⟨place, mem_findings_repeated.mp he⟩
  · rintro ⟨place, he⟩
    have hi := List.mem_map_of_mem (f := fun entry => entry.1.issue .warning entry.2.path)
      (mem_findings_repeated.mpr he)
    exact ⟨_, List.mem_mergeSort.mpr hi, rfl⟩

theorem warns_repeatedKeyName_iff (h : layout.validate = .ok loaded) (name : String) :
    (∃ issue ∈ loaded.warnings, issue.message = "Duplicate key name '" ++ name ++ "'") ↔
      name ≠ "" ∧ ∃ id, (layout.keys.find? fun e => e.2.name == name).map Prod.fst = some id ∧
        (Keyboard.ofLayout layout).find? name ≠ some id := by
  have hr : (∃ place, (.repeatedKeyName name, place) ∈ keyFindings [] layout.keys) ↔ name ≠ "" ∧
      ∃ before e after, layout.keys = before ++ e :: after ∧ (e.2.name == name) = true ∧
        ∃ e' ∈ before, (e'.2.name == name) = true := by
    simp only [mem_keyFindings_repeated, List.not_mem_nil, false_or, beq_iff_eq]
    constructor
    · rintro ⟨place, before, e, after, hk, he, rfl, hn, hb⟩
      exact ⟨hn, before, e, after, hk, he, hb⟩
    · rintro ⟨hn, before, e, after, hk, he, hb⟩
      exact ⟨_, before, e, after, hk, he, rfl, hn, hb⟩
  rw [warns_repeatedKeyName h, hr, exists_repeat_iff (nodup_keys layout).of_map,
    Keyboard.find?_ofLayout]
  apply and_congr_right
  intro _
  constructor
  · rintro ⟨e, he, hne⟩
    refine ⟨e.1, by rw [he]; rfl, ?_⟩
    intro hid
    -- The id of a key leads to one description only.
    obtain ⟨e', he', hid⟩ := Option.map_eq_some_iff.mp hid
    have hm' := (List.mem_filter.mp (List.mem_of_getLast? he')).1
    cases List.inj_on_of_nodup_map (nodup_keys layout) hm' (List.mem_of_find?_eq_some he) hid
    exact hne he'
  · rintro ⟨id, hid, hne⟩
    obtain ⟨e, he, rfl⟩ := Option.map_eq_some_iff.mp hid
    refine ⟨e, he, ?_⟩
    intro hl
    exact hne (by rw [hl]; rfl)

theorem validate_eq_ok (hs : layout.sections ≠ []) (hp : layout.HasPlainKeysyms) :
    layout.validate = .ok { layout, warnings := Issue.sort layout.warnings } := by
  rw [validate, if_neg (by simpa using hs)]
  split
  next keysym he =>
    obtain ⟨slot, hm, he⟩ := List.exists_of_findSome?_eq_some he
    exact nomatch (hp slot hm).refusedKeysym?_eq.symm.trans he
  next => rfl

def faulty : Layout where
  name := "faulty"
  outlines := [{}]
  sections := [{
    name := "main"
    keys := [
      { name := "AC01", groups := [[none, some (.ofKeysym "U+")]] },
      { name := "AC01", outline := 1 }] }]

end Layout

namespace Keyboard

/-- Of a layout with sections whose keysyms can be looked up, validation reports, once each, just
the filled slots without a symbol in the table of their key, the keys with the name of a key before,
and, if there are outlines, the keys for which the keyboard has none. -/
theorem validation_agrees_with_keyboard {layout : Layout} (hs : layout.sections ≠ [])
    (hp : layout.HasPlainKeysyms) :
    ∃ loaded, layout.validate = .ok loaded ∧ loaded.layout = layout ∧
      let k := ofLayout layout
      ((loaded.reported "Unknown keysym").Nodup ∧
        ∀ path, path ∈ loaded.reported "Unknown keysym" ↔ ∃ id group level d slot key,
          path = (Place.slot id group level).path ∧ layout.key? id = some d ∧
            d.slot? group level = some slot ∧ k.key? id = some key ∧
              key.symbols.get group level = none) ∧
      ((loaded.reported "Duplicate key name").Nodup ∧
        (∀ path, path ∈ loaded.reported "Duplicate key name" ↔ ∃ before e after,
          path = (Place.keyName e.1).path ∧ layout.keys = before ++ e :: after ∧ e.2.name ≠ "" ∧
            ∃ e' ∈ before, e'.2.name = e.2.name) ∧
        ∀ name, (∃ issue ∈ loaded.warnings, issue.message = "Duplicate key name '" ++ name ++ "'") ↔
          name ≠ "" ∧ ∃ id, (layout.keys.find? fun e => e.2.name == name).map Prod.fst = some id ∧
            k.find? name ≠ some id) ∧
      (layout.outlines ≠ [] →
        (loaded.reported "Outline").Nodup ∧
        ∀ path, path ∈ loaded.reported "Outline" ↔ ∃ id d, path = (Place.keyOutline id).path ∧
          layout.key? id = some d ∧ k.outline? d.outline = none) := by
  have h := Layout.validate_eq_ok hs hp
  refine ⟨_, h, rfl, ⟨?_, ?_⟩, ⟨?_, ?_, Layout.warns_repeatedKeyName_iff h⟩, ?_⟩
  · exact Layout.nodup_of_perm_filter (Layout.perm_reported_unknownKeysym h)
      layout.nodup_path_slotFindings
  · intro path
    rw [Layout.mem_reported_unknownKeysym h]
    constructor
    · rintro ⟨id, group, level, d, slot, rfl, hd, hg, hn⟩
      obtain ⟨key, hk, he⟩ := (exists_get_eq_none_iff hd hg).mpr hn
      exact ⟨id, group, level, d, slot, key, rfl, hd, hg, hk, he⟩
    · rintro ⟨id, group, level, d, slot, key, rfl, hd, hg, hk, he⟩
      have hn := (exists_get_eq_none_iff hd hg).mp ⟨key, hk, he⟩
      exact ⟨id, group, level, d, slot, rfl, hd, hg, hn⟩
  · exact Layout.nodup_of_perm_filter (Layout.perm_reported_repeatedKeyName h)
      layout.nodup_path_keyFindings
  · intro path
    exact Layout.mem_reported_repeatedKeyName h
  · intro ho
    refine ⟨?_, ?_⟩
    · exact Layout.nodup_of_perm_filter (Layout.perm_reported_unknownOutline h)
        layout.nodup_path_outlineFindings
    · intro path
      have hk : (ofLayout layout).outlines = layout.outlines := congrArg outlines (ofLayout_eq layout)
      rw [Layout.mem_reported_unknownOutline h ho]
      simp only [outline?, hk]

theorem validation_agrees_faulty :
    Layout.faulty.sections ≠ [] ∧ Layout.faulty.HasPlainKeysyms ∧
      ∃ loaded, Layout.faulty.validate = .ok loaded ∧
        "sections[0].keys[0].groups[0][1]" ∈ loaded.reported "Unknown keysym" ∧
        "sections[0].keys[1].name" ∈ loaded.reported "Duplicate key name" ∧
        "sections[0].keys[1].oref" ∈ loaded.reported "Outline" := by
  have hs : Layout.faulty.sections ≠ [] := by decide
  have hp : Layout.faulty.HasPlainKeysyms := by decide
  obtain ⟨loaded, h, _, ⟨_, hu⟩, ⟨_, hd, _⟩, ho⟩ := validation_agrees_with_keyboard hs hp
  refine ⟨hs, hp, loaded, h, ?_, ?_, ?_⟩
  · rw [hu]
    exact ⟨⟨0, 0⟩, 0, 1, _, _, _, by decide +kernel, rfl, rfl, rfl, by decide⟩
  · rw [hd]
    exact ⟨[_], (⟨0, 1⟩, _), [], by decide +kernel, rfl, by decide, _, List.mem_cons_self, rfl⟩
  · rw [(ho (List.cons_ne_nil _ _)).2]
    exact ⟨⟨0, 1⟩, _, by decide +kernel, rfl, rfl⟩

end Keyboard

end ScreenKeyboard
