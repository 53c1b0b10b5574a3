import ScreenKeyboard.Proofs.Layout.Reports
import ScreenKeyboard.Proofs.Layout.Sorting

namespace ScreenKeyboard

theorem Slot.finding?_eq_some {slot : Slot} {f : Finding} :
    slot.finding? = some f ↔
      (∃ text face category, slot = .keysym text face category ∧ Keysym.parse? text = none ∧
        f = .unknownKeysym text) ∨
      ∃ face category modifiers, slot = .custom "" face category modifiers ∧ f = .unnamedSymbol := by
  cases slot with
  | keysym text face category => simp [finding?, eq_comm (a := f)]
  | custom name face category modifiers => simp [finding?, eq_comm (a := f)]

def Place.pass : Place → Nat
  | .layoutName | .sectionName _ | .sectionKeys _ => 0
  | .keyName _ => 1
  | .sections => 2
  | .keyOutline _ => 3
  | .slot _ _ _ => 4

namespace Layout

/-- What a layout with sections can be warned of, and where. -/
inductive HasFault (layout : Layout) : Finding → Place → Prop
  | unnamedLayout : layout.name = "" → HasFault layout .unnamedLayout .layoutName
  | unnamedSection {i : Nat} {s : SectionLayout} :
    layout.sections[i]? = some s → s.name = "" → HasFault layout .unnamedSection (.sectionName i)
  | sectionWithoutKeys {i : Nat} {s : SectionLayout} :
    layout.sections[i]? = some s → s.keys = [] →
      HasFault layout (.sectionWithoutKeys s.name) (.sectionKeys i)
  | unnamedKey {id : KeyId} {d : KeyLayout} :
    layout.key? id = some d → d.name = "" → HasFault layout .unnamedKey (.keyName id)
  /-- The name is that of a key before. -/
  | repeatedKeyName {before after : List (KeyId × KeyLayout)} {id : KeyId} {d : KeyLayout} :
    layout.keys = before ++ (id, d) :: after → d.name ≠ "" → (∃ e ∈ before, e.2.name = d.name) →
      HasFault layout (.repeatedKeyName d.name) (.keyName id)
  | noToggleKey :
    (∀ e ∈ layout.keys, e.2.name ≠ toggleKeyName) → HasFault layout .noToggleKey .sections
  | unknownOutline {id : KeyId} {d : KeyLayout} :
    layout.outlines ≠ [] → layout.key? id = some d → layout.outlines[d.outline.toNat]? = none →
      HasFault layout (.unknownOutline d.outline layout.outlines.length) (.keyOutline id)
  | unknownKeysym {id : KeyId} {d : KeyLayout} {group level : Nat} {text : String} {face : Face}
      {category : Option Category} :
    layout.key? id = some d → d.slot? group level = some (.keysym text face category) →
      Keysym.parse? text = none → HasFault layout (.unknownKeysym text) (.slot id group level)
  | unnamedSymbol {id : KeyId} {d : KeyLayout} {group level : Nat} {face : Face} {category : Category}
      {modifiers : Mask} :
    layout.key? id = some d → d.slot? group level = some (.custom "" face category modifiers) →
      HasFault layout .unnamedSymbol (.slot id group level)

variable {layout : Layout} {f : Finding} {place : Place}

theorem mem_nameFindings :
    (f, place) ∈ layout.nameFindings ↔
      (layout.name = "" ∧ f = .unnamedLayout ∧ place = .layoutName) ∨
      ∃ i s, layout.sections[i]? = some s ∧
        ((s.name = "" ∧ f = .unnamedSection ∧ place = .sectionName i) ∨
          (s.keys = [] ∧ f = .sectionWithoutKeys s.name ∧ place = .sectionKeys i)) := by
  have hif : ∀ {c : Prop} [Decidable c] {g : Finding} {q : Place},
      (f, place) ∈ (if c then [(g, q)] else []) ↔ c ∧ f = g ∧ place = q := by
    intro c _ g q
    split <;> simp [*]
  simp only [nameFindings, List.mem_append, List.mem_flatMap, Prod.exists,
    List.mk_mem_zipIdx_iff_getElem?, hif, String.isEmpty_iff, List.isEmpty_iff]
  rw [exists_comm]

theorem mem_keyFindings_unnamed {seen : List String} {keys : List (KeyId × KeyLayout)} :
    (.unnamedKey, place) ∈ keyFindings seen keys ↔
      ∃ id d, (id, d) ∈ keys ∧ d.name = "" ∧ place = .keyName id := by
  fun_induction keyFindings seen keys with
  | case1 => simp
  | case2 seen id key rest hn ih =>
    have he : key.name = "" := String.isEmpty_iff.mp hn
    simp only [List.mem_cons, ih, Prod.mk.injEq]
    grind
  | case3 seen id key rest hn hs ih | case4 seen id key rest hn hs ih =>
    have hne : key.name ≠ "" := fun he => hn (String.isEmpty_iff.mpr he)
    simp only [List.mem_cons, ih, Prod.mk.injEq]
    grind

theorem eq_of_mem_keyFindings {seen : List String} {keys : List (KeyId × KeyLayout)}
    (h : (f, place) ∈ keyFindings seen keys) :
    f = .unnamedKey ∨ ∃ name, f = .repeatedKeyName name := by
  have hi := initial_keyFindings seen keys _ h
  cases f with
  | unnamedKey => exact Or.inl rfl
  | repeatedKeyName name => exact Or.inr ⟨name, rfl⟩
  | _ => simp [Finding.initial] at hi

theorem mem_outlineFindings :
    (f, place) ∈ layout.outlineFindings ↔ ∃ id d, layout.outlines ≠ [] ∧ layout.key? id = some d ∧
      layout.outlines[d.outline.toNat]? = none ∧
        f = .unknownOutline d.outline layout.outlines.length ∧ place = .keyOutline id := by
  unfold outlineFindings
  extract_lets count
  split
  next h => simp [List.length_eq_zero_iff.mp h]
  next h =>
    have hne : layout.outlines ≠ [] := fun he => h (List.length_eq_zero_iff.mpr he)
    simp only [List.mem_filterMap, Prod.exists, Option.ite_none_left_eq_some, Option.some.injEq,
      Prod.mk.injEq, ← key?_eq_some, List.getElem?_eq_none_iff, Nat.not_lt, ne_eq, hne,
      not_false_eq_true, true_and, eq_comm (a := f), eq_comm (a := place), count]

theorem mem_slotFindings :
    (f, place) ∈ layout.slotFindings ↔ ∃ id group level d slot, layout.key? id = some d ∧
      d.slot? group level = some slot ∧ slot.finding? = some f ∧ place = .slot id group level := by
  simp only [slotFindings, List.mem_filterMap, Prod.exists, Option.map_eq_some_iff, Prod.mk.injEq,
    mem_slots]
  constructor
  · rintro ⟨_, slot, ⟨id, group, level, d, rfl, hd, hs⟩, _, hf, rfl, rfl⟩
    exact ⟨id, group, level, d, slot, hd, hs, hf, rfl⟩
  · rintro ⟨id, group, level, d, slot, hd, hs, hf, rfl⟩
    exact ⟨_, slot, ⟨id, group, level, d, rfl, hd, hs⟩, f, hf, rfl, rfl⟩

theorem hasFault_of_mem_findings (h : (f, place) ∈ layout.findings) : layout.HasFault f place := by
  simp only [findings, List.mem_append] at h
  rcases h with (((h | h) | h) | h) | h
  · rcases mem_nameFindings.mp h with ⟨hn, rfl, rfl⟩ | ⟨i, s, hs, ⟨hn, rfl, rfl⟩ | ⟨hk, rfl, rfl⟩⟩
    · exact .unnamedLayout hn
    · exact .unnamedSection hs hn
    · exact .sectionWithoutKeys hs hk
  · rcases eq_of_mem_keyFindings h with rfl | ⟨name, rfl⟩
    · obtain ⟨id, d, hd, hn, rfl⟩ := mem_keyFindings_unnamed.mp h
      exact .unnamedKey (key?_eq_some.mpr hd) hn
    · obtain ⟨before, ⟨id, d⟩, after, hk, rfl, rfl, hn, hs⟩ := mem_keyFindings_repeated.mp h
      exact .repeatedKeyName hk hn (hs.resolve_left List.not_mem_nil)
  · obtain ⟨hall, rfl, rfl⟩ := mem_toggleFindings.mp h
    exact .noToggleKey hall
  · obtain ⟨id, d, ho, hd, hn, rfl, rfl⟩ := mem_outlineFindings.mp h
    exact .unknownOutline ho hd hn
  · obtain ⟨id, group, level, d, slot, hd, hs, hf, rfl⟩ := mem_slotFindings.mp h
    rcases Slot.finding?_eq_some.mp hf with ⟨_, _, _, rfl, hp, rfl⟩ | ⟨_, _, _, rfl, rfl⟩
    · exact .unknownKeysym hd hs hp
    · exact .unnamedSymbol hd hs

theorem mem_findings_iff : (f, place) ∈ layout.findings ↔ layout.HasFault f place := by
  refine ⟨hasFault_of_mem_findings, fun h => ?_⟩
  have hname : (f, place) ∈ layout.nameFindings → (f, place) ∈ layout.findings := by
    simp +contextual [findings]
  have hkey : (f, place) ∈ keyFindings [] layout.keys → (f, place) ∈ layout.findings := by
    simp +contextual [findings]
  have hslot : (f, place) ∈ layout.slotFindings → (f, place) ∈ layout.findings := by
    simp +contextual [findings]
  cases h with
  | unnamedLayout hn => exact hname (mem_nameFindings.mpr (.inl ⟨hn, rfl, rfl⟩))
  | unnamedSection hs hn =>
    exact hname (mem_nameFindings.mpr (.inr ⟨_, _, hs, .inl ⟨hn, rfl, rfl⟩⟩))
  | sectionWithoutKeys hs hk =>
    exact hname (mem_nameFindings.mpr (.inr ⟨_, _, hs, .inr ⟨hk, rfl, rfl⟩⟩))
  | unnamedKey hd hn =>
    exact hkey (mem_keyFindings_unnamed.mpr ⟨_, _, key?_eq_some.mp hd, hn, rfl⟩)
  | repeatedKeyName hk hn hs =>
    exact hkey (mem_keyFindings_repeated.mpr ⟨_, _, _, hk, rfl, rfl, hn, .inr hs⟩)
  | noToggleKey hall =>
    have hm := mem_toggleFindings.mpr ⟨hall, rfl, rfl⟩
    simp [findings, hm]
  | unknownOutline ho hd hn =>
    have hm := mem_outlineFindings.mpr ⟨_, _, ho, hd, hn, rfl, rfl⟩
    simp [findings, hm]
  | unknownKeysym hd hs hp =>
    exact hslot (mem_slotFindings.mpr ⟨_, _, _, _, _, hd, hs,
      Slot.finding?_eq_some.mpr (.inl ⟨_, _, _, rfl, hp, rfl⟩), rfl⟩)
  | unnamedSymbol hd hs =>
    exact hslot (mem_slotFindings.mpr ⟨_, _, _, _, _, hd, hs,
      Slot.finding?_eq_some.mpr (.inr ⟨_, _, _, rfl, rfl⟩), rfl⟩)

def places (entries : List (Finding × Place)) : List Place :=
  entries.map Prod.snd

theorem mem_places_ite {c : Prop} [Decidable c] {p : Place} (h : place ∈ places (if c then [(f, p)] else [])) :
    place = p := by
  split at h
  next => exact List.mem_singleton.mp h
  next => exact absurd h List.not_mem_nil

theorem nodup_places_ite {c : Prop} [Decidable c] : (places (if c then [(f, place)] else [])).Nodup := by
  split
  next => exact List.nodup_singleton place
  next => exact List.nodup_nil

theorem nodup_places_nameFindings (layout : Layout) : (places layout.nameFindings).Nodup := by
  rw [places, nameFindings, List.map_append, List.map_flatMap, List.nodup_append]
  refine ⟨nodup_places_ite, ?_, ?_⟩
  · apply nodup_flatMap_of_key Prod.snd (List.nodup_zipIdx_map_snd _)
    · rintro ⟨s, i⟩ _
      rw [List.map_append, List.nodup_append]
      refine ⟨nodup_places_ite, nodup_places_ite, ?_⟩
      intro p hp p' hp'
      rw [mem_places_ite hp, mem_places_ite hp']
      exact nofun
    · rintro ⟨s, i⟩ _ ⟨s', i'⟩ _ p hp hp'
      rw [List.map_append, List.mem_append] at hp hp'
      rcases hp.imp mem_places_ite mem_places_ite with rfl | rfl
      · rcases hp'.imp mem_places_ite mem_places_ite with he | he
        · exact Place.sectionName.inj he
        · exact nomatch he
      · rcases hp'.imp mem_places_ite mem_places_ite with he | he
        · exact nomatch he
        · exact Place.sectionKeys.inj he
  · intro p hp p' hp'
    obtain ⟨⟨s, i⟩, _, hp'⟩ := List.mem_flatMap.mp hp'
    rw [List.map_append, List.mem_append] at hp'
    rw [mem_places_ite hp]
    rcases hp'.imp mem_places_ite mem_places_ite with rfl | rfl
    · exact nofun
    · exact nofun

theorem nodup_of_nodup_path {entries : List (Finding × Place)}
    (h : (entries.map fun entry => entry.2.path).Nodup) : (places entries).Nodup := by
  have hmap : (places entries).map Place.path = entries.map fun entry => entry.2.path := List.map_map
  rw [← hmap] at h
  exact h.of_map

/-- The findings are those of one pass, and no two of them are at one place. -/
structure IsPass (n : Nat) (entries : List (Finding × Place)) : Prop where
  nodup : (places entries).Nodup
  pass_eq : ∀ f place, (f, place) ∈ entries → place.pass = n

theorem isPass_nameFindings (layout : Layout) : IsPass 0 layout.nameFindings := by
  refine ⟨layout.nodup_places_nameFindings, ?_⟩
  intro f place hm
  rcases mem_nameFindings.mp hm with ⟨_, _, rfl⟩ | ⟨_, _, _, ⟨_, _, rfl⟩ | ⟨_, _, rfl⟩⟩
  all_goals rfl

theorem isPass_keyFindings (layout : Layout) : IsPass 1 (keyFindings [] layout.keys) := by
  refine ⟨nodup_of_nodup_path layout.nodup_path_keyFindings, ?_⟩
  intro f place hm
  have hplace := (keyFindings_sublist [] layout.keys).subset (List.mem_map_of_mem hm)
  obtain ⟨_, _, rfl⟩ := List.mem_map.mp hplace
  rfl

theorem isPass_toggleFindings (layout : Layout) : IsPass 2 layout.toggleFindings := by
  constructor
  · unfold toggleFindings
    split
    next => exact List.nodup_nil
    next => exact List.nodup_singleton _
  · intro f place hm
    obtain ⟨_, _, rfl⟩ := mem_toggleFindings.mp hm
    rfl

theorem isPass_outlineFindings (layout : Layout) : IsPass 3 layout.outlineFindings := by
  refine ⟨nodup_of_nodup_path layout.nodup_path_outlineFindings, ?_⟩
  intro f place hm
  obtain ⟨_, _, _, _, _, _, rfl⟩ := mem_outlineFindings.mp hm
  rfl

theorem isPass_slotFindings (layout : Layout) : IsPass 4 layout.slotFindings := by
  refine ⟨nodup_of_nodup_path layout.nodup_path_slotFindings, ?_⟩
  intro f place hm
  obtain ⟨_, _, _, _, _, _, _, _, rfl⟩ := mem_slotFindings.mp hm
  rfl

theorem nodup_places_append {entries later : List (Finding × Place)} {n : Nat}
    (h : (places entries).Nodup ∧ ∀ f place, (f, place) ∈ entries → place.pass < n)
    (hlater : IsPass n later) :
    (places (entries ++ later)).Nodup ∧
      ∀ f place, (f, place) ∈ entries ++ later → place.pass < n + 1 := by
  constructor
  · rw [places, List.map_append, List.nodup_append]
    refine ⟨h.1, hlater.nodup, ?_⟩
    intro p hp p' hp'
    obtain ⟨⟨f, place⟩, hm, rfl⟩ := List.mem_map.mp hp
    obtain ⟨⟨f', place'⟩, hm', rfl⟩ := List.mem_map.mp hp'
    have hlt := h.2 f place hm
    have heq := hlater.pass_eq f' place' hm'
    rintro (rfl : place = place')
    omega
  · intro f place hm
    rcases List.mem_append.mp hm with hm | hm
    · exact Nat.lt_succ_of_lt (h.2 f place hm)
    · exact hlater.pass_eq f place hm ▸ Nat.lt_succ_self n

theorem nodup_places_findings (layout : Layout) : (places layout.findings).Nodup := by
  have h0 : (places ([] : List (Finding × Place))).Nodup ∧
      ∀ f place, (f, place) ∈ ([] : List (Finding × Place)) → place.pass < 0 := ⟨List.nodup_nil, nofun⟩
  have h1 := nodup_places_append h0 layout.isPass_nameFindings
  have h2 := nodup_places_append h1 layout.isPass_keyFindings
  have h3 := nodup_places_append h2 layout.isPass_toggleFindings
  have h4 := nodup_places_append h3 layout.isPass_outlineFindings
  exact (nodup_places_append h4 layout.isPass_slotFindings).1

theorem severity_of_mem_warnings {issue : Issue} (h : issue ∈ layout.warnings) :
    issue.severity = .warning := by
  obtain ⟨_, _, rfl⟩ := List.mem_map.mp h
  rfl

theorem mem_warnings_iff {issue : Issue} :
    issue ∈ layout.warnings ↔
      ∃ f place, layout.HasFault f place ∧ issue = f.issue .warning place.path := by
  simp only [warnings, List.mem_map, Prod.exists, mem_findings_iff, eq_comm]

theorem nodup_path_warnings (layout : Layout) : (layout.warnings.map Issue.path).Nodup := by
  have hmap : layout.warnings.map Issue.path = (places layout.findings).map Place.path := by
    rw [warnings, places, List.map_map, List.map_map]
    rfl
  rw [hmap]
  exact layout.nodup_places_findings.map Place.path_injective

/-- Validation turns down just the layouts without sections, with one error. Any other layout is
given back as it is, with a warning of each of its faults and no other, sorted by the paths. -/
theorem validation_tells_each_fault {layout : Layout} (hp : layout.HasPlainKeysyms)
    (issues : List Issue) :
    ((∃ error, layout.validate = .error error) ↔ layout.sections = []) ∧
    (layout.sections = [] →
      layout.validate =
        .error (.invalid
          [⟨.error, "Layout has no sections", "sections", some "Add at least one section with keys"⟩]
          none)) ∧
    (layout.sections ≠ [] →
      ∃ loaded, layout.validate = .ok loaded ∧ loaded.layout = layout ∧
        (∀ issue, issue ∈ loaded.warnings ↔
          ∃ f place, layout.HasFault f place ∧ issue = f.issue .warning place.path) ∧
        (∀ issue ∈ loaded.warnings, issue.severity = .warning) ∧
        loaded.warnings.Pairwise (fun a b => a.path ≤ b.path) ∧
        (loaded.warnings.map Issue.path).Nodup ∧
        Issue.IsSorting loaded.warnings layout.warnings) ∧
    Issue.IsSorting (Issue.sort issues) issues := by
  have hnone : layout.sections = [] → layout.validate =
      .error (.invalid
        [⟨.error, "Layout has no sections", "sections", some "Add at least one section with keys"⟩]
        none) := by
    intro hs
    rw [validate, hs]
    rfl
  refine ⟨?_, hnone, ?_, Issue.isSorting_sort issues⟩
  · constructor
    · rintro ⟨error, he⟩
      by_contra hs
      cases (validate_eq_ok hs hp).symm.trans he
    · intro hs
      exact ⟨_, hnone hs⟩
  · intro hs
    have hsorting := Issue.isSorting_sort layout.warnings
    have hmem : ∀ {issue}, issue ∈ Issue.sort layout.warnings ↔ issue ∈ layout.warnings :=
      hsorting.perm.mem_iff
    refine ⟨_, validate_eq_ok hs hp, rfl, fun _ => hmem.trans mem_warnings_iff,
      fun _ hm => severity_of_mem_warnings (hmem.mp hm),
      hsorting.pairwise_path fun _ => severity_of_mem_warnings, ?_, hsorting⟩
    exact (hsorting.perm.map Issue.path).nodup_iff.mpr layout.nodup_path_warnings

theorem validation_tells_each_fault_faulty :
    faulty.HasPlainKeysyms ∧
      ∃ loaded, faulty.validate = .ok loaded ∧
        Finding.noToggleKey.issue .warning "sections" ∈ loaded.warnings ∧
        (Finding.unknownOutline 1 1).issue .warning "sections[0].keys[1].oref" ∈ loaded.warnings ∧
        Issue.IsSorting (Issue.sort (Finding.noSections.issue .error "sections" :: loaded.warnings))
          (Finding.noSections.issue .error "sections" :: loaded.warnings) := by
  have hp : faulty.HasPlainKeysyms := by decide
  have hs : faulty.sections ≠ [] := by decide
  obtain ⟨loaded, h, _, hmem, _⟩ := (validation_tells_each_fault hp []).2.2.1 hs
  have hsorting := (validation_tells_each_fault hp
    (Finding.noSections.issue .error "sections" :: loaded.warnings)).2.2.2
  refine ⟨hp, loaded, h, (hmem _).mpr ?_, (hmem _).mpr ?_, hsorting⟩
  · exact ⟨_, _, .noToggleKey (by decide), rfl⟩
  · exact ⟨.unknownOutline 1 1, .keyOutline ⟨0, 1⟩,
      .unknownOutline (d := { name := "AC01", outline := 1 }) (by decide) rfl rfl, by decide +kernel⟩

end Layout

end ScreenKeyboard
