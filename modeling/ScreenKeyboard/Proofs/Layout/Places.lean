import Mathlib.Data.List.Nodup
import Mathlib.Data.List.Sigma
import ScreenKeyboard.Proofs.Layout.Lookup
import ScreenKeyboard.Proofs.Text.Numeral

namespace ScreenKeyboard

theorem nodup_flatMap_of_key {α β κ : Type} {l : List α} (key : α → κ) (hl : (l.map key).Nodup)
    {f : α → List β} (hf : ∀ a ∈ l, (f a).Nodup)
    (h : ∀ a ∈ l, ∀ a' ∈ l, ∀ b, b ∈ f a → b ∈ f a' → key a = key a') : (l.flatMap f).Nodup := by
  rw [List.nodup_flatMap]
  refine ⟨hf, ?_⟩
  apply (List.pairwise_map.mp hl).imp_of_mem
  intro a a' ha ha' hne b hb hb'
  exact hne (h a ha a' ha' b hb hb')

theorem append_cons_inj {α : Type} {a : α} {l l' r r' : List α} (hl : a ∉ l) (hl' : a ∉ l')
    (h : l ++ a :: r = l' ++ a :: r') : l = l' ∧ r = r' := by
  induction l generalizing l' with
  | nil =>
    cases l' with
    | nil => exact ⟨rfl, (List.cons.inj h).2⟩
    | cons b l' => exact absurd ((List.cons.inj h).1 ▸ List.mem_cons_self) hl'
  | cons b l ih =>
    cases l' with
    | nil => exact absurd ((List.cons.inj h).1 ▸ List.mem_cons_self) hl
    | cons b' l' =>
      obtain ⟨rfl, ht⟩ := List.cons.inj h
      obtain ⟨rfl, hr⟩ := ih (List.not_mem_of_not_mem_cons hl) (List.not_mem_of_not_mem_cons hl') ht
      exact ⟨rfl, hr⟩

theorem nodup_zipIdx {α : Type} (l : List α) : l.zipIdx.Nodup :=
  (List.nodup_zipIdx_map_snd l).of_map

namespace Place

theorem toList_indexed (name : String) (i : Nat) :
    (indexed name i).toList = name.toList ++ '[' :: (Text.digits 10 i ++ [']']) := by
  simp [indexed, Text.decimal]

theorem number_inj {i j : Nat} {cs ds : List Char}
    (h : Text.digits 10 i ++ ']' :: cs = Text.digits 10 j ++ ']' :: ds) : i = j ∧ cs = ds := by
  have hb : ∀ n, ']' ∉ Text.digits 10 n := by
    intro n hn
    obtain ⟨d, hd, he⟩ := Text.exists_digitChar_of_mem (by decide) hn
    have hne : ∀ d < 10, ']' ≠ Text.digitChar d := by decide
    exact hne d hd he
  obtain ⟨hd, hs⟩ := append_cons_inj (hb i) (hb j) h
  exact ⟨Text.digits_inj (by decide) (by decide) hd, hs⟩

theorem toList_keyPath (id : KeyId) :
    (keyPath id).toList = "sections[".toList ++ (Text.digits 10 id.sectionIndex ++
      ']' :: (".keys[".toList ++ (Text.digits 10 id.keyIndex ++ [']']))) := by
  simp [keyPath, toList_indexed]

/-- What starts with the path of a key does not start with that of another one. -/
theorem keyPath_append_inj {id id' : KeyId} {cs ds : List Char}
    (h : (keyPath id).toList ++ cs = (keyPath id').toList ++ ds) : id = id' ∧ cs = ds := by
  simp only [toList_keyPath, List.append_assoc, List.cons_append, List.nil_append] at h
  obtain ⟨hi, h⟩ := number_inj (List.append_cancel_left h)
  obtain ⟨hj, hs⟩ := number_inj (List.append_cancel_left h)
  refine ⟨?_, hs⟩
  cases id
  cases id'
  subst hi hj
  rfl

theorem path_keyName_inj {id id' : KeyId} (h : (keyName id).path = (keyName id').path) : id = id' := by
  have hl := congrArg String.toList h
  simp only [path, String.toList_append] at hl
  exact (keyPath_append_inj hl).1

theorem path_keyOutline_inj {id id' : KeyId} (h : (keyOutline id).path = (keyOutline id').path) :
    id = id' := by
  have hl := congrArg String.toList h
  simp only [path, String.toList_append] at hl
  exact (keyPath_append_inj hl).1

theorem path_slot_inj {id id' : KeyId} {group group' level level' : Nat}
    (h : (slot id group level).path = (slot id' group' level').path) :
    id = id' ∧ group = group' ∧ level = level' := by
  have hl := congrArg String.toList h
  simp only [path, toList_indexed, String.toList_append, List.append_assoc, List.cons_append,
    List.nil_append] at hl
  obtain ⟨hid, hl⟩ := keyPath_append_inj hl
  obtain ⟨hg, hl⟩ := number_inj (List.cons.inj (List.append_cancel_left hl)).2
  obtain ⟨hv, _⟩ := number_inj (List.cons.inj hl).2
  exact ⟨hid, hg, hv⟩

/-- The path of a place without its numbers. -/
def shape : Place → String
  | layoutName => "name"
  | sections => "sections"
  | sectionName _ => "sections[].name"
  | sectionKeys _ => "sections[].keys"
  | keyName _ => "sections[].keys[].name"
  | keyOutline _ => "sections[].keys[].oref"
  | slot _ _ _ => "sections[].keys[].groups[][]"

theorem filter_digits (n : Nat) : ((Text.digits 10 n).filter fun c => !c.isDigit) = [] := by
  rw [List.filter_eq_nil_iff]
  intro c hc
  obtain ⟨d, hd, rfl⟩ := Text.exists_digitChar_of_mem (by decide) hc
  have hall : ∀ d < 10, ¬(!(Text.digitChar d).isDigit) = true := by decide
  exact hall d hd

theorem filter_path (place : Place) :
    (place.path.toList.filter fun c => !c.isDigit) = place.shape.toList := by
  cases place with
  | layoutName | sections => decide
  | sectionName _ | sectionKeys _ | keyName _ | keyOutline _ | slot _ _ _ =>
    simp [path, shape, toList_indexed, toList_keyPath, filter_digits]

theorem path_injective : Function.Injective path := by
  intro place place' h
  have hl := congrArg String.toList h
  -- Without their numbers, the paths of two kinds of places still differ.
  have hs : place.shape = place'.shape := by
    rw [← String.toList_inj, ← filter_path, ← filter_path, h]
  cases place with
  | layoutName =>
    cases place' with
    | layoutName => rfl
    | _ => simp [shape] at hs
  | sections =>
    cases place' with
    | sections => rfl
    | _ => simp [shape] at hs
  | sectionName i =>
    cases place' with
    | sectionName j =>
      simp only [path, toList_indexed, String.toList_append, List.append_assoc, List.cons_append] at hl
      rw [(number_inj (List.cons.inj (List.append_cancel_left hl)).2).1]
    | _ => simp [shape] at hs
  | sectionKeys i =>
    cases place' with
    | sectionKeys j =>
      simp only [path, toList_indexed, String.toList_append, List.append_assoc, List.cons_append] at hl
      rw [(number_inj (List.cons.inj (List.append_cancel_left hl)).2).1]
    | _ => simp [shape] at hs
  | keyName id =>
    cases place' with
    | keyName id' => rw [path_keyName_inj h]
    | _ => simp [shape] at hs
  | keyOutline id =>
    cases place' with
    | keyOutline id' => rw [path_keyOutline_inj h]
    | _ => simp [shape] at hs
  | slot id group level =>
    cases place' with
    | slot id' group' level' =>
      obtain ⟨rfl, rfl, rfl⟩ := path_slot_inj h
      rfl
    | _ => simp [shape] at hs

end Place

namespace Layout

variable {layout : Layout}

theorem nodup_keys (layout : Layout) : (layout.keys.map Prod.fst).Nodup := by
  have hkeys : layout.keys.Nodup := by
    apply nodup_flatMap_of_key Prod.snd (List.nodup_zipIdx_map_snd _)
    · intro s _
      apply (nodup_zipIdx _).map
      rintro ⟨key, j⟩ ⟨key', j'⟩ he
      simpa [and_comm] using he
    · rintro ⟨s, i⟩ _ ⟨s', i'⟩ _ entry hm hm'
      obtain ⟨_, _, rfl⟩ := List.mem_map.mp hm
      obtain ⟨_, _, he⟩ := List.mem_map.mp hm'
      exact (congrArg (fun entry : KeyId × KeyLayout => entry.1.sectionIndex) he).symm
  apply hkeys.map_on
  rintro ⟨id, d⟩ hm ⟨id', d'⟩ hm' (rfl : id = id')
  have hd := (key?_eq_some.mpr hm).symm.trans (key?_eq_some.mpr hm')
  rw [Option.some.inj hd]

theorem nodup_map_keys (layout : Layout) (path : KeyId → String)
    (h : ∀ id id', path id = path id' → id = id') :
    (layout.keys.map fun entry => path entry.1).Nodup := by
  have hp := (nodup_keys layout).map (f := path) fun id id' he => h id id' he
  rwa [List.map_map] at hp

theorem mem_slots {place : Place} {slot : Slot} :
    (place, slot) ∈ layout.slots ↔ ∃ id group level d, place = .slot id group level ∧
      layout.key? id = some d ∧ d.slot? group level = some slot := by
  simp only [slots, List.mem_flatMap, Prod.exists, List.mem_filterMap,
    List.mk_mem_zipIdx_iff_getElem?, ← key?_eq_some, KeyLayout.slot?, Option.join_eq_some_iff,
    Option.bind_eq_some_iff, Option.map_eq_some_iff, Prod.mk.injEq]
  constructor
  · rintro ⟨id, d, hd, row, group, hg, _, level, hl, _, rfl, rfl, rfl⟩
    exact ⟨id, group, level, d, rfl, hd, row, hg, hl⟩
  · rintro ⟨id, group, level, d, rfl, hd, row, hg, hl⟩
    exact ⟨id, d, hd, row, group, hg, some slot, level, hl, slot, rfl, rfl, rfl⟩

theorem nodup_slots (layout : Layout) : (layout.slots.map Prod.fst).Nodup := by
  -- Two entries differ in their key, or else in their row, or else in their place in the row.
  have hslots : layout.slots.Nodup := by
    apply nodup_flatMap_of_key Prod.fst (nodup_keys layout)
    · rintro ⟨id, key⟩ _
      apply nodup_flatMap_of_key Prod.snd (List.nodup_zipIdx_map_snd _)
      · rintro ⟨row, group⟩ _
        apply (nodup_zipIdx _).filterMap
        rintro ⟨slot, level⟩ ⟨slot', level'⟩ entry hm hm'
        obtain ⟨_, rfl, rfl⟩ := Option.map_eq_some_iff.mp hm
        obtain ⟨_, rfl, he⟩ := Option.map_eq_some_iff.mp hm'
        simp only [Prod.mk.injEq, Place.slot.injEq, true_and] at he
        rw [he.1, he.2]
      · rintro ⟨row, group⟩ _ ⟨row', group'⟩ _ entry hm hm'
        simp only [List.mem_filterMap, Option.map_eq_some_iff] at hm hm'
        obtain ⟨_, _, _, _, rfl⟩ := hm
        obtain ⟨_, _, _, _, he⟩ := hm'
        simp only [Prod.mk.injEq, Place.slot.injEq, true_and] at he
        exact he.1.1.symm
    · rintro ⟨id, key⟩ _ ⟨id', key'⟩ _ entry hm hm'
      simp only [List.mem_flatMap, List.mem_filterMap, Option.map_eq_some_iff] at hm hm'
      obtain ⟨_, _, _, _, _, _, rfl⟩ := hm
      obtain ⟨_, _, _, _, _, _, he⟩ := hm'
      simp only [Prod.mk.injEq, Place.slot.injEq] at he
      exact he.1.1.symm
  apply hslots.map_on
  rintro ⟨place, slot⟩ hm ⟨place', slot'⟩ hm' (rfl : place = place')
  obtain ⟨id, group, level, d, rfl, hd, hs⟩ := mem_slots.mp hm
  obtain ⟨_, _, _, d', he, hd', hs'⟩ := mem_slots.mp hm'
  simp only [Place.slot.injEq] at he
  obtain ⟨rfl, rfl, rfl⟩ := he
  cases Option.some.inj (hd.symm.trans hd')
  rw [Option.some.inj (hs.symm.trans hs')]

end Layout

end ScreenKeyboard
