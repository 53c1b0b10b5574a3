import ScreenKeyboard.Proofs.Modifier.Expression

namespace ScreenKeyboard.Mask

theorem forall₂_map_trim_iff {pieces : List (List Char)} {masks : List Mask} :
    List.Forall₂ (fun piece m => readPart (Text.trim piece) = .ok m) pieces masks ↔
      List.Forall₂ Denotes (pieces.map Text.trim) masks := by
  simp only [List.forall₂_map_left_iff, readPart_eq_ok_iff]

theorem isSpread_intercalate {pieces : List (List Char)} (hne : pieces ≠ []) :
    IsSpread (pieces.map Text.trim) (['|'].intercalate pieces) := by
  induction pieces with
  | nil => exact absurd rfl hne
  | cons piece pieces ih =>
    obtain ⟨pre, post, hpre, hpost, hpiece⟩ := Text.exists_blanks_around piece
    cases pieces with
    | nil =>
      rw [List.intercalate_singleton]
      exact ⟨pre, _, post, hpre, hpost, .single _, hpiece⟩
    | cons next pieces =>
      obtain ⟨pre', body, post', hpre', hpost', hs, hrest⟩ := ih (List.cons_ne_nil _ _)
      have hbar : IsBar (post ++ '|' :: pre') := ⟨post, pre', hpost, hpre', rfl⟩
      refine ⟨pre, _, post', hpre, hpost', .cons hbar hs, ?_⟩
      rw [List.intercalate_cons_cons, hrest]
      -- The blanks after the first piece and those before the next ones stand around the bar.
      conv_lhs => rw [hpiece]
      simp

theorem isSpread_of_splitOn {parts : List (List Char)} {text : List Char}
    (h : (text.splitOn '|').map Text.trim = parts) : IsSpread parts text := by
  have hs := isSpread_intercalate (List.splitOn_ne_nil '|' text)
  rwa [List.intercalate_splitOn, h] at hs

/-- A text is read just if it is parts that denote masks, and then as the union of these. -/
theorem parse_eq_ok_iff {text : String} {m : Mask} :
    parse text = .ok m ↔ ∃ parts masks,
      IsSpread parts text.toList ∧ List.Forall₂ Denotes parts masks ∧ union masks = m := by
  constructor
  · intro h
    unfold parse at h
    split at h
    next hblank =>
      cases h
      have hb := Text.trim_eq_nil_iff.mp (List.isEmpty_iff.mp hblank)
      refine ⟨[], [], ⟨text.toList, [], [], hb, List.forall_mem_nil _, .nil, ?_⟩, .nil, rfl⟩
      rw [List.append_nil, List.append_nil]
    next =>
      obtain ⟨masks, hmasks, hm⟩ := readParts_eq_ok_iff.mp h
      exact ⟨_, masks, isSpread_of_splitOn rfl, forall₂_map_trim_iff.mp hmasks, hm⟩
  · rintro ⟨parts, masks, hs, hparts, rfl⟩
    have hparse := parse_of_isSpread hs hparts
    rwa [String.ofList_toList] at hparse

theorem has_union_iff {parts : List (List Char)} {masks : List Mask}
    (h : List.Forall₂ Denotes parts masks) (i : Nat) :
    (union masks).has i = true ↔ ∃ part ∈ parts, ∃ m, Denotes part m ∧ m.has i = true := by
  rw [has_union]
  induction h with
  | nil => simp
  | cons hpart _ ih =>
    rw [List.any_cons, Bool.or_eq_true, ih]
    simp only [List.mem_cons, exists_eq_or_imp]
    apply or_congr_left
    constructor
    · intro hi
      exact ⟨_, hpart, hi⟩
    · rintro ⟨m, hm, hi⟩
      -- A part denotes one mask only.
      cases (readPart_eq_ok_iff.mpr hpart).symm.trans (readPart_eq_ok_iff.mpr hm)
      exact hi

theorem exists_masks {parts : List (List Char)} (h : ∀ part ∈ parts, ∃ m, Denotes part m) :
    ∃ masks, List.Forall₂ Denotes parts masks := by
  induction parts with
  | nil => exact ⟨[], .nil⟩
  | cons part parts ih =>
    obtain ⟨⟨m, hm⟩, hrest⟩ := List.forall_mem_cons.mp h
    obtain ⟨masks, hmasks⟩ := ih hrest
    exact ⟨m :: masks, .cons hm hmasks⟩

theorem exists_denotes_of_mem {parts : List (List Char)} {masks : List Mask}
    (h : List.Forall₂ Denotes parts masks) {part : List Char} (hp : part ∈ parts) :
    ∃ m, Denotes part m := by
  induction h with
  | nil => exact absurd hp List.not_mem_nil
  | cons hpart _ ih =>
    rcases List.mem_cons.mp hp with rfl | hp
    · exact ⟨_, hpart⟩
    · exact ih hp

theorem parse_congr {parts parts' : List (List Char)} {masks : List Mask} {text text' : String}
    (hparts : List.Forall₂ Denotes parts masks) (h : IsSpread parts text.toList)
    (h' : IsSpread parts' text'.toList) (hmem : ∀ part, part ∈ parts' ↔ part ∈ parts) :
    parse text' = parse text := by
  obtain ⟨masks', hparts'⟩ := exists_masks fun part hp => exists_denotes_of_mem hparts ((hmem part).mp hp)
  have hunion : union masks' = union masks := by
    apply ext_has
    intro i
    rw [Bool.eq_iff_iff, has_union_iff hparts, has_union_iff hparts']
    simp only [hmem]
  rw [parse_eq_ok_iff.mpr ⟨parts, masks, h, hparts, rfl⟩,
    parse_eq_ok_iff.mpr ⟨parts', masks', h', hparts', hunion⟩]

/-- The text names the flags of the mask by ascending bit, and gives its other bits in hexadecimal.
-/
def IsWritten (m : Mask) (text : String) : Prop :=
  ∃ flags : List Flag,
    flags.Pairwise (fun a b => a.position < b.position) ∧
    (∀ flag, flag ∈ flags ↔ m.has flag.position = true) ∧
    text.toList = [' ', '|', ' '].intercalate
      (flags.map (fun flag => flag.name.toList) ++
        if m.IsNamed then [] else ['0' :: 'x' :: Text.digits 16 (m.without named).toNat])

theorem bits_without_named_eq_zero {m : Mask} : (m.without named).bits = 0 ↔ m.IsNamed := by
  have hb : (m.without named).bits = 0 ↔ m.without named = empty := by
    rw [empty, ← mk.injEq]
  rw [hb, eq_empty_iff, isNamed_iff]
  simp

theorem isWritten_toText (m : Mask) : m.IsWritten m.toText := by
  refine ⟨Flag.all.filter fun flag => m.contains flag.mask, ?_, ?_, ?_⟩
  · have hall : Flag.all.Pairwise fun a b => a.position < b.position := by decide
    exact hall.sublist List.filter_sublist
  · intro flag
    have hall : flag ∈ Flag.all := by cases flag <;> decide
    rw [List.mem_filter, contains_mask, and_iff_right hall]
  · have hbits : m.bits &&& ~~~named.bits = (m.without named).bits := rfl
    rw [toList_toText, parts, hbits, List.map_append, List.map_map]
    by_cases hm : m.IsNamed
    · rw [if_pos hm, if_pos (bits_without_named_eq_zero.mpr hm)]
      rfl
    · rw [if_neg hm, if_neg (mt bits_without_named_eq_zero.mp hm)]
      simp [toNat, Function.comp_def]

theorem toText_injective : Function.Injective toText := by
  intro a b h
  have hparse := a.parse_toText
  rw [h, b.parse_toText] at hparse
  exact (Except.ok.inj hparse).symm

/-- The text of a mask is read back as this mask, and no other mask has this text. Parts with bars
between them and any blanks around them are read as the union of their bits, and in any other order
and number as the same. -/
theorem expressions_are_lossless :
    (∀ m : Mask, m.IsWritten m.toText ∧ parse m.toText = .ok m ∧
      ∀ m' : Mask, m'.toText = m.toText → m' = m) ∧
    ∀ (parts : List (List Char)) (masks : List Mask) (text : String),
      List.Forall₂ Denotes parts masks → IsSpread parts text.toList →
      (∃ m, parse text = .ok m ∧ ∀ i, m.has i = masks.any (·.has i)) ∧
      ∀ (parts' : List (List Char)) (text' : String), (∀ part, part ∈ parts' ↔ part ∈ parts) →
        IsSpread parts' text'.toList → parse text' = parse text := by
  constructor
  · intro m
    exact ⟨m.isWritten_toText, m.parse_toText, fun _ h => toText_injective h⟩
  · intro parts masks text hparts htext
    constructor
    · exact ⟨union masks, parse_eq_ok_iff.mpr ⟨parts, masks, htext, hparts, rfl⟩, has_union masks⟩
    · intro parts' text' hmem htext'
      exact parse_congr hparts htext htext' hmem

theorem expressions_are_lossless_repeated :
    List.Forall₂ Denotes (["0x+1000200", "META", "SHIFT", "0x0001", "META"].map String.toList)
        [⟨0x1000200⟩, Flag.metaKey.mask, Flag.shift.mask, ⟨1⟩, Flag.metaKey.mask] ∧
      IsSpread (["0x+1000200", "META", "SHIFT", "0x0001", "META"].map String.toList)
        "\t0x+1000200 |META| SHIFT\n|0x0001|META ".toList ∧
      parse "\t0x+1000200 |META| SHIFT\n|0x0001|META " = .ok ⟨0x11000201⟩ ∧
      parse "META | 0x0001 | SHIFT | 0x+1000200" = .ok ⟨0x11000201⟩ := by
  have hhex : Text.Spells 16 "1000200".toList 0x1000200 :=
    ⟨by decide, [1, 0, 0, 0, 2, 0, 0], by decide, by decide⟩
  have hone : Text.Spells 16 "0001".toList 1 := ⟨by decide, [0, 0, 0, 1], by decide, by decide⟩
  have hparts : List.Forall₂ Denotes
      (["0x+1000200", "META", "SHIFT", "0x0001", "META"].map String.toList)
      [⟨0x1000200⟩, Flag.metaKey.mask, Flag.shift.mask, ⟨1⟩, Flag.metaKey.mask] :=
    .cons (.signedBits (by decide) hhex) (.cons (.flag .metaKey) (.cons (.flag .shift)
      (.cons (.bits (by decide) hone) (.cons (.flag .metaKey) .nil))))
  have htext : IsSpread (["0x+1000200", "META", "SHIFT", "0x0001", "META"].map String.toList)
      "\t0x+1000200 |META| SHIFT\n|0x0001|META ".toList := isSpread_of_splitOn (by decide)
  have htext' : IsSpread (["META", "0x0001", "SHIFT", "0x+1000200"].map String.toList)
      "META | 0x0001 | SHIFT | 0x+1000200".toList := isSpread_of_splitOn (by decide)
  obtain ⟨⟨m, hparse, hbits⟩, hsame⟩ := expressions_are_lossless.2 _ _ _ hparts htext
  have hm : m = ⟨0x11000201⟩ := by
    apply ext_has
    intro i
    rcases Nat.lt_or_ge i 32 with hi | hi
    · rw [hbits]
      revert i
      decide
    · rw [has_eq_false _ hi, has_eq_false _ hi]
  subst hm
  refine ⟨hparts, htext, hparse, ?_⟩
  rw [hsame _ _ _ htext', hparse]
  intro part
  simp only [List.map_cons, List.map_nil, List.mem_cons, List.not_mem_nil, or_false]
  grind

end ScreenKeyboard.Mask
