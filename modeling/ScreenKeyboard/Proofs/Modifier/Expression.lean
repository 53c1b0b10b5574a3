import Mathlib.Data.List.Forall2
import ScreenKeyboard.Modifier.Expression
import ScreenKeyboard.Proofs.Modifier.Bits
import ScreenKeyboard.Proofs.Text.Spelling
import ScreenKeyboard.Proofs.Text.Words

namespace ScreenKeyboard.Mask

def union (masks : List Mask) : Mask :=
  masks.foldl (· ||| ·) empty

theorem has_foldl_or (masks : List Mask) (acc : Mask) (i : Nat) :
    (masks.foldl (· ||| ·) acc).has i = (acc.has i || masks.any (·.has i)) := by
  induction masks generalizing acc with
  | nil => simp
  | cons m masks ih => rw [List.foldl_cons, ih, has_or, List.any_cons, Bool.or_assoc]

theorem has_union (masks : List Mask) (i : Nat) : (union masks).has i = masks.any (·.has i) := by
  rw [union, has_foldl_or, has_empty, Bool.false_or]

theorem readPart_name (flag : Flag) : readPart flag.name.toList = .ok flag.mask := by
  cases flag <;> rfl

/-- The part names a flag, or gives bits in hexadecimal, after a plus sign at most. -/
inductive Denotes : List Char → Mask → Prop
  | flag (flag : Flag) : Denotes flag.name.toList flag.mask
  | bits {hex : List Char} {n : Nat} :
    n ≤ 0xFFFFFFFF → Text.Spells 16 hex n → Denotes ('0' :: 'x' :: hex) (ofNat n)
  | signedBits {hex : List Char} {n : Nat} :
    n ≤ 0xFFFFFFFF → Text.Spells 16 hex n → Denotes ('0' :: 'x' :: '+' :: hex) (ofNat n)

theorem readPart_eq_ok_iff {part : List Char} {m : Mask} : readPart part = .ok m ↔ Denotes part m := by
  constructor
  · intro h
    unfold readPart at h
    split at h
    next => exact nomatch h
    next hex =>
      split at h
      next n hn =>
        cases h
        obtain ⟨hle, hs | ⟨hex, rfl, hs⟩⟩ := Text.readNumeral_eq_some_iff.mp hn
        · exact .bits hle hs
        · exact .signedBits hle hs
      next => exact nomatch h
    next =>
      split at h
      next flag hf =>
        cases h
        rw [Flag.ofName?] at hf
        have hname := List.find?_some hf
        rw [← String.toList_ofList (l := part), ← beq_iff_eq.mp hname]
        exact .flag flag
      next => exact nomatch h
  · intro h
    cases h with
    | flag flag => exact readPart_name flag
    | bits hle hs =>
      have hn := Text.readNumeral_eq_some_iff.mpr ⟨hle, Or.inl hs⟩
      simp only [readPart, hn]
    | signedBits hle hs =>
      have hn := Text.readNumeral_eq_some_iff.mpr ⟨hle, Or.inr ⟨_, rfl, hs⟩⟩
      simp only [readPart, hn]

theorem readParts_eq_ok_iff {acc m : Mask} {parts : List (List Char)} :
    readParts acc parts = .ok m ↔ ∃ masks,
      List.Forall₂ (fun part m => readPart (Text.trim part) = .ok m) parts masks ∧
        masks.foldl (· ||| ·) acc = m := by
  induction parts generalizing acc with
  | nil => simp [readParts]
  | cons part parts ih =>
    rw [readParts]
    constructor
    · intro h
      split at h
      next first hfirst =>
        obtain ⟨masks, hmasks, hm⟩ := ih.mp h
        exact ⟨first :: masks, .cons hfirst hmasks, hm⟩
      next => exact nomatch h
    · rintro ⟨_, hmasks, hm⟩
      cases hmasks with
      | @cons _ first _ masks hfirst hmasks =>
        rw [hfirst]
        exact ih.mpr ⟨masks, hmasks, hm⟩

theorem mem_intercalate_cons {sep part : List Char} {parts : List (List Char)} {c : Char}
    (h : c ∈ part) : c ∈ sep.intercalate (part :: parts) := by
  cases parts with
  | nil => rwa [List.intercalate_singleton]
  | cons next parts =>
    rw [List.intercalate_cons_cons]
    exact List.mem_append_left _ (List.mem_append_left _ h)

theorem parse_join {parts : List (List Char)} {masks : List Mask} (hne : parts ≠ [])
    (hbar : ∀ part ∈ parts, '|' ∉ part)
    (h : List.Forall₂ (fun part m => readPart (Text.trim part) = .ok m) parts masks) :
    parse (String.ofList (['|'].intercalate parts)) = .ok (union masks) := by
  have hb : (Text.trim (['|'].intercalate parts)).isEmpty = false := by
    cases h with
    | nil => exact absurd rfl hne
    | cons hpart _ =>
      -- A text of blanks is the empty mask, but then its first part could not be read.
      rw [List.isEmpty_eq_false_iff]
      intro ht
      have hblank := Text.trim_eq_nil_iff.mp ht
      have hnil := Text.trim_eq_nil_iff.mpr fun c hc => hblank c (mem_intercalate_cons hc)
      rw [hnil] at hpart
      exact nomatch hpart
  rw [parse, String.toList_ofList, hb, List.splitOn_intercalate '|' hbar hne]
  exact readParts_eq_ok_iff.mpr ⟨masks, h, rfl⟩

/-- The part of an expression that stands for this mask: the name of a flag, or any bits. -/
inductive IsPart : List Char → Mask → Prop
  | flag (flag : Flag) : IsPart flag.name.toList flag.mask
  | bits {n : Nat} (h : n ≤ 0xFFFFFFFF) : IsPart ('0' :: 'x' :: Text.digits 16 n) (ofNat n)

def IsPlainPart (part : List Char) : Prop :=
  ∀ c ∈ part, Text.isBlank c = false ∧ c ≠ '|' ∧ c ≠ '#'

instance (part : List Char) : Decidable (IsPlainPart part) :=
  List.decidableBAll (fun c => Text.isBlank c = false ∧ c ≠ '|' ∧ c ≠ '#') part

def IsBar (between : List Char) : Prop :=
  ∃ pre post, Text.AreBlank pre ∧ Text.AreBlank post ∧ between = pre ++ '|' :: post

def IsExpression (text : List Char) (m : Mask) : Prop :=
  ∃ parts masks, Text.Separated IsBar parts text ∧ List.Forall₂ IsPart parts masks ∧ union masks = m

theorem isBlank_of_digitValue? {c : Char} {d : Nat} (h : Text.digitValue? c = some d) :
    Text.isBlank c = false := by
  unfold Text.digitValue? at h
  simp only [Text.isBlank, Bool.or_eq_false_iff, Bool.and_eq_false_iff, decide_eq_false_iff_not,
    beq_eq_false_iff_ne]
  extract_lets n at h
  split at h
  next => omega
  next =>
    split at h
    next => omega
    next =>
      split at h
      next => omega
      next => exact nomatch h

theorem isPlain_of_spells {hex : List Char} {n : Nat} (h : Text.Spells 16 hex n) :
    IsPlainPart hex := by
  intro c hc
  obtain ⟨d, hd⟩ := h.exists_digitValue? hc
  refine ⟨isBlank_of_digitValue? hd, ?_, ?_⟩
  · rintro rfl
    exact nomatch hd
  · rintro rfl
    exact nomatch hd

namespace Denotes

variable {part : List Char} {m : Mask}

theorem isPlain (h : Denotes part m) : IsPlainPart part := by
  cases h with
  | flag flag => cases flag <;> decide
  | bits _ hs =>
    exact List.forall_mem_cons.mpr ⟨by decide, List.forall_mem_cons.mpr ⟨by decide, isPlain_of_spells hs⟩⟩
  | signedBits _ hs =>
    refine List.forall_mem_cons.mpr ⟨by decide, List.forall_mem_cons.mpr ⟨by decide, ?_⟩⟩
    exact List.forall_mem_cons.mpr ⟨by decide, isPlain_of_spells hs⟩

theorem isWord (h : Denotes part m) : Text.IsWord part := by
  refine ⟨?_, fun c hc => (h.isPlain c hc).1⟩
  cases h with
  | flag flag => cases flag <;> decide
  | bits _ _ => exact List.cons_ne_nil _ _
  | signedBits _ _ => exact List.cons_ne_nil _ _

theorem padded (h : Denotes part m) {pre post : List Char} (hpre : Text.AreBlank pre)
    (hpost : Text.AreBlank post) :
    '|' ∉ pre ++ part ++ post ∧ readPart (Text.trim (pre ++ part ++ post)) = .ok m := by
  constructor
  · simp only [List.mem_append]
    rintro ((hm | hm) | hm)
    · exact absurd (hpre _ hm) (by decide)
    · exact (h.isPlain _ hm).2.1 rfl
    · exact absurd (hpost _ hm) (by decide)
  · rw [Text.trim_append hpre hpost, h.isWord.isTrimmed.trim_eq]
    exact readPart_eq_ok_iff.mpr h

end Denotes

namespace IsPart

variable {part : List Char} {m : Mask}

theorem denotes (h : IsPart part m) : Denotes part m := by
  cases h with
  | flag flag => exact .flag flag
  | bits hn => exact .bits hn (Text.spells_digits (by decide) (by decide) _)

theorem isPlain (h : IsPart part m) : IsPlainPart part :=
  h.denotes.isPlain

theorem isWord (h : IsPart part m) : Text.IsWord part :=
  h.denotes.isWord

end IsPart

/-- Between its bars, an expression has its parts, with blanks around them. -/
theorem exists_pieces {parts : List (List Char)} {masks : List Mask} {text : List Char}
    (h : Text.Separated IsBar parts text) (hparts : List.Forall₂ Denotes parts masks)
    (hne : parts ≠ []) {pre post : List Char} (hpre : Text.AreBlank pre) (hpost : Text.AreBlank post) :
    ∃ pieces, pre ++ text ++ post = ['|'].intercalate pieces ∧ pieces ≠ [] ∧
      (∀ piece ∈ pieces, '|' ∉ piece) ∧
      List.Forall₂ (fun piece m => readPart (Text.trim piece) = .ok m) pieces masks := by
  induction h generalizing masks pre with
  | nil => exact absurd rfl hne
  | single part =>
    obtain _ | ⟨hpart, _ | _⟩ := hparts
    obtain ⟨hbar, hread⟩ := hpart.padded hpre hpost
    exact ⟨[pre ++ part ++ post], (List.intercalate_singleton).symm, List.cons_ne_nil _ _,
      List.forall_mem_singleton.mpr hbar, .cons hread .nil⟩
  | @cons part _ next text rest hg _ ih =>
    obtain _ | ⟨hpart, hrest⟩ := hparts
    obtain ⟨before, after, hbefore, hafter, rfl⟩ := hg
    obtain ⟨pieces, htext, hne', hbars, hreads⟩ := ih hrest (List.cons_ne_nil _ _) hafter
    obtain ⟨hbar, hread⟩ := hpart.padded hpre hbefore
    refine ⟨(pre ++ part ++ before) :: pieces, ?_, List.cons_ne_nil _ _,
      List.forall_mem_cons.mpr ⟨hbar, hbars⟩, .cons hread hreads⟩
    rw [List.intercalate_cons_of_ne_nil hne', ← htext]
    simp

/-- The text is made of these parts, with bars between them and any blanks around each. -/
def IsSpread (parts : List (List Char)) (text : List Char) : Prop :=
  ∃ pre body post, Text.AreBlank pre ∧ Text.AreBlank post ∧ Text.Separated IsBar parts body ∧
    text = pre ++ body ++ post

theorem parse_of_isSpread {parts : List (List Char)} {masks : List Mask} {text : List Char}
    (h : IsSpread parts text) (hparts : List.Forall₂ Denotes parts masks) :
    parse (String.ofList text) = .ok (union masks) := by
  obtain ⟨pre, body, post, hpre, hpost, hs, rfl⟩ := h
  by_cases hne : parts = []
  · -- Without parts there is nothing but blanks, and the mask is empty.
    subst hne
    cases hs
    cases hparts
    have ht : Text.trim (pre ++ [] ++ post) = [] := Text.trim_append hpre hpost
    rw [parse, String.toList_ofList, ht]
    rfl
  · obtain ⟨pieces, htext, hne', hbars, hreads⟩ := exists_pieces hs hparts hne hpre hpost
    rw [htext]
    exact parse_join hne' hbars hreads

theorem parse_of_isExpression {text : List Char} {m : Mask} (h : IsExpression text m) :
    parse (String.ofList text) = .ok m := by
  obtain ⟨parts, masks, hs, hparts, rfl⟩ := h
  refine parse_of_isSpread ⟨[], text, [], List.forall_mem_nil _, List.forall_mem_nil _, hs, ?_⟩
    (hparts.imp fun _ _ hp => hp.denotes)
  rw [List.nil_append, List.append_nil]

def partMasks (m : Mask) : List Mask :=
  (Flag.all.filter fun flag => m.contains flag.mask).map Flag.mask ++
    if (m.without named).bits = 0 then [] else [m.without named]

theorem forall₂_parts (m : Mask) : List.Forall₂ IsPart (m.parts.map String.toList) m.partMasks := by
  have hbits : m.bits &&& ~~~named.bits = (m.without named).bits := rfl
  rw [parts, hbits, partMasks, List.map_append, List.map_map]
  apply List.rel_append
  · rw [List.forall₂_map_left_iff, List.forall₂_map_right_iff, List.forall₂_same]
    exact fun flag _ => .flag flag
  · split
    · exact .nil
    · have hle : (m.without named).bits.toNat ≤ 0xFFFFFFFF :=
        Nat.le_of_lt_succ (m.without named).bits.isLt
      have hof : ofNat (m.without named).bits.toNat = m.without named := by simp [ofNat]
      have hpart := IsPart.bits hle
      rw [hof] at hpart
      refine .cons ?_ .nil
      simpa using hpart

theorem has_named (i : Nat) : named.has i = Flag.all.any fun flag => decide (i = flag.position) := by
  rcases Nat.lt_or_ge i 32 with hi | hi
  · have hall : ∀ i < 32,
        named.has i = Flag.all.any fun flag => decide (i = flag.position) := by decide
    exact hall i hi
  · have hp : ∀ flag ∈ Flag.all, flag.position < 32 := by decide
    rw [has_eq_false _ hi, eq_comm, List.any_eq_false]
    intro flag hm he
    have hlt := hp flag hm
    have heq := of_decide_eq_true he
    omega

theorem union_partMasks (m : Mask) : union m.partMasks = m := by
  apply ext_has
  intro i
  have hrest : (if (m.without named).bits = 0 then [] else [m.without named]).any (·.has i) =
      (m.has i && !named.has i) := by
    rw [← has_without]
    split
    next h => simp [has, h]
    next => simp
  have hflags : ((Flag.all.filter fun flag => m.contains flag.mask).map Flag.mask).any (·.has i) =
      (m.has i && named.has i) := by
    rw [Bool.eq_iff_iff, List.any_map, List.any_filter, has_named, List.any_eq_true]
    simp only [contains_mask, Function.comp_apply, has_mask, Bool.and_eq_true, List.any_eq_true,
      decide_eq_true_eq]
    constructor
    · rintro ⟨flag, hm, hc, rfl⟩
      exact ⟨hc, flag, hm, rfl⟩
    · rintro ⟨hc, flag, hm, rfl⟩
      exact ⟨flag, hm, hc, rfl⟩
  rw [has_union, partMasks, List.any_append, hrest, hflags, ← Bool.and_or_distrib_left, Bool.or_not_self,
    Bool.and_true]

theorem toList_toText (m : Mask) :
    m.toText.toList = [' ', '|', ' '].intercalate (m.parts.map String.toList) := by
  rw [toText, String.toList_intercalate]
  rfl

theorem isExpression_toText (m : Mask) : IsExpression m.toText.toList m := by
  have hbar : IsBar [' ', '|', ' '] := ⟨[' '], [' '], by decide, by decide, rfl⟩
  rw [toList_toText]
  exact ⟨_, _, .intercalate hbar _, m.forall₂_parts, m.union_partMasks⟩

theorem lineFeed_not_mem_toText (m : Mask) : '\n' ∉ m.toText.toList := by
  have hparts : ∀ part ∈ m.parts.map String.toList, '\n' ∉ part :=
    ((List.forall₂_and_left _ _).mp (m.forall₂_parts.imp fun _ _ hp => ⟨hp.isWord.not_mem rfl, hp⟩)).1
  have hs : Text.Separated (Eq [' ', '|', ' ']) (m.parts.map String.toList) _ := .intercalate rfl _
  rw [toList_toText]
  exact hs.not_mem hparts (by rintro _ rfl; decide)

theorem parse_toText (m : Mask) : parse m.toText = .ok m := by
  have hparse := parse_of_isExpression m.isExpression_toText
  rwa [String.ofList_toList] at hparse

end ScreenKeyboard.Mask
