import ScreenKeyboard.Keysym.Basic
import ScreenKeyboard.Proofs.Text.Spelling

namespace ScreenKeyboard

namespace Keysym

theorem toNat_ofCodePoint (c : Char) : (ofCodePoint c).toNat = 0x01000000 + c.toNat := by
  have hlt : c.toNat < 2 ^ 24 := by
    have hvalid : c.toNat.isValidChar := c.valid
    unfold Nat.isValidChar at hvalid
    omega
  calc (ofCodePoint c).toNat
      = 2 ^ 24 * 1 ||| c.toNat := by rw [ofCodePoint, UInt32.toNat_or, Char.toNat_val]; rfl
    _ = 2 ^ 24 * 1 + c.toNat := (Nat.two_pow_add_eq_or_of_lt hlt 1).symm
    _ = 0x01000000 + c.toNat := rfl

theorem ofHex?_eq_some_iff {hex : List Char} {k : Keysym} :
    ofHex? hex = some k ↔ ∃ c : Char,
      (Text.Spells 16 hex c.toNat ∨ ∃ ds, hex = '+' :: ds ∧ Text.Spells 16 ds c.toNat) ∧
        k.toNat = 0x01000000 + c.toNat := by
  unfold ofHex?
  constructor
  · intro h
    split at h
    next n hn =>
      obtain ⟨_, hspells⟩ := Text.readNumeral_eq_some_iff.mp hn
      split at h
      next hvalid =>
        cases h
        have hcode : (Char.ofNat n).toNat = n := by
          rw [Char.ofNat, dif_pos hvalid]
          rfl
        refine ⟨Char.ofNat n, ?_, toNat_ofCodePoint _⟩
        rwa [hcode]
      next => exact nomatch h
    next => exact nomatch h
  · rintro ⟨c, hspells, hk⟩
    have hvalid : c.toNat.isValidChar := c.valid
    have hn : Text.readNumeral 16 0xFFFFFFFF hex = some c.toNat := by
      refine Text.readNumeral_eq_some_iff.mpr ⟨?_, hspells⟩
      unfold Nat.isValidChar at hvalid
      omega
    have hcode : ofCodePoint c = k :=
      UInt32.toNat_inj.mp ((toNat_ofCodePoint c).trans hk.symm)
    simp only [hn, hvalid, ↓reduceIte, Char.ofNat_toNat, hcode]

/-- Reading a keysym, where a text without the mark of a code point is looked up in this way. -/
def parseBy (find : String → Option Keysym) (text : String) : Option Keysym :=
  if text.isEmpty then none
  else
    match hexPart? text.toList with
    | some hex => ofHex? hex
    | none => find text

def lookUp (text : String) : Option Keysym :=
  ofName? text <|> ofSingle? text.toList <|> ofNameAnyCase? text

theorem parse?_eq_parseBy : parse? = parseBy lookUp := rfl

theorem hexPart?_append {mark : String} (hmark : mark ∈ ["U+", "u+"]) (hex : String) :
    hexPart? (mark ++ hex).toList = some hex.toList := by
  rw [String.toList_append]
  simp only [List.mem_cons, List.not_mem_nil, or_false] at hmark
  obtain rfl | rfl := hmark <;> rfl

theorem parseBy_append (find : String → Option Keysym) {mark : String}
    (hmark : mark ∈ ["U+", "u+"]) (hex : String) :
    parseBy find (mark ++ hex) = ofHex? hex.toList := by
  have hne : (mark ++ hex).isEmpty = false := by
    rw [Bool.eq_false_iff]
    intro h
    have := hexPart?_append hmark hex
    rw [String.isEmpty_iff.mp h] at this
    exact nomatch this
  rw [parseBy, hne, hexPart?_append hmark]
  rfl

theorem parse?_append {mark : String} (hmark : mark ∈ ["U+", "u+"]) (hex : String) :
    parse? (mark ++ hex) = ofHex? hex.toList :=
  parseBy_append lookUp hmark hex

/-- After the mark of a code point stand digits in hexadecimal for the number of a character, after
a plus sign at most. What else is written there names no keysym, so it is digits alone that are
read, just unless the text has that plus sign. -/
theorem parse?_codePoint_iff (find : String → Option Keysym) {mark : String}
    (hmark : mark ∈ ["U+", "u+"]) (hex : String) :
    parse? = parseBy lookUp ∧
    (∀ k, parseBy find (mark ++ hex) = some k ↔ ∃ c : Char,
      (Text.Spells 16 hex.toList c.toNat ∨
          ∃ ds, hex.toList = '+' :: ds ∧ Text.Spells 16 ds c.toNat) ∧
        k.toNat = 0x01000000 + c.toNat) ∧
    ((∀ k, parseBy find (mark ++ hex) = some k ↔ ∃ c : Char,
        Text.Spells 16 hex.toList c.toNat ∧ k.toNat = 0x01000000 + c.toNat) ↔
      ¬∃ ds, ∃ c : Char, hex.toList = '+' :: ds ∧ Text.Spells 16 ds c.toNat) := by
  rw [parseBy_append find hmark]
  refine ⟨parse?_eq_parseBy, fun _ => ofHex?_eq_some_iff, ?_, ?_⟩
  · rintro h ⟨ds, c, hplus, hds⟩
    have hread : ofHex? hex.toList = some (ofCodePoint c) :=
      ofHex?_eq_some_iff.mpr ⟨c, .inr ⟨ds, hplus, hds⟩, toNat_ofCodePoint c⟩
    obtain ⟨c', hspells, _⟩ := (h (ofCodePoint c)).mp hread
    rw [hplus] at hspells
    exact Text.not_spells_plus 16 ds c'.toNat hspells
  · intro hplus k
    rw [ofHex?_eq_some_iff]
    constructor
    · rintro ⟨c, hspells | ⟨ds, he, hds⟩, hk⟩
      · exact ⟨c, hspells, hk⟩
      · exact absurd ⟨ds, c, he, hds⟩ hplus
    · rintro ⟨c, hspells, hk⟩
      exact ⟨c, .inl hspells, hk⟩

theorem parse?_codePoint_iff_padded :
    "u+" ∈ ["U+", "u+"] ∧ parseBy (fun _ => none) ("u+" ++ "00e9") = some 0x010000E9 := by
  have hmark : "u+" ∈ ["U+", "u+"] := by decide
  obtain ⟨_, hread, _⟩ := parse?_codePoint_iff (fun _ => none) hmark "00e9"
  refine ⟨hmark, (hread 0x010000E9).mpr ⟨'é', .inl ?_, by decide⟩⟩
  exact ⟨by decide, [0, 0, 14, 9], by decide, by decide⟩

/-- A plus sign is no digit, and what stands after it is read all the same. -/
theorem parse?_plus : parse? "U++41" = some 0x01000041 ∧ ¬∃ n, Text.Spells 16 "+41".toList n :=
  ⟨by decide, fun ⟨n, h⟩ => Text.not_spells_plus 16 ['4', '1'] n h⟩

theorem codePoint_ofCodePoint (c : Char) : codePoint (ofCodePoint c) = c.toNat := by
  have hvalid : c.toNat.isValidChar := c.valid
  have hk := toNat_ofCodePoint c
  unfold Nat.isValidChar at hvalid
  unfold codePoint
  simp only [hk]
  rw [if_neg (by omega), if_neg (by omega), if_neg (by omega), if_neg (by omega), if_pos (by omega)]
  omega

theorem char?_ofCodePoint (c : Char) :
    char? (ofCodePoint c) = if isControl c then none else some c := by
  have hzero : c = '\x00' ∨ isControl c ↔ isControl c = true := by
    refine ⟨?_, .inr⟩
    rintro (rfl | h)
    · rfl
    · exact h
  unfold char?
  rw [codePoint_ofCodePoint, Char.ofNat_toNat]
  simp only [hzero]

theorem isFunction_ofCodePoint (c : Char) : isFunction (ofCodePoint c) = false := by
  rw [isFunction, toNat_ofCodePoint, beq_eq_false_iff_ne]
  omega

theorem modifiers_ofCodePoint (c : Char) : modifiers (ofCodePoint c) = .empty := by
  have hk := toNat_ofCodePoint c
  unfold modifiers
  split
  all_goals first | rfl | omega

theorem parse?_of_spells {c : Char} {hex : List Char} (h : Text.Spells 16 hex c.toNat) :
    parse? ("U+" ++ String.ofList hex) = some (ofCodePoint c) := by
  rw [parse?_append (by simp), String.toList_ofList]
  exact ofHex?_eq_some_iff.mpr ⟨c, .inl h, toNat_ofCodePoint c⟩

end Keysym

/-- The symbol of a code point shows the character, and its own name if the character is a control.
It raises no modifier and is never that of a function key. -/
theorem Symbol.ofKeysym?_codePoint {c : Char} {hex : List Char} (h : Text.Spells 16 hex c.toNat) :
    Symbol.ofKeysym? ("U+" ++ String.ofList hex) =
      some
        { name := "U+" ++ String.ofList hex
          label :=
            some (if Keysym.isControl c then "U+" ++ String.ofList hex else String.ofList [c])
          category :=
            if !Keysym.isControl c && Text.isAlphabetic c then .letter else .keyName
          modifiers := .empty
          keysym := some (Keysym.ofCodePoint c) } ∧
      (Keysym.ofCodePoint c).toNat = 0x01000000 + c.toNat := by
  refine ⟨?_, Keysym.toNat_ofCodePoint c⟩
  rw [Symbol.ofKeysym?, Keysym.parse?_of_spells h]
  simp only [Keysym.char?_ofCodePoint, Keysym.isFunction_ofCodePoint, Keysym.modifiers_ofCodePoint]
  by_cases hcontrol : Keysym.isControl c
  · simp [hcontrol]
  · simp [hcontrol]

theorem Symbol.ofKeysym?_codePoint_pi :
    Symbol.ofKeysym? ("U+" ++ String.ofList ['0', '3', 'c', '0']) =
      some
        { name := "U+03c0"
          label := some "π"
          category := .letter
          modifiers := .empty
          keysym := some 0x010003C0 } := by
  have h : Text.Spells 16 ['0', '3', 'c', '0'] 'π'.toNat :=
    ⟨by decide, [0, 3, 12, 0], by decide, by decide⟩
  refine (Symbol.ofKeysym?_codePoint h).1.trans ?_
  decide

end ScreenKeyboard
