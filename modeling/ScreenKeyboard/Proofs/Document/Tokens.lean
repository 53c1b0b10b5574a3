import Mathlib.Tactic.Common
import ScreenKeyboard.Document.Token
import ScreenKeyboard.Proofs.Text.Numeral

namespace ScreenKeyboard

def Number.IsWhole : Number → Prop
  | natural n => n ≤ Decimal.significandLimit
  | negative n => 0 < n ∧ n ≤ Lexeme.largestNegative
  | real _ => False

namespace Lexeme

theorem fourDigits?_digitChar {n : Nat} (hn : n < 256) :
    fourDigits? '0' '0' (Text.digitChar (n / 16)) (Text.digitChar (n % 16)) = some n := by
  have hz : Text.digitValue? '0' = some 0 := rfl
  have hh : Text.digitValue? (Text.digitChar (n / 16)) = some (n / 16) :=
    Text.digitValue?_digitChar (by omega)
  have hl : Text.digitValue? (Text.digitChar (n % 16)) = some (n % 16) :=
    Text.digitValue?_digitChar (by omega)
  have hs : ((0 * 16 + 0) * 16 + n / 16) * 16 + n % 16 = n := by omega
  simp only [fourDigits?, hz, hh, hl, bind, Option.bind, pure, hs]

theorem scanText_escaped (line : Nat) (c : Char) (cs : List Char) :
    scanText line (Json.escaped c ++ cs) =
      (.char c :: (scanText line cs).1, (scanText line cs).2) := by
  unfold Json.escaped
  split
  all_goals try rfl
  next hquote hslash _ _ _ _ _ =>
    split
    next h =>
      have hu := fourDigits?_digitChar (n := c.toNat) (by omega)
      have hp : pieceOfUnit c.toNat = .char c := by
        rw [pieceOfUnit, if_neg (by omega), Char.ofNat_toNat]
      simp only [List.cons_append, List.nil_append, scanText, hu, hp]
    next h =>
      rw [List.singleton_append, scanText]
      · rw [if_neg h]
      · exact hquote
      -- Every other row needs a backslash.
      all_goals
        intros
        exact hslash ‹c = '\\'›

theorem scanText_flatMap_escaped (line : Nat) (cs rest : List Char) :
    scanText line (cs.flatMap Json.escaped ++ '"' :: rest) = (cs.map .char, .closed rest) := by
  induction cs with
  | nil => rfl
  | cons c cs ih =>
    rw [List.flatMap_cons, List.append_assoc, scanText_escaped, ih]
    rfl

theorem joinPieces_map_char (line : Nat) (cs : List Char) :
    joinPieces line none (cs.map .char) = .ok cs := by
  induction cs with
  | nil => rfl
  | cons c cs ih => simp only [List.map_cons, joinPieces, ih]

theorem ofPieces_map_char (line : Nat) (s : String) :
    ofPieces line (s.toList.map .char) none = .ok s := by
  simp [ofPieces, joinPieces_map_char, ok, Except.map]

/-- What comes next is no part of a number before it. -/
def EndsNumber (rest : List Char) : Prop :=
  ∀ c ∈ rest.head?, isDigit c = false ∧ c ≠ '.' ∧ c ≠ 'e' ∧ c ≠ 'E'

theorem isDigit_digitChar {d : Nat} (hd : d < 10) : isDigit (Text.digitChar d) = true := by
  revert hd d
  decide

theorem toNat_digitChar {d : Nat} (hd : d < 10) : (Text.digitChar d).toNat - 48 = d := by
  revert hd d
  decide

theorem isDigit_of_mem_digits {n : Nat} : ∀ c ∈ Text.digits 10 n, isDigit c = true := by
  intro c hc
  obtain ⟨d, hd, rfl⟩ := Text.exists_digitChar_of_mem (by decide) hc
  exact isDigit_digitChar hd

theorem leadingDigits_append {cs rest : List Char} (hcs : ∀ c ∈ cs, isDigit c = true)
    (hrest : EndsNumber rest) : leadingDigits (cs ++ rest) = cs.map fun c => c.toNat - 48 := by
  have ht : rest.takeWhile isDigit = [] := by
    cases rest with
    | nil => rfl
    | cons c rest => exact List.takeWhile_cons_of_neg (by simp [(hrest c rfl).1])
  rw [leadingDigits, List.takeWhile_append_of_pos hcs, ht, List.append_nil]

theorem afterDigits_append {cs rest : List Char} (hcs : ∀ c ∈ cs, isDigit c = true)
    (hrest : EndsNumber rest) : afterDigits (cs ++ rest) = rest := by
  rw [afterDigits, List.dropWhile_append_of_pos hcs]
  cases rest with
  | nil => rfl
  | cons c rest => exact List.dropWhile_cons_of_neg (by simp [(hrest c rfl).1])

def digitValues (n : Nat) : List Nat :=
  (Text.digits 10 n).map fun c => c.toNat - 48

theorem digitValues_of_lt {n : Nat} (hn : n < 10) : digitValues n = [n] := by
  rw [digitValues, Text.digits_of_lt hn, List.map_singleton, toNat_digitChar hn]

theorem digitValues_of_le {n : Nat} (hn : 10 ≤ n) :
    digitValues n = digitValues (n / 10) ++ [n % 10] := by
  rw [digitValues, Text.digits_of_le (by decide) hn, List.map_append, List.map_singleton,
    toNat_digitChar (Nat.mod_lt _ (by decide))]
  rfl

theorem exists_digitValues_eq {n : Nat} (hn : 0 < n) : ∃ d ds, digitValues n = (d + 1) :: ds := by
  induction n using Nat.strongRecOn with
  | ind n ih =>
    rcases Nat.lt_or_ge n 10 with hlt | hle
    · exact ⟨n - 1, [], by rw [digitValues_of_lt hlt, Nat.sub_add_cancel hn]⟩
    · obtain ⟨d, ds, hd⟩ := ih (n / 10) (by omega) (by omega)
      exact ⟨d, ds ++ [n % 10], by rw [digitValues_of_le hle, hd, List.cons_append]⟩

theorem takeDigits_append {acc s : Nat} {ds es : List Nat} (h : Decimal.takeDigits acc ds = (s, [])) :
    Decimal.takeDigits acc (ds ++ es) = Decimal.takeDigits s es := by
  fun_induction Decimal.takeDigits acc ds with
  | case1 acc => cases h; rfl
  | case2 acc d ds hle ih =>
    rw [List.cons_append, Decimal.takeDigits, if_pos hle]
    exact ih h
  | case3 => exact nomatch h

theorem takeDigits_digitValues {n : Nat} (hn : n ≤ Decimal.significandLimit) :
    Decimal.takeDigits 0 (digitValues n) = (n, []) := by
  induction n using Nat.strongRecOn with
  | ind n ih =>
    rcases Nat.lt_or_ge n 10 with hlt | hle
    · rw [digitValues_of_lt hlt, Decimal.takeDigits, if_pos (by omega), Nat.zero_mul, Nat.zero_add]
      rfl
    · have hdiv := ih (n / 10) (by omega) (by omega)
      rw [digitValues_of_le hle, takeDigits_append hdiv, Decimal.takeDigits, if_pos (by omega),
        Nat.div_add_mod']
      rfl

theorem scanExponent_end (line : Nat) (w : Decimal.Written) {rest : List Char}
    (hrest : EndsNumber rest) : scanExponent line w rest = (numberLexeme line w, rest) := by
  unfold scanExponent
  split
  · rfl
  next c rest =>
    obtain ⟨_, _, he, hE⟩ := hrest c rfl
    rw [if_neg (by simp [he, hE])]

theorem scanFraction_end (line : Nat) (w : Decimal.Written) {rest : List Char}
    (hrest : EndsNumber rest) : scanFraction line w rest = (numberLexeme line w, rest) := by
  unfold scanFraction
  split
  next rest => exact absurd rfl (hrest '.' rfl).2.1
  next => exact scanExponent_end line w hrest

theorem scanNumber_digits (line : Nat) (negative : Bool) (n : Nat) {rest : List Char}
    (hrest : EndsNumber rest) :
    scanNumber line negative (Text.digits 10 n ++ rest) =
      (numberLexeme line { negative, whole := digitValues n }, rest) := by
  have hlead : leadingDigits (Text.digits 10 n ++ rest) = digitValues n :=
    leadingDigits_append isDigit_of_mem_digits hrest
  unfold scanNumber
  rw [hlead, afterDigits_append isDigit_of_mem_digits hrest]
  -- No digit may come after a zero in front, so zero is a case of its own.
  rcases Nat.eq_zero_or_pos n with rfl | hpos
  · rw [digitValues_of_lt (by decide)]
    exact scanFraction_end line _ hrest
  · obtain ⟨d, ds, hd⟩ := exists_digitValues_eq hpos
    rw [hd]
    exact scanFraction_end line _ hrest

theorem numberLexeme_natural (line : Nat) {n : Nat} (hn : n ≤ Decimal.significandLimit) :
    numberLexeme line { negative := false, whole := digitValues n } = .ok (.natural n) := by
  have hs : Decimal.Written.significand { negative := false, whole := digitValues n } = (n, 0) := by
    simp [Decimal.Written.significand, takeDigits_digitValues hn]
  simp [numberLexeme, numberOf, hs, ok]

theorem numberLexeme_negative (line : Nat) {n : Nat} (hpos : 0 < n) (hn : n ≤ largestNegative) :
    numberLexeme line { negative := true, whole := digitValues n } = .ok (.negative n) := by
  have hle : n ≤ Decimal.significandLimit := Nat.le_trans hn (by decide)
  have hs : Decimal.Written.significand { negative := true, whole := digitValues n } = (n, 0) := by
    simp [Decimal.Written.significand, takeDigits_digitValues hle]
  simp [numberLexeme, numberOf, hs, ok, hpos, hn]

end Lexeme

mutual

def Json.IsWhole : Json → Prop
  | .null | .bool _ | .text _ => True
  | .number n => n.IsWhole
  | .array items => Json.AreWhole items
  | .object members => Json.MembersAreWhole members

def Json.AreWhole : List Json → Prop
  | [] => True
  | item :: items => item.IsWhole ∧ Json.AreWhole items

def Json.MembersAreWhole : List (String × Json) → Prop
  | [] => True
  | (_, value) :: members => value.IsWhole ∧ Json.MembersAreWhole members

end

mutual

def Json.tokens (line : Nat) : Json → List Token
  | .null => [⟨line, .null⟩]
  | .bool b => [⟨line, .bool b⟩]
  | .number n => [⟨line, .number (.ok n)⟩]
  | .text s => [⟨line, .text (.ok s)⟩]
  | .array [] => [⟨line, .openArray⟩, ⟨line, .closeArray⟩]
  | .array (item :: items) => ⟨line, .openArray⟩ :: (item.tokens line ++ Json.itemTokens line items)
  | .object [] => [⟨line, .openObject⟩, ⟨line, .closeObject⟩]
  | .object ((name, value) :: members) =>
    ⟨line, .openObject⟩ :: ⟨line, .text (.ok name)⟩ :: ⟨line, .colon⟩ ::
      (value.tokens line ++ Json.memberTokens line members)

def Json.itemTokens (line : Nat) : List Json → List Token
  | [] => [⟨line, .closeArray⟩]
  | item :: items => ⟨line, .comma⟩ :: (item.tokens line ++ Json.itemTokens line items)

def Json.memberTokens (line : Nat) : List (String × Json) → List Token
  | [] => [⟨line, .closeObject⟩]
  | (name, value) :: members =>
    ⟨line, .comma⟩ :: ⟨line, .text (.ok name)⟩ :: ⟨line, .colon⟩ ::
      (value.tokens line ++ Json.memberTokens line members)

end

namespace Token

theorem scan_of_next {line : Nat} {c : Char} {cs rest : List Char} {kind : TokenKind}
    (hc : isSpace c = false) (h : next line c cs = (kind, some rest)) :
    scan line (c :: cs) = ⟨line, kind⟩ :: scan line rest := by
  rw [scan, if_neg (by simp [hc])]
  split
  next he =>
    rw [h] at he
    cases he
    rfl
  next he =>
    rw [h] at he
    cases he

theorem scan_punctuation {line : Nat} {c : Char} {cs : List Char} {kind : TokenKind}
    (hc : isSpace c = false) (h : punctuation? c = some kind) :
    scan line (c :: cs) = ⟨line, kind⟩ :: scan line cs := by
  apply scan_of_next hc
  rw [next, h]

theorem scan_quote (line : Nat) (s : String) (rest : List Char) :
    scan line (Json.quote s ++ rest) = ⟨line, .text (.ok s)⟩ :: scan line rest := by
  have ht := Lexeme.scanText_flatMap_escaped line s.toList rest
  have hq : Json.quote s ++ rest = '"' :: (s.toList.flatMap Json.escaped ++ '"' :: rest) := by
    simp [Json.quote]
  have hp : punctuation? '"' = none := rfl
  have hw : word? '"' = none := rfl
  rw [hq]
  apply scan_of_next rfl
  rw [next, hp]
  simp only [hw, ht, if_pos, Lexeme.ofPieces_map_char]

theorem next_digitChar (line : Nat) {d : Nat} (hd : d < 10) (cs : List Char) :
    next line (Text.digitChar d) cs =
      (.number (Lexeme.scanNumber line false (Text.digitChar d :: cs)).1,
        some (Lexeme.scanNumber line false (Text.digitChar d :: cs)).2) := by
  have hall : ∀ d < 10, (punctuation? (Text.digitChar d)).isNone = true ∧
      (word? (Text.digitChar d)).isNone = true ∧ Text.digitChar d ≠ '"' ∧
        Text.digitChar d ≠ '-' := by decide
  obtain ⟨hp, hw, hq, hm⟩ := hall d hd
  rw [next, Option.isNone_iff_eq_none.mp hp]
  simp only [Option.isNone_iff_eq_none.mp hw, if_neg hq, if_neg hm,
    if_pos (Lexeme.isDigit_digitChar hd)]

theorem scan_numeral (line : Nat) {n : Number} (hn : n.IsWhole) {rest : List Char}
    (hrest : Lexeme.EndsNumber rest) :
    scan line (Json.numeral n ++ rest) = ⟨line, .number (.ok n)⟩ :: scan line rest := by
  cases n with
  | natural n =>
    have hscan := Lexeme.scanNumber_digits line false n hrest
    rw [Lexeme.numberLexeme_natural line hn] at hscan
    rw [Json.numeral]
    cases hds : Text.digits 10 n with
    | nil => exact absurd hds (Text.digits_ne_nil 10 n)
    | cons c cs =>
      obtain ⟨d, hd, rfl⟩ := Text.exists_digitChar_of_mem (by decide) (hds ▸ List.mem_cons_self)
      rw [hds, List.cons_append] at hscan
      have hspace : ∀ d < 10, isSpace (Text.digitChar d) = false := by decide
      rw [List.cons_append]
      apply scan_of_next (hspace d hd)
      rw [next_digitChar line hd, hscan]
  | negative n =>
    have hscan := Lexeme.scanNumber_digits line true n hrest
    rw [Lexeme.numberLexeme_negative line hn.1 hn.2] at hscan
    have hnext : ∀ cs, next line '-' cs = (.number (Lexeme.scanNumber line true cs).1,
        some (Lexeme.scanNumber line true cs).2) := fun _ => rfl
    apply scan_of_next rfl
    rw [hnext]
    exact congrArg (fun found => (TokenKind.number found.1, some found.2)) hscan
  | real x => exact hn.elim

theorem scan_word {line : Nat} {c : Char} {word : List Char} {kind : TokenKind}
    (hc : isSpace c = false) (hp : punctuation? c = none) (hw : word? c = some (word, kind))
    (rest : List Char) : scan line (c :: (word ++ rest)) = ⟨line, kind⟩ :: scan line rest := by
  have hword : scanWord line word (word ++ rest) = .ok rest := by
    clear hw
    induction word with
    | nil => rfl
    | cons w word ih => rw [List.cons_append, scanWord, if_pos rfl, ih]
  apply scan_of_next hc
  rw [next, hp]
  simp only [hw, hword]

theorem endsNumber_renderItems (items : List Json) (rest : List Char) :
    Lexeme.EndsNumber (Json.renderItems items ++ rest) := by
  cases items with
  | nil => simp [Json.renderItems, Lexeme.EndsNumber, Lexeme.isDigit]
  | cons item items => simp [Json.renderItems, Lexeme.EndsNumber, Lexeme.isDigit]

theorem endsNumber_renderMembers (members : List (String × Json)) (rest : List Char) :
    Lexeme.EndsNumber (Json.renderMembers members ++ rest) := by
  cases members with
  | nil => simp [Json.renderMembers, Lexeme.EndsNumber, Lexeme.isDigit]
  | cons member members => simp [Json.renderMembers, Lexeme.EndsNumber, Lexeme.isDigit]

mutual

/-- The compact text of a value is scanned into its tokens. -/
theorem scan_render (line : Nat) : (j : Json) → j.IsWhole → (rest : List Char) →
    Lexeme.EndsNumber rest → scan line (j.render ++ rest) = j.tokens line ++ scan line rest
  | .null, _, rest, _ => by
    rw [Json.render, Json.tokens]
    exact scan_word rfl rfl rfl rest
  | .bool true, _, rest, _ => by
    rw [Json.render, Json.tokens]
    exact scan_word rfl rfl rfl rest
  | .bool false, _, rest, _ => by
    rw [Json.render, Json.tokens]
    exact scan_word rfl rfl rfl rest
  | .number n, hj, rest, hrest => by
    rw [Json.IsWhole] at hj
    rw [Json.render, Json.tokens]
    exact scan_numeral line hj hrest
  | .text s, _, rest, _ => by
    rw [Json.render, Json.tokens]
    exact scan_quote line s rest
  | .array [], _, rest, _ => by
    rw [Json.render, Json.tokens]
    exact (scan_punctuation rfl rfl).trans (congrArg _ (scan_punctuation rfl rfl))
  | .array (item :: items), hj, rest, _ => by
    rw [Json.IsWhole, Json.AreWhole] at hj
    have hitem := scan_render line item hj.1 _ (endsNumber_renderItems items rest)
    have hitems := scan_renderItems line items hj.2 rest
    simp only [Json.render, Json.tokens, List.cons_append, List.append_assoc]
    rw [scan_punctuation rfl rfl, hitem, hitems]
  | .object [], _, rest, _ => by
    rw [Json.render, Json.tokens]
    exact (scan_punctuation rfl rfl).trans (congrArg _ (scan_punctuation rfl rfl))
  | .object ((name, value) :: members), hj, rest, _ => by
    rw [Json.IsWhole, Json.MembersAreWhole] at hj
    have hvalue := scan_render line value hj.1 _ (endsNumber_renderMembers members rest)
    have hmembers := scan_renderMembers line members hj.2 rest
    simp only [Json.render, Json.tokens, List.cons_append, List.append_assoc]
    rw [scan_punctuation rfl rfl, scan_quote, scan_punctuation rfl rfl, hvalue, hmembers]

theorem scan_renderItems (line : Nat) : (items : List Json) → Json.AreWhole items →
    (rest : List Char) →
      scan line (Json.renderItems items ++ rest) = Json.itemTokens line items ++ scan line rest
  | [], _, rest => by
    rw [Json.renderItems, Json.itemTokens]
    exact scan_punctuation rfl rfl
  | item :: items, hj, rest => by
    rw [Json.AreWhole] at hj
    have hitem := scan_render line item hj.1 _ (endsNumber_renderItems items rest)
    have hitems := scan_renderItems line items hj.2 rest
    simp only [Json.renderItems, Json.itemTokens, List.cons_append, List.append_assoc]
    rw [scan_punctuation rfl rfl, hitem, hitems]

theorem scan_renderMembers (line : Nat) : (members : List (String × Json)) →
    Json.MembersAreWhole members → (rest : List Char) →
      scan line (Json.renderMembers members ++ rest) =
        Json.memberTokens line members ++ scan line rest
  | [], _, rest => by
    rw [Json.renderMembers, Json.memberTokens]
    exact scan_punctuation rfl rfl
  | (name, value) :: members, hj, rest => by
    rw [Json.MembersAreWhole] at hj
    have hvalue := scan_render line value hj.1 _ (endsNumber_renderMembers members rest)
    have hmembers := scan_renderMembers line members hj.2 rest
    simp only [Json.renderMembers, Json.memberTokens, List.cons_append, List.append_assoc]
    rw [scan_punctuation rfl rfl, scan_quote, scan_punctuation rfl rfl, hvalue, hmembers]

end

end Token

end ScreenKeyboard
