import ScreenKeyboard.Document.Parser
import ScreenKeyboard.Proofs.Document.Tokens

namespace ScreenKeyboard

theorem Json.head?_tokens (line : Nat) (j : Json) (ts : List Token) :
    ∀ t ∈ (j.tokens line ++ ts).head?, t.kind ≠ .closeArray ∧ t.kind ≠ .finish := by
  cases j with
  | null | bool b | number n | text s => simp [tokens]
  | array items => cases items <;> simp [tokens]
  | object members => cases members <;> simp [tokens]

theorem Json.length_tokens_pos (line : Nat) (j : Json) : 0 < (j.tokens line).length := by
  cases j with
  | null | bool b | number n | text s => simp [tokens]
  | array items => cases items <;> simp [tokens]
  | object members => cases members <;> simp [tokens]

theorem Json.length_itemTokens_pos (line : Nat) (items : List Json) :
    0 < (Json.itemTokens line items).length := by
  cases items <;> simp [itemTokens]

theorem Node.read_openArray {fuel line : Nat} {ts : List Token}
    (h : ∀ t ∈ ts.head?, t.kind ≠ .closeArray ∧ t.kind ≠ .finish) :
    Node.read (fuel + 1) (⟨line, .openArray⟩ :: ts) =
      (.array line (Items.read fuel ts).1, (Items.read fuel ts).2) := by
  rw [Node.read]
  · rintro line' rest rfl
    exact (h _ rfl).1 rfl
  · rintro line' rest rfl
    exact (h _ rfl).2 rfl

theorem Node.read_text (fuel line : Nat) (text : Lexeme String) (ts : List Token) :
    Node.read (fuel + 1) (⟨line, .text text⟩ :: ts) = (.text line text, ts) :=
  rfl

theorem Node.read_openObject_text {fuel line line' : Nat} {name : Lexeme String} {ts : List Token} :
    Node.read (fuel + 1) (⟨line, .openObject⟩ :: ⟨line', .text name⟩ :: ts) =
      (.object line (Members.read fuel (⟨line', .text name⟩ :: ts)).1,
        (Members.read fuel (⟨line', .text name⟩ :: ts)).2) := by
  rw [Node.read]
  rintro _ _ ⟨⟩

mutual

/-- The tokens of a value are read as its node, with two of fuel for each token. -/
theorem Node.read_tokens (line : Nat) : (j : Json) → (fuel : Nat) → (ts : List Token) →
    2 * (j.tokens line).length ≤ fuel + 1 → Node.read fuel (j.tokens line ++ ts) = (j.node line, ts)
  | .null, fuel + 1, ts, _ => rfl
  | .bool _, fuel + 1, ts, _ => rfl
  | .number _, fuel + 1, ts, _ => rfl
  | .text _, fuel + 1, ts, _ => rfl
  | .array [], fuel + 1, ts, _ => rfl
  | .object [], fuel + 1, ts, _ => rfl
  | .array (item :: items), fuel + 1, ts, hfuel => by
    simp only [Json.tokens, List.length_cons, List.length_append] at hfuel
    have hitems := Items.read_tokens line item items fuel ts (by omega)
    rw [Json.tokens, List.cons_append, List.append_assoc,
      Node.read_openArray (item.head?_tokens line _), hitems, Json.node]
  | .object ((name, value) :: members), fuel + 1, ts, hfuel => by
    simp only [Json.tokens, List.length_cons, List.length_append] at hfuel
    have hmembers := Members.read_tokens line name value members fuel ts (by omega)
    simp only [Json.tokens, List.cons_append, List.append_assoc]
    rw [Node.read_openObject_text, hmembers, Json.node]
  | j, 0, _, hfuel => by
    have hpos := j.length_tokens_pos line
    omega
termination_by j => sizeOf j

theorem Items.read_tokens (line : Nat) : (item : Json) → (items : List Json) → (fuel : Nat) →
    (ts : List Token) →
      2 * ((item.tokens line).length + (Json.itemTokens line items).length) ≤ fuel + 2 →
        Items.read fuel (item.tokens line ++ (Json.itemTokens line items ++ ts)) =
          (Json.itemNodes line (item :: items), ts)
  | item, items, 0, _, hfuel => by
    have hpos := item.length_tokens_pos line
    have hrest := Json.length_itemTokens_pos line items
    omega
  | item, [], fuel + 1, ts, hfuel => by
    rw [Json.itemTokens, List.length_singleton] at hfuel
    have hitem := Node.read_tokens line item fuel (Json.itemTokens line [] ++ ts) (by omega)
    rw [Items.read, hitem]
    rfl
  | item, next :: items, fuel + 1, ts, hfuel => by
    have hpos := item.length_tokens_pos line
    rw [Json.itemTokens, List.length_cons, List.length_append] at hfuel
    have hitem := Node.read_tokens line item fuel (Json.itemTokens line (next :: items) ++ ts)
      (by omega)
    have hitems := Items.read_tokens line next items fuel ts (by omega)
    rw [Items.read, hitem]
    simp only [Json.itemTokens, List.cons_append, List.append_assoc, hitems, Json.itemNodes]
termination_by item items => sizeOf item + sizeOf items

theorem Members.read_tokens (line : Nat) : (name : String) → (value : Json) →
    (members : List (String × Json)) → (fuel : Nat) → (ts : List Token) →
      2 * (2 + (value.tokens line).length + (Json.memberTokens line members).length) ≤ fuel + 2 →
        Members.read fuel (⟨line, .text (.ok name)⟩ :: ⟨line, .colon⟩ ::
            (value.tokens line ++ (Json.memberTokens line members ++ ts))) =
          (Json.memberNodes line ((name, value) :: members), ts)
  | _, _, _, 0, _, hfuel => by omega
  | _, _, _, 1, _, hfuel => by omega
  | name, value, [], fuel + 2, ts, hfuel => by
    rw [Json.memberTokens, List.length_singleton] at hfuel
    have hvalue := Node.read_tokens line value (fuel + 1) (Json.memberTokens line [] ++ ts)
      (by omega)
    rw [Members.read, Node.read_text]
    simp only [hvalue]
    rfl
  | name, value, (name', value') :: members, fuel + 2, ts, hfuel => by
    simp only [Json.memberTokens, List.length_cons, List.length_append] at hfuel
    have hvalue := Node.read_tokens line value (fuel + 1)
      (Json.memberTokens line ((name', value') :: members) ++ ts) (by omega)
    have hmembers := Members.read_tokens line name' value' members (fuel + 1) ts (by omega)
    rw [Members.read, Node.read_text]
    simp only [hvalue]
    simp only [Json.memberTokens, List.cons_append, List.append_assoc, hmembers, Json.memberNodes,
      Token.headLine]
termination_by _ value members => sizeOf value + sizeOf members

end

theorem Document.ofText_toText {j : Json} (hj : j.IsWhole) :
    Document.ofText j.toText = ⟨j.node 1, none⟩ := by
  have hscan : Token.ofText j.toText = j.tokens 1 ++ [⟨1, .finish⟩] := by
    have hend : Lexeme.EndsNumber [] := nofun
    have hs := Token.scan_render 1 j hj [] hend
    rw [List.append_nil] at hs
    rw [Token.ofText, Json.toText, String.toList_ofList, hs, Token.scan]
  have hlength : (j.tokens 1 ++ [(⟨1, .finish⟩ : Token)]).length = (j.tokens 1).length + 1 :=
    List.length_append
  rw [Document.ofText, hscan, hlength, Node.read_tokens 1 j _ _ (by omega)]

namespace Json

theorem lineFeed_not_mem_digits (n : Nat) : '\n' ∉ Text.digits 10 n := fun h =>
  absurd (Lexeme.isDigit_of_mem_digits _ h) (by decide)

theorem lineFeed_not_mem_escaped (c : Char) : '\n' ∉ escaped c := by
  have hdigit : ∀ d < 16, '\n' ≠ Text.digitChar d := by decide
  unfold escaped
  split
  case h_8 hfeed _ _ =>
    split
    next h =>
      have hh := hdigit (c.toNat / 16) (by omega)
      have hl := hdigit (c.toNat % 16) (by omega)
      simp [hh, hl]
    next => simpa using fun he => hfeed he.symm
  all_goals decide

theorem lineFeed_not_mem_quote (s : String) : '\n' ∉ quote s := by
  simp [quote, lineFeed_not_mem_escaped]

theorem lineFeed_not_mem_numeral {n : Number} (hn : n.IsWhole) : '\n' ∉ numeral n := by
  cases n with
  | natural n => exact lineFeed_not_mem_digits n
  | negative n => simpa [numeral] using lineFeed_not_mem_digits n
  | real x => exact hn.elim

mutual

theorem lineFeed_not_mem_render : (j : Json) → j.IsWhole → '\n' ∉ j.render
  | .null, _ | .bool true, _ | .bool false, _ | .array [], _ | .object [], _ => by decide
  | .number n, hj => by
    rw [IsWhole] at hj
    rw [render]
    exact lineFeed_not_mem_numeral hj
  | .text s, _ => by
    rw [render]
    exact lineFeed_not_mem_quote s
  | .array (item :: items), hj => by
    rw [IsWhole, AreWhole] at hj
    have hitem := lineFeed_not_mem_render item hj.1
    have hitems := lineFeed_not_mem_renderItems items hj.2
    simp [render, hitem, hitems]
  | .object ((name, value) :: members), hj => by
    rw [IsWhole, MembersAreWhole] at hj
    have hvalue := lineFeed_not_mem_render value hj.1
    have hmembers := lineFeed_not_mem_renderMembers members hj.2
    simp [render, lineFeed_not_mem_quote, hvalue, hmembers]

theorem lineFeed_not_mem_renderItems : (items : List Json) → AreWhole items →
    '\n' ∉ renderItems items
  | [], _ => by decide
  | item :: items, hj => by
    rw [AreWhole] at hj
    have hitem := lineFeed_not_mem_render item hj.1
    have hitems := lineFeed_not_mem_renderItems items hj.2
    simp [renderItems, hitem, hitems]

theorem lineFeed_not_mem_renderMembers : (members : List (String × Json)) →
    MembersAreWhole members → '\n' ∉ renderMembers members
  | [], _ => by decide
  | (name, value) :: members, hj => by
    rw [MembersAreWhole] at hj
    have hvalue := lineFeed_not_mem_render value hj.1
    have hmembers := lineFeed_not_mem_renderMembers members hj.2
    simp [renderMembers, lineFeed_not_mem_quote, hvalue, hmembers]

end

end Json

end ScreenKeyboard
