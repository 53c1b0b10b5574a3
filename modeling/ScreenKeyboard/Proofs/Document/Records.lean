import ScreenKeyboard.Document.Symbol
import ScreenKeyboard.Proofs.Document.Nodes
import ScreenKeyboard.Proofs.Modifier.Expression

namespace ScreenKeyboard

@[simp] theorem join_map_some {α : Type} (o : Option α) : (o.map some).join = o := by
  cases o <;> rfl

@[simp] theorem Lexeme.kept_ok {α : Type} (a : α) : (Lexeme.ok a).kept = .ok a := rfl

/-- The decoder gives this value for this document, however it is read and wherever it stands. -/
def Decoder.Reads {α : Type} (decoder : Decoder α) (a : α) (j : Json) : Prop :=
  ∀ r line, decoder r (j.node line) = .ok a

namespace Decoder

theorem reads_parsed {α : Type} {expected : String} {parse : String → Except Mismatch α} {s : String}
    {a : α} (h : parse s = .ok a) : (parsed expected parse).Reads a (.text s) := by
  intro r line
  simp only [parsed, Json.node, Lexeme.kept_ok, h]

theorem reads_text (s : String) : text.Reads s (.text s) :=
  reads_parsed rfl

theorem reads_mask (m : Mask) : mask.Reads m m.toJson :=
  reads_parsed (by rw [m.parse_toText]; rfl)

theorem reads_whole {α : Type} {expected : String} {accept : Int → Option α} {n : Nat} {a : α}
    (h : accept n = some a) : (whole expected accept).Reads a (.natural n) := by
  intro r line
  simp only [whole, Json.natural, Json.node, Lexeme.kept_ok, h]

theorem reads_natural {expected : String} {n : Nat} (hn : n ≤ wordLimit) :
    (natural expected).Reads n (.natural n) := by
  rw [natural]
  apply reads_whole
  rw [if_pos (by omega), Int.toNat_natCast]

theorem reads_index {n : Nat} (hn : n ≤ wordLimit) : index.Reads n (.natural n) :=
  reads_natural hn

theorem reads_uint32 (n : UInt32) : uint32.Reads n (.natural n.toNat) := by
  apply reads_whole
  have hn := n.toNat_lt
  rw [if_pos (by omega), Int.toNat_natCast, UInt32.ofNat_toNat]

theorem reads_whole_ofInt {α : Type} {expected : String} {accept : Int → Option α} {n : Int} {a : α}
    (h : accept n = some a) : (whole expected accept).Reads a (.number (.ofInt n)) := by
  intro r line
  rcases Int.lt_or_le n 0 with hneg | hpos
  · have hn : -(n.natAbs : Int) = n := by omega
    simp only [whole, Number.ofInt, if_neg (Int.not_le.mpr hneg), Json.node, Lexeme.kept_ok, hn, h]
  · simp only [whole, Number.ofInt, if_pos hpos, Json.node, Lexeme.kept_ok, Int.toNat_of_nonneg hpos, h]

theorem reads_int32 (n : Int32) : int32.Reads n (.number (.ofInt n.toInt)) := by
  apply reads_whole_ofInt
  have hmin := n.le_toInt
  have hmax := n.toInt_lt
  rw [if_pos (by omega), Int32.ofInt_toInt]

theorem Reads.optional {α : Type} {decoder : Decoder α} {a : α} {j : Json} (h : decoder.Reads a j)
    (hj : j ≠ .null) : (optional decoder).Reads (some a) j := by
  intro r line
  have hr : (decoder r (j.node line)).map some = .ok (some a) := by
    rw [h r line]
    rfl
  cases j with
  | null => exact absurd rfl hj
  | bool b | number n | text s | array items | object members => exact hr

theorem reads_optional_text (s : String) : (optional text).Reads (some s) (.text s) :=
  (reads_text s).optional nofun

theorem reads_optional {α : Type} {decoder : Decoder α} {f : α → Json} (hf : ∀ a, f a ≠ .null)
    (h : ∀ a, decoder.Reads a (f a)) (o : Option α) :
    (Decoder.optional decoder).Reads o (Json.optional f o) := by
  cases o with
  | none => exact fun _ _ => rfl
  | some a => exact (h a).optional (hf a)

theorem decode_itemNodes {α : Type} {decoder : Decoder α} {f : α → Json}
    (h : ∀ a, decoder.Reads a (f a)) (r : Reading) (line : Nat) (as : List α) :
    (Json.itemNodes line (as.map f)).decode decoder r = .ok as := by
  induction as with
  | nil => rfl
  | cons a as ih =>
    rw [List.map_cons, Json.itemNodes, Items.decode, h a r line]
    simp only [ih]

theorem reads_list {α : Type} {decoder : Decoder α} {f : α → Json} (h : ∀ a, decoder.Reads a (f a))
    (as : List α) : (list decoder).Reads as (.array (as.map f)) := by
  intro r line
  rw [Json.node]
  exact decode_itemNodes h r line as

theorem reads_variant {α : Type} {variants : List (String × α)} {name : String} {a : α}
    (h : variants.lookup name = some a) : (variant variants).Reads a (.text name) := by
  have hn : (variantName variants).Reads a (.text name) :=
    reads_parsed (by rw [variantNamed, h])
  exact hn

end Decoder

theorem Field.exists_eq_put {δ α : Type} {name : String} {get : δ → Option α} {put : δ → α → δ}
    {decoder : Decoder α} {r : Reading} {draft next : δ} {node : Node}
    (h : (Field.of name get put decoder).set r draft node = .ok next) : ∃ a, put draft a = next := by
  simp only [Field.of] at h
  cases hread : decoder r node with
  | error error =>
    rw [hread] at h
    exact nomatch h
  | ok a =>
    rw [hread] at h
    exact ⟨a, Except.ok.inj h⟩

/-- The members fill a draft, each a field of its own. -/
inductive Gathers {δ : Type} (fields : List (Field δ)) : δ → List (String × Json) → δ → Prop
  | nil (draft : δ) : Gathers fields draft [] draft
  | cons {draft next last : δ} {name : String} {value : Json} {members : List (String × Json)}
    (field : Field δ) (hfind : (fields.find? fun field => field.name == name) = some field)
    (hset : field.isSet draft = false)
    (hvalue : ∀ r line, field.set r draft (value.node line) = .ok next)
    (hrest : Gathers fields next members last) : Gathers fields draft ((name, value) :: members) last

namespace Gathers

variable {δ : Type} {fields : List (Field δ)} {draft next last : δ}

theorem append {members rest : List (String × Json)} (h : Gathers fields draft members next)
    (h' : Gathers fields next rest last) : Gathers fields draft (members ++ rest) last := by
  induction h with
  | nil => exact h'
  | cons field hfind hset hvalue _ ih => exact .cons field hfind hset hvalue (ih h')

theorem field {α : Type} {name : String} {get : δ → Option α} {put : δ → α → δ} {decoder : Decoder α}
    {a : α} {value : Json}
    (hfind : (fields.find? fun field => field.name == name) = some (.of name get put decoder))
    (hget : get draft = none) (hvalue : decoder.Reads a value) (hnext : put draft a = next) :
    Gathers fields draft [(name, value)] next := by
  refine .cons (.of name get put decoder) hfind ?_ ?_ (.nil _)
  · simp [Field.of, hget]
  · intro r line
    simp only [Field.of, hvalue r line, ← hnext]
    rfl

theorem field? {α : Type} {name : String} {get : δ → Option (Option α)}
    {put : δ → Option α → δ} {decoder : Decoder (Option α)} {f : α → Json} (fill : Option α → δ)
    (o : Option α)
    (hfind : (fields.find? fun field => field.name == name) = some (.of name get put decoder))
    (hget : get draft = none) (hvalue : ∀ a, decoder.Reads (some a) (f a))
    (hfill : ∀ o : Option α, (o.elim draft fun a => put draft (some a)) = fill o) :
    Gathers fields draft (Json.field? name f o) (fill o) := by
  rw [← hfill]
  cases o with
  | none => exact .nil _
  | some a => exact .field hfind hget (hvalue a) rfl

theorem gatherMembers_eq {members : List (String × Json)} (h : Gathers fields draft members last)
    (r : Reading) (line : Nat) :
    Record.gatherMembers fields r draft (Json.memberNodes line members) = .ok (last, line) := by
  induction h with
  | nil => rfl
  | cons field hfind hset hvalue _ ih =>
    rw [Json.memberNodes, Record.gatherMembers]
    simp only [Node.name, Lexeme.kept_ok, hfind, hset, hvalue]
    exact ih

end Gathers

namespace Record

variable {δ α : Type} {record : Record δ α} {members : List (String × Json)} {draft : δ} {a : α}

theorem decodeMembers_eq (hmembers : Gathers record.fields record.blank members draft)
    (hfinish : record.finish draft = .ok a) (r : Reading) (line : Nat) :
    record.decodeMembers r (Json.memberNodes line members) = .ok a := by
  rw [decodeMembers, hmembers.gatherMembers_eq]
  simp only [hfinish]

theorem reads (hmembers : Gathers record.fields record.blank members draft)
    (hfinish : record.finish draft = .ok a) : record.decoder.Reads a (.object members) := by
  intro r line
  rw [Json.node]
  exact decodeMembers_eq hmembers hfinish r line

/-- What no field that is met takes away from the draft is still there at the end. -/
theorem of_gatherMembers {P : δ → Prop} {fields : List (Field δ)} {r : Reading} {line stop : Nat}
    {last : δ} (hset : ∀ member ∈ members, ∀ field ∈ fields, field.name = member.1 →
      ∀ draft node next, P draft → field.set r draft node = .ok next → P next)
    (h : gatherMembers fields r draft (Json.memberNodes line members) = .ok (last, stop))
    (hp : P draft) : P last := by
  induction members generalizing draft with
  | nil =>
    cases h
    exact hp
  | cons member members ih =>
    obtain ⟨name, value⟩ := member
    rw [List.forall_mem_cons] at hset
    simp only [Json.memberNodes, gatherMembers, Node.name, Lexeme.kept_ok] at h
    split at h
    next =>
      split at h
      next => exact nomatch h
      next => exact ih hset.2 h hp
    next field hfind =>
      have hname : field.name = name := by simpa using List.find?_some hfind
      split at h
      next => exact nomatch h
      next =>
        split at h
        next => exact nomatch h
        next next hvalue =>
          exact ih hset.2 h (hset.1 field (List.mem_of_find?_eq_some hfind) hname _ _ _ hp hvalue)

end Record

mutual

def Json.depth : Json → Nat
  | .null | .bool _ | .number _ | .text _ => 0
  | .array items => Json.itemsDepth items + 1
  | .object members => Json.membersDepth members + 1

def Json.itemsDepth : List Json → Nat
  | [] => 0
  | item :: items => max item.depth (Json.itemsDepth items)

def Json.membersDepth : List (String × Json) → Nat
  | [] => 0
  | (_, value) :: members => max value.depth (Json.membersDepth members)

end

mutual

theorem Json.keep_node (line : Nat) : (j : Json) → (depth : Nat) → j.depth ≤ depth →
    (j.node line).keep depth = .ok ()
  | .null, _, _ | .bool _, _, _ | .number _, _, _ | .text _, _, _ => rfl
  | .array items, depth, h => by
    rw [Json.depth] at h
    rw [Json.node, Node.keep, if_neg (by omega)]
    exact Json.keep_itemNodes line items (depth - 1) (by omega)
  | .object members, depth, h => by
    rw [Json.depth] at h
    rw [Json.node, Node.keep, if_neg (by omega)]
    exact Json.keep_memberNodes line members (depth - 1) (by omega)

theorem Json.keep_itemNodes (line : Nat) : (items : List Json) → (depth : Nat) →
    Json.itemsDepth items ≤ depth → (Json.itemNodes line items).keep depth = .ok ()
  | [], _, _ => rfl
  | item :: items, depth, h => by
    rw [Json.itemsDepth] at h
    have hitem := Json.keep_node line item depth (by omega)
    have hitems := Json.keep_itemNodes line items depth (by omega)
    simp only [Json.itemNodes, Items.keep, hitem, hitems]

theorem Json.keep_memberNodes (line : Nat) : (members : List (String × Json)) → (depth : Nat) →
    Json.membersDepth members ≤ depth → (Json.memberNodes line members).keep depth = .ok ()
  | [], _, _ => rfl
  | (name, value) :: members, depth, h => by
    rw [Json.membersDepth] at h
    have hvalue := Json.keep_node line value depth (by omega)
    have hmembers := Json.keep_memberNodes line members depth (by omega)
    simp only [Json.memberNodes, Members.keep, Node.name, Lexeme.kept_ok, hvalue, hmembers]

end

theorem Json.membersDepth_le_iff {members : List (String × Json)} {depth : Nat} :
    Json.membersDepth members ≤ depth ↔ ∀ member ∈ members, member.2.depth ≤ depth := by
  induction members with
  | nil => simp [Json.membersDepth]
  | cons member members ih =>
    rw [Json.membersDepth, Nat.max_le, ih, List.forall_mem_cons]

theorem Json.areWhole_iff {items : List Json} : Json.AreWhole items ↔ ∀ item ∈ items, item.IsWhole := by
  induction items with
  | nil => simp [Json.AreWhole]
  | cons item items ih => rw [Json.AreWhole, ih, List.forall_mem_cons]

theorem Json.membersAreWhole_iff {members : List (String × Json)} :
    Json.MembersAreWhole members ↔ ∀ member ∈ members, member.2.IsWhole := by
  induction members with
  | nil => simp [Json.MembersAreWhole]
  | cons member members ih => rw [Json.MembersAreWhole, ih, List.forall_mem_cons]

theorem Json.forall_mem_field? {α : Type} {name : String} {f : α → Json} {o : Option α}
    {P : String × Json → Prop} :
    (∀ member ∈ Json.field? name f o, P member) ↔ ∀ a ∈ o, P (name, f a) := by
  cases o <;> simp [Json.field?]

namespace Json

theorem isWhole_natural {n : Nat} (hn : n ≤ Decoder.wordLimit) : (natural n).IsWhole := by
  rw [natural, IsWhole]
  exact hn

theorem isWhole_uint32 (n : UInt32) : (natural n.toNat).IsWhole :=
  isWhole_natural (Nat.le_of_lt (Nat.lt_of_lt_of_le n.toNat_lt (by decide)))

theorem isWhole_int32 (n : Int32) : (number (.ofInt n.toInt)).IsWhole := by
  have hmin := n.le_toInt
  have hmax := n.toInt_lt
  have hsmall : 2 ^ 31 ≤ Decoder.wordLimit ∧ 2 ^ 31 ≤ Lexeme.largestNegative := by decide
  rw [IsWhole]
  rcases Int.lt_or_le n.toInt 0 with hneg | hpos
  · rw [Number.ofInt, if_neg (Int.not_le.mpr hneg)]
    exact ⟨by omega, by omega⟩
  · rw [Number.ofInt, if_pos hpos]
    exact isWhole_natural (by omega)

theorem isWhole_text (s : String) : (text s).IsWhole := by
  rw [IsWhole]
  trivial

theorem isWhole_array_map {α : Type} {f : α → Json} (h : ∀ a, (f a).IsWhole) (as : List α) :
    (array (as.map f)).IsWhole := by
  rw [IsWhole, areWhole_iff, List.forall_mem_map]
  exact fun a _ => h a

theorem isWhole_optional {α : Type} {f : α → Json} (h : ∀ a, (f a).IsWhole) (o : Option α) :
    (optional f o).IsWhole := by
  cases o with
  | none =>
    rw [optional, IsWhole]
    trivial
  | some a => exact h a

def IsFlat (j : Json) : Prop :=
  ∃ members, j = .object members ∧ ∀ member ∈ members, member.2.depth = 0 ∧ member.2.IsWhole

theorem IsFlat.depth_le {j : Json} (h : j.IsFlat) : j.depth ≤ 1 := by
  obtain ⟨members, rfl, h⟩ := h
  rw [depth]
  have hd := membersDepth_le_iff.mpr fun member hm => Nat.le_of_eq (h member hm).1
  omega

theorem IsFlat.isWhole {j : Json} (h : j.IsFlat) : j.IsWhole := by
  obtain ⟨members, rfl, h⟩ := h
  rw [IsWhole]
  exact membersAreWhole_iff.mpr fun member hm => (h member hm).2

end Json

theorem Category.reads (c : Category) : Category.decoder.Reads c c.toJson :=
  Decoder.reads_variant (by cases c <;> decide)

end ScreenKeyboard
