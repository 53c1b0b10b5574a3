import ScreenKeyboard.Proofs.Modifier.Expression
import ScreenKeyboard.Script.Parser

namespace ScreenKeyboard

theorem map_toLower_eq_self {s : String} (h : s.toList.map Char.toLower = s.toList) :
    s.map Char.toLower = s := by
  rw [← String.toList_inj, String.toList_map, h]

theorem Behavior.parse?_name (b : Behavior) : Behavior.parse? b.name = some b := by
  have hlower : b.name.map Char.toLower = b.name := map_toLower_eq_self (by cases b <;> decide)
  rw [parse?, hlower]
  cases b <;> rfl

def Level.scriptNames : Level → List String
  | lettersLower => ["lower", "letters-lower"]
  | lettersUpper => ["upper", "letters-upper"]
  | numbers => ["numbers"]
  | symbols => ["symbols"]

theorem Level.parse?_of_mem_scriptNames {l : Level} {name : String} (h : name ∈ l.scriptNames) :
    Level.parse? name = some l := by
  have hlower : name.map Char.toLower = name := by
    apply map_toLower_eq_self
    revert name
    cases l <;> decide
  rw [parse?, hlower]
  clear hlower
  revert name
  cases l <;> decide

def IsBare (word : List Char) : Prop :=
  word ≠ [] ∧ ∀ c ∈ word, Text.isBlank c = false ∧ c ≠ '#'

instance (word : List Char) : Decidable (IsBare word) :=
  @instDecidableAnd _ _ _ (List.decidableBAll (fun c => Text.isBlank c = false ∧ c ≠ '#') word)

theorem IsBare.isWord {word : List Char} (h : IsBare word) : Text.IsWord word :=
  ⟨h.1, fun c hc => (h.2 c hc).1⟩

theorem isBare_digits (n : Nat) : IsBare (Text.digits 10 n) := by
  refine ⟨Text.digits_ne_nil 10 n, fun c hc => ?_⟩
  obtain ⟨d, hd, rfl⟩ := Text.exists_digitChar_of_mem (by decide) hc
  have hall : ∀ d < 10, Text.isBlank (Text.digitChar d) = false ∧ Text.digitChar d ≠ '#' := by decide
  exact hall d hd

theorem isBare_behaviorName (b : Behavior) : IsBare b.name.toList := by
  cases b <;> decide

theorem isBare_scriptName {l : Level} {name : String} (h : name ∈ l.scriptNames) :
    IsBare name.toList := by
  revert name
  cases l <;> decide

/-- What a line can hold: a text without a comment, and without blanks around it. -/
structure IsContent (text : List Char) : Prop where
  ne_nil : text ≠ []
  isTrimmed : Text.IsTrimmed text
  hash : '#' ∉ text

theorem IsBare.isContent {word : List Char} (h : IsBare word) : IsContent word :=
  ⟨h.1, h.isWord.isTrimmed, fun hm => (h.2 _ hm).2 rfl⟩

theorem IsContent.of_separated {gap : List Char → Prop} {parts : List (List Char)} {text : List Char}
    (h : Text.Separated gap parts text) (hne : parts ≠ []) (hparts : ∀ part ∈ parts, IsContent part)
    (hgap : ∀ between, gap between → '#' ∉ between) : IsContent text := by
  obtain ⟨htrim, htext⟩ :=
    h.isTrimmed fun part hm => ⟨(hparts part hm).ne_nil, (hparts part hm).isTrimmed⟩
  exact ⟨htext hne, htrim, h.not_mem (fun part hm => (hparts part hm).hash) hgap⟩

theorem Mask.IsExpression.isContent {text : List Char} {m : Mask} (h : IsExpression text m)
    (hne : text ≠ []) : IsContent text := by
  obtain ⟨parts, masks, hs, hparts, _⟩ := h
  have hne' : parts ≠ [] := by
    rintro rfl
    cases hs
    exact hne rfl
  refine .of_separated hs hne' ?_ ?_
  · refine ((List.forall₂_and_left _ _).mp (hparts.imp fun part m hp => ⟨?_, hp⟩)).1
    have hbare : IsBare part := ⟨hp.isWord.1, fun c hc => ⟨hp.isWord.2 c hc, (hp.isPlain c hc).2.2⟩⟩
    exact hbare.isContent
  · rintro _ ⟨pre, post, hpre, hpost, rfl⟩ hm
    rcases List.mem_append.mp hm with hm | hm
    · exact absurd (hpre _ hm) (by decide)
    · rcases List.mem_cons.mp hm with hm | hm
      · exact absurd hm (by decide)
      · exact absurd (hpost _ hm) (by decide)

namespace Command

def timeArgument (time : Option UInt32) : List (List Char) :=
  (time.map fun t => Text.digits 10 t.toNat).toList

theorem parseArgument_eq {α : Type} {expected : String} {parse? : String → Option α} {text : String}
    {a : α} (h : parse? text = some a) : parseArgument expected parse? text = .ok a := by
  rw [parseArgument, h]

theorem time_timeArgument (t : Option UInt32) : time (timeArgument t) = .ok t := by
  cases t with
  | none => rfl
  | some t =>
    have hread : Text.readNumeral 10 0xFFFFFFFF (Text.digits 10 t.toNat) = some t.toNat :=
      Text.readNumeral_digits (by decide) (by decide) (Nat.le_of_lt_succ t.toNat_lt)
    simp [timeArgument, time, parseArgument, hread, Except.map]

theorem isBare_of_mem_timeArgument {t : Option UInt32} {arg : List Char} (h : arg ∈ timeArgument t) :
    IsBare arg := by
  obtain ⟨n, _, rfl⟩ := Option.map_eq_some_iff.mp (Option.mem_toList.mp h)
  exact isBare_digits n.toNat

theorem ofWord_key (action : KeyAction) (rest : List Char) :
    ofWord action.name rest = do
      return key action (← argument action.name (Text.words rest)) (← time (Text.words rest).tail) := by
  cases action <;> rfl

theorem ofWord_releaseAll (rest : List Char) :
    ofWord "release-all" rest = (time (Text.words rest)).map releaseAll :=
  rfl

theorem ofWord_behavior {rest arg : List Char} (h : Text.words rest = [arg]) :
    ofWord "behavior" rest =
      (parseArgument "none, lock or latch" Behavior.parse? (String.ofList arg)).map behavior := by
  unfold ofWord
  rw [h]
  rfl

theorem ofWord_modifiers (rest : List Char) :
    ofWord "modifiers" rest =
      (parseArgument "a modifier mask like 'SHIFT | MOD5'" (fun text => (Mask.parse text).toOption)
        (String.ofList rest)).map modifiers :=
  rfl

theorem ofWord_level {rest arg : List Char} (h : Text.words rest = [arg]) :
    ofWord "level" rest =
      (parseArgument "a level name or 0-3" Level.parse? (String.ofList arg)).map level := by
  unfold ofWord
  rw [h]
  rfl

theorem ofWord_group {rest arg : List Char} (h : Text.words rest = [arg]) :
    ofWord "group" rest =
      (parseArgument "a group index" (fun text => Text.readNumeral 10 0xFFFFFFFFFFFFFFFF text.toList)
        (String.ofList arg)).map group := by
  unfold ofWord
  rw [h]
  rfl

/-- The command can stand in a script: its key has a name of one word, its group a number below 2⁶⁴.
-/
def IsWritable : Command → Prop
  | key _ name _ => IsBare name.toList
  | group g => g ≤ 0xFFFFFFFFFFFFFFFF
  | _ => True

theorem isBare_name (command : Command) : IsBare command.name.toList := by
  cases command with
  | key action _ _ =>
    have haction : IsBare action.name.toList := by cases action <;> decide
    exact haction
  | _ =>
    rw [name]
    decide

inductive HasArguments : Command → List (List Char) → Prop
  | key (action : KeyAction) (name : String) (time : Option UInt32) :
    HasArguments (key action name time) (name.toList :: timeArgument time)
  | releaseAll (time : Option UInt32) : HasArguments (releaseAll time) (timeArgument time)
  | behavior (b : Behavior) : HasArguments (behavior b) [b.name.toList]
  | modifiers {m : Mask} {text : List Char} :
    text ≠ [] → Mask.IsExpression text m → HasArguments (modifiers m) [text]
  | noModifiers : HasArguments (modifiers .empty) []
  | level {l : Level} {name : String} : name ∈ l.scriptNames → HasArguments (level l) [name.toList]
  | group (g : Nat) : HasArguments (group g) [Text.digits 10 g]
  | reset : HasArguments reset []

namespace HasArguments

variable {command : Command} {args : List (List Char)}

/-- Only the expression of a mask can be more than one word. -/
theorem isBare (h : HasArguments command args) (hw : command.IsWritable)
    (hm : ∀ m, command ≠ .modifiers m) : ∀ arg ∈ args, IsBare arg := by
  cases h with
  | key action name t =>
    exact List.forall_mem_cons.mpr ⟨hw, fun arg ha => isBare_of_mem_timeArgument ha⟩
  | releaseAll t => exact fun arg ha => isBare_of_mem_timeArgument ha
  | behavior b => exact List.forall_mem_singleton.mpr (isBare_behaviorName b)
  | modifiers _ _ | noModifiers => exact absurd rfl (hm _)
  | level hl => exact List.forall_mem_singleton.mpr (isBare_scriptName hl)
  | group g => exact List.forall_mem_singleton.mpr (isBare_digits g)
  | reset => exact List.forall_mem_nil _

theorem isContent (h : HasArguments command args) (hw : command.IsWritable) :
    ∀ arg ∈ args, IsContent arg := by
  by_cases hm : ∀ m, command ≠ .modifiers m
  · exact fun arg ha => (h.isBare hw hm arg ha).isContent
  · obtain ⟨m, hm⟩ := not_forall.mp hm
    obtain rfl := not_not.mp hm
    cases h with
    | modifiers hne he => exact List.forall_mem_singleton.mpr (he.isContent hne)
    | noModifiers => exact List.forall_mem_nil _

theorem ofWord {rest : List Char} (h : HasArguments command args) (hw : command.IsWritable)
    (hs : Text.Separated Text.IsGap args rest) : Command.ofWord command.name rest = .ok command := by
  have hwords : (∀ m, command ≠ .modifiers m) → Text.words rest = args :=
    fun hm => hs.words fun arg ha => (h.isBare hw hm arg ha).isWord
  cases h with
  | key action name t =>
    rw [Command.name, ofWord_key, hwords nofun, List.tail_cons, time_timeArgument, argument,
      String.ofList_toList]
    rfl
  | releaseAll t =>
    rw [Command.name, ofWord_releaseAll, hwords nofun, time_timeArgument]
    rfl
  | behavior b =>
    rw [Command.name, ofWord_behavior (hwords nofun), String.ofList_toList,
      parseArgument_eq b.parse?_name]
    rfl
  | @modifiers m _ _ he =>
    cases hs
    have hread : (Mask.parse (String.ofList rest)).toOption = some m := by
      rw [Mask.parse_of_isExpression he]
      rfl
    rw [Command.name, ofWord_modifiers, parseArgument_eq hread]
    rfl
  | noModifiers =>
    cases hs
    rfl
  | level hl =>
    rw [Command.name, ofWord_level (hwords nofun), String.ofList_toList,
      parseArgument_eq (Level.parse?_of_mem_scriptNames hl)]
    rfl
  | group g =>
    have hread : Text.readNumeral 10 0xFFFFFFFFFFFFFFFF (String.ofList (Text.digits 10 g)).toList =
        some g := by
      rw [String.toList_ofList]
      exact Text.readNumeral_digits (by decide) (by decide) hw
    rw [Command.name, ofWord_group (hwords nofun), parseArgument_eq hread]
    rfl
  | reset => rfl

theorem parse {body : List Char} (h : HasArguments command args) (hw : command.IsWritable)
    (hs : Text.Separated Text.IsGap (command.name.toList :: args) body) :
    IsContent body ∧ Command.parse body = .ok command := by
  have hname := isBare_name command
  have hargs := h.isContent hw
  have hgap : ∀ between, Text.IsGap between → '#' ∉ between := by
    intro between hg hm
    exact absurd (hg.2 _ hm) (by decide)
  obtain ⟨hfirst, hrest⟩ :=
    hs.cut hname.isWord fun arg hm => ⟨(hargs arg hm).ne_nil, (hargs arg hm).isTrimmed⟩
  have hparts := List.forall_mem_cons.mpr ⟨hname.isContent, hargs⟩
  refine ⟨.of_separated hs (List.cons_ne_nil _ _) hparts hgap, ?_⟩
  rw [Command.parse, hfirst, String.ofList_toList]
  exact h.ofWord hw hrest

end HasArguments

theorem exists_hasArguments {command : Command} (hw : command.IsWritable) :
    ∃ args, HasArguments command args ∧ ∀ arg ∈ args, '\n' ∉ arg := by
  have hline : (∀ m, command ≠ .modifiers m) → ∀ {args}, HasArguments command args →
      ∃ args, HasArguments command args ∧ ∀ arg ∈ args, '\n' ∉ arg :=
    fun hm args h => ⟨args, h, fun arg ha => (h.isBare hw hm arg ha).isWord.not_mem rfl⟩
  cases command with
  | key action name t => exact hline nofun (.key action name t)
  | releaseAll t => exact hline nofun (.releaseAll t)
  | behavior b => exact hline nofun (.behavior b)
  | modifiers m =>
    by_cases hne : m.toText.toList = []
    · have hparse := m.parse_toText
      rw [String.toList_eq_nil_iff.mp hne] at hparse
      cases hparse
      exact ⟨_, .noModifiers, List.forall_mem_nil _⟩
    · exact ⟨_, .modifiers hne m.isExpression_toText,
        List.forall_mem_singleton.mpr m.lineFeed_not_mem_toText⟩
  | level l =>
    obtain ⟨name, hl⟩ : ∃ name, name ∈ l.scriptNames := by cases l <;> exact ⟨_, List.mem_cons_self⟩
    exact hline nofun (.level hl)
  | group g => exact hline nofun (.group g)
  | reset => exact hline nofun .reset

end Command

end ScreenKeyboard
