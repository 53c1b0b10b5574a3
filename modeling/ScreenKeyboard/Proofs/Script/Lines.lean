import Mathlib.Data.List.Forall2
import ScreenKeyboard.Proofs.Text.Lines
import ScreenKeyboard.Script.Parser

namespace ScreenKeyboard

/-- The step, after this many more lines. -/
def Step.after (n : Nat) (step : Step) : Step :=
  { step with line := step.line + n }

def ScriptError.after (n : Nat) (e : ScriptError) : ScriptError :=
  { e with line := e.line + n }

namespace Script

def readLine (line : List Char) : Except CommandFault (Option Command) :=
  if (content line).isEmpty then .ok none else (Command.parse (content line)).map some

def numbered (n : Nat) : List (Option Command) → List Step
  | [] => []
  | command :: commands => command.toList.map (Step.mk n) ++ numbered (n + 1) commands

/-- All lines can be read, and have these commands. -/
def Reads (lines : List (List Char)) (commands : List (Option Command)) : Prop :=
  List.Forall₂ (fun line command => readLine line = .ok command) lines commands

theorem parseLines_cons (n : Nat) (line : List Char) (rest : List (List Char)) :
    parseLines n (line :: rest) =
      match readLine line with
      | .error fault => .error ⟨n, fault⟩
      | .ok command => (parseLines (n + 1) rest).map (command.toList.map (Step.mk n) ++ ·) := by
  rw [parseLines, readLine]
  split
  next => cases parseLines (n + 1) rest <;> rfl
  next => cases Command.parse (content line) <;> rfl

theorem Reads.parseLines {lines : List (List Char)} {commands : List (Option Command)}
    (h : Reads lines commands) (n : Nat) : parseLines n lines = .ok (numbered n commands) := by
  induction h generalizing n with
  | nil => rfl
  | cons hl _ ih =>
    rw [parseLines_cons, hl, ih]
    rfl

theorem Reads.parseLines_stops {before after : List (List Char)} {commands : List (Option Command)}
    {line : List Char} {fault : CommandFault} (h : Reads before commands)
    (hl : readLine line = .error fault) (n : Nat) :
    Script.parseLines n (before ++ line :: after) = .error ⟨n + before.length, fault⟩ := by
  induction h generalizing n with
  | nil =>
    rw [List.nil_append, parseLines_cons, hl]
    rfl
  | @cons _ _ before _ hf _ ih =>
    rw [List.cons_append, parseLines_cons, hf, ih, List.length_cons,
      show n + 1 + before.length = n + (before.length + 1) by omega]
    rfl

theorem reads_or_stops (lines : List (List Char)) :
    (∃ commands, Reads lines commands) ∨
      ∃ before commands line fault after, lines = before ++ line :: after ∧
        Reads before commands ∧ readLine line = .error fault := by
  induction lines with
  | nil => exact .inl ⟨[], .nil⟩
  | cons first lines ih =>
    cases hf : readLine first with
    | error fault => exact .inr ⟨[], [], first, fault, lines, rfl, .nil, hf⟩
    | ok command =>
      rcases ih with ⟨commands, hr⟩ | ⟨before, commands, line, fault, after, rfl, hr, hl⟩
      · exact .inl ⟨command :: commands, .cons hf hr⟩
      · exact .inr ⟨first :: before, command :: commands, line, fault, after, rfl, .cons hf hr, hl⟩

theorem Reads.append {before after : List (List Char)} {first second : List (Option Command)}
    (hb : Reads before first) (ha : Reads after second) : Reads (before ++ after) (first ++ second) :=
  List.rel_append hb ha

theorem Reads.exists_of_mem {lines : List (List Char)} {commands : List (Option Command)}
    (h : Reads lines commands) {line : List Char} (hm : line ∈ lines) :
    ∃ command, readLine line = .ok command := by
  induction h with
  | nil => exact nomatch hm
  | cons hl _ ih =>
    rcases List.mem_cons.mp hm with rfl | hm
    · exact ⟨_, hl⟩
    · exact ih hm

theorem numbered_append (n : Nat) (first second : List (Option Command)) :
    numbered n (first ++ second) = numbered n first ++ numbered (n + first.length) second := by
  induction first generalizing n with
  | nil => rfl
  | cons command first ih =>
    rw [List.cons_append, numbered, numbered, ih, List.append_assoc, List.length_cons,
      show n + 1 + first.length = n + (first.length + 1) by omega]

theorem numbered_add (n d : Nat) (commands : List (Option Command)) :
    numbered (n + d) commands = (numbered n commands).map (Step.after d) := by
  induction commands generalizing n with
  | nil => rfl
  | cons command commands ih =>
    rw [numbered, numbered, List.map_append, List.map_map, ← ih (n + 1),
      show n + d + 1 = n + 1 + d by omega]
    rfl

theorem le_line_of_mem_numbered {n : Nat} {commands : List (Option Command)} {step : Step}
    (h : step ∈ numbered n commands) : n ≤ step.line := by
  induction commands generalizing n with
  | nil => exact nomatch h
  | cons command commands ih =>
    rcases List.mem_append.mp h with h | h
    · obtain ⟨c, _, rfl⟩ := List.mem_map.mp h
      exact Nat.le_refl n
    · exact Nat.le_of_succ_le (ih h)

theorem pairwise_numbered (n : Nat) (commands : List (Option Command)) :
    ((numbered n commands).map Step.line).Pairwise (· < ·) := by
  induction commands generalizing n with
  | nil => exact .nil
  | cons command commands ih =>
    cases command with
    | none => exact ih (n + 1)
    | some c =>
      refine .cons ?_ (ih (n + 1))
      intro line hm
      obtain ⟨step, hs, rfl⟩ := List.mem_map.mp hm
      exact le_line_of_mem_numbered hs

theorem reads_of_parse {text : String} {steps : List Step} (h : parse text = .ok steps) :
    ∃ commands, Reads (Text.lines text.toList) commands ∧ steps = numbered 1 commands := by
  rcases reads_or_stops (Text.lines text.toList) with ⟨commands, hr⟩ | ⟨_, _, _, _, _, he, hr, hl⟩
  · rw [parse, hr.parseLines] at h
    cases h
    exact ⟨commands, hr, rfl⟩
  · rw [parse, he, hr.parseLines_stops hl] at h
    exact nomatch h

theorem stops_of_parse {text : String} {e : ScriptError} (h : parse text = .error e) :
    ∃ before commands line after, Text.lines text.toList = before ++ line :: after ∧
      Reads before commands ∧ readLine line = .error e.fault ∧ e.line = before.length + 1 := by
  rcases reads_or_stops (Text.lines text.toList) with
    ⟨commands, hr⟩ | ⟨before, commands, line, fault, after, he, hr, hl⟩
  · rw [parse, hr.parseLines] at h
    exact nomatch h
  · rw [parse, he, hr.parseLines_stops hl] at h
    cases h
    exact ⟨before, commands, line, after, he, hr, hl, Nat.add_comm 1 _⟩

theorem parse_line {line : List Char} (h : '\n' ∉ line) :
    parse (String.ofList line) = parseLines 1 [line] := by
  rw [parse, String.toList_ofList, Text.lines_of_not_mem h]
  split
  next he => rw [he]; rfl
  next => rfl

theorem parse_append_of_error {a b : String} (ha : Text.EndsLine a.toList) {e : ScriptError}
    (h : parse a = .error e) : parse (a ++ b) = .error e := by
  obtain ⟨before, commands, line, after, he, hr, hl, hn⟩ := stops_of_parse h
  rw [parse, String.toList_append, Text.lines_append ha, he, List.append_assoc, List.cons_append,
    hr.parseLines_stops hl, Nat.add_comm, ← hn]

theorem parse_append_of_ok {a b : String} (ha : Text.EndsLine a.toList) {steps others : List Step}
    (h : parse a = .ok steps) (h' : parse b = .ok others) :
    parse (a ++ b) = .ok (steps ++ others.map (Step.after (Text.lines a.toList).length)) := by
  obtain ⟨first, hr, rfl⟩ := reads_of_parse h
  obtain ⟨second, hr', rfl⟩ := reads_of_parse h'
  rw [parse, String.toList_append, Text.lines_append ha, (hr.append hr').parseLines, numbered_append,
    ← numbered_add, hr.length_eq]

theorem parse_append_of_ok_of_error {a b : String} (ha : Text.EndsLine a.toList) {steps : List Step}
    {e : ScriptError} (h : parse a = .ok steps) (h' : parse b = .error e) :
    parse (a ++ b) = .error (e.after (Text.lines a.toList).length) := by
  obtain ⟨first, hr, rfl⟩ := reads_of_parse h
  obtain ⟨before, commands, line, after, he, hr', hl, hn⟩ := stops_of_parse h'
  rw [parse, String.toList_append, Text.lines_append ha, he, ← List.append_assoc,
    (hr.append hr').parseLines_stops hl, List.length_append, ScriptError.after, hn,
    show 1 + ((Text.lines a.toList).length + before.length) =
      before.length + 1 + (Text.lines a.toList).length by omega]

/-- A script is read text after text: the first fault, with its line counted from the start, or else
all steps in their order. Lines of steps ascend, and the line of an error is the first that cannot
be read on its own. -/
theorem parse_text_after_text :
    (∀ a b : String, Text.EndsLine a.toList →
      (∀ e, parse a = .error e → parse (a ++ b) = .error e) ∧
      (∀ steps e, parse a = .ok steps → parse b = .error e →
        parse (a ++ b) = .error (e.after (Text.lines a.toList).length)) ∧
      ∀ steps others, parse a = .ok steps → parse b = .ok others →
        parse (a ++ b) = .ok (steps ++ others.map (Step.after (Text.lines a.toList).length))) ∧
    (∀ (text : String) (steps : List Step), parse text = .ok steps →
      (steps.map Step.line).Pairwise (· < ·)) ∧
    ∀ (text : String) (e : ScriptError), parse text = .error e →
      (∀ line ∈ (Text.lines text.toList).take (e.line - 1),
        ∃ steps, parse (String.ofList line) = .ok steps) ∧
      ∃ line, (Text.lines text.toList)[e.line - 1]? = some line ∧
        parse (String.ofList line) = .error ⟨1, e.fault⟩ := by
  refine ⟨fun a b ha => ⟨?_, ?_, ?_⟩, ?_, ?_⟩
  · intro e h
    exact parse_append_of_error ha h
  · intro steps e h h'
    exact parse_append_of_ok_of_error ha h h'
  · intro steps others h h'
    exact parse_append_of_ok ha h h'
  · intro text steps h
    obtain ⟨commands, _, rfl⟩ := reads_of_parse h
    exact pairwise_numbered 1 commands
  · intro text e h
    obtain ⟨before, commands, line, after, he, hr, hl, hn⟩ := stops_of_parse h
    have hlines : ∀ l ∈ before ++ line :: after, '\n' ∉ l := by
      rw [← he]
      exact fun _ hm => Text.not_mem_of_mem_lines hm
    rw [hn, he, Nat.add_sub_cancel, List.take_left' rfl]
    refine ⟨?_, line, ?_, ?_⟩
    · intro l hm
      obtain ⟨command, hc⟩ := hr.exists_of_mem hm
      have hread : Reads [l] [command] := .cons hc .nil
      exact ⟨_, (parse_line (hlines l (List.mem_append_left _ hm))).trans (hread.parseLines 1)⟩
    · simp
    · rw [parse_line (hlines line (by simp))]
      exact Reads.parseLines_stops .nil hl 1

theorem parse_text_after_text_notes :
    parse ("press A 5\r\n\n# note\n" ++ "release A") =
      .ok [⟨1, .key .press "A" (some 5)⟩, ⟨4, .key .release "A" none⟩] ∧
    parse ("press A 5\r\n\n# note\n" ++ "tap A\n jump\nreset") = .error ⟨5, .unknownCommand "jump"⟩ ∧
    parse ("tap A\n jump\n" ++ "reset") = .error ⟨2, .unknownCommand "jump"⟩ := by
  obtain ⟨happend, _, _⟩ := parse_text_after_text
  refine ⟨?_, ?_, ?_⟩
  · exact (happend "press A 5\r\n\n# note\n" "release A" (by decide)).2.2
      [⟨1, .key .press "A" (some 5)⟩] [⟨1, .key .release "A" none⟩] rfl rfl
  · exact (happend "press A 5\r\n\n# note\n" "tap A\n jump\nreset" (by decide)).2.1
      [⟨1, .key .press "A" (some 5)⟩] ⟨2, .unknownCommand "jump"⟩ rfl rfl
  · exact (happend "tap A\n jump\n" "reset" (by decide)).1 ⟨2, .unknownCommand "jump"⟩ rfl

end Script

end ScreenKeyboard
