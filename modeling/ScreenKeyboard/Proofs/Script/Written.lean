import ScreenKeyboard.Proofs.Script.Commands
import ScreenKeyboard.Proofs.Script.Lines

namespace ScreenKeyboard.Script

/-- The line is this text with blanks around it, and perhaps a comment after it. -/
def IsPadded (text line : List Char) : Prop :=
  '\n' ∉ line ∧ ∃ pre post comment, Text.AreBlank pre ∧ Text.AreBlank post ∧
    (comment = [] ∨ comment.head? = some '#') ∧ line = pre ++ text ++ post ++ comment

/-- The line has this command in a written form, or else nothing but blanks and a comment. -/
inductive Holds : List Char → Option Command → Prop
  | filler {line : List Char} : IsPadded [] line → Holds line none
  | command {line body : List Char} {command : Command} {args : List (List Char)} :
    command.HasArguments args → Text.Separated Text.IsGap (command.name.toList :: args) body →
      IsPadded body line → Holds line (some command)

theorem hash_not_mem_blanks {blanks : List Char} (h : Text.AreBlank blanks) :
    ∀ c ∈ blanks, (c != '#') = true := by
  intro c hc
  have hne : c ≠ '#' := by
    rintro rfl
    exact absurd (h _ hc) (by decide)
  simpa using hne

theorem IsPadded.content_eq {text line : List Char} (h : IsPadded text line)
    (ht : Text.IsTrimmed text) (hh : '#' ∉ text) : content line = text := by
  obtain ⟨_, pre, post, comment, hpre, hpost, hcomment, rfl⟩ := h
  have hplain : ∀ c ∈ pre ++ text ++ post, (c != '#') = true := by
    simp only [List.mem_append]
    rintro c ((hc | hc) | hc)
    · exact hash_not_mem_blanks hpre c hc
    · simpa using fun he : c = '#' => hh (he ▸ hc)
    · exact hash_not_mem_blanks hpost c hc
  have hdrop : comment.takeWhile (· != '#') = [] := by
    rcases hcomment with rfl | hc
    · rfl
    · obtain ⟨rest, rfl⟩ := List.head?_eq_some_iff.mp hc
      rfl
  rw [content, List.takeWhile_append_of_pos hplain, hdrop, List.append_nil, Text.trim_append hpre hpost,
    ht.trim_eq]

theorem Holds.readLine {line : List Char} {entry : Option Command} (h : Holds line entry)
    (hw : ∀ command ∈ entry, command.IsWritable) : Script.readLine line = .ok entry := by
  cases h with
  | filler hp =>
    have hnil : Text.IsTrimmed [] := Text.isTrimmed_of_forall (List.forall_mem_nil _)
    rw [Script.readLine, hp.content_eq hnil List.not_mem_nil]
    rfl
  | @command body _ _ ha hs hp =>
    obtain ⟨hbody, hparse⟩ := ha.parse (hw _ rfl) hs
    have hne : body.isEmpty = false := List.isEmpty_eq_false_iff.mpr hbody.ne_nil
    rw [Script.readLine, hp.content_eq hbody.isTrimmed hbody.hash, hne, hparse]
    rfl

theorem content_dropReturn (line : List Char) : content (Text.dropReturn line) = content line := by
  unfold Text.dropReturn
  split
  next h =>
    obtain ⟨rest, rfl⟩ := List.getLast?_eq_some_iff.mp h
    rw [List.dropLast_concat, content, content, List.takeWhile_append]
    split
    next hlen =>
      -- Without a comment the carriage return is a blank at the end of the line.
      have hrest : rest.takeWhile (· != '#') = rest :=
        (List.takeWhile_prefix _).eq_of_length hlen
      have ht : Text.trim ([] ++ rest ++ ['\r']) = Text.trim rest :=
        Text.trim_append (List.forall_mem_nil _) (by decide)
      rw [hrest]
      exact ht.symm
    next => rfl
  next => rfl

theorem parseLines_map_dropReturn {before after after' : List (List Char)}
    (h : ∀ n, parseLines n after = parseLines n after') (n : Nat) :
    parseLines n (before.map Text.dropReturn ++ after) = parseLines n (before ++ after') := by
  induction before generalizing n with
  | nil => exact h n
  | cons line before ih =>
    have hline : readLine (Text.dropReturn line) = readLine line := by
      rw [readLine, readLine, content_dropReturn]
    rw [List.map_cons, List.cons_append, List.cons_append, parseLines_cons, parseLines_cons, hline, ih]

/-- Carriage returns and the end of the last line make no difference. -/
theorem parse_eq_splitOn (text : String) : parse text = parseLines 1 (text.toList.splitOn '\n') := by
  have hne : text.toList.splitOn '\n' ≠ [] := List.splitOn_ne_nil _ _
  obtain ⟨before, last, hsplit⟩ : ∃ before last, text.toList.splitOn '\n' = before ++ [last] :=
    ⟨_, _, (List.dropLast_append_getLast hne).symm⟩
  rw [parse, Text.lines, hsplit, List.dropLast_concat, List.getLast?_concat]
  apply parseLines_map_dropReturn
  intro n
  cases last <;> rfl

theorem IsPadded.self {text : List Char} (h : '\n' ∉ text) : IsPadded text text :=
  ⟨h, [], [], [], List.forall_mem_nil _, List.forall_mem_nil _, .inl rfl, by simp⟩

theorem exists_holds {entry : Option Command} (hw : ∀ command ∈ entry, command.IsWritable) :
    ∃ line, Holds line entry := by
  cases entry with
  | none => exact ⟨[], .filler (.self List.not_mem_nil)⟩
  | some command =>
    obtain ⟨args, ha, hargs⟩ := Command.exists_hasArguments (hw command rfl)
    have hgap : Text.IsGap [' '] := by decide
    have hname : '\n' ∉ command.name.toList := (Command.isBare_name command).isWord.not_mem rfl
    have hparts : ∀ part ∈ command.name.toList :: args, '\n' ∉ part :=
      List.forall_mem_cons.mpr ⟨hname, hargs⟩
    have hs : Text.Separated (Eq [' ']) (command.name.toList :: args) _ := .intercalate rfl _
    have hline := hs.not_mem hparts (by rintro _ rfl; decide)
    exact ⟨_, .command ha (.intercalate hgap _) (.self hline)⟩

theorem reads_of_holds {lines : List (List Char)} {entries : List (Option Command)}
    (h : List.Forall₂ Holds lines entries)
    (hw : ∀ command, some command ∈ entries → command.IsWritable) : Reads lines entries := by
  induction h with
  | nil => exact .nil
  | cons hl _ ih =>
    refine .cons (hl.readLine ?_) (ih ?_)
    · rintro command rfl
      exact hw command List.mem_cons_self
    · exact fun command hm => hw command (List.mem_cons_of_mem _ hm)

theorem not_mem_of_holds {line : List Char} {entry : Option Command} (h : Holds line entry) :
    '\n' ∉ line := by
  cases h with
  | filler hp => exact hp.1
  | command _ _ hp => exact hp.1

/-- Every list of commands, with lines that have none between them, can be written down as a script;
and whatever way it is written, all commands are read back in their order, each with the number of
its line. -/
theorem written_scripts_are_read_back {entries : List (Option Command)}
    (hw : ∀ command, some command ∈ entries → command.IsWritable) :
    (∃ lines, List.Forall₂ Holds lines entries) ∧
    ∀ lines, List.Forall₂ Holds lines entries →
      parse (String.ofList (['\n'].intercalate lines)) = .ok (numbered 1 entries) := by
  constructor
  · induction entries with
    | nil => exact ⟨[], .nil⟩
    | cons entry entries ih =>
      obtain ⟨lines, hlines⟩ := ih fun command hm => hw command (List.mem_cons_of_mem _ hm)
      obtain ⟨line, hline⟩ : ∃ line, Holds line entry := by
        apply exists_holds
        rintro command rfl
        exact hw command List.mem_cons_self
      exact ⟨line :: lines, .cons hline hlines⟩
  · intro lines h
    have hreads := reads_of_holds h hw
    have hbreaks : ∀ line ∈ lines, '\n' ∉ line :=
      ((List.forall₂_and_left _ _).mp (h.imp fun _ _ hl => ⟨not_mem_of_holds hl, hl⟩)).1
    rw [parse_eq_splitOn, String.toList_ofList]
    cases h with
    | nil => rfl
    | cons _ _ =>
      rw [List.splitOn_intercalate '\n' hbreaks (List.cons_ne_nil _ _)]
      exact hreads.parseLines 1

theorem written_scripts_are_read_back_chord :
    parse "# header\r\n\r\n tap  AC01\t7 # note\nmodifiers SHIFT| MOD5\n" =
      .ok [⟨3, .key .tap "AC01" (some 7)⟩, ⟨4, .modifiers (Flag.shift.mask ||| Flag.mod5.mask)⟩] := by
  have hseven : Text.digits 10 7 = ['7'] := Text.digits_of_lt (by decide)
  have hheader : Holds "# header\r".toList none :=
    .filler ⟨by decide, [], [], _, by decide, by decide, .inr rfl, rfl⟩
  have hblank : Holds ['\r'] none :=
    .filler ⟨by decide, ['\r'], [], [], by decide, by decide, .inl rfl, rfl⟩
  have htap : Holds " tap  AC01\t7 # note".toList (some (.key .tap "AC01" (some 7))) := by
    have ha := Command.HasArguments.key .tap "AC01" (some 7)
    rw [Command.timeArgument, Option.map_some, show UInt32.toNat 7 = 7 from rfl, hseven] at ha
    have hgap : Text.IsGap [' ', ' '] := by decide
    have hgap' : Text.IsGap ['\t'] := by decide
    refine .command ha (.cons hgap (.cons hgap' (.single _))) ?_
    exact ⟨by decide, [' '], [' '], "# note".toList, by decide, by decide, .inr rfl, rfl⟩
  have hmodifiers : Holds "modifiers SHIFT| MOD5".toList
      (some (.modifiers (Flag.shift.mask ||| Flag.mod5.mask))) := by
    have hbar : Mask.IsBar ['|', ' '] := ⟨[], [' '], by decide, by decide, rfl⟩
    have hs : Text.Separated Mask.IsBar [Flag.shift.name.toList, Flag.mod5.name.toList] _ :=
      .cons hbar (.single _)
    have hgap : Text.IsGap [' '] := by decide
    refine .command (.modifiers ?_ ⟨_, _, hs, .cons (.flag _) (.cons (.flag _) .nil), rfl⟩)
      (.cons hgap (.single _)) ?_
    · decide
    · exact .self (by decide)
  have hlines := List.Forall₂.cons hheader (.cons hblank (.cons htap (.cons hmodifiers
    (.cons (.filler (.self List.not_mem_nil)) .nil))))
  have hw : ∀ command, some command ∈ [none, none, some (Command.key .tap "AC01" (some 7)),
      some (.modifiers (Flag.shift.mask ||| Flag.mod5.mask)), none] → command.IsWritable := by
    intro command hm
    simp only [List.mem_cons, reduceCtorEq, Option.some.injEq, List.not_mem_nil, false_or, or_false] at hm
    rcases hm with rfl | rfl
    · have hname : IsBare "AC01".toList := by decide
      exact hname
    · trivial
  have hparse := (written_scripts_are_read_back hw).2 _ hlines
  have htext : String.ofList (['\n'].intercalate ["# header\r".toList, ['\r'],
      " tap  AC01\t7 # note".toList, "modifiers SHIFT| MOD5".toList, []]) =
      "# header\r\n\r\n tap  AC01\t7 # note\nmodifiers SHIFT| MOD5\n" := by
    rw [← String.toList_inj, String.toList_ofList]
    rfl
  rw [htext] at hparse
  exact hparse

end ScreenKeyboard.Script
