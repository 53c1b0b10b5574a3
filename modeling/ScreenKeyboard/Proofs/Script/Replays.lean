import ScreenKeyboard.Proofs.Keyboard.Balance
import ScreenKeyboard.Proofs.Layout.Built
import ScreenKeyboard.Script.Replay

namespace ScreenKeyboard

def Outcome.IsAt (t : UInt32) (o : Outcome) : Prop :=
  ∀ a, .activated a ∈ o.events → a.timestamp = t

namespace Command

def lacksKey (k : Keyboard) : Command → Bool
  | key _ name _ => (k.find? name).isNone
  | _ => false

/-- The time that the command gives itself or leaves out; only some commands have a time at all. -/
def ownTime? : Command → Option (Option UInt32)
  | key _ _ time | releaseAll time => some time
  | _ => none

def timeOn? (k : Keyboard) (command : Command) : Option (Option UInt32) :=
  if command.lacksKey k then none else command.ownTime?

def clockAfter (k : Keyboard) (clock : UInt32) (command : Command) : UInt32 :=
  (command.timeOn? k).elim clock (tick clock)

end Command

namespace Replay

def timeAfter (k : Keyboard) (clock : UInt32) (steps : List Step) : UInt32 :=
  (steps.filterMap fun step => step.command.timeOn? k).foldl tick clock

def goOn (r : Replay) (steps : List Step) : Replay :=
  steps.foldl (fun r step => r.next step.command) r

end Replay

namespace Outcome

variable {t : UInt32} {k : Keyboard} {o : Outcome}

theorem IsAt.keeps (h : o.IsAt t) : Keeps (IsAt t) k o := by
  intro past hp a ha
  rcases List.mem_append.mp ha with ha | ha
  · exact hp a ha
  · exact h a ha

theorem IsAt.of_keeps (h : Keeps (IsAt t) k o) : o.IsAt t :=
  h.holds fun _ ha => absurd ha List.not_mem_nil

theorem IsAt.andThen {f : Keyboard → Outcome} (h : o.IsAt t) (hf : (f o.keyboard).IsAt t) :
    (o.andThen f).IsAt t :=
  .of_keeps (k := o.keyboard) (h.keeps.andThen hf.keeps)

theorem Quiet.not_activated (h : o.Quiet k) (a : Activation) : .activated a ∉ o.events :=
  fun ha => nomatch h.silent _ ha

theorem Quiet.isAt (h : o.Quiet k) (t : UInt32) : o.IsAt t :=
  fun a ha => absurd ha (h.not_activated a)

end Outcome

namespace Keyboard

variable (k : Keyboard)

theorem isAt_report (id : KeyId) (symbol : Symbol) (state : KeyState) (t : UInt32) :
    (k.report id symbol state t).IsAt t := by
  intro a ha
  unfold report at ha
  split at ha
  next =>
    cases List.mem_singleton.mp ha
    rfl
  next => exact absurd ha List.not_mem_nil

theorem isAt_press (id : KeyId) (t : UInt32) : (k.press id t).IsAt t := by
  rcases k.press_cases id t with ⟨_, he⟩ | ⟨_, _, he⟩ | ⟨_, _, _, _, he⟩ | ⟨_, _, _, _, he⟩
  · rw [he]
    exact (Outcome.Quiet.still k).isAt t
  · rw [he]
    exact (Outcome.Quiet.still (k.hold id)).isAt t
  · rw [he]
    exact isAt_report _ _ _ _ t
  · rw [he]
    exact ((quiet_settle _ id _).isAt t).andThen (isAt_report _ _ _ _ t)

theorem isAt_release (id : KeyId) (t : UInt32) : (k.release id t).IsAt t := by
  rcases k.release_cases id t with ⟨_, he⟩ | ⟨_, _, he⟩ | ⟨_, _, _, he⟩
  · rw [he]
    exact (Outcome.Quiet.still k).isAt t
  · rw [he]
    exact (Outcome.Quiet.still (k.letGo id)).isAt t
  · rw [he]
    exact ((quiet_settle _ id _).isAt t).andThen (isAt_report _ _ _ _ t)

theorem isAt_releaseAll (t : UInt32) : (k.releaseAll t).IsAt t :=
  .of_keeps (Outcome.Keeps.chain (fun k id _ => (k.isAt_release id t).keeps) k)

theorem isAt_act (action : KeyAction) (id : KeyId) (t : UInt32) : (k.act action id t).IsAt t := by
  cases action with
  | press => exact k.isAt_press id t
  | release => exact k.isAt_release id t
  | tap => exact (k.isAt_press id t).andThen (isAt_release _ id t)

theorem body_act (action : KeyAction) (id : KeyId) (t : UInt32) :
    (k.act action id t).keyboard.body = k.body := by
  cases action with
  | press => exact k.body_press id t
  | release => exact k.body_release id t
  | tap => exact (body_release _ id t).trans (k.body_press id t)

end Keyboard

namespace Command

variable {command : Command} {k : Keyboard}

theorem lacksKey_of_body {k k' : Keyboard} (h : k'.body = k.body) (command : Command) :
    command.lacksKey k' = command.lacksKey k := by
  have hn : k'.names = k.names := (congrArg Keyboard.names h :)
  cases command with
  | key action name time => rw [lacksKey, lacksKey, Keyboard.find?, Keyboard.find?, hn]
  | _ => rfl

theorem execute_of_lacksKey (h : command.lacksKey k = true) (clock : UInt32) :
    command.execute clock k = none := by
  cases command with
  | key action name time => rw [execute, Option.isNone_iff_eq_none.mp h]
  | _ => exact nomatch h

theorem clockAfter_of_body {k k' : Keyboard} (h : k'.body = k.body) (clock : UInt32)
    (command : Command) : command.clockAfter k' clock = command.clockAfter k clock := by
  rw [clockAfter, clockAfter, timeOn?, timeOn?, lacksKey_of_body h]

/-- What carrying out a command comes to: its time goes to the clock and to all key events. -/
theorem exists_execute (h : command.lacksKey k = false) (clock : UInt32) :
    ∃ o : Outcome, command.execute clock k = some (command.clockAfter k clock, o) ∧
      o.keyboard.body = k.body ∧ ∀ a, .activated a ∈ o.events →
        ∃ time, command.ownTime? = some time ∧ a.timestamp = tick clock time := by
  have hquiet : ∀ {o : Outcome}, o.Quiet k → ∀ a, .activated a ∈ o.events →
      ∃ time, command.ownTime? = some time ∧ a.timestamp = tick clock time :=
    fun hq a ha => absurd ha (hq.not_activated a)
  rw [clockAfter, timeOn?, h]
  cases command with
  | key action name time =>
    obtain ⟨id, hid⟩ := Option.isSome_iff_exists.mp (Option.isNone_eq_false_iff.mp h)
    refine ⟨k.act action id (tick clock time), by rw [execute, hid]; rfl, k.body_act _ _ _, ?_⟩
    exact fun a ha => ⟨time, rfl, k.isAt_act action id _ a ha⟩
  | releaseAll time =>
    exact ⟨_, rfl, k.body_step (.releaseAll _), fun a ha => ⟨time, rfl, k.isAt_releaseAll _ a ha⟩⟩
  | behavior b => exact ⟨_, rfl, k.body_step (.setBehavior b), hquiet ⟨rfl, List.forall_mem_nil _⟩⟩
  | modifiers m => exact ⟨_, rfl, k.body_step (.setModifiers m), hquiet (k.quiet_setModifiers m)⟩
  | level l => exact ⟨_, rfl, k.body_step (.setLevel l), hquiet (k.quiet_showLevel l)⟩
  | group g => exact ⟨_, rfl, k.body_step (.setGroup g), hquiet (k.quiet_setGroup g)⟩
  | reset => exact ⟨_, rfl, k.body_step .reset, hquiet k.quiet_reset⟩

end Command

namespace Replay

variable {r : Replay} {k : Keyboard}

theorem next_of_lacksKey {command : Command} (h : command.lacksKey r.keyboard = true) :
    r.next command = { r with skipped := r.skipped + 1 } := by
  rw [next, Command.execute_of_lacksKey h]

theorem exists_next {command : Command} (h : command.lacksKey r.keyboard = false) :
    ∃ o : Outcome, (∀ n, { r with skipped := n }.next command =
        { keyboard := o.keyboard, clock := command.clockAfter r.keyboard r.clock,
          events := r.events ++ o.events, executed := r.executed + 1, skipped := n }) ∧
      o.keyboard.body = r.keyboard.body ∧ ∀ a, .activated a ∈ o.events →
        ∃ time, command.ownTime? = some time ∧ a.timestamp = tick r.clock time := by
  obtain ⟨o, he, hb, ha⟩ := Command.exists_execute h r.clock
  exact ⟨o, fun n => by simp only [next, he], hb, ha⟩

theorem body_next (r : Replay) (command : Command) :
    (r.next command).keyboard.body = r.keyboard.body := by
  cases h : command.lacksKey r.keyboard with
  | true => rw [next_of_lacksKey h]
  | false =>
    obtain ⟨o, hn, hb, _⟩ := exists_next h
    rw [hn r.skipped, hb]

theorem clock_next (r : Replay) (command : Command) :
    (r.next command).clock = command.clockAfter r.keyboard r.clock := by
  cases h : command.lacksKey r.keyboard with
  | true =>
    rw [next_of_lacksKey h, Command.clockAfter, Command.timeOn?, h]
    rfl
  | false =>
    obtain ⟨o, hn, _⟩ := exists_next h
    rw [hn r.skipped]

theorem counts_next (r : Replay) (command : Command) :
    (r.next command).executed = r.executed + (!command.lacksKey r.keyboard).toNat ∧
      (r.next command).skipped = r.skipped + (command.lacksKey r.keyboard).toNat := by
  cases h : command.lacksKey r.keyboard with
  | true =>
    rw [next_of_lacksKey h]
    exact ⟨rfl, rfl⟩
  | false =>
    obtain ⟨o, hn, _⟩ := exists_next h
    rw [hn r.skipped]
    exact ⟨rfl, rfl⟩

theorem exists_events_next (r : Replay) (command : Command) :
    ∃ new, (r.next command).events = r.events ++ new ∧
      (command.lacksKey r.keyboard = true → new = []) ∧ ∀ a, .activated a ∈ new →
        ∃ time, command.ownTime? = some time ∧ a.timestamp = tick r.clock time := by
  cases h : command.lacksKey r.keyboard with
  | true =>
    rw [next_of_lacksKey h]
    exact ⟨[], (List.append_nil _).symm, fun _ => rfl, fun _ ha => absurd ha List.not_mem_nil⟩
  | false =>
    obtain ⟨o, hn, _, ha⟩ := exists_next h
    rw [hn r.skipped]
    exact ⟨o.events, rfl, nofun, ha⟩

theorem goOn_cons (r : Replay) (step : Step) (steps : List Step) :
    r.goOn (step :: steps) = (r.next step.command).goOn steps := rfl

theorem run_append (clock : UInt32) (k : Keyboard) (steps others : List Step) :
    run clock k (steps ++ others) = (run clock k steps).goOn others :=
  List.foldl_append

theorem timeAfter_cons (k : Keyboard) (clock : UInt32) (step : Step) (steps : List Step) :
    timeAfter k clock (step :: steps) = timeAfter k (step.command.clockAfter k clock) steps := by
  rw [timeAfter, timeAfter, List.filterMap_cons, Command.clockAfter]
  cases step.command.timeOn? k <;> rfl

theorem body_goOn (r : Replay) (steps : List Step) :
    (r.goOn steps).keyboard.body = r.keyboard.body := by
  induction steps generalizing r with
  | nil => rfl
  | cons step steps ih => rw [goOn_cons, ih, body_next]

theorem clock_goOn (h : r.keyboard.body = k.body) (steps : List Step) :
    (r.goOn steps).clock = timeAfter k r.clock steps := by
  induction steps generalizing r with
  | nil => rfl
  | cons step steps ih =>
    rw [goOn_cons, ih ((r.body_next _).trans h), clock_next, Command.clockAfter_of_body h, timeAfter_cons]

theorem counts_goOn (h : r.keyboard.body = k.body) (steps : List Step) :
    (r.goOn steps).executed = r.executed + steps.countP (fun step => !step.command.lacksKey k) ∧
      (r.goOn steps).skipped = r.skipped + steps.countP fun step => step.command.lacksKey k := by
  induction steps generalizing r with
  | nil => exact ⟨rfl, rfl⟩
  | cons step steps ih =>
    obtain ⟨hexecuted, hskipped⟩ := ih ((r.body_next step.command).trans h)
    obtain ⟨he, hs⟩ := r.counts_next step.command
    rw [Command.lacksKey_of_body h] at he hs
    rw [goOn_cons, hexecuted, hskipped, he, hs, List.countP_cons, List.countP_cons]
    cases step.command.lacksKey k <;> simp <;> omega

theorem exists_events_goOn (r : Replay) (steps : List Step) :
    ∃ later, (r.goOn steps).events = r.events ++ later := by
  induction steps generalizing r with
  | nil => exact ⟨[], (List.append_nil _).symm⟩
  | cons step steps ih =>
    obtain ⟨new, hnew, _⟩ := r.exists_events_next step.command
    obtain ⟨later, hlater⟩ := ih (r.next step.command)
    exact ⟨new ++ later, by rw [goOn_cons, hlater, hnew, List.append_assoc]⟩

/-- Without the steps that are skipped, all comes out the same, whatever number of them was counted.
-/
theorem goOn_filter (h : r.keyboard.body = k.body) (steps : List Step) (n : Nat) :
    { r with skipped := n }.goOn (steps.filter fun step => !step.command.lacksKey k) =
      { r.goOn steps with skipped := n } := by
  induction steps generalizing r with
  | nil => rfl
  | cons step steps ih =>
    have hrest := ih ((r.body_next step.command).trans h)
    have hlacks := Command.lacksKey_of_body h step.command
    cases hs : step.command.lacksKey k with
    | true =>
      rw [next_of_lacksKey (hlacks.trans hs)] at hrest
      rw [List.filter_cons_of_neg (by simp [hs]), hrest, goOn_cons, next_of_lacksKey (hlacks.trans hs)]
    | false =>
      obtain ⟨o, hn, _⟩ := exists_next (hlacks.trans hs)
      have hsame : { r with skipped := n }.next step.command =
          { r.next step.command with skipped := n } := by rw [hn n, hn r.skipped]
      rw [List.filter_cons_of_pos (by simp [hs]), goOn_cons, hsame, hrest, goOn_cons]

/-- A replay comes to the same without the steps for keys that the keyboard lacks at the start. A
key event has the time of its step: the one given, or else one more than that of the step before it.
-/
theorem replay_skips_and_keeps_time (clock : UInt32) (k : Keyboard) (steps : List Step) :
    let r := run clock k steps
    r.executed + r.skipped = steps.length ∧
    (r.skipped = steps.countP fun step => step.command.lacksKey k) ∧
    run clock k (steps.filter fun step => !step.command.lacksKey k) = { r with skipped := 0 } ∧
    r.clock = timeAfter k clock steps ∧
    ∀ before step after, steps = before ++ step :: after →
      ∃ new later, r.events = (run clock k before).events ++ new ++ later ∧
        (run clock k (before ++ [step])).events = (run clock k before).events ++ new ∧
        (step.command.lacksKey k = true → new = []) ∧
        ∀ a, .activated a ∈ new → ∃ time, step.command.ownTime? = some time ∧
          a.timestamp = time.getD (timeAfter k clock before + 1) := by
  let start : Replay := { keyboard := k, clock }
  have hstart : start.keyboard.body = k.body := rfl
  obtain ⟨hexecuted, hskipped⟩ := counts_goOn hstart steps
  refine ⟨?_, ?_, goOn_filter hstart steps 0, clock_goOn hstart steps, ?_⟩
  · have hlength := steps.length_eq_countP_add_countP fun step => step.command.lacksKey k
    have hnot : (steps.countP fun step => ¬step.command.lacksKey k) =
        steps.countP fun step => !step.command.lacksKey k := by simp
    have he : start.executed = 0 := rfl
    have hs : start.skipped = 0 := rfl
    change (start.goOn steps).executed + (start.goOn steps).skipped = steps.length
    omega
  · exact hskipped.trans (Nat.zero_add _)
  · rintro before step after rfl
    have hbody : (run clock k before).keyboard.body = k.body := start.body_goOn before
    have hclock : (run clock k before).clock = timeAfter k clock before := clock_goOn hstart before
    obtain ⟨new, hnew, hnone, htimes⟩ := (run clock k before).exists_events_next step.command
    obtain ⟨later, hlater⟩ := exists_events_goOn ((run clock k before).next step.command) after
    rw [Command.lacksKey_of_body hbody] at hnone
    rw [hclock] at htimes
    refine ⟨new, later, ?_, ?_, hnone, htimes⟩
    · rw [run_append, goOn_cons, hlater, hnew]
    · rw [run_append]
      exact hnew

theorem replay_skips_and_keeps_time_wraps :
    let k := Keyboard.ofLayout .small
    let nope : Step := ⟨1, .key .press "NOPE" (some 5)⟩
    let tap : Step := ⟨2, .key .tap "AC01" none⟩
    let r := run 0xFFFFFFFF k [nope, tap]
    r.executed = 1 ∧ r.skipped = 1 ∧ r.clock = 0 ∧
      run 0xFFFFFFFF k [tap] = { r with skipped := 0 } ∧
      ∀ a, .activated a ∈ r.events → a.timestamp = 0 := by
  intro k nope tap r
  have hnope : nope.command.lacksKey k = true := by decide
  have htap : tap.command.lacksKey k = false := by decide
  have hlast : timeAfter k 0xFFFFFFFF [nope] = 0xFFFFFFFF := by decide
  have htime : timeAfter k 0xFFFFFFFF [nope, tap] = 0 := by decide
  obtain ⟨hcount, hskipped, hsame, hclock, hsteps⟩ :=
    replay_skips_and_keeps_time 0xFFFFFFFF k [nope, tap]
  have hone : [nope, tap].countP (fun step => step.command.lacksKey k) = 1 := by simp [hnope, htap]
  have hfilter : [nope, tap].filter (fun step => !step.command.lacksKey k) = [tap] := by
    simp [hnope, htap]
  rw [hone] at hskipped
  rw [hfilter] at hsame
  refine ⟨?_, hskipped, hclock.trans htime, hsame, ?_⟩
  · exact Nat.add_right_cancel (hskipped ▸ hcount : _ + 1 = 1 + 1)
  · intro a ha
    obtain ⟨new, _, _, hnew, hnone, _⟩ := hsteps [] nope [tap] rfl
    obtain ⟨new', _, _, hnew', _, htimes⟩ := hsteps [nope] tap [] rfl
    have hbefore : (run 0xFFFFFFFF k [nope]).events = [] := by
      rw [hnone hnope] at hnew
      exact hnew
    rw [hbefore, List.nil_append] at hnew'
    obtain ⟨time, htap, hat⟩ := htimes a (hnew' ▸ ha)
    cases htap
    rw [hat, hlast]
    rfl

end Replay

end ScreenKeyboard
