import Mathlib.Tactic.Common
import ScreenKeyboard.Keyboard.Input

namespace ScreenKeyboard

namespace Outcome

theorem andThen_still (o : Outcome) : (o.andThen fun k => ⟨k, []⟩) = o := by
  simp [andThen]

theorem still_andThen (k : Keyboard) (f : Keyboard → Outcome) : (⟨k, []⟩ : Outcome).andThen f = f k := by
  simp [andThen]

theorem andThen_assoc (o : Outcome) (f g : Keyboard → Outcome) :
    (o.andThen f).andThen g = o.andThen fun k => (f k).andThen g := by
  simp [andThen]

variable {α : Type}

theorem foldl_andThen (o : Outcome) (items : List α) (f : Keyboard → α → Outcome) :
    items.foldl (fun o item => o.andThen fun k => f k item) o =
      o.andThen fun k => chain k items f := by
  induction items generalizing o with
  | nil => exact o.andThen_still.symm
  | cons item items ih =>
    have hk : ∀ k, chain k (item :: items) f = (f k item).andThen fun k => chain k items f := by
      intro k
      rw [chain, List.foldl_cons, ih, still_andThen]
    rw [List.foldl_cons, ih, andThen_assoc]
    simp only [hk]

theorem chain_cons (k : Keyboard) (item : α) (items : List α) (f : Keyboard → α → Outcome) :
    chain k (item :: items) f = (f k item).andThen fun k => chain k items f := by
  rw [chain, List.foldl_cons, foldl_andThen, still_andThen]

theorem chain_append (k : Keyboard) (items items' : List α) (f : Keyboard → α → Outcome) :
    chain k (items ++ items') f = (chain k items f).andThen fun k => chain k items' f := by
  rw [chain, List.foldl_append, foldl_andThen]
  rfl

/-- A property of histories, keyboards with the events so far, that holds before an outcome still
holds after it. -/
def Keeps (P : Outcome → Prop) (k : Keyboard) (o : Outcome) : Prop :=
  ∀ past, P ⟨k, past⟩ → P ⟨o.keyboard, past ++ o.events⟩

namespace Keeps

variable {P : Outcome → Prop} {k : Keyboard}

theorem still (k : Keyboard) : Keeps P k ⟨k, []⟩ := by
  intro past h
  simpa using h

theorem silent {k' : Keyboard} (h : ∀ past, P ⟨k, past⟩ → P ⟨k', past⟩) : Keeps P k ⟨k', []⟩ := by
  intro past hp
  simpa using h past hp

theorem andThen {o : Outcome} {f : Keyboard → Outcome} (h : Keeps P k o)
    (hf : Keeps P o.keyboard (f o.keyboard)) : Keeps P k (o.andThen f) := by
  intro past hp
  have hh := hf _ (h past hp)
  simpa only [keyboard_andThen, events_andThen, List.append_assoc] using hh

theorem chain {items : List α} {f : Keyboard → α → Outcome}
    (h : ∀ k, ∀ item ∈ items, Keeps P k (f k item)) (k : Keyboard) :
    Keeps P k (Outcome.chain k items f) := by
  induction items generalizing k with
  | nil => exact still k
  | cons item items ih =>
    rw [chain_cons]
    exact (h k item List.mem_cons_self).andThen
      (ih (fun k item hi => h k item (List.mem_cons_of_mem _ hi)) _)

theorem holds {o : Outcome} (h : Keeps P k o) (hk : P ⟨k, []⟩) : P o := by
  simpa using h [] hk

end Keeps

end Outcome

namespace Keyboard

theorem run_nil (k : Keyboard) : k.run [] = ⟨k, []⟩ := rfl

theorem run_cons (k : Keyboard) (op : Operation) (ops : List Operation) :
    k.run (op :: ops) = (k.step op).andThen fun k => k.run ops :=
  Outcome.chain_cons k op ops step

theorem run_append (k : Keyboard) (ops ops' : List Operation) :
    k.run (ops ++ ops') = (k.run ops).andThen fun k => k.run ops' :=
  Outcome.chain_append k ops ops' step

theorem run_keeps {P : Outcome → Prop} {ops : List Operation}
    (h : ∀ k, ∀ op ∈ ops, Outcome.Keeps P k (k.step op)) (k : Keyboard) :
    Outcome.Keeps P k (k.run ops) :=
  Outcome.Keeps.chain h k

end Keyboard

end ScreenKeyboard
