import ScreenKeyboard.Proofs.Keyboard.Turns

namespace ScreenKeyboard.Keyboard

def Operation.isKeyEvent : Operation → Bool
  | .press _ _ | .release _ _ | .releaseAll _ => true
  | _ => false

/-- Keys released one after another, each with the keyboard just before. -/
def releasesOf (k : Keyboard) (t : UInt32) : List KeyId → List (Keyboard × KeyId)
  | [] => []
  | id :: ids => (k, id) :: (k.release id t).keyboard.releasesOf t ids

def releases (k : Keyboard) : List Operation → List (Keyboard × KeyId)
  | [] => []
  | .release id t :: ops => (k, id) :: (k.release id t).keyboard.releases ops
  | .releaseAll t :: ops => k.releasesOf t k.pressed ++ (k.releaseAll t).keyboard.releases ops
  | op :: ops => (k.step op).keyboard.releases ops

variable {P : Keyboard → Prop} {Q : Keyboard → KeyId → Prop} {k : Keyboard}

theorem chain_of_releasesOf (hr : ∀ k id t, P k → Q k id → P (k.release id t).keyboard) (h : P k)
    (t : UInt32) {ids : List KeyId} (hq : ∀ r ∈ k.releasesOf t ids, Q r.1 r.2) :
    P (Outcome.chain k ids fun k id => k.release id t).keyboard := by
  induction ids generalizing k with
  | nil => exact h
  | cons id ids ih =>
    have hk := hr k id t h (hq (k, id) List.mem_cons_self)
    rw [Outcome.chain_cons, Outcome.keyboard_andThen]
    exact ih hk fun r hm => hq r (List.mem_cons_of_mem _ hm)

theorem run_of_releases (hp : ∀ k id t, P k → P (k.press id t).keyboard)
    (hr : ∀ k id t, P k → Q k id → P (k.release id t).keyboard) (h : P k) {ops : List Operation}
    (ho : ∀ op ∈ ops, op.isKeyEvent = true) (hq : ∀ r ∈ k.releases ops, Q r.1 r.2) :
    P (k.run ops).keyboard := by
  induction ops generalizing k with
  | nil => exact h
  | cons op ops ih =>
    have hrest : ∀ op ∈ ops, op.isKeyEvent = true := fun op hm => ho op (List.mem_cons_of_mem _ hm)
    rw [run_cons, Outcome.keyboard_andThen]
    cases op with
    | press id t => exact ih (hp k id t h) hrest hq
    | release id t =>
      have hk := hr k id t h (hq (k, id) List.mem_cons_self)
      exact ih hk hrest fun r hm => hq r (List.mem_cons_of_mem _ hm)
    | releaseAll t =>
      have hk := chain_of_releasesOf hr h t fun r hm => hq r (List.mem_append_left _ hm)
      exact ih hk hrest fun r hm => hq r (List.mem_append_right _ hm)
    | setModifiers _ | setLevel _ | setGroup _ | setBehavior _ | setNumLockMask _ | setAltGrMask _
    | reset => exact absurd (ho _ List.mem_cons_self) Bool.false_ne_true

end ScreenKeyboard.Keyboard
