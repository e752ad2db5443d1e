-- Programs that return, crash or outlast their fuel, with or without a state,
-- and loops over them. A loop is known by its turns: what a row of turns does,
-- and how the loop leaves at the end of the row.
import Mathlib.Data.List.Basic
import Mathlib.Logic.Basic

namespace librabbitmq

/-! ## The outcome of a C function -/

/-- How a call ends. `crash` is a read through a NULL pointer, or of an object
that is not of the type read. `hang` means that the fuel did not suffice. -/
inductive Outcome (α : Type) where
  | ret (a : α)
  | crash
  | hang

namespace Outcome

def bind {α β : Type} : Outcome α → (α → Outcome β) → Outcome β
  | ret a, f => f a
  | crash, _ => crash
  | hang, _ => hang

instance : Monad Outcome where
  pure := ret
  bind := bind

@[simp] theorem pure_eq {α : Type} (a : α) : (pure a : Outcome α) = ret a := rfl

@[simp] theorem ret_bind {α β : Type} (a : α) (f : α → Outcome β) : (ret a >>= f) = f a := rfl

instance : LawfulMonad Outcome := LawfulMonad.mk' Outcome
  (by rintro α (_ | _ | _) <;> rfl)
  (fun _ _ => rfl)
  (by rintro α β γ (_ | _ | _) f g <;> rfl)

/-- A result comes from a result of the first part. -/
theorem ret_of_bind {α β : Type} {x : Outcome α} {f : α → Outcome β} {b : β}
    (h : x >>= f = .ret b) : ∃ a, x = .ret a ∧ f a = .ret b := by
  cases x with
  | ret a => exact ⟨a, rfl, h⟩
  | crash => cases h
  | hang => cases h

end Outcome

/-- A C function that works on a state of type `ω`: how the call ends, and the
state that it leaves, also where it crashes or does not end. -/
def Run (ω α : Type) := ω → Outcome α × ω

namespace Run

variable {ω α β : Type}

def bind (x : Run ω α) (f : α → Run ω β) : Run ω β := fun w =>
  match x w with
  | (.ret a, w) => f a w
  | (.crash, w) => (.crash, w)
  | (.hang, w) => (.hang, w)

instance : Monad (Run ω) where
  pure a := fun w => (.ret a, w)
  bind := bind

/-- The state is out of reach of a plain outcome. -/
def lift (x : Outcome α) : Run ω α := fun w => (x, w)

def hang : Run ω α := fun w => (.hang, w)

def crash : Run ω α := fun w => (.crash, w)

def get : Run ω ω := fun w => (.ret w, w)

def modify (f : ω → ω) : Run ω Unit := fun w => (.ret (), f w)

theorem pure_apply (a : α) (w : ω) : (pure a : Run ω α) w = (.ret a, w) := rfl

theorem bind_apply (x : Run ω α) (f : α → Run ω β) (w : ω) :
    (x >>= f) w = match x w with
      | (.ret a, w) => f a w
      | (.crash, w) => (.crash, w)
      | (.hang, w) => (.hang, w) := rfl

theorem bind_assoc {γ : Type} (x : Run ω α) (f : α → Run ω β) (g : β → Run ω γ) :
    (x >>= f) >>= g = x >>= fun a => f a >>= g := by
  funext w
  rw [bind_apply, bind_apply, bind_apply]
  rcases x w with ⟨o, w'⟩
  cases o <;> rfl

/-- The rest of a call runs after a first part that returns. -/
theorem bind_ret {x : Run ω α} {f : α → Run ω β} {w w' : ω} {a : α} (h : x w = (.ret a, w')) :
    (x >>= f) w = f a w' := by
  rw [bind_apply, h]

theorem bind_crash {x : Run ω α} {f : α → Run ω β} {w w' : ω} (h : x w = (.crash, w')) :
    (x >>= f) w = (.crash, w') := by
  rw [bind_apply, h]

theorem bind_hang {x : Run ω α} {f : α → Run ω β} {w w' : ω} (h : x w = (.hang, w')) :
    (x >>= f) w = (.hang, w') := by
  rw [bind_apply, h]

/-- A call that returns has returned from its first part. -/
theorem ret_of_bind {x : Run ω α} {f : α → Run ω β} {w w' : ω} {b : β}
    (h : (x >>= f) w = (.ret b, w')) : ∃ a w1, x w = (.ret a, w1) ∧ f a w1 = (.ret b, w') := by
  rw [bind_apply] at h
  rcases hx : x w with ⟨o, w1⟩
  rw [hx] at h
  cases o with
  | ret a => exact ⟨a, w1, rfl, h⟩
  | crash => cases h
  | hang => cases h

@[simp] theorem get_bind_apply (f : ω → Run ω β) (w : ω) : (get >>= f) w = f w w := rfl

@[simp] theorem modify_bind_apply (g : ω → ω) (f : Unit → Run ω β) (w : ω) :
    (modify g >>= f) w = f () (g w) := rfl

@[simp] theorem lift_ret_bind_apply (a : α) (f : α → Run ω β) (w : ω) :
    (lift (.ret a) >>= f) w = f a w := rfl

end Run

/-! ## Loops -/

namespace Run

variable {ω α β : Type}

/-- A loop over the variables `β`. A turn gives the variables of the next turn,
or leaves the loop with a result. -/
def loop (turn : β → Run ω (β ⊕ α)) : Nat → β → Run ω α
  | 0, _ => hang
  | fuel + 1, b => do
    match ← turn b with
    | .inl b => loop turn fuel b
    | .inr a => pure a

/-- A row of `n` turns that all go on. -/
def Turns (turn : β → Run ω (β ⊕ α)) : Nat → β → ω → β → ω → Prop
  | 0, b, w, b', w' => b = b' ∧ w = w'
  | n + 1, b, w, b', w' => ∃ b1 w1, turn b w = (.ret (.inl b1), w1) ∧ Turns turn n b1 w1 b' w'

theorem turns_append {turn : β → Run ω (β ⊕ α)} {n m : Nat} {b2 : β} {w2 : ω} :
    ∀ {b b1 : β} {w w1 : ω}, Turns turn n b w b1 w1 → Turns turn m b1 w1 b2 w2 →
      Turns turn (n + m) b w b2 w2 := by
  induction n with
  | zero =>
    rintro b b1 w w1 ⟨rfl, rfl⟩ h2
    rw [Nat.zero_add]
    exact h2
  | succ n ih =>
    rintro b b1 w w1 ⟨b0, w0, h0, h1⟩ h2
    rw [Nat.succ_add]
    exact ⟨b0, w0, h0, ih h1 h2⟩

/-- One more turn at the end of a row. -/
theorem turns_snoc {turn : β → Run ω (β ⊕ α)} {n : Nat} {b b1 b2 : β} {w w1 w2 : ω}
    (h : Turns turn n b w b1 w1) (h1 : turn b1 w1 = (.ret (.inl b2), w2)) :
    Turns turn (n + 1) b w b2 w2 :=
  turns_append h ⟨b2, w2, h1, rfl, rfl⟩

/-- What holds at the start of a row, and through each turn, holds at its end. -/
theorem turns_induction {turn : β → Run ω (β ⊕ α)} (P : Nat → β → ω → Prop)
    (step : ∀ k b w b' w', P k b w → turn b w = (.ret (.inl b'), w') → P (k + 1) b' w') :
    ∀ {n k : Nat} {b b' : β} {w w' : ω}, P k b w → Turns turn n b w b' w' → P (k + n) b' w' := by
  intro n
  induction n with
  | zero =>
    rintro k b b' w w' h ⟨rfl, rfl⟩
    exact h
  | succ n ih =>
    rintro k b b' w w' h ⟨b1, w1, h1, hn⟩
    have := ih (step k b w b1 w1 h h1) hn
    rwa [Nat.add_right_comm] at this

/-- The loop after a row of turns is the loop from the end of the row. -/
theorem loop_turns {turn : β → Run ω (β ⊕ α)} {n : Nat} (fuel : Nat) :
    ∀ {b b' : β} {w w' : ω}, Turns turn n b w b' w' →
      loop turn (n + fuel) b w = loop turn fuel b' w' := by
  induction n with
  | zero =>
    rintro b b' w w' ⟨rfl, rfl⟩
    rw [Nat.zero_add]
  | succ n ih =>
    rintro b b' w w' ⟨b1, w1, h1, hn⟩
    rw [Nat.succ_add, loop, bind_ret h1]
    exact ih hn

/-- The loop leaves at a turn that has a result. -/
theorem loop_leave {turn : β → Run ω (β ⊕ α)} {n fuel : Nat} {b b1 : β} {w w1 w' : ω} {a : α}
    (h : Turns turn n b w b1 w1) (h1 : turn b1 w1 = (.ret (.inr a), w')) (hf : n < fuel) :
    loop turn fuel b w = (.ret a, w') := by
  obtain ⟨m, rfl⟩ := Nat.exists_eq_add_of_lt hf
  rw [Nat.add_assoc, loop_turns (m + 1) h, loop, bind_ret h1]
  rfl

/-- A turn that does not end makes the loop not end. -/
theorem loop_hang {turn : β → Run ω (β ⊕ α)} {n fuel : Nat} {b b1 : β} {w w1 w' : ω}
    (h : Turns turn n b w b1 w1) (h1 : turn b1 w1 = (.hang, w')) (hf : n < fuel) :
    loop turn fuel b w = (.hang, w') := by
  obtain ⟨m, rfl⟩ := Nat.exists_eq_add_of_lt hf
  rw [Nat.add_assoc, loop_turns (m + 1) h, loop, bind_hang h1]

/-- How a loop ends: out of fuel, or at a turn that does not go on. -/
theorem loop_cases (turn : β → Run ω (β ⊕ α)) (fuel : Nat) : ∀ (b : β) (w : ω),
    ∃ n b1 w1, Turns turn n b w b1 w1 ∧
      (loop turn fuel b w = (.hang, w1) ∨
        (∃ a w', turn b1 w1 = (.ret (.inr a), w') ∧ loop turn fuel b w = (.ret a, w')) ∨
        (∃ w', turn b1 w1 = (.crash, w') ∧ loop turn fuel b w = (.crash, w')) ∨
        (∃ w', turn b1 w1 = (.hang, w') ∧ loop turn fuel b w = (.hang, w'))) := by
  induction fuel with
  | zero =>
    intro b w
    exact ⟨0, b, w, ⟨rfl, rfl⟩, Or.inl rfl⟩
  | succ fuel ih =>
    intro b w
    rcases ht : turn b w with ⟨o, w1⟩
    cases o with
    | ret r =>
      cases r with
      | inl b1 =>
        obtain ⟨n, b2, w2, hn, h⟩ := ih b1 w1
        refine ⟨n + 1, b2, w2, ⟨b1, w1, ht, hn⟩, ?_⟩
        rw [loop, bind_ret ht]
        exact h
      | inr a =>
        refine ⟨0, b, w, ⟨rfl, rfl⟩, Or.inr (Or.inl ⟨a, w1, ht, ?_⟩)⟩
        rw [loop, bind_ret ht]
        rfl
    | crash =>
      refine ⟨0, b, w, ⟨rfl, rfl⟩, Or.inr (Or.inr (Or.inl ⟨w1, ht, ?_⟩))⟩
      rw [loop, bind_crash ht]
    | hang =>
      refine ⟨0, b, w, ⟨rfl, rfl⟩, Or.inr (Or.inr (Or.inr ⟨w1, ht, ?_⟩))⟩
      rw [loop, bind_hang ht]

/-- What each turn does to the state, however the turn ends, the loop does. -/
theorem loop_keeps {turn : β → Run ω (β ⊕ α)} (R : ω → ω → Prop) (hrefl : ∀ w, R w w)
    (htrans : ∀ w w1 w2, R w w1 → R w1 w2 → R w w2) (hturn : ∀ b w, R w (turn b w).2)
    (fuel : Nat) : ∀ (b : β) (w : ω), R w (loop turn fuel b w).2 := by
  induction fuel with
  | zero => exact fun b w => hrefl w
  | succ fuel ih =>
    intro b w
    have h := hturn b w
    rw [loop, bind_apply]
    rcases ht : turn b w with ⟨o, w1⟩
    rw [ht] at h
    cases o with
    | ret r =>
      cases r with
      | inl b1 => exact htrans w w1 _ h (ih b1 w1)
      | inr a => exact h
    | crash => exact h
    | hang => exact h

/-- A loop that returns has left at a turn with that result. -/
theorem turns_of_loop {turn : β → Run ω (β ⊕ α)} {fuel : Nat} {b : β} {w w' : ω} {a : α}
    (h : loop turn fuel b w = (.ret a, w')) :
    ∃ n b1 w1, Turns turn n b w b1 w1 ∧ turn b1 w1 = (.ret (.inr a), w') := by
  obtain ⟨n, b1, w1, hn, h1 | ⟨a', w2, ht, h1⟩ | ⟨w2, _, h1⟩ | ⟨w2, _, h1⟩⟩ :=
    loop_cases turn fuel b w
  · rw [h] at h1
    cases h1
  · rw [h] at h1
    cases h1
    exact ⟨n, b1, w1, hn, ht⟩
  · rw [h] at h1
    cases h1
  · rw [h] at h1
    cases h1

end Run

end librabbitmq
