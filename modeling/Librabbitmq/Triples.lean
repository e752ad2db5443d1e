-- Triples over runs. A triple says what holds of a run that returns, and along
-- which steps the run moves a view of its state, however the run ends.
import Librabbitmq.Run
import Mathlib.Logic.Relation

namespace librabbitmq

open Relation

variable {ω ν α β : Type}

/-- From a state that satisfies `P` the run moves the view along `step`, and where
it returns a result, `Q` holds of the result and of the state. -/
def Moves (view : ω → ν) (step : ν → ν → Prop) (P : ω → Prop) (x : Run ω α)
    (Q : α → ω → Prop) : Prop :=
  ∀ w, P w → ReflTransGen step (view w) (view (x w).2) ∧ ∀ a w', x w = (.ret a, w') → Q a w'

namespace Moves

variable {view : ω → ν} {step : ν → ν → Prop} {P P' : ω → Prop} {x : Run ω α}
  {Q Q' : α → ω → Prop} {f : α → Run ω β} {S : β → ω → Prop}

theorem pure {a : α} (h : ∀ w, P w → Q a w) : Moves view step P (pure a) Q := by
  intro w hw
  refine ⟨.refl, fun b w' hb => ?_⟩
  cases hb
  exact h w hw

theorem bind (hx : Moves view step P x Q) (hf : ∀ a, Moves view step (Q a) (f a) S) :
    Moves view step P (x >>= f) S := by
  intro w hw
  obtain ⟨hmoves, hq⟩ := hx w hw
  rw [Run.bind_apply]
  rcases hrun : x w with ⟨o, w1⟩
  rw [hrun] at hmoves
  cases o with
  | ret a =>
    obtain ⟨hmoves', hs⟩ := hf a w1 (hq a w1 hrun)
    exact ⟨hmoves.trans hmoves', hs⟩
  | crash => exact ⟨hmoves, fun _ _ h => by cases h⟩
  | hang => exact ⟨hmoves, fun _ _ h => by cases h⟩

theorem conseq (hx : Moves view step P x Q) (hP : ∀ w, P' w → P w)
    (hQ : ∀ a w, Q a w → Q' a w) : Moves view step P' x Q' := fun w hw =>
  ⟨(hx w (hP w hw)).1, fun a w' ha => hQ a w' ((hx w (hP w hw)).2 a w' ha)⟩

/-- A precondition that says more. -/
theorem pre (hx : Moves view step P x Q) (hP : ∀ w, P' w → P w) : Moves view step P' x Q :=
  hx.conseq hP fun _ _ h => h

/-- A postcondition that says less. -/
theorem post (hx : Moves view step P x Q) (hQ : ∀ a w, Q a w → Q' a w) :
    Moves view step P x Q' :=
  hx.conseq (fun _ h => h) hQ

/-- A run that is another run from each of its states. -/
theorem of_eq {y : Run ω α} (hy : Moves view step P y Q) (h : ∀ w, P w → x w = y w) :
    Moves view step P x Q := by
  intro w hw
  rw [h w hw]
  exact hy w hw

/-- The run of a triple with the weakest postcondition. -/
theorem path (hx : Moves view step (fun _ => True) x Q) (w : ω) :
    ReflTransGen step (view w) (view (x w).2) := (hx w trivial).1

theorem crash : Moves view step P (Run.crash : Run ω α) Q :=
  fun _ _ => ⟨.refl, fun _ _ h => by cases h⟩

theorem hang : Moves view step P (Run.hang : Run ω α) Q :=
  fun _ _ => ⟨.refl, fun _ _ h => by cases h⟩

/-- A state is read. -/
theorem get_bind {g : ω → Run ω β} (h : ∀ v, P v → Moves view step (fun w => w = v) (g v) S) :
    Moves view step P (Run.get >>= g) S := by
  intro w hw
  rw [Run.get_bind_apply]
  exact h w hw w rfl

theorem modify {g : ω → ω} {Q : Unit → ω → Prop}
    (hstep : ∀ w, P w → ReflTransGen step (view w) (view (g w))) (hQ : ∀ w, P w → Q () (g w)) :
    Moves view step P (Run.modify g) Q := by
  intro w hw
  refine ⟨hstep w hw, fun a w' ha => ?_⟩
  cases ha
  exact hQ w hw

/-- A run that keeps the view. -/
theorem still (hview : ∀ w, P w → view (x w).2 = view w)
    (hQ : ∀ w a w', P w → x w = (.ret a, w') → Q a w') : Moves view step P x Q := by
  intro w hw
  refine ⟨?_, fun a w' ha => hQ w a w' hw ha⟩
  rw [hview w hw]

theorem ite {c : Prop} [Decidable c] {y : Run ω α} (hx : c → Moves view step P x Q)
    (hy : ¬ c → Moves view step P y Q) : Moves view step P (if c then x else y) Q := by
  split
  · exact hx ‹_›
  · exact hy ‹_›

/-- A loop keeps its invariant in every turn that goes on. -/
theorem loop {turn : β → Run ω (β ⊕ α)} (I : β → ω → Prop)
    (hturn : ∀ b, Moves view step (I b) (turn b) fun r w =>
      match r with
      | .inl b => I b w
      | .inr a => Q a w) (fuel : Nat) : ∀ b, Moves view step (I b) (Run.loop turn fuel b) Q := by
  induction fuel with
  | zero => exact fun b => hang
  | succ fuel ih =>
    intro b
    unfold Run.loop
    refine (hturn b).bind fun r => ?_
    cases r with
    | inl b => exact ih b
    | inr a => exact pure fun _ h => h

end Moves

end librabbitmq
