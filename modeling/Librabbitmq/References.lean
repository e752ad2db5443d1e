-- Objects that are counted by reference: a heap, its primitive steps, and what the others
-- who hold references can do to the objects that somebody holds.
import Mathlib.Data.List.Count
import Mathlib.Logic.Function.Basic
import Mathlib.Logic.Relation
import Mathlib.Algebra.Order.Ring.Int

namespace librabbitmq.references

open Relation

/-- A heap of objects with contents `κ`, at addresses that are numbers. An object is dead once
its count is zero; no address is given out twice, so that a dead object keeps its own. -/
@[ext]
structure Heap (κ : Type) where
  count : Nat → Int
  contents : Nat → κ
  next : Nat

namespace Heap

variable {κ : Type}

def Alive (h : Heap κ) (a : Nat) : Prop := 0 < h.count a

instance (h : Heap κ) (a : Nat) : Decidable (h.Alive a) := inferInstanceAs (Decidable (0 < _))

def incref (h : Heap κ) (a : Nat) : Heap κ :=
  { h with count := Function.update h.count a (h.count a + 1) }

def decref (h : Heap κ) (a : Nat) : Heap κ :=
  { h with count := Function.update h.count a (h.count a - 1) }

/-- A new object, at `h.next`, with one reference. -/
def alloc (h : Heap κ) (k : κ) : Heap κ :=
  { count := Function.update h.count h.next 1
    contents := Function.update h.contents h.next k
    next := h.next + 1 }

@[simp] theorem incref_contents (h : Heap κ) (a : Nat) : (h.incref a).contents = h.contents := rfl

@[simp] theorem incref_next (h : Heap κ) (a : Nat) : (h.incref a).next = h.next := rfl

@[simp] theorem decref_contents (h : Heap κ) (a : Nat) : (h.decref a).contents = h.contents := rfl

@[simp] theorem decref_next (h : Heap κ) (a : Nat) : (h.decref a).next = h.next := rfl

@[simp] theorem alloc_next (h : Heap κ) (k : κ) : (h.alloc k).next = h.next + 1 := rfl

theorem incref_count (h : Heap κ) (a b : Nat) :
    (h.incref a).count b = h.count b + if b = a then 1 else 0 := by
  unfold incref
  by_cases hb : b = a
  · subst hb
    simp
  · simp [hb]

theorem decref_count (h : Heap κ) (a b : Nat) :
    (h.decref a).count b = h.count b - if b = a then 1 else 0 := by
  unfold decref
  by_cases hb : b = a
  · subst hb
    simp
  · simp [hb]

theorem alloc_count_self (h : Heap κ) (k : κ) : (h.alloc k).count h.next = 1 := by
  simp [alloc]

theorem alloc_contents_self (h : Heap κ) (k : κ) : (h.alloc k).contents h.next = k := by
  simp [alloc]

theorem alloc_count_ne (h : Heap κ) (k : κ) {b : Nat} (hb : b ≠ h.next) :
    (h.alloc k).count b = h.count b := by
  simp [alloc, hb]

theorem alloc_contents_ne (h : Heap κ) (k : κ) {b : Nat} (hb : b ≠ h.next) :
    (h.alloc k).contents b = h.contents b := by
  simp [alloc, hb]

theorem decref_comm (h : Heap κ) (a b : Nat) : (h.decref a).decref b = (h.decref b).decref a := by
  have hcount : ((h.decref a).decref b).count = ((h.decref b).decref a).count := by
    funext c
    simp only [decref_count]
    omega
  exact Heap.ext hcount rfl rfl

theorem incref_decref (h : Heap κ) (a : Nat) : (h.incref a).decref a = h := by
  have hcount : ((h.incref a).decref a).count = h.count := by
    funext c
    simp only [decref_count, incref_count]
    omega
  exact Heap.ext hcount rfl rfl

end Heap

/-! ## Those who hold references -/

section

variable {κ : Type}

/-- One step of the others, where we hold `refs a` of the references to `a`: they can make
objects, take more references, and give back references of their own. -/
inductive Others (refs : Nat → Int) : Heap κ → Heap κ → Prop where
  | alloc (h : Heap κ) (k : κ) : Others refs h (h.alloc k)
  | incref (h : Heap κ) (a : Nat) (ha : h.Alive a) : Others refs h (h.incref a)
  | decref (h : Heap κ) (a : Nat) (ha : refs a < h.count a) : Others refs h (h.decref a)

/-- What we hold is there: each of our references is counted, and every object to which we
hold one was given out. -/
structure Held (refs : Nat → Int) (h : Heap κ) : Prop where
  counted : ∀ a, refs a ≤ h.count a
  given : ∀ a, h.next ≤ a → refs a ≤ 0

theorem Held.given_of_pos {refs : Nat → Int} {h : Heap κ} (hheld : Held refs h) {a : Nat}
    (ha : 0 < refs a) : a < h.next := by
  by_contra hge
  have := hheld.given a (by omega)
  omega

/-- One step of the others. -/
theorem Held.step {refs : Nat → Int} {h h' : Heap κ} (hheld : Held refs h)
    (hstep : Others refs h h') : Held refs h' := by
  cases hstep with
  | alloc k =>
    refine ⟨fun a => ?_, fun a ha => hheld.given a (by simp only [Heap.alloc_next] at ha; omega)⟩
    by_cases ha : a = h.next
    · subst ha
      have := hheld.given h.next le_rfl
      rw [Heap.alloc_count_self]
      omega
    · rw [Heap.alloc_count_ne h k ha]
      exact hheld.counted a
  | incref a _ =>
    refine ⟨fun b => ?_, hheld.given⟩
    have := hheld.counted b
    rw [Heap.incref_count]
    split <;> omega
  | decref a ha =>
    refine ⟨fun b => ?_, hheld.given⟩
    have := hheld.counted b
    rw [Heap.decref_count]
    by_cases hb : b = a
    · subst hb
      rw [if_pos rfl]
      omega
    · rw [if_neg hb]
      omega

theorem contents_step {refs : Nat → Int} {h h' : Heap κ} (hstep : Others refs h h') {a : Nat}
    (ha : a < h.next) : h'.contents a = h.contents a ∧ a < h'.next := by
  cases hstep with
  | alloc k => exact ⟨Heap.alloc_contents_ne h k (by omega), by simp only [Heap.alloc_next]; omega⟩
  | incref b _ => exact ⟨rfl, ha⟩
  | decref b _ => exact ⟨rfl, ha⟩

/-- What we hold stays alive, with its contents, whatever the others do. -/
theorem Held.stays {refs : Nat → Int} {h h' : Heap κ} (hheld : Held refs h)
    (hsteps : ReflTransGen (Others refs) h h') {a : Nat} (ha : 0 < refs a) :
    h'.Alive a ∧ h'.contents a = h.contents a := by
  have hgiven := hheld.given_of_pos ha
  have hall : Held refs h' ∧ h'.contents a = h.contents a ∧ a < h'.next := by
    induction hsteps with
    | refl => exact ⟨hheld, rfl, hgiven⟩
    | tail _ hstep ih =>
      obtain ⟨hheld', hcontents, hlt⟩ := ih
      obtain ⟨hcontents', hlt'⟩ := contents_step hstep hlt
      exact ⟨hheld'.step hstep, hcontents'.trans hcontents, hlt'⟩
  have := hall.1.counted a
  exact ⟨by unfold Heap.Alive; omega, hall.2.1⟩

end

end librabbitmq.references
