-- Cells that are allocated and freed: a memory of values at addresses. Every address is
-- handed out once, and the memory keeps a log of what was freed.
import Mathlib.Logic.Function.Basic

namespace librabbitmq.cells

/-- A memory of cells with values `ν`. -/
@[ext]
structure Cells (ν : Type) where
  cell : Nat → Option ν
  brk : Nat
  freed : List Nat

namespace Cells

variable {ν : Type}

/-- No cell stands where nothing was handed out. -/
def Bounded (c : Cells ν) : Prop := ∀ p, c.brk ≤ p → c.cell p = none

def put (c : Cells ν) (p : Nat) (v : ν) : Cells ν :=
  { c with cell := Function.update c.cell p (some v) }

/-- A new cell, at `c.brk`. -/
def alloc (c : Cells ν) (v : ν) : Cells ν :=
  { c with cell := Function.update c.cell c.brk (some v), brk := c.brk + 1 }

def drop (c : Cells ν) (p : Nat) : Cells ν :=
  { c with cell := Function.update c.cell p none, freed := c.freed ++ [p] }

@[simp] theorem put_brk (c : Cells ν) (p : Nat) (v : ν) : (c.put p v).brk = c.brk := rfl

@[simp] theorem put_freed (c : Cells ν) (p : Nat) (v : ν) : (c.put p v).freed = c.freed := rfl

@[simp] theorem alloc_brk (c : Cells ν) (v : ν) : (c.alloc v).brk = c.brk + 1 := rfl

@[simp] theorem alloc_freed (c : Cells ν) (v : ν) : (c.alloc v).freed = c.freed := rfl

@[simp] theorem drop_brk (c : Cells ν) (p : Nat) : (c.drop p).brk = c.brk := rfl

@[simp] theorem drop_freed (c : Cells ν) (p : Nat) : (c.drop p).freed = c.freed ++ [p] := rfl

@[simp] theorem put_cell_self (c : Cells ν) (p : Nat) (v : ν) : (c.put p v).cell p = some v := by
  simp [put]

@[simp] theorem alloc_cell_self (c : Cells ν) (v : ν) : (c.alloc v).cell c.brk = some v := by
  simp [alloc]

@[simp] theorem drop_cell_self (c : Cells ν) (p : Nat) : (c.drop p).cell p = none := by
  simp [drop]

theorem put_cell_ne (c : Cells ν) (v : ν) {p q : Nat} (h : q ≠ p) :
    (c.put p v).cell q = c.cell q := by
  simp [put, h]

theorem alloc_cell_ne (c : Cells ν) (v : ν) {q : Nat} (h : q ≠ c.brk) :
    (c.alloc v).cell q = c.cell q := by
  simp [alloc, h]

theorem drop_cell_ne (c : Cells ν) {p q : Nat} (h : q ≠ p) : (c.drop p).cell q = c.cell q := by
  simp [drop, h]

theorem Bounded.lt {c : Cells ν} (h : c.Bounded) {p : Nat} {v : ν} (hp : c.cell p = some v) :
    p < c.brk := by
  by_contra hge
  have := h p (by omega)
  rw [this] at hp
  cases hp

theorem Bounded.put {c : Cells ν} (h : c.Bounded) {p : Nat} (hp : p < c.brk) (v : ν) :
    (c.put p v).Bounded := by
  intro q hq
  rw [put_brk] at hq
  rw [put_cell_ne c v (by omega)]
  exact h q hq

theorem Bounded.alloc {c : Cells ν} (h : c.Bounded) (v : ν) : (c.alloc v).Bounded := by
  intro q hq
  rw [alloc_brk] at hq
  rw [alloc_cell_ne c v (by omega)]
  exact h q (by omega)

theorem Bounded.drop {c : Cells ν} (h : c.Bounded) (p : Nat) : (c.drop p).Bounded := by
  intro q hq
  by_cases hqp : q = p
  · subst hqp
    exact drop_cell_self c q
  · rw [drop_cell_ne c hqp]
    exact h q hq

end Cells

end librabbitmq.cells
