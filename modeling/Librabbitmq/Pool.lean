-- A pool of numbers. The numbers in use are some of those from 1 to a bound; the
-- least of the others is taken next, and a number that is given back is free again.
import Mathlib.Data.Finset.Card
import Mathlib.Data.Finset.Range

namespace librabbitmq.pool

/-- The numbers that a pool may give: those from 1 to the bound. -/
def numbers (bound : Int) : Finset Int :=
  (Finset.range bound.toNat).image fun n : Nat => (n : Int) + 1

structure Pool (bound : Int) where
  used : Finset Int
  within : used ⊆ numbers bound

variable {bound : Int}

theorem mem_numbers {n : Int} : n ∈ numbers bound ↔ 1 ≤ n ∧ n ≤ bound := by
  unfold numbers
  rw [Finset.mem_image]
  constructor
  · rintro ⟨k, hk, rfl⟩
    have hlt := Finset.mem_range.mp hk
    omega
  · rintro ⟨hpos, hle⟩
    exact ⟨(n - 1).toNat, Finset.mem_range.mpr (by omega), by omega⟩

theorem card_numbers (bound : Int) : (numbers bound).card = bound.toNat := by
  have hinj : Function.Injective fun n : Nat => (n : Int) + 1 := by
    intro n m h
    dsimp only at h
    omega
  unfold numbers
  rw [Finset.card_image_of_injective _ hinj, Finset.card_range]

/-- The number is the next one. -/
structure Pool.Next (p : Pool bound) (n : Int) : Prop where
  mem : n ∈ numbers bound
  free : n ∉ p.used
  least : ∀ m, 1 ≤ m → m < n → m ∈ p.used

def Pool.empty (bound : Int) : Pool bound := ⟨∅, Finset.empty_subset _⟩

def Pool.take (p : Pool bound) (n : Int) (h : n ∈ numbers bound) : Pool bound :=
  ⟨insert n p.used, Finset.insert_subset h p.within⟩

def Pool.giveBack (p : Pool bound) (n : Int) : Pool bound :=
  ⟨p.used.erase n, (Finset.erase_subset n p.used).trans p.within⟩

/-- All numbers are in use. -/
def Pool.Full (p : Pool bound) : Prop := numbers bound ⊆ p.used

theorem Pool.mem_take {p : Pool bound} {n m : Int} {h : n ∈ numbers bound} :
    m ∈ (p.take n h).used ↔ m = n ∨ m ∈ p.used := Finset.mem_insert

theorem Pool.mem_giveBack {p : Pool bound} {n m : Int} :
    m ∈ (p.giveBack n).used ↔ m ≠ n ∧ m ∈ p.used := Finset.mem_erase

/-- A full pool has none. -/
theorem Pool.Full.no_next {p : Pool bound} (h : p.Full) (n : Int) : ¬ p.Next n :=
  fun hn => hn.free (h hn.mem)

/-- As many numbers are in use as there are, exactly when all are. -/
theorem Pool.full_iff_card {p : Pool bound} : p.Full ↔ p.used.card = bound.toNat := by
  constructor
  · intro h
    rw [p.within.antisymm h, card_numbers]
  · intro h
    have hcard := card_numbers bound
    have heq : p.used = numbers bound := Finset.eq_of_subset_of_card_le p.within (by omega)
    unfold Full
    rw [heq]

end librabbitmq.pool
