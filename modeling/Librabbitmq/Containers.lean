-- Counted objects that hold references to one another: what the live ones hold, the release
-- of a reference with all that dies of it, and the references that no live object holds.
import Librabbitmq.References
import Mathlib.Algebra.BigOperators.Group.Finset.Basic
import Mathlib.Algebra.Order.BigOperators.Group.Finset

namespace librabbitmq.containers

open references

variable {κ : Type}

/-! ## Sums over the live objects -/

/-- What an object adds to the sum: nothing once it is dead. -/
def share (f : κ → Nat) (h : Heap κ) (a : Nat) : Nat :=
  if 0 < h.count a then f (h.contents a) else 0

def total (f : κ → Nat) (h : Heap κ) : Nat := ∑ a ∈ Finset.range h.next, share f h a

/-- The new contents of an object. -/
def replace (h : Heap κ) (a : Nat) (k : κ) : Heap κ :=
  { h with contents := Function.update h.contents a k }

@[simp] theorem replace_count (h : Heap κ) (a : Nat) (k : κ) :
    (replace h a k).count = h.count := rfl

@[simp] theorem replace_next (h : Heap κ) (a : Nat) (k : κ) : (replace h a k).next = h.next := rfl

section

variable (f : κ → Nat) {h h' : Heap κ} {a : Nat}

theorem share_le_total (ha : a < h.next) : share f h a ≤ total f h :=
  Finset.single_le_sum (fun _ _ => Nat.zero_le _) (Finset.mem_range.mpr ha)

/-- When one object changes, the sum changes by its share. -/
theorem total_change (hnext : h'.next = h.next) (ha : a < h.next)
    (hsame : ∀ b, b ≠ a → share f h' b = share f h b) :
    total f h' + share f h a = total f h + share f h' a := by
  unfold total
  rw [hnext, ← Finset.add_sum_erase _ _ (Finset.mem_range.mpr ha),
    ← Finset.add_sum_erase _ _ (Finset.mem_range.mpr ha)]
  have hrest : ∑ b ∈ (Finset.range h.next).erase a, share f h' b =
      ∑ b ∈ (Finset.range h.next).erase a, share f h b :=
    Finset.sum_congr rfl fun b hb => hsame b (Finset.ne_of_mem_erase hb)
  omega

theorem total_incref (ha : h.Alive a) : total f (h.incref a) = total f h := by
  unfold Heap.Alive at ha
  refine Finset.sum_congr rfl fun b _ => ?_
  have halive : 0 < (h.incref a).count b ↔ 0 < h.count b := by
    rw [Heap.incref_count]
    by_cases hb : b = a
    · subst hb
      rw [if_pos rfl]
      omega
    · rw [if_neg hb, add_zero]
  unfold share
  simp only [halive, Heap.incref_contents]

theorem total_decref (ha : a < h.next) :
    total f h = total f (h.decref a) + if h.count a = 1 then f (h.contents a) else 0 := by
  have hother : ∀ b, b ≠ a → share f (h.decref a) b = share f h b := by
    intro b hb
    unfold share
    rw [Heap.decref_count, if_neg hb, sub_zero, Heap.decref_contents]
  have hchange := total_change f (Heap.decref_next h a) ha hother
  have hself : (h.decref a).count a = h.count a - 1 := by rw [Heap.decref_count, if_pos rfl]
  unfold share at hchange
  rw [hself, Heap.decref_contents] at hchange
  split_ifs at hchange ⊢ <;> omega

theorem total_alloc (h : Heap κ) (k : κ) : total f (h.alloc k) = total f h + f k := by
  unfold total
  rw [Heap.alloc_next, Finset.sum_range_succ]
  have hnew : share f (h.alloc k) h.next = f k := by
    unfold share
    rw [Heap.alloc_count_self, Heap.alloc_contents_self, if_pos (by decide)]
  rw [hnew]
  refine congrArg (· + f k) (Finset.sum_congr rfl fun b hb => ?_)
  have hne : b ≠ h.next := by
    have := Finset.mem_range.mp hb
    omega
  unfold share
  rw [Heap.alloc_count_ne h k hne, Heap.alloc_contents_ne h k hne]

theorem total_replace (ha : a < h.next) (halive : h.Alive a) (k : κ) :
    total f (replace h a k) + f (h.contents a) = total f h + f k := by
  have hother : ∀ b, b ≠ a → share f (replace h a k) b = share f h b := by
    intro b hb
    unfold share replace
    dsimp only
    rw [Function.update_of_ne hb]
  have hchange := total_change f (replace_next h a k) ha hother
  have hnew : share f (replace h a k) a = f k := by
    unfold share replace
    dsimp only
    rw [Function.update_self]
    exact if_pos halive
  have hold : share f h a = f (h.contents a) := if_pos halive
  rwa [hnew, hold] at hchange

end

/-! ## References from object to object -/

section

variable (refs : κ → List Nat)

/-- How often the live objects refer to `x`. -/
def held (h : Heap κ) (x : Nat) : Nat := total (fun k => (refs k).count x) h

/-- The references to `x` that no live object holds. -/
def loose (h : Heap κ) (x : Nat) : Int := h.count x - held refs h x

/-- Nothing refers to what was not given out. -/
structure Sealed (h : Heap κ) : Prop where
  counted : ∀ x, h.next ≤ x → h.count x = 0
  unheld : ∀ x, h.next ≤ x → held refs h x = 0

/-- Every reference of a live object is counted. -/
structure Sound (h : Heap κ) : Prop where
  given : ∀ x, h.next ≤ x → h.count x = 0
  counted : ∀ x, held refs h x ≤ h.count x

/-- What is left to release. -/
def work (h : Heap κ) (pending : List Nat) : Nat :=
  pending.length + total (fun k => (refs k).length) h

/-- The release of the references `pending`. An object that dies releases its own. -/
def release : Nat → List Nat → Heap κ → Heap κ
  | 0, _, h => h
  | _ + 1, [], h => h
  | fuel + 1, a :: pending, h =>
    release fuel (if h.count a = 1 then refs (h.contents a) ++ pending else pending) (h.decref a)

def drop (h : Heap κ) (a : Nat) : Heap κ := release refs (work refs h [a]) [a] h

variable {refs} {h : Heap κ} {a : Nat}

theorem Sound.sealed (hsound : Sound refs h) : Sealed refs h := by
  refine ⟨hsound.given, fun x hx => ?_⟩
  have := hsound.counted x
  have := hsound.given x hx
  omega

/-- Objects that hold nothing. -/
theorem held_of_plain (hplain : ∀ b, refs (h.contents b) = []) (x : Nat) : held refs h x = 0 := by
  unfold held total
  refine Finset.sum_eq_zero fun b _ => ?_
  unfold share
  dsimp only
  rw [hplain b, List.count_nil, ite_self]

theorem sound_of_plain (hplain : ∀ b, refs (h.contents b) = [])
    (hgiven : ∀ x, h.next ≤ x → h.count x = 0) (hcounted : ∀ x, 0 ≤ h.count x) : Sound refs h := by
  refine ⟨hgiven, fun x => ?_⟩
  rw [held_of_plain hplain]
  exact hcounted x

theorem Sealed.lt_of_alive (hsealed : Sealed refs h) (ha : h.Alive a) : a < h.next := by
  by_contra hge
  have := hsealed.counted a (by omega)
  unfold Heap.Alive at ha
  omega

/-- What a live object refers to was given out. -/
theorem Sealed.lt_of_mem (hsealed : Sealed refs h) (ha : h.Alive a) {x : Nat}
    (hx : x ∈ refs (h.contents a)) : x < h.next := by
  by_contra hge
  have hzero := hsealed.unheld x (by omega)
  have hle := share_le_total (fun k => (refs k).count x) (hsealed.lt_of_alive ha)
  have hpos := List.count_pos_iff.mpr hx
  have hshare : share (fun k => (refs k).count x) h a = (refs (h.contents a)).count x := if_pos ha
  unfold held at hzero
  omega

theorem Sealed.loose_beyond (hsealed : Sealed refs h) {x : Nat} (hx : h.next ≤ x) :
    loose refs h x = 0 := by
  unfold loose
  rw [hsealed.counted x hx, hsealed.unheld x hx]
  rfl

/-! ### One step -/

theorem loose_alloc (hsealed : Sealed refs h) (k : κ) (x : Nat) :
    loose refs (h.alloc k) x =
      loose refs h x + (if x = h.next then 1 else 0) - (refs k).count x := by
  have hheld : held refs (h.alloc k) x = held refs h x + (refs k).count x := total_alloc _ h k
  unfold loose
  rw [hheld]
  by_cases hx : x = h.next
  · subst hx
    rw [Heap.alloc_count_self, hsealed.counted _ le_rfl, if_pos rfl]
    omega
  · rw [Heap.alloc_count_ne h k hx, if_neg hx]
    omega

theorem sealed_alloc (hsealed : Sealed refs h) {k : κ} (hk : ∀ x ∈ refs k, x < h.next) :
    Sealed refs (h.alloc k) := by
  refine ⟨fun x hx => ?_, fun x hx => ?_⟩
  · rw [Heap.alloc_next] at hx
    rw [Heap.alloc_count_ne h k (by omega)]
    exact hsealed.counted x (by omega)
  · rw [Heap.alloc_next] at hx
    have hheld : held refs (h.alloc k) x = held refs h x + (refs k).count x := total_alloc _ h k
    have hnot : x ∉ refs k := fun hmem => by
      have := hk x hmem
      omega
    rw [hheld, hsealed.unheld x (by omega), List.count_eq_zero_of_not_mem hnot]

theorem loose_incref (ha : h.Alive a) (x : Nat) :
    loose refs (h.incref a) x = loose refs h x + if x = a then 1 else 0 := by
  have hheld : held refs (h.incref a) x = held refs h x := total_incref _ ha
  unfold loose
  rw [hheld, Heap.incref_count]
  omega

theorem sealed_incref (hsealed : Sealed refs h) (ha : h.Alive a) : Sealed refs (h.incref a) := by
  have hlt := hsealed.lt_of_alive ha
  refine ⟨fun x hx => ?_, fun x hx => (total_incref _ ha).trans (hsealed.unheld x hx)⟩
  rw [Heap.incref_next] at hx
  rw [Heap.incref_count, if_neg (by omega), add_zero]
  exact hsealed.counted x hx

theorem loose_replace (hsealed : Sealed refs h) (ha : h.Alive a) (k : κ) (x : Nat) :
    loose refs (replace h a k) x =
      loose refs h x + (refs (h.contents a)).count x - (refs k).count x := by
  have hheld : held refs (replace h a k) x + (refs (h.contents a)).count x =
      held refs h x + (refs k).count x := total_replace _ (hsealed.lt_of_alive ha) ha k
  unfold loose
  rw [replace_count]
  omega

theorem sealed_replace (hsealed : Sealed refs h) (ha : h.Alive a) {k : κ}
    (hk : ∀ x ∈ refs k, x < h.next) : Sealed refs (replace h a k) := by
  refine ⟨hsealed.counted, fun x hx => ?_⟩
  have hheld : held refs (replace h a k) x + (refs (h.contents a)).count x =
      held refs h x + (refs k).count x := total_replace _ (hsealed.lt_of_alive ha) ha k
  rw [replace_next] at hx
  have hnot : x ∉ refs k := fun hmem => by
    have := hk x hmem
    omega
  have := hsealed.unheld x hx
  rw [List.count_eq_zero_of_not_mem hnot] at hheld
  omega

theorem held_decref (ha : a < h.next) (x : Nat) :
    held refs h x =
      held refs (h.decref a) x + if h.count a = 1 then (refs (h.contents a)).count x else 0 :=
  total_decref _ ha

theorem sealed_decref (hsealed : Sealed refs h) (ha : a < h.next) : Sealed refs (h.decref a) := by
  refine ⟨fun x hx => ?_, fun x hx => ?_⟩
  · rw [Heap.decref_next] at hx
    rw [Heap.decref_count, if_neg (by omega), sub_zero]
    exact hsealed.counted x hx
  · rw [Heap.decref_next] at hx
    have hheld : held refs h x = held refs (h.decref a) x +
        if h.count a = 1 then (refs (h.contents a)).count x else 0 := held_decref ha x
    have := hsealed.unheld x hx
    omega

/-! ### The release -/

theorem count_cons_eq (a : Nat) (l : List Nat) (x : Nat) :
    (((a :: l).count x : Nat) : Int) = l.count x + if x = a then 1 else 0 := by
  by_cases hx : x = a
  · subst hx
    rw [List.count_cons_self, if_pos rfl, Nat.cast_succ]
  · rw [List.count_cons_of_ne (Ne.symm hx), if_neg hx, add_zero]

/-- A release that is given enough fuel takes exactly the pending references. -/
theorem release_loose : ∀ (fuel : Nat) (pending : List Nat) (h : Heap κ), Sealed refs h →
    (∀ a ∈ pending, a < h.next) → work refs h pending ≤ fuel →
    Sealed refs (release refs fuel pending h) ∧ (release refs fuel pending h).next = h.next ∧
      ∀ x, loose refs (release refs fuel pending h) x = loose refs h x - pending.count x := by
  intro fuel
  induction fuel with
  | zero =>
    intro pending h hsealed _ hfuel
    have hnil : pending = [] := List.length_eq_zero_iff.mp (by unfold work at hfuel; omega)
    subst hnil
    exact ⟨hsealed, rfl, fun x => by simp [release]⟩
  | succ fuel ih =>
    intro pending h hsealed hpending hfuel
    cases pending with
    | nil => exact ⟨hsealed, rfl, fun x => by simp [release]⟩
    | cons a pending =>
      have ha := hpending a List.mem_cons_self
      have hrest : ∀ b ∈ pending, b < h.next := fun b hb => hpending b (List.mem_cons_of_mem a hb)
      have hlength := total_decref (fun k => (refs k).length) ha
      have hheld : ∀ x, held refs h x = held refs (h.decref a) x +
          if h.count a = 1 then (refs (h.contents a)).count x else 0 := held_decref ha
      unfold work at hfuel
      rw [List.length_cons] at hfuel
      rw [release]
      by_cases hlast : h.count a = 1
      · -- the object dies, and what it holds is released before the rest
        rw [if_pos hlast] at hlength ⊢
        have halive : h.Alive a := by
          unfold Heap.Alive
          omega
        have hmem : ∀ b ∈ refs (h.contents a) ++ pending, b < h.next := by
          intro b hb
          rcases List.mem_append.mp hb with hb | hb
          · exact hsealed.lt_of_mem halive hb
          · exact hrest b hb
        have hwork : work refs (h.decref a) (refs (h.contents a) ++ pending) ≤ fuel := by
          unfold work
          rw [List.length_append]
          omega
        obtain ⟨hsealed', hnext, hloose⟩ := ih _ _ (sealed_decref hsealed ha) hmem hwork
        refine ⟨hsealed', hnext, fun x => ?_⟩
        have := hheld x
        rw [if_pos hlast] at this
        rw [hloose x, List.count_append]
        unfold loose
        rw [Heap.decref_count, count_cons_eq]
        omega
      · rw [if_neg hlast] at hlength ⊢
        have hwork : work refs (h.decref a) pending ≤ fuel := by
          unfold work
          omega
        obtain ⟨hsealed', hnext, hloose⟩ := ih _ _ (sealed_decref hsealed ha) hrest hwork
        refine ⟨hsealed', hnext, fun x => ?_⟩
        have := hheld x
        rw [if_neg hlast] at this
        rw [hloose x]
        unfold loose
        rw [Heap.decref_count, count_cons_eq]
        omega

/-- A release gives nothing out, and what dies keeps its contents. -/
theorem release_same : ∀ (fuel : Nat) (pending : List Nat) (h : Heap κ),
    (release refs fuel pending h).next = h.next ∧
      (release refs fuel pending h).contents = h.contents := by
  intro fuel
  induction fuel with
  | zero => exact fun _ _ => ⟨rfl, rfl⟩
  | succ fuel ih =>
    intro pending h
    cases pending with
    | nil => exact ⟨rfl, rfl⟩
    | cons a pending =>
      rw [release]
      exact ih _ (h.decref a)

/-- The release of one reference, whatever dies of it. -/
theorem drop_loose (hsealed : Sealed refs h) (ha : a < h.next) :
    Sealed refs (drop refs h a) ∧ (drop refs h a).next = h.next ∧
      ∀ x, loose refs (drop refs h a) x = loose refs h x - if x = a then 1 else 0 := by
  obtain ⟨hsealed', hnext, hloose⟩ := release_loose (work refs h [a]) [a] h hsealed
    (fun b hb => by rwa [List.mem_singleton.mp hb]) le_rfl
  refine ⟨hsealed', hnext, fun x => (hloose x).trans ?_⟩
  rw [count_cons_eq, List.count_nil]
  omega

end

/-! ## Balance -/

/-- From one state to the other every new object has the references that live objects hold, with
the one that was returned, and no object has been released beyond its last reference. -/
structure Balanced (refs : κ → List Nat) (h h' : Heap κ) (returned : Option Nat) : Prop where
  settled : ∀ a, h.next ≤ a → loose refs h' a = if returned = some a then 1 else 0
  unspoiled : ∀ a, 0 ≤ h'.count a

end librabbitmq.containers
