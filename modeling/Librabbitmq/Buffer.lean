-- A buffer of cells that is written from left to right, and a row of chunks
-- whose counter wraps. The writer starts over in a new buffer each time that
-- its counter is back at zero, so the buffer holds the last lap of the row.
import Mathlib.Data.List.Basic
import Mathlib.Tactic.SplitIfs

namespace librabbitmq.buffer

variable {α : Type}

/-! ## Writing -/

/-- The cells after `xs` is written from index `i` on. What falls out of the
cells is lost. -/
def overwrite : List (Option α) → Nat → List α → List (Option α)
  | cells, _, [] => cells
  | cells, i, x :: xs => overwrite (cells.set i (some x)) (i + 1) xs

@[simp] theorem overwrite_length (xs : List α) : ∀ (cells : List (Option α)) (i : Nat),
    (overwrite cells i xs).length = cells.length := by
  induction xs with
  | nil => exact fun _ _ => rfl
  | cons x xs ih =>
    intro cells i
    rw [overwrite, ih, List.length_set]

/-- Two writes, one behind the other. -/
theorem overwrite_append (xs ys : List α) : ∀ (cells : List (Option α)) (i : Nat),
    overwrite cells i (xs ++ ys) = overwrite (overwrite cells i xs) (i + xs.length) ys := by
  induction xs with
  | nil => exact fun _ _ => rfl
  | cons x xs ih =>
    intro cells i
    rw [List.cons_append, overwrite, overwrite, ih, List.length_cons]
    congr 1
    omega

/-- A write that fits takes the place of as many cells. -/
theorem overwrite_fits (xs : List α) : ∀ (pre post : List (Option α)), xs.length ≤ post.length →
    overwrite (pre ++ post) pre.length xs = pre ++ xs.map some ++ post.drop xs.length := by
  induction xs with
  | nil =>
    intro pre post _
    simp [overwrite]
  | cons x xs ih =>
    intro pre post h
    cases post with
    | nil => simp at h
    | cons y post =>
      have hset : (pre ++ y :: post).set pre.length (some x) = (pre ++ [some x]) ++ post := by
        simp
      have hlen : pre.length + 1 = (pre ++ [some x]).length := by simp
      rw [overwrite, hset, hlen, ih _ _ (by simpa using h)]
      simp

/-- Writing to a new buffer of `n` cells. -/
theorem overwrite_new (xs : List α) {n : Nat} (h : xs.length ≤ n) :
    overwrite (List.replicate n none) 0 xs =
      xs.map some ++ List.replicate (n - xs.length) none := by
  have := overwrite_fits xs [] (List.replicate n none) (by simpa using h)
  simpa using this

/-! ## Laps -/

/-- The chunks since the counter, which counts modulo `n`, was last zero. -/
def lap (n : Nat) (chunks : List α) : List α := chunks.drop ((chunks.length - 1) / n * n)

@[simp] theorem lap_nil (n : Nat) : lap n ([] : List α) = [] := by simp [lap]

/-- One more chunk starts a lap when the counter is zero, and goes on with the
lap otherwise. -/
theorem lap_snoc {n : Nat} (chunks : List α) (x : α) :
    lap n (chunks ++ [x]) = if chunks.length % n = 0 then [x] else lap n chunks ++ [x] := by
  have hlen : (chunks ++ [x]).length - 1 = chunks.length := by simp
  unfold lap
  rw [hlen]
  have hmod := Nat.div_add_mod' chunks.length n
  split_ifs with h
  · have hall : chunks.length / n * n = chunks.length := by omega
    rw [hall, List.drop_append_of_le_length (Nat.le_refl _), List.drop_length, List.nil_append]
  · have hle : chunks.length / n * n ≤ chunks.length := Nat.div_mul_le_self _ _
    have hsame : (chunks.length - 1) / n = chunks.length / n := by
      rcases Nat.eq_zero_or_pos n with rfl | hn
      · simp
      · obtain ⟨k, hk⟩ : ∃ k, chunks.length = k + 1 := by
          cases hc : chunks.length with
          | zero =>
            rw [hc] at h
            simp at h
          | succ k => exact ⟨k, rfl⟩
        rw [hk, Nat.add_sub_cancel, Nat.succ_div]
        have hdvd : ¬ n ∣ k + 1 := by
          rw [hk] at h
          exact fun hd => h (Nat.mod_eq_zero_of_dvd hd)
        simp [hdvd]
    rw [hsame, List.drop_append_of_le_length hle]

/-- A row that the counter can count has one lap. -/
theorem lap_of_le {n : Nat} {chunks : List α} (h : chunks.length ≤ n) : lap n chunks = chunks := by
  unfold lap
  rcases Nat.eq_zero_or_pos chunks.length with h0 | h0
  · rw [List.length_eq_zero_iff.mp h0, List.drop_nil]
  · rw [Nat.div_eq_of_lt (by omega), Nat.zero_mul, List.drop_zero]

/-- The last lap is an end of the row. -/
theorem append_lap (n : Nat) (chunks : List α) :
    chunks.take ((chunks.length - 1) / n * n) ++ lap n chunks = chunks :=
  List.take_append_drop _ _

end librabbitmq.buffer
