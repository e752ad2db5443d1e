-- Walks through things that hold things, to any depth and with no end if need be. What a
-- walk that runs on fuel can log is told by the things alone.
import Librabbitmq.Run

namespace librabbitmq.walks

/-- What a walk meets at an item of a thing: the end of the thing, a crash, a plain item, or
a thing that is walked through on the way. -/
inductive Step (ω : Type) where
  | leave
  | crash
  | leaf
  | nested (inner : ω)

section

variable {ω ε : Type} (steps : ω → Nat → Step ω) (emit : ω → Nat → List ε)

/-- The walk through `o` from its item `i` on. Each item is logged once it is done. -/
def walk : Nat → ω → Nat → Run (List ε) Unit
  | 0, _, _ => Run.hang
  | fuel + 1, o, i =>
    match steps o i with
    | .leave => return ()
    | .crash => Run.crash
    | .leaf => do
      Run.modify fun log => log ++ emit o i
      walk fuel o (i + 1)
    | .nested inner => do
      walk fuel inner 0
      Run.modify fun log => log ++ emit o i
      walk fuel o (i + 1)

/-- The walk through `o` gets past its item `i`: a plain one, or one through which the walk
comes to the end. -/
inductive Passes : ω → Nat → Prop
  | leaf {o : ω} {i : Nat} (h : steps o i = .leaf) : Passes o i
  | nested {o inner : ω} {i n : Nat} (h : steps o i = .nested inner)
      (hpasses : ∀ j, j < n → Passes inner j) (hleave : steps inner n = .leave) : Passes o i

/-- The things that the walk through `root` gets to. -/
inductive Visited (root : ω) : ω → Prop
  | root : Visited root root
  | item {o inner : ω} {i : Nat} (hmet : Visited root o) (hpasses : ∀ j, j < i → Passes steps o j)
      (h : steps o i = .nested inner) : Visited root inner

variable {steps emit}

/-- The log is only written at its end. -/
theorem walk_log (fuel : Nat) : ∀ (o : ω) (i : Nat) (log : List ε),
    walk steps emit fuel o i log =
      ((walk steps emit fuel o i []).1, log ++ (walk steps emit fuel o i []).2) := by
  induction fuel with
  | zero =>
    intro o i log
    simp [walk, Run.hang]
  | succ fuel ih =>
    intro o i log
    unfold walk
    cases hs : steps o i with
    | leave => simp [Run.pure_apply]
    | crash => simp [Run.crash]
    | leaf =>
      simp only [Run.modify_bind_apply, List.nil_append]
      rw [ih o (i + 1) (log ++ emit o i), ih o (i + 1) (emit o i), List.append_assoc]
    | nested inner =>
      simp only [Run.bind_apply]
      rw [ih inner 0 log]
      rcases walk steps emit fuel inner 0 [] with ⟨out, log1⟩
      cases out with
      | ret _ =>
        simp only [Run.modify]
        rw [ih o (i + 1) (log ++ log1 ++ emit o i), ih o (i + 1) (log1 ++ emit o i)]
        simp
      | crash => rfl
      | hang => rfl

theorem walk_nested_ret {fuel i : Nat} {o inner : ω} {log log1 : List ε}
    (h : steps o i = .nested inner) (hw : walk steps emit fuel inner 0 log = (.ret (), log1)) :
    walk steps emit (fuel + 1) o i log = walk steps emit fuel o (i + 1) (log1 ++ emit o i) := by
  rw [walk, h]
  exact Run.bind_ret hw

theorem walk_nested_stop {fuel i : Nat} {o inner : ω} {log : List ε}
    (h : steps o i = .nested inner) (hw : (walk steps emit fuel inner 0 log).1 ≠ .ret ()) :
    walk steps emit (fuel + 1) o i log = walk steps emit fuel inner 0 log := by
  rw [walk, h]
  simp only [Run.bind_apply]
  rcases hr : walk steps emit fuel inner 0 log with ⟨out, log1⟩
  rw [hr] at hw
  cases out with
  | ret _ => exact absurd rfl hw
  | crash => rfl
  | hang => rfl

theorem mem_walk_of_mem {fuel i : Nat} {o : ω} {log : List ε} {e : ε} (he : e ∈ log) :
    e ∈ (walk steps emit fuel o i log).2 := by
  rw [walk_log]
  exact List.mem_append_left _ he

theorem mem_walk_of_nested {fuel i : Nat} {o inner : ω} {log : List ε} {e : ε}
    (h : steps o i = .nested inner) (he : e ∈ (walk steps emit fuel inner 0 log).2) :
    e ∈ (walk steps emit (fuel + 1) o i log).2 := by
  rcases hw : walk steps emit fuel inner 0 log with ⟨out, log1⟩
  cases out with
  | ret _ =>
    rw [hw] at he
    rw [walk_nested_ret h hw]
    exact mem_walk_of_mem (List.mem_append_left _ he)
  | crash =>
    rw [walk_nested_stop h (by simp [hw])]
    exact he
  | hang =>
    rw [walk_nested_stop h (by simp [hw])]
    exact he

/-- With more fuel a walk ends as it has ended, or goes on from where it stood. -/
theorem walk_succ (fuel : Nat) : ∀ (o : ω) (i : Nat) (log : List ε),
    ((walk steps emit fuel o i log).1 = .hang →
      (walk steps emit fuel o i log).2 ⊆ (walk steps emit (fuel + 1) o i log).2) ∧
    ((walk steps emit fuel o i log).1 ≠ .hang →
      walk steps emit (fuel + 1) o i log = walk steps emit fuel o i log) := by
  induction fuel with
  | zero =>
    intro o i log
    exact ⟨fun _ e he => mem_walk_of_mem he, fun h => absurd rfl h⟩
  | succ fuel ih =>
    intro o i log
    cases hs : steps o i with
    | leave =>
      rw [walk, walk, hs]
      exact ⟨fun _ => List.Subset.refl _, fun _ => rfl⟩
    | crash =>
      rw [walk, walk, hs]
      exact ⟨fun _ => List.Subset.refl _, fun _ => rfl⟩
    | leaf =>
      rw [walk, walk, hs]
      exact ih o (i + 1) (log ++ emit o i)
    | nested inner =>
      obtain ⟨hmore, hsame⟩ := ih inner 0 log
      rcases hw : walk steps emit fuel inner 0 log with ⟨out, log1⟩
      rw [hw] at hmore hsame
      cases out with
      | ret _ =>
        rw [walk_nested_ret hs hw, walk_nested_ret hs (hsame (by simp))]
        exact ih o (i + 1) (log1 ++ emit o i)
      | crash =>
        have hcrash := hsame (by simp)
        rw [walk_nested_stop hs (by simp [hw]), walk_nested_stop hs (by simp [hcrash]), hw, hcrash]
        exact ⟨fun _ => List.Subset.refl _, fun _ => rfl⟩
      | hang =>
        rw [walk_nested_stop hs (by simp [hw]), hw]
        exact ⟨fun _ e he => mem_walk_of_nested hs (hmore rfl he), fun h => absurd rfl h⟩

theorem walk_mono {fuel fuel' i : Nat} {o : ω} {log : List ε} (h : fuel ≤ fuel') :
    (walk steps emit fuel o i log).2 ⊆ (walk steps emit fuel' o i log).2 := by
  induction h with
  | refl => exact List.Subset.refl _
  | @step fuel' _ ih =>
    obtain ⟨hmore, hsame⟩ := @walk_succ _ _ steps emit fuel' o i log
    by_cases hhang : (walk steps emit fuel' o i log).1 = .hang
    · exact List.Subset.trans ih (hmore hhang)
    · rw [hsame hhang]
      exact ih

/-! ## What the walk logs -/

/-- The walk gets past an item, with its events in the log, on any fuel that is enough. -/
def Turns (steps : ω → Nat → Step ω) (emit : ω → Nat → List ε) (o : ω) (i : Nat) : Prop :=
  ∃ n events, emit o i ⊆ events ∧ ∀ fuel, n ≤ fuel → ∀ log,
    walk steps emit (fuel + 1) o i log = walk steps emit fuel o (i + 1) (log ++ events)

/-- A row of items from the first one on. -/
theorem row_of_turns {o : ω} {i : Nat} (h : ∀ j, j < i → Turns steps emit o j) :
    ∃ n events, (∀ j, j < i → emit o j ⊆ events) ∧ ∀ fuel, n ≤ fuel → ∀ log,
      walk steps emit (fuel + i) o 0 log = walk steps emit fuel o i (log ++ events) := by
  induction i with
  | zero => exact ⟨0, [], by simp, by simp⟩
  | succ i ih =>
    obtain ⟨n, events, hevents, hrow⟩ := ih fun j hj => h j (by omega)
    obtain ⟨n', events', hevents', hturn⟩ := h i (by omega)
    refine ⟨n + n', events ++ events', fun j hj => ?_, fun fuel hfuel log => ?_⟩
    · by_cases hlast : j = i
      · subst hlast
        exact List.subset_append_of_subset_right _ hevents'
      · exact List.subset_append_of_subset_left _ (hevents j (by omega))
    · rw [show fuel + (i + 1) = fuel + 1 + i by omega, hrow (fuel + 1) (by omega),
        hturn fuel (by omega), List.append_assoc]

theorem Passes.turns {o : ω} {i : Nat} (h : Passes steps o i) : Turns steps emit o i := by
  induction h with
  | @leaf o i h =>
    refine ⟨0, emit o i, List.Subset.refl _, fun fuel _ log => ?_⟩
    rw [walk, h]
    rfl
  | @nested o inner i n h _ hleave ih =>
    obtain ⟨m, events, _, hrow⟩ := row_of_turns ih
    refine ⟨m + n + 1, events ++ emit o i, List.subset_append_right _ _, fun fuel hfuel log => ?_⟩
    have hinner : walk steps emit fuel inner 0 log = (.ret (), log ++ events) := by
      obtain ⟨k, rfl⟩ := Nat.exists_eq_add_of_le' hfuel
      rw [show k + (m + n + 1) = k + m + 1 + n by omega, hrow (k + m + 1) (by omega), walk, hleave]
      rfl
    rw [walk, h]
    exact (Run.bind_ret hinner).trans (by rw [Run.modify_bind_apply, List.append_assoc])

/-- What the walk through a thing logs, the walk through `root` logs that gets to it. -/
theorem Visited.mem_walk {root o : ω} (h : Visited steps root o) {e : ε} {fuel : Nat}
    (he : e ∈ (walk steps emit fuel o 0 []).2) :
    ∃ fuel', e ∈ (walk steps emit fuel' root 0 []).2 := by
  induction h generalizing fuel with
  | root => exact ⟨fuel, he⟩
  | @item o inner i _ hpasses hnested ih =>
    have hturns : ∀ j, j < i → Turns steps emit o j := fun j hj => (hpasses j hj).turns
    obtain ⟨n, events, _, hrow⟩ := row_of_turns hturns
    refine @ih (n + fuel + 1 + i) ?_
    rw [hrow (n + fuel + 1) (by omega)]
    have hin : e ∈ (walk steps emit (n + fuel) inner 0 ([] ++ events)).2 := by
      rw [walk_log]
      exact List.mem_append_right _ (walk_mono (Nat.le_add_left fuel n) he)
    exact mem_walk_of_nested hnested hin

/-- The walk logs nothing else, and where it returns it has come to the end. -/
theorem walk_sound {root : ω} (P : ε → Prop)
    (hP : ∀ o i, Visited steps root o → (∀ j, j ≤ i → Passes steps o j) → ∀ e, e ∈ emit o i → P e)
    (fuel : Nat) : ∀ (o : ω) (i : Nat) (log : List ε), Visited steps root o →
      (∀ j, j < i → Passes steps o j) → (∀ e, e ∈ log → P e) →
      (∀ e, e ∈ (walk steps emit fuel o i log).2 → P e) ∧
      ((walk steps emit fuel o i log).1 = .ret () →
        ∃ n, (∀ j, j < n → Passes steps o j) ∧ steps o n = .leave) := by
  induction fuel with
  | zero => exact fun o i log _ _ hlog => ⟨hlog, fun h => by cases h⟩
  | succ fuel ih =>
    intro o i log hmet hpasses hlog
    rw [walk]
    have hgo : ∀ log1, (∀ e, e ∈ log1 → P e) → Passes steps o i →
        (∀ e, e ∈ (walk steps emit fuel o (i + 1) (log1 ++ emit o i)).2 → P e) ∧
        ((walk steps emit fuel o (i + 1) (log1 ++ emit o i)).1 = .ret () →
          ∃ n, (∀ j, j < n → Passes steps o j) ∧ steps o n = .leave) := by
      intro log1 hlog1 hpass
      have hupto : ∀ j, j ≤ i → Passes steps o j := by
        intro j hj
        by_cases hlast : j = i
        · rw [hlast]
          exact hpass
        · exact hpasses j (by omega)
      refine ih o (i + 1) _ hmet (fun j hj => hupto j (by omega)) fun e he => ?_
      rcases List.mem_append.mp he with he | he
      · exact hlog1 e he
      · exact hP o i hmet hupto e he
    cases hs : steps o i with
    | leave => exact ⟨hlog, fun _ => ⟨i, hpasses, hs⟩⟩
    | crash => exact ⟨hlog, fun h => by cases h⟩
    | leaf => exact hgo log hlog (.leaf hs)
    | nested inner =>
      obtain ⟨hinner, hends⟩ := ih inner 0 log (.item hmet hpasses hs) (by simp) hlog
      simp only [Run.bind_apply]
      rcases hw : walk steps emit fuel inner 0 log with ⟨out, log1⟩
      rw [hw] at hinner hends
      cases out with
      | ret _ =>
        obtain ⟨n, hn, hleave⟩ := hends rfl
        exact hgo log1 hinner (.nested hs hn hleave)
      | crash => exact ⟨hinner, fun h => by cases h⟩
      | hang => exact ⟨hinner, fun h => by cases h⟩

/-- The walk through `root` can log exactly the events of the items that it gets past, in the
things that it gets to. -/
theorem mem_walk_iff {root : ω} {e : ε} :
    (∃ fuel, e ∈ (walk steps emit fuel root 0 []).2) ↔
      ∃ o i, Visited steps root o ∧ (∀ j, j ≤ i → Passes steps o j) ∧ e ∈ emit o i := by
  constructor
  · rintro ⟨fuel, he⟩
    have hsound := (@walk_sound _ _ steps emit root
      (fun e => ∃ o i, Visited steps root o ∧ (∀ j, j ≤ i → Passes steps o j) ∧ e ∈ emit o i)
      (fun o i hmet hpasses e he => ⟨o, i, hmet, hpasses, he⟩) fuel root 0 [] .root (by simp)
      (by simp)).1
    exact hsound e he
  · rintro ⟨o, i, hmet, hpasses, he⟩
    have hturns : ∀ j, j < i + 1 → Turns steps emit o j := fun j hj => (hpasses j (by omega)).turns
    obtain ⟨n, events, hevents, hrow⟩ := row_of_turns hturns
    have hlogged : e ∈ (walk steps emit (n + (i + 1)) o 0 []).2 := by
      rw [hrow n (Nat.le_refl n)]
      exact mem_walk_of_mem (List.mem_append_right _ (hevents i (by omega) he))
    exact hmet.mem_walk hlogged

end

end librabbitmq.walks
