-- The entries of an array against the room that was allocated for them. The room comes from
-- what the list answers about its length, and the entries from its iteration.
import Librabbitmq.Encoding
import Librabbitmq.Walks

namespace librabbitmq.array_bounds

open walks encoding

section

variable {ω : Type}

/-! ## What an object answers -/

/-- What the protocols answer about an object when the encoder gets to it. A list or tuple can
be of a subclass: `size` is the answer of `PySequence_Size`, `none` where it raises, and `items`
what one `PyIter_Next` after the other gives up to a NULL, `none` where there is no iterator.
An object of another type is its value. -/
inductive View (ω : Type) where
  | dict (members : List (PyKey × ω))
  | sequence (size : Option Nat) (items : Option (Nat → Option ω))
  | plain (o : PyObj)

/-- The writes to arrays: the index of the entry and the size of the array. -/
abbrev Writes := List (Nat × Nat)

/-! ## The encoder -/

/-- The entry at `num_entries`, whether it is in the array or not. -/
def AMQArray_AddEntry (size num_entries : Nat) : Run Writes Nat := do
  Run.modify fun writes => writes ++ [(num_entries, size)]
  return num_entries + 1

/-- `PyIter_ToAMQArray` up to its loop. -/
def PyIter_ToAMQArray.start (loop : Nat → (Nat → Option ω) → Run Writes Unit) :
    Option Nat → Option (Nat → Option ω) → Run Writes Unit
  | some size, some items => loop size items
  | _, _ => return ()

mutual

def PyDict_ToAMQTable.loop (view : ω → View ω) :
    Nat → List (PyKey × ω) → Nat → Run Writes Unit
  | 0, _, _ => Run.hang
  | fuel + 1, members, pos =>
    match members[pos]? with
    | none => return ()
    | some (key, dvalue) => do
      let dkey := (PyObjectArray_Maybe_Unicode key.toObj none).1
      match view dvalue with
      | .dict inner => do
        let _ ← Run.lift (PyString_AS_AMQBYTES dkey)
        PyDict_ToAMQTable.loop view fuel inner 0
        PyDict_ToAMQTable.loop view fuel members (pos + 1)
      | .sequence size items => do
        let _ ← Run.lift (PyString_AS_AMQBYTES dkey)
        PyIter_ToAMQArray.start
          (fun size items => PyIter_ToAMQArray.loop view fuel size items 0 0) size items
        PyDict_ToAMQTable.loop view fuel members (pos + 1)
      | .plain o =>
        match ← Run.lift (librabbitmq.PyDict_ToAMQTable.member [] dkey o none) with
        | (some _, _) => PyDict_ToAMQTable.loop view fuel members (pos + 1)
        | (none, _) => return ()

def PyIter_ToAMQArray.loop (view : ω → View ω) :
    Nat → Nat → (Nat → Option ω) → Nat → Nat → Run Writes Unit
  | 0, _, _, _, _ => Run.hang
  | fuel + 1, size, items, pos, num_entries =>
    match items pos with
    | none => return ()
    | some item =>
      match view item with
      | .dict inner => do
        PyDict_ToAMQTable.loop view fuel inner 0
        let num_entries ← AMQArray_AddEntry size num_entries
        PyIter_ToAMQArray.loop view fuel size items (pos + 1) num_entries
      | .sequence size' items' => do
        PyIter_ToAMQArray.start
          (fun size items => PyIter_ToAMQArray.loop view fuel size items 0 0) size' items'
        let num_entries ← AMQArray_AddEntry size num_entries
        PyIter_ToAMQArray.loop view fuel size items (pos + 1) num_entries
      | .plain o => do
        match ← Run.lift (librabbitmq.PyIter_ToAMQArray.item [] o none) with
        | (some _, _) => do
          let num_entries ← AMQArray_AddEntry size num_entries
          PyIter_ToAMQArray.loop view fuel size items (pos + 1) num_entries
        -- `item_error:`
        | (none, _) => return ()

end

def PyIter_ToAMQArray (view : ω → View ω) (fuel : Nat) (size : Option Nat)
    (items : Option (Nat → Option ω)) : Run Writes Unit :=
  PyIter_ToAMQArray.start
    (fun size items => PyIter_ToAMQArray.loop view fuel size items 0 0) size items

/-! ## The encoder as a walk -/

/-- A dict or a list that the encoder walks through. -/
inductive Walked (ω : Type) where
  | table (members : List (PyKey × ω))
  | array (size : Nat) (items : Nat → Option ω)

/-- A value that comes to an end by itself. -/
def plainStep {α : Type} : Outcome (Option α × Option PyErr) → Step (Walked ω)
  | .ret (some _, _) => .leaf
  | .ret (none, _) => .leave
  | _ => .crash

/-- An item of a list. -/
def itemStep : View ω → Step (Walked ω)
  | .dict inner => .nested (.table inner)
  | .sequence (some size) (some items) => .nested (.array size items)
  | .sequence _ _ => .leaf
  | .plain o => plainStep (librabbitmq.PyIter_ToAMQArray.item [] o none)

/-- What comes after the key is read. -/
def afterKey (dkey : PyObj) (step : Step (Walked ω)) : Step (Walked ω) :=
  match PyString_AS_AMQBYTES dkey with
  | .ret _ => step
  | _ => .crash

/-- A member of a dict. -/
def memberStep (dkey : PyObj) : View ω → Step (Walked ω)
  | .dict inner => afterKey dkey (.nested (.table inner))
  | .sequence (some size) (some items) => afterKey dkey (.nested (.array size items))
  | .sequence _ _ => afterKey dkey .leaf
  | .plain o => plainStep (librabbitmq.PyDict_ToAMQTable.member [] dkey o none)

def steps (view : ω → View ω) : Walked ω → Nat → Step (Walked ω)
  | .table members, pos =>
    match members[pos]? with
    | none => .leave
    | some (key, dvalue) =>
      memberStep (PyObjectArray_Maybe_Unicode key.toObj none).1 (view dvalue)
  | .array _ items, pos =>
    match items pos with
    | none => .leave
    | some item => itemStep (view item)

def written : Walked ω → Nat → Writes
  | .table _, _ => []
  | .array size _, pos => [(pos, size)]

theorem member_returns (dkey o : PyObj) :
    librabbitmq.PyDict_ToAMQTable.member [] dkey o none ≠ .hang := by
  obtain ⟨key, hread⟩ : ∃ key, PyString_AS_AMQBYTES dkey = keyRead key := by
    cases dkey with
    | bytes b => exact ⟨some b, rfl⟩
    | _ => exact ⟨none, rfl⟩
  have h := member_runs o [] key none dkey hread
  unfold Comes at h
  split at h
  · simp [h]
  · obtain ⟨err, _, h⟩ := h
    simp [h]

theorem item_returns (o : PyObj) : librabbitmq.PyIter_ToAMQArray.item [] o none ≠ .hang := by
  have h := item_runs o [] none
  unfold ItemRuns Comes at h
  split at h
  · simp [h]
  · obtain ⟨err, _, h⟩ := h
    simp [h]

/-- What the walk does with a step. -/
def follow (view : ω → View ω) (fuel : Nat) (o : Walked ω) (pos : Nat) :
    Step (Walked ω) → Run Writes Unit
  | .leave => return ()
  | .crash => Run.crash
  | .leaf => do
    Run.modify fun log => log ++ written o pos
    walk (steps view) written fuel o (pos + 1)
  | .nested inner => do
    walk (steps view) written fuel inner 0
    Run.modify fun log => log ++ written o pos
    walk (steps view) written fuel o (pos + 1)

theorem walk_eq_follow (view : ω → View ω) (fuel : Nat) (o : Walked ω) (pos : Nat) :
    walk (steps view) written (fuel + 1) o pos = follow view fuel o pos (steps view o pos) := by
  rw [walk]
  cases steps view o pos with
  | _ => rfl

theorem follow_afterKey (view : ω → View ω) (fuel : Nat) (o : Walked ω) (pos : Nat) (dkey : PyObj)
    (step : Step (Walked ω)) {x : Run Writes Unit} (hx : x = follow view fuel o pos step) :
    (do
      let _ ← Run.lift (PyString_AS_AMQBYTES dkey)
      x) = follow view fuel o pos (afterKey dkey step) := by
  subst hx
  cases dkey with
  | _ => rfl

/-- Nothing is written for a member of a dict. -/
theorem modify_table (members : List (PyKey × ω)) (pos : Nat) (x : Run Writes Unit) :
    (do
      Run.modify fun log => log ++ written (.table members) pos
      x) = x := by
  funext log
  rw [Run.modify_bind_apply, written, List.append_nil]

section

variable {view : ω → View ω} {fuel : Nat}
  (htable : ∀ members pos, PyDict_ToAMQTable.loop view fuel members pos =
    walk (steps view) written fuel (.table members) pos)
  (harray : ∀ size items pos, PyIter_ToAMQArray.loop view fuel size items pos pos =
    walk (steps view) written fuel (.array size items) pos)

include htable harray

/-- One member of a dict, where the rest is the walk. -/
theorem table_is_walk (members : List (PyKey × ω)) (pos : Nat) :
    PyDict_ToAMQTable.loop view (fuel + 1) members pos =
      walk (steps view) written (fuel + 1) (.table members) pos := by
  rw [PyDict_ToAMQTable.loop, walk_eq_follow, steps]
  cases members[pos]? with
  | none => rfl
  | some member =>
    obtain ⟨key, dvalue⟩ := member
    dsimp only
    generalize (PyObjectArray_Maybe_Unicode key.toObj none).1 = dkey
    cases view dvalue with
    | dict inner =>
      refine follow_afterKey view fuel _ pos dkey _ ?_
      rw [follow, htable, htable, modify_table]
    | sequence size items =>
      cases size with
      | none =>
        refine follow_afterKey view fuel _ pos dkey _ ?_
        rw [follow, htable, modify_table]
        rfl
      | some size =>
        cases items with
        | none =>
          refine follow_afterKey view fuel _ pos dkey _ ?_
          rw [follow, htable, modify_table]
          rfl
        | some items =>
          refine follow_afterKey view fuel _ pos dkey _ ?_
          rw [follow, htable, modify_table, ← harray]
          rfl
    | plain o =>
      have hreturns := member_returns dkey o
      rw [memberStep]
      dsimp only
      cases hmember : librabbitmq.PyDict_ToAMQTable.member [] dkey o none with
      | ret r =>
        obtain ⟨dst, err⟩ := r
        cases dst with
        | none => rfl
        | some dst =>
          rw [plainStep, follow, modify_table, ← htable]
          rfl
      | crash => rfl
      | hang => exact absurd hmember hreturns

/-- One item of a list, where the rest is the walk. -/
theorem array_is_walk (size : Nat) (items : Nat → Option ω) (pos : Nat) :
    PyIter_ToAMQArray.loop view (fuel + 1) size items pos pos =
      walk (steps view) written (fuel + 1) (.array size items) pos := by
  rw [PyIter_ToAMQArray.loop, walk_eq_follow, steps]
  cases items pos with
  | none => rfl
  | some item =>
    dsimp only
    cases view item with
    | dict inner =>
      rw [itemStep, follow, ← htable, ← harray]
      rfl
    | sequence size' items' =>
      cases size' with
      | none =>
        rw [itemStep, follow, ← harray]
        · rfl
        · simp
      | some size' =>
        cases items' with
        | none =>
          rw [itemStep, follow, ← harray]
          · rfl
          · simp
        | some items' =>
          rw [itemStep, follow, ← harray, ← harray]
          rfl
    | plain o =>
      have hreturns := item_returns o
      rw [itemStep]
      dsimp only
      cases hitem : librabbitmq.PyIter_ToAMQArray.item [] o none with
      | ret r =>
        obtain ⟨dst, err⟩ := r
        cases dst with
        | none => rfl
        | some dst =>
          rw [plainStep, follow, ← harray]
          rfl
      | crash => rfl
      | hang => exact absurd hitem hreturns

end

/-- The encoder is the walk. -/
theorem loops_are_walks (view : ω → View ω) (fuel : Nat) :
    (∀ members pos, PyDict_ToAMQTable.loop view fuel members pos =
      walk (steps view) written fuel (.table members) pos) ∧
    ∀ size items pos, PyIter_ToAMQArray.loop view fuel size items pos pos =
      walk (steps view) written fuel (.array size items) pos := by
  induction fuel with
  | zero => exact ⟨fun _ _ => rfl, fun _ _ _ => rfl⟩
  | succ fuel ih =>
    obtain ⟨htable, harray⟩ := ih
    exact ⟨table_is_walk htable harray, array_is_walk htable harray⟩

/-! ## Where the writes are in bounds -/

/-- An array has room for each item of its list that the walk gets past. -/
def HasRoom (view : ω → View ω) : Walked ω → Prop
  | .table _ => True
  | .array size items =>
    ∀ pos, (∀ j, j ≤ pos → Passes (steps view) (.array size items) j) → pos < size

/-- Every entry is written in bounds, however long the encoder runs, exactly when each list that
it gets to, with an answer to its length and an iterator, comes to its end, or to an item that is
rejected, within the length that it has answered. -/
theorem the_writes_fit_exactly_when_the_lists_have_room (view : ω → View ω) (size : Option Nat)
    (items : Option (Nat → Option ω)) :
    (∀ fuel, ∀ w ∈ (PyIter_ToAMQArray view fuel size items []).2, w.1 < w.2) ↔
      ∀ n next, size = some n → items = some next →
        ∀ o, Visited (steps view) (.array n next) o → HasRoom view o := by
  constructor
  · rintro h n next rfl rfl o hmet
    cases o with
    | table members => trivial
    | array size' items' =>
      intro pos hpasses
      have hlogged : ∃ fuel,
          (pos, size') ∈ (walk (steps view) written fuel (.array n next) 0 []).2 :=
        mem_walk_iff.mpr ⟨_, pos, hmet, hpasses, List.mem_singleton_self _⟩
      obtain ⟨fuel, hw⟩ := hlogged
      rw [← (loops_are_walks view fuel).2] at hw
      exact h fuel _ hw
  · intro h fuel w hw
    cases size with
    | none => cases hw
    | some n =>
      cases items with
      | none => cases hw
      | some next =>
        have hwalk : w ∈ (PyIter_ToAMQArray.loop view fuel n next 0 0 []).2 := hw
        rw [(loops_are_walks view fuel).2] at hwalk
        obtain ⟨o, pos, hmet, hpasses, hwritten⟩ := mem_walk_iff.mp ⟨fuel, hwalk⟩
        have hroom := h n next rfl rfl o hmet
        cases o with
        | table members => cases hwritten
        | array size' items' =>
          rw [written, List.mem_singleton] at hwritten
          rw [hwritten]
          exact hroom pos hpasses

end

/-- A list whose `__len__` answers 0 and whose `__iter__` yields one int. -/
def lyingList : Bool → View Bool
  | true => .sequence (some 0) (some fun i => if i = 0 then some false else none)
  | false => .plain (.int 1)

/-- The int is written behind the end of the array, which has no entry. -/
theorem a_list_that_lies_is_written_behind_its_end :
    (0, 0) ∈ (PyIter_ToAMQArray lyingList 2 (some 0)
      (some fun i => if i = 0 then some false else none) []).2 :=
  List.mem_singleton_self _

/-! ## Lists that are of no subclass -/

/-- A value answers for itself. -/
def honest : PyObj → View PyObj
  | .dict members => .dict members
  | .list items => .sequence (some items.length) (some fun i => items[i]?)
  | .tuple items => .sequence (some items.length) (some fun i => items[i]?)
  | o => .plain o

/-- The room and the items of a list. -/
def IsList (size : Nat) (items : Nat → Option PyObj) : Prop :=
  ∃ l : List PyObj, size = l.length ∧ items = fun i => l[i]?

theorem plainStep_not_nested {ω α : Type} (r : Outcome (Option α × Option PyErr)) (o : Walked ω) :
    plainStep r ≠ .nested o := by
  rcases r with ⟨_ | _, _⟩ | _ | _ <;> simp [plainStep]

theorem honest_item {v : PyObj} {size : Nat} {items : Nat → Option PyObj}
    (h : itemStep (honest v) = .nested (.array size items)) : IsList size items := by
  cases v with
  | list l =>
    cases h
    exact ⟨l, rfl, rfl⟩
  | tuple l =>
    cases h
    exact ⟨l, rfl, rfl⟩
  | dict members => cases h
  | _ => simp [honest, itemStep, plainStep_not_nested] at h

theorem honest_member {dkey v : PyObj} {size : Nat} {items : Nat → Option PyObj}
    (h : memberStep dkey (honest v) = .nested (.array size items)) : IsList size items := by
  cases v with
  | list l =>
    cases dkey with
    | bytes b =>
      cases h
      exact ⟨l, rfl, rfl⟩
    | _ => cases h
  | tuple l =>
    cases dkey with
    | bytes b =>
      cases h
      exact ⟨l, rfl, rfl⟩
    | _ => cases h
  | dict members =>
    cases dkey with
    | bytes b => cases h
    | _ => cases h
  | _ => simp [honest, memberStep, plainStep_not_nested] at h

/-- The arrays that the walk through an honest list gets to are of honest lists. -/
theorem honest_met {root : Walked PyObj} {size : Nat} {items : Nat → Option PyObj}
    (h : Visited (steps honest) root (.array size items))
    (hroot : ∀ size items, root = .array size items → IsList size items) : IsList size items := by
  cases h with
  | root => exact hroot size items rfl
  | @item o _ i _ _ h =>
    cases o with
    | table members =>
      rw [steps] at h
      cases hi : members[i]? with
      | none =>
        rw [hi] at h
        cases h
      | some member =>
        rw [hi] at h
        exact honest_member h
    | array size' items' =>
      rw [steps] at h
      cases hi : items' i with
      | none =>
        rw [hi] at h
        cases h
      | some v =>
        rw [hi] at h
        exact honest_item h

/-- No list or tuple of the plain types is written behind its end, at any depth. -/
theorem honest_writes_fit (l : List PyObj) (fuel : Nat) :
    ∀ w ∈ (PyIter_ToAMQArray honest fuel (some l.length) (some fun i => l[i]?) []).2,
      w.1 < w.2 := by
  refine (the_writes_fit_exactly_when_the_lists_have_room honest _ _).mpr ?_ fuel
  rintro n next ⟨⟩ ⟨⟩ o hmet
  cases o with
  | table members => trivial
  | array size items =>
    obtain ⟨l', rfl, rfl⟩ := honest_met hmet (by rintro _ _ ⟨⟩; exact ⟨l, rfl, rfl⟩)
    intro pos hpasses
    by_contra hge
    have hnone : steps honest (.array l'.length fun i => l'[i]?) pos = .leave := by
      rw [steps, List.getElem?_eq_none (by omega)]
    cases hpasses pos le_rfl with
    | leaf h =>
      rw [hnone] at h
      cases h
    | nested h _ _ =>
      rw [hnone] at h
      cases h

end librabbitmq.array_bounds
