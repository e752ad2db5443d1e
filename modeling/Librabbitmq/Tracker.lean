-- The tracker of the temporary objects as it lies in memory: nodes of a fixed size that are
-- chained by pointers. It is the chain that the encoder uses, and it is released exactly once,
-- however often it is released.
import Librabbitmq.Cells
import Librabbitmq.Ownership

namespace librabbitmq.tracker

open references cells ownership

/-! ## The nodes in memory -/

/-- A `pyobject_array_t`. A pointer is an address, or `none` for NULL. -/
structure Node where
  num_entries : Nat
  entries : Nat → Option Nat
  next : Option Nat

/-- A node whose octets are all zero. -/
def Node.zero : Node := ⟨0, fun _ => none, none⟩

/-- The objects, and the memory of the nodes. -/
structure Mem (κ : Type) where
  heap : Heap κ
  cells : Cells Node

section

variable {κ : Type}

/-- `*array`. There is nothing to read at NULL or at a freed node. -/
def load (array : Option Nat) : Run (Mem κ) Node := do
  let m ← Run.get
  match array.bind m.cells.cell with
  | some node => return node
  | none => Run.crash

def store (array : Nat) (node : Node) : Run (Mem κ) Unit :=
  Run.modify fun m => { m with cells := m.cells.put array node }

/-- `calloc` of a node, which succeeds. -/
def calloc : Run (Mem κ) Nat := do
  let m ← Run.get
  Run.modify fun m => { m with cells := m.cells.alloc Node.zero }
  return m.cells.brk

/-- `free`. A node that does not stand cannot be freed. -/
def free (array : Nat) : Run (Mem κ) Unit := do
  let _ ← load (some array)
  Run.modify fun m => { m with cells := m.cells.drop array }

def Py_XDECREF : Option Nat → Run (Mem κ) Unit
  | some a => Run.modify fun m => { m with heap := m.heap.decref a }
  | none => return ()

/-- The node after a full one: it is made where there is none. -/
def PyObjectArray_AddEntry.grow (array : Nat) (node : Node) : Run (Mem κ) Unit :=
  if node.next = none then do
    let next ← calloc
    store array { node with next := some next }
  else return ()

def PyObjectArray_AddEntry : Nat → Option Nat → Option Nat → Run (Mem κ) (Option Nat)
  | 0, _, _ => Run.hang
  | _ + 1, _, none => return none
  | _ + 1, none, some _ => Run.crash
  | fuel + 1, some array, some obj => do
    let node ← load (some array)
    if node.num_entries = PYOBJECT_ARRAY_MAX then
      PyObjectArray_AddEntry.grow array node
      let node ← load (some array)
      PyObjectArray_AddEntry fuel node.next (some obj)
    else if PYOBJECT_ARRAY_MAX < node.num_entries then
      -- a slot past the end of `entries` is not in the node
      Run.crash
    else
      store array { node with
        entries := Function.update node.entries node.num_entries (some obj)
        num_entries := node.num_entries + 1 }
      return some obj

/-- The loop of `PyObjectArray_XDECREF` from the slot `i` on, with `n` slots to go. -/
def PyObjectArray_XDECREF.loop (entries : Nat → Option Nat) : Nat → Nat → Run (Mem κ) Unit
  | _, 0 => return ()
  | i, n + 1 => do
    if PYOBJECT_ARRAY_MAX ≤ i then Run.crash
    else
      Py_XDECREF (entries i)
      PyObjectArray_XDECREF.loop entries (i + 1) n

/-- The end of `PyObjectArray_XDECREF`: the entries of the node itself. -/
def PyObjectArray_XDECREF.entries (array : Nat) : Run (Mem κ) Unit := do
  let node ← load (some array)
  PyObjectArray_XDECREF.loop node.entries 0 node.num_entries
  store array { node with num_entries := 0 }

def PyObjectArray_XDECREF : Nat → Option Nat → Run (Mem κ) Unit
  | 0, _ => Run.hang
  | _ + 1, none => return ()
  | fuel + 1, some array => do
    let node ← load (some array)
    match node.next with
    | some next => do
      PyObjectArray_XDECREF fuel (some next)
      free next
      store array { node with next := none }
      PyObjectArray_XDECREF.entries array
    | none => PyObjectArray_XDECREF.entries array

/-! ## The chain of nodes -/

/-- The node holds `objs` and the pointer `next`. -/
structure Node.Holds (node : Node) (objs : List Nat) (next : Option Nat) : Prop where
  count : node.num_entries = objs.length
  slots : ∀ i, i < objs.length → node.entries i = objs[i]?
  next : node.next = next

/-- The node at `array` and the nodes `nodes` after it are the chain `chain`. -/
def Stands (c : Cells Node) : Nat → List Nat → pyobject_array_t → Prop
  | array, [], .last objs => ∃ node, c.cell array = some node ∧ node.Holds objs none
  | array, next :: nodes, .link objs rest =>
    (∃ node, c.cell array = some node ∧ node.Holds objs (some next)) ∧ Stands c next nodes rest
  | _, _, _ => False

/-- Every node but the last is full. -/
def Full : pyobject_array_t → Prop
  | .last objs => objs.length ≤ PYOBJECT_ARRAY_MAX
  | .link objs rest => objs.length = PYOBJECT_ARRAY_MAX ∧ Full rest

/-- The tracker at `array`, with the nodes `nodes` chained to it, holds `objs` in this order,
in full nodes but for the last. -/
structure Tracks (c : Cells Node) (array : Nat) (nodes objs : List Nat) : Prop where
  chain : ∃ chain, Stands c array nodes chain ∧ Full chain ∧ chain.recorded = objs
  distinct : (array :: nodes).Nodup

theorem Stands.congr {c c' : Cells Node} {chain : pyobject_array_t} :
    ∀ {array : Nat} {nodes : List Nat}, Stands c array nodes chain →
      (∀ p, p ∈ array :: nodes → c'.cell p = c.cell p) → Stands c' array nodes chain := by
  induction chain with
  | last objs =>
    intro array nodes h hcell
    cases nodes with
    | nil =>
      obtain ⟨node, hnode, hholds⟩ := h
      exact ⟨node, by rw [hcell array (by simp), hnode], hholds⟩
    | cons next nodes => exact h.elim
  | link objs rest ih =>
    intro array nodes h hcell
    cases nodes with
    | nil => exact h.elim
    | cons next nodes =>
      obtain ⟨⟨node, hnode, hholds⟩, hrest⟩ := h
      refine ⟨⟨node, by rw [hcell array (by simp), hnode], hholds⟩, ih hrest fun p hp => ?_⟩
      exact hcell p (List.mem_cons_of_mem array hp)

theorem Node.Holds.zero : Node.zero.Holds [] none :=
  ⟨rfl, fun i hi => absurd hi (Nat.not_lt_zero i), rfl⟩

theorem Node.Holds.snoc {node : Node} {objs : List Nat} {next : Option Nat}
    (h : node.Holds objs next) (obj : Nat) :
    Node.Holds { node with
      entries := Function.update node.entries node.num_entries (some obj)
      num_entries := node.num_entries + 1 } (objs ++ [obj]) next := by
  refine ⟨by simp [h.count], fun i hi => ?_, h.next⟩
  rw [List.length_append, List.length_singleton] at hi
  by_cases hlast : i = objs.length
  · subst hlast
    simp [h.count]
  · have hlt : i < objs.length := by omega
    simp only [h.count, Function.update_of_ne hlast, h.slots i hlt]
    rw [List.getElem?_append_left hlt]

/-- The objects come in the order in which they were added. -/
theorem recorded_add_of_full {chain : pyobject_array_t} (h : Full chain) (obj : Nat) :
    (ownership.PyObjectArray_AddEntry chain obj).recorded = chain.recorded ++ [obj] := by
  induction chain with
  | last objs =>
    unfold ownership.PyObjectArray_AddEntry
    split
    · rfl
    · rfl
  | link objs rest ih =>
    simp only [ownership.PyObjectArray_AddEntry, h.1, ↓reduceIte, pyobject_array_t.recorded,
      ih h.2, List.append_assoc]

theorem full_add {chain : pyobject_array_t} (h : Full chain) (obj : Nat) :
    Full (ownership.PyObjectArray_AddEntry chain obj) := by
  induction chain with
  | last objs =>
    unfold ownership.PyObjectArray_AddEntry
    unfold Full at h
    split
    next hfull => exact ⟨hfull, by simp [Full, PYOBJECT_ARRAY_MAX]⟩
    next hfull =>
      unfold Full
      rw [List.length_append, List.length_singleton]
      omega
  | link objs rest ih =>
    simp only [ownership.PyObjectArray_AddEntry, h.1, ↓reduceIte]
    exact ⟨h.1, ih h.2⟩

/-! ## One call -/

theorem load_eq {array : Nat} {m : Mem κ} {node : Node} (h : m.cells.cell array = some node) :
    load (some array) m = (.ret node, m) := by
  unfold load
  rw [Run.get_bind_apply, Option.bind_some, h]
  rfl

theorem add_here {heap : Heap κ} {c : Cells Node} {array obj : Nat} {node : Node} (fuel : Nat)
    (hnode : c.cell array = some node) (hroom : node.num_entries < PYOBJECT_ARRAY_MAX) :
    PyObjectArray_AddEntry (fuel + 1) (some array) (some obj) ⟨heap, c⟩ =
      (.ret (some obj), ⟨heap, c.put array { node with
        entries := Function.update node.entries node.num_entries (some obj)
        num_entries := node.num_entries + 1 }⟩) := by
  rw [PyObjectArray_AddEntry, Run.bind_ret (load_eq hnode), if_neg (by omega), if_neg (by omega)]
  rfl

theorem add_next {heap : Heap κ} {c : Cells Node} {array next obj : Nat} {node : Node} (fuel : Nat)
    (hnode : c.cell array = some node) (hmax : node.num_entries = PYOBJECT_ARRAY_MAX)
    (hnext : node.next = some next) :
    PyObjectArray_AddEntry (fuel + 1) (some array) (some obj) ⟨heap, c⟩ =
      PyObjectArray_AddEntry fuel (some next) (some obj) ⟨heap, c⟩ := by
  have hgrow : PyObjectArray_AddEntry.grow array node (⟨heap, c⟩ : Mem κ) =
      (.ret (), ⟨heap, c⟩) := by
    rw [PyObjectArray_AddEntry.grow, if_neg (by simp [hnext])]
    rfl
  rw [PyObjectArray_AddEntry, Run.bind_ret (load_eq hnode), if_pos hmax, Run.bind_ret hgrow,
    Run.bind_ret (load_eq hnode), hnext]

theorem add_new {heap : Heap κ} {c : Cells Node} {array obj : Nat} {node : Node} (fuel : Nat)
    (hnode : c.cell array = some node) (hmax : node.num_entries = PYOBJECT_ARRAY_MAX)
    (hnext : node.next = none) :
    PyObjectArray_AddEntry (fuel + 1) (some array) (some obj) ⟨heap, c⟩ =
      PyObjectArray_AddEntry fuel (some c.brk) (some obj)
        ⟨heap, (c.alloc Node.zero).put array { node with next := some c.brk }⟩ := by
  have hgrow : PyObjectArray_AddEntry.grow array node (⟨heap, c⟩ : Mem κ) = (.ret (),
      ⟨heap, (c.alloc Node.zero).put array { node with next := some c.brk }⟩) := by
    rw [PyObjectArray_AddEntry.grow, if_pos hnext]
    rfl
  rw [PyObjectArray_AddEntry, Run.bind_ret (load_eq hnode), if_pos hmax, Run.bind_ret hgrow,
    Run.bind_ret (load_eq (Cells.put_cell_self _ _ _))]

/-- How the memory grows when an object is added: the chain gets one more node at most, and
nothing else changes. -/
structure Grows (c : Cells Node) (array : Nat) (nodes : List Nat) (c' : Cells Node)
    (nodes' : List Nat) : Prop where
  distinct : (array :: nodes').Nodup
  short : nodes'.length ≤ nodes.length + 1
  fresh : ∀ p, p ∈ nodes' → p ∈ nodes ∨ p = c.brk
  bounded : c'.Bounded
  freed : c'.freed = c.freed
  brk : c.brk ≤ c'.brk
  frame : ∀ p, p < c.brk → p ∉ array :: nodes → c'.cell p = c.cell p

/-- A new object goes into the first node that is not full, and behind the last one there comes
a new node. -/
theorem add_stands (heap : Heap κ) (obj : Nat) {chain : pyobject_array_t} (hfull : Full chain) :
    ∀ {c : Cells Node} {array : Nat} {nodes : List Nat}, c.Bounded →
      Stands c array nodes chain → (array :: nodes).Nodup →
      ∃ c' nodes', (∀ fuel, PyObjectArray_AddEntry (fuel + nodes.length + 2) (some array) (some obj)
          ⟨heap, c⟩ = (.ret (some obj), ⟨heap, c'⟩)) ∧
        Stands c' array nodes' (ownership.PyObjectArray_AddEntry chain obj) ∧
        Grows c array nodes c' nodes' := by
  induction chain with
  | last objs =>
    intro c array nodes hc hstands hnodup
    cases nodes with
    | cons next nodes => exact hstands.elim
    | nil =>
      obtain ⟨node, hnode, hholds⟩ := hstands
      have hlt := hc.lt hnode
      by_cases hmax : objs.length = PYOBJECT_ARRAY_MAX
      · have hne : c.brk ≠ array := by omega
        have hcell : ((c.alloc Node.zero).put array { node with next := some c.brk }).cell c.brk =
            some Node.zero := by
          rw [Cells.put_cell_ne _ _ hne, Cells.alloc_cell_self]
        have hadd : ∀ fuel, PyObjectArray_AddEntry (fuel + 2) (some array) (some obj) ⟨heap, c⟩ =
            (.ret (some obj), _) := fun fuel =>
          (add_new (fuel + 1) hnode (by rw [hholds.count, hmax]) hholds.next).trans
            (add_here fuel hcell (by decide))
        refine ⟨_, [c.brk], hadd, ?_, ?_⟩
        · rw [ownership.PyObjectArray_AddEntry, if_pos hmax]
          refine ⟨⟨{ node with next := some c.brk }, ?_, hholds.count, hholds.slots, rfl⟩,
            _, Cells.put_cell_self _ _ _, ?_⟩
          · rw [Cells.put_cell_ne _ _ hne.symm, Cells.put_cell_self]
          · exact Node.Holds.zero.snoc obj
        · refine ⟨by simp [hne.symm], by simp, by simp, ?_, rfl, by simp, fun p hp hnot => ?_⟩
          · exact ((hc.alloc _).put (by simp only [Cells.alloc_brk]; omega) _).put (by simp) _
          · rw [List.mem_singleton] at hnot
            rw [Cells.put_cell_ne _ _ (by omega), Cells.put_cell_ne _ _ hnot,
              Cells.alloc_cell_ne _ _ (by omega)]
      · have hroom : node.num_entries < PYOBJECT_ARRAY_MAX := by
          unfold Full at hfull
          rw [hholds.count]
          omega
        refine ⟨_, [], fun fuel => add_here (fuel + 1) hnode hroom, ?_, ?_⟩
        · rw [ownership.PyObjectArray_AddEntry, if_neg hmax]
          exact ⟨_, Cells.put_cell_self _ _ _, hholds.snoc obj⟩
        · refine ⟨by simp, by simp, by simp, hc.put hlt _, rfl, le_rfl, fun p hp hnot => ?_⟩
          rw [List.mem_singleton] at hnot
          exact Cells.put_cell_ne _ _ hnot
  | link objs rest ih =>
    intro c array nodes hc hstands hnodup
    cases nodes with
    | nil => exact hstands.elim
    | cons next nodes =>
      obtain ⟨⟨node, hnode, hholds⟩, hrest⟩ := hstands
      have hlt := hc.lt hnode
      rw [List.nodup_cons] at hnodup
      obtain ⟨c', nodes', heq, hstands', hgrows⟩ :=
        ih hfull.2 hc hrest hnodup.2
      have hnot : array ∉ next :: nodes' := by
        intro hmem
        rcases List.mem_cons.mp hmem with rfl | hmem
        · exact hnodup.1 (List.mem_cons_self)
        · rcases hgrows.fresh array hmem with hold | hnew
          · exact hnodup.1 (List.mem_cons_of_mem next hold)
          · omega
      refine ⟨c', next :: nodes', fun fuel => ?_, ?_, ?_⟩
      · exact (add_next _ hnode (by rw [hholds.count, hfull.1]) hholds.next).trans (heq fuel)
      · rw [ownership.PyObjectArray_AddEntry, if_pos hfull.1]
        refine ⟨⟨node, ?_, hholds⟩, hstands'⟩
        rw [hgrows.frame array hlt hnodup.1, hnode]
      · refine ⟨List.nodup_cons.mpr ⟨hnot, hgrows.distinct⟩, by simpa using hgrows.short, ?_,
          hgrows.bounded, hgrows.freed, hgrows.brk, fun p hp hmem => ?_⟩
        · intro p hp
          rcases List.mem_cons.mp hp with rfl | hp
          · exact Or.inl List.mem_cons_self
          · exact (hgrows.fresh p hp).imp (List.mem_cons_of_mem next) id
        · exact hgrows.frame p hp fun hin => hmem (List.mem_cons_of_mem array hin)

/-! ## One release -/

/-- Each object of a node gives back one reference. -/
theorem loop_eq {entries : Nat → Option Nat} {c : Cells Node} {objs : List Nat} :
    ∀ {i : Nat} (heap : Heap κ), i + objs.length ≤ PYOBJECT_ARRAY_MAX →
      (∀ j, j < objs.length → entries (i + j) = objs[j]?) →
      ∃ heap', PyObjectArray_XDECREF.loop entries i objs.length ⟨heap, c⟩ = (.ret (), ⟨heap', c⟩) ∧
        ∀ a, heap'.count a = heap.count a - objs.count a := by
  induction objs with
  | nil => exact fun heap _ _ => ⟨heap, rfl, by simp⟩
  | cons obj objs ih =>
    intro i heap hmax hslots
    rw [List.length_cons] at hmax hslots
    have hobj : entries i = some obj := by simpa using hslots 0 (by omega)
    have hrest : ∀ j, j < objs.length → entries (i + 1 + j) = objs[j]? := by
      intro j hj
      have := hslots (j + 1) (by omega)
      rwa [List.getElem?_cons_succ, show i + (j + 1) = i + 1 + j by omega] at this
    obtain ⟨heap', hloop, hcount⟩ := ih (heap.decref obj) (by omega) hrest
    refine ⟨heap', ?_, fun a => ?_⟩
    · rw [List.length_cons, PyObjectArray_XDECREF.loop, if_neg (by omega), hobj]
      exact hloop
    · rw [hcount a, Heap.decref_count, List.count_cons]
      by_cases ha : a = obj
      · simp [ha]
        omega
      · simp [ha, Ne.symm ha]

/-- How the memory shrinks when the tracker is released: the node at `array` is empty, the
nodes that were chained to it are freed, each once, and nothing else changes. -/
structure Shrinks (c : Cells Node) (array : Nat) (nodes : List Nat) (c' : Cells Node) : Prop where
  empty : Stands c' array [] (.last [])
  gone : ∀ p, p ∈ nodes → c'.cell p = none
  freed : c'.freed = c.freed ++ nodes.reverse
  bounded : c'.Bounded
  brk : c'.brk = c.brk
  frame : ∀ p, p ∉ array :: nodes → c'.cell p = c.cell p

theorem entries_eq (heap : Heap κ) {c : Cells Node} {array : Nat} {node : Node}
    {objs : List Nat} {next : Option Nat} (hnode : c.cell array = some node)
    (hholds : node.Holds objs next) (hmax : objs.length ≤ PYOBJECT_ARRAY_MAX) :
    ∃ heap', PyObjectArray_XDECREF.entries array ⟨heap, c⟩ =
        (.ret (), ⟨heap', c.put array { node with num_entries := 0 }⟩) ∧
      ∀ a, heap'.count a = heap.count a - objs.count a := by
  have hslots : ∀ j, j < objs.length → node.entries (0 + j) = objs[j]? := by
    simpa using hholds.slots
  obtain ⟨heap', hloop, hcount⟩ := loop_eq (c := c) heap (by omega) hslots
  refine ⟨heap', ?_, hcount⟩
  rw [PyObjectArray_XDECREF.entries, Run.bind_ret (load_eq hnode), hholds.count, Run.bind_ret hloop]
  rfl

theorem free_eq {heap : Heap κ} {c : Cells Node} {array : Nat} {node : Node}
    (hnode : c.cell array = some node) :
    free array (⟨heap, c⟩ : Mem κ) = (.ret (), ⟨heap, c.drop array⟩) := by
  rw [free, Run.bind_ret (load_eq hnode)]
  rfl

/-- A release gives back each reference of the chain once and frees the nodes from the last
one on. -/
theorem release_stands {chain : pyobject_array_t} (hfull : Full chain) :
    ∀ (heap : Heap κ) {c : Cells Node} {array : Nat} {nodes : List Nat}, c.Bounded →
      Stands c array nodes chain → (array :: nodes).Nodup →
      ∃ heap' c', (∀ fuel, PyObjectArray_XDECREF (fuel + nodes.length + 1) (some array) ⟨heap, c⟩ =
          (.ret (), ⟨heap', c'⟩)) ∧
        (∀ a, heap'.count a = heap.count a - chain.recorded.count a) ∧
        Shrinks c array nodes c' := by
  induction chain with
  | last objs =>
    intro heap c array nodes hc hstands hnodup
    cases nodes with
    | cons next nodes => exact hstands.elim
    | nil =>
      obtain ⟨node, hnode, hholds⟩ := hstands
      obtain ⟨heap', hentries, hcount⟩ := entries_eq heap hnode hholds hfull
      refine ⟨heap', c.put array { node with num_entries := 0 }, fun fuel => ?_, hcount, ?_⟩
      · rw [PyObjectArray_XDECREF, Run.bind_ret (load_eq hnode), hholds.next]
        rw [hholds.next] at hentries
        exact hentries
      · have hempty : Node.Holds { node with num_entries := 0 } [] none :=
          ⟨rfl, by simp, hholds.next⟩
        refine ⟨⟨_, Cells.put_cell_self _ _ _, hempty⟩, by simp, by simp,
          hc.put (hc.lt hnode) _, rfl, fun p hp => ?_⟩
        rw [List.mem_singleton] at hp
        exact Cells.put_cell_ne _ _ hp
  | link objs rest ih =>
    intro heap c array nodes hc hstands hnodup
    cases nodes with
    | nil => exact hstands.elim
    | cons next nodes =>
      obtain ⟨⟨node, hnode, hholds⟩, hrest⟩ := hstands
      have hlt := hc.lt hnode
      rw [List.nodup_cons] at hnodup
      have hne : array ≠ next := fun h => hnodup.1 (h ▸ List.mem_cons_self)
      obtain ⟨heap1, c1, hrelease, hcount1, hshrinks⟩ :=
        ih hfull.2 heap hc hrest hnodup.2
      obtain ⟨node1, hnode1, _⟩ := hshrinks.empty
      -- the node itself, once the nodes behind it are gone
      have hself : ((c1.drop next).put array { node with next := none }).cell array =
          some { node with next := none } := Cells.put_cell_self _ _ _
      have hholds1 : Node.Holds { node with next := none } objs none :=
        ⟨hholds.count, hholds.slots, rfl⟩
      obtain ⟨heap', hentries, hcount⟩ := entries_eq heap1 hself hholds1 hfull.1.le
      refine ⟨heap', ((c1.drop next).put array { node with next := none }).put array
        { node with next := none, num_entries := 0 }, fun fuel => ?_, fun a => ?_, ?_⟩
      · rw [PyObjectArray_XDECREF, Run.bind_ret (load_eq hnode), hholds.next]
        exact (Run.bind_ret (hrelease fuel)).trans
          ((Run.bind_ret (free_eq hnode1)).trans hentries)
      · rw [hcount a, hcount1 a, pyobject_array_t.recorded, List.count_append]
        push_cast
        omega
      · have hbounded := (hshrinks.bounded.drop next).put (p := array)
          (by rw [Cells.drop_brk, hshrinks.brk]; exact hlt) { node with next := none }
        have hempty : Node.Holds { node with next := none, num_entries := 0 } [] none :=
          ⟨rfl, by simp, rfl⟩
        refine ⟨⟨_, Cells.put_cell_self _ _ _, hempty⟩, fun p hp => ?_, ?_, ?_, ?_,
          fun p hp => ?_⟩
        · have hpa : p ≠ array := fun h => hnodup.1 (h ▸ hp)
          rw [Cells.put_cell_ne _ _ hpa, Cells.put_cell_ne _ _ hpa]
          by_cases hpn : p = next
          · rw [hpn, Cells.drop_cell_self]
          · rw [Cells.drop_cell_ne _ hpn]
            exact hshrinks.gone p ((List.mem_cons.mp hp).resolve_left hpn)
        · simp only [Cells.put_freed, Cells.drop_freed, hshrinks.freed, List.reverse_cons,
            List.append_assoc]
        · exact hbounded.put (by simpa [hshrinks.brk] using hlt) _
        · exact hshrinks.brk
        · have hpa : p ≠ array := fun h => hp (h ▸ List.mem_cons_self)
          have hrest : p ∉ next :: nodes := fun h => hp (List.mem_cons_of_mem array h)
          have hpn : p ≠ next := fun h => hrest (h ▸ List.mem_cons_self)
          rw [Cells.put_cell_ne _ _ hpa, Cells.put_cell_ne _ _ hpa, Cells.drop_cell_ne _ hpn]
          exact hshrinks.frame p hrest

/-! ## Rounds of adds and releases -/

/-- The adds of `objs`, and what they return. -/
def adds (fuel array : Nat) : List (Option Nat) → Run (Mem κ) (List (Option Nat))
  | [] => return []
  | obj :: objs => do
    let obj ← PyObjectArray_AddEntry fuel (some array) obj
    let objs ← adds fuel array objs
    return obj :: objs

def releases (fuel array : Nat) : Nat → Run (Mem κ) Unit
  | 0 => return ()
  | k + 1 => do
    PyObjectArray_XDECREF fuel (some array)
    releases fuel array k

theorem Tracks.add (heap : Heap κ) {c : Cells Node} {array : Nat} {nodes olds : List Nat}
    (h : Tracks c array nodes olds) (hc : c.Bounded) (obj : Option Nat) :
    ∃ c' nodes', (∀ fuel, nodes.length + 2 ≤ fuel →
        PyObjectArray_AddEntry fuel (some array) obj ⟨heap, c⟩ = (.ret obj, ⟨heap, c'⟩)) ∧
      Tracks c' array nodes' (olds ++ obj.toList) ∧ c'.Bounded ∧ c'.freed = c.freed ∧
      nodes'.length ≤ nodes.length + 1 := by
  cases obj with
  | none =>
    refine ⟨c, nodes, fun fuel hfuel => ?_, by simpa using h, hc, rfl, by omega⟩
    obtain ⟨fuel, rfl⟩ := Nat.exists_eq_add_of_le' hfuel
    rfl
  | some obj =>
    obtain ⟨chain, hstands, hfull, rfl⟩ := h.chain
    obtain ⟨c', nodes', hadd, hstands', hgrows⟩ :=
      add_stands heap obj hfull hc hstands h.distinct
    refine ⟨c', nodes', fun fuel hfuel => ?_, ⟨⟨_, hstands', full_add hfull obj, ?_⟩,
      hgrows.distinct⟩, hgrows.bounded, hgrows.freed, hgrows.short⟩
    · obtain ⟨fuel, rfl⟩ := Nat.exists_eq_add_of_le' hfuel
      exact hadd fuel
    · exact recorded_add_of_full hfull obj

theorem Tracks.adds (heap : Heap κ) {array : Nat} (objs : List (Option Nat)) :
    ∀ {c : Cells Node} {nodes olds : List Nat}, Tracks c array nodes olds → c.Bounded →
      ∃ c' nodes', (∀ fuel, nodes.length + objs.length + 1 ≤ fuel →
          tracker.adds fuel array objs ⟨heap, c⟩ = (.ret objs, ⟨heap, c'⟩)) ∧
        Tracks c' array nodes' (olds ++ objs.filterMap id) ∧ c'.Bounded ∧ c'.freed = c.freed ∧
        nodes'.length ≤ nodes.length + objs.length := by
  induction objs with
  | nil =>
    intro c nodes olds h hc
    exact ⟨c, nodes, fun _ _ => rfl, by simpa using h, hc, rfl, by simp⟩
  | cons obj objs ih =>
    intro c nodes olds h hc
    obtain ⟨c1, nodes1, hadd, h1, hc1, hfreed1, hshort1⟩ := h.add heap hc obj
    obtain ⟨c', nodes', hadds, h', hc', hfreed', hshort'⟩ := ih h1 hc1
    refine ⟨c', nodes', fun fuel hfuel => ?_, ?_, hc', hfreed'.trans hfreed1, ?_⟩
    · rw [List.length_cons] at hfuel
      rw [tracker.adds, Run.bind_ret (hadd fuel (by omega)), Run.bind_ret (hadds fuel (by omega))]
      rfl
    · cases obj with
      | none => simpa using h'
      | some obj => simpa using h'
    · rw [List.length_cons]
      omega

theorem Shrinks.trans {c c1 c2 : Cells Node} {array : Nat} {nodes : List Nat}
    (h : Shrinks c array nodes c1) (h1 : Shrinks c1 array [] c2)
    (hdistinct : (array :: nodes).Nodup) : Shrinks c array nodes c2 := by
  rw [List.nodup_cons] at hdistinct
  refine ⟨h1.empty, fun p hp => ?_, ?_, h1.bounded, h1.brk.trans h.brk, fun p hp => ?_⟩
  · have hne : p ∉ [array] := fun hin => hdistinct.1 (List.mem_singleton.mp hin ▸ hp)
    rw [h1.frame p hne, h.gone p hp]
  · rw [h1.freed, h.freed, List.reverse_nil, List.append_nil]
  · have hne : p ∉ [array] := fun hin => hp (List.mem_singleton.mp hin ▸ List.mem_cons_self)
    rw [h1.frame p hne, h.frame p hp]

theorem Shrinks.tracks {c c' : Cells Node} {array : Nat} {nodes : List Nat}
    (h : Shrinks c array nodes c') : Tracks c' array [] [] :=
  ⟨⟨.last [], h.empty, Nat.zero_le _, rfl⟩, List.nodup_singleton array⟩

/-- However often it is released, an object gives back one reference for each time it was
added. -/
theorem Tracks.releases {array k : Nat} :
    ∀ (heap : Heap κ) {c : Cells Node} {nodes objs : List Nat}, Tracks c array nodes objs →
      c.Bounded →
      ∃ heap' c', (∀ fuel, nodes.length + 1 ≤ fuel →
          tracker.releases fuel array (k + 1) ⟨heap, c⟩ = (.ret (), ⟨heap', c'⟩)) ∧
        (∀ a, heap'.count a = heap.count a - objs.count a) ∧ Shrinks c array nodes c' := by
  induction k with
  | zero =>
    intro heap c nodes objs h hc
    obtain ⟨chain, hstands, hfull, rfl⟩ := h.chain
    obtain ⟨heap', c', hrelease, hcount, hshrinks⟩ :=
      release_stands hfull heap hc hstands h.distinct
    refine ⟨heap', c', fun fuel hfuel => ?_, hcount, hshrinks⟩
    obtain ⟨fuel, rfl⟩ := Nat.exists_eq_add_of_le' hfuel
    exact Run.bind_ret (hrelease fuel)
  | succ k ih =>
    intro heap c nodes objs h hc
    obtain ⟨chain, hstands, hfull, rfl⟩ := h.chain
    obtain ⟨heap1, c1, hrelease, hcount1, hshrinks1⟩ :=
      release_stands hfull heap hc hstands h.distinct
    obtain ⟨heap', c', hreleases, hcount, hshrinks⟩ := ih heap1 hshrinks1.tracks hshrinks1.bounded
    refine ⟨heap', c', fun fuel hfuel => ?_, fun a => ?_, hshrinks1.trans hshrinks h.distinct⟩
    · obtain ⟨fuel, rfl⟩ := Nat.exists_eq_add_of_le' hfuel
      exact (Run.bind_ret (hrelease fuel)).trans (hreleases _ (by simp; omega))
    · rw [hcount a, hcount1 a]
      simp

/-- The states between two rounds of a tracker that starts with zeroed memory: a round adds any
objects and releases at least once. In between, others can do anything to the objects. -/
inductive Ready (array : Nat) : Mem κ → Prop
  | zero {m : Mem κ} (hzero : m.cells.cell array = some Node.zero) (hc : m.cells.Bounded) :
      Ready array m
  | others {m : Mem κ} (h : Ready array m) (heap : Heap κ) : Ready array { m with heap := heap }
  | round {m m1 m2 : Mem κ} {fuel k : Nat} {objs added : List (Option Nat)} (h : Ready array m)
      (hfuel : objs.length + 1 ≤ fuel) (hadds : adds fuel array objs m = (.ret added, m1))
      (hk : 1 ≤ k) (hreleases : releases fuel array k m1 = (.ret (), m2)) : Ready array m2

theorem Ready.tracks {array : Nat} {m : Mem κ} (h : Ready array m) :
    m.cells.Bounded ∧ Tracks m.cells array [] [] := by
  induction h with
  | zero hzero hc =>
    exact ⟨hc, ⟨.last [], ⟨Node.zero, hzero, Node.Holds.zero⟩, Nat.zero_le _, rfl⟩,
      List.nodup_singleton array⟩
  | others _ heap ih => exact ih
  | @round m m1 m2 fuel k objs added _ hfuel hadds hk hreleases ih =>
    obtain ⟨hc, htracks⟩ := ih
    obtain ⟨c1, nodes1, hadds1, htracks1, hc1, _, hshort⟩ :=
      htracks.adds m.heap objs hc
    obtain ⟨k, rfl⟩ := Nat.exists_eq_add_of_le' hk
    obtain ⟨heap2, c2, hreleases2, _, hshrinks⟩ := htracks1.releases (k := k) m.heap hc1
    rw [List.length_nil, Nat.zero_add] at hadds1 hshort
    rw [hadds1 fuel hfuel] at hadds
    cases hadds
    rw [hreleases2 fuel (by omega)] at hreleases
    cases hreleases
    exact ⟨hshrinks.bounded, hshrinks.tracks⟩

/-- Between the adds and the releases the chain holds what was added, and after the releases
every object has given back one reference for each time it was added, whatever their number:
the tracker is then ready for the next round. -/
theorem objects_released_once {array : Nat} {m : Mem κ} (h : Ready array m)
    (objs : List (Option Nat)) :
    ∃ m1 nodes,
      (∀ fuel, objs.length + 1 ≤ fuel → adds fuel array objs m = (.ret objs, m1)) ∧
      Tracks m1.cells array nodes (objs.filterMap id) ∧
      m1.heap = m.heap ∧ m1.cells.freed = m.cells.freed ∧
      ∀ k, 1 ≤ k → ∃ m2,
        (∀ fuel, objs.length + 1 ≤ fuel → releases fuel array k m1 = (.ret (), m2)) ∧
        (∀ a, m2.heap.count a = m.heap.count a - objs.count (some a)) ∧
        m2.cells.freed = m.cells.freed ++ nodes.reverse ∧
        (∀ p, p ∈ nodes → m2.cells.cell p = none) ∧
        Tracks m2.cells array [] [] ∧ Ready array m2 := by
  obtain ⟨hc, htracks⟩ := h.tracks
  obtain ⟨c1, nodes, hadds, htracks1, hc1, hfreed, hshort⟩ :=
    htracks.adds m.heap objs hc
  rw [List.length_nil, Nat.zero_add] at hadds hshort
  refine ⟨⟨m.heap, c1⟩, nodes, hadds, htracks1, rfl, hfreed, fun k hk => ?_⟩
  obtain ⟨k, rfl⟩ := Nat.exists_eq_add_of_le' hk
  obtain ⟨heap2, c2, hreleases, hcount, hshrinks⟩ := htracks1.releases (k := k) m.heap hc1
  have hreturns : ∀ fuel, objs.length + 1 ≤ fuel →
      releases fuel array (k + 1) ⟨m.heap, c1⟩ = (.ret (), ⟨heap2, c2⟩) :=
    fun fuel hfuel => hreleases fuel (by omega)
  refine ⟨⟨heap2, c2⟩, hreturns, fun a => ?_, ?_, hshrinks.gone, hshrinks.tracks, ?_⟩
  · have hcopies : (objs.filterMap id).count a = objs.count (some a) := by
      rw [List.count_filterMap, List.count_eq_countP]
      simp only [id_eq]
    rw [hcount a, List.nil_append, hcopies]
  · rw [hshrinks.freed, hfreed]
  · exact h.round le_rfl (hadds _ le_rfl) hk (hreturns _ le_rfl)

/-- A function has zeroed its tracker, at address 0, and nothing else is allocated. -/
def Mem.zeroed (heap : Heap κ) : Mem κ :=
  ⟨heap, fun p => if p = 0 then some Node.zero else none, 1, []⟩

theorem Ready.zeroed (heap : Heap κ) : Ready 0 (Mem.zeroed heap) :=
  .zero rfl fun _ hp => if_neg (Nat.one_le_iff_ne_zero.mp hp)

end

/-- Seven adds, one of them of NULL and two of the same object, and two releases. -/
theorem objects_released_once_zeroed :
    let objs := [some 2, none, some 3, some 4, some 2, some 5, some 6]
    let m : Mem Unit := Mem.zeroed ⟨fun _ => 2, fun _ => (), 7⟩
    ∃ m1 m2, adds 8 0 objs m = (.ret objs, m1) ∧ releases 8 0 2 m1 = (.ret (), m2) ∧
      m2.heap.count 2 = 0 ∧ m2.heap.count 3 = 1 ∧ Ready 0 m2 := by
  intro objs m
  obtain ⟨m1, nodes, hadds, _, _, _, hreleases⟩ := objects_released_once (Ready.zeroed _) objs
  obtain ⟨m2, hreturns, hcount, _, _, _, hready⟩ := hreleases 2 (by omega)
  exact ⟨m1, m2, hadds 8 (by decide), hreturns 8 (by decide), hcount 2, hcount 3, hready⟩

end librabbitmq.tracker
