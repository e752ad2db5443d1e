-- The decoders over objects that are counted build what the decoders over values compute: the
-- new dict shows the value, every object under it is alive, and both crash on the same tables.
import Librabbitmq.Memory
import Librabbitmq.Metadata

namespace librabbitmq.memory

open references containers metadata

/-! ## What an object shows -/

mutual

/-- The object at `a` is the value, made of the objects `F`. -/
def Shows (h : Heap Obj) (F : Nat → Prop) : PyObj → Nat → Prop
  | .null, _ => False
  | .dict members, a => F a ∧ ∃ ms, h.contents a = .dict ms ∧ ShowsMembers h F members ms
  | .list items, a => F a ∧ ∃ slots, h.contents a = .list slots ∧ ShowsItems h F items slots
  | o, a => F a ∧ h.contents a = .plain o

def ShowsMembers (h : Heap Obj) (F : Nat → Prop) :
    PyMembers → List (PyStr × Nat × Nat) → Prop
  | [], ms => ms = []
  | (key, value) :: rest, ms => ∃ m ms', ms = m :: ms' ∧ key = .str m.1 ∧ F m.2.1 ∧
      h.contents m.2.1 = .plain (.str m.1) ∧ Shows h F value m.2.2 ∧ ShowsMembers h F rest ms'

/-- A slot that is NULL is one of the list, too. -/
def ShowsItems (h : Heap Obj) (F : Nat → Prop) : List PyObj → List (Option Nat) → Prop
  | [], slots => slots = []
  | item :: rest, slots => ∃ slot slots', slots = slot :: slots' ∧
      (item = .null ∧ slot = none ∨ ∃ a, slot = some a ∧ Shows h F item a) ∧
      ShowsItems h F rest slots'

end

section

variable {h h' : Heap Obj} {F G : Nat → Prop}

mutual

/-- Where the objects keep their contents, they show the same. -/
theorem Shows.mono (hsame : ∀ x, F x → G x ∧ h'.contents x = h.contents x) :
    ∀ {o : PyObj} {a : Nat}, Shows h F o a → Shows h' G o a
  | .null, _, hshows => hshows
  | .dict members, a, hshows => by
    obtain ⟨ha, ms, hms, hmembers⟩ := hshows
    exact ⟨(hsame a ha).1, ms, (hsame a ha).2.trans hms, hmembers.mono hsame⟩
  | .list items, a, hshows => by
    obtain ⟨ha, slots, hslots, hitems⟩ := hshows
    exact ⟨(hsame a ha).1, slots, (hsame a ha).2.trans hslots, hitems.mono hsame⟩
  | .none, a, hshows | .bool _, a, hshows | .int _, a, hshows | .float _, a, hshows
  | .str _, a, hshows | .bytes _, a, hshows | .tuple _, a, hshows | .other _, a, hshows =>
    ⟨(hsame a hshows.1).1, (hsame a hshows.1).2.trans hshows.2⟩

theorem ShowsMembers.mono (hsame : ∀ x, F x → G x ∧ h'.contents x = h.contents x) :
    ∀ {members : PyMembers} {ms : List (PyStr × Nat × Nat)}, ShowsMembers h F members ms →
      ShowsMembers h' G members ms
  | [], _, hmembers => hmembers
  | (_, _) :: _, _, hmembers => by
    obtain ⟨m, ms', rfl, hkey, hF, hcontents, hvalue, hrest⟩ := hmembers
    exact ⟨m, ms', rfl, hkey, (hsame _ hF).1, (hsame _ hF).2.trans hcontents, hvalue.mono hsame,
      hrest.mono hsame⟩

theorem ShowsItems.mono (hsame : ∀ x, F x → G x ∧ h'.contents x = h.contents x) :
    ∀ {items : List PyObj} {slots : List (Option Nat)}, ShowsItems h F items slots →
      ShowsItems h' G items slots
  | [], _, hitems => hitems
  | _ :: _, _, hitems => by
    obtain ⟨slot, slots', rfl, hslot, hrest⟩ := hitems
    refine ⟨slot, slots', rfl, ?_, hrest.mono hsame⟩
    rcases hslot with hnull | ⟨a, ha, hshows⟩
    · exact Or.inl hnull
    · exact Or.inr ⟨a, ha, hshows.mono hsame⟩

end

mutual

/-- What hangs on a live object is alive, where a live object keeps alive what it holds. -/
theorem Shows.alive (hheld : ∀ x y, h.Alive x → y ∈ (h.contents x).refs → h.Alive y) :
    ∀ {o : PyObj} {a : Nat}, Shows h F o a → h.Alive a → Shows h h.Alive o a
  | .null, _, hshows, _ => hshows.elim
  | .dict members, a, hshows, ha => by
    obtain ⟨-, ms, hms, hmembers⟩ := hshows
    refine ⟨ha, ms, hms, hmembers.alive hheld fun x hx => ?_⟩
    exact hheld a x ha (by rw [hms]; exact hx)
  | .list items, a, hshows, ha => by
    obtain ⟨-, slots, hslots, hitems⟩ := hshows
    refine ⟨ha, slots, hslots, hitems.alive hheld fun x hx => ?_⟩
    exact hheld a x ha (by rw [hslots]; exact List.reduceOption_mem_iff.mpr hx)
  | .none, _, hshows, ha | .bool _, _, hshows, ha | .int _, _, hshows, ha
  | .float _, _, hshows, ha | .str _, _, hshows, ha | .bytes _, _, hshows, ha
  | .tuple _, _, hshows, ha | .other _, _, hshows, ha => ⟨ha, hshows.2⟩

theorem ShowsMembers.alive (hheld : ∀ x y, h.Alive x → y ∈ (h.contents x).refs → h.Alive y) :
    ∀ {members : PyMembers} {ms : List (PyStr × Nat × Nat)}, ShowsMembers h F members ms →
      (∀ x ∈ memberRefs ms, h.Alive x) → ShowsMembers h h.Alive members ms
  | [], _, hmembers, _ => hmembers
  | (_, _) :: _, _, hmembers, hall => by
    obtain ⟨m, ms', rfl, hkey, -, hcontents, hvalue, hrest⟩ := hmembers
    have hrefs : memberRefs (m :: ms') = m.2.1 :: m.2.2 :: memberRefs ms' := rfl
    rw [hrefs] at hall
    exact ⟨m, ms', rfl, hkey, hall _ (by simp), hcontents,
      hvalue.alive hheld (hall _ (by simp)),
      hrest.alive hheld fun x hx => hall x (by simp [hx])⟩

theorem ShowsItems.alive (hheld : ∀ x y, h.Alive x → y ∈ (h.contents x).refs → h.Alive y) :
    ∀ {items : List PyObj} {slots : List (Option Nat)}, ShowsItems h F items slots →
      (∀ x, some x ∈ slots → h.Alive x) → ShowsItems h h.Alive items slots
  | [], _, hitems, _ => hitems
  | _ :: _, _, hitems, hall => by
    obtain ⟨slot, slots', rfl, hslot, hrest⟩ := hitems
    refine ⟨slot, slots', rfl, ?_, hrest.alive hheld fun x hx => hall x (by simp [hx])⟩
    rcases hslot with hnull | ⟨a, rfl, hshows⟩
    · exact Or.inl hnull
    · exact Or.inr ⟨a, rfl, hshows.alive hheld (hall a (by simp))⟩

end

end

/-- A live object keeps alive what it holds, whatever else is held from outside. -/
theorem Owes.holds {L : Nat → Int} {s : Memory} (hs : Owes L s) (hL : ∀ x, 0 ≤ L x) {x y : Nat}
    (hx : s.heap.Alive x) (hy : y ∈ (s.heap.contents x).refs) : s.heap.Alive y := by
  have hshare := share_le_total (fun k => (Obj.refs k).count y) (hs.closed.lt_of_alive hx)
  have hone : share (fun k => (Obj.refs k).count y) s.heap x = (s.heap.contents x).refs.count y :=
    if_pos hx
  have hpos := List.count_pos_iff.mpr hy
  have hloose := hs.loose y
  have := hL y
  unfold containers.loose held at hloose
  unfold Heap.Alive
  omega

theorem Owes.alive {L : Nat → Int} {s : Memory} (hs : Owes L s) {x : Nat} (hx : 1 ≤ L x) :
    s.heap.Alive x := by
  have hloose := hs.loose x
  unfold containers.loose at hloose
  unfold Heap.Alive
  omega

/-! ## The dict and the list -/

/-- The member of a dict that is set, in the objects and in the value. -/
theorem ShowsMembers.set {h : Heap Obj} {F : Nat → Prop} {members : PyMembers}
    {ms : List (PyStr × Nat × Nat)} (hmembers : ShowsMembers h F members ms) {k : PyStr}
    {key value : Nat} {o : PyObj} (hkey : F key) (hcontents : h.contents key = .plain (.str k))
    (hvalue : Shows h F o value) :
    ShowsMembers h F (Dict.set members (.str k) o) (setMember k key value ms).1 := by
  induction members generalizing ms with
  | nil =>
    cases hmembers
    exact ⟨_, [], rfl, rfl, hkey, hcontents, hvalue, rfl⟩
  | cons e members ih =>
    obtain ⟨m, ms', rfl, hk, hF, hold, hshows, hrest⟩ := hmembers
    unfold Dict.set setMember
    by_cases hsame : m.1 = k
    · rw [if_pos (by rw [hk, hsame]), if_pos hsame]
      exact ⟨_, ms', rfl, by rw [← hsame], hF, hold, hvalue, hrest⟩
    · rw [if_neg (by rw [hk]; simpa using hsame), if_neg hsame]
      exact ⟨m, _, rfl, hk, hF, hold, hshows, ih hrest⟩

theorem ShowsItems.snoc {h : Heap Obj} {F : Nat → Prop} {items : List PyObj}
    {slots : List (Option Nat)} (hitems : ShowsItems h F items slots) {o : PyObj}
    {slot : Option Nat} (hslot : o = .null ∧ slot = none ∨ ∃ a, slot = some a ∧ Shows h F o a) :
    ShowsItems h F (items ++ [o]) (slots ++ [slot]) := by
  induction items generalizing slots with
  | nil =>
    cases hitems
    exact ⟨slot, [], rfl, hslot, rfl⟩
  | cons item items ih =>
    obtain ⟨slot', slots', rfl, hold, hrest⟩ := hitems
    exact ⟨slot', _, rfl, hold, ih hrest⟩

/-! ## The primitives -/

section

variable {M : Nat → Int} {s : Memory} {a : Nat}

theorem incref_ret (ha : s.heap.Alive a) :
    Py_INCREF a s = (.ret (), { s with heap := s.heap.incref a }) := by
  unfold Py_INCREF
  rw [Run.get_bind_apply, if_pos ha]
  rfl

theorem decref_ret (ha : a < s.heap.next) :
    Py_DECREF a s = (.ret (), { s with heap := drop Obj.refs s.heap a }) := by
  unfold Py_DECREF
  rw [Run.get_bind_apply, if_pos ha]
  rfl

theorem set_ret {k : Obj} (ha : s.heap.Alive a) (hk : ∀ x ∈ k.refs, x < s.heap.next) :
    PyObject_Set a k s = (.ret (), { s with heap := replace s.heap a k }) := by
  unfold PyObject_Set
  rw [Run.get_bind_apply, if_pos ⟨ha, hk⟩]
  rfl

theorem decref_same (ha : a < s.heap.next) : ∃ s', Py_DECREF a s = (.ret (), s') ∧
    s'.heap.next = s.heap.next ∧ s'.heap.contents = s.heap.contents :=
  ⟨_, decref_ret ha, release_same _ _ _⟩

/-- A run that returns, with these contents of the objects, and with the references `M'`. -/
structure Done (x : Run Memory Unit) (M' : Nat → Int) (s : Memory) (contents : Nat → Obj)
    (s' : Memory) : Prop where
  run : x s = (.ret (), s')
  owes : Owes M' s'
  next : s'.heap.next = s.heap.next
  contents : s'.heap.contents = contents

/-- A release of what was given out. -/
theorem decref_done (hs : Owes M s) (ha : a < s.heap.next) :
    ∃ s', Done (Py_DECREF a) (M - one a) s s.heap.contents s' := by
  obtain ⟨s', hrun, hnext, hcontents⟩ := decref_same ha
  obtain ⟨-, hpost⟩ := owns_decref a (hs.congr (add_zero M).symm) hrun
  exact ⟨s', hrun, hpost.congr (by rw [zero_sub, sub_eq_add_neg]), hnext, hcontents⟩

theorem setMember_mem {k : PyStr} {key value x : Nat} : ∀ {members : List (PyStr × Nat × Nat)},
    x ∈ memberRefs (setMember k key value members).1 →
      x ∈ memberRefs members ∨ x = key ∨ x = value
  | [], hx => by
    have hrefs : x ∈ [key, value] := hx
    simp only [List.mem_cons, List.not_mem_nil, or_false] at hrefs
    exact Or.inr hrefs
  | m :: members, hx => by
    have hcons : ∀ (m : PyStr × Nat × Nat) ms, memberRefs (m :: ms) =
        m.2.1 :: m.2.2 :: memberRefs ms := fun _ _ => rfl
    unfold setMember at hx
    rw [hcons]
    by_cases hk : m.1 = k
    · rw [if_pos hk, hcons] at hx
      simp only [List.mem_cons] at hx ⊢
      tauto
    · rw [if_neg hk, hcons] at hx
      have hrest := @setMember_mem k key value x members
      simp only [List.mem_cons] at hx ⊢
      tauto

theorem setMember_old {k : PyStr} {key value x : Nat} : ∀ {members : List (PyStr × Nat × Nat)},
    (setMember k key value members).2 = some x → x ∈ memberRefs members
  | [], hx => by cases hx
  | m :: members, hx => by
    have hcons : memberRefs (m :: members) = m.2.1 :: m.2.2 :: memberRefs members := rfl
    unfold setMember at hx
    rw [hcons]
    by_cases hk : m.1 = k
    · rw [if_pos hk] at hx
      cases hx
      simp
    · rw [if_neg hk] at hx
      simp [setMember_old hx]

/-- A key and a value that are held come into a dict that is held. -/
theorem setItem_done {dict key value : Nat} {members : List (PyStr × Nat × Nat)} {k : PyStr}
    (hs : Owes M s) (hdict : s.heap.Alive dict) (hkey : s.heap.Alive key)
    (hvalue : s.heap.Alive value) (hmembers : s.heap.contents dict = .dict members)
    (hk : s.heap.contents key = .plain (.str k)) :
    ∃ s', Done (PyDict_SetItem dict (some key) (some value)) M s
      (Function.update s.heap.contents dict (.dict (setMember k key value members).1)) s' := by
  have halive : ∀ {x y : Nat} {h : Heap Obj}, h.Alive x → (h.incref y).Alive x := by
    intro x y h hx
    unfold Heap.Alive at hx ⊢
    rw [Heap.incref_count]
    split <;> omega
  have hvalue' : (s.heap.incref key).Alive value := halive hvalue
  have hdict' : ((s.heap.incref key).incref value).Alive dict := halive (halive hdict)
  have hgiven : ∀ x ∈ memberRefs members, x < s.heap.next := by
    intro x hx
    refine hs.closed.lt_of_mem hdict ?_
    rw [hmembers]
    exact hx
  have hrefs : ∀ x ∈ (Obj.dict (setMember k key value members).1).refs,
      x < ((s.heap.incref key).incref value).next := by
    intro x hx
    rcases setMember_mem hx with hx | rfl | rfl
    · exact hgiven x hx
    · exact hs.closed.lt_of_alive hkey
    · exact hs.closed.lt_of_alive hvalue
  have hold : ((s.heap.incref key).incref value).contents dict = .dict members := hmembers
  have hset : PyObject_Set dict (.dict (setMember k key value members).1)
      ⟨(s.heap.incref key).incref value, s.array⟩ = (.ret (),
        ⟨replace ((s.heap.incref key).incref value) dict
          (.dict (setMember k key value members).1), s.array⟩) := set_ret hdict' hrefs
  -- what the partial specification says of the references
  have howes : ∀ {s'}, PyDict_SetItem dict (some key) (some value) s = (.ret (), s') →
      Owes M s' := by
    intro s' hrun
    obtain ⟨-, hpost⟩ := owns_setItem dict _ _ (hs.congr (add_zero M).symm) hrun
    exact hpost.congr (add_zero M)
  cases hsecond : (setMember k key value members).2 with
  | none =>
    have hrun : PyDict_SetItem dict (some key) (some value) s = (.ret (),
        ⟨replace ((s.heap.incref key).incref value) dict
          (.dict (setMember k key value members).1), s.array⟩) := by
      rw [PyDict_SetItem, Run.get_bind_apply, hmembers, hk]
      dsimp only
      rw [Run.bind_ret (incref_ret hkey), Run.bind_ret (incref_ret hvalue'), Run.bind_ret hset,
        hsecond]
      rfl
    exact ⟨_, hrun, howes hrun, rfl, rfl⟩
  | some old =>
    -- the value that was there is released, and the second reference to the key
    have hlt : old < s.heap.next := hgiven old (setMember_old hsecond)
    obtain ⟨s4, h4, hnext4, hcontents4⟩ := decref_same (s := ⟨replace ((s.heap.incref key).incref
      value) dict (.dict (setMember k key value members).1), s.array⟩) hlt
    obtain ⟨s5, h5, hnext5, hcontents5⟩ := decref_same (s := s4) (a := key)
      (hnext4.symm ▸ hs.closed.lt_of_alive hkey)
    have hrun : PyDict_SetItem dict (some key) (some value) s = (.ret (), s5) := by
      rw [PyDict_SetItem, Run.get_bind_apply, hmembers, hk]
      dsimp only
      rw [Run.bind_ret (incref_ret hkey), Run.bind_ret (incref_ret hvalue'), Run.bind_ret hset,
        hsecond]
      dsimp only
      rw [Run.bind_ret h4]
      exact h5
    exact ⟨s5, hrun, howes hrun, hnext5.trans hnext4, hcontents5.trans hcontents4⟩

theorem setKv_done {dict key value : Nat} {members : List (PyStr × Nat × Nat)} {k : PyStr}
    (hs : Owes M s) (hdict : s.heap.Alive dict) (hkey : s.heap.Alive key)
    (hvalue : s.heap.Alive value) (hmembers : s.heap.contents dict = .dict members)
    (hk : s.heap.contents key = .plain (.str k)) :
    ∃ s', Done (PyDICT_SETKV_DECREF dict (some key) (some value)) (M - one key - one value) s
      (Function.update s.heap.contents dict (.dict (setMember k key value members).1)) s' := by
  obtain ⟨s1, h1⟩ := setItem_done hs hdict hkey hvalue hmembers hk
  obtain ⟨s2, h2⟩ := decref_done h1.owes (h1.next.symm ▸ hs.closed.lt_of_alive hkey)
  obtain ⟨s3, h3⟩ :=
    decref_done h2.owes (h2.next.symm ▸ h1.next.symm ▸ hs.closed.lt_of_alive hvalue)
  refine ⟨s3, ?_, h3.owes, h3.next.trans (h2.next.trans h1.next),
    h3.contents.trans (h2.contents.trans h1.contents)⟩
  unfold PyDICT_SETKV_DECREF
  rw [Run.bind_ret h1.run, Py_XDECREF, Run.bind_ret h2.run]
  exact h3.run

theorem setNone_done (st : Statics) {dict key : Nat} {members : List (PyStr × Nat × Nat)}
    {k : PyStr} (hs : Owes M s) (hdict : s.heap.Alive dict) (hkey : s.heap.Alive key)
    (hnone : s.heap.Alive st.Py_None) (hmembers : s.heap.contents dict = .dict members)
    (hk : s.heap.contents key = .plain (.str k)) :
    ∃ s', Done (PyDICT_SETNONE_DECREF st dict (some key)) (M - one key) s
      (Function.update s.heap.contents dict (.dict (setMember k key st.Py_None members).1)) s' := by
  obtain ⟨s1, h1⟩ := setItem_done hs hdict hkey hnone hmembers hk
  obtain ⟨s2, h2⟩ := decref_done h1.owes (h1.next.symm ▸ hs.closed.lt_of_alive hkey)
  refine ⟨s2, ?_, h2.owes, h2.next.trans h1.next, h2.contents.trans h1.contents⟩
  unfold PyDICT_SETNONE_DECREF
  rw [Run.bind_ret h1.run, Py_XDECREF]
  exact h2.run

theorem setSlot_done {list : Nat} {items : List (Option Nat)} (value : Option Nat)
    (hs : Owes M s) (hlist : s.heap.Alive list) (hvalue : ∀ a, value = some a → s.heap.Alive a)
    (hitems : s.heap.contents list = .list items) :
    ∃ s', Done (PyList_SET_ITEM list value) (M - owned value) s
      (Function.update s.heap.contents list (.list (items ++ [value]))) s' := by
  have hrefs : ∀ x ∈ (Obj.list (items ++ [value])).refs, x < s.heap.next := by
    intro x hx
    have hmem : some x ∈ items ++ [value] := List.reduceOption_mem_iff.mp hx
    rcases List.mem_append.mp hmem with hx | hx
    · refine hs.closed.lt_of_mem hlist ?_
      rw [hitems]
      exact List.reduceOption_mem_iff.mpr hx
    · exact hs.closed.lt_of_alive (hvalue x (List.mem_singleton.mp hx).symm)
  have hrun : PyList_SET_ITEM list value s =
      (.ret (), ⟨replace s.heap list (.list (items ++ [value])), s.array⟩) := by
    rw [PyList_SET_ITEM, Run.get_bind_apply, hitems]
    exact set_ret hlist hrefs
  obtain ⟨-, hpost⟩ := owns_setSlot list value (hs.congr (add_zero M).symm) hrun
  exact ⟨_, hrun, hpost.congr (by rw [zero_sub, sub_eq_add_neg]), rfl, rfl⟩

theorem new_owes {k : Obj} (hs : Owes M s) (hk : k.refs = []) :
    Owes (M + one s.heap.next) ⟨s.heap.alloc k, s.array⟩ := by
  obtain ⟨-, hpost⟩ := owns_new hk (hs.congr (add_zero M).symm)
    (show PyObject_New k s = (.ret s.heap.next, ⟨s.heap.alloc k, s.array⟩) from rfl)
  exact hpost.congr (congrArg (M + ·) (zero_add _))

end

/-! ## The two decoders -/

/-- A run over counted objects does what a function over values computes. -/
def Simulates {α β : Type} (o : Outcome (β × Option PyErr)) (r : Outcome α × Memory)
    (R : β → α → Memory → Prop) : Prop :=
  match o with
  | .ret (b, _) => ∃ a s', r = (.ret a, s') ∧ R b a s'
  | .crash => ∃ s', r = (.crash, s')
  | .hang => False

theorem Simulates.bind {α β γ δ : Type} {o : Outcome (β × Option PyErr)} {x : Run Memory α}
    {s : Memory} {R : β → α → Memory → Prop} {f : β × Option PyErr → Outcome (γ × Option PyErr)}
    {g : α → Run Memory δ} {S : γ → δ → Memory → Prop} (hx : Simulates o (x s) R)
    (hf : ∀ b err a s', R b a s' → Simulates (f (b, err)) (g a s') S) :
    Simulates (o >>= f) ((x >>= g) s) S := by
  cases o with
  | ret r =>
    obtain ⟨b, err⟩ := r
    obtain ⟨a, s', hrun, hr⟩ := hx
    rw [Run.bind_ret hrun]
    exact hf b err a s' hr
  | crash =>
    obtain ⟨s', hrun⟩ := hx
    exact ⟨s', Run.bind_crash hrun⟩
  | hang => exact hx.elim

theorem Simulates.imp {α β : Type} {o : Outcome (β × Option PyErr)} {r : Outcome α × Memory}
    {R S : β → α → Memory → Prop} (h : Simulates o r R) (hRS : ∀ b a s, R b a s → S b a s) :
    Simulates o r S := by
  cases o with
  | ret _ =>
    obtain ⟨a, s', hrun, hr⟩ := h
    exact ⟨a, s', hrun, hRS _ _ _ hr⟩
  | crash => exact h
  | hang => exact h

/-- Objects are added, and of the old ones only `D` get other contents. -/
structure Beyond (D : Nat → Prop) (s s' : Memory) : Prop where
  next_le : s.heap.next ≤ s'.heap.next
  same : ∀ x < s.heap.next, ¬ D x → s'.heap.contents x = s.heap.contents x

/-- `M` are the references that are held, those to the three objects of the interpreter among
them. -/
structure Stands (st : Statics) (M : Nat → Int) (s : Memory) : Prop where
  owes : Owes M s
  nonneg : ∀ x, 0 ≤ M x
  Py_None : 1 ≤ M st.Py_None ∧ s.heap.contents st.Py_None = .plain .none
  Py_True : 1 ≤ M st.Py_True ∧ s.heap.contents st.Py_True = .plain (.bool true)
  Py_False : 1 ≤ M st.Py_False ∧ s.heap.contents st.Py_False = .plain (.bool false)

/-- The objects of a value: those of the interpreter, and those made from `lo` on before `hi`. -/
def Made (st : Statics) (lo hi : Nat) (x : Nat) : Prop :=
  x = st.Py_None ∨ x = st.Py_True ∨ x = st.Py_False ∨ lo ≤ x ∧ x < hi

section

variable {st : Statics} {M M' : Nat → Int} {s s' s'' : Memory} {D : Nat → Prop} {lo lo' hi hi' : Nat}

theorem Beyond.trans (h : Beyond D s s') (h' : Beyond D s' s'') : Beyond D s s'' := by
  refine ⟨h.next_le.trans h'.next_le, fun x hx hnot => ?_⟩
  exact (h'.same x (hx.trans_le h.next_le) hnot).trans (h.same x hx hnot)

/-- Only new objects get contents. -/
abbrev Nothing : Nat → Prop := fun _ => False

theorem Beyond.weaken (h : Beyond Nothing s s') : Beyond D s s' :=
  ⟨h.next_le, fun x hx _ => h.same x hx id⟩

theorem Stands.beyond (h : Stands st M s) (hb : Beyond D s s') (howes : Owes M' s')
    (hle : ∀ x, M x ≤ M' x) (hD : ∀ x o, D x → s.heap.contents x ≠ .plain o) : Stands st M' s' := by
  have hkept : ∀ {x : Nat} {o : PyObj}, 1 ≤ M x ∧ s.heap.contents x = .plain o →
      1 ≤ M' x ∧ s'.heap.contents x = .plain o := by
    rintro x o ⟨hx, ho⟩
    have hlt := h.owes.closed.lt_of_alive (h.owes.alive hx)
    exact ⟨hx.trans (hle x), (hb.same x hlt fun hd => hD x o hd ho).trans ho⟩
  exact ⟨howes, fun x => (h.nonneg x).trans (hle x), hkept h.Py_None, hkept h.Py_True,
    hkept h.Py_False⟩

theorem Made.mono {x : Nat} (h : Made st lo hi x) (hlo : lo' ≤ lo) (hhi : hi ≤ hi') :
    Made st lo' hi' x := by
  unfold Made at h ⊢
  omega

theorem Made.lt {x : Nat} (h : Made st lo s.heap.next x) (hst : Stands st M s) :
    x < s.heap.next := by
  have hnone := hst.owes.closed.lt_of_alive (hst.owes.alive hst.Py_None.1)
  have htrue := hst.owes.closed.lt_of_alive (hst.owes.alive hst.Py_True.1)
  have hfalse := hst.owes.closed.lt_of_alive (hst.owes.alive hst.Py_False.1)
  unfold Made at h
  omega

/-- An object of the interpreter or a later one is no older container. -/
theorem Made.ne {x dict : Nat} (h : Made st lo hi x) (hst : Stands st M s) (hlt : dict < lo)
    (hdict : ∀ o, s.heap.contents dict ≠ .plain o) : x ≠ dict := by
  rintro rfl
  rcases h with rfl | rfl | rfl | h
  · exact hdict _ hst.Py_None.2
  · exact hdict _ hst.Py_True.2
  · exact hdict _ hst.Py_False.2
  · omega

/-- A new object for the value `o`. -/
structure Built (st : Statics) (M : Nat → Int) (s : Memory) (o : PyObj) (a : Nat) (s' : Memory) :
    Prop where
  owes : Owes (M + one a) s'
  beyond : Beyond Nothing s s'
  shows : Shows s'.heap (Made st s.heap.next s'.heap.next) o a

/-- An object for the value, or NULL for a value of `N`. -/
inductive Valued (N : PyObj → Prop) (st : Statics) (M : Nat → Int) (s : Memory) :
    PyObj → Option Nat → Memory → Prop
  | some {o : PyObj} {a : Nat} {s' : Memory} : Built st M s o a s' →
      Valued N st M s o (some a) s'
  | none {o : PyObj} {s' : Memory} : N o → Owes M s' → Beyond Nothing s s' →
      Valued N st M s o none s'

/-- The dict or the list `box` shows the value, of objects made after it. -/
def Inside (st : Statics) (box : Nat) (h : Heap Obj) : PyObj → Prop
  | .dict members => ∃ ms, h.contents box = .dict ms ∧
      ShowsMembers h (Made st (box + 1) h.next) members ms
  | .list items => ∃ slots, h.contents box = .list slots ∧
      ShowsItems h (Made st (box + 1) h.next) items slots
  | _ => False

/-- The container is held and shows the value. -/
structure Opened (st : Statics) (M : Nat → Int) (box : Nat) (o : PyObj) (s : Memory) : Prop where
  stands : Stands st M s
  pinned : 1 ≤ M box
  inside : Inside st box s.heap o

/-- The container has come to show the value. -/
structure Grown (st : Statics) (M : Nat → Int) (box : Nat) (s : Memory) (o : PyObj) (s' : Memory) :
    Prop where
  owes : Owes M s'
  beyond : Beyond (· = box) s s'
  inside : Inside st box s'.heap o

theorem Inside.not_plain {box : Nat} {h : Heap Obj} {o : PyObj} (hin : Inside st box h o)
    (o' : PyObj) : h.contents box ≠ .plain o' := by
  cases o with
  | dict members =>
    obtain ⟨ms, hms, -⟩ := hin
    rw [hms]
    exact fun hplain => by cases hplain
  | list items =>
    obtain ⟨slots, hslots, -⟩ := hin
    rw [hslots]
    exact fun hplain => by cases hplain
  | _ => exact hin.elim

theorem Inside.mono {box : Nat} {h h' : Heap Obj} {o : PyObj} (hin : Inside st box h o)
    (hbox : h'.contents box = h.contents box) (hnext : h.next ≤ h'.next)
    (hsame : ∀ x, Made st (box + 1) h.next x → h'.contents x = h.contents x) :
    Inside st box h' o := by
  have hmade : ∀ x, Made st (box + 1) h.next x →
      Made st (box + 1) h'.next x ∧ h'.contents x = h.contents x :=
    fun x hx => ⟨hx.mono le_rfl hnext, hsame x hx⟩
  cases o with
  | dict members =>
    obtain ⟨ms, hms, hmembers⟩ := hin
    exact ⟨ms, hbox.trans hms, hmembers.mono hmade⟩
  | list items =>
    obtain ⟨slots, hslots, hitems⟩ := hin
    exact ⟨slots, hbox.trans hslots, hitems.mono hmade⟩
  | _ => exact hin.elim

theorem Opened.lt {box : Nat} {o : PyObj} (hopened : Opened st M box o s) : box < s.heap.next :=
  hopened.stands.owes.closed.lt_of_alive (hopened.stands.owes.alive hopened.pinned)

/-- New objects leave the container alone. -/
theorem Opened.later {box : Nat} {o : PyObj} (hopened : Opened st M box o s)
    (hb : Beyond Nothing s s') (howes : Owes M' s') (hle : ∀ x, M x ≤ M' x) :
    Opened st M' box o s' := by
  refine ⟨hopened.stands.beyond hb howes hle fun _ _ hno => hno.elim,
    hopened.pinned.trans (hle box), ?_⟩
  exact hopened.inside.mono (hb.same _ hopened.lt id) hb.next_le
    fun x hx => hb.same x (hx.lt hopened.stands) id

theorem Opened.grown {box : Nat} {o o' : PyObj} (hopened : Opened st M box o s)
    (hgrown : Grown st M box s o' s') : Opened st M box o' s' := by
  refine ⟨hopened.stands.beyond hgrown.beyond hgrown.owes (fun _ => le_rfl) ?_, hopened.pinned,
    hgrown.inside⟩
  rintro x o rfl
  exact hopened.inside.not_plain o

theorem Grown.trans {box : Nat} {o o' : PyObj} (h : Grown st M' box s o s')
    (h' : Grown st M box s' o' s'') : Grown st M box s o' s'' :=
  ⟨h'.owes, h.beyond.trans h'.beyond, h'.inside⟩

theorem Grown.since {box : Nat} {o : PyObj} (h : Grown st M box s' o s'')
    (hb : Beyond Nothing s s') : Grown st M box s o s'' :=
  ⟨h.owes, hb.weaken.trans h.beyond, h.inside⟩

theorem new_beyond (k : Obj) : Beyond Nothing s ⟨s.heap.alloc k, s.array⟩ :=
  ⟨Nat.le_succ _, fun _ hx _ => Heap.alloc_contents_ne _ _ (Nat.ne_of_lt hx)⟩

/-- A new object that holds nothing. -/
theorem plain_builds {N : PyObj → Prop} (hst : Stands st M s) {o : PyObj}
    (hplain : ∀ h F a, F a ∧ h.contents a = .plain o → Shows h F o a) (err : Option PyErr) :
    Simulates (.ret (o, err)) ((some <$> PyObject_New (.plain o)) s)
      (Valued N st M s) := by
  refine ⟨some s.heap.next, ⟨s.heap.alloc (.plain o), s.array⟩, rfl, .some ⟨?_, ?_, ?_⟩⟩
  · exact new_owes hst.owes rfl
  · exact new_beyond _
  · refine hplain _ _ _ ⟨Or.inr (Or.inr (Or.inr ⟨le_rfl, Nat.lt_succ_self _⟩)), ?_⟩
    exact Heap.alloc_contents_self _ _

/-- A reference to one of the objects of the interpreter. -/
theorem static_built (hst : Stands st M s) {o : PyObj} {a : Nat}
    (ha : 1 ≤ M a ∧ s.heap.contents a = .plain o)
    (hone : a = st.Py_None ∨ a = st.Py_True ∨ a = st.Py_False)
    (hplain : ∀ h F a, F a ∧ h.contents a = .plain o → Shows h F o a) :
    ∃ s', Py_INCREF a s = (.ret (), s') ∧ Built st M s o a s' := by
  have hrun := incref_ret (hst.owes.alive ha.1)
  refine ⟨_, hrun, ?_, ⟨le_rfl, fun _ _ _ => rfl⟩, hplain _ _ _ ⟨?_, ha.2⟩⟩
  · obtain ⟨-, hpost⟩ := owns_incref a (hst.owes.congr (add_zero M).symm) hrun
    exact hpost.congr (congrArg (M + ·) (zero_add _))
  · unfold Made
    tauto

theorem bool_builds {N : PyObj → Prop} (hst : Stands st M s) (b : Bool) (err : Option PyErr) :
    Simulates (.ret (.bool b, err)) ((some <$> PyBool_FromLong st b) s) (Valued N st M s) := by
  cases b with
  | true =>
    obtain ⟨s', hrun, hbuilt⟩ := static_built hst hst.Py_True (Or.inr (Or.inl rfl))
      fun _ _ _ h => h
    exact ⟨some st.Py_True, s', Run.bind_ret (Run.bind_ret hrun), .some hbuilt⟩
  | false =>
    obtain ⟨s', hrun, hbuilt⟩ := static_built hst hst.Py_False (Or.inr (Or.inr rfl))
      fun _ _ _ h => h
    exact ⟨some st.Py_False, s', Run.bind_ret (Run.bind_ret hrun), .some hbuilt⟩

theorem none_builds {N : PyObj → Prop} (hst : Stands st M s) (err : Option PyErr) :
    Simulates (.ret (.none, err))
      ((do Py_INCREF st.Py_None; return some st.Py_None) s) (Valued N st M s) := by
  obtain ⟨s', hrun, hbuilt⟩ := static_built hst hst.Py_None (Or.inl rfl) fun _ _ _ h => h
  exact ⟨some st.Py_None, s', Run.bind_ret hrun, .some hbuilt⟩

/-- A string, or NULL. -/
theorem string_builds {N : PyObj → Prop} (hst : Stands st M s) (hN : N .null) (b : Octets)
    (err : Option PyErr) :
    Simulates (.ret (librabbitmq.PySTRING_FROM_AMQBYTES b err)) (PySTRING_FROM_AMQBYTES b s)
      (Valued N st M s) := by
  unfold librabbitmq.PySTRING_FROM_AMQBYTES PyUnicode_FromStringAndSize PySTRING_FROM_AMQBYTES
  cases utf8Decode b with
  | some text => exact plain_builds (o := .str text) hst (fun _ _ _ h => h) err
  | none => exact ⟨none, s, rfl, .none hN hst.owes ⟨le_rfl, fun _ _ _ => rfl⟩⟩

/-- What was there stays when the container gets other contents. -/
theorem Opened.kept {box : Nat} {o : PyObj} (hopened : Opened st M box o s) {x : Nat}
    (hx : Made st (box + 1) s.heap.next x) {k : Obj}
    (hcontents : s'.heap.contents = Function.update s.heap.contents box k) :
    s'.heap.contents x = s.heap.contents x := by
  rw [hcontents, Function.update_of_ne]
  exact hx.ne hopened.stands (Nat.lt_succ_self box) hopened.inside.not_plain

/-- One entry more: the key and the value come into the dict. -/
theorem Opened.entry {dict key value : Nat} {d : PyMembers} {ms : List (PyStr × Nat × Nat)}
    {k : PyStr} {o : PyObj} (hopened : Opened st M dict (.dict d) s)
    (hms : s.heap.contents dict = .dict ms) (hkey : Made st (dict + 1) s.heap.next key)
    (hk : s.heap.contents key = .plain (.str k))
    (hvalue : Shows s.heap (Made st (dict + 1) s.heap.next) o value) {x : Run Memory Unit}
    (hdone : Done x M' s
      (Function.update s.heap.contents dict (.dict (setMember k key value ms).1)) s') :
    Grown st M' dict s (.dict (Dict.set d (.str k) o)) s' := by
  obtain ⟨ms', hms', hmembers⟩ := hopened.inside
  obtain rfl : ms = ms' := by rw [hms] at hms'; cases hms'; rfl
  refine ⟨hdone.owes, ⟨hdone.next.ge, fun x _ hx => ?_⟩, (setMember k key value ms).1, ?_, ?_⟩
  · rw [hdone.contents, Function.update_of_ne hx]
  · rw [hdone.contents, Function.update_self]
  · refine (hmembers.set hkey hk hvalue).mono fun x hx => ⟨hx.mono le_rfl hdone.next.ge, ?_⟩
    exact hopened.kept hx hdone.contents

/-- One slot more. -/
theorem Opened.slot {list : Nat} {l : List PyObj} {slots : List (Option Nat)} {o : PyObj}
    {slot : Option Nat} (hopened : Opened st M list (.list l) s)
    (hslots : s.heap.contents list = .list slots)
    (hslot : o = .null ∧ slot = none ∨
      ∃ a, slot = some a ∧ Shows s.heap (Made st (list + 1) s.heap.next) o a)
    {x : Run Memory Unit}
    (hdone : Done x M' s (Function.update s.heap.contents list (.list (slots ++ [slot]))) s') :
    Grown st M' list s (.list (l ++ [o])) s' := by
  obtain ⟨slots', hslots', hitems⟩ := hopened.inside
  obtain rfl : slots = slots' := by rw [hslots] at hslots'; cases hslots'; rfl
  refine ⟨hdone.owes, ⟨hdone.next.ge, fun x _ hx => ?_⟩, slots ++ [slot], ?_, ?_⟩
  · rw [hdone.contents, Function.update_of_ne hx]
  · rw [hdone.contents, Function.update_self]
  · refine (hitems.snoc hslot).mono fun x hx => ⟨hx.mono le_rfl hdone.next.ge, ?_⟩
    exact hopened.kept hx hdone.contents

theorem one_self (a : Nat) : one a a = 1 := if_pos rfl

theorem le_add_one (M : Nat → Int) (a x : Nat) : M x ≤ (M + one a) x := by
  have := one_nonneg a x
  rw [Pi.add_apply]
  omega

/-- The key of an entry, made while the value waits. -/
theorem Opened.key {box : Nat} {o : PyObj} (hopened : Opened st M box o s) (k : PyStr) :
    Opened st (M + one s.heap.next) box o ⟨s.heap.alloc (.plain (.str k)), s.array⟩ :=
  hopened.later (new_beyond _) (new_owes hopened.stands.owes rfl) (le_add_one M _)

theorem Opened.entry_none {dict : Nat} {d : PyMembers} (hopened : Opened st M dict (.dict d) s)
    (k : PyStr) : ∃ s', PyDICT_SETNONE_DECREF st dict (some s.heap.next)
        ⟨s.heap.alloc (.plain (.str k)), s.array⟩ = (.ret (), s') ∧
      Grown st M dict s (.dict (Dict.set d (.str k) .none)) s' := by
  have hkeyed := hopened.key k
  obtain ⟨ms, hms, -⟩ := hkeyed.inside
  have hone : 1 ≤ (M + one s.heap.next) s.heap.next := by
    have := hopened.stands.nonneg s.heap.next
    rw [Pi.add_apply, one_self]
    omega
  have hk : (s.heap.alloc (.plain (.str k))).contents s.heap.next = .plain (.str k) :=
    Heap.alloc_contents_self _ _
  obtain ⟨s', hdone⟩ := setNone_done st hkeyed.stands.owes
    (hkeyed.stands.owes.alive hkeyed.pinned) (hkeyed.stands.owes.alive hone)
    (hkeyed.stands.owes.alive hkeyed.stands.Py_None.1) hms hk
  have hgrown := hkeyed.entry hms (Or.inr (Or.inr (Or.inr ⟨hopened.lt, Nat.lt_succ_self _⟩))) hk
    (o := .none) ⟨Or.inl rfl, hkeyed.stands.Py_None.2⟩ hdone
  refine ⟨s', hdone.run, ?_⟩
  have hback : M + one s.heap.next - one s.heap.next = M := add_sub_cancel_right _ _
  exact (hback ▸ hgrown).since (new_beyond _)

theorem Opened.entry_some {dict value : Nat} {d : PyMembers}
    (hopened : Opened st (M + one value) dict (.dict d) s) {o : PyObj}
    (hvalue : Shows s.heap (Made st (dict + 1) s.heap.next) o value)
    (hnonneg : ∀ x, 0 ≤ M x) (k : PyStr) :
    ∃ s', PyDICT_SETKV_DECREF dict (some s.heap.next) (some value)
        ⟨s.heap.alloc (.plain (.str k)), s.array⟩ = (.ret (), s') ∧
      Grown st M dict s (.dict (Dict.set d (.str k) o)) s' := by
  have hkeyed := hopened.key k
  obtain ⟨ms, hms, -⟩ := hkeyed.inside
  have hone : 1 ≤ (M + one value + one s.heap.next) s.heap.next := by
    have := hopened.stands.nonneg s.heap.next
    rw [Pi.add_apply, one_self]
    omega
  have hheld : 1 ≤ (M + one value + one s.heap.next) value := by
    have := hnonneg value
    have := one_nonneg s.heap.next value
    rw [Pi.add_apply, Pi.add_apply, one_self]
    omega
  have hk : (s.heap.alloc (.plain (.str k))).contents s.heap.next = .plain (.str k) :=
    Heap.alloc_contents_self _ _
  obtain ⟨s', hdone⟩ := setKv_done hkeyed.stands.owes
    (hkeyed.stands.owes.alive hkeyed.pinned) (hkeyed.stands.owes.alive hone)
    (hkeyed.stands.owes.alive hheld) hms hk
  have hshows : Shows (s.heap.alloc (.plain (.str k))) (Made st (dict + 1) (s.heap.next + 1)) o
      value := by
    refine hvalue.mono fun x hx => ⟨hx.mono le_rfl (Nat.le_succ _), ?_⟩
    exact Heap.alloc_contents_ne _ _ (hx.lt hopened.stands).ne
  have hgrown := hkeyed.entry hms (Or.inr (Or.inr (Or.inr ⟨hopened.lt, Nat.lt_succ_self _⟩))) hk
    hshows hdone
  refine ⟨s', hdone.run, ?_⟩
  have hback : M + one value + one s.heap.next - one s.heap.next - one value = M := by abel
  exact (hback ▸ hgrown).since (new_beyond _)

/-- A container that was made for the value is an object for it. -/
theorem Grown.built {k : Obj} {o : PyObj}
    (hgrown : Grown st (M + one s.heap.next) s.heap.next ⟨s.heap.alloc k, s.array⟩ o s') :
    Built st M s o s.heap.next s' := by
  have hlt : s.heap.next < s'.heap.next := hgrown.beyond.next_le
  have hmade : ∀ x, Made st (s.heap.next + 1) s'.heap.next x →
      Made st s.heap.next s'.heap.next x ∧ s'.heap.contents x = s'.heap.contents x :=
    fun x hx => ⟨hx.mono (Nat.le_succ _) le_rfl, rfl⟩
  have hself : Made st s.heap.next s'.heap.next s.heap.next :=
    Or.inr (Or.inr (Or.inr ⟨le_rfl, hlt⟩))
  refine ⟨hgrown.owes, ⟨hlt.le, fun x hx _ => ?_⟩, ?_⟩
  · exact (hgrown.beyond.same x (Nat.lt_succ_of_lt hx) hx.ne).trans
      (Heap.alloc_contents_ne _ _ hx.ne)
  · have hinside := hgrown.inside
    cases o with
    | dict members =>
      obtain ⟨ms, hms, hmembers⟩ := hinside
      exact ⟨hself, ms, hms, hmembers.mono hmade⟩
    | list items =>
      obtain ⟨slots, hslots, hitems⟩ := hinside
      exact ⟨hself, slots, hslots, hitems.mono hmade⟩
    | _ => exact hinside.elim

/-- A new container is empty. -/
theorem Stands.opened {k : Obj} {o : PyObj} (hst : Stands st M s) (hk : k.refs = [])
    (hin : Inside st s.heap.next (s.heap.alloc k) o) :
    Opened st (M + one s.heap.next) s.heap.next o ⟨s.heap.alloc k, s.array⟩ := by
  refine ⟨hst.beyond (new_beyond k) (new_owes hst.owes hk) (le_add_one M _)
    (fun _ _ hno => hno.elim), ?_, hin⟩
  have := hst.nonneg s.heap.next
  rw [Pi.add_apply, one_self]
  omega

theorem newDict_run (s : Memory) :
    PyDict_New s = (.ret s.heap.next, ⟨s.heap.alloc (.dict []), s.array⟩) := rfl

theorem newList_run (s : Memory) :
    PyList_New s = (.ret s.heap.next, ⟨s.heap.alloc (.list []), s.array⟩) := rfl

theorem Stands.opened_dict (hst : Stands st M s) : Opened st (M + one s.heap.next) s.heap.next
    (.dict []) ⟨s.heap.alloc (.dict []), s.array⟩ :=
  hst.opened rfl ⟨[], Heap.alloc_contents_self _ _, rfl⟩

theorem Stands.opened_list (hst : Stands st M s) : Opened st (M + one s.heap.next) s.heap.next
    (.list []) ⟨s.heap.alloc (.list []), s.array⟩ :=
  hst.opened rfl ⟨[], Heap.alloc_contents_self _ _, rfl⟩

theorem Built.stored {o : PyObj} {a : Nat} (hbuilt : Built st M s o a s') : storedValue o = o := by
  cases o with
  | null => exact hbuilt.shows.elim
  | _ => rfl

/-- What a value is made of comes after the container that it goes into. -/
theorem Built.inside {box value : Nat} {o o' : PyObj} (hopened : Opened st M box o s)
    (hbuilt : Built st M s o' value s') :
    Shows s'.heap (Made st (box + 1) s'.heap.next) o' value :=
  hbuilt.shows.mono fun _ hx => ⟨hx.mono hopened.lt le_rfl, rfl⟩

/-- The value of a slot, or NULL, comes into the list. -/
theorem Opened.slot_valued {list : Nat} {l : List PyObj} (hopened : Opened st M list (.list l) s)
    {o : PyObj} {r : Option Nat} (hvalue : Valued (· = .null) st M s o r s') :
    ∃ s'', PyList_SET_ITEM list r s' = (.ret (), s'') ∧
      Grown st M list s (.list (l ++ [o])) s'' := by
  cases hvalue with
  | none hnull howes hb =>
    have hlater := hopened.later hb howes fun _ => le_rfl
    obtain ⟨slots, hslots, -⟩ := hlater.inside
    obtain ⟨s'', hdone⟩ := setSlot_done none howes (howes.alive hlater.pinned)
      (fun a ha => by cases ha) hslots
    have hgrown := hlater.slot hslots (Or.inl ⟨hnull, rfl⟩) hdone
    have hback : M - owned none = M := sub_zero M
    exact ⟨s'', hdone.run, (hback ▸ hgrown).since hb⟩
  | some hbuilt =>
    rename_i a
    have hlater := hopened.later hbuilt.beyond hbuilt.owes (le_add_one M a)
    obtain ⟨slots, hslots, -⟩ := hlater.inside
    have hone : 1 ≤ (M + one a) a := by
      have := hopened.stands.nonneg a
      rw [Pi.add_apply, one_self]
      omega
    obtain ⟨s'', hdone⟩ := setSlot_done (some a) hbuilt.owes
      (hbuilt.owes.alive hlater.pinned)
      (fun x hx => by cases hx; exact hbuilt.owes.alive hone) hslots
    have hgrown := hlater.slot hslots (Or.inr ⟨a, rfl, hbuilt.inside hopened⟩) hdone
    have hback : M + one a - owned (some a) = M := add_sub_cancel_right M _
    exact ⟨s'', hdone.run, (hback ▸ hgrown).since hbuilt.beyond⟩

/-! ### The key of an entry -/

theorem setItem_stored (d : PyMembers) (k : PyStr) (o : PyObj) :
    librabbitmq.PyDict_SetItem d (.str k) (storedValue o) =
      .ret (Dict.set d (.str k) (storedValue o)) := by
  cases o <;> rfl

/-- There is no key: both crash in `PyDict_SetItem`. -/
theorem no_key {k : Octets} (hk : utf8Decode k = none) (d : PyMembers) (o : PyObj)
    (err : Option PyErr) (s : Memory) :
    librabbitmq.PyDict_SetItem d (librabbitmq.PySTRING_FROM_AMQBYTES k err).1 o = .crash ∧
      PySTRING_FROM_AMQBYTES k s = (.ret none, s) := by
  unfold librabbitmq.PySTRING_FROM_AMQBYTES PyUnicode_FromStringAndSize PySTRING_FROM_AMQBYTES
  rw [hk]
  exact ⟨rfl, rfl⟩

theorem the_key {k : Octets} {text : PyStr} (hk : utf8Decode k = some text) (err : Option PyErr)
    (s : Memory) : librabbitmq.PySTRING_FROM_AMQBYTES k err = (.str text, err) ∧
      PySTRING_FROM_AMQBYTES k s =
        (.ret (some s.heap.next), ⟨s.heap.alloc (.plain (.str text)), s.array⟩) := by
  unfold librabbitmq.PySTRING_FROM_AMQBYTES PyUnicode_FromStringAndSize PySTRING_FROM_AMQBYTES
  rw [hk]
  exact ⟨rfl, rfl⟩

/-! ### The loops -/

mutual

theorem table_builds (st : Statics) (dict : Nat) : ∀ (t : amqp_table_t) {M : Nat → Int}
    {s : Memory} {d : PyMembers} (err : Option PyErr), Opened st M dict (.dict d) s →
    Simulates (librabbitmq.AMQTable_toPyDict.loop d t err) (AMQTable_toPyDict.loop st dict t s)
      fun d' _ s' => Grown st M dict s (.dict d') s'
  | [], M, s, d, err, hopened => by
    rw [librabbitmq.AMQTable_toPyDict.loop, AMQTable_toPyDict.loop]
    exact ⟨(), s, rfl, hopened.stands.owes, ⟨le_rfl, fun _ _ _ => rfl⟩, hopened.inside⟩
  | (k, v) :: rest, M, s, d, err, hopened => by
    rw [table_entry_eq, AMQTable_toPyDict.loop]
    refine (tableValue_builds st v err hopened.stands).bind fun o err1 r s1 hvalue => ?_
    dsimp only
    cases hk : utf8Decode k with
    | none =>
      obtain ⟨hcrash, hkey⟩ := no_key hk d (storedValue o) err1 s1
      rw [hcrash, Run.bind_ret hkey]
      cases hvalue with
      | some _ => exact ⟨s1, rfl⟩
      | none _ _ _ => exact ⟨s1, rfl⟩
    | some text =>
      obtain ⟨htext, hkey⟩ := the_key hk err1 s1
      rw [htext, setItem_stored, Outcome.ret_bind, Run.bind_ret hkey]
      cases hvalue with
      | none hnone howes hb =>
        obtain ⟨s2, hset, hgrown⟩ :=
          (hopened.later hb howes fun _ => le_rfl).entry_none text
        dsimp only
        rw [Run.bind_ret hset, hnone]
        exact (table_builds st dict rest err1 (hopened.grown (hgrown.since hb))).imp
          fun _ _ _ => (hgrown.since hb).trans
      | some hbuilt =>
        obtain ⟨s2, hset, hgrown⟩ := (hopened.later hbuilt.beyond hbuilt.owes
          (le_add_one M _)).entry_some (hbuilt.inside hopened) hopened.stands.nonneg text
        have hstored : storedValue o = o := hbuilt.stored
        dsimp only
        rw [Run.bind_ret hset, hstored]
        exact (table_builds st dict rest err1 (hopened.grown (hgrown.since hbuilt.beyond))).imp
          fun _ _ _ => (hgrown.since hbuilt.beyond).trans

theorem tableValue_builds (st : Statics) : ∀ (v : librabbitmq.amqp_field_value_t)
    {M : Nat → Int} {s : Memory} (err : Option PyErr), Stands st M s →
    Simulates (librabbitmq.AMQTable_toPyDict.value v err) (AMQTable_toPyDict.value st v s)
      (Valued (fun o => storedValue o = .none) st M s)
  | .void, M, s, err, hst | .other _, M, s, err, hst => by
    rw [librabbitmq.AMQTable_toPyDict.value, AMQTable_toPyDict.value]
    exact ⟨none, s, rfl, .none rfl hst.owes ⟨le_rfl, fun _ _ _ => rfl⟩⟩
  | .boolean b, M, s, err, hst => by
    rw [librabbitmq.AMQTable_toPyDict.value, AMQTable_toPyDict.value]
    exact bool_builds hst b err
  | .i8 _, M, s, err, hst | .i16 _, M, s, err, hst | .i32 _, M, s, err, hst
  | .i64 _, M, s, err, hst | .u8 _, M, s, err, hst | .u16 _, M, s, err, hst
  | .u32 _, M, s, err, hst | .u64 _, M, s, err, hst => by
    rw [librabbitmq.AMQTable_toPyDict.value, AMQTable_toPyDict.value]
    exact plain_builds (o := .int _) hst (fun _ _ _ h => h) err
  | .f32 _, M, s, err, hst | .f64 _, M, s, err, hst => by
    rw [librabbitmq.AMQTable_toPyDict.value, AMQTable_toPyDict.value]
    exact plain_builds (o := .float _) hst (fun _ _ _ h => h) err
  | .utf8 b, M, s, err, hst => by
    rw [librabbitmq.AMQTable_toPyDict.value, AMQTable_toPyDict.value]
    exact string_builds (N := fun o => storedValue o = .none) hst rfl b err
  | .table t, M, s, err, hst => by
    rw [librabbitmq.AMQTable_toPyDict.value, AMQTable_toPyDict.value]
    rw [Run.bind_ret (newDict_run s)]
    exact (table_builds st s.heap.next t err (hst.opened_dict)).bind
      fun d err1 _ s' hgrown => ⟨_, s', rfl, .some hgrown.built⟩
  | .array a, M, s, err, hst => by
    rw [librabbitmq.AMQTable_toPyDict.value, AMQTable_toPyDict.value]
    rw [Run.bind_ret (newList_run s)]
    exact (array_builds st s.heap.next a err (hst.opened_list)).bind
      fun l err1 _ s' hgrown => ⟨_, s', rfl, .some hgrown.built⟩

theorem array_builds (st : Statics) (list : Nat) : ∀ (a : amqp_array_t) {M : Nat → Int}
    {s : Memory} {l : List PyObj} (err : Option PyErr), Opened st M list (.list l) s →
    Simulates (librabbitmq.AMQArray_toPyList.loop l a err) (AMQArray_toPyList.loop st list a s)
      fun l' _ s' => Grown st M list s (.list l') s'
  | [], M, s, l, err, hopened => by
    rw [librabbitmq.AMQArray_toPyList.loop, AMQArray_toPyList.loop]
    exact ⟨(), s, rfl, hopened.stands.owes, ⟨le_rfl, fun _ _ _ => rfl⟩, hopened.inside⟩
  | v :: rest, M, s, l, err, hopened => by
    rw [librabbitmq.AMQArray_toPyList.loop, AMQArray_toPyList.loop]
    refine (arrayValue_builds st v err hopened.stands).bind fun o err1 r s1 hvalue => ?_
    obtain ⟨s2, hset, hgrown⟩ := hopened.slot_valued hvalue
    dsimp only
    rw [Run.bind_ret hset]
    exact (array_builds st list rest err1 (hopened.grown hgrown)).imp fun _ _ _ => hgrown.trans

theorem arrayValue_builds (st : Statics) : ∀ (v : librabbitmq.amqp_field_value_t)
    {M : Nat → Int} {s : Memory} (err : Option PyErr), Stands st M s →
    Simulates (librabbitmq.AMQArray_toPyList.value v err) (AMQArray_toPyList.value st v s)
      (Valued (· = .null) st M s)
  | .void, M, s, err, hst | .other _, M, s, err, hst => by
    rw [librabbitmq.AMQArray_toPyList.value, AMQArray_toPyList.value]
    exact none_builds hst err
  | .boolean b, M, s, err, hst => by
    rw [librabbitmq.AMQArray_toPyList.value, AMQArray_toPyList.value]
    exact bool_builds hst b err
  | .i8 _, M, s, err, hst | .i16 _, M, s, err, hst | .i32 _, M, s, err, hst
  | .i64 _, M, s, err, hst | .u8 _, M, s, err, hst | .u16 _, M, s, err, hst
  | .u32 _, M, s, err, hst | .u64 _, M, s, err, hst => by
    rw [librabbitmq.AMQArray_toPyList.value, AMQArray_toPyList.value]
    exact plain_builds (o := .int _) hst (fun _ _ _ h => h) err
  | .f32 _, M, s, err, hst | .f64 _, M, s, err, hst => by
    rw [librabbitmq.AMQArray_toPyList.value, AMQArray_toPyList.value]
    exact plain_builds (o := .float _) hst (fun _ _ _ h => h) err
  | .utf8 b, M, s, err, hst => by
    rw [librabbitmq.AMQArray_toPyList.value, AMQArray_toPyList.value]
    exact string_builds (N := (· = .null)) hst rfl b err
  | .table t, M, s, err, hst => by
    rw [librabbitmq.AMQArray_toPyList.value, AMQArray_toPyList.value]
    rw [Run.bind_ret (newDict_run s)]
    exact (table_builds st s.heap.next t err (hst.opened_dict)).bind
      fun d err1 _ s' hgrown => ⟨_, s', rfl, .some hgrown.built⟩
  | .array a, M, s, err, hst => by
    rw [librabbitmq.AMQArray_toPyList.value, AMQArray_toPyList.value]
    rw [Run.bind_ret (newList_run s)]
    exact (array_builds st s.heap.next a err (hst.opened_list)).bind
      fun l err1 _ s' hgrown => ⟨_, s', rfl, .some hgrown.built⟩

end

/-! ### The properties -/

/-- A value that is made comes into the dict under its name, and a NULL does not. -/
theorem Opened.store {dict : Nat} {d : PyMembers} (hopened : Opened st M dict (.dict d) s)
    {o : PyObj} {r : Option Nat} (hvalue : Valued (· = .null) st M s o r s') (name : String)
    (err : Option PyErr) :
    Simulates (librabbitmq.PyDict_SetItemString d name o >>= fun d => .ret (d, err))
      (PyDICT_SETSTR_DECREF dict name r s') fun d' _ s'' => Grown st M dict s (.dict d') s'' := by
  unfold PyDICT_SETSTR_DECREF PyDict_SetItemString librabbitmq.PyDict_SetItemString
  cases hvalue with
  | none hnull _ _ =>
    rw [hnull]
    exact ⟨_, rfl⟩
  | some hbuilt =>
    obtain ⟨s'', hset, hgrown⟩ := (hopened.later hbuilt.beyond hbuilt.owes
      (le_add_one M _)).entry_some (hbuilt.inside hopened) hopened.stands.nonneg (pyStr name)
    have hitem := setItem_stored d (pyStr name) o
    rw [hbuilt.stored] at hitem
    have hkey : PyObject_New (.plain (.str (pyStr name))) s' =
        (.ret s'.heap.next, ⟨s'.heap.alloc (.plain (.str (pyStr name))), s'.array⟩) := rfl
    rw [hitem, Run.bind_assoc, Run.bind_ret hkey, Run.bind_assoc]
    exact ⟨(), s'', hset, hgrown.since hbuilt.beyond⟩

theorem Opened.property {dict : Nat} {d : PyMembers} (hopened : Opened st M dict (.dict d) s)
    {value : Run Memory (Option Nat)} {v : PyObj × Option PyErr}
    (hvalue : Simulates (.ret v) (value s) (Valued (· = .null) st M s)) (flag : Bool)
    (name : String) (err : Option PyErr) :
    Simulates (librabbitmq.setProperty flag name v d err) (setProperty flag name value dict s)
      fun d' _ s' => Grown st M dict s (.dict d') s' := by
  cases flag with
  | true =>
    obtain ⟨r, s', hrun, hr⟩ := hvalue
    have hmade : setProperty true name value dict s = PyDICT_SETSTR_DECREF dict name r s' :=
      Run.bind_ret hrun
    rw [hmade]
    exact hopened.store hr name v.2
  | false =>
    exact ⟨(), s, rfl, hopened.stands.owes, ⟨le_rfl, fun _ _ _ => rfl⟩, hopened.inside⟩

/-- A part that fills the dict, and the parts behind it. -/
theorem Opened.next {dict : Nat} {d : PyMembers} (hopened : Opened st M dict (.dict d) s)
    {o : Outcome (PyMembers × Option PyErr)} {x : Run Memory Unit}
    {f : PyMembers × Option PyErr → Outcome (PyMembers × Option PyErr)}
    {g : Unit → Run Memory Unit}
    (hx : Simulates o (x s) fun d' _ s' => Grown st M dict s (.dict d') s')
    (hf : ∀ d' err s', Opened st M dict (.dict d') s' →
      Simulates (f (d', err)) (g () s') fun d'' _ s'' => Grown st M dict s' (.dict d'') s'') :
    Simulates (o >>= f) ((x >>= g) s) fun d'' _ s'' => Grown st M dict s (.dict d'') s'' :=
  hx.bind fun d' err _ s' hgrown => (hf d' err s' (hopened.grown hgrown)).imp
    fun _ _ _ => hgrown.trans

/-- A table becomes a new dict. -/
theorem table_made (hst : Stands st M s) (t : amqp_table_t) (err : Option PyErr) :
    Simulates (librabbitmq.AMQTable_toPyDict t err) (AMQTable_toPyDict st t s)
      fun d a s' => Built st M s (.dict d) a s' := by
  unfold AMQTable_toPyDict librabbitmq.AMQTable_toPyDict
  rw [Run.bind_ret (newDict_run s)]
  have hloop := table_builds st s.heap.next t err hst.opened_dict
  cases hd : librabbitmq.AMQTable_toPyDict.loop [] t err with
  | ret r =>
    rw [hd] at hloop
    obtain ⟨u, s', hrun, hgrown⟩ := hloop
    exact ⟨s.heap.next, s', Run.bind_ret hrun, hgrown.built⟩
  | crash =>
    rw [hd] at hloop
    obtain ⟨s', hrun⟩ := hloop
    exact ⟨s', Run.bind_crash hrun⟩
  | hang =>
    rw [hd] at hloop
    exact hloop.elim

theorem Opened.headers {dict : Nat} {d : PyMembers} (hopened : Opened st M dict (.dict d) s)
    (t : amqp_table_t) (flag : Bool) (err : Option PyErr) :
    Simulates (if flag then librabbitmq.AMQTable_toPyDict t err >>= fun r =>
        librabbitmq.PyDict_SetItemString d "headers" (.dict r.1) >>= fun d => .ret (d, r.2)
      else .ret (d, err))
      (setProperty flag "headers" (some <$> AMQTable_toPyDict st t) dict s)
      fun d' _ s' => Grown st M dict s (.dict d') s' := by
  cases flag with
  | true =>
    have hmade := table_made hopened.stands t err
    have hstore : setProperty true "headers" (some <$> AMQTable_toPyDict st t) dict =
        AMQTable_toPyDict st t >>= fun a => PyDICT_SETSTR_DECREF dict "headers" (some a) :=
      Run.bind_assoc (AMQTable_toPyDict st t) _ _
    rw [hstore, if_pos rfl]
    exact hmade.bind fun h err a s' hbuilt => hopened.store (.some hbuilt) "headers" err
  | false =>
    exact ⟨(), s, rfl, hopened.stands.owes, ⟨le_rfl, fun _ _ _ => rfl⟩, hopened.inside⟩

theorem properties_builds {dict : Nat} {d : PyMembers} (hopened : Opened st M dict (.dict d) s)
    (props : amqp_basic_properties_t) (err : Option PyErr) :
    Simulates (librabbitmq.basic_properties_to_PyDict props d err)
      (basic_properties_to_PyDict st props dict s)
      fun d' _ s' => Grown st M dict s (.dict d') s' := by
  have htext : ∀ {d s} (flag : Bool) (name : String) (b : Octets) (err : Option PyErr),
      Opened st M dict (.dict d) s →
      Simulates (librabbitmq.setProperty flag name (librabbitmq.PySTRING_FROM_AMQBYTES b err) d err)
        (setProperty flag name (PySTRING_FROM_AMQBYTES b) dict s)
        fun d' _ s' => Grown st M dict s (.dict d') s' :=
    fun flag name b err hopened =>
      hopened.property (string_builds (N := (· = .null)) hopened.stands rfl b err) flag name err
  have hnumber : ∀ {d s} (flag : Bool) (name : String) (n : Int) (err : Option PyErr),
      Opened st M dict (.dict d) s →
      Simulates (librabbitmq.setProperty flag name (.int n, err) d err)
        (setProperty flag name (some <$> PyInt_FromLong n) dict s)
        fun d' _ s' => Grown st M dict s (.dict d') s' :=
    fun flag name n err hopened => hopened.property
      (plain_builds (o := .int n) hopened.stands (fun _ _ _ h => h) err) flag name err
  unfold librabbitmq.basic_properties_to_PyDict basic_properties_to_PyDict
  refine hopened.next (htext _ _ _ err hopened) fun _ err _ hopened => ?_
  refine hopened.next (htext _ _ _ err hopened) fun _ err _ hopened => ?_
  refine hopened.next (htext _ _ _ err hopened) fun _ err _ hopened => ?_
  refine hopened.next (htext _ _ _ err hopened) fun _ err _ hopened => ?_
  refine hopened.next (htext _ _ _ err hopened) fun _ err _ hopened => ?_
  refine hopened.next (htext _ _ _ err hopened) fun _ err _ hopened => ?_
  refine hopened.next (htext _ _ _ err hopened) fun _ err _ hopened => ?_
  refine hopened.next (htext _ _ _ err hopened) fun _ err _ hopened => ?_
  refine hopened.next (htext _ _ _ err hopened) fun _ err _ hopened => ?_
  refine hopened.next (hnumber _ _ _ err hopened) fun _ err _ hopened => ?_
  refine hopened.next (hnumber _ _ _ err hopened) fun _ err _ hopened => ?_
  refine hopened.next (hnumber _ _ _ err hopened) fun _ err _ hopened => ?_
  exact hopened.headers props.headers (props._flags .headers) err

/-- A member of the dict, and what is behind it. -/
theorem Opened.member {dict : Nat} {d : PyMembers} (hopened : Opened st M dict (.dict d) s)
    {value : Run Memory (Option Nat)} {v : PyObj × Option PyErr}
    (hvalue : Simulates (.ret v) (value s) (Valued (· = .null) st M s)) (name : String)
    {f : PyMembers → Outcome (PyMembers × Option PyErr)} {g : Unit → Run Memory Unit}
    (hf : ∀ d' s', Opened st M dict (.dict d') s' →
      Simulates (f d') (g () s') fun d'' _ s'' => Grown st M dict s' (.dict d'') s'') :
    Simulates (librabbitmq.PyDict_SetItemString d name v.1 >>= f)
      ((value >>= fun r => PyDICT_SETSTR_DECREF dict name r >>= g) s)
      fun d'' _ s'' => Grown st M dict s (.dict d'') s'' := by
  have hmember := hopened.property hvalue true name none
  have hvalues : librabbitmq.PyDict_SetItemString d name v.1 >>= f =
      librabbitmq.setProperty true name v d none >>= fun r => f r.1 := by
    unfold librabbitmq.setProperty
    rw [if_pos rfl, bind_assoc]
    rfl
  have hobjects : (value >>= fun r => PyDICT_SETSTR_DECREF dict name r >>= g) =
      setProperty true name value dict >>= g := (Run.bind_assoc value _ g).symm
  rw [hvalues, hobjects]
  exact hopened.next hmember fun d' _ s' => hf d' s'

theorem deliver_builds {dest : Nat} {d : PyMembers} (hopened : Opened st M dest (.dict d) s)
    (delivery_tag : BitVec 64) (exchange routing_key : Octets) (redelivered : Bool)
    (err : Option PyErr) :
    Simulates
      (librabbitmq.amqp_basic_deliver_to_PyDict d delivery_tag exchange routing_key redelivered err)
      (amqp_basic_deliver_to_PyDict st dest delivery_tag exchange routing_key redelivered s)
      fun d' _ s' => Grown st M dest s (.dict d') s' := by
  have hnumber := plain_builds (N := (· = .null)) (o := .int delivery_tag.toInt) hopened.stands
    (fun _ _ _ h => h) err
  unfold librabbitmq.amqp_basic_deliver_to_PyDict amqp_basic_deliver_to_PyDict
  refine hopened.member hnumber "delivery_tag" fun d s hopened => ?_
  refine hopened.member (string_builds (N := (· = .null)) hopened.stands rfl exchange err)
    "exchange" fun d s hopened => ?_
  refine hopened.member (string_builds (N := (· = .null)) hopened.stands rfl routing_key _)
    "routing_key" fun d s hopened => ?_
  have hlast := hopened.property (bool_builds (N := (· = .null)) hopened.stands redelivered
    (librabbitmq.PySTRING_FROM_AMQBYTES routing_key
      (librabbitmq.PySTRING_FROM_AMQBYTES exchange err).2).2) true "redelivered" err
  have hobjects : setProperty true "redelivered" (some <$> PyBool_FromLong st redelivered) dest =
      PyBool_FromLong st redelivered >>= fun a =>
        PyDICT_SETSTR_DECREF dest "redelivered" (some a) := Run.bind_assoc _ _ _
  rw [hobjects] at hlast
  exact hlast

/-! ## What is built -/

/-- The dict at `a` is the caller's, it shows the members of live objects, and nothing else has
changed for the caller. -/
structure Decoded (M : Nat → Int) (s : Memory) (d : PyMembers) (a : Nat) (s' : Memory) : Prop where
  owes : Owes (M + one a) s'
  shows : Shows s'.heap s'.heap.Alive (.dict d) a
  same : ∀ x < s.heap.next, s'.heap.contents x = s.heap.contents x

theorem Built.decoded {d : PyMembers} {a : Nat} (hst : Stands st M s)
    (hbuilt : Built st M s (.dict d) a s') : Decoded M s d a s' := by
  have hnonneg : ∀ x, 0 ≤ (M + one a) x := fun x => (hst.nonneg x).trans (le_add_one M a x)
  have hone : 1 ≤ (M + one a) a := by
    have := hst.nonneg a
    rw [Pi.add_apply, one_self]
    omega
  refine ⟨hbuilt.owes, ?_, fun x hx => hbuilt.beyond.same x hx id⟩
  exact hbuilt.shows.alive (fun x y hx hy => hbuilt.owes.holds hnonneg hx hy)
    (hbuilt.owes.alive hone)

/-- A function that fills a new dict. -/
theorem filled_decoded (hst : Stands st M s) {o : Outcome (PyMembers × Option PyErr)}
    {fill : Nat → Run Memory Unit}
    (hfill : ∀ {dict s}, Opened st (M + one dict) dict (.dict []) s →
      Simulates o (fill dict s) fun d _ s' => Grown st (M + one dict) dict s (.dict d) s') :
    Simulates o ((PyDict_New >>= fun dict => fill dict >>= fun _ => pure dict) s)
      (Decoded M s) := by
  rw [Run.bind_ret (newDict_run s)]
  have hrun := hfill hst.opened_dict
  cases o with
  | ret r =>
    obtain ⟨u, s', hrun, hgrown⟩ := hrun
    exact ⟨s.heap.next, s', Run.bind_ret hrun, hgrown.built.decoded hst⟩
  | crash =>
    obtain ⟨s', hrun⟩ := hrun
    exact ⟨s', Run.bind_crash hrun⟩
  | hang => exact hrun.elim

/-- The three decoders build new dicts that show the members which the decoders over values
compute, and crash where those crash. -/
theorem the_decoders_build_what_the_values_say (hst : Stands st M s) (err : Option PyErr)
    (table : amqp_table_t) (props : amqp_basic_properties_t) (delivery_tag : BitVec 64)
    (exchange routing_key : Octets) (redelivered : Bool) :
    Simulates (librabbitmq.AMQTable_toPyDict table err) (AMQTable_toPyDict st table s)
      (Decoded M s) ∧
    Simulates (librabbitmq.basic_properties_to_PyDict props [] err)
      ((do
        let propdict ← PyDict_New
        basic_properties_to_PyDict st props propdict
        return propdict) s)
      (Decoded M s) ∧
    Simulates
      (librabbitmq.amqp_basic_deliver_to_PyDict [] delivery_tag exchange routing_key redelivered err)
      ((do
        let delivery_info ← PyDict_New
        amqp_basic_deliver_to_PyDict st delivery_info delivery_tag exchange routing_key redelivered
        return delivery_info) s)
      (Decoded M s) := by
  refine ⟨(table_made hst table err).imp fun _ _ _ hbuilt => hbuilt.decoded hst, ?_, ?_⟩
  · exact filled_decoded hst fun hopened => properties_builds hopened props err
  · exact filled_decoded hst fun hopened =>
      deliver_builds hopened delivery_tag exchange routing_key redelivered err

end

/-- `Py_None`, `Py_True` and `Py_False`, and nothing else. -/
def interpreter : Memory :=
  let h : Heap Obj := ⟨fun _ => 0, fun _ => .plain .null, 0⟩
  ⟨((h.alloc (.plain .none)).alloc (.plain (.bool true))).alloc (.plain (.bool false)), .zero⟩

theorem stands_interpreter : Stands ⟨0, 1, 2⟩ (0 + one 0 + one 1 + one 2) interpreter := by
  have hempty : Owes 0 ⟨⟨fun _ => 0, fun _ => .plain .null, 0⟩, .zero⟩ := by
    have hplain : ∀ b, ((fun _ => .plain .null : Nat → Obj) b).refs = [] := fun _ => rfl
    refine ⟨(sound_of_plain hplain (fun _ _ => rfl) fun _ => le_rfl).sealed, fun x => ?_⟩
    unfold loose
    rw [held_of_plain hplain]
    rfl
  refine ⟨new_owes (new_owes (new_owes hempty rfl) rfl) rfl, fun x => ?_, ⟨by decide, rfl⟩,
    ⟨by decide, rfl⟩, ⟨by decide, rfl⟩⟩
  exact add_nonneg (add_nonneg (add_nonneg le_rfl (one_nonneg 0 x)) (one_nonneg 1 x))
    (one_nonneg 2 x)

theorem a_table_with_an_array_is_built :
    ∃ a s', AMQTable_toPyDict ⟨0, 1, 2⟩ [([97], .array [.boolean true, .void])] interpreter =
        (.ret a, s') ∧
      Decoded (0 + one 0 + one 1 + one 2) interpreter
        [(.str (pyStr "a"), .list [.bool true, .none])] a s' := by
  have htable := (the_decoders_build_what_the_values_say stands_interpreter none
    [([97], .array [.boolean true, .void])] .empty 1 [] [] false).1
  exact htable

end librabbitmq.memory
