-- What the conversion of a list does to the counts of references. A conversion can lose a
-- reference or release one twice, never the other way round, so that the first slip of a
-- conversion stands until it returns.
import Librabbitmq.OwnedStrings

namespace librabbitmq.ownership

open references encoding table_errors

/-! ## The lists that are converted with their references in balance -/

def isStr : PyObj → Bool
  | .str _ => true
  | _ => false

mutual

/-- The conversion of the value keeps the references of all lists in it that it gets to. -/
def balances : PyObj → Bool
  | .dict members => membersBalance members
  | .list items => itemsBalance false items
  | .tuple items => itemsBalance false items
  | _ => true

def membersBalance : PyMembers → Bool
  | [] => true
  | (_, value) :: rest => balances value && (memberStops value || membersBalance rest)

/-- From an item on, where `converted` says that a `str` stood before it: only the way out by
`item_error:` releases the iterator, and it releases the last `str` as well, which is the item
itself or was released before. -/
def itemsBalance (converted : Bool) : List PyObj → Bool
  | [] => false
  | item :: rest =>
    if itemStops item then isStr item || !converted
    else balances item && itemsBalance (converted || isStr item) rest

end

/-! ## How the counts move -/

/-- Addresses that were given out. -/
structure Known (places : List Nat) (rt : Rt) : Prop where
  given : ∀ a, a ∈ places → a < rt.heap.next
  recorded : ∀ a, a ∈ rt.array.recorded → a < rt.heap.next

/-- Whatever a conversion does, it takes no reference to an object that was there, it leaves the
objects alone that it does not get, and it records new objects only. -/
structure Moves (places : List Nat) (rt rt' : Rt) : Prop where
  next_le : rt.heap.next ≤ rt'.heap.next
  falls : ∀ a, a < rt.heap.next → rt'.heap.count a ≤ rt.heap.count a
  frame : ∀ a, a < rt.heap.next → a ∉ places → rt'.heap.count a = rt.heap.count a
  records : ∀ a, a < rt.heap.next ∨ rt'.heap.next ≤ a →
    rt'.array.recorded.count a = rt.array.recorded.count a

/-- A new object is released, or it is recorded once and the array has its one reference. -/
def Settled (rt : Rt) (a : Nat) : Prop :=
  (rt.heap.count a = 0 ∧ a ∉ rt.array.recorded) ∨
    (rt.heap.count a = 1 ∧ rt.array.recorded.count a = 1)

/-- Every object that was there has its count, and every new one is settled. -/
structure Neutral (rt rt' : Rt) : Prop where
  kept : ∀ a, a < rt.heap.next → rt'.heap.count a = rt.heap.count a
  settled : ∀ a, rt.heap.next ≤ a → a < rt'.heap.next → Settled rt' a

section

variable {P : List Nat} {rt rt1 rt2 rt' : Rt}

theorem Moves.refl (rt : Rt) : Moves P rt rt :=
  ⟨le_rfl, fun _ _ => le_rfl, fun _ _ _ => rfl, fun _ _ => rfl⟩

theorem Moves.trans (h1 : Moves P rt rt1) (h2 : Moves P rt1 rt2) : Moves P rt rt2 := by
  have hle1 := h1.next_le
  have hle2 := h2.next_le
  refine ⟨by omega, fun a ha => ?_, fun a ha hnot => ?_, fun a ha => ?_⟩
  · exact (h2.falls a (by omega)).trans (h1.falls a ha)
  · rw [h2.frame a (by omega) hnot, h1.frame a ha hnot]
  · rw [h2.records a (by omega), h1.records a (by omega)]

theorem Known.moves (hknown : Known P rt) (h : Moves P rt rt') : Known P rt' := by
  have hle := h.next_le
  refine ⟨fun a ha => (hknown.given a ha).trans_le hle, fun a ha => ?_⟩
  by_contra hge
  have hold := h.records a (by omega)
  have hpos := List.count_pos_iff.mpr ha
  have := hknown.recorded a (List.count_pos_iff.mp (by omega))
  omega

theorem Known.count_next (hknown : Known P rt) {a : Nat} (ha : rt.heap.next ≤ a) :
    rt.array.recorded.count a = 0 := by
  apply List.count_eq_zero_of_not_mem
  intro hmem
  have := hknown.recorded a hmem
  omega

theorem settled_congr {a : Nat} (hcount : rt1.heap.count a = rt2.heap.count a)
    (hrecorded : rt1.array.recorded.count a = rt2.array.recorded.count a) :
    Settled rt1 a ↔ Settled rt2 a := by
  unfold Settled
  rw [← List.count_eq_zero, ← List.count_eq_zero, hcount, hrecorded]

theorem Neutral.refl (rt : Rt) : Neutral rt rt :=
  ⟨fun _ _ => rfl, fun a ha ha' => absurd ha' (by omega)⟩

/-- Two steps are neutral when each of them is: the second cannot mend what the first did. -/
theorem neutral_trans (hknown : Known P rt) (h1 : Moves P rt rt1) (h2 : Moves P rt1 rt2) :
    Neutral rt rt2 ↔ Neutral rt rt1 ∧ Neutral rt1 rt2 := by
  have hle1 := h1.next_le
  have hle2 := h2.next_le
  have hframe : ∀ a, rt.heap.next ≤ a → a < rt1.heap.next →
      rt2.heap.count a = rt1.heap.count a ∧ (Settled rt2 a ↔ Settled rt1 a) := by
    intro a ha ha'
    have hnot : a ∉ P := fun hmem => by
      have := hknown.given a hmem
      omega
    have hcount := h2.frame a ha' hnot
    exact ⟨hcount, settled_congr hcount (h2.records a (Or.inl ha'))⟩
  constructor
  · intro h
    have hfirst : ∀ a, a < rt.heap.next → rt1.heap.count a = rt.heap.count a := by
      intro a ha
      have := h.kept a ha
      have := h1.falls a ha
      have := h2.falls a (by omega)
      omega
    refine ⟨⟨hfirst, fun a ha ha' => ?_⟩, fun a ha => ?_, fun a ha ha' => ?_⟩
    · exact (hframe a ha ha').2.mp (h.settled a ha (by omega))
    · by_cases hold : a < rt.heap.next
      · rw [h.kept a hold, hfirst a hold]
      · exact (hframe a (by omega) ha).1
    · exact h.settled a (by omega) ha'
  · rintro ⟨hn1, hn2⟩
    refine ⟨fun a ha => ?_, fun a ha ha' => ?_⟩
    · rw [hn2.kept a (by omega), hn1.kept a ha]
    · by_cases hold : a < rt1.heap.next
      · exact (hframe a ha hold).2.mpr (hn1.settled a ha hold)
      · exact hn2.settled a (by omega) ha'

/-! ## The primitive steps -/

theorem moves_of_same (hheap : rt'.heap = rt.heap) (harray : rt'.array = rt.array) :
    Moves P rt rt' := by
  refine ⟨?_, fun a _ => ?_, fun a _ _ => ?_, fun a _ => ?_⟩
  · rw [hheap]
  · rw [hheap]
  · rw [hheap]
  · rw [harray]

theorem neutral_of_same (hheap : rt'.heap = rt.heap) : Neutral rt rt' := by
  refine ⟨fun a _ => ?_, fun a ha ha' => ?_⟩
  · rw [hheap]
  · rw [hheap] at ha'
    omega

@[simp] theorem increfed_next (a : Nat) (rt : Rt) : (increfed a rt).heap.next = rt.heap.next := rfl

@[simp] theorem decrefed_next (a : Nat) (rt : Rt) : (decrefed a rt).heap.next = rt.heap.next := rfl

theorem increfed_count (a b : Nat) (rt : Rt) :
    (increfed a rt).heap.count b = rt.heap.count b + if b = a then 1 else 0 :=
  Heap.incref_count rt.heap a b

theorem decrefed_count (a b : Nat) (rt : Rt) :
    (decrefed a rt).heap.count b = rt.heap.count b - if b = a then 1 else 0 :=
  Heap.decref_count rt.heap a b

/-- What happens between an incref and a decref of one object. -/
theorem Moves.around {a : Nat} (h : Moves P (increfed a rt) rt') : Moves P rt (decrefed a rt') := by
  refine ⟨h.next_le, fun b hb => ?_, fun b hb hnot => ?_, h.records⟩
  · have hfalls := h.falls b hb
    rw [increfed_count] at hfalls
    rw [decrefed_count]
    omega
  · have hframe := h.frame b hb hnot
    rw [increfed_count] at hframe
    rw [decrefed_count]
    omega

theorem neutral_around {a : Nat} (ha : a < rt.heap.next) :
    Neutral rt (decrefed a rt') ↔ Neutral (increfed a rt) rt' := by
  have hsettled : ∀ b, rt.heap.next ≤ b → (Settled (decrefed a rt') b ↔ Settled rt' b) := by
    intro b hb
    refine settled_congr ?_ rfl
    rw [decrefed_count, if_neg (by omega), sub_zero]
  constructor
  · intro h
    refine ⟨fun b hb => ?_, fun b hb hb' => (hsettled b hb).mp (h.settled b hb hb')⟩
    have hkept := h.kept b hb
    rw [decrefed_count] at hkept
    rw [increfed_count]
    omega
  · intro h
    refine ⟨fun b hb => ?_, fun b hb hb' => (hsettled b hb).mpr (h.settled b hb hb')⟩
    have hkept := h.kept b hb
    rw [increfed_count] at hkept
    rw [decrefed_count]
    omega

/-- A new object that is recorded. -/
theorem recordedNew_settles (hknown : Known P rt) (b : Octets) :
    Moves P rt (recordedNew rt b) ∧ Neutral rt (recordedNew rt b) := by
  have hperm := recorded_add rt.array rt.heap.next
  have hold : ∀ a, a < rt.heap.next → (recordedNew rt b).heap.count a = rt.heap.count a :=
    fun a ha => Heap.alloc_count_ne _ _ (by omega)
  refine ⟨⟨Nat.le_succ _, fun a ha => (hold a ha).le, fun a ha _ => hold a ha, fun a ha => ?_⟩,
    hold, fun a ha ha' => ?_⟩
  · have hne : rt.heap.next ≠ a := by
      have : (recordedNew rt b).heap.next = rt.heap.next + 1 := rfl
      omega
    exact (hperm.count_eq a).trans (List.count_cons_of_ne hne)
  · have hself : a = rt.heap.next := by
      have : (recordedNew rt b).heap.next = rt.heap.next + 1 := rfl
      omega
    subst hself
    refine Or.inr ⟨Heap.alloc_count_self _ _, ?_⟩
    exact (hperm.count_eq _).trans (by rw [List.count_cons_self, hknown.count_next le_rfl])

/-- A new object that is released again. -/
theorem temporary_settles (hknown : Known P rt) (b : Octets) :
    let rt' : Rt := { rt with heap := (rt.heap.alloc b).decref rt.heap.next }
    Moves P rt rt' ∧ Neutral rt rt' := by
  intro rt'
  have hold : ∀ a, a < rt.heap.next → rt'.heap.count a = rt.heap.count a := by
    intro a ha
    have hne : a ≠ rt.heap.next := by omega
    rw [Heap.decref_count, if_neg hne, Heap.alloc_count_ne _ _ hne, sub_zero]
  refine ⟨⟨Nat.le_succ _, fun a ha => (hold a ha).le, fun a ha _ => hold a ha, fun _ _ => rfl⟩,
    hold, fun a ha ha' => ?_⟩
  have hself : a = rt.heap.next := by
    have : rt'.heap.next = rt.heap.next + 1 := rfl
    omega
  subst hself
  refine Or.inl ⟨?_, fun hmem => ?_⟩
  · rw [Heap.decref_count, if_pos rfl, Heap.alloc_count_self]
    decide
  · have := hknown.recorded _ hmem
    omega

/-! ## The ways out of the loop -/

/-- How the loop leaves its last state: at the end of the list with the iterator left alive, by
`item_error:` with both released, or by `item_error:` with an object released besides that the
loop does not hold. The flag says that it is the clean way. -/
inductive Left (P : List Nat) (src iterator : Nat) (rt : Rt) : Bool → Rt → Prop
  | whole {rt' : Rt} (hheap : rt'.heap = rt.heap.decref src) (harray : rt'.array = rt.array) :
      Left P src iterator rt false rt'
  | clean {rt' : Rt} (hheap : rt'.heap = (rt.heap.decref iterator).decref src)
      (harray : rt'.array = rt.array) : Left P src iterator rt true rt'
  | stale {rt' : Rt} {a : Nat} (ha : a ∈ P)
      (hheap : rt'.heap = ((rt.heap.decref a).decref iterator).decref src)
      (harray : rt'.array = rt.array) : Left P src iterator rt false rt'

theorem gotIter_count (src a : Nat) (rt : Rt) (ha : a < rt.heap.next) :
    (gotIter src rt).heap.count a = rt.heap.count a + if a = src then 1 else 0 := by
  unfold gotIter
  rw [Heap.incref_count, Heap.alloc_count_ne _ _ (by omega)]

theorem gotIter_count_self (src : Nat) (rt : Rt) (hsrc : src < rt.heap.next) :
    (gotIter src rt).heap.count rt.heap.next = 1 := by
  unfold gotIter
  rw [Heap.incref_count, Heap.alloc_count_self, if_neg (by omega)]
  rfl

@[simp] theorem gotIter_next (src : Nat) (rt : Rt) :
    (gotIter src rt).heap.next = rt.heap.next + 1 := rfl

theorem Known.gotIter (hknown : Known P rt) (src : Nat) : Known P (ownership.gotIter src rt) :=
  ⟨fun a ha => Nat.lt_succ_of_lt (hknown.given a ha),
    fun a ha => Nat.lt_succ_of_lt (hknown.recorded a ha)⟩

theorem Known.not_next (hknown : Known P rt) : rt.heap.next ∉ P := fun hmem =>
  absurd (hknown.given _ hmem) (Nat.lt_irrefl _)

/-- What a conversion does that gives back the list, and `d` references besides. -/
theorem exit_moves {src : Nat} {d : Nat → Int} (hmoves : Moves P (gotIter src rt) rt1)
    (hnext : rt'.heap.next = rt1.heap.next) (harray : rt'.array = rt1.array)
    (hcount : ∀ a, rt'.heap.count a = rt1.heap.count a - (if a = src then 1 else 0) - d a)
    (hd : ∀ a, 0 ≤ d a) (hframe : ∀ a, a < rt.heap.next → a ∉ P → d a = 0) : Moves P rt rt' := by
  have hle := hmoves.next_le
  rw [gotIter_next] at hle
  refine ⟨by omega, fun a ha => ?_, fun a ha hnot => ?_, fun a ha => ?_⟩
  · have hfalls := hmoves.falls a (Nat.lt_succ_of_lt ha)
    have := hd a
    rw [gotIter_count src a rt ha] at hfalls
    rw [hcount]
    omega
  · have hsame := hmoves.frame a (Nat.lt_succ_of_lt ha) hnot
    rw [gotIter_count src a rt ha] at hsame
    rw [hcount, hframe a ha hnot]
    omega
  · rw [harray]
    refine hmoves.records a ?_
    rw [gotIter_next]
    omega

/-- Behind the loop the iterator has the one reference that it was made with. -/
theorem iterator_kept {src : Nat} (hknown : Known P rt) (hsrc : src < rt.heap.next)
    (hmoves : Moves P (gotIter src rt) rt1) : rt.heap.next < rt1.heap.next ∧
      rt1.heap.count rt.heap.next = 1 ∧ rt1.array.recorded.count rt.heap.next = 0 := by
  have hle := hmoves.next_le
  rw [gotIter_next] at hle
  refine ⟨by omega, ?_, ?_⟩
  · rw [hmoves.frame _ (Nat.lt_succ_self _) hknown.not_next, gotIter_count_self src rt hsrc]
  · rw [hmoves.records _ (Or.inl (Nat.lt_succ_self _))]
    exact hknown.count_next le_rfl

/-- At the end of the list nobody has the iterator. -/
theorem whole_settles {src : Nat} (hknown : Known P rt) (hsrc : src < rt.heap.next)
    (hmoves : Moves P (gotIter src rt) rt1) (hheap : rt'.heap = rt1.heap.decref src)
    (harray : rt'.array = rt1.array) : Moves P rt rt' ∧ ¬ Neutral rt rt' := by
  obtain ⟨hle, hiter, hunrecorded⟩ := iterator_kept hknown hsrc hmoves
  have hcount : ∀ a, rt'.heap.count a = rt1.heap.count a - (if a = src then 1 else 0) - 0 := by
    intro a
    rw [hheap, Heap.decref_count, sub_zero]
  refine ⟨exit_moves hmoves (by rw [hheap]; rfl) harray hcount (by simp) (by simp), fun h => ?_⟩
  have hlt : rt.heap.next < rt'.heap.next := by
    rw [hheap, Heap.decref_next]
    exact hle
  have hone : rt'.heap.count rt.heap.next = 1 := by
    rw [hcount, hiter, if_neg (by omega)]
    rfl
  have hzero : rt'.array.recorded.count rt.heap.next = 0 := by rw [harray, hunrecorded]
  rcases h.settled _ le_rfl hlt with hdead | hrec
  · omega
  · omega

/-- The way out that releases the iterator is neutral when the loop was. -/
theorem clean_settles {src : Nat} (hknown : Known P rt) (hsrc : src < rt.heap.next)
    (hmoves : Moves P (gotIter src rt) rt1)
    (hheap : rt'.heap = (rt1.heap.decref rt.heap.next).decref src)
    (harray : rt'.array = rt1.array) :
    Moves P rt rt' ∧ (Neutral rt rt' ↔ Neutral (gotIter src rt) rt1) := by
  obtain ⟨hle, hiter, hunrecorded⟩ := iterator_kept hknown hsrc hmoves
  have hcount : ∀ a, rt'.heap.count a = rt1.heap.count a - (if a = src then 1 else 0) -
      if a = rt.heap.next then 1 else 0 := by
    intro a
    rw [hheap, Heap.decref_count, Heap.decref_count]
    omega
  have hnext : rt'.heap.next = rt1.heap.next := by rw [hheap]; rfl
  have hmoves' := exit_moves hmoves hnext harray hcount (fun a => by split <;> decide)
    fun a ha _ => if_neg (by omega)
  -- away from the iterator, `rt'` differs from `rt1` by the reference to the list
  have hsettled : ∀ a, rt.heap.next + 1 ≤ a → (Settled rt' a ↔ Settled rt1 a) := by
    intro a ha
    refine settled_congr ?_ (by rw [harray])
    rw [hcount, if_neg (by omega), if_neg (by omega)]
    omega
  refine ⟨hmoves', fun h => ⟨fun a ha => ?_, fun a ha ha' => ?_⟩, fun h =>
    ⟨fun a ha => ?_, fun a ha ha' => ?_⟩⟩
  · rw [gotIter_next] at ha
    by_cases hself : a = rt.heap.next
    · rw [hself, hiter, gotIter_count_self src rt hsrc]
    · have hkept := h.kept a (by omega)
      rw [hcount, if_neg hself] at hkept
      rw [gotIter_count src a rt (by omega)]
      omega
  · rw [gotIter_next] at ha
    exact (hsettled a ha).mp (h.settled a (by omega) (by omega))
  · have hkept := h.kept a (Nat.lt_succ_of_lt ha)
    rw [gotIter_count src a rt ha] at hkept
    rw [hcount, if_neg (show a ≠ rt.heap.next by omega)]
    omega
  · by_cases hself : a = rt.heap.next
    · subst hself
      refine Or.inl ⟨?_, List.count_eq_zero.mp (by rw [harray, hunrecorded])⟩
      rw [hcount, hiter, if_neg (by omega), if_pos rfl]
      rfl
    · have hge : rt.heap.next + 1 ≤ a := by omega
      exact (hsettled a hge).mpr (h.settled a hge (by omega))

/-- The way out that releases an object besides takes a reference from it. -/
theorem stale_settles {src c : Nat} (hknown : Known P rt)
    (hmoves : Moves P (gotIter src rt) rt1) (hc : c ∈ P)
    (hheap : rt'.heap = ((rt1.heap.decref c).decref rt.heap.next).decref src)
    (harray : rt'.array = rt1.array) : Moves P rt rt' ∧ ¬ Neutral rt rt' := by
  have hcount : ∀ a, rt'.heap.count a = rt1.heap.count a - (if a = src then 1 else 0) -
      ((if a = c then 1 else 0) + if a = rt.heap.next then 1 else 0) := by
    intro a
    rw [hheap, Heap.decref_count, Heap.decref_count, Heap.decref_count]
    omega
  have hclt := hknown.given c hc
  refine ⟨exit_moves hmoves (by rw [hheap]; rfl) harray hcount (fun a => ?_) fun a ha hnot => ?_,
    fun h => ?_⟩
  · split <;> split <;> decide
  · have hne : a ≠ c := by
      rintro rfl
      exact hnot hc
    rw [if_neg hne, if_neg (by omega)]
    rfl
  · have hkept := h.kept c hclt
    have hfalls := hmoves.falls c (Nat.lt_succ_of_lt hclt)
    rw [gotIter_count src c rt hclt] at hfalls
    rw [hcount, if_pos rfl, if_neg (show c ≠ rt.heap.next by omega)] at hkept
    omega

/-- Only the clean way out can be neutral. -/
theorem array_settles {src : Nat} {b : Bool} (hknown : Known P rt) (hsrc : src < rt.heap.next)
    (hmoves : Moves P (gotIter src rt) rt1) (hleft : Left P src rt.heap.next rt1 b rt') :
    Moves P rt rt' ∧ (Neutral rt rt' ↔ Neutral (gotIter src rt) rt1 ∧ b = true) := by
  cases hleft with
  | whole hheap harray =>
    obtain ⟨hmoves', hnot⟩ := whole_settles hknown hsrc hmoves hheap harray
    exact ⟨hmoves', iff_of_false hnot (by simp)⟩
  | clean hheap harray =>
    obtain ⟨hmoves', hneutral⟩ := clean_settles hknown hsrc hmoves hheap harray
    exact ⟨hmoves', by simp [hneutral]⟩
  | stale hc hheap harray =>
    obtain ⟨hmoves', hnot⟩ := stale_settles hknown hmoves hc hheap harray
    exact ⟨hmoves', iff_of_false hnot (by simp)⟩

theorem releaseIterator_eq {src iterator : Nat} (h : rt.heap.count iterator = 1) :
    releaseIterator iterator src rt = (.ret (), decrefed src (decrefed iterator rt)) := by
  have hzero : (decrefed iterator rt).heap.count iterator = 0 := by
    rw [decrefed_count, if_pos rfl, h]
    rfl
  have hdecref : Py_DECREF iterator rt = (.ret (), decrefed iterator rt) := rfl
  rw [releaseIterator, Run.bind_ret hdecref, Run.get_bind_apply, if_pos hzero]
  rfl

/-- The end of `item_error:`. -/
theorem exit_of_run {src iterator : Nat} {dst a : amqp_array_t}
    (h : (releaseIterator iterator src >>= fun _ => pure dst) rt = (.ret a, rt'))
    (hone : rt.heap.count iterator = 1) :
    rt'.heap = (rt.heap.decref iterator).decref src ∧ rt'.array = rt.array := by
  rw [Run.bind_ret (releaseIterator_eq hone)] at h
  cases h
  exact ⟨rfl, rfl⟩

/-! ## The walk over a tree -/

/-- What a part of the walk does, and whether that is neutral. -/
structure Settles (P : List Nat) (rt rt' : Rt) (b : Bool) : Prop where
  moves : Moves P rt rt'
  neutral : Neutral rt rt' ↔ b = true

theorem settles_same (hheap : rt'.heap = rt.heap) (harray : rt'.array = rt.array) :
    Settles P rt rt' true :=
  ⟨moves_of_same hheap harray, iff_of_true (neutral_of_same hheap) rfl⟩

theorem Settles.trans {b c : Bool} (hknown : Known P rt) (h1 : Settles P rt rt1 b)
    (h2 : Settles P rt1 rt2 c) : Settles P rt rt2 (b && c) := by
  refine ⟨h1.moves.trans h2.moves, ?_⟩
  rw [neutral_trans hknown h1.moves h2.moves, h1.neutral, h2.neutral, Bool.and_eq_true]

theorem Settles.around {a : Nat} {b : Bool} (ha : a < rt.heap.next)
    (h : Settles P (increfed a rt) rt' b) : Settles P rt (decrefed a rt') b :=
  ⟨h.moves.around, (neutral_around ha).trans h.neutral⟩

theorem Known.increfed (hknown : Known P rt) (a : Nat) : Known P (ownership.increfed a rt) :=
  ⟨hknown.given, hknown.recorded⟩

theorem key_settles {key : Nat × PyKey} {dkey : PyRef} (hknown : Known P rt)
    (h : PyObjectArray_Maybe_Unicode (keyRef key) rt = (.ret dkey, rt')) :
    Settles P rt rt' true := by
  obtain ⟨self, key⟩ := key
  cases key with
  | bytes b =>
    cases h
    exact settles_same rfl rfl
  | other id =>
    cases h
    exact settles_same rfl rfl
  | str s =>
    have hrun : (encodeWith (asciiEncode s) >>= record) rt = (.ret dkey, rt') := h
    cases hs : asciiEncode s with
    | none =>
      rw [hs] at hrun
      cases hrun
      exact settles_same rfl rfl
    | some b =>
      rw [hs] at hrun
      cases hrun
      obtain ⟨hmoves, hneutral⟩ := recordedNew_settles hknown b
      exact ⟨hmoves, iff_of_true hneutral rfl⟩

/-- The end of an item. -/
inductive ItemEnds (P : List Nat) (rt rt' : Rt) (item_tmp : Option Nat) (v : PyObj) :
    Option amqp_array_t × Option Nat × Option Nat → Prop
  | entered {t : amqp_array_t} {item : Nat} {item_tmp' : Option Nat} (hstops : itemStops v = false)
      (hsettles : Settles P rt (decrefed item rt') (balances v))
      (htmp : item_tmp'.isSome = (item_tmp.isSome || isStr v))
      (hgiven : ∀ a, a ∈ item_tmp' → a ∈ P) :
      ItemEnds P rt rt' item_tmp v (some t, some item, item_tmp')
  | rejectedStr {self : Nat} (hstops : itemStops v = true) (hstr : isStr v = true)
      (hheap : rt'.heap = rt.heap.incref self) (harray : rt'.array = rt.array) :
      ItemEnds P rt rt' item_tmp v (none, none, some self)
  | rejected {self : Nat} (hstops : itemStops v = true) (hstr : isStr v = false)
      (hself : self ∈ P) (hheap : rt'.heap = rt.heap.incref self) (harray : rt'.array = rt.array) :
      ItemEnds P rt rt' item_tmp v (none, some self, item_tmp)

theorem itemsBalance_cons (converted : Bool) (item : PyObj) (rest : List PyObj) :
    itemsBalance converted (item :: rest) = if itemStops item then isStr item || !converted
      else balances item && itemsBalance (converted || isStr item) rest := rfl

/-- A member at which the walk leaves its dict is known by its value. -/
theorem member_stopped {v : PyRef} {dst : amqp_table_t} {dkey : PyRef} {o : Option amqp_table_t}
    (h : PyDict_ToAMQTable.member dst dkey v rt = (.ret o, rt')) :
    o.isNone = memberStops v.obj := by
  obtain ⟨key, hread⟩ := keyRead_exists dkey.obj
  have herased := member_erased v dst dkey rt
  unfold Erased at herased
  rw [h] at herased
  obtain ⟨_, ho, _⟩ :=
    (encoding.member_runs v.obj (tableFields dst) key rt.err dkey.obj hread).of_ret herased
  cases o with
  | none =>
    cases hs : memberStops v.obj with
    | true => rfl
    | false =>
      rw [hs] at ho
      cases ho
  | some t =>
    cases hs : memberStops v.obj with
    | true =>
      rw [hs] at ho
      cases ho
    | false => rfl

/-- A member of which only the key is read. -/
theorem plain_settles {α : Type} {dkey : PyRef} {f : amqp_bytes_t → α} {x : α}
    (h : (PyString_AS_AMQBYTES dkey >>= fun key => pure (f key)) rt = (.ret x, rt')) :
    Settles P rt rt' true := by
  obtain ⟨self, b, rfl, h⟩ := key_of_run h
  cases h
  exact settles_same rfl rfl

/-- An item of which only its own reference is taken. -/
theorem plain_ends {self : Nat} {v : PyObj} {item_tmp : Option Nat} {t : amqp_array_t}
    {err : Option PyErr} (hself : self < rt.heap.next) (hstops : itemStops v = false)
    (hstr : isStr v = false) (hbalances : balances v = true)
    (htmp : ∀ a, a ∈ item_tmp → a ∈ P) :
    ItemEnds P rt { increfed self rt with err := err } item_tmp v
      (some t, some self, item_tmp) := by
  have hsame : Settles P (increfed self rt) { increfed self rt with err := err } true :=
    settles_same rfl rfl
  refine .entered hstops ?_ (by rw [hstr, Bool.or_false]) htmp
  rw [hbalances]
  exact hsame.around hself

/-- An item with items or members of its own. -/
theorem nested_ends {self : Nat} {v : PyObj} {item_tmp : Option Nat} {t : amqp_array_t}
    (hself : self < rt.heap.next) (hstops : itemStops v = false) (hstr : isStr v = false)
    (hsettles : Settles P (increfed self rt) rt' (balances v))
    (htmp : ∀ a, a ∈ item_tmp → a ∈ P) :
    ItemEnds P rt rt' item_tmp v (some t, some self, item_tmp) :=
  .entered hstops (hsettles.around hself) (by rw [hstr, Bool.or_false]) htmp

/-- The loop over the items, up to the way out. -/
def LoopSettles (P : List Nat) (src iterator : Nat) (rt rt' : Rt) (b : Bool) : Prop :=
  ∃ rt1 clean, Moves P rt rt1 ∧ Left P src iterator rt1 clean rt' ∧
    (Neutral rt rt1 ∧ clean = true ↔ b = true)

/-- A list from before its iterator is made. -/
theorem LoopSettles.settles {src : Nat} {b : Bool} (hknown : Known P rt) (hsrc : src < rt.heap.next)
    (h : LoopSettles P src rt.heap.next (gotIter src rt) rt' b) : Settles P rt rt' b := by
  obtain ⟨rt1, clean, hmoves, hleft, hb⟩ := h
  obtain ⟨hmoves', hneutral⟩ := array_settles hknown hsrc hmoves hleft
  exact ⟨hmoves', hneutral.trans hb⟩

/-- A list or tuple as a member, by what its loop does. -/
theorem array_member_settles {self : Nat} {items : List PyRef} {dst : amqp_table_t} {dkey : PyRef}
    {o : Option amqp_table_t} {b : Bool} (hknown : Known P rt) (hself : self < rt.heap.next)
    (hloop : ∀ a, PyIter_ToAMQArray.loop self rt.heap.next none [] items (gotIter self rt) =
      (.ret a, rt') → LoopSettles P self rt.heap.next (gotIter self rt) rt' b)
    (h : (do
      let key ← PyString_AS_AMQBYTES dkey
      let iterator ← PyObject_GetIter self
      let value ← PyIter_ToAMQArray.loop self iterator none [] items
      return some (dst ++ [(key, .array value)]) : Run Rt (Option amqp_table_t)) rt =
        (.ret o, rt')) : Settles P rt rt' b := by
  obtain ⟨_, k, rfl, hrun⟩ := key_of_run h
  rw [Run.bind_ret (getIter_apply self rt)] at hrun
  obtain ⟨a, rt1, hreturns, hpure⟩ := Run.ret_of_bind hrun
  cases hpure
  exact (hloop a hreturns).settles hknown hself

/-- A list or tuple as an item, by what its loop does. -/
theorem array_item_ends {self : Nat} {items : List PyRef} {dst : amqp_array_t} {v : PyObj}
    {item_tmp : Option Nat} {r : Option amqp_array_t × Option Nat × Option Nat}
    (hknown : Known P rt) (hself : self < rt.heap.next) (hstops : itemStops v = false)
    (hstr : isStr v = false) (htmp : ∀ a, a ∈ item_tmp → a ∈ P)
    (hloop : ∀ a, PyIter_ToAMQArray.loop self rt.heap.next none [] items
      (gotIter self (increfed self rt)) = (.ret a, rt') →
      LoopSettles P self rt.heap.next (gotIter self (increfed self rt)) rt' (balances v))
    (h : (do
      Py_INCREF self
      let iterator ← PyObject_GetIter self
      let value ← PyIter_ToAMQArray.loop self iterator none [] items
      return (some (dst ++ [.array value]), some self, item_tmp) :
        Run Rt (Option amqp_array_t × Option Nat × Option Nat)) rt = (.ret r, rt')) :
    ItemEnds P rt rt' item_tmp v r := by
  rw [Run.bind_ret (incref_apply self rt),
    Run.bind_ret (getIter_apply self (increfed self rt))] at h
  obtain ⟨a, rt1, hreturns, hpure⟩ := Run.ret_of_bind h
  cases hpure
  have hsettles : Settles P (increfed self rt) rt' (balances v) :=
    (hloop a hreturns).settles (hknown.increfed self) hself
  exact nested_ends hself hstops hstr hsettles htmp

/-- A `str` item that is converted: its own reference goes first and the new `bytes` is the
item from then on. -/
theorem str_ends {self : Nat} {b : Octets} {s : PyStr} {item_tmp : Option Nat} {t : amqp_array_t}
    (hknown : Known P rt) (hself : self < rt.heap.next) (hplace : self ∈ P)
    (hstops : itemStops (.str s) = false) :
    ItemEnds P rt { rt with heap := ((rt.heap.incref self).alloc b).decref self } item_tmp (.str s)
      (some t, some rt.heap.next, some self) := by
  obtain ⟨hmoves, hneutral⟩ := temporary_settles (hknown.increfed self) b
  have hsettles : Settles P (increfed self rt) _ true := ⟨hmoves, iff_of_true hneutral rfl⟩
  have hsame : Settles P rt _ true := hsettles.around hself
  refine .entered hstops ?_ (by simp [isStr]) (by rintro a ⟨⟩; exact hplace)
  have hcomm : (((rt.heap.incref self).alloc b).decref self).decref rt.heap.next =
      (((rt.heap.incref self).alloc b).decref rt.heap.next).decref self := Heap.decref_comm _ _ _
  unfold decrefed
  dsimp only
  rw [hcomm]
  exact hsame

mutual

theorem member_settles {P : List Nat} : ∀ (v : PyRef) {dst : amqp_table_t} {dkey : PyRef}
    {rt rt' : Rt} {o : Option amqp_table_t}, (∀ p ∈ v.places, p.1 ∈ P) → Known P rt →
    PyDict_ToAMQTable.member dst dkey v rt = (.ret o, rt') →
    Settles P rt rt' (balances v.obj)
  | .null, dst, dkey, rt, rt', o, hp, hknown, hrun => by
    rw [PyDict_ToAMQTable.member] at hrun
    cases hrun
  | .none _, dst, dkey, rt, rt', o, hp, hknown, hrun => by
    rw [PyDict_ToAMQTable.member] at hrun
    exact plain_settles hrun
  | .bool _ _, dst, dkey, rt, rt', o, hp, hknown, hrun => by
    rw [PyDict_ToAMQTable.member] at hrun
    exact plain_settles hrun
  | .int _ n, dst, dkey, rt, rt', o, hp, hknown, hrun => by
    rw [PyDict_ToAMQTable.member, asLong_bind] at hrun
    split at hrun
    · cases hrun
      exact settles_same rfl rfl
    · have hsame : Settles P rt { rt with err := (librabbitmq.PyLong_AsLong n rt.err).2 } true :=
        settles_same rfl rfl
      exact hsame.trans hknown (plain_settles hrun)
  | .float _ bits, dst, dkey, rt, rt', o, hp, hknown, hrun => by
    rw [PyDict_ToAMQTable.member] at hrun
    split at hrun
    · cases hrun
      exact settles_same rfl rfl
    · exact plain_settles hrun
  | .str _ s, dst, dkey, rt, rt', o, hp, hknown, hrun => by
    rw [PyDict_ToAMQTable.member] at hrun
    unfold PyUnicode_AsEncodedString at hrun
    cases hs : utf8Encode s with
    | none =>
      rw [hs] at hrun
      cases hrun
      exact settles_same rfl rfl
    | some b =>
      rw [hs] at hrun
      have hrun' : (PyString_AS_AMQBYTES dkey >>= fun key =>
          pure (some (dst ++ [(key, .utf8 ⟨rt.heap.next, b⟩)]))) (recordedNew rt b) =
            (.ret o, rt') := hrun
      obtain ⟨hmoves, hneutral⟩ := recordedNew_settles hknown b
      have hnew : Settles P rt (recordedNew rt b) true := ⟨hmoves, iff_of_true hneutral rfl⟩
      exact hnew.trans hknown (plain_settles hrun')
  | .bytes self b, dst, dkey, rt, rt', o, hp, hknown, hrun => by
    rw [PyDict_ToAMQTable.member] at hrun
    exact plain_settles hrun
  | .other _ id, dst, dkey, rt, rt', o, hp, hknown, hrun => by
    rw [PyDict_ToAMQTable.member] at hrun
    obtain ⟨self, b, rfl, hrun⟩ := key_of_run hrun
    cases hrun
    exact settles_same rfl rfl
  | .dict _ members, dst, dkey, rt, rt', o, hp, hknown, hrun => by
    rw [PyDict_ToAMQTable.member] at hrun
    obtain ⟨_, b, rfl, hrun'⟩ := key_of_run hrun
    obtain ⟨t, rt1, hloop, hpure⟩ := Run.ret_of_bind hrun'
    cases hpure
    exact members_settle members (fun p h => hp p (List.mem_cons_of_mem _ h)) hknown hloop
  | .list self items, dst, dkey, rt, rt', o, hp, hknown, hrun => by
    rw [PyDict_ToAMQTable.member] at hrun
    have hself := hknown.given self (hp (self, none) List.mem_cons_self)
    exact array_member_settles hknown hself (fun a hloop => items_settle items
      (fun p h => hp p (List.mem_cons_of_mem _ h)) (by simp) (hknown.gotIter self)
      hknown.not_next (Nat.lt_succ_self _) (gotIter_count_self self rt hself) hloop) hrun
  | .tuple self items, dst, dkey, rt, rt', o, hp, hknown, hrun => by
    rw [PyDict_ToAMQTable.member] at hrun
    have hself := hknown.given self (hp (self, none) List.mem_cons_self)
    exact array_member_settles hknown hself (fun a hloop => items_settle items
      (fun p h => hp p (List.mem_cons_of_mem _ h)) (by simp) (hknown.gotIter self)
      hknown.not_next (Nat.lt_succ_self _) (gotIter_count_self self rt hself) hloop) hrun

theorem item_ends {P : List Nat} : ∀ (v : PyRef) {item_tmp : Option Nat} {dst : amqp_array_t}
    {rt rt' : Rt} {r : Option amqp_array_t × Option Nat × Option Nat}, (∀ p ∈ v.places, p.1 ∈ P) →
    (∀ a, a ∈ item_tmp → a ∈ P) → Known P rt →
    PyIter_ToAMQArray.item item_tmp dst v rt = (.ret r, rt') →
    ItemEnds P rt rt' item_tmp v.obj r
  | .null, item_tmp, dst, rt, rt', r, hp, htmp, hknown, hrun => by
    rw [PyIter_ToAMQArray.item] at hrun
    cases hrun
  | .none self, item_tmp, dst, rt, rt', r, hp, htmp, hknown, hrun => by
    rw [PyIter_ToAMQArray.item] at hrun
    cases hrun
    have hself := hknown.given self (hp (self, none) (List.mem_singleton_self _))
    exact plain_ends hself rfl rfl rfl htmp
  | .bool self b, item_tmp, dst, rt, rt', r, hp, htmp, hknown, hrun => by
    rw [PyIter_ToAMQArray.item] at hrun
    cases hrun
    have hself := hknown.given self (hp (self, none) (List.mem_singleton_self _))
    exact plain_ends hself rfl rfl rfl htmp
  | .int self n, item_tmp, dst, rt, rt', r, hp, htmp, hknown, hrun => by
    rw [PyIter_ToAMQArray.item, Run.bind_ret (incref_apply self rt), asLong_bind] at hrun
    cases hrun
    have hself := hknown.given self (hp (self, none) (List.mem_singleton_self _))
    exact plain_ends hself rfl rfl rfl htmp
  | .bytes self b, item_tmp, dst, rt, rt', r, hp, htmp, hknown, hrun => by
    rw [PyIter_ToAMQArray.item] at hrun
    cases hrun
    have hself := hknown.given self (hp (self, some b) (List.mem_singleton_self _))
    exact plain_ends hself rfl rfl rfl htmp
  | .float self bits, item_tmp, dst, rt, rt', r, hp, htmp, hknown, hrun => by
    rw [PyIter_ToAMQArray.item] at hrun
    cases hrun
    exact .rejected rfl rfl (hp (self, none) (List.mem_singleton_self _)) rfl rfl
  | .other self id, item_tmp, dst, rt, rt', r, hp, htmp, hknown, hrun => by
    rw [PyIter_ToAMQArray.item] at hrun
    cases hrun
    exact .rejected rfl rfl (hp (self, none) (List.mem_singleton_self _)) rfl rfl
  | .str self s, item_tmp, dst, rt, rt', r, hp, htmp, hknown, hrun => by
    rw [PyIter_ToAMQArray.item] at hrun
    unfold PyUnicode_AsASCIIString at hrun
    have hplace := hp (self, none) (List.mem_singleton_self _)
    have hself := hknown.given self hplace
    cases hs : asciiEncode s with
    | none =>
      rw [hs] at hrun
      cases hrun
      exact .rejectedStr (by simp [PyRef.obj, itemStops, IsAscii, hs]) rfl rfl rfl
    | some b =>
      rw [hs] at hrun
      cases hrun
      exact str_ends hknown hself hplace (by simp [itemStops, IsAscii, hs])
  | .dict self members, item_tmp, dst, rt, rt', r, hp, htmp, hknown, hrun => by
    rw [PyIter_ToAMQArray.item, Run.bind_ret (incref_apply self rt)] at hrun
    obtain ⟨t, rt1, hloop, hpure⟩ := Run.ret_of_bind hrun
    cases hpure
    have hself := hknown.given self (hp (self, none) List.mem_cons_self)
    exact nested_ends hself rfl rfl (members_settle members
      (fun p h => hp p (List.mem_cons_of_mem _ h)) (hknown.increfed self) hloop) htmp
  | .list self items, item_tmp, dst, rt, rt', r, hp, htmp, hknown, hrun => by
    rw [PyIter_ToAMQArray.item] at hrun
    have hself := hknown.given self (hp (self, none) List.mem_cons_self)
    have hknown' := hknown.increfed self
    exact array_item_ends hknown hself rfl rfl htmp (fun a hloop => items_settle items
      (fun p h => hp p (List.mem_cons_of_mem _ h)) (by simp) (hknown'.gotIter self)
      hknown'.not_next (Nat.lt_succ_self _) (gotIter_count_self self (increfed self rt) hself)
      hloop) hrun
  | .tuple self items, item_tmp, dst, rt, rt', r, hp, htmp, hknown, hrun => by
    rw [PyIter_ToAMQArray.item] at hrun
    have hself := hknown.given self (hp (self, none) List.mem_cons_self)
    have hknown' := hknown.increfed self
    exact array_item_ends hknown hself rfl rfl htmp (fun a hloop => items_settle items
      (fun p h => hp p (List.mem_cons_of_mem _ h)) (by simp) (hknown'.gotIter self)
      hknown'.not_next (Nat.lt_succ_self _) (gotIter_count_self self (increfed self rt) hself)
      hloop) hrun

theorem members_settle {P : List Nat} : ∀ (members : PyRefMembers) {dst t : amqp_table_t}
    {rt rt' : Rt}, (∀ p ∈ memberPlaces members, p.1 ∈ P) → Known P rt →
    PyDict_ToAMQTable.loop dst members rt = (.ret t, rt') →
    Settles P rt rt' (membersBalance (memberObjs members))
  | [], dst, t, rt, rt', hp, hknown, hrun => by
    rw [PyDict_ToAMQTable.loop] at hrun
    cases hrun
    exact settles_same rfl rfl
  | (key, value) :: rest, dst, t, rt, rt', hp, hknown, hrun => by
    rw [PyDict_ToAMQTable.loop] at hrun
    obtain ⟨dkey, rt1, hdkey, hrun⟩ := Run.ret_of_bind hrun
    obtain ⟨o, rt2, hmember, hrun⟩ := Run.ret_of_bind hrun
    have hkey := key_settles hknown hdkey
    have hknown1 := hknown.moves hkey.moves
    have hvalue := member_settles value
      (fun p h => hp p (List.mem_cons_of_mem _ (List.mem_append_left _ h))) hknown1 hmember
    have hstops := member_stopped hmember
    have hfirst := hkey.trans hknown hvalue
    rw [Bool.true_and] at hfirst
    rw [memberObjs, membersBalance, ← hstops]
    cases o with
    | none =>
      cases hrun
      rw [Option.isNone_none, Bool.true_or, Bool.and_true]
      exact hfirst
    | some dst' =>
      have hrest := members_settle rest
        (fun p h => hp p (List.mem_cons_of_mem _ (List.mem_append_right _ h)))
        (hknown.moves hfirst.moves) hrun
      rw [Option.isNone_some, Bool.false_or]
      exact hfirst.trans hknown hrest

theorem items_settle {P : List Nat} : ∀ (items : List PyRef) {src iterator : Nat}
    {item_tmp : Option Nat} {dst a : amqp_array_t} {rt rt' : Rt},
    (∀ p ∈ itemPlaces items, p.1 ∈ P) → (∀ a, a ∈ item_tmp → a ∈ P) → Known P rt →
    iterator ∉ P → iterator < rt.heap.next → rt.heap.count iterator = 1 →
    PyIter_ToAMQArray.loop src iterator item_tmp dst items rt = (.ret a, rt') →
    LoopSettles P src iterator rt rt' (itemsBalance item_tmp.isSome (itemObjs items))
  | [], src, iterator, item_tmp, dst, a, rt, rt', hp, htmp, hknown, hnot, hlt, hone, hrun => by
    rw [PyIter_ToAMQArray.loop] at hrun
    cases hrun
    exact ⟨rt, false, .refl rt, .whole rfl rfl, by simp [itemObjs, itemsBalance]⟩
  | item :: rest, src, iterator, item_tmp, dst, a, rt, rt', hp, htmp, hknown, hnot, hlt, hone,
    hrun => by
    rw [PyIter_ToAMQArray.loop] at hrun
    obtain ⟨r, rt1, hitem, hrun⟩ := Run.ret_of_bind hrun
    have hends := item_ends item (fun p h => hp p (List.mem_append_left _ h)) htmp hknown hitem
    rw [itemObjs, itemsBalance_cons]
    cases hends with
    | @entered t i item_tmp' hstops hsettles hconverted hgiven =>
      obtain ⟨_, rt2, hdecref, hrun⟩ := Run.ret_of_bind hrun
      cases hdecref
      have hcount := hsettles.moves.frame iterator hlt hnot
      obtain ⟨rt3, clean, hmoves, hleft, hb⟩ := items_settle rest
        (fun p h => hp p (List.mem_append_right _ h)) hgiven (hknown.moves hsettles.moves) hnot
        (hlt.trans_le hsettles.moves.next_le) (hcount.trans hone) hrun
      rw [hstops, if_neg Bool.false_ne_true, ← hconverted]
      refine ⟨rt3, clean, hsettles.moves.trans hmoves, hleft, ?_⟩
      rw [neutral_trans hknown hsettles.moves hmoves, hsettles.neutral, and_assoc, hb,
        Bool.and_eq_true]
    | @rejectedStr self hstops hstr hheap harray =>
      rw [hstops, if_pos rfl, hstr, Bool.true_or]
      obtain ⟨_, rt2, htmp', hrun⟩ := Run.ret_of_bind hrun
      cases htmp'
      have hsame : rt1.heap.decref self = rt.heap := by rw [hheap, Heap.incref_decref]
      have hrun' : (releaseIterator iterator src >>= fun _ => pure dst) (decrefed self rt1) =
        (.ret a, rt') := hrun
      obtain ⟨hheap', harray'⟩ := exit_of_run hrun' (by rw [decrefed, hsame, hone])
      rw [decrefed, hsame] at hheap'
      exact ⟨rt, true, .refl rt, .clean hheap' (harray'.trans harray),
        iff_of_true ⟨.refl rt, rfl⟩ rfl⟩
    | @rejected self hstops hstr hself hheap harray =>
      rw [hstops, if_pos rfl, hstr, Bool.false_or]
      obtain ⟨_, rt2, htmp', hrun⟩ := Run.ret_of_bind hrun
      obtain ⟨_, rt3, hself', hrun⟩ := Run.ret_of_bind hrun
      cases hself'
      cases item_tmp with
      | none =>
        cases htmp'
        have hsame : rt1.heap.decref self = rt.heap := by rw [hheap, Heap.incref_decref]
        obtain ⟨hheap', harray'⟩ := exit_of_run hrun
          (show (rt1.heap.decref self).count iterator = 1 by rw [hsame, hone])
        have hclean : rt'.heap = (rt.heap.decref iterator).decref src := by rw [hheap', ← hsame]
        exact ⟨rt, true, .refl rt, .clean hclean (harray'.trans harray),
          iff_of_true ⟨.refl rt, rfl⟩ rfl⟩
      | some tmp =>
        -- an earlier `str`, released in its own turn
        cases htmp'
        have hgiven := htmp tmp rfl
        have hsame : (rt1.heap.decref tmp).decref self = rt.heap.decref tmp := by
          rw [hheap, Heap.decref_comm, Heap.incref_decref]
        have hne : iterator ≠ tmp := fun h => hnot (h ▸ hgiven)
        have hone' : ((rt1.heap.decref tmp).decref self).count iterator = 1 := by
          rw [hsame, Heap.decref_count, if_neg hne, hone]
          rfl
        obtain ⟨hheap', harray'⟩ := exit_of_run hrun hone'
        have hstale : rt'.heap = ((rt.heap.decref tmp).decref iterator).decref src := by
          rw [hheap', ← hsame]
        exact ⟨rt, false, .refl rt, .stale hgiven hstale (harray'.trans harray), by simp⟩

end

end

/-- When a conversion returns, the references are in balance exactly when it was left by
`item_error:`, at an item that is a `str` or has no `str` before it, and the same holds of every
list in it that it got to. -/
theorem the_references_balance_exactly_when_the_list_is_left_cleanly {src : Nat}
    {items : List PyRef} {rt rt' : Rt} {dst : amqp_array_t} (hsrc : src < rt.heap.next)
    (hitems : ∀ p ∈ itemPlaces items, p.1 < rt.heap.next)
    (hrecorded : ∀ a ∈ rt.array.recorded, a < rt.heap.next)
    (hrun : PyIter_ToAMQArray src items rt = (.ret dst, rt')) :
    ((∀ p ∈ itemPlaces items, rt'.heap.count p.1 = rt.heap.count p.1) ∧
      ∀ a, rt.heap.next ≤ a → a < rt'.heap.next → Settled rt' a) ↔
        itemsBalance false (itemObjs items) = true := by
  have hknown : Known ((itemPlaces items).map Prod.fst) rt := by
    refine ⟨fun a ha => ?_, hrecorded⟩
    obtain ⟨p, hp, rfl⟩ := List.mem_map.mp ha
    exact hitems p hp
  have hloop : PyIter_ToAMQArray.loop src rt.heap.next none [] items (gotIter src rt) =
    (.ret dst, rt') := hrun
  have hsettles := (items_settle items (fun p h => List.mem_map_of_mem h) (by simp)
    (hknown.gotIter src) hknown.not_next (Nat.lt_succ_self _) (gotIter_count_self src rt hsrc)
    hloop).settles hknown hsrc
  rw [Option.isSome_none] at hsettles
  rw [← hsettles.neutral]
  constructor
  · rintro ⟨hkept, hsettled⟩
    refine ⟨fun a ha => ?_, hsettled⟩
    by_cases hmem : a ∈ (itemPlaces items).map Prod.fst
    · obtain ⟨p, hp, rfl⟩ := List.mem_map.mp hmem
      exact hkept p hp
    · exact hsettles.moves.frame a ha hmem
  · exact fun h => ⟨fun p hp => h.kept p.1 (hitems p hp), h.settled⟩

/-- `[[1.5], 1.5]` is left cleanly, and so is the list in it. -/
theorem a_rejected_list_keeps_its_references :
    ∃ dst rt', PyIter_ToAMQArray 0 [.list 1 [.float 2 0], .float 3 0] (startOf 4) =
        (.ret dst, rt') ∧
      (∀ p ∈ itemPlaces [.list 1 [.float 2 0], .float 3 0],
        rt'.heap.count p.1 = (startOf 4).heap.count p.1) ∧
      ∀ a, 4 ≤ a → a < rt'.heap.next → Settled rt' a := by
  refine ⟨_, _, rfl, ?_⟩
  exact (@the_references_balance_exactly_when_the_list_is_left_cleanly 0
    [.list 1 [.float 2 0], .float 3 0] (startOf 4) _ _ (by decide) (by decide) (by decide) rfl).mpr
      rfl

/-- The conversion of `[]` leaves its iterator alive, with a reference that nobody has; the
conversion of `["s", 1.5]` releases the item "s" once more than it has taken it. -/
theorem a_converted_list_leaks_its_iterator :
    (∃ dst rt', PyIter_ToAMQArray 0 [] (startOf 1) = (.ret dst, rt') ∧ 1 < rt'.heap.next ∧
      ¬ Settled rt' 1) ∧
    ∃ dst rt', PyIter_ToAMQArray 0 [.str 1 (pyStr "s"), .float 2 0] (startOf 3) = (.ret dst, rt') ∧
      (startOf 3).heap.count 1 = 1 ∧ rt'.heap.count 1 = 0 := by
  refine ⟨⟨_, _, rfl, by decide, ?_⟩, _, _, rfl, rfl, rfl⟩
  rintro (⟨hdead, _⟩ | ⟨_, hrecorded⟩)
  · exact absurd hdead (by decide)
  · exact absurd hrecorded (by decide)

end librabbitmq.ownership
