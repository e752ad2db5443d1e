-- Who owns the strings of an encoded table. In a run with no error every object that was
-- there keeps its count. A `str` of a dict becomes a `bytes` that is recorded; a `str` of a
-- list becomes a `bytes` that the loop itself releases.
import Librabbitmq.Ownership
import Librabbitmq.Encoding

namespace librabbitmq.ownership

open references encoding table_errors Relation

/-! ## The source tree -/

mutual

/-- The objects of a tree, and the contents of those that are `bytes`. -/
def PyRef.places : PyRef → List (Nat × Option Octets)
  | .null => []
  | .bytes self b => [(self, some b)]
  | .list self items => (self, none) :: itemPlaces items
  | .tuple self items => (self, none) :: itemPlaces items
  | .dict self members => (self, none) :: memberPlaces members
  | .none self | .bool self _ | .int self _ | .float self _ | .str self _ | .other self _ =>
    [(self, none)]

def memberPlaces : PyRefMembers → List (Nat × Option Octets)
  | [] => []
  | (key, value) :: rest => keyPlace key :: (value.places ++ memberPlaces rest)

def itemPlaces : List PyRef → List (Nat × Option Octets)
  | [] => []
  | item :: rest => item.places ++ itemPlaces rest

def keyPlace : Nat × PyKey → Nat × Option Octets
  | (self, .bytes b) => (self, some b)
  | (self, _) => (self, none)

end

/-- The object at the place is alive, with its contents. -/
def StandsAt (h : Heap Octets) (p : Nat × Option Octets) : Prop :=
  p.1 < h.next ∧ h.Alive p.1 ∧ ∀ b, p.2 = some b → h.contents p.1 = b

mutual

/-- A `str` stands in a list or tuple that gets into the field of the value. -/
def listStr : PyObj → Bool
  | .dict members => !membersStop members && membersListStr members
  | .list items => itemsListStr items
  | .tuple items => itemsListStr items
  | _ => false

def itemListStr : PyObj → Bool
  | .str _ => true
  | .dict members => !membersStop members && membersListStr members
  | .list items => itemsListStr items
  | .tuple items => itemsListStr items
  | _ => false

def membersListStr : PyMembers → Bool
  | [] => false
  | (_, value) :: rest => listStr value || membersListStr rest

def itemsListStr : List PyObj → Bool
  | [] => false
  | item :: rest => itemListStr item || itemsListStr rest

end

/-! ## What a run with no error leaves -/

/-- Between two states of a run, every object that was there has kept its count and its
contents, and what was recorded is new and has the one reference of the array. -/
structure Since (rt rt' : Rt) : Prop where
  next_le : rt.heap.next ≤ rt'.heap.next
  count : ∀ a, a < rt.heap.next → rt'.heap.count a = rt.heap.count a
  contents : ∀ a, a < rt.heap.next → rt'.heap.contents a = rt.heap.contents a
  fresh : ∀ a, rt.heap.next ≤ a → a < rt'.heap.next → 0 ≤ rt'.heap.count a
  beyond : ∀ a, rt'.heap.next ≤ a → rt'.heap.count a = rt.heap.count a
  recorded : ∃ new : List Nat, rt'.array.recorded.Perm (new ++ rt.array.recorded) ∧ new.Nodup ∧
    ∀ a ∈ new, rt.heap.next ≤ a ∧ a < rt'.heap.next ∧ rt'.heap.count a = 1

theorem Since.refl (rt : Rt) : Since rt rt :=
  ⟨le_rfl, fun _ _ => rfl, fun _ _ => rfl, fun a h h' => absurd h' (by omega), fun _ _ => rfl,
    [], .refl _, List.nodup_nil, by simp⟩

theorem Since.trans {rt rt1 rt2 : Rt} (h1 : Since rt rt1) (h2 : Since rt1 rt2) : Since rt rt2 := by
  have hle := h1.next_le
  have hle' := h2.next_le
  refine ⟨hle.trans hle', fun a ha => ?_, fun a ha => ?_, fun a ha ha' => ?_, fun a ha => ?_, ?_⟩
  · rw [h2.count a (by omega), h1.count a ha]
  · rw [h2.contents a (by omega), h1.contents a ha]
  · by_cases hlt : a < rt1.heap.next
    · rw [h2.count a hlt]
      exact h1.fresh a ha hlt
    · exact h2.fresh a (by omega) ha'
  · rw [h2.beyond a ha, h1.beyond a (by omega)]
  · obtain ⟨new1, hperm1, hnodup1, hnew1⟩ := h1.recorded
    obtain ⟨new2, hperm2, hnodup2, hnew2⟩ := h2.recorded
    refine ⟨new2 ++ new1, ?_, ?_, fun a ha => ?_⟩
    · rw [List.append_assoc]
      exact hperm2.trans (hperm1.append_left new2)
    · refine List.Nodup.append hnodup2 hnodup1 fun a ha ha' => ?_
      have := hnew2 a ha
      have := hnew1 a ha'
      omega
    · rcases List.mem_append.mp ha with ha | ha
      · obtain ⟨hge, hlt, hone⟩ := hnew2 a ha
        exact ⟨by omega, hlt, hone⟩
      · obtain ⟨hge, hlt, hone⟩ := hnew1 a ha
        exact ⟨hge, by omega, (h2.count a hlt).trans hone⟩

/-- A new object that nobody records. -/
theorem since_new (rt : Rt) (b : Octets) : Since rt { rt with heap := rt.heap.alloc b } := by
  refine ⟨Nat.le_succ _, fun a ha => Heap.alloc_count_ne _ _ (by omega),
    fun a ha => Heap.alloc_contents_ne _ _ (by omega), fun a ha ha' => ?_, fun a ha => ?_,
    [], .refl _, List.nodup_nil, by simp⟩
  · have hself : a = rt.heap.next := by
      simp only [Heap.alloc_next] at ha'
      omega
    subst hself
    simp only [Heap.alloc_count_self]
    decide
  · simp only [Heap.alloc_next] at ha
    exact Heap.alloc_count_ne _ _ (by omega)

/-- The state behind a new object that is recorded. -/
def recordedNew (rt : Rt) (b : Octets) : Rt :=
  { rt with heap := rt.heap.alloc b, array := PyObjectArray_AddEntry rt.array rt.heap.next }

theorem since_recorded (rt : Rt) (b : Octets) : Since rt (recordedNew rt b) := by
  have h := since_new rt b
  refine ⟨h.next_le, h.count, h.contents, h.fresh, h.beyond, [rt.heap.next],
    recorded_add rt.array rt.heap.next, List.nodup_singleton _, ?_⟩
  intro a ha
  rw [List.mem_singleton] at ha
  subst ha
  exact ⟨le_rfl, Nat.lt_succ_self _, Heap.alloc_count_self _ _⟩

/-- A run between an incref and a decref of the same object. -/
theorem Since.around {rt rt' : Rt} {a : Nat} (h : Since (increfed a rt) rt')
    (ha : a < rt.heap.next) : Since rt (decrefed a rt') := by
  unfold increfed at h
  unfold decrefed
  have hle : rt.heap.next ≤ rt'.heap.next := h.next_le
  refine ⟨hle, fun b hb => ?_, h.contents, fun b hb hb' => ?_, fun b hb => ?_, ?_⟩
  · have hcount := h.count b hb
    simp only [Heap.incref_count] at hcount
    simp only [Heap.decref_count, hcount]
    omega
  · have hne : b ≠ a := by omega
    simp only [Heap.decref_count, if_neg hne, sub_zero]
    exact h.fresh b hb hb'
  · have hne : b ≠ a := by
      simp only [Heap.decref_next] at hb
      omega
    have hcount := h.beyond b hb
    simp only [Heap.incref_count, if_neg hne, add_zero] at hcount
    simp only [Heap.decref_count, if_neg hne, sub_zero]
    exact hcount
  · obtain ⟨new, hperm, hnodup, hnew⟩ := h.recorded
    refine ⟨new, hperm, hnodup, fun b hb => ?_⟩
    obtain ⟨hge, hlt, hone⟩ := hnew b hb
    simp only [Heap.incref_next] at hge
    have hne : b ≠ a := by omega
    refine ⟨hge, hlt, ?_⟩
    simp only [Heap.decref_count, if_neg hne, sub_zero]
    exact hone

/-- A new object that is released again. -/
theorem since_temporary (rt : Rt) (b : Octets) :
    Since rt { rt with heap := (rt.heap.alloc b).decref rt.heap.next } := by
  have h := since_new rt b
  have hother : ∀ a, a ≠ rt.heap.next →
      ((rt.heap.alloc b).decref rt.heap.next).count a = (rt.heap.alloc b).count a := by
    intro a ha
    rw [Heap.decref_count, if_neg ha, sub_zero]
  refine ⟨h.next_le, fun a ha => (hother a (by omega)).trans (h.count a ha), h.contents,
    fun a ha ha' => ?_, fun a ha => ?_, [], .refl _, List.nodup_nil, by simp⟩
  · have hself : a = rt.heap.next := by
      simp only [Heap.decref_next, Heap.alloc_next] at ha'
      omega
    subst hself
    rw [Heap.decref_count, if_pos rfl, Heap.alloc_count_self]
    decide
  · simp only [Heap.decref_next, Heap.alloc_next] at ha
    exact (hother a (by omega)).trans (h.beyond a ha)

theorem StandsAt.since {rt rt' : Rt} (h : Since rt rt') {p : Nat × Option Octets}
    (hp : StandsAt rt.heap p) : StandsAt rt'.heap p := by
  obtain ⟨hlt, halive, hcontents⟩ := hp
  refine ⟨hlt.trans_le h.next_le, ?_, fun b hb => (h.contents p.1 hlt).trans (hcontents b hb)⟩
  unfold Heap.Alive
  rw [h.count p.1 hlt]
  exact halive

/-! ## Strings -/

/-- The string is the contents of an object of the source tree or of a recorded one. -/
def Owned (places : List (Nat × Option Octets)) (rt : Rt) (s : amqp_bytes_t) : Prop :=
  s.owner < rt.heap.next ∧ rt.heap.contents s.owner = s.octets ∧
    (s.owner ∈ places.map Prod.fst ∨ s.owner ∈ rt.array.recorded)

/-- The owner of the string is dead. -/
def Lost (rt : Rt) (s : amqp_bytes_t) : Prop :=
  s.owner < rt.heap.next ∧ rt.heap.count s.owner ≤ 0

theorem Since.mem_recorded {rt rt' : Rt} (h : Since rt rt') {a : Nat}
    (ha : a ∈ rt.array.recorded) : a ∈ rt'.array.recorded := by
  obtain ⟨new, hperm, _⟩ := h.recorded
  exact hperm.mem_iff.mpr (List.mem_append_right new ha)

theorem Owned.since {places : List (Nat × Option Octets)} {rt rt' : Rt} {s : amqp_bytes_t}
    (hs : Owned places rt s) (h : Since rt rt') : Owned places rt' s := by
  obtain ⟨hlt, hcontents, howner⟩ := hs
  exact ⟨hlt.trans_le h.next_le, (h.contents _ hlt).trans hcontents,
    howner.imp_right h.mem_recorded⟩

theorem Lost.since {rt rt' : Rt} {s : amqp_bytes_t} (hs : Lost rt s) (h : Since rt rt') :
    Lost rt' s :=
  ⟨hs.1.trans_le h.next_le, (h.count _ hs.1).trans_le hs.2⟩

/-- All of the strings are owned, or, with a `str` in a list, one of them is lost. -/
def Points (places : List (Nat × Option Octets)) (rt : Rt) (inList : Bool)
    (strings : List amqp_bytes_t) : Prop :=
  if inList then ∃ s ∈ strings, Lost rt s else ∀ s ∈ strings, Owned places rt s

section

variable {places : List (Nat × Option Octets)} {rt rt' : Rt} {b c : Bool}
  {strings strings' : List amqp_bytes_t}

theorem points_owned (h : ∀ s ∈ strings, Owned places rt s) : Points places rt false strings := by
  unfold Points
  rwa [if_neg Bool.false_ne_true]

theorem points_lost {s : amqp_bytes_t} (hs : s ∈ strings) (h : Lost rt s) :
    Points places rt true strings := by
  unfold Points
  rw [if_pos rfl]
  exact ⟨s, hs, h⟩

theorem points_nil : Points places rt false [] := points_owned (by simp)

theorem Points.since (hp : Points places rt b strings) (h : Since rt rt') :
    Points places rt' b strings := by
  unfold Points at hp ⊢
  cases b with
  | true =>
    rw [if_pos rfl] at hp ⊢
    obtain ⟨s, hs, hlost⟩ := hp
    exact ⟨s, hs, hlost.since h⟩
  | false =>
    rw [if_neg Bool.false_ne_true] at hp ⊢
    exact fun s hs => (hp s hs).since h

theorem Points.append (hp : Points places rt b strings) (hq : Points places rt c strings') :
    Points places rt (b || c) (strings ++ strings') := by
  unfold Points at hp hq ⊢
  cases b with
  | true =>
    rw [if_pos rfl] at hp
    rw [Bool.true_or, if_pos rfl]
    obtain ⟨s, hs, hlost⟩ := hp
    exact ⟨s, List.mem_append_left _ hs, hlost⟩
  | false =>
    rw [if_neg Bool.false_ne_true] at hp
    rw [Bool.false_or]
    cases c with
    | true =>
      rw [if_pos rfl] at hq ⊢
      obtain ⟨s, hs, hlost⟩ := hq
      exact ⟨s, List.mem_append_right _ hs, hlost⟩
    | false =>
      rw [if_neg Bool.false_ne_true] at hq ⊢
      intro s hs
      rcases List.mem_append.mp hs with hs | hs
      · exact hp s hs
      · exact hq s hs

end

theorem Points.decref {places : List (Nat × Option Octets)} {rt : Rt} {b : Bool}
    {strings : List amqp_bytes_t} (hp : Points places rt b strings) (a : Nat) :
    Points places (decrefed a rt) b strings := by
  unfold Points at hp ⊢
  cases b with
  | true =>
    rw [if_pos rfl] at hp ⊢
    obtain ⟨s, hs, hlt, hdead⟩ := hp
    refine ⟨s, hs, hlt, ?_⟩
    unfold decrefed
    rw [Heap.decref_count]
    split <;> omega
  | false =>
    rw [if_neg Bool.false_ne_true] at hp ⊢
    exact hp

theorem StandsAt.incref {rt : Rt} {p : Nat × Option Octets} (hp : StandsAt rt.heap p) (a : Nat) :
    StandsAt (increfed a rt).heap p := by
  obtain ⟨hlt, halive, hcontents⟩ := hp
  refine ⟨hlt, ?_, hcontents⟩
  unfold Heap.Alive increfed at *
  rw [Heap.incref_count]
  split <;> omega

/-! ## Runs with no error -/

theorem key_of_run {α : Type} {dkey : PyRef} {k : amqp_bytes_t → Run Rt α} {rt rt' : Rt} {x : α}
    (h : (PyString_AS_AMQBYTES dkey >>= k) rt = (.ret x, rt')) :
    ∃ self b, dkey = .bytes self b ∧ k ⟨self, b⟩ rt = (.ret x, rt') := by
  cases dkey with
  | bytes self b => exact ⟨self, b, rfl, h⟩
  | _ => cases h

theorem keyRead_exists (o : PyObj) :
    ∃ key, librabbitmq.PyString_AS_AMQBYTES o = keyRead key := by
  cases o with
  | bytes b => exact ⟨some b, rfl⟩
  | _ => exact ⟨none, rfl⟩

/-- A member after which no exception is pending. -/
theorem silent_member {v : PyRef} {dst : amqp_table_t} {dkey : PyRef} {rt rt' : Rt}
    {o : Option amqp_table_t} (h : PyDict_ToAMQTable.member dst dkey v rt = (.ret o, rt'))
    (herr : rt'.err = none) :
    rt.err = none ∧ memberRaises v.obj = false ∧ o.isNone = memberStops v.obj := by
  obtain ⟨key, hread⟩ := keyRead_exists dkey.obj
  have herased := member_erased v dst dkey rt
  unfold Erased at herased
  rw [h] at herased
  obtain ⟨_, ho, hpending⟩ :=
    (encoding.member_runs v.obj (tableFields dst) key rt.err dkey.obj hread).of_ret herased
  rw [herr, Option.isSome_none, eq_comm, Bool.or_eq_false_iff] at hpending
  refine ⟨by simpa using hpending.1, hpending.2, ?_⟩
  cases o with
  | none =>
    cases hs : memberStops v.obj with
    | true => rfl
    | false =>
      rw [hs] at ho
      cases ho
  | some t =>
    cases hs : memberStops v.obj with
    | true =>
      rw [hs] at ho
      cases ho
    | false => rfl

theorem silent_members {members : PyRefMembers} {dst t : amqp_table_t} {rt rt' : Rt}
    (h : PyDict_ToAMQTable.loop dst members rt = (.ret t, rt')) (herr : rt'.err = none) :
    rt.err = none := by
  have herased := members_erased members dst rt
  unfold Erased at herased
  rw [h] at herased
  obtain ⟨_, _, hpending⟩ :=
    (encoding.members_run (memberObjs members) (tableFields dst) rt.err).of_ret herased
  rw [herr, Option.isSome_none, eq_comm, Bool.or_eq_false_iff] at hpending
  simpa using hpending.1

/-- An item after which no exception is pending has its entry. -/
theorem silent_item {v : PyRef} {dst : amqp_array_t} {item_tmp : Option Nat} {rt rt' : Rt}
    {r : Option amqp_array_t × Option Nat × Option Nat}
    (h : PyIter_ToAMQArray.item item_tmp dst v rt = (.ret r, rt')) (herr : rt'.err = none) :
    rt.err = none ∧ itemRaises v.obj = false ∧ r.1.isSome := by
  have herased := item_erased v item_tmp dst rt
  unfold Erased at herased
  rw [h] at herased
  obtain ⟨_, hr, hpending⟩ :=
    (encoding.item_runs v.obj (arrayFields dst) rt.err).of_ret herased
  rw [herr, Option.isSome_none, eq_comm, Bool.or_eq_false_iff] at hpending
  refine ⟨by simpa using hpending.1, hpending.2, ?_⟩
  obtain ⟨o, item'⟩ := r
  cases o with
  | some t => rfl
  | none =>
    cases hs : itemStops v.obj with
    | true =>
      rw [itemRaises_of_stops hs] at hpending
      cases hpending.2
    | false =>
      rw [hs] at hr
      cases hr

theorem silent_items {items : List PyRef} {src iterator : Nat} {item_tmp : Option Nat}
    {dst a : amqp_array_t} {rt rt' : Rt}
    (h : PyIter_ToAMQArray.loop src iterator item_tmp dst items rt = (.ret a, rt'))
    (herr : rt'.err = none) : rt.err = none := by
  have herased := items_erased items src iterator item_tmp dst rt
  unfold Erased at herased
  rw [h] at herased
  obtain ⟨_, _, hpending⟩ :=
    (encoding.items_run (itemObjs items) (arrayFields dst) rt.err).of_ret herased
  rw [herr, Option.isSome_none, eq_comm, Bool.or_eq_false_iff] at hpending
  simpa using hpending.1

/-! ## What each loop leaves -/

section

variable {places : List (Nat × Option Octets)} {rt rt' : Rt}

theorem Since.of_same {rt'' : Rt} (h : Since rt rt') (hheap : rt''.heap = rt'.heap)
    (harray : rt''.array = rt'.array) : Since rt rt'' := by
  refine ⟨?_, ?_, ?_, ?_, ?_, ?_⟩
  · rw [hheap]
    exact h.next_le
  · rw [hheap]
    exact h.count
  · rw [hheap]
    exact h.contents
  · rw [hheap]
    exact h.fresh
  · rw [hheap]
    exact h.beyond
  · rw [hheap, harray]
    exact h.recorded

theorem owned_of_stands {self : Nat} {b : Octets} (h : StandsAt rt.heap (self, some b))
    (hp : (self, some b) ∈ places) : Owned places rt ⟨self, b⟩ :=
  ⟨h.1, h.2.2 b rfl, .inl (List.mem_map_of_mem hp)⟩

theorem owned_of_recorded (rt : Rt) (b : Octets) :
    Owned places (recordedNew rt b) ⟨rt.heap.next, b⟩ :=
  ⟨Nat.lt_succ_self _, Heap.alloc_contents_self _ _,
    .inr ((recorded_add rt.array rt.heap.next).mem_iff.mpr List.mem_cons_self)⟩

/-- A key that is a `bytes` is owned. -/
def KeyOwned (places : List (Nat × Option Octets)) (rt : Rt) (dkey : PyRef) : Prop :=
  ∀ self b, dkey = .bytes self b → Owned places rt ⟨self, b⟩

theorem maybeUnicode_owned {key : Nat × PyKey} {dkey : PyRef} (hp : keyPlace key ∈ places)
    (hstands : ∀ p ∈ places, StandsAt rt.heap p)
    (h : PyObjectArray_Maybe_Unicode (keyRef key) rt = (.ret dkey, rt')) :
    Since rt rt' ∧ KeyOwned places rt' dkey := by
  obtain ⟨self, key⟩ := key
  cases key with
  | bytes b =>
    cases h
    refine ⟨.refl _, ?_⟩
    rintro self' b' ⟨⟩
    exact owned_of_stands (hstands _ hp) hp
  | other id =>
    cases h
    refine ⟨.refl _, ?_⟩
    rintro self' b' ⟨⟩
  | str s =>
    have hrun : (encodeWith (asciiEncode s) >>= record) rt = (.ret dkey, rt') := h
    cases hs : asciiEncode s with
    | none =>
      rw [hs] at hrun
      cases hrun
      refine ⟨(Since.refl rt).of_same rfl rfl, ?_⟩
      rintro self' b' ⟨⟩
    | some b =>
      rw [hs] at hrun
      cases hrun
      refine ⟨since_recorded rt b, ?_⟩
      rintro self' b' ⟨⟩
      exact owned_of_recorded rt b

/-- A member has got its entry. -/
def Entered (places : List (Nat × Option Octets)) (rt : Rt) (dst : amqp_table_t) (inList : Bool)
    (t : amqp_table_t) : Prop :=
  ∃ key f, t = dst ++ [(key, f)] ∧ Owned places rt key ∧ Points places rt inList f.strings

/-- What the members of a dict have left. -/
def MembersLeft (places : List (Nat × Option Octets)) (rt : Rt) (dst : amqp_table_t)
    (members : PyMembers) (t : amqp_table_t) : Prop :=
  if membersStop members then t = []
  else ∃ t', t = dst ++ t' ∧ Points places rt (membersListStr members) (tableStrings t')

/-- What the items of a list have left, at the state with the list given back. -/
def ItemsLeft (places : List (Nat × Option Octets)) (src : Nat) (rt rt' : Rt) (dst : amqp_array_t)
    (items : List PyObj) (a : amqp_array_t) : Prop :=
  ∃ rt1, Since rt rt1 ∧ rt' = decrefed src rt1 ∧
    ∃ a', a = dst ++ a' ∧ Points places rt' (itemsListStr items) (arrayStrings a')

theorem entered_plain {dst : amqp_table_t} {key : amqp_bytes_t} {f : amqp_field_value_t}
    (hkey : Owned places rt key) (hf : f.strings = []) :
    Entered places rt dst false (dst ++ [(key, f)]) := by
  refine ⟨key, f, rfl, hkey, ?_⟩
  rw [hf]
  exact points_nil

/-- A dict as a value. -/
theorem MembersLeft.points {members : PyMembers} {t : amqp_table_t}
    (h : MembersLeft places rt [] members t) :
    Points places rt (!membersStop members && membersListStr members) (tableStrings t) := by
  unfold MembersLeft at h
  cases hs : membersStop members with
  | true =>
    rw [hs, if_pos rfl] at h
    subst h
    exact points_nil
  | false =>
    rw [hs, if_neg Bool.false_ne_true] at h
    obtain ⟨t', rfl, hp⟩ := h
    exact hp

/-- A list as a value, from its iterator on. -/
theorem ItemsLeft.since {src : Nat} {items : List PyObj} {a : amqp_array_t}
    (h : ItemsLeft places src (gotIter src rt) rt' [] items a) (hsrc : src < rt.heap.next) :
    Since rt rt' ∧ Points places rt' (itemsListStr items) (arrayStrings a) := by
  obtain ⟨rt1, hsince, rfl, a', rfl, hp⟩ := h
  exact ⟨(since_new rt []).trans (Since.around hsince (Nat.lt_succ_of_lt hsrc)), hp⟩

theorem stands_gotIter (hstands : ∀ p ∈ places, StandsAt rt.heap p) (src : Nat) :
    ∀ p ∈ places, StandsAt (gotIter src rt).heap p :=
  fun p hp => ((hstands p hp).since (since_new rt [])).incref src

end

/-- A member with a plain field. -/
theorem plain_left {places : List (Nat × Option Octets)} {rt rt' : Rt} {dst : amqp_table_t}
    {dkey : PyRef} {f : amqp_field_value_t} {o : Option amqp_table_t}
    (hkey : KeyOwned places rt dkey) (hf : f.strings = [])
    (h : (PyString_AS_AMQBYTES dkey >>= fun key => pure (some (dst ++ [(key, f)]))) rt =
      (.ret o, rt')) : Since rt rt' ∧ ∀ t, o = some t → Entered places rt' dst false t := by
  obtain ⟨self, b, rfl, h⟩ := key_of_run h
  cases h
  refine ⟨.refl _, ?_⟩
  rintro t ⟨⟩
  exact entered_plain (hkey self b rfl) hf

/-- What an item has left, behind the decref at the end of its turn. -/
def ItemLeft (places : List (Nat × Option Octets)) (rt rt' : Rt) (dst : amqp_array_t)
    (v : PyObj) (r : Option amqp_array_t × Option Nat × Option Nat) : Prop :=
  ∃ t item, r.1 = some t ∧ r.2.1 = some item ∧ Since rt (decrefed item rt') ∧
    ∃ f, t = dst ++ [f] ∧ Points places (decrefed item rt') (itemListStr v) f.strings

/-- An item that only its own reference is taken of. -/
theorem plain_item_left {places : List (Nat × Option Octets)} {rt : Rt} {self : Nat}
    {dst : amqp_array_t} {f : amqp_field_value_t} {v : PyObj} {item_tmp : Option Nat}
    (hself : self < rt.heap.next) (hp : Points places rt (itemListStr v) f.strings) :
    ItemLeft places rt (increfed self rt) dst v (some (dst ++ [f]), some self, item_tmp) := by
  have hsame : Since rt (decrefed self (increfed self rt)) := (Since.refl _).around hself
  exact ⟨_, self, rfl, rfl, hsame, f, rfl, hp.since hsame⟩

/-- An item whose own items or members are taken between the incref and the decref. -/
theorem nested_item_left {places : List (Nat × Option Octets)} {rt rt' : Rt} {self : Nat}
    {dst : amqp_array_t} {f : amqp_field_value_t} {v : PyObj} {item_tmp : Option Nat}
    (hself : self < rt.heap.next) (hsince : Since (increfed self rt) rt')
    (hp : Points places rt' (itemListStr v) f.strings) :
    ItemLeft places rt rt' dst v (some (dst ++ [f]), some self, item_tmp) :=
  ⟨_, self, rfl, rfl, hsince.around hself, f, rfl, hp.decref self⟩

/-- A `str` item: the `bytes` that the entry points to is released with the item. -/
theorem str_item_left {places : List (Nat × Option Octets)} {rt : Rt} {self : Nat} {b : Octets}
    {dst : amqp_array_t} {s : PyStr} {item_tmp : Option Nat} (hself : self < rt.heap.next) :
    ItemLeft places rt { rt with heap := ((rt.heap.incref self).alloc b).decref self } dst (.str s)
      (some (dst ++ [.utf8 ⟨rt.heap.next, b⟩]), some rt.heap.next, item_tmp) := by
  have hsince := (since_temporary (increfed self rt) b).around hself
  refine ⟨_, _, rfl, rfl, hsince.of_same (Heap.decref_comm _ _ _) rfl, _, rfl, ?_⟩
  refine points_lost (List.mem_singleton_self _) ⟨Nat.lt_succ_self _, ?_⟩
  unfold decrefed
  have hne : rt.heap.next ≠ self := by omega
  have hone : ((rt.heap.incref self).alloc b).count rt.heap.next = 1 :=
    Heap.alloc_count_self (rt.heap.incref self) b
  rw [Heap.decref_count, if_pos rfl, Heap.decref_count, if_neg hne, hone]
  decide

/-- A `str` member: the `bytes` made for it is recorded. -/
theorem str_member_left {places : List (Nat × Option Octets)} {rt rt' : Rt} {dst : amqp_table_t}
    {dkey : PyRef} {b : Octets} {o : Option amqp_table_t} (hkey : KeyOwned places rt dkey)
    (h : (PyString_AS_AMQBYTES dkey >>= fun key =>
      pure (some (dst ++ [(key, .utf8 ⟨rt.heap.next, b⟩)]))) (recordedNew rt b) = (.ret o, rt')) :
    Since rt rt' ∧ ∀ t, o = some t → Entered places rt' dst false t := by
  obtain ⟨self, k, rfl, h⟩ := key_of_run h
  cases h
  have hsince := since_recorded rt b
  refine ⟨hsince, ?_⟩
  rintro t ⟨⟩
  refine ⟨_, _, rfl, (hkey self k rfl).since hsince, points_owned fun s hmem => ?_⟩
  rw [List.mem_singleton.mp hmem]
  exact owned_of_recorded rt b

/-- A list or tuple as a member, by what its items leave. -/
theorem array_member_left {places : List (Nat × Option Octets)} {rt rt' : Rt} {dst : amqp_table_t}
    {dkey : PyRef} {self : Nat} {items : List PyRef} {o : Option amqp_table_t}
    (hkey : KeyOwned places rt dkey) (hself : self < rt.heap.next)
    (hitems : ∀ a, PyIter_ToAMQArray.loop self rt.heap.next none [] items (gotIter self rt) =
      (.ret a, rt') → ItemsLeft places self (gotIter self rt) rt' [] (itemObjs items) a)
    (h : (do
      let key ← PyString_AS_AMQBYTES dkey
      let iterator ← PyObject_GetIter self
      let value ← PyIter_ToAMQArray.loop self iterator none [] items
      return some (dst ++ [(key, .array value)]) : Run Rt (Option amqp_table_t)) rt =
        (.ret o, rt')) :
    Since rt rt' ∧ ∀ t, o = some t → Entered places rt' dst (itemsListStr (itemObjs items)) t := by
  obtain ⟨self', k, rfl, hrun⟩ := key_of_run h
  rw [Run.bind_ret (getIter_apply self rt)] at hrun
  obtain ⟨a, rt1, hloop, hpure⟩ := Run.ret_of_bind hrun
  cases hpure
  obtain ⟨hsince, hpoints⟩ := (hitems a hloop).since hself
  refine ⟨hsince, ?_⟩
  rintro t ⟨⟩
  exact ⟨_, _, rfl, (hkey self' k rfl).since hsince, hpoints⟩

/-- A list or tuple as an item, by what its items leave. -/
theorem array_item_left {places : List (Nat × Option Octets)} {rt rt' : Rt} {self : Nat}
    {dst : amqp_array_t} {items : List PyRef} {v : PyObj} {item_tmp : Option Nat}
    {r : Option amqp_array_t × Option Nat × Option Nat} (hself : self < rt.heap.next)
    (hv : itemListStr v = itemsListStr (itemObjs items))
    (hitems : ∀ a, PyIter_ToAMQArray.loop self rt.heap.next none [] items
      (gotIter self (increfed self rt)) = (.ret a, rt') →
      ItemsLeft places self (gotIter self (increfed self rt)) rt' [] (itemObjs items) a)
    (h : (do
      Py_INCREF self
      let iterator ← PyObject_GetIter self
      let value ← PyIter_ToAMQArray.loop self iterator none [] items
      return (some (dst ++ [.array value]), some self, item_tmp) :
        Run Rt (Option amqp_array_t × Option Nat × Option Nat)) rt = (.ret r, rt')) :
    ItemLeft places rt rt' dst v r := by
  rw [Run.bind_ret (incref_apply self rt),
    Run.bind_ret (getIter_apply self (increfed self rt))] at h
  obtain ⟨a, rt1, hloop, hpure⟩ := Run.ret_of_bind h
  cases hpure
  obtain ⟨hsince, hpoints⟩ := (hitems a hloop).since hself
  rw [← hv] at hpoints
  exact nested_item_left hself hsince hpoints

theorem xdecref_err {a : Option Nat} {rt rt' : Rt} {u : Unit}
    (h : Py_XDECREF a rt = (.ret u, rt')) : rt'.err = rt.err := by
  obtain ⟨rt1, h1, herr⟩ := xdecref_still a rt
  cases h.symm.trans h1
  exact herr

theorem releaseIterator_err {iterator src : Nat} {rt rt' : Rt} {u : Unit}
    (h : releaseIterator iterator src rt = (.ret u, rt')) : rt'.err = rt.err := by
  obtain ⟨rt1, h1, herr⟩ := releaseIterator_still iterator src rt
  cases h.symm.trans h1
  exact herr

mutual

theorem member_left {places : List (Nat × Option Octets)} : ∀ (v : PyRef) {dst : amqp_table_t}
    {dkey : PyRef} {rt rt' : Rt} {o : Option amqp_table_t}, (∀ p ∈ v.places, p ∈ places) →
    (∀ p ∈ places, StandsAt rt.heap p) → KeyOwned places rt dkey →
    PyDict_ToAMQTable.member dst dkey v rt = (.ret o, rt') → rt'.err = none →
    Since rt rt' ∧ ∀ t, o = some t → Entered places rt' dst (listStr v.obj) t
  | .null, dst, dkey, rt, rt', o, hp, hstands, hkey, hrun, herr => by
    rw [PyDict_ToAMQTable.member] at hrun
    cases hrun
  | .none _, dst, dkey, rt, rt', o, hp, hstands, hkey, hrun, herr => by
    rw [PyDict_ToAMQTable.member] at hrun
    exact plain_left hkey rfl hrun
  | .bool _ _, dst, dkey, rt, rt', o, hp, hstands, hkey, hrun, herr => by
    rw [PyDict_ToAMQTable.member] at hrun
    exact plain_left hkey rfl hrun
  | .int _ n, dst, dkey, rt, rt', o, hp, hstands, hkey, hrun, herr => by
    rw [PyDict_ToAMQTable.member, asLong_bind] at hrun
    have hsame : Since rt { rt with err := (librabbitmq.PyLong_AsLong n rt.err).2 } :=
      (Since.refl rt).of_same rfl rfl
    split at hrun
    · cases hrun
      exact ⟨hsame, fun t ht => by cases ht⟩
    · have hkey' : KeyOwned places { rt with err := (librabbitmq.PyLong_AsLong n rt.err).2 } dkey :=
        fun self b hb => (hkey self b hb).since hsame
      obtain ⟨hsince, hentered⟩ := plain_left hkey' rfl hrun
      exact ⟨hsame.trans hsince, hentered⟩
  | .float _ bits, dst, dkey, rt, rt', o, hp, hstands, hkey, hrun, herr => by
    rw [PyDict_ToAMQTable.member] at hrun
    split at hrun
    · cases hrun
      exact ⟨.refl _, fun t ht => by cases ht⟩
    · exact plain_left hkey rfl hrun
  | .str _ s, dst, dkey, rt, rt', o, hp, hstands, hkey, hrun, herr => by
    rw [PyDict_ToAMQTable.member] at hrun
    unfold PyUnicode_AsEncodedString at hrun
    cases hs : utf8Encode s with
    | none =>
      rw [hs] at hrun
      cases hrun
      exact ⟨(Since.refl rt).of_same rfl rfl, fun t ht => by cases ht⟩
    | some b =>
      rw [hs] at hrun
      exact str_member_left hkey hrun
  | .bytes self b, dst, dkey, rt, rt', o, hp, hstands, hkey, hrun, herr => by
    rw [PyDict_ToAMQTable.member] at hrun
    obtain ⟨self', k, rfl, hrun⟩ := key_of_run hrun
    cases hrun
    have hplace := hp (self, some b) (List.mem_singleton_self _)
    refine ⟨.refl _, ?_⟩
    rintro t ⟨⟩
    refine ⟨_, _, rfl, hkey self' k rfl, points_owned fun s hmem => ?_⟩
    rw [List.mem_singleton.mp hmem]
    exact owned_of_stands (hstands _ hplace) hplace
  | .other _ id, dst, dkey, rt, rt', o, hp, hstands, hkey, hrun, herr => by
    rw [PyDict_ToAMQTable.member] at hrun
    obtain ⟨self', k, rfl, hrun⟩ := key_of_run hrun
    cases hrun
    cases herr
  | .dict _ members, dst, dkey, rt, rt', o, hp, hstands, hkey, hrun, herr => by
    rw [PyDict_ToAMQTable.member] at hrun
    obtain ⟨self', k, rfl, hrun'⟩ := key_of_run hrun
    obtain ⟨t1, rt1, hloop, hpure⟩ := Run.ret_of_bind hrun'
    cases hpure
    have hplaces : ∀ p ∈ memberPlaces members, p ∈ places :=
      fun p h => hp p (List.mem_cons_of_mem _ h)
    obtain ⟨hsince, hleft⟩ := members_left members hplaces hstands hloop herr
    refine ⟨hsince, ?_⟩
    rintro t ⟨⟩
    exact ⟨_, _, rfl, (hkey self' k rfl).since hsince, hleft.points⟩
  | .list self items, dst, dkey, rt, rt', o, hp, hstands, hkey, hrun, herr => by
    rw [PyDict_ToAMQTable.member] at hrun
    have hplaces : ∀ p ∈ itemPlaces items, p ∈ places := fun p h => hp p (List.mem_cons_of_mem _ h)
    have hself := (hstands _ (hp (self, none) List.mem_cons_self)).1
    exact array_member_left hkey hself
      (fun a hloop => items_left items hplaces (stands_gotIter hstands self) hloop herr) hrun
  | .tuple self items, dst, dkey, rt, rt', o, hp, hstands, hkey, hrun, herr => by
    rw [PyDict_ToAMQTable.member] at hrun
    have hplaces : ∀ p ∈ itemPlaces items, p ∈ places := fun p h => hp p (List.mem_cons_of_mem _ h)
    have hself := (hstands _ (hp (self, none) List.mem_cons_self)).1
    exact array_member_left hkey hself
      (fun a hloop => items_left items hplaces (stands_gotIter hstands self) hloop herr) hrun

theorem item_left {places : List (Nat × Option Octets)} : ∀ (v : PyRef) {item_tmp : Option Nat}
    {dst : amqp_array_t} {rt rt' : Rt} {r : Option amqp_array_t × Option Nat × Option Nat},
    (∀ p ∈ v.places, p ∈ places) → (∀ p ∈ places, StandsAt rt.heap p) →
    PyIter_ToAMQArray.item item_tmp dst v rt = (.ret r, rt') → rt'.err = none →
    ItemLeft places rt rt' dst v.obj r
  | .null, item_tmp, dst, rt, rt', r, hp, hstands, hrun, herr => by
    rw [PyIter_ToAMQArray.item] at hrun
    cases hrun
  | .none self, item_tmp, dst, rt, rt', r, hp, hstands, hrun, herr => by
    rw [PyIter_ToAMQArray.item] at hrun
    cases hrun
    exact plain_item_left (hstands _ (hp (self, none) (List.mem_singleton_self _))).1 points_nil
  | .bool self b, item_tmp, dst, rt, rt', r, hp, hstands, hrun, herr => by
    rw [PyIter_ToAMQArray.item] at hrun
    cases hrun
    exact plain_item_left (hstands _ (hp (self, none) (List.mem_singleton_self _))).1 points_nil
  | .int self n, item_tmp, dst, rt, rt', r, hp, hstands, hrun, herr => by
    rw [PyIter_ToAMQArray.item, Run.bind_ret (incref_apply self rt), asLong_bind] at hrun
    cases hrun
    refine nested_item_left (hstands _ (hp (self, none) (List.mem_singleton_self _))).1
      ((Since.refl _).of_same rfl rfl) points_nil
  | .float self bits, item_tmp, dst, rt, rt', r, hp, hstands, hrun, herr => by
    rw [PyIter_ToAMQArray.item] at hrun
    cases hrun
    cases herr
  | .str self s, item_tmp, dst, rt, rt', r, hp, hstands, hrun, herr => by
    rw [PyIter_ToAMQArray.item] at hrun
    unfold PyUnicode_AsASCIIString at hrun
    cases hs : asciiEncode s with
    | none =>
      rw [hs] at hrun
      cases hrun
      cases herr
    | some b =>
      rw [hs] at hrun
      cases hrun
      exact str_item_left (hstands _ (hp (self, none) (List.mem_singleton_self _))).1
  | .bytes self b, item_tmp, dst, rt, rt', r, hp, hstands, hrun, herr => by
    rw [PyIter_ToAMQArray.item] at hrun
    cases hrun
    have hplace := hp (self, some b) (List.mem_singleton_self _)
    refine plain_item_left (hstands _ hplace).1 (points_owned fun s hmem => ?_)
    rw [List.mem_singleton.mp hmem]
    exact owned_of_stands (hstands _ hplace) hplace
  | .other self id, item_tmp, dst, rt, rt', r, hp, hstands, hrun, herr => by
    rw [PyIter_ToAMQArray.item] at hrun
    cases hrun
    cases herr
  | .dict self members, item_tmp, dst, rt, rt', r, hp, hstands, hrun, herr => by
    rw [PyIter_ToAMQArray.item, Run.bind_ret (incref_apply self rt)] at hrun
    obtain ⟨t1, rt1, hloop, hpure⟩ := Run.ret_of_bind hrun
    cases hpure
    have hplaces : ∀ p ∈ memberPlaces members, p ∈ places :=
      fun p h => hp p (List.mem_cons_of_mem _ h)
    obtain ⟨hsince, hleft⟩ := members_left members hplaces
      (fun p h => (hstands p h).incref self) hloop herr
    exact nested_item_left (hstands _ (hp (self, none) List.mem_cons_self)).1 hsince hleft.points
  | .list self items, item_tmp, dst, rt, rt', r, hp, hstands, hrun, herr => by
    rw [PyIter_ToAMQArray.item] at hrun
    have hstands' : ∀ p ∈ places, StandsAt (increfed self rt).heap p :=
      fun p h => (hstands p h).incref self
    have hplaces : ∀ p ∈ itemPlaces items, p ∈ places := fun p h => hp p (List.mem_cons_of_mem _ h)
    have hself := (hstands _ (hp (self, none) List.mem_cons_self)).1
    exact array_item_left hself rfl
      (fun a hloop => items_left items hplaces (stands_gotIter hstands' self) hloop herr) hrun
  | .tuple self items, item_tmp, dst, rt, rt', r, hp, hstands, hrun, herr => by
    rw [PyIter_ToAMQArray.item] at hrun
    have hstands' : ∀ p ∈ places, StandsAt (increfed self rt).heap p :=
      fun p h => (hstands p h).incref self
    have hplaces : ∀ p ∈ itemPlaces items, p ∈ places := fun p h => hp p (List.mem_cons_of_mem _ h)
    have hself := (hstands _ (hp (self, none) List.mem_cons_self)).1
    exact array_item_left hself rfl
      (fun a hloop => items_left items hplaces (stands_gotIter hstands' self) hloop herr) hrun

theorem members_left {places : List (Nat × Option Octets)} : ∀ (members : PyRefMembers)
    {dst t : amqp_table_t} {rt rt' : Rt}, (∀ p ∈ memberPlaces members, p ∈ places) →
    (∀ p ∈ places, StandsAt rt.heap p) →
    PyDict_ToAMQTable.loop dst members rt = (.ret t, rt') → rt'.err = none →
    Since rt rt' ∧ MembersLeft places rt' dst (memberObjs members) t
  | [], dst, t, rt, rt', hp, hstands, hrun, herr => by
    rw [PyDict_ToAMQTable.loop] at hrun
    cases hrun
    exact ⟨.refl _, [], (List.append_nil _).symm, points_nil⟩
  | (key, value) :: rest, dst, t, rt, rt', hp, hstands, hrun, herr => by
    rw [PyDict_ToAMQTable.loop] at hrun
    obtain ⟨dkey, rt1, hdkey, hrun⟩ := Run.ret_of_bind hrun
    obtain ⟨o, rt2, hmember, hrun⟩ := Run.ret_of_bind hrun
    have hplaces : ∀ p ∈ value.places, p ∈ places :=
      fun p h => hp p (List.mem_cons_of_mem _ (List.mem_append_left _ h))
    have hplaces' : ∀ p ∈ memberPlaces rest, p ∈ places :=
      fun p h => hp p (List.mem_cons_of_mem _ (List.mem_append_right _ h))
    obtain ⟨hsince1, hkey⟩ := maybeUnicode_owned (hp _ List.mem_cons_self) hstands hdkey
    have hstands1 : ∀ p ∈ places, StandsAt rt1.heap p := fun p h => (hstands p h).since hsince1
    have hstop : membersStop (memberObjs ((key, value) :: rest)) =
        (memberStops value.obj || membersStop (memberObjs rest)) := rfl
    unfold MembersLeft
    rw [hstop]
    cases o with
    | none =>
      cases hrun
      obtain ⟨_, _, hstops⟩ := silent_member hmember herr
      obtain ⟨hsince2, _⟩ := member_left value hplaces hstands1 hkey hmember herr
      rw [← hstops]
      exact ⟨hsince1.trans hsince2, rfl⟩
    | some dst' =>
      have herr2 := silent_members hrun herr
      obtain ⟨_, _, hstops⟩ := silent_member hmember herr2
      obtain ⟨hsince2, hentered⟩ := member_left value hplaces hstands1 hkey hmember herr2
      obtain ⟨k, f, rfl, hk, hf⟩ := hentered dst' rfl
      obtain ⟨hsince3, hleft⟩ := members_left rest hplaces'
        (fun p h => (hstands1 p h).since hsince2) hrun herr
      refine ⟨hsince1.trans (hsince2.trans hsince3), ?_⟩
      rw [← hstops, Option.isNone_some, Bool.false_or]
      unfold MembersLeft at hleft
      cases hs : membersStop (memberObjs rest) with
      | true =>
        rw [hs, if_pos rfl] at hleft
        rw [if_pos rfl]
        exact hleft
      | false =>
        rw [hs, if_neg Bool.false_ne_true] at hleft
        obtain ⟨t', rfl, hpoints⟩ := hleft
        rw [if_neg Bool.false_ne_true]
        refine ⟨(k, f) :: t', by simp, ?_⟩
        have hown : Points places rt' false [k] := by
          refine points_owned fun s hmem => ?_
          rw [List.mem_singleton.mp hmem]
          exact hk.since hsince3
        exact hown.append ((hf.since hsince3).append hpoints)

theorem items_left {places : List (Nat × Option Octets)} : ∀ (items : List PyRef)
    {src iterator : Nat} {item_tmp : Option Nat} {dst a : amqp_array_t} {rt rt' : Rt},
    (∀ p ∈ itemPlaces items, p ∈ places) → (∀ p ∈ places, StandsAt rt.heap p) →
    PyIter_ToAMQArray.loop src iterator item_tmp dst items rt = (.ret a, rt') → rt'.err = none →
    ItemsLeft places src rt rt' dst (itemObjs items) a
  | [], src, iterator, item_tmp, dst, a, rt, rt', hp, hstands, hrun, herr => by
    rw [PyIter_ToAMQArray.loop] at hrun
    cases hrun
    exact ⟨rt, .refl _, rfl, [], (List.append_nil _).symm, points_nil⟩
  | item :: rest, src, iterator, item_tmp, dst, a, rt, rt', hp, hstands, hrun, herr => by
    rw [PyIter_ToAMQArray.loop] at hrun
    obtain ⟨⟨o, item', item_tmp'⟩, rt1, hitem, hrun⟩ := Run.ret_of_bind hrun
    have hplaces : ∀ p ∈ item.places, p ∈ places := fun p h => hp p (List.mem_append_left _ h)
    have hplaces' : ∀ p ∈ itemPlaces rest, p ∈ places := fun p h => hp p (List.mem_append_right _ h)
    cases o with
    | none =>
      -- the way out by `item_error:` keeps the exception that the item has set
      obtain ⟨_, rt2, htmp, hrun⟩ := Run.ret_of_bind hrun
      obtain ⟨_, rt3, hdecref, hrun⟩ := Run.ret_of_bind hrun
      obtain ⟨_, rt4, hiter, hrun⟩ := Run.ret_of_bind hrun
      cases hrun
      have herr1 := ((releaseIterator_err hiter).trans
        ((xdecref_err hdecref).trans (xdecref_err htmp))).symm.trans herr
      obtain ⟨_, _, hsome⟩ := silent_item hitem herr1
      cases hsome
    | some dst' =>
      obtain ⟨_, rt2, hdecref, hrun⟩ := Run.ret_of_bind hrun
      have herr2 := silent_items hrun herr
      have herr1 := (xdecref_err hdecref).symm.trans herr2
      obtain ⟨t, self, ht, hself, hsince, f, rfl, hf⟩ := item_left item hplaces hstands hitem herr1
      cases ht
      cases hself
      cases hdecref
      obtain ⟨rt5, hsince', rfl, a', rfl, hpoints⟩ := items_left rest hplaces'
        (fun p h => (hstands p h).since hsince) hrun herr
      refine ⟨rt5, hsince.trans hsince', rfl, f :: a', by simp, ?_⟩
      exact ((hf.since hsince').decref src).append hpoints

end

/-! ## The table until the release -/

/-- The references that are held for a table: the caller's to the source tree, and those of
the tracking array. -/
def held (src : PyRefMembers) (array : pyobject_array_t) (a : Nat) : Int :=
  (if a ∈ (memberPlaces src).map Prod.fst then 1 else 0) + array.recorded.count a

/-- An object of the source tree or a recorded one owns the string, and whatever the others do
while the tree and the array are held, that object is alive with the octets of the string. -/
def OwnedUntilReleased (src : PyRefMembers) (rt : Rt) (s : amqp_bytes_t) : Prop :=
  (s.owner ∈ (memberPlaces src).map Prod.fst ∨ s.owner ∈ rt.array.recorded) ∧
    ∀ h, ReflTransGen (Others (held src rt.array)) rt.heap h →
      h.Alive s.owner ∧ h.contents s.owner = s.octets

theorem held_pos {src : PyRefMembers} {array : pyobject_array_t} {a : Nat}
    (h : a ∈ (memberPlaces src).map Prod.fst ∨ a ∈ array.recorded) : 0 < held src array a := by
  unfold held
  rcases h with h | h
  · rw [if_pos h]
    omega
  · have := List.count_pos_iff.mpr h
    split <;> omega

/-- A source tree that the caller holds stands. -/
theorem stands_of_held {src : PyRefMembers} {rt : Rt} (hheld : Held (held src rt.array) rt.heap)
    (hcontents : ∀ p ∈ memberPlaces src, ∀ b, p.2 = some b → rt.heap.contents p.1 = b) :
    ∀ p ∈ memberPlaces src, StandsAt rt.heap p := by
  intro p hp
  have hpos : 0 < held src rt.array p.1 := held_pos (.inl (List.mem_map_of_mem hp))
  refine ⟨hheld.given_of_pos hpos, ?_, hcontents p hp⟩
  have := hheld.counted p.1
  unfold Heap.Alive
  omega

/-- The tree and the array are still held after a run with no error. -/
theorem Since.held {src : PyRefMembers} {rt rt' : Rt} (h : Since rt rt')
    (hheld : Held (held src rt.array) rt.heap) : Held (held src rt'.array) rt'.heap := by
  obtain ⟨new, hperm, hnodup, hnew⟩ := h.recorded
  have hcount : ∀ a,
      ownership.held src rt'.array a = ownership.held src rt.array a + new.count a := by
    intro a
    unfold ownership.held
    rw [hperm.count_eq a, List.count_append]
    push_cast
    omega
  have hle := h.next_le
  refine ⟨fun a => ?_, fun a ha => ?_⟩
  · have hold := hheld.counted a
    rw [hcount]
    by_cases hlt : a < rt.heap.next
    · have hnot : a ∉ new := fun hmem => by
        have := hnew a hmem
        omega
      rw [List.count_eq_zero_of_not_mem hnot, h.count a hlt]
      omega
    · have hgiven := hheld.given a (by omega)
      by_cases hmem : a ∈ new
      · rw [hnodup.count, if_pos hmem, (hnew a hmem).2.2]
        omega
      · rw [List.count_eq_zero_of_not_mem hmem]
        by_cases hlt' : a < rt'.heap.next
        · have := h.fresh a (by omega) hlt'
          omega
        · rw [h.beyond a (by omega)]
          omega
  · have hnot : a ∉ new := fun hmem => by
      have := hnew a hmem
      omega
    rw [hcount, List.count_eq_zero_of_not_mem hnot]
    have := hheld.given a (by omega)
    omega

/-- The strings of an encoded table are owned until the release exactly when no `str` stands
in a list or tuple that gets into the table. -/
theorem the_strings_are_owned_exactly_without_a_str_in_a_list (src : PyRefMembers) (rt rt' : Rt)
    (table : amqp_table_t) (hheld : Held (held src rt.array) rt.heap)
    (hcontents : ∀ p ∈ memberPlaces src, ∀ b, p.2 = some b → rt.heap.contents p.1 = b)
    (hrun : PyDict_ToAMQTable src rt = (.ret table, rt')) (herr : rt'.err = none) :
    (∀ s ∈ tableStrings table, OwnedUntilReleased src rt' s) ↔
      listStr (.dict (memberObjs src)) = false := by
  obtain ⟨hsince, hleft⟩ :=
    members_left src (fun p hp => hp) (stands_of_held hheld hcontents) hrun herr
  have hpoints := hleft.points
  have hheld' := hsince.held hheld
  unfold Points at hpoints
  rw [listStr]
  cases hlist : (!membersStop (memberObjs src) && membersListStr (memberObjs src)) with
  | true =>
    rw [hlist, if_pos rfl] at hpoints
    obtain ⟨s, hs, _, hdead⟩ := hpoints
    refine ⟨fun h => ?_, fun h => by cases h⟩
    have halive := ((h s hs).2 rt'.heap .refl).1
    unfold Heap.Alive at halive
    omega
  | false =>
    rw [hlist, if_neg Bool.false_ne_true] at hpoints
    refine ⟨fun _ => rfl, fun _ s hs => ?_⟩
    obtain ⟨_, hoctets, howner⟩ := hpoints s hs
    refine ⟨howner, fun h hsteps => ?_⟩
    obtain ⟨halive, hsame⟩ := hheld'.stays hsteps (held_pos howner)
    exact ⟨halive, hsame.trans hoctets⟩

/-- A state with `n` objects, each held once, and nothing recorded. -/
def startOf (n : Nat) : Rt :=
  ⟨⟨fun a => if a < n then 1 else 0, fun _ => [120], n⟩, .zero, none⟩

theorem held_startOf {src : PyRefMembers} {n : Nat}
    (h : ∀ a ∈ (memberPlaces src).map Prod.fst, a < n) :
    Held (held src (startOf n).array) (startOf n).heap := by
  have hheld : ∀ a, held src (startOf n).array a =
      if a ∈ (memberPlaces src).map Prod.fst then 1 else 0 := by
    intro a
    simp [held, startOf, pyobject_array_t.zero, pyobject_array_t.recorded]
  refine ⟨fun a => ?_, fun a ha => ?_⟩
  · rw [hheld]
    by_cases hmem : a ∈ (memberPlaces src).map Prod.fst
    · simp [hmem, startOf, h a hmem]
    · rw [if_neg hmem]
      unfold startOf
      dsimp only
      split <;> decide
  · have hmem : a ∉ (memberPlaces src).map Prod.fst := fun hmem => absurd (h a hmem) (by
      have : n ≤ a := ha
      omega)
    rw [hheld, if_neg hmem]

/-- The strings of `{"k": "s", "l": [b"x", 1]}`. -/
theorem a_str_of_a_dict_is_owned : ∃ table rt',
    PyDict_ToAMQTable [((0, .str (pyStr "k")), .str 1 (pyStr "s")),
      ((2, .str (pyStr "l")), .list 3 [.bytes 4 [120], .int 5 1])] (startOf 6) =
      (.ret table, rt') ∧
    ∀ s ∈ tableStrings table, OwnedUntilReleased [((0, .str (pyStr "k")), .str 1 (pyStr "s")),
      ((2, .str (pyStr "l")), .list 3 [.bytes 4 [120], .int 5 1])] rt' s := by
  refine ⟨_, _, rfl, (the_strings_are_owned_exactly_without_a_str_in_a_list _ (startOf 6) _ _
    (held_startOf ?_) ?_ rfl rfl).mpr rfl⟩
  · decide
  · decide

/-- The `bytes` made for the item of `{"k": ["s"]}` is dead when the table is returned. -/
theorem a_str_of_a_list_is_lost : ∃ table rt',
    PyDict_ToAMQTable [((0, .str (pyStr "k")), .list 1 [.str 2 (pyStr "s")])] (startOf 3) =
      (.ret table, rt') ∧ rt'.err = none ∧
    ∃ s ∈ tableStrings table,
      ¬ OwnedUntilReleased [((0, .str (pyStr "k")), .list 1 [.str 2 (pyStr "s")])] rt' s := by
  refine ⟨[(⟨3, [107]⟩, .array [.utf8 ⟨5, [115]⟩])], _, rfl, rfl, ⟨5, [115]⟩, ?_, fun h => ?_⟩
  · simp [tableStrings, amqp_field_value_t.strings, arrayStrings]
  · have halive := (h.2 _ .refl).1
    exact absurd halive (by decide)

end librabbitmq.ownership
