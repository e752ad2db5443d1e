-- The table encoder as functions of the value alone: when it crashes, when it raises,
-- and the table or the array that it gives. It reads a key only behind the checks of
-- the value, so a value at which it leaves a dict can hide a bad key.
import Librabbitmq.TableErrors

namespace librabbitmq.encoding

open table_errors

/-! ## Keys -/

/-- The octets of a key that the encoder can read. -/
def keyOctets : PyKey → Option Octets
  | .str s => asciiEncode s
  | .bytes b => some b
  | .other _ => none

/-- A key that sets an exception, and that is NULL from then on. -/
def keyRaises : PyKey → Bool
  | .str s => !decide (IsAscii s)
  | _ => false

/-- The read of a key. -/
def keyRead : Option Octets → Outcome Octets
  | some k => .ret k
  | none => .crash

theorem key_read (key : PyKey) (err : Option PyErr) :
    PyString_AS_AMQBYTES (PyObjectArray_Maybe_Unicode key.toObj err).1 = keyRead (keyOctets key) ∧
      (PyObjectArray_Maybe_Unicode key.toObj err).2.isSome = (err.isSome || keyRaises key) := by
  cases key with
  | bytes b => exact ⟨rfl, by simp [PyObjectArray_Maybe_Unicode, PyKey.toObj, keyRaises]⟩
  | other id => exact ⟨rfl, by simp [PyObjectArray_Maybe_Unicode, PyKey.toObj, keyRaises]⟩
  | str s =>
    cases hs : asciiEncode s <;>
      simp [PyKey.toObj, PyObjectArray_Maybe_Unicode, PyUnicode_AsASCIIString, keyOctets, keyRaises,
        keyRead, IsAscii, PyString_AS_AMQBYTES, hs]

theorem keyRaises_of_octets {key : PyKey} {k : Octets} (h : keyOctets key = some k) :
    keyRaises key = false := by
  cases key with
  | str s =>
    have hascii : IsAscii s := by simp [IsAscii, show asciiEncode s = some k from h]
    simp [keyRaises, hascii]
  | _ => rfl

/-! ## Crashes and exceptions -/

/-- The encoder reads the key of a member with this value. -/
def readsKey : PyObj → Bool
  | .other _ => true
  | v => !memberStops v

mutual

/-- The encoder crashes inside of the value. -/
def valueCrashes : PyObj → Bool
  | .null => true
  | .dict members => membersCrash members
  | .list items => itemsCrash items
  | .tuple items => itemsCrash items
  | _ => false

def membersCrash : PyMembers → Bool
  | [] => false
  | (key, value) :: rest => (readsKey value && (keyOctets key).isNone) || valueCrashes value ||
      (!memberStops value && membersCrash rest)

def itemsCrash : List PyObj → Bool
  | [] => false
  | item :: rest => valueCrashes item || (!itemStops item && itemsCrash rest)

end

mutual

/-- The encoder sets an exception for a dict member. -/
def memberRaises : PyObj → Bool
  | .int n => !decide (FitsLong n)
  | .str s => !decide (IsUtf8 s)
  | .other _ => true
  | .dict members => membersRaise members
  | .list items => itemsRaise items
  | .tuple items => itemsRaise items
  | _ => false

/-- The encoder sets an exception for a list or tuple item. -/
def itemRaises : PyObj → Bool
  | .int n => !decide (FitsLong n)
  | .str s => !decide (IsAscii s)
  | .float _ => true
  | .other _ => true
  | .dict members => membersRaise members
  | .list items => itemsRaise items
  | .tuple items => itemsRaise items
  | _ => false

def membersRaise : PyMembers → Bool
  | [] => false
  | (key, value) :: rest => keyRaises key || memberRaises value ||
      (!memberStops value && membersRaise rest)

def itemsRaise : List PyObj → Bool
  | [] => false
  | item :: rest => itemRaises item || (!itemStops item && itemsRaise rest)

end

/-! ## Fields -/

/-- The encoder leaves the dict, and gives the empty table. -/
def membersStop (members : PyMembers) : Bool := members.any fun e => memberStops e.2

mutual

/-- The field of a dict member. -/
def memberField : PyObj → amqp_field_value_t
  | .bool b => .boolean b
  | .int n => .i32 (BitVec.ofInt 32 n)
  | .float bits => .f64 bits
  | .str s => .utf8 ((utf8Encode s).getD [])
  | .bytes b => .utf8 b
  | .dict members => .table (if membersStop members then [] else entries members)
  | .list items => .array (fields items)
  | .tuple items => .array (fields items)
  | _ => .void

/-- The field of a list or tuple item. -/
def itemField : PyObj → amqp_field_value_t
  | .bool b => .i32 (BitVec.ofInt 32 b.toInt)
  | .int n => .i32 (BitVec.ofInt 32 (if FitsLong n then n else -1))
  | .str s => .utf8 ((asciiEncode s).getD [])
  | .bytes b => .utf8 b
  | .dict members => .table (if membersStop members then [] else entries members)
  | .list items => .array (fields items)
  | .tuple items => .array (fields items)
  | _ => .void

def entries : PyMembers → amqp_table_t
  | [] => []
  | (key, value) :: rest => ((keyOctets key).getD [], memberField value) :: entries rest

/-- The fields up to the item at which the encoder leaves the list. -/
def fields : List PyObj → amqp_array_t
  | [] => []
  | item :: rest => if itemStops item then [] else itemField item :: fields rest

end

/-- The table of a dict. -/
def tableOf (members : PyMembers) : amqp_table_t :=
  if membersStop members then [] else entries members

/-! ## The runs of the encoder -/

section

variable {α : Type} {err : Option PyErr}

/-- A call that crashes, or that returns a value beside an exception that is pending
or not. -/
def Comes (crashes : Bool) (o : Outcome (α × Option PyErr)) (a : α) (pending : Bool) : Prop :=
  if crashes then o = .crash else ∃ err, err.isSome = pending ∧ o = .ret (a, err)

theorem comes_crash {o : Outcome (α × Option PyErr)} {a : α} {pending : Bool} (h : o = .crash) :
    Comes true o a pending := by
  unfold Comes
  rw [if_pos rfl]
  exact h

theorem comes_ret {a : α} {pending : Bool} {err : Option PyErr} (h : err.isSome = pending) :
    Comes false (.ret (a, err)) a pending := by
  unfold Comes
  rw [if_neg Bool.false_ne_true]
  exact ⟨err, h, rfl⟩

theorem Comes.returns {o : Outcome (α × Option PyErr)} {a : α} {pending : Bool}
    (h : Comes false o a pending) : ∃ err, err.isSome = pending ∧ o = .ret (a, err) := by
  unfold Comes at h
  rwa [if_neg Bool.false_ne_true] at h

/-- What a call that returns has come to. -/
theorem Comes.of_ret {c : Bool} {o : Outcome (α × Option PyErr)} {a b : α} {pending : Bool}
    (h : Comes c o a pending) (ho : o = .ret (b, err)) :
    c = false ∧ b = a ∧ err.isSome = pending := by
  unfold Comes at h
  cases c with
  | true =>
    rw [if_pos rfl, ho] at h
    cases h
  | false =>
    rw [if_neg Bool.false_ne_true, ho] at h
    obtain ⟨err', herr', he⟩ := h
    cases he
    exact ⟨rfl, rfl, herr'⟩

/-- What goes on behind a first call that came to something. -/
theorem Comes.bind {β : Type} {c d : Bool} {o : Outcome (α × Option PyErr)} {a : α} {b : β}
    {p q : Bool} {f : α × Option PyErr → Outcome (β × Option PyErr)} (h : Comes c o a p)
    (hf : ∀ err, err.isSome = p → Comes d (f (a, err)) b q) : Comes (c || d) (o >>= f) b q := by
  unfold Comes at h
  cases c with
  | true =>
    rw [if_pos rfl] at h
    rw [h]
    exact comes_crash rfl
  | false =>
    rw [if_neg Bool.false_ne_true] at h
    obtain ⟨err, herr, rfl⟩ := h
    exact hf err herr

theorem Comes.map {β : Type} {c : Bool} {o : Outcome (α × Option PyErr)} {a : α} {b : β} {p : Bool}
    {f : α × Option PyErr → Outcome (β × Option PyErr)} (h : Comes c o a p)
    (hf : ∀ err, f (a, err) = .ret (b, err)) : Comes c (o >>= f) b p := by
  rw [← Bool.or_false c]
  refine h.bind fun err herr => ?_
  rw [hf]
  exact comes_ret herr

/-- What one member comes to: the end of the dict, or an entry. -/
def MemberRuns (dst : amqp_table_t) (key : Option Octets) (v : PyObj) (err : Option PyErr) : Prop :=
  ∀ dkey, PyString_AS_AMQBYTES dkey = keyRead key →
    Comes ((readsKey v && key.isNone) || valueCrashes v) (PyDict_ToAMQTable.member dst dkey v err)
      (if memberStops v then none else some (dst ++ [(key.getD [], memberField v)]))
      (err.isSome || memberRaises v)

/-- What one item comes to. -/
def ItemRuns (dst : amqp_array_t) (v : PyObj) (err : Option PyErr) : Prop :=
  Comes (valueCrashes v) (PyIter_ToAMQArray.item dst v err)
    (if itemStops v then none else some (dst ++ [itemField v])) (err.isSome || itemRaises v)

def MembersRun (dst : amqp_table_t) (members : PyMembers) (err : Option PyErr) : Prop :=
  Comes (membersCrash members) (PyDict_ToAMQTable.loop dst members err)
    (if membersStop members then [] else dst ++ entries members) (err.isSome || membersRaise members)

def ItemsRun (dst : amqp_array_t) (items : List PyObj) (err : Option PyErr) : Prop :=
  Comes (itemsCrash items) (PyIter_ToAMQArray.loop dst items err) (dst ++ fields items)
    (err.isSome || itemsRaise items)

/-- An int: a -1 and an overflow leave the dict before the key is read. -/
theorem memberRuns_int (n : Int) (dst : amqp_table_t) (key : Option Octets) (err : Option PyErr) :
    MemberRuns dst key (.int n) err := by
  intro dkey hread
  rw [PyDict_ToAMQTable.member, PyLong_AsLong, hread]
  by_cases hfits : FitsLong n
  · rw [if_pos hfits]
    by_cases hone : n = -1
    · subst hone
      exact comes_ret (by simp [memberRaises, hfits])
    · have hs : memberStops (.int n) = false := by simp [memberStops, hone, hfits]
      dsimp only
      rw [if_neg hone, hs, readsKey, hs]
      · cases key with
        | none => exact comes_crash rfl
        | some k => exact comes_ret (by simp [memberRaises, hfits])
      · simp
  · have hs : memberStops (.int n) = true := by simp [memberStops, hfits]
    rw [if_neg hfits, hs, readsKey, hs]
    · exact comes_ret (by simp [memberRaises, hfits])
    · simp

theorem memberRuns_float (bits : BitVec 64) (dst : amqp_table_t) (key : Option Octets)
    (err : Option PyErr) : MemberRuns dst key (.float bits) err := by
  intro dkey hread
  rw [PyDict_ToAMQTable.member, hread]
  by_cases hone : bits = minusOneBits
  · subst hone
    exact comes_ret (by simp [memberRaises])
  · have hs : memberStops (.float bits) = false := by simp [memberStops, hone]
    rw [if_neg hone, hs, readsKey, hs]
    · cases key with
      | none => exact comes_crash rfl
      | some k => exact comes_ret (by simp [memberRaises])
    · simp

theorem memberRuns_str (s : PyStr) (dst : amqp_table_t) (key : Option Octets)
    (err : Option PyErr) : MemberRuns dst key (.str s) err := by
  intro dkey hread
  rw [PyDict_ToAMQTable.member, PyUnicode_AsEncodedString, memberField]
  cases hs : utf8Encode s with
  | none =>
    have hstops : memberStops (.str s) = true := by simp [memberStops, IsUtf8, hs]
    rw [hstops, readsKey, hstops]
    · exact comes_ret (by simp [memberRaises, IsUtf8, hs])
    · simp
  | some b =>
    have hstops : memberStops (.str s) = false := by simp [memberStops, IsUtf8, hs]
    dsimp only
    rw [hstops, readsKey, hstops, hread]
    · cases key with
      | none => exact comes_crash rfl
      | some k => exact comes_ret (by simp [memberRaises, IsUtf8, hs])
    · simp

theorem itemRuns_str (s : PyStr) (dst : amqp_array_t) (err : Option PyErr) :
    ItemRuns dst (.str s) err := by
  unfold ItemRuns
  rw [PyIter_ToAMQArray.item, PyUnicode_AsASCIIString, itemField]
  cases hs : asciiEncode s with
  | none =>
    have hstops : itemStops (.str s) = true := by simp [itemStops, IsAscii, hs]
    rw [hstops]
    exact comes_ret (by simp [itemRaises, IsAscii, hs])
  | some b =>
    have hstops : itemStops (.str s) = false := by simp [itemStops, IsAscii, hs]
    rw [hstops]
    exact comes_ret (by simp [itemRaises, IsAscii, hs])

theorem memberRuns_dict {dst : amqp_table_t} {key : Option Octets} {members : PyMembers}
    (h : MembersRun [] members err) : MemberRuns dst key (.dict members) err := by
  intro dkey hread
  rw [PyDict_ToAMQTable.member, hread]
  cases key with
  | none => exact comes_crash rfl
  | some k => exact h.map fun _ => rfl

theorem memberRuns_array {dst : amqp_table_t} {key : Option Octets} {items : List PyObj}
    {v : PyObj} (hv : v = .list items ∨ v = .tuple items) (h : ItemsRun [] items err) :
    MemberRuns dst key v err := by
  intro dkey hread
  rcases hv with rfl | rfl
  · rw [PyDict_ToAMQTable.member, hread]
    cases key with
    | none => exact comes_crash rfl
    | some k => exact h.map fun _ => rfl
  · rw [PyDict_ToAMQTable.member, hread]
    cases key with
    | none => exact comes_crash rfl
    | some k => exact h.map fun _ => rfl

theorem itemRuns_dict {dst : amqp_array_t} {members : PyMembers} (h : MembersRun [] members err) :
    ItemRuns dst (.dict members) err := by
  unfold ItemRuns
  rw [PyIter_ToAMQArray.item]
  exact h.map fun _ => rfl

theorem itemRuns_array {dst : amqp_array_t} {items : List PyObj} {v : PyObj}
    (hv : v = .list items ∨ v = .tuple items) (h : ItemsRun [] items err) : ItemRuns dst v err := by
  unfold ItemRuns
  rcases hv with rfl | rfl
  · rw [PyIter_ToAMQArray.item]
    exact h.map fun _ => rfl
  · rw [PyIter_ToAMQArray.item]
    exact h.map fun _ => rfl

/-- A dict whose first member is met, and the rest where that member gets its entry. -/
theorem membersRun_cons {dst : amqp_table_t} {key : PyKey} {value : PyObj} {rest : PyMembers}
    (hvalue : ∀ err, MemberRuns dst (keyOctets key) value err)
    (hrest : ∀ dst err, MembersRun dst rest err) : MembersRun dst ((key, value) :: rest) err := by
  obtain ⟨hread, hpending⟩ := key_read key err
  have hmember := hvalue (PyObjectArray_Maybe_Unicode key.toObj err).2 _ hread
  have hstop : membersStop ((key, value) :: rest) = (memberStops value || membersStop rest) := rfl
  unfold MembersRun
  rw [PyDict_ToAMQTable.loop, membersCrash, membersRaise, hstop]
  refine hmember.bind fun err1 herr1 => ?_
  rw [hpending] at herr1
  cases hs : memberStops value with
  | true =>
    refine comes_ret ?_
    rw [herr1, Bool.or_assoc]
    simp
  | false =>
    have hrun := hrest (dst ++ [((keyOctets key).getD [], memberField value)]) err1
    unfold MembersRun at hrun
    rw [herr1, List.append_assoc] at hrun
    simpa [Bool.or_assoc, entries] using hrun

/-- A list whose first item is met, and the rest where that item gets its entry. -/
theorem itemsRun_cons {dst : amqp_array_t} {item : PyObj} {rest : List PyObj}
    (hitem : ItemRuns dst item err) (hrest : ∀ dst err, ItemsRun dst rest err) :
    ItemsRun dst (item :: rest) err := by
  unfold ItemsRun
  rw [PyIter_ToAMQArray.loop, itemsCrash, itemsRaise, fields]
  refine Comes.bind hitem fun err1 herr1 => ?_
  cases hs : itemStops item with
  | true =>
    rw [if_pos rfl, if_pos rfl, List.append_nil]
    exact comes_ret (by simpa using herr1)
  | false =>
    have hrun := hrest (dst ++ [itemField item]) err1
    unfold ItemsRun at hrun
    rw [herr1, List.append_assoc] at hrun
    simpa [Bool.or_assoc] using hrun

end

mutual

theorem member_runs : ∀ (v : PyObj) (dst : amqp_table_t) (key : Option Octets)
    (err : Option PyErr), MemberRuns dst key v err
  | .null, dst, key, err => by
    intro dkey hread
    rw [PyDict_ToAMQTable.member, valueCrashes, Bool.or_true]
    exact comes_crash rfl
  | .none, dst, key, err => by
    intro dkey hread
    rw [PyDict_ToAMQTable.member, hread]
    cases key with
    | none => exact comes_crash rfl
    | some k => exact comes_ret (by simp [memberRaises])
  | .bool b, dst, key, err => by
    intro dkey hread
    rw [PyDict_ToAMQTable.member, hread]
    cases key with
    | none => exact comes_crash rfl
    | some k => exact comes_ret (by simp [memberRaises])
  | .int n, dst, key, err => memberRuns_int n dst key err
  | .float bits, dst, key, err => memberRuns_float bits dst key err
  | .str s, dst, key, err => memberRuns_str s dst key err
  | .bytes b, dst, key, err => by
    intro dkey hread
    rw [PyDict_ToAMQTable.member, hread]
    cases key with
    | none => exact comes_crash rfl
    | some k => exact comes_ret (by simp [memberRaises])
  | .list items, dst, key, err => memberRuns_array (.inl rfl) (items_run items [] err)
  | .tuple items, dst, key, err => memberRuns_array (.inr rfl) (items_run items [] err)
  | .dict members, dst, key, err => memberRuns_dict (members_run members [] err)
  | .other id, dst, key, err => by
    intro dkey hread
    rw [PyDict_ToAMQTable.member, hread]
    cases key with
    | none => exact comes_crash rfl
    | some k => exact comes_ret (by simp [memberRaises])

theorem item_runs : ∀ (v : PyObj) (dst : amqp_array_t) (err : Option PyErr), ItemRuns dst v err
  | .null, dst, err => by
    unfold ItemRuns
    rw [PyIter_ToAMQArray.item]
    exact comes_crash rfl
  | .none, dst, err => by
    unfold ItemRuns
    rw [PyIter_ToAMQArray.item]
    exact comes_ret (by simp [itemRaises])
  | .bool b, dst, err => by
    unfold ItemRuns
    rw [PyIter_ToAMQArray.item]
    exact comes_ret (by simp [itemRaises])
  | .int n, dst, err => by
    unfold ItemRuns
    rw [PyIter_ToAMQArray.item, PyLong_AsLong, itemField]
    by_cases hfits : FitsLong n
    · rw [if_pos hfits, if_pos hfits]
      exact comes_ret (by simp [itemRaises, hfits])
    · rw [if_neg hfits, if_neg hfits]
      exact comes_ret (by simp [itemRaises, hfits])
  | .float bits, dst, err => by
    unfold ItemRuns
    rw [PyIter_ToAMQArray.item]
    exact comes_ret (by simp [itemRaises])
  | .str s, dst, err => itemRuns_str s dst err
  | .bytes b, dst, err => by
    unfold ItemRuns
    rw [PyIter_ToAMQArray.item]
    exact comes_ret (by simp [itemRaises])
  | .list items, dst, err => itemRuns_array (.inl rfl) (items_run items [] err)
  | .tuple items, dst, err => itemRuns_array (.inr rfl) (items_run items [] err)
  | .dict members, dst, err => itemRuns_dict (members_run members [] err)
  | .other id, dst, err => by
    unfold ItemRuns
    rw [PyIter_ToAMQArray.item]
    exact comes_ret (by simp [itemRaises])

theorem members_run : ∀ (members : PyMembers) (dst : amqp_table_t) (err : Option PyErr),
    MembersRun dst members err
  | [], dst, err => by
    unfold MembersRun
    rw [PyDict_ToAMQTable.loop, entries, List.append_nil]
    exact comes_ret (by simp [membersRaise])
  | (key, value) :: rest, dst, err =>
    membersRun_cons (fun err => member_runs value dst (keyOctets key) err)
      fun dst err => members_run rest dst err

theorem items_run : ∀ (items : List PyObj) (dst : amqp_array_t) (err : Option PyErr),
    ItemsRun dst items err
  | [], dst, err => by
    unfold ItemsRun
    rw [PyIter_ToAMQArray.loop, fields, List.append_nil]
    exact comes_ret (by simp [itemsRaise])
  | item :: rest, dst, err =>
    itemsRun_cons (item_runs item dst err) fun dst err => items_run rest dst err

end

/-- The whole encoder. -/
theorem toAMQTable_comes (members : PyMembers) (err : Option PyErr) :
    Comes (membersCrash members) (PyDict_ToAMQTable members err) (tableOf members)
      (err.isSome || membersRaise members) := members_run members [] err

theorem toAMQArray_comes (items : List PyObj) (err : Option PyErr) :
    Comes (itemsCrash items) (PyIter_ToAMQArray items err) (fields items)
      (err.isSome || itemsRaise items) := items_run items [] err

/-! ## Dicts and lists that raise nothing -/

/-- A value of a dict at which the encoder leaves it in silence. -/
def isMinusOne : PyObj → Bool
  | .int n => decide (n = -1)
  | .float bits => decide (bits = minusOneBits)
  | _ => false

theorem stops_of_silent {v : PyObj} (h : memberRaises v = false) : memberStops v = isMinusOne v := by
  cases v <;> simp_all [memberRaises, memberStops, isMinusOne]

/-- A dict that raises nothing is left at a -1 only. -/
theorem membersStop_of_silent {members : PyMembers} (h : membersRaise members = false) :
    membersStop members = members.any fun e => isMinusOne e.2 := by
  induction members with
  | nil => rfl
  | cons e rest ih =>
    obtain ⟨key, value⟩ := e
    rw [membersRaise, Bool.or_eq_false_iff, Bool.or_eq_false_iff] at h
    obtain ⟨⟨_, hvalue⟩, hrest⟩ := h
    have hsame := stops_of_silent hvalue
    unfold membersStop at ih ⊢
    rw [List.any_cons, List.any_cons, hsame]
    cases hone : isMinusOne value with
    | true => rfl
    | false =>
      rw [hsame, hone] at hrest
      rw [ih hrest]

theorem memberRaises_of_silent {members : PyMembers} (h : membersRaise members = false)
    (hstop : membersStop members = false) : ∀ e ∈ members, memberRaises e.2 = false := by
  induction members with
  | nil => simp
  | cons e rest ih =>
    obtain ⟨key, value⟩ := e
    rw [membersRaise, Bool.or_eq_false_iff, Bool.or_eq_false_iff] at h
    obtain ⟨⟨_, hvalue⟩, hrest⟩ := h
    unfold membersStop at ih hstop
    rw [List.any_cons, Bool.or_eq_false_iff] at hstop
    rw [hstop.1] at hrest
    intro e he
    rcases List.mem_cons.mp he with rfl | he
    · exact hvalue
    · exact ih hrest hstop.2 e he

/-- An item at which the encoder leaves a list raises. -/
theorem itemRaises_of_stops {v : PyObj} (h : itemStops v = true) : itemRaises v = true := by
  cases v <;> simp_all [itemRaises, itemStops]

theorem itemRaises_of_silent {items : List PyObj} (h : itemsRaise items = false) :
    ∀ item ∈ items, itemRaises item = false ∧ itemStops item = false := by
  induction items with
  | nil => simp
  | cons item rest ih =>
    rw [itemsRaise, Bool.or_eq_false_iff] at h
    have hstops : itemStops item = false := by
      by_contra hs
      rw [itemRaises_of_stops (Bool.eq_true_of_not_eq_false hs)] at h
      cases h.1
    rw [hstops] at h
    intro e he
    rcases List.mem_cons.mp he with rfl | he
    · exact ⟨h.1, hstops⟩
    · exact ih h.2 e he

theorem fields_of_silent {items : List PyObj} (h : ∀ item ∈ items, itemStops item = false) :
    fields items = items.map itemField := by
  induction items with
  | nil => rfl
  | cons item rest ih =>
    rw [fields, h item (by simp), if_neg Bool.false_ne_true,
      ih fun e he => h e (by simp [he]), List.map_cons]

theorem entries_eq_map (members : PyMembers) :
    entries members = members.map fun e => ((keyOctets e.1).getD [], memberField e.2) := by
  induction members with
  | nil => rfl
  | cons e rest ih => rw [entries, ih, List.map_cons]

end librabbitmq.encoding
