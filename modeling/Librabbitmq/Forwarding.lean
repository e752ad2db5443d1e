-- What is sent on as it came: the tables and the properties that the decoder and then the encoder
-- leave as they were.
import Librabbitmq.StringArguments
import Librabbitmq.PropertyRoundTrip
import Librabbitmq.Metadata

namespace librabbitmq.forwarding

open round_trip encoding table_errors metadata property_fields property_steps property_round_trip
open publish_errors string_arguments

/-! ## Tables that are carried -/

def AreAscii (b : Octets) : Prop := ∀ x ∈ b, x < 128

mutual

/-- A field that a table carries through Python. -/
def MemberCarried : amqp_field_value_t → Prop
  | .void => True
  | .boolean _ => True
  | .i32 v => v ≠ -1
  | .f64 bits => bits ≠ minusOneBits
  | .utf8 b => AreUtf8 b
  | .table t => (t.map Prod.fst).Nodup ∧ MembersCarried t
  | .array a => ItemsCarried a
  | _ => False

/-- A field that an array carries through Python. -/
def ItemCarried : amqp_field_value_t → Prop
  | .void => True
  | .i32 _ => True
  | .utf8 b => AreAscii b
  | .table t => (t.map Prod.fst).Nodup ∧ MembersCarried t
  | .array a => ItemsCarried a
  | _ => False

def MembersCarried : amqp_table_t → Prop
  | [] => True
  | (k, v) :: rest => AreAscii k ∧ MemberCarried v ∧ MembersCarried rest

def ItemsCarried : amqp_array_t → Prop
  | [] => True
  | v :: rest => ItemCarried v ∧ ItemsCarried rest

end

/-- A table that is carried: no key is there twice. -/
def TableCarried (t : amqp_table_t) : Prop := (t.map Prod.fst).Nodup ∧ MembersCarried t

/-- A table that is decoded where it is received, and encoded where it is sent. An exception of
the decoder is raised, and then there is no dict. -/
def forwarded (t : amqp_table_t) : Outcome (amqp_table_t × Option PyErr) := do
  let (members, err) ← AMQTable_toPyDict t none
  if err.isSome then return (amqp_empty_table, err)
  PyDict_ToAMQTable members none

/-! ## ASCII -/

theorem asciiEncode_octets {b : Octets} (h : AreAscii b) :
    asciiEncode (b.map fun x => .scalar (Char.ofUInt8 x)) = some b := by
  induction b with
  | nil => rfl
  | cons x b ih =>
    have hx : x.toNat < 128 := UInt8.lt_iff_toNat_lt.mp (h x (by simp))
    have hchar : (Char.ofUInt8 x).toUInt8 = x := by
      apply UInt8.toNat_inj.mp
      rw [← Char.toUInt8_val, UInt32.toNat_toUInt8]
      exact Nat.mod_eq_of_lt x.toNat_lt
    have hcode : CodePoint.ascii? (.scalar (Char.ofUInt8 x)) = some x := by
      rw [CodePoint.ascii?, hchar]
      exact if_pos hx
    rw [List.map_cons, asciiEncode, hcode, ih fun y hy => h y (by simp [hy])]

theorem areAscii_of_encode {s : PyStr} {b : Octets} (h : asciiEncode s = some b) : AreAscii b := by
  induction s generalizing b with
  | nil =>
    cases h
    simp [AreAscii]
  | cons c s ih =>
    rw [asciiEncode] at h
    split at h
    · rename_i x bs hx hbs
      cases h
      intro y hy
      rcases List.mem_cons.mp hy with rfl | hy
      · cases c with
        | surrogate _ => cases hx
        | scalar c =>
          simp only [CodePoint.ascii?, Option.ite_none_right_eq_some, Option.some.injEq] at hx
          obtain ⟨hc, rfl⟩ := hx
          rw [UInt8.lt_iff_toNat_lt, ← Char.toUInt8_val, UInt32.toNat_toUInt8]
          exact lt_of_le_of_lt (Nat.mod_le _ _) hc
      · exact ih hbs y hy
    · cases h

/-- ASCII octets are a text, and the text is encoded to them. -/
theorem areAscii_iff {b : Octets} :
    AreAscii b ↔ ∃ s, utf8Decode b = some s ∧ asciiEncode s = some b := by
  constructor
  · intro h
    have henc := asciiEncode_octets h
    exact ⟨_, utf8Decode_utf8Encode (utf8Encode_of_ascii henc), henc⟩
  · rintro ⟨s, _, henc⟩
    exact areAscii_of_encode henc

/-! ## A table that is carried comes back

It is the table of a dict of the domain of the round trip, in which there is no tuple. -/

/-- The octets of a key. -/
def keyName : PyKey → Octets
  | .str s => (asciiEncode s).getD []
  | _ => []

theorem entriesOf_keys (members : PyMembers) :
    (entriesOf members).map Prod.fst = (members.map Prod.fst).map keyName := by
  induction members with
  | nil => rfl
  | cons e rest ih =>
    obtain ⟨key, value⟩ := e
    cases key <;> simp [entriesOf, keyName, ih]

mutual

theorem member_image : ∀ f : amqp_field_value_t, MemberCarried f →
    ∃ v, MemberDomain v ∧ fieldOf v = f ∧ listified v = v
  | .void, _ => ⟨.none, trivial, rfl, rfl⟩
  | .boolean b, _ => ⟨.bool b, trivial, rfl, rfl⟩
  | .i32 v, h => by
    have h : v ≠ -1 := h
    refine ⟨.int v.toInt, ⟨by have := v.le_toInt; omega, by have := v.toInt_lt; omega, ?_⟩, ?_, rfl⟩
    · intro hv
      exact h (BitVec.eq_of_toInt_eq hv)
    · exact congrArg amqp_field_value_t.i32 (BitVec.ofInt_toInt)
  | .f64 bits, h => ⟨.float bits, h, rfl, rfl⟩
  | .utf8 b, h => by
    obtain ⟨s, hs⟩ := Option.isSome_iff_exists.mp h
    have henc := utf8Encode_utf8Decode hs
    refine ⟨.str s, ?_, ?_, rfl⟩
    · exact Option.isSome_iff_exists.mpr ⟨b, henc⟩
    · rw [fieldOf, henc, Option.getD_some]
  | .table t, h => by
    obtain ⟨members, hdomain, hentries, hsame⟩ := table_image t h
    exact ⟨.dict members, hdomain, by rw [fieldOf, hentries], by rw [listified, hsame]⟩
  | .array a, h => by
    obtain ⟨items, hdomain, hfields, hsame⟩ := items_image a h
    exact ⟨.list items, hdomain, by rw [fieldOf, hfields], by rw [listified, hsame]⟩
  | .i8 _, h | .u8 _, h | .i16 _, h | .u16 _, h | .u32 _, h | .i64 _, h | .u64 _, h | .f32 _, h
  | .other _, h => absurd h id

theorem item_image : ∀ f : amqp_field_value_t, ItemCarried f →
    ∃ v, ItemDomain v ∧ fieldOf v = f ∧ listified v = v
  | .void, _ => ⟨.none, trivial, rfl, rfl⟩
  | .i32 v, _ => by
    refine ⟨.int v.toInt, ⟨by have := v.le_toInt; omega, by have := v.toInt_lt; omega⟩, ?_, rfl⟩
    exact congrArg amqp_field_value_t.i32 (BitVec.ofInt_toInt)
  | .utf8 b, h => by
    obtain ⟨s, hs, henc⟩ := areAscii_iff.mp h
    refine ⟨.str s, Option.isSome_iff_exists.mpr ⟨b, henc⟩, ?_, rfl⟩
    rw [fieldOf, utf8Encode_of_ascii henc, Option.getD_some]
  | .table t, h => by
    obtain ⟨members, hdomain, hentries, hsame⟩ := table_image t h
    exact ⟨.dict members, hdomain, by rw [fieldOf, hentries], by rw [listified, hsame]⟩
  | .array a, h => by
    obtain ⟨items, hdomain, hfields, hsame⟩ := items_image a h
    exact ⟨.list items, hdomain, by rw [fieldOf, hfields], by rw [listified, hsame]⟩
  | .boolean _, h | .i8 _, h | .u8 _, h | .i16 _, h | .u16 _, h | .u32 _, h | .i64 _, h
  | .u64 _, h | .f32 _, h | .f64 _, h | .other _, h => absurd h id

theorem table_image (t : amqp_table_t) (h : (t.map Prod.fst).Nodup ∧ MembersCarried t) :
    ∃ members, DictDomain members ∧ entriesOf members = t ∧ listifiedMembers members = members := by
  obtain ⟨members, hdomain, hentries, hsame⟩ := members_image t h.2
  refine ⟨members, ⟨?_, hdomain⟩, hentries, hsame⟩
  have hkeys := h.1
  rw [← hentries, entriesOf_keys] at hkeys
  exact hkeys.of_map keyName

theorem members_image : ∀ t : amqp_table_t, MembersCarried t →
    ∃ members, MembersDomain members ∧ entriesOf members = t ∧ listifiedMembers members = members
  | [], _ => ⟨[], trivial, rfl, rfl⟩
  | (k, v) :: rest, h => by
    obtain ⟨s, _, henc⟩ := areAscii_iff.mp h.1
    obtain ⟨o, ho, hfield, hsame⟩ := member_image v h.2.1
    obtain ⟨members, hmembers, hentries, hsames⟩ := members_image rest h.2.2
    have hs : IsAscii s := Option.isSome_iff_exists.mpr ⟨k, henc⟩
    refine ⟨(.str s, o) :: members, ⟨⟨s, rfl, hs⟩, ho, hmembers⟩, ?_, ?_⟩
    · rw [entriesOf, hfield, hentries]
      simp [henc]
    · rw [listifiedMembers, hsame, hsames]

theorem items_image : ∀ a : amqp_array_t, ItemsCarried a →
    ∃ items, ItemsDomain items ∧ fieldsOf items = a ∧ listifiedItems items = items
  | [], _ => ⟨[], trivial, rfl, rfl⟩
  | v :: rest, h => by
    obtain ⟨o, ho, hfield, hsame⟩ := item_image v h.1
    obtain ⟨items, hitems, hfields, hsames⟩ := items_image rest h.2
    exact ⟨o :: items, ⟨ho, hitems⟩, by rw [fieldsOf, hfield, hfields],
      by rw [listifiedItems, hsame, hsames]⟩

end

/-! ## A table that comes back is carried -/

/-- What an entry of a table is decoded to. -/
def EntryDecodes (e : Octets × amqp_field_value_t) (m : PyKey × PyObj) : Prop :=
  ∃ s o, utf8Decode e.1 = some s ∧ AMQTable_toPyDict.value e.2 none = .ret (o, none) ∧
    m = (.str s, storedValue o)

theorem set_cases {κ ν : Type} [DecidableEq κ] (d : Dict κ ν) (k : κ) (v : ν) :
    (k ∉ d.map Prod.fst ∧ Dict.set d k v = d ++ [(k, v)]) ∨
      (Dict.set d k v).length = d.length := by
  induction d with
  | nil => exact Or.inl ⟨by simp, rfl⟩
  | cons e d ih =>
    unfold Dict.set
    by_cases hk : e.1 = k
    · rw [if_pos hk]
      exact Or.inr rfl
    · rw [if_neg hk]
      rcases ih with ⟨hfresh, ih⟩ | ih
      · exact Or.inl ⟨by simp [Ne.symm hk, hfresh], by rw [ih]; rfl⟩
      · exact Or.inr (by rw [List.length_cons, List.length_cons, ih])

/-- A dict has a member for each entry, in their order, or it is shorter than the table. -/
theorem entries_decode (t : amqp_table_t) : ∀ {dict d : PyMembers},
    AMQTable_toPyDict.loop dict t none = .ret (d, none) →
    (∃ members, d = dict ++ members ∧ List.Forall₂ EntryDecodes t members ∧
      ((dict.map Prod.fst).Nodup → (d.map Prod.fst).Nodup)) ∨
      d.length < dict.length + t.length := by
  induction t with
  | nil =>
    intro dict d h
    rw [AMQTable_toPyDict.loop] at h
    cases h
    exact Or.inl ⟨[], (List.append_nil dict).symm, .nil, id⟩
  | cons e rest ih =>
    obtain ⟨k, v⟩ := e
    intro dict d h
    obtain ⟨-, hk, -, -⟩ := table_quiet _ h
    obtain ⟨s, hs⟩ := Option.isSome_iff_exists.mp hk
    have hentry := h
    rw [table_entry_eq] at hentry
    obtain ⟨⟨o, err⟩, ho, hentry⟩ := Outcome.ret_of_bind hentry
    obtain ⟨dict', _, hentry⟩ := Outcome.ret_of_bind hentry
    obtain ⟨herr, _⟩ := table_quiet rest hentry
    have hquiet : PySTRING_FROM_AMQBYTES k err = ((PySTRING_FROM_AMQBYTES k err).1, none) :=
      Prod.ext rfl herr
    obtain ⟨rfl, _⟩ := areUtf8_of_quiet hquiet
    rw [table_entry_stored ho hs] at h
    rw [List.length_cons]
    rcases set_cases dict (.str s) (storedValue o) with ⟨hfresh, hset⟩ | hset
    · rw [hset] at h
      rcases ih h with ⟨members, rfl, hmembers, hnodup⟩ | hshort
      · refine Or.inl ⟨(.str s, storedValue o) :: members, by simp, .cons ?_ hmembers,
          fun hdict => ?_⟩
        · exact ⟨s, o, hs, ho, rfl⟩
        · apply hnodup
          rw [List.map_append, List.nodup_append]
          refine ⟨hdict, by simp, fun a ha b hb hab => hfresh ?_⟩
          rw [List.map_singleton, List.mem_singleton] at hb
          subst hab hb
          exact ha
      · rw [List.length_append, List.length_singleton] at hshort
        exact Or.inr (by omega)
    · rcases ih h with ⟨members, rfl, hmembers, _⟩ | hshort
      · have hsame := hmembers.length_eq
        rw [List.length_append, hset]
        exact Or.inr (by omega)
      · exact Or.inr (by omega)

/-- The slots of an array that is decoded. -/
theorem slots_decode (a : amqp_array_t) : ∀ {list l : List PyObj},
    AMQArray_toPyList.loop list a none = .ret (l, none) →
    ∃ items, l = list ++ items ∧
      List.Forall₂ (fun v o => AMQArray_toPyList.value v none = .ret (o, none)) a items := by
  induction a with
  | nil =>
    intro list l h
    rw [AMQArray_toPyList.loop] at h
    cases h
    exact ⟨[], (List.append_nil list).symm, .nil⟩
  | cons v rest ih =>
    intro list l h
    rw [AMQArray_toPyList.loop] at h
    obtain ⟨⟨o, err⟩, ho, h⟩ := Outcome.ret_of_bind h
    obtain ⟨rfl, _⟩ := array_quiet rest h
    obtain ⟨items, rfl, hitems⟩ := ih h
    exact ⟨o :: items, by simp, .cons ho hitems⟩

/-- An encoder that comes through has read every key and every value. -/
theorem read_of_sound {members : PyMembers} (hcrash : membersCrash members = false)
    (hstop : membersStop members = false) :
    ∀ e ∈ members, (keyOctets e.1).isSome ∧ valueCrashes e.2 = false ∧ memberStops e.2 = false := by
  induction members with
  | nil => simp
  | cons e rest ih =>
    obtain ⟨key, value⟩ := e
    unfold membersStop at ih hstop
    rw [List.any_cons, Bool.or_eq_false_iff] at hstop
    obtain ⟨hstop, hrest⟩ := hstop
    rw [membersCrash, hstop, Bool.or_eq_false_iff, Bool.or_eq_false_iff] at hcrash
    obtain ⟨⟨hkey, hvalue⟩, hmore⟩ := hcrash
    intro e he
    rcases List.mem_cons.mp he with rfl | he
    · refine ⟨?_, hvalue, hstop⟩
      cases value <;> simp_all [readsKey]
    · exact ih (by simpa using hmore) hrest e he

theorem slots_of_sound {items : List PyObj} (hcrash : itemsCrash items = false)
    (hstop : ∀ item ∈ items, itemStops item = false) :
    ∀ item ∈ items, valueCrashes item = false := by
  induction items with
  | nil => simp
  | cons item rest ih =>
    rw [itemsCrash, hstop item (by simp), Bool.or_eq_false_iff] at hcrash
    intro e he
    rcases List.mem_cons.mp he with rfl | he
    · exact hcrash.1
    · exact ih (by simpa using hcrash.2) (fun e he => hstop e (by simp [he])) e he

/-- No two entries of the table have one key, if no two members of the dict have. -/
theorem nodup_of_decoded {t : amqp_table_t} {members : PyMembers}
    (h : List.Forall₂ EntryDecodes t members) (hnodup : (members.map Prod.fst).Nodup) :
    (t.map Prod.fst).Nodup := by
  have hkeys : members.map Prod.fst =
      (t.map Prod.fst).map fun k => PyKey.str ((utf8Decode k).getD []) := by
    induction h with
    | nil => rfl
    | cons hentry _ ih =>
      obtain ⟨s, o, hs, _, rfl⟩ := hentry
      rw [List.map_cons, List.nodup_cons] at hnodup
      rw [List.map_cons, List.map_cons, List.map_cons, ih hnodup.2, hs, Option.getD_some]
  rw [hkeys] at hnodup
  exact hnodup.of_map _

mutual

theorem member_carried : ∀ (f : amqp_field_value_t) {o : PyObj},
    AMQTable_toPyDict.value f none = .ret (o, none) → valueCrashes (storedValue o) = false →
    memberStops (storedValue o) = false → memberRaises (storedValue o) = false →
    memberField (storedValue o) = f → MemberCarried f
  | .void, _, _, _, _, _, _ => trivial
  | .boolean _, _, _, _, _, _, _ => trivial
  | .i32 v, o, ho, _, hstop, _, _ => by
    rw [AMQTable_toPyDict.value] at ho
    cases ho
    rintro rfl
    revert hstop
    decide
  | .f64 bits, o, ho, _, hstop, _, _ => by
    rw [AMQTable_toPyDict.value] at ho
    cases ho
    exact of_decide_eq_false hstop
  | .utf8 b, o, ho, _, _, _, _ => (metadata.tableValue_quiet _ ho).2
  | .table t, o, ho, hcrash, _, hraise, hfield => by
    rw [AMQTable_toPyDict.value] at ho
    obtain ⟨⟨d, err⟩, hd, hret⟩ := Outcome.ret_of_bind ho
    cases hret
    exact table_carried t hd hcrash hraise (amqp_field_value_t.table.inj hfield)
  | .array a, o, ho, hcrash, _, hraise, hfield => by
    rw [AMQTable_toPyDict.value] at ho
    obtain ⟨⟨l, err⟩, hl, hret⟩ := Outcome.ret_of_bind ho
    cases hret
    exact array_carried a hl hcrash hraise (amqp_field_value_t.array.inj hfield)
  | .i8 _, o, ho, _, _, _, hfield | .i16 _, o, ho, _, _, _, hfield
  | .i64 _, o, ho, _, _, _, hfield | .u8 _, o, ho, _, _, _, hfield
  | .u16 _, o, ho, _, _, _, hfield | .u32 _, o, ho, _, _, _, hfield
  | .u64 _, o, ho, _, _, _, hfield | .f32 _, o, ho, _, _, _, hfield
  | .other _, o, ho, _, _, _, hfield => by
    rw [AMQTable_toPyDict.value] at ho
    cases ho
    cases hfield

theorem item_carried : ∀ (f : amqp_field_value_t) {o : PyObj},
    AMQArray_toPyList.value f none = .ret (o, none) → valueCrashes o = false →
    itemRaises o = false → itemField o = f → ItemCarried f
  | .void, _, _, _, _, _ => trivial
  | .i32 _, _, _, _, _, _ => trivial
  | .utf8 b, o, ho, _, hraise, hfield => by
    obtain ⟨s, hs⟩ := Option.isSome_iff_exists.mp (metadata.arrayValue_quiet _ ho).2
    rw [AMQArray_toPyList.value, PySTRING_FROM_AMQBYTES, PyUnicode_FromStringAndSize, hs] at ho
    cases ho
    simp only [itemRaises, Bool.not_eq_false', decide_eq_true_eq] at hraise
    obtain ⟨b', hb'⟩ := Option.isSome_iff_exists.mp hraise
    rw [itemField, hb', Option.getD_some] at hfield
    cases hfield
    exact areAscii_of_encode hb'
  | .table t, o, ho, hcrash, hraise, hfield => by
    rw [AMQArray_toPyList.value] at ho
    obtain ⟨⟨d, err⟩, hd, hret⟩ := Outcome.ret_of_bind ho
    cases hret
    exact table_carried t hd hcrash hraise (amqp_field_value_t.table.inj hfield)
  | .array a, o, ho, hcrash, hraise, hfield => by
    rw [AMQArray_toPyList.value] at ho
    obtain ⟨⟨l, err⟩, hl, hret⟩ := Outcome.ret_of_bind ho
    cases hret
    exact array_carried a hl hcrash hraise (amqp_field_value_t.array.inj hfield)
  | .boolean _, o, ho, _, _, hfield | .f64 _, o, ho, _, _, hfield
  | .i8 _, o, ho, _, _, hfield | .i16 _, o, ho, _, _, hfield
  | .i64 _, o, ho, _, _, hfield | .u8 _, o, ho, _, _, hfield
  | .u16 _, o, ho, _, _, hfield | .u32 _, o, ho, _, _, hfield
  | .u64 _, o, ho, _, _, hfield | .f32 _, o, ho, _, _, hfield
  | .other _, o, ho, _, _, hfield => by
    rw [AMQArray_toPyList.value] at ho
    cases ho
    cases hfield

theorem table_carried (t : amqp_table_t) {d : PyMembers}
    (hd : AMQTable_toPyDict.loop [] t none = .ret (d, none)) (hcrash : membersCrash d = false)
    (hraise : membersRaise d = false) (htable : tableOf d = t) : TableCarried t := by
  unfold tableOf at htable
  cases hstop : membersStop d with
  | true =>
    rw [hstop, if_pos rfl] at htable
    subst htable
    exact ⟨List.nodup_nil, trivial⟩
  | false =>
    rw [hstop, if_neg Bool.false_ne_true] at htable
    have hlength : t.length = d.length := by rw [← htable, entries_eq_map, List.length_map]
    rcases entries_decode t hd with ⟨members, hmembers, hentries, hnodup⟩ | hshort
    · rw [List.nil_append] at hmembers
      subst hmembers
      exact ⟨nodup_of_decoded hentries (hnodup List.nodup_nil),
        members_carried t hentries htable (read_of_sound hcrash hstop)
          (memberRaises_of_silent hraise hstop)⟩
    · rw [List.length_nil] at hshort
      omega

theorem members_carried : ∀ (t : amqp_table_t) {members : PyMembers},
    List.Forall₂ EntryDecodes t members → entries members = t →
    (∀ e ∈ members, (keyOctets e.1).isSome ∧ valueCrashes e.2 = false ∧ memberStops e.2 = false) →
    (∀ e ∈ members, memberRaises e.2 = false) → MembersCarried t
  | [], _, _, _, _, _ => trivial
  | (k, v) :: rest, members, hdecoded, hentries, hread, hsilent => by
    cases hdecoded with
    | @cons _ m _ members hentry hrest =>
      obtain ⟨s, o, hs, ho, rfl⟩ := hentry
      rw [entries, List.cons.injEq, Prod.mk.injEq] at hentries
      obtain ⟨⟨hkey, hfield⟩, hmore⟩ := hentries
      obtain ⟨hk, hcrash, hstop⟩ := hread _ List.mem_cons_self
      obtain ⟨b, hb⟩ := Option.isSome_iff_exists.mp hk
      rw [hb, Option.getD_some] at hkey
      subst hkey
      exact ⟨areAscii_of_encode hb,
        member_carried v ho hcrash hstop (hsilent _ List.mem_cons_self) hfield,
        members_carried rest hrest hmore (fun e he => hread e (List.mem_cons_of_mem _ he))
          fun e he => hsilent e (List.mem_cons_of_mem _ he)⟩

theorem array_carried (a : amqp_array_t) {l : List PyObj}
    (hl : AMQArray_toPyList.loop [] a none = .ret (l, none)) (hcrash : itemsCrash l = false)
    (hraise : itemsRaise l = false) (harray : fields l = a) : ItemsCarried a := by
  have hsilent := itemRaises_of_silent hraise
  obtain ⟨items, hitems, hslots⟩ := slots_decode a hl
  rw [List.nil_append] at hitems
  subst hitems
  rw [fields_of_silent fun item hitem => (hsilent item hitem).2] at harray
  exact items_carried a hslots harray
    (slots_of_sound hcrash fun item hitem => (hsilent item hitem).2)
    fun item hitem => (hsilent item hitem).1

theorem items_carried : ∀ (a : amqp_array_t) {items : List PyObj},
    List.Forall₂ (fun v o => AMQArray_toPyList.value v none = .ret (o, none)) a items →
    items.map itemField = a → (∀ item ∈ items, valueCrashes item = false) →
    (∀ item ∈ items, itemRaises item = false) → ItemsCarried a
  | [], _, _, _, _, _ => trivial
  | v :: rest, items, hdecoded, hfields, hread, hsilent => by
    cases hdecoded with
    | @cons _ o _ items hslot hrest =>
      rw [List.map_cons, List.cons.injEq] at hfields
      exact ⟨item_carried v hslot (hread o List.mem_cons_self) (hsilent o List.mem_cons_self)
        hfields.1, items_carried rest hrest hfields.2
          (fun e he => hread e (List.mem_cons_of_mem o he))
          fun e he => hsilent e (List.mem_cons_of_mem o he)⟩

end

/-- A dict that a table was decoded to, and that is encoded to that table. -/
theorem carried_of_encoded {t : amqp_table_t} {members : PyMembers}
    (hdec : AMQTable_toPyDict t none = .ret (members, none))
    (henc : PyDict_ToAMQTable members none = .ret (t, none)) : TableCarried t := by
  obtain ⟨hcrash, htable, hpending⟩ := (toAMQTable_comes members none).of_ret henc
  exact table_carried t hdec hcrash hpending.symm htable.symm

theorem encoded_of_carried {t : amqp_table_t} (h : TableCarried t) :
    ∃ members, AMQTable_toPyDict t none = .ret (members, none) ∧
      PyDict_ToAMQTable members none = .ret (t, none) := by
  obtain ⟨members, hdomain, hentries, hsame⟩ := table_image t h
  have henc := members_encode members hdomain.2 [] none
  have hdec := members_decode members hdomain.2 [] (by simpa using hdomain.1) none
  rw [hentries, List.nil_append] at henc
  rw [hentries, hsame, List.nil_append] at hdec
  exact ⟨members, hdec, henc⟩

/-- A table goes through Python as it is exactly when it is carried: no key is there twice, every
key is ASCII, and every field is of a kind and a value that the encoder makes again. -/
theorem a_table_is_forwarded_exactly_when_it_is_carried (t : amqp_table_t) :
    forwarded t = .ret (t, none) ↔ TableCarried t := by
  unfold forwarded
  constructor
  · intro h
    obtain ⟨⟨d, err⟩, hd, henc⟩ := Outcome.ret_of_bind h
    cases err with
    | some e => cases henc
    | none => exact carried_of_encoded hd henc
  · intro h
    obtain ⟨members, hdec, henc⟩ := encoded_of_carried h
    rw [hdec]
    exact henc

/-! ## Properties -/

/-- The properties that are carried. -/
structure PropertiesCarried (props : amqp_basic_properties_t) : Prop where
  cluster_id : props.AMQP_BASIC_CLUSTER_ID_FLAG = false
  strings : ∀ f b, props._flags f = true → field props f = .octets b → AreAscii b
  headers : props._flags .headers = true → TableCarried props.headers

/-- The properties that are sent are those that were received: the same flags, with that of the
headers, and the same fields under them. -/
structure SameOnWire (props sent : amqp_basic_properties_t) : Prop where
  flags : ∀ f, sent._flags f = (decide (f = .headers) || props._flags f)
  clusterFlag : sent.AMQP_BASIC_CLUSTER_ID_FLAG = props.AMQP_BASIC_CLUSTER_ID_FLAG
  cluster_id : props.AMQP_BASIC_CLUSTER_ID_FLAG = true → sent.cluster_id = props.cluster_id
  fields : ∀ f, props._flags f = true → field sent f = field props f
  headers : props._flags .headers = false → sent.headers = []

/-- Properties that are decoded where they are received, and encoded where they are sent. -/
def republished (props : amqp_basic_properties_t) :
    Outcome (Option amqp_basic_properties_t × Option PyErr) := do
  let (p, err) ← basic_properties_to_PyDict props [] none
  if err.isSome then return (none, err)
  PyDict_to_basic_properties p none

theorem areUtf8_of_ascii {b : Octets} (h : AreAscii b) : AreUtf8 b := by
  obtain ⟨s, hs, _⟩ := areAscii_iff.mp h
  exact Option.isSome_iff_exists.mpr ⟨s, hs⟩

section

variable {props : amqp_basic_properties_t} {members : PyMembers} {f : BasicFlag} {v : PyObj}

/-- What the dict has under the key of a property. -/
theorem lookup_decoded (hv : (row props members BasicFlag.all).lookup f.key = some v) :
    props._flags f = true ∧ v = (field props f).decoded members := by
  rw [lookup_row] at hv
  split at hv
  · rename_i hflag
    cases hv
    exact ⟨hflag.2, rfl⟩
  · cases hv

/-- A field that is carried is stored again. -/
theorem stored_again (h : PropertiesCarried props) (hflag : props._flags f = true)
    (htable : f = .headers → tableOf members = props.headers) :
    stored f ((field props f).decoded members) = field props f := by
  have hstring : ∀ b, field props f = .octets b →
      ∃ s, (field props f).decoded members = .str s ∧ Field.octets ((asciiEncode s).getD []) =
        field props f := by
    intro b hb
    obtain ⟨s, hs, henc⟩ := areAscii_iff.mp (h.strings f b hflag hb)
    refine ⟨s, ?_, ?_⟩
    · rw [hb, Field.decoded, hs]
    · rw [henc, hb, Option.getD_some]
  have hbyte : ∀ n : BitVec 8, Field.byte (BitVec.ofInt 8 n.toNat) = .byte n := by
    intro n
    rw [BitVec.ofInt_natCast, BitVec.ofNat_toNat, BitVec.setWidth_eq]
  cases f with
  | delivery_mode => exact hbyte _
  | priority => exact hbyte _
  | timestamp => exact congrArg Field.stamp BitVec.ofInt_toInt
  | headers => exact congrArg Field.table (htable rfl)
  | _ =>
    obtain ⟨s, hdecoded, hsame⟩ := hstring _ rfl
    rw [hdecoded]
    exact hsame

/-- The dict of carried properties is encoded to the same ones. -/
theorem carried_sent (h : PropertiesCarried props)
    (hheaders : props._flags .headers = true →
      AMQTable_toPyDict props.headers none = .ret (members, none) ∧
        PyDict_ToAMQTable members none = .ret (props.headers, none)) :
    ∃ sent, republished props = .ret (some sent, none) ∧ SameOnWire props sent := by
  have htable : props._flags .headers = true → tableOf members = props.headers := by
    intro hflag
    exact ((toAMQTable_comes members none).of_ret (hheaders hflag).2).2.1.symm
  have hdecoded : basic_properties_to_PyDict props [] none =
      .ret (row props members BasicFlag.all, none) := by
    refine properties_row (fun f hflag => ?_) fun hflag => (hheaders hflag).1
    cases hfield : field props f with
    | octets b => exact areUtf8_of_ascii (h.strings f b hflag hfield)
    | _ => trivial
  obtain ⟨sent, hsent, he⟩ : ∃ sent,
      PyDict_to_basic_properties (row props members BasicFlag.all) none =
        .ret (some sent, none) ∧ Encoded (row props members BasicFlag.all) BasicFlag.all sent := by
    refine values_encoded (fun f hf v hv => ?_) (fun f hf v hv => ?_) fun v hv => ?_
    · obtain ⟨hflag, rfl⟩ := lookup_decoded hv
      have hascii : ∀ b, field props f = .octets b →
          ∃ s, (field props f).decoded members = .str s ∧ IsAscii s := by
        intro b hb
        obtain ⟨s, hs, henc⟩ := areAscii_iff.mp (h.strings f b hflag hb)
        refine ⟨s, ?_, Option.isSome_iff_exists.mpr ⟨b, henc⟩⟩
        rw [hb, Field.decoded, hs]
      revert hf hascii
      cases f <;> first | exact fun _ hascii => hascii _ rfl | exact fun hf => absurd hf (by decide)
    · obtain ⟨-, rfl⟩ := lookup_decoded hv
      rcases hf with rfl | rfl | rfl
      · refine ⟨_, rfl, ?_⟩
        have := props.delivery_mode.isLt
        unfold FitsLong
        omega
      · refine ⟨_, rfl, ?_⟩
        have := props.priority.isLt
        unfold FitsLong
        omega
      · refine ⟨_, rfl, ?_⟩
        have := props.timestamp.le_toInt
        have := props.timestamp.toInt_lt
        unfold FitsLong
        omega
    · obtain ⟨hflag, rfl⟩ := lookup_decoded hv
      exact ⟨members, rfl, by rw [htable hflag]; exact (hheaders hflag).2⟩
  have hlookup : ∀ f : BasicFlag, (row props members BasicFlag.all).lookup f.key =
      if props._flags f = true then some ((field props f).decoded members) else none := by
    intro f
    rw [lookup_row]
    simp [BasicFlag.mem_all]
  have hcluster := (encoded_unclustered hsent).trans h.cluster_id.symm
  refine ⟨sent, ?_, fun f => ?_, hcluster, fun hflag => ?_, fun f hflag => ?_, fun hflag => ?_⟩
  · unfold republished
    rw [hdecoded]
    exact hsent
  · rw [he.flags f, hlookup f]
    simp only [BasicFlag.mem_all, decide_true, Bool.true_and]
    cases props._flags f <;> rfl
  · rw [h.cluster_id] at hflag
    cases hflag
  · have hv : (row props members BasicFlag.all).lookup f.key =
        some ((field props f).decoded members) := by rw [hlookup f, if_pos hflag]
    rw [he.fields f (BasicFlag.mem_all f) _ hv]
    exact stored_again h hflag fun hf => htable (hf ▸ hflag)
  · exact he.headers (Or.inl (by rw [hlookup, hflag, if_neg Bool.false_ne_true]))

/-- What the encoder makes of the dict under `headers`. -/
theorem headers_encoded {p : PyMembers} {sent : amqp_basic_properties_t}
    (hsent : PyDict_to_basic_properties p none = .ret (some sent, none))
    (hv : p.lookup BasicFlag.headers.key = some (.dict members)) :
    ∃ err, PyDict_ToAMQTable members err = .ret (sent.headers, none) := by
  rw [properties_steps] at hsent
  obtain ⟨r, _, hsent⟩ := Outcome.ret_of_bind hsent
  rcases hints : intSteps p r with ⟨props, err⟩
  rw [hints] at hsent
  cases props with
  | none => cases hsent
  | some props =>
    have hv : p.lookup (.str (pyStr "headers")) = some (.dict members) := hv
    rw [setHeaders, hv] at hsent
    obtain ⟨⟨table, err'⟩, htable, hsent⟩ := Outcome.ret_of_bind hsent
    cases err' with
    | some e => cases hsent
    | none =>
      cases hsent
      exact ⟨err, htable⟩

theorem isText_octets {b : Octets} (h : props.IsUtf8) (hflag : props._flags f = true)
    (hb : field props f = .octets b) : AreUtf8 b := by
  have htext := isText_of_isUtf8 h f hflag
  rwa [hb] at htext

/-- A string that the encoder has taken is ASCII. -/
theorem ascii_of_taken {sent : amqp_basic_properties_t} {b : Octets}
    (hsent : PyDict_to_basic_properties (row props members BasicFlag.all) none =
      .ret (some sent, none))
    (hv : (row props members BasicFlag.all).lookup f.key = some ((field props f).decoded members))
    (htext : AreUtf8 b) (hb : field props f = .octets b) : AreAscii b := by
  obtain ⟨s, hs⟩ := Option.isSome_iff_exists.mp htext
  have hf : f ∈ strings := by
    revert hb
    cases f <;> first | exact fun _ => by decide | exact fun hb => by cases hb
  rw [hb, Field.decoded, hs] at hv
  have hraise : propertiesRaise (row props members BasicFlag.all) = false := by
    rcases properties_end (row props members BasicFlag.all) with
      ⟨_, hcrash⟩ | ⟨_, _, err, hnone⟩ | ⟨_, hraise, _⟩
    · rw [hcrash] at hsent
      cases hsent
    · rw [hnone] at hsent
      cases hsent
    · exact hraise
  unfold propertiesRaise stringsRaise at hraise
  rw [Bool.or_eq_false_iff, List.any_eq_false] at hraise
  have htaken := hraise.1 f hf
  rw [hv] at htaken
  obtain ⟨b', hb'⟩ := Option.ne_none_iff_exists'.mp
    (show asciiEncode s ≠ none by simpa [refused] using htaken)
  have hsame := utf8Encode_of_ascii hb'
  rw [utf8Encode_utf8Decode hs] at hsame
  cases hsame
  exact areAscii_of_encode hb'

/-- A dict that was decoded is the row of the properties. -/
theorem decoded_row {pd : PyMembers}
    (h : basic_properties_to_PyDict props [] none = .ret (pd, none)) : ∃ members,
      (props._flags .headers = true →
        AMQTable_toPyDict props.headers none = .ret (members, none)) ∧
      pd = row props members BasicFlag.all := by
  have hutf8 := isUtf8_of_decoded h
  obtain ⟨members, hmembers⟩ : ∃ members, props._flags .headers = true →
      AMQTable_toPyDict props.headers none = .ret (members, none) := by
    cases hflag : props._flags .headers with
    | false => exact ⟨[], fun h => absurd h Bool.false_ne_true⟩
    | true =>
      obtain ⟨members, hmembers⟩ := table_decodes props.headers (hutf8.headers hflag) [] none
      exact ⟨members, fun _ => hmembers⟩
  have hrow := properties_row (isText_of_isUtf8 hutf8) hmembers
  rw [h] at hrow
  cases hrow
  exact ⟨members, hmembers, rfl⟩

/-- Properties that are sent as they were received are carried. -/
theorem carried_of_sent {sent : amqp_basic_properties_t}
    (hsent : republished props = .ret (some sent, none)) (hsame : SameOnWire props sent) :
    PropertiesCarried props := by
  unfold republished at hsent
  obtain ⟨⟨p, err⟩, hdecoded, hsent⟩ := Outcome.ret_of_bind hsent
  cases err with
  | some e => cases hsent
  | none =>
    have hutf8 := isUtf8_of_decoded hdecoded
    obtain ⟨members, hmembers, rfl⟩ := decoded_row hdecoded
    have hlookup : ∀ f : BasicFlag, props._flags f = true →
        (row props members BasicFlag.all).lookup f.key =
          some ((field props f).decoded members) := by
      intro f hflag
      rw [lookup_row, if_pos ⟨BasicFlag.mem_all f, hflag⟩]
    refine ⟨hsame.clusterFlag.symm.trans (encoded_unclustered hsent), fun f b hflag hb => ?_,
      fun hflag => ?_⟩
    · exact ascii_of_taken hsent (hlookup f hflag) (isText_octets hutf8 hflag hb) hb
    · obtain ⟨err, htable⟩ := headers_encoded hsent (hlookup .headers hflag)
      have hsameTable : sent.headers = props.headers :=
        Field.table.inj (hsame.fields .headers hflag)
      rw [hsameTable] at htable
      obtain ⟨_, _, hpending⟩ := (toAMQTable_comes members err).of_ret htable
      cases err with
      | some e => cases hpending
      | none => exact carried_of_encoded (hmembers hflag) htable

theorem setHeaders_quiet {p : PyMembers} {sent : amqp_basic_properties_t} {err : Option PyErr}
    (h : setHeaders p (some props, none) = .ret (some sent, err)) : err = none := by
  unfold setHeaders at h
  dsimp only at h
  split at h
  · cases h
    rfl
  · obtain ⟨⟨headers, err'⟩, _, hrest⟩ := Outcome.ret_of_bind h
    cases err' with
    | some e => cases hrest
    | none =>
      cases hrest
      rfl
  · cases h

/-- The integers of a frame fit. -/
theorem row_integers : integersRaise (row props members BasicFlag.all) = false := by
  unfold integersRaise
  rw [List.any_eq_false]
  intro f hf
  cases hv : (row props members BasicFlag.all).lookup f.key with
  | none => simp
  | some v =>
    obtain ⟨-, rfl⟩ := lookup_decoded hv
    have hfits : ∀ n : Int, FitsLong n → (PyInt_AS_LONG (.int n) none).2 = none := by
      intro n hn
      unfold PyInt_AS_LONG PyLong_AsLong
      simp [hn]
    have hquiet : (PyInt_AS_LONG ((field props f).decoded members) none).2 = none := by
      simp only [integers, List.mem_cons, List.not_mem_nil, or_false] at hf
      rcases hf with rfl | rfl | rfl
      · have := props.delivery_mode.isLt
        exact hfits _ (by unfold FitsLong; omega)
      · have := props.priority.isLt
        exact hfits _ (by unfold FitsLong; omega)
      · have := props.timestamp.le_toInt
        have := props.timestamp.toInt_lt
        exact hfits _ (by unfold FitsLong; omega)
    simp [hquiet]

/-- A dict that was decoded is encoded, if it is, with no exception pending. -/
theorem decoded_quiet {pd : PyMembers} {sent : amqp_basic_properties_t} {err : Option PyErr}
    (hdecoded : basic_properties_to_PyDict props [] none = .ret (pd, none))
    (hsent : PyDict_to_basic_properties pd none = .ret (some sent, err)) : err = none := by
  obtain ⟨members, _, rfl⟩ := decoded_row hdecoded
  rw [properties_steps] at hsent
  rcases strings_end (p := row props members BasicFlag.all) strings
      { amqp_basic_properties_t.empty with _flags := fun f => f = .headers } none with
    ⟨_, hrun⟩ | ⟨_, _, _, hrun⟩ | ⟨_, _, props', hrun⟩
  · rw [hrun] at hsent
    cases hsent
  · rw [hrun] at hsent
    cases hsent
  · obtain ⟨props'', err', hints, hpending⟩ :=
      integers_end (p := row props members BasicFlag.all) props'
    rw [row_integers, Option.isSome_eq_false_iff, Option.isNone_iff_eq_none] at hpending
    rw [hrun, Outcome.ret_bind, hints, hpending] at hsent
    exact setHeaders_quiet hsent

end

theorem sent_of_carried {props : amqp_basic_properties_t} (h : PropertiesCarried props) :
    ∃ sent, republished props = .ret (some sent, none) ∧ SameOnWire props sent := by
  cases hflag : props._flags .headers with
  | false => exact @carried_sent props [] h fun hset => absurd hset (by simp [hflag])
  | true =>
    obtain ⟨members, hdec, henc⟩ := encoded_of_carried (h.headers hflag)
    exact carried_sent h fun _ => ⟨hdec, henc⟩

/-- Properties are sent as they were received exactly when they are carried: there is no
`cluster_id`, every string is ASCII, and the headers are a table that is carried. The timestamp,
the mode and the priority go through whatever they are. -/
theorem properties_are_forwarded_exactly_when_they_are_carried (props : amqp_basic_properties_t) :
    (∃ sent, republished props = .ret (some sent, none) ∧ SameOnWire props sent) ↔
      PropertiesCarried props := by
  constructor
  · rintro ⟨sent, hsent, hsame⟩
    exact carried_of_sent hsent hsame
  · exact sent_of_carried

end librabbitmq.forwarding
