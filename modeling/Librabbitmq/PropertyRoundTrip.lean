-- The round trip of the properties of a message. Each property goes into the field under its
-- own flag, and the dict that comes back has it under the same key.
import Librabbitmq.PropertySteps
import Librabbitmq.TableRoundTrip
import Librabbitmq.Encoding

namespace librabbitmq.property_round_trip

open property_fields property_steps round_trip encoding

/-! ## The domain -/

/-- The table codec gives the dict back, with each tuple as a list. -/
def RoundTrips (members : PyMembers) : Prop :=
  ∃ table, PyDict_ToAMQTable members none = .ret (table, none) ∧
    AMQTable_toPyDict table none = .ret (listifiedMembers members, none)

/-- The values of a property. -/
def ValueDomain : BasicFlag → PyObj → Prop
  | .delivery_mode, v => ∃ n, v = .int n ∧ 0 ≤ n ∧ n < 2 ^ 8
  | .priority, v => ∃ n, v = .int n ∧ 0 ≤ n ∧ n < 2 ^ 8
  | .timestamp, v => ∃ n, v = .int n ∧ 0 ≤ n ∧ n < 2 ^ 63
  | .headers, v => ∃ members, v = .dict members ∧ RoundTrips members
  | _, v => ∃ s, v = .str s ∧ IsAscii s

/-- A dict of properties: known keys only, each once. -/
structure PropertyDomain (p : PyMembers) : Prop where
  nodup : (p.map Prod.fst).Nodup
  known : ∀ e ∈ p, ∃ f : BasicFlag, e.1 = f.key ∧ ValueDomain f e.2

/-- The dict that comes back: tuples are lists, and there are headers. -/
def returned (p : PyMembers) : PyMembers :=
  listifiedMembers p ++
    if (p.lookup BasicFlag.headers.key).isNone then [(BasicFlag.headers.key, .dict [])] else []

/-- The two dicts have the same members. -/
def SameDict (d e : PyMembers) : Prop :=
  (d.map Prod.fst).Nodup ∧ (e.map Prod.fst).Nodup ∧ ∀ key, d.lookup key = e.lookup key

/-- On the domain of the table codec it gives the dict back. -/
theorem roundTrips_of_domain {members : PyMembers} (h : DictDomain members) :
    RoundTrips members :=
  ⟨entriesOf members, members_encode members h.2 [] none,
    members_decode members h.2 [] (by simpa using h.1) none⟩

theorem RoundTrips.table {members : PyMembers} (h : RoundTrips members) :
    PyDict_ToAMQTable members none = .ret (tableOf members, none) ∧
      AMQTable_toPyDict (tableOf members) none = .ret (listifiedMembers members, none) := by
  obtain ⟨table, henc, hdec⟩ := h
  obtain ⟨_, rfl, _⟩ := (toAMQTable_comes members none).of_ret henc
  exact ⟨henc, hdec⟩

/-! ## From the dict to the fields -/

/-- The field for a value. -/
def stored : BasicFlag → PyObj → Field
  | .delivery_mode, .int n => .byte (BitVec.ofInt 8 n)
  | .priority, .int n => .byte (BitVec.ofInt 8 n)
  | .timestamp, .int n => .stamp (BitVec.ofInt 64 n)
  | .headers, .dict members => .table (tableOf members)
  | _, .str s => .octets ((asciiEncode s).getD [])
  | _, _ => .octets []

/-- The properties behind some of the keys: flags and fields say what the dict has. -/
structure Encoded (p : PyMembers) (done : List BasicFlag) (props : amqp_basic_properties_t) :
    Prop where
  flags : ∀ f, props._flags f =
    (decide (f = .headers) || (decide (f ∈ done) && (p.lookup f.key).isSome))
  fields : ∀ f ∈ done, ∀ v, p.lookup f.key = some v → field props f = stored f v
  headers : p.lookup BasicFlag.headers.key = none ∨ .headers ∉ done → props.headers = []

/-- The store writes the field of the flag and nothing else. -/
def Stores {α : Type} (f : BasicFlag) (wrap : α → Field)
    (store : amqp_basic_properties_t → α → amqp_basic_properties_t) : Prop :=
  ∀ props x, (store props x)._flags = props._flags ∧
    ∀ g, field (store props x) g = if g = f then wrap x else field props g

section

variable {p : PyMembers} {done : List BasicFlag} {props : amqp_basic_properties_t} {f : BasicFlag}

/-- A key that the dict does not have. -/
theorem Encoded.skip (h : Encoded p done props) (hnone : p.lookup f.key = none) :
    Encoded p (done ++ [f]) props := by
  refine ⟨fun g => ?_, fun g hg v hv => ?_, fun hor => h.headers (hor.imp_right ?_)⟩
  · rw [h.flags g]
    by_cases hg : g = f
    · subst hg
      simp [hnone]
    · simp [hg]
  · rcases List.mem_append.mp hg with hg | hg
    · exact h.fields g hg v hv
    · rw [List.mem_singleton.mp hg, hnone] at hv
      cases hv
  · exact fun hnot hmem => hnot (List.mem_append_left _ hmem)

/-- A key whose value is stored. -/
theorem Encoded.store {α : Type} {wrap : α → Field} {x : α} {v : PyObj}
    {store : amqp_basic_properties_t → α → amqp_basic_properties_t} (h : Encoded p done props)
    (hstore : Stores f wrap store) (hv : p.lookup f.key = some v) (hx : wrap x = stored f v)
    (hf : f ≠ .headers) (hnot : f ∉ done) :
    Encoded p (done ++ [f]) { store props x with
      _flags := fun g => g = f || (store props x)._flags g } := by
  obtain ⟨hflags, hfields⟩ := hstore props x
  have hsame : ∀ g, field { store props x with
      _flags := fun g => g = f || (store props x)._flags g } g =
      if g = f then wrap x else field props g := by
    intro g
    rw [← hfields g]
    cases g <;> rfl
  refine ⟨fun g => ?_, fun g hg u hu => ?_, fun hor => ?_⟩
  · dsimp only
    rw [hflags, h.flags g]
    by_cases hg : g = f
    · subst hg
      simp [hv, hf]
    · simp [hg]
  · rw [hsame g]
    by_cases hgf : g = f
    · subst hgf
      rw [if_pos rfl, hx]
      rw [hv] at hu
      cases hu
      rfl
    · rw [if_neg hgf]
      rcases List.mem_append.mp hg with hg | hg
      · exact h.fields g hg u hu
      · exact absurd (List.mem_singleton.mp hg) hgf
  · have hheaders := hsame .headers
    rw [if_neg (Ne.symm hf)] at hheaders
    have hold := h.headers (hor.imp_right fun hnot hmem => hnot (List.mem_append_left _ hmem))
    exact (Field.table.inj hheaders).trans hold

/-- One string property. -/
theorem setString_encoded {store : amqp_basic_properties_t → Octets → amqp_basic_properties_t}
    (h : Encoded p done props) (hstore : Stores f .octets store) (hf : f ≠ .headers)
    (hnot : f ∉ done) (hvalue : ∀ v, p.lookup f.key = some v → ∃ s, v = .str s ∧ IsAscii s)
    (hstr : ∀ s, stored f (.str s) = .octets ((asciiEncode s).getD [])) :
    ∃ props', setString p f.name f store (some props, none) = .ret (some props', none) ∧
      Encoded p (done ++ [f]) props' := by
  unfold setString
  cases hv : p.lookup f.key with
  | none =>
    have hv' : p.lookup (.str (pyStr f.name)) = none := hv
    rw [hv']
    exact ⟨props, rfl, h.skip hv⟩
  | some v =>
    obtain ⟨s, rfl, hs⟩ := hvalue v hv
    obtain ⟨b, hb⟩ := Option.isSome_iff_exists.mp hs
    have hv' : p.lookup (.str (pyStr f.name)) = some (.str s) := hv
    rw [hv']
    dsimp only
    rw [maybe_unicode_ascii hb]
    refine ⟨_, rfl, h.store hstore hv ?_ hf hnot⟩
    rw [hstr, hb]
    rfl

/-- One integer property. -/
theorem setInt_encoded {wrap : Int → Field}
    {store : amqp_basic_properties_t → Int → amqp_basic_properties_t}
    (h : Encoded p done props) (hstore : Stores f wrap store) (hf : f ≠ .headers)
    (hnot : f ∉ done) (hvalue : ∀ v, p.lookup f.key = some v → ∃ n, v = .int n ∧ FitsLong n)
    (hint : ∀ n, stored f (.int n) = wrap n) :
    ∃ props', setInt p f.name f store (some props, none) = (some props', none) ∧
      Encoded p (done ++ [f]) props' := by
  unfold setInt
  cases hv : p.lookup f.key with
  | none =>
    have hv' : p.lookup (.str (pyStr f.name)) = none := hv
    rw [hv']
    exact ⟨props, rfl, h.skip hv⟩
  | some v =>
    obtain ⟨n, rfl, hn⟩ := hvalue v hv
    have hv' : p.lookup (.str (pyStr f.name)) = some (.int n) := hv
    rw [hv']
    dsimp only
    unfold PyInt_AS_LONG PyLong_AsLong
    dsimp only
    rw [if_pos hn]
    exact ⟨_, rfl, h.store hstore hv (hint n).symm hf hnot⟩

end

/-! ## The whole dict -/

theorem mem_of_lookup {p : PyMembers} {key : PyKey} {v : PyObj} (h : p.lookup key = some v) :
    (key, v) ∈ p := by
  obtain ⟨l, r, rfl, _⟩ := List.lookup_eq_some_iff.mp h
  simp

theorem PropertyDomain.value {p : PyMembers} (h : PropertyDomain p) {f : BasicFlag} {v : PyObj}
    (hv : p.lookup f.key = some v) : ValueDomain f v := by
  obtain ⟨g, hkey, hvalue⟩ := h.known (f.key, v) (mem_of_lookup hv)
  rw [key_injective hkey]
  exact hvalue

theorem encoded_start (p : PyMembers) :
    Encoded p [] { amqp_basic_properties_t.empty with _flags := fun f => f = .headers } :=
  ⟨fun f => by simp, fun f hf => absurd hf (by simp), fun _ => rfl⟩

theorem stores_delivery_mode : Stores .delivery_mode (fun n => .byte (BitVec.ofInt 8 n))
    fun props (n : Int) => { props with delivery_mode := BitVec.ofInt 8 n } :=
  fun _ _ => ⟨rfl, fun g => by cases g <;> rfl⟩

theorem stores_priority : Stores .priority (fun n => .byte (BitVec.ofInt 8 n))
    fun props (n : Int) => { props with priority := BitVec.ofInt 8 n } :=
  fun _ _ => ⟨rfl, fun g => by cases g <;> rfl⟩

theorem stores_timestamp : Stores .timestamp (fun n => .stamp (BitVec.ofInt 64 n))
    fun props (n : Int) => { props with timestamp := BitVec.ofInt 64 n } :=
  fun _ _ => ⟨rfl, fun g => by cases g <;> rfl⟩

/-- The headers, behind all other properties. -/
theorem setHeaders_encoded {p : PyMembers} {props : amqp_basic_properties_t}
    (hvalue : ∀ v, p.lookup BasicFlag.headers.key = some v → ∃ members, v = .dict members ∧
      PyDict_ToAMQTable members none = .ret (tableOf members, none))
    (he : Encoded p (BasicFlag.all.take 12) props) :
    ∃ props', setHeaders p (some props, none) = .ret (some props', none) ∧
      Encoded p BasicFlag.all props' := by
  have hall : BasicFlag.all = BasicFlag.all.take 12 ++ [.headers] := rfl
  unfold setHeaders
  cases hv : p.lookup BasicFlag.headers.key with
  | none =>
    have hv' : p.lookup (.str (pyStr "headers")) = none := hv
    rw [hv', hall]
    exact ⟨props, rfl, he.skip hv⟩
  | some v =>
    obtain ⟨members, rfl, htable⟩ := hvalue v hv
    have hv' : p.lookup (.str (pyStr "headers")) = some (.dict members) := hv
    rw [hv']
    dsimp only
    rw [htable]
    refine ⟨{ props with headers := tableOf members }, rfl, fun f => ?_, fun f hf v hv1 => ?_,
      fun hor => ?_⟩
    · rw [he.flags f]
      cases f <;> rfl
    · by_cases hheaders : f = .headers
      · subst hheaders
        rw [hv] at hv1
        cases hv1
        rfl
      · rw [hall] at hf
        have hold := he.fields f ((List.mem_append.mp hf).resolve_right
          fun hm => hheaders (List.mem_singleton.mp hm)) v hv1
        rw [← hold]
        cases f <;> first | rfl | exact absurd rfl hheaders
    · rcases hor with hnone | hnot
      · rw [hv] at hnone
        cases hnone
      · exact absurd (BasicFlag.mem_all _) hnot

theorem storeString_stores {f : BasicFlag} (hf : f ∈ strings) :
    Stores f .octets (storeString f) := by
  intro props b
  refine ⟨?_, fun g => ?_⟩
  · cases f <;> rfl
  · revert hf
    cases f <;> cases g <;> first | exact fun _ => rfl | exact fun hf => absurd hf (by decide)

/-- One string property. -/
theorem string_encoded {p : PyMembers} {done : List BasicFlag} {props : amqp_basic_properties_t}
    {f : BasicFlag} (hvalue : ∀ v, p.lookup f.key = some v → ∃ s, v = .str s ∧ IsAscii s)
    (hf : f ∈ strings) (hnot : f ∉ done) (he : Encoded p done props) :
    ∃ props', stringStep p (some props, none) f = .ret (some props', none) ∧
      Encoded p (done ++ [f]) props' := by
  refine setString_encoded he (storeString_stores hf) ?_ hnot hvalue fun s => ?_
  · rintro rfl
    exact absurd hf (by decide)
  · cases f <;> rfl

theorem fits_of_range {v : PyObj} {m : Int} (hm : m ≤ 2 ^ 63)
    (h : ∃ n, v = .int n ∧ 0 ≤ n ∧ n < m) : ∃ n, v = .int n ∧ FitsLong n := by
  obtain ⟨n, rfl, h0, h1⟩ := h
  refine ⟨n, rfl, ?_⟩
  unfold FitsLong
  omega

/-- Every property is stored, where each value is one that its step takes. -/
theorem values_encoded {p : PyMembers}
    (hstring : ∀ f ∈ strings, ∀ v, p.lookup f.key = some v → ∃ s, v = .str s ∧ IsAscii s)
    (hint : ∀ f : BasicFlag, f = .delivery_mode ∨ f = .priority ∨ f = .timestamp →
      ∀ v, p.lookup f.key = some v → ∃ n, v = .int n ∧ FitsLong n)
    (htable : ∀ v, p.lookup BasicFlag.headers.key = some v → ∃ members, v = .dict members ∧
      PyDict_ToAMQTable members none = .ret (tableOf members, none)) :
    ∃ props, PyDict_to_basic_properties p none = .ret (some props, none) ∧
      Encoded p BasicFlag.all props := by
  obtain ⟨r, hstrings, p9, rfl, e9⟩ := strings_keep (p := p)
    (P := fun done r => ∃ props, r = (some props, none) ∧ Encoded p done props)
    (fun done f r hf hnot ⟨props, hr, he⟩ => by
      subst hr
      obtain ⟨props', hstep, he'⟩ := string_encoded (hstring f hf) hf hnot he
      exact ⟨_, hstep, props', rfl, he'⟩)
    ⟨_, rfl, encoded_start p⟩
  obtain ⟨p10, r10, e10⟩ := setInt_encoded (f := .delivery_mode) e9 stores_delivery_mode (by decide)
    (by decide) (hint _ (by simp)) fun _ => rfl
  obtain ⟨p11, r11, e11⟩ := setInt_encoded (f := .priority) e10 stores_priority (by decide)
    (by decide) (hint _ (by simp)) fun _ => rfl
  obtain ⟨p12, r12, e12⟩ := setInt_encoded (f := .timestamp) e11 stores_timestamp (by decide)
    (by decide) (hint _ (by simp)) fun _ => rfl
  obtain ⟨p13, r13, e13⟩ := setHeaders_encoded htable e12
  refine ⟨p13, ?_, e13⟩
  rw [properties_steps, hstrings, Outcome.ret_bind]
  unfold intSteps
  dsimp only
  rw [r10, r11, r12]
  exact r13

/-- The same on the domain of the round trip. -/
theorem properties_encoded {p : PyMembers} (h : PropertyDomain p) :
    ∃ props, PyDict_to_basic_properties p none = .ret (some props, none) ∧
      Encoded p BasicFlag.all props := by
  refine values_encoded (fun f hf v hv => ?_) (fun f hf v hv => ?_) fun v hv => ?_
  · have hvalue := h.value hv
    revert hf hvalue
    cases f <;> first | exact fun _ hvalue => hvalue | exact fun hf _ => absurd hf (by decide)
  · rcases hf with rfl | rfl | rfl <;> exact fits_of_range (by decide) (h.value hv)
  · obtain ⟨members, rfl, hround⟩ := h.value hv
    exact ⟨members, rfl, hround.table.1⟩

/-! ## Back to the dict -/

/-- What the headers are decoded to. -/
def headersOf (p : PyMembers) : PyMembers :=
  match p.lookup BasicFlag.headers.key with
  | some (.dict members) => listifiedMembers members
  | _ => []

/-- A field gives back the value that it was stored for. -/
theorem stored_decoded {f : BasicFlag} {v : PyObj} (h : ValueDomain f v) {headers : PyMembers}
    (hheaders : f = .headers → ∀ members, v = .dict members → headers = listifiedMembers members) :
    (stored f v).IsText ∧ (stored f v).decoded headers = listified v := by
  have hstring : ∀ s, v = .str s → IsAscii s →
      AreUtf8 ((asciiEncode s).getD []) ∧
        (Field.octets ((asciiEncode s).getD [])).decoded headers = listified v := by
    rintro s rfl hs
    obtain ⟨b, hb⟩ := Option.isSome_iff_exists.mp hs
    have hdec : utf8Decode b = some s := utf8Decode_utf8Encode (utf8Encode_of_ascii hb)
    simp [hb, AreUtf8, Field.decoded, hdec, listified]
  have hbyte : ∀ n : Int, v = .int n → 0 ≤ n → n < 2 ^ 8 →
      (Field.byte (BitVec.ofInt 8 n)).decoded headers = listified v := by
    rintro n rfl h0 h1
    have hn : ((BitVec.ofInt 8 n).toNat : Int) = n := by
      rw [BitVec.toNat_ofInt]
      omega
    exact congrArg PyObj.int hn
  cases f with
  | delivery_mode =>
    obtain ⟨n, rfl, h0, h1⟩ := h
    exact ⟨trivial, hbyte n rfl h0 h1⟩
  | priority =>
    obtain ⟨n, rfl, h0, h1⟩ := h
    exact ⟨trivial, hbyte n rfl h0 h1⟩
  | timestamp =>
    obtain ⟨n, rfl, h0, h1⟩ := h
    have hn : (BitVec.ofInt 64 n).toInt = n := by
      rw [BitVec.toInt_ofInt, Int.bmod_def]
      omega
    refine ⟨trivial, ?_⟩
    simp [stored, Field.decoded, listified, hn]
  | headers =>
    obtain ⟨members, rfl, _⟩ := h
    refine ⟨trivial, ?_⟩
    simp [stored, Field.decoded, listified, hheaders rfl members rfl]
  | _ =>
    obtain ⟨s, rfl, hs⟩ := h
    exact hstring s rfl hs

/-- The same in the dict of the properties. -/
theorem headers_decoded {p : PyMembers} (h : PropertyDomain p) {f : BasicFlag} {v : PyObj}
    (hv : p.lookup f.key = some v) :
    (stored f v).IsText ∧ (stored f v).decoded (headersOf p) = listified v := by
  refine stored_decoded (h.value hv) fun hf members hm => ?_
  subst hf hm
  unfold headersOf
  rw [hv]

theorem lookup_listified (p : PyMembers) (key : PyKey) :
    (listifiedMembers p).lookup key = (p.lookup key).map listified := by
  induction p with
  | nil => rfl
  | cons e p ih =>
    rw [listifiedMembers, List.lookup_cons, List.lookup_cons]
    cases key == e.1 with
    | true => rfl
    | false => exact ih

theorem listified_keys (p : PyMembers) : (listifiedMembers p).map Prod.fst = p.map Prod.fst := by
  induction p with
  | nil => rfl
  | cons e p ih => rw [listifiedMembers, List.map_cons, List.map_cons, ih]

theorem returned_nodup {p : PyMembers} (h : PropertyDomain p) :
    ((returned p).map Prod.fst).Nodup := by
  unfold returned
  rw [List.map_append, listified_keys]
  cases hv : p.lookup BasicFlag.headers.key with
  | some v => simpa using h.nodup
  | none =>
    have hnot : BasicFlag.headers.key ∉ p.map Prod.fst := by
      intro hmem
      obtain ⟨e, he, hkey⟩ := List.mem_map.mp hmem
      exact absurd (List.lookup_eq_none_iff.mp hv e he) (by simp [hkey])
    rw [List.nodup_append]
    refine ⟨h.nodup, by simp, fun a ha b hb hab => ?_⟩
    have hb' : b = BasicFlag.headers.key := by simpa using hb
    exact hnot (hb' ▸ hab ▸ ha)

/-- The members of the dict that comes back. -/
theorem lookup_returned {p : PyMembers} (key : PyKey) :
    (returned p).lookup key = ((p.lookup key).map listified).or
      (if key = BasicFlag.headers.key then some (.dict []) else none) := by
  unfold returned
  rw [List.lookup_append, lookup_listified]
  cases hv : p.lookup BasicFlag.headers.key with
  | none =>
    by_cases hkey : key = BasicFlag.headers.key
    · simp [hkey, hv]
    · have hother : [(BasicFlag.headers.key, PyObj.dict [])].lookup key = none := by
        rw [List.lookup_cons, beq_false_of_ne hkey]
        rfl
      simp [hkey, hother]
  | some v =>
    by_cases hkey : key = BasicFlag.headers.key
    · simp [hkey, hv]
    · simp [hkey]

/-- The row of the stored properties is the dict that comes back. -/
theorem row_same {p : PyMembers} (h : PropertyDomain p) {props : amqp_basic_properties_t}
    (he : Encoded p BasicFlag.all props) :
    SameDict (row props (headersOf p) BasicFlag.all) (returned p) := by
  refine ⟨row_nodup (by decide), returned_nodup h, fun key => ?_⟩
  rw [lookup_returned]
  by_cases hknown : ∃ f : BasicFlag, f.key = key
  · obtain ⟨f, rfl⟩ := hknown
    have hkey : f.key = BasicFlag.headers.key ↔ f = .headers :=
      ⟨fun heq => key_injective heq, fun heq => by rw [heq]⟩
    rw [lookup_row, he.flags f]
    simp only [BasicFlag.mem_all, true_and, hkey, decide_true, Bool.true_and]
    cases hv : p.lookup f.key with
    | some v =>
      have hdec := (headers_decoded h hv).2
      rw [he.fields f (BasicFlag.mem_all f) v hv, hdec]
      simp
    | none =>
      by_cases hf : f = .headers
      · subst hf
        have hempty : headersOf p = [] := by
          unfold headersOf
          rw [hv]
        simp [field, Field.decoded, hempty]
      · simp [hf]
  · have hother : ∀ f : BasicFlag, f.key ≠ key := fun f hf => hknown ⟨f, hf⟩
    have hnone : p.lookup key = none := by
      rw [List.lookup_eq_none_iff]
      intro e hmem
      obtain ⟨f, hf, _⟩ := h.known e hmem
      exact bne_iff_ne.mpr fun heq => hother f (by rw [heq, hf])
    rw [lookup_row_other hother, hnone]
    simp [Ne.symm (hother .headers)]

/-- The properties of a message survive the round trip: the dict that comes back has the same
members, with the tuples of the headers as lists and with empty headers where there were
none. -/
theorem properties_survive_the_round_trip (p : PyMembers) (h : PropertyDomain p) :
    ∃ props d, PyDict_to_basic_properties p none = .ret (some props, none) ∧
      basic_properties_to_PyDict props [] none = .ret (d, none) ∧ SameDict d (returned p) := by
  obtain ⟨props, hret, he⟩ := properties_encoded h
  refine ⟨props, row props (headersOf p) BasicFlag.all, hret,
    properties_row (fun f hflag => ?_) fun _ => ?_, row_same h he⟩
  · rw [he.flags f] at hflag
    cases hv : p.lookup f.key with
    | some v =>
      rw [he.fields f (BasicFlag.mem_all f) v hv]
      exact (headers_decoded h hv).1
    | none =>
      have hf : f = .headers := by simpa [hv] using hflag
      subst hf
      trivial
  · unfold headersOf
    cases hv : p.lookup BasicFlag.headers.key with
    | none =>
      rw [he.headers (.inl hv)]
      rfl
    | some v =>
      obtain ⟨members, rfl, hround⟩ := h.value hv
      have hfield := he.fields .headers (BasicFlag.mem_all _) _ hv
      rw [Field.table.inj hfield]
      exact hround.table.2

/-- A text, a mode and headers with a tuple. -/
def message : PyMembers :=
  [(.str (pyStr "content_type"), .str (pyStr "text/plain")), (.str (pyStr "delivery_mode"), .int 2),
    (.str (pyStr "headers"), .dict [(.str (pyStr "x"), .tuple [.int 1, .str (pyStr "a")])])]

theorem message_domain : PropertyDomain message := by
  refine ⟨by decide, fun e he => ?_⟩
  simp only [message, List.mem_cons, List.not_mem_nil, or_false] at he
  rcases he with rfl | rfl | rfl
  · exact ⟨.content_type, rfl, _, rfl, by decide⟩
  · exact ⟨.delivery_mode, rfl, 2, rfl, by decide, by decide⟩
  · refine ⟨.headers, rfl, _, rfl, roundTrips_of_domain ⟨by decide, ?_⟩⟩
    have htext : IsAscii (pyStr "a") := by decide
    exact ⟨⟨_, rfl, by decide⟩, ⟨⟨by decide, by decide⟩, htext, trivial⟩, trivial⟩

theorem the_message_survives :
    ∃ props d, PyDict_to_basic_properties message none = .ret (some props, none) ∧
      basic_properties_to_PyDict props [] none = .ret (d, none) ∧ SameDict d (returned message) :=
  properties_survive_the_round_trip message message_domain

end librabbitmq.property_round_trip
