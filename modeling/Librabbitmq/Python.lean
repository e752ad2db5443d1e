-- The part of CPython that the extension leans on: values, text codecs, the
-- pending exception and dicts.
import Librabbitmq.Run
import Mathlib.Data.List.Basic
import Mathlib.Data.List.Nodup
import Mathlib.Algebra.Order.Ring.Int
import Mathlib.Algebra.Order.Ring.Nat
import Mathlib.Tactic.SplitIfs

namespace librabbitmq

/-! ## Text -/

/-- The octets of an `amqp_bytes_t` or of a Python `bytes`. -/
abbrev Octets := List UInt8

/-- A code point of a Python `str`: a scalar value, or a lone surrogate
(`0xD800 + s`), which no codec here encodes. -/
inductive CodePoint where
  | scalar (c : Char)
  | surrogate (s : Fin 0x800)
  deriving DecidableEq

abbrev PyStr := List CodePoint

/-- A C string literal as a `str`. -/
def pyStr (s : String) : PyStr := s.toList.map .scalar

/-- The strict UTF-8 encoding of one code point. -/
def CodePoint.utf8? : CodePoint → Option Octets
  | .scalar c => some (String.utf8EncodeChar c)
  | .surrogate _ => none

/-- The strict ASCII encoding of one code point. -/
def CodePoint.ascii? : CodePoint → Option UInt8
  | .scalar c => if c.toNat < 128 then some c.toUInt8 else none
  | .surrogate _ => none

/-- The UTF-8 encoding of a `str`, if it has one. -/
def utf8Encode : PyStr → Option Octets
  | [] => some []
  | c :: s => match c.utf8?, utf8Encode s with
    | some b, some bs => some (b ++ bs)
    | _, _ => none

/-- The ASCII encoding of a `str`, if it has one. -/
def asciiEncode : PyStr → Option Octets
  | [] => some []
  | c :: s => match c.ascii?, asciiEncode s with
    | some b, some bs => some (b :: bs)
    | _, _ => none

/-- The strict UTF-8 decoding of octets. -/
def utf8Decode (b : Octets) : Option PyStr :=
  b.toByteArray.utf8Decode?.map (fun cs => cs.toList.map .scalar)

/-- A `str` of ASCII characters only. -/
def IsAscii (s : PyStr) : Prop := (asciiEncode s).isSome

/-- A `str` that UTF-8 can encode. -/
def IsUtf8 (s : PyStr) : Prop := (utf8Encode s).isSome

instance (s : PyStr) : Decidable (IsAscii s) := inferInstanceAs (Decidable (_ = _))

instance (s : PyStr) : Decidable (IsUtf8 s) := inferInstanceAs (Decidable (_ = _))

theorem utf8Encode_scalars (cs : List Char) :
    utf8Encode (cs.map .scalar) = some (cs.flatMap String.utf8EncodeChar) := by
  induction cs with
  | nil => rfl
  | cons c cs ih => simp [utf8Encode, CodePoint.utf8?, ih]

/-- Only scalar values have an encoding. -/
theorem scalars_of_utf8Encode {s : PyStr} {b : Octets} (h : utf8Encode s = some b) :
    ∃ cs : List Char, s = cs.map .scalar ∧ b = cs.flatMap String.utf8EncodeChar := by
  induction s generalizing b with
  | nil =>
    simp only [utf8Encode, Option.some.injEq] at h
    exact ⟨[], rfl, by simp [← h]⟩
  | cons c s ih =>
    simp only [utf8Encode] at h
    split at h
    · rename_i b1 bs h1 h2
      obtain ⟨cs, rfl, rfl⟩ := ih h2
      cases c with
      | surrogate _ => simp [CodePoint.utf8?] at h1
      | scalar c =>
        simp only [CodePoint.utf8?, Option.some.injEq] at h1 h
        exact ⟨c :: cs, rfl, by simp [← h, ← h1]⟩
    · cases h

theorem utf8Decode_flatMap (cs : List Char) :
    utf8Decode (cs.flatMap String.utf8EncodeChar) = some (cs.map .scalar) := by
  have h : (cs.flatMap String.utf8EncodeChar).toByteArray.utf8Decode? = some cs.toArray :=
    List.utf8Decode?_utf8Encode
  simp [utf8Decode, h]

/-- UTF-8 decoding undoes the encoding. -/
theorem utf8Decode_utf8Encode {s : PyStr} {b : Octets} (h : utf8Encode s = some b) :
    utf8Decode b = some s := by
  obtain ⟨cs, rfl, rfl⟩ := scalars_of_utf8Encode h
  exact utf8Decode_flatMap cs

/-- UTF-8 encoding undoes the decoding. -/
theorem utf8Encode_utf8Decode {b : Octets} {s : PyStr} (h : utf8Decode b = some s) :
    utf8Encode s = some b := by
  simp only [utf8Decode, Option.map_eq_some_iff] at h
  obtain ⟨cs, hcs, rfl⟩ := h
  have hs : b.toByteArray.utf8Decode?.isSome := by rw [hcs]; rfl
  have hb := ByteArray.utf8Encode_get_utf8Decode? (h := hs)
  simp only [hcs, Option.get_some] at hb
  have hl := congrArg (fun x : ByteArray => x.data.toList) hb
  rw [utf8Encode_scalars]
  simpa [List.utf8Encode] using hl

/-- An ASCII `str` has the same octets in both codecs. -/
theorem utf8Encode_of_ascii {s : PyStr} {b : Octets} (h : asciiEncode s = some b) :
    utf8Encode s = some b := by
  induction s generalizing b with
  | nil => simpa [asciiEncode, utf8Encode] using h
  | cons c s ih =>
    simp only [asciiEncode] at h
    split at h
    · rename_i b1 bs h1 h2
      simp only [Option.some.injEq] at h
      subst h
      simp only [utf8Encode, ih h2]
      cases c with
      | surrogate _ => simp [CodePoint.ascii?] at h1
      | scalar c =>
        simp only [CodePoint.ascii?, Option.ite_none_right_eq_some, Option.some.injEq] at h1
        obtain ⟨hc, rfl⟩ := h1
        have hsize : c.utf8Size = 1 :=
          Char.utf8Size_eq_one_iff.mpr (UInt32.le_iff_toNat_le.mpr (Nat.le_of_lt_succ hc))
        simp [CodePoint.utf8?, String.utf8EncodeChar_eq_singleton hsize]
    · cases h

theorem IsAscii.isUtf8 {s : PyStr} (h : IsAscii s) : IsUtf8 s := by
  obtain ⟨b, hb⟩ := Option.isSome_iff_exists.mp h
  simp [IsUtf8, utf8Encode_of_ascii hb]

/-! ## Objects -/

/-- A key of a `dict`: a `str`, a `bytes`, or any other hashable object. -/
inductive PyKey where
  | str (s : PyStr)
  | bytes (b : Octets)
  | other (id : Nat)
  deriving DecidableEq

/-- A `PyObject *`. `null` is the NULL pointer; a list slot that holds it was
never filled. A float is its IEEE 754 bit pattern. -/
inductive PyObj where
  | null
  | none
  | bool (b : Bool)
  | int (n : Int)
  | float (bits : BitVec 64)
  | str (s : PyStr)
  | bytes (b : Octets)
  | list (items : List PyObj)
  | tuple (items : List PyObj)
  | dict (members : List (PyKey × PyObj))
  | other (id : Nat)

abbrev PyMembers := List (PyKey × PyObj)

def PyKey.toObj : PyKey → PyObj
  | .str s => .str s
  | .bytes b => .bytes b
  | .other id => .other id

/-- The key that an object makes. Only the kinds that the extension uses as
keys are here. -/
def PyObj.toKey? : PyObj → Option PyKey
  | .str s => some (.str s)
  | .bytes b => some (.bytes b)
  | .other id => some (.other id)
  | _ => Option.none

/-! ## The pending exception -/

inductive ExcClass where
  | ConnectionError
  | ChannelError
  | socket_timeout
  | OSError
  | ValueError
  | TypeError
  | KeyError
  | UnicodeEncodeError
  | UnicodeDecodeError
  | OverflowError
  | MemoryError
  | SystemError
  | user (id : Nat)
  deriving DecidableEq

/-- An exception: its class, and the format and the arguments of its text. The
text of an exception that CPython itself raises is left empty. -/
structure PyErr where
  cls : ExcClass
  fmt : String
  args : List PyObj

/-- An exception that CPython itself raises. -/
def PyErr.raised (c : ExcClass) : PyErr := ⟨c, "", []⟩

/-- What Python sees of a C function that returned an object or NULL. CPython
turns a result with an exception set into a `SystemError`. -/
def checkResult {α : Type} : Option α → Option PyErr → Except PyErr α
  | some a, none => .ok a
  | some _, some _ => .error ⟨.SystemError, "returned a result with an exception set", []⟩
  | none, some e => .error e
  | none, none => .error ⟨.SystemError, "returned NULL without setting an exception", []⟩

/-- An object that comes back was returned with no exception pending. -/
theorem checkResult_ok {α : Type} {o : Option α} {err : Option PyErr} {a : α}
    (h : checkResult o err = .ok a) : o = some a ∧ err = none := by
  cases o with
  | none => cases err <;> cases h
  | some b =>
    cases err with
    | none =>
      cases h
      exact ⟨rfl, rfl⟩
    | some e => cases h

/-! ## The interpreter -/

/-- What differs between the versions of CPython. -/
structure Interpreter where
  /-- The search of the types for an attribute that none of them has clears the pending
  exception. -/
  getAttrClears : Bool
  /-- The conversion of a dict to a table, where it raises nothing, gets through in a thread
  that has given up its thread state, and so does the release of what it made. -/
  convertsDetached : PyMembers → Bool

/-- The exception that is pending behind the lookup of an attribute of an instance. -/
def Interpreter.afterGetAttr (python : Interpreter) (err : Option PyErr) : Option PyErr :=
  if python.getAttrClears then none else err

theorem Interpreter.afterGetAttr_cases (python : Interpreter) (err : Option PyErr) :
    python.afterGetAttr err = err ∨ python.afterGetAttr err = none := by
  unfold Interpreter.afterGetAttr
  split
  · exact Or.inr rfl
  · exact Or.inl rfl

@[simp] theorem Interpreter.afterGetAttr_none (python : Interpreter) :
    python.afterGetAttr none = none := by
  unfold Interpreter.afterGetAttr
  split <;> rfl

/-- An interpreter that clears the exception, and that converts without a thread state. -/
def Interpreter.lenient : Interpreter := ⟨true, fun _ => true⟩

/-! ## The C API -/

/-- A `dict` of the extension's own: keys in the order of insertion. -/
abbrev Dict (κ ν : Type) := List (κ × ν)

/-- `d[k] = v`. A key that is there keeps its place. -/
def Dict.set {κ ν : Type} [DecidableEq κ] : Dict κ ν → κ → ν → Dict κ ν
  | [], k, v => [(k, v)]
  | e :: d, k, v => if e.1 = k then (k, v) :: d else e :: Dict.set d k v

/-- `d.pop(k, None)`. -/
def Dict.pop {κ ν : Type} [DecidableEq κ] (d : Dict κ ν) (k : κ) : Dict κ ν :=
  d.filter (fun e => !decide (e.1 = k))

/-- `PyDict_SetItem`. A NULL key or value is followed. -/
def PyDict_SetItem (d : PyMembers) (key value : PyObj) : Outcome PyMembers :=
  match key.toKey?, value with
  | none, _ => .crash
  | some _, .null => .crash
  | some k, v => .ret (Dict.set d k v)

/-- `PyDict_SetItemString`. -/
def PyDict_SetItemString (d : PyMembers) (key : String) (value : PyObj) : Outcome PyMembers :=
  PyDict_SetItem d (.str (pyStr key)) value

/-- `PyUnicode_FromStringAndSize`: strict UTF-8. -/
def PyUnicode_FromStringAndSize (b : Octets) (err : Option PyErr) : PyObj × Option PyErr :=
  match utf8Decode b with
  | some s => (.str s, err)
  | none => (.null, some (.raised .UnicodeDecodeError))

/-- `PyUnicode_AsASCIIString`. -/
def PyUnicode_AsASCIIString (s : PyStr) (err : Option PyErr) : PyObj × Option PyErr :=
  match asciiEncode s with
  | some b => (.bytes b, err)
  | none => (.null, some (.raised .UnicodeEncodeError))

/-- `PyUnicode_AsEncodedString(s, "utf-8", "strict")`. -/
def PyUnicode_AsEncodedString (s : PyStr) (err : Option PyErr) : PyObj × Option PyErr :=
  match utf8Encode s with
  | some b => (.bytes b, err)
  | none => (.null, some (.raised .UnicodeEncodeError))

/-- The range of a C `long` and of a `long long`. -/
def FitsLong (n : Int) : Prop := -2 ^ 63 ≤ n ∧ n < 2 ^ 63

instance (n : Int) : Decidable (FitsLong n) := inferInstanceAs (Decidable (_ ∧ _))

/-- `PyLong_AsLong`, and `PyLong_AsLongLong` on a platform with a 64-bit
`long`: -1 with an `OverflowError` for an int out of range. -/
def PyLong_AsLong (n : Int) (err : Option PyErr) : Int × Option PyErr :=
  if FitsLong n then (n, err) else (-1, some (.raised .OverflowError))

/-- The bit pattern of -1.0, the only float that compares equal to -1. -/
def minusOneBits : BitVec 64 := 0xBFF0000000000000

/-- `PyFloat_FromDouble` of a C `float`: the widening to a `double`. -/
def widenFloat (b : BitVec 32) : BitVec 64 :=
  let sign := (b.toNat / 2 ^ 31) * 2 ^ 63
  let e := b.toNat / 2 ^ 23 % 2 ^ 8
  let m := b.toNat % 2 ^ 23
  if e = 255 then
    -- an infinity, or a NaN, which the conversion makes quiet
    BitVec.ofNat 64 (sign + 2047 * 2 ^ 52 + if m = 0 then 0 else (m * 2 ^ 29) ||| 2 ^ 51)
  else if e = 0 then
    if m = 0 then BitVec.ofNat 64 sign
    else
      let k := m.log2
      BitVec.ofNat 64 (sign + (k + 874) * 2 ^ 52 + (m - 2 ^ k) * 2 ^ (52 - k))
  else BitVec.ofNat 64 (sign + (e + 896) * 2 ^ 52 + m * 2 ^ 29)

example : widenFloat 0x3F800000 = 0x3FF0000000000000 := by decide

/-! ## Facts about dicts -/

theorem Dict.set_fresh {κ ν : Type} [DecidableEq κ] (d : Dict κ ν) (k : κ) (v : ν)
    (h : k ∉ d.map Prod.fst) : Dict.set d k v = d ++ [(k, v)] := by
  induction d with
  | nil => rfl
  | cons e d ih =>
    simp only [List.map_cons, List.mem_cons, not_or] at h
    simp [Dict.set, Ne.symm h.1, ih h.2]

theorem Dict.lookup_set_self {κ ν : Type} [DecidableEq κ] (d : Dict κ ν) (k : κ) (v : ν) :
    (d.set k v).lookup k = some v := by
  induction d with
  | nil => simp [Dict.set]
  | cons e d ih =>
    unfold Dict.set
    by_cases hk : e.1 = k
    · rw [if_pos hk]
      simp
    · rw [if_neg hk, List.lookup_cons, beq_eq_false_iff_ne.mpr (Ne.symm hk), ih]

theorem Dict.lookup_set_ne {κ ν : Type} [DecidableEq κ] (d : Dict κ ν) {k j : κ} (v : ν)
    (h : j ≠ k) : (d.set k v).lookup j = d.lookup j := by
  have hj : (j == k) = false := beq_eq_false_iff_ne.mpr h
  induction d with
  | nil => simp [Dict.set, List.lookup_cons, hj]
  | cons e d ih =>
    obtain ⟨i, u⟩ := e
    unfold Dict.set
    by_cases hk : i = k
    · subst hk
      rw [if_pos rfl, List.lookup_cons, List.lookup_cons, hj]
    · rw [if_neg hk, List.lookup_cons, List.lookup_cons, ih]

theorem Dict.lookup_pop_ne {κ ν : Type} [DecidableEq κ] [BEq κ] [LawfulBEq κ] (d : Dict κ ν)
    {k j : κ} (hj : j ≠ k) : List.lookup j (Dict.pop d k) = List.lookup j d := by
  unfold Dict.pop
  induction d with
  | nil => rfl
  | cons e d ih =>
    obtain ⟨i, v⟩ := e
    by_cases hi : i = k
    · subst hi
      simp [List.lookup_cons, beq_false_of_ne hj, ih]
    · simp [hi, List.lookup_cons, ih]

theorem Dict.lookup_pop_self {κ ν : Type} [DecidableEq κ] [BEq κ] [LawfulBEq κ] (d : Dict κ ν)
    (k : κ) : List.lookup k (Dict.pop d k) = none := by
  unfold Dict.pop
  rw [List.lookup_eq_none_iff]
  intro e he
  simp only [List.mem_filter, Bool.not_eq_true', decide_eq_false_iff_not] at he
  simpa using Ne.symm he.2

theorem PyDict_SetItem_str (d : PyMembers) (s : PyStr) {v : PyObj} (h : v ≠ .null) :
    PyDict_SetItem d (.str s) v = .ret (Dict.set d (.str s) v) := by
  cases v with
  | null => exact absurd rfl h
  | _ => rfl

end librabbitmq
