-- The table codec: `PyDict_ToAMQTable` and `PyIter_ToAMQArray` turn Python
-- values into AMQP fields, `AMQTable_toPyDict` and `AMQArray_toPyList` turn
-- fields into Python values, and `basic_properties_to_PyDict` reads the
-- properties of a content header.
import Librabbitmq.Python

namespace librabbitmq

/-! ## AMQP fields -/

/-- An `amqp_field_value_t`: the kind and the value. `other` is a kind that the
decoders have no case for, such as a decimal or a timestamp. -/
inductive amqp_field_value_t where
  | boolean (b : Bool)
  | i8 (v : BitVec 8)
  | u8 (v : BitVec 8)
  | i16 (v : BitVec 16)
  | u16 (v : BitVec 16)
  | i32 (v : BitVec 32)
  | u32 (v : BitVec 32)
  | i64 (v : BitVec 64)
  | u64 (v : BitVec 64)
  | f32 (bits : BitVec 32)
  | f64 (bits : BitVec 64)
  | utf8 (bytes : Octets)
  | table (entries : List (Octets × amqp_field_value_t))
  | array (entries : List amqp_field_value_t)
  | void
  | other (kind : UInt8)

abbrev amqp_table_t := List (Octets × amqp_field_value_t)

abbrev amqp_array_t := List amqp_field_value_t

def amqp_empty_table : amqp_table_t := []

def amqp_empty_array : amqp_array_t := []

/-! ## The setters -/

def AMQTable_AddEntry (table : amqp_table_t) (key : Octets) (value : amqp_field_value_t) :
    amqp_table_t := table ++ [(key, value)]

def AMQTable_SetTableValue (table : amqp_table_t) (key : Octets) (value : amqp_table_t) :
    amqp_table_t := AMQTable_AddEntry table key (.table value)

def AMQTable_SetArrayValue (table : amqp_table_t) (key : Octets) (value : amqp_array_t) :
    amqp_table_t := AMQTable_AddEntry table key (.array value)

def AMQTable_SetStringValue (table : amqp_table_t) (key : Octets) (value : Octets) :
    amqp_table_t := AMQTable_AddEntry table key (.utf8 value)

def AMQTable_SetBoolValue (table : amqp_table_t) (key : Octets) (value : Bool) :
    amqp_table_t := AMQTable_AddEntry table key (.boolean value)

/-- The parameter `int value` keeps the low 32 bits of what it is given. -/
def AMQTable_SetIntValue (table : amqp_table_t) (key : Octets) (value : Int) :
    amqp_table_t := AMQTable_AddEntry table key (.i32 (BitVec.ofInt 32 value))

def AMQTable_SetNilValue (table : amqp_table_t) (key : Octets) : amqp_table_t :=
  AMQTable_AddEntry table key .void

def AMQTable_SetDoubleValue (table : amqp_table_t) (key : Octets) (value : BitVec 64) :
    amqp_table_t := AMQTable_AddEntry table key (.f64 value)

def AMQArray_AddEntry (array : amqp_array_t) (value : amqp_field_value_t) : amqp_array_t :=
  array ++ [value]

def AMQArray_SetNilValue (array : amqp_array_t) : amqp_array_t := AMQArray_AddEntry array .void

def AMQArray_SetTableValue (array : amqp_array_t) (value : amqp_table_t) : amqp_array_t :=
  AMQArray_AddEntry array (.table value)

def AMQArray_SetArrayValue (array : amqp_array_t) (value : amqp_array_t) : amqp_array_t :=
  AMQArray_AddEntry array (.array value)

def AMQArray_SetStringValue (array : amqp_array_t) (value : Octets) : amqp_array_t :=
  AMQArray_AddEntry array (.utf8 value)

def AMQArray_SetIntValue (array : amqp_array_t) (value : Int) : amqp_array_t :=
  AMQArray_AddEntry array (.i32 (BitVec.ofInt 32 value))

/-! ## From Python to AMQP -/

/-- `PyObjectArray_Maybe_Unicode`: a `str` becomes ASCII octets, or NULL with an
exception; any other object stays as it is. -/
def PyObjectArray_Maybe_Unicode (s : PyObj) (err : Option PyErr) : PyObj × Option PyErr :=
  match s with
  | .str s => PyUnicode_AsASCIIString s err
  | s => (s, err)

/-- `PyString_AS_AMQBYTES` reads the fields of a `bytes`, unchecked. -/
def PyString_AS_AMQBYTES : PyObj → Outcome Octets
  | .bytes b => .ret b
  | _ => .crash

/-- The text of the error for a dict member of an unsupported type. -/
def unsupportedTableMember (key : Octets) : PyErr :=
  ⟨.ValueError, "Table member %s is of an unsupported type", [.bytes key]⟩

/-- The text of the error for a list item of an unsupported type. The index is
`pos`, which the loop never advances. -/
def unsupportedArrayMember (pos : Int) (item : PyObj) : PyErr :=
  ⟨.ValueError, "Array member at index %lu, %R, is of an unsupported type", [.int pos, item]⟩

mutual

/-- The loop of `PyDict_ToAMQTable` over the members that are left. -/
def PyDict_ToAMQTable.loop (dst : amqp_table_t) :
    PyMembers → Option PyErr → Outcome (amqp_table_t × Option PyErr)
  | [], err => .ret (dst, err)
  | (key, dvalue) :: rest, err => do
    let (dkey, err) := PyObjectArray_Maybe_Unicode key.toObj err
    match ← PyDict_ToAMQTable.member dst dkey dvalue err with
    | (some dst, err) => PyDict_ToAMQTable.loop dst rest err
    -- `error:`, where the assertion is compiled out
    | (none, err) => .ret (amqp_empty_table, err)

/-- One member of the loop: the table with its entry, or `none` for `goto error`. -/
def PyDict_ToAMQTable.member (dst : amqp_table_t) (dkey : PyObj) :
    PyObj → Option PyErr → Outcome (Option amqp_table_t × Option PyErr)
  | .null, _ => .crash
  | .none, err => do
    let key ← PyString_AS_AMQBYTES dkey
    return (some (AMQTable_SetNilValue dst key), err)
  | .dict members, err => do
    let key ← PyString_AS_AMQBYTES dkey
    let (value, err) ← PyDict_ToAMQTable.loop amqp_empty_table members err
    return (some (AMQTable_SetTableValue dst key value), err)
  | .list items, err => do
    let key ← PyString_AS_AMQBYTES dkey
    let (value, err) ← PyIter_ToAMQArray.loop amqp_empty_array items err
    return (some (AMQTable_SetArrayValue dst key value), err)
  | .tuple items, err => do
    let key ← PyString_AS_AMQBYTES dkey
    let (value, err) ← PyIter_ToAMQArray.loop amqp_empty_array items err
    return (some (AMQTable_SetArrayValue dst key value), err)
  | .bool b, err => do
    let key ← PyString_AS_AMQBYTES dkey
    return (some (AMQTable_SetBoolValue dst key b), err)
  | .int n, err => do
    let (clong_value, err) := PyLong_AsLong n err
    if clong_value = -1 then return (none, err)
    let key ← PyString_AS_AMQBYTES dkey
    return (some (AMQTable_SetIntValue dst key clong_value), err)
  | .float bits, err => do
    if bits = minusOneBits then return (none, err)
    let key ← PyString_AS_AMQBYTES dkey
    return (some (AMQTable_SetDoubleValue dst key bits), err)
  | .str s, err => do
    let (dvalue, err) := PyUnicode_AsEncodedString s err
    match dvalue with
    | .null => return (none, err)
    | dvalue =>
      let key ← PyString_AS_AMQBYTES dkey
      let value ← PyString_AS_AMQBYTES dvalue
      return (some (AMQTable_SetStringValue dst key value), err)
  | .bytes b, err => do
    let key ← PyString_AS_AMQBYTES dkey
    return (some (AMQTable_SetStringValue dst key b), err)
  | .other _, _ => do
    let key ← PyString_AS_AMQBYTES dkey
    return (none, some (unsupportedTableMember key))

/-- The loop of `PyIter_ToAMQArray` over the items that are left. -/
def PyIter_ToAMQArray.loop (dst : amqp_array_t) :
    List PyObj → Option PyErr → Outcome (amqp_array_t × Option PyErr)
  | [], err => .ret (dst, err)
  | item :: rest, err => do
    match ← PyIter_ToAMQArray.item dst item err with
    | (some dst, err) => PyIter_ToAMQArray.loop dst rest err
    -- `item_error:` returns what the array holds so far
    | (none, err) => .ret (dst, err)

/-- One item of the loop: the array with its entry, or `none` for
`goto item_error`. -/
def PyIter_ToAMQArray.item (dst : amqp_array_t) :
    PyObj → Option PyErr → Outcome (Option amqp_array_t × Option PyErr)
  | .null, _ => .crash
  | .none, err => .ret (some (AMQArray_SetNilValue dst), err)
  | .dict members, err => do
    let (value, err) ← PyDict_ToAMQTable.loop amqp_empty_table members err
    return (some (AMQArray_SetTableValue dst value), err)
  | .list items, err => do
    let (value, err) ← PyIter_ToAMQArray.loop amqp_empty_array items err
    return (some (AMQArray_SetArrayValue dst value), err)
  | .tuple items, err => do
    let (value, err) ← PyIter_ToAMQArray.loop amqp_empty_array items err
    return (some (AMQArray_SetArrayValue dst value), err)
  -- a `bool` passes `PyLong_Check`
  | .bool b, err => .ret (some (AMQArray_SetIntValue dst b.toInt), err)
  | .int n, err =>
    let (clong_value, err) := PyLong_AsLong n err
    .ret (some (AMQArray_SetIntValue dst clong_value), err)
  | .str s, err => do
    let (item, err) := PyUnicode_AsASCIIString s err
    match item with
    | .null => return (none, err)
    | item =>
      let value ← PyString_AS_AMQBYTES item
      return (some (AMQArray_SetStringValue dst value), err)
  | .bytes b, err => .ret (some (AMQArray_SetStringValue dst b), err)
  | .float bits, _ => .ret (none, some (unsupportedArrayMember 0 (.float bits)))
  | .other id, _ => .ret (none, some (unsupportedArrayMember 0 (.other id)))

end

/-- `PyDict_ToAMQTable`: the table, and the exception pending at the return. -/
def PyDict_ToAMQTable (src : PyMembers) (err : Option PyErr) :
    Outcome (amqp_table_t × Option PyErr) :=
  PyDict_ToAMQTable.loop amqp_empty_table src err

/-- `PyIter_ToAMQArray` of a list or tuple. -/
def PyIter_ToAMQArray (src : List PyObj) (err : Option PyErr) :
    Outcome (amqp_array_t × Option PyErr) :=
  PyIter_ToAMQArray.loop amqp_empty_array src err

/-! ## From AMQP to Python -/

/-- `PySTRING_FROM_AMQBYTES` under Python 3. -/
def PySTRING_FROM_AMQBYTES (member : Octets) (err : Option PyErr) : PyObj × Option PyErr :=
  PyUnicode_FromStringAndSize member err

mutual

/-- The loop of `AMQTable_toPyDict` over the entries that are left. -/
def AMQTable_toPyDict.loop (dict : PyMembers) :
    amqp_table_t → Option PyErr → Outcome (PyMembers × Option PyErr)
  | [], err => .ret (dict, err)
  | (k, v) :: rest, err => do
    let (value, err) ← AMQTable_toPyDict.value v err
    let (key, err) := PySTRING_FROM_AMQBYTES k err
    let dict ← match value with
      | .null => PyDict_SetItem dict key .none
      | value => PyDict_SetItem dict key value
    AMQTable_toPyDict.loop dict rest err

/-- The `switch` of `AMQTable_toPyDict`. A kind with no case leaves `value` NULL. -/
def AMQTable_toPyDict.value : amqp_field_value_t → Option PyErr → Outcome (PyObj × Option PyErr)
  | .void, err => .ret (.none, err)
  | .boolean b, err => .ret (.bool b, err)
  | .i8 v, err => .ret (.int v.toInt, err)
  | .i16 v, err => .ret (.int v.toInt, err)
  | .i32 v, err => .ret (.int v.toInt, err)
  | .i64 v, err => .ret (.int v.toInt, err)
  | .u8 v, err => .ret (.int v.toNat, err)
  | .u16 v, err => .ret (.int v.toNat, err)
  | .u32 v, err => .ret (.int v.toNat, err)
  | .u64 v, err => .ret (.int v.toNat, err)
  | .f32 v, err => .ret (.float (widenFloat v), err)
  | .f64 v, err => .ret (.float v, err)
  | .utf8 b, err => .ret (PySTRING_FROM_AMQBYTES b err)
  | .table t, err => do
    let (d, err) ← AMQTable_toPyDict.loop [] t err
    return (.dict d, err)
  | .array a, err => do
    let (l, err) ← AMQArray_toPyList.loop [] a err
    return (.list l, err)
  | .other _, err => .ret (.null, err)

/-- The loop of `AMQArray_toPyList` over the entries that are left. -/
def AMQArray_toPyList.loop (list : List PyObj) :
    amqp_array_t → Option PyErr → Outcome (List PyObj × Option PyErr)
  | [], err => .ret (list, err)
  | v :: rest, err => do
    let (value, err) ← AMQArray_toPyList.value v err
    -- `PyList_SET_ITEM` stores NULL like any other pointer
    AMQArray_toPyList.loop (list ++ [value]) rest err

/-- The `switch` of `AMQArray_toPyList`. Its default is `None`. -/
def AMQArray_toPyList.value : amqp_field_value_t → Option PyErr → Outcome (PyObj × Option PyErr)
  | .boolean b, err => .ret (.bool b, err)
  | .i8 v, err => .ret (.int v.toInt, err)
  | .i16 v, err => .ret (.int v.toInt, err)
  | .i32 v, err => .ret (.int v.toInt, err)
  | .i64 v, err => .ret (.int v.toInt, err)
  | .u8 v, err => .ret (.int v.toNat, err)
  | .u16 v, err => .ret (.int v.toNat, err)
  | .u32 v, err => .ret (.int v.toNat, err)
  | .u64 v, err => .ret (.int v.toNat, err)
  | .f32 v, err => .ret (.float (widenFloat v), err)
  | .f64 v, err => .ret (.float v, err)
  | .utf8 b, err => .ret (PySTRING_FROM_AMQBYTES b err)
  | .table t, err => do
    let (d, err) ← AMQTable_toPyDict.loop [] t err
    return (.dict d, err)
  | .array a, err => do
    let (l, err) ← AMQArray_toPyList.loop [] a err
    return (.list l, err)
  | .void, err => .ret (.none, err)
  | .other _, err => .ret (.none, err)

end

/-- `AMQTable_toPyDict`: the members of the dict, and the pending exception. -/
def AMQTable_toPyDict (table : amqp_table_t) (err : Option PyErr) :
    Outcome (PyMembers × Option PyErr) := AMQTable_toPyDict.loop [] table err

/-- `AMQArray_toPyList`: the slots of the list, and the pending exception. -/
def AMQArray_toPyList (array : amqp_array_t) (err : Option PyErr) :
    Outcome (List PyObj × Option PyErr) := AMQArray_toPyList.loop [] array err

/-! ## The properties of a content -/

/-- The `AMQP_BASIC_*_FLAG` bits that the converters look at. -/
inductive BasicFlag where
  | content_type
  | content_encoding
  | correlation_id
  | reply_to
  | expiration
  | message_id
  | type
  | user_id
  | app_id
  | delivery_mode
  | priority
  | timestamp
  | headers
  deriving DecidableEq

structure amqp_basic_properties_t where
  _flags : BasicFlag → Bool
  /-- The one other bit of `_flags`. -/
  AMQP_BASIC_CLUSTER_ID_FLAG : Bool
  content_type : Octets
  content_encoding : Octets
  correlation_id : Octets
  reply_to : Octets
  expiration : Octets
  message_id : Octets
  type : Octets
  user_id : Octets
  app_id : Octets
  delivery_mode : BitVec 8
  priority : BitVec 8
  timestamp : BitVec 64
  headers : amqp_table_t
  /-- No converter reads it or sets it. -/
  cluster_id : Octets

/-- Properties with no flag set. -/
def amqp_basic_properties_t.empty : amqp_basic_properties_t :=
  ⟨fun _ => false, false, [], [], [], [], [], [], [], [], [], 0, 0, 0, [], []⟩

/-- One property of `basic_properties_to_PyDict`, under its flag. -/
def setProperty (flag : Bool) (name : String) (value : PyObj × Option PyErr) (p : PyMembers)
    (err : Option PyErr) : Outcome (PyMembers × Option PyErr) :=
  if flag then do
    let p ← PyDict_SetItemString p name value.1
    return (p, value.2)
  else .ret (p, err)

def basic_properties_to_PyDict (props : amqp_basic_properties_t) (p : PyMembers)
    (err : Option PyErr) : Outcome (PyMembers × Option PyErr) := do
  let (p, err) ← setProperty (props._flags .content_type) "content_type"
    (PySTRING_FROM_AMQBYTES props.content_type err) p err
  let (p, err) ← setProperty (props._flags .content_encoding) "content_encoding"
    (PySTRING_FROM_AMQBYTES props.content_encoding err) p err
  let (p, err) ← setProperty (props._flags .correlation_id) "correlation_id"
    (PySTRING_FROM_AMQBYTES props.correlation_id err) p err
  let (p, err) ← setProperty (props._flags .reply_to) "reply_to"
    (PySTRING_FROM_AMQBYTES props.reply_to err) p err
  let (p, err) ← setProperty (props._flags .expiration) "expiration"
    (PySTRING_FROM_AMQBYTES props.expiration err) p err
  let (p, err) ← setProperty (props._flags .message_id) "message_id"
    (PySTRING_FROM_AMQBYTES props.message_id err) p err
  let (p, err) ← setProperty (props._flags .type) "type"
    (PySTRING_FROM_AMQBYTES props.type err) p err
  let (p, err) ← setProperty (props._flags .user_id) "user_id"
    (PySTRING_FROM_AMQBYTES props.user_id err) p err
  let (p, err) ← setProperty (props._flags .app_id) "app_id"
    (PySTRING_FROM_AMQBYTES props.app_id err) p err
  let (p, err) ← setProperty (props._flags .delivery_mode) "delivery_mode"
    (.int props.delivery_mode.toNat, err) p err
  let (p, err) ← setProperty (props._flags .priority) "priority"
    (.int props.priority.toNat, err) p err
  -- `PyInt_FromLong` reads the unsigned timestamp as a `long`
  let (p, err) ← setProperty (props._flags .timestamp) "timestamp"
    (.int props.timestamp.toInt, err) p err
  if props._flags .headers then
    let (headers, err) ← AMQTable_toPyDict props.headers err
    let p ← PyDict_SetItemString p "headers" (.dict headers)
    return (p, err)
  else return (p, err)

/-- `amqp_basic_deliver_to_PyDict`. The delivery tag goes through `long long`. -/
def amqp_basic_deliver_to_PyDict (dest : PyMembers) (delivery_tag : BitVec 64)
    (exchange routing_key : Octets) (redelivered : Bool) (err : Option PyErr) :
    Outcome (PyMembers × Option PyErr) := do
  let dest ← PyDict_SetItemString dest "delivery_tag" (.int delivery_tag.toInt)
  let (value, err) := PySTRING_FROM_AMQBYTES exchange err
  let dest ← PyDict_SetItemString dest "exchange" value
  let (value, err) := PySTRING_FROM_AMQBYTES routing_key err
  let dest ← PyDict_SetItemString dest "routing_key" value
  let dest ← PyDict_SetItemString dest "redelivered" (.bool redelivered)
  return (dest, err)

end librabbitmq
