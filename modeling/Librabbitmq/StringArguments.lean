-- The law of the values that are read as AMQP strings. The helper that prepares a string hands on
-- what is no `str`, and nobody tests what it hands on, so that a value of another type is read as
-- a `bytes`.
import Librabbitmq.SyncReplies
import Librabbitmq.Encoding

namespace librabbitmq.string_arguments

open drain basic_get sending sync_replies publish_errors property_fields property_steps encoding

variable {σ κ : Type}

/-! ## The law -/

/-- `PyObjectArray_Maybe_Unicode` gives NULL. -/
def refused : PyObj → Bool
  | .null => true
  | .str s => (asciiEncode s).isNone
  | _ => false

def isString : PyObj → Bool
  | .str _ => true
  | .bytes _ => true
  | _ => false

/-- The dict is converted without a read of what is no `bytes`: every key that the encoder reads
is a `bytes` or an ASCII `str`. -/
def keysRead : Option PyMembers → Bool
  | none => true
  | some members => !membersCrash members

/-- The conversion of the dict raises. -/
def dictRaises : Option PyMembers → Bool
  | none => false
  | some members => membersRaise members

/-- The strings are tested for NULL first, then the dict is converted, which `reads` its strings
and may raise, and the strings are read last. -/
def readsSafely (strings : List PyObj) (reads raises : Bool) : Bool :=
  strings.any refused || (reads && (raises || strings.all isString))

/-- How a call ends that has not asked for anything: it raises, or it crashes, where `safe` is
what the arguments say; there may be no memory for the pool of the channel. -/
inductive Ends (run : Run (World σ κ) (Option PyObj)) (w : World σ κ) (comes safe pool : Bool) :
    Prop
  | raises {w' : World σ κ} (h : run w = (.ret none, w')) (hcomes : comes = false)
      (hsafe : pool = true → safe = true)
  | asks (hcomes : comes = true) (hsafe : safe = true)
  | crashes {w' : World σ κ} (h : run w = (.crash, w')) (hcomes : comes = false)
      (hsafe : safe = false)

/-! ## Strings -/

/-- What `PyObjectArray_Maybe_Unicode` makes of a value that it does not refuse. -/
def converted : PyObj → PyObj
  | .str s => .bytes ((asciiEncode s).getD [])
  | o => o

section

variable {w : World σ κ} {o : PyObj} {strings : List PyObj}

theorem maybe_refused (h : refused o = true) (err : Option PyErr) :
    ∃ err', PyObjectArray_Maybe_Unicode o err = (.null, err') := by
  cases o with
  | null => exact ⟨err, rfl⟩
  | str s =>
    have hs : asciiEncode s = none := by simpa [refused] using h
    refine ⟨some (.raised .UnicodeEncodeError), ?_⟩
    simp [PyObjectArray_Maybe_Unicode, PyUnicode_AsASCIIString, hs]
  | _ => cases h

theorem maybe_converted (h : refused o = false) (err : Option PyErr) :
    PyObjectArray_Maybe_Unicode o err = (converted o, err) := by
  cases o with
  | str s =>
    obtain ⟨b, hb⟩ := Option.isSome_iff_exists.mp (by simpa [refused] using h)
    simp [PyObjectArray_Maybe_Unicode, PyUnicode_AsASCIIString, converted, hb]
  | _ => rfl

theorem withErr_refused (h : refused o = true) :
    ∃ w', withErr (fun err => .ret (PyObjectArray_Maybe_Unicode o err)) w = (.ret .null, w') := by
  obtain ⟨err', hnull⟩ := maybe_refused h w.err
  exact ⟨_, withErr_ret (congrArg Outcome.ret hnull)⟩

theorem withErr_converted (h : refused o = false) :
    withErr (fun err => .ret (PyObjectArray_Maybe_Unicode o err)) w = (.ret (converted o), w) :=
  withErr_ret (congrArg Outcome.ret (maybe_converted h w.err))

theorem converted_ne_null (h : refused o = false) : converted o ≠ .null := by
  cases o with
  | null => cases h
  | _ => exact fun h => by cases h

/-- A value that is not refused is handed on, and the next one is looked at. -/
theorem maybeUnicodes_cons (h : refused o = false) {rest : List PyObj}
    {r : Option (List PyObj)} {w' : World σ κ} (hrest : maybeUnicodes rest w = (.ret r, w')) :
    maybeUnicodes (o :: rest) w = (.ret (r.map fun objs => converted o :: objs), w') := by
  have hne := converted_ne_null h
  unfold maybeUnicodes
  rw [Run.bind_ret (withErr_converted h)]
  cases ho : converted o with
  | null => exact absurd ho hne
  | _ =>
    dsimp only
    rw [Run.bind_ret hrest]
    cases r with
    | none => rfl
    | some objs => rfl

theorem maybeUnicodes_refused (h : strings.any refused = true) :
    ∃ w', maybeUnicodes strings w = (.ret none, w') := by
  induction strings with
  | nil => cases h
  | cons o rest ih =>
    cases ho : refused o with
    | true =>
      obtain ⟨w', hnull⟩ := withErr_refused (w := w) ho
      unfold maybeUnicodes
      rw [Run.bind_ret hnull]
      exact ⟨w', rfl⟩
    | false =>
      rw [List.any_cons, ho, Bool.false_or] at h
      obtain ⟨w', hrest⟩ := ih h
      exact ⟨w', maybeUnicodes_cons ho hrest⟩

theorem maybeUnicodes_taken (h : strings.any refused = false) :
    maybeUnicodes strings w = (.ret (some (strings.map converted)), w) := by
  induction strings with
  | nil => rfl
  | cons o rest ih =>
    rw [List.any_cons, Bool.or_eq_false_iff] at h
    exact maybeUnicodes_cons h.1 (ih h.2)

theorem name?_of_refused (h : refused o = true) : name? o = none := by
  cases o with
  | str s => simpa [refused, name?] using h
  | null => rfl
  | _ => cases h

theorem names_of_refused (h : strings.any refused = true) : strings.mapM name? = none := by
  induction strings with
  | nil => cases h
  | cons o rest ih =>
    rw [List.mapM_cons]
    cases ho : refused o with
    | true => rw [name?_of_refused ho]; rfl
    | false =>
      rw [List.any_cons, ho, Bool.false_or] at h
      rw [ih h]
      cases name? o with
      | none => rfl
      | some b => rfl

/-- A value that is handed on is read where it is a string. -/
theorem read_converted (h : refused o = false) :
    (isString o = true ∧ ∃ b, PyString_AS_AMQBYTES (converted o) = .ret b ∧ name? o = some b) ∨
      (isString o = false ∧ PyString_AS_AMQBYTES (converted o) = .crash ∧ name? o = none) := by
  cases o with
  | str s =>
    obtain ⟨b, hb⟩ := Option.isSome_iff_exists.mp (by simpa [refused] using h)
    exact Or.inl ⟨rfl, b, by simp [converted, PyString_AS_AMQBYTES, hb], by simp [name?, hb]⟩
  | bytes b => exact Or.inl ⟨rfl, b, rfl, rfl⟩
  | _ => exact Or.inr ⟨rfl, rfl, rfl⟩

/-- The strings that are handed on are all read, or the read of one crashes. -/
theorem reads_converted (h : strings.any refused = false) :
    (strings.all isString = true ∧ ∃ names, strings.mapM name? = some names ∧
      (strings.map converted).mapM PyString_AS_AMQBYTES = .ret names) ∨
    (strings.all isString = false ∧ strings.mapM name? = none ∧
      (strings.map converted).mapM PyString_AS_AMQBYTES = .crash) := by
  induction strings with
  | nil => exact Or.inl ⟨rfl, [], rfl, rfl⟩
  | cons o rest ih =>
    rw [List.any_cons, Bool.or_eq_false_iff] at h
    rw [List.all_cons, List.map_cons, List.mapM_cons, List.mapM_cons]
    rcases read_converted h.1 with ⟨hstring, b, hread, hname⟩ | ⟨hstring, hread, hname⟩
    · rw [hstring, hread, hname]
      rcases ih h.2 with ⟨hall, names, hnames, hreads⟩ | ⟨hall, hnames, hreads⟩
      · rw [hall, hnames, hreads]
        exact Or.inl ⟨rfl, b :: names, rfl, rfl⟩
      · rw [hall, hnames, hreads]
        exact Or.inr ⟨rfl, rfl, rfl⟩
    · rw [hstring, hread, hname]
      exact Or.inr ⟨rfl, rfl, rfl⟩

end

/-! ## Dicts -/

/-- There is memory for the table, if there is one. -/
def hasPool (api : RabbitMQApi σ) (c : amqp_channel_t) (s : σ) (arguments : Option PyMembers) :
    Bool :=
  arguments.isNone || (api.amqp_get_or_create_channel_pool s c).1

section

variable {api : RabbitMQApi σ} {c : amqp_channel_t} {w : World σ κ} {arguments : Option PyMembers}

/-- The table of the arguments, where there is memory for the pool. -/
theorem argumentsTable_ends (herr : w.err = none)
    (hpool : hasPool api c w.self.conn arguments = true) :
    (keysRead arguments = false ∧ table? api c w.self.conn arguments = none ∧
      ∃ w', argumentsTable api c arguments w = (.crash, w')) ∨
    (keysRead arguments = true ∧ dictRaises arguments = true ∧
      table? api c w.self.conn arguments = none ∧
      ∃ w', argumentsTable api c arguments w = (.ret none, w')) ∨
    (keysRead arguments = true ∧ dictRaises arguments = false ∧
      ∃ table s, table? api c w.self.conn arguments = some (table, s) ∧
        argumentsTable api c arguments w = (.ret (some table), w.setConn s)) := by
  cases arguments with
  | none => exact Or.inr (Or.inr ⟨rfl, rfl, _, _, rfl, rfl⟩)
  | some members =>
    rcases hcall : api.amqp_get_or_create_channel_pool w.self.conn c with ⟨pool, s⟩
    unfold hasPool at hpool
    rw [hcall] at hpool
    obtain rfl : pool = true := hpool
    have hgot : onConn (fun s => api.amqp_get_or_create_channel_pool s c) w =
        (.ret true, w.setConn s) := onConn_ret hcall
    have hstart : argumentsTable api c (some members) w = (do
        let table ← withErr (PyDict_ToAMQTable members)
        let w ← Run.get
        if w.err.isSome then return none
        return some table : Run (World σ κ) (Option amqp_table_t)) (w.setConn s) := by
      rw [argumentsTable, Run.bind_ret hgot, if_neg (by simp)]
    have hcomes := toAMQTable_comes members none
    rw [hstart, table?, hcall]
    unfold Comes at hcomes
    cases hcrash : membersCrash members with
    | true =>
      rw [hcrash, if_pos rfl] at hcomes
      rw [hcomes]
      refine Or.inl ⟨by simp [keysRead, hcrash], rfl, w.setConn s, ?_⟩
      have hread : withErr (PyDict_ToAMQTable members) (w.setConn s) =
          (.crash, w.setConn s) := by
        simp [withErr, show (w.setConn s).err = none from herr, hcomes]
      exact Run.bind_crash hread
    | false =>
      rw [hcrash, if_neg Bool.false_ne_true] at hcomes
      obtain ⟨err, hraises, hret⟩ := hcomes
      rw [hret]
      rw [Option.isSome_none, Bool.false_or] at hraises
      have hread : withErr (PyDict_ToAMQTable members) (w.setConn s) =
          (.ret (tableOf members), (w.setConn s).setErr err) := by
        apply withErr_ret
        rw [show (w.setConn s).err = none from herr, hret]
      rw [Run.bind_ret hread]
      cases err with
      | some e =>
        exact Or.inr (Or.inl ⟨by simp [keysRead, hcrash], hraises.symm, rfl, _, rfl⟩)
      | none =>
        have hsame : (w.setConn s).setErr none = w.setConn s := setErr_none herr
        rw [hsame, Run.get_bind_apply, show (w.setConn s).err = none from herr]
        exact Or.inr (Or.inr ⟨by simp [keysRead, hcrash], hraises.symm, _, _, rfl, rfl⟩)

/-- With no memory for the pool there is no table, unless the method has no dict. -/
theorem argumentsTable_unpooled (hpool : hasPool api c w.self.conn arguments = false) :
    table? api c w.self.conn arguments = none ∧
      ∃ w', argumentsTable api c arguments w = (.ret none, w') := by
  obtain ⟨hsome, hnone⟩ := Bool.or_eq_false_iff.mp hpool
  obtain ⟨members, rfl⟩ := Option.isSome_iff_exists.mp (by simpa using hsome)
  rcases hcall : api.amqp_get_or_create_channel_pool w.self.conn c with ⟨pool, s⟩
  rw [hcall] at hnone
  obtain rfl : pool = false := hnone
  have hgot : onConn (fun s => api.amqp_get_or_create_channel_pool s c) w =
      (.ret false, w.setConn s) := onConn_ret hcall
  refine ⟨by rw [table?, hcall], (w.setConn s).setErr (some (.raised .MemoryError)), ?_⟩
  rw [argumentsTable, Run.bind_ret hgot]
  rfl

end

/-! ## Methods that wait for a reply -/

section

variable {env : Env σ κ} {api : RabbitMQApi σ} {c : amqp_channel_t} {channel : Int} {w : World σ κ}
  {o : PyObj} {strings : List PyObj} {arguments : Option PyMembers}

/-- A call that makes its strings and its table first. -/
theorem prepared_ends {run : Run (World σ κ) (Option PyObj)}
    (rest : List Octets → amqp_table_t → Run (World σ κ) (Option PyObj)) (herr : w.err = none)
    (hrun : run w = (do
      let some objs ← maybeUnicodes strings | return none
      let some table ← argumentsTable api c arguments | return none
      let names ← Run.lift (objs.mapM PyString_AS_AMQBYTES)
      rest names table : Run (World σ κ) (Option PyObj)) w) :
    Ends run w ((strings.mapM name?).isSome && (table? api c w.self.conn arguments).isSome)
      (readsSafely strings (keysRead arguments) (dictRaises arguments))
      (hasPool api c w.self.conn arguments) := by
  cases hrefused : strings.any refused with
  | true =>
    obtain ⟨w', hnull⟩ := maybeUnicodes_refused (w := w) hrefused
    rw [Run.bind_ret hnull] at hrun
    exact .raises hrun (by rw [names_of_refused hrefused]; rfl)
      fun _ => by rw [readsSafely, hrefused, Bool.true_or]
  | false =>
    rw [Run.bind_ret (maybeUnicodes_taken hrefused)] at hrun
    have hsafe : readsSafely strings (keysRead arguments) (dictRaises arguments) =
        (keysRead arguments && (dictRaises arguments || strings.all isString)) := by
      rw [readsSafely, hrefused, Bool.false_or]
    rw [hsafe]
    cases hpool : hasPool api c w.self.conn arguments with
    | false =>
      obtain ⟨htable, w', hnull⟩ := argumentsTable_unpooled hpool
      dsimp only at hrun
      rw [Run.bind_ret hnull] at hrun
      exact .raises hrun (by rw [htable, Option.isSome_none, Bool.and_false])
        fun h => absurd h Bool.false_ne_true
    | true =>
      dsimp only at hrun
      rcases argumentsTable_ends herr hpool with ⟨hkeys, htable, w', hcrash⟩ |
        ⟨hkeys, hraises, htable, w', hnull⟩ | ⟨hkeys, hraises, table, s, htable, htaken⟩
      · rw [Run.bind_crash hcrash] at hrun
        exact .crashes hrun (by rw [htable, Option.isSome_none, Bool.and_false])
          (by rw [hkeys, Bool.false_and])
      · rw [Run.bind_ret hnull] at hrun
        exact .raises hrun (by rw [htable, Option.isSome_none, Bool.and_false])
          fun _ => by rw [hkeys, hraises]; rfl
      · rw [Run.bind_ret htaken] at hrun
        rcases reads_converted hrefused with ⟨hall, names, hnames, _⟩ | ⟨hall, hnames, hreads⟩
        · exact .asks (by rw [hnames, htable]; rfl) (by rw [hkeys, hraises, hall]; rfl)
        · dsimp only at hrun
          rw [hreads] at hrun
          exact .crashes hrun (by rw [hnames]; rfl) (by rw [hkeys, hraises, hall]; rfl)

/-- A call that makes its one string first. -/
theorem single_ends {run : Run (World σ κ) (Option PyObj)}
    {rest : PyObj → Run (World σ κ) (Option PyObj)} {pool : Bool}
    (hrun : run w = (withErr (fun err => .ret (PyObjectArray_Maybe_Unicode o err)) >>= rest) w)
    (hnull : ∀ w', rest .null w' = (.ret none, w'))
    (hcrash : ∀ o', o' ≠ .null → PyString_AS_AMQBYTES o' = .crash → rest o' w = (.crash, w)) :
    Ends run w ([o].mapM name?).isSome (readsSafely [o] true false) pool := by
  cases hrefused : refused o with
  | true =>
    obtain ⟨w', hmade⟩ := withErr_refused (w := w) hrefused
    rw [Run.bind_ret hmade, hnull] at hrun
    exact .raises hrun (by rw [names_of_refused (by simp [hrefused])]; rfl)
      fun _ => by simp [readsSafely, hrefused]
  | false =>
    rw [Run.bind_ret (withErr_converted hrefused)] at hrun
    rcases read_converted hrefused with ⟨hstring, b, _, hname⟩ | ⟨hstring, hread, hname⟩
    · exact .asks (by simp [hname]) (by simp [readsSafely, hstring])
    · rw [hcrash _ (converted_ne_null hrefused) hread] at hrun
      exact .crashes hrun (by simp [hname]) (by simp [readsSafely, hrefused, hstring])

theorem basic_cancel_ends {pool : Bool} (hconn : w.self.connected = true) (fuel : Nat) :
    Ends (noneOf (PyRabbitMQ_Connection_basic_cancel env fuel channel o)) w ([o].mapM name?).isSome
      (readsSafely [o] true false) pool := by
  apply single_ends
  case hrun =>
    unfold noneOf PyRabbitMQ_Connection_basic_cancel
    rw [Run.bind_assoc, Run.bind_ret (not_connected_false hconn), if_neg Bool.false_ne_true,
      Run.bind_assoc]
  case hnull => exact fun _ => rfl
  case hcrash =>
    intro o' hne hread
    cases o' with
    | null => exact absurd rfl hne
    | bytes b => cases hread
    | _ => rfl

theorem basic_get_ends {pool : Bool} (hconn : w.self.connected = true) (fuel : Nat)
    (no_ack : Bool) :
    Ends (PyRabbitMQ_Connection_basic_get env fuel channel o no_ack) w ([o].mapM name?).isSome
      (readsSafely [o] true false) pool := by
  apply single_ends
  case hrun =>
    unfold PyRabbitMQ_Connection_basic_get
    rw [connected_bind hconn]
  case hnull => exact fun _ => rfl
  case hcrash =>
    intro o' hne hread
    cases o' with
    | null => exact absurd rfl hne
    | bytes b => cases hread
    | _ => rfl

/-- What the arguments of the method say. -/
def SyncOp.readsSafely (op : SyncOp) : Bool :=
  string_arguments.readsSafely op.strings (keysRead op.arguments) (dictRaises op.arguments)

theorem recorded_isSome {op : SyncOp} (lib : RabbitMQC σ) (s : σ) (hparses : op.parses = true) :
    (op.recorded lib api channel s).isSome =
      ((op.strings.mapM name?).isSome &&
        (table? api (channelNumber channel) s op.arguments).isSome) := by
  unfold SyncOp.recorded
  rw [if_pos hparses]
  cases op.strings.mapM name? with
  | none => rfl
  | some names =>
    cases table? api (channelNumber channel) s op.arguments with
    | none => simp
    | some t => simp

theorem syncOp_ends (hconn : w.self.connected = true) (herr : w.err = none) (fuel : Nat)
    (op : SyncOp) :
    Ends (op.run env api fuel channel) w (op.recorded env.lib api channel w.self.conn).isSome
      (SyncOp.readsSafely op)
      (hasPool api (channelNumber channel) w.self.conn op.arguments) := by
  cases op with
  | channel_open => exact .asks rfl rfl
  | channel_close => exact .asks rfl rfl
  | basic_qos prefetch_size prefetch_count _global =>
    cases hrecorded : (SyncOp.basic_qos prefetch_size prefetch_count _global).recorded env.lib api
        channel w.self.conn with
    | none => exact .raises (basic_qos_refuses hconn hrecorded) rfl fun _ => rfl
    | some r => exact .asks rfl rfl
  | basic_cancel tag =>
    rw [recorded_isSome _ _ rfl]
    exact (Bool.and_true _).symm ▸ basic_cancel_ends hconn fuel
  | basic_get queue no_ack =>
    rw [recorded_isSome _ _ rfl]
    exact (Bool.and_true _).symm ▸ basic_get_ends hconn fuel no_ack
  | queue_delete queue if_unused if_empty =>
    rw [recorded_isSome _ _ rfl]
    refine prepared_ends (fun names _ => onConn (fun s =>
        api.amqp_queue_delete s (channelNumber channel) (names.getD 0 []) if_unused if_empty) >>=
      fun answer => do
        if answer.1.isNone then
          if (← PyRabbitMQ_HandleAMQError env fuel (parseUnsigned channel) answer.2
            "queue.delete") ≠ 0 then
            return none
        messageCount answer.1) herr ?_
    dsimp only [SyncOp.run, PyRabbitMQ_Connection_queue_delete]
    rw [connected_bind hconn]
    rfl
  | _ =>
    rw [recorded_isSome _ _ rfl]
    apply prepared_ends _ herr
    dsimp only [SyncOp.run, PyRabbitMQ_Connection_queue_bind,
      PyRabbitMQ_Connection_queue_unbind, PyRabbitMQ_Connection_queue_declare,
      PyRabbitMQ_Connection_queue_purge, PyRabbitMQ_Connection_exchange_declare,
      PyRabbitMQ_Connection_exchange_delete, PyRabbitMQ_Connection_basic_consume,
      PyRabbitMQ_Connection_flow, PyRabbitMQ_Connection_basic_recover]
    exact connected_bind hconn

end

/-! ## The properties of a publish -/

/-- The first of the string properties that is not taken is read, and is no `bytes`. -/
def stringsCrash (p : PyMembers) : List BasicFlag → Bool
  | [] => false
  | f :: rest =>
    match p.lookup f.key with
    | none => stringsCrash p rest
    | some v => !refused v && (!isString v || stringsCrash p rest)

/-- A string property is refused. -/
def stringsRaise (p : PyMembers) (fs : List BasicFlag) : Bool :=
  fs.any fun f => (p.lookup f.key).any refused

/-- An integer property leaves an exception. -/
def integersRaise (p : PyMembers) : Bool :=
  integers.any fun f => (p.lookup f.key).any fun v => (PyInt_AS_LONG v none).2.isSome

/-- The conversion reads what is no `bytes` among the headers. -/
def headersCrash (p : PyMembers) : Bool :=
  match p.lookup BasicFlag.headers.key with
  | some (.dict members) => membersCrash members
  | _ => false

/-- The headers are refused, or found together with an exception. -/
def headersRaise (p : PyMembers) : Bool :=
  match p.lookup BasicFlag.headers.key with
  | none => false
  | some (.dict members) => integersRaise p || membersRaise members
  | some _ => true

def propertiesCrash (p : PyMembers) : Bool :=
  stringsCrash p strings || (!stringsRaise p strings && headersCrash p)

def propertiesRaise (p : PyMembers) : Bool :=
  stringsRaise p strings || headersRaise p

section

variable {p : PyMembers} {f : BasicFlag} {props : amqp_basic_properties_t} {v : PyObj}

theorem stringStep_absent (h : p.lookup f.key = none) (err : Option PyErr) :
    stringStep p (some props, err) f = .ret (some props, err) := by
  unfold stringStep setString
  rw [show p.lookup (.str (pyStr f.name)) = none from h]

theorem stringStep_refused (props : amqp_basic_properties_t) (h : p.lookup f.key = some v)
    (hrefused : refused v = true) (err : Option PyErr) :
    ∃ err', stringStep p (some props, err) f = .ret (none, err') := by
  obtain ⟨err', hnull⟩ := maybe_refused hrefused err
  unfold stringStep setString
  rw [show p.lookup (.str (pyStr f.name)) = some v from h]
  dsimp only
  rw [hnull]
  exact ⟨err', rfl⟩

/-- A property that is not refused is stored where it is a string, and crashes elsewhere. -/
theorem stringStep_handed (props : amqp_basic_properties_t) (h : p.lookup f.key = some v)
    (hrefused : refused v = false) (err : Option PyErr) :
    (isString v = true ∧ ∃ props', stringStep p (some props, err) f = .ret (some props', err)) ∨
      (isString v = false ∧ stringStep p (some props, err) f = .crash) := by
  have hne := converted_ne_null hrefused
  unfold stringStep setString
  rw [show p.lookup (.str (pyStr f.name)) = some v from h]
  dsimp only
  rw [maybe_converted hrefused]
  rcases read_converted hrefused with ⟨hstring, b, hread, _⟩ | ⟨hstring, hread, _⟩
  · refine Or.inl ⟨hstring, ?_⟩
    cases ho : converted v with
    | null => exact absurd ho hne
    | _ =>
      rw [ho] at hread
      dsimp only
      rw [hread]
      exact ⟨_, rfl⟩
  · refine Or.inr ⟨hstring, ?_⟩
    cases ho : converted v with
    | null => exact absurd ho hne
    | _ =>
      rw [ho] at hread
      dsimp only
      rw [hread]
      rfl

theorem strings_failed (fs : List BasicFlag) (err : Option PyErr) :
    fs.foldlM (stringStep p) (none, err) = .ret (none, err) := by
  induction fs with
  | nil => rfl
  | cons f rest ih =>
    rw [List.foldlM_cons]
    exact ih

/-- How the conversion of the string properties ends. -/
theorem strings_end (fs : List BasicFlag) (props : amqp_basic_properties_t) (err : Option PyErr) :
    (stringsCrash p fs = true ∧ fs.foldlM (stringStep p) (some props, err) = .crash) ∨
    (stringsCrash p fs = false ∧ stringsRaise p fs = true ∧
      ∃ err', fs.foldlM (stringStep p) (some props, err) = .ret (none, err')) ∨
    (stringsCrash p fs = false ∧ stringsRaise p fs = false ∧
      ∃ props', fs.foldlM (stringStep p) (some props, err) = .ret (some props', err)) := by
  induction fs generalizing props with
  | nil => exact Or.inr (Or.inr ⟨rfl, rfl, props, rfl⟩)
  | cons f rest ih =>
    have hraise : stringsRaise p (f :: rest) =
        ((p.lookup f.key).any refused || stringsRaise p rest) := List.any_cons
    rw [List.foldlM_cons, hraise]
    unfold stringsCrash
    cases hv : p.lookup f.key with
    | none =>
      rw [stringStep_absent hv, Option.any_none, Bool.false_or]
      exact ih props
    | some v =>
      dsimp only
      rw [Option.any_some]
      cases hrefused : refused v with
      | true =>
        obtain ⟨err', hstep⟩ := stringStep_refused props hv hrefused err
        rw [hstep]
        exact Or.inr (Or.inl ⟨rfl, rfl, err', strings_failed rest err'⟩)
      | false =>
        rw [Bool.not_false, Bool.true_and, Bool.false_or]
        rcases stringStep_handed props hv hrefused err with
          ⟨hstring, props', hstep⟩ | ⟨hstring, hstep⟩
        · rw [hstring, hstep, Bool.not_true, Bool.false_or]
          exact ih props'
        · rw [hstring, hstep]
          exact Or.inl ⟨rfl, rfl⟩

theorem integersRaise_iff : integersRaise p = true ↔ ∃ f ∈ integers, Fails p f := by
  have hfails : ∀ f ∈ integers, Fails p f ↔
      (p.lookup f.key).any (fun v => (PyInt_AS_LONG v none).2.isSome) = true := by
    intro f hf
    have hconversion : ∀ v, conversionError f v = (PyInt_AS_LONG v none).2 := by
      revert hf
      cases f <;> first | exact fun _ _ => rfl | exact fun hf => absurd hf (by decide)
    cases hv : p.lookup f.key with
    | none => simp [not_fails_of_absent hv]
    | some v => rw [fails_iff hv, hconversion, Option.any_some]
  unfold integersRaise
  rw [List.any_eq_true]
  exact exists_congr fun f => and_congr_right fun hf => (hfails f hf).symm

theorem integers_end (props : amqp_basic_properties_t) : ∃ props' err',
    intSteps p (some props, none) = (some props', err') ∧ err'.isSome = integersRaise p := by
  obtain ⟨props', err', hrun, hpending⟩ := intSteps_pending p props
  exact ⟨props', err', hrun, Bool.eq_iff_iff.mpr (hpending.trans integersRaise_iff.symm)⟩

/-- How the conversion of the headers ends. -/
theorem headers_end (props : amqp_basic_properties_t) {err : Option PyErr}
    (herr : err.isSome = integersRaise p) :
    (headersCrash p = true ∧ setHeaders p (some props, err) = .crash) ∨
    (headersCrash p = false ∧ headersRaise p = true ∧
      ∃ err', setHeaders p (some props, err) = .ret (none, err')) ∨
    (headersCrash p = false ∧ headersRaise p = false ∧
      ∃ props' err', setHeaders p (some props, err) = .ret (some props', err')) := by
  unfold setHeaders headersCrash headersRaise
  rw [show p.lookup (.str (pyStr "headers")) = p.lookup BasicFlag.headers.key from rfl]
  cases p.lookup BasicFlag.headers.key with
  | none => exact Or.inr (Or.inr ⟨rfl, rfl, props, err, rfl⟩)
  | some v =>
    cases v with
    | dict members =>
      have hcomes := toAMQTable_comes members err
      unfold Comes at hcomes
      dsimp only
      cases hcrash : membersCrash members with
      | true =>
        rw [hcrash, if_pos rfl] at hcomes
        rw [hcomes]
        exact Or.inl ⟨rfl, rfl⟩
      | false =>
        rw [hcrash, if_neg Bool.false_ne_true, herr] at hcomes
        obtain ⟨err', hpending, hret⟩ := hcomes
        rw [hret, Outcome.ret_bind, ← hpending]
        cases err' with
        | some e => exact Or.inr (Or.inl ⟨rfl, rfl, some e, rfl⟩)
        | none => exact Or.inr (Or.inr ⟨rfl, rfl, _, none, rfl⟩)
    | _ => exact Or.inr (Or.inl ⟨rfl, rfl, _, rfl⟩)

/-- How the conversion of the properties ends. -/
theorem properties_end (p : PyMembers) :
    (propertiesCrash p = true ∧ PyDict_to_basic_properties p none = .crash) ∨
    (propertiesCrash p = false ∧ propertiesRaise p = true ∧
      ∃ err, PyDict_to_basic_properties p none = .ret (none, err)) ∨
    (propertiesCrash p = false ∧ propertiesRaise p = false ∧
      ∃ props err, PyDict_to_basic_properties p none = .ret (some props, err)) := by
  rw [properties_steps]
  unfold propertiesCrash propertiesRaise
  rcases strings_end (p := p) strings
      { amqp_basic_properties_t.empty with _flags := fun f => f = .headers } none with
    ⟨hcrash, hrun⟩ | ⟨hcrash, hraise, err, hrun⟩ | ⟨hcrash, hraise, props, hrun⟩
  · rw [hrun, hcrash]
    exact Or.inl ⟨rfl, rfl⟩
  · rw [hrun, hcrash, hraise]
    exact Or.inr (Or.inl ⟨rfl, rfl, err, rfl⟩)
  · obtain ⟨props', err, hints, hpending⟩ := integers_end (p := p) props
    rw [hrun, hcrash, hraise, Outcome.ret_bind, hints]
    exact headers_end props' hpending

end

/-! ## The publish -/

section

variable {env : Env σ κ} {api : RabbitMQApi σ} {channel : Int} {w : World σ κ}

/-- The properties of a publish, where the dict converts to some. -/
def properties? (propdict : PyMembers) : Option amqp_basic_properties_t :=
  match PyDict_to_basic_properties propdict none with
  | .ret (props, _) => props
  | _ => none

/-- A call that converts its strings, takes the pool and converts the properties, in that order,
and then reads the strings. -/
theorem published_ends {run : Run (World σ κ) (Option PyObj)} {exchange routing_key : PyObj}
    {propdict : PyMembers}
    {rest : List PyObj → Option amqp_basic_properties_t → Run (World σ κ) (Option PyObj)}
    (herr : w.err = none)
    (hrun : run w = (do
      let some objs ← maybeUnicodes [exchange, routing_key] | return none
      let _ ← onConn fun s => api.amqp_get_or_create_channel_pool s (channelNumber channel)
      withErr (PyDict_to_basic_properties propdict) >>= rest objs) w)
    (hnull : ∀ objs w', rest objs none w' = (.ret none, w'))
    (hcrash : ∀ objs props w', objs.mapM PyString_AS_AMQBYTES = .crash →
      rest objs (some props) w' = (.crash, w')) :
    Ends run w (([exchange, routing_key].mapM name?).isSome && (properties? propdict).isSome)
      (readsSafely [exchange, routing_key] (!propertiesCrash propdict) (propertiesRaise propdict))
      true := by
  cases hrefused : [exchange, routing_key].any refused with
  | true =>
    obtain ⟨w', hmade⟩ := maybeUnicodes_refused (w := w) hrefused
    rw [Run.bind_ret hmade] at hrun
    exact .raises hrun (by rw [names_of_refused hrefused]; rfl)
      fun _ => by rw [readsSafely, hrefused, Bool.true_or]
  | false =>
    rcases hcall : api.amqp_get_or_create_channel_pool w.self.conn (channelNumber channel) with
      ⟨found, s⟩
    have hpool : onConn (fun s => api.amqp_get_or_create_channel_pool s (channelNumber channel)) w =
        (.ret found, w.setConn s) := onConn_ret hcall
    have herr' : (w.setConn s).err = none := herr
    have hsafe : readsSafely [exchange, routing_key] (!propertiesCrash propdict)
        (propertiesRaise propdict) = (!propertiesCrash propdict &&
          (propertiesRaise propdict || [exchange, routing_key].all isString)) := by
      rw [readsSafely, hrefused, Bool.false_or]
    rw [hsafe, properties?]
    rw [Run.bind_ret (maybeUnicodes_taken hrefused)] at hrun
    dsimp only at hrun
    rw [Run.bind_ret hpool] at hrun
    rcases properties_end propdict with ⟨hcrashes, hret⟩ | ⟨hcrashes, hraise, err, hret⟩ |
      ⟨hcrashes, hraise, props, err, hret⟩
    · have hmade : withErr (PyDict_to_basic_properties propdict) (w.setConn s) =
          (.crash, w.setConn s) := by simp [withErr, herr', hret]
      rw [Run.bind_crash hmade] at hrun
      exact .crashes hrun (by rw [hret, Option.isSome_none, Bool.and_false])
        (by rw [hcrashes]; rfl)
    · have hmade : withErr (PyDict_to_basic_properties propdict) (w.setConn s) =
          (.ret none, (w.setConn s).setErr err) := withErr_ret (by rw [herr', hret])
      rw [Run.bind_ret hmade, hnull] at hrun
      exact .raises hrun (by rw [hret, Option.isSome_none, Bool.and_false])
        fun _ => by rw [hcrashes, hraise]; rfl
    · have hmade : withErr (PyDict_to_basic_properties propdict) (w.setConn s) =
          (.ret (some props), (w.setConn s).setErr err) := withErr_ret (by rw [herr', hret])
      rw [Run.bind_ret hmade] at hrun
      rcases reads_converted hrefused with ⟨hall, names, hnames, _⟩ | ⟨hall, hnames, hreads⟩
      · exact .asks (by rw [hnames, hret]; rfl) (by rw [hcrashes, hraise, hall]; rfl)
      · rw [hcrash _ props _ hreads] at hrun
        exact .crashes hrun (by rw [hnames]; rfl) (by rw [hcrashes, hraise, hall]; rfl)

theorem publish_ends (hconn : w.self.connected = true) (herr : w.err = none) (fuel : Nat)
    (body : Octets) (exchange routing_key : PyObj) (propdict : PyMembers)
    (mandatory immediate : Bool) :
    Ends (PyRabbitMQ_Connection_basic_publish env api fuel channel body exchange routing_key
        propdict mandatory immediate) w
      (([exchange, routing_key].mapM name?).isSome && (properties? propdict).isSome)
      (readsSafely [exchange, routing_key] (!propertiesCrash propdict) (propertiesRaise propdict))
      true := by
  apply published_ends herr (connected_bind hconn)
  case hnull => exact fun _ _ => rfl
  case hcrash =>
    intro objs props w' hreads
    dsimp only
    rw [hreads]
    rfl

end

/-! ## Calls -/

/-- A method with strings in its arguments. -/
inductive StringOp where
  | sync (op : SyncOp)
  | basic_publish (body : Octets) (exchange routing_key : PyObj) (propdict : PyMembers)
      (mandatory immediate : Bool)

namespace StringOp

/-- The call of the method. -/
def run (env : Env σ κ) (api : RabbitMQApi σ) (fuel : Nat) (channel : Int) :
    StringOp → Run (World σ κ) (Option PyObj)
  | sync op => op.run env api fuel channel
  | basic_publish body exchange routing_key propdict mandatory immediate =>
    PyRabbitMQ_Connection_basic_publish env api fuel channel body exchange routing_key propdict
      mandatory immediate

/-- The arguments come to a request: every string of them is a name, and the dict converts. -/
def comes (lib : RabbitMQC σ) (api : RabbitMQApi σ) (channel : Int) (s : σ) : StringOp → Bool
  | sync op => (op.recorded lib api channel s).isSome
  | basic_publish _ exchange routing_key propdict _ _ =>
    ([exchange, routing_key].mapM name?).isSome && (properties? propdict).isSome

/-- What the arguments say. -/
def readsSafely : StringOp → Bool
  | sync op => SyncOp.readsSafely op
  | basic_publish _ exchange routing_key propdict _ _ =>
    string_arguments.readsSafely [exchange, routing_key] (!propertiesCrash propdict)
      (propertiesRaise propdict)

def hasPool (api : RabbitMQApi σ) (channel : Int) (s : σ) : StringOp → Bool
  | sync op => string_arguments.hasPool api (channelNumber channel) s op.arguments
  | basic_publish _ _ _ _ _ _ => true

end StringOp

/-- The strings are read only where all of them are `bytes`: a call whose arguments do not come to
a request does not crash, which is the read of anything else, and raises on a connection that is
up. -/
structure ReadsOnlyBytes (op : StringOp) : Prop where
  reads : ∀ {σ κ : Type} (env : Env σ κ) (api : RabbitMQApi σ) (fuel : Nat) (channel : Int)
    (w : World σ κ), w.err = none → op.comes env.lib api channel w.self.conn = false →
    ∀ w', op.run env api fuel channel w ≠ (.crash, w')
  raises : ∀ {σ κ : Type} (env : Env σ κ) (api : RabbitMQApi σ) (fuel : Nat) (channel : Int)
    (w : World σ κ), w.self.connected = true → w.err = none →
    op.comes env.lib api channel w.self.conn = false →
    ∃ e w', fromPython (op.run env api fuel channel) w = (.ret (.error e), w')

section

variable {w : World σ κ}

theorem op_ends (env : Env σ κ) (api : RabbitMQApi σ) (channel : Int)
    (hconn : w.self.connected = true) (herr : w.err = none) (fuel : Nat) (op : StringOp) :
    Ends (op.run env api fuel channel) w (op.comes env.lib api channel w.self.conn) op.readsSafely
      (op.hasPool api channel w.self.conn) := by
  cases op with
  | sync op => exact syncOp_ends hconn herr fuel op
  | basic_publish body exchange routing_key propdict mandatory immediate =>
    exact publish_ends hconn herr fuel body exchange routing_key propdict mandatory immediate

/-- Nothing is read on a connection that is down. -/
theorem op_down (env : Env σ κ) (api : RabbitMQApi σ) (channel : Int)
    (hconn : w.self.connected = false) (fuel : Nat) (op : StringOp) :
    ∃ r w', op.run env api fuel channel w = (.ret r, w') := by
  have hdown : ∃ w', (PyRabbitMQ_Not_Connected : Run (World σ κ) Bool) w = (.ret true, w') := by
    unfold PyRabbitMQ_Not_Connected
    rw [Run.get_bind_apply, hconn]
    exact ⟨_, rfl⟩
  obtain ⟨w', hclosed⟩ := hdown
  have hleaves : ∀ {α : Type} (r : α) (y : Run (World σ κ) α),
      (PyRabbitMQ_Not_Connected >>= fun closed => if closed = true then return r else y) w =
        (.ret r, w') := by
    intro α r y
    rw [Run.bind_ret hclosed, if_pos rfl]
    rfl
  have hnone : ∀ {x : Run (World σ κ) (Option Unit)} {r : Option Unit}, x w = (.ret r, w') →
      noneOf x w = (.ret (r.map fun _ => .none), w') := fun hx => Run.bind_ret hx
  cases op with
  | basic_publish => exact ⟨none, w', hleaves none _⟩
  | sync op =>
    cases op with
    | channel_open => exact ⟨_, w', hnone (hleaves none _)⟩
    | channel_close => exact ⟨_, w', hnone (hleaves none _)⟩
    | basic_cancel => exact ⟨_, w', hnone (hleaves (some ()) _)⟩
    | _ => exact ⟨none, w', hleaves none _⟩

end

/-- A client whose library has memory. -/
def client : Client Unit Unit := Answers.client {}

theorem client_hasPool (channel : Int) (op : StringOp) :
    op.hasPool client.api.tracked channel
      (World.online () : World (Handles Unit) Unit).self.conn = true := by
  cases op with
  | basic_publish => rfl
  | sync op => exact Bool.or_true _

/-- Only `bytes` are read as AMQP strings exactly when a string is refused, or every key that the
conversion of the dict reads is one and so are the strings, unless the conversion raises. -/
theorem only_bytes_are_read_exactly_when_the_arguments_are_strings (op : StringOp) :
    ReadsOnlyBytes op ↔ op.readsSafely = true := by
  constructor
  · intro h
    have hends : Ends _ (World.online () : World (Handles Unit) Unit) _ _ _ :=
      op_ends client.env client.api.tracked 1 rfl rfl 0 op
    rw [client_hasPool] at hends
    cases hends with
    | raises _ _ hsafe => exact hsafe rfl
    | asks _ hsafe => exact hsafe
    | crashes hcrash hcomes _ => exact absurd hcrash (h.reads _ _ _ _ _ rfl hcomes _)
  · intro hsafe
    refine ⟨fun env api fuel channel w herr hcomes w' hcrash => ?_,
      fun env api fuel channel w hconn herr hcomes => ?_⟩
    · cases hconn : w.self.connected with
      | false =>
        obtain ⟨r, w1, hret⟩ := op_down env api channel hconn fuel op
        cases hret.symm.trans hcrash
      | true =>
        cases op_ends env api channel hconn herr fuel op with
        | raises hret _ _ => cases hret.symm.trans hcrash
        | asks hrequest _ => exact absurd (hcomes.symm.trans hrequest) Bool.false_ne_true
        | crashes _ _ hread => exact absurd (hread.symm.trans hsafe) Bool.false_ne_true
    · cases op_ends env api channel hconn herr fuel op with
      | raises hret _ _ => exact raises_of_null hret
      | asks hrequest _ => exact absurd (hcomes.symm.trans hrequest) Bool.false_ne_true
      | crashes _ _ hread => exact absurd (hread.symm.trans hsafe) Bool.false_ne_true

/-- The name of the queue is an `int`, and `_queue_purge` reads it as a `bytes`. -/
theorem a_number_for_a_queue_is_read : ¬ ReadsOnlyBytes (.sync (.queue_purge (.int 5))) := by
  intro h
  exact h.reads client.env client.api.tracked 0 1
    (World.online () : World (Handles Unit) Unit) rfl rfl _ rfl

end librabbitmq.string_arguments
