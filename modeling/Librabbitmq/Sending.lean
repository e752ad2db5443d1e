-- The methods that only send: their arguments, the send, and the revival behind a send
-- that fails. `_basic_qos` does not look at the reply and is one of them.
import Librabbitmq.BasicGet
import Librabbitmq.Revivals
import Librabbitmq.Conversions

namespace librabbitmq.sending

open drain basic_get

variable {σ κ : Type}

/-! ## String arguments -/

theorem maybeUnicode_err {o : PyObj} {b : Octets} {err err' : Option PyErr}
    (h : PyObjectArray_Maybe_Unicode o err = (.bytes b, err')) : err' = err := by
  cases o
  case str text =>
    unfold PyObjectArray_Maybe_Unicode PyUnicode_AsASCIIString at h
    dsimp only at h
    split at h <;> cases h
    rfl
  all_goals
    cases h
    try rfl

/-- The names behind string arguments. -/
theorem maybeUnicodes_ret : ∀ {strings : List PyObj} {w w' : World σ κ} {r : Option (List PyObj)},
    Quiet w.err → maybeUnicodes strings w = (.ret r, w') →
      ∃ err, w' = w.setErr err ∧ Quiet err := by
  intro strings
  induction strings with
  | nil =>
    intro w w' r hquiet h
    cases h
    exact ⟨w.err, rfl, hquiet⟩
  | cons s rest ih =>
    intro w w' r hquiet h
    unfold maybeUnicodes at h
    obtain ⟨o, w1, hs, h⟩ := Run.ret_of_bind h
    obtain ⟨err, _, rfl, hquiet1⟩ := ret_of_withErr (maybeUnicode_keepsQuiet s hquiet) hs
    cases o
    case null =>
      cases h
      exact ⟨err, rfl, hquiet1⟩
    all_goals
      obtain ⟨objs, w2, hrest, h⟩ := Run.ret_of_bind h
      obtain ⟨err2, rfl, hquiet2⟩ := ih hquiet1 hrest
      cases objs <;> cases h <;> exact ⟨err2, rfl, hquiet2⟩

theorem names_of_maybeUnicodes : ∀ {strings : List PyObj} {names : List Octets}
    {w w' : World σ κ}, w.err = none →
      maybeUnicodes strings w = (.ret (some (names.map .bytes)), w') →
      w' = w ∧ List.Forall₂ IsName strings names := by
  intro strings
  induction strings with
  | nil =>
    intro names w w' _ h
    cases names with
    | nil =>
      cases h
      exact ⟨rfl, .nil⟩
    | cons name names => cases h
  | cons s rest ih =>
    intro names w w' herr h
    have hquiet : Quiet w.err := quiet_of_none herr
    unfold maybeUnicodes at h
    obtain ⟨o, w1, hs, h⟩ := Run.ret_of_bind h
    obtain ⟨err, hret, rfl, _⟩ := ret_of_withErr (maybeUnicode_keepsQuiet s hquiet) hs
    injection hret with hret
    cases o
    case null => cases h
    case bytes b =>
      obtain ⟨objs, w2, hrest, h⟩ := Run.ret_of_bind h
      cases objs with
      | none => cases h
      | some objs =>
        cases names with
        | nil => cases h
        | cons name names =>
          injection h with hobjs hw
          simp only [Outcome.ret.injEq, Option.some.injEq, List.map_cons, List.cons.injEq,
            PyObj.bytes.injEq] at hobjs
          obtain ⟨rfl, rfl⟩ := hobjs
          have hnone := maybeUnicode_err hret
          subst hw hnone
          rw [herr] at hret
          obtain ⟨hsame, hnames⟩ := ih (w := w.setErr w.err) herr hrest
          exact ⟨hsame, .cons hret hnames⟩
    all_goals
      obtain ⟨objs, w2, hrest, h⟩ := Run.ret_of_bind h
      cases objs with
      | none => cases h
      | some objs => cases names <;> cases h

theorem maybeUnicodes_of_names : ∀ {strings : List PyObj} {names : List Octets} {w : World σ κ},
    List.Forall₂ IsName strings names → w.err = none →
      maybeUnicodes strings w = (.ret (some (names.map .bytes)), w) := by
  intro strings names w h herr
  induction h with
  | nil => rfl
  | @cons s name rest names hname _ ih =>
    unfold maybeUnicodes
    rw [Run.bind_ret (withErr_name hname herr)]
    dsimp only
    rw [Run.bind_ret ih]
    rfl

theorem mapM_asBytes (names : List Octets) :
    (names.map PyObj.bytes).mapM PyString_AS_AMQBYTES = .ret names := by
  induction names with
  | nil => rfl
  | cons name names ih =>
    rw [List.map_cons, List.mapM_cons, ih]
    rfl

theorem bytes_of_mapM : ∀ {objs : List PyObj} {names : List Octets},
    objs.mapM PyString_AS_AMQBYTES = .ret names → objs = names.map .bytes := by
  intro objs
  induction objs with
  | nil =>
    intro names h
    cases h
    rfl
  | cons o objs ih =>
    intro names h
    rw [List.mapM_cons] at h
    cases o
    case bytes b =>
      rcases hrest : objs.mapM PyString_AS_AMQBYTES with bs | _ | _
      · rw [hrest] at h
        cases h
        rw [ih hrest]
        rfl
      · rw [hrest] at h
        cases h
      · rw [hrest] at h
        cases h
    all_goals cases h

/-! ## The send -/

section

variable {env : Env σ κ} {api : RabbitMQApi σ} {fuel : Nat} {w w' : World σ κ} {channel : Int}
  {context : String} {send : σ → amqp_channel_t → Int × σ} {status : Int} {s : σ}

theorem sendMethod_sent (hs : send w.self.conn (channelNumber channel) = (status, s))
    (hsent : ¬ status < 0) :
    sendMethod env api fuel channel context send w = (.ret (some .none), w.setConn s) := by
  unfold sendMethod PyRabbitMQ_HandleError
  rw [Run.bind_ret (onConn_ret hs), if_neg hsent]
  rfl

/-- A send that fails sets a `ConnectionError`, and the channel is revived. -/
theorem sendMethod_failed (env : Env σ κ) (api : RabbitMQApi σ) (context : String)
    (hs : send w.self.conn (channelNumber channel) = (status, s)) (hfailed : status < 0) :
    ∃ e0 : PyErr, e0.cls = .ConnectionError ∧ ∀ fuel,
      sendMethod env api fuel channel context send w =
        (do
          let _ ← PyRabbitMQ_revive_channel env fuel (parseUnsigned channel)
          return none) ((w.setConn s).setErr (some e0)) := by
  refine ⟨⟨.ConnectionError, "%s: %s", [.str (pyStr context), .bytes (api.strerror (-status))]⟩,
    rfl, fun fuel => ?_⟩
  unfold sendMethod PyRabbitMQ_HandleError
  rw [Run.bind_ret (onConn_ret hs), if_pos hfailed]
  rfl

/-- A send that returns NULL has failed, and how it ends is how the revival ends. -/
theorem sendMethod_raises (h : sendMethod env api fuel channel context send w = (.ret none, w')) :
    ∃ status s e0, send w.self.conn (channelNumber channel) = (status, s) ∧ status < 0 ∧
      PyErr.cls e0 = .ConnectionError ∧
      RevivalEnds env.lib (channelNumber channel) ((w.setConn s).setErr (some e0)) w' := by
  rcases hs : send w.self.conn (channelNumber channel) with ⟨status, s⟩
  by_cases hfailed : status < 0
  · obtain ⟨e0, he0, hrun⟩ := sendMethod_failed env api context hs hfailed
    rw [hrun] at h
    obtain ⟨r, w1, hrevive, h⟩ := Run.ret_of_bind h
    cases h
    exact ⟨status, s, e0, rfl, hfailed, he0, revive_ends env fuel hrevive⟩
  · rw [sendMethod_sent hs hfailed] at h
    cases h

/-! ## The arguments of a send -/

variable {delivery_tag : Int} {sendTag : σ → amqp_channel_t → BitVec 64 → Int × σ}

theorem tagMethod_fits (hconn : w.self.connected = true) (hfits : FitsLong delivery_tag) :
    tagMethod env api fuel channel delivery_tag context sendTag w =
      sendMethod env api fuel channel context
        (fun s c => sendTag s c (BitVec.ofInt 64 delivery_tag)) w := by
  unfold tagMethod parseSsize
  rw [connected_bind hconn, if_pos hfits]
  rfl

theorem tagMethod_unfit (hconn : w.self.connected = true) (hfits : ¬ FitsLong delivery_tag) :
    tagMethod env api fuel channel delivery_tag context sendTag w =
      (.ret none, w.setErr (some (.raised .OverflowError))) := by
  unfold tagMethod parseSsize
  rw [connected_bind hconn, if_neg hfits]
  rfl

section

variable {prefetch_size prefetch_count : Int} {_global : Bool}

theorem basic_qos_fits (hconn : w.self.connected = true) (hfits : FitsLong prefetch_size) :
    PyRabbitMQ_Connection_basic_qos api channel prefetch_size prefetch_count _global w =
      (.ret (some .none), w.setConn (api.amqp_basic_qos w.self.conn (channelNumber channel)
        ((BitVec.ofInt 64 prefetch_size).setWidth 32)
        ((parseUnsigned prefetch_count).toBitVec.setWidth 16) _global).2) := by
  unfold PyRabbitMQ_Connection_basic_qos parseSsize
  rw [connected_bind hconn, if_pos hfits]
  rfl

theorem basic_qos_unfit (hconn : w.self.connected = true) (hfits : ¬ FitsLong prefetch_size) :
    PyRabbitMQ_Connection_basic_qos api channel prefetch_size prefetch_count _global w =
      (.ret none, w.setErr (some (.raised .OverflowError))) := by
  unfold PyRabbitMQ_Connection_basic_qos parseSsize
  rw [connected_bind hconn, if_neg hfits]
  rfl

end

variable {body : Octets} {exchange routing_key : PyObj} {propdict : PyMembers}
  {mandatory immediate : Bool} {exchange_name key : Octets} {props : amqp_basic_properties_t}
  {err : Option PyErr}

/-- A publish whose arguments are good is a send. -/
theorem publish_of_names (hconn : w.self.connected = true) (herr : w.err = none)
    (hexchange : IsName exchange exchange_name) (hkey : IsName routing_key key)
    (hprops : PyDict_to_basic_properties propdict none = .ret (some props, err)) :
    PyRabbitMQ_Connection_basic_publish env api fuel channel body exchange routing_key propdict
        mandatory immediate w =
      sendMethod env api fuel channel "basic.publish"
        (fun s c => api.amqp_basic_publish s c exchange_name key mandatory immediate props body)
        ((w.setConn
          (api.amqp_get_or_create_channel_pool w.self.conn (channelNumber channel)).2).setErr
            err) := by
  have hnames := maybeUnicodes_of_names (.cons hexchange (.cons hkey .nil)) herr
  rcases hpool : api.amqp_get_or_create_channel_pool w.self.conn (channelNumber channel) with
    ⟨found, s0⟩
  have hcall : onConn (fun s => api.amqp_get_or_create_channel_pool s (channelNumber channel)) w =
      (.ret found, w.setConn s0) := onConn_ret hpool
  have hconverted : withErr (PyDict_to_basic_properties propdict) (w.setConn s0) =
      (.ret (some props), (w.setConn s0).setErr err) := by
    apply withErr_ret
    rw [show (w.setConn s0).err = none from herr, hprops]
  unfold PyRabbitMQ_Connection_basic_publish
  rw [connected_bind hconn, Run.bind_ret hnames]
  dsimp only
  rw [Run.bind_ret hcall, Run.bind_ret hconverted]
  dsimp only
  rw [mapM_asBytes, Run.lift_ret_bind_apply]
  rfl

/-- A publish comes to the send of its names and properties, or returns NULL behind nothing of
AMQP. -/
theorem publish_comes {r : Option PyObj} (hconn : w.self.connected = true) (herr : w.err = none)
    (h : PyRabbitMQ_Connection_basic_publish env api fuel channel body exchange routing_key propdict
      mandatory immediate w = (.ret r, w')) :
    (r = none ∧ Quiet w'.err) ∨ ∃ exchange_name key props err, IsName exchange exchange_name ∧
      IsName routing_key key ∧
      PyDict_to_basic_properties propdict none = .ret (some props, err) := by
  have hquiet : Quiet w.err := quiet_of_none herr
  unfold PyRabbitMQ_Connection_basic_publish at h
  rw [connected_bind hconn] at h
  obtain ⟨objs, w1, hstrings, h⟩ := Run.ret_of_bind h
  obtain ⟨err1, hw1, hquiet1⟩ := maybeUnicodes_ret hquiet hstrings
  cases objs with
  | none =>
    cases h
    rw [hw1]
    exact Or.inl ⟨rfl, hquiet1⟩
  | some objs =>
    rcases hpool : api.amqp_get_or_create_channel_pool w1.self.conn (channelNumber channel) with
      ⟨found, s0⟩
    have hcall : onConn (fun s => api.amqp_get_or_create_channel_pool s (channelNumber channel)) w1 =
        (.ret found, w1.setConn s0) := onConn_ret hpool
    dsimp only at h
    rw [Run.bind_ret hcall] at h
    obtain ⟨props, w3, hprops, h⟩ := Run.ret_of_bind h
    have hquiet2 : Quiet w1.err := by
      rw [hw1]
      exact hquiet1
    obtain ⟨err, hret, rfl, hquiet3⟩ :=
      ret_of_withErr (w := w1.setConn s0) (fromProperties_quiet propdict hquiet2) hprops
    cases props with
    | none =>
      cases h
      exact Or.inl ⟨rfl, hquiet3⟩
    | some props =>
      obtain ⟨names, w4, hmapM, _⟩ := Run.ret_of_bind h
      obtain ⟨hbytes, _⟩ := Prod.mk.inj hmapM
      rw [bytes_of_mapM hbytes] at hstrings
      obtain ⟨rfl, hnames⟩ := names_of_maybeUnicodes herr hstrings
      rw [show (w1.setConn s0).err = none from herr] at hret
      cases hnames with
      | cons hexchange hrest =>
        cases hrest with
        | cons hkey hnil => exact Or.inr ⟨_, _, props, err, hexchange, hkey, hret⟩

/-- A publish comes to the send of its names and properties, or raises nothing of AMQP. -/
theorem publish_cases {r : Option PyObj} (hconn : w.self.connected = true) (herr : w.err = none)
    (h : PyRabbitMQ_Connection_basic_publish env api fuel channel body exchange routing_key propdict
      mandatory immediate w = (.ret r, w')) :
    Quiet w'.err ∨ ∃ exchange_name key props err, IsName exchange exchange_name ∧
      IsName routing_key key ∧
      PyDict_to_basic_properties propdict none = .ret (some props, err) :=
  (publish_comes hconn herr h).imp_left And.right

end

end librabbitmq.sending
