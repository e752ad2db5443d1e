-- The law of the integer arguments: where each of them is in range of its place in the request,
-- and of the two delivery tags, which are never out of it.
import Librabbitmq.Wire
import Librabbitmq.Session
import Librabbitmq.PropertyRoundTrip
import Librabbitmq.PublishErrors
import Librabbitmq.RecvRun

namespace librabbitmq.integer_arguments

open drain basic_get sending recv_run property_fields property_steps property_round_trip
open publish_errors encoding

variable {σ κ : Type}

/-! ## The law -/

/-- An integer of the application in the place where it is passed. A delivery tag is one that
the broker sent. -/
inductive IntArgument where
  | channel_id (n : Int)
  | prefetch_size (n : Int)
  | prefetch_count (n : Int)
  /-- `delivery_mode`, `priority` or `timestamp`. -/
  | property (f : BasicFlag) (hf : f ∈ integers) (n : Int)
  | basic_ack (delivery_tag : BitVec 64)
  | basic_reject (delivery_tag : BitVec 64)

/-- A Python `int`; a `bool` is one. -/
def IsInt (v : PyObj) (n : Int) : Prop := v = .int n ∨ ∃ b : Bool, v = .bool b ∧ n = b.toInt

/-- A call with the argument returns normally, whatever the others are. The delivery tag is the
one in the dict of its delivery. -/
inductive Returns (x : Outside σ κ) (w w' : World (Wire σ) κ) : IntArgument → Prop
  | channel_id {fuel : Nat} {n : Int} {a : Nat} :
      Connection.channel x.env fuel (some n) w = (.ret (.ok a), w') → Returns x w w' (.channel_id n)
  | prefetch_size {channel size count : Int} {_global : Bool} {v : PyObj} :
      fromPython (PyRabbitMQ_Connection_basic_qos x.api.wired channel size count _global) w =
        (.ret (.ok v), w') → Returns x w w' (.prefetch_size size)
  | prefetch_count {channel size count : Int} {_global : Bool} {v : PyObj} :
      fromPython (PyRabbitMQ_Connection_basic_qos x.api.wired channel size count _global) w =
        (.ret (.ok v), w') → Returns x w w' (.prefetch_count count)
  | property {f : BasicFlag} {hf : f ∈ integers} {fuel : Nat} {channel n : Int} {body : Octets}
      {exchange routing_key o v : PyObj} {p : PyMembers} {mandatory immediate : Bool} :
      p.lookup f.key = some o → IsInt o n →
      fromPython (PyRabbitMQ_Connection_basic_publish x.env x.api.wired fuel channel body exchange
        routing_key p mandatory immediate) w = (.ret (.ok v), w') →
      Returns x w w' (.property f hf n)
  | basic_ack {fuel : Nat} {channel n : Int} {delivery_tag : BitVec 64}
      {exchange routing_key : Octets} {redelivered multiple : Bool} {err err' : Option PyErr}
      {info : PyMembers} {v : PyObj} :
      amqp_basic_deliver_to_PyDict [] delivery_tag exchange routing_key redelivered err =
        .ret (info, err') →
      info.lookup (.str (pyStr "delivery_tag")) = some (.int n) →
      fromPython (PyRabbitMQ_Connection_basic_ack x.env x.api.wired fuel channel n multiple) w =
        (.ret (.ok v), w') → Returns x w w' (.basic_ack delivery_tag)
  | basic_reject {fuel : Nat} {channel n : Int} {delivery_tag : BitVec 64}
      {exchange routing_key : Octets} {redelivered multiple : Bool} {err err' : Option PyErr}
      {info : PyMembers} {v : PyObj} :
      amqp_basic_deliver_to_PyDict [] delivery_tag exchange routing_key redelivered err =
        .ret (info, err') →
      info.lookup (.str (pyStr "delivery_tag")) = some (.int n) →
      fromPython (PyRabbitMQ_Connection_basic_reject x.env x.api.wired fuel channel n multiple) w =
        (.ret (.ok v), w') → Returns x w w' (.basic_reject delivery_tag)

/-- The number in an integer field. -/
def number : Field → Option Int
  | .byte n => some n.toNat
  | .stamp n => some n.toNat
  | _ => none

/-- The request carries the number that was passed. -/
def Carries : IntArgument → Outgoing → Prop
  | .channel_id n, .channel_open c => (c.toNat : Int) = n
  | .prefetch_size n, .basic_qos size _ => (size.toNat : Int) = n
  | .prefetch_count n, .basic_qos _ count => (count.toNat : Int) = n
  | .property f _ n, .basic_publish props => props._flags f ∧ number (field props f) = some n
  | .basic_ack delivery_tag, .basic_ack tag => tag = delivery_tag
  | .basic_reject delivery_tag, .basic_reject tag => tag = delivery_tag
  | _, _ => False

/-- What a call has put on the wire: one request that carries the number, or nothing, for a
channel that the connection has already. -/
inductive Puts (w w' : World (Wire σ) κ) (a : IntArgument) : Prop
  | sent {o : Outgoing} : w'.self.conn.sent = w.self.conn.sent ++ [o] → Carries a o → Puts w w' a
  | had {n : Int} {channel : Nat} : a = .channel_id n → w.self.channels.lookup n = some channel →
      w'.self.conn.sent = w.self.conn.sent → Puts w w' a

/-- A call raises, or the number on the wire is the one that was passed. -/
def Exact (a : IntArgument) : Prop :=
  ∀ (σ κ : Type) (x : Outside σ κ) (w w' : World (Wire σ) κ), w.self.connected = true →
    w.err = none → Returns x w w' a → Puts w w' a

/-- The number is one of `bits` bits. -/
def HasBits (bits : Nat) (n : Int) : Prop := 0 ≤ n ∧ n < 2 ^ bits

/-- The bits of an integer property. -/
def width : BasicFlag → Nat
  | .timestamp => 64
  | _ => 8

/-- The number is in range, or so far out of it that a C `long` does not hold it. The parse of a
channel number and of a prefetch count has no such check. -/
def IntArgument.InRange : IntArgument → Prop
  | .channel_id n => HasBits 16 n
  | .prefetch_size n => FitsLong n → HasBits 32 n
  | .prefetch_count n => HasBits 16 n
  | .property f _ n => FitsLong n → HasBits (width f) n
  | .basic_ack _ => True
  | .basic_reject _ => True

/-! ## Numbers -/

/-- The low bits of a number are the number if it has no others. -/
theorem low_bits_exact {v w : Nat} (h : v ≤ w) (n : Int) :
    (((BitVec.ofInt w n).setWidth v).toNat : Int) = n ↔ HasBits v n := by
  have hpow : (0 : Int) < 2 ^ w := by positivity
  have hdvd : (2 : Int) ^ v ∣ 2 ^ w := pow_dvd_pow 2 h
  have hlow : (((BitVec.ofInt w n).setWidth v).toNat : Int) = n % 2 ^ v := by
    rw [BitVec.toNat_setWidth, BitVec.toNat_ofInt, Int.natCast_mod, Int.toNat_of_nonneg]
    · push_cast
      exact Int.emod_emod_of_dvd n hdvd
    · push_cast
      exact Int.emod_nonneg n (ne_of_gt hpow)
  rw [hlow]
  unfold HasBits
  constructor
  · intro hn
    rw [← hn]
    exact ⟨Int.emod_nonneg n (by positivity), Int.emod_lt_of_pos n (by positivity)⟩
  · rintro ⟨h0, h1⟩
    exact Int.emod_eq_of_lt h0 h1

theorem channelNumber_exact (n : Int) : ((channelNumber n).toNat : Int) = n ↔ HasBits 16 n := by
  rw [← low_bits_exact (by decide : 16 ≤ 32) n]
  rfl

theorem byte_exact (n : Int) : ((BitVec.ofInt 8 n).toNat : Int) = n ↔ HasBits 8 n := by
  rw [← low_bits_exact (le_refl 8) n, BitVec.setWidth_eq]

theorem stamp_exact (n : Int) : ((BitVec.ofInt 64 n).toNat : Int) = n ↔ HasBits 64 n := by
  rw [← low_bits_exact (le_refl 64) n, BitVec.setWidth_eq]

/-- Two channels whose numbers are in range are two at the broker. -/
theorem channels_apart {n m : Int} (hn : HasBits 16 n) (hm : HasBits 16 m)
    (h : channelNumber n = channelNumber m) : n = m := by
  rw [← (channelNumber_exact n).mpr hn, ← (channelNumber_exact m).mpr hm, h]

/-! ## The integers of the properties -/

/-- The field for the integer of a property. -/
def intField : BasicFlag → Int → Field
  | .timestamp, n => .stamp (BitVec.ofInt 64 n)
  | _, n => .byte (BitVec.ofInt 8 n)

/-- An integer property is in its field, if it is there, and its conversion has raised nothing. -/
def Stored (p : PyMembers) (props : amqp_basic_properties_t) (f : BasicFlag) : Prop :=
  ∀ v, p.lookup f.key = some v →
    props._flags f ∧ field props f = intField f (PyInt_AS_LONG v none).1 ∧
      (PyInt_AS_LONG v none).2 = none

/-- The number of the conversion does not depend on what is pending. -/
theorem asLong_number (v : PyObj) (err : Option PyErr) :
    (PyInt_AS_LONG v err).1 = (PyInt_AS_LONG v none).1 := by
  unfold PyInt_AS_LONG PyLong_AsLong
  cases v with
  | int n => by_cases hn : FitsLong n <;> simp [hn]
  | float bits =>
    dsimp only
    cases truncDouble bits with
    | ok n => by_cases hn : FitsLong n <;> simp [hn]
    | error c => rfl
  | _ => rfl

section

variable {p : PyMembers} {f : BasicFlag} {props props' : amqp_basic_properties_t}
  {err : Option PyErr} {store : amqp_basic_properties_t → Int → amqp_basic_properties_t}

/-- One integer property behind which nothing is pending: it is stored, and the others stay. -/
theorem setInt_stored (hstore : Stores f (intField f) store)
    (h : setInt p f.name f store (some props, err) = (some props', none)) :
    err = none ∧ Stored p props' f ∧ ∀ g, g ≠ f → Stored p props g → Stored p props' g := by
  unfold setInt at h
  cases hv : p.lookup f.key with
  | none =>
    have hv' : p.lookup (.str (pyStr f.name)) = none := hv
    rw [hv'] at h
    cases h
    exact ⟨rfl, fun v hsome => (nomatch hv.symm.trans hsome), fun _ _ hg => hg⟩
  | some v =>
    have hv' : p.lookup (.str (pyStr f.name)) = some v := hv
    rw [hv'] at h
    dsimp only at h
    obtain ⟨hprops, herr⟩ := Prod.mk.inj h
    cases hprops
    have hpending : (PyInt_AS_LONG v err).2.isSome = false := by rw [herr]; rfl
    rw [asLong_pending, Bool.or_eq_false_iff] at hpending
    obtain ⟨hflags, hfields⟩ := hstore props (PyInt_AS_LONG v err).1
    have hsame : ∀ flags g, field { store props (PyInt_AS_LONG v err).1 with _flags := flags } g =
        field (store props (PyInt_AS_LONG v err).1) g := by
      intro flags g
      cases g <;> rfl
    refine ⟨by simpa using hpending.1, fun u hu => ?_, fun g hg hstored u hu => ?_⟩
    · cases hv.symm.trans hu
      refine ⟨by simp, ?_, by simpa using hpending.2⟩
      rw [hsame, hfields, if_pos rfl, asLong_number]
    · obtain ⟨hflag, hfield, hnone⟩ := hstored u hu
      refine ⟨?_, ?_, hnone⟩
      · dsimp only
        rw [hflags, hflag, Bool.or_true]
      · rw [hsame, hfields, if_neg hg, hfield]

theorem setInt_some {r : Progress} {name : String}
    (h : setInt p name f store r = (some props', err)) : ∃ props err', r = (some props, err') := by
  obtain ⟨_ | props, err'⟩ := r
  · cases h
  · exact ⟨props, err', rfl⟩

/-- All three of them, by one step after the other. -/
theorem intSteps_stored (h : intSteps p (some props, err) = (some props', none)) :
    ∀ f ∈ integers, Stored p props' f := by
  unfold intSteps at h
  dsimp only at h
  obtain ⟨p2, err2, h2⟩ := setInt_some h
  rw [h2] at h
  obtain ⟨rfl, hstamp, hkeep3⟩ := setInt_stored stores_timestamp h
  obtain ⟨p1, err1, h1⟩ := setInt_some h2
  rw [h1] at h2
  obtain ⟨rfl, hpriority, hkeep2⟩ := setInt_stored stores_priority h2
  obtain ⟨_, hmode, _⟩ := setInt_stored stores_delivery_mode h1
  intro f hf
  simp only [integers, List.mem_cons, List.not_mem_nil, or_false] at hf
  rcases hf with rfl | rfl | rfl
  · exact hkeep3 _ (by decide) (hkeep2 _ (by decide) hmode)
  · exact hkeep3 _ (by decide) hpriority
  · exact hstamp

/-- The headers leave the integers alone, and look for an exception. -/
theorem setHeaders_stored {r : Progress} (h : setHeaders p r = .ret (some props', none)) :
    ∃ props, r = (some props, none) ∧
      ∀ f ∈ integers, Stored p props f → Stored p props' f := by
  obtain ⟨_ | props, err⟩ := r
  · cases h
  unfold setHeaders at h
  cases hv : p.lookup (.str (pyStr "headers")) with
  | none =>
    rw [hv] at h
    cases h
    exact ⟨props', rfl, fun _ _ hf => hf⟩
  | some v =>
    rw [hv] at h
    cases v
    case dict members =>
      dsimp only at h
      rcases hconv : PyDict_ToAMQTable members err with ⟨t, err'⟩ | _ | _
      · rw [hconv, Outcome.ret_bind] at h
        obtain ⟨_, _, hpending⟩ := (toAMQTable_comes members err).of_ret hconv
        cases err' with
        | some e => cases h
        | none =>
          cases h
          have hnone : err = none := by
            have h0 := hpending.symm
            rw [Option.isSome_none, Bool.or_eq_false_iff] at h0
            simpa using h0.1
          refine ⟨props, by rw [hnone], fun f hf hstored v hv' => ?_⟩
          obtain ⟨hflag, hfield, hnone'⟩ := hstored v hv'
          refine ⟨hflag, ?_, hnone'⟩
          rw [← hfield]
          revert hf
          cases f <;> first | exact fun _ => rfl | exact fun hf => absurd hf (by decide)
      · rw [hconv] at h
        cases h
      · rw [hconv] at h
        cases h
    all_goals cases h

/-- Properties that convert with nothing pending hold their integers. -/
theorem integers_stored (h : PyDict_to_basic_properties p none = .ret (some props', none)) :
    ∀ f ∈ integers, Stored p props' f := by
  rw [properties_steps] at h
  rcases hstrings : strings.foldlM (stringStep p)
    (some { amqp_basic_properties_t.empty with _flags := fun f => f = .headers }, none)
    with r | _ | _
  · rw [hstrings, Outcome.ret_bind] at h
    obtain ⟨props2, h2, hkeep⟩ := setHeaders_stored h
    obtain ⟨_ | props1, err1⟩ := r
    · cases h2
    · exact fun f hf => hkeep f hf (intSteps_stored h2 f hf)
  · rw [hstrings] at h
    cases h
  · rw [hstrings] at h
    cases h

end

theorem asLong_isInt {v : PyObj} {n : Int} (hv : IsInt v n) (h : (PyInt_AS_LONG v none).2 = none) :
    FitsLong n ∧ (PyInt_AS_LONG v none).1 = n := by
  rcases hv with rfl | ⟨b, rfl, rfl⟩
  · unfold PyInt_AS_LONG PyLong_AsLong at h ⊢
    by_cases hn : FitsLong n
    · exact ⟨hn, by simp [hn]⟩
    · simp [hn] at h
  · cases b <;> exact ⟨by decide, rfl⟩

theorem number_intField {f : BasicFlag} {n : Int} (h : HasBits (width f) n) :
    number (intField f n) = some n := by
  cases f
  case timestamp => exact congrArg some ((stamp_exact n).mpr h)
  all_goals exact congrArg some ((byte_exact n).mpr h)

theorem hasBits_of_number {f : BasicFlag} {n : Int} (h : number (intField f n) = some n) :
    HasBits (width f) n := by
  cases f
  case timestamp => exact (stamp_exact n).mp (Option.some.inj h)
  all_goals exact (byte_exact n).mp (Option.some.inj h)

/-! ## Calls that return -/

section

variable {env : Env σ κ} {api : RabbitMQApi σ} {fuel : Nat} {w w' : World σ κ} {channel : Int}
  {context : String} {v : PyObj}

theorem sendMethod_returns {send : σ → amqp_channel_t → Int × σ}
    (h : sendMethod env api fuel channel context send w = (.ret (some v), w')) :
    w' = w.setConn (send w.self.conn (channelNumber channel)).2 := by
  rcases hs : send w.self.conn (channelNumber channel) with ⟨status, s⟩
  by_cases hfailed : status < 0
  · obtain ⟨e, _, hrun⟩ := sendMethod_failed env api context hs hfailed
    rw [hrun] at h
    obtain ⟨_, _, _, h⟩ := Run.ret_of_bind h
    cases h
  · rw [sendMethod_sent hs hfailed] at h
    cases h
    rfl

theorem tagMethod_returns {n : Int} {send : σ → amqp_channel_t → BitVec 64 → Int × σ}
    (hconn : w.self.connected = true)
    (h : fromPython (tagMethod env api fuel channel n context send) w = (.ret (.ok v), w')) :
    w'.self.conn = (send w.self.conn (channelNumber channel) (BitVec.ofInt 64 n)).2 := by
  obtain ⟨o, w1, hrun, hv, rfl⟩ := ret_of_fromPython h
  obtain ⟨rfl, _⟩ := checkResult_ok hv.symm
  by_cases hfits : FitsLong n
  · rw [tagMethod_fits hconn hfits] at hrun
    rw [sendMethod_returns hrun]
    rfl
  · rw [tagMethod_unfit hconn hfits] at hrun
    cases hrun

theorem basic_qos_returns {size count : Int} {_global : Bool} (hconn : w.self.connected = true)
    (h : fromPython (PyRabbitMQ_Connection_basic_qos api channel size count _global) w =
      (.ret (.ok v), w')) :
    FitsLong size ∧ w'.self.conn = (api.amqp_basic_qos w.self.conn (channelNumber channel)
      ((BitVec.ofInt 64 size).setWidth 32)
      ((parseUnsigned count).toBitVec.setWidth 16) _global).2 := by
  obtain ⟨o, w1, hrun, hv, rfl⟩ := ret_of_fromPython h
  obtain ⟨rfl, _⟩ := checkResult_ok hv.symm
  by_cases hfits : FitsLong size
  · rw [basic_qos_fits hconn hfits] at hrun
    cases hrun
    exact ⟨hfits, rfl⟩
  · rw [basic_qos_unfit hconn hfits] at hrun
    cases hrun

/-- A publish that returns has converted its properties, with nothing pending. -/
theorem publish_returns {body : Octets} {exchange routing_key : PyObj} {p : PyMembers}
    {mandatory immediate : Bool} (hconn : w.self.connected = true) (herr : w.err = none)
    (h : fromPython (PyRabbitMQ_Connection_basic_publish env api fuel channel body exchange
      routing_key p mandatory immediate) w = (.ret (.ok v), w')) :
    ∃ props exchange_name key, PyDict_to_basic_properties p none = .ret (some props, none) ∧
      w'.self.conn = (api.amqp_basic_publish
        (api.amqp_get_or_create_channel_pool w.self.conn (channelNumber channel)).2
        (channelNumber channel) exchange_name key mandatory immediate props body).2 := by
  obtain ⟨o, w1, hrun, hv, rfl⟩ := ret_of_fromPython h
  obtain ⟨rfl, hnone⟩ := checkResult_ok hv.symm
  rcases publish_comes hconn herr hrun with ⟨hnull, _⟩ |
    ⟨exchange_name, key, props, err, hexchange, hkey, hprops⟩
  · cases hnull
  · rw [publish_of_names hconn herr hexchange hkey hprops] at hrun
    have hw1 := sendMethod_returns hrun
    have herr1 : err = none := by
      rw [hw1] at hnone
      exact hnone
    subst herr1
    refine ⟨props, exchange_name, key, hprops, ?_⟩
    rw [hw1]
    rfl

theorem channel_open_returns {u : Unit} (hconn : w.self.connected = true)
    (h : fromPython (PyRabbitMQ_Connection_channel_open env fuel channel) w = (.ret (.ok u), w')) :
    w'.self =
      (w.setConn (env.lib.amqp_channel_open w.self.conn (channelNumber channel)).2).self := by
  obtain ⟨o, w1, hrun, hv, rfl⟩ := ret_of_fromPython h
  obtain ⟨rfl, _⟩ := checkResult_ok hv.symm
  unfold PyRabbitMQ_Connection_channel_open at hrun
  rw [connected_bind hconn] at hrun
  obtain ⟨r, w2, hcreate, hrest⟩ := Run.ret_of_bind hrun
  cases fuel with
  | zero =>
    unfold PyRabbitMQ_Connection_create_channel at hcreate
    cases hcreate
  | succ fuel =>
    unfold PyRabbitMQ_Connection_create_channel at hcreate
    obtain ⟨reply, w3, hopen, hhandle⟩ := Run.ret_of_bind hcreate
    cases hopen
    rcases handle_cases hhandle with ⟨_, _, rfl, rfl⟩ | ⟨hr, _⟩ | ⟨hr, _⟩
    · rw [if_neg (by decide)] at hrest
      cases hrest
      rfl
    · rw [if_pos hr] at hrest
      cases hrest
    · rw [if_pos hr] at hrest
      cases hrest

/-- `Connection.channel` gives a channel that it has, or opens one. -/
theorem channel_returns {n : Int} {a : Nat} (hconn : w.self.connected = true)
    (h : Connection.channel env fuel (some n) w = (.ret (.ok a), w')) :
    (∃ channel, w.self.channels.lookup n = some channel ∧ w' = w) ∨
      w'.self.conn = (env.lib.amqp_channel_open w.self.conn (channelNumber n)).2 := by
  unfold Connection.channel at h
  dsimp only at h
  rw [Run.get_bind_apply] at h
  cases hhad : w.self.channels.lookup n with
  | some channel =>
    rw [hhad] at h
    cases h
    exact .inl ⟨a, rfl, rfl⟩
  | none =>
    rw [hhad] at h
    unfold Connection.channel.open_ at h
    obtain ⟨r, w1, hopen, h⟩ := Run.ret_of_bind h
    cases r with
    | error e => cases h
    | ok u =>
      have hself := channel_open_returns hconn hopen
      dsimp only at h
      rw [Run.get_bind_apply, Run.modify_bind_apply] at h
      cases h
      exact .inr (congrArg Connection.conn hself)

end

/-! ## In range -/

/-- The tag of a delivery goes through a signed number. -/
theorem tag_of_info {delivery_tag : BitVec 64} {exchange routing_key : Octets} {redelivered : Bool}
    {err err' : Option PyErr} {info : PyMembers} {n : Int}
    (h : amqp_basic_deliver_to_PyDict [] delivery_tag exchange routing_key redelivered err =
      .ret (info, err'))
    (htag : info.lookup (.str (pyStr "delivery_tag")) = some (.int n)) : n = delivery_tag.toInt := by
  cases hexchange : utf8Decode exchange with
  | none => cases (deliver_crash (.inl hexchange)).symm.trans h
  | some exchange_text =>
    cases hkey : utf8Decode routing_key with
    | none => cases (deliver_crash (.inr hkey)).symm.trans h
    | some key_text =>
      cases (deliver_ret hexchange hkey).symm.trans h
      cases htag
      rfl

theorem exact_of_inRange {a : IntArgument} (h : a.InRange) : Exact a := by
  intro σ κ x w w' hconn herr hreturns
  cases hreturns with
  | @channel_id fuel n a hrun =>
    rcases channel_returns hconn hrun with ⟨channel, hhad, rfl⟩ | hw
    · exact .had rfl hhad rfl
    · exact .sent (o := .channel_open (channelNumber n)) (by rw [hw]; rfl)
        ((channelNumber_exact n).mpr h)
  | @prefetch_size channel size count _global v hrun =>
    obtain ⟨hfits, hw⟩ := basic_qos_returns hconn hrun
    exact .sent (o := .basic_qos ((BitVec.ofInt 64 size).setWidth 32) _) (by rw [hw]; rfl)
      ((low_bits_exact (by decide) size).mpr (h hfits))
  | @prefetch_count channel size count _global v hrun =>
    obtain ⟨_, hw⟩ := basic_qos_returns hconn hrun
    exact .sent (o := .basic_qos _ ((BitVec.ofInt 32 count).setWidth 16)) (by rw [hw]; rfl)
      ((low_bits_exact (by decide) count).mpr h)
  | @property f hf fuel channel n body exchange routing_key o v p mandatory immediate hv hint hrun =>
    obtain ⟨props, _, _, hconv, hw⟩ := publish_returns hconn herr hrun
    obtain ⟨hflag, hfield, hnone⟩ := integers_stored hconv f hf o hv
    obtain ⟨hfits, hnumber⟩ := asLong_isInt hint hnone
    refine .sent (o := .basic_publish props) (by rw [hw]; rfl) ⟨hflag, ?_⟩
    rw [hfield, hnumber]
    exact number_intField (h hfits)
  | @basic_ack fuel channel n tag exchange routing_key redelivered multiple err err' info v
      hinfo htag hrun =>
    have hw := tagMethod_returns hconn hrun
    rw [tag_of_info hinfo htag, BitVec.ofInt_toInt] at hw
    exact .sent (o := .basic_ack tag) (by rw [hw]; rfl) rfl
  | @basic_reject fuel channel n tag exchange routing_key redelivered multiple err err' info v
      hinfo htag hrun =>
    have hw := tagMethod_returns hconn hrun
    rw [tag_of_info hinfo htag, BitVec.ofInt_toInt] at hw
    exact .sent (o := .basic_reject tag) (by rw [hw]; rfl) rfl

/-! ## Out of range -/

/-- A broker that grants everything. -/
def granting : Outside Unit Unit := ({} : Answers).outside

/-- A connection to it. -/
def world : World (Wire Unit) Unit :=
  { World.unconnected () with
    self := { (World.unconnected () : World (Wire Unit) Unit).self with connected := true } }

section

variable {a : IntArgument} {w' : World (Wire Unit) Unit} {o : Outgoing}

/-- The one request behind a call of the exact argument carries it. -/
theorem carried (h : Exact a) (hreturns : Returns granting world w' a)
    (hsent : w'.self.conn.sent = [o]) : Carries a o := by
  cases h Unit Unit granting world w' rfl rfl hreturns with
  | @sent o' hsent' hcarries =>
    have ho : [o] = [o'] := hsent.symm.trans hsent'
    cases ho
    exact hcarries
  | had _ hhad => cases hhad

variable {f : BasicFlag} {n : Int}

/-- A dict with one integer property, and nothing else. -/
def only (f : BasicFlag) (n : Int) : PyMembers := [(f.key, .int n)]

theorem lookup_only {g : BasicFlag} {v : PyObj} (h : (only f n).lookup g.key = some v) :
    g = f ∧ v = .int n := by
  unfold only at h
  rw [List.lookup_cons] at h
  by_cases hg : g = f
  · subst hg
    rw [beq_self_eq_true] at h
    cases h
    exact ⟨rfl, rfl⟩
  · rw [beq_eq_false_iff_ne.mpr fun hkey => hg (key_injective hkey)] at h
    cases h

theorem only_converts (hf : f ∈ integers) (hfits : FitsLong n) :
    ∃ props, PyDict_to_basic_properties (only f n) none = .ret (some props, none) := by
  have hdomain : PublishDomain (only f n) := by
    refine ⟨fun g hg v hv => ?_, fun v hv => ?_⟩
    · obtain ⟨rfl, _⟩ := lookup_only hv
      have hapart : ∀ g ∈ strings, g ∉ integers := by decide
      exact absurd hf (hapart g hg)
    · obtain ⟨rfl, _⟩ := lookup_only hv
      exact absurd hf (by decide)
  have hfine : ¬ ∃ g, Fails (only f n) g := by
    rintro ⟨g, v, hv, hfail⟩
    obtain ⟨rfl, rfl⟩ := lookup_only hv
    have hclean : (PyInt_AS_LONG (.int n) none).2 = none := by
      simp [PyInt_AS_LONG, PyLong_AsLong, hfits]
    have hconversion : conversionError g (.int n) = (PyInt_AS_LONG (.int n) none).2 := by
      revert hf
      cases g <;> first | exact fun _ => rfl | exact fun hf => absurd hf (by decide)
    rw [hconversion, hclean] at hfail
    cases hfail
  rcases conversion_cases hdomain with ⟨hfails, _⟩ | ⟨_, props, hconv⟩ | ⟨⟨⟨g, _, hfail⟩, _⟩, _⟩
  · exact absurd hfails hfine
  · exact ⟨props, hconv⟩
  · exact absurd ⟨g, hfail⟩ hfine

/-- The publish of it goes out. -/
theorem only_is_published (hf : f ∈ integers) (hfits : FitsLong n) : ∃ props w',
    PyDict_to_basic_properties (only f n) none = .ret (some props, none) ∧
    fromPython (PyRabbitMQ_Connection_basic_publish granting.env granting.api.wired 0 1 [] (.str [])
      (.str []) (only f n) false false) world = (.ret (.ok .none), w') ∧
    w'.self.conn.sent = [.basic_publish props] := by
  obtain ⟨props, hconv⟩ := only_converts hf hfits
  have hname : IsName (.str []) [] := rfl
  have hrun : PyRabbitMQ_Connection_basic_publish granting.env granting.api.wired 0 1 [] (.str [])
      (.str []) (only f n) false false world = _ := publish_of_names rfl rfl hname hname hconv
  rw [sendMethod_sent rfl (Int.lt_irrefl 0)] at hrun
  exact ⟨props, _, hconv, from_python_ret hrun, rfl⟩

theorem qos_goes_out (count : Int) (hfits : FitsLong n) : ∃ w',
    fromPython (PyRabbitMQ_Connection_basic_qos granting.api.wired 1 n count false) world =
      (.ret (.ok .none), w') ∧
    w'.self.conn.sent = [.basic_qos ((BitVec.ofInt 64 n).setWidth 32)
      ((BitVec.ofInt 32 count).setWidth 16)] :=
  ⟨_, from_python_ret (basic_qos_fits rfl hfits), rfl⟩

/-- A number that goes out as it is was in range. -/
theorem inRange_of_exact : ∀ {a : IntArgument}, Exact a → a.InRange
  | .channel_id n, h => by
    have hrun : Connection.channel granting.env 2 (some n) world = (.ret (.ok 0), _) := rfl
    exact (channelNumber_exact n).mp (carried h (.channel_id hrun) rfl)
  | .prefetch_size n, h => fun hfits => by
    obtain ⟨w', hrun, hsent⟩ := qos_goes_out 0 hfits
    exact (low_bits_exact (by decide) n).mp (carried h (.prefetch_size hrun) hsent)
  | .prefetch_count n, h => by
    obtain ⟨w', hrun, hsent⟩ := qos_goes_out n (by decide : FitsLong 0)
    exact (low_bits_exact (by decide) n).mp (carried h (.prefetch_count hrun) hsent)
  | .property f hf n, h => fun hfits => by
    obtain ⟨props, w', hconv, hrun, hsent⟩ := only_is_published hf hfits
    have hv : (only f n).lookup f.key = some (.int n) := by simp [only]
    obtain ⟨_, hnumber⟩ := carried h (.property hv (.inl rfl) hrun) hsent
    obtain ⟨_, hfield, hnone⟩ := integers_stored hconv f hf _ hv
    rw [hfield, (asLong_isInt (.inl rfl) hnone).2] at hnumber
    exact hasBits_of_number hnumber
  | .basic_ack _, _ => trivial
  | .basic_reject _, _ => trivial

end

/-- An integer reaches the wire as it is, or the call raises, exactly when it is in range or does
not fit a C `long` that is checked. -/
theorem integers_are_exact_exactly_in_range (a : IntArgument) : Exact a ↔ a.InRange :=
  ⟨inRange_of_exact, exact_of_inRange⟩

/-- A prefetch count of 65536 goes out as 0, which is no limit. -/
theorem a_large_prefetch_count_is_unlimited : ¬ Exact (.prefetch_count 65536) := by
  intro h
  obtain ⟨w', hrun, hsent⟩ := qos_goes_out 65536 (by decide : FitsLong 0)
  cases carried h (.prefetch_count hrun) hsent

end librabbitmq.integer_arguments
