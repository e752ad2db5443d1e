-- The laws of `Channel.basic_get`. When the get-ok is processed, the frames that
-- no call has taken stand in three rows: queued, read from the socket, and still
-- on the wire. The get takes its content only if the header is the oldest of
-- them, and read.
import Librabbitmq.Channel
import Librabbitmq.ConsumeAndGet
import Librabbitmq.Drain

namespace librabbitmq.basic_get

open mailbox body_loop recv_run delivery drain consume_and_get

variable {σ κ : Type} {env : Env σ κ} {w w' : World σ κ}

/-! ## The law -/

/-- The frames that no call has taken: those that rabbitmq-c has queued, those of
which octets are read from the socket, and those on the wire. -/
structure Rows where
  queued : List amqp_frame_t
  buffered : List amqp_frame_t
  wire : List amqp_frame_t

def Rows.all (r : Rows) : List amqp_frame_t := r.queued ++ r.buffered ++ r.wire

/-- What is assumed of rabbitmq-c: it hands out frames in their order, it knows
whether octets are read that no call has taken, and a get takes its get-ok and
queues the frames that it meets before. -/
structure GetOrder (lib : RabbitMQC σ) (rows : σ → Rows) : Prop where
  order : FrameOrder lib fun s => (rows s).all
  data_in_buffer : ∀ s, lib.amqp_data_in_buffer s = true ↔ (rows s).buffered ≠ []
  reply : ∀ s c queue no_ack met ok later,
    (rows s).buffered ++ (rows s).wire = met ++ ⟨c, .method (.basic_get_ok ok)⟩ :: later →
    (∀ f ∈ met, ∀ m, f.payload = .method m → ∃ d, m = .basic_deliver d) →
    ∃ s', lib.amqp_basic_get s c queue no_ack = (.normal (.basic_get_ok ok), s') ∧
      (rows s').queued = (rows s).queued ++ met ∧ (rows s').buffered ++ (rows s').wire = later

/-- The frames before and behind the get-ok, in the order of each channel: the
content of the get, and whole deliveries. -/
structure Traffic (c : amqp_channel_t) (x : Content) (queues : amqp_channel_t → List Delivery)
    (early later : List amqp_frame_t) : Prop where
  own : ∃ before after, queues c = before ++ after ∧
    ofKey amqp_frame_t.channel c early = (before.flatMap fun d => d.frames c) ∧
    ofKey amqp_frame_t.channel c later =
      x.header c :: x.bodies c ++ after.flatMap fun d => d.frames c
  others : ∀ j, j ≠ c →
    ofKey amqp_frame_t.channel j (early ++ later) = (queues j).flatMap fun d => d.frames j

/-- A `Channel` on a connection to which a get-ok comes, behind `met` and before
`later`. A body that ends at a zero of the frame counter is text. -/
structure Asking (rows : σ → Rows) (c : amqp_channel_t) (ok : amqp_basic_get_ok_t) (x : Content)
    (queues : amqp_channel_t → List Delivery) (met later : List amqp_frame_t)
    (channelobj : Nat) (w : World σ κ) : Prop where
  connected : w.self.connected = true
  noError : w.err = none
  channel_id : (w.self.objects channelobj).channel_id = c.toNat
  comes : (rows w.self.conn).buffered ++ (rows w.self.conn).wire =
    met ++ ⟨c, .method (.basic_get_ok ok)⟩ :: later
  traffic : Traffic c x queues ((rows w.self.conn).queued ++ met) later
  exchange : AreUtf8 ok.exchange
  routing_key : AreUtf8 ok.routing_key
  properties : x.properties.IsUtf8
  text : ∀ init last, x.fragments = init ++ [last] → init.length % 2 ^ 32 = 0 → AreUtf8 last.bytes

/-- The name of a queue, as octets. -/
def IsName (queue : PyObj) (name : Octets) : Prop :=
  PyObjectArray_Maybe_Unicode queue none = (.bytes name, none)

/-- The get returns a message with the properties and the octets of the content,
whatever the memory of a new `bytes` holds. The connection stays open, and the
frames of the deliveries stay, in their order. -/
def Gets (env : Env σ κ) (rows : σ → Rows) (x : Content)
    (queues : amqp_channel_t → List Delivery) (before : List amqp_frame_t) (self : Nat)
    (queue : PyObj) (no_ack : Bool) (w : World σ κ) : Prop :=
  ∀ fresh, ∃ k, ∀ fuel, k < fuel → ∃ w' m pd body,
    Channel.basic_get { env with fresh := fresh } fuel self queue no_ack w =
      (.ret (.ok (some m)), w') ∧
    m.channel = self ∧ basic_properties_to_PyDict x.properties [] none = .ret (pd, none) ∧
    m.properties = .dict pd ∧ m.body = .obj body ∧ octetsOf body = some x.octets ∧
    w'.self.connected = true ∧
    Interleaves amqp_frame_t.channel (fun c d => d.frames c) queues (rows w'.self.conn).all ∧
    (rows w'.self.conn).all.Sublist before

/-- No frame of a delivery is older than the content, whose header is read when
the get-ok is processed, in the state `s`. And the content fits the integers of
the extension. -/
structure InTime (rows : σ → Rows) (x : Content) (c : amqp_channel_t) (early : List amqp_frame_t)
    (s : σ) : Prop where
  first : early = []
  buffered : ∃ rest, (rows s).buffered = x.header c :: rest
  signed : x.body_size.toNat < 2 ^ 63
  fragments : x.fragments.length ≤ 2 ^ 32

/-! ## Behind the reply -/

theorem parseUnsigned_channel (c : amqp_channel_t) :
    (parseUnsigned (c.toNat : Int)).toUInt16 = c := by
  have hlt := c.toNat_lt
  apply UInt16.toNat_inj.mp
  unfold parseUnsigned
  rw [UInt32.toNat_toUInt16, UInt32.toNat_ofBitVec, BitVec.toNat_ofInt]
  omega

/-- The dict of a get before its content. -/
def replied (ok : amqp_basic_get_ok_t) (exchange routing_key : PyStr) : PyMembers :=
  [(.str (pyStr "delivery_info"), .dict
    [(.str (pyStr "delivery_tag"), .int ok.delivery_tag.toInt),
      (.str (pyStr "exchange"), .str exchange),
      (.str (pyStr "routing_key"), .str routing_key),
      (.str (pyStr "redelivered"), .bool ok.redelivered),
      (.str (pyStr "message_count"), .int ok.message_count.toNat)])]

/-- `_basic_get` behind its reply, when octets are read that no call has taken. -/
def afterReply (env : Env σ κ) (fuel : Nat) (p : PyMembers) : Run (World σ κ) (Option PyObj) := do
  let (retval, p) ← PyRabbitMQ_recv env fuel (some p) true
  if retval < 0 then
    let w ← Run.get
    if w.err.isNone then
      PyErr_SetString ⟨.ConnectionError, "Bad frame read", []⟩
    PyRabbitMQ_Connection_close env
    return none
  return p.map .dict

/-- `_basic_get` behind the call of the library. -/
def behindCall (env : Env σ κ) (fuel : Nat) (channel : UInt32) (reply : amqp_rpc_reply_t) :
    Run (World σ κ) (Option PyObj) := do
  if (← PyRabbitMQ_HandleAMQError env fuel channel reply "basic.get") ≠ 0 then return none
  match reply with
  | .normal (.basic_get_ok ok) =>
    let delivery_info ← withErr fun err =>
      amqp_basic_deliver_to_PyDict [] ok.delivery_tag ok.exchange ok.routing_key ok.redelivered err
    let delivery_info ← Run.lift
      (PyDict_SetItemString delivery_info "message_count" (.int ok.message_count.toNat))
    let p ← Run.lift (PyDict_SetItemString [] "delivery_info" (.dict delivery_info))
    let w ← Run.get
    if env.lib.amqp_data_in_buffer w.self.conn then afterReply env fuel p
    else return some (.dict p)
  | _ => return some .none

/-- A name is taken as it is. -/
theorem withErr_name {queue : PyObj} {name : Octets} (h : IsName queue name) (herr : w.err = none) :
    withErr (fun err => .ret (PyObjectArray_Maybe_Unicode queue err)) w =
      (.ret (.bytes name), w) := by
  have hret : Outcome.ret (PyObjectArray_Maybe_Unicode queue w.err) =
      .ret (.bytes name, w.err) := by rw [herr, h]
  exact withErr_ret (f := fun err => .ret (PyObjectArray_Maybe_Unicode queue err)) hret

/-- A get from a queue whose name is good comes to the call of the library. -/
theorem basic_get_of_name {channel : Int} {queue : PyObj} {name : Octets} {no_ack : Bool}
    {reply : amqp_rpc_reply_t} {s : σ} (hconn : w.self.connected = true) (herr : w.err = none)
    (hname : IsName queue name)
    (hreply : env.lib.amqp_basic_get w.self.conn (parseUnsigned channel).toUInt16 name no_ack =
      (reply, s)) (fuel : Nat) :
    PyRabbitMQ_Connection_basic_get env fuel channel queue no_ack w =
      behindCall env fuel (parseUnsigned channel) reply (w.setConn s) := by
  have hcall : onConn (fun s => env.lib.amqp_basic_get s (parseUnsigned channel).toUInt16 name
      no_ack) w = (.ret reply, w.setConn s) := onConn_ret hreply
  unfold PyRabbitMQ_Connection_basic_get
  rw [connected_bind hconn, Run.bind_ret (withErr_name hname herr)]
  dsimp only [PyString_AS_AMQBYTES]
  rw [Run.lift_ret_bind_apply, Run.bind_ret hcall]
  rfl

/-- Behind a get-ok whose strings are UTF-8 a get comes to its content, if octets are
read, and ends with the get-ok otherwise. -/
theorem behindCall_ok {ok : amqp_basic_get_ok_t} {exchange routing_key : PyStr}
    (hexchange : utf8Decode ok.exchange = some exchange)
    (hrouting_key : utf8Decode ok.routing_key = some routing_key) (fuel : Nat) (channel : UInt32) :
    behindCall env (fuel + 1) channel (.normal (.basic_get_ok ok)) w =
      (if env.lib.amqp_data_in_buffer w.self.conn then
        afterReply env (fuel + 1) (replied ok exchange routing_key)
      else return some (.dict (replied ok exchange routing_key))) w := by
  unfold behindCall
  rw [Run.bind_ret (handleAMQError_normal env fuel _ _ _ _), if_neg (by decide)]
  dsimp only
  rw [Run.bind_ret (withErr_ret (deliver_ret hexchange hrouting_key))]
  rw [show PyDict_SetItemString _ "message_count" _ = .ret _ from rfl, Run.lift_ret_bind_apply,
    show PyDict_SetItemString [] "delivery_info" _ = .ret _ from rfl, Run.lift_ret_bind_apply,
    Run.get_bind_apply]
  rfl

/-- A get-ok with a string that is not UTF-8 is no end of a get. -/
theorem behindCall_crash {ok : amqp_basic_get_ok_t} {fuel : Nat} {channel : UInt32}
    (h : utf8Decode ok.exchange = none ∨ utf8Decode ok.routing_key = none) :
    behindCall env (fuel + 1) channel (.normal (.basic_get_ok ok)) w = (.crash, w) := by
  unfold behindCall
  rw [Run.bind_ret (handleAMQError_normal env fuel _ _ _ _), if_neg (by decide)]
  exact Run.bind_crash (withErr_crash (deliver_crash h))

/-- A get up to its content, for the channel of a `Channel`. -/
theorem basic_get_of_reply {c : amqp_channel_t} {ok : amqp_basic_get_ok_t} {queue : PyObj}
    {name : Octets} {no_ack : Bool} {s : σ} {exchange routing_key : PyStr}
    (hconn : w.self.connected = true) (herr : w.err = none) (hname : IsName queue name)
    (hreply : env.lib.amqp_basic_get w.self.conn c name no_ack = (.normal (.basic_get_ok ok), s))
    (hexchange : utf8Decode ok.exchange = some exchange)
    (hrouting_key : utf8Decode ok.routing_key = some routing_key) (fuel : Nat) :
    PyRabbitMQ_Connection_basic_get env (fuel + 1) c.toNat queue no_ack w =
      (if env.lib.amqp_data_in_buffer s then
        afterReply env (fuel + 1) (replied ok exchange routing_key)
      else return some (.dict (replied ok exchange routing_key))) (w.setConn s) := by
  rw [← parseUnsigned_channel c] at hreply
  rw [basic_get_of_name hconn herr hname hreply, behindCall_ok hexchange hrouting_key]
  rfl

section

variable {fuel : Nat} {p : PyMembers} {n : Int} {p' : Option PyMembers}

theorem afterReply_ok (h : recvIn env fuel (.get p) w = (.ret (n, p'), w')) (hn : 0 ≤ n) :
    afterReply env fuel p w = (.ret (p'.map .dict), w') := by
  have h' : PyRabbitMQ_recv env fuel (some p) true w = (.ret (n, p'), w') := h
  unfold afterReply
  rw [Run.bind_ret h']
  dsimp only
  rw [if_neg (by omega)]
  rfl

theorem afterReply_failed (h : recvIn env fuel (.get p) w = (.ret (n, p'), w')) (hn : n < 0) :
    afterReply env fuel p w =
      (.ret none, (w'.setErr (some (w'.err.getD badFrame))).closed env) := by
  have h' : PyRabbitMQ_recv env fuel (some p) true w = (.ret (n, p'), w') := h
  unfold afterReply
  rw [Run.bind_ret h']
  dsimp only
  rw [if_pos hn]
  exact close_failed env w'

end

/-! ## The message -/

/-- A call that Python takes for a success returned an object and no exception. -/
theorem from_python_inv {α : Type} {x : Run (World σ κ) (Option α)} {a : α}
    (h : fromPython x w = (.ret (.ok a), w')) : x w = (.ret (some a), w') ∧ w'.err = none := by
  obtain ⟨o, w1, hx, hr, rfl⟩ := ret_of_fromPython h
  obtain ⟨rfl, herr⟩ := checkResult_ok hr.symm
  have hsame : w1.setErr none = w1 := by
    unfold World.setErr
    rw [← herr]
  rw [hsame]
  exact ⟨hx, herr⟩

section

variable {fuel self : Nat} {queue : PyObj} {no_ack : Bool} {m : Message}

/-- A get returns a message exactly when the dict has its members. -/
theorem channel_get_iff : Channel.basic_get env fuel self queue no_ack w =
      (.ret (.ok (some m)), w') ↔
    ∃ frame properties delivery_info body,
      PyRabbitMQ_Connection_basic_get env fuel (w.self.objects self).channel_id queue no_ack w =
        (.ret (some (.dict frame)), w') ∧ w'.err = none ∧
      frame.lookup (.str (pyStr "properties")) = some properties ∧
      frame.lookup (.str (pyStr "delivery_info")) = some delivery_info ∧
      frame.lookup (.str (pyStr "body")) = some body ∧
      m = ⟨self, properties, delivery_info, .obj body⟩ := by
  unfold Channel.basic_get
  rw [Run.get_bind_apply, Run.bind_apply]
  constructor
  · intro h
    rcases hx : fromPython (PyRabbitMQ_Connection_basic_get env fuel
      (w.self.objects self).channel_id queue no_ack) w with ⟨o, w1⟩
    rw [hx] at h
    cases o with
    | crash => cases h
    | hang => cases h
    | ret r =>
      cases r with
      | error e => cases h
      | ok frame =>
        obtain ⟨hget, herr⟩ := from_python_inv hx
        cases frame with
        | dict frame =>
          dsimp only at h
          -- a member that is missing is a `KeyError`
          cases h1 : frame.lookup (.str (pyStr "properties")) with
          | none =>
            rw [h1] at h
            cases h
          | some properties =>
            cases h2 : frame.lookup (.str (pyStr "delivery_info")) with
            | none =>
              rw [h1, h2] at h
              cases h
            | some delivery_info =>
              cases h3 : frame.lookup (.str (pyStr "body")) with
              | none =>
                rw [h1, h2, h3] at h
                cases h
              | some body =>
                rw [h1, h2, h3] at h
                cases h
                exact ⟨frame, properties, delivery_info, body, hget, herr, h1, h2, h3, rfl⟩
        | _ => cases h
  · rintro ⟨frame, properties, delivery_info, body, hget, herr, h1, h2, h3, rfl⟩
    rw [from_python_ok hget herr]
    dsimp only
    rw [h1, h2, h3]
    rfl

end

/-! ## The oldest frame -/

/-- The oldest frame is a `basic.deliver`, or it is the header of the content and
nothing is older. -/
theorem oldest_cases {c : amqp_channel_t} {x : Content} {queues : amqp_channel_t → List Delivery}
    {early later rest : List amqp_frame_t} {f : amqp_frame_t}
    (h : Traffic c x queues early later) (hl : early ++ later = f :: rest) :
    (∃ d, f = Delivery.deliver d f.channel) ∨ (early = [] ∧ f = x.header c) := by
  by_cases hc : f.channel = c
  · obtain ⟨before, after, -, hearly, hlater⟩ := h.own
    subst hc
    cases before with
    | nil =>
      -- the channel of the oldest frame has none before the get-ok
      have hnil : early = [] := by
        cases early with
        | nil => rfl
        | cons g early =>
          rw [List.cons_append] at hl
          cases hl
          rw [ofKey_head] at hearly
          cases hearly
      rw [hnil, List.nil_append] at hl
      rw [hl, ofKey_head] at hlater
      injection hlater with hf _
      exact Or.inr ⟨hnil, hf⟩
    | cons d before =>
      have hkey := ofKey_append amqp_frame_t.channel f.channel early later
      rw [hl, ofKey_head, hearly] at hkey
      injection hkey with hf _
      exact Or.inl ⟨d, hf⟩
  · have hkey := h.others f.channel hc
    rw [hl, ofKey_head] at hkey
    cases hq : queues f.channel with
    | nil =>
      rw [hq] at hkey
      cases hkey
    | cons d ds =>
      rw [hq] at hkey
      injection hkey with hf _
      exact Or.inl ⟨d, hf⟩

/-- A `basic.deliver` in the header's place makes the machine fail. -/
theorem recv_of_deliver {f : amqp_frame_t} {m : amqp_basic_deliver_t} {s : σ} (dict : PyMembers)
    (hr : env.lib.amqp_simple_wait_frame w.self.conn = (.ok f, s))
    (hp : f.payload = .method (.basic_deliver m)) (fuel : Nat) :
    (recvIn env fuel (.get dict) w).1 = .ret (-1, some dict) := by
  have hread : readFrame (PyRabbitMQ_recv.waitHeader env.lib 0) w =
      (.ret (.ok f), w.afterRead f s) := readFrame_ok hr
  unfold recvIn Mode.p Mode.piggyback PyRabbitMQ_recv PyRabbitMQ_recv.content
  rw [if_pos rfl, Run.bind_ret hread]
  dsimp only
  rw [hp]
  rfl

/-! ## The content -/

/-- A get enters the body loop behind the header of its content. -/
theorem enters_header {x : Content} {c : amqp_channel_t} {s : σ} {pd : PyMembers}
    (herr : w.err = none) (hr : env.lib.amqp_simple_wait_frame w.self.conn = (.ok (x.header c), s))
    (hpd : basic_properties_to_PyDict x.properties [] none = .ret (pd, none)) :
    Enters env w true none c x.body_size pd ((w.afterRead (x.header c) s).setErr none) := by
  have hheader : PyRabbitMQ_recv.waitHeader env.lib 0 w.self.conn = (.ok (x.header c), s) := hr
  refine Enters.mk AtHeader.get hheader rfl ?_
  rw [herr]
  exact hpd

/-- A get that succeeds has a size that is not negative for the signed
comparison. -/
theorem target_of_get {d : Option (PyStr × PyMembers)} {c : amqp_channel_t} {t : BitVec 64}
    {pd dict frame : PyMembers} {w1 : World σ κ} {n : Int} {fuel : Nat}
    (he : Enters env w true d c t pd w1)
    (hrun : recvIn env fuel (.get dict) w = (.ret (n, some frame), w')) (hn : 0 ≤ n)
    (herr : w'.err = none) : t = 0 ∨ 0 < t.toInt := by
  rcases get_run_cases env fuel dict w with
    ⟨d', c', t', pd', w2, fs, body, s, w3, he', hyields, _, _, _⟩ |
    ⟨d', c', t', pd', w2, fs, e, s, w3, _, _, _, he', hr⟩ | ⟨w2, hu, hr⟩ | hfails
  · obtain ⟨rfl, rfl, rfl, rfl, rfl⟩ := enters_unique he he'
    exact target_of_yields hyields
  · rw [hr] at hrun
    cases hrun
    rw [he'] at herr
    cases herr
  · exact absurd hu (not_unexpected_of_enters he)
  · have hneg := (hfails.result n (some frame) (by rw [hrun])).1
    omega

/-- The body of a content as a get takes it, where what it decodes is UTF-8: what a
callback sees, in the memory of a `bytes`. -/
theorem yields_seen {x : Content} {c : amqp_channel_t} {s s' : σ}
    (hsize : x.body_size.toNat < 2 ^ 63) (hg : env.lib.GivesOn c s (x.bodies c) s')
    (hav : env.bytesAvailable x.body_size.toNat = true)
    (htext : ∀ init last, x.fragments = init ++ [last] → init.length % 2 ^ 32 = 0 →
      AreUtf8 last.bytes) :
    ∃ body, Yields env c x.body_size s (x.bodies c) body s' ∧
      octetsOf body = some (readBytes env (x.seen c)) := by
  rcases x.size_cases with hneg | hzero | ⟨hpos, init, last, hsplit⟩
  · rw [BitVec.toInt_eq_toNat_of_lt (by omega)] at hneg
    omega
  · have hnil : x.bodies c = [] := by
      unfold Content.bodies
      rw [x.fragments_nil hzero]
      rfl
    rw [hnil] at hg ⊢
    cases hg
    refine ⟨.bytes [], .empty hzero, ?_⟩
    unfold Content.seen
    rw [hnil, x.fragments_nil hzero]
    rfl
  · have hlen : x.fragments.length - 1 = init.length := by
      rw [hsplit, List.length_append, List.length_singleton, Nat.add_sub_cancel]
    unfold Content.seen
    rw [hlen]
    by_cases hlap : init.length % 2 ^ 32 = 0
    · have hlast : lapOctets (x.bodies c) = last.bytes := by
        rw [(Content.bodies_split (c := c) hsplit).1, lapOctets_snoc, Content.length_bodyFrames,
          if_pos hlap]
        rfl
      obtain ⟨text, hdec⟩ := Option.isSome_iff_exists.mp (htext init last hsplit hlap)
      refine ⟨.str text, Content.yields_lap hsplit hpos hg (fun _ => hav) hlap hdec, ?_⟩
      rw [if_pos hlap, hlast, readBytes_some]
      exact utf8Encode_utf8Decode hdec
    · rw [if_neg hlap]
      exact ⟨_, Content.yields_payload hsplit hpos hg hav hlap, rfl⟩

/-- Cells that read as the same octets in every memory are those octets. -/
theorem cells_of_readBytes (env : Env σ κ) {cells : List (Option UInt8)} {b : Octets}
    (h : ∀ fresh, readBytes { env with fresh := fresh } cells = b) : cells = b.map some := by
  apply List.ext_getElem?
  intro i
  -- a memory that holds something else
  have hget := congrArg (fun l => l[i]?) (h fun i => b[i]?.getD 0 + 1)
  unfold readBytes at hget
  dsimp only at hget
  rw [List.getElem?_mapIdx] at hget
  rw [List.getElem?_map, ← hget]
  cases hcell : cells[i]? with
  | none => rfl
  | some cell =>
    cases cell with
    | some x => rfl
    | none =>
      rw [hcell, Option.map_some, Option.getD_none] at hget
      rw [← hget, Option.getD_some] at hget
      simp at hget

/-! ## One call -/

/-- A delivery has frames. -/
theorem deliveries_nil {c : amqp_channel_t} {ds : List Delivery}
    (h : (ds.flatMap fun d => d.frames c) = []) : ds = [] := by
  cases ds with
  | nil => rfl
  | cons d ds => cases h

theorem deliver_method {d : Delivery} {c : amqp_channel_t} {f : amqp_frame_t}
    {m : amqp_method_t} (hf : f ∈ d.frames c) (hm : f.payload = .method m) :
    ∃ d, m = .basic_deliver d := by
  unfold Delivery.frames at hf
  rcases List.mem_cons.mp hf with rfl | hf
  · cases hm
    exact ⟨_, rfl⟩
  · rcases List.mem_cons.mp hf with rfl | hf
    · cases hm
    · obtain ⟨b, _, rfl⟩ := List.mem_map.mp hf
      cases hm

/-- All methods before the get-ok are deliveries. -/
theorem methods_of_traffic {c : amqp_channel_t} {x : Content}
    {queues : amqp_channel_t → List Delivery} {early later : List amqp_frame_t}
    (h : Traffic c x queues early later) : ∀ f ∈ early, ∀ m, f.payload = .method m →
      ∃ d, m = .basic_deliver d := by
  intro f hf m hm
  -- the frame is in the queue of its channel
  have hmem : f ∈ ofKey amqp_frame_t.channel f.channel early := by
    unfold ofKey
    rw [List.mem_filter]
    exact ⟨hf, decide_eq_true rfl⟩
  obtain ⟨ds, hds⟩ : ∃ ds : List Delivery, f ∈ ds.flatMap fun d => d.frames f.channel := by
    by_cases hc : f.channel = c
    · obtain ⟨before, _, _, hearly, _⟩ := h.own
      rw [hc, hearly] at hmem
      rw [hc]
      exact ⟨before, hmem⟩
    · have hkey := h.others f.channel hc
      rw [ofKey_append] at hkey
      exact ⟨queues f.channel, by rw [← hkey]; exact List.mem_append_left _ hmem⟩
  obtain ⟨d, _, hd⟩ := List.mem_flatMap.mp hds
  exact deliver_method hd hm

section

variable {rows : σ → Rows} {x : Content} {queues : amqp_channel_t → List Delivery}
  {met later : List amqp_frame_t} {self : Nat} {queue : PyObj} {name : Octets} {no_ack : Bool}
  {c : amqp_channel_t} {ok : amqp_basic_get_ok_t}

/-- The get-ok is processed, in the state `s`. -/
theorem get_replies (hlib : GetOrder env.lib rows) (h : Asking rows c ok x queues met later self w)
    (name : Octets) (no_ack : Bool) : ∃ s,
      env.lib.amqp_basic_get w.self.conn c name no_ack = (.normal (.basic_get_ok ok), s) ∧
      (rows s).queued = (rows w.self.conn).queued ++ met ∧
      (rows s).buffered ++ (rows s).wire = later :=
  hlib.reply _ c name no_ack met ok later h.comes fun f hf =>
    methods_of_traffic h.traffic f (List.mem_append_right _ hf)

/-- A get returns a message exactly when octets are read, and the machine fills
the dict with the members of the message. -/
theorem get_returns_iff (h : Asking rows c ok x queues met later self w)
    (hname : IsName queue name) {s : σ}
    (hreply : env.lib.amqp_basic_get w.self.conn c name no_ack = (.normal (.basic_get_ok ok), s)) :
    ∃ exchange routing_key, ∀ fuel m w',
      Channel.basic_get env (fuel + 1) self queue no_ack w = (.ret (.ok (some m)), w') ↔
        env.lib.amqp_data_in_buffer s = true ∧ ∃ n frame properties delivery_info body,
          recvIn env (fuel + 1) (.get (replied ok exchange routing_key)) (w.setConn s) =
            (.ret (n, some frame), w') ∧ 0 ≤ n ∧ w'.err = none ∧
          frame.lookup (.str (pyStr "properties")) = some properties ∧
          frame.lookup (.str (pyStr "delivery_info")) = some delivery_info ∧
          frame.lookup (.str (pyStr "body")) = some body ∧
          m = ⟨self, properties, delivery_info, .obj body⟩ := by
  obtain ⟨exchange, hexchange⟩ := Option.isSome_iff_exists.mp h.exchange
  obtain ⟨routing_key, hrouting_key⟩ := Option.isSome_iff_exists.mp h.routing_key
  refine ⟨exchange, routing_key, fun fuel m w' => ?_⟩
  have hget := basic_get_of_reply h.connected h.noError hname hreply hexchange hrouting_key fuel
  rw [channel_get_iff, h.channel_id, hget]
  cases hdata : env.lib.amqp_data_in_buffer s with
  | false =>
    -- the dict has the get-ok only
    constructor
    · rintro ⟨frame, properties, _, _, hret, _, hprops, _⟩
      cases hret
      cases hprops
    · rintro ⟨hfalse, _⟩
      cases hfalse
  | true =>
    rw [if_pos rfl]
    constructor
    · rintro ⟨frame, properties, delivery_info, body, hret, herr, h1, h2, h3, h4⟩
      rcases hrecv : recvIn env (fuel + 1) (.get (replied ok exchange routing_key)) (w.setConn s)
        with ⟨o, w2⟩
      have hrecv' : PyRabbitMQ_recv env (fuel + 1) (some (replied ok exchange routing_key)) true
        (w.setConn s) = (o, w2) := hrecv
      cases o with
      | crash =>
        unfold afterReply at hret
        rw [Run.bind_crash hrecv'] at hret
        cases hret
      | hang =>
        unfold afterReply at hret
        rw [Run.bind_hang hrecv'] at hret
        cases hret
      | ret r =>
        obtain ⟨n, p'⟩ := r
        by_cases hn : n < 0
        · rw [afterReply_failed hrecv hn] at hret
          cases hret
        · rw [afterReply_ok hrecv (by omega)] at hret
          cases p' with
          | none => cases hret
          | some p' =>
            cases hret
            exact ⟨rfl, n, frame, properties, delivery_info, body, rfl, by omega, herr, h1, h2, h3,
              h4⟩
    · rintro ⟨_, n, frame, properties, delivery_info, body, hrecv, hn, herr, h1, h2, h3, h4⟩
      exact ⟨frame, properties, delivery_info, body, afterReply_ok hrecv hn, herr, h1, h2, h3, h4⟩

/-- The content whose header is the oldest frame is taken, and nothing else. -/
theorem get_takes (env : Env σ κ) (hlib : GetOrder env.lib rows) (hmem : ∀ n, env.bytesAvailable n = true)
    (h : Asking rows c ok x queues met later self w) (hname : IsName queue name) {s : σ}
    (hreply : env.lib.amqp_basic_get w.self.conn c name no_ack = (.normal (.basic_get_ok ok), s))
    (hqueued : (rows s).queued = (rows w.self.conn).queued ++ met)
    (hlater : (rows s).buffered ++ (rows s).wire = later)
    (hfirst : (rows w.self.conn).queued ++ met = []) {rest : List amqp_frame_t}
    (hbuf : (rows s).buffered = x.header c :: rest) (hsigned : x.body_size.toNat < 2 ^ 63) :
    ∃ k w' m pd body, m.channel = self ∧
      basic_properties_to_PyDict x.properties [] none = .ret (pd, none) ∧
      m.properties = .dict pd ∧ m.body = .obj body ∧
      octetsOf body = some (readBytes env (x.seen c)) ∧ w'.self.connected = true ∧
      Interleaves amqp_frame_t.channel (fun c d => d.frames c) queues (rows w'.self.conn).all ∧
      (rows w'.self.conn).all.Sublist ((rows w.self.conn).queued ++ met ++ later) ∧
      ∀ fuel, k < fuel →
        Channel.basic_get env fuel self queue no_ack w = (.ret (.ok (some m)), w') := by
  obtain ⟨pd, hpd⟩ := properties_decode h.properties none
  obtain ⟨before, after, hqueue, hearly, hkey⟩ := h.traffic.own
  have hothers := h.traffic.others
  rw [hfirst] at hqueued hearly hothers ⊢
  rw [List.nil_append] at hothers ⊢
  have hbefore := deliveries_nil hearly.symm
  have hall : (rows s).all = later := by
    unfold Rows.all
    rw [hqueued, List.nil_append, hlater]
  have hpend : (rows s).all = x.header c :: (rest ++ (rows s).wire) := by
    rw [hall, ← hlater, hbuf, List.cons_append]
  -- the header, and then the body
  obtain ⟨s1, hwait, hs1⟩ := hlib.order.wait s _ _ hpend
  have hbodies : ofKey amqp_frame_t.channel c (rows s1).all =
      x.bodies c ++ after.flatMap fun d => d.frames c := by
    rw [← hall, hpend, ← hs1] at hkey
    have hhead : ofKey amqp_frame_t.channel c (x.header c :: (rows s1).all) =
        x.header c :: ofKey amqp_frame_t.channel c (rows s1).all := ofKey_head
    rw [hhead, List.cons_append] at hkey
    exact List.tail_eq_of_cons_eq hkey
  obtain ⟨s2, hgives, hkey2, hothers2, hsub, -⟩ := hlib.order.givesOn c (x.bodies c) s1 hbodies
  -- the run of the machine
  have henters := enters_header (w := w.setConn s) h.noError hwait hpd
  obtain ⟨body, hyields, hoctets⟩ := yields_seen hsigned hgives (hmem _) h.text
  obtain ⟨exchange, routing_key, hreturns⟩ := get_returns_iff h hname hreply
  obtain ⟨k, w2, hafter, herr, hrun⟩ :=
    recv_of_yields (replied ok exchange routing_key) henters hyields
  obtain ⟨h1, h2⟩ := lookup_filled (replied ok exchange routing_key) pd body c
  obtain ⟨info, h3⟩ : ∃ info, (filled (replied ok exchange routing_key) pd body c).lookup
      (.str (pyStr "delivery_info")) = some info := by
    unfold filled
    rw [Dict.lookup_set_ne _ _ (by decide), Dict.lookup_set_ne _ _ (by decide),
      Dict.lookup_set_ne _ _ (by decide)]
    exact ⟨_, rfl⟩
  have hconn : w2.self.conn = s2 := by rw [hafter.self]
  refine ⟨k, w2, ⟨self, .dict pd, info, .obj body⟩, pd, body, rfl, hpd, rfl, rfl, hoctets, ?_, ?_, ?_,
    fun fuel hf => ?_⟩
  · rw [hafter.self]
    exact h.connected
  · intro j
    rw [hconn]
    by_cases hj : j = c
    · rw [hj, hkey2, hqueue, hbefore, List.nil_append]
    · rw [hothers2 j hj, ← hothers j hj, ← hall, hpend, ← hs1, ofKey_tail hj]
  · rw [hconn, ← hall, hpend, ← hs1]
    exact hsub.trans (List.sublist_cons_self _ _)
  · obtain ⟨fuel, rfl⟩ := Nat.exists_eq_succ_of_ne_zero (Nat.ne_of_gt (Nat.zero_lt_of_lt hf))
    refine (hreturns fuel _ _).mpr ⟨?_, 0, _, .dict pd, info, body, hrun _ hf, by decide, herr, h1,
      h3, h2, rfl⟩
    rw [hlib.data_in_buffer, hbuf]
    exact List.cons_ne_nil _ _

/-- A get that returns a message finds the header of its content first, and
read. -/
theorem header_of_get (hlib : GetOrder env.lib rows) (h : Asking rows c ok x queues met later self w)
    (hname : IsName queue name) {s : σ}
    (hreply : env.lib.amqp_basic_get w.self.conn c name no_ack = (.normal (.basic_get_ok ok), s))
    (hqueued : (rows s).queued = (rows w.self.conn).queued ++ met)
    (hlater : (rows s).buffered ++ (rows s).wire = later) {fuel : Nat} {m : Message}
    (hget : Channel.basic_get env (fuel + 1) self queue no_ack w = (.ret (.ok (some m)), w')) :
    (rows w.self.conn).queued ++ met = [] ∧ (∃ rest, (rows s).buffered = x.header c :: rest) ∧
      x.body_size.toNat < 2 ^ 63 := by
  obtain ⟨exchange, routing_key, hreturns⟩ := get_returns_iff h hname hreply
  obtain ⟨hdata, n, frame, _, _, _, hrecv, hn, herr, _⟩ := (hreturns fuel m w').mp hget
  rw [hlib.data_in_buffer] at hdata
  obtain ⟨f, rest, hbuf⟩ := List.exists_cons_of_ne_nil hdata
  have hall : (rows s).all = (rows w.self.conn).queued ++ met ++ later := by
    unfold Rows.all
    rw [hqueued, List.append_assoc, hlater]
  have hne : (rows s).all ≠ [] := by
    unfold Rows.all
    rw [hbuf]
    simp
  obtain ⟨g, rest', hpend⟩ := List.exists_cons_of_ne_nil hne
  obtain ⟨s1, hwait, hs1⟩ := hlib.order.wait s _ _ hpend
  rcases oldest_cases h.traffic (hall.symm.trans hpend) with ⟨d, hd⟩ | ⟨hfirst, hg⟩
  · have hfail := recv_of_deliver (replied ok exchange routing_key) (w := w.setConn s)
      hwait (m := d.method) (by rw [hd]; rfl) (fuel + 1)
    rw [hrecv] at hfail
    cases hfail
    omega
  · -- the oldest frame is the oldest of the buffer
    have hsame : (rows s).all = (rows s).buffered ++ (rows s).wire := by
      unfold Rows.all
      rw [hqueued, hfirst, List.nil_append]
    rw [hpend, hbuf, hg, List.cons_append] at hsame
    injection hsame with hf _
    refine ⟨hfirst, ⟨rest, by rw [hbuf, hf]⟩, ?_⟩
    rw [hg] at hwait
    obtain ⟨pd, hpd⟩ := properties_decode h.properties none
    have henters := enters_header (w := w.setConn s) h.noError hwait hpd
    rcases target_of_get henters hrecv hn herr with hzero | hpos
    · rw [hzero]
      decide
    · have hsize := toNat_of_pos hpos
      have hlt := BitVec.toInt_lt (x := x.body_size)
      omega

end

/-! ## A socket -/

/-- The rows of a socket. -/
def socketRows (s : Socket) : Rows := ⟨s.queued, s.buffered, s.wire.flatten⟩

theorem socket_getOrder : GetOrder Socket.env.lib socketRows := by
  refine ⟨Socket.frameOrder, fun s => ?_, fun s c queue no_ack met ok later h hmet => ?_⟩
  · change (!s.buffered.isEmpty) = true ↔ s.buffered ≠ []
    cases s.buffered <;> simp
  · have hfits : Socket.isGetReply c ⟨c, .method (.basic_get_ok ok)⟩ = true := by
      simp [Socket.isGetReply]
    have hpre : ∀ f ∈ met, Socket.isGetReply c f = false := by
      intro f hf
      unfold Socket.isGetReply
      cases hp : f.payload with
      | method m =>
        obtain ⟨d, rfl⟩ := hmet f hf m hp
        simp
      | header size props => simp
      | body_fragment b => simp
      | other t ht => simp
    obtain ⟨s', hs', hqueued, hlater⟩ := Socket.waitSocketFor_order s.closed hfits s.wire s.queued
      s.buffered met h hpre
    refine ⟨s', ?_, hqueued, hlater⟩
    change Socket.basicGet s c = _
    unfold Socket.basicGet
    rw [hs']

/-- A content of one octet, which is UTF-8. -/
def letter : Content := ⟨1, .empty, [⟨[97], by decide⟩], by decide, rfl⟩

def getOk : amqp_basic_get_ok_t := ⟨1, false, [], [], 0⟩

/-- A socket that has read a get-ok on channel 1 and `read`, and that still brings
`wire`. -/
def answering (read wire : List amqp_frame_t) : Socket :=
  ⟨[], ⟨1, .method (.basic_get_ok getOk)⟩ :: read, [wire], false⟩

/-- A get on channel 1 of a socket whose only other frames are the content. -/
theorem asking_letter {read wire : List amqp_frame_t}
    (h : read ++ wire = letter.header 1 :: letter.bodies 1) :
    Asking socketRows 1 getOk letter (fun _ => []) [] (read ++ wire) 0
      (Socket.world (answering read wire) none) := by
  have hempty : utf8Decode [] = some [] := rfl
  have hletter : utf8Decode [97] = some (pyStr "a") := rfl
  refine ⟨rfl, rfl, rfl, by simp [socketRows, answering, Socket.world], ⟨⟨[], [], rfl, rfl, ?_⟩,
    fun j hj => ?_⟩, ?_, ?_, empty_isUtf8, fun init last hsplit _ => ?_⟩
  · rw [h]
    rfl
  · rw [h]
    have hj' : ¬ (1 : amqp_channel_t) = j := fun he => hj he.symm
    simp [ofKey, socketRows, answering, Socket.world, letter, Content.header, Content.bodies,
      Content.bodyFrames, hj']
  · unfold AreUtf8 getOk
    rw [hempty]
    rfl
  · unfold AreUtf8 getOk
    rw [hempty]
    rfl
  · have hlast : last = ⟨[97], by decide⟩ := by
      have hends := congrArg List.getLast? hsplit
      rw [List.getLast?_append] at hends
      exact (Option.some.inj hends).symm
    rw [hlast]
    unfold AreUtf8
    rw [hletter]
    rfl

/-- Two octets in two frames, under a content type and headers. -/
def card : Content where
  body_size := 2
  properties := { amqp_basic_properties_t.empty with
    _flags := fun f => f = .content_type || f = .headers
    content_type := [116, 120, 116]
    headers := [([120], .i32 4)] }
  fragments := [⟨[97], by decide⟩, ⟨[98], by decide⟩]
  nonempty := by decide
  sum := rfl

/-- A delivery of a letter. -/
def post : Delivery where
  method := ⟨[116], 7, false, [], []⟩
  content := letter
  consumer_tag := rfl
  exchange := rfl
  routing_key := rfl
  properties := empty_isUtf8
  nonempty := by decide
  signed := by decide

/-- The card, with a delivery on channel 2 between its frames and one on channel 1 behind. -/
def mixed : List amqp_frame_t :=
  [card.header 1, post.deliver 2, ⟨1, .body_fragment ⟨[97], by decide⟩⟩, letter.header 2,
    ⟨1, .body_fragment ⟨[98], by decide⟩⟩] ++ letter.bodies 2 ++ post.frames 1

/-- The deliveries among them. -/
def posts (c : amqp_channel_t) : List Delivery := if c = 1 ∨ c = 2 then [post] else []

/-- The first two of the frames are read with the get-ok. -/
theorem asking_card : Asking socketRows 1 getOk card posts [] mixed 0
    (Socket.world (answering (mixed.take 2) (mixed.drop 2)) none) := by
  have hheaders : TableIsUtf8 card.properties.headers := ⟨rfl, trivial, trivial⟩
  refine ⟨rfl, rfl, rfl, ?_, ⟨⟨[], [post], rfl, rfl, rfl⟩, fun j hj => ?_⟩, rfl, rfl, ?_,
    fun init last hsplit hlap => ?_⟩
  · simp [socketRows, answering, Socket.world]
  · by_cases hj2 : j = 2
    · subst hj2
      rfl
    · have hj' : ¬ (1 : amqp_channel_t) = j := fun he => hj he.symm
      have hj2' : ¬ (2 : amqp_channel_t) = j := fun he => hj2 he.symm
      simp [ofKey, socketRows, answering, Socket.world, mixed, posts, hj, hj2, hj', hj2',
        Delivery.deliver, Delivery.frames, Content.header, Content.bodies, Content.bodyFrames,
        letter, post]
  · constructor
    case content_type => exact fun _ => rfl
    case headers => exact fun _ => hheaders
    all_goals exact fun h => by cases h
  · have hlen := congrArg List.length hsplit
    rw [List.length_append, List.length_singleton] at hlen
    have hone : init.length = 1 := Nat.succ.inj hlen.symm
    rw [hone] at hlap
    cases hlap

theorem isName_empty : IsName (.str []) [] := rfl

/-! ## The law, both ways -/

section

variable {rows : σ → Rows} {x : Content} {queues : amqp_channel_t → List Delivery}
  {met later : List amqp_frame_t} {self : Nat} {queue : PyObj} {name : Octets} {no_ack : Bool}
  {c : amqp_channel_t} {ok : amqp_basic_get_ok_t}

theorem inTime_of_gets (hlib : GetOrder env.lib rows)
    (hmem : ∀ n, env.bytesAvailable n = true) (h : Asking rows c ok x queues met later self w)
    (hname : IsName queue name)
    (hgets : Gets env rows x queues ((rows w.self.conn).queued ++ met ++ later) self queue no_ack w) :
    InTime rows x c ((rows w.self.conn).queued ++ met)
      (env.lib.amqp_basic_get w.self.conn c name no_ack).2 := by
  obtain ⟨s, hreply, hqueued, hlater⟩ := get_replies hlib h name no_ack
  obtain ⟨k, hk⟩ := hgets env.fresh
  obtain ⟨_, _, _, _, hget, _⟩ := hk (k + 1) (by omega)
  obtain ⟨hfirst, ⟨rest, hbuf⟩, hsigned⟩ := header_of_get hlib h hname hreply hqueued hlater hget
  rw [hreply]
  refine ⟨hfirst, ⟨rest, hbuf⟩, hsigned, (x.seen_eq_iff c).mp ?_⟩
  -- what is taken is the content, in every memory
  apply cells_of_readBytes env
  intro fresh
  obtain ⟨k1, _, _, _, body1, _, _, _, hbody1, hoctets1, _, _, _, hrun1⟩ :=
    get_takes { env with fresh := fresh } hlib hmem h hname hreply hqueued hlater hfirst
      hbuf hsigned
  obtain ⟨k2, hk2⟩ := hgets fresh
  obtain ⟨_, _, _, body2, hrun2, _, _, _, hbody2, hoctets2, _⟩ := hk2 (k1 + k2 + 1) (by omega)
  rw [hrun1 _ (by omega)] at hrun2
  cases hrun2
  rw [hbody1] at hbody2
  cases hbody2
  rw [hoctets1] at hoctets2
  exact Option.some.inj hoctets2

theorem gets_of_inTime (hlib : GetOrder env.lib rows) (hmem : ∀ n, env.bytesAvailable n = true)
    (h : Asking rows c ok x queues met later self w) (hname : IsName queue name)
    (hin : InTime rows x c ((rows w.self.conn).queued ++ met)
      (env.lib.amqp_basic_get w.self.conn c name no_ack).2) :
    Gets env rows x queues ((rows w.self.conn).queued ++ met ++ later) self queue no_ack w := by
  obtain ⟨s, hreply, hqueued, hlater⟩ := get_replies hlib h name no_ack
  rw [hreply] at hin
  obtain ⟨rest, hbuf⟩ := hin.buffered
  intro fresh
  obtain ⟨k, w', m, pd, body, hself, hpd, hprops, hbody, hoctets, hopen, hleft, hsub, hrun⟩ :=
    get_takes { env with fresh := fresh } hlib hmem h hname hreply hqueued hlater
      hin.first hbuf hin.signed
  rw [(x.seen_eq_iff c).mpr hin.fragments, readBytes_some] at hoctets
  exact ⟨k, fun fuel hf => ⟨w', m, pd, body, hrun fuel hf, hself, hpd, hprops, hbody, hoctets,
    hopen, hleft, hsub⟩⟩

/-- A get is independent of the deliveries around its content, and of the time at
which the frames come, exactly when the content is in time. -/
theorem a_get_is_independent_exactly_when_its_content_is_in_time (env : Env σ κ)
    (rows : σ → Rows) (c : amqp_channel_t) (ok : amqp_basic_get_ok_t) (x : Content)
    (queues : amqp_channel_t → List Delivery) (met later : List amqp_frame_t) (self : Nat)
    (queue : PyObj) (name : Octets) (no_ack : Bool) (w : World σ κ)
    (hlib : GetOrder env.lib rows) (hmem : ∀ n, env.bytesAvailable n = true)
    (h : Asking rows c ok x queues met later self w) (hname : IsName queue name) :
    Gets env rows x queues ((rows w.self.conn).queued ++ met ++ later) self queue no_ack w ↔
      InTime rows x c ((rows w.self.conn).queued ++ met)
        (env.lib.amqp_basic_get w.self.conn c name no_ack).2 :=
  ⟨inTime_of_gets hlib hmem h hname, gets_of_inTime hlib hmem h hname⟩

end

/-- A content whose header is read with the get-ok is taken, from among the frames of two
deliveries. -/
theorem a_content_read_with_its_get_ok_is_taken :
    Gets Socket.env socketRows card posts mixed 0 (.str []) false
      (Socket.world (answering (mixed.take 2) (mixed.drop 2)) none) :=
  (a_get_is_independent_exactly_when_its_content_is_in_time Socket.env socketRows 1 getOk card
    posts [] mixed 0 (.str []) [] false _ socket_getOrder (fun _ => rfl) asking_card
    isName_empty).mpr ⟨rfl, ⟨mixed.tail.take 1, rfl⟩, by decide, by decide⟩

/-- A content that is still on the wire when the get-ok is processed is not. -/
theorem a_content_on_the_wire_is_not_taken :
    GetOrder Socket.env.lib socketRows ∧
    Asking socketRows 1 getOk letter (fun _ => []) [] (letter.header 1 :: letter.bodies 1) 0
      (Socket.world (answering [] (letter.header 1 :: letter.bodies 1)) none) ∧
    IsName (.str []) [] ∧
    ¬ Gets Socket.env socketRows letter (fun _ => []) (letter.header 1 :: letter.bodies 1) 0
      (.str []) false
      (Socket.world (answering [] (letter.header 1 :: letter.bodies 1)) none) := by
  have hasking := @asking_letter [] (letter.header 1 :: letter.bodies 1) rfl
  refine ⟨socket_getOrder, hasking, isName_empty, fun hgets => ?_⟩
  have hin := inTime_of_gets socket_getOrder (fun _ => rfl) hasking isName_empty hgets
  obtain ⟨rest, hbuf⟩ := hin.buffered
  cases hbuf

end librabbitmq.basic_get
