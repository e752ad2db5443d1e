-- Whether the class of an exception tells what is left of the connection, where no reply
-- is waited for, or a content follows it. The exception is set in one function, the
-- channel revived in a second, and the connection closed in a third that does not look.
import Librabbitmq.MethodFrames
import Librabbitmq.Sending

namespace librabbitmq.truthful

open method_frames drain basic_get delivery sending

variable {σ κ : Type}

/-! ## The law -/

/-- A call of one of the five methods. -/
inductive Async where
  | basic_recv (timeout : Rat)
  | basic_get (channel : Int) (queue : PyObj) (no_ack : Bool)
  | basic_publish (channel : Int) (body : Octets) (exchange routing_key : PyObj)
      (propdict : PyMembers) (mandatory immediate : Bool)
  | basic_ack (channel : Int) (delivery_tag : Int) (multiple : Bool)
  | basic_reject (channel : Int) (delivery_tag : Int) (multiple : Bool)

/-- The call raises `e`, and leaves the world `w'`. -/
def Async.Raises (x : Client σ κ) (fuel : Nat) (w : World (Handles σ) κ) (e : PyErr)
    (w' : World (Handles σ) κ) : Async → Prop
  | .basic_recv timeout =>
    fromPython (PyRabbitMQ_Connection_basic_recv x.env fuel timeout) w = (.ret (.error e), w')
  | .basic_get channel queue no_ack =>
    fromPython (PyRabbitMQ_Connection_basic_get x.env fuel channel queue no_ack) w =
      (.ret (.error e), w')
  | .basic_publish channel body exchange routing_key propdict mandatory immediate =>
    fromPython (PyRabbitMQ_Connection_basic_publish x.env x.api.tracked fuel channel body exchange
      routing_key propdict mandatory immediate) w = (.ret (.error e), w')
  | .basic_ack channel delivery_tag multiple =>
    fromPython (PyRabbitMQ_Connection_basic_ack x.env x.api.tracked fuel channel delivery_tag
      multiple) w = (.ret (.error e), w')
  | .basic_reject channel delivery_tag multiple =>
    fromPython (PyRabbitMQ_Connection_basic_reject x.env x.api.tracked fuel channel delivery_tag
      multiple) w = (.ret (.error e), w')

/-- The channel that a call works on: for `_basic_recv`, that of the frame read last. -/
def Async.channel (w' : World (Handles σ) κ) : Async → Option amqp_channel_t
  | .basic_recv _ => w'.reads.getLast?.map amqp_frame_t.channel
  | .basic_get channel _ _ => some (channelNumber channel)
  | .basic_publish channel _ _ _ _ _ _ => some (channelNumber channel)
  | .basic_ack channel _ _ => some (channelNumber channel)
  | .basic_reject channel _ _ => some (channelNumber channel)

/-- Behind a `ChannelError` the connection stays, and the channel is open again. Behind
a `ConnectionError` the connection is closed. -/
structure Tells (w w' : World (Handles σ) κ) (channel : Option amqp_channel_t) (c : ExcClass) :
    Prop where
  channelError : c = .ChannelError → w'.self.connected = true ∧
    ∃ n, channel = some n ∧ Reopened w.self.conn w'.self.conn n
  connectionError : c = .ConnectionError → w'.self.connected = false

def TellsTruth (x : Client σ κ) (w : World (Handles σ) κ) (call : Async) : Prop :=
  ∀ fuel e w', call.Raises x fuel w e w' → Tells w w' (call.channel w') e.cls

/-! ## What a call meets -/

/-- Where a call is when it revives a channel: it reads a content, or it has the reply to
a get, or it has failed to send. -/
inductive Trouble where
  | content
  | reply
  | send
  deriving DecidableEq

/-- What makes a call revive a channel, with the channel and the connection state then. -/
inductive Meets (x : Client σ κ) (w : World (Handles σ) κ) :
    Async → Trouble → amqp_channel_t → Handles σ → Prop
  /-- A `channel.close` among the frames of a delivery. -/
  | delivery {timeout : Rat} {c : amqp_channel_t} {m : amqp_close_t} {s0 s : Handles σ} :
      Starts x.env timeout w s0 → StopsAt x.env (w.setConn s0) false c (.channel_close m) s →
      Meets x w (.basic_recv timeout) .content c s
  /-- A `channel.close` for a reply to the get. -/
  | refusal {channel : Int} {queue : PyObj} {no_ack : Bool} {name : Octets} {m : amqp_close_t}
      {s : Handles σ} :
      IsName queue name →
      x.env.lib.amqp_basic_get w.self.conn (channelNumber channel) name no_ack =
        (.server_exception (.channel_close m), s) →
      Meets x w (.basic_get channel queue no_ack) .reply (channelNumber channel) s
  /-- A `channel.close` in the content behind the get-ok. -/
  | content {channel : Int} {queue : PyObj} {no_ack : Bool} {name : Octets}
      {ok : amqp_basic_get_ok_t} {exchange routing_key : PyStr} {c : amqp_channel_t}
      {m : amqp_close_t} {s0 s : Handles σ} :
      IsName queue name →
      x.env.lib.amqp_basic_get w.self.conn (channelNumber channel) name no_ack =
        (.normal (.basic_get_ok ok), s0) →
      utf8Decode ok.exchange = some exchange → utf8Decode ok.routing_key = some routing_key →
      x.env.lib.amqp_data_in_buffer s0 = true →
      StopsAt x.env (w.setConn s0) true c (.channel_close m) s →
      Meets x w (.basic_get channel queue no_ack) .content c s
  /-- A send that fails. -/
  | publish {channel : Int} {body : Octets} {exchange routing_key : PyObj} {propdict : PyMembers}
      {mandatory immediate : Bool} {exchange_name key : Octets} {props : amqp_basic_properties_t}
      {err : Option PyErr} {status : Int} {s : Handles σ} :
      IsName exchange exchange_name → IsName routing_key key →
      PyDict_to_basic_properties propdict none = .ret (some props, err) →
      x.api.tracked.amqp_basic_publish
        (x.api.tracked.amqp_get_or_create_channel_pool w.self.conn (channelNumber channel)).2
        (channelNumber channel) exchange_name key mandatory immediate props body = (status, s) →
      status < 0 →
      Meets x w (.basic_publish channel body exchange routing_key propdict mandatory immediate) .send
        (channelNumber channel) s
  | ack {channel delivery_tag : Int} {multiple : Bool} {status : Int} {s : Handles σ} :
      FitsLong delivery_tag →
      x.api.tracked.amqp_basic_ack w.self.conn (channelNumber channel)
        (BitVec.ofInt 64 delivery_tag) multiple = (status, s) → status < 0 →
      Meets x w (.basic_ack channel delivery_tag multiple) .send (channelNumber channel) s
  | reject {channel delivery_tag : Int} {multiple : Bool} {status : Int} {s : Handles σ} :
      FitsLong delivery_tag →
      x.api.tracked.amqp_basic_reject w.self.conn (channelNumber channel)
        (BitVec.ofInt 64 delivery_tag) multiple = (status, s) → status < 0 →
      Meets x w (.basic_reject channel delivery_tag multiple) .send (channelNumber channel) s

/-- What the broker must not do then. In a content it must not let the channel be
revived; behind a reply it must not refuse the channel and then let channel 0 be opened;
behind a send that failed it must do neither. -/
def Trouble.Harmless (lib : RabbitMQC σ) (c : amqp_channel_t) (s : σ) : Trouble → Prop
  | .content => ∀ s', ¬ Revives lib c s s'
  | .reply => c ≠ 0 → ∀ s', ¬ Chained lib c s s'
  | .send => (∀ s', ¬ Granted lib c s s') ∧ (c ≠ 0 → ∀ s', ¬ Chained lib c s s')

/-- The call meets nothing behind which the class of its exception is wrong. -/
def Harmless (x : Client σ κ) (w : World (Handles σ) κ) (call : Async) : Prop :=
  ∀ trouble c s, Meets x w call trouble c s → trouble.Harmless x.env.lib c s

/-! ## How a call ends -/

/-- How a call ends behind a revival that is not lost: the class of the exception, and
the connection that is left. -/
inductive Trouble.Ends (lib : RabbitMQC σ) (c : amqp_channel_t) (s : σ) :
    Trouble → ExcClass → Connection σ κ → Prop
  | closed {s' : σ} {object : Connection σ κ} : Revives lib c s s' → object.connected = false →
      Ends lib c s .content .ChannelError object
  | replied {object : Connection σ κ} : Granted lib c s object.conn → object.connected = true →
      Ends lib c s .reply .ChannelError object
  | sent {object : Connection σ κ} : Granted lib c s object.conn → object.connected = true →
      Ends lib c s .send .ConnectionError object
  | chained {trouble : Trouble} {object : Connection σ κ} : trouble ≠ .content →
      Chained lib c s object.conn → object.connected = true →
      Ends lib c s trouble .ChannelError object

section

variable {env : Env σ κ} {w w' : World σ κ} {c : amqp_channel_t} {s s' : σ} {e : PyErr}
  {fuel : Nat}

/-- The exception says that the connection is closed, and it is. -/
def ClosedWith (w : World σ κ) (e : PyErr) : Prop :=
  e.cls = .ConnectionError ∧ w.self.connected = false

theorem lost_closedWith (h : Lost w) (he : w.err = some e) : ClosedWith w e := by
  obtain ⟨e', he', hcls⟩ := h.raises
  rw [he] at he'
  cases he'
  exact ⟨hcls, h.connected⟩

/-- The exception that is pending when a channel is revived. -/
def Trouble.pending : Trouble → ExcClass
  | .send => .ConnectionError
  | _ => .ChannelError

theorem ends_of_revival (trouble : Trouble) {e0 : PyErr} (htrouble : trouble ≠ .content)
    (hpending : e0.cls = trouble.pending) (hconn : w.self.connected = true)
    (hends : RevivalEnds env.lib c ((w.setConn s).setErr (some e0)) w') (he : w'.err = some e) :
    ClosedWith w' e ∨ trouble.Ends env.lib c s e.cls w'.self := by
  generalize hw1 : (w.setConn s).setErr (some e0) = w1 at hends
  cases hends with
  | lost hlost => exact Or.inl (lost_closedWith hlost he)
  | granted hgranted =>
    subst hw1
    cases he
    rw [hpending]
    cases trouble with
    | content => exact absurd rfl htrouble
    | reply => exact Or.inr (.replied hgranted hconn)
    | send => exact Or.inr (.sent hgranted hconn)
  | chained hchained he' =>
    subst hw1
    cases he
    rw [he']
    exact Or.inr (.chained htrouble hchained hconn)

/-- With the fuel to get there a revival does end so. -/
theorem revival_of_revives (trouble : Trouble) (htrouble : trouble ≠ .content)
    (h : Revives env.lib c s s') : ∃ k, ∀ fuel, k < fuel → ∀ (channel : UInt32) (w : World σ κ)
      (e0 : PyErr), channel.toUInt16 = c → w.self.connected = true → e0.cls = trouble.pending →
      ∃ r e w', PyRabbitMQ_revive_channel env fuel channel ((w.setConn s).setErr (some e0)) =
        (.ret r, w') ∧ w'.err = some e ∧ trouble.Ends env.lib c s e.cls w'.self := by
  rcases revives_iff.mp h with hgranted | hchained
  · refine ⟨2, fun fuel hf channel w e0 hc hconn hpending => ?_⟩
    obtain ⟨n, rfl⟩ : ∃ n, fuel = n + 3 := ⟨fuel - 3, by omega⟩
    refine ⟨0, e0, _, revive_granted (w := (w.setConn s).setErr (some e0)) hc hgranted n, rfl, ?_⟩
    rw [hpending]
    cases trouble with
    | content => exact absurd rfl htrouble
    | reply => exact .replied hgranted hconn
    | send => exact .sent hgranted hconn
  · obtain ⟨k, hk⟩ := revive_chained (κ := κ) hchained
    refine ⟨k, fun fuel hf channel w e0 hc hconn _ => ?_⟩
    obtain ⟨r, e, he, hrun⟩ := hk fuel hf channel ((w.setConn s).setErr (some e0)) hc rfl
    refine ⟨r, e, _, hrun, rfl, ?_⟩
    rw [he]
    exact .chained htrouble hchained hconn

/-! ## A content -/

variable {p p' : Option PyMembers} {piggyback : Bool} {n : Int} {timeout : Rat}

/-- A `channel.close` is met, and the channel can be revived. -/
def Revivable (env : Env σ κ) (w : World σ κ) (piggyback : Bool) : Prop :=
  ∃ c m s s', StopsAt env w piggyback c (.channel_close m) s ∧ Revives env.lib c s s'

/-- What is raised behind a run of the machine that failed. -/
theorem failed_raises (hquiet : Quiet w.err)
    (h : PyRabbitMQ_recv env fuel p piggyback w = (.ret (n, p'), w')) (hn : n < 0)
    (he : w'.err.getD badFrame = e) (hamqp : e.OfAmqp) :
    e.cls = .ConnectionError ∨ e.cls = .ChannelError ∧ Revivable env w piggyback := by
  rcases recv_ends hquiet h hn with ⟨c, m, s, w2, hstops, hstate, hrun⟩ | hquiet'
  · rcases altframe_raises hrun with ⟨e', he', hcls⟩ | ⟨⟨e', he', hcls⟩, close, s', rfl, hrevives⟩
    · rw [he', Option.getD_some] at he
      subst he
      exact Or.inl hcls
    · rw [he', Option.getD_some] at he
      subst he
      rw [hstate] at hrevives
      exact Or.inr ⟨hcls, c, close, s, s', hstops, hrevives⟩
  · cases he' : w'.err with
    | none =>
      rw [he'] at he
      subst he
      exact Or.inl rfl
    | some e' =>
      rw [he', Option.getD_some] at he
      subst he
      exact absurd hamqp (hquiet' e' he')

theorem raises_of_revivable (h : Revivable env w piggyback) (p : Option PyMembers) :
    ∃ k, ∀ fuel, k < fuel → ∃ w', PyRabbitMQ_recv env fuel p piggyback w = (.ret (-1, p), w') ∧
      w'.Raises .ChannelError := by
  obtain ⟨c, m, s, s', hstops, hrevives⟩ := h
  obtain ⟨k, w2, hstate, hrecv⟩ := recv_of_stopsAt hstops p
  obtain ⟨k', haltframe⟩ := altframe_of_revives (κ := κ) m hrevives
  refine ⟨max k k', fun fuel hf => ?_⟩
  have hconn : w2.self.conn = s := by rw [hstate]
  obtain ⟨w', hrun, hraises⟩ := haltframe fuel (by omega) w2 hconn p
  refine ⟨w', ?_, hraises⟩
  rw [hrecv fuel (by omega), hrun]

/-- The world that a call leaves behind a run that failed. -/
def wrapped (env : Env σ κ) (w : World σ κ) : World σ κ :=
  (w.setErr (some (w.err.getD badFrame))).closed env

theorem wrapped_err (env : Env σ κ) (w : World σ κ) :
    (wrapped env w).err = some (w.err.getD badFrame) := World.closed_err env _

theorem wrapped_connected (env : Env σ κ) (w : World σ κ) :
    (wrapped env w).self.connected = false := World.closed_connected env _

theorem wrapped_raises (hquiet : Quiet w.err)
    (h : PyRabbitMQ_recv env fuel p piggyback w = (.ret (n, p'), w')) (hn : n < 0)
    (he : (wrapped env w').err = some e) (hamqp : e.OfAmqp) :
    ClosedWith (wrapped env w') e ∨ e.cls = .ChannelError ∧ Revivable env w piggyback := by
  rw [wrapped_err, Option.some.injEq] at he
  rcases failed_raises hquiet h hn he hamqp with hcls | hrevivable
  · exact Or.inl ⟨hcls, wrapped_connected env w'⟩
  · exact Or.inr hrevivable

theorem afterPoll_raises (hquiet : Quiet w.err) (h : afterPoll env fuel w = (.ret none, w'))
    (he : w'.err = some e) (hamqp : e.OfAmqp) :
    ClosedWith w' e ∨ e.cls = .ChannelError ∧ w'.self.connected = false ∧
      Revivable env w false := by
  obtain ⟨⟨n, p'⟩, w1, hrecv, _⟩ := Run.ret_of_bind h
  rw [afterPoll_ret hrecv, wrapUp] at h
  split at h
  · rename_i hn
    cases h
    rcases wrapped_raises hquiet hrecv hn he hamqp with hclosed | ⟨hcls, hrevivable⟩
    · exact Or.inl hclosed
    · exact Or.inr ⟨hcls, wrapped_connected env w1, hrevivable⟩
  · cases h

/-- A run that succeeds leaves a dict. -/
theorem dict_of_get {dict : PyMembers} (h : recvIn env fuel (.get dict) w = (.ret (n, p'), w'))
    (hn : 0 ≤ n) : p' ≠ none := by
  rcases get_run_cases env fuel dict w with
    ⟨d, c, t, pd, w1, fs, body, s, w2, _, _, _, _, hrun⟩ |
    ⟨d, c, t, pd, w1, fs, e, s, w2, _, _, _, _, hrun⟩ | ⟨w1, _, hrun⟩ | hfails
  · rw [hrun] at h
    cases h
    simp
  · rw [hrun] at h
    cases h
    simp
  · rw [hrun] at h
    cases h
    simp
  · have hneg := (hfails.result n p' (by rw [h])).1
    omega

theorem afterReply_raises {dict : PyMembers} (hquiet : Quiet w.err)
    (h : afterReply env fuel dict w = (.ret none, w')) (he : w'.err = some e) (hamqp : e.OfAmqp) :
    ClosedWith w' e ∨ e.cls = .ChannelError ∧ w'.self.connected = false ∧
      Revivable env w true := by
  obtain ⟨⟨n, p'⟩, w1, hrecv, _⟩ := Run.ret_of_bind h
  by_cases hn : n < 0
  · rw [afterReply_failed hrecv hn] at h
    cases h
    rcases wrapped_raises hquiet hrecv hn he hamqp with hclosed | ⟨hcls, hrevivable⟩
    · exact Or.inl hclosed
    · exact Or.inr ⟨hcls, wrapped_connected env w1, hrevivable⟩
  · have hdict := dict_of_get hrecv (by omega)
    rw [afterReply_ok hrecv (by omega)] at h
    cases p' with
    | none => exact absurd rfl hdict
    | some p' => cases h

/-- What `_basic_recv` raises. -/
theorem basic_recv_raises (hconn : w.self.connected = true) (herr : w.err = none)
    (h : PyRabbitMQ_Connection_basic_recv env fuel timeout w = (.ret none, w'))
    (he : w'.err = some e) (hamqp : e.OfAmqp) :
    ClosedWith w' e ∨ e.cls = .ChannelError ∧ w'.self.connected = false ∧
      ∃ s0, Starts env timeout w s0 ∧ Revivable env (w.setConn s0) false := by
  by_cases hp : Polls env timeout w.self.conn
  · obtain ⟨s, hs⟩ := wait_conn env fuel timeout w
    rcases hw : RabbitMQ_WAIT env fuel timeout w with ⟨o, w0⟩
    rw [hw] at hs
    dsimp only at hs
    subst hs
    cases o with
    | ret ready =>
      by_cases hready : 0 < ready
      · rw [basic_recv_polled hconn hp hw hready] at h
        have hquiet : Quiet (w.setConn s).err := by
          intro e' he'
          rw [show (w.setConn s).err = none from herr] at he'
          cases he'
        rcases afterPoll_raises hquiet h he hamqp with hclosed | ⟨hcls, hclosed, hrevivable⟩
        · exact Or.inl hclosed
        · exact Or.inr ⟨hcls, hclosed, s, .polled hconn hp hw hready, hrevivable⟩
      · obtain ⟨err, hrun, herr'⟩ := basic_recv_unready hconn hp hw hready
        rw [hrun] at h
        cases h
        obtain ⟨e', rfl, hcls⟩ := herr' herr
        cases he
        rcases hcls with hcls | hcls <;> simp [PyErr.OfAmqp, hcls] at hamqp
    | crash =>
      rw [basic_recv_polls fuel hconn hp, Run.bind_crash hw] at h
      cases h
    | hang =>
      rw [basic_recv_polls fuel hconn hp, Run.bind_hang hw] at h
      cases h
  · rw [basic_recv_unpolled fuel hconn hp] at h
    have hquiet : Quiet w.err := quiet_of_none herr
    rcases afterPoll_raises hquiet h he hamqp with hclosed | ⟨hcls, hclosed, hrevivable⟩
    · exact Or.inl hclosed
    · exact Or.inr ⟨hcls, hclosed, w.self.conn, .unpolled hconn hp, hrevivable⟩

/-! ## A get -/

theorem basic_get_no_name {channel : Int} {queue : PyObj} {no_ack : Bool} {r : Option PyObj}
    (hconn : w.self.connected = true) (herr : w.err = none) (hname : ∀ name, ¬ IsName queue name)
    (h : PyRabbitMQ_Connection_basic_get env fuel channel queue no_ack w = (.ret r, w')) :
    Quiet w'.err := by
  have hquiet : Quiet w.err := quiet_of_none herr
  unfold PyRabbitMQ_Connection_basic_get at h
  rw [connected_bind hconn] at h
  obtain ⟨o, w1, hqueue, h⟩ := Run.ret_of_bind h
  obtain ⟨err, hret, rfl, hquiet1⟩ :=
    ret_of_withErr (maybeUnicode_keepsQuiet queue hquiet) hqueue
  cases o
  case null =>
    cases h
    exact hquiet1
  case bytes b =>
    rw [herr] at hret
    injection hret with hret
    have hnone := maybeUnicode_err hret
    subst hnone
    exact absurd hret (hname b)
  all_goals
    obtain ⟨_, _, hcrash, _⟩ := Run.ret_of_bind h
    cases hcrash

/-- What a get raises behind its reply. -/
theorem behindCall_raises {channel : UInt32} {reply : amqp_rpc_reply_t}
    (hconn : w.self.connected = true) (herr : w.err = none)
    (h : behindCall env fuel channel reply (w.setConn s) = (.ret none, w'))
    (he : w'.err = some e) (hamqp : e.OfAmqp) :
    ClosedWith w' e ∨
    (∃ m, reply = .server_exception (.channel_close m) ∧
      Trouble.Ends env.lib channel.toUInt16 s .reply e.cls w'.self) ∨
    (∃ ok exchange key, reply = .normal (.basic_get_ok ok) ∧
      utf8Decode ok.exchange = some exchange ∧ utf8Decode ok.routing_key = some key ∧
      env.lib.amqp_data_in_buffer s = true ∧ e.cls = .ChannelError ∧
      w'.self.connected = false ∧ Revivable env (w.setConn s) true) := by
  cases fuel with
  | zero => cases h
  | succ fuel =>
    obtain ⟨r, w1, hhandle, hrest⟩ := Run.ret_of_bind h
    rcases handle_cases hhandle with ⟨m, rfl, rfl, rfl⟩ | ⟨hr, hlost⟩ |
      ⟨hr, m, e0, r', k, rfl, he0, _, hrevive⟩
    · rw [if_neg (by decide)] at hrest
      cases m with
      | basic_get_ok ok =>
        cases hexchange : utf8Decode ok.exchange with
        | none =>
          rw [behindCall_crash (Or.inl hexchange)] at h
          cases h
        | some exchange =>
          cases hkey : utf8Decode ok.routing_key with
          | none =>
            rw [behindCall_crash (Or.inr hkey)] at h
            cases h
          | some key =>
            rw [behindCall_ok hexchange hkey] at h
            cases hdata : env.lib.amqp_data_in_buffer s with
            | false =>
              rw [show (w.setConn s).self.conn = s from rfl, hdata] at h
              cases h
            | true =>
              rw [show (w.setConn s).self.conn = s from rfl, hdata, if_pos rfl] at h
              have hquiet : Quiet (w.setConn s).err := quiet_of_none herr
              rcases afterReply_raises hquiet h he hamqp with hclosed | ⟨hcls, hclosed, hrevivable⟩
              · exact Or.inl hclosed
              · exact Or.inr (Or.inr ⟨ok, exchange, key, rfl, hexchange, hkey, rfl, hcls, hclosed,
                  hrevivable⟩)
      | channel_close m => cases hrest
      | connection_close m => cases hrest
      | basic_deliver m => cases hrest
      | other id => cases hrest
    · rw [if_pos hr] at hrest
      cases hrest
      exact Or.inl (lost_closedWith hlost he)
    · rw [if_pos hr] at hrest
      cases hrest
      have hends := revive_ends env k hrevive
      rcases ends_of_revival .reply (by decide) he0 hconn hends he with
        hclosed | hends
      · exact Or.inl hclosed
      · exact Or.inr (Or.inl ⟨m, rfl, hends⟩)

/-! ## A send -/

theorem send_raises {api : RabbitMQApi σ} {channel : Int} {context : String}
    {send : σ → amqp_channel_t → Int × σ} (hconn : w.self.connected = true)
    (h : sendMethod env api fuel channel context send w = (.ret none, w')) (he : w'.err = some e) :
    ClosedWith w' e ∨ ∃ status s, send w.self.conn (channelNumber channel) = (status, s) ∧
      status < 0 ∧ Trouble.Ends env.lib (channelNumber channel) s .send e.cls w'.self := by
  obtain ⟨status, s, e0, hs, hfailed, he0, hends⟩ := sendMethod_raises h
  rcases ends_of_revival .send (by decide) he0 hconn hends he with hclosed | hends
  · exact Or.inl hclosed
  · exact Or.inr ⟨status, s, hs, hfailed, hends⟩

/-- The two methods with a delivery tag, whose range is checked first. -/
theorem tag_raises {api : RabbitMQApi σ} {channel delivery_tag : Int} {context : String}
    {sendTag : σ → amqp_channel_t → BitVec 64 → Int × σ} (hconn : w.self.connected = true)
    (h : tagMethod env api fuel channel delivery_tag context sendTag w = (.ret none, w'))
    (he : w'.err = some e) (hamqp : e.OfAmqp) :
    ClosedWith w' e ∨ FitsLong delivery_tag ∧ ∃ status s,
      sendTag w.self.conn (channelNumber channel) (BitVec.ofInt 64 delivery_tag) = (status, s) ∧
      status < 0 ∧ Trouble.Ends env.lib (channelNumber channel) s .send e.cls w'.self := by
  by_cases hfits : FitsLong delivery_tag
  · rw [tagMethod_fits hconn hfits] at h
    rcases send_raises hconn h he with hclosed | hsend
    · exact Or.inl hclosed
    · exact Or.inr ⟨hfits, hsend⟩
  · rw [tagMethod_unfit hconn hfits] at h
    cases h
    cases he
    exact absurd hamqp (by simp [PyErr.OfAmqp, PyErr.raised])

end

/-! ## Every call -/

variable {x : Client σ κ} {w w' : World (Handles σ) κ} {call : Async} {fuel : Nat} {e : PyErr}

/-- What CPython raises of its own is no exception of AMQP. -/
theorem checkResult_error {α : Type} {o : Option α} {err : Option PyErr}
    (h : checkResult o err = .error e) (hamqp : e.OfAmqp) : o = none ∧ err = some e := by
  cases o with
  | none =>
    cases err with
    | none =>
      cases h
      simp [PyErr.OfAmqp] at hamqp
    | some e' =>
      cases h
      exact ⟨rfl, rfl⟩
  | some a =>
    cases err with
    | none => cases h
    | some e' =>
      cases h
      simp [PyErr.OfAmqp] at hamqp

/-- An exception of AMQP is one that the call has set. -/
theorem none_of_raises {α : Type} {y : Run (World (Handles σ) κ) (Option α)}
    (h : fromPython y w = (.ret (.error e), w')) (hamqp : e.OfAmqp) :
    ∃ w1, y w = (.ret none, w1) ∧ w1.err = some e ∧ w'.self = w1.self := by
  obtain ⟨o, w1, hy, hr, rfl⟩ := ret_of_fromPython h
  obtain ⟨rfl, he⟩ := checkResult_error hr.symm hamqp
  exact ⟨w1, hy, he, rfl⟩

theorem raises_of_none {α : Type} {y : Run (World (Handles σ) κ) (Option α)}
    (h : y w = (.ret none, w')) (he : w'.err = some e) :
    fromPython y w = (.ret (.error e), w'.setErr none) := by
  rw [from_python_ret h, he]
  rfl

/-- The exception says that the connection is closed, and it is; or the call has met
what makes it revive a channel. -/
def Explained (x : Client σ κ) (w : World (Handles σ) κ) (call : Async) (e : PyErr)
    (object : Connection (Handles σ) κ) : Prop :=
  (e.cls = .ConnectionError ∧ object.connected = false) ∨ ∃ trouble c s,
    Meets x w call trouble c s ∧ trouble.Ends x.env.lib c s e.cls object

theorem explained (hconn : w.self.connected = true) (herr : w.err = none)
    (h : call.Raises x fuel w e w') (hamqp : e.OfAmqp) : Explained x w call e w'.self := by
  cases call with
  | basic_recv timeout =>
    obtain ⟨w1, hrun, he, hself⟩ := none_of_raises h hamqp
    rw [hself]
    rcases basic_recv_raises hconn herr hrun he hamqp with hclosed |
      ⟨hcls, hclosed, s0, hstarts, c, m, s, s', hstops, hrevives⟩
    · exact Or.inl hclosed
    · refine Or.inr ⟨.content, c, s, .delivery hstarts hstops, ?_⟩
      rw [hcls]
      exact .closed hrevives hclosed
  | basic_get channel queue no_ack =>
    obtain ⟨w1, hrun, he, hself⟩ := none_of_raises h hamqp
    rw [hself]
    by_cases hnamed : ∃ name, IsName queue name
    · obtain ⟨name, hname⟩ := hnamed
      rcases hreply : x.env.lib.amqp_basic_get w.self.conn (channelNumber channel) name no_ack with
        ⟨reply, s0⟩
      rw [basic_get_of_name hconn herr hname hreply] at hrun
      rcases behindCall_raises hconn herr hrun he hamqp with hclosed | ⟨m, rfl, hends⟩ |
        ⟨ok, exchange, key, rfl, hexchange, hkey, hdata, hcls, hclosed, c, m, s, s', hstops,
          hrevives⟩
      · exact Or.inl hclosed
      · exact Or.inr ⟨.reply, _, s0, .refusal hname hreply, hends⟩
      · refine Or.inr ⟨.content, c, s, .content hname hreply hexchange hkey hdata hstops, ?_⟩
        rw [hcls]
        exact .closed hrevives hclosed
    · have hquiet := basic_get_no_name hconn herr (fun name hname => hnamed ⟨name, hname⟩) hrun
      exact absurd hamqp (hquiet e he)
  | basic_publish channel body exchange routing_key propdict mandatory immediate =>
    obtain ⟨w1, hrun, he, hself⟩ := none_of_raises h hamqp
    rw [hself]
    rcases publish_cases hconn herr hrun with hquiet |
      ⟨exchange_name, key, props, err, hexchange, hkey, hprops⟩
    · exact absurd hamqp (hquiet e he)
    · rw [publish_of_names hconn herr hexchange hkey hprops] at hrun
      generalize hw0 : (w.setConn _).setErr err = w0 at hrun
      have hconn0 : w0.self.connected = true := by
        rw [← hw0]
        exact hconn
      rcases send_raises hconn0 hrun he with hclosed | ⟨status, s, hs, hfailed, hends⟩
      · exact Or.inl hclosed
      · rw [← hw0] at hs
        exact Or.inr ⟨.send, _, s, .publish hexchange hkey hprops hs hfailed, hends⟩
  | basic_ack channel delivery_tag multiple =>
    obtain ⟨w1, hrun, he, hself⟩ := none_of_raises h hamqp
    rw [hself]
    rcases tag_raises hconn hrun he hamqp with hclosed | ⟨hfits, status, s, hs, hfailed, hends⟩
    · exact Or.inl hclosed
    · exact Or.inr ⟨.send, _, s, .ack hfits hs hfailed, hends⟩
  | basic_reject channel delivery_tag multiple =>
    obtain ⟨w1, hrun, he, hself⟩ := none_of_raises h hamqp
    rw [hself]
    rcases tag_raises hconn hrun he hamqp with hclosed | ⟨hfits, status, s, hs, hfailed, hends⟩
    · exact Or.inl hclosed
    · exact Or.inr ⟨.send, _, s, .reject hfits hs hfailed, hends⟩

/-! ## Behind what is met -/

theorem wrapped_channelError (env : Env σ κ) {w : World σ κ} (h : w.Raises .ChannelError) :
    ∃ e, (wrapped env w).err = some e ∧ e.cls = .ChannelError := by
  obtain ⟨e, he, hcls⟩ := h
  refine ⟨e, ?_, hcls⟩
  rw [wrapped_err, he]
  rfl

/-- A send that fails, and what is raised behind its revival. -/
theorem send_of_revives {env : Env σ κ} {w : World σ κ} {channel : Int} (api : RabbitMQApi σ)
    (context : String) (send : σ → amqp_channel_t → Int × σ) {status : Int} {s s' : σ}
    (hconn : w.self.connected = true)
    (hs : send w.self.conn (channelNumber channel) = (status, s)) (hfailed : status < 0)
    (hrevives : Revives env.lib (channelNumber channel) s s') :
    ∃ fuel e w', sendMethod env api fuel channel context send w = (.ret none, w') ∧
      w'.err = some e ∧ Trouble.Ends env.lib (channelNumber channel) s .send e.cls w'.self := by
  obtain ⟨e0, he0, hsend⟩ := sendMethod_failed env api context hs hfailed
  obtain ⟨k, hk⟩ := revival_of_revives (κ := κ) .send (by decide) hrevives
  obtain ⟨r, e, w', hrun, he, hends⟩ := hk (k + 1) (by omega) (parseUnsigned channel) w e0 rfl
    hconn he0
  refine ⟨k + 1, e, w', ?_, he, hends⟩
  rw [hsend, Run.bind_ret hrun]
  rfl

theorem tag_of_revives {env : Env σ κ} {w : World σ κ} {channel delivery_tag : Int}
    (api : RabbitMQApi σ) (context : String) (sendTag : σ → amqp_channel_t → BitVec 64 → Int × σ)
    {status : Int} {s s' : σ} (hconn : w.self.connected = true) (hfits : FitsLong delivery_tag)
    (hs : sendTag w.self.conn (channelNumber channel) (BitVec.ofInt 64 delivery_tag) = (status, s))
    (hfailed : status < 0) (hrevives : Revives env.lib (channelNumber channel) s s') :
    ∃ fuel e w', tagMethod env api fuel channel delivery_tag context sendTag w =
        (.ret none, w') ∧
      w'.err = some e ∧ Trouble.Ends env.lib (channelNumber channel) s .send e.cls w'.self := by
  obtain ⟨fuel, e, w', hsend, he, hends⟩ := send_of_revives api context
    (fun s c => sendTag s c (BitVec.ofInt 64 delivery_tag)) hconn hs hfailed hrevives
  refine ⟨fuel, e, w', ?_, he, hends⟩
  rw [tagMethod_fits hconn hfits, hsend]

/-- Every call that meets something behind which the channel can be revived ends so. -/
theorem ends_of_meets {trouble : Trouble} {c : amqp_channel_t} {s s' : Handles σ}
    (hconn : w.self.connected = true) (herr : w.err = none) (h : Meets x w call trouble c s)
    (hrevives : Revives x.env.lib c s s') :
    ∃ fuel e w', call.Raises x fuel w e w' ∧ trouble.Ends x.env.lib c s e.cls w'.self := by
  cases h with
  | @delivery timeout c m s0 s hstarts hstops =>
    obtain ⟨k, hk⟩ := basic_recv_of_starts hstarts
    obtain ⟨k', hk'⟩ := raises_of_revivable ⟨c, m, s, s', hstops, hrevives⟩ none
    obtain ⟨w1, hrecv, hraises⟩ := hk' (max k k' + 1) (by omega)
    obtain ⟨e, he, hcls⟩ := wrapped_channelError x.env hraises
    have hrun : PyRabbitMQ_Connection_basic_recv x.env (max k k' + 1) timeout w =
        (.ret none, wrapped x.env w1) := by
      rw [hk _ (by omega), afterPoll_ret hrecv, wrapUp, if_pos (by decide)]
      rfl
    refine ⟨_, e, _, raises_of_none hrun he, ?_⟩
    rw [hcls]
    exact .closed hrevives (wrapped_connected x.env w1)
  | @refusal channel queue no_ack name m s hname hreply =>
    obtain ⟨e0, he0, hclose⟩ := handle_close x.env m "basic.get"
    obtain ⟨k, hk⟩ := revival_of_revives .reply (by decide) hrevives
    obtain ⟨r, e, w', hrevive, he, hends⟩ := hk (k + 1) (by omega) (parseUnsigned channel) w e0 rfl
      hconn he0
    have hrun : PyRabbitMQ_Connection_basic_get x.env (k + 1 + 1) channel queue no_ack w =
        (.ret none, w') := by
      rw [basic_get_of_name hconn herr hname hreply]
      unfold behindCall
      rw [Run.bind_ret (hclose _ _ hrevive), if_pos (by decide)]
      rfl
    exact ⟨_, e, _, raises_of_none hrun he, hends⟩
  | @content channel queue no_ack name ok exchange key c m s0 s hname hreply hexchange hkey hdata
      hstops =>
    obtain ⟨k, hk⟩ := raises_of_revivable ⟨c, m, s, s', hstops, hrevives⟩
      (some (replied ok exchange key))
    obtain ⟨w1, hrecv, hraises⟩ := hk (k + 1) (by omega)
    obtain ⟨e, he, hcls⟩ := wrapped_channelError x.env hraises
    have hrun : PyRabbitMQ_Connection_basic_get x.env (k + 1) channel queue no_ack w =
        (.ret none, wrapped x.env w1) := by
      rw [basic_get_of_name hconn herr hname hreply, behindCall_ok hexchange hkey,
        show (w.setConn s0).self.conn = s0 from rfl, hdata, if_pos rfl,
        afterReply_failed hrecv (by decide)]
      rfl
    refine ⟨_, e, _, raises_of_none hrun he, ?_⟩
    rw [hcls]
    exact .closed hrevives (wrapped_connected x.env w1)
  | @publish channel body exchange routing_key propdict mandatory immediate exchange_name key props
      err status s hexchange hkey hprops hs hfailed =>
    obtain ⟨fuel, e, w', hsend, he, hends⟩ := send_of_revives
      (w := (w.setConn (x.api.tracked.amqp_get_or_create_channel_pool w.self.conn
        (channelNumber channel)).2).setErr err) x.api.tracked "basic.publish"
      (fun s c => x.api.tracked.amqp_basic_publish s c exchange_name key mandatory immediate props
        body) hconn hs hfailed hrevives
    have hrun : PyRabbitMQ_Connection_basic_publish x.env x.api.tracked fuel channel body exchange
        routing_key propdict mandatory immediate w = (.ret none, w') := by
      rw [publish_of_names hconn herr hexchange hkey hprops, hsend]
    exact ⟨fuel, e, _, raises_of_none hrun he, hends⟩
  | @ack channel delivery_tag multiple status s hfits hs hfailed =>
    obtain ⟨fuel, e, w', hrun, he, hends⟩ := tag_of_revives x.api.tracked "basic.ack"
      (fun s c tag => x.api.tracked.amqp_basic_ack s c tag multiple) hconn hfits hs hfailed hrevives
    exact ⟨fuel, e, _, raises_of_none hrun he, hends⟩
  | @reject channel delivery_tag multiple status s hfits hs hfailed =>
    obtain ⟨fuel, e, w', hrun, he, hends⟩ := tag_of_revives x.api.tracked "basic.reject"
      (fun s c tag => x.api.tracked.amqp_basic_reject s c tag multiple) hconn hfits hs hfailed
      hrevives
    exact ⟨fuel, e, _, raises_of_none hrun he, hends⟩

/-! ## The law from what is met -/

/-- Behind a reply or a send only the handle of the connection has moved on. -/
theorem meets_state {trouble : Trouble} {c : amqp_channel_t} {s : Handles σ}
    (h : Meets x w call trouble c s) (htrouble : trouble ≠ .content) :
    (∀ w' : World (Handles σ) κ, call.channel w' = some c) ∧
      ∃ events st, s = w.self.conn.note events st := by
  cases h with
  | delivery => exact absurd rfl htrouble
  | content => exact absurd rfl htrouble
  | refusal hname hreply => exact ⟨fun _ => rfl, _, _, (congrArg Prod.snd hreply).symm⟩
  | publish hexchange hkey hprops hs hfailed =>
    cases hs
    exact ⟨fun _ => rfl, _, _, Handles.note_note _ _ _ _ _⟩
  | ack hfits hs hfailed =>
    cases hs
    exact ⟨fun _ => rfl, _, _, rfl⟩
  | reject hfits hs hfailed =>
    cases hs
    exact ⟨fun _ => rfl, _, _, rfl⟩

theorem tells_of_ends {trouble : Trouble} {c : amqp_channel_t} {s : Handles σ}
    {cls : ExcClass} (h : Meets x w call trouble c s) (hharmless : trouble.Harmless x.env.lib c s)
    (hends : trouble.Ends x.env.lib c s cls w'.self) : Tells w w' (call.channel w') cls := by
  cases hends with
  | closed hrevives _ => exact absurd hrevives (hharmless _)
  | sent hgranted _ => exact absurd hgranted (hharmless.1 _)
  | replied hgranted hconn =>
    obtain ⟨hchannel, events, st, rfl⟩ := meets_state h (by decide)
    have htracked : Granted x.lib.tracked c _ w'.self.conn := hgranted
    have hreopens := htracked.reopens
    refine ⟨fun _ => ⟨hconn, c, hchannel w', hreopens.of_note.reopened⟩, ?_⟩
    rintro ⟨⟩
  | chained htrouble hchained hconn =>
    obtain ⟨hchannel, events, st, rfl⟩ := meets_state h htrouble
    have hzero : c = 0 := by
      by_contra hc
      cases trouble with
      | content => exact htrouble rfl
      | reply => exact hharmless hc _ hchained
      | send => exact hharmless.2 hc _ hchained
    have htracked : Chained x.lib.tracked c _ w'.self.conn := hchained
    have hreopens := htracked.reopens
    refine ⟨fun _ => ⟨hconn, 0, ?_, hreopens.of_note.reopened⟩, ?_⟩
    · rw [hchannel, hzero]
    · rintro ⟨⟩

theorem ends_of_tells {trouble : Trouble} {c : amqp_channel_t} {s : Handles σ}
    {cls : ExcClass} (h : Meets x w call trouble c s)
    (hends : trouble.Ends x.env.lib c s cls w'.self)
    (htells : Tells w w' (call.channel w') cls) :
    (trouble = .reply ∧ Granted x.env.lib c s w'.self.conn) ∨
      (trouble ≠ .content ∧ c = 0 ∧ Chained x.env.lib c s w'.self.conn) := by
  cases hends with
  | closed hrevives hclosed =>
    obtain ⟨hconn, _⟩ := htells.channelError rfl
    rw [hclosed] at hconn
    cases hconn
  | sent hgranted hconn =>
    have hclosed := htells.connectionError rfl
    rw [hconn] at hclosed
    cases hclosed
  | replied hgranted hconn => exact Or.inl ⟨rfl, hgranted⟩
  | chained htrouble hchained hconn =>
    obtain ⟨hchannel, events, st, rfl⟩ := meets_state h htrouble
    obtain ⟨_, n, hn, hreopened⟩ := htells.channelError rfl
    have htracked : Chained x.lib.tracked c _ w'.self.conn := hchained
    have hreopens := htracked.reopens
    rw [hchannel] at hn
    cases hn
    exact Or.inr ⟨htrouble, hreopened.unique hreopens.of_note.reopened, hchained⟩

/-- The class of an exception tells what is left exactly when the call meets nothing
behind which it does not: a content that is closed makes the connection close, a refusal
lets channel 0 be opened in the place of the channel, and behind a send that failed the
connection stays. -/
theorem the_class_tells_the_truth_exactly_when_nothing_is_revived_behind_it (x : Client σ κ)
    (w : World (Handles σ) κ) (call : Async) (hconn : w.self.connected = true)
    (herr : w.err = none) : TellsTruth x w call ↔ Harmless x w call := by
  constructor
  · intro htells trouble c s hmeets
    have hcases : ∀ {s'}, Revives x.env.lib c s s' →
        (trouble = .reply ∧ ∃ s', Granted x.env.lib c s s') ∨
          (trouble ≠ .content ∧ c = 0 ∧ ∃ s', Chained x.env.lib c s s') := by
      intro s' hrevives
      obtain ⟨fuel, e, w', hraises, hends⟩ := ends_of_meets hconn herr hmeets hrevives
      rcases ends_of_tells hmeets hends (htells fuel e w' hraises) with ⟨htrouble, hgranted⟩ |
        ⟨htrouble, hc, hchained⟩
      · exact Or.inl ⟨htrouble, _, hgranted⟩
      · exact Or.inr ⟨htrouble, hc, _, hchained⟩
    have hchain : trouble ≠ .content → c ≠ 0 → ∀ s', ¬ Chained x.env.lib c s s' := by
      intro htrouble hc s' hchained
      rcases hcases (revives_iff.mpr (Or.inr hchained)) with ⟨_, s'', hgranted⟩ | ⟨_, hzero, _⟩
      · exact granted_not_chained hgranted hchained
      · exact hc hzero
    cases trouble with
    | content =>
      intro s' hrevives
      rcases hcases hrevives with ⟨htrouble, _⟩ | ⟨htrouble, _⟩
      · cases htrouble
      · exact htrouble rfl
    | reply => exact hchain (by decide)
    | send =>
      refine ⟨fun s' hgranted => ?_, hchain (by decide)⟩
      rcases hcases (.granted hgranted) with ⟨htrouble, _⟩ | ⟨_, _, s'', hchained⟩
      · cases htrouble
      · exact granted_not_chained hgranted hchained
  · intro hharmless fuel e w' hraises
    by_cases hamqp : e.OfAmqp
    · rcases explained hconn herr hraises hamqp with ⟨hcls, hclosed⟩ |
        ⟨trouble, c, s, hmeets, hends⟩
      · refine ⟨fun hcls' => ?_, fun _ => hclosed⟩
        rw [hcls] at hcls'
        cases hcls'
      · exact tells_of_ends hmeets (hharmless trouble c s hmeets) hends
    · exact ⟨fun hcls => absurd (Or.inl hcls) hamqp, fun hcls => absurd (Or.inr hcls) hamqp⟩

/-- The broker answers a get with a `channel.close`, and opens the channel again. -/
def refusing : Client Unit Unit :=
  Answers.client { request := .server_exception (.channel_close ⟨404, []⟩) }

/-- The `ChannelError` of the get comes with a connection that stays and an open channel. -/
theorem a_get_that_is_refused_tells_the_truth :
    TellsTruth refusing (World.online () : World (Handles Unit) Unit) (.basic_get 1 (.str []) false) ∧
    ∃ e w', Async.Raises refusing 5 (World.online () : World (Handles Unit) Unit) e w'
      (.basic_get 1 (.str []) false) ∧ e.cls = .ChannelError := by
  refine ⟨(the_class_tells_the_truth_exactly_when_nothing_is_revived_behind_it _ _ _ rfl rfl).mpr
    ?_, _, _, Prod.ext rfl rfl, rfl⟩
  intro trouble c s hmeets
  cases hmeets with
  | refusal hname hreply =>
    -- the open is not refused
    rintro - s' ⟨s1, hrefused, -⟩
    obtain ⟨-, -, hopen⟩ := hrefused
    have hclose := congrArg Prod.fst hopen
    cases hclose
  | content hname hreply =>
    cases hreply

/-- The broker closes the channel between two deliveries and opens it again: the
`ChannelError` comes with a connection that is closed. An ack is not sent, and the broker
opens the channel again: the `ConnectionError` comes with a connection that stays. -/
theorem a_channel_that_is_revived_makes_the_class_lie :
    ¬ TellsTruth (Answers.client { wait := .ok ⟨1, .method (.channel_close ⟨404, []⟩)⟩ })
      (World.online () : World (Handles Unit) Unit) (.basic_recv 0) ∧
    ¬ TellsTruth (Answers.client { send := -1 })
      (World.online () : World (Handles Unit) Unit) (.basic_ack 1 7 false) := by
  constructor
  · intro htells
    have hraises : Async.Raises (Answers.client { wait := .ok ⟨1, .method (.channel_close ⟨404, []⟩)⟩ })
        5 (World.online () : World (Handles Unit) Unit) _ _ (.basic_recv 0) :=
      Prod.ext rfl rfl
    obtain ⟨hconn, _⟩ := (htells 5 _ _ hraises).channelError rfl
    cases hconn
  · intro htells
    have hraises : Async.Raises (Answers.client { send := -1 })
        5 (World.online () : World (Handles Unit) Unit) _ _ (.basic_ack 1 7 false) :=
      Prod.ext rfl rfl
    have hclosed := (htells 5 _ _ hraises).connectionError rfl
    cases hclosed

end librabbitmq.truthful
