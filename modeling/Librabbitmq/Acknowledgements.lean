-- The acknowledgements. A message is acked and rejected on the channel that brought it, with the
-- delivery tag that the broker gave it there, whatever the program has called in between.
import Librabbitmq.ChannelNumbers
import Librabbitmq.IntegerArguments
import Librabbitmq.Isolation
import Librabbitmq.Republishing

namespace librabbitmq

variable {σ κ : Type}

/-! ## `Message` -/

/-- `n` of `PyArg_ParseTuple` behind the check of the connection. A `bool` is an integer. -/
def tagMethod.parsed (method : Int → Run (World σ κ) (Option PyObj)) :
    PyObj → Run (World σ κ) (Option PyObj)
  | .int n => method n
  | .bool b => method b.toInt
  | _ => do
    if ← PyRabbitMQ_Not_Connected then return none
    PyErr_SetString (.raised .TypeError)
    return none

section

variable (env : Env σ κ) (api : RabbitMQApi σ) (fuel : Nat)

def Channel.basic_ack (self : Nat) (delivery_tag : PyObj) (multiple : Bool) :
    Run (World σ κ) (Except PyErr PyObj) := do
  let w ← Run.get
  fromPython (tagMethod.parsed (fun n => PyRabbitMQ_Connection_basic_ack env api fuel
    (w.self.objects self).channel_id n multiple) delivery_tag)

def Channel.basic_reject (self : Nat) (delivery_tag : PyObj) (requeue : Bool) :
    Run (World σ κ) (Except PyErr PyObj) := do
  let w ← Run.get
  fromPython (tagMethod.parsed (fun n => PyRabbitMQ_Connection_basic_reject env api fuel
    (w.self.objects self).channel_id n requeue) delivery_tag)

/-- `self.delivery_info['delivery_tag']`. -/
def Message.delivery_tag (self : Message) : Except PyErr PyObj :=
  match self.delivery_info with
  | .dict info => match info.lookup (.str (pyStr "delivery_tag")) with
    | some delivery_tag => .ok delivery_tag
    | none => .error (.raised .KeyError)
  | _ => .error (.raised .TypeError)

def Message.ack (self : Message) : Run (World σ κ) (Except PyErr PyObj) :=
  match self.delivery_tag with
  | .ok delivery_tag => Channel.basic_ack env api fuel self.channel delivery_tag false
  | .error e => return .error e

def Message.reject (self : Message) : Run (World σ κ) (Except PyErr PyObj) :=
  match self.delivery_tag with
  | .ok delivery_tag => Channel.basic_reject env api fuel self.channel delivery_tag true
  | .error e => return .error e

end

end librabbitmq

namespace librabbitmq.acknowledgements

open drain delivery sending recv_run basic_get isolation channel_numbers

variable {σ κ : Type}

/-! ## The law -/

/-- A wait on a channel gives frames of that channel, and no `basic.deliver` comes on channel 0. -/
structure Channelled (lib : RabbitMQC σ) : Prop where
  on_channel : OnChannel lib
  deliver : ∀ s f s', lib.amqp_simple_wait_frame s = (.ok f, s') → IsDeliver f → f.channel ≠ 0

/-- The connections that a program comes to. A callback runs in the middle of a call, when the
connection state has moved and the tables have not. -/
inductive Leads (x : Client σ κ) (app : Application σ κ) (start : Connection (Handles σ) κ) :
    Connection (Handles σ) κ → Prop
  | refl : Leads x app start start
  | call {w : World (Handles σ) κ} (fuel depth : Nat) (op : Op κ) : Leads x app start w.self →
      Leads x app start ((x.running app fuel depth).exec fuel op w).2.self
  | get {w : World (Handles σ) κ} (fuel depth self : Nat) (queue : PyObj) (no_ack : Bool) :
      Leads x app start w.self → Leads x app start
        (Channel.basic_get (x.running app fuel depth).env fuel self queue no_ack w).2.self
  | callback {self : Connection (Handles σ) κ} (conn : Handles σ) : Leads x app start self →
      Leads x app start { self with conn := conn }

/-- A call hands one request to the library, on the channel of this number. If the library
refuses it, the channel is revived with a `ConnectionError` pending. That is what is raised, or
the `ConnectionError` of a revival that lost the connection; a revival that a `channel.close` has
answered raises a `ChannelError`. -/
inductive Requests (env : Env σ κ) (channel : Int) (send : σ → amqp_channel_t → Int × σ)
    (y : Nat → Run (World σ κ) (Except PyErr PyObj)) (w : World σ κ) : Prop
  | taken {status : Int} {s : σ} : send w.self.conn (channelNumber channel) = (status, s) →
      0 ≤ status → (∀ fuel, y fuel w = (.ret (.ok .none), w.setConn s)) →
      Requests env channel send y w
  | refused {status : Int} {s : σ} {e : PyErr} :
      send w.self.conn (channelNumber channel) = (status, s) → status < 0 →
      e.cls = .ConnectionError →
      (∀ fuel, y fuel w = fromPython (do
        let _ ← PyRabbitMQ_revive_channel env fuel (parseUnsigned channel)
        return none) ((w.setConn s).setErr (some e))) →
      (∀ fuel r w', y fuel w = (.ret r, w') → ∃ e' : PyErr, r = .error e' ∧
        (e'.cls = .ConnectionError ∨
          e'.cls = .ChannelError ∧ ∃ s', Chained env.lib (channelNumber channel) s s')) →
      Requests env channel send y w

/-- A call on a connection that is not up sends nothing. -/
def Refuses (y : Nat → Run (World σ κ) (Except PyErr PyObj)) (w : World σ κ) : Prop :=
  ∀ fuel, y fuel w =
    (.ret (.error ⟨.ConnectionError, "Operation on closed connection", []⟩), w)

/-- Wherever the program goes from here, `ack` and `reject` of the message send this tag on this
channel, if the connection is up there. -/
def Settles (x : Client σ κ) (app : Application σ κ) (start : Connection (Handles σ) κ)
    (message : Message) (channel : Int) (delivery_tag : BitVec 64) : Prop :=
  ∀ w : World (Handles σ) κ, Leads x app start w.self → w.err = none →
    (w.self.connected = true →
      Requests x.env channel (fun s c => x.api.tracked.amqp_basic_ack s c delivery_tag false)
        (fun fuel => message.ack x.env x.api.tracked fuel) w ∧
      Requests x.env channel (fun s c => x.api.tracked.amqp_basic_reject s c delivery_tag true)
        (fun fuel => message.reject x.env x.api.tracked fuel) w) ∧
    (w.self.connected = false →
      Refuses (fun fuel => message.ack x.env x.api.tracked fuel) w ∧
      Refuses (fun fuel => message.reject x.env x.api.tracked fuel) w)

/-! ## The tables of a program -/

theorem filed_new (st : σ) (channel_max frame_max heartbeat : Int) :
    Filed (World.new st channel_max frame_max heartbeat : World (Handles σ) κ).self := by
  intro k a h
  cases h

theorem Channel_basic_get_keeps {env : Env σ κ} (hinvoke : InvokesAlong Kept env) (fuel self : Nat)
    (queue : PyObj) (no_ack : Bool) : Along Kept (Channel.basic_get env fuel self queue no_ack) := by
  have hget : ∀ n, Along Kept (PyRabbitMQ_Connection_basic_get env fuel n queue no_ack) := by
    intro n
    rw [← basic_get_noting_nothing]
    exact basic_get_along tabular_kept hinvoke (along_pure tabular_kept ()) fuel n queue no_ack
  unfold Channel.basic_get
  refine along_get tabular_kept fun w => ?_
  refine (fromPython_along tabular_kept (hget _)).bind tabular_kept fun r => ?_
  split
  case h_3 => split <;> exact along_pure tabular_kept _
  all_goals exact along_pure tabular_kept _

theorem leads_kept {x : Client σ κ} {app : Application σ κ}
    {start self : Connection (Handles σ) κ} (h : Leads x app start self) : Kept start self := by
  induction h with
  | refl => exact tabular_kept.same ⟨rfl, rfl, rfl, rfl⟩
  | @call w fuel depth op _ ih =>
    exact tabular_kept.trans ih (exec_keeps (running_keeps x app fuel depth) fuel op w)
  | @get w fuel depth self queue no_ack _ ih =>
    exact tabular_kept.trans ih
      (Channel_basic_get_keeps (running_keeps x app fuel depth) fuel self queue no_ack w)
  | callback conn _ ih => exact tabular_kept.trans ih (tabular_kept.same ⟨rfl, rfl, rfl, rfl⟩)

theorem Leads.filed {x : Client σ κ} {app : Application σ κ} {st : σ}
    {channel_max frame_max heartbeat : Int} {self : Connection (Handles σ) κ}
    (h : Leads x app (World.new st channel_max frame_max heartbeat).self self) : Filed self :=
  (leads_kept h).filed (filed_new st channel_max frame_max heartbeat)

theorem Leads.calls {x : Client σ κ} {app : Application σ κ} {start : Connection (Handles σ) κ}
    {fuel depth : Nat} {ops : List (Op κ)} : ∀ {w : World (Handles σ) κ},
    Leads x app start w.self →
      Leads x app start ((x.running app fuel depth).execAll fuel ops w).2.self := by
  induction ops with
  | nil => exact fun h => h
  | cons op ops ih =>
    intro w h
    have hstep := h.call fuel depth op
    unfold Client.execAll
    rw [Run.bind_apply]
    rcases hrun : (x.running app fuel depth).exec fuel op w with ⟨o, w1⟩
    rw [hrun] at hstep
    cases o with
    | ret _ => exact ih hstep
    | crash => exact hstep
    | hang => exact hstep

/-! ## What goes out -/

section

variable {env : Env σ κ} {api : RabbitMQApi σ} {w : World σ κ} {message : Message}
  {delivery_tag : BitVec 64} {channel : Int}

/-- What a call sends is what the call that it makes sends. -/
theorem Requests.of_eq {send : σ → amqp_channel_t → Int × σ}
    {y y' : Nat → Run (World σ κ) (Except PyErr PyObj)} (h : Requests env channel send y' w)
    (hsame : ∀ fuel, y fuel w = y' fuel w) : Requests env channel send y w := by
  cases h with
  | taken hs h0 hrun => exact .taken hs h0 fun fuel => (hsame fuel).trans (hrun fuel)
  | refused hs h0 he hrun hraises =>
    exact .refused hs h0 he (fun fuel => (hsame fuel).trans (hrun fuel))
      fun fuel r w' h => hraises fuel r w' ((hsame fuel).symm.trans h)

end

section

variable {env : Env σ κ} {w : World σ κ}

theorem channel_of_consumer {self : Connection σ κ} {channel : Int} {tag : PyStr} {callback : κ}
    {a : Nat} (h : self.consumer channel tag = some (callback, a)) :
    self.channels.lookup channel = some a := by
  unfold Connection.consumer at h
  simp only [Option.bind_eq_bind, Option.bind_eq_some_iff] at h
  obtain ⟨callback', _, a', ha, heq⟩ := h
  cases heq
  exact ha

/-- The tag in the `delivery_info` of a `basic.deliver`. -/
theorem tag_of_deliveryInfo {m : amqp_basic_deliver_t} {tag : PyStr} {info : PyMembers}
    (h : deliveryInfo m = some (tag, info)) :
    info.lookup (.str (pyStr "delivery_tag")) = some (.int m.delivery_tag.toInt) := by
  unfold deliveryInfo at h
  split at h
  · cases h
    rfl
  · cases h

/-- The frame of the delivery that a drain hands to a callback. -/
theorem delivered (hlib : Channelled env.lib) {fuel : Nat} {timeout : Rat} {call : Call κ}
    (h : (PyRabbitMQ_Connection_basic_recv env fuel timeout w).2.calls = w.calls ++ [call]) :
    ∃ before rest f m,
      (PyRabbitMQ_Connection_basic_recv env fuel timeout w).2.reads =
        w.reads ++ (before ++ f :: rest) ∧
      (∀ g ∈ before, ¬ IsDeliver g) ∧ f.payload = .method (.basic_deliver m) ∧
      call.message.delivery_tag = .ok (.int m.delivery_tag.toInt) ∧
      w.self.channels.lookup f.channel.toNat = some call.message.channel := by
  have hnothing : w.calls ≠ w.calls ++ [call] := by simp
  rcases basic_recv_log env fuel timeout w with ⟨s, _, hreads, hcalls⟩ | ⟨_, hcalls⟩
  · rw [hcalls] at h
    rw [hreads]
    rcases consume_cases env fuel (w.setConn s) with
      ⟨tag, info, c, t, pd, w1, fs, cells, s1, w2, callback, obj, he, hd, hafter, hc, _, hrun⟩ |
      ⟨_, _, _, _, _, _, _, _, _, _, _, hkeep, _, hrun⟩ | ⟨w1, hu, hrun⟩ | hf
    · obtain ⟨skipped, f, m, hdr, props, hlog, hskipped, hm, hinfo, rfl, _, _, _⟩ :=
        enters_log hlib.on_channel (fun d c w0 hat => by
          cases hat with
          | consume hs hwait hm _ => exact hlib.deliver _ _ _ hwait ⟨_, hm⟩) he
      rw [hrun] at h ⊢
      unfold delivery.called at h
      rw [hafter.calls, (enters_books he).1] at h
      rw [enters_consumer he] at hc
      obtain rfl := List.singleton_inj.mp (List.append_cancel_left h)
      refine ⟨skipped, hdr :: fs, f, m, ?_,
        fun g hg => not_isDeliver_of_not_isMethod (hskipped g hg), hm, ?_, channel_of_consumer hc⟩
      · unfold delivery.called
        rw [hafter.reads, hlog]
        simp [World.setConn]
      · unfold Message.delivery_tag
        dsimp only
        rw [tag_of_deliveryInfo hinfo]
    · rw [hrun] at h
      exact absurd (hkeep.symm.trans h) hnothing
    · rw [hrun] at h
      exact absurd ((unexpected_books hu).1.symm.trans h) hnothing
    · exact absurd (hf.calls.symm.trans h) hnothing
  · exact absurd (hcalls.symm.trans h) hnothing

/-! ## A get -/

/-- A run of the machine for a get leaves what the reply said. -/
theorem delivery_info_of_recv {fuel : Nat} {p p' : PyMembers} {n : Int} {w' : World σ κ}
    (h : recvIn env fuel (.get p) w = (.ret (n, some p'), w')) :
    p'.lookup (.str (pyStr "delivery_info")) = p.lookup (.str (pyStr "delivery_info")) := by
  unfold recvIn Mode.p Mode.piggyback at h
  rcases recv_cases env fuel (some p) true w with ⟨d, c, t, pd, w1, he, hr⟩ | ⟨w1, hu, hr⟩ | hq
  · rw [hr] at h
    rcases get_cases env fuel p d c t pd w1 with
      ⟨fs, body, s, w2, _, _, _, hb⟩ | ⟨fs, e, s, w2, _, _, _, hb⟩ | hf
    · cases hb.symm.trans h
      unfold filled
      rw [Dict.lookup_set_ne _ _ (by decide), Dict.lookup_set_ne _ _ (by decide),
        Dict.lookup_set_ne _ _ (by decide)]
    · cases hb.symm.trans h
      rfl
    · cases (hf.result n (some p') (by rw [h])).2
      rfl
  · cases hr.symm.trans h
    rfl
  · have hsame := (hq.2.2 n (some p') (by rw [h])).2
    cases hsame
    rfl

theorem delivery_info_of_reply {fuel : Nat} {p frame : PyMembers} {w' : World σ κ}
    (h : afterReply env fuel p w = (.ret (some (.dict frame)), w')) :
    frame.lookup (.str (pyStr "delivery_info")) = p.lookup (.str (pyStr "delivery_info")) := by
  rcases hrecv : recvIn env fuel (.get p) w with ⟨o, w1⟩
  cases o with
  | ret r =>
    obtain ⟨n, p'⟩ := r
    by_cases hn : n < 0
    · cases (afterReply_failed hrecv hn).symm.trans h
    · rw [afterReply_ok hrecv (Int.not_lt.mp hn)] at h
      cases p' with
      | none => cases h
      | some p' =>
        cases h
        exact delivery_info_of_recv hrecv
  | crash =>
    have hrun : PyRabbitMQ_recv env fuel (some p) true w = (.crash, w1) := hrecv
    unfold afterReply at h
    cases (Run.bind_crash hrun).symm.trans h
  | hang =>
    have hrun : PyRabbitMQ_recv env fuel (some p) true w = (.hang, w1) := hrecv
    unfold afterReply at h
    cases (Run.bind_hang hrun).symm.trans h

/-- A get that returns a dict was answered with a get-ok. -/
theorem getOk_of_dict {fuel : Nat} {channel : UInt32} {reply : amqp_rpc_reply_t}
    {frame : PyMembers} {w' : World σ κ}
    (h : behindCall env fuel channel reply w = (.ret (some (.dict frame)), w')) :
    ∃ ok, reply = .normal (.basic_get_ok ok) := by
  unfold behindCall at h
  obtain ⟨r, w1, _, h⟩ := Run.ret_of_bind h
  split at h
  · cases h
  · split at h
    · exact ⟨_, rfl⟩
    · cases h

/-- The dict of a get holds the tag of the reply. -/
theorem got {fuel : Nat} {channel : Int} {queue : PyObj} {octets : Octets} {no_ack : Bool}
    {frame : PyMembers} {w' : World σ κ} (hname : IsName queue octets) (herr : w.err = none)
    (hconn : w.self.connected = true)
    (h : PyRabbitMQ_Connection_basic_get env fuel channel queue no_ack w =
      (.ret (some (.dict frame)), w')) :
    ∃ ok s info, env.lib.amqp_basic_get w.self.conn (channelNumber channel) octets no_ack =
        (.normal (.basic_get_ok ok), s) ∧
      frame.lookup (.str (pyStr "delivery_info")) = some (.dict info) ∧
      info.lookup (.str (pyStr "delivery_tag")) = some (.int ok.delivery_tag.toInt) := by
  rcases hreply : env.lib.amqp_basic_get w.self.conn (channelNumber channel) octets no_ack with
    ⟨reply, s⟩
  rw [basic_get_of_name hconn herr hname hreply] at h
  obtain ⟨ok, rfl⟩ := getOk_of_dict h
  cases fuel with
  | zero =>
    unfold behindCall PyRabbitMQ_HandleAMQError at h
    cases h
  | succ fuel =>
    cases hexchange : utf8Decode ok.exchange with
    | none => cases (behindCall_crash (.inl hexchange)).symm.trans h
    | some exchange =>
      cases hrouting_key : utf8Decode ok.routing_key with
      | none => cases (behindCall_crash (.inr hrouting_key)).symm.trans h
      | some routing_key =>
        rw [behindCall_ok hexchange hrouting_key] at h
        have hinfo : frame.lookup (.str (pyStr "delivery_info")) =
            (replied ok exchange routing_key).lookup (.str (pyStr "delivery_info")) := by
          split at h
          · exact delivery_info_of_reply h
          · cases h
            rfl
        exact ⟨ok, s, _, rfl, hinfo, rfl⟩

end

/-! ## Every program -/

/-- What a broker sends that delivers one message over and over: behind a delivery or a get-ok
comes a header, and behind a header one octet. -/
def nextFrame (s : Handles Unit) : amqp_frame_t :=
  match s.log.getLast? with
  | some ⟨_, .wait (.ok ⟨c, .header _ _⟩)⟩ => ⟨c, (Socket.octet 97).payload⟩
  | some ⟨_, .wait (.ok ⟨c, .method _⟩)⟩ => ⟨c, .header 1 .empty⟩
  | some ⟨_, .request c (.normal (.basic_get_ok _))⟩ => ⟨c, .header 1 .empty⟩
  | _ => ⟨1, .method (.basic_deliver ⟨[116], 7, false, [], []⟩)⟩

def repeating : Client (Handles Unit) Unit where
  lib := { ({ request := .normal (.basic_get_ok ⟨8, false, [], [], 0⟩) } : Answers).lib.tracked with
    amqp_simple_wait_frame := fun s => s.tracked (fun st => (.ok (nextFrame s), st)) .wait
    amqp_simple_wait_frame_on_channel := fun s c =>
      s.tracked (fun st => (.ok ⟨c, (nextFrame s).payload⟩, st)) .wait
    amqp_data_in_buffer := fun _ => true }
  api := { ({} : Answers).api.tracked with
    amqp_basic_consume := fun s _ _ _ _ _ _ _ => ((some [116], .normal (.other 0x003C0015)), s) }
  init := (({} : Answers).client).init
  python := .lenient
  bytesAvailable _ := true
  fresh _ := 0
  invoke _ _ self := (self, none)

/-- A program with a consumer on channel 1. -/
def consuming : World (Handles (Handles Unit)) Unit :=
  ((repeating.running .idle 2 0).execAll 2 [.connect, .channel (some 1),
    .Channel_basic_consume 0 (.str []) (pyStr "t") false false false () []]
    (World.new ⟨0, 0, (), []⟩)).2

end librabbitmq.acknowledgements
