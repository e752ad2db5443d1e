-- The laws of demultiplexing. The frames of many channels come in any order, and
-- each call takes the frames of one delivery out of them. What is left of a
-- channel always starts at the border of a delivery, so the oldest frame is a
-- `basic.deliver` whenever a call looks.
import Librabbitmq.Content
import Librabbitmq.Drain
import Mathlib.Data.List.Forall2

namespace librabbitmq.demux

open mailbox body_loop recv_run delivery drain

variable {σ κ : Type} {env : Env σ κ} {pending : σ → List amqp_frame_t} {w w' : World σ κ}
  {queues : amqp_channel_t → List Delivery}

/-! ## The law -/

/-- Calls of `_basic_recv`, one after another. -/
def recvs (env : Env σ κ) (fuel : Nat) : List Rat → Run (World σ κ) (List (Except PyErr Unit))
  | [] => pure []
  | timeout :: timeouts => do
    let r ← fromPython (PyRabbitMQ_Connection_basic_recv env fuel timeout)
    let rs ← recvs env fuel timeouts
    return r :: rs

/-- The consumer of a delivery on channel `c` is registered, and its callback
returns and leaves the connection alone. -/
def Registered (env : Env σ κ) (self : Connection σ κ) (c : amqp_channel_t) (d : Delivery) : Prop :=
  ∃ tag callback channelobj, utf8Decode d.method.consumer_tag = some tag ∧
    self.consumer c.toNat tag = some (callback, channelobj) ∧
    ∀ m self, env.invoke callback m self = (self, none)

/-- The connection waits for deliveries: those queued on each channel, in any
interleaving of their frames. -/
structure Waiting (env : Env σ κ) (pending : σ → List amqp_frame_t)
    (queues : amqp_channel_t → List Delivery) (w : World σ κ) : Prop where
  connected : w.self.connected = true
  noError : w.err = none
  interleaves : Interleaves amqp_frame_t.channel (fun c d => d.frames c) queues
    (pending w.self.conn)
  channels : queues 0 = []
  registered : ∀ c, ∀ d ∈ queues c, Registered env w.self c d

/-- The call hands over the delivery `d` of channel `c`, with this delivery tag
and this body. -/
structure Hands (w : World σ κ) (c : amqp_channel_t) (d : Delivery) (delivery_tag : Int)
    (cells : List (Option UInt8)) (call : Call κ) : Prop where
  channel : call.channel = c.toNat
  consumer_tag : utf8Decode d.method.consumer_tag = some call.consumer_tag
  callback : w.self.consumer c.toNat call.consumer_tag =
    some (call.callback, call.message.channel)
  delivery_tag : ∃ info, call.message.delivery_info = .dict info ∧
    info.lookup (.str (pyStr "delivery_tag")) = some (.int delivery_tag)
  properties : ∃ pd, basic_properties_to_PyDict d.content.properties [] none = .ret (pd, none) ∧
    call.message.properties = .dict pd
  body : call.message.body = .view cells

/-- The calls of callbacks for channel `c`. -/
def ofChannel (c : amqp_channel_t) (calls : List (Call κ)) : List (Call κ) :=
  calls.filter fun call => call.channel = c.toNat

/-- Each delivery is handed over once, those of one channel in their order, with
its own delivery tag and the octets of its own body. -/
def Demultiplexes (env : Env σ κ) (queues : amqp_channel_t → List Delivery) (timeouts : List Rat)
    (w : World σ κ) : Prop :=
  ∃ k, ∀ fuel, k < fuel → ∃ w' calls,
    recvs env fuel timeouts w = (.ret (timeouts.map fun _ => .ok ()), w') ∧
    w'.calls = w.calls ++ calls ∧ (∀ call ∈ calls, ∃ c : amqp_channel_t, call.channel = c.toNat) ∧
    ∀ c, List.Forall₂
      (fun d call => Hands w c d d.method.delivery_tag.toNat (d.content.octets.map some) call)
      (queues c) (ofChannel c calls)

/-- A delivery that fits the integers of the extension. -/
structure Fits (d : Delivery) : Prop where
  fragments : d.content.fragments.length ≤ 2 ^ 32
  delivery_tag : d.method.delivery_tag.toNat < 2 ^ 63

/-- A `basic.deliver`. -/
def isDeliver (f : amqp_frame_t) : Bool :=
  match f.payload with
  | .method (.basic_deliver _) => true
  | _ => false

theorem Hands.of_consumer {c : amqp_channel_t} {d : Delivery} {delivery_tag : Int}
    {cells : List (Option UInt8)} {call : Call κ} (h : Hands w c d delivery_tag cells call)
    (hc : ∀ ch tag, w.self.consumer ch tag = w'.self.consumer ch tag) :
    Hands w' c d delivery_tag cells call :=
  ⟨h.channel, h.consumer_tag, (hc _ _).symm.trans h.callback, h.delivery_tag, h.properties, h.body⟩

/-! ## One call -/

theorem frames_ne_nil (d : Delivery) (c : amqp_channel_t) : d.frames c ≠ [] := by
  unfold Delivery.frames
  simp

/-- A content has no `basic.deliver`. -/
theorem countP_content (d : Delivery) (c : amqp_channel_t) (l : List amqp_frame_t) :
    (d.content.header c :: d.content.bodies c ++ l).countP isDeliver = l.countP isDeliver := by
  have hbodies : (d.content.bodies c).countP isDeliver = 0 := by
    rw [List.countP_eq_zero]
    intro f hf
    obtain ⟨b, _, rfl⟩ := List.mem_map.mp hf
    simp [isDeliver]
  rw [List.cons_append, List.countP_cons, List.countP_append, hbodies]
  simp [isDeliver, Content.header]

/-- A run reads the delivery `d` of channel `c`, and no other frame: it enters the
body loop in the world `w1`, and leaves the connection state `s`. -/
structure ReadsDelivery (env : Env σ κ) (pending : σ → List amqp_frame_t) (w : World σ κ)
    (c : amqp_channel_t) (d : Delivery) (more : List amqp_frame_t) (tag : PyStr)
    (info pd : PyMembers) (w1 : World σ κ) (s : σ) : Prop where
  enters : Enters env w false (some (tag, info)) c d.content.body_size pd w1
  delivers : Delivers env c d.content.body_size w1.self.conn (d.content.bodies c)
    (d.content.seen c) s
  connection : w1.self = { w.self with conn := w1.self.conn }
  noError : w1.err = none
  calls : w1.calls = w.calls
  delivery_tag : info.lookup (.str (pyStr "delivery_tag")) = some (.int d.method.delivery_tag.toInt)
  properties : basic_properties_to_PyDict d.content.properties [] none = .ret (pd, none)
  own : ofKey amqp_frame_t.channel c (pending s) = more
  others : ∀ j, j ≠ c → ofKey amqp_frame_t.channel j (pending s) =
    ofKey amqp_frame_t.channel j (pending w.self.conn)
  perm : (pending w.self.conn).Perm (d.frames c ++ pending s)

/-- The machine comes to the header of the delivery whose `basic.deliver` is the
oldest frame. -/
theorem atHeader_of_oldest (hlib : FrameOrder env.lib pending) {c : amqp_channel_t} {d : Delivery}
    {rest : List amqp_frame_t} (hpend : pending w.self.conn = d.deliver c :: rest) {tag : PyStr}
    (htag : utf8Decode d.method.consumer_tag = some tag) : ∃ info s, pending s = rest ∧
      info.lookup (.str (pyStr "delivery_tag")) = some (.int d.method.delivery_tag.toInt) ∧
      AtHeader env w false (some (tag, info)) c (w.afterReads [d.deliver c] s) := by
  obtain ⟨tag', info, hinfo, htag', hdelivery_tag⟩ := d.deliveryInfo_eq
  rw [htag] at htag'
  cases htag'
  obtain ⟨s, hwait, hrest⟩ := hlib.wait _ _ _ hpend
  have hskips : Skips env.lib w.self.conn [] w.self.conn := ⟨rfl, by simp⟩
  exact ⟨info, s, hrest, hdelivery_tag,
    AtHeader.consume (f := d.deliver c) hskips hwait rfl hinfo⟩

theorem waitHeader_on {c : amqp_channel_t} (hc : c ≠ 0) (lib : RabbitMQC σ) (s : σ) :
    PyRabbitMQ_recv.waitHeader lib c s = lib.amqp_simple_wait_frame_on_channel s c := by
  unfold PyRabbitMQ_recv.waitHeader
  rw [if_neg hc]

/-- The machine reads the delivery whose `basic.deliver` is the oldest frame, when
all of its frames are there. -/
theorem machine_reads (hlib : FrameOrder env.lib pending)
    (hmem : ∀ n, env.bytesAvailable n = true) (herr : w.err = none) {c : amqp_channel_t}
    (hc : c ≠ 0) {d : Delivery} {rest more : List amqp_frame_t}
    (hpend : pending w.self.conn = d.deliver c :: rest)
    (hkey : ofKey amqp_frame_t.channel c rest = d.content.header c :: d.content.bodies c ++ more)
    {tag : PyStr} (htag : utf8Decode d.method.consumer_tag = some tag) :
    ∃ info pd w1 s, ReadsDelivery env pending w c d more tag info pd w1 s := by
  obtain ⟨info, s1, hrest, hdelivery_tag, hat⟩ := atHeader_of_oldest hlib hpend htag
  obtain ⟨pd, hpd⟩ := properties_decode d.properties none
  rw [← hrest] at hkey
  obtain ⟨s', hgives, hown, hothers, -, hperm⟩ :=
    hlib.givesOn c (d.content.header c :: d.content.bodies c) s1 hkey
  obtain ⟨s2, hheader, hbodies⟩ := hgives
  have hwaitHeader : PyRabbitMQ_recv.waitHeader env.lib c (w.afterReads [d.deliver c] s1).self.conn =
      (.ok (d.content.header c), s2) := (waitHeader_on hc _ _).trans hheader
  have hpd' : basic_properties_to_PyDict d.content.properties []
      (w.afterReads [d.deliver c] s1).err = .ret (pd, none) := by
    rw [World.afterReads_err, herr]
    exact hpd
  refine ⟨info, pd, _, s', ⟨Enters.mk hat hwaitHeader rfl hpd',
    Content.delivers_seen d.size_pos hbodies (hmem _), rfl, rfl, rfl, hdelivery_tag, hpd, hown,
    fun j hj => ?_, ?_⟩⟩
  · rw [hothers j hj, hrest, hpend, ofKey_tail hj]
  · rw [hpend, ← hrest]
    exact hperm.cons _

/-- The machine takes the delivery whose `basic.deliver` is the oldest frame. -/
theorem machine_takes (hlib : FrameOrder env.lib pending)
    (hmem : ∀ n, env.bytesAvailable n = true) (herr : w.err = none) {c : amqp_channel_t}
    (hc : c ≠ 0) {d : Delivery} {rest : List amqp_frame_t} {ds : List Delivery}
    (hpend : pending w.self.conn = d.deliver c :: rest)
    (hkey : ofKey amqp_frame_t.channel c rest =
      d.content.header c :: d.content.bodies c ++ ds.flatMap fun d => d.frames c)
    (hreg : Registered env w.self c d) :
    ∃ k s call w', Hands w c d d.method.delivery_tag.toInt (d.content.seen c) call ∧
      w'.self = { w.self with conn := s } ∧ w'.err = none ∧ w'.calls = w.calls ++ [call] ∧
      ofKey amqp_frame_t.channel c (pending s) = (ds.flatMap fun d => d.frames c) ∧
      (∀ j, j ≠ c → ofKey amqp_frame_t.channel j (pending s) =
        ofKey amqp_frame_t.channel j (pending w.self.conn)) ∧
      (pending s).countP isDeliver + 1 = (pending w.self.conn).countP isDeliver ∧
      ∀ fuel, k < fuel → recvIn env fuel .consume w = (.ret (0, none), w') := by
  obtain ⟨tag, callback, obj, htag, hcons, hreturns⟩ := hreg
  obtain ⟨info, pd, w1, s, h⟩ := machine_reads hlib hmem herr hc hpend hkey htag
  obtain ⟨k, w2, hafter, hk⟩ := recv_of_delivers h.enters h.delivers
    ((enters_consumer h.enters c.toNat tag).trans hcons) (by simp [h.noError])
  refine ⟨k, s, ⟨c.toNat, tag, callback, ⟨obj, .dict pd, .dict info, .view (d.content.seen c)⟩⟩, _,
    ⟨rfl, htag, hcons, ⟨info, rfl, h.delivery_tag⟩, ⟨pd, h.properties, rfl⟩, rfl⟩, ?_, ?_, ?_,
    h.own, h.others, ?_, hk⟩
  · unfold called
    rw [hreturns, hafter.self, h.connection]
  · unfold called
    rw [hreturns]
  · unfold called
    rw [hafter.calls, h.calls]
  · rw [h.perm.countP_eq, Delivery.frames, List.cons_append, List.countP_cons, countP_content]
    rfl

/-- A call takes one delivery, from the head of its channel's queue, and the
connection waits for the others. -/
theorem call_takes (hlib : FrameOrder env.lib pending) (hmem : ∀ n, env.bytesAvailable n = true)
    {timeout : Rat} (hready : PYRMQ_SHOULD_POLL timeout = true → PollReady env.lib pending)
    (h : Waiting env pending queues w) (hne : pending w.self.conn ≠ []) :
    ∃ c d ds k call w', queues c = d :: ds ∧ Waiting env pending (taken queues c ds) w' ∧
      Hands w c d d.method.delivery_tag.toInt (d.content.seen c) call ∧
      w'.calls = w.calls ++ [call] ∧
      (∀ ch tag, w'.self.consumer ch tag = w.self.consumer ch tag) ∧
      (pending w'.self.conn).countP isDeliver + 1 = (pending w.self.conn).countP isDeliver ∧
      ∀ fuel, k < fuel →
        fromPython (PyRabbitMQ_Connection_basic_recv env fuel timeout) w = (.ret (.ok ()), w') := by
  obtain ⟨s, hstart, hs⟩ := starts_of_ready h.connected hready hne
  obtain ⟨f, rest, hpend⟩ := List.exists_cons_of_ne_nil hne
  obtain ⟨d, ds, xs, hq, hframes, htail⟩ := h.interleaves.head hpend fun d _ => frames_ne_nil d _
  -- the oldest frame is the first frame of a delivery
  unfold Delivery.frames at hframes
  injection hframes with hf hxs
  obtain ⟨c, hc⟩ : ∃ c, f.channel = c := ⟨_, rfl⟩
  rw [hc] at hq hf hxs htail
  subst hf hxs
  have hne0 : c ≠ 0 := by
    rintro rfl
    rw [h.channels] at hq
    cases hq
  have hreg := h.registered c d (by rw [hq]; simp)
  obtain ⟨k1, s', call, w', hhands, hself, herr', hcalls, hkey, hothers, hcount, hrun⟩ :=
    machine_takes (w := w.setConn s) hlib hmem h.noError hne0 (hs.trans hpend) htail hreg
  obtain ⟨k2, hrecv⟩ := basic_recv_of_starts hstart
  have hcons : ∀ ch tag, w'.self.consumer ch tag = w.self.consumer ch tag := fun ch tag =>
    consumer_of_self hself ch tag
  have hconn : w'.self.conn = s' := by rw [hself]
  refine ⟨c, d, ds, k1 + k2, call, w', hq, ⟨?_, herr', ?_, ?_, ?_⟩,
    hhands.of_consumer fun _ _ => rfl, hcalls, hcons, ?_, ?_⟩
  · rw [hself]
    exact h.connected
  · rw [hconn]
    refine h.interleaves.taken hkey fun j hj => ?_
    rw [hothers j hj]
    exact congrArg _ hs
  · unfold taken
    rw [if_neg hne0.symm]
    exact h.channels
  · intro j d' hd'
    unfold taken at hd'
    have hmemq : d' ∈ queues j := by
      split at hd'
      · rename_i hj
        rw [hj, hq]
        exact List.mem_cons_of_mem _ hd'
      · exact hd'
    obtain ⟨tag, callback, obj, htag, hcb, hret⟩ := h.registered j d' hmemq
    exact ⟨tag, callback, obj, htag, (hcons _ _).trans hcb, hret⟩
  · rw [hconn, hcount]
    exact congrArg _ hs
  · intro fuel hf
    have hx := (hrecv fuel (by omega)).trans (afterPoll_ret (hrun fuel (by omega)))
    exact from_python_ok hx herr'

/-! ## All calls -/

theorem toNat_channel_inj {c c' : amqp_channel_t} (h : (c.toNat : Int) = c'.toNat) : c = c' :=
  UInt16.toNat_inj.mp (Int.ofNat_inj.mp h)

/-- As many calls as there are deliveries take them all. -/
theorem calls_take_all (hlib : FrameOrder env.lib pending)
    (hmem : ∀ n, env.bytesAvailable n = true) : ∀ (timeouts : List Rat)
      (queues : amqp_channel_t → List Delivery) (w : World σ κ),
      (∀ timeout ∈ timeouts, PYRMQ_SHOULD_POLL timeout = true → PollReady env.lib pending) →
      Waiting env pending queues w →
      timeouts.length = (pending w.self.conn).countP isDeliver →
      ∃ k w' calls, w'.calls = w.calls ++ calls ∧
        (∀ call ∈ calls, ∃ c : amqp_channel_t, call.channel = c.toNat) ∧
        (∀ c, List.Forall₂
          (fun d call => Hands w c d d.method.delivery_tag.toInt (d.content.seen c) call)
          (queues c) (ofChannel c calls)) ∧
        ∀ fuel, k < fuel →
          recvs env fuel timeouts w = (.ret (timeouts.map fun _ => .ok ()), w') := by
  intro timeouts
  induction timeouts with
  | nil =>
    intro queues w _ h hlen
    refine ⟨0, w, [], by simp, by simp, fun c => ?_, fun _ _ => rfl⟩
    -- no `basic.deliver` is left, so no frame is
    have hnil : pending w.self.conn = [] := by
      by_contra hne
      obtain ⟨f, rest, hpend⟩ := List.exists_cons_of_ne_nil hne
      obtain ⟨d, ds, xs, _, hframes, _⟩ := h.interleaves.head hpend fun d _ => frames_ne_nil d _
      unfold Delivery.frames at hframes
      injection hframes with hf _
      rw [hpend, List.countP_cons, ← hf] at hlen
      simp [isDeliver, Delivery.deliver] at hlen
    have hqueue := h.interleaves c
    rw [hnil, ofKey_nil] at hqueue
    cases hq : queues c with
    | nil => exact List.Forall₂.nil
    | cons d ds =>
      rw [hq] at hqueue
      cases hqueue
  | cons timeout timeouts ih =>
    intro queues w hready h hlen
    have hne : pending w.self.conn ≠ [] := by
      intro hnil
      rw [hnil] at hlen
      simp at hlen
    obtain ⟨c, d, ds, k1, call, w1, hq, hwait, hhands, hcalls, hcons, hcount, hrun⟩ :=
      call_takes hlib hmem (hready timeout (by simp)) h hne
    rw [List.length_cons] at hlen
    obtain ⟨k2, w', calls, hcalls', hchannels, hall, hrun'⟩ :=
      ih (taken queues c ds) w1 (fun t ht => hready t (by simp [ht])) hwait (by omega)
    refine ⟨k1 + k2, w', call :: calls, ?_, ?_, fun j => ?_, fun fuel hf => ?_⟩
    · rw [hcalls', hcalls, List.append_assoc, List.singleton_append]
    · intro call' hcall'
      rcases List.mem_cons.mp hcall' with rfl | hcall'
      · exact ⟨c, hhands.channel⟩
      · exact hchannels call' hcall'
    · have hrest := (hall j).imp fun d call h => Hands.of_consumer h hcons
      unfold ofChannel at hrest ⊢
      unfold taken at hrest
      by_cases hj : j = c
      · subst hj
        rw [if_pos rfl] at hrest
        rw [hq, List.filter_cons_of_pos (by simpa using hhands.channel)]
        exact List.Forall₂.cons hhands hrest
      · rw [if_neg hj] at hrest
        rw [List.filter_cons_of_neg]
        · exact hrest
        · rw [hhands.channel]
          intro he
          exact hj (toNat_channel_inj (of_decide_eq_true he)).symm
    · unfold recvs
      rw [Run.bind_ret (hrun fuel (by omega)), Run.bind_ret (hrun' fuel (by omega))]
      rfl

/-! ## A socket of one delivery -/

/-- A delivery to the consumer "tag" whose body comes octet by octet. -/
def octetwise (n : Nat) (hpos : 1 ≤ n) (hlt : n < 2 ^ 63) : Delivery where
  method := ⟨[116, 97, 103], 1, false, [], []⟩
  content :=
    { body_size := BitVec.ofNat 64 n
      properties := .empty
      fragments := List.replicate n ⟨[7], by decide⟩
      nonempty := by
        intro b hb
        rw [List.eq_of_mem_replicate hb]
        exact List.cons_ne_nil _ _
      sum := by
        rw [BitVec.toNat_ofNat, Nat.mod_eq_of_lt (by omega), List.length_flatMap]
        simp }
  consumer_tag := rfl
  exchange := rfl
  routing_key := rfl
  properties := empty_isUtf8
  nonempty := by
    rw [BitVec.toNat_ofNat, Nat.mod_eq_of_lt (by omega)]
    exact hpos
  signed := by
    rw [BitVec.toNat_ofNat, Nat.mod_eq_of_lt (by omega)]
    exact hlt

/-- The queues with one delivery on channel 1. -/
def oneQueued (d : Delivery) : amqp_channel_t → List Delivery := fun c => if c = 1 then [d] else []

theorem waiting_of_one {d : Delivery} (htag : utf8Decode d.method.consumer_tag = some (pyStr "tag")) :
    Waiting Socket.env Socket.pending (oneQueued d) (Socket.world (.bringing (d.frames 1)) none) := by
  refine ⟨rfl, rfl, ?_, rfl, ?_⟩
  · intro c
    have hpend : Socket.pending (.bringing (d.frames 1)) = d.frames 1 := by
      simp [Socket.pending, Socket.bringing]
    have hframes : ∀ f ∈ d.frames 1, f.channel = 1 := by
      intro f hf
      rcases List.mem_cons.mp hf with rfl | hf
      · rfl
      · rcases List.mem_cons.mp hf with rfl | hf
        · rfl
        · exact d.content.bodies_channel 1 f hf
    change ofKey amqp_frame_t.channel c (Socket.pending (.bringing (d.frames 1))) = _
    rw [hpend]
    unfold ofKey oneQueued
    split
    · rename_i hc
      subst hc
      rw [List.filter_eq_self.mpr fun f hf => decide_eq_true (hframes f hf)]
      simp
    · rename_i hc
      rw [List.filter_eq_nil_iff.mpr]
      · rfl
      · intro f hf
        rw [hframes f hf]
        simpa using Ne.symm hc
  · intro c d' hd'
    unfold oneQueued at hd'
    split at hd'
    · rename_i hc
      subst hc
      rw [List.mem_singleton.mp hd']
      exact ⟨pyStr "tag", none, 0, htag, rfl, fun _ _ => rfl⟩
    · cases hd'

theorem count_of_one (d : Delivery) :
    (Socket.pending (.bringing (d.frames 1))).countP isDeliver = 1 := by
  have hcount := countP_content d 1 []
  have hpend : Socket.pending (.bringing (d.frames 1)) = d.frames 1 := by
    simp [Socket.pending, Socket.bringing]
  rw [List.append_nil] at hcount
  rw [hpend, Delivery.frames, List.countP_cons, hcount]
  rfl

/-! ## The law, both ways -/

theorem delivery_tag_signed {t : BitVec 64} : t.toInt = t.toNat ↔ t.toNat < 2 ^ 63 := by
  rw [BitVec.toInt_eq_toNat_cond]
  split <;> omega

/-- A delivery that is handed over as it is and as the machine does it fits. -/
theorem fits_of_hands {c : amqp_channel_t} {d : Delivery} {call : Call κ}
    (hhands : Hands w c d d.method.delivery_tag.toInt (d.content.seen c) call)
    (hown : Hands w c d d.method.delivery_tag.toNat (d.content.octets.map some) call) :
    Fits d := by
  constructor
  · have hbody := hhands.body.symm.trans hown.body
    injection hbody with hbody
    exact (d.content.seen_eq_iff c).mp hbody
  · obtain ⟨info, hinfo, htag⟩ := hhands.delivery_tag
    obtain ⟨info', hinfo', htag'⟩ := hown.delivery_tag
    rw [hinfo] at hinfo'
    injection hinfo' with hinfo'
    subst hinfo'
    rw [htag] at htag'
    injection htag' with htag'
    injection htag' with htag'
    exact delivery_tag_signed.mp htag'

section

variable {timeouts : List Rat} (hlib : FrameOrder env.lib pending)
  (hmem : ∀ n, env.bytesAvailable n = true)
  (hready : ∀ timeout ∈ timeouts, PYRMQ_SHOULD_POLL timeout = true → PollReady env.lib pending)
  (hwait : Waiting env pending queues w)
  (hlen : timeouts.length = (pending w.self.conn).countP isDeliver)

include hlib hmem hready hwait hlen

theorem demultiplexes_of_fits (h : ∀ c, ∀ d ∈ queues c, Fits d) :
    Demultiplexes env queues timeouts w := by
  obtain ⟨k, w', calls, hcalls, hchannels, hall, hrun⟩ :=
    calls_take_all hlib hmem timeouts queues w hready hwait hlen
  refine ⟨k, fun fuel hf => ⟨w', calls, hrun fuel hf, hcalls, hchannels, fun c => ?_⟩⟩
  apply ((List.forall₂_and_left _ _).mpr ⟨h c, hall c⟩).imp
  rintro d call ⟨hfits, hhands⟩
  rwa [delivery_tag_signed.mpr hfits.delivery_tag,
    (d.content.seen_eq_iff c).mpr hfits.fragments] at hhands

theorem fits_of_demultiplexes (h : Demultiplexes env queues timeouts w) :
    ∀ c, ∀ d ∈ queues c, Fits d := by
  intro c d hd
  obtain ⟨k1, w1, calls1, hcalls1, _, hall1, hrun1⟩ :=
    calls_take_all hlib hmem timeouts queues w hready hwait hlen
  obtain ⟨k2, h2⟩ := h
  obtain ⟨w2, calls2, hrun2, hcalls2, _, hall2⟩ := h2 (k1 + k2 + 1) (by omega)
  rw [hrun1 (k1 + k2 + 1) (by omega)] at hrun2
  cases hrun2
  rw [hcalls1] at hcalls2
  have hsame := List.append_cancel_left hcalls2
  subst hsame
  -- what is handed over is what should be
  have hboth : List.Forall₂ (fun d call => Fits d ∧ True) (queues c) (ofChannel c calls1) :=
    List.Forall₂.mp (fun d call h1 h2 => ⟨fits_of_hands h1 h2, trivial⟩) (hall1 c) (hall2 c)
  exact ((List.forall₂_and_left _ _).mp hboth).1 d hd

end

/-- In every interleaving of the deliveries of many channels, calls of
`_basic_recv`, one for each delivery, hand each of them over once, in the order of
its channel and as it is, exactly when every delivery fits the counter of frames
and the signed delivery tag. -/
theorem deliveries_are_demultiplexed_exactly_when_each_fits (env : Env σ κ)
    (pending : σ → List amqp_frame_t) (queues : amqp_channel_t → List Delivery)
    (timeouts : List Rat) (w : World σ κ) (hlib : FrameOrder env.lib pending)
    (hmem : ∀ n, env.bytesAvailable n = true)
    (hready : ∀ timeout ∈ timeouts, PYRMQ_SHOULD_POLL timeout = true → PollReady env.lib pending)
    (hwait : Waiting env pending queues w)
    (hlen : timeouts.length = (pending w.self.conn).countP isDeliver) :
    Demultiplexes env queues timeouts w ↔ ∀ c, ∀ d ∈ queues c, Fits d :=
  ⟨fits_of_demultiplexes hlib hmem hready hwait hlen,
    demultiplexes_of_fits hlib hmem hready hwait hlen⟩

/-- Two octets in two frames, and one in one. -/
def pair : Delivery := octetwise 2 (by decide) (by decide)

def single : Delivery := octetwise 1 (by decide) (by decide)

/-- The frames of a pair on channel 1 and of one on channel 2 by turns, and a single on channel 1
behind them. -/
def braided : List amqp_frame_t :=
  ((pair.frames 1).zip (pair.frames 2)).flatMap (fun p => [p.1, p.2]) ++ single.frames 1

def braidedQueues (c : amqp_channel_t) : List Delivery :=
  if c = 1 then [pair, single] else if c = 2 then [pair] else []

theorem mem_braidedQueues {c : amqp_channel_t} {d : Delivery} (hd : d ∈ braidedQueues c) :
    (c = 1 ∨ c = 2) ∧ (d = pair ∨ d = single) := by
  unfold braidedQueues at hd
  split_ifs at hd with h1 h2
  · exact ⟨.inl h1, by simpa using hd⟩
  · exact ⟨.inr h2, .inl (List.mem_singleton.mp hd)⟩
  · cases hd

/-- The connection with a channel 2, and the consumer "tag" on both channels. -/
def twoChannels (fs : List amqp_frame_t) : World Socket (Option PyErr) :=
  let w := Socket.world (.bringing fs) none
  { w with self := { w.self with
      callbacks := [(1, [(pyStr "tag", none)]), (2, [(pyStr "tag", none)])]
      channels := [(1, 0), (2, 1)]
      _used_channel_ids := [1, 2] } }

theorem waiting_braided :
    Waiting Socket.env Socket.pending braidedQueues (twoChannels braided) := by
  refine ⟨rfl, rfl, fun c => ?_, rfl, fun c d hd => ?_⟩
  · by_cases h1 : c = 1
    · subst h1
      rfl
    · by_cases h2 : c = 2
      · subst h2
        rfl
      · have hnone : braidedQueues c = [] := by
          unfold braidedQueues
          rw [if_neg h1, if_neg h2]
        rw [hnone]
        refine List.filter_eq_nil_iff.mpr fun f hf => ?_
        have hchannel : f.channel = 1 ∨ f.channel = 2 := by
          have hall : (braided.all fun g => g.channel = 1 ∨ g.channel = 2) = true := by
            decide +kernel
          exact of_decide_eq_true (List.all_eq_true.mp hall f hf)
        rw [decide_eq_true_eq]
        rintro rfl
        rcases hchannel with h | h
        · exact h1 h
        · exact h2 h
  · obtain ⟨hc, hd⟩ := mem_braidedQueues hd
    have htag : utf8Decode d.method.consumer_tag = some (pyStr "tag") := by
      rcases hd with rfl | rfl <;> rfl
    rcases hc with rfl | rfl
    · exact ⟨pyStr "tag", none, 0, htag, rfl, fun _ _ => rfl⟩
    · exact ⟨pyStr "tag", none, 1, htag, rfl, fun _ _ => rfl⟩

/-- Deliveries of two channels whose frames come by turns are handed over as they are. -/
theorem braided_deliveries_are_handed_over :
    Demultiplexes Socket.env braidedQueues [0, 1, 0] (twoChannels braided) := by
  apply (deliveries_are_demultiplexed_exactly_when_each_fits Socket.env Socket.pending _ [0, 1, 0]
    _ Socket.frameOrder (fun _ => rfl) (fun _ _ _ => Socket.pollReady) waiting_braided
    (by decide +kernel)).mpr
  intro c d hd
  rcases (mem_braidedQueues hd).2 with rfl | rfl
  · exact ⟨by decide, by decide⟩
  · exact ⟨by decide, by decide⟩

/-- A delivery of `2 ^ 32 + 1` octets in as many frames is not: the counter of
frames is zero again at the last of them. -/
theorem a_delivery_in_more_frames_than_the_counter_holds_is_not :
    FrameOrder Socket.env.lib Socket.pending ∧
    Waiting Socket.env Socket.pending
      (oneQueued (octetwise (2 ^ 32 + 1) (by decide) (by decide)))
      (Socket.world (.bringing ((octetwise (2 ^ 32 + 1) (by decide) (by decide)).frames 1)) none) ∧
    ¬ Demultiplexes Socket.env (oneQueued (octetwise (2 ^ 32 + 1) (by decide) (by decide))) [0]
      (Socket.world (.bringing ((octetwise (2 ^ 32 + 1) (by decide) (by decide)).frames 1)) none) := by
  have hwait := waiting_of_one (d := octetwise (2 ^ 32 + 1) (by decide) (by decide)) rfl
  refine ⟨Socket.frameOrder, hwait, fun h => ?_⟩
  have hcount : [(0 : Rat)].length = _ :=
    (count_of_one (octetwise (2 ^ 32 + 1) (by decide) (by decide))).symm
  have hfits := fits_of_demultiplexes Socket.frameOrder (fun _ => rfl)
    (fun _ _ _ => Socket.pollReady) hwait hcount h 1 _ (List.mem_singleton.mpr rfl)
  have hlen := hfits.fragments
  unfold octetwise at hlen
  rw [List.length_replicate] at hlen
  omega

end librabbitmq.demux
