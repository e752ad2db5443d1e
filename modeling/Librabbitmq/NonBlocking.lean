-- The law of a drain that must not block. It asks once whether anything has arrived, and then runs
-- the receive machine, which reads one frame after another: what has arrived must carry it to its
-- end.
import Librabbitmq.Channel
import Librabbitmq.SyncReplies

namespace librabbitmq.non_blocking

open mailbox body_loop recv_run delivery drain sync_replies

variable {σ κ : Type}

/-! ## What has arrived -/

/-- What the law assumes of a connection to which nothing more comes. `pending` are the complete
frames, of the queue and of the octets that have arrived, and `octets` counts the octets that are
still on the socket. A read waits when none of the frames is for it, and `select` finds the socket
readable exactly when there are octets. A `channel.open` is not answered with a `channel.close`. -/
structure Arrived (lib : RabbitMQC σ) (pending : σ → List amqp_frame_t) (octets : σ → Nat) :
    Prop where
  order : FrameOrder lib pending
  waits : ∀ s, pending s = [] → ∃ s', lib.amqp_simple_wait_frame s = (.blocked, s')
  waitsOn : ∀ s c, ofKey amqp_frame_t.channel c (pending s) = [] →
    ∃ s', lib.amqp_simple_wait_frame_on_channel s c = (.blocked, s')
  readable : ∀ s, 0 < octets s → 0 < (lib.select s 0).1.result ∧ (lib.select s 0).1.isset = true
  unreadable : ∀ s, octets s = 0 → (lib.select s 0).1.result = 0
  select_keeps : ∀ s, pending (lib.select s 0).2 = pending s
  opens : ∀ s c, ¬ IsClose (lib.amqp_channel_open s c).1

/-- Nothing has arrived, neither in the buffers nor on the socket. -/
def Nothing (lib : RabbitMQC σ) (octets : σ → Nat) (s : σ) : Prop :=
  lib.AMQP_ACTIVE_BUFFERS s = false ∧ octets s = 0

/-! ## How far the frames carry the machine -/

/-- The frames of the channel carry the body loop to its end: they complete the body, or one of
them is no body frame, or there is no memory for the body. -/
def endsBody (env : Env σ κ) (body_target : BitVec 64) :
    BitVec 64 → List amqp_frame_t → Bool
  | body_received, [] => !decide (body_received.toInt < body_target.toInt)
  | body_received, f :: fs =>
    if body_received.toInt < body_target.toInt then
      match f.payload with
      | .body_fragment b => !env.bytesAvailable body_target.toNat ||
          endsBody env body_target (body_received + BitVec.ofNat 64 b.bytes.length) fs
      | _ => true
    else true

/-- The frame that a wait for a header takes, and the frames that it leaves. -/
def headerFrame (cur_channel : amqp_channel_t) (fs : List amqp_frame_t) :
    Option (amqp_frame_t × List amqp_frame_t) :=
  if cur_channel = 0 then fs.head?.map fun f => (f, fs.tail)
  else receive amqp_frame_t.channel cur_channel fs

/-- The properties convert. -/
def converts (props : amqp_basic_properties_t) : Bool :=
  match basic_properties_to_PyDict props [] none with
  | .ret _ => true
  | _ => false

/-- The frames behind a `basic.deliver` carry its content to its end. -/
def endsContent (env : Env σ κ) (cur_channel : amqp_channel_t) (fs : List amqp_frame_t) : Bool :=
  match headerFrame cur_channel fs with
  | none => false
  | some (f, rest) =>
    match f.payload with
    | .header body_target props => converts props &&
        endsBody env body_target 0 (ofKey amqp_frame_t.channel f.channel rest)
    | _ => true

/-- The frames carry the receive machine to its end. -/
def endsReceive (env : Env σ κ) : List amqp_frame_t → Bool
  | [] => false
  | f :: fs =>
    match f.payload with
    | .method (.basic_deliver m) => (deliveryInfo m).isSome && endsContent env f.channel fs
    | .method _ => true
    | _ => endsReceive env fs

/-! ## The law -/

/-- What a drain that returns has done: it has dispatched a message, or it raises. -/
def DispatchesOrRaises (w : World σ κ) (r : Except PyErr Unit) (w' : World σ κ) : Prop :=
  match r with
  | .ok _ => ∃ call, w'.calls = w.calls ++ [call]
  | .error _ => True

/-- A drain without a timeout comes to an end, with the fuel for it. A read that waits has none. -/
def DrainEnds (env : Env σ κ) (w : World σ κ) : Prop :=
  ∃ k, ∀ fuel, k < fuel → ∃ r w',
    Connection.drain_events env fuel (some 0) w = (.ret r, w') ∧ DispatchesOrRaises w r w'

section

variable {env : Env σ κ} {pending : σ → List amqp_frame_t} {octets : σ → Nat} {w : World σ κ}
  {c : amqp_channel_t} {t : BitVec 64} {rest : List amqp_frame_t} {s0 : σ}

/-! ## The body -/

/-- The oldest frame of a channel is read. -/
theorem Arrived.reads (h : Arrived env.lib pending octets) {f : amqp_frame_t} {s : σ}
    (hrest : ofKey amqp_frame_t.channel c (pending s) = f :: rest) :
    ∃ s', env.lib.amqp_simple_wait_frame_on_channel s c = (.ok f, s') ∧
      ofKey amqp_frame_t.channel c (pending s') = rest := by
  obtain ⟨r, hr, hleft⟩ := receive_of_ofKey hrest
  obtain ⟨s', hread, rfl⟩ := h.order.waitOn s c f r hr
  exact ⟨s', hread, hleft⟩

/-- A body frame at which the loop goes on. -/
theorem endsBody_body {pre : List amqp_frame_t} {f : amqp_frame_t}
    (hlt : (received pre).toInt < t.toInt) (hf : f.IsBody) :
    endsBody env t (received pre) (f :: rest) = (!env.bytesAvailable t.toNat ||
      endsBody env t (received (pre ++ [f])) rest) := by
  obtain ⟨b, hb⟩ := hf
  rw [endsBody, if_pos hlt, hb, received_snoc, octets_of_body hb]

/-- Nothing is read of a body that is complete. -/
theorem endsBody_full {n : BitVec 64} (h : ¬ n.toInt < t.toInt) : endsBody env t n rest = true := by
  cases rest with
  | nil => simp [endsBody, h]
  | cons f fs => simp [endsBody, h]

/-- The body loop comes to its end with the frames that carry it there, by induction on them. -/
theorem body_ends (harr : Arrived env.lib pending octets) : ∀ (pre : List amqp_frame_t) (s1 : σ),
    Reads env c t w.self.conn pre s1 → ofKey amqp_frame_t.channel c (pending s1) = rest →
    endsBody env t (received pre) rest = true →
    ∃ e w2 k, ∀ fuel, k < fuel →
      Run.loop (PyRabbitMQ_recv.turn env false c t) fuel .init w = (.ret e, w2) := by
  induction rest with
  | nil =>
    intro pre s1 hreads hrest hends
    obtain ⟨w', _, rfl, hloop⟩ := loop_of_reads (p := false) hreads
    have hfull : ¬ (received pre).toInt < t.toInt := by simpa [endsBody] using hends
    exact ⟨_, _, pre.length, fun fuel hf => hloop _ _ fuel (.full (Int.not_lt.mp hfull)) hf⟩
  | cons f rest ih =>
    intro pre s1 hreads hrest hends
    obtain ⟨w', _, rfl, hloop⟩ := loop_of_reads (p := false) hreads
    by_cases hlt : (received pre).toInt < t.toInt
    · obtain ⟨s', hread, hleft⟩ := harr.reads hrest
      by_cases hm : f.IsMethod
      · obtain ⟨m, hp⟩ := hm
        exact ⟨_, _, pre.length, fun fuel hf => hloop _ _ fuel (.method f m s' hlt hread hp) hf⟩
      · by_cases hb : f.IsBody
        · rw [endsBody_body hlt hb, Bool.or_eq_true, Bool.not_eq_true'] at hends
          by_cases hgoes : pre.length % 2 ^ 32 = 0 →
              (received (pre ++ [f])).toInt < t.toInt ∧ env.bytesAvailable t.toNat = true
          · have hnext := reads_snoc hreads hlt hread hb hgoes
            refine ih (pre ++ [f]) s' hnext hleft (hends.resolve_left fun hno => ?_)
            rw [hnext.available (by simp)] at hno
            cases hno
          · obtain ⟨h0, hstops⟩ := Classical.not_imp.mp hgoes
            by_cases hmissing : (received (pre ++ [f])).toInt < t.toInt
            · have hno : env.bytesAvailable t.toNat = false :=
                Bool.eq_false_iff.mpr fun h => hstops ⟨hmissing, h⟩
              exact ⟨_, _, pre.length, fun fuel hf =>
                hloop _ _ fuel (.noMemory f s' hlt hread hb h0 hmissing hno) hf⟩
            · exact ⟨_, _, pre.length, fun fuel hf =>
                hloop _ _ fuel (.viewed f s' hlt hread hb h0 (Int.not_lt.mp hmissing) rfl) hf⟩
        · exact ⟨_, _, pre.length, fun fuel hf =>
            hloop _ _ fuel (.unexpected f s' hlt hread hm hb) hf⟩
    · exact ⟨_, _, pre.length, fun fuel hf => hloop _ _ fuel (.full (Int.not_lt.mp hlt)) hf⟩

/-- Other frames leave the body loop at a read that waits. -/
theorem body_waits (harr : Arrived env.lib pending octets) : ∀ (pre : List amqp_frame_t) (s1 : σ),
    Reads env c t s0 pre s1 → ofKey amqp_frame_t.channel c (pending s1) = rest →
    endsBody env t (received pre) rest = false →
    ∃ fs s2 s3, Reads env c t s0 fs s2 ∧ (received fs).toInt < t.toInt ∧
      env.lib.amqp_simple_wait_frame_on_channel s2 c = (.blocked, s3) := by
  induction rest with
  | nil =>
    intro pre s1 hreads hrest hends
    obtain ⟨s3, hblocked⟩ := harr.waitsOn s1 c hrest
    exact ⟨pre, s1, s3, hreads, by simpa [endsBody] using hends, hblocked⟩
  | cons f rest ih =>
    intro pre s1 hreads hrest hends
    have hlt : (received pre).toInt < t.toInt := by
      by_contra h
      rw [endsBody_full h] at hends
      cases hends
    obtain ⟨s', hread, hleft⟩ := harr.reads hrest
    have hb : f.IsBody := by
      by_contra h
      rw [endsBody, if_pos hlt] at hends
      cases hp : f.payload with
      | body_fragment b => exact h ⟨b, hp⟩
      | _ => simp [hp] at hends
    rw [endsBody_body hlt hb, Bool.or_eq_false_iff, Bool.not_eq_false'] at hends
    have hmissing : (received (pre ++ [f])).toInt < t.toInt := by
      by_contra h
      rw [endsBody_full h] at hends
      cases hends.2
    exact ih (pre ++ [f]) s' (reads_snoc hreads hlt hread hb fun _ => ⟨hmissing, hends.1⟩) hleft
      hends.2

/-! ## The content -/

/-- A method in the place of content ends the run, as a `channel.open` is answered. -/
theorem altframe_returns (harr : Arrived env.lib pending octets) (p : Option PyMembers)
    (c : amqp_channel_t) (m : amqp_method_t) (w : World σ κ) :
    ∃ k, ∀ fuel, k < fuel → ∃ r w', PyRabbitMQ_recv.altframe env fuel p c m w = (.ret r, w') := by
  have hsettles : ∀ s, Settles env.lib c s := by
    intro s
    rcases hs : env.lib.amqp_send_close_ok s c with ⟨status, s1⟩
    by_cases hneg : status < 0
    · exact .unsent hs hneg
    · rcases ho : env.lib.amqp_channel_open s1 c with ⟨reply, s2⟩
      have hopen := harr.opens s1 c
      rw [ho] at hopen
      exact .answered hs (Int.not_lt.mp hneg) ho hopen
  cases m with
  | channel_close m =>
    obtain ⟨k, hk⟩ := revive_of_settles (hsettles w.self.conn)
    refine ⟨k, fun fuel hf => ?_⟩
    have hsame : c.toUInt32.toUInt16 = c := by simp
    obtain ⟨r, w', hrevive⟩ := hk fuel hf c.toUInt32 (w.setErr (some ⟨.ChannelError,
      "channel error %d, message: %.*s", [.int m.reply_code.toNat, .bytes m.reply_text]⟩)) hsame rfl
    refine ⟨(-1, p), w', ?_⟩
    unfold PyRabbitMQ_recv.altframe PyRabbitMQ_SetErr_ReceivedFrame
    rw [Run.bind_assoc, PyErr_SetString_bind, Run.bind_assoc, Run.bind_ret hrevive]
    rfl
  | _ => exact ⟨0, fun fuel _ => ⟨_, _, rfl⟩⟩

/-- The content of a consumer, behind its header. -/
theorem content_body_returns (harr : Arrived env.lib pending octets) (d : PyStr × PyMembers)
    (pd : PyMembers)
    (hends : endsBody env t 0 (ofKey amqp_frame_t.channel c (pending w.self.conn)) = true) :
    ∃ k, ∀ fuel, k < fuel → ∃ r w',
      PyRabbitMQ_recv.body env fuel none (some d) c t pd w = (.ret r, w') := by
  obtain ⟨e, w2, k, hloop⟩ := body_ends harr [] w.self.conn (row_nil env c t w).reads rfl hends
  cases e with
  | done v =>
    obtain ⟨r, w', hfinish⟩ := finish_returns env d pd v w2
    exact ⟨k, fun fuel hf => ⟨r, w', (body_of_loop (p := none) (hloop fuel hf)).trans hfinish⟩⟩
  | altframe ch m =>
    obtain ⟨k', haltframe⟩ := altframe_returns harr none ch m w2
    refine ⟨k + k', fun fuel hf => ?_⟩
    obtain ⟨r, w', hret⟩ := haltframe fuel (by omega)
    refine ⟨r, w', ?_⟩
    unfold PyRabbitMQ_recv.body
    exact (Run.bind_ret (hloop fuel (by omega))).trans hret
  | goto_finally =>
    exact ⟨k, fun fuel hf => ⟨_, _, body_of_break (p := none) (hloop fuel hf)⟩⟩

/-- A wait for a header takes the frame that is told, and waits where there is none. -/
theorem Arrived.header (harr : Arrived env.lib pending octets) (c : amqp_channel_t) (s : σ) :
    match headerFrame c (pending s) with
    | none => ∃ s', PyRabbitMQ_recv.waitHeader env.lib c s = (.blocked, s')
    | some (f, rest) =>
      ∃ s', PyRabbitMQ_recv.waitHeader env.lib c s = (.ok f, s') ∧ pending s' = rest := by
  unfold headerFrame PyRabbitMQ_recv.waitHeader
  by_cases hc : c = 0
  · rw [if_pos hc, if_pos hc]
    cases hs : pending s with
    | nil => exact harr.waits s hs
    | cons f rest => exact harr.order.wait s f rest hs
  · rw [if_neg hc, if_neg hc]
    cases hr : receive amqp_frame_t.channel c (pending s) with
    | none =>
      refine harr.waitsOn s c ?_
      cases hkey : ofKey amqp_frame_t.channel c (pending s) with
      | nil => rfl
      | cons f fs =>
        obtain ⟨r, hsome, _⟩ := receive_of_ofKey hkey
        rw [hr] at hsome
        cases hsome
    | some r => exact harr.order.waitOn s c r.1 r.2 hr

/-- A run that waits does not return. -/
theorem no_return_of_waits (h : Waits env .consume w) :
    ∃ k, ∀ fuel, k < fuel → ∀ r w', recvIn env fuel .consume w ≠ (.ret r, w') := by
  obtain ⟨k, hk⟩ := h
  refine ⟨k, fun fuel hf r w' hrun => ?_⟩
  obtain ⟨w1, hhang⟩ := hk fuel hf
  rw [hrun] at hhang
  cases hhang

/-- The properties convert, or the conversion does not return. -/
theorem converts_cases (props : amqp_basic_properties_t) :
    (converts props = true ∧
      ∃ pd err, basic_properties_to_PyDict props [] none = .ret (pd, err)) ∨
    (converts props = false ∧ ∀ r, basic_properties_to_PyDict props [] none ≠ .ret r) := by
  unfold converts
  cases basic_properties_to_PyDict props [] none with
  | ret r => exact Or.inl ⟨rfl, r.1, r.2, rfl⟩
  | crash => exact Or.inr ⟨rfl, fun r h => by cases h⟩
  | hang => exact Or.inr ⟨rfl, fun r h => by cases h⟩

/-- A run that has come to a header returns with the frames that carry its content to its end. -/
theorem returns_of_header (harr : Arrived env.lib pending octets) (herr : w.err = none)
    {d : PyStr × PyMembers} {w0 : World σ κ} (hat : AtHeader env w false (some d) c w0)
    (hends : endsContent env c (pending w0.self.conn) = true) :
    ∃ k, ∀ fuel, k < fuel → ∃ r w', recvIn env fuel .consume w = (.ret r, w') := by
  have hread := harr.header c w0.self.conn
  unfold endsContent at hends
  cases hnext : headerFrame c (pending w0.self.conn) with
  | none =>
    rw [hnext] at hends
    cases hends
  | some x =>
    obtain ⟨f, rest⟩ := x
    rw [hnext] at hread hends
    obtain ⟨s', hr, hleft⟩ := hread
    dsimp only at hends
    by_cases hm : f.IsMethod
    · obtain ⟨m, hp⟩ := hm
      obtain ⟨k, hk⟩ := recv_of_atHeader hat
      obtain ⟨k', haltframe⟩ := altframe_returns harr none f.channel m (w0.afterRead f s')
      refine ⟨k + k', fun fuel hf => ?_⟩
      obtain ⟨r, w', hret⟩ := haltframe fuel (by omega)
      refine ⟨r, w', ?_⟩
      unfold recvIn
      rw [show Mode.consume.piggyback = false from rfl, hk fuel (by omega)]
      unfold PyRabbitMQ_recv.content
      rw [Run.bind_ret (readFrame_ok hr)]
      dsimp only
      rw [hp]
      exact hret
    · by_cases hh : f.IsHeader
      · obtain ⟨body_target, props, hp⟩ := hh
        rw [hp, Bool.and_eq_true] at hends
        rcases converts_cases props with ⟨_, pd, err, hret⟩ | ⟨hno, _⟩
        · rw [← herr, ← (atHeader_books hat).2.2] at hret
          obtain ⟨k, hk⟩ := recv_of_enters (.mk hat hr hp hret)
          have hbody := hends.2
          rw [← hleft] at hbody
          obtain ⟨k', hk'⟩ := @content_body_returns _ _ env pending octets
            ((w0.afterRead f s').setErr err) f.channel body_target harr d pd hbody
          refine ⟨k + k', fun fuel hf => ?_⟩
          obtain ⟨r, w', hrun⟩ := hk' fuel (by omega)
          exact ⟨r, w', (hk fuel (by omega) none).trans hrun⟩
        · rw [hends.1] at hno
          cases hno
      · obtain ⟨k, hk⟩ := recv_of_unexpected (.mk hat hr hm hh)
        exact ⟨k, fun fuel hf => ⟨_, _, hk fuel hf none⟩⟩

/-- With other frames it does not return. -/
theorem no_return_of_header (harr : Arrived env.lib pending octets) (herr : w.err = none)
    {d : PyStr × PyMembers} {w0 : World σ κ} (hat : AtHeader env w false (some d) c w0)
    (hends : endsContent env c (pending w0.self.conn) = false) :
    ∃ k, ∀ fuel, k < fuel → ∀ r w', recvIn env fuel .consume w ≠ (.ret r, w') := by
  have hread := harr.header c w0.self.conn
  unfold endsContent at hends
  cases hnext : headerFrame c (pending w0.self.conn) with
  | none =>
    rw [hnext] at hread
    obtain ⟨s', hr⟩ := hread
    exact no_return_of_waits (waits_of_header .consume hat hr)
  | some x =>
    obtain ⟨f, rest⟩ := x
    rw [hnext] at hread hends
    obtain ⟨s', hr, hleft⟩ := hread
    dsimp only at hends
    cases hp : f.payload with
    | header body_target props =>
      rw [hp, Bool.and_eq_false_iff] at hends
      rcases converts_cases props with ⟨hyes, pd, err, hret⟩ | ⟨_, hno⟩
      · have hbody := hends.resolve_left (by simp [hyes])
        rw [← herr, ← (atHeader_books hat).2.2] at hret
        have henters := Enters.mk hat hr hp hret
        rw [← hleft] at hbody
        obtain ⟨fs, s2, s3, hreads, hlt, hblocked⟩ := body_waits harr [] s'
          (row_nil env f.channel body_target ((w0.afterRead f s').setErr err)).reads rfl hbody
        exact no_return_of_waits (waits_of_body .consume henters hreads hlt hblocked)
      · obtain ⟨k, hk⟩ := recv_of_atHeader hat
        refine ⟨k, fun fuel hf r w' hrun => ?_⟩
        unfold recvIn at hrun
        rw [show Mode.consume.piggyback = false from rfl, hk fuel hf] at hrun
        unfold PyRabbitMQ_recv.content at hrun
        rw [Run.bind_ret (readFrame_ok hr)] at hrun
        dsimp only at hrun
        rw [hp] at hrun
        obtain ⟨x, w1, hprops, _⟩ := Run.ret_of_bind hrun
        unfold withErr at hprops
        rw [show (w0.afterRead f s').err = none from (atHeader_books hat).2.2.trans herr] at hprops
        cases hx : basic_properties_to_PyDict props [] none with
        | ret r => exact hno r hx
        | crash =>
          rw [hx] at hprops
          cases hprops
        | hang =>
          rw [hx] at hprops
          cases hprops
    | _ => simp [hp] at hends

/-! ## The receive -/

/-- How the first loop leaves at the frame behind those that it passes over. -/
theorem first_loop {skipped : List amqp_frame_t} {s s' : σ} {f : amqp_frame_t} {m : amqp_method_t}
    (hskips : Skips env.lib w.self.conn skipped s)
    (hr : env.lib.amqp_simple_wait_frame s = (.ok f, s')) (hp : f.payload = .method m)
    {fuel : Nat} (hf : skipped.length < fuel) :
    Run.loop (PyRabbitMQ_recv.first env) fuel () w =
      (.ret (leaving f.channel m), (w.afterReads skipped s).afterRead f s') :=
  Run.loop_leave (turns_of_skips hskips) (first_leaves (w := w.afterReads skipped s) hr hp) hf

/-- Frames that carry the machine to its end do so behind any that it has passed over. -/
theorem receive_returns (harr : Arrived env.lib pending octets) (herr : w.err = none)
    (fs : List amqp_frame_t) : ∀ (skipped : List amqp_frame_t) (s : σ),
    Skips env.lib w.self.conn skipped s → pending s = fs → endsReceive env fs = true →
    ∃ k, ∀ fuel, k < fuel → ∃ r w', recvIn env fuel .consume w = (.ret r, w') := by
  induction fs with
  | nil =>
    intro skipped s _ _ hends
    cases hends
  | cons f fs ih =>
    intro skipped s hskips hs hends
    obtain ⟨s', hr, hleft⟩ := harr.order.wait s f fs hs
    by_cases hm : f.IsMethod
    · obtain ⟨m, hp⟩ := hm
      rw [endsReceive, hp] at hends
      rcases leaving_cases f.channel m with ⟨m, rfl, _⟩ | hleave
      · rw [Bool.and_eq_true, Option.isSome_iff_exists] at hends
        obtain ⟨⟨d, hd⟩, hcontent⟩ := hends
        rw [← hleft] at hcontent
        exact returns_of_header harr herr (.consume hskips hr hp hd) hcontent
      · obtain ⟨k, haltframe⟩ := altframe_returns harr none f.channel m
          ((w.afterReads skipped s).afterRead f s')
        refine ⟨skipped.length + k, fun fuel hf => ?_⟩
        obtain ⟨r, w', hret⟩ := haltframe fuel (by omega)
        refine ⟨r, w', ?_⟩
        unfold recvIn Mode.p Mode.piggyback PyRabbitMQ_recv
        rw [if_neg Bool.false_ne_true, Run.bind_ret (first_loop hskips hr hp (by omega)), hleave]
        exact hret
    · refine ih (skipped ++ [f]) s' (hskips.snoc hr hm) hleft ?_
      rw [endsReceive] at hends
      cases hp : f.payload with
      | method m => exact absurd ⟨m, hp⟩ hm
      | _ =>
        rw [hp] at hends
        exact hends

/-- With other frames it waits for one that has not come, or crashes. -/
theorem receive_does_not_return (harr : Arrived env.lib pending octets) (herr : w.err = none)
    (fs : List amqp_frame_t) : ∀ (skipped : List amqp_frame_t) (s : σ),
    Skips env.lib w.self.conn skipped s → pending s = fs → endsReceive env fs = false →
    ∃ k, ∀ fuel, k < fuel → ∀ r w', recvIn env fuel .consume w ≠ (.ret r, w') := by
  induction fs with
  | nil =>
    intro skipped s hskips hs _
    obtain ⟨s', hr⟩ := harr.waits s hs
    refine ⟨skipped.length, fun fuel hf r w' hrun => ?_⟩
    have hloop := Run.loop_hang (turns_of_skips hskips)
      (first_blocked (w := w.afterReads skipped s) hr) hf
    unfold recvIn Mode.p Mode.piggyback PyRabbitMQ_recv at hrun
    rw [if_neg Bool.false_ne_true, Run.bind_hang hloop] at hrun
    cases hrun
  | cons f fs ih =>
    intro skipped s hskips hs hends
    obtain ⟨s', hr, hleft⟩ := harr.order.wait s f fs hs
    rw [endsReceive] at hends
    cases hp : f.payload with
    | method m =>
      rw [hp] at hends
      cases m with
      | basic_deliver m =>
        rw [Bool.and_eq_false_iff] at hends
        cases hd : deliveryInfo m with
        | some d =>
          have hcontent := hends.resolve_left (by simp [hd])
          rw [← hleft] at hcontent
          exact no_return_of_header harr herr (.consume hskips hr hp hd) hcontent
        | none =>
          refine ⟨skipped.length, fun fuel hf r w' hrun => ?_⟩
          obtain ⟨err, hcrash⟩ :=
            delivery_crash (w := (w.afterReads skipped s).afterRead f s') hd
          unfold recvIn Mode.p Mode.piggyback PyRabbitMQ_recv at hrun
          rw [if_neg Bool.false_ne_true, Run.bind_ret (first_loop hskips hr hp hf)] at hrun
          unfold leaving at hrun
          dsimp only at hrun
          rw [Run.bind_crash hcrash] at hrun
          cases hrun
      | _ => cases hends
    | _ =>
      rw [hp] at hends
      refine ih (skipped ++ [f]) s' (hskips.snoc hr ?_) hleft hends
      rintro ⟨m, hm⟩
      rw [hp] at hm
      cases hm

/-! ## The drain -/

/-- A run of the machine that returns has called the callback, or leaves an error. -/
theorem recv_calls_or_fails {fuel : Nat} {n : Int} {p : Option PyMembers} {w' : World σ κ}
    (h : recvIn env fuel .consume w = (.ret (n, p), w')) :
    n < 0 ∨ w'.err.isSome = true ∨ ∃ call, w'.calls = w.calls ++ [call] := by
  rcases consume_cases env fuel w with
    ⟨tag, info, c, t, pd, w1, fs, cells, s, w2, callback, obj, he, _, hafter, _, _, hrun⟩ |
    ⟨d, c, t, pd, w1, fs, e, s, w2, _, _, _, herr, hrun⟩ | ⟨w1, hu, hrun⟩ | hfails
  · rw [hrun] at h
    cases h
    refine Or.inr (Or.inr ⟨⟨c.toNat, tag, callback, ⟨obj, .dict pd, .dict info, .view cells⟩⟩, ?_⟩)
    have hcalls := hafter.calls.trans (enters_books he).1
    unfold called
    rw [hcalls]
  · rw [hrun] at h
    cases h
    exact Or.inr (Or.inl (by rw [herr]; rfl))
  · rw [hrun] at h
    cases h
    cases hu with
    | mk hat hr hm hh => exact Or.inr (Or.inl rfl)
  · exact Or.inl (hfails.result n p (by rw [h])).1

/-- What Python sees of a drain behind a run of the machine that returns. -/
theorem wrapUp_dispatches {x : Run (World σ κ) (Option Unit)} {w0 w1 w' : World σ κ} {n : Int}
    (hx : x w0 = wrapUp env n w') (hcalls : w1.calls = w.calls)
    (h : n < 0 ∨ w'.err.isSome = true ∨ ∃ call, w'.calls = w1.calls ++ [call]) :
    ∃ r w2, fromPython x w0 = (.ret r, w2) ∧ DispatchesOrRaises w r w2 := by
  by_cases hn : n < 0
  · have hnull : x w0 = (.ret none, (w'.setErr (some (w'.err.getD badFrame))).closed env) := by
      rw [hx, wrapUp, if_pos hn]
    refine ⟨_, _, from_python_ret hnull, ?_⟩
    rw [World.closed_err]
    exact trivial
  · have hdone : x w0 = (.ret (some ()), w') := by rw [hx, wrapUp, if_neg hn]
    refine ⟨_, _, from_python_ret hdone, ?_⟩
    cases herr : w'.err with
    | some e => exact trivial
    | none =>
      obtain ⟨call, hcall⟩ := (h.resolve_left hn).resolve_left (by simp [herr])
      exact ⟨call, by rw [← hcalls]; exact hcall⟩

/-- The poll of a socket with octets on it, and of one without. -/
theorem poll_eq (harr : Arrived env.lib pending octets) (fuel : Nat) (w : World σ κ) :
    RabbitMQ_WAIT env fuel (-1) w = (.ret (if octets w.self.conn = 0 then 0 else 1),
      w.setConn (env.lib.select w.self.conn 0).2) := by
  have hselect : (onConn fun s => env.lib.select s 0 : Run (World σ κ) select_t) w =
      (.ret (env.lib.select w.self.conn 0).1, w.setConn (env.lib.select w.self.conn 0).2) := rfl
  unfold RabbitMQ_WAIT RabbitMQ_wait_nb
  rw [if_neg (by decide), Run.bind_ret hselect]
  by_cases h0 : octets w.self.conn = 0
  · have hresult := harr.unreadable w.self.conn h0
    rw [if_pos h0, if_pos (Int.le_of_eq hresult), hresult]
    rfl
  · obtain ⟨hresult, hisset⟩ := harr.readable w.self.conn (Nat.pos_of_ne_zero h0)
    rw [if_neg h0, if_neg (Int.not_le.mpr hresult), if_pos hisset]
    rfl

/-- Something has arrived: the drain runs the receive machine on it. -/
theorem basic_recv_of_something (harr : Arrived env.lib pending octets)
    (hconn : w.self.connected = true) (hsome : ¬ Nothing env.lib octets w.self.conn) :
    ∃ s, pending s = pending w.self.conn ∧ ∀ fuel,
      PyRabbitMQ_Connection_basic_recv env fuel (-1) w = afterPoll env fuel (w.setConn s) := by
  by_cases hpolls : Polls env (-1) w.self.conn
  · have hactive : env.lib.AMQP_ACTIVE_BUFFERS w.self.conn = false := by
      unfold Polls at hpolls
      rw [Bool.and_eq_true, Bool.not_eq_true'] at hpolls
      exact hpolls.2
    have hready : octets w.self.conn ≠ 0 := fun h0 => hsome ⟨hactive, h0⟩
    refine ⟨_, harr.select_keeps w.self.conn, fun fuel => ?_⟩
    have hpoll := poll_eq harr fuel w
    rw [if_neg hready] at hpoll
    exact basic_recv_polled hconn hpolls hpoll (by decide)
  · exact ⟨w.self.conn, rfl, fun fuel => basic_recv_unpolled fuel hconn hpolls⟩

/-- Nothing has arrived: the drain times out. -/
theorem basic_recv_of_nothing (harr : Arrived env.lib pending octets)
    (hconn : w.self.connected = true) (hnothing : Nothing env.lib octets w.self.conn)
    (fuel : Nat) : ∃ w', PyRabbitMQ_Connection_basic_recv env fuel (-1) w = (.ret none, w') := by
  have hpolls : Polls env (-1) w.self.conn := by
    unfold Polls
    rw [hnothing.1]
    rfl
  have hpoll := poll_eq harr fuel w
  rw [if_pos hnothing.2] at hpoll
  obtain ⟨err, hrun, _⟩ := basic_recv_unready hconn hpolls hpoll (by decide)
  exact ⟨_, hrun⟩

/-- A call that raises, whatever the fuel. -/
theorem drainEnds_of_null (h : ∀ fuel, ∃ w',
    PyRabbitMQ_Connection_basic_recv env fuel (-1) w = (.ret none, w')) : DrainEnds env w := by
  refine ⟨0, fun fuel _ => ?_⟩
  obtain ⟨w', hnull⟩ := h fuel
  refine ⟨_, _, from_python_ret hnull, ?_⟩
  cases w'.err <;> exact trivial

theorem drainEnds_of_ends (harr : Arrived env.lib pending octets) (herr : w.err = none)
    (hends : w.self.connected = false ∨ Nothing env.lib octets w.self.conn ∨
      endsReceive env (pending w.self.conn) = true) : DrainEnds env w := by
  cases hconn : w.self.connected with
  | false => exact drainEnds_of_null fun fuel => ⟨_, basic_recv_closed fuel (-1) hconn⟩
  | true =>
    by_cases hnothing : Nothing env.lib octets w.self.conn
    · exact drainEnds_of_null fun fuel => basic_recv_of_nothing harr hconn hnothing fuel
    · have hcarried := (hends.resolve_left (by simp [hconn])).resolve_left hnothing
      obtain ⟨s, hs, hrecv⟩ := basic_recv_of_something harr hconn hnothing
      rw [← hs] at hcarried
      obtain ⟨k, hk⟩ := @receive_returns _ _ env pending octets (w.setConn s) harr herr (pending s)
        [] s ⟨rfl, fun _ h => by cases h⟩ rfl hcarried
      refine ⟨k, fun fuel hf => ?_⟩
      obtain ⟨⟨n, p⟩, w', hrun⟩ := hk fuel hf
      have hwrap := (hrecv fuel).trans (afterPoll_ret hrun)
      have hcalls := recv_calls_or_fails hrun
      exact wrapUp_dispatches hwrap (show (w.setConn s).calls = w.calls from rfl) hcalls

/-- A machine that does not return keeps the drain from its end. -/
theorem drain_does_not_return (harr : Arrived env.lib pending octets) (herr : w.err = none)
    (hconn : w.self.connected = true) (hsome : ¬ Nothing env.lib octets w.self.conn)
    (hends : endsReceive env (pending w.self.conn) = false) : ¬ DrainEnds env w := by
  rintro ⟨k, hk⟩
  obtain ⟨s, hs, hrecv⟩ := basic_recv_of_something harr hconn hsome
  rw [← hs] at hends
  obtain ⟨k', hk'⟩ := @receive_does_not_return _ _ env pending octets (w.setConn s) harr herr
    (pending s) [] s ⟨rfl, fun _ h => by cases h⟩ rfl hends
  obtain ⟨r, w', hrun, _⟩ := hk (k + k' + 1) (by omega)
  have hdrain : fromPython (PyRabbitMQ_Connection_basic_recv env (k + k' + 1) (-1)) w =
      (.ret r, w') := hrun
  obtain ⟨a, w1, hbasic, _⟩ := ret_of_fromPython hdrain
  rw [hrecv] at hbasic
  unfold afterPoll at hbasic
  obtain ⟨x, w2, hmachine, _⟩ := Run.ret_of_bind hbasic
  exact hk' (k + k' + 1) (by omega) x w2 hmachine

end

/-! ## A socket that stays open -/

/-- A read of an open socket on which no complete frame is left. -/
theorem waitSocket_blocked : ∀ wire : List (List amqp_frame_t), wire.flatten = [] →
    ∃ s', Socket.waitSocket false [] wire = (.blocked, s') := by
  intro wire
  induction wire with
  | nil => exact fun _ => ⟨_, rfl⟩
  | cons chunk wire ih =>
    intro h
    rw [List.flatten_cons, List.append_eq_nil_iff] at h
    rw [Socket.waitSocket, h.1]
    exact ih h.2

/-- A read for a frame that none of them is. -/
theorem waitSocketFor_blocked (fits : amqp_frame_t → Bool) :
    ∀ (wire : List (List amqp_frame_t)) (queued buffered : List amqp_frame_t),
      (∀ f ∈ buffered ++ wire.flatten, fits f = false) →
      ∃ s', Socket.waitSocketFor false fits queued buffered wire = (.blocked, s') := by
  intro wire
  induction wire with
  | nil =>
    intro queued buffered h
    have hdrop : buffered.dropWhile (fun f => !fits f) = [] := by
      rw [List.dropWhile_eq_nil_iff]
      intro f hf
      rw [h f (List.mem_append_left _ hf)]
      rfl
    rw [Socket.waitSocketFor, hdrop]
    exact ⟨_, rfl⟩
  | cons chunk wire ih =>
    intro queued buffered h
    rw [Socket.waitSocketFor_next false queued chunk wire fun g hg =>
      h g (List.mem_append_left _ hg)]
    exact ih (queued ++ buffered) chunk fun f hf => h f (List.mem_append_right _ hf)

/-- The library over a socket that the peer does not close. A chunk of the wire without a frame is
a frame that is cut. -/
def live : RabbitMQC Socket :=
  { Socket.lib with
    amqp_simple_wait_frame := fun s => Socket.wait { s with closed := false }
    amqp_simple_wait_frame_on_channel := fun s => Socket.waitOn { s with closed := false } }

def liveEnv : Env Socket (Option PyErr) := { Socket.env with lib := live }

theorem live_arrived : Arrived live Socket.pending fun s => s.wire.length where
  order := by
    refine ⟨fun s f rest h => ?_, fun s c f rest h => ?_⟩
    · exact Socket.frameOrder.wait { s with closed := false } f rest h
    · exact Socket.frameOrder.waitOn { s with closed := false } c f rest h
  waits := by
    rintro ⟨queued, buffered, wire, closed⟩ h
    unfold Socket.pending at h
    rw [List.append_eq_nil_iff, List.append_eq_nil_iff] at h
    obtain ⟨⟨rfl, rfl⟩, hwire⟩ := h
    exact waitSocket_blocked wire hwire
  waitsOn := by
    rintro ⟨queued, buffered, wire, closed⟩ c h
    unfold Socket.pending at h
    rw [ofKey_append, ofKey_append, List.append_eq_nil_iff, List.append_eq_nil_iff] at h
    obtain ⟨⟨hqueued, hbuffered⟩, hwire⟩ := h
    have hother : ∀ f ∈ buffered ++ wire.flatten, decide (f.channel = c) = false := by
      intro f hf
      have hnone : ofKey amqp_frame_t.channel c (buffered ++ wire.flatten) = [] := by
        rw [ofKey_append, hbuffered, hwire]
        rfl
      exact Bool.eq_false_iff.mpr (List.filter_eq_nil_iff.mp hnone f hf)
    obtain ⟨s', hblocked⟩ := waitSocketFor_blocked (fun f => decide (f.channel = c)) wire queued
      buffered hother
    refine ⟨s', ?_⟩
    dsimp only [live, Socket.waitOn]
    rw [receive_of_empty hqueued]
    exact hblocked
  readable := by
    rintro ⟨queued, buffered, wire, closed⟩ h
    cases wire with
    | nil => cases h
    | cons chunk wire => exact ⟨Int.zero_lt_one, rfl⟩
  unreadable := by
    rintro ⟨queued, buffered, wire, closed⟩ h
    rw [List.length_eq_zero_iff] at h
    dsimp only at h
    rw [h]
    rfl
  select_keeps := fun _ => rfl
  opens := by
    rintro s c ⟨m, h⟩
    cases h

/-- A connection on whose socket this has arrived. -/
def arriving (wire : List (List amqp_frame_t)) : World Socket (Option PyErr) :=
  Socket.world ⟨[], [], wire, false⟩ none

/-- A drain without a timeout comes to an end, and does not wait, exactly where the connection is
closed, or nothing has arrived, or what has arrived carries the receive machine to its end. -/
theorem a_drain_ends_exactly_when_its_end_has_arrived (env : Env σ κ)
    (pending : σ → List amqp_frame_t) (octets : σ → Nat) (w : World σ κ)
    (harr : Arrived env.lib pending octets) (herr : w.err = none) :
    DrainEnds env w ↔ (w.self.connected = false ∨ Nothing env.lib octets w.self.conn ∨
      endsReceive env (pending w.self.conn) = true) := by
  refine ⟨fun h => ?_, drainEnds_of_ends harr herr⟩
  by_contra hnot
  rw [not_or, not_or, Bool.not_eq_false, Bool.not_eq_true] at hnot
  exact drain_does_not_return harr herr hnot.1 hnot.2.1 hnot.2.2 h

/-- A whole message has arrived. -/
theorem a_drain_ends_with_a_whole_message :
    DrainEnds liveEnv (arriving [[Socket.deliver 1, Socket.header 1, Socket.octet 65]]) := by
  refine (a_drain_ends_exactly_when_its_end_has_arrived liveEnv Socket.pending
    (fun s => s.wire.length) _ live_arrived rfl).mpr (Or.inr (Or.inr ?_))
  rfl

/-- A `basic.deliver` has arrived without its header, or a frame has arrived in part: the drain
finds octets, and waits for what is missing. -/
theorem a_drain_waits_for_the_rest_of_a_message :
    Arrived live Socket.pending (fun s => s.wire.length) ∧
    ¬ DrainEnds liveEnv (arriving [[Socket.deliver 1]]) ∧
    ¬ DrainEnds liveEnv (arriving [[]]) := by
  refine ⟨live_arrived, ?_, ?_⟩
  · exact drain_does_not_return live_arrived rfl rfl (fun h => absurd h.2 (by decide)) rfl
  · exact drain_does_not_return live_arrived rfl rfl (fun h => absurd h.2 (by decide)) rfl

end librabbitmq.non_blocking
