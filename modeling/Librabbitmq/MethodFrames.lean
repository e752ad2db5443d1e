-- The method frames at which the receive machine stops: in the place of a
-- `basic.deliver`, of a header or of a body. Nothing else that makes the machine fail
-- leaves an exception of AMQP.
import Librabbitmq.Drain
import Librabbitmq.Revivals
import Librabbitmq.Conversions

namespace librabbitmq.method_frames

open body_loop recv_run delivery

variable {σ κ : Type} {env : Env σ κ} {w w' : World σ κ}

/-- The machine reads a method on a channel where it does not expect one, and leaves
the connection state `s`. -/
inductive StopsAt (env : Env σ κ) (w : World σ κ) :
    Bool → amqp_channel_t → amqp_method_t → σ → Prop
  | first {skipped : List amqp_frame_t} {f : amqp_frame_t} {m : amqp_method_t} {s0 s : σ} :
      Skips env.lib w.self.conn skipped s0 → env.lib.amqp_simple_wait_frame s0 = (.ok f, s) →
      f.payload = .method m → leaving f.channel m = .altframe f.channel m →
      StopsAt env w false f.channel m s
  | header {piggyback : Bool} {d : Option (PyStr × PyMembers)} {ch : amqp_channel_t}
      {w0 : World σ κ} {f : amqp_frame_t} {m : amqp_method_t} {s : σ} :
      AtHeader env w piggyback d ch w0 →
      PyRabbitMQ_recv.waitHeader env.lib ch w0.self.conn = (.ok f, s) →
      f.payload = .method m → StopsAt env w piggyback f.channel m s
  | body {piggyback : Bool} {d : Option (PyStr × PyMembers)} {c : amqp_channel_t} {t : BitVec 64}
      {pd : PyMembers} {w1 : World σ κ} {fs : List amqp_frame_t} {f : amqp_frame_t}
      {m : amqp_method_t} {s1 s : σ} :
      Enters env w piggyback d c t pd w1 → Reads env c t w1.self.conn fs s1 →
      (received fs).toInt < t.toInt →
      env.lib.amqp_simple_wait_frame_on_channel s1 c = (.ok f, s) →
      f.payload = .method m → StopsAt env w piggyback f.channel m s

/-- The two worlds differ in what is read and pending only. -/
def AtState (w : World σ κ) (s : σ) (w' : World σ κ) : Prop := w'.self = { w.self with conn := s }

theorem AtState.read {s s' : σ} {f : amqp_frame_t} (h : AtState w s w') :
    AtState w s' (w'.afterRead f s') := by
  change { w'.self with conn := s' } = _
  rw [show w'.self = _ from h]

theorem atHeader_state {piggyback : Bool} {d : Option (PyStr × PyMembers)} {ch : amqp_channel_t}
    {w0 : World σ κ} (h : AtHeader env w piggyback d ch w0) : AtState w w0.self.conn w0 := by
  cases h <;> rfl

theorem enters_state {piggyback : Bool} {d : Option (PyStr × PyMembers)} {c : amqp_channel_t}
    {t : BitVec 64} {pd : PyMembers} {w1 : World σ κ} (h : Enters env w piggyback d c t pd w1) :
    AtState w w1.self.conn w1 := by
  cases h with
  | mk hat hr hp hb =>
    cases hat <;> rfl

theorem row_state {s0 : σ} {c : amqp_channel_t} {t : BitVec 64} {fs : List amqp_frame_t}
    {v : BodyVars} {w1 : World σ κ} (hw : AtState w s0 w1) (h : Row env c t w1 fs v w') :
    AtState w w'.self.conn w' := by
  obtain ⟨_, _, _, hself⟩ := row_keeps h
  unfold AtState at hw ⊢
  rw [hself, hw]

/-- A run that can come to such a method does, with the fuel to get there. -/
theorem recv_of_stopsAt {piggyback : Bool} {c : amqp_channel_t} {m : amqp_method_t} {s : σ}
    (h : StopsAt env w piggyback c m s) (p : Option PyMembers) :
    ∃ k w2, AtState w s w2 ∧ ∀ fuel, k < fuel →
      PyRabbitMQ_recv env fuel p piggyback w = PyRabbitMQ_recv.altframe env fuel p c m w2 := by
  cases h with
  | @first skipped f m s0 s hs hr hp hleave =>
    refine ⟨skipped.length, w.afterReads (skipped ++ [f]) s, rfl, fun fuel hf => ?_⟩
    have hfirst : PyRabbitMQ_recv.first env () (w.afterReads skipped s0) =
        (.ret (.inr (.altframe f.channel m)), w.afterReads (skipped ++ [f]) s) := by
      rw [first_leaves (w := w.afterReads skipped s0) hr hp, hleave]
      simp
    have hloop := Run.loop_leave (turns_of_skips hs) hfirst hf
    unfold PyRabbitMQ_recv
    rw [if_neg (by simp), Run.bind_ret hloop]
  | @header piggyback d ch w0 f m s hat hr hp =>
    obtain ⟨k, hk⟩ := recv_of_atHeader hat
    refine ⟨k, w0.afterRead f s, (atHeader_state hat).read, fun fuel hf => ?_⟩
    rw [hk fuel hf p]
    unfold PyRabbitMQ_recv.content
    rw [Run.bind_ret (readFrame_ok hr)]
    dsimp only
    rw [hp]
  | @body piggyback d c t pd w1 fs f m s1 s he hreads hlt hr hp =>
    obtain ⟨k, hk⟩ := recv_of_enters he
    obtain ⟨w2, hrow, rfl, hloop⟩ := loop_of_reads (p := p.isSome) hreads
    refine ⟨max k fs.length, w2.afterRead f s, (row_state (enters_state he) hrow).read,
      fun fuel hf => ?_⟩
    have hends := hloop _ _ fuel (.method f m s hlt hr hp) (by omega)
    rw [hk fuel (by omega) p]
    unfold PyRabbitMQ_recv.body
    rw [Run.bind_ret hends]

/-! ## The other ends -/

/-- The run is the one that such a method leaves. -/
def Stopped (env : Env σ κ) (fuel : Nat) (p : Option PyMembers) (piggyback : Bool)
    (w : World σ κ) (r : Outcome (Int × Option PyMembers) × World σ κ) : Prop :=
  ∃ c m s w2, StopsAt env w piggyback c m s ∧ AtState w s w2 ∧
    PyRabbitMQ_recv.altframe env fuel p c m w2 = r

variable {fuel : Nat} {p p' : Option PyMembers} {piggyback : Bool} {n : Int}

theorem applyCallback_quiet {tag : PyStr} {ch : Int} {pd info : PyMembers}
    {cells : List (Option UInt8)} (hquiet : Quiet w.err)
    (h : PyRabbitMQ_ApplyCallback env tag ch pd info cells w = (.ret n, w')) (hn : n < 0) :
    Quiet w'.err := by
  cases hc : w.self.consumer ch tag with
  | none =>
    obtain ⟨err, herr, hcall⟩ := applyCallback_missing env pd info cells hc
    rw [hcall] at h
    cases h
    rcases herr with rfl | rfl
    · exact hquiet
    · exact quiet_of_none rfl
  | some x =>
    obtain ⟨callback, obj⟩ := x
    rw [applyCallback_found hc] at h
    split at h
    · cases h
      exact quiet_raised (by decide) (by decide)
    · cases h
      exact absurd hn (by decide)

theorem finish_quiet {d : Option (PyStr × PyMembers)} {c : amqp_channel_t} {t : BitVec 64}
    {pd : PyMembers} {v : BodyVars} (hquiet : Quiet w.err)
    (h : PyRabbitMQ_recv.finish env p d c t pd v w = (.ret (n, p'), w')) (hn : n < 0) :
    Quiet w'.err := by
  unfold PyRabbitMQ_recv.finish at h
  cases p with
  | some dict =>
    dsimp only at h
    split at h
    · cases h
      exact hquiet
    · obtain ⟨dict1, w1, hdict1, h⟩ := Run.ret_of_bind h
      obtain ⟨dict2, w2, hdict2, h⟩ := Run.ret_of_bind h
      obtain ⟨dict3, w3, hdict3, h⟩ := Run.ret_of_bind h
      cases h
      exact absurd hn (by decide)
  | none =>
    cases hview : v.view with
    | none =>
      rw [hview] at h
      cases h
      exact hquiet
    | some view =>
      rw [hview] at h
      cases d with
      | none => cases h
      | some d =>
        obtain ⟨retval, w1, hcall, h⟩ := Run.ret_of_bind h
        cases h
        exact applyCallback_quiet hquiet hcall hn

theorem body_ends {d : Option (PyStr × PyMembers)} {c : amqp_channel_t} {t : BitVec 64}
    {pd : PyMembers} {w1 : World σ κ} (he : Enters env w piggyback d c t pd w1)
    (hquiet : Quiet w1.err)
    (h : PyRabbitMQ_recv.body env fuel p d c t pd w1 = (.ret (n, p'), w')) (hn : n < 0) :
    Stopped env fuel p piggyback w (.ret (n, p'), w') ∨ Quiet w'.err := by
  obtain ⟨e, w3, hloop, hrest⟩ := Run.ret_of_bind h
  obtain ⟨fs, w2, hrow, hends⟩ := frames_of_loop hloop
  have hquiet2 : Quiet w2.err := by
    rw [(row_keeps hrow).2.1]
    exact hquiet
  cases hends with
  | full => exact Or.inr (finish_quiet hquiet2 hrest hn)
  | cut status hs s => exact Or.inr (finish_quiet (w := w2.setConn s) hquiet2 hrest hn)
  | method f m s hlt hr hp =>
    exact Or.inl ⟨f.channel, m, s, _, .body he hrow.reads hlt hr hp,
      (row_state (enters_state he) hrow).read, hrest⟩
  | unexpected =>
    cases hrest
    exact absurd hn (by decide)
  | noMemory =>
    cases hrest
    exact absurd hn (by decide)
  | whole f s =>
    exact Or.inr (finish_quiet (w := (w2.afterRead f s).setErr _)
      (fromStringAndSize_quiet hquiet2) hrest hn)
  | viewed f s => exact Or.inr (finish_quiet (w := w2.afterRead f s) hquiet2 hrest hn)

theorem content_ends {d : Option (PyStr × PyMembers)} {ch : amqp_channel_t} {w0 : World σ κ}
    (hat : AtHeader env w piggyback d ch w0) (hquiet : Quiet w.err)
    (h : PyRabbitMQ_recv.content env fuel p d ch w0 = (.ret (n, p'), w')) (hn : n < 0) :
    Stopped env fuel p piggyback w (.ret (n, p'), w') ∨ Quiet w'.err := by
  have hquiet0 : Quiet w0.err := by
    rw [(atHeader_books hat).2.2]
    exact hquiet
  unfold PyRabbitMQ_recv.content at h
  rcases hr : PyRabbitMQ_recv.waitHeader env.lib ch w0.self.conn with ⟨r, s⟩
  cases r with
  | blocked =>
    rw [Run.bind_hang (readFrame_blocked hr)] at h
    cases h
  | failed status hstatus =>
    rw [Run.bind_ret (readFrame_failed hr)] at h
    cases h
    exact Or.inr hquiet0
  | ok f =>
    rw [Run.bind_ret (readFrame_ok hr)] at h
    dsimp only at h
    cases hp : f.payload with
    | method m =>
      rw [hp] at h
      exact Or.inl ⟨f.channel, m, s, _, .header hat hr hp, (atHeader_state hat).read, h⟩
    | header t props =>
      rw [hp] at h
      obtain ⟨pd, w1, hpd, hbody⟩ := Run.ret_of_bind h
      obtain ⟨err, herr, rfl, hquiet1⟩ :=
        ret_of_withErr (w := w0.afterRead f s) (toProperties_quiet props [] hquiet0) hpd
      exact body_ends (.mk hat hr hp herr) hquiet1 hbody hn
    | body_fragment b =>
      rw [hp] at h
      cases h
      exact absurd hn (by decide)
    | other ft hft =>
      rw [hp] at h
      cases h
      exact absurd hn (by decide)

/-- A run that fails has stopped at a method, or no exception of AMQP is pending. -/
theorem recv_ends (hquiet : Quiet w.err)
    (h : PyRabbitMQ_recv env fuel p piggyback w = (.ret (n, p'), w')) (hn : n < 0) :
    Stopped env fuel p piggyback w (.ret (n, p'), w') ∨ Quiet w'.err := by
  cases piggyback with
  | true =>
    unfold PyRabbitMQ_recv at h
    exact content_ends .get hquiet h hn
  | false =>
    unfold PyRabbitMQ_recv at h
    rw [if_neg (by simp)] at h
    obtain ⟨e, w2, hloop, h⟩ := Run.ret_of_bind h
    obtain ⟨k, b, w1, hturns, hleave⟩ := Run.turns_of_loop hloop
    obtain ⟨fs, hs, hw⟩ := skips_of_turns hturns
    have hquiet1 : Quiet w1.err := by
      rw [hw]
      exact hquiet
    rcases first_cases env w1 with ⟨s, _, hfirst⟩ | ⟨status, s, _, hfirst⟩ | ⟨f, s, _, _, hfirst⟩ |
      ⟨f, m, s, hr, hp, hfirst⟩
    · rw [hfirst] at hleave
      cases hleave
    · rw [hfirst] at hleave
      cases hleave
      cases h
      exact Or.inr hquiet1
    · rw [hfirst] at hleave
      cases hleave
    · rw [hfirst] at hleave
      cases hleave
      rcases leaving_cases f.channel m with ⟨m, rfl, hleaving⟩ | hleaving
      · rw [hleaving] at h
        obtain ⟨d, w3, hd, hcontent⟩ := Run.ret_of_bind h
        cases hinfo : deliveryInfo m with
        | none =>
          obtain ⟨err, hcrash⟩ := delivery_crash (w := w1.afterRead f s) hinfo
          rw [hcrash] at hd
          cases hd
        | some info =>
          rw [delivery_ret hinfo] at hd
          cases hd
          have hat := AtHeader.consume (w := w) hs hr hp hinfo
          have hsame : w1.afterRead f s = w.afterReads (fs ++ [f]) s := by
            rw [hw]
            simp
          rw [hsame] at hcontent
          exact content_ends hat hquiet hcontent hn
      · rw [hleaving] at h
        refine Or.inl ⟨f.channel, m, s, _, .first hs hr hp hleaving, ?_, h⟩
        rw [hw]
        rfl

/-! ## What the method leaves -/

theorem revive_revives {channel : UInt32} {r : Int} {e : PyErr} (he : e.cls = .ChannelError)
    (hrun : PyRabbitMQ_revive_channel env fuel channel (w.setErr (some e)) = (.ret r, w')) :
    w'.Raises .ConnectionError ∨
      w'.Raises .ChannelError ∧ ∃ s', Revives env.lib channel.toUInt16 w.self.conn s' := by
  have hends := revive_ends env fuel hrun
  generalize hw1 : w.setErr (some e) = w1 at hends
  cases hends with
  | lost hlost => exact Or.inl hlost.raises
  | granted hgranted =>
    subst hw1
    exact Or.inr ⟨⟨e, rfl, he⟩, _, .granted hgranted⟩
  | chained hchained he' =>
    subst hw1
    exact Or.inr ⟨⟨_, rfl, he'⟩, _, revives_iff.mpr (Or.inr hchained)⟩

/-- What is pending behind a method that the machine stops at: a `ConnectionError`, or
the `ChannelError` of a `channel.close` behind which the channel is revived. -/
theorem altframe_raises {c : amqp_channel_t} {m : amqp_method_t}
    {r : Int × Option PyMembers}
    (h : PyRabbitMQ_recv.altframe env fuel p c m w = (.ret r, w')) :
    w'.Raises .ConnectionError ∨
      w'.Raises .ChannelError ∧ ∃ close s', m = .channel_close close ∧
        Revives env.lib c w.self.conn s' := by
  unfold PyRabbitMQ_recv.altframe PyRabbitMQ_SetErr_ReceivedFrame at h
  cases m with
  | channel_close close =>
    obtain ⟨_, w1, hset, hrest⟩ := Run.ret_of_bind h
    cases hrest
    dsimp only at hset
    rw [PyErr_SetString_bind] at hset
    obtain ⟨r', w2, hrun, hrest⟩ := Run.ret_of_bind hset
    cases hrest
    rcases revive_revives rfl hrun with hraises | ⟨hraises, s', hrevives⟩
    · exact Or.inl hraises
    · rw [UInt16.toUInt16_toUInt32] at hrevives
      exact Or.inr ⟨hraises, close, s', rfl, hrevives⟩
  | connection_close close =>
    cases h
    exact Or.inl (closed_lost env w rfl).raises
  | basic_deliver m =>
    cases h
    exact Or.inl ⟨_, rfl, rfl⟩
  | basic_get_ok m =>
    cases h
    exact Or.inl ⟨_, rfl, rfl⟩
  | other id =>
    cases h
    exact Or.inl ⟨_, rfl, rfl⟩

/-- A `channel.close` behind which the channel can be revived leaves a `ChannelError`. -/
theorem altframe_of_revives {c : amqp_channel_t} {s s' : σ} (close : amqp_close_t)
    (h : Revives env.lib c s s') : ∃ k, ∀ fuel, k < fuel → ∀ (w : World σ κ), w.self.conn = s →
      ∀ p, ∃ w', PyRabbitMQ_recv.altframe env fuel p c (.channel_close close) w =
        (.ret (-1, p), w') ∧ w'.Raises .ChannelError := by
  obtain ⟨k, hk⟩ := revive_of_revives (κ := κ) h
  refine ⟨k, fun fuel hf w hconn p => ?_⟩
  generalize he : (⟨.ChannelError, "channel error %d, message: %.*s",
    [.int close.reply_code.toNat, .bytes close.reply_text]⟩ : PyErr) = e
  have hcls : e.cls = .ChannelError := by rw [← he]
  obtain ⟨r, err, hrun, herr⟩ :=
    hk fuel hf c.toUInt32 (w.setErr (some e)) (UInt16.toUInt16_toUInt32 c) hconn
  refine ⟨((w.setErr (some e)).setConn s').setErr err, ?_, ?_⟩
  · unfold PyRabbitMQ_recv.altframe PyRabbitMQ_SetErr_ReceivedFrame
    dsimp only
    rw [he, Run.bind_assoc, PyErr_SetString_bind, Run.bind_assoc, Run.bind_ret hrun]
    rfl
  · rcases herr with rfl | ⟨e', rfl, he'⟩
    · exact ⟨e, rfl, hcls⟩
    · exact ⟨e', rfl, he'⟩

end librabbitmq.method_frames
