-- The laws of isolation. Whatever frames come, a call of a consumer's callback
-- is made of frames of one channel: a `basic.deliver`, a header behind it, and
-- the body frames behind that. Only the 32-bit counter of the body loop can drop
-- octets of them.
import Librabbitmq.Drain

namespace librabbitmq.isolation

open body_loop recv_run delivery drain

variable {σ κ : Type} {env : Env σ κ} {w w1 : World σ κ} {timeout : Rat}

/-! ## The law -/

/-- A wait on a channel gives frames of that channel. -/
def OnChannel (lib : RabbitMQC σ) : Prop :=
  ∀ s c f s', lib.amqp_simple_wait_frame_on_channel s c = (.ok f, s') → f.channel = c

/-- A `basic.deliver`. -/
def IsDeliver (f : amqp_frame_t) : Prop := ∃ m, f.payload = .method (.basic_deliver m)

/-- The frames that a call read make up the call of a callback: the consumer is
the one of the first `basic.deliver`, the properties come from a header of its
channel behind it, and the body is all the body frames of that channel behind
the header. -/
inductive ComesFrom (env : Env σ κ) (w : World σ κ) (call : Call κ) : List amqp_frame_t → Prop
  | mk {before between rest : List amqp_frame_t} {f h : amqp_frame_t} {m : amqp_basic_deliver_t}
      {info pd : PyMembers} {size : BitVec 64} {props : amqp_basic_properties_t}
      {err : Option PyErr} :
      (∀ g ∈ before, ¬ IsDeliver g) →
      f.payload = .method (.basic_deliver m) →
      call.channel = f.channel.toNat →
      deliveryInfo m = some (call.consumer_tag, info) →
      w.self.consumer call.channel call.consumer_tag =
        some (call.callback, call.message.channel) →
      h.channel = f.channel →
      h.payload = .header size props →
      basic_properties_to_PyDict props [] w.err = .ret (pd, err) →
      env.python.afterGetAttr err = none →
      call.message.properties = .dict pd →
      call.message.delivery_info = .dict info →
      call.message.body =
        .view ((bodyOctets (rest.filter fun g => g.channel = f.channel)).map some) →
      ComesFrom env w call (before ++ f :: (between ++ h :: rest))

/-- A call of `_basic_recv` calls at most one callback, with what comes from the
frames that it read. -/
def Isolated (env : Env σ κ) (timeout : Rat) (w : World σ κ) : Prop :=
  ∀ fuel w', (PyRabbitMQ_Connection_basic_recv env fuel timeout w).2 = w' →
    w'.calls = w.calls ∨ ∃ call rs, w'.calls = w.calls ++ [call] ∧ w'.reads = w.reads ++ rs ∧
      ComesFrom env w call rs

/-- What a script of frames promises to a run of the receive machine. -/
structure Script (env : Env σ κ) (w : World σ κ) : Prop where
  /-- A `basic.deliver` comes on a channel that is not 0. -/
  deliver : ∀ d c w0, AtHeader env w false d c w0 → c ≠ 0
  /-- The body frames behind a header bring no more octets than it announces. -/
  fits : ∀ d c t pd w1 fs s, Enters env w false d c t pd w1 →
    env.lib.GivesOn c w1.self.conn fs s → (∀ f ∈ fs, f.IsBody) →
    (bodyOctets fs).length ≤ t.toNat
  /-- No read behind them fails. -/
  succeeds : ∀ d c t pd w1 fs s status hs s', Enters env w false d c t pd w1 →
    env.lib.GivesOn c w1.self.conn fs s → (∀ f ∈ fs, f.IsBody) →
    env.lib.amqp_simple_wait_frame_on_channel s c ≠ (.failed status hs, s')

/-- In a content that is handed to a callback, no octets come before the last lap
of its body frames. -/
def NoLapLost (env : Env σ κ) (timeout : Rat) (w : World σ κ) : Prop :=
  ∀ s, Starts env timeout w s → ∀ tag info c t pd w1 fs cells s1 x,
    Enters env (w.setConn s) false (some (tag, info)) c t pd w1 →
    env.python.afterGetAttr w1.err = none → w1.self.consumer c.toNat tag = some x →
    Delivers env c t w1.self.conn fs cells s1 → lost fs = []

/-! ## The frames of a run -/

theorem gives_channel (hon : OnChannel env.lib) {c : amqp_channel_t} {fs : List amqp_frame_t} :
    ∀ {s s' : σ}, env.lib.GivesOn c s fs s' → ∀ f ∈ fs, f.channel = c := by
  induction fs with
  | nil =>
    intro s s' _ f hf
    cases hf
  | cons g fs ih =>
    rintro s s' ⟨s1, hr, hg⟩ f hf
    rcases List.mem_cons.mp hf with rfl | hf
    · exact hon s c f s1 hr
    · exact ih hg f hf

theorem filter_channel {c : amqp_channel_t} {fs : List amqp_frame_t}
    (h : ∀ f ∈ fs, f.channel = c) : (fs.filter fun g => g.channel = c) = fs := by
  rw [List.filter_eq_self]
  intro f hf
  exact decide_eq_true (h f hf)

/-- What the machine has read when it enters the body loop. -/
theorem enters_log (hon : OnChannel env.lib)
    (hdel : ∀ d c w0, AtHeader env w false d c w0 → c ≠ 0) {tag : PyStr} {info pd : PyMembers}
    {c : amqp_channel_t} {t : BitVec 64} (he : Enters env w false (some (tag, info)) c t pd w1) :
    ∃ skipped f m h props, w1.reads = w.reads ++ (skipped ++ [f, h]) ∧
      (∀ g ∈ skipped, ¬ g.IsMethod) ∧ f.payload = .method (.basic_deliver m) ∧
      deliveryInfo m = some (tag, info) ∧ f.channel = c ∧ h.channel = c ∧
      h.payload = .header t props ∧
      basic_properties_to_PyDict props [] w.err = .ret (pd, w1.err) := by
  cases he with
  | mk hat hr hp hb =>
    rename_i ch w0 h s props err
    have hne := hdel _ _ _ hat
    have hchannel : h.channel = ch := by
      unfold PyRabbitMQ_recv.waitHeader at hr
      rw [if_neg hne] at hr
      exact hon _ _ _ _ hr
    cases hat with
    | @consume skipped f m _ s0 s1 hs hw hm hd =>
      refine ⟨skipped, f, m, h, props, ?_, hs.2, hm, hd, hchannel.symm, rfl, hp, hb⟩
      simp [World.setErr, World.afterReads, World.setConn]

/-! ## The first of a kind in a row -/

/-- The first frame of a kind splits a row in one way only. -/
theorem first_unique {α : Type} {P : α → Prop} {x y : α} {post post' : List α} :
    ∀ {pre pre' : List α}, pre ++ x :: post = pre' ++ y :: post' → P x → P y →
      (∀ z ∈ pre, ¬ P z) → (∀ z ∈ pre', ¬ P z) → pre = pre' ∧ x = y ∧ post = post' := by
  intro pre
  induction pre with
  | nil =>
    intro pre' h hx hy _ hpre'
    cases pre' with
    | nil =>
      cases h
      exact ⟨rfl, rfl, rfl⟩
    | cons z pre' =>
      cases h
      exact absurd hx (hpre' x (by simp))
  | cons z pre ih =>
    intro pre' h hx hy hpre hpre'
    cases pre' with
    | nil =>
      cases h
      exact absurd hy (hpre y (by simp))
    | cons z' pre' =>
      rw [List.cons_append, List.cons_append] at h
      injection h with hz h
      subst hz
      obtain ⟨rfl, hxy, hpost⟩ := ih h hx hy (fun u hu => hpre u (by simp [hu]))
        fun u hu => hpre' u (by simp [hu])
      exact ⟨rfl, hxy, hpost⟩

theorem not_isHeader_of_isBody {f : amqp_frame_t} (h : f.IsBody) : ¬ f.IsHeader := by
  rintro ⟨size, props, hp⟩
  obtain ⟨b, hb⟩ := h
  rw [hp] at hb
  cases hb

theorem not_isDeliver_of_not_isMethod {f : amqp_frame_t} (h : ¬ f.IsMethod) : ¬ IsDeliver f := by
  rintro ⟨m, hm⟩
  exact h ⟨_, hm⟩

/-- The body of a call that comes from a row is the body frames of the row. -/
theorem body_of_comesFrom {call : Call κ} {c : amqp_channel_t} {skipped fs : List amqp_frame_t}
    {f h : amqp_frame_t} (hcall : ComesFrom env w call (skipped ++ f :: h :: fs))
    (hskipped : ∀ g ∈ skipped, ¬ g.IsMethod) (hf : IsDeliver f) (hc : f.channel = c)
    (hbodies : ∀ g ∈ fs, g.IsBody) (hfs : ∀ g ∈ fs, g.channel = c) :
    call.message.body = .view ((bodyOctets fs).map some) := by
  generalize hrow : skipped ++ f :: h :: fs = row at hcall
  cases hcall with
  | @mk before between rest f' h' m info pd size props err hbefore hm _ _ _ _ hp _ _ _ _ hbody =>
    obtain ⟨-, rfl, htail⟩ := first_unique hrow hf ⟨m, hm⟩
      (fun g hg => not_isDeliver_of_not_isMethod (hskipped g hg)) hbefore
    -- behind the header of the row come bodies only
    cases between with
    | nil =>
      rw [List.nil_append] at htail
      injection htail with _ hrest
      subst hrest
      rw [hbody, hc, filter_channel hfs]
    | cons g between =>
      rw [List.cons_append] at htail
      injection htail with _ hrest
      have hmem : h' ∈ fs := by
        rw [hrest]
        simp
      exact absurd ⟨size, props, hp⟩ (not_isHeader_of_isBody (hbodies h' hmem))

/-! ## Contents of a socket -/

section

variable {t : BitVec 64} {fs : List amqp_frame_t} {callback : Option PyErr}

theorem socket_onChannel : OnChannel Socket.lib := fun _ _ _ _ h => Socket.waitOn_channel h

/-- A socket that stays open and brings no octets too many on the channel is a script. -/
theorem script_content {all : List amqp_frame_t} {s1 : Socket}
    (hall : Socket.env.lib.GivesOn 1 (atBody t fs callback).self.conn all s1)
    (hend : ∀ f s', Socket.env.lib.amqp_simple_wait_frame_on_channel s1 1 ≠ (.ok f, s'))
    (hfit : (bodyOctets all).length ≤ t.toNat) :
    Script Socket.env (Socket.world (.content t fs) callback) := by
  obtain ⟨info, henters⟩ := enters_content t fs callback
  constructor
  · intro d c w0 hat
    obtain ⟨_, hat'⟩ := atHeader_content t fs callback
    obtain ⟨-, rfl, -⟩ := atHeader_unique hat' hat
    decide
  · intro d c t' pd w1 gs s he hg _
    obtain ⟨-, rfl, rfl, -, rfl⟩ := enters_unique henters he
    obtain ⟨rest, rfl⟩ := prefix_of_all hall hend hg
    rw [bodyOctets_append, List.length_append] at hfit
    omega
  · intro d c t' pd w1 gs s status hs s' he hg _
    obtain ⟨-, rfl, rfl, -, rfl⟩ := enters_unique henters he
    exact Socket.waitOn_ne_failed (Socket.givesOn_closed hg) 1

/-- One octet, `n` empty frames, and one octet more. -/
def twoOctets (n : Nat) : List amqp_frame_t :=
  (Socket.octet 7 :: List.replicate n Socket.emptyBody) ++
    [Socket.octet 8]

theorem bodyOctets_replicate (n : Nat) :
    bodyOctets (List.replicate n Socket.emptyBody) = [] := by
  induction n with
  | zero => rfl
  | succ n ih =>
    rw [List.replicate_succ, bodyOctets_cons, ih]
    rfl

theorem first_octet (n : Nat) : bodyOctets
    (Socket.octet 7 :: List.replicate n Socket.emptyBody) = [7] := by
  rw [bodyOctets_cons, bodyOctets_replicate]
  rfl

theorem octets_twoOctets (n : Nat) : bodyOctets (twoOctets n) = [7, 8] := by
  unfold twoOctets
  rw [bodyOctets_append, first_octet]
  rfl

theorem bodies_twoOctets (n : Nat) : ∀ f ∈ twoOctets n, f.IsBody ∧ f.channel = 1 := by
  intro f hf
  unfold twoOctets at hf
  rcases List.mem_append.mp hf with hf | hf
  · rcases List.mem_cons.mp hf with rfl | hf
    · exact ⟨⟨_, rfl⟩, rfl⟩
    · rw [List.eq_of_mem_replicate hf]
      exact ⟨⟨_, rfl⟩, rfl⟩
  · rw [List.mem_singleton.mp hf]
    exact ⟨⟨_, rfl⟩, rfl⟩

/-- When the frames before the last fill a lap, the callback gets the last alone. -/
theorem delivers_twoOctets {n : Nat} (hn : n + 1 = 2 ^ 32) :
    Delivers Socket.env 1 2 ⟨[], twoOctets n, [], false⟩ (twoOctets n) [some 8]
      ⟨[], [], [], false⟩ := by
  have hbodies := bodies_twoOctets n
  have hshort : ((bodyOctets (Socket.octet 7 ::
      List.replicate n Socket.emptyBody)).length : Int) < (2 : BitVec 64).toInt := by
    rw [first_octet]
    decide
  have hreads : Reads Socket.env 1 2 ⟨[], twoOctets n, [], false⟩
      (Socket.octet 7 :: List.replicate n Socket.emptyBody)
      ⟨[], [Socket.octet 8], [], false⟩ := by
    refine ⟨?_, ?_, goesOver_of_short hshort, fun _ => rfl⟩
    · exact Socket.givesOn_buffered false 1 _ _ fun f hf =>
        (hbodies f (List.mem_append_left _ hf)).2
    · exact fun f hf => (hbodies f (List.mem_append_left _ hf)).1
  have hlt : (received (Socket.octet 7 ::
      List.replicate n Socket.emptyBody)).toInt < (2 : BitVec 64).toInt := by
    unfold received
    rw [first_octet]
    decide
  have hfull : (2 : BitVec 64).toInt ≤ (received (twoOctets n)).toInt := by
    unfold received
    rw [octets_twoOctets]
    decide
  refine Delivers.viewed hreads hlt rfl ⟨_, rfl⟩ ?_ hfull
  rw [List.length_cons, List.length_replicate, hn, Nat.mod_self]

theorem lost_twoOctets {n : Nat} (hn : n + 1 = 2 ^ 32) : lost (twoOctets n) = [7] := by
  have hlen : (Socket.octet 7 ::
      List.replicate n Socket.emptyBody).length = 2 ^ 32 := by
    rw [List.length_cons, List.length_replicate, hn]
  unfold lost twoOctets
  rw [List.length_append, hlen, List.length_singleton, Nat.add_sub_cancel, Nat.div_self (by omega),
    Nat.one_mul, ← hlen, List.take_left, first_octet]

end

/-! ## The law, both ways -/

theorem isolated_of_noLapLost (hon : OnChannel env.lib)
    (hs : ∀ s, Starts env timeout w s → Script env (w.setConn s)) (h : NoLapLost env timeout w) :
    Isolated env timeout w := by
  rintro fuel w' rfl
  rcases basic_recv_log env fuel timeout w with ⟨s, hstart, hreads, hcalls⟩ | ⟨_, hcalls⟩
  · rw [hreads, hcalls]
    rcases consume_cases env fuel (w.setConn s) with
      ⟨tag, info, c, t, pd, w1, fs, cells, s1, w2, callback, obj, he, hd, hafter, hc, herr, hrun⟩ |
      ⟨d, c, t, pd, w1, fs, e, s1, w2, he, hb, hkeep, _, hrun⟩ | ⟨w1, hu, hrun⟩ | hf
    · right
      have hscript := hs s hstart
      obtain ⟨skipped, f, m, hdr, props, hlog, hskipped, hm, hinfo, rfl, hch, hp, hpd⟩ :=
        enters_log hon hscript.deliver he
      obtain ⟨s2, hgives⟩ := gives_of_delivers hd
      have hbodies := bodies_of_delivers hd
      have hfs := gives_channel hon hgives
      have hnone := h s hstart _ _ _ _ _ _ _ _ _ _ he herr hc hd
      have hcells := (delivers_all_iff hd (hscript.fits _ _ _ _ _ _ _ he hgives hbodies)
        fun s1 status hst s2 hg => hscript.succeeds _ _ _ _ _ _ _ _ _ _ he hg hbodies).mpr hnone
      rw [enters_consumer he] at hc
      refine ⟨⟨f.channel.toNat, tag, callback, ⟨obj, .dict pd, .dict info, .view cells⟩⟩,
        skipped ++ f :: ([] ++ hdr :: fs), ?_, ?_, ?_⟩
      · rw [hrun]
        unfold called
        rw [hafter.calls, (enters_books he).1]
        rfl
      · rw [hrun]
        unfold called
        rw [hafter.reads, hlog]
        simp [World.setConn]
      · refine .mk (fun g hg => not_isDeliver_of_not_isMethod (hskipped g hg)) hm rfl hinfo hc hch
          hp hpd herr rfl rfl ?_
        rw [filter_channel hfs, hcells]
    · rw [hrun]
      exact Or.inl hkeep
    · rw [hrun]
      exact Or.inl (unexpected_books hu).1
    · exact Or.inl hf.calls
  · exact Or.inl hcalls

theorem noLapLost_of_isolated (hon : OnChannel env.lib)
    (hs : ∀ s, Starts env timeout w s → Script env (w.setConn s)) (h : Isolated env timeout w) :
    NoLapLost env timeout w := by
  rintro s hstart tag info c t pd w1 fs cells s1 ⟨callback, obj⟩ he herr hc hd
  have hscript := hs s hstart
  obtain ⟨skipped, f, m, hdr, props, hlog, hskipped, hm, hinfo, rfl, hch, hp, hpd⟩ :=
    enters_log hon hscript.deliver he
  obtain ⟨s2, hgives⟩ := gives_of_delivers hd
  have hbodies := bodies_of_delivers hd
  obtain ⟨k1, h1⟩ := basic_recv_of_starts hstart
  obtain ⟨k2, w2, hafter, h2⟩ := recv_of_delivers he hd hc herr
  -- the run with the fuel to get to the callback
  have hkeep := afterPoll_log env (k1 + k2 + 1) (w.setConn s)
  rw [← h1 (k1 + k2 + 1) (by omega), h2 (k1 + k2 + 1) (by omega)] at hkeep
  obtain ⟨hreads, hcalls⟩ := hkeep
  unfold called at hreads hcalls
  rw [hafter.reads, hlog] at hreads
  rw [hafter.calls, (enters_books he).1] at hcalls
  rcases h (k1 + k2 + 1) _ rfl with hnone | ⟨call, rs, hcall, hrs, hfrom⟩
  · rw [hcalls] at hnone
    simp [World.setConn] at hnone
  · rw [hcalls] at hcall
    rw [hreads] at hrs
    have hcall' := List.append_cancel_left hcall
    injection hcall' with hcall'
    subst hcall'
    have hrow : rs = skipped ++ f :: hdr :: fs := by
      simp only [World.setConn, List.append_assoc, List.append_cancel_left_eq] at hrs
      rw [← hrs]
      simp
    subst hrow
    have hbody := body_of_comesFrom hfrom hskipped ⟨m, hm⟩ rfl hbodies (gives_channel hon hgives)
    injection hbody with hbody
    exact (delivers_all_iff hd (hscript.fits _ _ _ _ _ _ _ he hgives hbodies)
      fun s1 status hst s2 hg => hscript.succeeds _ _ _ _ _ _ _ _ _ _ he hg hbodies).mp hbody

/-- Whatever frames a script brings, a call of `_basic_recv` calls at most one
callback, with what comes from frames of its own channel, exactly when no octets
come before the last lap of a body. -/
theorem a_call_is_of_its_own_channel_exactly_when_no_lap_is_lost (env : Env σ κ) (timeout : Rat)
    (w : World σ κ) (hon : OnChannel env.lib)
    (hs : ∀ s, Starts env timeout w s → Script env (w.setConn s)) :
    Isolated env timeout w ↔ NoLapLost env timeout w :=
  ⟨noLapLost_of_isolated hon hs, isolated_of_noLapLost hon hs⟩

/-- The body frames of a delivery, with a delivery on channel 2 between them. -/
def crossing : List amqp_frame_t :=
  [Socket.octet 7, ⟨2, .method (.basic_deliver ⟨[116, 97, 103], 1, false, [], []⟩)⟩,
    ⟨2, .header 2 .empty⟩, Socket.octet 8, ⟨2, .body_fragment ⟨[1], by decide⟩⟩, Socket.octet 9,
    ⟨2, .body_fragment ⟨[2], by decide⟩⟩]

theorem gives_crossing : ∃ s,
    Socket.env.lib.GivesOn 1 (atBody 3 crossing none).self.conn
      [Socket.octet 7, Socket.octet 8, Socket.octet 9] s ∧
    ∀ f s', Socket.env.lib.amqp_simple_wait_frame_on_channel s 1 ≠ (.ok f, s') := by
  refine ⟨_, ⟨_, rfl, _, rfl, _, rfl, rfl⟩, fun f s' h => ?_⟩
  cases h

/-- Three body frames, with the frames of another channel between them, are no lap too many. -/
theorem a_content_among_others_is_isolated :
    Isolated Socket.env 0 (Socket.world (.content 3 crossing) none) := by
  obtain ⟨s0, hall, hend⟩ := gives_crossing
  refine (a_call_is_of_its_own_channel_exactly_when_no_lap_is_lost _ _ _ socket_onChannel ?_).mpr ?_
  · intro s hs
    rw [starts_zero hs]
    exact script_content hall hend (by decide)
  · intro s hs tag info c t pd w1 fs cells s1 x he _ _ hd
    rw [starts_zero hs] at he
    obtain ⟨_, he'⟩ := enters_content 3 crossing none
    obtain ⟨-, rfl, rfl, -, rfl⟩ := enters_unique he' he
    obtain ⟨_, hg⟩ := gives_of_delivers hd
    obtain ⟨rest, hrest⟩ := prefix_of_all hall hend hg
    have hlen := congrArg List.length hrest
    simp only [List.length_append, List.length_cons, List.length_nil] at hlen
    exact lost_of_le (by omega)

/-- Of two octets with `2 ^ 32 - 1` empty frames between them the callback gets
the second only. -/
theorem many_empty_frames_cost_the_first_octet :
    OnChannel Socket.env.lib ∧
    (∀ s, Starts Socket.env 0 (Socket.world (.content 2 (twoOctets (2 ^ 32 - 1))) none) s →
      Script Socket.env
        ((Socket.world (.content 2 (twoOctets (2 ^ 32 - 1))) none).setConn s)) ∧
    ¬ Isolated Socket.env 0 (Socket.world (.content 2 (twoOctets (2 ^ 32 - 1))) none) := by
  have hfs := bodies_twoOctets (2 ^ 32 - 1)
  have hscript : ∀ s,
      Starts Socket.env 0 (Socket.world (.content 2 (twoOctets (2 ^ 32 - 1))) none) s →
      Script Socket.env
        ((Socket.world (.content 2 (twoOctets (2 ^ 32 - 1))) none).setConn s) := by
    intro s hs
    rw [starts_zero hs]
    apply script_content (gives_content fun f hf => (hfs f hf).2) content_ends
    rw [octets_twoOctets]
    decide
  refine ⟨socket_onChannel, hscript, fun h => ?_⟩
  obtain ⟨info, he⟩ := enters_content 2 (twoOctets (2 ^ 32 - 1)) none
  have hnone := noLapLost_of_isolated socket_onChannel hscript h _
    (.unpolled rfl (not_polls_zero _ _)) _ _ _ _ _ _ _ _ _ _ he rfl rfl
    (delivers_twoOctets (by omega))
  rw [lost_twoOctets (by omega)] at hnone
  cases hnone

end librabbitmq.isolation
