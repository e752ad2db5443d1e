-- The laws of partial messages. A read that fails in the body loop only leaves
-- the loop, and what comes next asks whether there is a payload, not whether it
-- is full. So a read that fails behind the first body frame hands over what
-- there is.
import Librabbitmq.Delivery

namespace librabbitmq.partial_messages

open body_loop recv_run delivery

variable {σ κ : Type} {env : Env σ κ} {w : World σ κ} {mode : Mode}

/-! ## The law -/

/-- The run calls a callback, or changes the dict that it was given. -/
def Delivered (env : Env σ κ) (mode : Mode) (w : World σ κ) (fuel : Nat) : Prop :=
  (recvIn env fuel mode w).2.calls ≠ w.calls ∨
    ∃ n p', (recvIn env fuel mode w).1 = .ret (n, p') ∧ p' ≠ mode.p

/-- A read of the run fails before the octets of a whole body have come. -/
inductive ReadFails (env : Env σ κ) (mode : Mode) (w : World σ κ) : Prop
  /-- Before a `basic.deliver`. -/
  | first {skipped : List amqp_frame_t} {s s' : σ} {status : Int} {h : status < 0} :
      mode = .consume → Skips env.lib w.self.conn skipped s →
      env.lib.amqp_simple_wait_frame s = (.failed status h, s') → ReadFails env mode w
  /-- In the header's place. -/
  | header {d : Option (PyStr × PyMembers)} {ch : amqp_channel_t} {w0 : World σ κ} {s' : σ}
      {status : Int} {h : status < 0} : AtHeader env w mode.piggyback d ch w0 →
      PyRabbitMQ_recv.waitHeader env.lib ch w0.self.conn = (.failed status h, s') →
      ReadFails env mode w
  /-- Behind some body frames, which may be none. -/
  | body {d : Option (PyStr × PyMembers)} {c : amqp_channel_t} {body_size : BitVec 64}
      {pd : PyMembers} {w1 : World σ κ} {fs : List amqp_frame_t} {s s' : σ} {status : Int}
      {h : status < 0} : Enters env w mode.piggyback d c body_size pd w1 →
      Reads env c body_size w1.self.conn fs s → (bodyOctets fs).length < body_size.toNat →
      env.lib.amqp_simple_wait_frame_on_channel s c = (.failed status h, s') →
      ReadFails env mode w

/-- No partial message: what is delivered has at least the octets that its
header announced, and a read that fails before makes the run return a negative
value, with no call and with the dict as it was. -/
structure NoPartialMessage (env : Env σ κ) (mode : Mode) (w : World σ κ) : Prop where
  whole : ∀ fuel, Delivered env mode w fuel → ∃ d c body_size pd w1 fs,
    Enters env w mode.piggyback d c body_size pd w1 ∧
    (recvIn env fuel mode w).2.reads = w1.reads ++ fs ∧ (∀ f ∈ fs, f.IsBody) ∧
    body_size.toNat ≤ (bodyOctets fs).length
  failure : ReadFails env mode w → ∀ fuel, Fails mode.p w (recvIn env fuel mode w)
  returns : ReadFails env mode w → ∃ k, ∀ fuel, k < fuel → ∃ n w',
    recvIn env fuel mode w = (.ret (n, mode.p), w') ∧ n < 0

/-- The content would be delivered: always for a `get`, and for a consumer that
is registered if no exception of the properties is in the way of its callback. -/
def Accepts (env : Env σ κ) (mode : Mode) (d : Option (PyStr × PyMembers)) (c : amqp_channel_t)
    (w1 : World σ κ) : Prop :=
  match mode with
  | .get _ => True
  | .consume => env.python.afterGetAttr w1.err = none ∧ ∃ tag info x, d = some (tag, info) ∧
      w1.self.consumer c.toNat tag = some x

/-- No read fails behind a first body frame while octets are missing, in a content
that would be delivered. -/
def NeverCut (env : Env σ κ) (mode : Mode) (w : World σ κ) : Prop :=
  ∀ d c body_size pd w1 fs s s' status h, Enters env w mode.piggyback d c body_size pd w1 →
    Accepts env mode d c w1 → Reads env c body_size w1.self.conn fs s → fs ≠ [] →
    (bodyOctets fs).length < body_size.toNat →
    env.lib.amqp_simple_wait_frame_on_channel s c ≠ (.failed status h, s')

/-! ## How many octets -/

variable {c : amqp_channel_t} {t : BitVec 64} {s0 s : σ} {fs : List amqp_frame_t}

variable {d : Option (PyStr × PyMembers)} {pd : PyMembers} {w1 : World σ κ}

/-- What is handed to a callback is whole, unless a read cut it. -/
theorem delivers_whole {cells : List (Option UInt8)} (hcut : NeverCut env mode w)
    (he : Enters env w mode.piggyback d c t pd w1) (ha : Accepts env mode d c w1)
    (hd : Delivers env c t w1.self.conn fs cells s) : t.toNat ≤ (bodyOctets fs).length := by
  cases hd with
  | full hreads hne hfull => exact octets_of_full (target_pos hreads hne) hfull
  | cut hreads hne hlt hr =>
    by_contra hmiss
    exact hcut _ _ _ _ _ _ _ _ _ _ he ha hreads hne (by omega) hr
  | viewed hreads hlt hr hf h0 hfull => exact octets_of_full (target_pos_of_lt hreads hlt) hfull

/-- What fills the dict of a `get` is whole, unless a read cut it. -/
theorem yields_whole {body : PyObj} (hcut : NeverCut env mode w)
    (he : Enters env w mode.piggyback d c t pd w1) (ha : Accepts env mode d c w1)
    (hy : Yields env c t w1.self.conn fs body s) : t.toNat ≤ (bodyOctets fs).length := by
  cases hy with
  | empty ht =>
    subst ht
    simp
  | full hreads hne hfull => exact octets_of_full (target_pos hreads hne) hfull
  | cut hreads hne hlt hr =>
    by_contra hmiss
    exact hcut _ _ _ _ _ _ _ _ _ _ he ha hreads hne (by omega) hr
  | whole hreads hlt hr hf h0 hfull hd =>
    exact octets_of_full (target_pos_of_lt hreads hlt) hfull

/-! ## A read that fails is the last one -/

theorem octets_of_prefix {fs gs rest : List amqp_frame_t} (h : fs = gs ++ rest) :
    (bodyOctets gs).length ≤ (bodyOctets fs).length := by
  rw [h, bodyOctets_append, List.length_append]
  omega

/-- A content that a read cuts is not broken off: the frame that breaks it off
would come before that read. -/
theorem not_breaks_of_failed {fs gs : List amqp_frame_t} {s s' s2 : σ} {status : Int}
    {h : status < 0} {e : PyErr} (hreads : Reads env c t s0 fs s)
    (hr : env.lib.amqp_simple_wait_frame_on_channel s c = (.failed status h, s')) :
    ¬ Breaks env c t s0 gs e s2 := by
  intro hb
  cases hb with
  | unexpected hreads2 hlt hr2 hm hf =>
    obtain ⟨rest, he⟩ := hreads.gives.longest hr (hreads2.gives.snoc hr2)
    exact hf (hreads.bodies _ (by rw [he]; simp))
  | noMemory hreads2 hlt hr2 hf h0 hlt' hav =>
    obtain ⟨rest, he⟩ := hreads.gives.longest hr (hreads2.gives.snoc hr2)
    rw [hreads.available (by rw [he]; simp)] at hav
    cases hav

/-- A run whose read fails early has no content to deliver. -/
theorem no_header_of_first {skipped : List amqp_frame_t} {s s' : σ} {status : Int}
    {h : status < 0} {ch : amqp_channel_t} {w0 : World σ κ}
    (hs : Skips env.lib w.self.conn skipped s)
    (hr : env.lib.amqp_simple_wait_frame s = (.failed status h, s')) :
    ¬ AtHeader env w false d ch w0 := by
  intro hat
  cases hat with
  | consume hs' hr' hp' hd' =>
    obtain ⟨rest, rfl⟩ := hs.1.longest hr (hs'.1.snoc hr')
    exact hs.2 _ (by simp) ⟨_, hp'⟩

/-! ## The law, both ways -/

/-- A run of either mode delivers a content that it accepts, or breaks it off, or
meets an unexpected frame, or fails. -/
theorem run_cases (env : Env σ κ) (fuel : Nat) (mode : Mode) (w : World σ κ) :
    (∃ d c t pd w1 fs, Enters env w mode.piggyback d c t pd w1 ∧ Accepts env mode d c w1 ∧
      (recvIn env fuel mode w).2.reads = w1.reads ++ fs ∧
      ((∃ cells s, Delivers env c t w1.self.conn fs cells s) ∨
        ∃ body s, Yields env c t w1.self.conn fs body s)) ∨
    (∃ d c t pd w1 fs e s, Enters env w mode.piggyback d c t pd w1 ∧
      Breaks env c t w1.self.conn fs e s ∧ ¬ Delivered env mode w fuel) ∨
    (∃ w1, Unexpected env w mode.piggyback w1 ∧ ¬ Delivered env mode w fuel) ∨
    Fails mode.p w (recvIn env fuel mode w) := by
  -- a run that calls nothing and gives the dict back delivers nothing
  have hnot : ∀ w', w'.calls = w.calls → recvIn env fuel mode w = (.ret (0, mode.p), w') →
      ¬ Delivered env mode w fuel := by
    intro w' hc hr hdel
    unfold Delivered at hdel
    rw [hr] at hdel
    rcases hdel with hdel | ⟨n, p', he, hp⟩
    · exact hdel hc
    · cases he
      exact hp rfl
  cases mode with
  | consume =>
    rcases consume_cases env fuel w with
      ⟨tag, info, c, t, pd, w1, fs, cells, s, w2, callback, obj, he, hd, hafter, hc, herr, hrun⟩ |
      ⟨d, c, t, pd, w1, fs, e, s, w2, he, hb, hcalls, _, hrun⟩ | ⟨w1, hu, hrun⟩ | hf
    · refine Or.inl ⟨_, c, t, pd, w1, fs, he, ⟨herr, tag, info, _, rfl, hc⟩, ?_,
        Or.inl ⟨cells, s, hd⟩⟩
      rw [hrun]
      exact hafter.reads
    · exact Or.inr (Or.inl ⟨d, c, t, pd, w1, fs, e, s, he, hb, hnot w2 hcalls hrun⟩)
    · exact Or.inr (Or.inr (Or.inl ⟨w1, hu, hnot w1 (unexpected_books hu).1 hrun⟩))
    · exact Or.inr (Or.inr (Or.inr hf))
  | get dict =>
    rcases get_run_cases env fuel dict w with
      ⟨d, c, t, pd, w1, fs, body, s, w2, he, hy, hafter, _, hrun⟩ |
      ⟨d, c, t, pd, w1, fs, e, s, w2, he, hb, hcalls, _, hrun⟩ | ⟨w1, hu, hrun⟩ | hf
    · refine Or.inl ⟨d, c, t, pd, w1, fs, he, trivial, ?_, Or.inr ⟨body, s, hy⟩⟩
      rw [hrun]
      exact hafter.reads
    · exact Or.inr (Or.inl ⟨d, c, t, pd, w1, fs, e, s, he, hb, hnot w2 hcalls hrun⟩)
    · exact Or.inr (Or.inr (Or.inl ⟨w1, hu, hnot w1 (unexpected_books hu).1 hrun⟩))
    · exact Or.inr (Or.inr (Or.inr hf))

/-- A run that fails delivers nothing. -/
theorem not_delivered_of_fails {fuel : Nat} (h : Fails mode.p w (recvIn env fuel mode w)) :
    ¬ Delivered env mode w fuel := by
  rintro (hdel | ⟨n, p', he, hp⟩)
  · exact hdel h.calls
  · exact hp (h.result n p' he).2

/-- A run whose read fails has fuel enough to get behind that read. -/
theorem returns_of_readFails (h : ReadFails env mode w) :
    ∃ k, ∀ fuel, k < fuel → ∃ r w', recvIn env fuel mode w = (.ret r, w') := by
  cases h with
  | @first skipped s s' status _ hmode hs hr =>
    subst hmode
    refine ⟨skipped.length, fun fuel hf =>
      ⟨(status, none), (w.afterReads skipped s).setConn s', ?_⟩⟩
    have hloop := Run.loop_leave (turns_of_skips hs)
      (first_failed (w := w.afterReads skipped s) hr) hf
    unfold recvIn Mode.p Mode.piggyback PyRabbitMQ_recv
    rw [if_neg (by simp), Run.bind_ret hloop]
    rfl
  | @header d ch w0 s' status _ hat hr =>
    obtain ⟨k, hk⟩ := recv_of_atHeader hat
    refine ⟨k, fun fuel hf => ⟨(status, mode.p), w0.setConn s', ?_⟩⟩
    unfold recvIn
    rw [hk fuel hf mode.p]
    unfold PyRabbitMQ_recv.content
    rw [Run.bind_ret (readFrame_failed hr)]
    rfl
  | @body d c t pd w1 fs s s' status hs he hreads hmiss hr =>
    have hd : mode.p = none → ∃ x, d = some x := by
      intro hp
      cases mode with
      | get dict => cases hp
      | consume =>
        obtain ⟨tag, info, rfl⟩ := enters_consume he
        exact ⟨_, rfl⟩
    obtain ⟨k1, h1⟩ := recv_of_enters he
    obtain ⟨k2, h2⟩ := body_returns pd hd hreads (Or.inr ⟨status, hs, s', hr⟩)
    refine ⟨k1 + k2, fun fuel hf => ?_⟩
    unfold recvIn
    rw [h1 fuel (by omega) mode.p]
    exact h2 fuel (by omega)

/-- A run that comes to no frame in a header's place fails. -/
theorem fails_of_no_header (fuel : Nat)
    (hno : ∀ d ch w0, AtHeader env w mode.piggyback d ch w0 →
      ∀ f s, PyRabbitMQ_recv.waitHeader env.lib ch w0.self.conn ≠ (.ok f, s)) :
    Fails mode.p w (recvIn env fuel mode w) := by
  have henters : ∀ {d c t pd w1}, ¬ Enters env w mode.piggyback d c t pd w1 := by
    rintro _ _ _ _ _ ⟨hat, hr, _, _⟩
    exact hno _ _ _ hat _ _ hr
  rcases run_cases env fuel mode w with
    ⟨d, c, t, pd, w1, fs, he, _, _, _⟩ | ⟨d, c, t, pd, w1, fs, e, s, he, _, _⟩ | ⟨w1, hu, _⟩ | hf
  · exact absurd he henters
  · exact absurd he henters
  · cases hu with
    | mk hat hr hm hh => exact absurd hr (hno _ _ _ hat _ _)
  · exact hf

/-- A read that fails excludes every run but a failing one. -/
theorem failure_of_neverCut (h : NeverCut env mode w) (hfail : ReadFails env mode w) (fuel : Nat) :
    Fails mode.p w (recvIn env fuel mode w) := by
  cases hfail with
  | first hmode hs hr =>
    subst hmode
    exact fails_of_no_header fuel fun d ch w0 hat => absurd hat (no_header_of_first hs hr)
  | header hat hr =>
    refine fails_of_no_header fuel fun d ch w0 hat' f s hr' => ?_
    obtain ⟨rfl, rfl, rfl⟩ := atHeader_unique hat hat'
    rw [hr] at hr'
    cases hr'
  | body he hreads hmiss hr =>
    rcases run_cases env fuel mode w with
      ⟨d, c, t, pd, w1, fs, he', ha, _, hend⟩ | ⟨d, c, t, pd, w1, fs, e, s, he', hb, _⟩ |
      ⟨w1, hu, _⟩ | hf
    · obtain ⟨rfl, rfl, rfl, rfl, rfl⟩ := enters_unique he he'
      rcases hend with ⟨cells, s, hd⟩ | ⟨body, s, hy⟩
      · obtain ⟨s1, hg⟩ := gives_of_delivers hd
        obtain ⟨rest, hpre⟩ := hreads.gives.longest hr hg
        have h1 := octets_of_prefix hpre
        have h2 := delivers_whole h he ha hd
        omega
      · obtain ⟨s1, hg⟩ := gives_of_yields hy
        obtain ⟨rest, hpre⟩ := hreads.gives.longest hr hg
        have h1 := octets_of_prefix hpre
        have h2 := yields_whole h he ha hy
        omega
    · obtain ⟨rfl, rfl, rfl, rfl, rfl⟩ := enters_unique he he'
      exact absurd hb (not_breaks_of_failed hreads hr)
    · exact absurd hu (not_unexpected_of_enters he)
    · exact hf

theorem noPartialMessage_of_neverCut (h : NeverCut env mode w) : NoPartialMessage env mode w := by
  refine ⟨fun fuel hdel => ?_, failure_of_neverCut h, fun hfail => ?_⟩
  · rcases run_cases env fuel mode w with
      ⟨d, c, t, pd, w1, fs, he, ha, hreads, hend⟩ | ⟨_, _, _, _, _, _, _, _, _, _, hn⟩ |
      ⟨_, _, hn⟩ | hf
    · rcases hend with ⟨cells, s, hd⟩ | ⟨body, s, hy⟩
      · exact ⟨d, c, t, pd, w1, fs, he, hreads, bodies_of_delivers hd, delivers_whole h he ha hd⟩
      · exact ⟨d, c, t, pd, w1, fs, he, hreads, bodies_of_yields hy, yields_whole h he ha hy⟩
    · exact absurd hdel hn
    · exact absurd hdel hn
    · exact absurd hdel (not_delivered_of_fails hf)
  · obtain ⟨k, hk⟩ := returns_of_readFails hfail
    refine ⟨k, fun fuel hf => ?_⟩
    obtain ⟨⟨n, p'⟩, w', hrun⟩ := hk fuel hf
    obtain ⟨hneg, rfl⟩ := (failure_of_neverCut h hfail fuel).result n p' (by rw [hrun])
    exact ⟨n, w', hrun, hneg⟩

theorem neverCut_of_noPartialMessage (h : NoPartialMessage env mode w) : NeverCut env mode w := by
  intro d c t pd w1 fs s s' status hs he ha hreads hne hmiss hr
  have hlt := received_lt_of_missing (target_pos hreads hne) hmiss
  have hfails := h.failure (.body he hreads hmiss hr)
  -- but the run goes on to deliver what there is
  cases mode with
  | consume =>
    obtain ⟨herr, tag, info, ⟨callback, obj⟩, rfl, hc⟩ := ha
    obtain ⟨k, w2, _, hk⟩ := recv_of_delivers he (.cut hreads hne hlt hr) hc herr
    have hneg := ((hfails (k + 1)).result 0 none (by rw [hk _ (by omega)])).1
    omega
  | get dict =>
    obtain ⟨k, w2, _, _, hk⟩ := recv_of_yields dict he (.cut hreads hne hlt hr)
    have hneg := ((hfails (k + 1)).result 0 _ (by rw [hk _ (by omega)])).1
    omega

/-- In both modes no partial message is delivered exactly when no read fails
behind the first body frame of a content that would be delivered. -/
theorem no_message_is_partial_exactly_when_no_read_cuts_it (env : Env σ κ) (mode : Mode)
    (w : World σ κ) : NoPartialMessage env mode w ↔ NeverCut env mode w :=
  ⟨neverCut_of_noPartialMessage, noPartialMessage_of_neverCut⟩

/-- The peer closes the socket behind 1 of 2 octets: the callback is called. -/
theorem a_body_that_is_cut_short_is_delivered :
    ¬ NoPartialMessage Socket.env .consume
      (Socket.world ⟨[], [Socket.deliver 1, Socket.header 2, Socket.octet 7], [], true⟩
        none) := by
  intro h
  have hskips : Skips Socket.env.lib
      ⟨[], [Socket.deliver 1, Socket.header 2, Socket.octet 7], [], true⟩ []
      ⟨[], [Socket.deliver 1, Socket.header 2, Socket.octet 7], [], true⟩ :=
    ⟨rfl, by simp⟩
  have hgoes : GoesOver 2 ([] ++ [Socket.octet 7]) := by
    refine goesOver_snoc.mpr ⟨?_, by decide, fun _ => by decide⟩
    intro pre f rest he
    cases pre <;> cases he
  have hreads : Reads Socket.env 1 2 ⟨[], [Socket.octet 7], [], true⟩
      [Socket.octet 7] ⟨[], [], [], true⟩ := by
    refine ⟨⟨_, rfl, rfl⟩, ?_, hgoes, fun _ => rfl⟩
    intro f hf
    rw [List.mem_singleton.mp hf]
    exact ⟨_, rfl⟩
  have hfails := h.failure (.body (.mk (.consume hskips rfl rfl rfl) rfl rfl rfl) hreads
    (by decide) rfl) 3
  have hneg := (hfails.result 0 none rfl).1
  omega

end librabbitmq.partial_messages
