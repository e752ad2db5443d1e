-- The revival of a channel, by what the broker answers: the open behind the close-ok is
-- granted, or it is refused and channel 0 is revived instead, or the connection is lost.
import Librabbitmq.Handles

namespace librabbitmq

variable {σ κ : Type} {env : Env σ κ} {w w' : World σ κ}

/-! ## What the broker answers -/

/-- The close-ok goes out, and the open behind it is granted. -/
inductive Granted (lib : RabbitMQC σ) (c : amqp_channel_t) (s : σ) : σ → Prop
  | mk {status : Int} {s1 s2 : σ} {m : amqp_method_t} :
      lib.amqp_send_close_ok s c = (status, s1) → 0 ≤ status →
      lib.amqp_channel_open s1 c = (.normal m, s2) → Granted lib c s s2

/-- The close-ok goes out, and the broker closes the channel instead of opening it. -/
inductive Refused (lib : RabbitMQC σ) (c : amqp_channel_t) (s : σ) : σ → Prop
  | mk {status : Int} {s1 s2 : σ} {m : amqp_close_t} :
      lib.amqp_send_close_ok s c = (status, s1) → 0 ≤ status →
      lib.amqp_channel_open s1 c = (.server_exception (.channel_close m), s2) →
      Refused lib c s s2

/-- A revival that ends with an open that is granted: of the channel, or of channel 0
behind a refusal. -/
inductive Revives (lib : RabbitMQC σ) : amqp_channel_t → σ → σ → Prop
  | granted {c : amqp_channel_t} {s s' : σ} : Granted lib c s s' → Revives lib c s s'
  | again {c : amqp_channel_t} {s s1 s' : σ} : Refused lib c s s1 → Revives lib 0 s1 s' →
      Revives lib c s s'

/-- The channel is refused, and the revival goes on to the end with channel 0. -/
def Chained (lib : RabbitMQC σ) (c : amqp_channel_t) (s s' : σ) : Prop :=
  ∃ s1, Refused lib c s s1 ∧ Revives lib 0 s1 s'

theorem revives_iff {lib : RabbitMQC σ} {c : amqp_channel_t} {s s' : σ} :
    Revives lib c s s' ↔ Granted lib c s s' ∨ Chained lib c s s' := by
  constructor
  · intro h
    cases h with
    | granted h => exact Or.inl h
    | again hr h => exact Or.inr ⟨_, hr, h⟩
  · rintro (h | ⟨s1, hr, h⟩)
    · exact .granted h
    · exact .again hr h

/-- The open is granted or refused, not both. -/
theorem granted_not_chained {lib : RabbitMQC σ} {c : amqp_channel_t} {s s' s'' : σ}
    (h : Granted lib c s s') : ¬ Chained lib c s s'' := by
  rintro ⟨s1, hrefused, _⟩
  cases h with
  | mk hs _ ho =>
    cases hrefused with
    | mk hs' _ ho' =>
      rw [hs] at hs'
      cases hs'
      rw [ho] at ho'
      cases ho'

/-! ## What the handlers leave -/

/-- The connection is closed, with a `ConnectionError` that says so. -/
structure Lost (w : World σ κ) : Prop where
  connected : w.self.connected = false
  raises : w.Raises .ConnectionError

/-- How a revival ends that started in the world `w`. -/
inductive RevivalEnds (lib : RabbitMQC σ) (c : amqp_channel_t) (w : World σ κ) :
    World σ κ → Prop
  | lost {w' : World σ κ} : Lost w' → RevivalEnds lib c w w'
  | granted {s' : σ} : Granted lib c w.self.conn s' → RevivalEnds lib c w (w.setConn s')
  | chained {s' : σ} {e : PyErr} : Chained lib c w.self.conn s' → e.cls = .ChannelError →
      RevivalEnds lib c w ((w.setConn s').setErr (some e))

theorem closed_lost (env : Env σ κ) (w : World σ κ) {e : PyErr} (he : e.cls = .ConnectionError) :
    Lost ((w.setErr (some e)).closed env) :=
  ⟨World.closed_connected env _, e, World.closed_err env _, he⟩

/-- How `PyRabbitMQ_HandleAMQError` ends: with nothing to do, with a connection that is
lost, or with a `channel.close` behind which it has revived the channel. -/
theorem handle_cases {fuel : Nat} {channel : UInt32} {reply : amqp_rpc_reply_t} {context : String}
    {r : Int} (h : PyRabbitMQ_HandleAMQError env fuel channel reply context w = (.ret r, w')) :
    (∃ m, reply = .normal m ∧ r = 0 ∧ w' = w) ∨ (r ≠ 0 ∧ Lost w') ∨
    (r ≠ 0 ∧ ∃ m e r' k, reply = .server_exception (.channel_close m) ∧ e.cls = .ChannelError ∧
      k < fuel ∧ PyRabbitMQ_revive_channel env k channel (w.setErr (some e)) = (.ret r', w')) := by
  cases fuel with
  | zero =>
    unfold PyRabbitMQ_HandleAMQError at h
    cases h
  | succ fuel =>
    unfold PyRabbitMQ_HandleAMQError at h
    have hconnerror : ∀ e : PyErr, e.cls = .ConnectionError →
        (do
          PyErr_SetString e
          PyRabbitMQ_Connection_close env
          return PYRABBITMQ_CONNECTION_ERROR : Run (World σ κ) Int) w = (.ret r, w') →
        r ≠ 0 ∧ Lost w' := by
      intro e he hrun
      cases hrun
      exact ⟨by decide, closed_lost env w he⟩
    cases reply with
    | normal m =>
      cases h
      exact Or.inl ⟨m, rfl, rfl, rfl⟩
    | none => exact Or.inr (Or.inl (hconnerror _ rfl h))
    | library_exception n => exact Or.inr (Or.inl (hconnerror _ rfl h))
    | server_exception m =>
      cases m with
      | channel_close m =>
        dsimp only at h
        rw [PyErr_SetString_bind] at h
        generalize he : (⟨.ChannelError, _, _⟩ : PyErr) = e at h
        rcases hrun : PyRabbitMQ_revive_channel env fuel channel (w.setErr (some e)) with ⟨o, w1⟩
        rw [Run.bind_apply, hrun] at h
        cases o with
        | ret r' =>
          cases h
          refine Or.inr (Or.inr ⟨by decide, m, e, r', fuel, rfl, ?_, Nat.lt_succ_self _, hrun⟩)
          rw [← he]
        | crash => cases h
        | hang => cases h
      | connection_close m => exact Or.inr (Or.inl (hconnerror _ rfl h))
      | basic_deliver m => exact Or.inr (Or.inl (hconnerror _ rfl h))
      | basic_get_ok m => exact Or.inr (Or.inl (hconnerror _ rfl h))
      | other id => exact Or.inr (Or.inl (hconnerror _ rfl h))

/-- Every revival that returns ends in one of these ways, by induction on its depth. -/
theorem revive_ends (env : Env σ κ) (fuel : Nat) : ∀ {channel : UInt32} {w w' : World σ κ} {r : Int},
    PyRabbitMQ_revive_channel env fuel channel w = (.ret r, w') →
      RevivalEnds env.lib channel.toUInt16 w w' := by
  induction fuel using Nat.strongRecOn with
  | ind fuel ih =>
    intro channel w w' r h
    cases fuel with
    | zero =>
      unfold PyRabbitMQ_revive_channel at h
      cases h
    | succ fuel =>
      unfold PyRabbitMQ_revive_channel at h
      rcases hs : env.lib.amqp_send_close_ok w.self.conn channel.toUInt16 with ⟨status, s1⟩
      rw [Run.bind_ret (onConn_ret hs)] at h
      split at h
      · cases h
        exact .lost (closed_lost env (w.setConn s1) rfl)
      · rename_i hneg
        have hsent : 0 ≤ status := Int.not_lt.mp hneg
        cases fuel with
        | zero =>
          unfold PyRabbitMQ_Connection_create_channel at h
          cases h
        | succ fuel =>
          unfold PyRabbitMQ_Connection_create_channel at h
          rcases ho : env.lib.amqp_channel_open s1 channel.toUInt16 with ⟨reply, s2⟩
          have hopen : onConn (fun s => env.lib.amqp_channel_open s channel.toUInt16)
              (w.setConn s1) = (.ret reply, w.setConn s2) := onConn_ret ho
          rw [Run.bind_ret hopen] at h
          rcases handle_cases h with ⟨m, rfl, _, rfl⟩ | ⟨_, hlost⟩ |
            ⟨_, m, e, r', k, rfl, he, hk, hrevive⟩
          · exact .granted ⟨hs, hsent, ho⟩
          · exact .lost hlost
          · have hrefused : Refused env.lib channel.toUInt16 w.self.conn s2 := ⟨hs, hsent, ho⟩
            have hends := ih k (by omega) hrevive
            generalize hw2 : (w.setConn s2).setErr (some e) = w2 at hends
            cases hends with
            | lost hlost => exact .lost hlost
            | @granted s' hgranted =>
              subst hw2
              exact .chained ⟨s2, hrefused, .granted hgranted⟩ he
            | @chained s' e' hchained he' =>
              subst hw2
              exact .chained ⟨s2, hrefused, revives_iff.mpr (Or.inr hchained)⟩ he'

/-- A handler of a `channel.close`, behind the exception that it sets. -/
theorem handle_close (env : Env σ κ) (m : amqp_close_t) (context : String) :
    ∃ e : PyErr, e.cls = .ChannelError ∧ ∀ fuel channel {w w' : World σ κ} {r : Int},
      PyRabbitMQ_revive_channel env fuel channel (w.setErr (some e)) = (.ret r, w') →
      PyRabbitMQ_HandleAMQError env (fuel + 1) channel (.server_exception (.channel_close m))
        context w = (.ret PYRABBITMQ_CHANNEL_ERROR, w') := by
  refine ⟨⟨.ChannelError, "%s: server channel error %d, message: %.*s",
    [.str (pyStr context), .int m.reply_code.toNat, .bytes m.reply_text]⟩, rfl, ?_⟩
  intro fuel channel w w' r h
  unfold PyRabbitMQ_HandleAMQError
  dsimp only
  rw [PyErr_SetString_bind, Run.bind_ret h]
  rfl

/-- A revival comes to the reply to its open. -/
theorem revive_opens {c : amqp_channel_t} {channel : UInt32} {status : Int} {s1 s2 : σ}
    {reply : amqp_rpc_reply_t} (hc : channel.toUInt16 = c)
    (hs : env.lib.amqp_send_close_ok w.self.conn c = (status, s1)) (hsent : 0 ≤ status)
    (ho : env.lib.amqp_channel_open s1 c = (reply, s2)) (fuel : Nat) :
    PyRabbitMQ_revive_channel env (fuel + 2) channel w =
      PyRabbitMQ_HandleAMQError env fuel 0 reply "Couldn't create channel" (w.setConn s2) := by
  subst hc
  have hopen : onConn (fun s => env.lib.amqp_channel_open s channel.toUInt16) (w.setConn s1) =
      (.ret reply, w.setConn s2) := onConn_ret ho
  unfold PyRabbitMQ_revive_channel
  rw [Run.bind_ret (onConn_ret hs), if_neg (Int.not_lt.mpr hsent)]
  unfold PyRabbitMQ_Connection_create_channel
  rw [Run.bind_ret hopen]

theorem revive_granted {c : amqp_channel_t} {channel : UInt32} {s' : σ}
    (hc : channel.toUInt16 = c) (h : Granted env.lib c w.self.conn s') (fuel : Nat) :
    PyRabbitMQ_revive_channel env (fuel + 3) channel w = (.ret 0, w.setConn s') := by
  obtain ⟨hs, hsent, ho⟩ := h
  rw [revive_opens hc hs hsent ho]
  exact handleAMQError_normal env fuel 0 _ _ _

/-- A revival whose open is refused is one of channel 0. -/
theorem revive_refused {c : amqp_channel_t} {channel : UInt32} {s1 : σ}
    (hc : channel.toUInt16 = c) (h : Refused env.lib c w.self.conn s1) :
    ∃ e : PyErr, e.cls = .ChannelError ∧ ∀ {fuel r w'},
      PyRabbitMQ_revive_channel env fuel 0 ((w.setConn s1).setErr (some e)) = (.ret r, w') →
      PyRabbitMQ_revive_channel env (fuel + 3) channel w = (.ret PYRABBITMQ_CHANNEL_ERROR, w') := by
  obtain ⟨hs, hsent, ho⟩ := h
  rename_i status s0 m
  obtain ⟨e, he, hclose⟩ := handle_close env m "Couldn't create channel"
  refine ⟨e, he, fun {fuel} {r} {w'} hrun => ?_⟩
  rw [revive_opens hc hs hsent ho, hclose fuel 0 hrun]

/-- With the fuel to get there every revival does end so. -/
theorem revive_of_revives {c : amqp_channel_t} {s s' : σ} (h : Revives env.lib c s s') :
    ∃ k, ∀ fuel, k < fuel → ∀ (channel : UInt32) (w : World σ κ), channel.toUInt16 = c →
      w.self.conn = s → ∃ r err,
        PyRabbitMQ_revive_channel env fuel channel w = (.ret r, (w.setConn s').setErr err) ∧
        (err = w.err ∨ ∃ e, err = some e ∧ e.cls = .ChannelError) := by
  induction h with
  | granted hg =>
    refine ⟨2, fun fuel hf channel w hc hconn => ⟨0, w.err, ?_, Or.inl rfl⟩⟩
    obtain ⟨n, rfl⟩ : ∃ n, fuel = n + 3 := ⟨fuel - 3, by omega⟩
    subst hconn
    exact revive_granted hc hg n
  | @again c s s1 s' hr _ ih =>
    obtain ⟨k, hk⟩ := ih
    refine ⟨k + 3, fun fuel hf channel w hc hconn => ?_⟩
    obtain ⟨n, rfl⟩ : ∃ n, fuel = n + 3 := ⟨fuel - 3, by omega⟩
    subst hconn
    obtain ⟨e, he, hrefused⟩ := revive_refused (w := w) hc hr
    obtain ⟨r, err, hrun, herr⟩ := hk n (by omega) 0 ((w.setConn s1).setErr (some e)) rfl rfl
    refine ⟨_, err, hrefused hrun, Or.inr ?_⟩
    rcases herr with rfl | herr
    · exact ⟨e, rfl, he⟩
    · exact herr

theorem revive_chained {c : amqp_channel_t} {s s' : σ} (h : Chained env.lib c s s') :
    ∃ k, ∀ fuel, k < fuel → ∀ (channel : UInt32) (w : World σ κ), channel.toUInt16 = c →
      w.self.conn = s → ∃ r e, e.cls = .ChannelError ∧
        PyRabbitMQ_revive_channel env fuel channel w =
          (.ret r, (w.setConn s').setErr (some e)) := by
  obtain ⟨s1, hr, hrevives⟩ := h
  obtain ⟨k, hk⟩ := revive_of_revives hrevives
  refine ⟨k + 3, fun fuel hf channel w hc hconn => ?_⟩
  obtain ⟨n, rfl⟩ : ∃ n, fuel = n + 3 := ⟨fuel - 3, by omega⟩
  subst hconn
  obtain ⟨e, he, hrefused⟩ := revive_refused (w := w) hc hr
  obtain ⟨r, err, hrun, herr⟩ := hk n (by omega) 0 ((w.setConn s1).setErr (some e)) rfl rfl
  rcases herr with rfl | ⟨e', rfl, he'⟩
  · exact ⟨_, e, he, hrefused hrun⟩
  · exact ⟨_, e', he', hrefused hrun⟩

/-! ## The calls of a revival -/

/-- The last calls since then were those that open the channel again. -/
def Reopened (before after : Handles σ) (c : amqp_channel_t) : Prop :=
  ∃ events status m, 0 ≤ status ∧ after.log = before.log ++
    (events ++ [.amqp_send_close_ok c status, .amqp_channel_open c (.normal m)]).map
      fun e => ⟨before.current, e⟩

/-- The same, with the state that the calls left. -/
def Reopens (before after : Handles σ) (c : amqp_channel_t) : Prop :=
  ∃ events status m st, 0 ≤ status ∧ after = before.note
    (events ++ [.amqp_send_close_ok c status, .amqp_channel_open c (.normal m)]) st

theorem Reopens.reopened {before after : Handles σ} {c : amqp_channel_t}
    (h : Reopens before after c) : Reopened before after c := by
  obtain ⟨events, status, m, st, hstatus, rfl⟩ := h
  exact ⟨events, status, m, hstatus, Handles.note_log _ _ _⟩

/-- Calls before do not matter. -/
theorem Reopens.of_note {before after : Handles σ} {es : List Event} {st : σ} {c : amqp_channel_t}
    (h : Reopens (before.note es st) after c) : Reopens before after c := by
  obtain ⟨events, status, m, st', hstatus, rfl⟩ := h
  refine ⟨es ++ events, status, m, st', hstatus, ?_⟩
  rw [Handles.note_note, List.append_assoc]

/-- Only one channel was opened last. -/
theorem Reopened.unique {before before' after : Handles σ} {c c' : amqp_channel_t}
    (h : Reopened before after c) (h' : Reopened before' after c') : c = c' := by
  have hlast : ∀ {before : Handles σ} {c}, Reopened before after c → ∃ h m,
      after.log.getLast? = some ⟨h, .amqp_channel_open c (.normal m)⟩ := by
    rintro before c ⟨events, status, m, _, hlog⟩
    refine ⟨before.current, m, ?_⟩
    rw [hlog]
    simp
  obtain ⟨_, _, hc⟩ := hlast h
  obtain ⟨_, _, hc'⟩ := hlast h'
  rw [hc] at hc'
  cases hc'
  rfl

variable {lib : RabbitMQC σ} {s s' : Handles σ} {c : amqp_channel_t}

theorem send_close_ok_note {status : Int}
    (h : lib.tracked.amqp_send_close_ok s c = (status, s')) :
    ∃ st, s' = s.note [.amqp_send_close_ok c status] st := by
  cases h
  exact ⟨_, rfl⟩

theorem channel_open_note {reply : amqp_rpc_reply_t}
    (h : lib.tracked.amqp_channel_open s c = (reply, s')) :
    ∃ st, s' = s.note [.amqp_channel_open c reply] st := by
  cases h
  exact ⟨_, rfl⟩

theorem Granted.reopens (h : Granted lib.tracked c s s') : Reopens s s' c := by
  obtain ⟨hs, hsent, ho⟩ := h
  rename_i status s1 m
  obtain ⟨st1, rfl⟩ := send_close_ok_note hs
  obtain ⟨st2, rfl⟩ := channel_open_note ho
  exact ⟨[], status, m, st2, hsent, Handles.note_note _ _ _ _ _⟩

theorem Refused.note (h : Refused lib.tracked c s s') : ∃ events st, s' = s.note events st := by
  obtain ⟨hs, _, ho⟩ := h
  obtain ⟨st1, rfl⟩ := send_close_ok_note hs
  obtain ⟨st2, rfl⟩ := channel_open_note ho
  exact ⟨_, st2, Handles.note_note _ _ _ _ _⟩

/-- The channel that is opened last is the one of the revival, or channel 0. -/
theorem Revives.reopens (h : Revives lib.tracked c s s') : Reopens s s' c ∨ Reopens s s' 0 := by
  induction h with
  | granted hg => exact Or.inl hg.reopens
  | again hr _ ih =>
    obtain ⟨events, st, rfl⟩ := hr.note
    exact Or.inr (ih.elim Reopens.of_note Reopens.of_note)

theorem Chained.reopens (h : Chained lib.tracked c s s') : Reopens s s' 0 := by
  obtain ⟨s1, hr, hrevives⟩ := h
  obtain ⟨events, st, rfl⟩ := hr.note
  exact (hrevives.reopens.elim id id).of_note

end librabbitmq
