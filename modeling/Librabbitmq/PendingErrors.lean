-- The laws of the pending exception. One variable is the status of the last
-- read and the result of the machine, so each `goto finally` behind a read
-- returns 0, whatever exception was set on the way. The result of the callback
-- is dropped, and with it the sign of the exception that it raised.
import Librabbitmq.Drain

namespace librabbitmq.pending_errors

open body_loop recv_run delivery drain

variable {σ κ : Type} {env : Env σ κ} {w w' : World σ κ} {mode : Mode}

/-! ## The law -/

/-- A result that is not negative comes with no exception, and an exception that
is pending is the one that `drain_events` raises. -/
structure SuccessMeansNoPending (env : Env σ κ) (mode : Mode) (w : World σ κ) : Prop where
  result : ∀ fuel n p' w', recvIn env fuel mode w = (.ret (n, p'), w') → 0 ≤ n → w'.err = none
  raised : mode = .consume → w.self.connected = true → ∀ fuel n p' w' e,
    recvIn env fuel mode w = (.ret (n, p'), w') → w'.err = some e →
    (fromPython (PyRabbitMQ_Connection_basic_recv env fuel 0) w).1 = .ret (.error e)

/-- What must not happen on the way to a result that is not negative. -/
structure NothingGoesWrong (env : Env σ κ) (mode : Mode) (w : World σ κ) : Prop where
  /-- The frame in the header's place is a header, or a method. -/
  header : ∀ w1, ¬ Unexpected env w mode.piggyback w1
  /-- No frame that is neither a body nor a method comes before the body is
  complete, and there is memory for the payload. -/
  body : ∀ d c t pd w1 fs e s, Enters env w mode.piggyback d c t pd w1 →
    ¬ Breaks env c t w1.self.conn fs e s
  /-- For a `get`, the properties are decoded without an exception. -/
  properties : ∀ dict, mode = .get dict → ∀ d c t pd w1 fs body s,
    Enters env w mode.piggyback d c t pd w1 → Yields env c t w1.self.conn fs body s → w1.err = none
  /-- The callback that gets the message returns. It gets it with the exception that is pending
  behind the lookup of `channels` out of the way. -/
  callback : mode = .consume → ∀ tag info c t pd w1 fs cells s callback channelobj,
    Enters env w mode.piggyback (some (tag, info)) c t pd w1 →
    Delivers env c t w1.self.conn fs cells s →
    w1.self.consumer c.toNat tag = some (callback, channelobj) →
    env.python.afterGetAttr w1.err = none →
    (env.invoke callback ⟨channelobj, .dict pd, .dict info, .view cells⟩
      { w1.self with conn := s }).2 = none

theorem nothingGoesWrong_of_success (h : SuccessMeansNoPending env mode w) :
    NothingGoesWrong env mode w := by
  refine ⟨fun w1 hu => ?_, ?_, ?_, ?_⟩
  · obtain ⟨k, hk⟩ := recv_of_unexpected hu
    have herr := h.result (k + 1) 0 _ w1 (hk _ (by omega) mode.p) (by decide)
    cases hu
    cases herr
  · intro d c t pd w1 fs e s he hb
    obtain ⟨k, w2, _, herr, hk⟩ := recv_of_breaks he hb
    have hnone := h.result (k + 1) 0 _ w2 (hk _ (by omega)) (by decide)
    rw [herr] at hnone
    cases hnone
  · rintro dict rfl d c t pd w1 fs body s he hy
    obtain ⟨k, w2, _, herr, hk⟩ := recv_of_yields dict he hy
    have hnone := h.result (k + 1) 0 _ w2 (hk _ (by omega)) (by decide)
    rwa [herr] at hnone
  · rintro rfl tag info c t pd w1 fs cells s callback obj he hd hc herr
    obtain ⟨k, w2, hafter, hk⟩ := recv_of_delivers he hd hc herr
    have hnone := h.result (k + 1) 0 _ _ (hk _ (by omega)) (by decide)
    unfold called at hnone
    rwa [hafter.self] at hnone

theorem result_of_nothingGoesWrong (h : NothingGoesWrong env mode w) {fuel : Nat} {n : Int}
    {p' : Option PyMembers} (hr : recvIn env fuel mode w = (.ret (n, p'), w')) (hn : 0 ≤ n) :
    w'.err = none := by
  cases mode with
  | consume =>
    rcases consume_cases env fuel w with
      ⟨tag, info, c, t, pd, w1, fs, cells, s, w2, callback, obj, he, hd, hafter, hc, herr, hrun⟩ |
      ⟨d, c, t, pd, w1, fs, e, s, w2, he, hb, _, _, _⟩ | ⟨w1, hu, _⟩ | hf
    · rw [hrun] at hr
      cases hr
      have hret := h.callback rfl tag info c t pd w1 fs cells s callback obj he hd hc herr
      unfold called
      rwa [hafter.self]
    · exact absurd hb (h.body d c t pd w1 fs e s he)
    · exact absurd hu (h.header w1)
    · have hneg := (hf.result n p' (by rw [hr])).1
      omega
  | get dict =>
    rcases get_run_cases env fuel dict w with
      ⟨d, c, t, pd, w1, fs, body, s, w2, he, hy, _, herr, hrun⟩ |
      ⟨d, c, t, pd, w1, fs, e, s, w2, he, hb, _, _, _⟩ | ⟨w1, hu, _⟩ | hf
    · rw [hrun] at hr
      cases hr
      rw [herr]
      exact h.properties dict rfl d c t pd w1 fs body s he hy
    · exact absurd hb (h.body d c t pd w1 fs e s he)
    · exact absurd hu (h.header w1)
    · have hneg := (hf.result n p' (by rw [hr])).1
      omega

theorem success_of_nothingGoesWrong (h : NothingGoesWrong env mode w) :
    SuccessMeansNoPending env mode w := by
  refine ⟨fun fuel n p' w' hr hn => result_of_nothingGoesWrong h hr hn, ?_⟩
  rintro rfl hconn fuel n p' w' e hr he
  have hneg : n < 0 := by
    by_contra hn
    have hnone := result_of_nothingGoesWrong h hr (by omega)
    rw [he] at hnone
    cases hnone
  have hrun := basic_recv_unpolled fuel hconn (not_polls_zero env w.self.conn)
  rw [afterPoll_ret hr] at hrun
  rw [from_python_wrapUp hrun, if_pos hneg, he]
  rfl

/-- In both modes, a result that is not negative comes with no exception exactly
when nothing goes wrong on the way: every other content leaves an exception
behind a result that says success. -/
theorem success_means_no_exception_exactly_when_nothing_goes_wrong (env : Env σ κ) (mode : Mode)
    (w : World σ κ) : SuccessMeansNoPending env mode w ↔ NothingGoesWrong env mode w :=
  ⟨nothingGoesWrong_of_success, success_of_nothingGoesWrong⟩

/-- The callback raises a `ValueError`: the machine returns 0 with it pending. -/
theorem a_callback_that_raises_leaves_a_success_with_an_exception :
    ¬ SuccessMeansNoPending Socket.env .consume
      (Socket.world (.bringing [Socket.deliver 1, Socket.header 1, Socket.octet 0])
        (some (.raised .ValueError))) := by
  intro h
  have hret : (recvIn Socket.env 2 .consume
      (Socket.world (.bringing [Socket.deliver 1, Socket.header 1, Socket.octet 0])
        (some (.raised .ValueError)))).1 = .ret (0, none) := rfl
  have hnone := h.result 2 0 none _ (Prod.ext hret rfl) (by decide)
  cases hnone

end librabbitmq.pending_errors
