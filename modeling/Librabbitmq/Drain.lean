-- `Connection._basic_recv`, given what the poll and the receive machine do: the
-- poll moves the connection state only, and the wrapper closes the connection
-- behind a negative result and raises what is pending then.
import Librabbitmq.Delivery

namespace librabbitmq.drain

open delivery

variable {σ κ : Type} {env : Env σ κ} {w w' : World σ κ} {fuel : Nat} {n : Int}
  {p' : Option PyMembers} {timeout : Rat}

/-! ## Behind the poll -/

/-- The error of a failed read that left no exception. -/
def badFrame : PyErr := ⟨.ConnectionError, "Bad frame read", []⟩

/-- The end of `_basic_recv` behind a run of the machine that returned `n`. -/
def wrapUp (env : Env σ κ) (n : Int) (w : World σ κ) : Outcome (Option Unit) × World σ κ :=
  if n < 0 then (.ret none, (w.setErr (some (w.err.getD badFrame))).closed env)
  else (.ret (some ()), w)

/-- `_basic_recv` behind its poll. -/
def afterPoll (env : Env σ κ) (fuel : Nat) : Run (World σ κ) (Option Unit) := do
  let (retval, _) ← PyRabbitMQ_recv env fuel none false
  if retval < 0 then
    let w ← Run.get
    if w.err.isNone then
      PyErr_SetString ⟨.ConnectionError, "Bad frame read", []⟩
    PyRabbitMQ_Connection_close env
    return none
  return some ()

/-- A run that failed closes the connection, and raises what is pending. -/
theorem close_failed {α : Type} (env : Env σ κ) (w : World σ κ) :
    (do
      let w ← Run.get
      if w.err.isNone then
        PyErr_SetString ⟨.ConnectionError, "Bad frame read", []⟩
      PyRabbitMQ_Connection_close env
      return none : Run (World σ κ) (Option α)) w =
      (.ret none, (w.setErr (some (w.err.getD badFrame))).closed env) := by
  rw [Run.get_bind_apply]
  cases he : w.err with
  | none => rfl
  | some e =>
    have hsame : w.setErr (some e) = w := by
      unfold World.setErr
      rw [← he]
    rw [Option.getD_some, hsame]
    rfl

theorem afterPoll_ret (h : recvIn env fuel .consume w = (.ret (n, p'), w')) :
    afterPoll env fuel w = wrapUp env n w' := by
  have h' : PyRabbitMQ_recv env fuel none false w = (.ret (n, p'), w') := h
  unfold afterPoll wrapUp
  rw [Run.bind_ret h']
  dsimp only
  by_cases hn : n < 0
  · rw [if_pos hn, if_pos hn]
    exact close_failed env w'
  · rw [if_neg hn, if_neg hn]
    rfl

theorem afterPoll_hang (h : recvIn env fuel .consume w = (.hang, w')) :
    afterPoll env fuel w = (.hang, w') := by
  have h' : PyRabbitMQ_recv env fuel none false w = (.hang, w') := h
  unfold afterPoll
  rw [Run.bind_hang h']

/-- The two worlds have the same log of reads and of calls. -/
def SameLog (w w' : World σ κ) : Prop := w'.reads = w.reads ∧ w'.calls = w.calls

theorem wrapUp_log (env : Env σ κ) (n : Int) (w : World σ κ) : SameLog w (wrapUp env n w).2 := by
  unfold wrapUp
  split
  · have h := sameBooks_closed env (w.setErr (some (w.err.getD badFrame)))
    exact ⟨h.reads, h.calls⟩
  · exact ⟨rfl, rfl⟩

/-- However the machine ends, its log is the log of the call. -/
theorem afterPoll_log (env : Env σ κ) (fuel : Nat) (w : World σ κ) :
    SameLog (recvIn env fuel .consume w).2 (afterPoll env fuel w).2 := by
  rcases h : recvIn env fuel .consume w with ⟨o, w'⟩
  have h' : PyRabbitMQ_recv env fuel none false w = (o, w') := h
  cases o with
  | ret r =>
    obtain ⟨n, p'⟩ := r
    rw [afterPoll_ret h]
    exact wrapUp_log env n w'
  | crash =>
    unfold afterPoll
    rw [Run.bind_crash h']
    exact ⟨rfl, rfl⟩
  | hang =>
    rw [afterPoll_hang h]
    exact ⟨rfl, rfl⟩

/-! ## The poll -/

theorem not_connected_false (h : w.self.connected = true) :
    (PyRabbitMQ_Not_Connected : Run (World σ κ) Bool) w = (.ret false, w) := by
  unfold PyRabbitMQ_Not_Connected
  rw [Run.get_bind_apply, h]
  rfl

/-- A method of a connected connection goes on behind its first check. -/
theorem connected_bind {α : Type} {x y : Run (World σ κ) α} (h : w.self.connected = true) :
    (PyRabbitMQ_Not_Connected >>= fun closed => if closed = true then x else y) w = y w := by
  rw [Run.bind_ret (not_connected_false h), if_neg Bool.false_ne_true]

/-- The call waits for the socket before it reads. -/
def Polls (env : Env σ κ) (timeout : Rat) (s : σ) : Prop :=
  (PYRMQ_SHOULD_POLL timeout && !env.lib.AMQP_ACTIVE_BUFFERS s) = true

theorem not_polls_zero (env : Env σ κ) (s : σ) : ¬ Polls env 0 s := by
  have h : PYRMQ_SHOULD_POLL 0 = false := rfl
  unfold Polls
  rw [h]
  simp

/-- Every wait for the socket moves the connection state only, and keeps of it
what a `select` keeps. -/
theorem wait_keeps {α : Type} {view : σ → α}
    (h : ∀ s timeout, view (env.lib.select s timeout).2 = view s) (fuel : Nat) (timeout : Rat)
    (w : World σ κ) : ∃ s, (RabbitMQ_WAIT env fuel timeout w).2 = w.setConn s ∧
      view s = view w.self.conn := by
  unfold RabbitMQ_WAIT
  split
  · unfold RabbitMQ_wait_timeout
    apply Run.loop_keeps (fun w w' : World σ κ => ∃ s, w' = w.setConn s ∧ view s = view w.self.conn)
    · exact fun w => ⟨w.self.conn, rfl, rfl⟩
    · rintro w w1 w2 ⟨s1, rfl, h1⟩ ⟨s2, rfl, h2⟩
      exact ⟨s2, rfl, h2.trans h1⟩
    · rintro ⟨result, timeout⟩ w
      have hselect := h w.self.conn timeout
      unfold RabbitMQ_wait_timeout.turn
      dsimp only
      split
      · rw [Run.bind_ret (show onConn _ w = (.ret _, _) from rfl)]
        split
        · exact ⟨_, rfl, hselect⟩
        · split <;> exact ⟨_, rfl, hselect⟩
      · exact ⟨w.self.conn, rfl, rfl⟩
  · have hselect := h w.self.conn 0
    unfold RabbitMQ_wait_nb
    rw [Run.bind_ret (show onConn _ w = (.ret _, _) from rfl)]
    split
    · exact ⟨_, rfl, hselect⟩
    · split <;> exact ⟨_, rfl, hselect⟩

theorem wait_conn (env : Env σ κ) (fuel : Nat) (timeout : Rat) (w : World σ κ) :
    ∃ s, (RabbitMQ_WAIT env fuel timeout w).2 = w.setConn s := by
  obtain ⟨s, hs, _⟩ := @wait_keeps σ κ env Unit (fun _ => ()) (fun _ _ => rfl) fuel timeout w
  exact ⟨s, hs⟩

/-- A wait that returns does so with more fuel, too. -/
theorem wait_fuel {ready : Int} {w0 : World σ κ}
    (h : RabbitMQ_WAIT env fuel timeout w = (.ret ready, w0)) :
    ∃ k, ∀ fuel, k < fuel → RabbitMQ_WAIT env fuel timeout w = (.ret ready, w0) := by
  unfold RabbitMQ_WAIT at h ⊢
  split at h
  · rename_i hpos
    obtain ⟨k, b1, w1, hturns, hleave⟩ := Run.turns_of_loop h
    refine ⟨k, fun fuel hf => ?_⟩
    rw [if_pos hpos]
    exact Run.loop_leave hturns hleave hf
  · rename_i hpos
    refine ⟨0, fun fuel _ => ?_⟩
    rw [if_neg hpos]
    exact h

/-- `_basic_recv` comes to its receive machine, with the connection state `s`. -/
inductive Starts (env : Env σ κ) (timeout : Rat) (w : World σ κ) : σ → Prop
  | unpolled : w.self.connected = true → ¬ Polls env timeout w.self.conn →
      Starts env timeout w w.self.conn
  | polled {fuel : Nat} {ready : Int} {w0 : World σ κ} : w.self.connected = true →
      Polls env timeout w.self.conn → RabbitMQ_WAIT env fuel timeout w = (.ret ready, w0) →
      0 < ready → Starts env timeout w w0.self.conn

/-- Without a timeout the call reads at once. -/
theorem starts_zero {s : σ} (h : Starts env 0 w s) : s = w.self.conn := by
  cases h with
  | unpolled hc hp => rfl
  | polled hc hp hw hready => exact absurd hp (not_polls_zero env w.self.conn)

theorem basic_recv_unpolled (fuel : Nat) (hc : w.self.connected = true)
    (hp : ¬ Polls env timeout w.self.conn) :
    PyRabbitMQ_Connection_basic_recv env fuel timeout w = afterPoll env fuel w := by
  unfold Polls at hp
  unfold PyRabbitMQ_Connection_basic_recv
  rw [connected_bind hc, Run.get_bind_apply, if_neg hp]
  rfl

/-- A poll that finds the socket ready sets no exception, and one that does not
sets no `ConnectionError`. -/
theorem handlePollError_eq (ready : Int) (w : World σ κ) :
    ∃ err, PyRabbitMQ_HandlePollError ready w = (.ret ready, w.setErr err) ∧
      (0 < ready → err = w.err) ∧
      (ready ≤ 0 → w.err = none → ∃ e, err = some e ∧
        (e.cls = .OSError ∨ e.cls = .socket_timeout)) := by
  unfold PyRabbitMQ_HandlePollError
  rw [Run.get_bind_apply]
  by_cases h1 : ready < 0 ∧ w.err.isNone = true
  · refine ⟨some (.raised .OSError), ?_, fun hready => absurd hready (by omega),
      fun _ _ => ⟨_, rfl, Or.inl rfl⟩⟩
    rw [if_pos h1, PyErr_SetString_bind]
    change (Run.get >>= _) _ = _
    rw [Run.get_bind_apply, if_neg (by omega)]
    rfl
  · rw [if_neg h1]
    change ∃ err, (Run.get >>= _) w = _ ∧ _ ∧ _
    rw [Run.get_bind_apply]
    by_cases h2 : ready = 0 ∧ w.err.isNone = true
    · refine ⟨some ⟨.socket_timeout, "timed out", []⟩, ?_, fun hready => absurd hready (by omega),
        fun _ _ => ⟨_, rfl, Or.inr rfl⟩⟩
      rw [if_pos h2, PyErr_SetString_bind]
      rfl
    · refine ⟨w.err, ?_, fun _ => rfl, fun hready he => ?_⟩
      · rw [if_neg h2]
        rfl
      · rw [he] at h1 h2
        simp only [Option.isNone_none, and_true] at h1 h2
        omega

theorem basic_recv_polls (fuel : Nat) (hc : w.self.connected = true)
    (hp : Polls env timeout w.self.conn) :
    PyRabbitMQ_Connection_basic_recv env fuel timeout w =
      (do
        let ready ← RabbitMQ_WAIT env fuel timeout
        let ready ← PyRabbitMQ_HandlePollError ready
        if ready ≤ 0 then return none else afterPoll env fuel) w := by
  unfold Polls at hp
  unfold PyRabbitMQ_Connection_basic_recv
  rw [connected_bind hc, Run.get_bind_apply, if_pos hp]
  rfl

/-- The same behind a poll that finds the socket ready. -/
theorem basic_recv_polled {ready : Int} {w0 : World σ κ} (hc : w.self.connected = true)
    (hp : Polls env timeout w.self.conn)
    (hw : RabbitMQ_WAIT env fuel timeout w = (.ret ready, w0)) (hready : 0 < ready) :
    PyRabbitMQ_Connection_basic_recv env fuel timeout w = afterPoll env fuel w0 := by
  obtain ⟨err, hpoll, herr, _⟩ := handlePollError_eq ready w0
  have hsame : w0.setErr err = w0 := by
    rw [herr hready]
    rfl
  rw [basic_recv_polls fuel hc hp, Run.bind_ret hw, Run.bind_ret hpoll, if_neg (by omega), hsame]

/-- A poll that fails, or that times out, ends the call. -/
theorem basic_recv_unready {ready : Int} {w0 : World σ κ} (hc : w.self.connected = true)
    (hp : Polls env timeout w.self.conn)
    (hw : RabbitMQ_WAIT env fuel timeout w = (.ret ready, w0)) (hready : ¬ 0 < ready) :
    ∃ err, PyRabbitMQ_Connection_basic_recv env fuel timeout w = (.ret none, w0.setErr err) ∧
      (w0.err = none → ∃ e, err = some e ∧ (e.cls = .OSError ∨ e.cls = .socket_timeout)) := by
  obtain ⟨err, hpoll, _, herr⟩ := handlePollError_eq ready w0
  refine ⟨err, ?_, herr (by omega)⟩
  rw [basic_recv_polls fuel hc hp, Run.bind_ret hw, Run.bind_ret hpoll, if_pos (by omega)]
  rfl

theorem basic_recv_closed (fuel : Nat) (timeout : Rat) (hc : w.self.connected = false) :
    PyRabbitMQ_Connection_basic_recv env fuel timeout w = (.ret none,
      w.setErr (some ⟨.ConnectionError, "Operation on closed connection", []⟩)) := by
  have hnot : PyRabbitMQ_Not_Connected w = (.ret true,
      w.setErr (some ⟨.ConnectionError, "Operation on closed connection", []⟩)) := by
    unfold PyRabbitMQ_Not_Connected
    rw [Run.get_bind_apply, hc]
    rfl
  unfold PyRabbitMQ_Connection_basic_recv
  rw [Run.bind_ret hnot]
  rfl

/-- A call that comes to its machine ends as the machine does, with the fuel for
the poll. -/
theorem basic_recv_of_starts {s : σ} (h : Starts env timeout w s) : ∃ k, ∀ fuel, k < fuel →
    PyRabbitMQ_Connection_basic_recv env fuel timeout w = afterPoll env fuel (w.setConn s) := by
  cases h with
  | unpolled hc hp => exact ⟨0, fun fuel _ => basic_recv_unpolled fuel hc hp⟩
  | @polled fuel ready w0 hc hp hw hready =>
    obtain ⟨k, hk⟩ := wait_fuel hw
    obtain ⟨s, hs⟩ := wait_conn env fuel timeout w
    rw [hw] at hs
    dsimp only at hs
    subst hs
    exact ⟨k, fun fuel hf => basic_recv_polled hc hp (hk fuel hf) hready⟩

/-- A wait for a socket that is ready returns at once. -/
theorem wait_ready {pending : σ → List amqp_frame_t} (hready : PollReady env.lib pending)
    (timeout : Rat) (hne : pending w.self.conn ≠ [])
    (hactive : env.lib.AMQP_ACTIVE_BUFFERS w.self.conn = false) : ∃ s,
      pending s = pending w.self.conn ∧
      RabbitMQ_WAIT env 1 timeout w = (.ret 1, w.setConn s) := by
  unfold RabbitMQ_WAIT
  by_cases hpos : timeout > 0
  · obtain ⟨hresult, hisset, hpend⟩ := hready w.self.conn timeout hne hactive
    have hturn : RabbitMQ_wait_timeout.turn env (0, timeout) w =
        (.ret (.inr 1), w.setConn (env.lib.select w.self.conn timeout).2) := by
      unfold RabbitMQ_wait_timeout.turn
      dsimp only
      rw [if_pos hpos, Run.bind_ret (show onConn _ w = (.ret _, _) from rfl), if_neg (by omega),
        if_pos hisset]
      rfl
    refine ⟨_, hpend, ?_⟩
    rw [if_pos hpos]
    exact Run.loop_leave (n := 0) ⟨rfl, rfl⟩ hturn (by decide)
  · obtain ⟨hresult, hisset, hpend⟩ := hready w.self.conn 0 hne hactive
    refine ⟨_, hpend, ?_⟩
    rw [if_neg hpos]
    unfold RabbitMQ_wait_nb
    rw [Run.bind_ret (show onConn _ w = (.ret _, _) from rfl), if_neg (by omega), if_pos hisset]
    rfl

/-- While frames are not yet consumed, a call comes to its machine. -/
theorem starts_of_ready {pending : σ → List amqp_frame_t} (hc : w.self.connected = true)
    (hready : PYRMQ_SHOULD_POLL timeout = true → PollReady env.lib pending)
    (hne : pending w.self.conn ≠ []) :
    ∃ s, Starts env timeout w s ∧ pending s = pending w.self.conn := by
  by_cases hp : Polls env timeout w.self.conn
  · have hboth := hp
    unfold Polls at hboth
    rw [Bool.and_eq_true, Bool.not_eq_true'] at hboth
    obtain ⟨s, hs, hw⟩ := wait_ready (hready hboth.1) timeout hne hboth.2
    exact ⟨s, .polled hc hp hw (by decide), hs⟩
  · exact ⟨w.self.conn, .unpolled hc hp, rfl⟩

/-- A call has the log of a machine that it comes to, or reads and calls nothing. -/
theorem basic_recv_log (env : Env σ κ) (fuel : Nat) (timeout : Rat) (w : World σ κ) :
    (∃ s, Starts env timeout w s ∧ SameLog (recvIn env fuel .consume (w.setConn s)).2
      (PyRabbitMQ_Connection_basic_recv env fuel timeout w).2) ∨
    SameLog w (PyRabbitMQ_Connection_basic_recv env fuel timeout w).2 := by
  by_cases hc : w.self.connected = true
  · by_cases hp : Polls env timeout w.self.conn
    · obtain ⟨s, hs⟩ := wait_conn env fuel timeout w
      rcases hw : RabbitMQ_WAIT env fuel timeout w with ⟨o, w0⟩
      rw [hw] at hs
      dsimp only at hs
      subst hs
      cases o with
      | ret ready =>
        by_cases hready : 0 < ready
        · refine Or.inl ⟨s, .polled hc hp hw hready, ?_⟩
          rw [basic_recv_polled hc hp hw hready]
          exact afterPoll_log env fuel (w.setConn s)
        · obtain ⟨err, he, _⟩ := basic_recv_unready hc hp hw hready
          rw [he]
          exact Or.inr ⟨rfl, rfl⟩
      | crash =>
        rw [basic_recv_polls fuel hc hp, Run.bind_crash hw]
        exact Or.inr ⟨rfl, rfl⟩
      | hang =>
        rw [basic_recv_polls fuel hc hp, Run.bind_hang hw]
        exact Or.inr ⟨rfl, rfl⟩
    · refine Or.inl ⟨w.self.conn, .unpolled hc hp, ?_⟩
      rw [basic_recv_unpolled fuel hc hp]
      exact afterPoll_log env fuel w
  · rw [basic_recv_closed fuel timeout (Bool.eq_false_iff.mpr hc)]
    exact Or.inr ⟨rfl, rfl⟩

/-! ## What Python sees -/

/-- What Python sees of a call that returns. -/
theorem from_python_ret {α : Type} {x : Run (World σ κ) (Option α)} {r : Option α}
    (hx : x w = (.ret r, w')) :
    fromPython x w = (.ret (checkResult r w'.err), w'.setErr none) := by
  unfold fromPython
  rw [Run.bind_ret hx, Run.get_bind_apply, Run.modify_bind_apply]
  rfl

/-- A call that does not end does not end for Python. -/
theorem from_python_hang {α : Type} {x : Run (World σ κ) (Option α)} (hx : x w = (.hang, w')) :
    fromPython x w = (.hang, w') := by
  unfold fromPython
  rw [Run.bind_hang hx]

/-- What Python sees of a call when the machine returned. -/
theorem from_python_wrapUp {x : Run (World σ κ) (Option Unit)} (hx : x w = wrapUp env n w') :
    (fromPython x w).1 = .ret (if n < 0 then .error (w'.err.getD badFrame)
      else checkResult (some ()) w'.err) := by
  by_cases hn : n < 0
  · have h1 : x w = (.ret none, (w'.setErr (some (w'.err.getD badFrame))).closed env) := by
      rw [hx, wrapUp, if_pos hn]
    rw [from_python_ret h1, if_pos hn, World.closed_err]
    rfl
  · have h1 : x w = (.ret (some ()), w') := by rw [hx, wrapUp, if_neg hn]
    rw [from_python_ret h1, if_neg hn]

/-- What Python sees of a call that ends well. -/
theorem from_python_ok {α : Type} {x : Run (World σ κ) (Option α)} {a : α}
    (hx : x w = (.ret (some a), w')) (herr : w'.err = none) :
    fromPython x w = (.ret (.ok a), w') := by
  have hsame : w'.setErr none = w' := by
    unfold World.setErr
    rw [← herr]
  rw [from_python_ret hx, herr, hsame]
  rfl

end librabbitmq.drain
