-- The law of the client properties. They are converted where the thread has given up its
-- thread state: a conversion that raises ends the process before the login.
import Librabbitmq.Wire
import Librabbitmq.Dialing
import Librabbitmq.SyncReplies
import Librabbitmq.Encoding

namespace librabbitmq.login_properties

open drain sync_replies table_errors encoding

variable {σ κ : Type}

/-! ## The law -/

/-- The status of the open of the socket. -/
def socketStatus (api : RabbitMQApi σ) (init : ConnectionInit) (s : σ) : Int × σ :=
  if init.connect_timeout ≤ 0 then api.amqp_socket_open s init.hostname init.port
  else api.amqp_socket_open_noblock s init.hostname init.port init.connect_timeout

/-- The descriptor, and the state of the library, where `connect` comes to its login. -/
def dialled (api : RabbitMQApi σ) (init : ConnectionInit) (s : σ) : Option (Int × σ) :=
  match api.amqp_tcp_socket_new (api.amqp_new_connection s) with
  | (false, _) => none
  | (true, s) =>
    match socketStatus api init s with
    | (status, s) => if status ≠ 0 then none else some (api.amqp_socket_get_sockfd s)

/-- The login of a connection with a table. -/
def loginWith (api : RabbitMQApi σ) (init : ConnectionInit) (self : Connection σ κ) (s : σ)
    (properties : amqp_table_t) : amqp_rpc_reply_t × σ :=
  api.amqp_login_with_properties s init.virtual_host self.channel_max self.frame_max self.heartbeat
    properties init.userid init.password

/-- The table has one entry for each key of the dict, in their order. -/
def OneEntryPerKey (members : PyMembers) (t : amqp_table_t) : Prop :=
  List.Forall₂ (fun (m : PyKey × PyObj) (e : Octets × amqp_field_value_t) =>
    keyOctets m.1 = some e.1) members t

/-- A `connect` that comes to its login raises what the conversion of the client properties
raises, with no login sent; and one that returns has logged in with all of them. -/
structure RejectsUnencodable (x : Outside σ κ) (init : ConnectionInit) (members : PyMembers)
    (w : World (Wire σ) κ) : Prop where
  rejects : ∀ sockfd s t e, dialled x.api.wired init w.self.conn = some (sockfd, s) →
    PyDict_ToAMQTable members none = .ret (t, some e) →
    ∃ k, ∀ fuel, k < fuel → ∃ w',
      PyRabbitMQ_Connection_connect x.env x.api.wired init fuel w = (.ret none, w') ∧
      w'.err = some e ∧ w'.self.conn.sent = w.self.conn.sent ∧ w'.self.connected = false
  accepts : ∀ fuel w',
    PyRabbitMQ_Connection_connect x.env x.api.wired init fuel w = (.ret (some ()), w') →
    w'.err = none ∧ ∃ t, w'.self.conn.sent = w.self.conn.sent ++ [.login (some t)] ∧
      OneEntryPerKey members t

/-- Where `connect` comes to its login, the client properties convert; and where the
interpreter converts them without a thread state and the login is granted, no property is a -1
and the properties of the server decode. -/
def Encodable (x : Outside σ κ) (init : ConnectionInit) (members : PyMembers)
    (w : World (Wire σ) κ) : Prop :=
  ∀ sockfd s, dialled x.api.wired init w.self.conn = some (sockfd, s) →
    membersRaise members = false ∧ (x.env.python.convertsDetached members = true →
    ∀ m s1, loginWith x.api.wired init w.self s (tableOf members) = (.normal m, s1) →
      ∀ d err, AMQTable_toPyDict (x.api.wired.amqp_get_server_properties s1).1 none = .ret (d, err) →
        err = none ∧ (members.any fun e => isMinusOne e.2) = false)

/-! ## The run of `connect` -/

section

variable {env : Env σ κ} {api : RabbitMQApi σ} {init : ConnectionInit} {w w' : World σ κ}
  {sockfd : Int} {s : σ}

/-- `connect` behind the socket. -/
def behindDial (env : Env σ κ) (api : RabbitMQApi σ) (init : ConnectionInit) (fuel : Nat) :
    Run (World σ κ) (Option Unit) := do
  let reply ← login env api init
  if (← PyRabbitMQ_HandleAMQError env fuel 0 reply "Couldn't log in") ≠ 0 then return none
  loggedIn api

/-- `connect` comes to its login, or returns NULL. -/
theorem connect_cases (env : Env σ κ) (api : RabbitMQApi σ) (init : ConnectionInit)
    (hconn : w.self.connected = false) :
    (dialled api init w.self.conn = none ∧ ∃ w', ∀ fuel,
      PyRabbitMQ_Connection_connect env api init fuel w = (.ret none, w')) ∨
    ∃ sockfd s, dialled api init w.self.conn = some (sockfd, s) ∧ ∀ fuel,
      PyRabbitMQ_Connection_connect env api init fuel w =
        behindDial env api init fuel ((w.setConn s).setSockfd sockfd) := by
  have hnot : ¬ w.self.connected = true := by simp [hconn]
  unfold dialled
  rcases hnew : api.amqp_tcp_socket_new (api.amqp_new_connection w.self.conn) with ⟨found, s0⟩
  have hcall : onConn api.amqp_tcp_socket_new (w.setConn (api.amqp_new_connection w.self.conn)) =
      (.ret found, w.setConn s0) := onConn_ret hnew
  cases found with
  | false =>
    refine .inl ⟨rfl, ?_, fun fuel => ?_⟩
    rotate_left
    · unfold PyRabbitMQ_Connection_connect
      rw [Run.get_bind_apply, if_neg hnot, Run.modify_bind_apply, Run.bind_ret hcall]
      rfl
  | true =>
    dsimp only
    rcases hstatus : socketStatus api init s0 with ⟨status, s1⟩
    have hopen : openSocket api init (w.setConn s0) = (.ret status, w.setConn s1) :=
      onConn_ret hstatus
    by_cases hfailed : status ≠ 0
    · obtain ⟨w1, hhandle⟩ : ∃ w1, PyRabbitMQ_HandleAMQStatus env status "Error opening socket"
          (w.setConn s1) = (.ret status, w1) := by
        unfold PyRabbitMQ_HandleAMQStatus
        rw [if_pos hfailed]
        exact ⟨_, rfl⟩
      refine .inl ⟨if_pos hfailed, ?_, fun fuel => ?_⟩
      rotate_left
      · unfold PyRabbitMQ_Connection_connect
        rw [Run.get_bind_apply, if_neg hnot, Run.modify_bind_apply, Run.bind_ret hcall,
          if_neg (by simp), Run.bind_ret hopen, Run.bind_ret hhandle, if_pos hfailed]
        rfl
    · have hhandle : PyRabbitMQ_HandleAMQStatus env status "Error opening socket" (w.setConn s1) =
          (.ret status, w.setConn s1) := by
        unfold PyRabbitMQ_HandleAMQStatus
        rw [if_neg hfailed]
        rfl
      rcases hfd : api.amqp_socket_get_sockfd s1 with ⟨sockfd, s⟩
      have hsockfd : onConn api.amqp_socket_get_sockfd (w.setConn s1) =
          (.ret sockfd, w.setConn s) := onConn_ret hfd
      refine .inr ⟨sockfd, s, if_neg hfailed, fun fuel => ?_⟩
      unfold PyRabbitMQ_Connection_connect
      rw [Run.get_bind_apply, if_neg hnot, Run.modify_bind_apply, Run.bind_ret hcall,
        if_neg (by simp), Run.bind_ret hopen, Run.bind_ret hhandle, if_neg hfailed,
        Run.bind_ret hsockfd, Run.modify_bind_apply]
      rfl

/-! ## The login -/

theorem login_converts (env : Env σ κ) (api : RabbitMQApi σ) (w : World σ κ) {members : PyMembers}
    {t : amqp_table_t} {reply : amqp_rpc_reply_t} (hinit : init.client_properties = some members)
    (hconv : PyDict_ToAMQTable members none = .ret (t, none))
    (hdetached : env.python.convertsDetached members = true)
    (hlogin : loginWith api init w.self w.self.conn t = (reply, s)) :
    login env api init w = (.ret reply, w.setConn s) := by
  have hcall : onConn (fun s => api.amqp_login_with_properties s init.virtual_host
      w.self.channel_max w.self.frame_max w.self.heartbeat t init.userid init.password) w =
        (.ret reply, w.setConn s) := onConn_ret hlogin
  unfold login
  rw [Run.get_bind_apply, hinit]
  dsimp only
  rw [hdetached, Run.bind_ret (withoutThreadState_ret hconv), hcall]

/-- Client properties that raise, or need the thread state, end the process at the login. -/
theorem login_crashes (env : Env σ κ) (api : RabbitMQApi σ) (w : World σ κ) {members : PyMembers}
    {t : amqp_table_t} {err : Option PyErr} (hinit : init.client_properties = some members)
    (hconv : PyDict_ToAMQTable members none = .ret (t, err))
    (hcrash : err.isSome = true ∨ env.python.convertsDetached members = false) :
    login env api init w = (.crash, w) := by
  unfold login
  rw [Run.get_bind_apply, hinit]
  dsimp only
  rw [Run.bind_crash (withoutThreadState_crash hconv hcrash)]

theorem loggedIn_ret (api : RabbitMQApi σ) (w : World σ κ) {d : PyMembers} {err : Option PyErr}
    (h : AMQTable_toPyDict (api.amqp_get_server_properties w.self.conn).1 w.err = .ret (d, err)) :
    ∃ w', loggedIn api w = (.ret (some ()), w') ∧ w'.err = err ∧
      w'.self.conn = (api.amqp_get_server_properties w.self.conn).2 := by
  unfold loggedIn
  rw [Run.modify_bind_apply]
  generalize hw1 : World.mk _ _ _ _ _ = w1
  have hconn : w1.self.conn = w.self.conn := by rw [← hw1]
  have herr : w1.err = w.err := by rw [← hw1]
  rw [← hconn, ← herr] at h
  rcases hserver : api.amqp_get_server_properties w1.self.conn with ⟨table, s1⟩
  rw [hserver] at h
  have hdecoded : withErr (AMQTable_toPyDict table) (w1.setConn s1) =
      (.ret d, (w1.setConn s1).setErr err) := withErr_ret h
  rw [Run.bind_ret (onConn_ret hserver), Run.bind_ret hdecoded, ← hconn, hserver]
  exact ⟨_, rfl, rfl, rfl⟩

/-- A method behind a granted login has decoded the properties of the server. -/
theorem ret_of_loggedIn {u : Option Unit} (h : loggedIn api w = (.ret u, w')) :
    u = some () ∧ ∃ d err,
      AMQTable_toPyDict (api.amqp_get_server_properties w.self.conn).1 w.err = .ret (d, err) := by
  unfold loggedIn at h
  rw [Run.modify_bind_apply, Run.bind_ret (x := onConn api.amqp_get_server_properties) rfl] at h
  obtain ⟨d, w1, hdecoded, h⟩ := Run.ret_of_bind h
  cases h
  refine ⟨rfl, d, w1.err, ?_⟩
  unfold withErr at hdecoded
  split at hdecoded
  · rename_i hret
    cases hdecoded
    exact hret
  · cases hdecoded
  · cases hdecoded

end

/-! ## Tables -/

/-- A dict tree converts to its table, beside an exception if one of its values raises. -/
theorem tree_converts {members : PyMembers} (h : TreeMembers members) : ∃ err,
    PyDict_ToAMQTable members none = .ret (tableOf members, err) ∧
      err.isSome = membersRaise members := by
  obtain ⟨t, err, hret, _⟩ := table_errors.members_run members h [] none
  have hret' : PyDict_ToAMQTable members none = .ret (t, err) := hret
  obtain ⟨_, rfl, herr⟩ := (toAMQTable_comes members none).of_ret hret'
  exact ⟨err, hret', by simpa using herr⟩

theorem entries_one_per_key : ∀ {members : PyMembers}, TreeMembers members →
    OneEntryPerKey members (entries members) := by
  intro members
  induction members with
  | nil => exact fun _ => .nil
  | cons m rest ih =>
    obtain ⟨key, value⟩ := m
    rintro ⟨⟨s, rfl, hs⟩, _, hrest⟩
    obtain ⟨k, hk⟩ := Option.isSome_iff_exists.mp hs
    have hkey : keyOctets (.str s) = some k := hk
    refine .cons ?_ (ih hrest)
    rw [hkey]
    rfl

/-- A dict that is left at a -1 has lost its entries. -/
theorem one_per_key_iff {members : PyMembers} (h : TreeMembers members) :
    OneEntryPerKey members (tableOf members) ↔ membersStop members = false := by
  unfold tableOf
  cases hstop : membersStop members with
  | false => exact iff_of_true (entries_one_per_key h) rfl
  | true =>
    refine iff_of_false (fun hone => ?_) (by simp)
    cases hone
    cases hstop

/-! ## The law of `connect` -/

section

variable {x : Outside σ κ} {init : ConnectionInit} {w w' : World (Wire σ) κ}

theorem dialled_sent {s s' : Wire σ} {sockfd : Int}
    (h : dialled x.api.wired init s = some (sockfd, s')) : s'.sent = s.sent := by
  unfold dialled at h
  split at h
  · cases h
  · rename_i s0 hnew
    split at h
    rename_i status s1 hstatus
    split at h
    · cases h
    · cases h
      have hs0 : s.sent = s0.sent := congrArg (fun r => r.2.sent) hnew
      have hs1 : s0.sent = s1.sent := by
        unfold socketStatus at hstatus
        split at hstatus <;> exact congrArg (fun r => r.2.sent) hstatus
      exact (hs0.trans hs1).symm

/-- `connect` has come to its login: the table goes out, and what follows is up to the reply. -/
structure ComesToLogin (x : Outside σ κ) (init : ConnectionInit) (members : PyMembers)
    (w : World (Wire σ) κ) (sockfd : Int) (s : Wire σ) (reply : amqp_rpc_reply_t)
    (s1 : Wire σ) : Prop where
  dials : dialled x.api.wired init w.self.conn = some (sockfd, s)
  replies : loginWith x.api.wired init w.self s (tableOf members) = (reply, s1)
  carries : s1.sent = w.self.conn.sent ++ [.login (some (tableOf members))]
  follows : ∀ fuel, PyRabbitMQ_Connection_connect x.env x.api.wired init fuel w =
    (do
      if (← PyRabbitMQ_HandleAMQError x.env fuel 0 reply "Couldn't log in") ≠ 0 then return none
      loggedIn x.api.wired : Run (World (Wire σ) κ) (Option Unit))
      (((w.setConn s).setSockfd sockfd).setConn s1)

variable {members : PyMembers} {sockfd : Int} {s s1 : Wire σ} {err : Option PyErr}
  {reply : amqp_rpc_reply_t}

theorem comesToLogin (hdials : dialled x.api.wired init w.self.conn = some (sockfd, s))
    (hrun : ∀ fuel, PyRabbitMQ_Connection_connect x.env x.api.wired init fuel w =
      behindDial x.env x.api.wired init fuel ((w.setConn s).setSockfd sockfd))
    (hinit : init.client_properties = some members)
    (hconv : PyDict_ToAMQTable members none = .ret (tableOf members, none))
    (hdetached : x.env.python.convertsDetached members = true) :
    ∃ reply s1, ComesToLogin x init members w sockfd s reply s1 := by
  rcases hlogin : loginWith x.api.wired init w.self s (tableOf members) with ⟨reply, s1⟩
  have hcarries : s1.sent = s.sent ++ [.login (some (tableOf members))] :=
    (congrArg (fun r => r.2.sent) hlogin).symm
  rw [dialled_sent hdials] at hcarries
  refine ⟨reply, s1, hdials, hlogin, hcarries, fun fuel => ?_⟩
  have hcall := login_converts x.env x.api.wired ((w.setConn s).setSockfd sockfd) hinit hconv
    hdetached hlogin
  rw [hrun]
  unfold behindDial
  rw [Run.bind_ret hcall]

/-- A `connect` whose client properties raise, or need the thread state, ends the process with
no login sent. -/
theorem crashes_at_login (hdials : dialled x.api.wired init w.self.conn = some (sockfd, s))
    (hrun : ∀ fuel, PyRabbitMQ_Connection_connect x.env x.api.wired init fuel w =
      behindDial x.env x.api.wired init fuel ((w.setConn s).setSockfd sockfd))
    (hinit : init.client_properties = some members) {t : amqp_table_t}
    (hconv : PyDict_ToAMQTable members none = .ret (t, err))
    (hcrash : err.isSome = true ∨ x.env.python.convertsDetached members = false) :
    ∃ w', w'.self.conn.sent = w.self.conn.sent ∧ ∀ fuel,
      PyRabbitMQ_Connection_connect x.env x.api.wired init fuel w = (.crash, w') := by
  refine ⟨(w.setConn s).setSockfd sockfd, dialled_sent hdials, fun fuel => ?_⟩
  rw [hrun]
  unfold behindDial
  rw [Run.bind_crash (login_crashes x.env x.api.wired _ hinit hconv hcrash)]

/-- A `connect` that crashes at its login is as it should be exactly when the properties raise
nothing. -/
theorem rejects_of_crash {w0 : World (Wire σ) κ}
    (hdials : dialled x.api.wired init w.self.conn = some (sockfd, s))
    (hrun : ∀ fuel, PyRabbitMQ_Connection_connect x.env x.api.wired init fuel w = (.crash, w0))
    (hconv : PyDict_ToAMQTable members none = .ret (tableOf members, err)) :
    RejectsUnencodable x init members w ↔ err = none := by
  constructor
  · intro h
    cases err with
    | none => rfl
    | some e =>
      obtain ⟨k, hk⟩ := h.rejects sockfd s _ e hdials hconv
      obtain ⟨w', hnull, _⟩ := hk (k + 1) (Nat.lt_succ_self k)
      cases (hrun (k + 1)).symm.trans hnull
  · rintro rfl
    refine ⟨fun _ _ _ _ _ hret => ?_, fun fuel w' h => ?_⟩
    · cases hconv.symm.trans hret
    · cases (hrun fuel).symm.trans h

/-- A granted login that returns with no exception has read the properties of the server with
none, and has sent every client property. -/
theorem whole_of_accepts {m : amqp_method_t} {d : PyMembers} {err' : Option PyErr}
    (hlogin : ComesToLogin x init members w sockfd s (.normal m) s1)
    (hdecoded : AMQTable_toPyDict (x.api.wired.amqp_get_server_properties s1).1 none =
      .ret (d, err')) (herr : w.err = none) (h : RejectsUnencodable x init members w) :
    err' = none ∧ OneEntryPerKey members (tableOf members) := by
  have hdecoded' : AMQTable_toPyDict (x.api.wired.amqp_get_server_properties s1).1
      (((w.setConn s).setSockfd sockfd).setConn s1).err = .ret (d, err') := by
    rw [← hdecoded]
    exact congrArg _ herr
  obtain ⟨w', hreturns, herr', hsent'⟩ := loggedIn_ret x.api.wired
    (((w.setConn s).setSockfd sockfd).setConn s1) hdecoded'
  have hconnect : PyRabbitMQ_Connection_connect x.env x.api.wired init 1 w =
      (.ret (some ()), w') := by
    rw [hlogin.follows, Run.bind_ret (handleAMQError_normal x.env 0 0 m _ _),
      if_neg (by decide), hreturns]
  obtain ⟨hclean, t, ht, hone⟩ := h.accepts 1 w' hconnect
  have hcarried : w'.self.conn.sent =
      w.self.conn.sent ++ [.login (some (tableOf members))] := by
    rw [hsent']
    exact hlogin.carries
  have htable := List.append_cancel_left (hcarried.symm.trans ht)
  simp only [List.cons.injEq, Outgoing.login.injEq, Option.some.injEq, and_true] at htable
  rw [← htable] at hone
  exact ⟨herr'.symm.trans hclean, hone⟩

/-- A `connect` that returns has been granted its login and has read the properties of the
server. -/
theorem granted_of_connect {fuel : Nat}
    (hlogin : ComesToLogin x init members w sockfd s reply s1) (herr : w.err = none)
    (h : PyRabbitMQ_Connection_connect x.env x.api.wired init fuel w = (.ret (some ()), w')) :
    ∃ m d, reply = .normal m ∧
      AMQTable_toPyDict (x.api.wired.amqp_get_server_properties s1).1 none = .ret (d, w'.err) ∧
      w'.self.conn.sent = w.self.conn.sent ++ [.login (some (tableOf members))] := by
  rw [hlogin.follows] at h
  obtain ⟨r, w1, hhandle, h⟩ := Run.ret_of_bind h
  rcases handle_cases hhandle with ⟨m, rfl, rfl, rfl⟩ | ⟨hr, _⟩ | ⟨hr, _⟩
  · rw [if_neg (by decide)] at h
    obtain ⟨_, d, err', hdecoded⟩ := ret_of_loggedIn h
    obtain ⟨w2, hreturns, herr', hsent'⟩ := loggedIn_ret x.api.wired _ hdecoded
    cases h.symm.trans hreturns
    refine ⟨m, d, rfl, ?_, ?_⟩
    · rw [herr', ← hdecoded]
      exact congrArg _ herr.symm
    · rw [hsent']
      exact hlogin.carries
  · rw [if_pos hr] at h
    cases h
  · rw [if_pos hr] at h
    cases h

/-- A `connect` whose client properties convert. -/
theorem safe_of_silent (htree : TreeMembers members) (hsilent : membersRaise members = false)
    (hconv : PyDict_ToAMQTable members none = .ret (tableOf members, none)) (herr : w.err = none)
    (hlogin : ComesToLogin x init members w sockfd s reply s1) :
    RejectsUnencodable x init members w ↔
      ∀ m s1, loginWith x.api.wired init w.self s (tableOf members) = (.normal m, s1) →
        ∀ d err, AMQTable_toPyDict (x.api.wired.amqp_get_server_properties s1).1 none =
          .ret (d, err) → err = none ∧ (members.any fun e => isMinusOne e.2) = false := by
  constructor
  · intro hrejects m s1' hgranted d err' hdecoded
    cases hlogin.replies.symm.trans hgranted
    obtain ⟨hclean, hone⟩ := whole_of_accepts hlogin hdecoded herr hrejects
    rw [one_per_key_iff htree, membersStop_of_silent hsilent] at hone
    exact ⟨hclean, hone⟩
  · refine fun hgranted => ⟨fun _ _ t e _ hret => ?_, fun fuel w' h => ?_⟩
    · cases hconv.symm.trans hret
    · obtain ⟨m, d, rfl, hdecoded, hsent⟩ := granted_of_connect hlogin herr h
      obtain ⟨hclean, hminusOne⟩ := hgranted m s1 hlogin.replies d _ hdecoded
      refine ⟨hclean, tableOf members, hsent, ?_⟩
      rw [one_per_key_iff htree, membersStop_of_silent hsilent]
      exact hminusOne

end

/-- `connect` treats its client properties as it should exactly when they convert, and, where
the interpreter lets the conversion through, with no member -1 and with properties of the
server that decode: it never looks for an exception, and has no thread state to raise one. -/
theorem the_login_is_safe_exactly_when_the_properties_convert (x : Outside σ κ)
    (init : ConnectionInit) (members : PyMembers) (w : World (Wire σ) κ)
    (hconn : w.self.connected = false) (herr : w.err = none)
    (hinit : init.client_properties = some members) (htree : TreeMembers members) :
    RejectsUnencodable x init members w ↔ Encodable x init members w := by
  obtain ⟨err, hconv, hraises⟩ := tree_converts htree
  rcases connect_cases x.env x.api.wired init hconn with ⟨hnone, w0, hrun⟩ | ⟨sockfd, s, hsome, hrun⟩
  · refine iff_of_true ⟨fun sockfd s _ _ hdialled _ => ?_, fun fuel w' h => ?_⟩
      fun sockfd s hdialled => ?_
    · cases hnone.symm.trans hdialled
    · cases (hrun fuel).symm.trans h
    · cases hnone.symm.trans hdialled
  have hencodable : Encodable x init members w ↔
      membersRaise members = false ∧ (x.env.python.convertsDetached members = true →
        ∀ m s1, loginWith x.api.wired init w.self s (tableOf members) = (.normal m, s1) →
          ∀ d err, AMQTable_toPyDict (x.api.wired.amqp_get_server_properties s1).1 none =
            .ret (d, err) → err = none ∧ (members.any fun e => isMinusOne e.2) = false) := by
    constructor
    · exact fun h => h sockfd s hsome
    · intro h sockfd' s' hdialled
      cases hsome.symm.trans hdialled
      exact h
  have hsilent_iff : err = none ↔ membersRaise members = false := by
    rw [← hraises]
    cases err <;> simp
  rw [hencodable]
  by_cases hcrash : err.isSome = true ∨ x.env.python.convertsDetached members = false
  · obtain ⟨w0, _, hcrashes⟩ := crashes_at_login hsome hrun hinit hconv hcrash
    rw [rejects_of_crash hsome hcrashes hconv, hsilent_iff]
    refine ⟨fun hsilent => ⟨hsilent, fun hdetached => ?_⟩, fun h => h.1⟩
    rcases hcrash with hsome' | hneeds
    · rw [hraises, hsilent] at hsome'
      cases hsome'
    · rw [hneeds] at hdetached
      cases hdetached
  · obtain ⟨hnot, hdetached⟩ := not_or.mp hcrash
    obtain rfl : err = none := by simpa using hnot
    rw [Bool.not_eq_false] at hdetached
    have hsilent := hsilent_iff.mp rfl
    obtain ⟨reply, s1, hlogin⟩ := comesToLogin hsome hrun hinit hconv hdetached
    rw [safe_of_silent htree hsilent hconv herr hlogin]
    exact ⟨fun h => ⟨hsilent, fun _ => h⟩, fun h => h.2 hdetached⟩

/-- One property that converts. -/
def product : PyMembers := [(.str (pyStr "product"), .str (pyStr "py"))]

/-- A `Connection` with these client properties, and nothing else that matters. -/
def initOf (members : PyMembers) : ConnectionInit := ⟨[], 5672, [], [], [], some members, 0⟩

theorem product_is_accepted :
    RejectsUnencodable ({} : Answers).outside (initOf product) product (World.unconnected ()) := by
  refine (the_login_is_safe_exactly_when_the_properties_convert _ (initOf product) product _ rfl
    rfl rfl ⟨⟨_, rfl, by decide⟩, trivial, trivial⟩).mpr ?_
  intro sockfd s hdialled
  refine ⟨by decide, fun _ m s1 _ d err hdecoded => ⟨?_, by decide⟩⟩
  cases hdecoded
  rfl

/-- A number that does not fit ends the process: `connect` does not return. -/
theorem a_number_too_large_ends_the_process :
    ¬ RejectsUnencodable ({} : Answers).outside (initOf [(.str (pyStr "n"), .int (2 ^ 63))])
      [(.str (pyStr "n"), .int (2 ^ 63))] (World.unconnected ()) := by
  intro h
  obtain ⟨k, hk⟩ := h.rejects 3 ⟨(), []⟩ [] (.raised .OverflowError) rfl rfl
  obtain ⟨w', hnull, _⟩ := hk (k + 1) (Nat.lt_succ_self k)
  cases hnull

end librabbitmq.login_properties
