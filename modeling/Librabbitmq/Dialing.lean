-- `Connection.connect` as acts. What it does to its new handle is one act, since
-- until the broker has granted the login no method looks at the handle.
import Librabbitmq.Methods

namespace librabbitmq

open Relation

variable {σ κ : Type} {explicit : Prop} {α β : Type} {x : Client σ κ}

/-! ## `Connection.connect` -/

/-- The connection behind a `connect` of one that was not connected: a new handle with its
calls, and where the login is granted, a connection that is there. -/
inductive Connects (before : Connection (Handles σ) κ) : Connection (Handles σ) κ → Prop
  | dialed {events : List Event} {sockfd : Int} {st st' : σ} :
      Dials before.sockfd events sockfd false →
      Connects before { before with
        conn := (before.conn.renew st).note events st', sockfd := sockfd }
  | loggedIn {sockfd channel_max frame_max heartbeat : Int} {m : amqp_method_t}
      {server_properties : Option PyMembers} {st st' : σ} :
      Connects before { before with
        conn := (before.conn.renew st).note
          [.other, .other, .amqp_socket_get_sockfd sockfd, .amqp_login (.normal m), .other] st'
        sockfd := sockfd
        connected := true
        channel_max := channel_max
        frame_max := frame_max
        heartbeat := heartbeat
        server_properties := server_properties }

theorem Connects.acts {self self' : Connection (Handles σ) κ} (hc : self.connected = false)
    (h : Connects self self') : Acts explicit self self' := by
  cases h with
  | @dialed events sockfd st st' hdials =>
    have hact : Act explicit self { self with
        conn := (self.conn.renew st).note events st', sockfd := sockfd, connected := false } :=
      .dialed hc hdials
    rw [← hc] at hact
    exact .single hact
  | @loggedIn sockfd channel_max frame_max heartbeat m server_properties st st' =>
    have hact : Act explicit self { self with
        conn := (self.conn.renew st).note
          [.other, .other, .amqp_socket_get_sockfd sockfd, .amqp_login (.normal m)] st
        sockfd := sockfd
        connected := true } := .dialed hc .loggedIn
    have hother : Act explicit
        { self with
          conn := (self.conn.renew st).note
            [.other, .other, .amqp_socket_get_sockfd sockfd, .amqp_login (.normal m)] st
          sockfd := sockfd
          connected := true }
        (Connection.noted { self with
          conn := (self.conn.renew st).note
            [.other, .other, .amqp_socket_get_sockfd sockfd, .amqp_login (.normal m)] st
          sockfd := sockfd
          connected := true } [.other] st') := .noted rfl trivial
    refine ((ReflTransGen.single hact).tail hother).tail (.books ⟨?_, rfl, rfl, rfl⟩)
    unfold Connection.noted
    rw [Handles.note_note]
    rfl

/-- A triple whose steps all start at one connection, and lead to where a `connect` of
it may lead. -/
abbrev DoesConnect (self : Connection (Handles σ) κ) (P : World (Handles σ) κ → Prop)
    (y : Run (World (Handles σ) κ) α) (Q : α → World (Handles σ) κ → Prop) : Prop :=
  Moves World.self (fun _ self' => Connects self self') P y Q

theorem DoesConnect.result {y : Run (World (Handles σ) κ) α} {P : World (Handles σ) κ → Prop}
    {Q : α → World (Handles σ) κ → Prop} {w : World (Handles σ) κ}
    (h : DoesConnect w.self P y Q) (hw : P w) :
    (y w).2.self = w.self ∨ Connects w.self (y w).2.self := by
  rcases (h w hw).1.cases_tail with hself | ⟨_, _, hconnects⟩
  · exact Or.inl hself
  · exact Or.inr hconnects

/-- A `connect` that started at `self` has made a handle and these calls. -/
def Dialed (self : Connection (Handles σ) κ) (events : List Event) (sockfd : Int)
    (w : World (Handles σ) κ) : Prop :=
  ∃ st st', w.self = { self with conn := (self.conn.renew st).note events st', sockfd := sockfd }

theorem Dialed.connects {self : Connection (Handles σ) κ} {events : List Event} {sockfd : Int}
    {w : World (Handles σ) κ} (hdials : Dials self.sockfd events sockfd false)
    (h : Dialed self events sockfd w) : Connects self w.self := by
  obtain ⟨st, st', hself⟩ := h
  rw [hself]
  exact .dialed hdials

section

variable {self : Connection (Handles σ) κ} {events : List Event} {sockfd : Int}

/-- What keeps the connection object. -/
theorem KeepsSelf.dialed {y : Run (World (Handles σ) κ) α} (h : KeepsSelf y) :
    DoesConnect self (Dialed self events sockfd) y fun _ => Dialed self events sockfd := by
  refine Moves.still (fun w _ => h w) fun w a w' hw ha => ?_
  have hself := h w
  rw [ha] at hself
  dsimp only at hself
  unfold Dialed at hw ⊢
  rw [hself]
  exact hw

/-- One more call on the new handle. -/
theorem does_dial {f : Handles σ → α × Handles σ} (event : α → Event) (hf : Notes f event)
    (hdials : ∀ a, Dials self.sockfd (events ++ [event a]) sockfd false) :
    DoesConnect self (Dialed self events sockfd) (onConn f)
      fun a => Dialed self (events ++ [event a]) sockfd := by
  intro w hw
  have hdialed : Dialed self (events ++ [event (f w.self.conn).1]) sockfd (onConn f w).2 := by
    obtain ⟨st, st', hself⟩ := hw
    obtain ⟨st'', hst⟩ := hf w.self.conn
    refine ⟨st, st'', ?_⟩
    change { w.self with conn := (f w.self.conn).2 } = _
    rw [hst, hself]
    simp
  refine ⟨.single (hdialed.connects (hdials _)), fun a w' ha => ?_⟩
  cases ha
  exact hdialed

/-- A close of a connection that is not there. -/
theorem does_idle_close (hc : self.connected = false) :
    DoesConnect self (Dialed self events sockfd) (PyRabbitMQ_Connection_close x.env)
      fun _ => Dialed self events sockfd := by
  have hidle : ∀ w, Dialed self events sockfd w → w.closed x.env = w := by
    rintro w ⟨st, st', hself⟩
    unfold World.closed
    rw [if_neg]
    rw [hself]
    simp [hc]
  refine Moves.modify (fun w hw => ?_) fun w hw => ?_
  · rw [hidle w hw]
  · rw [hidle w hw]
    exact hw

/-- The rest of the method behind a login that is granted. -/
def loggedIn (api : RabbitMQApi σ) : Run (World σ κ) (Option Unit) := do
  Run.modify fun w => { w with self := { w.self with
    connected := true
    channel_max := api.channel_max w.self.conn
    frame_max := api.frame_max w.self.conn
    heartbeat := api.heartbeat w.self.conn } }
  let table ← onConn api.amqp_get_server_properties
  let server_properties ← withErr (AMQTable_toPyDict table)
  Run.modify fun w => { w with self := { w.self with
    server_properties := some server_properties } }
  return some ()

theorem loggedIn_connects {m : amqp_method_t} {w : World (Handles σ) κ} (hw : Dialed self
      [.other, .other, .amqp_socket_get_sockfd sockfd, .amqp_login (.normal m)] sockfd w) :
    Connects self (loggedIn x.api.tracked w).2.self := by
  obtain ⟨st, st', hself⟩ := hw
  unfold loggedIn
  rw [Run.modify_bind_apply]
  generalize hw1 : ({ w with self := { w.self with
    connected := true
    channel_max := x.api.tracked.channel_max w.self.conn
    frame_max := x.api.tracked.frame_max w.self.conn
    heartbeat := x.api.tracked.heartbeat w.self.conn } } : World (Handles σ) κ) = w1
  rcases hs : x.api.amqp_get_server_properties w1.self.conn.state with ⟨table, st''⟩
  have hcall : onConn x.api.tracked.amqp_get_server_properties w1 =
      (.ret table, w1.setConn (w1.self.conn.note [.other] st'')) := onConn_tracked hs
  rw [Run.bind_ret hcall]
  have hconnects : ∀ server_properties, Connects self
      { (w1.setConn (w1.self.conn.note [.other] st'')).self with
        server_properties := server_properties } := by
    intro server_properties
    subst hw1
    unfold World.setConn
    rw [hself]
    simp only [Handles.note_note]
    exact .loggedIn
  have hkept := keepsSelf_withErr (AMQTable_toPyDict table)
    (w1.setConn (w1.self.conn.note [.other] st''))
  rw [Run.bind_apply]
  rcases hrun : (withErr (AMQTable_toPyDict table) : Run (World (Handles σ) κ) _)
    (w1.setConn (w1.self.conn.note [.other] st'')) with ⟨o, w2⟩
  rw [hrun] at hkept
  cases o with
  | ret server_properties =>
    change Connects self { w2.self with server_properties := some server_properties }
    rw [hkept]
    exact hconnects _
  | crash =>
    change Connects self w2.self
    rw [hkept]
    exact hconnects _
  | hang =>
    change Connects self w2.self
    rw [hkept]
    exact hconnects _

/-- A login, and what comes behind its reply. -/
theorem does_reply_to_login (hc : self.connected = false) (fuel : Nat) (context : String)
    {f : Handles σ → amqp_rpc_reply_t × Handles σ} (hf : Notes f .amqp_login) :
    DoesConnect self (Dialed self [.other, .other, .amqp_socket_get_sockfd sockfd] sockfd)
      (do
        let reply ← onConn f
        if (← PyRabbitMQ_HandleAMQError x.env (fuel + 1) 0 reply context) ≠ 0 then return none
        loggedIn x.api.tracked) Anyhow := by
  intro w hw
  refine ⟨.single ?_, fun _ _ _ => trivial⟩
  obtain ⟨st, st', hself⟩ := hw
  obtain ⟨st'', hst⟩ := hf w.self.conn
  rcases hfw : f w.self.conn with ⟨reply, s⟩
  rw [hfw] at hst
  dsimp only at hst
  subst hst
  rw [Run.bind_ret (onConn_ret hfw)]
  have hdialed : (w.setConn (w.self.conn.note [.amqp_login reply] st'')).self =
      { self with
        conn := (self.conn.renew st).note
          [.other, .other, .amqp_socket_get_sockfd sockfd, .amqp_login reply] st''
        sockfd := sockfd } := by
    unfold World.setConn
    rw [hself]
    simp
  by_cases hn : ∃ m, reply = .normal m
  · obtain ⟨m, rfl⟩ := hn
    rw [Run.bind_ret (handleAMQError_normal x.env fuel 0 m context _), if_neg (by simp)]
    exact loggedIn_connects ⟨st, st'', hdialed⟩
  · have hne : ∀ m, reply ≠ .normal m := fun m he => hn ⟨m, he⟩
    obtain ⟨events, ending, hh, hran⟩ := (handlers_ran x (fuel + 1)).1 0 reply context
      (w.setConn (w.self.conn.note [.amqp_login reply] st''))
    rw [hdialed] at hh
    have hconnects : Connects self (PyRabbitMQ_HandleAMQError x.env (fuel + 1) 0 reply context
        (w.setConn (w.self.conn.note [.amqp_login reply] st''))).2.self := by
      obtain ⟨st3, hafter⟩ := hran.after
      rw [hafter, hdialed]
      unfold Connection.after
      simp only [hc, Bool.false_and, Bool.false_eq_true, if_false, Handles.note_note]
      rw [← hc]
      exact .dialed (.refused hne (hc ▸ hh))
    rcases hrun : PyRabbitMQ_HandleAMQError x.env (fuel + 1) 0 reply context
        (w.setConn (w.self.conn.note [.amqp_login reply] st'')) with ⟨o, w1⟩
    rw [hrun] at hran hconnects
    rw [Run.bind_apply, hrun]
    cases o with
    | ret r =>
      have hr : r ≠ 0 := by
        rintro rfl
        rw [hran.normal] at hh
        exact hn (handled_normal hh)
      dsimp only
      rw [if_pos hr]
      exact hconnects
    | crash => exact hconnects
    | hang => exact hconnects

end

theorem dialed_new (w : World (Handles σ) κ) : Dialed w.self [] w.self.sockfd
    (w.setConn (x.api.tracked.amqp_new_connection w.self.conn)) := by
  refine ⟨x.api.amqp_new_connection w.self.conn.state,
    (w.self.conn.renew (x.api.amqp_new_connection w.self.conn.state)).state, ?_⟩
  rw [Handles.note_nil]
  rfl

/-- The world with another descriptor. -/
def World.setSockfd (w : World σ κ) (sockfd : Int) : World σ κ :=
  { w with self := { w.self with sockfd := sockfd } }

theorem does_sockfd {self : Connection (Handles σ) κ}
    {rest : Int → Run (World (Handles σ) κ) α}
    (hrest : ∀ sockfd, DoesConnect self
      (Dialed self [.other, .other, .amqp_socket_get_sockfd sockfd] sockfd) (rest sockfd) Anyhow) :
    DoesConnect self (Dialed self [.other, .other] self.sockfd) (do
      let sockfd ← onConn x.api.tracked.amqp_socket_get_sockfd
      Run.modify fun w => { w with self := { w.self with sockfd := sockfd } }
      rest sockfd) Anyhow := by
  rintro w ⟨st, st', hself⟩
  rcases hs : x.api.amqp_socket_get_sockfd w.self.conn.state with ⟨sockfd, st''⟩
  have hcall : onConn x.api.tracked.amqp_socket_get_sockfd w = (.ret sockfd,
      w.setConn (w.self.conn.note [.amqp_socket_get_sockfd sockfd] st'')) := onConn_tracked hs
  rw [Run.bind_ret hcall, Run.modify_bind_apply]
  have hdialed : Dialed self [.other, .other, .amqp_socket_get_sockfd sockfd] sockfd
      ((w.setConn (w.self.conn.note [.amqp_socket_get_sockfd sockfd] st'')).setSockfd sockfd) := by
    refine ⟨st, st'', ?_⟩
    unfold World.setSockfd World.setConn
    rw [hself]
    simp
  have hconnects := hdialed.connects .socket
  refine ⟨.single ?_, fun _ _ _ => trivial⟩
  rcases (hrest sockfd _ hdialed).1.cases_tail with hlast | ⟨_, _, hlast⟩
  · rw [← hlast] at hconnects
    exact hconnects
  · exact hlast

theorem does_login {self : Connection (Handles σ) κ} (hc : self.connected = false) (fuel : Nat)
    (init : ConnectionInit) {sockfd : Int} :
    DoesConnect self (Dialed self [.other, .other, .amqp_socket_get_sockfd sockfd] sockfd) (do
      let reply ← login x.env x.api.tracked init
      if (← PyRabbitMQ_HandleAMQError x.env (fuel + 1) 0 reply "Couldn't log in") ≠ 0 then
        return none
      loggedIn x.api.tracked) Anyhow := by
  unfold login
  rw [Run.bind_assoc]
  refine Moves.get_bind fun v hv => ?_
  have hpre : ∀ w, w = v →
      Dialed self [.other, .other, .amqp_socket_get_sockfd sockfd] sockfd w := by
    rintro w rfl
    exact hv
  refine Moves.pre ?_ hpre
  cases init.client_properties with
  | some client_properties =>
    dsimp only
    rw [Run.bind_assoc]
    exact (keepsSelf_withoutThreadState _ _).dialed.bind fun properties =>
      does_reply_to_login hc fuel _ (notes_tracked _ _)
  | none => exact does_reply_to_login hc fuel _ (notes_tracked _ _)

theorem does_openSocket (init : ConnectionInit) {self : Connection (Handles σ) κ} :
    DoesConnect self (Dialed self [.other] self.sockfd) (openSocket x.api.tracked init)
      fun _ => Dialed self [.other, .other] self.sockfd := by
  have hdials : Dials self.sockfd [.other, .other] self.sockfd false := .begun (n := 2) (by omega)
  refine does_dial (fun _ => .other) (fun s => ?_) fun _ => hdials
  split <;> exact ⟨_, rfl⟩

theorem keepsSelf_handleAMQStatus (env : Env σ κ) (status : Int) (context : String) :
    KeepsSelf (PyRabbitMQ_HandleAMQStatus env status context) := by
  unfold PyRabbitMQ_HandleAMQStatus
  split
  · exact (keepsSelf_setString _).bind fun _ => keepsSelf_pure _
  · exact keepsSelf_pure _

/-- `Connection.connect`: nothing, or a new handle. -/
theorem connect_connects (x : Client σ κ) (init : ConnectionInit) (fuel : Nat)
    (w : World (Handles σ) κ) :
    (PyRabbitMQ_Connection_connect x.env x.api.tracked init (fuel + 1) w).2.self = w.self ∨
      w.self.connected = false ∧ Connects w.self
        (PyRabbitMQ_Connection_connect x.env x.api.tracked init (fuel + 1) w).2.self := by
  unfold PyRabbitMQ_Connection_connect
  rw [Run.get_bind_apply]
  cases hc : w.self.connected with
  | true =>
    left
    rw [if_pos rfl]
    rfl
  | false =>
    rw [if_neg Bool.false_ne_true]
    refine Or.imp_right (And.intro rfl) ?_
    apply DoesConnect.result (P := fun w' => w' = w) (Q := Anyhow) _ rfl
    refine Moves.bind (Q := fun _ => Dialed w.self [] w.self.sockfd)
      (Moves.modify (fun w' h => ?_) fun w' h => ?_) fun _ => ?_
    · subst h
      exact .single (Dialed.connects (.begun (n := 0) (by omega)) (dialed_new w'))
    · subst h
      exact dialed_new w'
    refine (does_dial (fun _ => .other) (notes_tracked _ _)
      fun _ => .begun (n := 1) (by omega)).bind fun socket => ?_
    apply Moves.ite
    · intro _
      exact (keepsSelf_setString _).dialed.bind fun _ => (does_idle_close hc).bind fun _ =>
        (keepsSelf_pure _).dialed.post fun _ _ _ => trivial
    intro _
    refine (does_openSocket init).bind fun status => ?_
    refine (keepsSelf_handleAMQStatus x.env status _).dialed.bind fun r => ?_
    apply Moves.ite
    · exact fun _ => (does_idle_close hc).bind fun _ =>
        (keepsSelf_pure _).dialed.post fun _ _ _ => trivial
    intro _
    exact does_sockfd fun sockfd => does_login hc fuel init

theorem does_connect (init : ConnectionInit) (fuel : Nat) :
    Does explicit Anywhere
      (PyRabbitMQ_Connection_connect x.env x.api.tracked init (fuel + 1)) Anyhow := by
  intro w _
  refine ⟨?_, fun _ _ _ => trivial⟩
  rcases connect_connects x init fuel w with hself | ⟨hc, hconnects⟩
  · rw [hself]
  · exact hconnects.acts hc

end librabbitmq
