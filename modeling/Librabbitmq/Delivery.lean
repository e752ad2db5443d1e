-- What a run does with a content: which rows of frames hand a body to the
-- callback, which ones fill the dict of a `get`, which ones break the content
-- off with an exception, and that every other row makes the run fail.
import Librabbitmq.RecvRun

namespace librabbitmq.delivery

open buffer body_loop recv_run

variable {σ κ : Type}

/-! ## Rows of frames that end a body -/

/-- The cells of the payload after a row of frames. -/
def payloadCells (t : BitVec 64) (fs : List amqp_frame_t) : List (Option UInt8) :=
  overwrite (List.replicate t.toNat none) 0 (lapOctets fs)

/-- The reads of a body of `t` octets on channel `c` hand a view to the callback:
the frames read, what the view shows, and the connection state after them. -/
inductive Delivers (env : Env σ κ) (c : amqp_channel_t) (t : BitVec 64) (s0 : σ) :
    List amqp_frame_t → List (Option UInt8) → σ → Prop
  | full {fs : List amqp_frame_t} {s : σ} :
      Reads env c t s0 fs s → fs ≠ [] → t.toInt ≤ (received fs).toInt →
      Delivers env c t s0 fs (payloadCells t fs) s
  | cut {fs : List amqp_frame_t} {s s' : σ} {status : Int} {h : status < 0} :
      Reads env c t s0 fs s → fs ≠ [] → (received fs).toInt < t.toInt →
      env.lib.amqp_simple_wait_frame_on_channel s c = (.failed status h, s') →
      Delivers env c t s0 fs (payloadCells t fs) s'
  | viewed {fs : List amqp_frame_t} {f : amqp_frame_t} {s s' : σ} :
      Reads env c t s0 fs s → (received fs).toInt < t.toInt →
      env.lib.amqp_simple_wait_frame_on_channel s c = (.ok f, s') → f.IsBody →
      fs.length % 2 ^ 32 = 0 → t.toInt ≤ (received (fs ++ [f])).toInt →
      Delivers env c t s0 (fs ++ [f]) (f.octets.map some) s'

/-- The reads of a body yield an object to a `get`. -/
inductive Yields (env : Env σ κ) (c : amqp_channel_t) (t : BitVec 64) (s0 : σ) :
    List amqp_frame_t → PyObj → σ → Prop
  | empty : t = 0 → Yields env c t s0 [] (.bytes []) s0
  | full {fs : List amqp_frame_t} {s : σ} :
      Reads env c t s0 fs s → fs ≠ [] → t.toInt ≤ (received fs).toInt →
      Yields env c t s0 fs (.bytes (readBytes env (payloadCells t fs))) s
  | cut {fs : List amqp_frame_t} {s s' : σ} {status : Int} {h : status < 0} :
      Reads env c t s0 fs s → fs ≠ [] → (received fs).toInt < t.toInt →
      env.lib.amqp_simple_wait_frame_on_channel s c = (.failed status h, s') →
      Yields env c t s0 fs (.bytes (readBytes env (payloadCells t fs))) s'
  | whole {fs : List amqp_frame_t} {f : amqp_frame_t} {s s' : σ} {text : PyStr} :
      Reads env c t s0 fs s → (received fs).toInt < t.toInt →
      env.lib.amqp_simple_wait_frame_on_channel s c = (.ok f, s') → f.IsBody →
      fs.length % 2 ^ 32 = 0 → t.toInt ≤ (received (fs ++ [f])).toInt →
      utf8Decode f.octets = some text →
      Yields env c t s0 (fs ++ [f]) (.str text) s'

/-- The reads of a body break the content off, with an exception. -/
inductive Breaks (env : Env σ κ) (c : amqp_channel_t) (t : BitVec 64) (s0 : σ) :
    List amqp_frame_t → PyErr → σ → Prop
  | unexpected {fs : List amqp_frame_t} {f : amqp_frame_t} {s s' : σ} :
      Reads env c t s0 fs s → (received fs).toInt < t.toInt →
      env.lib.amqp_simple_wait_frame_on_channel s c = (.ok f, s') →
      ¬ f.IsMethod → ¬ f.IsBody →
      Breaks env c t s0 (fs ++ [f])
        ⟨.ChannelError, "Expected body, got unexpected frame", []⟩ s'
  | noMemory {fs : List amqp_frame_t} {f : amqp_frame_t} {s s' : σ} :
      Reads env c t s0 fs s → (received fs).toInt < t.toInt →
      env.lib.amqp_simple_wait_frame_on_channel s c = (.ok f, s') → f.IsBody →
      fs.length % 2 ^ 32 = 0 → (received (fs ++ [f])).toInt < t.toInt →
      env.bytesAvailable t.toNat = false →
      Breaks env c t s0 (fs ++ [f]) (.raised .MemoryError) s'

section

variable {env : Env σ κ} {c : amqp_channel_t} {t : BitVec 64} {s0 s : σ} {fs : List amqp_frame_t}

theorem bodies_snoc {f : amqp_frame_t} (h : Reads env c t s0 fs s) (hf : f.IsBody) :
    ∀ g ∈ fs ++ [f], g.IsBody := by
  intro g hg
  rcases List.mem_append.mp hg with hg | hg
  · exact h.bodies g hg
  · rw [List.mem_singleton.mp hg]
    exact hf

theorem bodies_of_delivers {cells : List (Option UInt8)} (h : Delivers env c t s0 fs cells s) :
    ∀ f ∈ fs, f.IsBody := by
  cases h with
  | full hreads hne hfull => exact hreads.bodies
  | cut hreads hne hlt hr => exact hreads.bodies
  | viewed hreads hlt hr hf h0 hfull => exact bodies_snoc hreads hf

theorem bodies_of_yields {body : PyObj} (h : Yields env c t s0 fs body s) :
    ∀ f ∈ fs, f.IsBody := by
  cases h with
  | empty ht => simp
  | full hreads hne hfull => exact hreads.bodies
  | cut hreads hne hlt hr => exact hreads.bodies
  | whole hreads hlt hr hf h0 hfull hd => exact bodies_snoc hreads hf

theorem gives_of_delivers {cells : List (Option UInt8)} (h : Delivers env c t s0 fs cells s) :
    ∃ s1, env.lib.GivesOn c s0 fs s1 := by
  cases h with
  | full hreads hne hfull => exact ⟨_, hreads.gives⟩
  | cut hreads hne hlt hr => exact ⟨_, hreads.gives⟩
  | viewed hreads hlt hr hf h0 hfull => exact ⟨_, hreads.gives.snoc hr⟩

theorem gives_of_yields {body : PyObj} (h : Yields env c t s0 fs body s) :
    ∃ s1, env.lib.GivesOn c s0 fs s1 := by
  cases h with
  | empty ht => exact ⟨_, rfl⟩
  | full hreads hne hfull => exact ⟨_, hreads.gives⟩
  | cut hreads hne hlt hr => exact ⟨_, hreads.gives⟩
  | whole hreads hlt hr hf h0 hfull hd => exact ⟨_, hreads.gives.snoc hr⟩

end

/-! ## The octets that are lost

The counter `i` has 32 bits, and the payload starts over when it is zero. -/

/-- The octets before the last lap of a row. -/
def lost (fs : List amqp_frame_t) : Octets := bodyOctets (fs.take ((fs.length - 1) / 2 ^ 32 * 2 ^ 32))

theorem lost_append_lap (fs : List amqp_frame_t) : lost fs ++ lapOctets fs = bodyOctets fs := by
  unfold lost lapOctets
  rw [← bodyOctets_append, append_lap]

theorem lost_of_le {fs : List amqp_frame_t} (h : fs.length ≤ 2 ^ 32) : lost fs = [] := by
  have hlap := lost_append_lap fs
  unfold lapOctets at hlap
  rw [lap_of_le h] at hlap
  exact List.append_left_eq_self.mp hlap

theorem lapOctets_eq_iff (fs : List amqp_frame_t) : lapOctets fs = bodyOctets fs ↔ lost fs = [] := by
  rw [← lost_append_lap fs]
  constructor
  · intro h
    exact List.append_left_eq_self.mp h.symm
  · intro h
    rw [h, List.nil_append]

/-- A payload as large as its row has no empty cell only if no octet is lost. -/
theorem lost_of_payloadCells {t : BitVec 64} {fs : List amqp_frame_t} {b : Octets}
    (h : (bodyOctets fs).length = t.toNat) (he : payloadCells t fs = b.map some) :
    lost fs = [] := by
  have hsum := congrArg List.length (lost_append_lap fs)
  rw [List.length_append] at hsum
  unfold payloadCells at he
  rw [overwrite_new _ (by omega)] at he
  by_contra hne
  have hpos := List.length_pos_iff.mpr hne
  have hmem : none ∈ (lapOctets fs).map some ++
      List.replicate (t.toNat - (lapOctets fs).length) none := by
    apply List.mem_append_right
    rw [List.mem_replicate]
    exact ⟨by omega, rfl⟩
  rw [he] at hmem
  obtain ⟨x, _, hx⟩ := List.mem_map.mp hmem
  cases hx

theorem payloadCells_of_lost {t : BitVec 64} {fs : List amqp_frame_t}
    (h : (bodyOctets fs).length = t.toNat) (hl : lost fs = []) :
    payloadCells t fs = (bodyOctets fs).map some := by
  have hlap := (lapOctets_eq_iff fs).mpr hl
  unfold payloadCells
  rw [hlap, overwrite_new _ (by omega), h, Nat.sub_self, List.replicate_zero, List.append_nil]

/-- What a body that no read cuts hands to the callback is all of its octets
exactly when none is lost. -/
theorem delivers_all_iff {env : Env σ κ} {c : amqp_channel_t} {t : BitVec 64} {s0 s : σ}
    {fs : List amqp_frame_t} {cells : List (Option UInt8)} (h : Delivers env c t s0 fs cells s)
    (hfit : (bodyOctets fs).length ≤ t.toNat)
    (hread : ∀ s1 status hs s2, env.lib.GivesOn c s0 fs s1 →
      env.lib.amqp_simple_wait_frame_on_channel s1 c ≠ (.failed status hs, s2)) :
    cells = (bodyOctets fs).map some ↔ lost fs = [] := by
  cases h with
  | full hreads hne hfull =>
    have hall := octets_of_full (target_pos hreads hne) hfull
    exact ⟨lost_of_payloadCells (by omega), payloadCells_of_lost (by omega)⟩
  | cut hreads hne hlt hr => exact absurd hr (hread _ _ _ _ hreads.gives)
  | @viewed fs f _ _ hreads hlt hr hf h0 hfull =>
    -- the last frame is the last lap
    have hlap : lapOctets (fs ++ [f]) = f.octets := by rw [lapOctets_snoc, if_pos h0]
    rw [← lapOctets_eq_iff, hlap]
    exact List.map_inj_right fun _ _ => Option.some.inj

/-- The world `w'` is the world `w` after reads of `fs` that left `s`, up to the
stores and the exception. -/
structure After (w : World σ κ) (fs : List amqp_frame_t) (s : σ) (w' : World σ κ) : Prop where
  self : w'.self = { w.self with conn := s }
  reads : w'.reads = w.reads ++ fs
  calls : w'.calls = w.calls

variable {env : Env σ κ} {c : amqp_channel_t} {t : BitVec 64} {w w' w'' : World σ κ}
  {fs : List amqp_frame_t} {s : σ} {v : BodyVars}

theorem after_row (h : Row env c t w fs v w') (hs : w'.self.conn = s) : After w fs s w' := by
  obtain ⟨hc, _, hr, hself⟩ := row_keeps h
  rw [hs] at hself
  exact ⟨hself, hr, hc⟩

theorem After.setConn {s' : σ} (h : After w fs s w') : After w fs s' (w'.setConn s') := by
  refine ⟨?_, h.reads, h.calls⟩
  simp [World.setConn, h.self]

theorem After.setErr {err : Option PyErr} (h : After w fs s w') : After w fs s (w'.setErr err) :=
  ⟨h.self, h.reads, h.calls⟩

theorem After.read {f : amqp_frame_t} {s' : σ} (h : After w fs s w') :
    After w (fs ++ [f]) s' (w'.afterRead f s') := by
  refine ⟨?_, ?_, h.calls⟩
  · simp [World.afterReads, World.setConn, h.self]
  · simp [World.afterReads, h.reads]

/-! ## The callback -/

/-- The world after a call of the callback. -/
def called (env : Env σ κ) (tag : PyStr) (c : Int) (callback : κ) (m : Message) (w : World σ κ) :
    World σ κ :=
  { w with
    self := (env.invoke callback m w.self).1
    err := (env.invoke callback m w.self).2
    calls := w.calls ++ [⟨c, tag, callback, m⟩] }

/-- Without a consumer nothing is called. The lookup of `channels` may have cleared the
exception. -/
theorem applyCallback_missing (env : Env σ κ) (pd info : PyMembers)
    (cells : List (Option UInt8)) {tag : PyStr} {ch : Int} (h : w.self.consumer ch tag = none) :
    ∃ err, (err = w.err ∨ err = none) ∧
      PyRabbitMQ_ApplyCallback env tag ch pd info cells w = (.ret (-1), w.setErr err) := by
  unfold Connection.consumer at h
  unfold PyRabbitMQ_ApplyCallback
  rw [Run.get_bind_apply]
  cases hcallback : w.self.callback_for_tag ch tag with
  | none => exact ⟨w.err, Or.inl rfl, rfl⟩
  | some callback =>
    cases hchannel : w.self.channels.lookup ch with
    | none =>
      refine ⟨env.python.afterGetAttr w.err, env.python.afterGetAttr_cases w.err, ?_⟩
      dsimp only
      rw [Run.bind_ret (x := PyObject_GetAttrString_channels env) rfl, hchannel]
      rfl
    | some obj => simp [hcallback, hchannel] at h

/-- `PyRabbitMQ_ApplyCallback` of a consumer that is there. -/
theorem applyCallback_found {tag : PyStr} {ch : Int} {pd info : PyMembers}
    {cells : List (Option UInt8)} {callback : κ} {obj : Nat}
    (h : w.self.consumer ch tag = some (callback, obj)) :
    PyRabbitMQ_ApplyCallback env tag ch pd info cells w =
      if (env.python.afterGetAttr w.err).isSome then
        (.ret (-1), w.setErr (some (.raised .SystemError)))
      else (.ret 0, called env tag ch callback ⟨obj, .dict pd, .dict info, .view cells⟩ w) := by
  unfold Connection.consumer at h
  obtain ⟨callback', hcallback, h⟩ := Option.bind_eq_some_iff.mp h
  obtain ⟨obj', hchannel, h⟩ := Option.bind_eq_some_iff.mp h
  cases h
  unfold PyRabbitMQ_ApplyCallback
  rw [Run.get_bind_apply, hcallback]
  dsimp only
  rw [Run.bind_ret (x := PyObject_GetAttrString_channels env) rfl, hchannel]
  dsimp only
  rw [Run.get_bind_apply]
  by_cases hpend : (env.python.afterGetAttr w.err).isSome
  · rw [if_pos hpend, if_pos (by exact hpend)]
    rfl
  · rw [if_neg hpend, if_neg (by exact hpend)]
    rfl

theorem applyCallback_pending {tag : PyStr} {ch : Int} {pd info : PyMembers}
    {cells : List (Option UInt8)} {x : κ × Nat} (h : w.self.consumer ch tag = some x)
    (he : env.python.afterGetAttr w.err ≠ none) :
    PyRabbitMQ_ApplyCallback env tag ch pd info cells w =
      (.ret (-1), w.setErr (some (.raised .SystemError))) := by
  rw [applyCallback_found h, if_pos (Option.isSome_iff_ne_none.mpr he)]

theorem applyCallback_calls {tag : PyStr} {ch : Int} {pd info : PyMembers}
    {cells : List (Option UInt8)} {callback : κ} {obj : Nat}
    (h : w.self.consumer ch tag = some (callback, obj))
    (he : env.python.afterGetAttr w.err = none) :
    PyRabbitMQ_ApplyCallback env tag ch pd info cells w =
      (.ret 0, called env tag ch callback ⟨obj, .dict pd, .dict info, .view cells⟩ w) := by
  rw [applyCallback_found h, if_neg (by simp [he])]

theorem finish_callback {tag : PyStr} {info pd : PyMembers} {view : View}
    (h : v.view = some view) :
    PyRabbitMQ_recv.finish env none (some (tag, info)) c t pd v w =
      (do
        let retval ← PyRabbitMQ_ApplyCallback env tag c.toNat pd info (v.cells view)
        return (retval, none)) w := by
  unfold PyRabbitMQ_recv.finish
  rw [h]

theorem body_of_loop {fuel : Nat} {p : Option PyMembers} {d : Option (PyStr × PyMembers)}
    {pd : PyMembers}
    (h : Run.loop (PyRabbitMQ_recv.turn env p.isSome c t) fuel .init w = (.ret (.done v), w')) :
    PyRabbitMQ_recv.body env fuel p d c t pd w =
      PyRabbitMQ_recv.finish env p d c t pd v w' := by
  unfold PyRabbitMQ_recv.body
  rw [Run.bind_ret h]

theorem body_of_break {fuel : Nat} {p : Option PyMembers} {d : Option (PyStr × PyMembers)}
    {pd : PyMembers}
    (h : Run.loop (PyRabbitMQ_recv.turn env p.isSome c t) fuel .init w =
      (.ret .goto_finally, w')) :
    PyRabbitMQ_recv.body env fuel p d c t pd w = (.ret (0, p), w') := by
  unfold PyRabbitMQ_recv.body
  rw [Run.bind_ret h]
  rfl

/-- After a row of frames the view, if there is one, shows the payload. -/
theorem varsAfter_view (h : fs ≠ []) : (varsAfter t fs).view = some .payload ∧
    (varsAfter t fs).cells .payload = payloadCells t fs ∧
    (varsAfter t fs).payload = some (.bytes (payloadCells t fs)) := by
  simp [varsAfter, h, BodyVars.cells, payloadCells]

/-- A body that is handed to the callback is handed to it by the machine. -/
theorem body_of_delivers {cells : List (Option UInt8)}
    (h : Delivers env c t w.self.conn fs cells s) :
    ∃ k w', After w fs s w' ∧ w'.err = w.err ∧ ∀ fuel, k < fuel → ∀ tag info pd,
      PyRabbitMQ_recv.body env fuel none (some (tag, info)) c t pd w =
        (do
          let retval ← PyRabbitMQ_ApplyCallback env tag c.toNat pd info cells
          return (retval, none)) w' := by
  cases h with
  | full hreads hne hfull =>
    obtain ⟨w', hrow, hs, hloop⟩ := loop_of_reads (p := false) hreads
    refine ⟨fs.length, w', after_row hrow hs, (row_keeps hrow).2.1, fun fuel hf tag info pd => ?_⟩
    obtain ⟨hview, hcells, _⟩ := varsAfter_view (t := t) hne
    rw [body_of_loop (p := none) (hloop _ _ fuel (.full hfull) hf), finish_callback hview, hcells]
  | cut hreads hne hlt hr =>
    obtain ⟨w', hrow, rfl, hloop⟩ := loop_of_reads (p := false) hreads
    refine ⟨fs.length, w'.setConn s, (after_row hrow rfl).setConn, (row_keeps hrow).2.1,
      fun fuel hf tag info pd => ?_⟩
    obtain ⟨hview, hcells, _⟩ := varsAfter_view (t := t) hne
    rw [body_of_loop (p := none) (hloop _ _ fuel (.cut _ _ _ hlt hr) hf), finish_callback hview,
      hcells]
  | @viewed fs f _ _ hreads hlt hr hf h0 hfull =>
    obtain ⟨w', hrow, rfl, hloop⟩ := loop_of_reads (p := false) hreads
    refine ⟨fs.length, w'.afterRead f s, (after_row hrow rfl).read, (row_keeps hrow).2.1,
      fun fuel hfuel tag info pd => ?_⟩
    rw [body_of_loop (p := none) (hloop _ _ fuel (.viewed f s hlt hr hf h0 hfull rfl) hfuel),
      finish_callback rfl]
    rfl

/-- A payload without an empty cell has the octets that were written. -/
theorem readBytes_some (env : Env σ κ) (b : Octets) : readBytes env (b.map some) = b := by
  unfold readBytes
  apply List.ext_getElem
  · simp
  · simp

/-- The dict that a `get` fills. -/
def filled (dict pd : PyMembers) (body : PyObj) (c : amqp_channel_t) : PyMembers :=
  Dict.set (Dict.set (Dict.set dict (.str (pyStr "properties")) (.dict pd))
    (.str (pyStr "body")) body) (.str (pyStr "channel")) (.int c.toNat)

theorem finish_get {dict pd : PyMembers} {d : Option (PyStr × PyMembers)} {body : PyObj}
    (hbody : body ≠ .null) (h : (v.payload.map (payloadObj env)).getD (.bytes []) = body)
    (hp : v.payload ≠ none ∨ t = 0) :
    PyRabbitMQ_recv.finish env (some dict) d c t pd v w =
      (.ret (0, some (filled dict pd body c)), w) := by
  have hset : ∀ (l : PyMembers) (k : String) (o : PyObj), o ≠ .null →
      PyDict_SetItemString l k o = .ret (Dict.set l (.str (pyStr k)) o) := fun l k o ho =>
    PyDict_SetItem_str l _ ho
  have hneg : ¬ (v.payload.isNone ∧ t ≠ 0) := by
    rintro ⟨h1, h2⟩
    rcases hp with hp | hp
    · exact hp (Option.isNone_iff_eq_none.mp h1)
    · exact h2 hp
  unfold PyRabbitMQ_recv.finish
  simp only
  rw [if_neg hneg, h, hset _ _ _ (by simp), Run.lift_ret_bind_apply, hset _ _ _ hbody,
    Run.lift_ret_bind_apply, hset _ _ _ (by simp), Run.lift_ret_bind_apply]
  rfl

/-- A payload that has been allocated fills the dict. -/
theorem finish_get_payload {dict pd : PyMembers} {d : Option (PyStr × PyMembers)} (hne : fs ≠ []) :
    PyRabbitMQ_recv.finish env (some dict) d c t pd (varsAfter t fs) w =
      (.ret (0, some (filled dict pd (.bytes (readBytes env (payloadCells t fs))) c)), w) := by
  obtain ⟨_, _, hpay⟩ := varsAfter_view (t := t) hne
  apply finish_get (by simp)
  · rw [hpay]
    rfl
  · left
    simp [hpay]

/-- A content without a payload leaves the dict of a `get` alone. -/
theorem finish_get_missing {dict pd : PyMembers} {d : Option (PyStr × PyMembers)}
    (hp : v.payload = none) (ht : t ≠ 0) :
    PyRabbitMQ_recv.finish env (some dict) d c t pd v w = (.ret (-1, some dict), w) := by
  have hmissing : v.payload.isNone ∧ t ≠ 0 := ⟨by rw [hp]; rfl, ht⟩
  unfold PyRabbitMQ_recv.finish
  simp only
  rw [if_pos hmissing]
  rfl

/-- Octets are missing only where some were announced. -/
theorem target_ne_zero {s' : σ} (hreads : Reads env c t s fs s') (hlt : (received fs).toInt < t.toInt) :
    t ≠ 0 := by
  have hpos := target_pos_of_lt hreads hlt
  rintro rfl
  simp at hpos

theorem decoded_err {b : Octets} {text : PyStr} (h : utf8Decode b = some text)
    (err : Option PyErr) : (PySTRING_FROM_AMQBYTES b err).2 = err := by
  simp [PySTRING_FROM_AMQBYTES, PyUnicode_FromStringAndSize, h]

/-- A body that is yielded to a `get` fills its dict. -/
theorem body_of_yields {body : PyObj} (h : Yields env c t w.self.conn fs body s) :
    ∃ k w', After w fs s w' ∧ w'.err = w.err ∧ ∀ fuel, k < fuel → ∀ d dict pd,
      PyRabbitMQ_recv.body env fuel (some dict) d c t pd w =
        (.ret (0, some (filled dict pd body c)), w') := by
  cases h with
  | empty ht =>
    subst ht
    refine ⟨0, w, ⟨rfl, by simp, rfl⟩, rfl, fun fuel hf d dict pd => ?_⟩
    have hfull : Ends env true c 0 [] w (.done (varsAfter 0 [])) w := .full (by simp [received])
    have hloop := Run.loop_leave (n := 0) ⟨rfl, rfl⟩ (turn_of_ends hfull) hf
    rw [body_of_loop (p := some dict) hloop]
    exact finish_get (by simp) rfl (Or.inr rfl)
  | full hreads hne hfull =>
    obtain ⟨w', hrow, hs, hloop⟩ := loop_of_reads (p := true) hreads
    refine ⟨fs.length, w', after_row hrow hs, (row_keeps hrow).2.1, fun fuel hf d dict pd => ?_⟩
    rw [body_of_loop (p := some dict) (hloop _ _ fuel (.full hfull) hf)]
    exact finish_get_payload hne
  | cut hreads hne hlt hr =>
    obtain ⟨w', hrow, rfl, hloop⟩ := loop_of_reads (p := true) hreads
    refine ⟨fs.length, w'.setConn s, (after_row hrow rfl).setConn, (row_keeps hrow).2.1,
      fun fuel hf d dict pd => ?_⟩
    rw [body_of_loop (p := some dict) (hloop _ _ fuel (.cut _ _ _ hlt hr) hf)]
    exact finish_get_payload hne
  | @whole fs f _ _ text hreads hlt hr hf h0 hfull hd =>
    obtain ⟨w', hrow, rfl, hloop⟩ := loop_of_reads (p := true) hreads
    refine ⟨fs.length, (w'.afterRead f s).setErr w'.err, (after_row hrow rfl).read.setErr,
      (row_keeps hrow).2.1, fun fuel hfuel d dict pd => ?_⟩
    have hends : Ends env true c t fs w' _ _ := .whole f s hlt hr hf h0 hfull rfl
    rw [decoded_err hd, hd] at hends
    rw [body_of_loop (p := some dict) (hloop _ _ fuel hends hfuel)]
    exact finish_get (by simp) rfl (Or.inl (by simp))

/-- A frame that completes the body of a `get` and is no UTF-8 makes it fail. -/
theorem body_of_undecodable {f : amqp_frame_t} {s1 : σ} (hreads : Reads env c t w.self.conn fs s1)
    (hlt : (received fs).toInt < t.toInt)
    (hr : env.lib.amqp_simple_wait_frame_on_channel s1 c = (.ok f, s)) (hf : f.IsBody)
    (h0 : fs.length % 2 ^ 32 = 0) (hfull : t.toInt ≤ (received (fs ++ [f])).toInt)
    (hd : utf8Decode f.octets = none) : ∃ k, ∀ fuel, k < fuel → ∀ d dict pd,
      (PyRabbitMQ_recv.body env fuel (some dict) d c t pd w).1 = .ret (-1, some dict) := by
  obtain ⟨w', hrow, rfl, hloop⟩ := loop_of_reads (p := true) hreads
  refine ⟨fs.length, fun fuel hfuel d dict pd => ?_⟩
  have hends : Ends env true c t fs w' _ _ := .whole f s hlt hr hf h0 hfull rfl
  rw [hd] at hends
  rw [body_of_loop (p := some dict) (hloop _ _ fuel hends hfuel),
    finish_get_missing rfl (target_ne_zero hreads hlt)]

/-- A content that is broken off makes the machine return 0, with the exception
pending. -/
theorem body_of_breaks {e : PyErr} (p : Option PyMembers)
    (h : Breaks env c t w.self.conn fs e s) :
    ∃ k w', After w fs s w' ∧ w'.err = some e ∧ ∀ fuel, k < fuel → ∀ d pd,
      PyRabbitMQ_recv.body env fuel p d c t pd w = (.ret (0, p), w') := by
  cases h with
  | @unexpected fs f _ _ hreads hlt hr hm hb =>
    obtain ⟨w', hrow, rfl, hloop⟩ := loop_of_reads (p := p.isSome) hreads
    refine ⟨fs.length, _, (after_row hrow rfl).read.setErr, rfl, fun fuel hf d pd => ?_⟩
    exact body_of_break (hloop _ _ fuel (.unexpected f s hlt hr hm hb) hf)
  | @noMemory fs f _ _ hreads hlt hr hb h0 hlt' hav =>
    obtain ⟨w', hrow, rfl, hloop⟩ := loop_of_reads (p := p.isSome) hreads
    refine ⟨fs.length, _, (after_row hrow rfl).read.setErr, rfl, fun fuel hf d pd => ?_⟩
    exact body_of_break (hloop _ _ fuel (.noMemory f s hlt hr hb h0 hlt' hav) hf)

/-! ## Behind the loop -/

theorem applyCallback_returns (env : Env σ κ) (tag : PyStr) (channel : Int)
    (pd info : PyMembers) (view : List (Option UInt8)) (w : World σ κ) :
    ∃ n w', PyRabbitMQ_ApplyCallback env tag channel pd info view w = (.ret n, w') := by
  cases hc : w.self.consumer channel tag with
  | none =>
    obtain ⟨err, _, hcall⟩ := applyCallback_missing env pd info view hc
    exact ⟨_, _, hcall⟩
  | some x =>
    obtain ⟨callback, obj⟩ := x
    rw [applyCallback_found hc]
    split
    · exact ⟨_, _, rfl⟩
    · exact ⟨_, _, rfl⟩

/-- Behind the body loop a run for a consumer returns. -/
theorem finish_returns (env : Env σ κ) (d : PyStr × PyMembers) (pd : PyMembers) (v : BodyVars)
    (w : World σ κ) :
    ∃ r w', PyRabbitMQ_recv.finish env none (some d) c t pd v w = (.ret r, w') := by
  unfold PyRabbitMQ_recv.finish
  cases v.view with
  | none => exact ⟨_, _, rfl⟩
  | some view =>
    obtain ⟨n, w', hcall⟩ := applyCallback_returns env d.1 c.toNat pd d.2 (v.cells view) w
    exact ⟨_, w', Run.bind_ret hcall⟩

/-- Behind a row of body frames a run of either mode returns. -/
theorem finish_row_returns (env : Env σ κ) {p : Option PyMembers}
    {d : Option (PyStr × PyMembers)} (hd : p = none → ∃ x, d = some x) (c : amqp_channel_t)
    (t : BitVec 64) (pd : PyMembers) (fs : List amqp_frame_t) (w : World σ κ) :
    ∃ r w', PyRabbitMQ_recv.finish env p d c t pd (varsAfter t fs) w = (.ret r, w') := by
  cases p with
  | none =>
    obtain ⟨x, rfl⟩ := hd rfl
    exact finish_returns env x pd _ w
  | some dict =>
    by_cases hne : fs = []
    · subst hne
      by_cases ht : t = 0
      · exact ⟨_, _, finish_get (by simp : PyObj.bytes [] ≠ .null) rfl (Or.inr ht)⟩
      · exact ⟨_, _, finish_get_missing rfl ht⟩
    · exact ⟨_, _, finish_get_payload hne⟩

/-- A row of body frames behind which no octet is missing, or a read fails, ends the body. -/
theorem body_returns {p : Option PyMembers} {d : Option (PyStr × PyMembers)} (pd : PyMembers)
    (hd : p = none → ∃ x, d = some x) (hreads : Reads env c t w.self.conn fs s)
    (hend : t.toInt ≤ (received fs).toInt ∨ ∃ status hs s',
      env.lib.amqp_simple_wait_frame_on_channel s c = (.failed status hs, s')) :
    ∃ k, ∀ fuel, k < fuel → ∃ r w', PyRabbitMQ_recv.body env fuel p d c t pd w = (.ret r, w') := by
  obtain ⟨w1, _, rfl, hloop⟩ := loop_of_reads (p := p.isSome) hreads
  refine ⟨fs.length, fun fuel hf => ?_⟩
  by_cases hfull : t.toInt ≤ (received fs).toInt
  · rw [body_of_loop (hloop _ _ fuel (.full hfull) hf)]
    exact finish_row_returns env hd c t pd fs w1
  · obtain ⟨status, hs, s', hr⟩ := hend.resolve_left hfull
    rw [body_of_loop (hloop _ _ fuel (.cut status hs s' (by omega) hr) hf)]
    exact finish_row_returns env hd c t pd fs (w1.setConn s')

/-! ## Every other row -/

/-- The run fails, where it returns at all, and has called nothing. -/
structure Fails (p : Option PyMembers) (w : World σ κ)
    (r : Outcome (Int × Option PyMembers) × World σ κ) : Prop where
  calls : r.2.calls = w.calls
  result : ∀ n p', r.1 = .ret (n, p') → n < 0 ∧ p' = p

theorem fails_of_quits {p : Option PyMembers} {r : Outcome (Int × Option PyMembers) × World σ κ}
    (h : Quits p w r) : Fails p w r := ⟨h.1, h.2.2⟩

theorem fails_of_ret {p : Option PyMembers} {n : Int} (hc : w'.calls = w.calls) (hn : n < 0) :
    Fails p w (.ret (n, p), w') := by
  refine ⟨hc, ?_⟩
  rintro n' p' h
  cases h
  exact ⟨hn, rfl⟩

/-- A loop that does not return makes the run fail. -/
theorem fails_of_loop {fuel : Nat} {p : Option PyMembers} {d : Option (PyStr × PyMembers)}
    {pd : PyMembers} {o : Outcome BodyEnd}
    (h : Run.loop (PyRabbitMQ_recv.turn env p.isSome c t) fuel .init w = (o, w'))
    (ho : ∀ e, o ≠ .ret e) : Fails p w (PyRabbitMQ_recv.body env fuel p d c t pd w) := by
  have hgrows := (loop_grows env p.isSome c t fuel .init w).calls
  rw [h] at hgrows
  unfold PyRabbitMQ_recv.body
  cases o with
  | ret e => exact absurd rfl (ho e)
  | crash =>
    rw [Run.bind_crash h]
    exact ⟨hgrows, fun _ _ h => by cases h⟩
  | hang =>
    rw [Run.bind_hang h]
    exact ⟨hgrows, fun _ _ h => by cases h⟩

theorem fails_of_method {fuel : Nat} {p : Option PyMembers} {d : Option (PyStr × PyMembers)}
    {pd : PyMembers} {ch : amqp_channel_t} {m : amqp_method_t}
    (h : Run.loop (PyRabbitMQ_recv.turn env p.isSome c t) fuel .init w =
      (.ret (.altframe ch m), w'))
    (hc : w'.calls = w.calls) : Fails p w (PyRabbitMQ_recv.body env fuel p d c t pd w) := by
  unfold PyRabbitMQ_recv.body
  rw [Run.bind_ret h]
  have hq := altframe_quits env fuel p ch m w'
  exact ⟨hq.1.trans hc, hq.2.2⟩

/-- A content for a consumer is handed to the callback, or broken off, or the
run fails without a call. -/
theorem callback_cases (env : Env σ κ) (fuel : Nat) (tag : PyStr) (info : PyMembers)
    (c : amqp_channel_t) (t : BitVec 64) (pd : PyMembers) (w : World σ κ) :
    (∃ fs cells s w', Delivers env c t w.self.conn fs cells s ∧ After w fs s w' ∧
      w'.err = w.err ∧ PyRabbitMQ_recv.body env fuel none (some (tag, info)) c t pd w =
        (do
          let retval ← PyRabbitMQ_ApplyCallback env tag c.toNat pd info cells
          return (retval, none)) w') ∨
    (∃ fs e s w', Breaks env c t w.self.conn fs e s ∧ After w fs s w' ∧ w'.err = some e ∧
      PyRabbitMQ_recv.body env fuel none (some (tag, info)) c t pd w = (.ret (0, none), w')) ∨
    Fails none w (PyRabbitMQ_recv.body env fuel none (some (tag, info)) c t pd w) := by
  rcases hl : Run.loop (PyRabbitMQ_recv.turn env false c t) fuel .init w with ⟨o, w''⟩
  cases o with
  | crash => exact Or.inr (Or.inr (fails_of_loop (p := none) hl (by simp)))
  | hang => exact Or.inr (Or.inr (fails_of_loop (p := none) hl (by simp)))
  | ret e =>
    obtain ⟨fs, w', hrow, hends⟩ := frames_of_loop hl
    have hafter := after_row hrow rfl
    have herr := (row_keeps hrow).2.1
    have hcalls := (ends_keeps hends).2.1.trans hafter.calls
    -- without a frame there is no view
    have hnoview : ∀ {w2 : World σ κ}, w2.calls = w.calls → fs = [] →
        Fails none w (PyRabbitMQ_recv.finish env none (some (tag, info)) c t pd
          (varsAfter t fs) w2) := by
      rintro w2 hc rfl
      exact fails_of_ret hc (by decide)
    cases hends with
    | full hfull =>
      rw [body_of_loop (p := none) hl]
      by_cases hne : fs = []
      · exact Or.inr (Or.inr (hnoview hcalls hne))
      · obtain ⟨hview, hcells, _⟩ := varsAfter_view (t := t) hne
        rw [finish_callback hview, hcells]
        exact Or.inl ⟨fs, _, _, _, .full hrow.reads hne hfull, hafter, herr, rfl⟩
    | cut status hs s hlt hr =>
      rw [body_of_loop (p := none) hl]
      by_cases hne : fs = []
      · exact Or.inr (Or.inr (hnoview hcalls hne))
      · obtain ⟨hview, hcells, _⟩ := varsAfter_view (t := t) hne
        rw [finish_callback hview, hcells]
        exact Or.inl ⟨fs, _, s, _, .cut hrow.reads hne hlt hr, hafter.setConn, herr, rfl⟩
    | method f m s hlt hr hp => exact Or.inr (Or.inr (fails_of_method (p := none) hl hcalls))
    | unexpected f s hlt hr hm hb =>
      exact Or.inr (Or.inl ⟨_, _, s, _, .unexpected hrow.reads hlt hr hm hb,
        hafter.read.setErr, rfl, body_of_break (p := none) hl⟩)
    | noMemory f s hlt hr hb h0 hlt' hav =>
      exact Or.inr (Or.inl ⟨_, _, s, _, .noMemory hrow.reads hlt hr hb h0 hlt' hav,
        hafter.read.setErr, rfl, body_of_break (p := none) hl⟩)
    | whole f s hlt hr hb h0 hfull hp => cases hp
    | viewed f s hlt hr hb h0 hfull hp =>
      rw [body_of_loop (p := none) hl, finish_callback rfl]
      exact Or.inl ⟨_, _, s, _, .viewed hrow.reads hlt hr hb h0 hfull, hafter.read, herr, rfl⟩

/-- A content for a `get` fills the dict, or is broken off, or the run fails and
leaves the dict alone. -/
theorem get_cases (env : Env σ κ) (fuel : Nat) (dict : PyMembers)
    (d : Option (PyStr × PyMembers)) (c : amqp_channel_t) (t : BitVec 64) (pd : PyMembers)
    (w : World σ κ) :
    (∃ fs body s w', Yields env c t w.self.conn fs body s ∧ After w fs s w' ∧
      w'.err = w.err ∧ PyRabbitMQ_recv.body env fuel (some dict) d c t pd w =
        (.ret (0, some (filled dict pd body c)), w')) ∨
    (∃ fs e s w', Breaks env c t w.self.conn fs e s ∧ After w fs s w' ∧ w'.err = some e ∧
      PyRabbitMQ_recv.body env fuel (some dict) d c t pd w = (.ret (0, some dict), w')) ∨
    Fails (some dict) w (PyRabbitMQ_recv.body env fuel (some dict) d c t pd w) := by
  rcases hl : Run.loop (PyRabbitMQ_recv.turn env true c t) fuel .init w with ⟨o, w''⟩
  cases o with
  | crash => exact Or.inr (Or.inr (fails_of_loop (p := some dict) hl (by simp)))
  | hang => exact Or.inr (Or.inr (fails_of_loop (p := some dict) hl (by simp)))
  | ret e =>
    obtain ⟨fs, w', hrow, hends⟩ := frames_of_loop hl
    have hafter := after_row hrow rfl
    have herr := (row_keeps hrow).2.1
    have hcalls := (ends_keeps hends).2.1.trans hafter.calls
    cases hends with
    | full hfull =>
      rw [body_of_loop (p := some dict) hl]
      by_cases hne : fs = []
      · by_cases ht : t = 0
        · subst hne
          refine Or.inl ⟨[], .bytes [], _, _, ?_, hafter, herr, ?_⟩
          · have hs : w.self.conn = w''.self.conn := hrow.reads.gives
            rw [← hs]
            exact .empty ht
          · exact finish_get (by simp) rfl (Or.inr ht)
        · rw [finish_get_missing (by rw [hne]; rfl) ht]
          exact Or.inr (Or.inr (fails_of_ret hcalls (by decide)))
      · exact Or.inl ⟨fs, _, _, _, .full hrow.reads hne hfull, hafter, herr,
          finish_get_payload hne⟩
    | cut status hs s hlt hr =>
      rw [body_of_loop (p := some dict) hl]
      by_cases hne : fs = []
      · rw [finish_get_missing (by rw [hne]; rfl) (target_ne_zero hrow.reads hlt)]
        exact Or.inr (Or.inr (fails_of_ret hcalls (by decide)))
      · exact Or.inl ⟨fs, _, s, _, .cut hrow.reads hne hlt hr, hafter.setConn, herr,
          finish_get_payload hne⟩
    | method f m s hlt hr hp => exact Or.inr (Or.inr (fails_of_method (p := some dict) hl hcalls))
    | unexpected f s hlt hr hm hb =>
      exact Or.inr (Or.inl ⟨_, _, s, _, .unexpected hrow.reads hlt hr hm hb,
        hafter.read.setErr, rfl, body_of_break (p := some dict) hl⟩)
    | noMemory f s hlt hr hb h0 hlt' hav =>
      exact Or.inr (Or.inl ⟨_, _, s, _, .noMemory hrow.reads hlt hr hb h0 hlt' hav,
        hafter.read.setErr, rfl, body_of_break (p := some dict) hl⟩)
    | whole f s hlt hr hb h0 hfull hp =>
      rw [body_of_loop (p := some dict) hl]
      cases hd : utf8Decode f.octets with
      | some text =>
        refine Or.inl ⟨_, .str text, s, _, .whole hrow.reads hlt hr hb h0 hfull hd,
          hafter.read.setErr, (decoded_err hd _).trans herr, ?_⟩
        exact finish_get (by simp) (by simp [payloadObj]) (Or.inl (by simp))
      | none =>
        rw [finish_get_missing (by simp) (target_ne_zero hrow.reads hlt)]
        exact Or.inr (Or.inr (fails_of_ret hcalls (by decide)))
    | viewed f s hlt hr hb h0 hfull hp => cases hp

/-! ## The two modes -/

/-- The calls of `PyRabbitMQ_recv`: by `_basic_recv`, and by `_basic_get` with its
dict. -/
inductive Mode where
  | consume
  | get (dict : PyMembers)

def Mode.p : Mode → Option PyMembers
  | .consume => none
  | .get dict => some dict

def Mode.piggyback : Mode → Bool
  | .consume => false
  | .get _ => true

/-- A run of `PyRabbitMQ_recv` in a mode. -/
def recvIn (env : Env σ κ) (fuel : Nat) (mode : Mode) : Run (World σ κ) (Int × Option PyMembers) :=
  PyRabbitMQ_recv env fuel mode.p mode.piggyback

/-- The content of a consumer has a delivery. -/
theorem enters_consume {d : Option (PyStr × PyMembers)} {pd : PyMembers} {w1 : World σ κ}
    (h : Enters env w false d c t pd w1) : ∃ tag info, d = some (tag, info) := by
  cases h with
  | mk hat hr hp hb =>
    cases hat with
    | consume hs h1 h2 hd => exact ⟨_, _, rfl⟩

theorem consumer_of_self {self self' : Connection σ κ} {s : σ} (h : self' = { self with conn := s })
    (ch : Int) (tag : PyStr) : self'.consumer ch tag = self.consumer ch tag := by
  rw [h]
  rfl

theorem fails_of_enters {piggyback : Bool} {d : Option (PyStr × PyMembers)} {pd : PyMembers}
    {w1 : World σ κ} {p : Option PyMembers}
    {r : Outcome (Int × Option PyMembers) × World σ κ} (he : Enters env w piggyback d c t pd w1)
    (h : Fails p w1 r) : Fails p w r := ⟨h.calls.trans (enters_books he).1, h.result⟩

/-! ## Whole runs -/

section

variable {pd : PyMembers} {w1 : World σ κ}

/-- A run for a consumer that gets to a registered callback calls it. -/
theorem recv_of_delivers {tag : PyStr} {info : PyMembers} {cells : List (Option UInt8)}
    {callback : κ} {obj : Nat} (he : Enters env w false (some (tag, info)) c t pd w1)
    (hd : Delivers env c t w1.self.conn fs cells s)
    (hc : w1.self.consumer c.toNat tag = some (callback, obj))
    (herr : env.python.afterGetAttr w1.err = none) :
    ∃ k w2, After w1 fs s w2 ∧ ∀ fuel, k < fuel → recvIn env fuel .consume w =
      (.ret (0, none),
        called env tag c.toNat callback ⟨obj, .dict pd, .dict info, .view cells⟩ w2) := by
  obtain ⟨k1, h1⟩ := recv_of_enters he
  obtain ⟨k2, w2, hafter, herr2, h2⟩ := body_of_delivers hd
  have hcons := (consumer_of_self hafter.self c.toNat tag).trans hc
  refine ⟨k1 + k2, w2, hafter, fun fuel hf => ?_⟩
  unfold recvIn Mode.p Mode.piggyback
  rw [h1 _ (by omega) none, h2 _ (by omega) tag info pd,
    Run.bind_ret (applyCallback_calls hcons (by rw [herr2, herr]))]
  rfl

/-- A run whose consumer is not registered fails behind the body. -/
theorem recv_of_missing {tag : PyStr} {info : PyMembers} {cells : List (Option UInt8)}
    (he : Enters env w false (some (tag, info)) c t pd w1)
    (hd : Delivers env c t w1.self.conn fs cells s)
    (hc : w1.self.consumer c.toNat tag = none) :
    ∃ k w2, After w1 fs s w2 ∧ (w1.err = none → w2.err = none) ∧ ∀ fuel, k < fuel →
      recvIn env fuel .consume w = (.ret (-1, none), w2) := by
  obtain ⟨k1, h1⟩ := recv_of_enters he
  obtain ⟨k2, w2, hafter, herr2, h2⟩ := body_of_delivers hd
  have hcons := (consumer_of_self hafter.self c.toNat tag).trans hc
  obtain ⟨err, herr, hcall⟩ := applyCallback_missing env pd info cells hcons
  refine ⟨k1 + k2, w2.setErr err, hafter.setErr, fun hnone => ?_, fun fuel hf => ?_⟩
  · rcases herr with rfl | rfl
    · exact herr2.trans hnone
    · rfl
  unfold recvIn Mode.p Mode.piggyback
  rw [h1 _ (by omega) none, h2 _ (by omega) tag info pd, Run.bind_ret hcall]
  rfl

/-- A run for a `get` that gets to the end of a body fills the dict. -/
theorem recv_of_yields {d : Option (PyStr × PyMembers)} {body : PyObj} (dict : PyMembers)
    (he : Enters env w true d c t pd w1) (hy : Yields env c t w1.self.conn fs body s) :
    ∃ k w2, After w1 fs s w2 ∧ w2.err = w1.err ∧ ∀ fuel, k < fuel →
      recvIn env fuel (.get dict) w = (.ret (0, some (filled dict pd body c)), w2) := by
  obtain ⟨k1, h1⟩ := recv_of_enters he
  obtain ⟨k2, w2, hafter, herr2, h2⟩ := body_of_yields hy
  refine ⟨k1 + k2, w2, hafter, herr2, fun fuel hf => ?_⟩
  unfold recvIn Mode.p Mode.piggyback
  rw [h1 _ (by omega) (some dict), h2 _ (by omega) d dict pd]

/-- A run for a `get` fails at a frame that is no UTF-8 and completes the body. -/
theorem recv_of_undecodable {d : Option (PyStr × PyMembers)} {f : amqp_frame_t} {s1 : σ}
    (dict : PyMembers) (he : Enters env w true d c t pd w1)
    (hreads : Reads env c t w1.self.conn fs s1) (hlt : (received fs).toInt < t.toInt)
    (hr : env.lib.amqp_simple_wait_frame_on_channel s1 c = (.ok f, s)) (hf : f.IsBody)
    (h0 : fs.length % 2 ^ 32 = 0) (hfull : t.toInt ≤ (received (fs ++ [f])).toInt)
    (hd : utf8Decode f.octets = none) : ∃ k, ∀ fuel, k < fuel →
      (recvIn env fuel (.get dict) w).1 = .ret (-1, some dict) := by
  obtain ⟨k1, h1⟩ := recv_of_enters he
  obtain ⟨k2, h2⟩ := body_of_undecodable hreads hlt hr hf h0 hfull hd
  refine ⟨k1 + k2, fun fuel hfuel => ?_⟩
  unfold recvIn Mode.p Mode.piggyback
  rw [h1 _ (by omega) (some dict), h2 _ (by omega) d dict pd]

/-- A run that breaks the content off returns 0 with the exception pending. -/
theorem recv_of_breaks {mode : Mode} {d : Option (PyStr × PyMembers)} {e : PyErr}
    (he : Enters env w mode.piggyback d c t pd w1) (hb : Breaks env c t w1.self.conn fs e s) :
    ∃ k w2, After w1 fs s w2 ∧ w2.err = some e ∧ ∀ fuel, k < fuel →
      recvIn env fuel mode w = (.ret (0, mode.p), w2) := by
  obtain ⟨k1, h1⟩ := recv_of_enters he
  obtain ⟨k2, w2, hafter, herr2, h2⟩ := body_of_breaks mode.p hb
  refine ⟨k1 + k2, w2, hafter, herr2, fun fuel hf => ?_⟩
  unfold recvIn
  rw [h1 _ (by omega) mode.p, h2 _ (by omega) d pd]

/-- What a run for a consumer is: a call of a registered callback, a content
that is broken off, or a failure without a call. -/
theorem consume_cases (env : Env σ κ) (fuel : Nat) (w : World σ κ) :
    (∃ tag info c t pd w1 fs cells s w2 callback obj,
      Enters env w false (some (tag, info)) c t pd w1 ∧
      Delivers env c t w1.self.conn fs cells s ∧ After w1 fs s w2 ∧
      w1.self.consumer c.toNat tag = some (callback, obj) ∧
      env.python.afterGetAttr w1.err = none ∧
      recvIn env fuel .consume w = (.ret (0, none),
        called env tag c.toNat callback ⟨obj, .dict pd, .dict info, .view cells⟩ w2)) ∨
    (∃ d c t pd w1 fs e s w2, Enters env w false d c t pd w1 ∧
      Breaks env c t w1.self.conn fs e s ∧ w2.calls = w.calls ∧ w2.err = some e ∧
      recvIn env fuel .consume w = (.ret (0, none), w2)) ∨
    (∃ w1, Unexpected env w false w1 ∧ recvIn env fuel .consume w = (.ret (0, none), w1)) ∨
    Fails none w (recvIn env fuel .consume w) := by
  unfold recvIn Mode.p Mode.piggyback
  rcases recv_cases env fuel none false w with ⟨d, c, t, pd, w1, he, hr⟩ | ⟨w1, hu, hr⟩ | hq
  · obtain ⟨tag, info, rfl⟩ := enters_consume he
    rcases callback_cases env fuel tag info c t pd w1 with
      ⟨fs, cells, s, w2, hd, hafter, herr, hb⟩ | ⟨fs, e, s, w2, hbr, hafter, herr, hb⟩ | hf
    · have hcalls := hafter.calls.trans (enters_books he).1
      have hsame := consumer_of_self hafter.self c.toNat tag
      cases hc : w1.self.consumer c.toNat tag with
      | none =>
        obtain ⟨err, _, hcall⟩ := applyCallback_missing env pd info cells (hsame.trans hc)
        refine Or.inr (Or.inr (Or.inr ?_))
        rw [hr, hb, Run.bind_ret hcall]
        exact fails_of_ret hcalls (by decide)
      | some x =>
        obtain ⟨callback, obj⟩ := x
        by_cases hpend : env.python.afterGetAttr w1.err = none
        · refine Or.inl ⟨tag, info, c, t, pd, w1, fs, cells, s, w2, callback, obj, he, hd, hafter,
            hc, hpend, ?_⟩
          rw [hr, hb, Run.bind_ret (applyCallback_calls (hsame.trans hc) (by rw [herr, hpend]))]
          rfl
        · refine Or.inr (Or.inr (Or.inr ?_))
          rw [hr, hb, Run.bind_ret (applyCallback_pending (hsame.trans hc) (by rwa [herr]))]
          exact fails_of_ret hcalls (by decide)
    · refine Or.inr (Or.inl ⟨_, c, t, pd, w1, fs, e, s, w2, he, hbr,
        hafter.calls.trans (enters_books he).1, herr, ?_⟩)
      rw [hr, hb]
    · refine Or.inr (Or.inr (Or.inr ?_))
      rw [hr]
      exact fails_of_enters he hf
  · exact Or.inr (Or.inr (Or.inl ⟨w1, hu, hr⟩))
  · exact Or.inr (Or.inr (Or.inr (fails_of_quits hq)))

/-- What a run for a `get` is: a dict that is filled, a content that is broken
off, or a failure that leaves the dict alone. -/
theorem get_run_cases (env : Env σ κ) (fuel : Nat) (dict : PyMembers) (w : World σ κ) :
    (∃ d c t pd w1 fs body s w2, Enters env w true d c t pd w1 ∧
      Yields env c t w1.self.conn fs body s ∧ After w1 fs s w2 ∧ w2.err = w1.err ∧
      recvIn env fuel (.get dict) w = (.ret (0, some (filled dict pd body c)), w2)) ∨
    (∃ d c t pd w1 fs e s w2, Enters env w true d c t pd w1 ∧
      Breaks env c t w1.self.conn fs e s ∧ w2.calls = w.calls ∧ w2.err = some e ∧
      recvIn env fuel (.get dict) w = (.ret (0, some dict), w2)) ∨
    (∃ w1, Unexpected env w true w1 ∧
      recvIn env fuel (.get dict) w = (.ret (0, some dict), w1)) ∨
    Fails (some dict) w (recvIn env fuel (.get dict) w) := by
  unfold recvIn Mode.p Mode.piggyback
  rcases recv_cases env fuel (some dict) true w with ⟨d, c, t, pd, w1, he, hr⟩ | ⟨w1, hu, hr⟩ | hq
  · rw [hr]
    rcases get_cases env fuel dict d c t pd w1 with
      ⟨fs, body, s, w2, hy, hafter, herr, hb⟩ | ⟨fs, e, s, w2, hbr, hafter, herr, hb⟩ | hf
    · exact Or.inl ⟨d, c, t, pd, w1, fs, body, s, w2, he, hy, hafter, herr, hb⟩
    · exact Or.inr (Or.inl ⟨d, c, t, pd, w1, fs, e, s, w2, he, hbr,
        hafter.calls.trans (enters_books he).1, herr, hb⟩)
    · exact Or.inr (Or.inr (Or.inr (fails_of_enters he hf)))
  · exact Or.inr (Or.inr (Or.inl ⟨w1, hu, hr⟩))
  · exact Or.inr (Or.inr (Or.inr (fails_of_quits hq)))

/-! ## Runs that wait -/

/-- The run waits for a frame that does not come. -/
def Waits (env : Env σ κ) (mode : Mode) (w : World σ κ) : Prop :=
  ∃ k, ∀ fuel, k < fuel → ∃ w', recvIn env fuel mode w = (.hang, w')

theorem waits_of_first (hr : env.lib.amqp_simple_wait_frame w.self.conn = (.blocked, s)) :
    Waits env .consume w := by
  refine ⟨0, fun fuel hf => ⟨w.setConn s, ?_⟩⟩
  have hloop := Run.loop_hang (n := 0) ⟨rfl, rfl⟩ (first_blocked hr) hf
  unfold recvIn Mode.p Mode.piggyback PyRabbitMQ_recv
  rw [if_neg (by simp), Run.bind_hang hloop]

theorem waits_of_header (mode : Mode) {d : Option (PyStr × PyMembers)} {ch : amqp_channel_t}
    {w0 : World σ κ} (hat : AtHeader env w mode.piggyback d ch w0)
    (hr : PyRabbitMQ_recv.waitHeader env.lib ch w0.self.conn = (.blocked, s)) :
    Waits env mode w := by
  obtain ⟨k, hk⟩ := recv_of_atHeader hat
  refine ⟨k, fun fuel hf => ⟨w0.setConn s, ?_⟩⟩
  unfold recvIn
  rw [hk fuel hf mode.p]
  unfold PyRabbitMQ_recv.content
  rw [Run.bind_hang (readFrame_blocked hr)]

theorem waits_of_body (mode : Mode) {d : Option (PyStr × PyMembers)} {s1 : σ}
    (he : Enters env w mode.piggyback d c t pd w1) (hreads : Reads env c t w1.self.conn fs s1)
    (hlt : (received fs).toInt < t.toInt)
    (hr : env.lib.amqp_simple_wait_frame_on_channel s1 c = (.blocked, s)) :
    Waits env mode w := by
  obtain ⟨k, hk⟩ := recv_of_enters he
  obtain ⟨w2, hturns, _, rfl⟩ := turns_of_reads (p := mode.p.isSome) hreads
  refine ⟨k + fs.length, fun fuel hf => ⟨w2.setConn s, ?_⟩⟩
  unfold recvIn
  rw [hk fuel (by omega) mode.p]
  unfold PyRabbitMQ_recv.body
  rw [Run.bind_hang (Run.loop_hang hturns (turn_blocked hlt hr) (by omega))]

end

end librabbitmq.delivery
