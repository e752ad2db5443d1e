-- The receive machine up to its body loop: the frames that are passed over, the
-- `basic.deliver`, and the header. A run enters the body loop with what these
-- frames determine, or it ends without a call and without a store.
import Librabbitmq.BodyLoop

namespace librabbitmq.recv_run

variable {σ κ : Type} {env : Env σ κ} {w w' : World σ κ}

/-! ## The first loop -/

/-- Frames that are no methods are read, one after another. -/
def Skips (lib : RabbitMQC σ) (s : σ) (fs : List amqp_frame_t) (s' : σ) : Prop :=
  Gives lib.amqp_simple_wait_frame s fs s' ∧ ∀ f ∈ fs, ¬ f.IsMethod

theorem Skips.snoc {lib : RabbitMQC σ} {s s1 s2 : σ} {fs : List amqp_frame_t} {f : amqp_frame_t}
    (h : Skips lib s fs s1) (hr : lib.amqp_simple_wait_frame s1 = (.ok f, s2))
    (hf : ¬ f.IsMethod) : Skips lib s (fs ++ [f]) s2 := by
  refine ⟨h.1.snoc hr, ?_⟩
  intro g hg
  rcases List.mem_append.mp hg with hg | hg
  · exact h.2 g hg
  · rw [List.mem_singleton.mp hg]
    exact hf

theorem first_blocked {s : σ} (h : env.lib.amqp_simple_wait_frame w.self.conn = (.blocked, s)) :
    PyRabbitMQ_recv.first env () w = (.hang, w.setConn s) := by
  unfold PyRabbitMQ_recv.first amqp_simple_wait_frame
  exact Run.bind_hang (readFrame_blocked h)

theorem first_failed {status : Int} {hs : status < 0} {s : σ}
    (h : env.lib.amqp_simple_wait_frame w.self.conn = (.failed status hs, s)) :
    PyRabbitMQ_recv.first env () w = (.ret (.inr (.failed status)), w.setConn s) := by
  unfold PyRabbitMQ_recv.first amqp_simple_wait_frame
  rw [Run.bind_ret (readFrame_failed h)]
  rfl

theorem first_skips {f : amqp_frame_t} {s : σ}
    (h : env.lib.amqp_simple_wait_frame w.self.conn = (.ok f, s)) (hf : ¬ f.IsMethod) :
    PyRabbitMQ_recv.first env () w = (.ret (.inl ()), w.afterRead f s) := by
  unfold PyRabbitMQ_recv.first amqp_simple_wait_frame
  rw [Run.bind_ret (readFrame_ok h)]
  cases hp : f.payload with
  | method m => exact absurd ⟨m, hp⟩ hf
  | header size props => simp [hp, Run.pure_apply]
  | body_fragment b => simp [hp, Run.pure_apply]
  | other t ht => simp [hp, Run.pure_apply]

/-- How the first loop leaves at a method. -/
def leaving (c : amqp_channel_t) : amqp_method_t → FirstEnd
  | .basic_deliver m => .deliver c m
  | m => .altframe c m

theorem first_leaves {f : amqp_frame_t} {m : amqp_method_t} {s : σ}
    (h : env.lib.amqp_simple_wait_frame w.self.conn = (.ok f, s)) (hp : f.payload = .method m) :
    PyRabbitMQ_recv.first env () w = (.ret (.inr (leaving f.channel m)), w.afterRead f s) := by
  unfold PyRabbitMQ_recv.first amqp_simple_wait_frame
  rw [Run.bind_ret (readFrame_ok h)]
  dsimp only
  rw [hp]
  cases m <;> rfl

/-- What a turn of the first loop can do. -/
theorem first_cases (env : Env σ κ) (w : World σ κ) :
    (∃ s, env.lib.amqp_simple_wait_frame w.self.conn = (.blocked, s) ∧
      PyRabbitMQ_recv.first env () w = (.hang, w.setConn s)) ∨
    (∃ status s, status < 0 ∧
      PyRabbitMQ_recv.first env () w = (.ret (.inr (.failed status)), w.setConn s)) ∨
    (∃ f s, env.lib.amqp_simple_wait_frame w.self.conn = (.ok f, s) ∧ ¬ f.IsMethod ∧
      PyRabbitMQ_recv.first env () w = (.ret (.inl ()), w.afterRead f s)) ∨
    (∃ f m s, env.lib.amqp_simple_wait_frame w.self.conn = (.ok f, s) ∧ f.payload = .method m ∧
      PyRabbitMQ_recv.first env () w =
        (.ret (.inr (leaving f.channel m)), w.afterRead f s)) := by
  rcases hr : env.lib.amqp_simple_wait_frame w.self.conn with ⟨r, s⟩
  cases r with
  | blocked => exact Or.inl ⟨s, rfl, first_blocked hr⟩
  | failed status hs => exact Or.inr (Or.inl ⟨status, s, hs, first_failed hr⟩)
  | ok f =>
    by_cases hf : f.IsMethod
    · obtain ⟨m, hp⟩ := hf
      exact Or.inr (Or.inr (Or.inr ⟨f, m, s, rfl, hp, first_leaves hr hp⟩))
    · exact Or.inr (Or.inr (Or.inl ⟨f, s, rfl, hf, first_skips hr hf⟩))

/-- The first loop passes over every row of frames that are no methods. -/
theorem turns_of_skips {fs : List amqp_frame_t} : ∀ {w : World σ κ} {s : σ},
    Skips env.lib w.self.conn fs s →
    Run.Turns (PyRabbitMQ_recv.first env) fs.length () w () (w.afterReads fs s) := by
  induction fs with
  | nil =>
    rintro w s ⟨rfl, _⟩
    exact ⟨rfl, (World.afterReads_nil w).symm⟩
  | cons f fs ih =>
    rintro w s ⟨⟨s1, hr, hg⟩, hm⟩
    refine ⟨(), w.afterRead f s1, first_skips hr (hm f (by simp)), ?_⟩
    have := ih (w := w.afterRead f s1) (s := s) ⟨hg, fun g hg => hm g (by simp [hg])⟩
    simpa using this

/-- A row of turns of the first loop is a row of frames that it passes over. -/
theorem skips_of_turns {n : Nat} {b : Unit}
    (h : Run.Turns (PyRabbitMQ_recv.first env) n () w b w') :
    ∃ fs, Skips env.lib w.self.conn fs w'.self.conn ∧ w' = w.afterReads fs w'.self.conn := by
  have h0 : ∃ fs, Skips env.lib w.self.conn fs w.self.conn ∧
      w = w.afterReads fs w.self.conn := ⟨[], ⟨rfl, by simp⟩, by simp⟩
  refine Run.turns_induction
    (fun _ _ w' => ∃ fs, Skips env.lib w.self.conn fs w'.self.conn ∧
      w' = w.afterReads fs w'.self.conn) ?_ (k := 0) h0 h
  rintro k b1 w1 b2 w2 ⟨fs, hs, hw⟩ ht
  rcases first_cases env w1 with ⟨s, _, h1⟩ | ⟨status, s, _, h1⟩ | ⟨f, s, hr, hf, h1⟩ |
    ⟨f, m, s, _, _, h1⟩
  · rw [h1] at ht
    cases ht
  · rw [h1] at ht
    cases ht
  · rw [h1] at ht
    cases ht
    refine ⟨fs ++ [f], hs.snoc hr hf, ?_⟩
    conv_lhs => rw [hw]
    simp
  · rw [h1] at ht
    cases ht

/-! ## The delivery -/

/-- The consumer tag and the `delivery_info` of a `basic.deliver`, if its strings
are UTF-8. -/
def deliveryInfo (m : amqp_basic_deliver_t) : Option (PyStr × PyMembers) :=
  match utf8Decode m.exchange, utf8Decode m.routing_key, utf8Decode m.consumer_tag with
  | some exchange, some routing_key, some tag => some (tag,
    [(.str (pyStr "delivery_tag"), .int m.delivery_tag.toInt),
      (.str (pyStr "exchange"), .str exchange),
      (.str (pyStr "routing_key"), .str routing_key),
      (.str (pyStr "redelivered"), .bool m.redelivered),
      (.str (pyStr "consumer_tag"), .str tag)])
  | _, _, _ => none

section

variable {delivery_tag : BitVec 64} {exchange routing_key : Octets} {redelivered : Bool}
  {err : Option PyErr}

theorem deliver_ret {exchange_text key_text : PyStr}
    (hexchange : utf8Decode exchange = some exchange_text)
    (hkey : utf8Decode routing_key = some key_text) :
    amqp_basic_deliver_to_PyDict [] delivery_tag exchange routing_key redelivered err =
      .ret ([(.str (pyStr "delivery_tag"), .int delivery_tag.toInt),
        (.str (pyStr "exchange"), .str exchange_text),
        (.str (pyStr "routing_key"), .str key_text),
        (.str (pyStr "redelivered"), .bool redelivered)], err) := by
  unfold amqp_basic_deliver_to_PyDict PySTRING_FROM_AMQBYTES PyUnicode_FromStringAndSize
  rw [hexchange, hkey]
  rfl

/-- A string that is not UTF-8 is a NULL that `PyDict_SetItemString` follows. -/
theorem deliver_crash (h : utf8Decode exchange = none ∨ utf8Decode routing_key = none) :
    amqp_basic_deliver_to_PyDict [] delivery_tag exchange routing_key redelivered err = .crash := by
  unfold amqp_basic_deliver_to_PyDict PySTRING_FROM_AMQBYTES PyUnicode_FromStringAndSize
  cases hexchange : utf8Decode exchange with
  | none => rfl
  | some text =>
    rcases h with h | h
    · rw [hexchange] at h
      cases h
    · rw [h]
      rfl

theorem withErr_crash {α : Type} {f : Option PyErr → Outcome (α × Option PyErr)}
    (h : f w.err = .crash) : withErr f w = (.crash, w) := by
  simp [withErr, h]

end

theorem delivery_ret {m : amqp_basic_deliver_t} {d : PyStr × PyMembers}
    (h : deliveryInfo m = some d) : PyRabbitMQ_recv.delivery m w = (.ret d, w) := by
  unfold deliveryInfo at h
  split at h
  · rename_i ex rk tag hex hrk htag
    cases h
    have h2 : PySTRING_FROM_AMQBYTES m.consumer_tag w.err = (.str tag, w.err) := by
      unfold PySTRING_FROM_AMQBYTES PyUnicode_FromStringAndSize
      rw [htag]
    unfold PyRabbitMQ_recv.delivery
    rw [Run.bind_ret (withErr_ret (deliver_ret hex hrk)),
      Run.bind_ret (withErr_ret (congrArg Outcome.ret h2))]
    rfl
  · cases h

theorem delivery_crash {m : amqp_basic_deliver_t} (h : deliveryInfo m = none) :
    ∃ err, PyRabbitMQ_recv.delivery m w = (.crash, w.setErr err) := by
  unfold PyRabbitMQ_recv.delivery
  cases hex : utf8Decode m.exchange with
  | none => exact ⟨w.err, Run.bind_crash (withErr_crash (deliver_crash (Or.inl hex)))⟩
  | some ex =>
    cases hrk : utf8Decode m.routing_key with
    | none => exact ⟨w.err, Run.bind_crash (withErr_crash (deliver_crash (Or.inr hrk)))⟩
    | some rk =>
      cases htag : utf8Decode m.consumer_tag with
      | some tag => simp [deliveryInfo, hex, hrk, htag] at h
      | none =>
        have h2 : PySTRING_FROM_AMQBYTES m.consumer_tag w.err =
            (.null, some (.raised .UnicodeDecodeError)) := by
          unfold PySTRING_FROM_AMQBYTES PyUnicode_FromStringAndSize
          rw [htag]
        refine ⟨some (.raised .UnicodeDecodeError), ?_⟩
        rw [Run.bind_ret (withErr_ret (deliver_ret hex hrk)),
          Run.bind_ret (withErr_ret (congrArg Outcome.ret h2))]
        rfl

/-! ## The header -/

/-- The machine is about to read a header: at once for a `get`, and after a
`basic.deliver` with its delivery for a consumer. -/
inductive AtHeader (env : Env σ κ) (w : World σ κ) :
    Bool → Option (PyStr × PyMembers) → amqp_channel_t → World σ κ → Prop
  | get : AtHeader env w true none 0 w
  | consume {skipped : List amqp_frame_t} {f : amqp_frame_t} {m : amqp_basic_deliver_t}
      {d : PyStr × PyMembers} {s0 s1 : σ} :
      Skips env.lib w.self.conn skipped s0 →
      env.lib.amqp_simple_wait_frame s0 = (.ok f, s1) →
      f.payload = .method (.basic_deliver m) → deliveryInfo m = some d →
      AtHeader env w false (some d) f.channel (w.afterReads (skipped ++ [f]) s1)

/-- The machine enters the body loop for a content of `t` octets on channel `c`. -/
inductive Enters (env : Env σ κ) (w : World σ κ) (piggyback : Bool) :
    Option (PyStr × PyMembers) → amqp_channel_t → BitVec 64 → PyMembers → World σ κ → Prop
  | mk {d : Option (PyStr × PyMembers)} {ch : amqp_channel_t} {w0 : World σ κ} {f : amqp_frame_t}
      {s : σ} {t : BitVec 64} {props : amqp_basic_properties_t} {propdict : PyMembers}
      {err : Option PyErr} :
      AtHeader env w piggyback d ch w0 →
      PyRabbitMQ_recv.waitHeader env.lib ch w0.self.conn = (.ok f, s) →
      f.payload = .header t props →
      basic_properties_to_PyDict props [] w0.err = .ret (propdict, err) →
      Enters env w piggyback d f.channel t propdict ((w0.afterRead f s).setErr err)

/-- The machine finds neither a method nor a header in the header's place. -/
inductive Unexpected (env : Env σ κ) (w : World σ κ) (piggyback : Bool) : World σ κ → Prop
  | mk {d : Option (PyStr × PyMembers)} {ch : amqp_channel_t} {w0 : World σ κ} {f : amqp_frame_t}
      {s : σ} :
      AtHeader env w piggyback d ch w0 →
      PyRabbitMQ_recv.waitHeader env.lib ch w0.self.conn = (.ok f, s) →
      ¬ f.IsMethod → ¬ f.IsHeader →
      Unexpected env w piggyback ((w0.afterRead f s).setErr
        (some ⟨.ChannelError, "Unexpected header %d", [.int f.payload.frame_type.toNat]⟩))

/-- A run that ends with no call and no store, and that fails where it returns. -/
def Quits (p : Option PyMembers) (w : World σ κ)
    (r : Outcome (Int × Option PyMembers) × World σ κ) : Prop :=
  r.2.calls = w.calls ∧ r.2.stores = w.stores ∧ ∀ n p', r.1 = .ret (n, p') → n < 0 ∧ p' = p

theorem Quits.of_crash {p : Option PyMembers} (hc : w'.calls = w.calls)
    (hs : w'.stores = w.stores) : Quits p w (.crash, w') := by
  refine ⟨hc, hs, ?_⟩
  simp

theorem Quits.of_hang {p : Option PyMembers} (hc : w'.calls = w.calls)
    (hs : w'.stores = w.stores) : Quits p w (.hang, w') := by
  refine ⟨hc, hs, ?_⟩
  simp

theorem Quits.of_failed {p : Option PyMembers} {status : Int} (h : status < 0)
    (hc : w'.calls = w.calls) (hs : w'.stores = w.stores) : Quits p w (.ret (status, p), w') := by
  refine ⟨hc, hs, ?_⟩
  rintro n p' h1
  cases h1
  exact ⟨h, rfl⟩

/-- To quit from a later world with the same books is to quit. -/
theorem Quits.trans {p : Option PyMembers} {r : Outcome (Int × Option PyMembers) × World σ κ}
    (hq : Quits p w' r) (hc : w'.calls = w.calls) (hs : w'.stores = w.stores) : Quits p w r :=
  ⟨hq.1.trans hc, hq.2.1.trans hs, hq.2.2⟩

theorem altframe_quits (env : Env σ κ) (fuel : Nat) (p : Option PyMembers) (c : amqp_channel_t)
    (m : amqp_method_t) (w : World σ κ) :
    Quits p w (PyRabbitMQ_recv.altframe env fuel p c m w) := by
  have h := receivedFrame_keeps_books env fuel c m w
  unfold PyRabbitMQ_recv.altframe
  rw [Run.bind_apply]
  rcases hw : PyRabbitMQ_SetErr_ReceivedFrame env fuel c m w with ⟨o, w'⟩
  rw [hw] at h
  cases o with
  | ret a => exact Quits.of_failed (by decide) h.calls h.stores
  | crash => exact Quits.of_crash h.calls h.stores
  | hang => exact Quits.of_hang h.calls h.stores

theorem atHeader_books {piggyback : Bool} {d : Option (PyStr × PyMembers)} {ch : amqp_channel_t}
    {w0 : World σ κ} (h : AtHeader env w piggyback d ch w0) :
    w0.calls = w.calls ∧ w0.stores = w.stores ∧ w0.err = w.err := by
  cases h <;> exact ⟨rfl, rfl, rfl⟩

theorem Quits.of_atHeader {piggyback : Bool} {d : Option (PyStr × PyMembers)}
    {ch : amqp_channel_t} {w0 : World σ κ} {p : Option PyMembers}
    {r : Outcome (Int × Option PyMembers) × World σ κ}
    (h : AtHeader env w piggyback d ch w0) (hq : Quits p w0 r) : Quits p w r :=
  hq.trans (atHeader_books h).1 (atHeader_books h).2.1

/-- The machine gets to the header, when it has the fuel to pass over the frames
before. -/
theorem recv_of_atHeader {piggyback : Bool} {d : Option (PyStr × PyMembers)} {ch : amqp_channel_t}
    {w0 : World σ κ} (h : AtHeader env w piggyback d ch w0) :
    ∃ k, ∀ fuel, k < fuel → ∀ p, PyRabbitMQ_recv env fuel p piggyback w =
      PyRabbitMQ_recv.content env fuel p d ch w0 := by
  cases h with
  | get =>
    refine ⟨0, fun fuel _ p => ?_⟩
    unfold PyRabbitMQ_recv
    rfl
  | @consume skipped f m d s0 s1 hs hr hp hd =>
    refine ⟨skipped.length, fun fuel hf p => ?_⟩
    have hfirst : PyRabbitMQ_recv.first env () (w.afterReads skipped s0) =
        (.ret (.inr (.deliver f.channel m)), w.afterReads (skipped ++ [f]) s1) := by
      rw [first_leaves (w := w.afterReads skipped s0) hr hp]
      simp [leaving]
    have hloop := Run.loop_leave (turns_of_skips hs) hfirst hf
    unfold PyRabbitMQ_recv
    rw [if_neg (by simp), Run.bind_ret hloop]
    dsimp only
    rw [Run.bind_ret (delivery_ret hd)]

/-- At a method the first loop leaves for the header or for `altframe:`. -/
theorem leaving_cases (c : amqp_channel_t) (m : amqp_method_t) :
    (∃ d, m = .basic_deliver d ∧ leaving c m = .deliver c d) ∨ leaving c m = .altframe c m := by
  cases m with
  | basic_deliver d => exact Or.inl ⟨d, rfl, rfl⟩
  | basic_get_ok d => exact Or.inr rfl
  | channel_close d => exact Or.inr rfl
  | connection_close d => exact Or.inr rfl
  | other id => exact Or.inr rfl

/-- A run gets to the header or quits before it. -/
theorem recv_header_cases (env : Env σ κ) (fuel : Nat) (p : Option PyMembers) (piggyback : Bool)
    (w : World σ κ) :
    (∃ d ch w0, AtHeader env w piggyback d ch w0 ∧
      PyRabbitMQ_recv env fuel p piggyback w = PyRabbitMQ_recv.content env fuel p d ch w0) ∨
    Quits p w (PyRabbitMQ_recv env fuel p piggyback w) := by
  cases piggyback with
  | true => exact Or.inl ⟨none, 0, w, .get, by unfold PyRabbitMQ_recv; rfl⟩
  | false =>
    obtain ⟨n, b, w1, ht, hl⟩ := Run.loop_cases (PyRabbitMQ_recv.first env) fuel () w
    obtain ⟨fs, hs, hw⟩ := skips_of_turns ht
    have hcalls : w1.calls = w.calls := by rw [hw]; rfl
    have hstores : w1.stores = w.stores := by rw [hw]; rfl
    unfold PyRabbitMQ_recv
    rw [if_neg (by simp)]
    rcases hl with hl | ⟨e, w2, h1, hl⟩ | ⟨w2, h1, hl⟩ | ⟨w2, h1, hl⟩
    · rw [Run.bind_hang hl]
      exact Or.inr (Quits.of_hang hcalls hstores)
    · rw [Run.bind_ret hl]
      rcases first_cases env w1 with ⟨s, _, h⟩ | ⟨status, s, hstatus, h⟩ | ⟨f, s, _, _, h⟩ |
        ⟨f, m, s, hr, hp, h⟩
      · rw [h] at h1
        cases h1
      · rw [h] at h1
        cases h1
        exact Or.inr (Quits.of_failed hstatus hcalls hstores)
      · rw [h] at h1
        cases h1
      · rw [h] at h1
        cases h1
        rcases leaving_cases f.channel m with ⟨m, rfl, hleave⟩ | hleave
        · rw [hleave]
          dsimp only
          cases hd : deliveryInfo m with
          | none =>
            obtain ⟨err, hcrash⟩ := delivery_crash (w := w1.afterRead f s) hd
            rw [Run.bind_crash hcrash]
            exact Or.inr (Quits.of_crash hcalls hstores)
          | some d =>
            rw [Run.bind_ret (delivery_ret hd)]
            refine Or.inl ⟨some d, f.channel, w1.afterRead f s, ?_, rfl⟩
            have hat := AtHeader.consume (w := w) hs hr hp hd
            rw [hw]
            simpa using hat
        · rw [hleave]
          exact Or.inr ((altframe_quits env fuel p f.channel m _).trans hcalls hstores)
    · rcases first_cases env w1 with ⟨s, _, h⟩ | ⟨status, s, _, h⟩ | ⟨f, s, _, _, h⟩ |
        ⟨f, m, s, _, _, h⟩ <;> rw [h] at h1 <;> cases h1
    · rcases first_cases env w1 with ⟨s, _, h⟩ | ⟨status, s, _, h⟩ | ⟨f, s, _, _, h⟩ |
        ⟨f, m, s, _, _, h⟩ <;> rw [h] at h1 <;> cases h1
      rw [Run.bind_hang hl]
      exact Or.inr (Quits.of_hang hcalls hstores)

/-- The content enters the body loop, or meets an unexpected frame, or quits. -/
theorem content_cases {piggyback : Bool} {d : Option (PyStr × PyMembers)} {ch : amqp_channel_t}
    {w0 : World σ κ} (h : AtHeader env w piggyback d ch w0) (fuel : Nat) (p : Option PyMembers) :
    (∃ c t propdict w1, Enters env w piggyback d c t propdict w1 ∧
      PyRabbitMQ_recv.content env fuel p d ch w0 =
        PyRabbitMQ_recv.body env fuel p d c t propdict w1) ∨
    (∃ w1, Unexpected env w piggyback w1 ∧
      PyRabbitMQ_recv.content env fuel p d ch w0 = (.ret (0, p), w1)) ∨
    Quits p w (PyRabbitMQ_recv.content env fuel p d ch w0) := by
  unfold PyRabbitMQ_recv.content
  rcases hr : PyRabbitMQ_recv.waitHeader env.lib ch w0.self.conn with ⟨r, s⟩
  cases r with
  | blocked =>
    rw [Run.bind_hang (readFrame_blocked hr)]
    exact Or.inr (Or.inr (Quits.of_atHeader h (Quits.of_hang rfl rfl)))
  | failed status hstatus =>
    rw [Run.bind_ret (readFrame_failed hr)]
    exact Or.inr (Or.inr (Quits.of_atHeader h (Quits.of_failed hstatus rfl rfl)))
  | ok f =>
    rw [Run.bind_ret (readFrame_ok hr)]
    dsimp only
    cases hp : f.payload with
    | method m =>
      exact Or.inr (Or.inr (Quits.of_atHeader h
        (altframe_quits env fuel p f.channel m (w0.afterRead f s))))
    | body_fragment b =>
      have hm : ¬ f.IsMethod := by simp [amqp_frame_t.IsMethod, hp]
      have hh : ¬ f.IsHeader := by simp [amqp_frame_t.IsHeader, hp]
      exact Or.inr (Or.inl ⟨_, .mk h hr hm hh, rfl⟩)
    | other t ht =>
      have hm : ¬ f.IsMethod := by simp [amqp_frame_t.IsMethod, hp]
      have hh : ¬ f.IsHeader := by simp [amqp_frame_t.IsHeader, hp]
      exact Or.inr (Or.inl ⟨_, .mk h hr hm hh, rfl⟩)
    | header t props =>
      dsimp only
      cases hb : basic_properties_to_PyDict props [] w0.err with
      | ret a =>
        obtain ⟨propdict, err⟩ := a
        rw [Run.bind_ret (withErr_ret (w := w0.afterRead f s) hb)]
        exact Or.inl ⟨_, _, _, _, .mk h hr hp hb, rfl⟩
      | crash =>
        have hcrash : withErr (basic_properties_to_PyDict props []) (w0.afterRead f s) =
            (.crash, w0.afterRead f s) := by simp [withErr, hb]
        rw [Run.bind_crash hcrash]
        exact Or.inr (Or.inr (Quits.of_atHeader h (Quits.of_crash rfl rfl)))
      | hang =>
        have hhang : withErr (basic_properties_to_PyDict props []) (w0.afterRead f s) =
            (.hang, w0.afterRead f s) := by simp [withErr, hb]
        rw [Run.bind_hang hhang]
        exact Or.inr (Or.inr (Quits.of_atHeader h (Quits.of_hang rfl rfl)))

/-- How a run goes up to its body loop. -/
theorem recv_cases (env : Env σ κ) (fuel : Nat) (p : Option PyMembers) (piggyback : Bool)
    (w : World σ κ) :
    (∃ d c t propdict w1, Enters env w piggyback d c t propdict w1 ∧
      PyRabbitMQ_recv env fuel p piggyback w =
        PyRabbitMQ_recv.body env fuel p d c t propdict w1) ∨
    (∃ w1, Unexpected env w piggyback w1 ∧
      PyRabbitMQ_recv env fuel p piggyback w = (.ret (0, p), w1)) ∨
    Quits p w (PyRabbitMQ_recv env fuel p piggyback w) := by
  rcases recv_header_cases env fuel p piggyback w with ⟨d, ch, w0, h, he⟩ | h
  · rw [he]
    rcases content_cases h fuel p with ⟨c, t, pd, w1, h1, h2⟩ | h1 | h1
    · exact Or.inl ⟨d, c, t, pd, w1, h1, h2⟩
    · exact Or.inr (Or.inl h1)
    · exact Or.inr (Or.inr h1)
  · exact Or.inr (Or.inr h)

/-- A run that can enter the body loop does so, with the fuel to get there. -/
theorem recv_of_enters {piggyback : Bool} {d : Option (PyStr × PyMembers)} {c : amqp_channel_t}
    {t : BitVec 64} {propdict : PyMembers} {w1 : World σ κ}
    (h : Enters env w piggyback d c t propdict w1) :
    ∃ k, ∀ fuel, k < fuel → ∀ p, PyRabbitMQ_recv env fuel p piggyback w =
      PyRabbitMQ_recv.body env fuel p d c t propdict w1 := by
  cases h with
  | mk hat hr hp hb =>
    rename_i ch w0 f s props err
    obtain ⟨k, hk⟩ := recv_of_atHeader hat
    refine ⟨k, fun fuel hf p => ?_⟩
    rw [hk fuel hf p]
    unfold PyRabbitMQ_recv.content
    rw [Run.bind_ret (readFrame_ok hr)]
    dsimp only
    rw [hp]
    dsimp only
    rw [Run.bind_ret (withErr_ret (w := w0.afterRead f s) hb)]

/-- A run that meets an unexpected frame returns 0, with the fuel to get there. -/
theorem recv_of_unexpected {piggyback : Bool} {w1 : World σ κ} (h : Unexpected env w piggyback w1) :
    ∃ k, ∀ fuel, k < fuel → ∀ p, PyRabbitMQ_recv env fuel p piggyback w = (.ret (0, p), w1) := by
  cases h with
  | @mk d ch w0 f s hat hr hm hh =>
    obtain ⟨k, hk⟩ := recv_of_atHeader hat
    refine ⟨k, fun fuel hf p => ?_⟩
    rw [hk fuel hf p]
    unfold PyRabbitMQ_recv.content
    rw [Run.bind_ret (readFrame_ok hr)]
    cases hp : f.payload with
    | method m => exact absurd ⟨m, hp⟩ hm
    | header t props => exact absurd ⟨t, props, hp⟩ hh
    | body_fragment b =>
      dsimp only
      rw [hp]
      simp [PyRabbitMQ_SetErr_UnexpectedHeader, hp, Run.pure_apply]
    | other t ht =>
      dsimp only
      rw [hp]
      simp [PyRabbitMQ_SetErr_UnexpectedHeader, hp, Run.pure_apply]

theorem enters_books {piggyback : Bool} {d : Option (PyStr × PyMembers)} {c : amqp_channel_t}
    {t : BitVec 64} {propdict : PyMembers} {w1 : World σ κ}
    (h : Enters env w piggyback d c t propdict w1) :
    w1.calls = w.calls ∧ w1.stores = w.stores := by
  cases h with
  | mk hat hr hp hb => exact ⟨(atHeader_books hat).1, (atHeader_books hat).2.1⟩

theorem enters_consumer {piggyback : Bool} {d : Option (PyStr × PyMembers)} {c : amqp_channel_t}
    {t : BitVec 64} {propdict : PyMembers} {w1 : World σ κ}
    (h : Enters env w piggyback d c t propdict w1) (ch : Int) (tag : PyStr) :
    w1.self.consumer ch tag = w.self.consumer ch tag := by
  cases h with
  | mk hat hr hp hb => cases hat <;> rfl

theorem unexpected_books {piggyback : Bool} {w1 : World σ κ} (h : Unexpected env w piggyback w1) :
    w1.calls = w.calls ∧ w1.stores = w.stores := by
  cases h with
  | mk hat hr hm hh => exact ⟨(atHeader_books hat).1, (atHeader_books hat).2.1⟩

/-! ## One way in -/

/-- The frames up to a `basic.deliver` are determined by the connection state. -/
theorem skips_unique {lib : RabbitMQC σ} {s s1 s2 s1' s2' : σ} {fs gs : List amqp_frame_t}
    {f g : amqp_frame_t} (h1 : Skips lib s fs s1)
    (hf : lib.amqp_simple_wait_frame s1 = (.ok f, s1')) (hm : f.IsMethod)
    (h2 : Skips lib s gs s2) (hg : lib.amqp_simple_wait_frame s2 = (.ok g, s2'))
    (hm' : g.IsMethod) : fs = gs ∧ s1 = s2 := by
  rcases Gives.prefix_or h1.1 h2.1 with ⟨rest, rfl, hr⟩ | ⟨rest, rfl, hr⟩
  · cases rest with
    | nil => exact ⟨by simp, hr⟩
    | cons x rest =>
      obtain ⟨s3, hx, _⟩ := hr
      rw [hf] at hx
      cases hx
      exact absurd hm (h2.2 f (by simp))
  · cases rest with
    | nil => exact ⟨by simp, hr.symm⟩
    | cons x rest =>
      obtain ⟨s3, hx, _⟩ := hr
      rw [hg] at hx
      cases hx
      exact absurd hm' (h1.2 g (by simp))

theorem atHeader_unique {piggyback : Bool} {d d' : Option (PyStr × PyMembers)}
    {ch ch' : amqp_channel_t} {w0 w0' : World σ κ} (h : AtHeader env w piggyback d ch w0)
    (h' : AtHeader env w piggyback d' ch' w0') : d = d' ∧ ch = ch' ∧ w0 = w0' := by
  cases h with
  | get =>
    cases h'
    exact ⟨rfl, rfl, rfl⟩
  | consume hs hr hp hd =>
    cases h' with
    | consume hs' hr' hp' hd' =>
      obtain ⟨rfl, rfl⟩ := skips_unique hs hr ⟨_, hp⟩ hs' hr' ⟨_, hp'⟩
      rw [hr] at hr'
      cases hr'
      rw [hp] at hp'
      cases hp'
      rw [hd] at hd'
      exact ⟨hd', rfl, rfl⟩

theorem enters_unique {piggyback : Bool} {d d' : Option (PyStr × PyMembers)}
    {c c' : amqp_channel_t} {t t' : BitVec 64} {pd pd' : PyMembers} {w1 w1' : World σ κ}
    (h : Enters env w piggyback d c t pd w1) (h' : Enters env w piggyback d' c' t' pd' w1') :
    d = d' ∧ c = c' ∧ t = t' ∧ pd = pd' ∧ w1 = w1' := by
  cases h with
  | mk hat hr hp hb =>
    cases h' with
    | mk hat' hr' hp' hb' =>
      obtain ⟨rfl, rfl, rfl⟩ := atHeader_unique hat hat'
      rw [hr] at hr'
      cases hr'
      rw [hp] at hp'
      cases hp'
      rw [hb] at hb'
      cases hb'
      exact ⟨rfl, rfl, rfl, rfl, rfl⟩

/-- What is unexpected is no header. -/
theorem not_unexpected_of_enters {piggyback : Bool} {d : Option (PyStr × PyMembers)}
    {c : amqp_channel_t} {t : BitVec 64} {pd : PyMembers} {w1 w1' : World σ κ}
    (h : Enters env w piggyback d c t pd w1) : ¬ Unexpected env w piggyback w1' := by
  intro h'
  cases h with
  | mk hat hr hp hb =>
    cases h' with
    | mk hat' hr' hm hh =>
      obtain ⟨rfl, rfl, rfl⟩ := atHeader_unique hat hat'
      rw [hr] at hr'
      cases hr'
      exact hh ⟨_, _, hp⟩

/-! ## The content of a socket -/

section

variable {t : BitVec 64} {fs : List amqp_frame_t} {callback : Option PyErr}

/-- The world in which the body loop reads the content of a socket. -/
def atBody (t : BitVec 64) (fs : List amqp_frame_t) (callback : Option PyErr) :
    World Socket (Option PyErr) :=
  { Socket.world ⟨[], fs, [], false⟩ callback with reads := [Socket.deliver 1, Socket.header t] }

theorem deliveryInfo_deliver (delivery_tag : BitVec 64) :
    ∃ info, deliveryInfo ⟨[116, 97, 103], delivery_tag, false, [], []⟩ =
      some (pyStr "tag", info) := by
  have htag : utf8Decode [116, 97, 103] = some (pyStr "tag") := rfl
  have hempty : utf8Decode [] = some [] := rfl
  unfold deliveryInfo
  rw [htag, hempty]
  exact ⟨_, rfl⟩

theorem atHeader_content (t : BitVec 64) (fs : List amqp_frame_t) (callback : Option PyErr) :
    ∃ info, AtHeader Socket.env (Socket.world (.content t fs) callback) false
      (some (pyStr "tag", info)) 1
      { Socket.world ⟨[], Socket.header t :: fs, [], false⟩ callback with
        reads := [Socket.deliver 1] } := by
  obtain ⟨info, hinfo⟩ := deliveryInfo_deliver 1
  have hskips : Skips Socket.env.lib (Socket.content t fs) [] (Socket.content t fs) :=
    ⟨rfl, fun g hg => by cases hg⟩
  exact ⟨info, AtHeader.consume (w := Socket.world (.content t fs) callback)
    (f := Socket.deliver 1) hskips rfl rfl hinfo⟩

theorem enters_content (t : BitVec 64) (fs : List amqp_frame_t) (callback : Option PyErr) :
    ∃ info, Enters Socket.env (Socket.world (.content t fs) callback) false
      (some (pyStr "tag", info)) 1 t [] (atBody t fs callback) := by
  obtain ⟨info, hat⟩ := atHeader_content t fs callback
  exact ⟨info, .mk hat rfl rfl rfl⟩

/-- The socket gives the frames of a channel in order, and no more than there are. -/
theorem prefix_of_all {all gs : List amqp_frame_t} {s0 s1 s : Socket}
    (hall : Socket.env.lib.GivesOn 1 s0 all s1)
    (hend : ∀ f s', Socket.env.lib.amqp_simple_wait_frame_on_channel s1 1 ≠ (.ok f, s'))
    (hg : Socket.env.lib.GivesOn 1 s0 gs s) : ∃ rest, all = gs ++ rest := by
  rcases Gives.prefix_or hg hall with ⟨rest, he, -⟩ | ⟨rest, rfl, hrest⟩
  · exact ⟨rest, he⟩
  · cases rest with
    | nil => exact ⟨[], by simp⟩
    | cons g rest =>
      obtain ⟨s2, hr, -⟩ := hrest
      exact absurd hr (hend _ _)

theorem gives_content (hfs : ∀ f ∈ fs, f.channel = 1) :
    Socket.env.lib.GivesOn 1 (atBody t fs callback).self.conn fs ⟨[], [], [], false⟩ := by
  have h := Socket.givesOn_buffered false 1 [] fs hfs
  rwa [List.append_nil] at h

/-- A socket that has brought all its frames gives none. -/
theorem content_ends (f : amqp_frame_t) (s' : Socket) :
    Socket.env.lib.amqp_simple_wait_frame_on_channel ⟨[], [], [], false⟩ 1 ≠ (.ok f, s') := by
  intro h
  cases h

end

end librabbitmq.recv_run
