-- The laws of the two modes. One content, read for a consumer and read for a
-- `get`: only the `get` takes an empty body, and only the `get` decodes the
-- frame that completes a body by itself.
import Librabbitmq.Content

namespace librabbitmq.consume_and_get

open body_loop recv_run delivery

variable {σ κ : Type} {env : Env σ κ} {x : Content} {w w1 : World σ κ} {mode : Mode}

/-! ## The law -/

/-- A run of the mode reads the frames of the content, on channel `c`: its header,
which leaves the connection state `s`, and its body. -/
structure ReadsContent (env : Env σ κ) (x : Content) (mode : Mode) (w : World σ κ)
    (d : Option (PyStr × PyMembers)) (c : amqp_channel_t) (s s' : σ) : Prop where
  noError : w.err = none
  header : ∃ ch w0, AtHeader env w mode.piggyback d ch w0 ∧
    PyRabbitMQ_recv.waitHeader env.lib ch w0.self.conn = (.ok (x.header c), s)
  bodies : env.lib.GivesOn c s (x.bodies c) s'

/-- The consumer of the delivery is registered, and its callback returns. -/
structure HasCallback (env : Env σ κ) (w : World σ κ) (tag : PyStr) (c : amqp_channel_t)
    (callback : κ) (channelobj : Nat) : Prop where
  registered : w.self.consumer c.toNat tag = some (callback, channelobj)
  returns : ∀ m self, (env.invoke callback m self).2 = none

/-- The run succeeds: no negative result, and no exception. -/
def Accepts (env : Env σ κ) (mode : Mode) (w : World σ κ) (fuel : Nat) : Prop :=
  ∃ n p' w', recvIn env fuel mode w = (.ret (n, p'), w') ∧ 0 ≤ n ∧ w'.err = none

/-- The run calls the callback once, with these properties and these octets. -/
def Consumed (env : Env σ κ) (w : World σ κ) (fuel : Nat) (pd : PyMembers) (b : Octets) : Prop :=
  ∃ n p' w' call, recvIn env fuel .consume w = (.ret (n, p'), w') ∧ 0 ≤ n ∧ w'.err = none ∧
    w'.calls = w.calls ++ [call] ∧ call.message.properties = .dict pd ∧
    call.message.body = .view (b.map some)

/-- The octets of a body: a `str` counts as its UTF-8. -/
def octetsOf : PyObj → Option Octets
  | .bytes b => some b
  | .str s => utf8Encode s
  | _ => none

/-- The run fills the dict with these properties and these octets. -/
def Got (env : Env σ κ) (dict : PyMembers) (w : World σ κ) (fuel : Nat) (pd : PyMembers)
    (b : Octets) : Prop :=
  ∃ n p' w' body, recvIn env fuel (.get dict) w = (.ret (n, some p'), w') ∧ 0 ≤ n ∧
    w'.err = none ∧ p'.lookup (.str (pyStr "properties")) = some (.dict pd) ∧
    p'.lookup (.str (pyStr "body")) = some body ∧ octetsOf body = some b

/-- With enough fuel, both runs succeed with the same octets and properties, or
both fail. -/
def Agree (env : Env σ κ) (dict : PyMembers) (wc wg : World σ κ) : Prop :=
  ∃ k, ∀ fuel, k < fuel →
    (∃ pd b, Consumed env wc fuel pd b ∧ Got env dict wg fuel pd b) ∨
      (¬ Accepts env .consume wc fuel ∧ ¬ Accepts env (.get dict) wg fuel)

/-- The properties are decoded without an exception. -/
def Decodes (x : Content) : Prop :=
  ∃ pd, basic_properties_to_PyDict x.properties [] none = .ret (pd, none)

/-- The contents on which the modes agree. -/
inductive TakenAlike (env : Env σ κ) (x : Content) : Prop
  /-- The properties crash the decoder. -/
  | crashes : (∀ r, basic_properties_to_PyDict x.properties [] none ≠ .ret r) → TakenAlike env x
  /-- Their exception is in the way of the callback as it is in the way of the `get`, or there
  is no body for the callback. -/
  | raises : ¬ Decodes x → env.python.getAttrClears = false ∨ x.body_size = 0 → TakenAlike env x
  /-- The size is negative for the signed comparison. -/
  | negative : x.body_size.toInt < 0 → TakenAlike env x
  /-- There are fragments to put together, and no memory for that. -/
  | noMemory : 1 < x.fragments.length → env.bytesAvailable x.body_size.toNat = false →
      TakenAlike env x
  /-- The last fragment starts a lap, and is UTF-8. -/
  | text {init : List body_fragment_t} {last : body_fragment_t} {s : PyStr} :
      Decodes x → x.fragments = init ++ [last] → init.length % 2 ^ 32 = 0 →
      utf8Decode last.bytes = some s → TakenAlike env x
  /-- The fragments fill one lap. -/
  | pieces : Decodes x → 1 < x.fragments.length → x.fragments.length ≤ 2 ^ 32 → TakenAlike env x

/-! ## What a run meets -/

section

variable {d : Option (PyStr × PyMembers)} {c : amqp_channel_t} {s s' : σ}

/-- A run that reads the content enters its body loop with that content only. -/
theorem enters_of_reads (h : ReadsContent env x mode w d c s s')
    {d' : Option (PyStr × PyMembers)} {c' : amqp_channel_t} {t : BitVec 64} {pd : PyMembers}
    (he : Enters env w mode.piggyback d' c' t pd w1) :
    d' = d ∧ c' = c ∧ t = x.body_size ∧ w1.self.conn = s ∧
      basic_properties_to_PyDict x.properties [] none = .ret (pd, w1.err) := by
  obtain ⟨ch, w0, hat, hr⟩ := h.header
  cases he with
  | mk hat' hr' hp hb =>
    obtain ⟨rfl, rfl, rfl⟩ := atHeader_unique hat hat'
    rw [hr] at hr'
    cases hr'
    cases hp
    rw [(atHeader_books hat).2.2, h.noError] at hb
    exact ⟨rfl, rfl, rfl, rfl, hb⟩

theorem reads_enters (h : ReadsContent env x mode w d c s s') {pd : PyMembers}
    {err : Option PyErr} (hpd : basic_properties_to_PyDict x.properties [] none = .ret (pd, err)) :
    ∃ w1, Enters env w mode.piggyback d c x.body_size pd w1 ∧ w1.self.conn = s ∧
      w1.err = err := by
  obtain ⟨ch, w0, hat, hr⟩ := h.header
  have herr := (atHeader_books hat).2.2
  rw [h.noError] at herr
  rw [← herr] at hpd
  exact ⟨_, .mk hat hr rfl hpd, rfl, rfl⟩

/-- A run whose content is neither delivered nor yielded does not succeed. -/
theorem not_accepts (h : ReadsContent env x mode w d c s s')
    (hd : mode = .consume → ∀ w1 pd fs cells s2,
      Enters env w mode.piggyback d c x.body_size pd w1 → env.python.afterGetAttr w1.err = none →
      ¬ Delivers env c x.body_size s fs cells s2)
    (hy : ∀ dict, mode = .get dict → ∀ w1 pd fs body s2,
      Enters env w mode.piggyback d c x.body_size pd w1 → w1.err = none →
      ¬ Yields env c x.body_size s fs body s2) (fuel : Nat) : ¬ Accepts env mode w fuel := by
  rintro ⟨n, p', w', hrun, hn, herr⟩
  cases mode with
  | consume =>
    rcases consume_cases env fuel w with
      ⟨tag, info, c', t, pd, w1, fs, cells, s2, w2, callback, obj, he, hdel, _, _, hnone, _⟩ |
      ⟨d', c', t, pd, w1, fs, e, s2, w2, _, _, _, he, hr⟩ | ⟨w1, hu, hr⟩ | hf
    · obtain ⟨rfl, rfl, rfl, rfl, _⟩ := enters_of_reads h he
      exact hd rfl _ _ _ _ _ he hnone hdel
    · rw [hr] at hrun
      cases hrun
      rw [he] at herr
      cases herr
    · rw [hr] at hrun
      cases hrun
      cases hu
      cases herr
    · have hneg := (hf.result n p' (by rw [hrun])).1
      omega
  | get dict =>
    rcases get_run_cases env fuel dict w with
      ⟨d', c', t, pd, w1, fs, body, s2, w2, he, hyield, _, hsame, hr⟩ |
      ⟨d', c', t, pd, w1, fs, e, s2, w2, _, _, _, he, hr⟩ | ⟨w1, hu, hr⟩ | hf
    · obtain ⟨rfl, rfl, rfl, rfl, _⟩ := enters_of_reads h he
      rw [hr] at hrun
      cases hrun
      rw [herr] at hsame
      exact hy dict rfl _ _ _ _ _ he hsame.symm hyield
    · rw [hr] at hrun
      cases hrun
      rw [he] at herr
      cases herr
    · rw [hr] at hrun
      cases hrun
      cases hu
      cases herr
    · have hneg := (hf.result n p' (by rw [hrun])).1
      omega

/-- Properties that crash the decoder end a run of either mode. -/
theorem not_accepts_of_crash (h : ReadsContent env x mode w d c s s')
    (hp : ∀ r, basic_properties_to_PyDict x.properties [] none ≠ .ret r) (fuel : Nat) :
    ¬ Accepts env mode w fuel := by
  have hno : ∀ w1 pd, ¬ Enters env w mode.piggyback d c x.body_size pd w1 := fun w1 pd he =>
    hp _ (enters_of_reads h he).2.2.2.2
  exact not_accepts h (fun _ w1 pd _ _ _ he => absurd he (hno w1 pd))
    (fun _ _ w1 pd _ _ _ he => absurd he (hno w1 pd)) fuel

theorem err_of_not_decodes (h : ReadsContent env x mode w d c s s') (hp : ¬ Decodes x)
    {pd : PyMembers} (he : Enters env w mode.piggyback d c x.body_size pd w1) :
    w1.err ≠ none := by
  intro herr
  have hpd := (enters_of_reads h he).2.2.2.2
  rw [herr] at hpd
  exact hp ⟨pd, hpd⟩

/-- The exception of the properties is pending at the end of a `get`. -/
theorem get_not_accepts_of_raises {dict : PyMembers}
    (h : ReadsContent env x (.get dict) w d c s s') (hp : ¬ Decodes x) (fuel : Nat) :
    ¬ Accepts env (.get dict) w fuel :=
  not_accepts h (fun hmode => by cases hmode)
    (fun _ _ _ _ _ _ _ he herr => absurd herr (err_of_not_decodes h hp he)) fuel

/-- Where it is not cleared it is in the way of the callback. -/
theorem consume_not_accepts_of_raises (h : ReadsContent env x .consume w d c s s')
    (hp : ¬ Decodes x) (hkept : env.python.getAttrClears = false) (fuel : Nat) :
    ¬ Accepts env .consume w fuel := by
  refine not_accepts h (fun _ w1 pd _ _ _ he herr => ?_) (fun _ hmode => by cases hmode) fuel
  unfold Interpreter.afterGetAttr at herr
  rw [hkept] at herr
  exact absurd herr (err_of_not_decodes h hp he)

theorem target_pos_of_delivers {t : BitVec 64} {fs : List amqp_frame_t}
    {cells : List (Option UInt8)} (h : Delivers env c t s fs cells s') : 0 < t.toInt := by
  cases h with
  | full hreads hne _ => exact target_pos hreads hne
  | cut hreads hne _ _ => exact target_pos hreads hne
  | viewed hreads hlt _ _ _ _ => exact target_pos_of_lt hreads hlt

theorem target_of_yields {t : BitVec 64} {fs : List amqp_frame_t} {body : PyObj}
    (h : Yields env c t s fs body s') : t = 0 ∨ 0 < t.toInt := by
  cases h with
  | empty ht => exact Or.inl ht
  | full hreads hne _ => exact Or.inr (target_pos hreads hne)
  | cut hreads hne _ _ => exact Or.inr (target_pos hreads hne)
  | whole hreads hlt _ _ _ _ _ => exact Or.inr (target_pos_of_lt hreads hlt)

/-- No callback gets an empty body. -/
theorem consume_not_accepts_of_empty (h : ReadsContent env x .consume w d c s s')
    (hzero : x.body_size = 0) (fuel : Nat) : ¬ Accepts env .consume w fuel := by
  refine not_accepts h ?_ (fun _ h => by cases h) fuel
  intro _ _ _ _ _ _ _ _ hd
  have hpos := target_pos_of_delivers hd
  rw [hzero] at hpos
  simp at hpos

/-- A content that is broken off does not succeed. -/
theorem not_accepts_of_breaks {pd : PyMembers} {fs : List amqp_frame_t} {e : PyErr} {s2 : σ}
    (he : Enters env w mode.piggyback d c x.body_size pd w1)
    (hb : Breaks env c x.body_size w1.self.conn fs e s2) :
    ∃ k, ∀ fuel, k < fuel → ¬ Accepts env mode w fuel := by
  obtain ⟨k, w2, _, herr, hk⟩ := recv_of_breaks he hb
  refine ⟨k, fun fuel hf => ?_⟩
  rintro ⟨n, p', w', hrun, _, hnone⟩
  rw [hk fuel hf] at hrun
  cases hrun
  rw [herr] at hnone
  cases hnone

/-- A view that is handed to a callback, and the octets if it shows no cell that
nothing has written. -/
theorem accepts_of_delivers {tag : PyStr} {info pd : PyMembers} {callback : κ} {obj : Nat}
    {fs : List amqp_frame_t} {cells : List (Option UInt8)} {s2 : σ}
    (he : Enters env w false (some (tag, info)) c x.body_size pd w1)
    (herr : env.python.afterGetAttr w1.err = none) (hc : HasCallback env w tag c callback obj)
    (hd : Delivers env c x.body_size w1.self.conn fs cells s2) : ∃ k, ∀ fuel, k < fuel →
      Accepts env .consume w fuel ∧
      ∀ pd' b, Consumed env w fuel pd' b ↔ pd' = pd ∧ cells = b.map some := by
  obtain ⟨k, w2, hafter, hk⟩ := recv_of_delivers he hd
    ((enters_consumer he c.toNat tag).trans hc.registered) herr
  have hcalls := hafter.calls.trans (enters_books he).1
  refine ⟨k, fun fuel hf => ⟨⟨0, none, _, hk fuel hf, by decide, hc.returns _ _⟩, ?_⟩⟩
  intro pd' b
  constructor
  · rintro ⟨n, p', w', call, hrun, _, _, hcall, hprops, hbody⟩
    rw [hk fuel hf] at hrun
    cases hrun
    unfold called at hcall
    rw [hcalls] at hcall
    injection List.append_cancel_left hcall with hcall
    subst hcall
    injection hprops with hprops
    injection hbody with hbody
    exact ⟨hprops.symm, hbody⟩
  · rintro ⟨rfl, rfl⟩
    refine ⟨0, none, _, ⟨c.toNat, tag, callback, ⟨obj, .dict pd', .dict info, .view (b.map some)⟩⟩,
      hk fuel hf, by decide, hc.returns _ _, ?_, rfl, rfl⟩
    unfold called
    rw [hcalls]

theorem lookup_filled (dict pd : PyMembers) (body : PyObj) (c : amqp_channel_t) :
    (filled dict pd body c).lookup (.str (pyStr "properties")) = some (.dict pd) ∧
      (filled dict pd body c).lookup (.str (pyStr "body")) = some body := by
  unfold filled
  constructor
  · rw [Dict.lookup_set_ne _ _ (by decide), Dict.lookup_set_ne _ _ (by decide),
      Dict.lookup_set_self]
  · rw [Dict.lookup_set_ne _ _ (by decide), Dict.lookup_set_self]

/-- A body that a `get` yields, and its octets. -/
theorem accepts_of_yields (dict : PyMembers) {pd : PyMembers} {fs : List amqp_frame_t}
    {body : PyObj} {s2 : σ} (he : Enters env w true d c x.body_size pd w1) (herr : w1.err = none)
    (hy : Yields env c x.body_size w1.self.conn fs body s2) : ∃ k, ∀ fuel, k < fuel →
      Accepts env (.get dict) w fuel ∧ ∀ b, octetsOf body = some b →
        Got env dict w fuel pd b := by
  obtain ⟨k, w2, _, hsame, hk⟩ := recv_of_yields dict he hy
  rw [herr] at hsame
  obtain ⟨h1, h2⟩ := lookup_filled dict pd body c
  refine ⟨k, fun fuel hf => ⟨⟨0, _, w2, hk fuel hf, by decide, hsame⟩, fun b hb => ?_⟩⟩
  exact ⟨0, _, w2, body, hk fuel hf, by decide, hsame, h1, h2, hb⟩

end

/-! ## Two runs over one content -/

theorem Consumed.accepts {wc : World σ κ} {fuel : Nat} {pd : PyMembers} {b : Octets}
    (h : Consumed env wc fuel pd b) : Accepts env .consume wc fuel := by
  obtain ⟨n, p', w', _, hrun, hn, herr, _⟩ := h
  exact ⟨n, p', w', hrun, hn, herr⟩

theorem Got.accepts {dict : PyMembers} {wg : World σ κ} {fuel : Nat} {pd : PyMembers} {b : Octets}
    (h : Got env dict wg fuel pd b) : Accepts env (.get dict) wg fuel := by
  obtain ⟨n, p', w', _, hrun, hn, herr, _⟩ := h
  exact ⟨n, some p', w', hrun, hn, herr⟩

section

variable {dict info : PyMembers} {wc wg : World σ κ} {tag : PyStr} {c c' : amqp_channel_t}
  {callback : κ} {obj : Nat} {s1 s1' s2 s2' : σ}

theorem agree_of_fail (h1 : ∃ k, ∀ fuel, k < fuel → ¬ Accepts env .consume wc fuel)
    (h2 : ∃ k, ∀ fuel, k < fuel → ¬ Accepts env (.get dict) wg fuel) : Agree env dict wc wg := by
  obtain ⟨k1, h1⟩ := h1
  obtain ⟨k2, h2⟩ := h2
  exact ⟨k1 + k2, fun fuel hf => Or.inr ⟨h1 fuel (by omega), h2 fuel (by omega)⟩⟩

/-- A run that succeeds alone, or with something else, is a difference. -/
theorem not_agree
    (h1 : ∃ k, ∀ fuel, k < fuel → Accepts env .consume wc fuel ∨ Accepts env (.get dict) wg fuel)
    (h2 : ∃ k, ∀ fuel, k < fuel → ∀ pd b,
      Consumed env wc fuel pd b → ¬ Got env dict wg fuel pd b) : ¬ Agree env dict wc wg := by
  obtain ⟨k1, h1⟩ := h1
  obtain ⟨k2, h2⟩ := h2
  rintro ⟨k, hk⟩
  rcases hk (k + k1 + k2 + 1) (by omega) with ⟨pd, b, hcons, hgot⟩ | ⟨hc, hg⟩
  · exact h2 _ (by omega) pd b hcons hgot
  · rcases h1 (k + k1 + k2 + 1) (by omega) with h | h
    · exact hc h
    · exact hg h

variable (hc : ReadsContent env x .consume wc (some (tag, info)) c s1 s1')
  (hcb : HasCallback env wc tag c callback obj)
  (hg : ReadsContent env x (.get dict) wg none c' s2 s2')

include hc hg

theorem agree_of_crash (hp : ∀ r, basic_properties_to_PyDict x.properties [] none ≠ .ret r) :
    Agree env dict wc wg :=
  agree_of_fail ⟨0, fun fuel _ => not_accepts_of_crash hc hp fuel⟩
    ⟨0, fun fuel _ => not_accepts_of_crash hg hp fuel⟩

theorem agree_of_raises (hp : ¬ Decodes x)
    (h : env.python.getAttrClears = false ∨ x.body_size = 0) : Agree env dict wc wg := by
  refine agree_of_fail ⟨0, fun fuel _ => ?_⟩ ⟨0, fun fuel _ => get_not_accepts_of_raises hg hp fuel⟩
  rcases h with hkept | hzero
  · exact consume_not_accepts_of_raises hc hp hkept fuel
  · exact consume_not_accepts_of_empty hc hzero fuel

theorem agree_of_negative (hneg : x.body_size.toInt < 0) : Agree env dict wc wg := by
  have hne : x.body_size ≠ 0 := by
    intro h
    rw [h] at hneg
    simp at hneg
  apply agree_of_fail
  · refine ⟨0, fun fuel _ => not_accepts hc ?_ (fun _ h => by cases h) fuel⟩
    intro _ _ _ _ _ _ _ _ h
    have hpos := target_pos_of_delivers h
    omega
  · refine ⟨0, fun fuel _ => not_accepts hg (fun h => by cases h) ?_ fuel⟩
    intro _ _ _ _ _ _ _ _ _ h
    rcases target_of_yields h with h | h
    · exact hne h
    · omega

/-- An empty body is what only a `get` takes. -/
theorem not_agree_of_empty (hzero : x.body_size = 0) {pd : PyMembers}
    (hpd : basic_properties_to_PyDict x.properties [] none = .ret (pd, none)) :
    ¬ Agree env dict wc wg := by
  obtain ⟨w1, he, _, herr⟩ := reads_enters hg hpd
  obtain ⟨k, hk⟩ := accepts_of_yields dict he herr (.empty hzero)
  exact not_agree ⟨k, fun fuel hf => Or.inr (hk fuel hf).1⟩
    ⟨0, fun fuel _ pd b hcons _ => consume_not_accepts_of_empty hc hzero fuel hcons.accepts⟩

variable {pd : PyMembers} {init : List body_fragment_t} {last : body_fragment_t}
  (hpos : 0 < x.body_size.toInt) (hsplit : x.fragments = init ++ [last])

include hpos hsplit

/-- Without memory for the payload both runs break the content off. -/
theorem agree_of_noMemory {err : Option PyErr}
    (hpd : basic_properties_to_PyDict x.properties [] none = .ret (pd, err)) (hne : init ≠ [])
    (hav : env.bytesAvailable x.body_size.toNat = false) : Agree env dict wc wg := by
  apply agree_of_fail
  · obtain ⟨w1, he, rfl, _⟩ := reads_enters hc hpd
    obtain ⟨f, s, hb⟩ := Content.breaks_of_noMemory hsplit hpos hc.bodies hne hav
    exact not_accepts_of_breaks he hb
  · obtain ⟨w1, he, rfl, _⟩ := reads_enters hg hpd
    obtain ⟨f, s, hb⟩ := Content.breaks_of_noMemory hsplit hpos hg.bodies hne hav
    exact not_accepts_of_breaks he hb

variable (hav : init ≠ [] → env.bytesAvailable x.body_size.toNat = true)

include hcb hav

/-- Properties that raise are handed to the callback where their exception is cleared, and make
the `get` fail. -/
theorem not_agree_of_raises (hp : ¬ Decodes x) (hclears : env.python.getAttrClears = true)
    {err : Option PyErr}
    (hpd : basic_properties_to_PyDict x.properties [] none = .ret (pd, err)) :
    ¬ Agree env dict wc wg := by
  obtain ⟨w1, he, rfl, _⟩ := reads_enters hc hpd
  have herr : env.python.afterGetAttr w1.err = none := if_pos hclears
  obtain ⟨fs, cells, s2, hd⟩ : ∃ fs cells s2,
      Delivers env c x.body_size w1.self.conn fs cells s2 := by
    by_cases hlap : init.length % 2 ^ 32 = 0
    · exact ⟨_, _, _, Content.delivers_lap hsplit hpos hc.bodies hav hlap⟩
    · have hne : init ≠ [] := by
        rintro rfl
        exact hlap rfl
      exact ⟨_, _, _, Content.delivers_payload hsplit hpos hc.bodies (hav hne) hlap⟩
  obtain ⟨k, hk⟩ := accepts_of_delivers he herr hcb hd
  exact not_agree ⟨k, fun fuel hf => Or.inl (hk fuel hf).1⟩
    ⟨0, fun fuel _ _ _ _ hgot => get_not_accepts_of_raises hg hp fuel hgot.accepts⟩

variable (hpd : basic_properties_to_PyDict x.properties [] none = .ret (pd, none))

include hpd

/-- A last fragment that starts a lap is what the callback sees, and what the
`get` decodes. -/
theorem agree_of_text (hlap : init.length % 2 ^ 32 = 0) {s : PyStr}
    (htext : utf8Decode last.bytes = some s) : Agree env dict wc wg := by
  obtain ⟨w1, he, rfl, herr⟩ := reads_enters hc hpd
  obtain ⟨w2, he', rfl, herr'⟩ := reads_enters hg hpd
  obtain ⟨k1, h1⟩ := accepts_of_delivers he (by simp [herr]) hcb
    (Content.delivers_lap hsplit hpos hc.bodies hav hlap)
  obtain ⟨k2, h2⟩ := accepts_of_yields dict he' herr'
    (Content.yields_lap hsplit hpos hg.bodies hav hlap htext)
  refine ⟨k1 + k2, fun fuel hf => Or.inl ⟨pd, last.bytes, ?_, ?_⟩⟩
  · exact ((h1 fuel (by omega)).2 pd last.bytes).mpr ⟨rfl, rfl⟩
  · exact (h2 fuel (by omega)).2 last.bytes (utf8Encode_utf8Decode htext)

theorem not_agree_of_undecodable (hlap : init.length % 2 ^ 32 = 0)
    (htext : utf8Decode last.bytes = none) : ¬ Agree env dict wc wg := by
  obtain ⟨w1, he, rfl, herr⟩ := reads_enters hc hpd
  obtain ⟨w2, he', rfl, _⟩ := reads_enters hg hpd
  obtain ⟨k1, h1⟩ := accepts_of_delivers he (by simp [herr]) hcb
    (Content.delivers_lap hsplit hpos hc.bodies hav hlap)
  obtain ⟨s, hreads, hlast, hlt, hfull⟩ := Content.reads_init hsplit hpos hg.bodies hav
  rw [(Content.bodies_split (c := c') hsplit).1] at hfull
  rw [← Content.length_bodyFrames c' init] at hlap
  obtain ⟨k2, h2⟩ := recv_of_undecodable dict he' hreads hlt hlast ⟨last, rfl⟩ hlap hfull htext
  refine not_agree ⟨k1, fun fuel hf => Or.inl (h1 fuel hf).1⟩ ⟨k2, fun fuel hf _ _ _ hgot => ?_⟩
  obtain ⟨n, p', w', hrun, hn, _⟩ := hgot.accepts
  have hfail := h2 fuel hf
  rw [hrun] at hfail
  cases hfail
  omega

/-- Fragments that fill one lap are put together alike. -/
theorem agree_of_pieces (hlap : init.length % 2 ^ 32 ≠ 0) (hone : x.fragments.length ≤ 2 ^ 32) :
    Agree env dict wc wg := by
  have hav' : env.bytesAvailable x.body_size.toNat = true := by
    apply hav
    rintro rfl
    exact hlap rfl
  have hcells : ∀ ch, payloadCells x.body_size (x.bodies ch) = x.octets.map some := by
    intro ch
    rw [← x.bodyOctets_bodies ch]
    exact payloadCells_of_lost (by rw [x.bodyOctets_bodies, x.length_octets])
      ((x.lost_bodies ch).mpr hone)
  obtain ⟨w1, he, rfl, herr⟩ := reads_enters hc hpd
  obtain ⟨w2, he', rfl, herr'⟩ := reads_enters hg hpd
  obtain ⟨k1, h1⟩ := accepts_of_delivers he (by simp [herr]) hcb
    (Content.delivers_payload hsplit hpos hc.bodies hav' hlap)
  obtain ⟨k2, h2⟩ := accepts_of_yields dict he' herr'
    (Content.yields_payload hsplit hpos hg.bodies hav' hlap)
  refine ⟨k1 + k2, fun fuel hf => Or.inl ⟨pd, x.octets, ?_, ?_⟩⟩
  · exact ((h1 fuel (by omega)).2 pd x.octets).mpr ⟨rfl, hcells c⟩
  · refine (h2 fuel (by omega)).2 x.octets ?_
    rw [hcells c', readBytes_some]
    rfl

omit hg in
theorem not_agree_of_laps (hlap : init.length % 2 ^ 32 ≠ 0)
    (hmany : 2 ^ 32 < x.fragments.length) : ¬ Agree env dict wc wg := by
  have hav' : env.bytesAvailable x.body_size.toNat = true := by
    apply hav
    rintro rfl
    exact hlap rfl
  obtain ⟨w1, he, rfl, herr⟩ := reads_enters hc hpd
  obtain ⟨k1, h1⟩ := accepts_of_delivers he (by simp [herr]) hcb
    (Content.delivers_payload hsplit hpos hc.bodies hav' hlap)
  refine not_agree ⟨k1, fun fuel hf => Or.inl (h1 fuel hf).1⟩
    ⟨k1, fun fuel hf pd' b hcons _ => ?_⟩
  have hcells := (((h1 fuel hf).2 pd' b).mp hcons).2
  have hlost := lost_of_payloadCells (by rw [x.bodyOctets_bodies, x.length_octets]) hcells
  have hone := (x.lost_bodies c).mp hlost
  omega

end

/-! ## The law, both ways -/

section

variable {dict info : PyMembers} {wc wg : World σ κ} {tag : PyStr} {c c' : amqp_channel_t}
  {callback : κ} {obj : Nat} {s1 s1' s2 s2' : σ}

/-- There is memory for the fragments, or there is none and some to put together. -/
theorem memory_cases (env : Env σ κ) (x : Content) (init : List body_fragment_t) :
    (init ≠ [] → env.bytesAvailable x.body_size.toNat = true) ∨
      init ≠ [] ∧ env.bytesAvailable x.body_size.toNat = false := by
  cases env.bytesAvailable x.body_size.toNat with
  | true => exact Or.inl fun _ => rfl
  | false =>
    by_cases h : init = []
    · exact Or.inl fun hne => absurd h hne
    · exact Or.inr ⟨h, rfl⟩

theorem properties_cases (x : Content) :
    (∀ r, basic_properties_to_PyDict x.properties [] none ≠ .ret r) ∨
      ∃ pd err, basic_properties_to_PyDict x.properties [] none = .ret (pd, err) := by
  cases h : basic_properties_to_PyDict x.properties [] none with
  | ret r => exact Or.inr ⟨r.1, r.2, rfl⟩
  | crash => exact Or.inl fun r hr => by cases hr
  | hang => exact Or.inl fun r hr => by cases hr

theorem agree_of_takenAlike (hc : ReadsContent env x .consume wc (some (tag, info)) c s1 s1')
    (hcb : HasCallback env wc tag c callback obj)
    (hg : ReadsContent env x (.get dict) wg none c' s2 s2') (h : TakenAlike env x) :
    Agree env dict wc wg := by
  rcases properties_cases x with hcrash | ⟨pd, err, hpd⟩
  · exact agree_of_crash hc hg hcrash
  rcases x.size_cases with hneg | hzero | ⟨hpos, init, last, hsplit⟩
  · exact agree_of_negative hc hg hneg
  · -- without octets there are no fragments
    have hnil := x.fragments_nil hzero
    cases h with
    | crashes h => exact agree_of_crash hc hg h
    | raises hp h => exact agree_of_raises hc hg hp h
    | negative h => exact agree_of_negative hc hg h
    | noMemory hlen hav => simp [hnil] at hlen
    | text hp hsplit hlap htext => simp [hnil] at hsplit
    | pieces hp hlen hone => simp [hnil] at hlen
  · have hn : x.fragments.length = init.length + 1 := by
      rw [hsplit, List.length_append, List.length_singleton]
    rcases memory_cases env x init with hav | ⟨hne, hav⟩
    · cases h with
      | crashes h => exact agree_of_crash hc hg h
      | raises hp h => exact agree_of_raises hc hg hp h
      | negative h => exact agree_of_negative hc hg h
      | noMemory hlen hno =>
        rw [hav (List.ne_nil_of_length_pos (by omega))] at hno
        cases hno
      | text hp hsplit' hlap htext =>
        obtain ⟨pd, hpd⟩ := hp
        obtain ⟨rfl, hlast⟩ := List.append_inj' (hsplit.symm.trans hsplit') rfl
        cases hlast
        exact agree_of_text hc hcb hg hpos hsplit hav hpd hlap htext
      | pieces hp hlen hone =>
        obtain ⟨pd, hpd⟩ := hp
        exact agree_of_pieces hc hcb hg hpos hsplit hav hpd (by omega) hone
    · exact agree_of_noMemory hc hg hpos hsplit hpd hne hav

theorem takenAlike_of_agree (hc : ReadsContent env x .consume wc (some (tag, info)) c s1 s1')
    (hcb : HasCallback env wc tag c callback obj)
    (hg : ReadsContent env x (.get dict) wg none c' s2 s2') (h : Agree env dict wc wg) :
    TakenAlike env x := by
  rcases properties_cases x with hcrash | ⟨pd, err, hpd⟩
  · exact .crashes hcrash
  rcases x.size_cases with hneg | hzero | ⟨hpos, init, last, hsplit⟩
  · exact .negative hneg
  · by_cases hp : Decodes x
    · obtain ⟨pd, hpd⟩ := hp
      exact absurd h (not_agree_of_empty hc hg hzero hpd)
    · exact .raises hp (Or.inr hzero)
  · have hn : x.fragments.length = init.length + 1 := by
      rw [hsplit, List.length_append, List.length_singleton]
    rcases memory_cases env x init with hav | ⟨hne, hav⟩
    · by_cases hp : Decodes x
      · obtain ⟨pd, hpd⟩ := hp
        by_cases hlap : init.length % 2 ^ 32 = 0
        · cases htext : utf8Decode last.bytes with
          | some s => exact .text ⟨pd, hpd⟩ hsplit hlap htext
          | none =>
            exact absurd h (not_agree_of_undecodable hc hcb hg hpos hsplit hav hpd hlap htext)
        · by_cases hone : x.fragments.length ≤ 2 ^ 32
          · exact .pieces ⟨pd, hpd⟩ (by omega) hone
          · exact absurd h (not_agree_of_laps hc hcb hpos hsplit hav hpd hlap (by omega))
      · cases hclears : env.python.getAttrClears with
        | false => exact .raises hp (Or.inl hclears)
        | true => exact absurd h (not_agree_of_raises hc hcb hg hpos hsplit hav hp hclears hpd)
    · have hpos := List.length_pos_iff.mpr hne
      exact .noMemory (by omega) hav

/-- The two modes agree on a content that is read exactly when both fail on it, or
its properties decode and its last fragment starts a lap and is UTF-8, or its
fragments, more than one, fill one lap. -/
theorem the_modes_agree_exactly_on_what_they_take_alike (env : Env σ κ) (x : Content)
    (hc : ReadsContent env x .consume wc (some (tag, info)) c s1 s1')
    (hcb : HasCallback env wc tag c callback obj)
    (hg : ReadsContent env x (.get dict) wg none c' s2 s2') :
    Agree env dict wc wg ↔ TakenAlike env x :=
  ⟨takenAlike_of_agree hc hcb hg, agree_of_takenAlike hc hcb hg⟩

end

theorem socket_hasCallback (s : Socket) :
    HasCallback Socket.env (Socket.world s none) (pyStr "tag") 1 none 0 :=
  ⟨rfl, fun _ _ => rfl⟩

/-- A content of one octet, which is UTF-8, is taken alike. -/
theorem an_octet_of_text_is_taken_alike :
    Agree Socket.env [] (Socket.world (.content 1 [Socket.octet 97]) none)
      (Socket.world (.bringing [Socket.header 1, Socket.octet 97]) none) := by
  obtain ⟨info, hat⟩ := atHeader_content 1 [Socket.octet 97] none
  have hc : ReadsContent Socket.env
      ⟨1, .empty, [⟨[97], by decide⟩], by decide, rfl⟩ .consume
      (Socket.world (.content 1 [Socket.octet 97]) none) (some (pyStr "tag", info)) 1
      ⟨[], [Socket.octet 97], [], false⟩ ⟨[], [], [], false⟩ :=
    ⟨rfl, ⟨_, _, hat, rfl⟩, ⟨_, rfl, rfl⟩⟩
  have hg : ReadsContent Socket.env
      ⟨1, .empty, [⟨[97], by decide⟩], by decide, rfl⟩ (.get [])
      (Socket.world (.bringing [Socket.header 1, Socket.octet 97]) none) none 1
      ⟨[], [Socket.octet 97], [], false⟩ ⟨[], [], [], false⟩ :=
    ⟨rfl, ⟨_, _, .get, rfl⟩, ⟨_, rfl, rfl⟩⟩
  have htext : utf8Decode [97] = some (pyStr "a") := rfl
  exact (the_modes_agree_exactly_on_what_they_take_alike Socket.env _ hc (socket_hasCallback _)
    hg).mpr (@TakenAlike.text _ _ _ _ [] _ _ ⟨_, rfl⟩ rfl rfl htext)

/-- An empty body fails for the consumer, and fills the dict of the `get`. -/
theorem an_empty_body_is_taken_by_a_get_only :
    (∃ info, ReadsContent Socket.env ⟨0, .empty, [], by simp, rfl⟩ .consume
      (Socket.world (.content 0 []) none) (some (pyStr "tag", info)) 1
      ⟨[], [], [], false⟩ ⟨[], [], [], false⟩) ∧
    HasCallback Socket.env (Socket.world (.content 0 []) none) (pyStr "tag") 1 none 0 ∧
    ReadsContent Socket.env ⟨0, .empty, [], by simp, rfl⟩ (.get [])
      (Socket.world (.bringing [Socket.header 0]) none) none 1
      ⟨[], [], [], false⟩ ⟨[], [], [], false⟩ ∧
    ¬ Agree Socket.env [] (Socket.world (.content 0 []) none)
      (Socket.world (.bringing [Socket.header 0]) none) := by
  obtain ⟨info, hat⟩ := atHeader_content 0 [] none
  have hc : ReadsContent Socket.env ⟨0, .empty, [], by simp, rfl⟩ .consume
      (Socket.world (.content 0 []) none) (some (pyStr "tag", info)) 1
      ⟨[], [], [], false⟩ ⟨[], [], [], false⟩ := ⟨rfl, ⟨_, _, hat, rfl⟩, rfl⟩
  have hg : ReadsContent Socket.env ⟨0, .empty, [], by simp, rfl⟩ (.get [])
      (Socket.world (.bringing [Socket.header 0]) none) none 1
      ⟨[], [], [], false⟩ ⟨[], [], [], false⟩ := ⟨rfl, ⟨_, _, .get, rfl⟩, rfl⟩
  exact ⟨⟨info, hc⟩, socket_hasCallback _, hg, not_agree_of_empty hc hg rfl rfl⟩

end librabbitmq.consume_and_get
