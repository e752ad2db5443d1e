-- The laws of the cuts of a body: what a `get` stores for one body that is cut into fragments in
-- two ways. A single fragment is stored as text, several are stored as octets.
import Librabbitmq.ConsumeAndGet
import Librabbitmq.Cancellation

namespace librabbitmq.body_cuts

open mailbox buffer body_loop recv_run delivery consume_and_get cancellation

/-! ## The law -/

section

variable {σ κ : Type}

/-- What a run of a `get` comes to with enough fuel: the body that it stores, or a failure. -/
def Ends (env : Env σ κ) (dict : PyMembers) (w : World σ κ) : Option PyObj → Prop
  | some body => ∃ k, ∀ fuel, k < fuel → ∃ p' w',
      recvIn env fuel (.get dict) w = (.ret (0, some p'), w') ∧ w'.err = none ∧
      p'.lookup (.str (pyStr "body")) = some body
  | none => ∃ k, ∀ fuel, k < fuel → ¬ Accepts env (.get dict) w fuel

/-- All reads of the content succeed in a run of a `get`. -/
def Reads (env : Env σ κ) (x : Content) (dict : PyMembers) (w : World σ κ) : Prop :=
  ∃ c s s', ReadsContent env x (.get dict) w none c s s'

end

/-- The two types of a body. -/
def SameType : PyObj → PyObj → Prop
  | .bytes _, .bytes _ => True
  | .str _, .str _ => True
  | _, _ => False

/-- Runs over the two contents come to the same, and a body that they store has the type of the
body that is stored for an empty content. -/
def OneBody (x y : Content) : Prop :=
  ∀ (σ κ : Type) (env : Env σ κ) (dict dict' dict0 : PyMembers) (wx wy w0 : World σ κ)
    (e : Content), Reads env x dict wx → Reads env y dict' wy → Reads env e dict0 w0 →
    e.octets = [] → ∃ o, Ends env dict wx o ∧ Ends env dict' wy o ∧
      ∀ v v0, o = some v → Ends env dict0 w0 (some v0) → SameType v v0

/-! ## The cuts -/

/-- The last fragment is alone in its lap of the frame counter, and is text. -/
def Text (x : Content) : Prop :=
  ∃ init last s, x.fragments = init ++ [last] ∧ init.length % 2 ^ 32 = 0 ∧
    utf8Decode last.bytes = some s

/-- The last fragment is alone in its lap, and is no text. -/
def Foreign (x : Content) : Prop :=
  ∃ init last, x.fragments = init ++ [last] ∧ init.length % 2 ^ 32 = 0 ∧
    utf8Decode last.bytes = none

/-- The last fragment is not alone in its lap. -/
def Pieces (x : Content) : Prop :=
  ∃ init last, x.fragments = init ++ [last] ∧ init.length % 2 ^ 32 ≠ 0

/-- The octets of the last lap: all of them up to 2 ^ 32 fragments. -/
def lastLap (x : Content) : Octets := (lap (2 ^ 32) x.fragments).flatMap body_fragment_t.bytes

/-- Two cuts of one body that come to the same. -/
inductive CutAlike (x y : Content) : Prop
  /-- The properties are not decoded without an exception. -/
  | properties : (∀ pd, basic_properties_to_PyDict x.properties [] none ≠ .ret (pd, none)) →
      CutAlike x y
  /-- The size is negative for the signed comparison. -/
  | size : 2 ^ 63 ≤ x.octets.length → CutAlike x y
  | empty : x.octets = [] → CutAlike x y
  | foreign : Foreign x → Foreign y → CutAlike x y
  | pieces : Pieces x → Pieces y → lastLap x = lastLap y → CutAlike x y

theorem lapOctets_bodies (x : Content) (c : amqp_channel_t) :
    lapOctets (x.bodies c) = lastLap x := by
  unfold lapOctets lastLap lap Content.bodies
  rw [Content.length_bodyFrames, ← Content.bodyOctets_bodyFrames c]
  unfold Content.bodyFrames
  rw [List.map_drop]

theorem lastLap_of_le {x : Content} (h : x.fragments.length ≤ 2 ^ 32) : lastLap x = x.octets := by
  unfold lastLap
  rw [lap_of_le h]
  rfl

theorem cut_cases {x : Content} (h : x.octets ≠ []) : Text x ∨ Foreign x ∨ Pieces x := by
  have hsize : x.body_size ≠ 0 := by
    intro hzero
    have hlen := x.length_octets
    rw [hzero] at hlen
    exact h (List.length_eq_zero_iff.mp hlen)
  obtain ⟨init, last, hsplit⟩ := x.fragments_split hsize
  by_cases hlap : init.length % 2 ^ 32 = 0
  · cases htext : utf8Decode last.bytes with
    | some s => exact .inl ⟨init, last, s, hsplit, hlap, htext⟩
    | none => exact .inr (.inl ⟨init, last, hsplit, hlap, htext⟩)
  · exact .inr (.inr ⟨init, last, hsplit, hlap⟩)

/-! ## What a run comes to -/

section

variable {σ κ : Type} {env : Env σ κ} {x : Content} {dict : PyMembers} {w : World σ κ}
  {c : amqp_channel_t} {s s' : σ}

theorem Ends.unique {o o' : Option PyObj} (h : Ends env dict w o) (h' : Ends env dict w o') :
    o = o' := by
  have hboth : ∀ v, Ends env dict w (some v) → ¬ Ends env dict w none := by
    rintro v ⟨k, hk⟩ ⟨k', hk'⟩
    obtain ⟨p', w', hrun, herr, _⟩ := hk (k + k' + 1) (by omega)
    exact hk' (k + k' + 1) (by omega) ⟨0, some p', w', hrun, by decide, herr⟩
  cases o with
  | none =>
    cases o' with
    | none => rfl
    | some v => exact absurd h (hboth v h')
  | some v =>
    cases o' with
    | none => exact absurd h' (hboth v h)
    | some v' =>
      obtain ⟨k, hk⟩ := h
      obtain ⟨k', hk'⟩ := h'
      obtain ⟨p, w1, hrun, _, hbody⟩ := hk (k + k' + 1) (by omega)
      obtain ⟨p', w2, hrun', _, hbody'⟩ := hk' (k + k' + 1) (by omega)
      rw [hrun] at hrun'
      cases hrun'
      rw [← hbody, hbody']

variable (h : ReadsContent env x (.get dict) w none c s s')

include h

theorem ends_of_properties
    (hp : ∀ pd, basic_properties_to_PyDict x.properties [] none ≠ .ret (pd, none)) :
    Ends env dict w none :=
  ⟨0, fun fuel _ => get_not_accepts_of_raises h (fun hdecodes => hdecodes.elim hp) fuel⟩

theorem ends_of_size (hsize : 2 ^ 63 ≤ x.octets.length) : Ends env dict w none := by
  have hneg : x.body_size.toInt < 0 := by
    rw [x.length_octets] at hsize
    rw [BitVec.toInt_eq_toNat_cond, if_neg (by omega)]
    have hmax := x.body_size.isLt
    omega
  refine ⟨0, fun fuel _ => not_accepts h (fun h => by cases h) ?_ fuel⟩
  intro _ _ _ _ _ _ _ _ _ hyield
  rcases target_of_yields hyield with hzero | hpos
  · rw [hzero] at hneg
    exact absurd hneg (by decide)
  · omega

variable {pd : PyMembers}
  (hpd : basic_properties_to_PyDict x.properties [] none = .ret (pd, none))

include hpd

theorem ends_of_yields {fs : List amqp_frame_t} {body : PyObj} {s2 : σ}
    (hy : Yields env c x.body_size s fs body s2) : Ends env dict w (some body) := by
  obtain ⟨w1, he, rfl, herr⟩ := reads_enters h hpd
  obtain ⟨k, w2, _, hsame, hk⟩ := recv_of_yields dict he hy
  refine ⟨k, fun fuel hf => ⟨_, w2, hk fuel hf, hsame.trans herr, ?_⟩⟩
  exact (lookup_filled dict pd body c).2

theorem ends_of_empty (hempty : x.octets = []) : Ends env dict w (some (.bytes [])) := by
  have hlen := x.length_octets
  rw [hempty] at hlen
  exact ends_of_yields h hpd (.empty (BitVec.eq_of_toNat_eq hlen.symm))

variable (hne : x.octets ≠ []) (hsize : x.octets.length < 2 ^ 63)

include hne hsize

omit h hpd in
theorem size_pos : 0 < x.body_size.toInt := by
  have hlen := x.length_octets
  have hpos := List.length_pos_iff.mpr hne
  rw [BitVec.toInt_eq_toNat_of_lt (by omega)]
  omega

variable {init : List body_fragment_t} {last : body_fragment_t}
  (hsplit : x.fragments = init ++ [last])

include hsplit

theorem ends_of_noMemory (hinit : init ≠ [])
    (hav : env.bytesAvailable x.body_size.toNat = false) : Ends env dict w none := by
  obtain ⟨w1, he, rfl, _⟩ := reads_enters h hpd
  obtain ⟨f, s1, hb⟩ := Content.breaks_of_noMemory hsplit (size_pos hne hsize) h.bodies hinit hav
  exact not_accepts_of_breaks he hb

theorem ends_of_text (hav : init ≠ [] → env.bytesAvailable x.body_size.toNat = true)
    (hlap : init.length % 2 ^ 32 = 0) {t : PyStr} (htext : utf8Decode last.bytes = some t) :
    Ends env dict w (some (.str t)) :=
  ends_of_yields h hpd
    (Content.yields_lap hsplit (size_pos hne hsize) h.bodies hav hlap htext)

theorem ends_of_foreign (hlap : init.length % 2 ^ 32 = 0) (htext : utf8Decode last.bytes = none) :
    Ends env dict w none := by
  have hpos := size_pos hne hsize
  rcases memory_cases env x init with hav | ⟨hinit, hav⟩
  · obtain ⟨w1, he, rfl, _⟩ := reads_enters h hpd
    obtain ⟨s1, hreads, hlast, hlt, hfull⟩ := Content.reads_init hsplit hpos h.bodies hav
    rw [(Content.bodies_split (c := c) hsplit).1] at hfull
    rw [← Content.length_bodyFrames c init] at hlap
    obtain ⟨k, hk⟩ := recv_of_undecodable dict he hreads hlt hlast ⟨last, rfl⟩ hlap hfull htext
    refine ⟨k, fun fuel hf => ?_⟩
    rintro ⟨n, p', w', hrun, hn, _⟩
    have hfail := hk fuel hf
    rw [hrun] at hfail
    cases hfail
    omega
  · exact ends_of_noMemory h hpd hne hsize hsplit hinit hav

theorem ends_of_pieces (hav : env.bytesAvailable x.body_size.toNat = true)
    (hlap : init.length % 2 ^ 32 ≠ 0) :
    Ends env dict w (some (.bytes (readBytes env
      (overwrite (List.replicate x.body_size.toNat none) 0 (lastLap x))))) := by
  rw [← lapOctets_bodies x c]
  exact ends_of_yields h hpd
    (Content.yields_payload hsplit (size_pos hne hsize) h.bodies hav hlap)

end

/-! ## What is cut alike -/

section

variable {x y : Content}

/-- Contents with the same octets announce the same size. -/
theorem body_size_eq (hb : x.octets = y.octets) : x.body_size = y.body_size := by
  have hx := x.length_octets
  have hy := y.length_octets
  rw [hb, hy] at hx
  exact BitVec.eq_of_toNat_eq hx.symm

/-- A body that is stored for an empty content is a `bytes`. -/
theorem empty_is_bytes {σ κ : Type} {env : Env σ κ} {e : Content} {dict : PyMembers}
    {w : World σ κ} (h : Reads env e dict w) (he : e.octets = []) {v : PyObj}
    (hv : Ends env dict w (some v)) : v = .bytes [] := by
  obtain ⟨c, s, s', h⟩ := h
  by_cases hp : ∀ pd, basic_properties_to_PyDict e.properties [] none ≠ .ret (pd, none)
  · cases hv.unique (ends_of_properties h hp)
  · obtain ⟨pd, hpd⟩ := not_forall_not.mp hp
    exact Option.some.inj (hv.unique (ends_of_empty h hpd he))

/-- Two runs that fail come to the same. -/
theorem both_fail {σ κ : Type} {env : Env σ κ} {dict dict' dict0 : PyMembers}
    {wx wy w0 : World σ κ} (hx : Ends env dict wx none) (hy : Ends env dict' wy none) :
    ∃ o, Ends env dict wx o ∧ Ends env dict' wy o ∧
      ∀ v v0, o = some v → Ends env dict0 w0 (some v0) → SameType v v0 :=
  ⟨none, hx, hy, fun _ _ h => by cases h⟩

theorem oneBody_of_cutAlike (hb : x.octets = y.octets) (hprops : x.properties = y.properties)
    (h : CutAlike x y) : OneBody x y := by
  rintro σ κ env dict dict' dict0 wx wy w0 e ⟨c, s, s1, hx⟩ ⟨c', s', s1', hy⟩ hempty he
  have hbytes : ∀ b, Ends env dict wx (some (.bytes b)) → Ends env dict' wy (some (.bytes b)) →
      ∃ o, Ends env dict wx o ∧ Ends env dict' wy o ∧
        ∀ v v0, o = some v → Ends env dict0 w0 (some v0) → SameType v v0 := by
    intro b h1 h2
    refine ⟨_, h1, h2, fun v v0 hv hv0 => ?_⟩
    cases hv
    rw [empty_is_bytes hempty he hv0]
    exact trivial
  by_cases hp : ∀ pd, basic_properties_to_PyDict x.properties [] none ≠ .ret (pd, none)
  · exact both_fail (ends_of_properties hx hp) (ends_of_properties hy (hprops ▸ hp))
  obtain ⟨pd, hpd⟩ := not_forall_not.mp hp
  have hpd' := hpd
  rw [hprops] at hpd'
  by_cases hsize : 2 ^ 63 ≤ x.octets.length
  · exact both_fail (ends_of_size hx hsize) (ends_of_size hy (hb ▸ hsize))
  by_cases hne : x.octets = []
  · exact hbytes [] (ends_of_empty hx hpd hne) (ends_of_empty hy hpd' (hb ▸ hne))
  have hlt : x.octets.length < 2 ^ 63 := by omega
  have hne' : y.octets ≠ [] := hb ▸ hne
  have hlt' : y.octets.length < 2 ^ 63 := hb ▸ hlt
  cases h with
  | properties h => exact absurd h hp
  | size h => exact absurd h hsize
  | empty h => exact absurd h hne
  | foreign h h' =>
    obtain ⟨init, last, hsplit, hlap, htext⟩ := h
    obtain ⟨init', last', hsplit', hlap', htext'⟩ := h'
    exact both_fail (ends_of_foreign hx hpd hne hlt hsplit hlap htext)
      (ends_of_foreign hy hpd' hne' hlt' hsplit' hlap' htext')
  | pieces h h' hlast =>
    obtain ⟨init, last, hsplit, hlap⟩ := h
    obtain ⟨init', last', hsplit', hlap'⟩ := h'
    have hinit : init ≠ [] := fun hnil => hlap (by simp [hnil])
    have hinit' : init' ≠ [] := fun hnil => hlap' (by simp [hnil])
    cases hav : env.bytesAvailable x.body_size.toNat with
    | false =>
      have hav' := hav
      rw [body_size_eq hb] at hav'
      exact both_fail (ends_of_noMemory hx hpd hne hlt hsplit hinit hav)
        (ends_of_noMemory hy hpd' hne' hlt' hsplit' hinit' hav')
    | true =>
      have hav' := hav
      rw [body_size_eq hb] at hav'
      have h1 := ends_of_pieces hx hpd hne hlt hsplit hav hlap
      have h2 := ends_of_pieces hy hpd' hne' hlt' hsplit' hav' hlap'
      rw [← hlast, ← body_size_eq hb] at h2
      exact hbytes _ h1 h2

/-! ## Only that is cut alike -/

/-- An environment whose new memory holds anything. -/
def noisy (fresh : Nat → UInt8) : Env (List amqp_frame_t) (Option PyErr) :=
  { memoryEnv with fresh }

/-- The frames of a content are there. -/
def atContent (x : Content) : World (List amqp_frame_t) (Option PyErr) :=
  opened.world.setConn (x.header 1 :: x.bodies 1)

theorem memory_gives {c : amqp_channel_t} {fs : List amqp_frame_t} (h : ∀ f ∈ fs, f.channel = c) :
    memory.GivesOn c fs fs [] := by
  induction fs with
  | nil => rfl
  | cons f fs ih =>
    have hreceive : receive amqp_frame_t.channel c (f :: fs) = some (f, fs) := by
      simp [receive, h f (by simp)]
    refine ⟨fs, ?_, ih fun g hg => h g (List.mem_cons_of_mem _ hg)⟩
    unfold memory
    dsimp only
    rw [hreceive]

theorem reads_atContent (fresh : Nat → UInt8) (x : Content) :
    Reads (noisy fresh) x [] (atContent x) :=
  ⟨1, _, [], rfl, ⟨_, _, .get, rfl⟩, memory_gives (x.bodies_channel 1)⟩

/-- A content without octets. -/
def nothing : Content := ⟨0, .empty, [], by simp, rfl⟩

theorem nothing_stored (fresh : Nat → UInt8) :
    Ends (noisy fresh) [] (atContent nothing) (some (.bytes [])) := by
  obtain ⟨c, s, s', h⟩ := reads_atContent fresh nothing
  exact ends_of_empty h rfl rfl

/-- An octet of a payload into which `xs` was written, where new memory holds `z`. -/
theorem read_octet {n i : Nat} {xs : Octets} (hx : xs.length ≤ n) (hi : i < n) (z : UInt8) :
    (readBytes (noisy fun _ => z) (overwrite (List.replicate n none) 0 xs))[i]? =
      some (xs[i]?.getD z) := by
  unfold readBytes
  rw [overwrite_new xs hx, List.getElem?_mapIdx]
  by_cases hlt : i < xs.length
  · rw [List.getElem?_append_left (by simpa using hlt)]
    simp [hlt]
  · have hin : i - xs.length < n - xs.length := by omega
    rw [List.getElem?_append_right (by simpa using hlt)]
    simp [List.getElem?_eq_none (Nat.le_of_not_lt hlt), hin, noisy]

/-- What new memory holds tells the cells that nothing has written. -/
theorem overwrite_injective {n : Nat} {xs ys : Octets} (hx : xs.length ≤ n) (hy : ys.length ≤ n)
    (h : ∀ fresh, readBytes (noisy fresh) (overwrite (List.replicate n none) 0 xs) =
      readBytes (noisy fresh) (overwrite (List.replicate n none) 0 ys)) : xs = ys := by
  apply List.ext_getElem?
  intro i
  by_cases hi : i < n
  · have hsame : ∀ z, xs[i]?.getD z = ys[i]?.getD z := by
      intro z
      have hz := congrArg (fun l => l[i]?) (h fun _ => z)
      rw [read_octet hx hi, read_octet hy hi] at hz
      exact Option.some.inj hz
    have hnext : ∀ a : UInt8, a ≠ a + 1 := by simp
    cases hxi : xs[i]? with
    | none =>
      cases hyi : ys[i]? with
      | none => rfl
      | some a =>
        have hz := hsame (a + 1)
        rw [hxi, hyi] at hz
        exact absurd hz.symm (hnext a)
    | some a =>
      cases hyi : ys[i]? with
      | none =>
        have hz := hsame (a + 1)
        rw [hxi, hyi] at hz
        exact absurd hz (hnext a)
      | some b =>
        have hz := hsame 0
        rw [hxi, hyi] at hz
        exact congrArg some hz
  · rw [List.getElem?_eq_none (by omega), List.getElem?_eq_none (by omega)]

theorem length_lastLap (x : Content) : (lastLap x).length ≤ x.body_size.toNat := by
  have hsum := congrArg List.length (lost_append_lap (x.bodies 1))
  rw [lapOctets_bodies, List.length_append, x.bodyOctets_bodies, x.length_octets] at hsum
  omega

/-- What a content with octets is stored as, where there is memory. -/
theorem stored_cases {x : Content} {pd : PyMembers}
    (hpd : basic_properties_to_PyDict x.properties [] none = .ret (pd, none))
    (hne : x.octets ≠ []) (hsize : x.octets.length < 2 ^ 63) :
    (∃ t, ∀ fresh, Ends (noisy fresh) [] (atContent x) (some (.str t))) ∨
    (Foreign x ∧ ∀ fresh, Ends (noisy fresh) [] (atContent x) none) ∨
    (Pieces x ∧ ∀ fresh, Ends (noisy fresh) [] (atContent x) (some (.bytes (readBytes (noisy fresh)
      (overwrite (List.replicate x.body_size.toNat none) 0 (lastLap x)))))) := by
  rcases cut_cases hne with ⟨init, last, t, hsplit, hlap, htext⟩ | hforeign | hpieces
  · refine .inl ⟨t, fun fresh => ?_⟩
    obtain ⟨c, s, s', h⟩ := reads_atContent fresh x
    exact ends_of_text h hpd hne hsize hsplit (fun _ => rfl) hlap htext
  · refine .inr (.inl ⟨hforeign, fun fresh => ?_⟩)
    obtain ⟨init, last, hsplit, hlap, htext⟩ := hforeign
    obtain ⟨c, s, s', h⟩ := reads_atContent fresh x
    exact ends_of_foreign h hpd hne hsize hsplit hlap htext
  · refine .inr (.inr ⟨hpieces, fun fresh => ?_⟩)
    obtain ⟨init, last, hsplit, hlap⟩ := hpieces
    obtain ⟨c, s, s', h⟩ := reads_atContent fresh x
    exact ends_of_pieces h hpd hne hsize hsplit rfl hlap

/-- A body that is a `str` has another type than the empty body. -/
theorem not_str {fresh : Nat → UInt8} {o : Option PyObj} {t : PyStr}
    (htype : ∀ v v0, o = some v → Ends (noisy fresh) [] (atContent nothing) (some v0) →
      SameType v v0) : o ≠ some (.str t) :=
  fun ho => htype _ _ ho (nothing_stored fresh)

theorem cutAlike_of_oneBody (hb : x.octets = y.octets) (hprops : x.properties = y.properties)
    (h : OneBody x y) : CutAlike x y := by
  by_cases hp : ∀ pd, basic_properties_to_PyDict x.properties [] none ≠ .ret (pd, none)
  · exact .properties hp
  by_cases hsize : 2 ^ 63 ≤ x.octets.length
  · exact .size hsize
  by_cases hne : x.octets = []
  · exact .empty hne
  obtain ⟨pd, hpd⟩ := not_forall_not.mp hp
  have hpd' := hpd
  rw [hprops] at hpd'
  have hrun := fun fresh => h _ _ (noisy fresh) [] [] [] _ _ _ nothing (reads_atContent fresh x)
    (reads_atContent fresh y) (reads_atContent fresh nothing) rfl
  rcases stored_cases hpd hne (by omega) with ⟨t, hx⟩ | ⟨hforeign, hx⟩ | ⟨hpieces, hx⟩
  · obtain ⟨o, h1, _, htype⟩ := hrun fun _ => 0
    exact absurd (h1.unique (hx _)) (not_str htype)
  · rcases stored_cases hpd' (hb ▸ hne) (by rw [← hb]; omega) with ⟨t, hy⟩ | ⟨hforeign', hy⟩ |
      ⟨_, hy⟩
    · obtain ⟨o, _, h2, htype⟩ := hrun fun _ => 0
      exact absurd (h2.unique (hy _)) (not_str htype)
    · exact .foreign hforeign hforeign'
    · obtain ⟨o, h1, h2, _⟩ := hrun fun _ => 0
      cases (h1.unique (hx _)).symm.trans (h2.unique (hy _))
  · rcases stored_cases hpd' (hb ▸ hne) (by rw [← hb]; omega) with ⟨t, hy⟩ | ⟨_, hy⟩ |
      ⟨hpieces', hy⟩
    · obtain ⟨o, _, h2, htype⟩ := hrun fun _ => 0
      exact absurd (h2.unique (hy _)) (not_str htype)
    · obtain ⟨o, h1, h2, _⟩ := hrun fun _ => 0
      cases (h1.unique (hx _)).symm.trans (h2.unique (hy _))
    · refine .pieces hpieces hpieces' (overwrite_injective (n := x.body_size.toNat)
        (length_lastLap x) ?_ fun fresh => ?_)
      · rw [body_size_eq hb]
        exact length_lastLap y
      · obtain ⟨o, h1, h2, _⟩ := hrun fresh
        have hsame := (h1.unique (hx fresh)).symm.trans (h2.unique (hy fresh))
        rw [← body_size_eq hb] at hsame
        exact PyObj.bytes.inj (Option.some.inj hsame)

/-- Two cuts of one body come to one body, of the type of the empty one, exactly when they are
cut alike: both into several fragments, or both into one that is no text. -/
theorem two_cuts_are_one_body_exactly_when_they_are_cut_alike (x y : Content)
    (hb : x.octets = y.octets) (hprops : x.properties = y.properties) :
    OneBody x y ↔ CutAlike x y :=
  ⟨cutAlike_of_oneBody hb hprops, oneBody_of_cutAlike hb hprops⟩

/-- The body "abc" in two cuts of two fragments. -/
theorem a_body_of_two_fragments_is_one_body :
    OneBody ⟨3, .empty, [⟨[97], by decide⟩, ⟨[98, 99], by decide⟩], by decide, rfl⟩
      ⟨3, .empty, [⟨[97, 98], by decide⟩, ⟨[99], by decide⟩], by decide, rfl⟩ := by
  refine (two_cuts_are_one_body_exactly_when_they_are_cut_alike _ _ (by rfl) (by rfl)).mpr ?_
  exact .pieces ⟨[⟨[97], by decide⟩], ⟨[98, 99], by decide⟩, rfl, by decide⟩
    ⟨[⟨[97, 98], by decide⟩], ⟨[99], by decide⟩, rfl, by decide⟩
    ((lastLap_of_le (by decide)).trans (lastLap_of_le (by decide)).symm)

/-- The body "ab" is text in one fragment, and octets in two. -/
theorem a_body_of_text_depends_on_its_cut :
    ¬ OneBody ⟨2, .empty, [⟨[97, 98], by decide⟩], by decide, rfl⟩
      ⟨2, .empty, [⟨[97], by decide⟩, ⟨[98], by decide⟩], by decide, rfl⟩ := by
  intro h
  obtain ⟨c, s, s', hx⟩ := reads_atContent (fun _ => 0)
    ⟨2, .empty, [⟨[97, 98], by decide⟩], by decide, rfl⟩
  have htext : utf8Decode [97, 98] = some (pyStr "ab") := rfl
  have hsplit : [(⟨[97, 98], by decide⟩ : body_fragment_t)] = [] ++ [⟨[97, 98], by decide⟩] := rfl
  have hx' := ends_of_text hx rfl (by decide) (by decide) hsplit (fun _ => rfl) rfl htext
  obtain ⟨o, h1, _, htype⟩ := h _ _ (noisy fun _ => 0) [] [] [] _ _ _ nothing ⟨c, s, s', hx⟩
    (reads_atContent _ _) (reads_atContent _ nothing) rfl
  exact absurd (h1.unique hx') (not_str htype)

end

end librabbitmq.body_cuts
