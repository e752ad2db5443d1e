-- The laws of the payload. The buffer has the size that the header announced,
-- and the loop tests only between frames whether octets are missing. So a
-- frame that is longer than what is missing is copied past the end, unless it
-- is a first frame, which is never copied when it completes the body.
import Librabbitmq.RecvRun

namespace librabbitmq.body_buffer

open buffer body_loop recv_run

variable {σ κ : Type} {env : Env σ κ} {w w' : World σ κ}

/-! ## Stores of a row of frames -/

/-- The store is to an octet of a payload of `size` octets. -/
def Inside (size : Nat) (x : Store) : Prop := x.size = some size ∧ x.index < size

theorem frameStores_inside (size start len : Nat) :
    (∀ x ∈ frameStores size start len, Inside size x) ↔ len = 0 ∨ start + len ≤ size := by
  unfold frameStores Inside
  constructor
  · intro h
    rcases Nat.eq_zero_or_pos len with h0 | h0
    · exact Or.inl h0
    · right
      have hlast := h ⟨some size, start + (len - 1)⟩
        (List.mem_map.mpr ⟨len - 1, List.mem_range.mpr (by omega), rfl⟩)
      have := hlast.2
      dsimp only at this
      omega
  · intro h x hx
    obtain ⟨j, hj, rfl⟩ := List.mem_map.mp hx
    rw [List.mem_range] at hj
    refine ⟨rfl, ?_⟩
    dsimp only
    omega

/-- A first frame that does not complete the body fits in the payload. -/
theorem first_fits {t : BitVec 64} {fs : List amqp_frame_t} {f : amqp_frame_t}
    (h : GoesOver t (fs ++ [f])) (h0 : fs.length % 2 ^ 32 = 0) : f.octets.length ≤ t.toNat := by
  obtain ⟨hfs, hlt, hfirst⟩ := goesOver_snoc.mp h
  have hlast := hfirst h0
  have hlen := f.octets_lt
  have hpos : 0 < t.toInt := by
    rcases counter_nonneg hfs with hc | hc <;> omega
  have hnat := toNat_of_pos hpos
  rcases counter_nonneg hfs with hc | hc
  · by_cases hw : (received fs).toInt + f.octets.length < 2 ^ 63
    · have hsum : (received (fs ++ [f])).toInt = (received fs).toInt + f.octets.length := by
        rw [received_snoc, BitVec.toInt_add, BitVec.toInt_ofNat', Int.add_bmod_bmod]
        exact Int.bmod_eq_of_le (by omega) (by omega)
      omega
    · omega
  · omega

/-- The octets of each lap, up to each frame of the row, fit in the payload. -/
def LapsFit (t : BitVec 64) (fs : List amqp_frame_t) : Prop :=
  ∀ pre, pre <+: fs → (lapOctets pre).length ≤ t.toNat

theorem lapsFit_nil (t : BitVec 64) : LapsFit t [] := by
  intro pre h
  rw [List.prefix_nil.mp h]
  simp [lapOctets]

theorem lapsFit_snoc {t : BitVec 64} {fs : List amqp_frame_t} {f : amqp_frame_t} :
    LapsFit t (fs ++ [f]) ↔ LapsFit t fs ∧ (lapOctets (fs ++ [f])).length ≤ t.toNat := by
  constructor
  · intro h
    exact ⟨fun pre hp => h pre (hp.trans (List.prefix_append fs [f])),
      h _ (List.prefix_refl _)⟩
  · rintro ⟨h, hlast⟩ pre hp
    rcases List.prefix_concat_iff.mp hp with rfl | hp
    · exact hlast
    · exact h pre hp

theorem rowStores_size {size : Nat} {fs : List amqp_frame_t} {st : List Store}
    (h : RowStores size fs st) : ∀ x ∈ st, x.size = some size := by
  induction h with
  | nil => simp
  | snoc f _ ih =>
    intro x hx
    rcases List.mem_append.mp hx with hx | hx
    · exact ih x hx
    · unfold frameStores at hx
      obtain ⟨j, _, rfl⟩ := List.mem_map.mp hx
      rfl

/-- The stores of a row of frames are inside of the payload exactly when the
octets of each lap fit in it. -/
theorem rowStores_inside {t : BitVec 64} {fs : List amqp_frame_t} {st : List Store}
    (hst : RowStores t.toNat fs st) (ho : GoesOver t fs) :
    (∀ x ∈ st, Inside t.toNat x) ↔ LapsFit t fs := by
  induction hst with
  | nil => simp [lapsFit_nil]
  | @snoc fs st f hst ih =>
    have hrow := ih (goesOver_snoc.mp ho).1
    rw [List.forall_mem_append, frameStores_inside, lapsFit_snoc, hrow]
    refine and_congr_right fun hfit => ?_
    rw [lapOctets_snoc]
    unfold start
    have hfs := hfit fs (List.prefix_refl fs)
    split
    · rename_i h0
      have hfirst := first_fits ho h0
      omega
    · rw [List.length_append]
      omega

/-! ## Stores of a run -/

/-- A call that stores nothing. -/
def KeepsStores {α : Type} (x : Run (World σ κ) α) : Prop := ∀ w, (x w).2.stores = w.stores

theorem KeepsStores.bind {α β : Type} {x : Run (World σ κ) α} {f : α → Run (World σ κ) β}
    (hx : KeepsStores x) (hf : ∀ a, KeepsStores (f a)) : KeepsStores (x >>= f) := by
  intro w
  have h := hx w
  rw [Run.bind_apply]
  rcases hw : x w with ⟨o, w'⟩
  rw [hw] at h
  cases o with
  | ret a => exact (hf a w').trans h
  | crash => exact h
  | hang => exact h

theorem keepsStores_pure {α : Type} (a : α) : KeepsStores (pure a : Run (World σ κ) α) :=
  fun _ => rfl

theorem keepsStores_lift {α : Type} (x : Outcome α) : KeepsStores (Run.lift x : Run (World σ κ) α) :=
  fun _ => rfl

theorem keepsStores_altframe (env : Env σ κ) (fuel : Nat) (p : Option PyMembers)
    (c : amqp_channel_t) (m : amqp_method_t) :
    KeepsStores (PyRabbitMQ_recv.altframe env fuel p c m) :=
  fun w => (altframe_quits env fuel p c m w).2.1

theorem keepsStores_applyCallback (env : Env σ κ) (tag : PyStr) (c : Int)
    (propdict info : PyMembers) (view : List (Option UInt8)) :
    KeepsStores (PyRabbitMQ_ApplyCallback env tag c propdict info view) := by
  intro w
  unfold PyRabbitMQ_ApplyCallback
  rw [Run.get_bind_apply]
  cases w.self.callback_for_tag c tag with
  | none => rfl
  | some callback =>
    dsimp only
    rw [Run.bind_ret (x := PyObject_GetAttrString_channels env) rfl]
    cases w.self.channels.lookup c with
    | none => rfl
    | some channelobj =>
      dsimp only
      rw [Run.get_bind_apply]
      split <;> rfl

theorem keepsStores_finish (env : Env σ κ) (p : Option PyMembers)
    (d : Option (PyStr × PyMembers)) (c : amqp_channel_t) (t : BitVec 64) (propdict : PyMembers)
    (v : BodyVars) : KeepsStores (PyRabbitMQ_recv.finish env p d c t propdict v) := by
  unfold PyRabbitMQ_recv.finish
  split
  · split
    · exact keepsStores_pure _
    · exact (keepsStores_lift _).bind fun _ => (keepsStores_lift _).bind fun _ =>
        (keepsStores_lift _).bind fun _ => keepsStores_pure _
  · split
    · exact keepsStores_pure _
    · exact fun _ => rfl
    · exact (keepsStores_applyCallback env _ _ _ _ _).bind fun _ => keepsStores_pure _

/-- The stores of a content are those of its body loop. -/
theorem body_stores (env : Env σ κ) (fuel : Nat) (p : Option PyMembers)
    (d : Option (PyStr × PyMembers)) (c : amqp_channel_t) (t : BitVec 64) (propdict : PyMembers)
    (w : World σ κ) :
    (PyRabbitMQ_recv.body env fuel p d c t propdict w).2.stores =
      (Run.loop (PyRabbitMQ_recv.turn env p.isSome c t) fuel .init w).2.stores := by
  unfold PyRabbitMQ_recv.body
  rw [Run.bind_apply]
  rcases hl : Run.loop (PyRabbitMQ_recv.turn env p.isSome c t) fuel .init w with ⟨o, w'⟩
  cases o with
  | ret e =>
    cases e with
    | done v => exact keepsStores_finish env p d c t propdict v w'
    | altframe ch m => exact keepsStores_altframe env fuel p ch m w'
    | goto_finally => rfl
  | crash => rfl
  | hang => rfl

/-! ## The law -/

/-- The stores that a run adds to those before it. -/
def newStores (env : Env σ κ) (fuel : Nat) (p : Option PyMembers) (piggyback : Bool)
    (w : World σ κ) : List Store :=
  (PyRabbitMQ_recv env fuel p piggyback w).2.stores.drop w.stores.length

/-- Every store of a run, whether the run ends or not, is to an octet of a
payload of as many octets as the header announced. -/
def StaysInside (env : Env σ κ) (p : Option PyMembers) (piggyback : Bool) (w : World σ κ) : Prop :=
  ∀ fuel, ∀ x ∈ newStores env fuel p piggyback w, ∃ d c body_size propdict w1,
    Enters env w piggyback d c body_size propdict w1 ∧ Inside body_size.toNat x

/-- No row of body frames that the loop goes over brings the octets since the
counter was last zero above the size that the header announced. -/
def FramesFit (env : Env σ κ) (piggyback : Bool) (w : World σ κ) : Prop :=
  ∀ d c body_size propdict w1 fs s, Enters env w piggyback d c body_size propdict w1 →
    Reads env c body_size w1.self.conn fs s → (lapOctets fs).length ≤ body_size.toNat

theorem lapsFit_of_framesFit {piggyback : Bool} (h : FramesFit env piggyback w)
    {d : Option (PyStr × PyMembers)} {c : amqp_channel_t} {t : BitVec 64} {propdict : PyMembers}
    {w1 : World σ κ} (he : Enters env w piggyback d c t propdict w1) {fs : List amqp_frame_t}
    {v : BodyVars} {w2 : World σ κ} (hrow : Row env c t w1 fs v w2) : LapsFit t fs := by
  rintro pre ⟨rest, rfl⟩
  obtain ⟨s1, hg, _⟩ := hrow.reads.gives.split
  refine h d c t propdict w1 pre s1 he ⟨hg, ?_, ?_, ?_⟩
  · exact fun f hf => hrow.reads.bodies f (List.mem_append_left _ hf)
  · intro pre' f rest' hp
    exact hrow.reads.goesOver pre' f (rest' ++ rest) (by rw [hp]; simp)
  · intro hne
    exact hrow.reads.available (by simp [hne])

theorem row_newStores {c : amqp_channel_t} {t : BitVec 64} {fs : List amqp_frame_t} {v : BodyVars}
    (hrow : Row env c t w fs v w') :
    ∃ st, RowStores t.toNat fs st ∧ w'.stores = w.stores ++ st := by
  obtain ⟨st, hst, hw⟩ := hrow.world
  exact ⟨st, hst, by rw [hw]; rfl⟩

theorem staysInside_of_framesFit {p : Option PyMembers} {piggyback : Bool}
    (h : FramesFit env piggyback w) : StaysInside env p piggyback w := by
  intro fuel x hx
  unfold newStores at hx
  rcases recv_cases env fuel p piggyback w with ⟨d, c, t, pd, w1, he, hr⟩ | ⟨w1, hu, hr⟩ | hq
  · rw [hr, body_stores] at hx
    obtain ⟨fs, v, w2, hrow, hl⟩ := loop_stores env p.isSome c t fuel w1
    obtain ⟨st, hst, hw⟩ := row_newStores hrow
    rw [hl, hw, (enters_books he).2, List.drop_left] at hx
    have hin := (rowStores_inside hst hrow.reads.goesOver).mpr (lapsFit_of_framesFit h he hrow)
    exact ⟨d, c, t, pd, w1, he, hin x hx⟩
  · rw [hr, (unexpected_books hu).2, List.drop_length] at hx
    cases hx
  · rw [hq.2.1, List.drop_length] at hx
    cases hx

theorem framesFit_of_staysInside {p : Option PyMembers} {piggyback : Bool}
    (h : StaysInside env p piggyback w) : FramesFit env piggyback w := by
  intro d c t pd w1 fs s he hreads
  obtain ⟨k, hk⟩ := recv_of_enters he
  obtain ⟨w2, ht, hrow, _⟩ := turns_of_reads (p := p.isSome) hreads
  obtain ⟨st, hst, hw⟩ := row_newStores hrow
  -- enough fuel to enter the loop and to go over the frames
  have hstores : w.stores ++ st <+:
      (PyRabbitMQ_recv env (fs.length + (k + 1)) p piggyback w).2.stores := by
    rw [hk _ (by omega) p, body_stores, Run.loop_turns (k + 1) ht, ← (enters_books he).2, ← hw]
    exact (loop_grows env p.isSome c t (k + 1) _ w2).stores
  obtain ⟨more, hmore⟩ := hstores
  have hall : ∀ x ∈ st, Inside t.toNat x := by
    intro x hx
    have hnew : x ∈ newStores env (fs.length + (k + 1)) p piggyback w := by
      unfold newStores
      rw [← hmore, List.append_assoc, List.drop_left]
      exact List.mem_append_left _ hx
    obtain ⟨_, _, t', _, _, _, hsize, hindex⟩ := h _ x hnew
    have hx' := rowStores_size hst x hx
    have heq : t'.toNat = t.toNat := Option.some.inj (hsize.symm.trans hx')
    exact ⟨hx', heq ▸ hindex⟩
  exact (rowStores_inside hst hreads.goesOver).mp hall fs (List.prefix_refl fs)

/-- The stores of a run, in a `get` or for a consumer, stay inside of the payload
exactly when the frames that the loop goes over fit in it. -/
theorem no_store_leaves_the_payload_exactly_when_the_frames_fit (env : Env σ κ)
    (p : Option PyMembers) (piggyback : Bool) (w : World σ κ) :
    StaysInside env p piggyback w ↔ FramesFit env piggyback w :=
  ⟨framesFit_of_staysInside, staysInside_of_framesFit⟩

/-- A body of 2 octets that comes as 1 octet and then 4: the second frame is
copied to the indices 1 to 4. -/
theorem an_overlong_second_frame_is_copied_past_the_end :
    ¬ StaysInside Socket.env (some []) true
      (Socket.world (.bringing [Socket.header 2, Socket.octet 0,
        Socket.body [0, 0, 0, 0] (by decide)]) none) := by
  intro h
  have hnew : newStores Socket.env 4 (some []) true
      (Socket.world (.bringing [Socket.header 2, Socket.octet 0,
        Socket.body [0, 0, 0, 0] (by decide)]) none) =
      [⟨some 2, 0⟩, ⟨some 2, 1⟩, ⟨some 2, 2⟩, ⟨some 2, 3⟩, ⟨some 2, 4⟩] := rfl
  obtain ⟨_, _, t, _, _, _, hsize, hindex⟩ := h 4 ⟨some 2, 4⟩ (by rw [hnew]; simp)
  have heq : 2 = t.toNat := Option.some.inj hsize
  dsimp only at hindex
  omega

end librabbitmq.body_buffer
