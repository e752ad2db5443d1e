-- Selective receive. A mailbox is a list, oldest first; `receive k` takes the
-- oldest message with the key `k` and leaves the others in their order. Each
-- key by itself is then a plain queue.
import Mathlib.Data.List.Basic
import Mathlib.Logic.Basic

namespace librabbitmq.mailbox

variable {α κ : Type} [DecidableEq κ] (key : α → κ)

/-- The oldest message with the key `k`, and the messages that are left. -/
def receive (k : κ) : List α → Option (α × List α)
  | [] => none
  | x :: xs => if key x = k then some (x, xs) else (receive k xs).map fun r => (r.1, x :: r.2)

/-- The messages with the key `k`, oldest first. -/
def ofKey (k : κ) (l : List α) : List α := l.filter fun x => decide (key x = k)

@[simp] theorem ofKey_nil (k : κ) : ofKey key k [] = [] := rfl

theorem ofKey_cons (k : κ) (x : α) (l : List α) :
    ofKey key k (x :: l) = if key x = k then x :: ofKey key k l else ofKey key k l := by
  unfold ofKey
  rw [List.filter_cons]
  simp only [decide_eq_true_eq]

@[simp] theorem ofKey_append (k : κ) (l m : List α) :
    ofKey key k (l ++ m) = ofKey key k l ++ ofKey key k m := List.filter_append ..

variable {key}

/-- `receive` takes the first message of its key out from behind those of other keys. -/
theorem receive_split {k : κ} {x : α} : ∀ {l r : List α}, receive key k l = some (x, r) →
    ∃ pre post, l = pre ++ x :: post ∧ r = pre ++ post ∧ key x = k ∧ ∀ y ∈ pre, key y ≠ k := by
  intro l
  induction l with
  | nil =>
    intro r h
    cases h
  | cons y l ih =>
    intro r h
    rw [receive] at h
    split at h
    · rename_i hk
      cases h
      exact ⟨[], l, rfl, rfl, hk, by simp⟩
    · rename_i hk
      obtain ⟨⟨x', r'⟩, hr, he⟩ := Option.map_eq_some_iff.mp h
      cases he
      obtain ⟨pre, post, rfl, rfl, hx, hpre⟩ := ih hr
      refine ⟨y :: pre, post, rfl, rfl, hx, ?_⟩
      intro z hz
      rcases List.mem_cons.mp hz with rfl | hz
      · exact hk
      · exact hpre z hz

/-- What `receive` takes has the key. -/
theorem receive_key {k : κ} {x : α} {l r : List α} (h : receive key k l = some (x, r)) :
    key x = k := by
  obtain ⟨_, _, _, _, hx, _⟩ := receive_split h
  exact hx

/-- `receive` takes the head of the queue of its key, and that queue alone gets
shorter. -/
theorem receive_ofKey {k : κ} {x : α} {l r : List α} (h : receive key k l = some (x, r)) :
    ofKey key k l = x :: ofKey key k r ∧ ∀ j, j ≠ k → ofKey key j r = ofKey key j l := by
  obtain ⟨pre, post, rfl, rfl, hx, hpre⟩ := receive_split h
  have hnone : ofKey key k pre = [] := by
    apply List.filter_eq_nil_iff.mpr
    intro y hy
    simp [hpre y hy]
  constructor
  · rw [ofKey_append, ofKey_append, hnone, ofKey_cons, if_pos hx, List.nil_append,
      List.nil_append]
  · intro j hj
    rw [ofKey_append, ofKey_append, ofKey_cons, if_neg (by rw [hx]; exact hj.symm)]

/-- `receive` finds a message exactly when its key has one. -/
theorem receive_of_ofKey {k : κ} {x : α} {xs : List α} : ∀ {l : List α},
    ofKey key k l = x :: xs → ∃ r, receive key k l = some (x, r) ∧ ofKey key k r = xs := by
  intro l
  induction l with
  | nil =>
    intro h
    cases h
  | cons y l ih =>
    intro h
    rw [ofKey_cons] at h
    by_cases hk : key y = k
    · rw [if_pos hk] at h
      cases h
      exact ⟨l, by rw [receive, if_pos hk], rfl⟩
    · rw [if_neg hk] at h
      obtain ⟨r, hr, hx⟩ := ih h
      refine ⟨y :: r, by rw [receive, if_neg hk, hr]; rfl, ?_⟩
      rw [ofKey_cons, if_neg hk, hx]

/-- What `receive` takes and what it leaves are the mailbox, in another order. -/
theorem receive_perm {k : κ} {x : α} : ∀ {l r : List α}, receive key k l = some (x, r) →
    l.Perm (x :: r) := by
  intro l r h
  obtain ⟨pre, post, rfl, rfl, _, _⟩ := receive_split h
  exact List.perm_middle

/-- What `receive` leaves keeps its order. -/
theorem receive_sublist {k : κ} {x : α} : ∀ {l r : List α}, receive key k l = some (x, r) →
    r.Sublist l := by
  intro l r h
  obtain ⟨pre, post, rfl, rfl, _, _⟩ := receive_split h
  exact (List.sublist_cons_self x post).append_left pre

theorem receive_of_empty {k : κ} {l : List α} (h : ofKey key k l = []) :
    receive key k l = none := by
  cases hr : receive key k l with
  | none => rfl
  | some a =>
    have hkey := (receive_ofKey (x := a.1) (r := a.2) hr).1
    rw [h] at hkey
    cases hkey

/-- The oldest message of two mailboxes, one behind the other. -/
theorem receive_append {k : κ} (m : List α) : ∀ (l : List α),
    receive key k (l ++ m) = match receive key k l with
      | some (x, r) => some (x, r ++ m)
      | none => (receive key k m).map fun r => (r.1, l ++ r.2) := by
  intro l
  induction l with
  | nil =>
    rw [List.nil_append]
    cases receive key k m <;> rfl
  | cons y l ih =>
    rw [List.cons_append, receive, receive, ih]
    split
    · rfl
    · cases receive key k l with
      | some a => rfl
      | none => cases receive key k m <;> rfl

/-- The head of the mailbox is the head of the queue of its key. -/
theorem ofKey_head {x : α} {l : List α} :
    ofKey key (key x) (x :: l) = x :: ofKey key (key x) l := by
  rw [ofKey_cons, if_pos rfl]

theorem ofKey_tail {x : α} {l : List α} {k : κ} (h : k ≠ key x) :
    ofKey key k (x :: l) = ofKey key k l := by
  rw [ofKey_cons, if_neg h.symm]

/-! ## Messages in parts

A sender puts messages into the queue of a key, each in parts, and the parts of
different keys come in any order. -/

section

variable {μ : Type} {parts : κ → μ → List α} {queues : κ → List μ} {l : List α}

variable (key) in
/-- The mailbox interleaves the parts of the messages that are queued for each
key. -/
def Interleaves (parts : κ → μ → List α) (queues : κ → List μ) (l : List α) : Prop :=
  ∀ k, ofKey key k l = (queues k).flatMap (parts k)

/-- The oldest part in the mailbox is the first part of the first message of its
key: a key that has been taken from starts at the border of a message. -/
theorem Interleaves.head (h : Interleaves key parts queues l) {x : α} {rest : List α}
    (hl : l = x :: rest) (hparts : ∀ m ∈ queues (key x), parts (key x) m ≠ []) :
    ∃ m ms xs, queues (key x) = m :: ms ∧ parts (key x) m = x :: xs ∧
      ofKey key (key x) rest = xs ++ ms.flatMap (parts (key x)) := by
  have hkey := h (key x)
  rw [hl, ofKey_head] at hkey
  cases hq : queues (key x) with
  | nil =>
    rw [hq] at hkey
    cases hkey
  | cons m ms =>
    rw [hq, List.flatMap_cons] at hkey
    cases hm : parts (key x) m with
    | nil => exact absurd hm (hparts m (by rw [hq]; simp))
    | cons y xs =>
      rw [hm, List.cons_append] at hkey
      injection hkey with hxy hrest
      exact ⟨m, ms, xs, rfl, by rw [hm, hxy], hrest⟩

/-- The queues after the first message of a key is taken. -/
def taken (queues : κ → List μ) (k : κ) (ms : List μ) : κ → List μ :=
  fun j => if j = k then ms else queues j

/-- When all the parts of the first message of a key are taken, the mailbox
interleaves the messages that are left. -/
theorem Interleaves.taken (h : Interleaves key parts queues l) {k : κ} {ms : List μ} {r : List α}
    (hk : ofKey key k r = ms.flatMap (parts k)) (hj : ∀ j, j ≠ k → ofKey key j r = ofKey key j l) :
    Interleaves key parts (taken queues k ms) r := by
  intro j
  unfold mailbox.taken
  split
  · rename_i hjk
    rw [hjk, hk]
  · rename_i hjk
    rw [hj j hjk, h j]

end

end librabbitmq.mailbox
