import Mathlib.Data.List.Nodup

/-!
# A bounded channel with many senders

A message is pushed with a permit of the channel. A sender that finds no permit stands in line, and a
permit that comes back goes to the first in line, so that no other sender can take it meanwhile: `free`
counts the permits that are nobody's, `granted` are the senders that were handed one and have yet to
push. The receiver takes the oldest message; when it goes, what is queued goes with it.

Senders have numbers. `Sound` says where the permits are, `Nearly c i n` that fewer than `n` permits have to
come back before sender `i` is handed one.
-/

namespace Lib

structure Mpsc (α : Type*) where
  capacity : ℕ
  queue : List α
  free : ℕ
  /-- The line, first in line first. -/
  waiting : List ℕ
  granted : List ℕ
  /-- The receiver is gone. -/
  closed : Bool

inductive TrySendError
  | full
  | closed
deriving DecidableEq

namespace Mpsc
variable {α : Type*} {c c' : Mpsc α} {i j n : ℕ} {v : α}

def channel (capacity : ℕ) : Mpsc α := ⟨capacity, [], capacity, [], [], false⟩

/-- A permit comes back. -/
def release (c : Mpsc α) : Mpsc α :=
  match c.waiting with
  | [] => { c with free := c.free + 1 }
  | i :: waiting => { c with waiting, granted := c.granted ++ [i] }

def trySend (c : Mpsc α) (v : α) : Except TrySendError (Mpsc α) :=
  if c.closed then .error .closed
  else if c.free = 0 then .error .full
  else .ok { c with free := c.free - 1, queue := c.queue ++ [v] }

/-- A poll of the future with which sender `i` sends `v`; no answer is `Pending`. -/
def pollSend (c : Mpsc α) (i : ℕ) (v : α) : Mpsc α × Option (Except α Unit) :=
  if c.closed then (c, some (.error v))
  else if i ∈ c.granted then
    ({ c with granted := c.granted.erase i, queue := c.queue ++ [v] }, some (.ok ()))
  else if i ∈ c.waiting then (c, none)
  else if c.free = 0 then ({ c with waiting := c.waiting ++ [i] }, none)
  else ({ c with free := c.free - 1, queue := c.queue ++ [v] }, some (.ok ()))

/-- The future of sender `i` is dropped. -/
def cancel (c : Mpsc α) (i : ℕ) : Mpsc α :=
  if i ∈ c.granted then { c with granted := c.granted.erase i }.release
  else { c with waiting := c.waiting.erase i }

def recv (c : Mpsc α) : Option (α × Mpsc α) :=
  match c.queue with
  | [] => none
  | v :: queue => some (v, { c with queue }.release)

/-- Everybody in line is woken, to find the channel closed. -/
def dropReceiver (c : Mpsc α) : Mpsc α :=
  { c with queue := [], free := c.capacity, waiting := [], granted := [], closed := true }

/-! ### What the operations leave alone -/

@[simp] theorem release_queue : c.release.queue = c.queue := by
  unfold release; split <;> rfl

@[simp] theorem release_closed : c.release.closed = c.closed := by
  unfold release; split <;> rfl

@[simp] theorem release_capacity : c.release.capacity = c.capacity := by
  unfold release; split <;> rfl

@[simp] theorem cancel_queue : (c.cancel i).queue = c.queue := by
  unfold cancel; split
  · rw [release_queue]
  · rfl

@[simp] theorem cancel_closed : (c.cancel i).closed = c.closed := by
  unfold cancel; split
  · rw [release_closed]
  · rfl

@[simp] theorem cancel_capacity : (c.cancel i).capacity = c.capacity := by
  unfold cancel; split
  · rw [release_capacity]
  · rfl

theorem trySend_ok (h : c.trySend v = .ok c') :
    c.closed = false ∧ 0 < c.free ∧ c' = { c with free := c.free - 1, queue := c.queue ++ [v] } := by
  unfold trySend at h
  split at h
  · cases h
  · split at h
    · cases h
    · cases h
      exact ⟨by simpa using ‹¬ c.closed = true›, Nat.pos_of_ne_zero ‹_›, rfl⟩

/-- What a poll of a send comes to. -/
inductive SendPoll (c : Mpsc α) (i : ℕ) (v : α) : Mpsc α × Option (Except α Unit) → Prop
  | closed (hc : c.closed = true) : SendPoll c i v (c, some (.error v))
  | granted (hc : c.closed = false) (hi : i ∈ c.granted) :
      SendPoll c i v ({ c with granted := c.granted.erase i, queue := c.queue ++ [v] }, some (.ok ()))
  | waits (hc : c.closed = false) (hg : i ∉ c.granted) (hi : i ∈ c.waiting) : SendPoll c i v (c, none)
  | joins (hc : c.closed = false) (hg : i ∉ c.granted) (hi : i ∉ c.waiting) (hf : c.free = 0) :
      SendPoll c i v ({ c with waiting := c.waiting ++ [i] }, none)
  | free (hc : c.closed = false) (hg : i ∉ c.granted) (hi : i ∉ c.waiting) (hf : 0 < c.free) :
      SendPoll c i v ({ c with free := c.free - 1, queue := c.queue ++ [v] }, some (.ok ()))

theorem pollSend_cases (c : Mpsc α) (i : ℕ) (v : α) : SendPoll c i v (c.pollSend i v) := by
  unfold pollSend
  split
  · exact .closed ‹_›
  · have hc : c.closed = false := by simpa using ‹¬ c.closed = true›
    split
    · exact .granted hc ‹_›
    · split
      · exact .waits hc ‹_› ‹_›
      · split
        · exact .joins hc ‹_› ‹_› ‹_›
        · exact .free hc ‹_› ‹_› (Nat.pos_of_ne_zero ‹_›)

theorem recv_eq_some (h : c.recv = some (v, c')) :
    ∃ queue, c.queue = v :: queue ∧ c' = { c with queue }.release := by
  unfold recv at h
  split at h
  · cases h
  · rename_i w queue hq
    cases h
    exact ⟨queue, hq, rfl⟩

/-! ### Where the permits are -/

/-- Sender `i` stands in line or holds a permit. -/
def Lined (c : Mpsc α) (i : ℕ) : Prop := i ∈ c.granted ∨ i ∈ c.waiting

structure Sound (c : Mpsc α) : Prop where
  permits : c.queue.length + c.granted.length + c.free = c.capacity
  /-- Nobody is in line while a permit is free. -/
  line : c.waiting ≠ [] → c.free = 0
  nodup : (c.granted ++ c.waiting).Nodup
  gone : c.closed = true → c.queue = [] ∧ c.granted = [] ∧ c.waiting = []

theorem Sound.channel (capacity : ℕ) : (channel capacity : Mpsc α).Sound :=
  ⟨by simp [Mpsc.channel], fun h => absurd rfl h, List.nodup_nil, fun h => absurd h Bool.false_ne_true⟩

theorem Sound.length_le (h : c.Sound) : c.queue.length ≤ c.capacity := by
  have := h.permits
  omega

/-- There is room for a message whose sender has a permit. -/
theorem Sound.length_lt (h : c.Sound) (hp : 0 < c.granted.length + c.free) :
    c.queue.length < c.capacity := by
  have := h.permits
  omega

theorem Sound.not_waiting (h : c.Sound) (hi : i ∈ c.granted) : i ∉ c.waiting :=
  fun hw => (List.nodup_append.1 h.nodup).2.2 i hi i hw rfl

theorem Sound.not_lined (h : c.Sound) (hc : c.closed = true) : ¬ c.Lined i := by
  obtain ⟨-, hg, hw⟩ := h.gone hc
  simp [Lined, hg, hw]

theorem release_lined : c.release.Lined i ↔ c.Lined i := by
  unfold release Lined
  split
  · rfl
  · rename_i j waiting hw
    rw [hw, List.mem_append, List.mem_singleton, List.mem_cons, or_assoc]

theorem recv_lined (h : c.recv = some (v, c')) : c'.Lined i ↔ c.Lined i := by
  obtain ⟨queue, -, rfl⟩ := recv_eq_some h
  exact release_lined (c := { c with queue })

theorem Sound.release (hperm : c.queue.length + c.granted.length + c.free + 1 = c.capacity)
    (hline : c.waiting ≠ [] → c.free = 0) (hnd : (c.granted ++ c.waiting).Nodup)
    (hc : c.closed = false) : c.release.Sound := by
  have hopen : ¬ c.closed = true := by rw [hc]; exact Bool.false_ne_true
  unfold Mpsc.release
  split
  · rename_i hw
    exact ⟨by rw [← hperm]; exact (Nat.add_assoc ..).symm, fun hne => absurd hw hne, hnd,
      fun h => absurd h hopen⟩
  · rename_i i waiting hw
    rw [hw] at hnd hline
    refine ⟨?_, fun _ => hline (List.cons_ne_nil _ _), ?_, fun h => absurd h hopen⟩
    · simp only [List.length_append, List.length_singleton]
      omega
    · simpa using hnd

theorem Sound.trySend (h : c.Sound) (hs : c.trySend v = .ok c') : c'.Sound := by
  obtain ⟨hc, hf, rfl⟩ := trySend_ok hs
  have hperm := h.permits
  refine ⟨?_, fun hw => ?_, h.nodup, fun hc' => absurd (hc.symm.trans hc') Bool.false_ne_true⟩
  · simp only [List.length_append, List.length_singleton]
    omega
  · exact absurd (h.line hw) (Nat.ne_of_gt hf)

theorem Sound.pollSend (h : c.Sound) (i : ℕ) (v : α) : (c.pollSend i v).1.Sound := by
  have hperm := h.permits
  generalize hr : c.pollSend i v = r
  have hcases := c.pollSend_cases i v
  rw [hr] at hcases
  cases hcases with
  | closed | waits => exact h
  | granted hc hi =>
    refine ⟨?_, h.line, h.nodup.sublist (List.erase_sublist.append_right _),
      fun hc' => absurd (hc.symm.trans hc') Bool.false_ne_true⟩
    have hpos := List.length_pos_of_mem hi
    simp only [List.length_append, List.length_singleton, List.length_erase_of_mem hi]
    omega
  | joins hc hg hi hf =>
    refine ⟨hperm, fun _ => hf, ?_, fun hc' => absurd (hc.symm.trans hc') Bool.false_ne_true⟩
    have hnd : (c.granted ++ c.waiting ++ [i]).Nodup := by
      refine List.nodup_append.2 ⟨h.nodup, List.nodup_singleton i, fun a ha b hb => ?_⟩
      rw [List.mem_singleton.1 hb]
      rintro rfl
      rcases List.mem_append.1 ha with ha | ha
      · exact hg ha
      · exact hi ha
    rwa [List.append_assoc] at hnd
  | free hc hg hi hf =>
    refine ⟨?_, fun hw => absurd (h.line hw) (Nat.ne_of_gt hf), h.nodup,
      fun hc' => absurd (hc.symm.trans hc') Bool.false_ne_true⟩
    simp only [List.length_append, List.length_singleton]
    omega

theorem Sound.cancel (h : c.Sound) (i : ℕ) : (c.cancel i).Sound := by
  have hperm := h.permits
  unfold Mpsc.cancel
  split
  · rename_i hi
    have hpos := List.length_pos_of_mem hi
    have hc : c.closed = false := by
      by_contra hc
      exact h.not_lined (by simpa using hc) (.inl hi)
    refine .release ?_ h.line (h.nodup.sublist (List.erase_sublist.append_right _)) hc
    simp only [List.length_erase_of_mem hi]
    omega
  · refine ⟨hperm, fun hw => h.line fun hnil => hw ?_, h.nodup.sublist (List.erase_sublist.append_left _),
      fun hc => ?_⟩
    · rw [hnil, List.erase_nil]
    · obtain ⟨hq, hg, hw⟩ := h.gone hc
      exact ⟨hq, hg, by rw [hw, List.erase_nil]⟩

theorem Sound.recv (h : c.Sound) (hs : c.recv = some (v, c')) : c'.Sound := by
  obtain ⟨queue, hq, rfl⟩ := recv_eq_some hs
  have hperm := h.permits
  rw [hq, List.length_cons] at hperm
  have hc : c.closed = false := by
    by_contra hc
    rw [(h.gone (by simpa using hc)).1] at hq
    cases hq
  refine .release ?_ h.line h.nodup hc
  show queue.length + c.granted.length + c.free + 1 = c.capacity
  omega

theorem sound_dropReceiver : c.dropReceiver.Sound :=
  ⟨by simp [Mpsc.dropReceiver], fun hw => absurd rfl hw, List.nodup_nil, fun _ => ⟨rfl, rfl, rfl⟩⟩

/-- A sender is in line as long as its future is pending. -/
theorem Sound.pollSend_lined (h : c.Sound) :
    (c.pollSend i v).1.Lined j ↔ c.Lined j ∧ j ≠ i ∨ j = i ∧ (c.pollSend i v).2 = none := by
  generalize hr : c.pollSend i v = r
  have hcases := c.pollSend_cases i v
  rw [hr] at hcases
  by_cases hj : j = i
  · subst hj
    cases hcases with
    | closed hc => simp [h.not_lined hc]
    | granted hc hi =>
      have hnd := (List.nodup_append.1 h.nodup).1
      simp [Lined, hnd.not_mem_erase, h.not_waiting hi]
    | waits hc hg hi => simp [Lined, hi]
    | joins => simp [Lined]
    | free hc hg hi => simp [Lined, hg, hi]
  · cases hcases with
    | granted => simp [Lined, List.mem_erase_of_ne hj, hj]
    | _ => simp [Lined, hj]

theorem Sound.cancel_lined (h : c.Sound) : (c.cancel i).Lined j ↔ c.Lined j ∧ j ≠ i := by
  unfold Mpsc.cancel
  split
  · rename_i hi
    rw [release_lined]
    by_cases hj : j = i
    · subst hj
      have hnd := (List.nodup_append.1 h.nodup).1
      simp [Lined, hnd.not_mem_erase, h.not_waiting hi]
    · simp [Lined, List.mem_erase_of_ne hj, hj]
  · rename_i hi
    by_cases hj : j = i
    · subst hj
      have hnd := (List.nodup_append.1 h.nodup).2.1
      simp [Lined, hnd.not_mem_erase, hi]
    · simp [Lined, List.mem_erase_of_ne hj, hj]

/-! ### The line -/

/-- Sender `i` holds a permit, or fewer than `n` senders are before it in line. -/
def Nearly (c : Mpsc α) (i n : ℕ) : Prop := i ∈ c.granted ∨ i ∈ c.waiting.take n

theorem Nearly.granted (h : c.Nearly i 0) : i ∈ c.granted := by
  rcases h with h | h
  · exact h
  · rw [List.take_zero] at h
    cases h

theorem mem_take_erase {l : List ℕ} (h : i ∈ l.take n) (hne : i ≠ j) : i ∈ (l.erase j).take n := by
  induction l generalizing n with
  | nil => simp at h
  | cons k l ih =>
    cases n with
    | zero => simp at h
    | succ n =>
      rw [List.take_succ_cons, List.mem_cons] at h
      rw [List.erase_cons]
      split
      · rename_i hk
        rcases h with rfl | h
        · exact absurd (by simpa using hk) hne
        · exact List.take_subset_take_left _ (Nat.le_succ n) h
      · rw [List.take_succ_cons, List.mem_cons]
        rcases h with rfl | h
        · exact .inl rfl
        · exact .inr (ih h)

theorem Nearly.release (h : c.Nearly i (n + 1)) : c.release.Nearly i n := by
  unfold Mpsc.release
  split
  · rename_i hw
    rcases h with h | h
    · exact .inl h
    · rw [hw] at h
      cases h
  · rename_i j waiting hw
    rcases h with h | h
    · exact .inl (List.mem_append_left _ h)
    · rw [hw, List.take_succ_cons, List.mem_cons] at h
      rcases h with rfl | h
      · exact .inl (List.mem_append_right _ (List.mem_singleton_self i))
      · exact .inr h

theorem Nearly.mono {m : ℕ} (h : c.Nearly i n) (hle : n ≤ m) : c.Nearly i m :=
  h.imp_right fun hw => List.take_subset_take_left _ hle hw

theorem Nearly.release_of_le (h : c.Nearly i n) : c.release.Nearly i n :=
  (h.mono (Nat.le_succ n)).release

theorem Nearly.recv (h : c.Nearly i (n + 1)) (hs : c.recv = some (v, c')) : c'.Nearly i n := by
  obtain ⟨queue, -, rfl⟩ := recv_eq_some hs
  exact Nearly.release h

/-- Nobody overtakes a sender in line by not waiting. -/
theorem Nearly.trySend (h : c.Nearly i n) (hs : c.trySend v = .ok c') : c'.Nearly i n := by
  obtain ⟨-, -, rfl⟩ := trySend_ok hs
  exact h

theorem Nearly.pollSend (h : c.Nearly i n) (hne : i ≠ j) (v : α) : (c.pollSend j v).1.Nearly i n := by
  generalize hr : c.pollSend j v = r
  have hcases := c.pollSend_cases j v
  rw [hr] at hcases
  cases hcases with
  | closed | waits | free => exact h
  | granted hc hj => exact h.imp_left fun hg => (List.mem_erase_of_ne hne).2 hg
  | joins hc hg hj hf =>
    refine h.imp_right fun hw => ?_
    rw [List.take_append]
    exact List.mem_append_left _ hw

theorem Nearly.cancel (h : c.Nearly i n) (hne : i ≠ j) : (c.cancel j).Nearly i n := by
  unfold Mpsc.cancel
  split
  · refine Nearly.release_of_le ?_
    exact h.imp_left fun hg => (List.mem_erase_of_ne hne).2 hg
  · exact h.imp_right fun hw => mem_take_erase hw hne

end Mpsc
end Lib
