import Mathlib.Data.List.Basic
import Mathlib.Data.List.Defs
import Mathlib.Data.List.ReduceOption
import Mathlib.Logic.Function.Basic
import Mathlib.Order.Nat
import MuxrCore.Lib.Runs

/-! # Swapping the connection of a relay

A herdr wire connection shows one terminal. To show another one the relay's sender drops the
connection and opens a new one, and hands its read half to the receiver, which blocks on the old
one in a thread of its own. The two share a flag and a channel: the sender raises `swapPending`,
shuts the old connection down, sends the new read half or, when every attempt failed, a `none`, and
lowers the flag; the receiver sees its connection end, looks into the channel, and only if the
channel is empty reads the flag, waiting on the channel if it is raised and giving up if it is not.

Connections are numbered in the order they are opened. The server closes none, and no wait is cut
short.

* `reach`: the last connection the receiver can still come to, as far as the channel tells.
* `Timely` and `kept_iff`: the steps after which every connection that `reattach` reported is still
  adopted, and the stream ends after a failed reattach only.
* `adopted_within`: in such a run the receiver adopts the connection within a bounded number of its
  own steps, whatever the sender does meanwhile. -/

namespace MuxrCore.Herdr.Swap

open MuxrCore.Lib.Runs

/-- Tries of the whole connect and handshake. -/
def reconnectAttempts : ℕ := 2

/-- Where the sender is in `reattach`. -/
inductive Sender
  | idle
  | armed
  /-- the old connection is shut down; `left` attempts remain -/
  | attempting (left : ℕ)
  /-- an attempt succeeded, and the write half is the new connection's -/
  | connected
  | handedOver
  | readerGone
  /-- every attempt failed, and the receiver has been told -/
  | exhausted
  deriving DecidableEq, Repr

/-- Where the receiver is in `recv` and `try_adopt_swap`. -/
inductive Receiver
  | reading
  /-- the connection has ended -/
  | ended
  /-- the channel was empty -/
  | checked
  | waiting
  /-- the stream has ended -/
  | over
  /-- the receiver, and its end of the channel, are gone -/
  | dropped
  deriving DecidableEq, Repr

/-- The two threads and what they share. -/
structure State where
  sender : Sender
  /-- the connection of the write half, the last one opened -/
  current : ℕ
  shut : ℕ → Bool
  swapPending : Bool
  swap : List (Option ℕ)
  receiver : Receiver
  /-- the connection of the read half -/
  read : ℕ

/-- An attached relay. -/
def init : State := ⟨.idle, 0, fun _ => false, false, [], .reading, 0⟩

/-- The steps of the two threads. -/
inductive Act
  | arm
  | detach
  | attempt (ok : Bool)
  | handOver
  | sendNone
  /-- lower the flag and return, reporting the connection handed over -/
  | returnOk (c : ℕ)
  | returnErr
  | eof
  | tryRecv
  | loadPending
  | recvTimeout
  | drop
  deriving DecidableEq, Repr

/-- The steps the receiver takes to come to its next connection. -/
def Act.isReceiver : Act → Bool
  | .eof | .tryRecv | .loadPending | .recvTimeout => true
  | _ => false

namespace State

variable (s : State)

/-- The channel after a send; nothing is sent to a receiver that is gone. -/
def send (m : Option ℕ) : List (Option ℕ) :=
  if s.receiver = .dropped then s.swap else s.swap ++ [m]

/-- The receiver takes a message off the channel: it adopts the connection, or the stream ends. -/
def adopt (m : Option ℕ) (rest : List (Option ℕ)) : State :=
  match m with
  | some c => { s with swap := rest, receiver := .reading, read := c }
  | none => { s with swap := rest, receiver := .over }

def step (s : State) : Act → Option State
  | .arm => if s.sender = .idle then some { s with sender := .armed, swapPending := true } else none
  | .detach =>
    if s.sender = .armed then
      some { s with sender := .attempting reconnectAttempts
                    shut := Function.update s.shut s.current true }
    else none
  | .attempt ok =>
    match s.sender with
    | .attempting (left + 1) =>
      if ok then some { s with sender := .connected, current := s.current + 1 }
      else some { s with sender := .attempting left }
    | _ => none
  | .handOver =>
    if s.sender = .connected then
      if s.receiver = .dropped then some { s with sender := .readerGone }
      else some { s with sender := .handedOver, swap := s.send (some s.current) }
    else none
  | .sendNone =>
    if s.sender = .attempting 0 then
      some { s with sender := .exhausted, swap := s.send none }
    else none
  | .returnOk c =>
    if s.sender = .handedOver ∧ c = s.current then
      some { s with sender := .idle, swapPending := false }
    else none
  | .returnErr =>
    if s.sender = .readerGone ∨ s.sender = .exhausted then
      some { s with sender := .idle, swapPending := false }
    else none
  | .eof =>
    if s.receiver = .reading ∧ s.shut s.read = true then some { s with receiver := .ended }
    else none
  | .tryRecv =>
    if s.receiver = .ended then
      match s.swap with
      | [] => some { s with receiver := .checked }
      | m :: rest => some (s.adopt m rest)
    else none
  | .loadPending =>
    if s.receiver = .checked then
      some { s with receiver := if s.swapPending then .waiting else .over }
    else none
  | .recvTimeout =>
    if s.receiver = .waiting then
      match s.swap with
      | [] => none
      | m :: rest => some (s.adopt m rest)
    else none
  | .drop => if s.receiver = .over then some { s with receiver := .dropped } else none

/-- The stream has ended. -/
def isOver : Prop := s.receiver = .over ∨ s.receiver = .dropped

instance : Decidable s.isOver := inferInstanceAs (Decidable (_ ∨ _))

/-- The last connection handed over, or opened and then given up. -/
def pushed : ℕ :=
  match s.sender with
  | .connected | .readerGone => s.current - 1
  | _ => s.current

end State

/-- The connections in the channel before the first `none`. -/
def ahead : List (Option ℕ) → ℕ
  | some _ :: rest => ahead rest + 1
  | _ => 0

/-- The last connection the receiver can still come to, as far as the channel tells. -/
def reach (s : State) : ℕ := if s.isOver then s.read else s.read + ahead s.swap

/-- Nothing that is sent from now on reaches the receiver. -/
def Doomed (s : State) : Prop := s.isOver ∨ none ∈ s.swap

/-! ### What a step can do -/

/-- The receiver takes the first message of the channel. -/
def Takes (s : State) (a : Act) (t : State) : Prop :=
  (a = .tryRecv ∧ s.receiver = .ended ∨ a = .recvTimeout ∧ s.receiver = .waiting) ∧
    ∃ m rest, s.swap = m :: rest ∧ t = s.adopt m rest

theorem step_receiver {s t : State} {a : Act} (h : s.step a = some t) (ha : a.isReceiver = true) :
    Takes s a t ∨
    (a = .eof ∧ s.receiver = .reading ∧ s.shut s.read = true ∧ t = { s with receiver := .ended }) ∨
    (a = .tryRecv ∧ s.receiver = .ended ∧ s.swap = [] ∧ t = { s with receiver := .checked }) ∨
    (a = .loadPending ∧ s.receiver = .checked ∧
      t = { s with receiver := if s.swapPending then .waiting else .over }) := by
  rcases a with _ | _ | _ | _ | _ | _ | _ | _ | _ | _ | _ | _ <;>
    simp only [State.step] at h <;> try exact absurd ha Bool.false_ne_true
  · split_ifs at h with hc
    cases h
    exact .inr (.inl ⟨rfl, hc.1, hc.2, rfl⟩)
  · split_ifs at h with hc
    rcases hs : s.swap with - | ⟨m, rest⟩
    · simp only [hs, Option.some.injEq] at h
      exact .inr (.inr (.inl ⟨rfl, hc, rfl, h.symm⟩))
    · simp only [hs, Option.some.injEq] at h
      exact .inl ⟨.inl ⟨rfl, hc⟩, m, rest, hs, h.symm⟩
  · by_cases hc : s.receiver = .checked
    · rw [if_pos hc] at h
      cases h
      exact .inr (.inr (.inr ⟨rfl, hc, rfl⟩))
    · rw [if_neg hc] at h
      cases h
  · split_ifs at h with hc
    rcases hs : s.swap with - | ⟨m, rest⟩
    · simp [hs] at h
    · simp only [hs, Option.some.injEq] at h
      exact .inl ⟨.inr ⟨rfl, hc⟩, m, rest, hs, h.symm⟩

/-- What the sender's steps do: each moves it on from one place in `reattach` to the next. -/
theorem step_sender {s t : State} {a : Act} (h : s.step a = some t) (ha : a.isReceiver = false) :
    (a = .arm ∧ s.sender = .idle ∧ t = { s with sender := .armed, swapPending := true }) ∨
    (a = .detach ∧ s.sender = .armed ∧
      t = { s with sender := .attempting reconnectAttempts
                   shut := Function.update s.shut s.current true }) ∨
    (∃ left, a = .attempt false ∧ s.sender = .attempting (left + 1) ∧
      t = { s with sender := .attempting left }) ∨
    (∃ left, a = .attempt true ∧ s.sender = .attempting (left + 1) ∧
      t = { s with sender := .connected, current := s.current + 1 }) ∨
    (a = .handOver ∧ s.sender = .connected ∧ s.receiver = .dropped ∧
      t = { s with sender := .readerGone }) ∨
    (a = .handOver ∧ s.sender = .connected ∧ s.receiver ≠ .dropped ∧
      t = { s with sender := .handedOver, swap := s.swap ++ [some s.current] }) ∨
    (a = .sendNone ∧ s.sender = .attempting 0 ∧
      t = { s with sender := .exhausted, swap := s.send none }) ∨
    (a = .returnOk s.current ∧ s.sender = .handedOver ∧
      t = { s with sender := .idle, swapPending := false }) ∨
    (a = .returnErr ∧ (s.sender = .readerGone ∨ s.sender = .exhausted) ∧
      t = { s with sender := .idle, swapPending := false }) ∨
    (a = .drop ∧ s.receiver = .over ∧ t = { s with receiver := .dropped }) := by
  rcases a with _ | _ | ok | _ | _ | c | _ | _ | _ | _ | _ | _ <;>
    simp only [State.step] at h <;> try exact absurd ha.symm Bool.false_ne_true
  · split_ifs at h with hc
    cases h
    exact .inl ⟨rfl, hc, rfl⟩
  · split_ifs at h with hc
    cases h
    exact .inr (.inl ⟨rfl, hc, rfl⟩)
  · rcases hs : s.sender with _ | _ | left | _ | _ | _ | _ <;> simp only [hs] at h <;>
      try exact absurd h (by simp)
    rcases left with - | left
    · exact absurd h (by simp)
    · rcases ok with - | -
      · cases h
        exact .inr (.inr (.inl ⟨left, rfl, rfl, rfl⟩))
      · cases h
        exact .inr (.inr (.inr (.inl ⟨left, rfl, rfl, rfl⟩)))
  · split_ifs at h with hc hd
    · cases h
      exact .inr (.inr (.inr (.inr (.inl ⟨rfl, hc, hd, rfl⟩))))
    · rw [State.send, if_neg hd] at h
      cases h
      exact .inr (.inr (.inr (.inr (.inr (.inl ⟨rfl, hc, hd, rfl⟩)))))
  · split_ifs at h with hc
    cases h
    exact .inr (.inr (.inr (.inr (.inr (.inr (.inl ⟨rfl, hc, rfl⟩))))))
  · split_ifs at h with hc
    obtain ⟨hs, rfl⟩ := hc
    cases h
    exact .inr (.inr (.inr (.inr (.inr (.inr (.inr (.inl ⟨rfl, hs, rfl⟩)))))))
  · split_ifs at h with hc
    cases h
    exact .inr (.inr (.inr (.inr (.inr (.inr (.inr (.inr (.inl ⟨rfl, hc, rfl⟩))))))))
  · split_ifs at h with hc
    cases h
    exact .inr (.inr (.inr (.inr (.inr (.inr (.inr (.inr (.inr ⟨rfl, hc, rfl⟩))))))))

/-! ### What holds in every run -/

/-- What ties the two threads together. -/
structure Inv (s : State) : Prop where
  pending : s.swapPending = true ↔ s.sender ≠ .idle
  opened : s.sender = .connected ∨ s.sender = .readerGone → 0 < s.current
  /-- every connection before the write half's is shut down -/
  older : ∀ c < s.current, s.shut c = true
  /-- no connection is shut down before it is opened -/
  unopened : ∀ c, s.current < c → s.shut c = false
  ended : s.receiver = .ended ∨ s.receiver = .checked ∨ s.receiver = .waiting →
    s.shut s.read = true
  le : s.read ≤ s.pushed
  /-- the channel holds the connections from the one being read to the last one handed over -/
  order : ¬ s.receiver = .dropped →
    s.swap.reduceOption = List.range' (s.read + 1) (s.pushed - s.read)
  /-- the write half's connection is shut down during a reattach only, or after a failed one -/
  current : s.shut s.current = true → (∃ left, s.sender = .attempting left) ∨ Doomed s
  released : ∀ left, s.sender = .attempting left → s.shut s.current = true
  told : s.sender = .exhausted → Doomed s
  gone : s.sender = .readerGone → s.receiver = .dropped

theorem inv_init : Inv init where
  pending := by simp [init]
  opened := by simp [init]
  older := by simp [init]
  unopened := by simp [init]
  ended := by simp [init]
  le := by simp [init]
  order := by simp [init, State.pushed, List.reduceOption]
  current := by simp [init]
  released := by simp [init]
  told := by simp [init]
  gone := by simp [init]

theorem isOver_adopt_some {s : State} {c : ℕ} {rest : List (Option ℕ)} :
    ¬ (s.adopt (some c) rest).isOver := by
  simp [State.adopt, State.isOver]

theorem isOver_adopt_none {s : State} {rest : List (Option ℕ)} : (s.adopt none rest).isOver :=
  Or.inl rfl

/-- The first connection in the channel is the one after the one being read. -/
theorem Inv.head {s : State} (h : Inv s) (hd : ¬ s.receiver = .dropped) {c : ℕ}
    {rest : List (Option ℕ)} (hs : s.swap = some c :: rest) :
    c = s.read + 1 ∧ c ≤ s.pushed ∧
      rest.reduceOption = List.range' (c + 1) (s.pushed - c) := by
  have ho := h.order hd
  rw [hs, List.reduceOption_cons_of_some] at ho
  rcases hn : s.pushed - s.read with - | n
  · rw [hn] at ho
    exact absurd ho (by simp)
  · rw [hn, List.range'_succ] at ho
    obtain ⟨rfl, hrest⟩ := List.cons.inj ho
    refine ⟨rfl, by omega, ?_⟩
    rw [hrest]
    congr 1
    omega

theorem inv_takes {s t : State} {a : Act} (h : Inv s) (ht : Takes s a t) : Inv t := by
  obtain ⟨hr, m, rest, hs, rfl⟩ := ht
  have hd : ¬ s.receiver = .dropped := by
    rcases hr with ⟨-, hr⟩ | ⟨-, hr⟩ <;> simp [hr]
  have hgone : s.sender ≠ .readerGone := fun hg => hd (h.gone hg)
  rcases m with - | c
  · refine ⟨h.pending, h.opened, h.older, h.unopened, by simp [State.adopt], h.le, fun _ => ?_,
      fun _ => Or.inr (Or.inl isOver_adopt_none), h.released, fun _ => Or.inl isOver_adopt_none,
      fun hg => absurd hg hgone⟩
    have ho := h.order hd
    rw [hs, List.reduceOption_cons_of_none] at ho
    exact ho
  · obtain ⟨hc, hle, hrest⟩ := h.head hd hs
    have hdoom : Doomed s → Doomed (s.adopt (some c) rest) := by
      rintro (ho | hn)
      · rcases hr with ⟨-, hr⟩ | ⟨-, hr⟩ <;> rcases ho with ho | ho <;> simp [hr] at ho
      · rw [hs] at hn
        have hn : none ∈ rest := by simpa using hn
        exact Or.inr hn
    exact ⟨h.pending, h.opened, h.older, h.unopened, by simp [State.adopt], hle, fun _ => hrest,
      fun hc => (h.current hc).imp id hdoom, h.released, fun hx => hdoom (h.told hx),
      fun hg => absurd hg hgone⟩

/-- A receiver that is neither reading on nor over is doomed by a `none` in the channel alone. -/
theorem mem_of_doomed {s : State} (h : Doomed s) (hr : s.receiver ≠ .over)
    (hd : s.receiver ≠ .dropped) : none ∈ s.swap := by
  rcases h with (ho | ho) | hn
  · exact absurd ho hr
  · exact absurd ho hd
  · exact hn

/-- The receiver goes from one of its waits to another, or stops. -/
theorem Inv.goOn {s : State} (h : Inv s) (hr : s.receiver ≠ .over) (hd : s.receiver ≠ .dropped)
    {receiver : Receiver} (hended : receiver = .ended ∨ receiver = .checked ∨ receiver = .waiting →
      s.shut s.read = true) : Inv { s with receiver } := by
  have hdoom : Doomed s → Doomed { s with receiver } :=
    fun hx => Or.inr (mem_of_doomed (s := s) hx hr hd)
  exact ⟨h.pending, h.opened, h.older, h.unopened, hended, h.le, fun _ => h.order hd,
    fun hc => (h.current hc).imp id hdoom, h.released, fun hx => hdoom (h.told hx),
    fun hg => absurd (h.gone hg) hd⟩

theorem inv_receiver {s t : State} {a : Act} (h : Inv s) (ha : a.isReceiver = true)
    (ht : s.step a = some t) : Inv t := by
  obtain ht | ⟨-, hr, hshut, rfl⟩ | ⟨-, hr, -, rfl⟩ | ⟨-, hr, rfl⟩ := step_receiver ht ha
  · exact inv_takes h ht
  · exact h.goOn (by simp [hr]) (by simp [hr]) fun _ => hshut
  · exact h.goOn (by simp [hr]) (by simp [hr]) fun _ => h.ended (Or.inl hr)
  · exact h.goOn (by simp [hr]) (by simp [hr]) fun _ => h.ended (Or.inr (Or.inl hr))

/-- A connection that is not being given up is shut down only if the receiver is doomed. -/
theorem Inv.doomed {s : State} (h : Inv s) (hs : ∀ left, s.sender ≠ .attempting left)
    (hc : s.shut s.current = true) : Doomed s := by
  rcases h.current hc with ⟨left, hl⟩ | hx
  · exact absurd hl (hs left)
  · exact hx

theorem inv_step {s t : State} {a : Act} (h : Inv s) (ht : s.step a = some t) : Inv t := by
  rcases ha : a.isReceiver with - | -
  · obtain ⟨-, hs, rfl⟩ | ⟨-, hs, rfl⟩ | ⟨left, -, hs, rfl⟩ | ⟨left, -, hs, rfl⟩ |
      ⟨-, hs, hr, rfl⟩ | ⟨-, hs, hr, rfl⟩ | ⟨-, hs, rfl⟩ | ⟨-, hs, rfl⟩ | ⟨-, hs, rfl⟩ |
      ⟨-, hr, rfl⟩ := step_sender ht ha
    · have hpushed : s.pushed = s.current := by simp [State.pushed, hs]
      exact ⟨by simp, by simp, h.older, h.unopened, h.ended, hpushed ▸ h.le,
        fun hd => hpushed ▸ h.order hd, fun hc => Or.inr (h.doomed (by simp [hs]) hc), by simp,
        by simp, by simp⟩
    · have hpushed : s.pushed = s.current := by simp [State.pushed, hs]
      have hshut : ∀ c, s.shut c = true → Function.update s.shut s.current true c = true := by
        intro c hc
        by_cases he : c = s.current
        · simp [he]
        · rwa [Function.update_of_ne he]
      refine ⟨by simpa [hs] using h.pending, by simp, fun c hc => hshut c (h.older c hc),
        fun c hc => ?_, fun hr => hshut _ (h.ended hr), hpushed ▸ h.le,
        fun hd => hpushed ▸ h.order hd, fun _ => Or.inl ⟨_, rfl⟩,
        fun _ _ => Function.update_self _ _ _, by simp, by simp⟩
      show Function.update s.shut s.current true c = false
      rw [Function.update_of_ne (Nat.ne_of_gt hc)]
      exact h.unopened c hc
    · have hpushed : s.pushed = s.current := by simp [State.pushed, hs]
      exact ⟨by simpa [hs] using h.pending, by simp, h.older, h.unopened, h.ended, hpushed ▸ h.le,
        fun hd => hpushed ▸ h.order hd, fun _ => Or.inl ⟨_, rfl⟩, fun _ _ => h.released _ hs,
        by simp, by simp⟩
    · have hpushed : s.pushed = s.current := by simp [State.pushed, hs]
      refine ⟨by simpa [hs] using h.pending, fun _ => Nat.succ_pos _, fun c hc => ?_,
        fun c hc => h.unopened c (Nat.lt_of_succ_lt hc), h.ended, hpushed ▸ h.le,
        fun hd => hpushed ▸ h.order hd, fun hc => ?_, by simp, by simp, by simp⟩
      · rcases Nat.lt_succ_iff_lt_or_eq.mp hc with hc | rfl
        · exact h.older c hc
        · exact h.released _ hs
      · have hc : s.shut (s.current + 1) = true := hc
        rw [h.unopened _ (Nat.lt_succ_self s.current)] at hc
        exact absurd hc (by simp)
    · have hpushed : s.pushed = s.current - 1 := by simp [State.pushed, hs]
      have hle : s.read ≤ s.current - 1 := hpushed ▸ h.le
      exact ⟨by simpa [hs] using h.pending, fun _ => h.opened (Or.inl hs), h.older, h.unopened,
        h.ended, hle, fun hd => absurd hr hd, fun _ => Or.inr (Or.inl (Or.inr hr)), by simp,
        by simp, fun _ => hr⟩
    · have hpushed : s.pushed = s.current - 1 := by simp [State.pushed, hs]
      have hpos := h.opened (Or.inl hs)
      have hle := h.le
      have hread : s.read ≤ s.current := by omega
      refine ⟨by simpa [hs] using h.pending, by simp, h.older, h.unopened, h.ended, hread,
        fun hd => ?_, fun hc => Or.inr ?_, by simp, by simp, by simp⟩
      · show (s.swap ++ [some s.current]).reduceOption = List.range' (s.read + 1) (s.current - s.read)
        have hone : s.current - s.read = s.pushed - s.read + 1 := by omega
        have hlast : s.current = s.read + 1 + (s.pushed - s.read) := by omega
        rw [List.reduceOption_append, h.order hr, hone, List.range'_concat]
        simp [List.reduceOption, ← hlast]
      · exact (h.doomed (by simp [hs]) hc).imp id fun hn => List.mem_append_left _ hn
    · have hpushed : s.pushed = s.current := by simp [State.pushed, hs]
      have hdoom : Doomed { s with sender := .exhausted, swap := s.send none } := by
        by_cases hd : s.receiver = .dropped
        · exact Or.inl (Or.inr hd)
        · refine Or.inr ?_
          simp [State.send, hd]
      refine ⟨by simpa [hs] using h.pending, by simp, h.older, h.unopened, h.ended, hpushed ▸ h.le,
        fun hd => ?_, fun _ => Or.inr hdoom, by simp, fun _ => hdoom, by simp⟩
      have ho := h.order hd
      rw [hpushed] at ho
      show (s.send none).reduceOption = List.range' (s.read + 1) (s.current - s.read)
      have hd : ¬ s.receiver = .dropped := hd
      rw [State.send, if_neg hd, List.reduceOption_append, ho]
      simp [List.reduceOption]
    · have hpushed : s.pushed = s.current := by simp [State.pushed, hs]
      exact ⟨by simp, by simp, h.older, h.unopened, h.ended, hpushed ▸ h.le,
        fun hd => hpushed ▸ h.order hd, fun hc => Or.inr (h.doomed (by simp [hs]) hc), by simp,
        by simp, by simp⟩
    · rcases hs with hs | hs
      · have hr := h.gone hs
        have hpushed : s.pushed = s.current - 1 := by simp [State.pushed, hs]
        have hle := h.le
        have hread : s.read ≤ s.current := by omega
        exact ⟨by simp, by simp, h.older, h.unopened, h.ended, hread, fun hd => absurd hr hd,
          fun _ => Or.inr (Or.inl (Or.inr hr)), by simp, by simp, by simp⟩
      · have hpushed : s.pushed = s.current := by simp [State.pushed, hs]
        exact ⟨by simp, by simp, h.older, h.unopened, h.ended, hpushed ▸ h.le,
          fun hd => hpushed ▸ h.order hd, fun _ => Or.inr (h.told hs), by simp, by simp, by simp⟩
    · exact ⟨h.pending, h.opened, h.older, h.unopened, by simp, h.le, by simp,
        fun _ => Or.inr (Or.inl (Or.inr rfl)), h.released, fun _ => Or.inl (Or.inr rfl),
        fun _ => rfl⟩
  · exact inv_receiver h ha ht

theorem inv_run {as : List Act} {s : State} (h : Run (ofFn State.step) init as s) : Inv s :=
  h.invariant (fun _ _ _ hs ht => inv_step hs ht) inv_init

/-! ### How far the receiver can come -/

theorem ahead_le (xs : List (Option ℕ)) : ahead xs ≤ xs.reduceOption.length := by
  induction xs with
  | nil => exact le_rfl
  | cons m xs ih =>
    rcases m with - | c
    · exact Nat.zero_le _
    · rw [List.reduceOption_cons_of_some]
      exact Nat.succ_le_succ ih

theorem ahead_of_no_none {xs : List (Option ℕ)} (h : none ∉ xs) :
    ahead xs = xs.reduceOption.length := by
  induction xs with
  | nil => rfl
  | cons m xs ih =>
    rcases m with - | c
    · simp at h
    · rw [List.reduceOption_cons_of_some]
      exact congrArg Nat.succ (ih fun hn => h (List.mem_cons_of_mem _ hn))

/-- What is sent behind a `none` is out of reach. -/
theorem ahead_append_of_none {xs ys : List (Option ℕ)} (h : none ∈ xs) :
    ahead (xs ++ ys) = ahead xs := by
  induction xs with
  | nil => simp at h
  | cons m xs ih =>
    rcases m with - | c
    · rfl
    · have hn : none ∈ xs := by simpa using h
      exact congrArg Nat.succ (ih hn)

theorem ahead_le_append (xs ys : List (Option ℕ)) : ahead xs ≤ ahead (xs ++ ys) := by
  induction xs with
  | nil => exact Nat.zero_le _
  | cons m xs ih =>
    rcases m with - | c
    · exact le_rfl
    · exact Nat.succ_le_succ ih

theorem read_le_reach (s : State) : s.read ≤ reach s := by
  unfold reach
  split_ifs <;> omega

theorem Inv.reach_le {s : State} (h : Inv s) : reach s ≤ s.pushed := by
  unfold reach
  have hle := h.le
  split_ifs with ho
  · exact hle
  · have hlen := congrArg List.length (h.order fun hd => ho (Or.inr hd))
    rw [List.length_range'] at hlen
    have ha := ahead_le s.swap
    omega

/-- As long as nothing bars the way, the receiver comes to the last connection handed over. -/
theorem Inv.reach_eq {s : State} (h : Inv s) (hd : ¬ Doomed s) : reach s = s.pushed := by
  have ho : ¬ s.isOver := fun ho => hd (Or.inl ho)
  have hlen := congrArg List.length (h.order fun hr => ho (Or.inr hr))
  rw [List.length_range'] at hlen
  have ha := ahead_of_no_none fun hn => hd (Or.inr hn)
  have hle := h.le
  unfold reach
  rw [if_neg ho]
  omega

theorem reach_takes {s t : State} {a : Act} (h : Inv s) (ht : Takes s a t) : reach t = reach s := by
  obtain ⟨hr, m, rest, hs, rfl⟩ := ht
  have ho : ¬ s.isOver := by
    rintro (ho | ho) <;> rcases hr with ⟨-, hr⟩ | ⟨-, hr⟩ <;> simp [ho] at hr
  unfold reach
  rw [if_neg ho, hs]
  rcases m with - | c
  · rw [if_pos isOver_adopt_none]
    rfl
  · obtain ⟨hc, -, -⟩ := h.head (fun hd => ho (Or.inr hd)) hs
    rw [if_neg isOver_adopt_some]
    show c + ahead rest = s.read + (ahead rest + 1)
    omega

/-- The receiver's steps leave its reach as it is, but when it reads a lowered flag. -/
theorem reach_receiver {s t : State} {a : Act} (h : Inv s) (ha : a.isReceiver = true)
    (ht : s.step a = some t) :
    reach t = reach s ∨ a = .loadPending ∧ s.swapPending = false ∧ reach t = s.read ∧ t.isOver := by
  obtain ht | ⟨-, hr, -, rfl⟩ | ⟨-, hr, -, rfl⟩ | ⟨rfl, hr, rfl⟩ := step_receiver ht ha
  · exact Or.inl (reach_takes h ht)
  · exact Or.inl (by simp [reach, State.isOver, hr])
  · exact Or.inl (by simp [reach, State.isOver, hr])
  · rcases hp : s.swapPending with - | -
    · exact Or.inr ⟨rfl, rfl, by simp [reach, State.isOver], by simp [State.isOver]⟩
    · exact Or.inl (by simp [reach, State.isOver, hr])

/-- The sender's steps leave the reach as it is, or extend it if the receiver is not doomed. -/
theorem reach_sender {s t : State} {a : Act} (ha : a.isReceiver = false)
    (ht : s.step a = some t) : reach s ≤ reach t ∧ (Doomed s → reach t = reach s) := by
  have hsend : ∀ (sender : Sender) (m : Option ℕ),
      reach s ≤ reach { s with sender := sender, swap := s.swap ++ [m] } ∧
        (Doomed s → reach { s with sender := sender, swap := s.swap ++ [m] } = reach s) := by
    intro sender m
    by_cases ho : s.isOver
    · have h : reach { s with sender := sender, swap := s.swap ++ [m] } = s.read := if_pos ho
      have h' : reach s = s.read := if_pos ho
      rw [h, h']
      exact ⟨le_rfl, fun _ => rfl⟩
    · have h : reach { s with sender := sender, swap := s.swap ++ [m] } =
          s.read + ahead (s.swap ++ [m]) := if_neg ho
      have h' : reach s = s.read + ahead s.swap := if_neg ho
      refine ⟨by have := ahead_le_append s.swap [m]; omega, fun hd => ?_⟩
      rw [h, h', ahead_append_of_none (hd.resolve_left ho)]
  obtain ⟨-, -, rfl⟩ | ⟨-, -, rfl⟩ | ⟨_, -, -, rfl⟩ | ⟨_, -, -, rfl⟩ | ⟨-, -, -, rfl⟩ |
    ⟨-, -, -, rfl⟩ | ⟨-, -, rfl⟩ | ⟨-, -, rfl⟩ | ⟨-, -, rfl⟩ | ⟨-, hr, rfl⟩ := step_sender ht ha
  · exact ⟨le_rfl, fun _ => rfl⟩
  · exact ⟨le_rfl, fun _ => rfl⟩
  · exact ⟨le_rfl, fun _ => rfl⟩
  · exact ⟨le_rfl, fun _ => rfl⟩
  · exact ⟨le_rfl, fun _ => rfl⟩
  · exact hsend _ _
  · unfold State.send
    split_ifs
    · exact ⟨le_rfl, fun _ => rfl⟩
    · exact hsend _ _
  · exact ⟨le_rfl, fun _ => rfl⟩
  · exact ⟨le_rfl, fun _ => rfl⟩
  · have h : reach { s with receiver := .dropped } = reach s := by simp [reach, State.isOver, hr]
    exact ⟨h.ge, fun _ => h⟩

/-- A receiver that is cut off stays cut off, and comes no further than it could. -/
theorem doomed_step {s t : State} {a : Act} (h : Inv s) (hd : Doomed s) (ht : s.step a = some t) :
    Doomed t ∧ reach t ≤ reach s := by
  rcases ha : a.isReceiver with - | -
  · refine ⟨?_, ((reach_sender ha ht).2 hd).le⟩
    have hsend : ∀ m, none ∈ s.swap → none ∈ s.send m := by
      intro m hn
      unfold State.send
      split_ifs
      · exact hn
      · exact List.mem_append_left _ hn
    obtain ⟨-, -, rfl⟩ | ⟨-, -, rfl⟩ | ⟨_, -, -, rfl⟩ | ⟨_, -, -, rfl⟩ | ⟨-, -, -, rfl⟩ |
      ⟨-, -, -, rfl⟩ | ⟨-, -, rfl⟩ | ⟨-, -, rfl⟩ | ⟨-, -, rfl⟩ | ⟨-, -, rfl⟩ := step_sender ht ha
    · exact hd
    · exact hd
    · exact hd
    · exact hd
    · exact hd
    · exact hd.imp id (List.mem_append_left _)
    · exact hd.imp id (hsend none)
    · exact hd
    · exact hd
    · exact Or.inl (Or.inr rfl)
  · have hle : reach t ≤ reach s := by
      rcases reach_receiver h ha ht with hr | ⟨-, -, hr, -⟩
      · exact hr.le
      · rw [hr]
        exact read_le_reach s
    refine ⟨?_, hle⟩
    obtain ⟨hw, m, rest, hs, rfl⟩ | ⟨-, hr, -, rfl⟩ | ⟨-, hr, -, rfl⟩ | ⟨-, hr, rfl⟩ :=
      step_receiver ht ha
    · have hn : none ∈ s.swap := by
        refine mem_of_doomed hd ?_ ?_ <;> rcases hw with ⟨-, hw⟩ | ⟨-, hw⟩ <;> simp [hw]
      rcases m with - | c
      · exact Or.inl isOver_adopt_none
      · rw [hs] at hn
        have hn : none ∈ rest := by simpa using hn
        exact Or.inr hn
    · have hn : none ∈ s.swap := mem_of_doomed hd (by simp [hr]) (by simp [hr])
      exact Or.inr hn
    · have hn : none ∈ s.swap := mem_of_doomed hd (by simp [hr]) (by simp [hr])
      exact Or.inr hn
    · have hn : none ∈ s.swap := mem_of_doomed hd (by simp [hr]) (by simp [hr])
      exact Or.inr hn

/-- The receiver cuts itself off only by reading a lowered flag. -/
theorem doomed_of_receiver {s t : State} {a : Act} (ha : a.isReceiver = true)
    (ht : s.step a = some t) (hd : Doomed t) :
    Doomed s ∨ a = .loadPending ∧ s.receiver = .checked ∧ s.swapPending = false := by
  obtain ⟨hw, m, rest, hs, rfl⟩ | ⟨-, -, -, rfl⟩ | ⟨-, -, -, rfl⟩ | ⟨rfl, hr, rfl⟩ :=
    step_receiver ht ha
  · refine Or.inl (Or.inr ?_)
    rw [hs]
    rcases m with - | c
    · exact List.mem_cons_self
    · exact List.mem_cons_of_mem _ (hd.resolve_left isOver_adopt_some)
  · exact Or.inl (Or.inr (hd.resolve_left (by simp [State.isOver])))
  · exact Or.inl (Or.inr (hd.resolve_left (by simp [State.isOver])))
  · rcases hp : s.swapPending with - | -
    · exact Or.inr ⟨rfl, hr, rfl⟩
    · exact Or.inl (Or.inr (hd.resolve_left (by simp [State.isOver, hp])))

theorem doomed_run {s t : State} {as : List Act} (hr : Run (ofFn State.step) s as t) (h : Inv s)
    (hd : Doomed s) : reach t ≤ reach s := by
  have hrun : Inv t ∧ Doomed t ∧ reach t ≤ reach s := by
    have hstep : ∀ u a v, (Inv u ∧ Doomed u ∧ reach u ≤ reach s) → ofFn State.step u a v →
        Inv v ∧ Doomed v ∧ reach v ≤ reach s := by
      rintro u a v ⟨hI, hd, hle⟩ ht
      obtain ⟨hd', hle'⟩ := doomed_step hI hd ht
      exact ⟨inv_step hI ht, hd', hle'.trans hle⟩
    exact hr.invariant hstep ⟨h, hd, le_rfl⟩
  exact hrun.2.2

/-! ### What the history tells -/

/-- What the actions done so far say of the state, in every run. -/
structure Told (pre : List Act) (s : State) : Prop where
  /-- a failed reattach cuts the receiver off -/
  failed : .sendNone ∈ pre → Doomed s
  /-- a connection in the channel has been reported, or is about to be -/
  sent : ∀ c, some c ∈ s.swap → .returnOk c ∈ pre ∨ s.sender = .handedOver ∧ c = s.current
  /-- what is handed over to a receiver that is cut off is out of its reach -/
  late : s.sender = .handedOver → Doomed s → reach s < s.current

theorem told_step {pre : List Act} {s t : State} {a : Act} (hI : Inv s) (h : Told pre s)
    (ht : s.step a = some t) : Told (pre ++ [a]) t := by
  have hmem : ∀ {c}, .returnOk c ∈ pre → .returnOk c ∈ pre ++ [a] :=
    fun hc => List.mem_append_left _ hc
  have hfailed : a ≠ .sendNone → .sendNone ∈ pre ++ [a] → Doomed t := by
    intro hne hn
    rw [List.mem_append, List.mem_singleton] at hn
    exact (doomed_step hI (h.failed (hn.resolve_right fun he => hne he.symm)) ht).1
  have hold : ∀ c, some c ∈ s.swap → s.sender ≠ .handedOver → .returnOk c ∈ pre ++ [a] :=
    fun c hc hs => hmem ((h.sent c hc).resolve_right fun hx => hs hx.1)
  rcases ha : a.isReceiver with - | -
  · obtain ⟨rfl, hs, rfl⟩ | ⟨rfl, hs, rfl⟩ | ⟨left, rfl, hs, rfl⟩ | ⟨left, rfl, hs, rfl⟩ |
      ⟨rfl, hs, hr, rfl⟩ | ⟨rfl, hs, hr, rfl⟩ | ⟨rfl, hs, rfl⟩ | ⟨rfl, hs, rfl⟩ | ⟨rfl, hs, rfl⟩ |
      ⟨rfl, hr, rfl⟩ := step_sender ht ha
    · exact ⟨hfailed (by simp), fun c hc => Or.inl (hold c hc (by simp [hs])), by simp⟩
    · exact ⟨hfailed (by simp), fun c hc => Or.inl (hold c hc (by simp [hs])), by simp⟩
    · exact ⟨hfailed (by simp), fun c hc => Or.inl (hold c hc (by simp [hs])), by simp⟩
    · exact ⟨hfailed (by simp), fun c hc => Or.inl (hold c hc (by simp [hs])), by simp⟩
    · exact ⟨hfailed (by simp), fun c hc => Or.inl (hold c hc (by simp [hs])), by simp⟩
    · refine ⟨hfailed (by simp), fun c hc => ?_, fun _ hd => ?_⟩
      · have hc : some c ∈ s.swap ++ [some s.current] := hc
        rw [List.mem_append, List.mem_singleton] at hc
        rcases hc with hc | hc
        · exact Or.inl (hold c hc (by simp [hs]))
        · exact Or.inr ⟨rfl, Option.some.inj hc⟩
      · have hdoom : Doomed s := hd.imp id fun hn => by simpa using hn
        have hreach := (reach_sender ha ht).2 hdoom
        have hle := hI.reach_le
        have hpos := hI.opened (Or.inl hs)
        have hpushed : s.pushed = s.current - 1 := by simp [State.pushed, hs]
        rw [hreach]
        show reach s < s.current
        omega
    · refine ⟨fun _ => (inv_step hI ht).told rfl, fun c hc => ?_, by simp⟩
      have hc : some c ∈ s.send none := hc
      have hc : some c ∈ s.swap := by
        unfold State.send at hc
        split_ifs at hc
        · exact hc
        · simpa using hc
      exact Or.inl (hold c hc (by simp [hs]))
    · refine ⟨hfailed (by simp), fun c hc => Or.inl ?_, by simp⟩
      rcases h.sent c hc with hc | ⟨-, rfl⟩
      · exact hmem hc
      · simp
    · have hne : s.sender ≠ .handedOver := by rcases hs with hs | hs <;> simp [hs]
      exact ⟨hfailed (by simp), fun c hc => Or.inl (hold c hc hne), by simp⟩
    · refine ⟨hfailed (by simp), fun c hc => (h.sent c hc).imp hmem id, fun hs _ => ?_⟩
      rw [(reach_sender ha ht).2 (Or.inl (Or.inl hr))]
      exact h.late hs (Or.inl (Or.inl hr))
  · have hkeep : t.sender = s.sender ∧ t.current = s.current ∧ ∀ m ∈ t.swap, m ∈ s.swap := by
      obtain ⟨-, m, rest, hs, rfl⟩ | ⟨-, -, -, rfl⟩ | ⟨-, -, -, rfl⟩ | ⟨-, -, rfl⟩ :=
        step_receiver ht ha
      · rcases m with - | c <;>
          exact ⟨rfl, rfl, fun m hm => by rw [hs]; exact List.mem_cons_of_mem _ hm⟩
      · exact ⟨rfl, rfl, fun _ hm => hm⟩
      · exact ⟨rfl, rfl, fun _ hm => hm⟩
      · exact ⟨rfl, rfl, fun _ hm => hm⟩
    obtain ⟨hsender, hcurrent, hswap⟩ := hkeep
    have hne : a ≠ .sendNone := by
      rintro rfl
      exact absurd ha Bool.false_ne_true
    refine ⟨hfailed hne, fun c hc => ?_, fun hs hd => ?_⟩
    · rw [hsender, hcurrent]
      exact (h.sent c (hswap _ hc)).imp hmem id
    · have hpending : s.swapPending = true := by
        rw [hI.pending, ← hsender, hs]
        simp
      have hdoom : Doomed s := by
        refine (doomed_of_receiver ha ht hd).resolve_right ?_
        rintro ⟨-, -, hp⟩
        rw [hpending] at hp
        exact absurd hp (by simp)
      have hle := (doomed_step hI hdoom ht).2
      have hlt := h.late (hsender ▸ hs) hdoom
      rw [hcurrent]
      omega

theorem told_run {as : List Act} {s : State} (hr : Run (ofFn State.step) init as s) :
    Told as s := by
  have hstep : ∀ pre s a t, Run (ofFn State.step) init pre s → Told pre s →
      ofFn State.step s a t → Told (pre ++ [a]) t :=
    fun _ _ _ _ hr h ht => told_step (inv_run hr) h ht
  exact hr.history hstep ⟨by simp, by simp [init], by simp [init]⟩

/-! ### Swaps that go through -/

/-- The steps after which every swap goes through: when the receiver, having found the channel
empty, reads the flag, the flag is raised or no connection has come in meanwhile; and no reattach
succeeds after one whose attempts all failed. -/
def Timely (pre : List Act) (s : State) (a : Act) : Prop :=
  (a = .loadPending → s.swapPending = true ∨ s.swap.reduceOption = []) ∧
    ∀ c, a = .returnOk c → .sendNone ∉ pre

/-- After the actions `pre`, the receiver can still adopt every connection that a reattach
reported, or a later one; and the stream has ended only if a reattach failed. -/
structure Kept (pre : List Act) (s : State) : Prop where
  adopts : ∀ c, .returnOk c ∈ pre → ∃ bs t, Run (ofFn State.step) s bs t ∧ c ≤ t.read
  ends : s.isOver → .sendNone ∈ pre

/-- In timely runs the connections reported are within reach, and only a failed reattach cuts the
receiver off. -/
structure Open (pre : List Act) (s : State) : Prop where
  within : ∀ c, .returnOk c ∈ pre → c ≤ reach s
  failed : Doomed s → .sendNone ∈ pre

theorem doomed_of_sender {s t : State} {a : Act} (ha : a.isReceiver = false)
    (ht : s.step a = some t) (hd : Doomed t) : Doomed s ∨ a = .sendNone := by
  obtain ⟨-, -, rfl⟩ | ⟨-, -, rfl⟩ | ⟨_, -, -, rfl⟩ | ⟨_, -, -, rfl⟩ | ⟨-, -, -, rfl⟩ |
    ⟨-, -, -, rfl⟩ | ⟨ha, -, -⟩ | ⟨-, -, rfl⟩ | ⟨-, -, rfl⟩ | ⟨-, hr, rfl⟩ := step_sender ht ha
  · exact Or.inl hd
  · exact Or.inl hd
  · exact Or.inl hd
  · exact Or.inl hd
  · exact Or.inl hd
  · exact Or.inl (hd.imp id fun hn => by simpa using hn)
  · exact Or.inr ha
  · exact Or.inl hd
  · exact Or.inl hd
  · exact Or.inl (Or.inl (Or.inl hr))

/-- A receiver that reads a lowered flag with no connection in the channel was cut off before. -/
theorem Inv.doomed_of_lowered {s : State} (h : Inv s) (hr : s.receiver = .checked)
    (hp : s.swapPending = false) (hs : s.swap.reduceOption = []) : Doomed s := by
  have hidle : s.sender = .idle := by
    by_contra hne
    have hp' := h.pending.mpr hne
    rw [hp] at hp'
    exact absurd hp' (by simp)
  have hpushed : s.pushed = s.current := by simp [State.pushed, hidle]
  have hlen := congrArg List.length (h.order (by simp [hr]))
  rw [hs, List.length_range', List.length_nil] at hlen
  have hle := h.le
  have hread : s.read = s.current := by omega
  have hshut := h.ended (Or.inr (Or.inl hr))
  rw [hread] at hshut
  exact h.doomed (by simp [hidle]) hshut

theorem open_step {pre : List Act} {s t : State} {a : Act} (hI : Inv s) (h : Open pre s)
    (hC : Timely pre s a) (ht : s.step a = some t) : Open (pre ++ [a]) t := by
  rcases ha : a.isReceiver with - | -
  · obtain ⟨hle, -⟩ := reach_sender ha ht
    refine ⟨fun c hc => ?_, fun hd => ?_⟩
    · rw [List.mem_append, List.mem_singleton] at hc
      rcases hc with hc | rfl
      · exact (h.within c hc).trans hle
      · -- no reattach has failed, so the channel is open up to the connection just reported
        have hopen : ¬ Doomed s := fun hd => hC.2 c rfl (h.failed hd)
        have hreach := hI.reach_eq hopen
        obtain ⟨ha, -⟩ | ⟨ha, -⟩ | ⟨_, ha, -⟩ | ⟨_, ha, -⟩ | ⟨ha, -⟩ | ⟨ha, -⟩ | ⟨ha, -⟩ |
          ⟨ha, hs, -⟩ | ⟨ha, -⟩ | ⟨ha, -⟩ := step_sender ht ha <;> cases ha
        have hpushed : s.pushed = s.current := by simp [State.pushed, hs]
        omega
    · rw [List.mem_append, List.mem_singleton]
      exact (doomed_of_sender ha ht hd).imp h.failed Eq.symm
  · have hne : ∀ c, a ≠ .returnOk c := by
      rintro c rfl
      exact absurd ha Bool.false_ne_true
    have hreach : reach t = reach s := by
      rcases reach_receiver hI ha ht with hr | ⟨rfl, hp, hr, -⟩
      · exact hr
      · have hs := (hC.1 rfl).resolve_left (by simp [hp])
        have hahead := ahead_le s.swap
        rw [hs, List.length_nil] at hahead
        rw [hr]
        unfold reach
        split_ifs <;> omega
    refine ⟨fun c hc => ?_, fun hd => ?_⟩
    · rw [List.mem_append, List.mem_singleton] at hc
      rw [hreach]
      exact h.within c (hc.resolve_right fun he => hne c he.symm)
    · have hdoom : Doomed s := by
        rcases doomed_of_receiver ha ht hd with hdoom | ⟨rfl, hr, hp⟩
        · exact hdoom
        · exact hI.doomed_of_lowered hr hp ((hC.1 rfl).resolve_left (by simp [hp]))
      exact List.mem_append_left _ (h.failed hdoom)

theorem open_run {as : List Act} {s : State} (hr : Run (ofFn State.step) init as s)
    (hC : Along (ofFn State.step) Timely init as) : Open as s :=
  hr.history_along (fun _ _ _ _ hr h hC ht => open_step (inv_run hr) h hC ht)
    ⟨by simp, by simp [init, Doomed, State.isOver]⟩ hC

/-! ### The receiver comes to what is within its reach -/

/-- The channel's first connection, while the receiver can come further than where it is. -/
theorem Inv.next {s : State} (h : Inv s) (hlt : s.read < reach s) :
    ¬ s.isOver ∧ ∃ rest, s.swap = some (s.read + 1) :: rest := by
  unfold reach at hlt
  split_ifs at hlt with ho
  · omega
  · refine ⟨ho, ?_⟩
    rcases hs : s.swap with - | ⟨- | c, rest⟩
    · simp [hs, ahead] at hlt
    · simp [hs, ahead] at hlt
    · obtain ⟨rfl, -, -⟩ := h.head (fun hd => ho (Or.inr hd)) hs
      exact ⟨rest, rfl⟩

/-- The connection being read is shut down, while the receiver can come further. -/
theorem Inv.shut_read {s : State} (h : Inv s) (hlt : s.read < reach s) : s.shut s.read = true := by
  have hle := h.reach_le
  have hpushed : s.pushed ≤ s.current := by
    unfold State.pushed
    split <;> omega
  exact h.older _ (by omega)

/-- The receiver gets to where it takes the next connection. -/
theorem Inv.toTake {s : State} (h : Inv s) (hlt : s.read < reach s) :
    ∃ bs t, Run (ofFn State.step) s bs t ∧ (t.receiver = .ended ∨ t.receiver = .waiting) ∧
      t.read = s.read ∧ t.swap = s.swap := by
  obtain ⟨ho, rest, hs⟩ := h.next hlt
  rcases hr : s.receiver with _ | _ | _ | _ | _ | _
  · refine ⟨[.eof], { s with receiver := .ended }, run_singleton_iff.mpr ?_, Or.inl rfl, rfl, rfl⟩
    show s.step .eof = _
    simp [State.step, hr, h.shut_read hlt]
  · exact ⟨[], s, Run.nil s, Or.inl hr, rfl, rfl⟩
  · rcases hp : s.swapPending with - | -
    · -- the flag is lowered, so the sender is idle and can raise it again
      have hidle : s.sender = .idle := by
        by_contra hne
        have hp' := h.pending.mpr hne
        rw [hp] at hp'
        exact absurd hp' (by simp)
      let u : State := { s with sender := .armed, swapPending := true }
      refine ⟨[.arm, .loadPending], { u with receiver := .waiting },
        Run.cons (t := u) ?_ (run_singleton_iff.mpr ?_), Or.inr rfl, rfl, rfl⟩
      · show s.step .arm = _
        simp [State.step, hidle, u]
      · show u.step .loadPending = _
        simp [State.step, hr, u]
    · refine ⟨[.loadPending], { s with receiver := .waiting }, run_singleton_iff.mpr ?_,
        Or.inr rfl, rfl, rfl⟩
      show s.step .loadPending = _
      simp [State.step, hr, hp]
  · exact ⟨[], s, Run.nil s, Or.inr hr, rfl, rfl⟩
  · exact absurd (Or.inl hr) ho
  · exact absurd (Or.inr hr) ho

/-- The receiver adopts any connection within its reach in some continuation. -/
theorem adopts_of_le {s : State} (h : Inv s) {c : ℕ} (hc : c ≤ reach s) :
    ∃ bs t, Run (ofFn State.step) s bs t ∧ c ≤ t.read := by
  -- by induction on how many connections remain to be adopted
  obtain ⟨n, hn⟩ : ∃ n, c - s.read = n := ⟨_, rfl⟩
  induction n generalizing s with
  | zero => exact ⟨[], s, Run.nil s, by omega⟩
  | succ n ih =>
    have hlt : s.read < reach s := by omega
    obtain ⟨ho, rest, hs⟩ := h.next hlt
    obtain ⟨bs, t, hr, hw, hread, hswap⟩ := h.toTake hlt
    let u := t.adopt (some (s.read + 1)) rest
    have htake : ∃ a, Takes t a u ∧ t.step a = some u := by
      have hts : t.swap = some (s.read + 1) :: rest := hswap.trans hs
      rcases hw with hw | hw
      · exact ⟨.tryRecv, ⟨Or.inl ⟨rfl, hw⟩, _, _, hts, rfl⟩, by simp [State.step, hw, hts, u]⟩
      · exact ⟨.recvTimeout, ⟨Or.inr ⟨rfl, hw⟩, _, _, hts, rfl⟩, by simp [State.step, hw, hts, u]⟩
    obtain ⟨a, htake, hstep⟩ := htake
    have hIt : Inv t := hr.invariant (fun _ _ _ hs ht => inv_step hs ht) h
    have hru : Run (ofFn State.step) s (bs ++ [a]) u := hr.concat hstep
    have hto : ¬ t.isOver := by
      rintro (hx | hx) <;> rcases hw with hw | hw <;> simp [hx] at hw
    have hreach : reach u = reach s := by
      rw [reach_takes hIt htake]
      unfold reach
      rw [if_neg hto, if_neg ho, hread, hswap]
    obtain ⟨cs, v, hv, hle⟩ := ih (inv_step hIt hstep) (by omega)
      (by show c - (s.read + 1) = n; omega)
    exact ⟨bs ++ [a] ++ cs, v, run_append_iff.mpr ⟨u, hru, hv⟩, hle⟩

theorem kept_of_open {pre : List Act} {s : State} (hI : Inv s) (h : Open pre s) : Kept pre s :=
  ⟨fun c hc => adopts_of_le hI (h.within c hc), fun ho => h.failed (Or.inl ho)⟩

/-- A step that is not timely leaves a reported connection out of reach. -/
theorem not_kept_of_late {pre : List Act} {s t : State} {a : Act}
    (hr : Run (ofFn State.step) init pre s) (ht : s.step a = some t) (hC : ¬ Timely pre s a) :
    ¬ Kept (pre ++ [a]) t := by
  have hI := inv_run hr
  have htold := told_run hr
  -- a connection reported and a doomed receiver that does not reach it
  have hlost : ∀ c, .returnOk c ∈ pre ++ [a] → Doomed t → reach t < c → ¬ Kept (pre ++ [a]) t := by
    intro c hc hd hlt hk
    obtain ⟨bs, v, hv, hle⟩ := hk.adopts c hc
    have hrv := doomed_run hv (inv_step hI ht) hd
    have hread := read_le_reach v
    omega
  unfold Timely at hC
  rw [not_and_or] at hC
  rcases hC with hC | hC
  · have ha : a = .loadPending := by
      by_contra hne
      exact hC fun h => absurd h hne
    subst ha
    have hp : s.swapPending = false := by
      by_contra hp
      exact hC fun _ => Or.inl (by simpa using hp)
    have hs : s.swap.reduceOption ≠ [] := fun hs => hC fun _ => Or.inr hs
    obtain ⟨c, hc⟩ := List.exists_mem_of_ne_nil _ hs
    obtain ⟨hchecked, rfl⟩ : s.receiver = .checked ∧ t = { s with receiver := .over } := by
      obtain ⟨⟨ha, -⟩ | ⟨ha, -⟩, -⟩ | ⟨ha, -⟩ | ⟨ha, -⟩ | ⟨-, hr, ht⟩ := step_receiver ht rfl
      · cases ha
      · cases ha
      · cases ha
      · cases ha
      · exact ⟨hr, by simpa [hp] using ht⟩
    have hlt : s.read < c := by
      rw [hI.order (by simp [hchecked]), List.mem_range'_1] at hc
      omega
    have hret : .returnOk c ∈ pre := by
      refine (htold.sent c (List.reduceOption_mem_iff.mp hc)).resolve_right ?_
      rintro ⟨hs, -⟩
      have hp' := hI.pending.mpr (by simp [hs])
      rw [hp] at hp'
      exact absurd hp' (by simp)
    exact hlost c (List.mem_append_left _ hret) (Or.inl (Or.inl rfl)) hlt
  · push Not at hC
    obtain ⟨c, rfl, hfail⟩ := hC
    obtain ⟨ha, -⟩ | ⟨ha, -⟩ | ⟨_, ha, -⟩ | ⟨_, ha, -⟩ | ⟨ha, -⟩ | ⟨ha, -⟩ | ⟨ha, -⟩ |
      ⟨ha, hs, rfl⟩ | ⟨ha, -⟩ | ⟨ha, -⟩ := step_sender ht rfl <;> cases ha
    have hd := htold.failed hfail
    exact hlost _ (by simp) hd (htold.late hs hd)

/-! ### In order, and in time -/

/-- The receiver adopts the connections one after the other, in the order they were opened. -/
theorem read_step {s t : State} {a : Act} (h : Inv s) (ht : s.step a = some t) :
    t.read = s.read ∨ t.read = s.read + 1 := by
  rcases ha : a.isReceiver with - | -
  · obtain ⟨-, -, rfl⟩ | ⟨-, -, rfl⟩ | ⟨_, -, -, rfl⟩ | ⟨_, -, -, rfl⟩ | ⟨-, -, -, rfl⟩ |
      ⟨-, -, -, rfl⟩ | ⟨-, -, rfl⟩ | ⟨-, -, rfl⟩ | ⟨-, -, rfl⟩ | ⟨-, -, rfl⟩ :=
      step_sender ht ha <;> exact Or.inl rfl
  · obtain ⟨hw, m, rest, hs, rfl⟩ | ⟨-, -, -, rfl⟩ | ⟨-, -, -, rfl⟩ | ⟨-, -, rfl⟩ :=
      step_receiver ht ha
    · rcases m with - | c
      · exact Or.inl rfl
      · have hd : ¬ s.receiver = .dropped := by
          rcases hw with ⟨-, hw⟩ | ⟨-, hw⟩ <;> simp [hw]
        exact Or.inr (h.head hd hs).1
    · exact Or.inl rfl
    · exact Or.inl rfl
    · exact Or.inl rfl

/-- How far the receiver is in taking the next connection. -/
def stage : Receiver → ℕ
  | .ended => 1
  | .checked => 2
  | .waiting => 3
  | _ => 0

/-- The receiver's steps to connection `c`, at most. -/
def lag (c : ℕ) (s : State) : ℕ := 4 * (c - s.read) - stage s.receiver

theorem stage_le (r : Receiver) : stage r ≤ 3 := by
  rcases r <;> simp [stage]

/-- A step of the receiver that stays in reach of `c` brings it nearer to it. -/
theorem lag_receiver {s t : State} {a : Act} {c : ℕ} (h : Inv s) (ha : a.isReceiver = true)
    (ht : s.step a = some t) (hlt : s.read < c) (hc : c ≤ reach t) : lag c t + 1 ≤ lag c s := by
  obtain ⟨hw, m, rest, hs, rfl⟩ | ⟨-, hr, -, rfl⟩ | ⟨-, hr, -, rfl⟩ | ⟨-, hr, rfl⟩ :=
    step_receiver ht ha
  · rcases m with - | d
    · have hreach : reach (s.adopt none rest) = s.read := if_pos isOver_adopt_none
      omega
    · have hd : ¬ s.receiver = .dropped := by
        rcases hw with ⟨-, hw⟩ | ⟨-, hw⟩ <;> simp [hw]
      obtain ⟨hnext, -, -⟩ := h.head hd hs
      have hst := stage_le s.receiver
      show 4 * (c - d) - 0 + 1 ≤ 4 * (c - s.read) - stage s.receiver
      omega
  · unfold lag
    rw [hr]
    simp only [stage]
    omega
  · unfold lag
    rw [hr]
    simp only [stage]
    omega
  · rcases hp : s.swapPending with - | -
    · have hreach : reach { s with receiver := if s.swapPending then .waiting else .over } =
          s.read := by simp [reach, State.isOver, hp]
      omega
    · unfold lag
      rw [hr]
      simp only [if_true, stage]
      omega

theorem lag_sender {s t : State} {a : Act} {c : ℕ} (ha : a.isReceiver = false)
    (ht : s.step a = some t) : lag c t = lag c s := by
  obtain ⟨-, -, rfl⟩ | ⟨-, -, rfl⟩ | ⟨_, -, -, rfl⟩ | ⟨_, -, -, rfl⟩ | ⟨-, -, -, rfl⟩ |
    ⟨-, -, -, rfl⟩ | ⟨-, -, rfl⟩ | ⟨-, -, rfl⟩ | ⟨-, -, rfl⟩ | ⟨-, hr, rfl⟩ := step_sender ht ha
  all_goals first | rfl | simp [lag, stage, hr]

/-- In timely runs the receiver comes to a connection that was reported within `lag` of its own
steps. -/
theorem adopted_within {pre post : List Act} {s t : State} {c : ℕ}
    (hr : Run (ofFn State.step) init pre s) (hrt : Run (ofFn State.step) s post t)
    (hC : Along (ofFn State.step) Timely init (pre ++ post)) (hc : .returnOk c ∈ pre)
    (hlag : lag c s ≤ post.countP Act.isReceiver) : c ≤ t.read := by
  have hstep : c ≤ t.read ∨ lag c t + post.countP Act.isReceiver ≤ lag c s := by
    clear hlag
    induction post using List.reverseRecOn generalizing t with
    | nil =>
      rw [← run_nil_iff.mp hrt]
      exact Or.inr le_rfl
    | append_singleton post a ih =>
      obtain ⟨u, hu, ha⟩ := run_append_iff.mp hrt
      have hut : u.step a = some t := run_singleton_iff.mp ha
      rw [← List.append_assoc] at hC
      have hru := run_append_iff.mpr ⟨s, hr, hu⟩
      have hI := inv_run hru
      rcases ih hu hC.left with hle | hle
      · rcases read_step hI hut with he | he <;> exact Or.inl (by omega)
      · by_cases hlt : u.read < c
        · refine Or.inr ?_
          rw [List.countP_append, List.countP_singleton]
          rcases hb : a.isReceiver with - | -
          · rw [lag_sender hb hut]
            simpa using hle
          · have hwithin := (open_run (run_append_iff.mpr ⟨u, hru, ha⟩) hC).within c
              (List.mem_append_left _ (List.mem_append_left _ hc))
            have hnear := lag_receiver hI hb hut hlt hwithin
            simp only [if_true]
            omega
        · rcases read_step hI hut with he | he <;> exact Or.inl (by omega)
  rcases hstep with hle | hle
  · exact hle
  · by_contra hlt
    have hst := stage_le t.receiver
    have hpos : lag c t = 0 := by omega
    unfold lag at hpos
    omega

/-- In timely runs the receiver is not stuck before it adopts a connection that was reported. -/
theorem receiver_enabled {pre : List Act} {s : State} {c : ℕ} (hI : Inv s) (h : Open pre s)
    (hc : .returnOk c ∈ pre) (hlt : s.read < c) :
    ∃ a, a.isReceiver = true ∧ (s.step a).isSome = true := by
  have hread : s.read < reach s := by have := h.within c hc; omega
  obtain ⟨ho, rest, hs⟩ := hI.next hread
  rcases hr : s.receiver with _ | _ | _ | _ | _ | _
  · exact ⟨.eof, rfl, by simp [State.step, hr, hI.shut_read hread]⟩
  · exact ⟨.tryRecv, rfl, by simp [State.step, hr, hs]⟩
  · exact ⟨.loadPending, rfl, by simp [State.step, hr]⟩
  · exact ⟨.recvTimeout, rfl, by simp [State.step, hr, hs]⟩
  · exact absurd (Or.inl hr) ho
  · exact absurd (Or.inr hr) ho

/-- **A swap that is reported goes through in exactly the timely runs.** There the receiver is never
stuck before it adopts the connection, and does so within `lag` of its own steps; and in every run
it adopts the connections in the order they were opened. -/
theorem kept_iff {as : List Act} {s : State} (hr : Run (ofFn State.step) init as s) :
    (Along (ofFn State.step) Timely init as ↔
      ∀ pre post u, as = pre ++ post → Run (ofFn State.step) init pre u → Kept pre u) ∧
    (Along (ofFn State.step) Timely init as →
      ∀ pre post u v c, as = pre ++ post → Run (ofFn State.step) init pre u →
        Run (ofFn State.step) u post v → .returnOk c ∈ pre →
          (u.read < c → ∃ a, a.isReceiver = true ∧ (u.step a).isSome = true) ∧
          (lag c u ≤ post.countP Act.isReceiver → c ≤ v.read)) ∧
    ∀ pre a post u v, as = pre ++ a :: post → Run (ofFn State.step) init pre u →
      u.step a = some v → v.read = u.read ∨ v.read = u.read + 1 := by
  refine ⟨⟨?_, ?_⟩, ?_, ?_⟩
  · rintro hC pre post u rfl hu
    exact kept_of_open (inv_run hu) (open_run hu hC.left)
  · intro h pre a post u he hu
    by_contra hC
    obtain ⟨v, hv, -⟩ := run_cons_iff.mp (hr.split he hu)
    have hpost : as = (pre ++ [a]) ++ post := by simp [he]
    exact not_kept_of_late hu hv hC
      (h (pre ++ [a]) post v hpost (hu.concat hv))
  · rintro hC pre post u v c rfl hu hv hc
    exact ⟨receiver_enabled (inv_run hu) (open_run hu hC.left) hc, adopted_within hu hv hC hc⟩
  · intro pre a post u v _ hu hv
    exact read_step (inv_run hu) hv

/-- A swap the receiver takes no part in until the new connection is there. -/
theorem kept_iff_swap :
    ∃ s, Run (ofFn State.step) init [.arm, .detach, .attempt true, .handOver, .returnOk 1] s ∧
      (Along (ofFn State.step) Timely init
          [.arm, .detach, .attempt true, .handOver, .returnOk 1] ↔
        ∀ pre post u, [.arm, .detach, .attempt true, .handOver, .returnOk 1] = pre ++ post →
          Run (ofFn State.step) init pre u → Kept pre u) := by
  have hr : ∃ s, Run (ofFn State.step) init
      [.arm, .detach, .attempt true, .handOver, .returnOk 1] s :=
    ⟨_, Run.cons rfl (Run.cons rfl (Run.cons rfl (Run.cons rfl (Run.cons rfl (Run.nil _)))))⟩
  obtain ⟨s, hr⟩ := hr
  exact ⟨s, hr, (kept_iff hr).1⟩

/-- The receiver finds the channel empty, the reattach hands its connection over and returns, and
then the receiver reads the lowered flag: the stream ends, though no reattach failed. -/
theorem swap_lost :
    let as : List Act := [.arm, .detach, .eof, .tryRecv, .attempt true, .handOver, .returnOk 1,
      .loadPending]
    ∃ s, Run (ofFn State.step) init as s ∧ .returnOk 1 ∈ as ∧ .sendNone ∉ as ∧ s.isOver ∧
      ¬ ∃ bs t, Run (ofFn State.step) s bs t ∧ 1 ≤ t.read := by
  intro as
  have hr : ∃ s, Run (ofFn State.step) init as s ∧ s.isOver ∧ s.read = 0 :=
    ⟨_, Run.cons rfl (Run.cons rfl (Run.cons rfl (Run.cons rfl (Run.cons rfl (Run.cons rfl
      (Run.cons rfl (Run.cons rfl (Run.nil _)))))))), Or.inl rfl, rfl⟩
  obtain ⟨s, hr, ho, hread⟩ := hr
  refine ⟨s, hr, by simp [as], by simp [as], ho, ?_⟩
  rintro ⟨bs, t, ht, hle⟩
  have hreach : reach s = s.read := if_pos ho
  have h := doomed_run ht (inv_run hr) (Or.inl ho)
  have hle' := read_le_reach t
  omega

end MuxrCore.Herdr.Swap
