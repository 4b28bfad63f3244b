import Mathlib.Logic.Function.Basic

/-! # Unbounded channels

A family of unbounded channels: what each one holds, or `none` once its receiver is gone. Sending
appends at the end, and fails on a closed channel without any effect. -/

namespace MuxrCore.Lib.Channel

variable {ι μ : Type*} [DecidableEq ι]

/-- What each channel holds, oldest first; `none` for a channel whose receiver is gone. -/
abbrev Channels (ι μ : Type*) := ι → Option (List μ)

/-- Send `m` on channel `c`: the channels afterwards, and whether the send succeeded. -/
def send (ch : Channels ι μ) (c : ι) (m : μ) : Channels ι μ × Bool :=
  match ch c with
  | none => (ch, false)
  | some q => (Function.update ch c (some (q ++ [m])), true)

/-- Between `ch` and `ch'`, channel `c` received `m` and nothing else. -/
def Received (ch ch' : Channels ι μ) (c : ι) (m : μ) : Prop :=
  ∃ q, ch c = some q ∧ ch' c = some (q ++ [m])

theorem send_closed {ch : Channels ι μ} {c : ι} (h : ch c = none) (m : μ) :
    send ch c m = (ch, false) := by
  simp [send, h]

theorem send_open {ch : Channels ι μ} {c : ι} {q : List μ} (h : ch c = some q) (m : μ) :
    send ch c m = (Function.update ch c (some (q ++ [m])), true) := by
  simp [send, h]

omit [DecidableEq ι] in
theorem not_received_refl (ch : Channels ι μ) (c : ι) (m : μ) : ¬ Received ch ch c m := by
  rintro ⟨q, h, h'⟩
  rw [h] at h'
  simp at h'

/-- A successful send is received by the channel it was sent on, and by no other. -/
theorem received_update {ch : Channels ι μ} {c d : ι} {q : List μ} (h : ch c = some q) (m : μ) :
    Received ch (Function.update ch c (some (q ++ [m]))) d m ↔ d = c := by
  constructor
  · rintro ⟨q', h1, h2⟩
    by_contra hd
    rw [Function.update_of_ne hd, h1] at h2
    simp at h2
  · rintro rfl
    exact ⟨q, h, by simp⟩

end MuxrCore.Lib.Channel
