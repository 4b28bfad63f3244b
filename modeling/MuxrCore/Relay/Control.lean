import Mathlib.Data.List.AList
import MuxrCore.Lib.Channel

/-! # The control registry

Every attached relay listens on a command channel of its own. The registry holds, by connection id,
the session the relay is attached to, its channel, and whether it was opened read-only.

`ControlRegistry` carries the fact that no two entries share a channel; `insert`, which registers a
relay on a fresh channel, and `remove` keep it. -/

namespace MuxrCore.Relay.Control

/-- A command channel, and the reply channel of one command. -/
abbrev ChannelId := ℕ

abbrev ReplyId := ℕ

/-- A pane of a session. -/
structure PaneRef where
  id : ℕ
  isPlugin : Bool
  deriving DecidableEq, Repr

/-- The client's own account of the floating state of a toggle's target. -/
structure FloatingHint where
  targetIsFloating : Bool
  floatingVisible : Bool
  targetIsFocusedFloating : Bool
  deriving DecidableEq, Repr

/-- A command routed to a live relay. -/
inductive RelayControl
  | switchTab (tabId : ℕ)
  | focusPane (pane : PaneRef)
  | switchSpace (workspaceId : String) (reply : ReplyId)
  | toggleFullscreen (pane : PaneRef) (hint : Option FloatingHint) (reply : Option ReplyId)
  | queryLayout (reply : ReplyId)
  deriving DecidableEq, Repr

/-- One attached relay: the session id its client named, its channel, and its tier. -/
structure ControlEntry where
  session : String
  sender : ChannelId
  readOnly : Bool
  deriving DecidableEq, Repr

/-- **The registry**: the relays by connection id, in some iteration order, each on a channel of
its own. -/
structure ControlRegistry where
  entries : AList fun _ : String => ControlEntry
  own : ∀ k k' e e', entries.lookup k = some e → entries.lookup k' = some e' →
    e.sender = e'.sender → k = k'

namespace ControlRegistry

variable (control : ControlRegistry)

/-- The relay registered under a connection id. -/
def get (connectionId : String) : Option ControlEntry := control.entries.lookup connectionId

/-- The first relay, in iteration order, that satisfies `p`. -/
def find (p : ControlEntry → Bool) : Option ControlEntry :=
  (control.entries.entries.find? fun kv => p kv.2).map Sigma.snd

theorem get_of_find {p : ControlEntry → Bool} {e : ControlEntry} (h : control.find p = some e) :
    p e = true ∧ ∃ k, control.get k = some e := by
  obtain ⟨kv, hkv, rfl⟩ := Option.map_eq_some_iff.mp h
  have hp := List.find?_some hkv
  exact ⟨hp, kv.1, AList.mem_lookup_iff.mpr (List.mem_of_find?_eq_some hkv)⟩

/-- No relay is attached. -/
def empty : ControlRegistry := ⟨∅, fun k k' e e' h => by simp at h⟩

/-- Register a relay on a channel no other entry uses. -/
def insert (connectionId : String) (entry : ControlEntry)
    (fresh : ∀ k e, control.get k = some e → e.sender ≠ entry.sender) : ControlRegistry where
  entries := control.entries.insert connectionId entry
  own k k' e e' h h' he := by
    by_cases hk : k = connectionId <;> by_cases hk' : k' = connectionId
    · rw [hk, hk']
    · subst hk
      rw [AList.lookup_insert] at h
      rw [AList.lookup_insert_ne hk'] at h'
      cases h
      exact absurd he.symm (fresh k' e' h')
    · subst hk'
      rw [AList.lookup_insert] at h'
      rw [AList.lookup_insert_ne hk] at h
      cases h'
      exact absurd he (fresh k e h)
    · rw [AList.lookup_insert_ne hk] at h
      rw [AList.lookup_insert_ne hk'] at h'
      exact control.own k k' e e' h h' he

/-- Forget a relay. -/
def remove (connectionId : String) : ControlRegistry where
  entries := control.entries.erase connectionId
  own k k' e e' h h' he := by
    have key : ∀ j x, (control.entries.erase connectionId).lookup j = some x →
        control.entries.lookup j = some x := by
      intro j x hj
      by_cases hjc : j = connectionId
      · subst hjc; simp at hj
      · rwa [AList.lookup_erase_ne hjc] at hj
    exact control.own k k' e e' (key k e h) (key k' e' h') he

theorem get_empty (k : String) : empty.get k = none := rfl

theorem get_insert {connectionId : String} {entry : ControlEntry}
    {fresh : ∀ k e, control.get k = some e → e.sender ≠ entry.sender} {k : String} :
    (control.insert connectionId entry fresh).get k =
      if k = connectionId then some entry else control.get k := by
  split_ifs with hk
  · subst hk
    exact AList.lookup_insert _
  · exact AList.lookup_insert_ne hk

theorem get_remove {connectionId k : String} :
    (control.remove connectionId).get k = if k = connectionId then none else control.get k := by
  split_ifs with hk
  · subst hk
    exact AList.lookup_erase _ _
  · exact AList.lookup_erase_ne hk

end ControlRegistry

end MuxrCore.Relay.Control
