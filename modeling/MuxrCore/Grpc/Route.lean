import MuxrCore.Multiplexer.Routing
import MuxrCore.Relay.Control

/-! # Routing a command to a relay

`tryRouteControl` sends a command to the relay the caller names, or, for a read-write caller of a
session that is not collapsed, to the first writable relay of the session. It answers an
acknowledgement, or nothing, and then the caller runs the action by itself, on the whole session.

The registry is read first and the channels are written later, so the two are separate arguments:
a relay may close its channel between the lookup and the send.

* `route_cases`: everything the function can do.
* `route_isolated`: who can receive a command.
* `answered_iff`: when a read-only caller, or a caller of a collapsed session, gets an answer. -/

namespace MuxrCore.Grpc.Route

open MuxrCore.Lib.Channel MuxrCore.Multiplexer.Routing MuxrCore.Relay.Control

/-- The acknowledgement of an action RPC. -/
structure ProtoAck where
  ok : Bool
  error : String
  info : String
  deriving DecidableEq, Repr

/-- The command channels of the relays. -/
abbrev RelayChannels := Channels ChannelId RelayControl

/-- The answer for a routed command. -/
def routed (info : String) : ProtoAck := ⟨true, "", info⟩

def perConnectionInfo : String := "routed via relay client (per-connection)"

def fallbackInfo : String := "routed via relay client (session fallback, writable)"

/-- The fail-closed answer: nothing was queued. -/
def reattachRequired : ProtoAck := ⟨false, "reattach required (no matching connection)", ""⟩

/-- The channel of the relay the caller names, if it is attached to the session. -/
def exactMatch (control : ControlRegistry) (session connectionId : String) : Option ChannelId :=
  if connectionId ≠ "" then
    ((control.get connectionId).filter fun entry => entry.session = session).map (·.sender)
  else none

/-- Send the command, and answer nothing if the relay is gone. -/
def sendOrNone (ch : RelayChannels) (tx : ChannelId) (cmd : RelayControl) (info : String) :
    Option ProtoAck × RelayChannels :=
  match send ch tx cmd with
  | (ch', true) => (some (routed info), ch')
  | (ch', false) => (none, ch')

/-- Route a command to a live relay. -/
def tryRouteControl (control : ControlRegistry) (session connectionId : String) (readOnly : Bool)
    (cmd : RelayControl) (ch : RelayChannels) : Option ProtoAck × RelayChannels :=
  let exact := exactMatch control session connectionId
  if isCollapsedBackendSession session then
    match exact with
    | some tx =>
      match send ch tx cmd with
      | (ch', true) => (some (routed perConnectionInfo), ch')
      | (ch', false) => (some reattachRequired, ch')
    | none => (some reattachRequired, ch)
  else
    match exact with
    | some tx => sendOrNone ch tx cmd perConnectionInfo
    | none =>
      if readOnly then (some reattachRequired, ch)
      else
        match control.find fun entry => entry.session = session && !entry.readOnly with
        | some entry => sendOrNone ch entry.sender cmd fallbackInfo
        | none => (none, ch)

/-! ### What the function can do -/

theorem exactMatch_eq_some {control : ControlRegistry} {session connectionId : String}
    {tx : ChannelId} : exactMatch control session connectionId = some tx ↔
      connectionId ≠ "" ∧ ∃ e, control.get connectionId = some e ∧ e.session = session ∧
        e.sender = tx := by
  unfold exactMatch
  by_cases hc : connectionId = ""
  · simp [hc]
  · simp only [ne_eq, hc, not_false_eq_true, if_true, true_and, Option.map_eq_some_iff,
      Option.filter_eq_some_iff, decide_eq_true_eq, and_assoc]

theorem sendOrNone_cases (ch : RelayChannels) (tx : ChannelId) (cmd : RelayControl)
    (info : String) :
    (ch tx = none ∧ sendOrNone ch tx cmd info = (none, ch)) ∨
      ∃ q, ch tx = some q ∧ sendOrNone ch tx cmd info =
        (some (routed info), Function.update ch tx (some (q ++ [cmd]))) := by
  cases h : ch tx with
  | none => exact Or.inl ⟨rfl, by simp [sendOrNone, send_closed h]⟩
  | some q => exact Or.inr ⟨q, rfl, by simp [sendOrNone, send_open h]⟩

/-- The relay registered under `k` may be sent a command of this caller: it is the caller's own
connection, or a writable relay of a session that is not collapsed, for a read-write caller. -/
def MayReceive (session connectionId : String) (readOnly : Bool) (k : String) (e : ControlEntry) :
    Prop :=
  e.session = session ∧ ((k = connectionId ∧ connectionId ≠ "") ∨
    (e.readOnly = false ∧ readOnly = false ∧ isCollapsedBackendSession session = false))

variable {control : ControlRegistry} {session connectionId : String} {readOnly : Bool}
  {cmd : RelayControl} {ch : RelayChannels}

/-- **Everything the function can do**: leave the channels alone, without an acknowledgement or
with the fail-closed one; or acknowledge and send the command to one relay that may receive it. -/
theorem route_cases :
    let r := tryRouteControl control session connectionId readOnly cmd ch
    (r = (none, ch) ∨ r = (some reattachRequired, ch)) ∨
      ∃ k e q info, control.get k = some e ∧ MayReceive session connectionId readOnly k e ∧
        ch e.sender = some q ∧
        r = (some (routed info), Function.update ch e.sender (some (q ++ [cmd]))) := by
  intro r
  show (r = _ ∨ r = _) ∨ _
  have hr : r = tryRouteControl control session connectionId readOnly cmd ch := rfl
  unfold tryRouteControl at hr
  cases hx : exactMatch control session connectionId with
  | some tx =>
    obtain ⟨hne, e, he, hs, rfl⟩ := exactMatch_eq_some.mp hx
    have hmay : MayReceive session connectionId readOnly connectionId e :=
      ⟨hs, Or.inl ⟨rfl, hne⟩⟩
    cases hq : ch e.sender with
    | none =>
      left
      by_cases hc : isCollapsedBackendSession session = true
      · right; simpa [hx, hc, send_closed hq] using hr
      · left; simpa [hx, hc, sendOrNone, send_closed hq] using hr
    | some q =>
      right
      refine ⟨connectionId, e, q, perConnectionInfo, he, hmay, hq, ?_⟩
      by_cases hc : isCollapsedBackendSession session = true
      · simpa [hx, hc, send_open hq] using hr
      · simpa [hx, hc, sendOrNone, send_open hq] using hr
  | none =>
    by_cases hc : isCollapsedBackendSession session = true
    · left; right; simpa [hx, hc] using hr
    by_cases hro : readOnly = true
    · left; right; simpa [hx, hc, hro] using hr
    cases hf : control.find fun entry => entry.session = session && !entry.readOnly with
    | none => left; left; simpa [hx, hc, hro, hf] using hr
    | some e =>
      -- the session fallback: only a read-write caller of a session that is not collapsed gets here
      obtain ⟨hp, k, hk⟩ := control.get_of_find hf
      simp only [Bool.and_eq_true, decide_eq_true_eq, Bool.not_eq_eq_eq_not, Bool.not_true] at hp
      have hr' : r = sendOrNone ch e.sender cmd fallbackInfo := by
        simpa [hx, hc, hro, hf] using hr
      rcases sendOrNone_cases ch e.sender cmd fallbackInfo with ⟨-, h⟩ | ⟨q, hq, h⟩
      · left; left; rw [hr', h]
      · right
        have hmay : MayReceive session connectionId readOnly k e :=
          ⟨hp.1, Or.inr ⟨hp.2, by simpa using hro, by simpa using hc⟩⟩
        exact ⟨k, e, q, fallbackInfo, hk, hmay, hq, by rw [hr', h]⟩

/-! ### Isolation -/

/-- The relay registered under `k` received the command. -/
def Delivered (control : ControlRegistry) (ch ch' : RelayChannels) (cmd : RelayControl)
    (k : String) (e : ControlEntry) : Prop :=
  control.get k = some e ∧ Received ch ch' e.sender cmd

/-- A command sent to the relay registered under `k₀` is received by that relay, and by no other:
each relay has a channel of its own. -/
theorem delivered_iff {k₀ k : String} {e₀ e : ControlEntry} {q : List RelayControl}
    (hk₀ : control.get k₀ = some e₀) (hq : ch e₀.sender = some q) :
    Delivered control ch (Function.update ch e₀.sender (some (q ++ [cmd]))) cmd k e ↔
      k = k₀ ∧ e = e₀ := by
  unfold Delivered
  rw [received_update hq]
  constructor
  · rintro ⟨hk, hs⟩
    have hkk : k = k₀ := control.own k k₀ e e₀ hk hk₀ hs
    subst hkk
    exact ⟨rfl, Option.some.inj (hk.symm.trans hk₀)⟩
  · rintro ⟨rfl, rfl⟩
    exact ⟨hk₀, rfl⟩

/-- **Control-routing isolation.** The answer is `ok` exactly when a relay received the command; at
most one relay does, and nothing else is sent. The recipient is attached to the request's session;
for a collapsed session or a read-only caller it is the caller's own connection; a relay that is
not the caller's own is read-write, and then the caller is read-write and the session not
collapsed. -/
theorem route_isolated (control : ControlRegistry) (session connectionId : String)
    (readOnly : Bool) (cmd : RelayControl) (ch : RelayChannels) :
    let r := tryRouteControl control session connectionId readOnly cmd ch
    ((∃ a, r.1 = some a ∧ a.ok = true) ↔ ∃ k e, Delivered control ch r.2 cmd k e) ∧
    (∀ k e k' e', Delivered control ch r.2 cmd k e → Delivered control ch r.2 cmd k' e' →
      k = k') ∧
    (∀ c, r.2 c = ch c ∨ Received ch r.2 c cmd ∧ ∃ k e, control.get k = some e ∧ e.sender = c) ∧
    (∀ k e, Delivered control ch r.2 cmd k e →
      e.session = session ∧
      (isCollapsedBackendSession session = true ∨ readOnly = true →
        k = connectionId ∧ connectionId ≠ "") ∧
      (k ≠ connectionId →
        e.readOnly = false ∧ readOnly = false ∧ isCollapsedBackendSession session = false)) := by
  intro r
  rcases @route_cases control session connectionId readOnly cmd ch with
    h | ⟨k₀, e₀, q, info, hk₀, hmay, hq, h⟩
  · -- nothing is sent
    have hch : r.2 = ch := by
      rcases h with h | h <;> exact congrArg Prod.snd h
    have hno : ∀ k e, ¬ Delivered control ch r.2 cmd k e := by
      intro k e hd
      rw [hch] at hd
      exact not_received_refl ch e.sender cmd hd.2
    refine ⟨⟨?_, ?_⟩, ?_, ?_, ?_⟩
    · rintro ⟨a, ha, hok⟩
      have ha' : (tryRouteControl control session connectionId readOnly cmd ch).1 = some a := ha
      rcases h with h | h
      · rw [h] at ha'; cases ha'
      · rw [h] at ha'; cases ha'; cases hok
    · rintro ⟨k, e, hd⟩; exact absurd hd (hno k e)
    · exact fun k e k' e' hd => absurd hd (hno k e)
    · exact fun c => Or.inl (by rw [hch])
    · exact fun k e hd => absurd hd (hno k e)
  · have hch : r.2 = Function.update ch e₀.sender (some (q ++ [cmd])) := congrArg Prod.snd h
    have hack : r.1 = some (routed info) := congrArg Prod.fst h
    have hone : ∀ k e, Delivered control ch r.2 cmd k e ↔ k = k₀ ∧ e = e₀ := by
      intro k e
      rw [hch]
      exact delivered_iff hk₀ hq
    refine ⟨⟨fun _ => ⟨k₀, e₀, (hone k₀ e₀).mpr ⟨rfl, rfl⟩⟩, fun _ => ⟨_, hack, rfl⟩⟩, ?_, ?_, ?_⟩
    · intro k e k' e' hd hd'
      rw [((hone k e).mp hd).1, ((hone k' e').mp hd').1]
    · intro c
      by_cases hc : c = e₀.sender
      · subst hc
        exact Or.inr ⟨((hone k₀ e₀).mpr ⟨rfl, rfl⟩).2, k₀, e₀, hk₀, rfl⟩
      · left; rw [hch, Function.update_of_ne hc]
    · intro k e hd
      obtain ⟨rfl, rfl⟩ := (hone k e).mp hd
      obtain ⟨hs, hmay⟩ := hmay
      refine ⟨hs, fun hcr => ?_, fun hne => ?_⟩
      · rcases hmay with hmay | ⟨-, hro, hc⟩
        · exact hmay
        · rcases hcr with hcr | hcr
          · rw [hc] at hcr; cases hcr
          · rw [hro] at hcr; cases hcr
      · rcases hmay with ⟨hk, -⟩ | hmay
        · exact absurd hk hne
        · exact hmay

/-! ### Answers -/

/-- **A read-only caller, or a caller of a collapsed session, gets an answer**, except when a
read-only caller of a session that is not collapsed names its own relay and that relay's channel is
closed by the time of the send. -/
theorem answered_iff (control : ControlRegistry) (session connectionId : String)
    (readOnly : Bool) (cmd : RelayControl) (ch : RelayChannels) :
    (readOnly = true ∨ isCollapsedBackendSession session = true →
        (tryRouteControl control session connectionId readOnly cmd ch).1 ≠ none) ↔
      ¬ (readOnly = true ∧ isCollapsedBackendSession session = false ∧ connectionId ≠ "" ∧
        ∃ e, control.get connectionId = some e ∧ e.session = session ∧ ch e.sender = none) := by
  constructor
  · rintro h ⟨hro, hc, hne, e, he, hs, hq⟩
    refine h (Or.inl hro) ?_
    have hx : exactMatch control session connectionId = some e.sender :=
      exactMatch_eq_some.mpr ⟨hne, e, he, hs, rfl⟩
    simp [tryRouteControl, hx, hc, sendOrNone, send_closed hq]
  · intro h hcr hnone
    by_cases hc : isCollapsedBackendSession session = true
    · -- every branch of the collapsed arm acknowledges
      unfold tryRouteControl at hnone
      cases hx : exactMatch control session connectionId with
      | none => simp [hx, hc] at hnone
      | some tx => cases hq : ch tx <;> simp [hx, hc, send, hq] at hnone
    · have hro : readOnly = true := hcr.resolve_right hc
      unfold tryRouteControl at hnone
      cases hx : exactMatch control session connectionId with
      | none => simp [hx, hc, hro] at hnone
      | some tx =>
        obtain ⟨hne, e, he, hs, rfl⟩ := exactMatch_eq_some.mp hx
        cases hq : ch e.sender with
        | none => exact h ⟨hro, by simpa using hc, hne, e, he, hs, hq⟩
        | some q => simp [hx, hc, sendOrNone, send_open hq] at hnone

/-- One read-only relay of a zellij session, on channel `0`. -/
def oneViewer : ControlRegistry :=
  ControlRegistry.empty.insert "conn-1" ⟨"zellij:dev", 0, true⟩ fun k e h => by
    simp [ControlRegistry.get, ControlRegistry.empty] at h

/-- A read-only caller whose own relay has just closed its channel gets no answer. -/
theorem viewer_unanswered :
    ¬ ∀ (control : ControlRegistry) (session connectionId : String) (readOnly : Bool)
      (cmd : RelayControl) (ch : RelayChannels),
        readOnly = true ∨ isCollapsedBackendSession session = true →
          (tryRouteControl control session connectionId readOnly cmd ch).1 ≠ none := by
  intro h
  exact h oneViewer "zellij:dev" "conn-1" true (.switchTab 7) (fun _ => none) (Or.inl rfl) (by rfl)

end MuxrCore.Grpc.Route
