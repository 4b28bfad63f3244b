import MuxrCore.Grpc.SpaceOps
import MuxrCore.Relay.Inbound

/-! # Re-pointing the caller of a close

A close takes workspaces away, and a relay that shows one of them is left with a dead stream. After
an acknowledged close the handler lists what remains, and if the caller's relay shows the space that
the request names, it routes a `SwitchSpace` to that relay. A group close removes more spaces than
the named one, and the relay may show any of them.

* `removed_iff`: the removed spaces are the ones the backend says for the same listing.
* `closeSpaceImpl_cases`: the two things a close does to the relays.
* `keepsCaller_iff`: when the caller is not left with a removed space. -/

namespace MuxrCore.Grpc.Repoint

open MuxrCore.Lib.Channel MuxrCore.Lib.Rpc MuxrCore.Grpc.Route MuxrCore.Grpc.SpaceOps
open MuxrCore.Herdr.Api MuxrCore.Herdr.Backend MuxrCore.Relay.Control MuxrCore.Relay.View
open MuxrCore.Relay.Inbound (OpOutcome Answers Attached Loop)

/-- What is known of the attached relays: where to reach them, and what each of them shows. -/
structure Hub where
  control : ControlRegistry
  channels : RelayChannels
  viewState : String → Option ViewStateEntry

/-- The space a connection is viewing, if it is known. -/
def connectionCurrentSpace (viewState : String → Option ViewStateEntry)
    (session connectionId : String) : Option String :=
  match connectionSpace viewState session connectionId with
  | .space id => some id
  | .unknown | .daemonActive => none

/-- The relay that a switch of spaces is routed to: the connection's own, and no other. -/
def resolveSpaceRelay (control : ControlRegistry) (session connectionId : String) :
    Option ChannelId :=
  exactMatch control session connectionId

/-- The active space, or else the first. -/
def pickRepointTarget (spaces : List SpaceSnapshot) : Option String :=
  ((spaces.find? (·.active)).or spaces.head?).map (·.id)

/-- A relay's entry after a switch to the space. -/
def switchedView (target : String) (op : OpOutcome) (entry : ViewStateEntry) :
    Option ViewStateEntry :=
  match op with
  | .ok => some { entry with state := ⟨none, none, some target⟩ }
  | .failed _ => some entry
  | .panicked => none

/-- This is what the relay's loop does with the command. -/
theorem applyControl_switchSpace (r : Attached) (loop : Loop) (answers : Answers)
    (entry : ViewStateEntry) (target : String) (reply : ReplyId)
    (h : loop.view = some entry.state) :
    (loop.applyControl r answers (.switchSpace target reply)).loop.view =
      (switchedView target answers.op entry).map (·.state) := by
  rcases ho : answers.op with - | cause | - <;>
    simp [Loop.applyControl, Loop.updateView, Loop.close, switchedView, ho, h]

/-- Route a switch to the caller's relay, which takes it up as `op` says. -/
def repointCallerAfterClose (hub : Hub) (session connectionId : String) (target : Option String)
    (reply : ReplyId) (op : OpOutcome) : Hub :=
  match resolveSpaceRelay hub.control session connectionId with
  | none => hub
  | some sender =>
    match target with
    | none => hub
    | some target =>
      match send hub.channels sender (.switchSpace target reply) with
      | (_, false) => hub
      | (channels, true) =>
        { hub with
          channels
          viewState := Function.update hub.viewState connectionId
            ((hub.viewState connectionId).bind (switchedView target op)) }

/-- What the daemon answers to the calls of one close. -/
structure DaemonAnswers where
  counted : Except String (List WorkspaceInfo)
  /-- asked for a group close only -/
  group : Except String (List WorkspaceInfo)
  close : Except String ActionAck
  remaining : Except String (List WorkspaceInfo)

/-- The call up to the answer of the close. -/
def progress (spaceId : String) (closeGroup : Bool) (answers : DaemonAnswers) : Phase :=
  let call := SpaceCall.closeSpace spaceId closeGroup
  onClose call answers.close (onList call answers.group (onList call answers.counted .listing))

/-- **A close**: its answer, and the relays afterwards. -/
def closeSpaceImpl (hub : Hub) (session connectionId spaceId : String) (closeGroup : Bool)
    (answers : DaemonAnswers) (reply : ReplyId) (op : OpOutcome) : Phase × Hub :=
  match progress spaceId closeGroup answers with
  | .reporting removals =>
    let remaining := answers.remaining.toOption.map fun ws => ws.map spaceFromWorkspace
    let phase := onList (.closeSpace spaceId closeGroup) answers.remaining (.reporting removals)
    if connectionCurrentSpace hub.viewState session connectionId = some spaceId then
      (phase, repointCallerAfterClose hub session connectionId
        (remaining.bind pickRepointTarget) reply op)
    else (phase, hub)
  | phase => (phase, hub)

/-! ### What a close removes -/

/-- The close takes the space away. -/
def Removed (atClose : List WorkspaceInfo) (spaceId : String) (closeGroup : Bool) (id : String) :
    Prop :=
  ∃ w ∈ atClose, w.workspaceId = id ∧ removes atClose spaceId closeGroup w = true

/-- The close leaves the space. -/
def Survives (atClose : List WorkspaceInfo) (spaceId : String) (closeGroup : Bool) (id : String) :
    Prop :=
  ∃ w ∈ closeWorkspace atClose spaceId closeGroup, w.workspaceId = id

variable {atClose remaining : List WorkspaceInfo} {spaceId : String} {closeGroup : Bool}

/-- **The removed spaces** are what the backend reads off the listing, for a space that is there. -/
theorem removed_iff (hids : DistinctIds atClose) (hspace : ∃ w ∈ atClose, w.workspaceId = spaceId)
    (id : String) : Removed atClose spaceId closeGroup id ↔
      id ∈ spacesRemovedByWorkspaceClose atClose spaceId closeGroup := by
  obtain ⟨target, ht, hid⟩ := hspace
  have hnamed : Removed atClose spaceId closeGroup spaceId :=
    ⟨target, ht, hid, (removes_iff hids ht).mpr (Or.inl hid)⟩
  have hsingle : (∀ w ∈ atClose, removes atClose spaceId closeGroup w = true ↔
      w.workspaceId = spaceId) →
      (Removed atClose spaceId closeGroup id ↔ id ∈ [spaceId]) := by
    intro h
    rw [List.mem_singleton]
    constructor
    · rintro ⟨w, hw, rfl, hr⟩
      exact (h w hw).mp hr
    · rintro rfl
      exact hnamed
  unfold spacesRemovedByWorkspaceClose
  rcases closeGroup with - | -
  · exact hsingle fun w _ => by simp [removes]
  · rcases hk : groupKey atClose spaceId with - | key
    · exact hsingle fun w _ => by simp [removes, hk]
    · have hcount : ((atClose.filter (sharesKey key)).map (·.workspaceId)).length =
          atClose.countP (sharesKey key) := by
        rw [List.length_map, List.countP_eq_length_filter]
      simp only [Bool.not_true, Bool.false_eq_true, if_false, hcount]
      by_cases htwo : 2 ≤ atClose.countP (sharesKey key)
      · rw [if_pos htwo, List.mem_map]
        simp only [Removed, removes, hk, if_true, if_pos htwo, List.mem_filter]
        constructor
        · rintro ⟨w, hw, hwid, hshare⟩
          exact ⟨w, ⟨hw, hshare⟩, hwid⟩
        · rintro ⟨w, ⟨hw, hshare⟩, hwid⟩
          exact ⟨w, hw, hwid, hshare⟩
      · rw [if_neg htwo]
        exact hsingle fun w _ => by simp [removes, hk, htwo]

/-- A surviving space is not the named one. -/
theorem Survives.ne (hids : DistinctIds atClose) {id : String}
    (h : Survives atClose spaceId closeGroup id) : id ≠ spaceId := by
  rintro rfl
  obtain ⟨w, hw, hid⟩ := h
  obtain ⟨hw, hspared⟩ := List.mem_filter.mp hw
  rw [(removes_iff hids hw).mpr (Or.inl hid)] at hspared
  exact absurd hspared (by decide)

/-- Without other clients the spaces that remain are none of the removed. -/
theorem not_removed_of_closeWorkspace (hids : DistinctIds atClose) {w : WorkspaceInfo}
    (hw : w ∈ closeWorkspace atClose spaceId closeGroup) :
    ¬ Removed atClose spaceId closeGroup w.workspaceId := by
  obtain ⟨hw, hspared⟩ := List.mem_filter.mp hw
  rintro ⟨v, hv, hid, hr⟩
  rw [hids.eq_of_id hv hw hid] at hr
  rw [hr] at hspared
  exact absurd hspared (by decide)

/-! ### What a close does to the relays -/

variable {hub : Hub} {session connectionId target : String} {answers : DaemonAnswers}
  {reply : ReplyId} {op : OpOutcome} {removals : List String}

theorem connectionCurrentSpace_eq_some {viewState : String → Option ViewStateEntry} {id : String} :
    connectionCurrentSpace viewState session connectionId = some id ↔
      connectionId ≠ "" ∧ ∃ entry, viewState connectionId = some entry ∧
        entry.session = session ∧ entry.state.currentSpace = some id := by
  unfold connectionCurrentSpace connectionSpace
  by_cases hc : connectionId = ""
  · simp [hc]
  · rcases hv : viewState connectionId with - | entry
    · simp [hc]
    · by_cases hsession : entry.session = session
      · rcases hspace : entry.state.currentSpace with - | space <;>
          simp [hc, Option.filter, hsession, hspace]
      · simp [hc, Option.filter, hsession]

/-- Where there is a space, there is one to re-point to. -/
theorem pickRepointTarget_listed (hne : remaining ≠ []) :
    ∃ w ∈ remaining, pickRepointTarget (remaining.map spaceFromWorkspace) =
      some w.workspaceId := by
  have hpicked : ((remaining.map spaceFromWorkspace).find? (·.active)).or
      (remaining.map spaceFromWorkspace).head? ≠ none := by
    rw [ne_eq, Option.or_eq_none_iff, List.head?_eq_none_iff, List.map_eq_nil_iff]
    exact fun h => hne h.2
  obtain ⟨space, hspace⟩ := Option.ne_none_iff_exists'.mp hpicked
  have hmem : space ∈ remaining.map spaceFromWorkspace := by
    rcases Option.or_eq_some_iff.mp hspace with hfind | ⟨-, hhead⟩
    · exact List.mem_of_find?_eq_some hfind
    · exact List.mem_of_head? hhead
  obtain ⟨w, hw, rfl⟩ := List.mem_map.mp hmem
  exact ⟨w, hw, by rw [pickRepointTarget, hspace]; rfl⟩

/-- The caller's relay is there, and takes up a switch. -/
def Accepts (hub : Hub) (session connectionId : String) (op : OpOutcome) : Prop :=
  ∃ sender queue, resolveSpaceRelay hub.control session connectionId = some sender ∧
    hub.channels sender = some queue ∧ op = .ok

/-- The hub with the caller's relay switched to the space. -/
def Hub.switched (hub : Hub) (connectionId target : String) (sender : ChannelId)
    (queue : List RelayControl) (reply : ReplyId) : Hub :=
  { hub with
    channels := Function.update hub.channels sender (some (queue ++ [.switchSpace target reply]))
    viewState := Function.update hub.viewState connectionId
      ((hub.viewState connectionId).bind (switchedView target .ok)) }

/-- **What a close does to the relays**: nothing, unless the caller's own relay shows the named
space; then that relay is switched to a space of the listing. -/
theorem closeSpaceImpl_cases (reply : ReplyId)
    (hdone : progress spaceId closeGroup answers = .reporting removals)
    (hlist : answers.remaining = .ok remaining) (hne : remaining ≠ [])
    (haccept : connectionCurrentSpace hub.viewState session connectionId = some spaceId →
      Accepts hub session connectionId op) :
    (connectionCurrentSpace hub.viewState session connectionId ≠ some spaceId ∧
      (closeSpaceImpl hub session connectionId spaceId closeGroup answers reply op).2 = hub) ∨
    connectionCurrentSpace hub.viewState session connectionId = some spaceId ∧
      ∃ w ∈ remaining, ∃ entry queue, hub.control.get connectionId = some entry ∧
        hub.channels entry.sender = some queue ∧
        (closeSpaceImpl hub session connectionId spaceId closeGroup answers reply op).2 =
          hub.switched connectionId w.workspaceId entry.sender queue reply := by
  by_cases hview : connectionCurrentSpace hub.viewState session connectionId = some spaceId
  · right
    obtain ⟨sender, queue, hrelay, hqueue, rfl⟩ := haccept hview
    obtain ⟨w, hw, hpick⟩ := pickRepointTarget_listed hne
    obtain ⟨-, entry, hentry, -, rfl⟩ := exactMatch_eq_some.mp hrelay
    refine ⟨hview, w, hw, entry, queue, hentry, hqueue, ?_⟩
    simp only [closeSpaceImpl, hdone, hview, if_true, hlist, Except.toOption, Option.map_some,
      Option.bind_some, hpick, repointCallerAfterClose, hrelay, send_open hqueue]
    rfl
  · left
    refine ⟨hview, ?_⟩
    simp only [closeSpaceImpl, hdone, hview, if_false]

/-- A switched connection views the new space. -/
theorem connectionCurrentSpace_switched {id : String} {sender : ChannelId}
    {queue : List RelayControl}
    (hview : connectionCurrentSpace hub.viewState session connectionId = some id) :
    connectionCurrentSpace (hub.switched connectionId target sender queue reply).viewState session
      connectionId = some target := by
  obtain ⟨hne, entry, hentry, hsession, -⟩ := connectionCurrentSpace_eq_some.mp hview
  refine connectionCurrentSpace_eq_some.mpr ⟨hne, { entry with state := ⟨none, none, some target⟩ },
    ?_, hsession, rfl⟩
  simp only [Hub.switched, Function.update_self, hentry, Option.bind_some, switchedView]

/-! ### The caller -/

/-- **The caller is not stranded**: afterwards it is viewing no removed space; it is switched to a
listed space only, and not at all if its space survives; no other relay is reached. -/
structure KeepsCaller (hub after : Hub) (session connectionId spaceId : String) (closeGroup : Bool)
    (atClose remaining : List WorkspaceInfo) : Prop where
  not_stranded : ∀ id, connectionCurrentSpace after.viewState session connectionId = some id →
    ¬ Removed atClose spaceId closeGroup id
  listed : ∀ tx target reply, Received hub.channels after.channels tx (.switchSpace target reply) →
    ∃ w ∈ remaining, w.workspaceId = target
  unmoved : ∀ id, connectionCurrentSpace hub.viewState session connectionId = some id →
    Survives atClose spaceId closeGroup id → after = hub
  others : ∀ k entry, hub.control.get k = some entry → k ≠ connectionId →
    after.channels entry.sender = hub.channels entry.sender ∧ after.viewState k = hub.viewState k

/-- Where the relays are left alone, the caller is not stranded unless it was viewing a removed space.
The named one it was not. -/
theorem keepsCaller_refl
    (hview : connectionCurrentSpace hub.viewState session connectionId ≠ some spaceId) :
    KeepsCaller hub hub session connectionId spaceId closeGroup atClose remaining ↔
      ∀ id, connectionCurrentSpace hub.viewState session connectionId = some id →
        Removed atClose spaceId closeGroup id → id = spaceId := by
  constructor
  · exact fun h id hid hr => absurd hr (h.not_stranded id hid)
  · intro h
    exact {
      not_stranded := fun id hid hr => hview (by rw [hid, h id hid hr])
      listed := fun tx target reply hrec => absurd hrec (not_received_refl _ _ _)
      unmoved := fun _ _ _ => rfl
      others := fun _ _ _ _ => ⟨rfl, rfl⟩ }

/-- A switched relay has received the one command. -/
theorem received_switched {sender tx : ChannelId} {queue : List RelayControl} {target' : String}
    {reply' : ReplyId} (hqueue : hub.channels sender = some queue)
    (h : Received hub.channels (hub.switched connectionId target sender queue reply).channels tx
      (.switchSpace target' reply')) : target' = target := by
  obtain ⟨q, hq, hq'⟩ := h
  by_cases htx : tx = sender
  · subst htx
    simp only [Hub.switched, Function.update_self, Option.some.injEq] at hq'
    rw [hqueue, Option.some.injEq] at hq
    subst hq
    have hlast := List.append_cancel_left hq'
    simp only [List.cons.injEq, RelayControl.switchSpace.injEq, and_true] at hlast
    exact hlast.1.symm
  · simp [Hub.switched, Function.update_of_ne htx, hq] at hq'

/-- A caller that was viewing the named space, and is switched to a listed one, is not stranded. -/
theorem keepsCaller_switched (hids : DistinctIds atClose) {w : WorkspaceInfo} (hw : w ∈ remaining)
    (hgone : ¬ Removed atClose spaceId closeGroup w.workspaceId) {entry : ControlEntry}
    {queue : List RelayControl}
    (hview : connectionCurrentSpace hub.viewState session connectionId = some spaceId)
    (hentry : hub.control.get connectionId = some entry)
    (hqueue : hub.channels entry.sender = some queue) :
    KeepsCaller hub (hub.switched connectionId w.workspaceId entry.sender queue reply) session
      connectionId spaceId closeGroup atClose remaining where
  not_stranded id hid := by
    rw [connectionCurrentSpace_switched hview, Option.some.injEq] at hid
    rwa [← hid]
  listed tx target' reply' hrec := ⟨w, hw, (received_switched hqueue hrec).symm⟩
  unmoved id hid hsurvives := by
    rw [hview, Option.some.injEq] at hid
    exact absurd hid.symm (hsurvives.ne hids)
  others k entry' hk hkne := by
    refine ⟨Function.update_of_ne (fun hsame => hkne ?_) _ _, Function.update_of_ne hkne _ _⟩
    exact hub.control.own k connectionId entry' entry hk hentry hsame

/-- **When a close strands its caller**: exactly when that is viewing a removed space which the
request does not name. -/
theorem keepsCaller_iff (hids : DistinctIds atClose)
    (hdone : progress spaceId closeGroup answers = .reporting removals)
    (hlist : answers.remaining = .ok remaining) (hne : remaining ≠ [])
    (hgone : ∀ w ∈ remaining, ¬ Removed atClose spaceId closeGroup w.workspaceId)
    (haccept : connectionCurrentSpace hub.viewState session connectionId = some spaceId →
      Accepts hub session connectionId op) :
    KeepsCaller hub (closeSpaceImpl hub session connectionId spaceId closeGroup answers reply op).2
        session connectionId spaceId closeGroup atClose remaining ↔
      ∀ id, connectionCurrentSpace hub.viewState session connectionId = some id →
        Removed atClose spaceId closeGroup id → id = spaceId := by
  rcases closeSpaceImpl_cases reply hdone hlist hne haccept with
    ⟨hview, hsame⟩ | ⟨hview, w, hw, entry, queue, hentry, hqueue, hswitched⟩
  · rw [hsame]
    exact keepsCaller_refl hview
  · rw [hswitched]
    refine iff_of_true (keepsCaller_switched hids hw (hgone w hw) hview hentry hqueue)
      fun id hid _ => ?_
    rw [hview, Option.some.injEq] at hid
    exact hid.symm

/-- One relay, which shows the space. -/
def viewing (space : String) : Hub where
  control := ControlRegistry.empty.insert "conn" ⟨"herdr:herdr", 0, false⟩ fun k e h => by
    simp [ControlRegistry.get, ControlRegistry.empty] at h
  channels tx := if tx = 0 then some [] else none
  viewState k := if k = "conn" then some ⟨"herdr:herdr", ⟨none, none, some space⟩⟩ else none

theorem accepts_viewing (space : String) : Accepts (viewing space) "herdr:herdr" "conn" .ok := by
  refine ⟨0, [], ?_, rfl, rfl⟩
  refine exactMatch_eq_some.mpr ⟨by decide, ⟨"herdr:herdr", 0, false⟩, ?_, rfl, rfl⟩
  exact AList.lookup_insert _

/-- A primary, its linked worktree, and a space of its own. -/
def threeSpaces : List WorkspaceInfo := groupPair ++ [lone "c"]

/-- The group is closed. -/
def groupClosed : DaemonAnswers :=
  ⟨.ok threeSpaces, .ok threeSpaces, .ok ⟨true, none, none⟩,
    .ok (closeWorkspace threeSpaces "a" true)⟩

theorem distinctIds_threeSpaces : DistinctIds threeSpaces := by
  unfold DistinctIds
  decide

/-- The caller shows the named space, and is switched. -/
theorem keepsCaller_iff_named :
    KeepsCaller (viewing "a")
      (closeSpaceImpl (viewing "a") "herdr:herdr" "conn" "a" true groupClosed 0 .ok).2
      "herdr:herdr" "conn" "a" true threeSpaces (closeWorkspace threeSpaces "a" true) := by
  have hdone : progress "a" true groupClosed = .reporting ["a", "b"] := rfl
  refine (keepsCaller_iff distinctIds_threeSpaces hdone rfl (by decide)
    (fun w hw => not_removed_of_closeWorkspace distinctIds_threeSpaces hw)
    fun _ => accepts_viewing "a").mpr fun id hid _ => ?_
  have hview : connectionCurrentSpace (viewing "a").viewState "herdr:herdr" "conn" = some "a" := rfl
  rw [hview, Option.some.injEq] at hid
  exact hid.symm

/-- The caller shows the linked worktree, which the group close takes along. -/
theorem group_member_is_stranded :
    progress "a" true groupClosed = .reporting ["a", "b"] ∧
    Accepts (viewing "b") "herdr:herdr" "conn" .ok ∧
    ¬ KeepsCaller (viewing "b")
      (closeSpaceImpl (viewing "b") "herdr:herdr" "conn" "a" true groupClosed 0 .ok).2
      "herdr:herdr" "conn" "a" true threeSpaces (closeWorkspace threeSpaces "a" true) := by
  refine ⟨rfl, accepts_viewing "b", fun h => h.not_stranded "b" rfl ?_⟩
  exact ⟨⟨"b", "fix", false, "b:t1", some ⟨"repo", true⟩⟩, by simp [threeSpaces, groupPair], rfl,
    rfl⟩

end MuxrCore.Grpc.Repoint
