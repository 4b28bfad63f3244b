import MuxrCore.Grpc.Route
import MuxrCore.Herdr.Backend
import MuxrCore.Lib.Runs
import MuxrCore.Relay.View

/-! # Closing a space

`CloseSpace` counts the daemon's spaces, asks for a group close which of them would go, compares the
two, and closes; `KillSession` does the same for one session with a single listing. Each of these is
a call of its own to the daemon, and between them other clients create and close spaces.

`World` is the daemon's workspaces with the handler's progress; `World.close` is herdr's own removal
rule. The guard compares numbers from two listings.

* `removes_iff`: what a close removes.
* `spared_of_guard`: the guard, on one listing, leaves a workspace that the close spares.
* `guarded_keeps_space`: a close that is admitted leaves a workspace if the count of the first
  listing refuses whatever that of the second would. -/

namespace MuxrCore.Grpc.SpaceOps

open MuxrCore.Lib.Rpc MuxrCore.Lib.Runs MuxrCore.Grpc.Route MuxrCore.Herdr.Api
open MuxrCore.Herdr.Backend MuxrCore.Relay.View

/-- The longest space id, in bytes. -/
def maxSpaceIdLen : ℕ := 128

/-- A space id is a bounded token of the characters of herdr's ids. -/
def validateSpaceId (spaceId : String) : Except Status Unit :=
  if spaceId.isEmpty then .error (.invalidArgument "space_id must not be empty")
  else if spaceId.utf8ByteSize > maxSpaceIdLen then
    .error (.invalidArgument s!"space_id too long (max {maxSpaceIdLen} bytes)")
  else if !spaceId.toList.all fun c => c.isAlphanum || c == '_' || c == '-' || c == '.' || c == ':'
  then .error (.invalidArgument
    "invalid space_id: only [A-Za-z0-9_-.:] characters are allowed")
  else .ok ()

/-- What is known of the space a connection is viewing. -/
inductive ConnectionSpace
  | unknown
  | daemonActive
  | space (id : String)
  deriving DecidableEq, Repr

/-- The tracked view of one relay, with the session the relay is attached to. -/
structure ViewStateEntry where
  session : String
  state : RelayViewState
  deriving DecidableEq, Repr

/-- The space a connection is viewing, by its exact id. -/
def connectionSpace (viewState : String → Option ViewStateEntry) (session connectionId : String) :
    ConnectionSpace :=
  if connectionId = "" then .unknown
  else match (viewState connectionId).filter (·.session = session) with
    | none => .unknown
    | some entry => entry.state.currentSpace.elim .daemonActive .space

/-! ### The guards -/

def wouldCloseLastSpace (count : ℕ) : Bool := count ≤ 1

def wouldCloseEverySpace (count removed : ℕ) : Bool := removed ≥ count

/-- What a close removed, in words. -/
def describeRemoved : List String → String
  | [] => ""
  | [one] => s!"closed 1 space: {one}"
  | many => s!"closed {many.length} spaces as a worktree group: " ++ ", ".intercalate many

/-- Why a close is refused, if it is. -/
def closeRefusal (closeGroup : Bool) (spaceCount : ℕ) (removals : List String) : Option String :=
  if closeGroup then
    if wouldCloseEverySpace spaceCount removals.length then
      some (s!"cannot close this group: it covers all {spaceCount} space(s) on this daemon, " ++
        "which would leave none")
    else none
  else if wouldCloseLastSpace spaceCount then some "cannot close the last space" else none

/-! ### The handlers -/

/-- A request that has passed its checks, with the session's bare name. -/
inductive SpaceCall
  | closeSpace (spaceId : String) (closeGroup : Bool)
  | killSession (session : String)
  deriving DecidableEq, Repr

/-- How far a handler is; the next step is a call to the daemon. -/
inductive Phase
  /-- the first `workspace.list` is next -/
  | listing
  /-- the spaces are counted, and the `workspace.list` for the group is next -/
  | resolving (spaceCount : ℕ)
  /-- admitted: `workspace.close` is next -/
  | closing (spaceId : String) (closeGroup : Bool) (removals : List String)
  /-- closed, and the `workspace.list` for the report is next -/
  | reporting (removals : List String)
  /-- answered without a close -/
  | declined (answer : Except Status ProtoAck)
  /-- answered after `workspace.close` was called -/
  | done (answer : Except Status ProtoAck)
  deriving Repr

/-- The call was admitted. -/
def Phase.Admitted : Phase → Prop
  | .closing _ _ _ => True
  | .reporting _ => True
  | .done _ => True
  | _ => False

def protoAck (ack : ActionAck) : ProtoAck := ⟨ack.ok, ack.error.getD "", ack.info.getD ""⟩

/-- `CloseSpace`, once its removals are known. -/
def decideClose (spaceId : String) (closeGroup : Bool) (spaceCount : ℕ) (removals : List String) :
    Phase :=
  match closeRefusal closeGroup spaceCount removals with
  | some error => .declined (.ok ⟨false, error, ""⟩)
  | none => .closing spaceId closeGroup removals

/-- The report of a close, with the spaces that remain if they could be listed. -/
def closedInfo (removals : List String) (remaining : Option (List SpaceSnapshot)) : String :=
  if (remaining.map List.isEmpty).getD false then
    describeRemoved removals ++ "; WARNING: no spaces remain on this daemon — create a space " ++
      "before attaching again"
  else describeRemoved removals

/-- The handler's step on the answer of `workspace.list`. -/
def onList (call : SpaceCall) (answer : Except String (List WorkspaceInfo)) : Phase → Phase
  | .listing =>
    match call, answer with
    | .closeSpace _ _, .error _ =>
      .declined (.error (.internal "CloseSpace: failed to enumerate spaces"))
    | .closeSpace spaceId closeGroup, .ok workspaces =>
      if closeGroup then .resolving workspaces.length
      else decideClose spaceId closeGroup workspaces.length [spaceId]
    | .killSession session, _ =>
      match killSession answer session with
      | .error e => .declined (.error (.internal s!"KillSession: {e}"))
      | .ok (.inl ack) => .declined (.ok (protoAck ack))
      | .ok (.inr workspaceId) => .closing workspaceId false [workspaceId]
  | .resolving spaceCount =>
    match call, answer with
    | .closeSpace spaceId closeGroup, .ok workspaces =>
      decideClose spaceId closeGroup spaceCount
        (spacesRemovedByWorkspaceClose workspaces spaceId closeGroup)
    | _, _ =>
      .declined (.error (.internal "CloseSpace: failed to resolve the group close set"))
  | .reporting removals =>
    .done (.ok ⟨true, "", closedInfo removals
      (answer.toOption.map fun workspaces => workspaces.map spaceFromWorkspace)⟩)
  | phase => phase

/-- The handler's step on the answer of `workspace.close`. -/
def onClose (call : SpaceCall) (answer : Except String ActionAck) : Phase → Phase
  | .closing _ _ removals =>
    match call, answer with
    | .closeSpace _ _, .error _ => .done (.error (.internal "CloseSpace: backend error"))
    | .closeSpace _ _, .ok ack => if ack.ok then .reporting removals else .done (.ok (protoAck ack))
    | .killSession _, .error e => .done (.error (.internal s!"KillSession: {e}"))
    | .killSession _, .ok ack => .done (.ok (protoAck ack))
  | phase => phase

/-! ### The daemon and its clients -/

/-- herdr's removal rule: with the flag, a close takes along every workspace of the target's group,
if the group has two members at least; otherwise it takes the target. -/
def removes (workspaces : List WorkspaceInfo) (spaceId : String) (closeGroup : Bool)
    (w : WorkspaceInfo) : Bool :=
  match (if closeGroup then groupKey workspaces spaceId else none) with
  | some key =>
    if 2 ≤ workspaces.countP (sharesKey key) then sharesKey key w else w.workspaceId = spaceId
  | none => w.workspaceId = spaceId

/-- The workspaces a close leaves. -/
def closeWorkspace (workspaces : List WorkspaceInfo) (spaceId : String) (closeGroup : Bool) :
    List WorkspaceInfo :=
  workspaces.filter fun w => !removes workspaces spaceId closeGroup w

/-- The daemon's workspaces, and the handler. -/
structure World where
  workspaces : List WorkspaceInfo
  phase : Phase

/-- What happens next. -/
inductive Act
  /-- the handler's listing is answered, or fails -/
  | list (failed : Option String)
  /-- the handler's close is answered, and the daemon did it or not -/
  | close (acted : Bool) (answer : Except String ActionAck)
  /-- another client creates a workspace -/
  | created (w : WorkspaceInfo)
  /-- another client closes one -/
  | closed (spaceId : String) (closeGroup : Bool)

/-- One step. An acknowledged close was done, a refused one was not, and one whose call failed may
have been. A new workspace has an id that no listed one has. -/
inductive Step (call : SpaceCall) : World → Act → World → Prop
  | list (s : World) (failed : Option String) :
      Step call s (.list failed)
        ⟨s.workspaces, onList call (failed.elim (.ok s.workspaces) .error) s.phase⟩
  | close {ws : List WorkspaceInfo} {spaceId : String} {closeGroup : Bool} {removals : List String}
      (acted : Bool) (answer : Except String ActionAck)
      (hack : ∀ ack, answer = .ok ack → ack.ok = acted) :
      Step call ⟨ws, .closing spaceId closeGroup removals⟩ (.close acted answer)
        ⟨if acted then closeWorkspace ws spaceId closeGroup else ws,
          onClose call answer (.closing spaceId closeGroup removals)⟩
  | created (s : World) (w : WorkspaceInfo)
      (hfresh : ∀ v ∈ s.workspaces, v.workspaceId ≠ w.workspaceId) :
      Step call s (.created w) ⟨s.workspaces ++ [w], s.phase⟩
  | closed (s : World) (spaceId : String) (closeGroup : Bool) :
      Step call s (.closed spaceId closeGroup)
        ⟨closeWorkspace s.workspaces spaceId closeGroup, s.phase⟩

/-- No two workspaces share an id. -/
def DistinctIds (workspaces : List WorkspaceInfo) : Prop :=
  (workspaces.map (·.workspaceId)).Nodup

/-- No other client closes a workspace once the handler has read its last listing. -/
def Quiet (_ : List Act) (s : World) (a : Act) : Prop :=
  ∀ spaceId closeGroup, a = .closed spaceId closeGroup → ¬ s.phase.Admitted

/-- A group close is not misled: when its group would be everything that the listing for it has, the
earlier count refuses as well; and nobody creates a workspace under the id that is being closed. -/
def Guarded (call : SpaceCall) (_ : List Act) (s : World) (a : Act) : Prop :=
  ∀ spaceId, call = .closeSpace spaceId true →
    (∀ spaceCount, s.phase = .resolving spaceCount → a = .list none →
      wouldCloseEverySpace s.workspaces.length
          (spacesRemovedByWorkspaceClose s.workspaces spaceId true).length = true →
        wouldCloseEverySpace spaceCount
          (spacesRemovedByWorkspaceClose s.workspaces spaceId true).length = true) ∧
    ∀ w, a = .created w → s.phase.Admitted → w.workspaceId ≠ spaceId

/-! ### What a close removes -/

variable {ws : List WorkspaceInfo} {spaceId : String} {closeGroup : Bool}

theorem DistinctIds.eq_of_id (h : DistinctIds ws) {v w : WorkspaceInfo} (hv : v ∈ ws) (hw : w ∈ ws)
    (hid : v.workspaceId = w.workspaceId) : v = w :=
  List.inj_on_of_nodup_map h hv hw hid

theorem groupKey_eq_some {key : String} (h : groupKey ws spaceId = some key) :
    ∃ target ∈ ws, target.workspaceId = spaceId ∧ sharesKey key target = true := by
  obtain ⟨target, hfind, hkey⟩ := Option.bind_eq_some_iff.mp h
  obtain ⟨worktree, hw, rfl⟩ := Option.map_eq_some_iff.mp hkey
  have hid := List.find?_some hfind
  refine ⟨target, List.mem_of_find?_eq_some hfind, by simpa using hid, ?_⟩
  simp [sharesKey, Option.eq_some_of_filter_eq_some hw]

/-- **What a close removes**: the target, and with the flag whatever shares its group's key. -/
theorem removes_iff (h : DistinctIds ws) {w : WorkspaceInfo} (hw : w ∈ ws) :
    removes ws spaceId closeGroup w = true ↔
      w.workspaceId = spaceId ∨
        closeGroup = true ∧ ∃ key, groupKey ws spaceId = some key ∧ sharesKey key w = true := by
  unfold removes
  rcases closeGroup with _ | _
  · simp
  rcases hk : groupKey ws spaceId with _ | key
  · simp
  obtain ⟨target, ht, hid, hshare⟩ := groupKey_eq_some hk
  simp only [if_true, true_and, Option.some.injEq, exists_eq_left']
  by_cases hcount : 2 ≤ ws.countP (sharesKey key)
  · rw [if_pos hcount]
    refine ⟨Or.inr, ?_⟩
    rintro (hwid | hw')
    · rwa [h.eq_of_id hw ht (hwid.trans hid.symm)]
    · exact hw'
  · rw [if_neg hcount, decide_eq_true_eq]
    refine ⟨Or.inl, ?_⟩
    rintro (hwid | hw')
    · exact hwid
    · -- the group has no second member, so this is the target
      have hw₁ := List.mem_filter.mpr ⟨hw, hw'⟩
      have ht₁ := List.mem_filter.mpr ⟨ht, hshare⟩
      rw [List.countP_eq_length_filter] at hcount
      rw [← hid]
      rcases hg : ws.filter (sharesKey key) with _ | ⟨x, _ | ⟨y, rest⟩⟩
      · simp [hg] at hw₁
      · rw [hg, List.mem_singleton] at hw₁ ht₁
        rw [hw₁, ht₁]
      · rw [hg] at hcount
        simp at hcount

/-- A close leaves distinct ids. -/
theorem DistinctIds.closeWorkspace (h : DistinctIds ws) :
    DistinctIds (closeWorkspace ws spaceId closeGroup) :=
  h.sublist (List.filter_sublist.map _)

theorem DistinctIds.created (h : DistinctIds ws) {w : WorkspaceInfo}
    (hfresh : ∀ v ∈ ws, v.workspaceId ≠ w.workspaceId) : DistinctIds (ws ++ [w]) := by
  unfold DistinctIds
  rw [List.map_append, List.nodup_append]
  refine ⟨h, List.nodup_singleton _, ?_⟩
  rintro id hid id' hid' rfl
  obtain ⟨v, hv, rfl⟩ := List.mem_map.mp hid
  exact hfresh v hv (List.mem_singleton.mp hid')

/-- A workspace that a close of the target spares. -/
def Spared (ws : List WorkspaceInfo) (spaceId : String) (closeGroup : Bool) : Prop :=
  ∃ w ∈ ws, removes ws spaceId closeGroup w = false

/-- Without the flag, a close spares a workspace if there are two. -/
theorem spared_of_two (spaceId : String) (h : DistinctIds ws) (hlen : 2 ≤ ws.length) :
    Spared ws spaceId false := by
  by_contra hall
  have hid : ∀ w ∈ ws, w.workspaceId = spaceId := by
    intro w hw
    have hr : removes ws spaceId false w = true := by
      by_contra hr
      exact hall ⟨w, hw, by simpa using hr⟩
    simpa [removes] using hr
  match ws, hlen with
  | v :: w :: rest, _ =>
    have hvw : v.workspaceId = w.workspaceId := by rw [hid v (by simp), hid w (by simp)]
    simp [DistinctIds, hvw] at h

/-- **The guard, on one listing**: a group close whose removals are fewer than the workspaces spares
one. -/
theorem spared_of_guard (h : DistinctIds ws)
    (hlen : wouldCloseEverySpace ws.length
      (spacesRemovedByWorkspaceClose ws spaceId true).length = false) :
    Spared ws spaceId true := by
  by_contra hall
  have hrem : ∀ w ∈ ws, removes ws spaceId true w = true := by
    intro w hw
    by_contra hr
    exact hall ⟨w, hw, by simpa using hr⟩
  simp only [wouldCloseEverySpace, decide_eq_false_iff_not, not_le] at hlen
  rcases hk : groupKey ws spaceId with _ | key
  · -- the close takes the target alone
    have htwo : 2 ≤ ws.length := by
      simp [spacesRemovedByWorkspaceClose, hk] at hlen
      omega
    obtain ⟨w, hw, hspared⟩ := spared_of_two spaceId h htwo
    have hr := hrem w hw
    simp only [removes, hk, if_true] at hr
    simp [removes, hr] at hspared
  · -- every workspace is in the group
    obtain ⟨target, ht, hid, hshare⟩ := groupKey_eq_some hk
    have hgroup : ∀ w ∈ ws, sharesKey key w = true := by
      intro w hw
      rcases (removes_iff h hw).mp (hrem w hw) with hwid | ⟨-, key', hk', hw'⟩
      · rwa [h.eq_of_id hw ht (hwid.trans hid.symm)]
      · obtain rfl := Option.some.inj (hk.symm.trans hk')
        exact hw'
    simp only [spacesRemovedByWorkspaceClose, hk, List.filter_eq_self.mpr hgroup,
      List.length_map, Bool.not_true, Bool.false_eq_true, if_false] at hlen
    have hpos := List.length_pos_of_mem ht
    split at hlen
    · simp at hlen
    · simp at hlen
      omega

/-- A spared workspace stays spared while others create workspaces under other ids. -/
theorem Spared.created (h : DistinctIds ws) {w : WorkspaceInfo}
    (hfresh : ∀ v ∈ ws, v.workspaceId ≠ w.workspaceId)
    (hid : closeGroup = true → w.workspaceId ≠ spaceId) (hs : Spared ws spaceId closeGroup) :
    Spared (ws ++ [w]) spaceId closeGroup := by
  obtain ⟨v, hv, hr⟩ := hs
  have hv' : v ∈ ws ++ [w] := List.mem_append_left _ hv
  refine ⟨v, hv', ?_⟩
  rw [Bool.eq_false_iff] at hr ⊢
  refine fun hr' => hr ?_
  rw [removes_iff (h.created hfresh) hv'] at hr'
  rw [removes_iff h hv]
  rcases hr' with hvid | ⟨hg, key, hk, hshare⟩
  · exact Or.inl hvid
  · -- the target, and so its group, is the same
    have hfind : (ws ++ [w]).find? (·.workspaceId = spaceId) =
        ws.find? (·.workspaceId = spaceId) := by
      simp [List.find?_append, hid hg]
    exact Or.inr ⟨hg, key, by rwa [groupKey, hfind] at hk, hshare⟩

theorem Spared.closeWorkspace_ne (hs : Spared ws spaceId closeGroup) :
    closeWorkspace ws spaceId closeGroup ≠ [] := by
  obtain ⟨w, hw, hr⟩ := hs
  exact List.ne_nil_of_mem (List.mem_filter.mpr ⟨hw, by simp [hr]⟩)

theorem Spared.ne (hs : Spared ws spaceId closeGroup) : ws ≠ [] := by
  obtain ⟨w, hw, -⟩ := hs
  exact List.ne_nil_of_mem hw

/-! ### Runs -/

/-- Ids are distinct; an admitted call spares a workspace, or has left one. -/
structure Kept (call : SpaceCall) (s : World) : Prop where
  distinct : DistinctIds s.workspaces
  resolving : ∀ n, s.phase = .resolving n → ∃ spaceId, call = .closeSpace spaceId true
  closing : ∀ spaceId closeGroup removals, s.phase = .closing spaceId closeGroup removals →
    Spared s.workspaces spaceId closeGroup ∧
      (closeGroup = true → call = .closeSpace spaceId true)
  left : s.phase.Admitted → s.workspaces ≠ []

variable {call : SpaceCall} {s t : World} {phase : Phase}

theorem kept_of_closing (h : DistinctIds ws) (hs : Spared ws spaceId closeGroup)
    (hcall : closeGroup = true → call = .closeSpace spaceId true) (removals : List String) :
    Kept call ⟨ws, .closing spaceId closeGroup removals⟩ where
  distinct := h
  resolving n hn := by cases hn
  closing id group rem hp := by
    cases hp
    exact ⟨hs, hcall⟩
  left _ := hs.ne

/-- A phase in which nothing is left to admit or to close. -/
theorem kept_of_settled (h : DistinctIds ws) (hres : ∀ n, phase ≠ .resolving n)
    (hclosing : ∀ id group removals, phase ≠ .closing id group removals)
    (hne : phase.Admitted → ws ≠ []) : Kept call ⟨ws, phase⟩ where
  distinct := h
  resolving n hn := absurd hn (hres n)
  closing id group removals hp := absurd hp (hclosing id group removals)
  left := hne

theorem kept_of_declined (h : DistinctIds ws) (answer : Except Status ProtoAck) :
    Kept call ⟨ws, .declined answer⟩ :=
  kept_of_settled h (by simp) (by simp) fun hc => absurd hc id

/-- What the guard decides. -/
theorem kept_decideClose (h : DistinctIds ws) (n : ℕ) (removals : List String)
    (hcall : closeGroup = true → call = .closeSpace spaceId true)
    (hspared : closeRefusal closeGroup n removals = none → Spared ws spaceId closeGroup) :
    Kept call ⟨ws, decideClose spaceId closeGroup n removals⟩ := by
  unfold decideClose
  rcases hr : closeRefusal closeGroup n removals with _ | error
  · exact kept_of_closing h (hspared hr) hcall removals
  · exact kept_of_declined h _

theorem killSession_admits {session workspaceId : String}
    (h : killSession (.ok ws) session = .ok (.inr workspaceId)) : 2 ≤ ws.length := by
  unfold killSession at h
  split_ifs at h
  · cases h
  change (workspaceIdIn ws session).bind _ = _ at h
  rcases hid : workspaceIdIn ws session with e | id
  · rw [hid] at h
    cases h
  · rw [hid] at h
    by_contra hlt
    have hlast : wouldKillLastSpace ws.length = true := by
      simp only [wouldKillLastSpace, decide_eq_true_eq]
      omega
    simp [Except.bind, hlast] at h

theorem killSession_error {session cause workspaceId : String} :
    killSession (.error cause) session ≠ .ok (.inr workspaceId) := by
  unfold killSession
  split_ifs <;> simp [bind, Except.bind]

/-- The first listing. -/
theorem kept_listing (h : DistinctIds ws) (failed : Option String) :
    Kept call ⟨ws, onList call (failed.elim (.ok ws) .error) .listing⟩ := by
  rcases call with ⟨spaceId, closeGroup⟩ | session
  · rcases failed with _ | cause
    · rcases closeGroup with _ | _
      · refine kept_decideClose h _ _ (fun hg => by cases hg) fun hr => spared_of_two _ h ?_
        by_contra hlt
        have hlast : wouldCloseLastSpace ws.length = true := by
          simp only [wouldCloseLastSpace, decide_eq_true_eq]
          omega
        simp [closeRefusal, hlast] at hr
      · exact {
          distinct := h
          resolving := fun n _ => ⟨spaceId, rfl⟩
          closing := fun id group removals hp => by cases hp
          left := fun ha => absurd ha id }
    · exact kept_of_declined h _
  · show Kept _ ⟨ws, match killSession _ session with
      | .error e => _ | .ok (.inl ack) => _ | .ok (.inr workspaceId) => _⟩
    rcases hk : killSession (failed.elim (.ok ws) .error) session with e | ack | workspaceId
    · exact kept_of_declined h _
    · exact kept_of_declined h _
    · refine kept_of_closing h (spared_of_two _ h ?_) (fun hg => by cases hg) _
      rcases failed with _ | cause
      · exact killSession_admits hk
      · exact absurd hk killSession_error

/-- The listing for a group. -/
theorem kept_resolving (h : DistinctIds ws) {n : ℕ} (failed : Option String)
    (hguard : failed = none →
      wouldCloseEverySpace ws.length (spacesRemovedByWorkspaceClose ws spaceId true).length = true →
        wouldCloseEverySpace n (spacesRemovedByWorkspaceClose ws spaceId true).length = true) :
    Kept (.closeSpace spaceId true) ⟨ws, onList (.closeSpace spaceId true)
      (failed.elim (.ok ws) .error) (.resolving n)⟩ := by
  rcases failed with _ | cause
  · refine kept_decideClose h n _ (fun _ => rfl) fun hr => spared_of_guard h ?_
    by_contra hall
    rw [Bool.not_eq_false] at hall
    simp [closeRefusal, hguard rfl hall] at hr
  · exact kept_of_declined h _

theorem onClose_settled (call : SpaceCall) (answer : Except String ActionAck) (spaceId : String)
    (closeGroup : Bool) (removals : List String) :
    (∀ n, onClose call answer (.closing spaceId closeGroup removals) ≠ .resolving n) ∧
      ∀ id group rem,
        onClose call answer (.closing spaceId closeGroup removals) ≠ .closing id group rem := by
  rcases call with _ | _ <;> rcases answer with _ | ack
  · simp [onClose]
  · rcases hok : ack.ok with _ | _ <;> simp [onClose, hok]
  · simp [onClose]
  · simp [onClose]

/-- **Every step keeps a workspace.** -/
theorem kept_step (h : Kept call s) {pre : List Act} {a : Act} (hquiet : Quiet pre s a)
    (hguard : Guarded call pre s a) (ha : Step call s a t) : Kept call t := by
  rcases ha with ⟨_, failed⟩ | ⟨acted, answer, hack⟩ | ⟨_, w, hfresh⟩ | ⟨_, id, group⟩
  · rcases s with ⟨ws, phase⟩
    rcases phase with _ | n | ⟨id, group, removals⟩ | removals | answer | answer
    · exact kept_listing h.distinct failed
    · obtain ⟨spaceId, rfl⟩ := h.resolving n rfl
      refine kept_resolving h.distinct failed fun hf => ?_
      subst hf
      exact (hguard spaceId rfl).1 n rfl rfl
    · exact h
    · exact kept_of_settled h.distinct (by simp [onList]) (by simp [onList]) fun _ => h.left trivial
    · exact h
    · exact h
  · next ws spaceId closeGroup removals =>
    obtain ⟨hs, -⟩ := h.closing _ _ _ rfl
    obtain ⟨hres, hclosing⟩ := onClose_settled call answer spaceId closeGroup removals
    rcases acted with _ | _
    · exact kept_of_settled h.distinct hres hclosing fun _ => hs.ne
    · exact kept_of_settled h.distinct.closeWorkspace hres hclosing fun _ => hs.closeWorkspace_ne
  · refine ⟨h.distinct.created hfresh, h.resolving, fun id group removals hp => ?_,
      fun _ => by simp⟩
    obtain ⟨hs, hcall⟩ := h.closing id group removals hp
    refine ⟨hs.created h.distinct hfresh fun hg => ?_, hcall⟩
    exact (hguard id (hcall hg)).2 w rfl (by rw [hp]; trivial)
  · have hna := hquiet id group rfl
    refine ⟨h.distinct.closeWorkspace, h.resolving, fun id' group' removals hp => ?_,
      fun ha => absurd ha hna⟩
    exact absurd (by rw [hp]; trivial) hna

/-- **An admitted close leaves a workspace**: in every run in which no other client closes one after
the handler's last listing, if a group close is not misled by its count. -/
theorem guarded_keeps_space {as : List Act} (hids : DistinctIds ws)
    (hr : Run (Step call) ⟨ws, .listing⟩ as t) (hquiet : Along (Step call) Quiet ⟨ws, .listing⟩ as)
    (hguard : Along (Step call) (Guarded call) ⟨ws, .listing⟩ as) (ha : t.phase.Admitted) :
    t.workspaces ≠ [] := by
  have hstart : Kept call ⟨ws, .listing⟩ :=
    kept_of_settled hids (by simp) (by simp) fun ha => absurd ha id
  have hkept : Kept call t := hr.invariant_along (I := Kept call)
    (fun pre s a t hs hC hstep => kept_step hs hC.1 hC.2 hstep) hstart (hquiet.and hguard)
  exact hkept.left ha

/-- A primary and its linked worktree. -/
def groupPair : List WorkspaceInfo :=
  [⟨"a", "main", true, "a:t1", some ⟨"repo", false⟩⟩,
    ⟨"b", "fix", false, "b:t1", some ⟨"repo", true⟩⟩]

/-- A workspace of its own. -/
def lone (id : String) : WorkspaceInfo := ⟨id, id, false, id ++ ":t1", none⟩

/-- A group close during which another client closes a workspace between the two listings. -/
def closedBetween (spaceId : String) : List Act :=
  [.list none, .closed spaceId false, .list none, .close true (.ok ⟨true, none, none⟩)]

theorem run_closedBetween (call : SpaceCall) (ws : List WorkspaceInfo) (spaceId : String)
    {id : String} {closeGroup : Bool} {removals : List String}
    (h : onList call (.ok (closeWorkspace ws spaceId false)) (onList call (.ok ws) .listing) =
      .closing id closeGroup removals) :
    Run (Step call) ⟨ws, .listing⟩ (closedBetween spaceId)
      ⟨closeWorkspace (closeWorkspace ws spaceId false) id closeGroup,
        onClose call (.ok ⟨true, none, none⟩) (.closing id closeGroup removals)⟩ := by
  refine .cons (.list _ none) (.cons (.closed _ spaceId false) (.cons (.list _ none) ?_))
  show Run (Step call) ⟨_, onList call (.ok (closeWorkspace ws spaceId false))
    (onList call (.ok ws) .listing)⟩ _ _
  rw [h]
  refine .cons (.close true _ ?_) (.nil _)
  rintro ack ⟨⟩
  rfl

/-- The other client closes its workspace before the last listing. -/
theorem quiet_closedBetween (call : SpaceCall) (ws : List WorkspaceInfo) (spaceId : String)
    (h : ¬ (onList call (.ok ws) .listing).Admitted) :
    Along (Step call) Quiet ⟨ws, .listing⟩ (closedBetween spaceId) := by
  rintro pre a post u he hu id group rfl
  rcases pre with _ | ⟨b, _ | ⟨c, _ | ⟨d, _ | ⟨e, pre⟩⟩⟩⟩ <;> simp [closedBetween] at he
  obtain ⟨rfl, -⟩ := he
  rcases run_singleton_iff.mp hu with ⟨_, _⟩
  exact h

/-- **The two listings of a group close disagree**: the bystander counted by the first is gone when
the group is resolved, and the close takes everything that is left. -/
theorem group_close_empties :
    ¬ ∀ (call : SpaceCall) (ws : List WorkspaceInfo) (as : List Act) (t : World),
      DistinctIds ws → Run (Step call) ⟨ws, .listing⟩ as t →
        Along (Step call) Quiet ⟨ws, .listing⟩ as → t.phase.Admitted → t.workspaces ≠ [] := by
  intro h
  have hids : DistinctIds (groupPair ++ [lone "c"]) := by
    unfold DistinctIds
    decide
  exact h (.closeSpace "a" true) (groupPair ++ [lone "c"]) (closedBetween "c") _ hids
    (run_closedBetween _ _ _ rfl) (quiet_closedBetween _ _ _ id) trivial rfl

/-- With one workspace more, the same close leaves that one. -/
theorem guarded_keeps_space_lone :
    closeWorkspace (closeWorkspace (groupPair ++ [lone "c", lone "d"]) "c" false) "a" true ≠
      [] := by
  have hids : DistinctIds (groupPair ++ [lone "c", lone "d"]) := by
    unfold DistinctIds
    decide
  have hrun := run_closedBetween (.closeSpace "a" true) (groupPair ++ [lone "c", lone "d"]) "c" rfl
  refine guarded_keeps_space hids hrun (quiet_closedBetween _ _ _ id) ?_ trivial
  rintro pre a post u he hu _ ⟨⟩
  refine ⟨?_, ?_⟩
  · rintro n hn rfl
    rcases pre with _ | ⟨b, _ | ⟨c, _ | ⟨d, _ | ⟨e, pre⟩⟩⟩⟩ <;> simp [closedBetween] at he
    · rw [← run_nil_iff.mp hu] at hn
      cases hn
    · obtain ⟨rfl, rfl, -⟩ := he
      obtain ⟨v, hv, hu⟩ := run_cons_iff.mp hu
      rcases hv with ⟨_, _⟩
      rcases run_singleton_iff.mp hu with _ | _ | _ | ⟨_, _, _⟩
      intro hall
      exact absurd hall (by decide)
  · rintro w rfl
    have hmem : Act.created w ∈ closedBetween "c" := by simp [he]
    simp [closedBetween] at hmem

end MuxrCore.Grpc.SpaceOps
