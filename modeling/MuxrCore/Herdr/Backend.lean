import MuxrCore.Herdr.Control

/-! # The herdr backend

A herdr daemon is presented as one session, whose workspaces are its spaces. The session's own
operations go to the workspace that has the daemon's focus, or else to the first one; any other
session name is matched with the workspaces' labels.

A close of a workspace may take its whole worktree group with it. `spacesRemovedByWorkspaceClose`
says, for a listing, which workspaces go. -/

namespace MuxrCore.Herdr.Backend

open MuxrCore.Herdr.Api MuxrCore.Herdr.Control MuxrCore.Multiplexer.Layout
open MuxrCore.Herdr.Sender (Registries)

/-- The name of the one session. -/
def herdrSession : String := "herdr"

/-- The workspace that has the focus, or else the first. -/
def pickActiveOrFirst (workspaces : List WorkspaceInfo) : Option WorkspaceInfo :=
  (workspaces.find? (·.focused)).or workspaces.head?

/-- The one workspace with a label. -/
def workspaceIdIn (workspaces : List WorkspaceInfo) (session : String) : Except String String :=
  match workspaces.filter (·.label = session) with
  | [] => .error s!"herdr: no workspace with label '{session}'"
  | [w] => .ok w.workspaceId
  | _ :: _ :: _ => .error
      s!"herdr: ambiguous session: multiple herdr workspaces labeled '{session}'"

def activeOrFirstWorkspaceId (workspaces : List WorkspaceInfo) : Except String String :=
  ((pickActiveOrFirst workspaces).map (·.workspaceId)).elim
    (.error "herdr: daemon has no workspaces to attach") .ok

/-- The workspace of a session. -/
def resolveWorkspace (workspaces : List WorkspaceInfo) (session : String) : Except String String :=
  if session = herdrSession then activeOrFirstWorkspaceId workspaces
  else workspaceIdIn workspaces session

/-- The layout of a session. -/
def queryLayout (api : Calls) (session : String) (reg : Registries) :
    Registries × Except LayoutError LayoutSnapshot :=
  match api.listWorkspaces.bind fun workspaces => resolveWorkspace workspaces session with
  | .error e => (reg, .error (.other e))
  | .ok workspaceId => Control.queryLayout api workspaceId reg

/-- A workspace id is not empty, and its characters are those of herdr's ids. -/
def validateWorkspaceId (spaceId : String) : Except String Unit :=
  if spaceId.isEmpty then .error "herdr: space_id must not be empty"
  else if !spaceId.toList.all fun c => c.isAlphanum || c == '_' || c == '-' || c == '.' || c == ':'
  then .error "herdr: invalid space_id: only [A-Za-z0-9_-.:] characters are allowed"
  else .ok ()

/-- The layout of a space, or else of the session. -/
def queryLayoutForSpace (api : Calls) (session : String) (spaceId : Option String)
    (reg : Registries) : Registries × Except LayoutError LayoutSnapshot :=
  match spaceId with
  | some id =>
    match validateWorkspaceId id with
    | .error e => (reg, .error (.other e))
    | .ok () => Control.queryLayout api id reg
  | none => queryLayout api session reg

/-- A session resolves to a workspace that is listed. -/
theorem resolveWorkspace_mem {workspaces : List WorkspaceInfo} {session workspaceId : String}
    (h : resolveWorkspace workspaces session = .ok workspaceId) :
    ∃ w ∈ workspaces, w.workspaceId = workspaceId := by
  unfold resolveWorkspace at h
  split_ifs at h
  · unfold activeOrFirstWorkspaceId at h
    rcases hp : pickActiveOrFirst workspaces with _ | w
    · simp [hp] at h
    · simp only [hp, Option.map_some, Option.elim_some, Except.ok.injEq] at h
      refine ⟨w, ?_, h⟩
      rcases Option.or_eq_some_iff.mp hp with hf | ⟨-, hhead⟩
      · exact List.mem_of_find?_eq_some hf
      · exact List.mem_of_head? hhead
  · unfold workspaceIdIn at h
    rcases hf : workspaces.filter (·.label = session) with _ | ⟨w, _ | ⟨v, rest⟩⟩
    · simp [hf] at h
    · simp only [hf, Except.ok.injEq] at h
      have hmem : w ∈ workspaces.filter (·.label = session) := by simp [hf]
      exact ⟨w, List.mem_of_mem_filter hmem, h⟩
    · simp [hf] at h

/-! ### Spaces -/

/-- How a backend acknowledges an action. -/
structure ActionAck where
  ok : Bool
  error : Option String
  info : Option String
  deriving DecidableEq, Repr

/-- A space, as a backend reports it. -/
structure SpaceSnapshot where
  id : String
  name : String
  active : Bool
  deriving DecidableEq, Repr

def spaceFromWorkspace (w : WorkspaceInfo) : SpaceSnapshot := ⟨w.workspaceId, w.label, w.focused⟩

/-- The workspace was opened for a worktree of the repository. -/
def sharesKey (key : String) (w : WorkspaceInfo) : Bool := w.worktree.any (·.repoKey = key)

/-- The repository whose group a close of the named workspace takes along: that of a workspace with
a worktree which is not a linked one. -/
def groupKey (workspaces : List WorkspaceInfo) (spaceId : String) : Option String :=
  (workspaces.find? (·.workspaceId = spaceId)).bind fun target =>
    (target.worktree.filter (!·.isLinkedWorktree)).map (·.repoKey)

/-- The workspaces that a close removes, read off a listing. -/
def spacesRemovedByWorkspaceClose (workspaces : List WorkspaceInfo) (spaceId : String)
    (closeGroup : Bool) : List String :=
  if !closeGroup then [spaceId]
  else match groupKey workspaces spaceId with
    | none => [spaceId]
    | some key =>
      let group := (workspaces.filter (sharesKey key)).map (·.workspaceId)
      -- a group of one is the workspace itself
      if 2 ≤ group.length then group else [spaceId]

def wouldKillLastSpace (count : ℕ) : Bool := count ≤ 1

def herdrSessionImmutableMsg : String :=
  "the herdr session cannot be killed or renamed — manage workspaces via CloseSpace/RenameSpace"

/-- A kill up to the close: an acknowledgement that refuses it, or else the workspace to close. One
listing serves the session's name and the count. -/
def killSession (listing : Except String (List WorkspaceInfo)) (session : String) :
    Except String (ActionAck ⊕ String) :=
  if session = herdrSession then .ok (.inl ⟨false, some herdrSessionImmutableMsg, none⟩)
  else do
    let workspaces ← listing
    let workspaceId ← workspaceIdIn workspaces session
    if wouldKillLastSpace workspaces.length then
      .ok (.inl ⟨false, some (s!"cannot kill '{session}': it is the last herdr space on this " ++
        "daemon, and closing it would leave none"), none⟩)
    else .ok (.inr workspaceId)

end MuxrCore.Herdr.Backend
