import MuxrCore.Grpc.Mediation

/-! # When a handler panics

A log line shows the start of a connection id, cut after so many bytes, and the id is the client's.
A handle of a device is cut in the same way, but has been checked; and the registry's ids are the
server's own. So a request panics exactly if it names its connection by an id that is cut inside a
character, and gets to the line. -/

namespace MuxrCore.Grpc.Panics

open MuxrCore.Lib.Program MuxrCore.Lib.Rpc MuxrCore.Lib.Slice MuxrCore.Multiplexer.Routing
open MuxrCore.Grpc.Operation MuxrCore.Grpc.Handlers MuxrCore.Grpc.Service MuxrCore.Grpc.Steps
open MuxrCore.Grpc.SpaceOps MuxrCore.Grpc.Mediation MuxrCore.Muxrd.Auth

variable {β : Type} {svc : MuxrService} {header : Header} {rpc : Rpc} {es : History}

/-- The line of an id that is cut. -/
theorem logConn_eq_throw {id : String} (hlogs : svc.logsInfo = true) (hcut : Cut 8 id) :
    logConn svc id = throw .panicked := by
  unfold logConn shortConn slice
  rw [if_pos hlogs, takeBytes_min_eq_none_iff.mpr hcut]
  rfl

/-- Once it has got so far, the request does nothing before the line. -/
theorem dispatch_eq_throw {token : String} (h : LogsCut svc rpc) :
    dispatch svc ⟨some false, some token⟩ rpc = throw .panicked := by
  obtain ⟨hlogs, session, id, hrpc, hcut, ⟨kind, b, bare⟩, hr⟩ := h
  have hlog := logConn_eq_throw hlogs hcut
  cases rpc with
  | getLayout req =>
    obtain ⟨rfl, rfl⟩ := Prod.mk.inj (Option.some.inj hrpc)
    simp only [dispatch, getLayoutImpl, resolveSession, hr, hlog]
    rfl
  | getSpaces req =>
    obtain ⟨rfl, rfl⟩ := Prod.mk.inj (Option.some.inj hrpc)
    simp only [dispatch, getSpacesImpl, resolveSession, hr, hlog]
    rfl
  | focusPane req =>
    obtain ⟨rfl, rfl⟩ := Prod.mk.inj (Option.some.inj hrpc)
    simp only [dispatch, focusPaneImpl, resolveSession, hr, hlog]
    rfl
  | goToTab req =>
    obtain ⟨rfl, rfl⟩ := Prod.mk.inj (Option.some.inj hrpc)
    simp only [dispatch, goToTabImpl, resolveSession, hr, hlog]
    rfl
  | togglePaneFullscreen req =>
    obtain ⟨target, htarget, hpair⟩ := Option.map_eq_some_iff.mp hrpc
    obtain ⟨rfl, rfl⟩ := Prod.mk.inj hpair
    simp only [dispatch, togglePaneFullscreenImpl, htarget, resolveSession]
    show _ <$> (ensure (resolveSessionKind svc.env svc.backends target.session) >>= _) = _
    simp only [hr]
    show _ <$> (logConn svc target.connectionId >>= _) = _
    rw [hlog]
    rfl
  | switchSpace req =>
    simp only [Rpc.logged] at hrpc
    split_ifs at hrpc with hspace
    obtain ⟨rfl, rfl⟩ := Prod.mk.inj (Option.some.inj hrpc)
    rcases hv : validateSpaceId req.spaceId with e | ⟨⟩
    · simp [hv, Except.isOk, Except.toBool] at hspace
    · simp only [dispatch, switchSpaceImpl, resolveSession, hr, hlog, hv]
      rfl
  | _ => cases hrpc

/-- Without a token, a request that is not public is only refused. -/
theorem serve_eq_throw {e : Status} (hpath : rpc.path ∉ publicPaths)
    (ht : bearerToken header = .error e) : serve svc header rpc = throw (.status e) := by
  unfold serve bearerAuth checkBearer
  rw [if_neg hpath, ht]
  rfl

theorem path_of_logged {session id : String} (h : rpc.logged = some (session, id)) :
    rpc.path ∉ publicPaths := by
  cases rpc with
  | getVersion => cases h
  | login req => cases h
  | _ => simp [publicPaths, Rpc.path, Rpc.name]

/-- No registry and no device has been read. -/
theorem sound_of_ops (h : ∀ e ∈ es, e.op ≠ .control ∧ e.op ≠ .listDevices) : Sound es :=
  ⟨fun _ hin => absurd rfl (h _ hin).1, fun _ hin => absurd rfl (h _ hin).2⟩

/-- **A request can panic exactly if it is let through, and names its connection by an id that is
cut inside a character.** -/
theorem panics_iff (svc : MuxrService) (header : Header) (rpc : Rpc) :
    (∃ es, Sound es ∧ Prog.Does (serve svc header rpc).run es (.done (.error .panicked))) ↔
      LogsCut svc rpc ∧ ∃ token, bearerToken header = .ok token := by
  constructor
  · rintro ⟨es, hs, hd⟩
    have hexplained : Explained svc rpc es (.error .panicked : Except Fault Response) :=
      Prog.meets_iff.mp (serve_allowed svc header rpc) es _ hd
    have hcut := hexplained hs rfl
    refine ⟨hcut, ?_⟩
    obtain ⟨-, _, _, hlogged, -⟩ := id hcut
    rcases ht : bearerToken header with e | token
    · rw [serve_eq_throw (path_of_logged hlogged) ht] at hd
      cases hd
    · exact ⟨token, rfl⟩
  · rintro ⟨hcut, token, ht⟩
    obtain ⟨-, _, _, hlogged, -⟩ := id hcut
    have hd : Prog.Does (dispatch svc ⟨some false, some token⟩ rpc).run []
        (.done (.error .panicked)) := by
      rw [dispatch_eq_throw hcut]
      exact .done _
    exact ⟨_, sound_of_ops (by simp), does_serve (path_of_logged hlogged) ht hd⟩

end MuxrCore.Grpc.Panics
