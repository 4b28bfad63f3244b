import MuxrCore.Grpc.Once
import MuxrCore.Herdr.Actions
import MuxrCore.Lib.Implement
import MuxrCore.Multiplexer.Ephemeral

/-! # The whole stack

What a handler asks a backend to do is a program of that backend: here they are put together, so
that the operations are those of the server on the one side, and of the connections to the two
multiplexers on the other.

* `goes_out`: what leaves for a multiplexer, for whom, on which session, and that it does so once. -/

namespace MuxrCore.Grpc.Stack

open MuxrCore.Lib.Program MuxrCore.Lib.Implement MuxrCore.Multiplexer.Routing
open MuxrCore.Grpc.Handlers MuxrCore.Grpc.Service MuxrCore.Grpc.Once MuxrCore.Muxrd.Auth
open MuxrCore.Grpc.Mediation (serve_allowed oneBackend someHeader letThrough somePane does_marked
  resolve_main)
open MuxrCore.Grpc.Operation (ActionCall Blocking BackendError)
open MuxrCore.Herdr.Actions (Request)
open MuxrCore.Herdr.Backend (ActionAck)
open MuxrCore.Multiplexer.Ephemeral (ClientMsg Host someHost)

/-- The operations of the whole. -/
inductive Op
  | server (op : Operation.Op)
  | zellij (op : Multiplexer.Ephemeral.Op)
  | herdr (op : Herdr.Actions.Op)

def Op.Answer : Op → Type
  | .server op => op.Answer
  | .zellij op => op.Answer
  | .herdr op => op.Answer

abbrev History := List (Event Op.Answer)

/-- What the task of an action on a backend comes to. -/
def taskAnswer : Except String ActionAck → Blocking BackendError ActionAck
  | .ok ack => .ok (.ok ack)
  | .error text => .ok (.error ⟨text, false, false⟩)

def zellijOps : (op : Multiplexer.Ephemeral.Op) → Prog Op.Answer op.Answer :=
  rename Op.zellij fun _ a => a

def herdrOps : (op : Herdr.Actions.Op) → Prog Op.Answer op.Answer := rename Op.herdr fun _ a => a

/-- How an operation of a handler is done. -/
def backends (host : Host) : (op : Operation.Op) → Prog Op.Answer op.Answer
  | .action .zellij call =>
    implement zellijOps (Multiplexer.Ephemeral.act host call).run >>= fun r => .ret (taskAnswer r)
  | .action .herdr call =>
    implement herdrOps (Herdr.Actions.act call).run >>= fun r => .ret (taskAnswer r)
  | op => .perform (.server op) .ret

/-- **What the server does with a request**, its backends included. -/
def stack (host : Host) (svc : MuxrService) (header : Header) (rpc : Rpc) :
    Prog Op.Answer (Except Operation.Fault Response) :=
  implement (backends host) (serve svc header rpc).run

/-! ### What is seen of a run -/

/-- What the server has done itself. -/
def serverPart (h : History) : Operation.History := h.filterMap fun
  | ⟨.server op, a⟩ => some ⟨op, a⟩
  | _ => none

/-- What has been asked of herdr. -/
def herdrPart (h : History) : Herdr.Actions.History := h.filterMap fun
  | ⟨.herdr op, a⟩ => some ⟨op, a⟩
  | _ => none

/-- What a multiplexer is told to do, or started with. -/
def leaves : Op → Bool
  | .zellij (.send _ _) => true
  | .zellij (.spawn _ _) => true
  | .herdr (.call request) => request.acts
  | _ => false

/-- What goes out for an action: a message to the session of the action, the start of the session
that it makes, or the request that it stands for, after what has been looked up for it. -/
inductive GoesOut (h : History) (call : ActionCall) : BackendKind → Op → Prop
  | zellij {session : String} {msg : ClientMsg} (hs : call.session = some session)
      (hmsg : Multiplexer.Ephemeral.Befits call msg) :
      GoesOut h call .zellij (.zellij (.send session msg))
  | started {name bin : String} {layout : Option String} {args : List String}
      (hcall : call = .createSession name layout)
      (hargs : ["attach", "--create-background", name] <:+ args) :
      GoesOut h call .zellij (.zellij (.spawn bin args))
  | herdr {request : Request} (hsends : Herdr.Actions.Sends (herdrPart h) call request) :
      GoesOut h call .herdr (.herdr (.call request))

/-! ### Above and below -/

variable {α : Type} {host : Host} {svc : MuxrService} {header : Header} {rpc : Rpc} {h : History}

/-- An operation that no backend has a part in is the server's own. -/
theorem backends_server {op : Operation.Op} (hop : ∀ kind call, op ≠ .action kind call) :
    backends host op = .perform (.server op) .ret := by
  cases op with
  | action kind call => exact absurd rfl (hop kind call)
  | _ => rfl

/-- Before a backend has acted, everything has been done by the server itself. -/
theorem eq_map_of_implements {es : Operation.History} (himpl : Implements (backends host) es h)
    (hes : ∀ e ∈ es, ∀ kind call, e.op ≠ .action kind call) :
    h = es.map fun e => ⟨.server e.op, e.answer⟩ := by
  induction himpl with
  | nil => rfl
  | @cons e es low lows hlow hs ih =>
    rw [backends_server (hes e List.mem_cons_self)] at hlow
    have hsingle : low = [⟨.server e.op, e.answer⟩] := by
      obtain _ | _ | ⟨a, ⟨⟩⟩ := hlow
      rfl
    rw [hsingle, ih fun e' he' => hes e' (List.mem_cons_of_mem e he')]
    rfl

theorem serverPart_map (es : Operation.History) :
    serverPart (es.map fun e => ⟨.server e.op, e.answer⟩) = es := by
  induction es with
  | nil => rfl
  | cons e es ih => exact congrArg (e :: ·) ih

theorem herdrPart_map (es : Operation.History) :
    herdrPart (es.map fun e => ⟨.server e.op, e.answer⟩) = [] := by
  induction es with
  | nil => rfl
  | cons e es ih => exact ih

theorem serverPart_append (h h' : History) : serverPart (h ++ h') = serverPart h ++ serverPart h' :=
  List.filterMap_append

theorem herdrPart_append (h h' : History) : herdrPart (h ++ h') = herdrPart h ++ herdrPart h' :=
  List.filterMap_append

/-- What leaves is done for an action, and the server itself has had no effect before. -/
theorem action_of_leaves {o : Op} (hd : Prog.Does (stack host svc header rpc) h (.performs o))
    (ho : leaves o = true) : ∃ es low kind call,
      h = es.map (fun e => ⟨.server e.op, e.answer⟩) ++ low ∧ effects es = [] ∧
      Prog.Does (serve svc header rpc).run es (.performs (.action kind call)) ∧
      Prog.Does (backends host (.action kind call)) low (.performs o) := by
  obtain ⟨es, before, low, op, rfl, himpl, hserve, hlow⟩ := does_implement.mp hd
  have hop : ∃ kind call, op = .action kind call := by
    by_contra hno
    rw [backends_server fun kind call he => hno ⟨kind, call, he⟩] at hlow
    obtain _ | ⟨-, -⟩ | ⟨a, ⟨⟩⟩ := hlow
    cases ho
  obtain ⟨kind, call, rfl⟩ := hop
  have heffects : effects es = [] := (acts_first hserve).1
  have hes : ∀ e ∈ es, ∀ kind call, e.op ≠ .action kind call := by
    rintro ⟨op, a⟩ he kind call rfl
    have hquiet := List.filter_eq_nil_iff.mp heffects _ he
    exact hquiet rfl
  rw [eq_map_of_implements himpl hes]
  exact ⟨es, low, kind, call, rfl, heffects, hserve, hlow⟩

/-- The server itself has no part in what goes by another name. -/
theorem serverPart_eq_nil (hop : ∀ x ∈ h, ∀ op, x.op ≠ .server op) : serverPart h = [] := by
  refine List.filterMap_eq_nil_iff.mpr fun x hx => ?_
  obtain ⟨xop, a⟩ := x
  cases xop with
  | server op => exact absurd rfl (hop _ hx op)
  | zellij | herdr => rfl

theorem herdrPart_implements {es : Herdr.Actions.History} (himpl : Implements herdrOps es h) :
    herdrPart h = es := by
  induction himpl with
  | nil => rfl
  | @cons e es low lows hlow hs ih =>
    obtain ⟨a, rfl, rfl⟩ := does_rename_done.mp hlow
    exact congrArg (e :: ·) ih

/-- A result is not on the way to an operation. -/
theorem does_task {p : Prog Op.Answer (Except String ActionAck)} {o : Op}
    (hd : Prog.Does (p >>= fun r => .ret (taskAnswer r)) h (.performs o)) :
    Prog.Does p h (.performs o) := by
  rcases Prog.does_bind_performs.mp hd with hp | ⟨r, es₁, es₂, rfl, -, hret⟩
  · exact hp
  · cases hret

/-- What goes out for an action on zellij. -/
theorem zellij_goes_out {call : ActionCall} {low : History} {o : Op}
    (hd : Prog.Does (backends host (.action .zellij call)) low (.performs o))
    (ho : leaves o = true) :
    serverPart low = [] ∧ (∀ e ∈ low, leaves e.op = false) ∧ GoesOut h call .zellij o := by
  obtain ⟨es, op, himpl, rfl, hact⟩ := does_implement_rename (does_task hd)
  have hmay {es' : Multiplexer.Ephemeral.History} {op' : Multiplexer.Ephemeral.Op}
      (hact' : Prog.Does (Multiplexer.Ephemeral.act host call).run es' (.performs op')) :
      Multiplexer.Ephemeral.May host call es' op' :=
    Prog.meets_iff.mp (Multiplexer.Ephemeral.act_meets host call) es' _ hact'
  have hbefore : ∀ e ∈ es, ∃ es', Multiplexer.Ephemeral.May host call es' e.op := by
    intro e he
    obtain ⟨es₁, es₂, rfl⟩ := List.append_of_mem he
    exact ⟨es₁, hmay hact.performs_of_append⟩
  have hserver : serverPart low = [] := serverPart_eq_nil fun x hx op => by
    obtain ⟨e, -, hop⟩ := himpl.exists_rename hx
    rw [hop]
    exact nofun
  refine ⟨hserver, fun x hx => ?_, ?_⟩
  · obtain ⟨e, he, hop⟩ := himpl.exists_rename hx
    rw [hop]
    obtain ⟨es', hearlier⟩ := hbefore e he
    have hnow := hmay hact
    -- a call that sends makes no session, and one that makes a session does not send
    cases op with
    | send session msg =>
      obtain ⟨-, hs, hunsent, -⟩ := hnow
      cases heop : e.op with
      | send session' msg' => exact absurd heop (hunsent e he session' msg')
      | spawn bin args =>
        rw [heop] at hearlier
        obtain ⟨-, name, layout, rfl, -⟩ := hearlier
        cases hs
      | _ => rfl
    | spawn bin args =>
      obtain ⟨hunspawned, name, layout, rfl, -⟩ := hnow
      cases heop : e.op with
      | send session msg =>
        rw [heop] at hearlier
        obtain ⟨-, hs, -⟩ := hearlier
        cases hs
      | spawn bin' args' => exact absurd heop (hunspawned e he bin' args')
      | _ => rfl
    | _ => cases ho
  · have hnow := hmay hact
    cases op with
    | send session msg => exact .zellij hnow.2.1 hnow.2.2.2
    | spawn bin args =>
      obtain ⟨-, name, layout, hcall, -, hargs⟩ := hnow
      exact .started hcall hargs
    | _ => cases ho

/-- What goes out for an action on herdr. -/
theorem herdr_goes_out {call : ActionCall} {before low : History} {o : Op}
    (hbefore : herdrPart before = [])
    (hd : Prog.Does (backends host (.action .herdr call)) low (.performs o))
    (ho : leaves o = true) : serverPart low = [] ∧ (∀ e ∈ low, leaves e.op = false) ∧
      GoesOut (before ++ low) call .herdr o := by
  obtain ⟨es, op, himpl, rfl, hact⟩ := does_implement_rename (does_task hd)
  have hasked : Herdr.Actions.Asked call es op :=
    Prog.meets_iff.mp (Herdr.Actions.act_meets call) es _ hact
  have hserver : serverPart low = [] := serverPart_eq_nil fun x hx op => by
    obtain ⟨e, -, hop⟩ := himpl.exists_rename hx
    rw [hop]
    exact nofun
  refine ⟨hserver, fun x hx => ?_, ?_⟩
  · obtain ⟨e, he, hop⟩ := himpl.exists_rename hx
    rw [hop]
    cases heop : e.op with
    | call request => exact hasked.1 e he request heop
    | _ => rfl
  · cases op with
    | call request =>
      have hsends := hasked.2 request rfl ho
      rw [← herdrPart_implements himpl, ← List.nil_append (herdrPart low), ← hbefore,
        ← herdrPart_append] at hsends
      exact .herdr hsends
    | _ => cases ho

/-- **What leaves the server for a multiplexer**: it is at most one message or request, before a
relay has taken any command. It is the one for the action that the request is for, to the backend
and on the session that the request names, with texts that are fit for it; and the caller has been
found to hold a token that may do it. -/
theorem goes_out {o : Op} (hd : Prog.Does (stack host svc header rpc) h (.performs o))
    (ho : leaves o = true) :
    (∀ e ∈ h, leaves e.op = false) ∧ effects (serverPart h) = [] ∧
      ∃ kind call, Stands svc rpc kind call ∧ OnTarget svc rpc kind call ∧
        Proven header (serverPart h) (actionTier call) ∧ GoesOut h call kind o := by
  obtain ⟨es, low, kind, call, rfl, heffects, hserve, hlow⟩ := action_of_leaves hd ho
  have hstands : Stands svc rpc kind call := (acts_first hserve).2
  have hallowed : Allowed svc header rpc es (.action kind call) :=
    Prog.meets_iff.mp (serve_allowed svc header rpc) es _ hserve
  have hout : serverPart low = [] ∧ (∀ e ∈ low, leaves e.op = false) ∧
      GoesOut (es.map (fun e => ⟨.server e.op, e.answer⟩) ++ low) call kind o := by
    cases kind with
    | zellij => exact zellij_goes_out hlow ho
    | herdr => exact herdr_goes_out (herdrPart_map es) hlow ho
  obtain ⟨hserver, hfirst, hgoes⟩ := hout
  rw [serverPart_append, serverPart_map, hserver, List.append_nil]
  refine ⟨fun e he => ?_, heffects, kind, call, hstands, hallowed.acts kind call rfl,
    hallowed.proven, hgoes⟩
  rcases List.mem_append.mp he with hin | hin
  · obtain ⟨e', -, rfl⟩ := List.mem_map.mp hin
    rfl
  · exact hfirst e hin

/-- A pane is closed: the server has asked about the token, and the session has been reached. -/
def closing : History :=
  (letThrough.map fun e => ⟨.server e.op, e.answer⟩) ++
    [⟨.zellij (.socketExists "main"), true⟩, ⟨.zellij (.connect "main"), (.ok () : Except _ Unit)⟩]

theorem goes_out_closePane : ∃ kind call,
    Stands oneBackend (.closePane somePane) kind call ∧
      GoesOut closing call kind (.zellij (.send "main" (.action (.closeTerminalPane 3) true))) := by
  have hserve : Prog.Does (serve oneBackend someHeader (.closePane somePane)).run
      (letThrough ++ []) (.performs (.action .zellij (.closePane "main" ⟨3, false⟩))) := by
    refine does_marked (by simp [publicPaths, Rpc.path, Rpc.name]) ?_
    dsimp only [dispatch, closePaneImpl, resolveSession, somePane]
    rw [resolve_main]
    exact .performs _ _
  have himpl : Implements (backends someHost) letThrough
      ([⟨.server (.validateSessionToken "t"), (.ok true : Except String Bool)⟩] ++
        ([⟨.server (.isSessionTokenReadOnly "t"), (.ok false : Except String Bool)⟩] ++ [])) :=
    .cons (.answered _ (.done _)) (.cons (.answered _ (.done _)) .nil)
  have hact : Prog.Does (backends someHost (.action .zellij (.closePane "main" ⟨3, false⟩)))
      [⟨.zellij (.socketExists "main"), true⟩,
        ⟨.zellij (.connect "main"), (.ok () : Except _ Unit)⟩]
      (.performs (.zellij (.send "main" (.action (.closeTerminalPane 3) true)))) :=
    .answered _ (.answered _ (.performs _ _))
  have hd : Prog.Does (stack someHost oneBackend someHeader (.closePane somePane)) closing
      (.performs (.zellij (.send "main" (.action (.closeTerminalPane 3) true)))) :=
    does_implement.mpr ⟨_, _, _, _, rfl, himpl, hserve, hact⟩
  obtain ⟨-, -, kind, call, hstands, -, -, hgoes⟩ := goes_out hd rfl
  exact ⟨kind, call, hstands, hgoes⟩

end MuxrCore.Grpc.Stack
