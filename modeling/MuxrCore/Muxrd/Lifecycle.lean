import Mathlib.Algebra.Group.Nat.Defs
import Mathlib.Logic.Function.Basic
import Mathlib.Tactic.SplitIfs
import MuxrCore.Lib.Runs
import MuxrCore.Lib.Tables

/-! # Starting and stopping the daemon

A daemon is found by two files: the control socket, and a pidfile. `start` looks at both, clears
what a crashed daemon has left, and launches a daemon, which writes the pidfile and binds the
socket. `stop` asks the daemon to shut down, waits, and removes both files; `status` removes them if
no daemon is alive. A daemon that is asked drains its connections, and then removes the files
itself.

`State.step` is one step of a command or of a daemon. Whether an address is free, whether a query is
answered in time, and how long a daemon drains is for the environment to say. -/

namespace MuxrCore.Muxrd.Lifecycle

open MuxrCore.Lib.Runs

/-! ### Files, daemons and commands -/

/-- A pidfile has a pid, unless it cannot be parsed, and may be locked by a daemon. -/
structure Pidfile where
  pid : Option ℕ
  lock : Option ℕ
  deriving DecidableEq, Repr

/-- The thread that accepts on the control socket; it closes after a shutdown request. -/
inductive Listener
  | none
  | accepting
  | closing
  deriving DecidableEq, Repr

/-- How far a daemon is. -/
inductive Phase
  | launched
  /-- the path of the socket has been cleared -/
  | unlinked
  /-- the socket is bound; the daemon serves, or drains -/
  | running
  /-- the pidfile is to be removed next -/
  | leaving
  /-- the socket is to be removed next -/
  | cleaning
  | exiting
  deriving DecidableEq, Repr

structure Daemon where
  foreground : Bool
  phase : Phase
  listener : Listener
  deriving DecidableEq, Repr

/-- How far a command is; the next step is named after the phase. -/
inductive Command
  | idle
  | startRead (foreground responsive : Bool)
  | startAlive (foreground responsive : Bool) (pid : ℕ)
  | startProbe (foreground : Bool)
  | startPidfile
  | startSocket
  | startLaunch (foreground : Bool)
  | stopRead
  | stopKill (pid : ℕ)
  /-- `asked` is the daemon that was asked to shut down, or was sent a signal -/
  | stopSocket (asked : Option ℕ)
  | stopPidfile (asked : Option ℕ)
  | statusRead
  | statusAlive (pid : ℕ)
  | statusSocket
  | statusPidfile
  | ended
  deriving DecidableEq, Repr

/-- The daemon whose socket is at the path, the pidfile, the daemons by pid, and the commands. -/
structure State where
  socket : Option ℕ
  pidfile : Option Pidfile
  daemons : ℕ → Option Daemon
  commands : ℕ → Command

/-- What became of a query. -/
inductive Reply
  | answered
  /-- the request has arrived, but no answer came in time -/
  | unanswered
  | unreachable
  deriving DecidableEq, Repr

/-- What became of a signal. -/
inductive Killed
  | sent
  | noProcess
  | denied
  deriving DecidableEq, Repr

/-- What happens next: steps of a command, and then steps of a daemon. -/
inductive Act
  | start (c : ℕ) (foreground : Bool) (reply : Reply)
  | stop (c : ℕ) (reply : Reply)
  | status (c : ℕ) (reply : Reply)
  | read (c : ℕ)
  /-- `other` says that the pid is that of another process -/
  | alive (c : ℕ) (other : Bool)
  | kill (c : ℕ) (killed : Killed)
  | probe (c : ℕ) (free : Bool)
  | removePidfile (c : ℕ)
  | removeSocket (c : ℕ)
  | launch (c p : ℕ)
  | abort (c : ℕ)
  | unlink (p : ℕ)
  | bind (p : ℕ)
  | fail (p : ℕ)
  | serveReturn (p : ℕ)
  | forget (p : ℕ)
  | cleanup (p : ℕ)
  | exit (p : ℕ)
  | die (p : ℕ)
  /-- the listener is dropped, which may remove the socket's path -/
  | drop (p : ℕ) (unlinks : Bool)
  deriving DecidableEq, Repr

/-! ### The commands -/

/-- Whether a start may clear the files. -/
inductive StartDecision
  | refuseSocketResponsive
  | refuseLiveDaemon (pid : ℕ)
  | stale
  deriving DecidableEq, Repr

/-- The files are stale if nothing answers and the pidfile names no live process. -/
def startStalenessDecision (controlResponsive : Bool) (pidfilePid : Option ℕ) (pidAlive : Bool) :
    StartDecision :=
  if controlResponsive then .refuseSocketResponsive
  else match pidfilePid with
    | some pid => if pidAlive then .refuseLiveDaemon pid else .stale
    | none => .stale

/-- A start goes on if the files are stale. -/
def StartDecision.next (foreground : Bool) : StartDecision → Command
  | .stale => .startProbe foreground
  | _ => .ended

namespace State

variable (s : State)

/-- The daemon that would answer a query. -/
def answering : Option ℕ :=
  s.socket.filter fun p => (s.daemons p).map (·.listener) = some .accepting

/-- A query can end in this way. -/
def replies (reply : Reply) : Bool := reply = .unreachable || s.answering.isSome

/-- The pid in the pidfile. -/
def readPidfile : Option ℕ := s.pidfile.bind (·.pid)

/-- Whether a pid is alive; a pid is positive. -/
def pidIsAlive (pid : ℕ) (other : Bool) : Bool := 0 < pid && ((s.daemons pid).isSome || other)

/-- The pidfile is locked by a daemon. -/
def locked : Bool :=
  ((s.pidfile.bind (·.lock)).bind s.daemons).isSome

def setCommand (c : ℕ) (command : Command) : State :=
  { s with commands := Function.update s.commands c command }

def setDaemon (p : ℕ) (daemon : Option Daemon) : State :=
  { s with daemons := Function.update s.daemons p daemon }

/-- The listener that gets a shutdown request stops accepting. -/
def shutdown : State :=
  match s.answering with
  | some p => s.setDaemon p ((s.daemons p).map fun d => { d with listener := .closing })
  | none => s

/-- The pidfile with the pid of a new daemon; daemonizing takes the lock. -/
def writePidfile (foreground : Bool) (p : ℕ) : State :=
  { s with pidfile := some ⟨some p, if foreground then s.pidfile.bind (·.lock) else some p⟩ }

end State

/-- A daemon has been launched, and has written the pidfile. -/
def Daemon.new (foreground : Bool) : Daemon := ⟨foreground, .launched, .none⟩

/-- Serving has ended; a daemon in the foreground has a pidfile to remove. -/
def Daemon.left (d : Daemon) : Daemon :=
  { d with phase := if d.foreground then .leaving else .cleaning }

/-- One step. -/
def State.step (s : State) : Act → Option State
  | .start c foreground reply =>
    if s.commands c = .idle && s.replies reply then
      some (s.setCommand c (.startRead foreground (reply = .answered)))
    else none
  | .stop c reply =>
    if s.commands c = .idle && s.replies reply then
      match reply with
      | .answered => some (s.shutdown.setCommand c (.stopSocket s.answering))
      | .unanswered => some (s.shutdown.setCommand c .stopRead)
      | .unreachable => some (s.setCommand c .stopRead)
    else none
  | .status c reply =>
    if s.commands c = .idle && s.replies reply then
      some (s.setCommand c (if reply = .answered then .ended else .statusRead))
    else none
  | .read c =>
    match s.commands c, s.readPidfile with
    | .startRead foreground responsive, some pid =>
      some (s.setCommand c (.startAlive foreground responsive pid))
    | .startRead foreground responsive, none =>
      some (s.setCommand c ((startStalenessDecision responsive none false).next foreground))
    | .stopRead, some pid => some (s.setCommand c (.stopKill pid))
    | .stopRead, none => some (s.setCommand c (.stopSocket none))
    | .statusRead, some pid => some (s.setCommand c (.statusAlive pid))
    | .statusRead, none => some (s.setCommand c .statusSocket)
    | _, _ => none
  | .alive c other =>
    match s.commands c with
    | .startAlive foreground responsive pid =>
      some (s.setCommand c
        ((startStalenessDecision responsive (some pid) (s.pidIsAlive pid other)).next foreground))
    | .statusAlive pid =>
      some (s.setCommand c (if s.pidIsAlive pid other then .ended else .statusSocket))
    | _ => none
  | .kill c killed =>
    match s.commands c, killed with
    | .stopKill pid, .sent => some (s.setCommand c (.stopSocket (some pid)))
    | .stopKill pid, .noProcess =>
      if (s.daemons pid).isSome then none else some (s.setCommand c (.stopSocket none))
    | .stopKill _, .denied => some (s.setCommand c .ended)
    | _, _ => none
  | .probe c free =>
    match s.commands c with
    | .startProbe foreground =>
      some (s.setCommand c
        (if !free then .ended else if foreground then .startLaunch true else .startPidfile))
    | _ => none
  | .removePidfile c =>
    match s.commands c with
    | .startPidfile => some ({ s with pidfile := none }.setCommand c .startSocket)
    | .stopPidfile _ => some ({ s with pidfile := none }.setCommand c .ended)
    | .statusPidfile => some ({ s with pidfile := none }.setCommand c .ended)
    | _ => none
  | .removeSocket c =>
    match s.commands c with
    | .startSocket => some ({ s with socket := none }.setCommand c (.startLaunch false))
    | .stopSocket asked => some ({ s with socket := none }.setCommand c (.stopPidfile asked))
    | .statusSocket => some ({ s with socket := none }.setCommand c .statusPidfile)
    | _ => none
  | .launch c p =>
    match s.commands c with
    | .startLaunch foreground =>
      if p = 0 ∨ (s.daemons p).isSome then none
      else if !foreground && s.locked then some (s.setCommand c .ended)
      else some (((s.writePidfile foreground p).setDaemon p (some (.new foreground))).setCommand c
        .ended)
    | _ => none
  | .abort c => some (s.setCommand c .ended)
  | .unlink p => (s.daemons p).bind fun d =>
    if d.phase = .launched then
      some ({ s with socket := none }.setDaemon p (some { d with phase := .unlinked }))
    else none
  | .bind p => (s.daemons p).bind fun d =>
    if d.phase = .unlinked then
      if s.socket.isNone then
        some ({ s with socket := some p }.setDaemon p
          (some { d with phase := .running, listener := .accepting }))
      else some (s.setDaemon p (some d.left))
    else none
  | .fail p => (s.daemons p).bind fun d =>
    if d.phase = .launched ∨ d.phase = .unlinked then some (s.setDaemon p (some d.left)) else none
  | .serveReturn p => (s.daemons p).bind fun d =>
    if d.phase = .running then some (s.setDaemon p (some d.left)) else none
  | .forget p => (s.daemons p).bind fun d =>
    if d.phase = .leaving then
      some ({ s with pidfile := none }.setDaemon p (some { d with phase := .cleaning }))
    else none
  | .cleanup p => (s.daemons p).bind fun d =>
    if d.phase = .cleaning then
      some ({ s with socket := none }.setDaemon p (some { d with phase := .exiting }))
    else none
  | .exit p => (s.daemons p).bind fun d =>
    if d.phase = .exiting then some (s.setDaemon p none) else none
  | .die p => some (s.setDaemon p none)
  | .drop p unlinks => (s.daemons p).bind fun d =>
    if d.listener = .closing then
      some ({ s with socket := if unlinks then none else s.socket }.setDaemon p
        (some { d with listener := .none }))
    else none

end MuxrCore.Muxrd.Lifecycle
