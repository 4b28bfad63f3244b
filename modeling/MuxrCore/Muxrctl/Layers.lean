import MuxrCore.Muxrctl.Overlay
import MuxrCore.Pairing.Uri

/-! # The pairing code belongs to the layer that asked for it

A layer is opened with a number of its own, and its task is dispatched with what is captured then:
the secret, its kind, and the trust. Tasks of layers that are gone may still be in flight; their
results have other numbers.

* `Tied`: every task in flight, and the layer itself, are tied to what was captured at the opening
  with their number.
* `overlay_belongs`: a code on display is built from what was captured when its layer was opened. -/

namespace MuxrCore.Muxrctl.Layers

open MuxrCore.Lib.Runs MuxrCore.Pairing.Uri
open MuxrCore.Pairing.Qr (AdvertiseTrust Facade PairingParams buildTokenQrTask)

/-- What is captured when a layer is opened. -/
structure Capture where
  name : String
  secret : String
  readOnly : Bool
  trust : AdvertiseTrust
  deriving DecidableEq, Repr

/-- What a step captures: it opens a layer if there is a new number. -/
def captured (before after : AppState) : List Capture :=
  if after.qrSeq = before.qrSeq then []
  else after.tokens.lastMintedSecret.toList.map fun (name, secret, readOnly) =>
    ⟨name, secret, readOnly, after.cert.advertiseTrust⟩

/-- What the task of a code posts; the code is its URI. -/
def posted : Pairing.Qr.Message → Message
  | .tokenQrReady params host port fingerprintShort baselineClients seq =>
    .tokenQrReady (toUri params) host port fingerprintShort baselineClients seq
  | .tokenQrFailed err seq => .tokenQrFailed err seq

/-- The task of a code posts what it has built, with whatever the server answers. -/
def Builds (p : Panel) (e : Event) : Prop :=
  ∀ index msg task secret readOnly seq trust, e = .result index msg →
    p.tasks[index]? = some task → task.action = .showTokenQr secret readOnly seq trust →
    ∃ facade, msg = posted (buildTokenQrTask facade secret readOnly seq trust)

/-- The panel, and what has been captured so far. -/
structure Traced where
  panel : Panel
  captures : List Capture

/-- The layer, if there is one. -/
def Traced.overlay (t : Traced) : Option QrOverlay := t.panel.app.tokens.qrOverlay

def Traced.next (t : Traced) (e : Event) : Option Traced :=
  (t.panel.step e).map fun q => ⟨q, t.captures ++ captured t.panel.app q.app⟩

def Traced.step (t : Traced) (e : Event) (t' : Traced) : Prop :=
  t.next e = some t' ∧ Builds t.panel e

/-- The code is built from what was captured, and the clients were counted then. -/
def Built (c : Capture) (o : QrOverlay) (uri host : String) (port : ℕ) (fingerprintShort : String) :
    Prop :=
  ∃ facade params, uri = toUri params ∧
    buildTokenQrTask facade c.secret c.readOnly o.seq c.trust =
      .tokenQrReady params host port fingerprintShort o.baselineClients o.seq

/-- The layer is the last one opened, and a code on display is its own. -/
def Belongs (captures : List Capture) (o : QrOverlay) : Prop :=
  o.seq = captures.length ∧ ∃ c, captures.getLast? = some c ∧ o.tokenName = c.name ∧
    o.readOnly = c.readOnly ∧ ∀ uri host port fingerprintShort,
      o.phase = .showing uri host port fingerprintShort → Built c o uri host port fingerprintShort

/-- A layer becomes connected on a status only, with more clients than were there before. -/
def Connects (t : Traced) (e : Event) : Prop :=
  ∀ t' o', t.step e t' → t'.overlay = some o' → o'.phase = .connected →
    ∃ o, t.overlay = some o ∧ o.seq = o'.seq ∧ (o.phase = .connected ∨
      (o.phase.isShowing = true ∧ ∃ info, e.msg = .statusLoaded (some info) ∧
        o.baselineClients < info.clientCount))

/-- The tasks and the layer are tied to what was captured. -/
structure Tied (t : Traced) : Prop where
  seq : t.panel.app.qrSeq = t.captures.length
  overlay : ∀ o, t.overlay = some o → Belongs t.captures o
  tasks : ∀ task ∈ t.panel.tasks, ∀ secret readOnly seq trust,
    task.action = .showTokenQr secret readOnly seq trust →
    ∃ name, 0 < seq ∧ t.captures[seq - 1]? = some ⟨name, secret, readOnly, trust⟩

variable {t t' : Traced} {p q : Panel} {e : Event}

theorem Traced.step_iff : t.step e t' ↔ t.panel.step e = some t'.panel ∧ Builds t.panel e ∧
    t'.captures = t.captures ++ captured t.panel.app t'.panel.app := by
  unfold Traced.step Traced.next
  rw [Option.map_eq_some_iff]
  constructor
  · rintro ⟨⟨q, hq, rfl⟩, hb⟩
    exact ⟨hq, hb, rfl⟩
  · rintro ⟨hq, hb, hc⟩
    exact ⟨⟨t'.panel, hq, by rw [← hc]⟩, hb⟩

/-! ### Tasks -/

/-- A task was in flight before, or the message has dispatched it. -/
theorem mem_tasks_step (h : p.step e = some q) {task : Task} (ht : task ∈ q.tasks) :
    task ∈ p.tasks ∨ task.action ∈ (update p.app e.msg).2 := by
  have hreduce : ∀ tasks msg failed, (∀ task ∈ tasks, task ∈ p.tasks) → msg = e.msg →
      q = p.reduce tasks msg failed → task ∈ p.tasks ∨ task.action ∈ (update p.app e.msg).2 := by
    rintro tasks msg failed htasks rfl rfl
    rcases List.mem_append.mp ht with ht | ht
    · exact .inl (htasks task ht)
    · obtain ⟨action, ha, rfl⟩ := List.mem_map.mp ht
      exact .inr (List.mem_of_mem_filter ha)
  cases e with
  | input msg => exact hreduce _ _ _ (fun _ h => h) rfl (step_input h).2
  | result index msg =>
    obtain ⟨task', -, -, hq⟩ := step_result h
    exact hreduce _ _ _ (fun _ h => List.mem_of_mem_eraseIdx h) rfl hq

/-- A task for a code was in flight before, or it is one of those that show a code. -/
theorem mem_shows {action : UpdateAction} {actions : List UpdateAction} (h : action ∈ actions)
    {secret : String} {readOnly : Bool} {seq : ℕ} {trust : AdvertiseTrust}
    (ha : action = .showTokenQr secret readOnly seq trust) : action ∈ shows actions := by
  subst ha
  exact List.mem_filter.mpr ⟨h, rfl⟩

/-- The result of a code is that of its task. -/
theorem built_of_ready (h : p.step e = some q) (hb : Builds p e) {uri host : String} {port : ℕ}
    {fingerprintShort : String} {baselineClients seq : ℕ}
    (hmsg : e.msg = .tokenQrReady uri host port fingerprintShort baselineClients seq) :
    ∃ task ∈ p.tasks, ∃ secret readOnly trust,
      task.action = .showTokenQr secret readOnly seq trust ∧ ∃ facade params, uri = toUri params ∧
        buildTokenQrTask facade secret readOnly seq trust =
          .tokenQrReady params host port fingerprintShort baselineClients seq := by
  cases e with
  | input msg =>
    have hres := (step_input h).1
    rw [show msg = _ from hmsg] at hres
    cases hres
  | result index msg =>
    obtain ⟨task, htask, hposts, -⟩ := step_result h
    obtain rfl : msg = _ := hmsg
    obtain ⟨secret, readOnly, trust, ha⟩ : ∃ secret readOnly trust,
        task.action = .showTokenQr secret readOnly seq trust := by
      generalize task.action = action at hposts
      cases action with
      | showTokenQr secret readOnly seq' trust =>
        exact ⟨secret, readOnly, trust, by rw [show seq = seq' from of_decide_eq_true hposts]⟩
      | _ => cases hposts
    obtain ⟨facade, hbuilt⟩ := hb _ _ _ _ _ _ _ rfl htask ha
    refine ⟨task, List.mem_of_getElem? htask, secret, readOnly, trust, ha, facade, ?_⟩
    cases hcode : buildTokenQrTask facade secret readOnly seq trust with
    | tokenQrFailed err seq' =>
      rw [hcode] at hbuilt
      cases hbuilt
    | tokenQrReady params host' port' short' clients' seq' =>
      rw [hcode] at hbuilt
      cases hbuilt
      exact ⟨params, rfl, rfl⟩

/-! ### One step -/

/-- Nothing is captured where the number stays. -/
theorem captures_of_seq (hs : t.step e t') (hseq : t'.panel.app.qrSeq = t.panel.app.qrSeq) :
    t'.captures = t.captures := by
  rw [(Traced.step_iff.mp hs).2.2, captured, if_pos hseq, List.append_nil]

theorem captures_le (hs : t.step e t') : t.captures.length ≤ t'.captures.length := by
  rw [(Traced.step_iff.mp hs).2.2, List.length_append]
  exact Nat.le_add_right _ _

/-- A step without a new number keeps the tasks tied. -/
theorem Tied.quiet (h : Tied t) (hs : t.step e t')
    (hseq : (update t.panel.app e.msg).1.qrSeq = t.panel.app.qrSeq)
    (hshows : shows (update t.panel.app e.msg).2 = [])
    (hov : ∀ o, (update t.panel.app e.msg).1.tokens.qrOverlay = some o → Belongs t.captures o) :
    Tied t' := by
  obtain ⟨hstep, -, -⟩ := Traced.step_iff.mp hs
  have happ := step_app hstep
  have hc := captures_of_seq hs (happ ▸ hseq)
  refine ⟨by rw [happ, hseq, hc, h.seq], fun o ho => ?_,
    fun task ht secret readOnly seq trust ha => ?_⟩
  · rw [Traced.overlay, happ] at ho
    exact hc ▸ hov o ho
  · rw [hc]
    rcases mem_tasks_step hstep ht with ht | ht
    · exact h.tasks task ht _ _ _ _ ha
    · have hmem := mem_shows ht ha
      rw [hshows] at hmem
      cases hmem

/-- A layer that is opened has the next number, and so has its task. -/
theorem Tied.opened (h : Tied t) (hs : t.step e t') (hcount : t'.captures.length < 2 ^ 64)
    {name secret : String} {readOnly : Bool} {u : Updated} (hu : update t.panel.app e.msg = u)
    (hsecret : u.1.tokens.lastMintedSecret = some (name, secret, readOnly))
    (hseq : u.1.qrSeq = (t.panel.app.qrSeq + 1) % 2 ^ 64)
    (hov : u.1.tokens.qrOverlay = some ⟨.generating, u.1.qrSeq, 0, name, readOnly, 0⟩)
    (hshows : shows u.2 = [.showTokenQr secret readOnly u.1.qrSeq u.1.cert.advertiseTrust]) :
    Tied t' := by
  obtain ⟨hstep, -, hcaptures⟩ := Traced.step_iff.mp hs
  have happ : t'.panel.app = u.1 := (step_app hstep).trans (congrArg Prod.fst hu)
  have hle := captures_le hs
  have hnum := h.seq
  have hne : t'.panel.app.qrSeq ≠ t.panel.app.qrSeq := by
    rw [happ, hseq]
    omega
  have hnew : t'.captures = t.captures ++ [⟨name, secret, readOnly, u.1.cert.advertiseTrust⟩] := by
    rw [hcaptures, captured, if_neg hne, happ, hsecret]
    rfl
  have hlen : t'.captures.length = t.captures.length + 1 := by
    rw [hnew, List.length_append]
    rfl
  have hseq' : u.1.qrSeq = t'.captures.length := by
    rw [hseq, hlen, hnum, Nat.mod_eq_of_lt (by omega)]
  refine ⟨by rw [happ, hseq'], fun o ho => ?_, fun task ht secret' readOnly' seq trust ha => ?_⟩
  · rw [Traced.overlay, happ, hov] at ho
    cases ho
    exact ⟨hseq', _, by rw [hnew, List.getLast?_concat], rfl, rfl,
      fun _ _ _ _ hphase => by cases hphase⟩
  · rcases mem_tasks_step hstep ht with ht | ht
    · obtain ⟨name', hpos, hget⟩ := h.tasks task ht _ _ _ _ ha
      refine ⟨name', hpos, ?_⟩
      rw [hnew, List.getElem?_append_left (List.getElem?_eq_some_iff.mp hget).1, hget]
    · have hmem := mem_shows ht ha
      rw [hu, hshows, List.mem_singleton, ha] at hmem
      cases hmem
      refine ⟨name, by omega, ?_⟩
      rw [hseq', hlen, hnew, Nat.add_sub_cancel, List.getElem?_concat_length]

/-- What comes to a layer is its own. -/
theorem Tied.changed (h : Tied t) (hs : t.step e t') {o o' : QrOverlay} (hov : t.overlay = some o)
    (hc : QrChange o e.msg o') : Belongs t.captures o' := by
  obtain ⟨hstep, hbuilds, -⟩ := Traced.step_iff.mp hs
  obtain ⟨hnum, c, hlast, hname, hread, hshown⟩ := h.overlay o hov
  generalize hmsg : e.msg = msg at hc
  cases hc with
  | ready uri host port fingerprintShort baselineClients =>
    refine ⟨hnum, c, hlast, hname, hread, fun _ _ _ _ hphase => ?_⟩
    cases hphase
    -- the task with this number was dispatched with what was captured last
    obtain ⟨task, ht, secret, readOnly, trust, ha, facade, params, huri, hbuilt⟩ :=
      built_of_ready hstep hbuilds hmsg
    obtain ⟨name, -, hget⟩ := h.tasks task ht _ _ _ _ ha
    rw [hnum, ← List.getLast?_eq_getElem?, hlast] at hget
    cases hget
    exact ⟨facade, params, huri, hbuilt⟩
  | failed err => exact ⟨hnum, c, hlast, hname, hread, fun _ _ _ _ hphase => by cases hphase⟩
  | connected info hshowing hmore =>
    exact ⟨hnum, c, hlast, hname, hread, fun _ _ _ _ hphase => by cases hphase⟩
  | ticked tickCounter => exact ⟨hnum, c, hlast, hname, hread, hshown⟩

theorem Tied.step (h : Tied t) (hs : t.step e t') (hcount : t'.captures.length < 2 ^ 64) :
    Tied t' := by
  rcases qrMove_update t.panel.app e.msg with hk | ⟨hov, hseq, hshows⟩ |
    ⟨name, secret, readOnly, hsecret, hseq, hov, hshows⟩ | ⟨o, o', hov, hov', hc, hseq, hshows⟩
  · exact h.quiet hs hk.seq hk.shows fun o ho => h.overlay o (hk.overlay.symm.trans ho)
  · exact h.quiet hs hseq hshows fun o ho => by cases hov.symm.trans ho
  · exact h.opened hs hcount rfl hsecret hseq hov hshows
  · refine h.quiet hs hseq hshows fun o'' ho => ?_
    cases hov'.symm.trans ho
    exact h.changed hs hov hc

theorem connects_step (t : Traced) (e : Event) : Connects t e := by
  intro t' o' hs ho' hphase
  have happ := step_app (Traced.step_iff.mp hs).1
  rw [Traced.overlay, happ] at ho'
  rcases qrMove_update t.panel.app e.msg with
    hk | ⟨hov, -, -⟩ | ⟨name, secret, readOnly, -, -, hov, -⟩ | ⟨o, o'', hov, hov', hc, -, -⟩
  · exact ⟨o', hk.overlay.symm.trans ho', rfl, .inl hphase⟩
  · cases hov.symm.trans ho'
  · cases hov.symm.trans ho'
    cases hphase
  · cases hov'.symm.trans ho'
    refine ⟨o, hov, ?_⟩
    generalize e.msg = msg at hc
    cases hc with
    | ready => cases hphase
    | failed => cases hphase
    | connected info hshowing hmore => exact ⟨rfl, .inr ⟨hshowing, info, rfl, hmore⟩⟩
    | ticked => exact ⟨rfl, .inl hphase⟩

/-- The first loads are in flight, and no layer has been opened. -/
def start (trust : AdvertiseTrust) : Traced := ⟨startup trust, []⟩

/-- **A code on display belongs to the layer that asked for it.** -/
theorem overlay_belongs {trust : AdvertiseTrust} {es : List Event}
    (hr : Run Traced.step (start trust) es t) (hcount : t.captures.length < 2 ^ 64) :
    (∀ o, t.overlay = some o → Belongs t.captures o) ∧
      Along Traced.step (fun _ => Connects) (start trust) es := by
  refine ⟨?_, fun _ e _ t _ _ => connects_step t e⟩
  have htied : t.captures.length < 2 ^ 64 → Tied t := by
    refine hr.invariant (I := fun t => t.captures.length < 2 ^ 64 → Tied t)
      (fun u e v hu hs hv => ?_) fun _ => ?_
    · exact (hu ((captures_le hs).trans_lt hv)).step hs hv
    · refine ⟨rfl, fun o ho => (by cases ho), fun task ht secret readOnly seq _ ha => ?_⟩
      simp only [start, startup, List.map_cons, List.map_nil, List.mem_cons, List.not_mem_nil,
        or_false] at ht
      rcases ht with rfl | rfl | rfl | rfl | rfl | rfl <;> cases ha
  exact (htied hcount).overlay

/-! ### A run -/

/-- What an event posts as the result of a code is built with these answers. -/
def postsFrom (facade : Facade) (t : Traced) : Event → Bool
  | .input _ => true
  | .result index msg =>
    match t.panel.tasks[index]? with
    | some ⟨.showTokenQr secret readOnly seq trust, _, _⟩ =>
      msg = posted (buildTokenQrTask facade secret readOnly seq trust)
    | _ => true

theorem builds_of_postsFrom {facade : Facade} (h : postsFrom facade t e = true) :
    Builds t.panel e := by
  rintro index msg task secret readOnly seq trust rfl htask ha
  obtain ⟨action, origin, visit⟩ := task
  obtain rfl : action = _ := ha
  rw [postsFrom, htask] at h
  exact ⟨facade, of_decide_eq_true h⟩

/-- A run is one of the panel in which the codes are built with these answers. -/
theorem run_of_check {facade : Facade} {es : List Event} (h : Run (ofFn Traced.next) t es t')
    (hc : check Traced.next (postsFrom facade) t es = true) : Run Traced.step t es t' := by
  induction h with
  | nil t => exact .nil t
  | cons hn hr ih =>
    obtain ⟨hposts, hrest⟩ := Bool.and_eq_true_iff.mp hc
    rw [show Traced.next _ _ = _ from hn] at hrest
    exact .cons ⟨hn, builds_of_postsFrom hposts⟩ (ih hrest)

/-- A server with a certificate of its own. -/
def server : Facade where
  isRunning := true
  effectiveConfig := .ok ⟨"192.168.1.10:50051", "/var/lib/muxrd"⟩
  chooseAdvertiseHost := fun bindHost => bindHost
  serverCertMode := some .external
  currentCertFingerprint := .ok none
  clientCount := some 2

/-- A token is created, and its code is opened twice; the result of the first layer is late. -/
def reopened : List Event :=
  [Event.result 2 (.tokensLoaded []), .input (.ui (.tokens .createSubmit)),
    .result 5 (.tokenCreated "secret" "phone" false), .input (.ui (.tokens .mintedShowQr)),
    .input (.ui (.tokens .qrClose)), .input (.ui (.tokens .showQrForMinted)),
    .result 7 (posted (buildTokenQrTask server "secret" false 2 .auto)),
    .result 6 (posted (buildTokenQrTask server "secret" false 1 .auto))]

theorem overlay_belongs_reopened : ∃ t, Run Traced.step (start .auto) reopened t ∧
    t.captures.length < 2 ^ 64 ∧
      ∃ o, t.overlay = some o ∧ o.phase.isShowing = true ∧ Belongs t.captures o := by
  obtain ⟨t, ht, hlen, hshown⟩ : ∃ t, Run (ofFn Traced.next) (start .auto) reopened t ∧
      t.captures.length = 2 ∧ t.overlay.any (·.phase.isShowing) = true :=
    ⟨_, run_ofFn_iff.mpr rfl, rfl, rfl⟩
  have hcheck : check Traced.next (postsFrom server) (start .auto) reopened = true := by
    decide +kernel
  have hcount : t.captures.length < 2 ^ 64 := by
    rw [hlen]
    decide
  obtain ⟨o, ho, hphase⟩ := (Option.any_eq_true _ _).mp hshown
  have hrun := run_of_check ht hcheck
  exact ⟨t, hrun, hcount, o, ho, hphase, (overlay_belongs hrun hcount).1 o ho⟩

end MuxrCore.Muxrctl.Layers
