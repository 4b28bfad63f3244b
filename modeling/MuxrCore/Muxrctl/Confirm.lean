import MuxrCore.Muxrctl.Frame

/-! # What is confirmed

The dialogs that ask whether to revoke a token, or to remove a device, keep no target of their own:
they act on the row that the cursor is on when the answer comes. Loads that arrive in between move the
cursor, each list in its own way: that of the tokens goes to the first row if its token is gone, that
of the devices to none.

* `acts_iff`: the answer acts on the row that was asked about, or on none, exactly if each list of
  tokens that is loaded in between has that row, or is empty. -/

namespace MuxrCore.Muxrctl.Confirm

open MuxrCore.Lib.Runs
open MuxrCore.Muxrctl.Flight

/-- What a confirmation is about. -/
inductive Row
  | token (name : String)
  | device (name : String)
  deriving DecidableEq, Repr

/-- The question. -/
def Row.request : Row → Message
  | .token _ => .ui (.tokens .revokeRequested)
  | .device _ => .ui (.devices .removeRequested)

/-- The answer. -/
def Row.confirm : Row → Message
  | .token _ => .ui (.tokens .revokeConfirmed)
  | .device _ => .ui (.devices .removeConfirmed)

def Row.dialog : Row → DialogId
  | .token _ => .tokenRevokeConfirm
  | .device _ => .deviceRemoveConfirm

/-- The row that an action takes away. -/
def target : UpdateAction → Option Row
  | .revokeToken name => some (.token name)
  | .removeDevice name => some (.device name)
  | _ => none

def Row.name : Row → String
  | .token name | .device name => name

/-- The cursor of the list that the row is in. -/
def Row.cursor (s : AppState) : Row → Option String
  | .token _ => s.tokens.focused
  | .device _ => s.devices.focused

/-- An answer acts on the row or on none. -/
def ActsOn (row : Row) (s : AppState) : Prop :=
  ∀ a ∈ (update s row.confirm).2, ∀ r, target a = some r → r = row

/-- The question is asked about the row. -/
structure Opens (row : Row) (p q : Panel) : Prop where
  requested : p.step (.input row.request) = some q
  focused : row.cursor p.app = some row.name
  closed : p.app.isOpen row.dialog = false
  opened : q.app.isOpen row.dialog = true

/-- The dialog is open, and the operator does not move the cursor. -/
structure Quiet (row : Row) (p : Panel) (e : Event) : Prop where
  opened : p.app.isOpen row.dialog = true
  still : movesFocus e.msg = false

/-- A list of tokens that is loaded has the row that was asked about, or it is empty. If an empty one
has taken the cursor away, the row is the first one. -/
def Kept (row : Row) (p : Panel) (e : Event) : Prop :=
  ∀ name records, row = .token name → e.msg = .tokensLoaded records →
    records = [] ∨
      if p.app.tokens.focused.isSome then ∃ record ∈ records, record.name = name
      else records.head?.map (·.name) = some name

/-! ### The cursors -/

/-- A list that is loaded moves its own cursor. -/
def reloaded (c : Option String × Option String) : Message → Option String × Option String
  | .tokensLoaded records => (Tokens.refocus c.1 records, c.2)
  | .devicesLoaded devices _ => (c.1, Devices.refocus c.2 devices)
  | _ => c

variable {s : AppState}

theorem cursors_of_frame {t : AppState} (h : frame t = frame s) : cursors t = cursors s :=
  congrArg Prod.fst h

theorem cursors_goto (step : WizardStep) : cursors (Wizard.goto s step).1 = cursors s := by
  unfold Wizard.goto
  dsimp only
  split_ifs
  · exact (cursors_of_frame frame_enterPair).trans rfl
  · rfl

theorem cursors_proceed : cursors (Wizard.proceed s).1 = cursors s := cursors_goto _

theorem cursors_maybeAutoOpen : cursors (Wizard.maybeAutoOpen s).1 = cursors s := by
  obtain ⟨w, -, -, h⟩ | ⟨w, -, -, -, h⟩ := maybeAutoOpen_cases s
  · exact congrArg (cursors ·.1) h
  · rw [h]
    exact (cursors_of_frame (frame_openHook _)).trans rfl

theorem cursors_wizardNext : cursors (Wizard.next s).1 = cursors s := by
  unfold Wizard.next
  split_ifs
  · rfl
  cases s.wizard.step with
  | welcome => exact cursors_goto _
  | network =>
    obtain ⟨c, e, h, -⟩ | ⟨c, h, -⟩ := saveBind_cases s
    · exact congrArg (cursors ·.1) h
    · exact congrArg (cursors ·.1) h
  | certificate =>
    dsimp only
    unfold Wizard.ensureCert
    split_ifs
    · exact cursors_goto _
    · rfl
  | token => rfl
  | start =>
    obtain ⟨-, h⟩ | ⟨-, -, e, h⟩ | ⟨-, -, q, -, h⟩ := startDaemon_cases s
    · exact (congrArg (cursors ·.1) h).trans (cursors_goto _)
    · exact congrArg (cursors ·.1) h
    · exact congrArg (cursors ·.1) h
  | pair => rfl

theorem cursors_wizard (msg : WizardMsg) : cursors (Wizard.update s msg).1 = cursors s := by
  unfold Wizard.update
  cases msg with
  | close => exact (cursors_of_frame (frame_closeAll _)).trans rfl
  | next => exact cursors_wizardNext
  | back =>
    dsimp only
    unfold Wizard.back
    split_ifs <;> rfl
  | regenAckChanged ack => rfl
  | finish => exact (cursors_of_frame (frame_closeAll _)).trans rfl

theorem cursors_actionOk (msg : String) : cursors (onActionOk s msg).1 = cursors s := by
  have hwizard : ∀ t, cursors (Wizard.onActionOk t).1 = cursors t := by
    intro t
    unfold Wizard.onActionOk
    split_ifs
    · exact cursors_proceed
    · rfl
  unfold onActionOk Updated.andThen
  refine (hwizard _).trans ?_
  dsimp only
  split_ifs
  · exact cursors_of_frame frame_closeTop
  · rfl
  · rfl

theorem cursors_actionFailed (msg : String) : cursors (onActionFailed s msg).1 = cursors s := by
  unfold onActionFailed Wizard.onActionFailed
  dsimp only
  split_ifs <;> rfl

theorem cursors_statusLoaded (info : Option ServerInfo) :
    cursors ((Server.onStatusLoaded s info).andThen Wizard.onStatusLoaded).1 = cursors s := by
  have hwizard : ∀ t, cursors (Wizard.onStatusLoaded t).1 = cursors t := by
    intro t
    unfold Wizard.onStatusLoaded
    split_ifs
    · exact cursors_proceed
    · rfl
  unfold Updated.andThen
  exact (hwizard _).trans (cursors_of_frame (frame_statusLoaded s info).1)

theorem cursors_certEnsured (fingerprint : String) (sans : List String) :
    cursors ((Cert.onCertEnsured s fingerprint sans).andThen Wizard.onCertEnsured).1 =
      cursors s := by
  unfold Updated.andThen Wizard.onCertEnsured
  dsimp only
  split_ifs
  · exact cursors_proceed
  · rfl

theorem cursors_tokenCreated (token name : String) (readOnly : Bool) :
    cursors ((Tokens.onTokenCreated s token name readOnly).andThen Wizard.onTokenCreated).1 =
      cursors s := by
  have hwizard : ∀ t, cursors (Wizard.onTokenCreated t).1 = cursors t := by
    intro t
    unfold Wizard.onTokenCreated
    split_ifs
    · exact cursors_proceed
    · exact cursors_proceed
    · rfl
  unfold Updated.andThen
  refine (hwizard _).trans ?_
  unfold Tokens.onTokenCreated
  dsimp only
  split_ifs
  · exact cursors_of_frame (frame_openHook _)
  · exact cursors_of_frame (frame_openHook _)

/-- **Where the cursors go**, if the operator does not move them. -/
theorem cursors_update {msg : Message} (h : movesFocus msg = false) :
    cursors (update s msg).1 = reloaded (cursors s) msg := by
  cases msg with
  | key key => exact cursors_of_frame (frame_key key)
  | tick => exact cursors_of_frame frame_tick
  | quit => rfl
  | ui msg =>
    cases msg with
    | focus => rfl
    | «open» id => exact cursors_of_frame (frame_openHook id)
    | close => exact cursors_of_frame frame_closeTop
    | config msg => exact cursors_of_frame (frame_config msg)
    | server msg => exact cursors_of_frame (frame_server msg)
    | cert msg => exact cursors_of_frame (frame_cert msg)
    | tokens msg => exact cursors_of_frame (frame_tokens h)
    | devices msg => exact cursors_of_frame (frame_devices h)
    | wizard msg => exact cursors_wizard msg
  | statusLoaded info => exact cursors_statusLoaded info
  | configLoaded snapshot => exact cursors_of_frame (frame_configLoaded snapshot)
  | certEnsured fingerprint sans => exact cursors_certEnsured fingerprint sans
  | certInfoLoaded fingerprint sans => exact cursors_maybeAutoOpen
  | certModeLoaded mode => rfl
  | actionOk msg => exact cursors_actionOk msg
  | actionFailed msg => exact cursors_actionFailed msg
  | tokensLoaded records => exact cursors_maybeAutoOpen
  | tokenCreated token name readOnly => exact cursors_tokenCreated token name readOnly
  | tokensChanged => rfl
  | devicesLoaded devices relayUrl => rfl
  | devicesChanged => rfl
  | tokenQrReady uri host port fingerprintShort baselineClients seq =>
    exact cursors_of_frame (frame_qrReady uri host port fingerprintShort baselineClients seq)
  | tokenQrFailed err seq => exact cursors_of_frame (frame_qrFailed err seq)

/-! ### The answer -/

/-- Closing a dialog takes no row away. -/
theorem target_closeTop {a : UpdateAction} (h : a ∈ (closeTop s).2) : target a = none := by
  unfold closeTop at h
  split at h
  next id _ =>
    cases id <;> first | (obtain rfl := List.mem_singleton.mp h; rfl) | cases h
  · cases h

/-- The cursor is on the row, or on none. -/
def OnRow (row : Row) (s : AppState) : Prop := ∀ name, row.cursor s = some name → name = row.name

/-- A revocation is of the token that the cursor is on. -/
theorem actsOn_token_iff {name : String} : ActsOn (.token name) s ↔ OnRow (.token name) s := by
  have hfocused : (closeTop s).1.tokens.focused = s.tokens.focused :=
    congrArg (·.1.1) frame_closeTop
  unfold ActsOn Row.confirm
  change (∀ a ∈ (Tokens.update s .revokeConfirmed).2, _) ↔ _
  unfold Tokens.update
  dsimp only
  rw [hfocused]
  constructor
  · intro h y hy
    change s.tokens.focused = some y at hy
    rw [hy] at h
    have hact := h (.revokeToken y) (List.mem_append_right _ (List.mem_singleton_self _)) _ rfl
    exact Row.token.inj hact
  · intro h a ha r hr
    cases hf : s.tokens.focused with
    | none =>
      rw [hf] at ha
      rw [target_closeTop ha] at hr
      cases hr
    | some y =>
      rw [hf] at ha
      rcases List.mem_append.mp ha with ha | ha
      · rw [target_closeTop ha] at hr
        cases hr
      · obtain rfl := List.mem_singleton.mp ha
        obtain rfl := Option.some.inj hr
        exact congrArg Row.token (h y hf)

/-- A removal is of the device that the cursor is on, if it is still registered. -/
theorem actsOn_device {name : String} (h : OnRow (.device name) s) : ActsOn (.device name) s := by
  have hfocused : (closeTop s).1.devices.focused = s.devices.focused :=
    congrArg (·.1.2) frame_closeTop
  unfold ActsOn Row.confirm
  change ∀ a ∈ (Devices.update s .removeConfirmed).2, _
  unfold Devices.update
  dsimp only
  intro a ha r hr
  cases hd : (closeTop s).1.devices.focusedDevice with
  | none =>
    rw [hd] at ha
    rw [target_closeTop ha] at hr
    cases hr
  | some device =>
    rw [hd] at ha
    rcases List.mem_append.mp ha with ha | ha
    · rw [target_closeTop ha] at hr
      cases hr
    · obtain rfl := List.mem_singleton.mp ha
      obtain rfl := Option.some.inj hr
      unfold DevicesState.focusedDevice at hd
      obtain ⟨y, hy, hfind⟩ := Option.bind_eq_some_iff.mp hd
      have hname : device.deviceName = y := by simpa using List.find?_some hfind
      rw [hfocused] at hy
      exact congrArg Row.device (hname.trans (h y hy))

/-! ### What a step does to the cursor -/

variable {p q : Panel} {e : Event}

/-- A load leaves the cursor on a token that is still there, or takes the first one. -/
theorem refocus_token_iff {focused : Option String} {name : String} {records : List TokenRecord}
    (h : ∀ y, focused = some y → y = name) :
    (∀ y, Tokens.refocus focused records = some y → y = name) ↔
      records = [] ∨
        if focused.isSome then ∃ record ∈ records, record.name = name
        else records.head?.map (·.name) = some name := by
  unfold Tokens.refocus
  cases focused with
  | none =>
    cases records with
    | nil => simp
    | cons r rs => simp
  | some y =>
    obtain rfl := h y rfl
    by_cases hin : ∃ record ∈ records, record.name = y
    · have hany : (some y).any (fun name => records.any (·.name = name)) = true := by
        simpa using hin
      rw [if_pos hany]
      exact iff_of_true (fun z hz => (Option.some.inj hz).symm) (.inr hin)
    · -- the first row is another token, if there is one
      have hany : (some y).any (fun name => records.any (·.name = name)) = false := by
        simpa using hin
      rw [hany, if_neg Bool.false_ne_true]
      cases records with
      | nil => simp
      | cons r rs =>
        have hr : r.name ≠ y := fun hr => hin ⟨r, List.mem_cons_self, hr⟩
        refine iff_of_false (fun hall => hr (hall _ rfl)) ?_
        rintro (hnil | hmem)
        · cases hnil
        · exact hin hmem

theorem onRow_token_step {name : String} (hp : OnRow (.token name) p.app) (h : p.step e = some q)
    (hstill : movesFocus e.msg = false) : OnRow (.token name) q.app ↔ Kept (.token name) p e := by
  have hcursors := congrArg Prod.fst (cursors_update (s := p.app) hstill)
  unfold OnRow Kept Row.cursor
  rw [step_app h]
  cases hmsg : e.msg with
  | tokensLoaded records =>
    rw [hmsg] at hcursors
    have hfocused : (update p.app (.tokensLoaded records)).1.tokens.focused =
      Tokens.refocus p.app.tokens.focused records := hcursors
    dsimp only
    rw [hfocused]
    refine (refocus_token_iff hp).trans ⟨fun hkept n rs hn hrs => ?_, fun hkept => ?_⟩
    · obtain rfl := Row.token.inj hn
      obtain rfl := Message.tokensLoaded.inj hrs
      exact hkept
    · exact hkept name records rfl rfl
  | _ =>
    -- every other message leaves the cursor where it is
    rw [hmsg] at hcursors
    refine iff_of_true (fun y hy => hp y (hcursors.symm.trans hy)) ?_
    intro n rs _ hrs
    cases hrs

/-- A load leaves the cursor on a device that is still there, or takes it away. -/
theorem onRow_device_step {name : String} (hp : OnRow (.device name) p.app) (h : p.step e = some q)
    (hstill : movesFocus e.msg = false) : OnRow (.device name) q.app := by
  have hcursors := congrArg Prod.snd (cursors_update (s := p.app) hstill)
  intro y hy
  unfold Row.cursor at hy
  dsimp only at hy
  rw [step_app h] at hy
  cases hmsg : e.msg with
  | devicesLoaded devices relayUrl =>
    rw [hmsg] at hcursors hy
    have hfocused := hcursors.symm.trans hy
    exact hp y (Option.filter_eq_some_iff.mp hfocused).1
  | _ =>
    rw [hmsg] at hcursors hy
    exact hp y (hcursors.symm.trans hy)

/-! ### The whole time -/

variable {row : Row} {p₀ : Panel} {events : List Event}

theorem onRow_of_opens (h : Opens row p₀ p) : OnRow row p.app := by
  have hstill : movesFocus row.request = false := by cases row <;> rfl
  have hcursors := cursors_update (s := p₀.app) hstill
  intro y hy
  rw [step_app h.requested] at hy
  have hfocused := h.focused
  cases row with
  | token name =>
    have := (congrArg Prod.fst hcursors).symm.trans hy
    exact Option.some.inj (this.symm.trans hfocused)
  | device name =>
    have := (congrArg Prod.snd hcursors).symm.trans hy
    exact Option.some.inj (this.symm.trans hfocused)

/-- **The answer acts on the row that was asked about, or on none, in exactly the runs in which the
loads keep the row.** -/
theorem acts_iff (ho : Opens row p₀ p) (hr : Run (ofFn Panel.step) p events q)
    (hq : Along (ofFn Panel.step) (fun _ => Quiet row) p events) :
    (∀ pre post u, events = pre ++ post → Run (ofFn Panel.step) p pre u → ActsOn row u.app) ↔
      Along (ofFn Panel.step) (fun _ => Kept row) p events := by
  have hstart := onRow_of_opens ho
  cases row with
  | token name =>
    simp only [actsOn_token_iff]
    refine hr.always_iff ofFn_unique (I := fun u => OnRow (.token name) u.app)
      (fun pre e post u v he hu hI huv => ?_) hstart
    exact onRow_token_step hI huv (hq pre e post u he hu).still
  | device name =>
    refine iff_of_true (fun pre post u he hu => ?_) ?_
    · refine actsOn_device (hu.invariant_along (I := fun u => OnRow (.device name) u.app)
        (C := fun _ => Quiet (.device name)) (fun _ _ _ _ hI hC ht => ?_) hstart ?_)
      · exact onRow_device_step hI ht hC.still
      · exact (he ▸ hq).left
    · intro pre e post u he hu n rs hn
      cases hn

/-! ### Another token is revoked -/

def phone : TokenRecord := ⟨"phone", "2026-01-01T00:00:00Z", false⟩

def laptop : TokenRecord := ⟨"laptop", "2026-01-02T00:00:00Z", false⟩

/-- The list is opened while the first load is in flight, which comes back with two tokens. -/
def openList : List Event :=
  [.input (.key ⟨some 't', false⟩), .result 2 (.tokensLoaded [phone, laptop])]

/-- The load of the dialog comes back under the question whether to revoke the first token, which is
gone by then: the answer revokes the second one. -/
theorem revokes_another :
    ∃ p₀ p q, Run (ofFn Panel.step) (startup .auto) openList p₀ ∧ Opens (.token "phone") p₀ p ∧
      Run (ofFn Panel.step) p [.result 5 (.tokensLoaded [laptop])] q ∧
      Along (ofFn Panel.step) (fun _ => Quiet (.token "phone")) p
        [.result 5 (.tokensLoaded [laptop])] ∧
      .revokeToken "laptop" ∈ (update q.app (Row.token "phone").confirm).2 ∧
      ¬ ActsOn (.token "phone") q.app := by
  refine ⟨_, _, _, Run.cons rfl (Run.cons rfl (Run.nil _)), ⟨rfl, rfl, rfl, rfl⟩,
    Run.cons rfl (Run.nil _), along_cons_iff.mpr ⟨⟨rfl, rfl⟩, fun t _ => along_nil _ t⟩, ?_,
    fun h => ?_⟩
  · exact List.mem_singleton_self _
  · exact absurd (h (.revokeToken "laptop") (List.mem_singleton_self _) _ rfl) (by decide)

/-- The list is loaded again, and has the token. -/
theorem acts_iff_reloaded :
    ∃ p₀ p q, Run (ofFn Panel.step) (startup .auto) openList p₀ ∧ Opens (.token "phone") p₀ p ∧
      Run (ofFn Panel.step) p [.result 5 (.tokensLoaded [laptop, phone])] q ∧
      ((∀ pre post u, [.result 5 (.tokensLoaded [laptop, phone])] = pre ++ post →
        Run (ofFn Panel.step) p pre u → ActsOn (.token "phone") u.app) ↔
        Along (ofFn Panel.step) (fun _ => Kept (.token "phone")) p
          [.result 5 (.tokensLoaded [laptop, phone])]) := by
  have hrun : ∃ p₀ p q, Run (ofFn Panel.step) (startup .auto) openList p₀ ∧
      Opens (.token "phone") p₀ p ∧
      Run (ofFn Panel.step) p [.result 5 (.tokensLoaded [laptop, phone])] q ∧
      Along (ofFn Panel.step) (fun _ => Quiet (.token "phone")) p
        [.result 5 (.tokensLoaded [laptop, phone])] :=
    ⟨_, _, _, Run.cons rfl (Run.cons rfl (Run.nil _)), ⟨rfl, rfl, rfl, rfl⟩,
      Run.cons rfl (Run.nil _), along_cons_iff.mpr ⟨⟨rfl, rfl⟩, fun t _ => along_nil _ t⟩⟩
  obtain ⟨p₀, p, q, hlist, ho, hr, hq⟩ := hrun
  exact ⟨p₀, p, q, hlist, ho, hr, acts_iff ho hr hq⟩

end MuxrCore.Muxrctl.Confirm
