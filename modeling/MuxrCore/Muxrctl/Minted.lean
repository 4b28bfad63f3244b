import MuxrCore.Muxrctl.Overlay

/-! # The secret of a new token

The panel holds the secret of the token created last, which it can show nowhere else, and promises
it until the operator confirms a revocation or another token is created. The result of a revocation
may come late; it takes away whatever secret is held then.

* `secret_kept_iff`: the promise is kept in a run exactly if no revocation ends under it. -/

namespace MuxrCore.Muxrctl.Minted

open MuxrCore.Lib.Runs

/-- What is promised after a message. -/
def promise (m : Option (String × String × Bool)) : Message → Option (String × String × Bool)
  | .tokenCreated token name readOnly => some (name, token, readOnly)
  | .ui (.tokens .revokeConfirmed) => none
  | _ => m

/-- The name, the secret and the kind of the token that is promised. -/
def promised (es : List Event) : Option (String × String × Bool) :=
  es.foldl (fun m e => promise m e.msg) none

/-- The promise is kept. -/
def Kept (es : List Event) (p : Panel) : Prop :=
  ∀ m, promised es = some m → p.app.tokens.lastMintedSecret = some m

/-- A revocation that ends finds nothing promised. -/
def Unpromised (es : List Event) (_ : Panel) (e : Event) : Prop :=
  e.msg = .tokensChanged → promised es = none

variable {p q : Panel} {es : List Event} {e : Event}

theorem promised_concat (es : List Event) (e : Event) :
    promised (es ++ [e]) = promise (promised es) e.msg := by
  simp [promised]

/-- A message keeps a promise, unless a revocation ends. -/
theorem secretAfter_of_promise {s : AppState} {msg : Message}
    {m m' : Option (String × String × Bool)} (hmsg : msg ≠ .tokensChanged)
    (hkept : ∀ x, m = some x → s.tokens.lastMintedSecret = some x) (hm : promise m msg = m') :
    ∀ x, m' = some x → secretAfter s msg = some x := by
  rintro x rfl
  unfold promise at hm
  split at hm
  · rw [secretAfter]
    exact hm
  · cases hm
  next hcreated hrevoked =>
    unfold secretAfter
    split
    next token name readOnly => exact absurd rfl (hcreated token name readOnly)
    · exact absurd rfl hmsg
    · exact absurd rfl hrevoked
    · exact hkept x hm

/-- A step keeps the promise, if what it ends finds nothing promised. -/
theorem kept_step (h : Kept es p) (hC : Unpromised es p e) (he : p.step e = some q) :
    Kept (es ++ [e]) q := by
  intro m hm
  rw [promised_concat] at hm
  rw [step_app he, secret_update]
  by_cases hmsg : e.msg = .tokensChanged
  · have hm : promised es = some m := by rw [← hm, hmsg]; rfl
    cases (hC hmsg).symm.trans hm
  · exact secretAfter_of_promise hmsg h rfl m hm

/-- **When a secret is kept as long as promised**: exactly if no revocation ends while a secret is
promised. -/
theorem secret_kept_iff (hr : Run (ofFn Panel.step) p es q) :
    (∀ pre post u, es = pre ++ post → Run (ofFn Panel.step) p pre u → Kept pre u) ↔
      Along (ofFn Panel.step) Unpromised p es := by
  constructor
  · intro h pre e post u hes hu hmsg
    obtain ⟨v, hv, -⟩ := run_cons_iff.mp (hr.split hes hu)
    have hkept := h (pre ++ [e]) post v (by simp [hes]) (hu.concat hv)
    -- the secret is gone after the step, and the promise is the one before
    have hgone : v.app.tokens.lastMintedSecret = none := by
      rw [step_app hv, secret_update, hmsg]
      rfl
    have hsame : promised (pre ++ [e]) = promised pre := by
      rw [promised_concat, hmsg]
      rfl
    rcases hm : promised pre with _ | m
    · rfl
    · cases hgone.symm.trans (hkept m (hsame.trans hm))
  · rintro h pre post u rfl hu
    exact hu.history_along (I := Kept) (fun pre u e v _ hI hC he => kept_step hI hC he)
      (fun m hm => by cases hm) h.left

/-! ### A run -/

/-- A token of the list. -/
def old : TokenRecord := ⟨"old", "today", false⟩

/-- The operator confirms that the token is revoked, which takes its time; has the list loaded
again; and creates another token. -/
def minting : List Event :=
  [Event.result 2 (.tokensLoaded [old]), .input (.ui (.tokens .revokeRequested)),
    .input (.ui (.tokens .revokeConfirmed)), .input (.ui (.tokens .refresh)),
    .result 6 (.tokensLoaded [old]), .input (.ui (.tokens .createRequested)),
    .input (.ui (.tokens .createSubmit)), .result 6 (.tokenCreated "secret" "new" false)]

/-- Its secret is held. -/
theorem secret_kept_iff_minting : ∃ q, Run (ofFn Panel.step) (startup .auto) minting q ∧
    q.app.tokens.lastMintedSecret = some ("new", "secret", false) := by
  obtain ⟨q, hq⟩ : ∃ q, Run (ofFn Panel.step) (startup .auto) minting q :=
    ⟨_, run_ofFn_iff.mpr rfl⟩
  refine ⟨q, hq, (secret_kept_iff hq).mpr ?_ minting [] q (by simp) hq _ (by decide +kernel)⟩
  intro pre e post u hes _ hmsg
  have hno : ∀ e ∈ minting, e.msg ≠ .tokensChanged := by decide +kernel
  exact absurd hmsg (hno e (by simp [hes]))

/-- **A secret is lost**: the revocation that was confirmed before ends after the creation. -/
theorem secret_lost : ¬ ∀ (p q : Panel) (es : List Event), Run (ofFn Panel.step) p es q →
    Kept es q := by
  intro h
  obtain ⟨q, hq, hlost⟩ : ∃ q,
      Run (ofFn Panel.step) (startup .auto) (minting ++ [Event.result 5 .tokensChanged]) q ∧
        q.app.tokens.lastMintedSecret = none :=
    ⟨_, run_ofFn_iff.mpr rfl, rfl⟩
  have hkept := h _ _ _ hq ("new", "secret", false) (by decide +kernel)
  cases hlost.symm.trans hkept

end MuxrCore.Muxrctl.Minted
