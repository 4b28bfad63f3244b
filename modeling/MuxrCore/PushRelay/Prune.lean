import MuxrCore.PushRelay.Notify

/-! # Which token is disowned

A send that the push service answers with `unregistered` disowns the token that the request has
looked up; the relay then marks the handle. `lastToken` is the token that a registration has given
the handle since the lookup. The mark falls on a token that was not disowned exactly if that is
another one (`prunes_own_iff`), and then a device that has just registered gets no more messages
(`prunes_refreshed`). -/

namespace MuxrCore.PushRelay.Prune

open MuxrCore.Lib.Runs MuxrCore.Lib.Tables MuxrCore.PushRelay.Store MuxrCore.PushRelay.Notify

/-- The token that an action gives a handle. -/
def givesToken (handle : String) : Act → Option String
  | .register _ req _ _ (.ok h) => if h = handle then some req.fcmToken else none
  | _ => none

/-- The action is the lookup of a request. -/
def looksUp (id : ℕ) : Act → Bool
  | .lookup i _ => i = id
  | _ => false

/-- The last token that the handle was given since the request has looked it up. -/
def lastToken (pre : List Act) (id : ℕ) (handle : String) : Option String :=
  (pre.reverse.takeWhile fun a => !looksUp id a).findSome? (givesToken handle)

/-- A mark falls on the token of the request. -/
def PrunesOwn (_ : List Act) (s : Relay) (a : Act) : Prop :=
  ∀ id reg, a = .prune id false → s.requests[id]? = some (.prune reg) →
    ∀ row, s.rows reg.handle = some row → row.fcmToken = reg.fcmToken

/-- If the handle that is marked has a row, then no registration has given it another token since
the lookup, or the last one has given it the same token. -/
def Unrefreshed (pre : List Act) (s : Relay) (a : Act) : Prop :=
  ∀ id reg, a = .prune id false → s.requests[id]? = some (.prune reg) →
    (s.rows reg.handle).isSome = true →
      ∀ token, lastToken pre id reg.handle = some token → token = reg.fcmToken

theorem lastToken_append (pre : List Act) (a : Act) (id : ℕ) (handle : String) :
    lastToken (pre ++ [a]) id handle =
      if looksUp id a then none else (givesToken handle a).or (lastToken pre id handle) := by
  unfold lastToken
  rw [List.reverse_append, List.reverse_singleton, List.singleton_append, List.takeWhile_cons]
  rcases hl : looksUp id a with _ | _
  · simp only [Bool.not_false, if_true, List.findSome?_cons, Bool.false_eq_true, if_false]
    rcases givesToken handle a with _ | token <;> rfl
  · rfl

/-- A row has the token that its handle was given last, as far as a request knows. -/
def Tracked (pre : List Act) (s : Relay) : Prop :=
  ∀ id phase reg, s.requests[id]? = some phase → phase.reg? = some reg →
    ∀ row, s.rows reg.handle = some row →
      row.fcmToken = (lastToken pre id reg.handle).getD reg.fcmToken

/-! ### One step -/

variable {dailyCap : ℕ} {s t : Relay} {pre : List Act} {a : Act} {id : ℕ}

/-- An action that gives no handle a token and looks up none. -/
def Quiet (a : Act) : Prop := (∀ id, looksUp id a = false) ∧ ∀ handle, givesToken handle a = none

theorem lastToken_quiet (h : Quiet a) (id : ℕ) (handle : String) :
    lastToken (pre ++ [a]) id handle = lastToken pre id handle := by
  rw [lastToken_append, h.1 id, h.2 handle]
  simp

/-- The rows have the tokens that they had, if they are still there. -/
def SameTokens (rows rows' : Rows) : Prop :=
  ∀ handle row, rows' handle = some row →
    ∃ old, rows handle = some old ∧ old.fcmToken = row.fcmToken

theorem SameTokens.refl (rows : Rows) : SameTokens rows rows := fun _ row hr => ⟨row, hr, rfl⟩

theorem sameTokens_update {rows : Rows} {handle : String} {f : Row → Row}
    (hf : ∀ row, (f row).fcmToken = row.fcmToken) :
    SameTokens rows (Function.update rows handle ((rows handle).map f)) := by
  intro h row hr
  rcases update_eq_some.mp hr with ⟨rfl, hr⟩ | ⟨-, hr⟩
  · obtain ⟨old, ho, rfl⟩ := Option.map_eq_some_iff.mp hr
    exact ⟨old, ho, (hf old).symm⟩
  · exact ⟨row, hr, rfl⟩

/-- A quiet action, after which the requests have found what they had found. -/
theorem Tracked.quiet (h : Tracked pre s) (ha : Quiet a) {rows : Rows} {requests : List Phase}
    {accepted : List (String × ℕ)} {minted : String → Prop} (hrows : SameTokens s.rows rows)
    (hreq : ∀ (id : ℕ) (phase : Phase) (reg : Registration), requests[id]? = some phase →
      phase.reg? = some reg → ∃ old : Phase, s.requests[id]? = some old ∧ old.reg? = some reg) :
    Tracked (pre ++ [a]) ⟨rows, requests, accepted, minted⟩ := by
  intro id phase reg hp hreg row hr
  obtain ⟨old, ho, hold⟩ := hreq id phase reg hp hreg
  obtain ⟨orow, hor, htoken⟩ := hrows _ row hr
  rw [lastToken_quiet ha, ← htoken]
  exact h id old reg ho hold orow hor

/-- The other requests are as they were, and this one has found nothing new. -/
theorem found_set {old new : Phase} (hold : s.requests[id]? = some old)
    (hnew : ∀ reg, new.reg? = some reg → old.reg? = some reg) :
    ∀ (j : ℕ) (phase : Phase) (reg : Registration), (s.requests.set id new)[j]? = some phase →
      phase.reg? = some reg → ∃ old : Phase, s.requests[j]? = some old ∧ old.reg? = some reg := by
  intro j phase reg hp hreg
  rw [List.getElem?_set] at hp
  split_ifs at hp with hj hlt
  · cases hp
    exact ⟨old, by rw [← hj, hold], hnew reg hreg⟩
  · exact ⟨phase, hp, hreg⟩

theorem Tracked.notify (h : Tracked pre s) (allowed : Bool) (req : NotifyRequest) :
    Tracked (pre ++ [Act.notify allowed req])
      { s with requests := s.requests ++ [.received allowed req] } := by
  refine h.quiet ⟨fun _ => rfl, fun _ => rfl⟩ (.refl _) fun j phase reg hp hreg => ?_
  rw [List.getElem?_append] at hp
  split at hp
  · exact ⟨phase, hp, hreg⟩
  · have hnew : (Phase.received allowed req).reg? = none := by
      unfold Phase.received
      split_ifs <;> rfl
    obtain rfl := List.mem_singleton.mp (List.mem_of_getElem? hp)
    rw [hnew] at hreg
    cases hreg

theorem Tracked.lookup (h : Tracked pre s) (req : NotifyRequest) (failed : Option String) :
    Tracked (pre ++ [Act.lookup id failed]) (s.set id
      (.found req (failed.elim (.ok (Store.get s.rows req.pushHandle)) .error))) := by
  intro j phase reg hp hreg row hr
  change (s.requests.set id _)[j]? = some phase at hp
  rw [List.getElem?_set] at hp
  rw [lastToken_append]
  split_ifs at hp with hj hlt
  · -- the row has just been read
    cases hp
    subst hj
    rw [if_pos (by simp [looksUp])]
    rcases failed with _ | e
    · rcases hg : Store.get s.rows req.pushHandle with _ | found
      · rw [hg] at hreg
        cases hreg
      · simp only [hg, Option.elim_none, Phase.found] at hreg
        obtain ⟨old, ho, rfl⟩ := Option.map_eq_some_iff.mp hg
        split_ifs at hreg
        · cases hreg
        · cases hreg
          change s.rows req.pushHandle = some row at hr
          rw [ho] at hr
          cases hr
          rfl
    · cases hreg
  · rw [if_neg (by simpa [looksUp] using hj)]
    exact h j phase reg hp hreg row hr

/-- The row that the store answers with has the token; the others are as they were. -/
theorem store_register_tokens (rows : Rows) (platform token : String) (existing : Option String)
    (newHandle : String) (now : ℕ) :
    let r := Store.register rows platform token existing newHandle now
    (∃ handle row, r = (Function.update rows handle (some row), .ok handle) ∧
      row.fcmToken = token) ∨ ∃ e, r = (rows, .error e) := by
  intro r
  rcases hx : existing.bind fun handle => (rows handle).map fun row => (handle, row)
    with _ | ⟨handle, old⟩
  · rcases hn : rows newHandle with _ | other
    · exact Or.inl ⟨newHandle, .new platform token now,
        by simp only [r, Store.register, hx, hn], rfl⟩
    · exact Or.inr ⟨"UNIQUE constraint failed: registrations.handle",
        by simp only [r, Store.register, hx, hn]⟩
  · exact Or.inl ⟨handle, old.refresh platform token, by simp only [r, Store.register, hx], rfl⟩

/-- The row that a registration answers with has the token registered; the others are as they
were. -/
theorem register_tokens (rows : Rows) (allowed : Bool) (req : RegisterRequest) (newHandle : String)
    (now : ℕ) {handle : String} {row : Row}
    (h : (Notify.register rows allowed req newHandle now).1 handle = some row) :
    givesToken handle (.register allowed req newHandle now
        (Notify.register rows allowed req newHandle now).2) = some row.fcmToken ∨
      givesToken handle (.register allowed req newHandle now
        (Notify.register rows allowed req newHandle now).2) = none ∧ rows handle = some row := by
  unfold Notify.register at h ⊢
  split_ifs at h ⊢
  · exact Or.inr ⟨rfl, h⟩
  · exact Or.inr ⟨rfl, h⟩
  · exact Or.inr ⟨rfl, h⟩
  · rcases store_register_tokens rows req.platform req.fcmToken req.existingHandle newHandle
      now with
      ⟨handle', new, hr, htoken⟩ | ⟨e, hr⟩
    · rw [hr] at h ⊢
      simp only [Function.update_apply, givesToken] at h ⊢
      split_ifs at h with hh
      · cases h
        exact Or.inl (by rw [if_pos hh.symm, htoken])
      · exact Or.inr ⟨if_neg (Ne.symm hh), h⟩
    · rw [hr] at h ⊢
      exact Or.inr ⟨rfl, h⟩

/-- **The rows' tokens are tracked.** -/
theorem tracked_step (h : Tracked pre s) (ha : Step dailyCap s a t) : Tracked (pre ++ [a]) t := by
  rcases ha with ⟨allowed, req⟩ | ⟨-, failed⟩ | ⟨hold, now⟩ | ⟨hold, allowed⟩ |
    ⟨hold, outcome⟩ | ⟨hold, failed⟩ | ⟨hold, failed⟩ | ⟨allowed, req, now, hfresh⟩ | handle
  · exact h.notify allowed req
  · exact h.lookup _ failed
  · refine h.quiet ⟨fun _ => rfl, fun _ => rfl⟩ (.refl _) (found_set hold fun reg hreg => ?_)
    unfold Phase.checked at hreg
    split_ifs at hreg
    · cases hreg
    · exact hreg
  · refine h.quiet ⟨fun _ => rfl, fun _ => rfl⟩ (.refl _) (found_set hold fun reg hreg => ?_)
    rcases allowed with _ | _
    · cases hreg
    · exact hreg
  · refine h.quiet ⟨fun _ => rfl, fun _ => rfl⟩ (.refl _) (found_set hold fun reg hreg => ?_)
    rcases outcome with e | ⟨_ | _ | _⟩
    · cases hreg
    · exact hreg
    · exact hreg
    · cases hreg
  · refine h.quiet ⟨fun _ => rfl, fun _ => rfl⟩ ?_ (found_set hold fun reg hreg => by cases hreg)
    rcases failed with _ | _
    · exact sameTokens_update fun _ => rfl
    · exact .refl _
  · refine h.quiet ⟨fun _ => rfl, fun _ => rfl⟩ ?_ (found_set hold fun reg hreg => by cases hreg)
    rcases failed with _ | _
    · exact sameTokens_update fun _ => rfl
    · exact .refl _
  · intro j phase reg hp hreg row hr
    rw [lastToken_append, if_neg (by simp [looksUp])]
    rcases register_tokens s.rows allowed req _ now hr with hgive | ⟨hgive, hrow⟩
    · rw [hgive]
      rfl
    · rw [hgive, Option.none_or]
      exact h j phase reg hp hreg row hrow
  · refine h.quiet ⟨fun _ => rfl, fun _ => rfl⟩ (fun h' row hr => ?_)
      fun j phase reg hp hreg => ⟨phase, hp, hreg⟩
    rcases update_eq_some.mp hr with ⟨-, hr⟩ | ⟨-, hr⟩
    · cases hr
    · exact ⟨row, hr, rfl⟩

/-- **Which token is disowned**: in a run from a start without requests, every mark falls on the
token that its request was sent to, exactly if no handle that is marked has been given another token
since the request's lookup. -/
theorem prunes_own_iff {as : List Act} (hs : s.requests = []) :
    Along (Step dailyCap) PrunesOwn s as ↔ Along (Step dailyCap) Unrefreshed s as := by
  have htracked : ∀ pre u, Run (Step dailyCap) s pre u → Tracked pre u := fun pre u hr =>
    hr.history (I := Tracked) (fun _ _ _ _ _ hi ha => tracked_step hi ha)
      fun j phase reg hp => by simp [hs] at hp
  refine ⟨fun h => h.mono ?_, fun h => h.mono ?_⟩
  · intro pre u a hr hown id reg ha hp hrow token htoken
    obtain ⟨row, hrow⟩ := Option.isSome_iff_exists.mp hrow
    have heq := htracked pre u hr id _ reg hp rfl row hrow
    rw [htoken, hown id reg ha hp row hrow] at heq
    exact heq.symm
  · intro pre u a hr hun id reg ha hp row hrow
    have heq := htracked pre u hr id _ reg hp rfl row hrow
    rcases htoken : lastToken pre id reg.handle with _ | token
    · rw [heq, htoken]
      rfl
    · rw [heq, htoken]
      exact hun id reg ha hp (by simp [hrow]) token htoken

/-! ### Runs -/

/-- A relay with one device. -/
def oneDevice : Relay where
  rows := Function.update (fun _ => none) "h" (some (.new "android" "token" 0))
  requests := []
  accepted := []
  minted := fun handle => handle = "h"

/-- The device gets a new token while a send to the old one is under way. -/
def refreshed : List Act :=
  [.notify true ⟨"h", "blocked", none, none⟩, .lookup 0 none, .check 0 100, .limit 0 true,
    .register true ⟨"android", "token2", some "h"⟩ "h2" 100 (.ok "h"),
    .send 0 (.ok .unregistered), .prune 0 false]

/-- **A new token is disowned**: the mark falls on the handle, whatever token it has by then. -/
theorem prunes_refreshed :
    ¬ ∀ (dailyCap : ℕ) (s t : Relay) (as : List Act), s.requests = [] →
      Run (Step dailyCap) s as t → Along (Step dailyCap) PrunesOwn s as := by
  intro h
  have hfresh : ¬ oneDevice.minted "h2" := by simp [oneDevice]
  have hpre : Run (Step 1) oneDevice (refreshed.take 6) _ :=
    .cons (.notify _ true _) <| .cons (.lookup rfl none) <| .cons (.check rfl 100) <|
      .cons (.limit rfl true) <|
      .cons (.register _ true ⟨"android", "token2", some "h"⟩ 100 hfresh) <|
      .cons (.send rfl (.ok .unregistered)) <| .nil _
  have hrun : Run (Step 1) oneDevice refreshed _ :=
    .cons (.notify _ true _) <| .cons (.lookup rfl none) <| .cons (.check rfl 100) <|
      .cons (.limit rfl true) <|
      .cons (.register _ true ⟨"android", "token2", some "h"⟩ 100 hfresh) <|
      .cons (.send rfl (.ok .unregistered)) <| .cons (.prune rfl false) <| .nil _
  have hown := h 1 oneDevice _ refreshed rfl hrun (refreshed.take 6) (.prune 0 false) [] _ rfl hpre
  exact absurd (hown 0 _ rfl rfl _ rfl) (by decide)

/-- In this run both fail. -/
theorem prunes_own_iff_refreshed :
    Along (Step 1) PrunesOwn oneDevice refreshed ↔ Along (Step 1) Unrefreshed oneDevice refreshed :=
  prunes_own_iff rfl

end MuxrCore.PushRelay.Prune
