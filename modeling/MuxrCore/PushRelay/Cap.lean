import Mathlib.Algebra.BigOperators.Group.List.Basic
import Mathlib.Algebra.Ring.Nat
import MuxrCore.PushRelay.Notify

/-! # The daily cap

At most `dailyCap` messages of a handle's requests of one day are to be accepted by the push
service. The cap is checked against the row that was looked up, and the row is counted up after the
send.

* `pend`, `acceptedOn`, `uncounted`: of a handle and a day, how many requests are between the check
  and the outcome of their send, how many have been accepted, and how many of these are not counted
  yet.
* `Counted`: a request is admitted only while the row's count with the requests in flight is below
  the cap, and a send is counted before the row has moved on to a later day.
* `capped_step`, `cap_respected`: then the cap holds.
* `cap_exceeded`: two requests that overlap exceed it. -/

namespace MuxrCore.PushRelay.Cap

open MuxrCore.Lib.Runs MuxrCore.Lib.Tables MuxrCore.PushRelay.Store MuxrCore.PushRelay.Notify

/-! ### Counting -/

/-- One, if the request is for the handle and the day. -/
def hit (handle : String) (day : ℕ) (reg : Registration) (d : ℕ) : ℕ :=
  if reg.handle = handle ∧ d = day then 1 else 0

/-- The request was admitted, and its send has no outcome yet. -/
def pend (handle : String) (day : ℕ) : Phase → ℕ
  | .limit _ reg d _ => hit handle day reg d
  | .send _ reg d _ => hit handle day reg d
  | _ => 0

/-- The request's message was accepted, and is not counted yet. -/
def uncounted (handle : String) (day : ℕ) : Phase → ℕ
  | .record reg d _ => hit handle day reg d
  | _ => 0

/-- The messages of a handle's requests of a day that were accepted. -/
def acceptedOn (s : Relay) (handle : String) (day : ℕ) : ℕ := s.accepted.count (handle, day)

/-- A number, over all requests. -/
def total (f : Phase → ℕ) (requests : List Phase) : ℕ := (requests.map f).sum

/-- The requests of a handle and a day that are between the check and the count. -/
def inFlight (s : Relay) (handle : String) (day : ℕ) : ℕ :=
  total (pend handle day) s.requests + total (uncounted handle day) s.requests

/-- What the row has counted for a day. -/
def recorded (row : Row) (day : ℕ) : ℕ := if row.dayBucket = some day then row.sendsToday else 0

/-- The row has not moved on to a later day. -/
def NotLater (row : Row) (day : ℕ) : Prop := ∀ d, row.dayBucket = some d → d ≤ day

/-- A request passes the check. -/
def Admits (dailyCap : ℕ) (reg : Registration) (now : ℕ) : Prop :=
  ¬ (reg.dayBucket = some (dayBucket now) ∧ reg.sendsToday ≥ dailyCap)

/-- A request is admitted only while the count of its row, which is not of a later day, and the
requests in flight leave room; and a send is counted, before the row has moved on to a later day. -/
def Counted (dailyCap : ℕ) (_ : List Act) (s : Relay) (a : Act) : Prop :=
  (∀ id now req reg, a = .check id now → s.requests[id]? = some (.check req reg) →
    Admits dailyCap reg now → ∃ row, s.rows reg.handle = some row ∧
      NotLater row (dayBucket now) ∧
      recorded row (dayBucket now) + inFlight s reg.handle (dayBucket now) < dailyCap) ∧
  ∀ id failed reg day now, a = .record id failed → s.requests[id]? = some (.record reg day now) →
    failed = false ∧ ∀ row, s.rows reg.handle = some row → NotLater row day

/-- The cap holds. -/
def Capped (dailyCap : ℕ) (s : Relay) : Prop :=
  ∀ handle day, acceptedOn s handle day ≤ dailyCap

/-- No request has come in; the rows have counted what was accepted before. -/
structure Initial (dailyCap : ℕ) (s : Relay) : Prop where
  requests : s.requests = []
  capped : Capped dailyCap s
  rows : ∀ handle row, s.rows handle = some row → s.minted handle ∧
    ∀ day, NotLater row day → acceptedOn s handle day = recorded row day
  accepted : ∀ handle day, (handle, day) ∈ s.accepted → s.minted handle

/-! ### What a step does to the numbers -/

theorem total_append (f : Phase → ℕ) (requests : List Phase) (phase : Phase) :
    total f (requests ++ [phase]) = total f requests + f phase := by
  simp [total]

theorem total_set (f : Phase → ℕ) {requests : List Phase} {id : ℕ} {old : Phase}
    (h : requests[id]? = some old) (new : Phase) :
    total f (requests.set id new) + f old = total f requests + f new := by
  induction requests generalizing id with
  | nil => simp at h
  | cons phase requests ih =>
    rcases id with _ | id
    · simp only [List.getElem?_cons_zero, Option.some.injEq] at h
      subst h
      simp [total]
      omega
    · have hrest := ih (by simpa using h)
      simp only [total, List.set_cons_succ, List.map_cons, List.sum_cons] at hrest ⊢
      omega

theorem count_cons_accepted (accepted : List (String × ℕ)) (reg : Registration) (d : ℕ)
    (handle : String) (day : ℕ) :
    ((reg.handle, d) :: accepted).count (handle, day) =
      accepted.count (handle, day) + hit handle day reg d := by
  simp [List.count_cons, hit, Prod.ext_iff]

/-- Admitted requests leave the cap; a row and the sends not counted yet account for what was
accepted, from the row's day on; and only handles that were minted are in use. -/
structure Inv (dailyCap : ℕ) (s : Relay) : Prop where
  capped : ∀ handle day,
    acceptedOn s handle day + total (pend handle day) s.requests ≤ dailyCap
  rows : ∀ handle row, s.rows handle = some row → ∀ day, NotLater row day →
    acceptedOn s handle day = recorded row day + total (uncounted handle day) s.requests
  mintedRows : ∀ handle row, s.rows handle = some row → s.minted handle
  mintedFound : ∀ phase ∈ s.requests, ∀ reg, phase.reg? = some reg → s.minted reg.handle
  mintedAccepted : ∀ handle day, (handle, day) ∈ s.accepted → s.minted handle

variable {dailyCap : ℕ} {s t : Relay} {id : ℕ}

theorem Initial.inv (h : Initial dailyCap s) : Inv dailyCap s where
  capped handle day := by simpa [h.requests, total] using h.capped handle day
  rows handle row hr day hd := by simpa [h.requests, total] using (h.rows handle row hr).2 day hd
  mintedRows handle row hr := (h.rows handle row hr).1
  mintedFound phase hp := by simp [h.requests] at hp
  mintedAccepted := h.accepted

theorem Inv.cap (h : Inv dailyCap s) : Capped dailyCap s := fun handle day => by
  have := h.capped handle day
  omega

/-- A request whose new phase found no other row. -/
theorem Inv.found_set (h : Inv dailyCap s) {old new : Phase} (hold : s.requests[id]? = some old)
    (hnew : ∀ reg, new.reg? = some reg → old.reg? = some reg ∨ s.minted reg.handle) :
    ∀ phase ∈ s.requests.set id new, ∀ reg, phase.reg? = some reg → s.minted reg.handle := by
  intro phase hp reg hf
  rcases List.mem_or_eq_of_mem_set hp with hp | rfl
  · exact h.mintedFound phase hp reg hf
  · rcases hnew reg hf with hf | hm
    · exact h.mintedFound old (List.mem_of_getElem? hold) reg hf
    · exact hm

/-- A step of one request that changes no number. -/
theorem Inv.set (h : Inv dailyCap s) {old new : Phase} (hold : s.requests[id]? = some old)
    (hpend : ∀ handle day, pend handle day new ≤ pend handle day old)
    (huncounted : ∀ handle day, uncounted handle day new = uncounted handle day old)
    (hnew : ∀ reg, new.reg? = some reg → old.reg? = some reg ∨ s.minted reg.handle) :
    Inv dailyCap (s.set id new) where
  capped handle day := by
    have hcap := h.capped handle day
    have hset := total_set (pend handle day) hold new
    have hle := hpend handle day
    show acceptedOn s handle day + total (pend handle day) (s.requests.set id new) ≤ dailyCap
    omega
  rows handle row hr day hd := by
    have hrow := h.rows handle row hr day hd
    have hset := total_set (uncounted handle day) hold new
    have heq := huncounted handle day
    show acceptedOn s handle day = recorded row day + total (uncounted handle day)
      (s.requests.set id new)
    omega
  mintedRows := h.mintedRows
  mintedFound := h.found_set hold hnew
  mintedAccepted := h.mintedAccepted

/-- A handle that was not minted is in no request and was not accepted. -/
theorem Inv.unused (h : Inv dailyCap s) {handle : String} (hnew : ¬ s.minted handle) (day : ℕ) :
    acceptedOn s handle day = 0 ∧ total (uncounted handle day) s.requests = 0 := by
  refine ⟨List.count_eq_zero.mpr fun hmem => hnew (h.mintedAccepted handle day hmem), ?_⟩
  refine List.sum_eq_zero fun n hn => ?_
  obtain ⟨phase, hp, rfl⟩ := List.mem_map.mp hn
  have hno : ∀ reg, phase.reg? = some reg → reg.handle ≠ handle := by
    rintro reg hf rfl
    exact hnew (h.mintedFound phase hp reg hf)
  rcases phase with _ | _ | _ | _ | ⟨reg, d, now⟩ | _ | _ <;> try rfl
  exact if_neg fun hc => hno reg rfl hc.1

/-! ### One step -/

theorem NotLater.le {row : Row} {d day : ℕ} (h : NotLater row d) (hle : d ≤ day) :
    NotLater row day := fun d' hd' => (h d' hd').trans hle

/-- The request is admitted while there is room. -/
theorem Inv.admit (h : Inv dailyCap s) {req : NotifyRequest} {reg : Registration} {now : ℕ}
    (hold : s.requests[id]? = some (.check req reg)) {row : Row}
    (hrow : s.rows reg.handle = some row) (hlater : NotLater row (dayBucket now))
    (hroom : recorded row (dayBucket now) + inFlight s reg.handle (dayBucket now) < dailyCap) :
    Inv dailyCap (s.set id (.limit req reg (dayBucket now) now)) where
  capped handle day := by
    have hcap := h.capped handle day
    have hset := total_set (pend handle day) hold (.limit req reg (dayBucket now) now)
    show acceptedOn s handle day + total (pend handle day) (s.requests.set id _) ≤ dailyCap
    by_cases hc : reg.handle = handle ∧ dayBucket now = day
    · obtain ⟨rfl, rfl⟩ := hc
      have hacc := h.rows _ row hrow _ hlater
      simp only [pend, hit, and_self, if_true] at hset
      unfold inFlight at hroom
      omega
    · simp only [pend, hit, if_neg hc] at hset
      omega
  rows handle row hr day hd := by
    have hset := total_set (uncounted handle day) hold (.limit req reg (dayBucket now) now)
    have hacc := h.rows handle row hr day hd
    show acceptedOn s handle day = recorded row day + total (uncounted handle day)
      (s.requests.set id _)
    simp only [uncounted] at hset
    omega
  mintedRows := h.mintedRows
  mintedFound := h.found_set hold fun reg hf => Or.inl hf
  mintedAccepted := h.mintedAccepted

/-- The push service accepts the message. -/
theorem Inv.deliver (h : Inv dailyCap s) {req : NotifyRequest} {reg : Registration} {d now : ℕ}
    (hold : s.requests[id]? = some (.send req reg d now)) :
    Inv dailyCap { s.set id (.record reg d now) with
      accepted := (reg.handle, d) :: s.accepted } where
  capped handle day := by
    have hcap := h.capped handle day
    have hset := total_set (pend handle day) hold (.record reg d now)
    have hacc := count_cons_accepted s.accepted reg d handle day
    show ((reg.handle, d) :: s.accepted).count (handle, day) +
      total (pend handle day) (s.requests.set id _) ≤ dailyCap
    simp only [pend] at hset
    unfold acceptedOn at hcap
    omega
  rows handle row hr day hd := by
    have hset := total_set (uncounted handle day) hold (.record reg d now)
    have hrow := h.rows handle row hr day hd
    have hacc := count_cons_accepted s.accepted reg d handle day
    show ((reg.handle, d) :: s.accepted).count (handle, day) =
      recorded row day + total (uncounted handle day) (s.requests.set id _)
    simp only [uncounted] at hset
    unfold acceptedOn at hrow
    omega
  mintedRows := h.mintedRows
  mintedFound := h.found_set hold fun reg' hf => Or.inl hf
  mintedAccepted handle day hmem := by
    rcases List.mem_cons.mp hmem with heq | hmem
    · cases heq
      exact h.mintedFound _ (List.mem_of_getElem? hold) reg rfl
    · exact h.mintedAccepted handle day hmem

/-- The send is counted, and the row is not of a later day. -/
theorem Inv.record (h : Inv dailyCap s) {reg : Registration} {d now : ℕ}
    (hold : s.requests[id]? = some (.record reg d now))
    (hlater : ∀ row, s.rows reg.handle = some row → NotLater row d) :
    Inv dailyCap { s.set id (.answered .noContent) with
      rows := recordSend s.rows reg.handle d now } where
  capped handle day := by
    have hcap := h.capped handle day
    have hset := total_set (pend handle day) hold (.answered .noContent)
    show acceptedOn s handle day + total (pend handle day) (s.requests.set id _) ≤ dailyCap
    simp only [pend] at hset
    omega
  rows handle row hr day hd := by
    have hset := total_set (uncounted handle day) hold (.answered .noContent)
    show acceptedOn s handle day = recorded row day + total (uncounted handle day)
      (s.requests.set id _)
    simp only [uncounted] at hset
    change recordSend s.rows reg.handle d now handle = some row at hr
    by_cases hh : handle = reg.handle
    · subst hh
      rw [recordSend, Function.update_self] at hr
      obtain ⟨old, ho, rfl⟩ := Option.map_eq_some_iff.mp hr
      have hle : d ≤ day := hd d rfl
      have hrow := h.rows _ old ho day ((hlater old ho).le hle)
      by_cases hday : d = day
      · subst hday
        simp only [hit, and_self, if_true] at hset
        by_cases hb : old.dayBucket = some d
        · simp only [recorded, hb, if_true] at hrow
          simp only [recorded, Row.record, hb, if_true]
          omega
        · simp only [recorded, if_neg hb] at hrow
          simp only [recorded, Row.record, if_neg hb, if_true]
          omega
      · -- an earlier row has nothing for this day
        have hb : old.dayBucket ≠ some day := by
          intro hb
          have := hlater old ho day hb
          omega
        have hzero : recorded (old.record d now) day = 0 := by simp [recorded, Row.record, hday]
        simp only [hit, hday, and_false, if_false] at hset
        simp only [recorded, if_neg hb] at hrow
        omega
    · rw [recordSend, Function.update_of_ne hh] at hr
      have hrow := h.rows handle row hr day hd
      simp only [hit, Ne.symm hh, false_and, if_false] at hset
      omega
  mintedRows handle row hr := by
    change recordSend s.rows reg.handle d now handle = some row at hr
    by_cases hh : handle = reg.handle
    · subst hh
      exact h.mintedFound _ (List.mem_of_getElem? hold) reg rfl
    · rw [recordSend, Function.update_of_ne hh] at hr
      exact h.mintedRows handle row hr
  mintedFound := h.found_set hold fun reg' hf => by cases hf
  mintedAccepted := h.mintedAccepted

/-- A change of the rows that keeps what they have counted, or adds one for a new handle. -/
theorem Inv.rows_change (h : Inv dailyCap s) {rows : Rows} {minted : String → Prop}
    (hminted : ∀ handle, s.minted handle → minted handle)
    (hrows : ∀ handle row, rows handle = some row →
      (∃ old, s.rows handle = some old ∧ row.dayBucket = old.dayBucket ∧
        row.sendsToday = old.sendsToday) ∨
      minted handle ∧ ¬ s.minted handle ∧ row.sendsToday = 0) :
    Inv dailyCap { s with rows, minted } where
  capped := h.capped
  rows handle row hr day hd := by
    rcases hrows handle row hr with ⟨old, ho, hb, hs⟩ | ⟨-, hnew, hzero⟩
    · have hrow := h.rows handle old ho day (by rwa [NotLater, ← hb])
      show acceptedOn s handle day = recorded row day + _
      rw [hrow, recorded, recorded, hb, hs]
    · obtain ⟨hacc, hunc⟩ := h.unused hnew day
      show acceptedOn s handle day = recorded row day + total (uncounted handle day) s.requests
      rw [hacc, hunc, recorded, hzero, ite_self]
  mintedRows handle row hr := by
    rcases hrows handle row hr with ⟨old, ho, -⟩ | ⟨hm, -⟩
    · exact hminted handle (h.mintedRows handle old ho)
    · exact hm
  mintedFound phase hp reg hf := hminted _ (h.mintedFound phase hp reg hf)
  mintedAccepted handle day hmem := hminted _ (h.mintedAccepted handle day hmem)

/-- What a registration does to the rows. -/
theorem register_rows {rows : Rows} {allowed : Bool} {req : RegisterRequest} {newHandle : String}
    {now : ℕ} {handle : String} {row : Row}
    (h : (Notify.register rows allowed req newHandle now).1 handle = some row) :
    (∃ old, rows handle = some old ∧ row.dayBucket = old.dayBucket ∧
      row.sendsToday = old.sendsToday) ∨
    handle = newHandle ∧ row.sendsToday = 0 := by
  have hsame : rows handle = some row → ∃ old, rows handle = some old ∧
      row.dayBucket = old.dayBucket ∧ row.sendsToday = old.sendsToday :=
    fun hr => ⟨row, hr, rfl, rfl⟩
  unfold Notify.register at h
  split_ifs at h
  · exact Or.inl (hsame h)
  · exact Or.inl (hsame h)
  · exact Or.inl (hsame h)
  · unfold Store.register at h
    rcases hx : req.existingHandle.bind fun handle => (rows handle).map fun row => (handle, row)
      with _ | ⟨existing, old⟩
    · rcases hn : rows newHandle with _ | other
      · simp only [hx, hn, Function.update_apply] at h
        split_ifs at h with hh
        · cases h
          exact Or.inr ⟨hh, rfl⟩
        · exact Or.inl (hsame h)
      · simp only [hx, hn] at h
        exact Or.inl (hsame h)
    · simp only [hx, Function.update_apply] at h
      split_ifs at h with hh
      · cases h
        obtain ⟨e, -, he⟩ := Option.bind_eq_some_iff.mp hx
        obtain ⟨r, hr, heq⟩ := Option.map_eq_some_iff.mp he
        cases heq
        exact Or.inl ⟨old, by rw [hh, hr], rfl, rfl⟩
      · exact Or.inl (hsame h)

/-- A request comes in. -/
theorem Inv.notify (h : Inv dailyCap s) (allowed : Bool) (req : NotifyRequest) :
    Inv dailyCap { s with requests := s.requests ++ [.received allowed req] } := by
  have hnew : ∀ handle day, pend handle day (.received allowed req) = 0 ∧
      uncounted handle day (.received allowed req) = 0 ∧
      (Phase.received allowed req).reg? = none := by
    intro handle day
    unfold Phase.received
    split_ifs <;> exact ⟨rfl, rfl, rfl⟩
  refine ⟨fun handle day => ?_, fun handle row hr day hd => ?_, h.mintedRows,
    fun phase hp reg hf => ?_, h.mintedAccepted⟩
  · have hcap := h.capped handle day
    show acceptedOn s handle day + total (pend handle day) (s.requests ++ [_]) ≤ dailyCap
    rw [total_append, (hnew handle day).1]
    exact hcap
  · have hrow := h.rows handle row hr day hd
    show acceptedOn s handle day =
      recorded row day + total (uncounted handle day) (s.requests ++ [_])
    rw [total_append, (hnew handle day).2.1]
    exact hrow
  · rcases List.mem_append.mp hp with hp | hp
    · exact h.mintedFound phase hp reg hf
    · rw [List.mem_singleton.mp hp, (hnew "" 0).2.2] at hf
      cases hf

/-- The lookup finds a row of a handle that was minted. -/
theorem Inv.lookup (h : Inv dailyCap s) {req : NotifyRequest}
    (hold : s.requests[id]? = some (.lookup req)) (failed : Option String) :
    Inv dailyCap (s.set id
      (.found req (failed.elim (.ok (Store.get s.rows req.pushHandle)) .error))) := by
  have hdone : ∀ status, Inv dailyCap (s.set id (.answered status)) := fun status =>
    h.set hold (fun _ _ => le_rfl) (fun _ _ => rfl) fun reg hf => by cases hf
  rcases failed with _ | e
  · rcases hg : Store.get s.rows req.pushHandle with _ | reg
    · exact hdone .notFound
    · show Inv dailyCap (s.set id (if reg.pruned then .answered .gone else .check req reg))
      split
      · exact hdone .gone
      · refine h.set hold (fun _ _ => le_rfl) (fun _ _ => rfl) fun reg' hf => Or.inr ?_
        cases hf
        obtain ⟨row, hrow, rfl⟩ := Option.map_eq_some_iff.mp hg
        exact h.mintedRows _ row hrow
  · exact hdone .internalServerError

/-- **A step of a request that is admitted with room, and counted in time, keeps the cap.** -/
theorem capped_step {pre : List Act} {a : Act} (h : Inv dailyCap s) (hc : Counted dailyCap pre s a)
    (ha : Step dailyCap s a t) : Inv dailyCap t := by
  rcases ha with ⟨allowed, req⟩ | ⟨hold, failed⟩ | ⟨hold, now⟩ | ⟨hold, allowed⟩ |
    ⟨hold, outcome⟩ | ⟨hold, failed⟩ | ⟨hold, failed⟩ | ⟨allowed, req, now, hfresh⟩ | handle
  · exact h.notify allowed req
  · exact h.lookup hold failed
  · next id req reg =>
    by_cases hadm : Admits dailyCap reg now
    · obtain ⟨row, hrow, hlater, hroom⟩ := hc.1 id now req reg rfl hold hadm
      have hlimit : Phase.checked dailyCap req reg now = .limit req reg (dayBucket now) now := by
        unfold Phase.checked
        rw [if_neg]
        simpa [Admits] using hadm
      rw [hlimit]
      exact h.admit hold hrow hlater hroom
    · have hrefused : Phase.checked dailyCap req reg now = .answered .tooManyRequests := by
        unfold Phase.checked
        rw [if_pos]
        simpa [Admits] using hadm
      rw [hrefused]
      exact h.set hold (fun _ _ => le_rfl) (fun _ _ => rfl) fun reg hf => by cases hf
  · rcases allowed with _ | _
    · exact h.set hold (fun _ _ => Nat.zero_le _) (fun _ _ => rfl) fun reg hf => by cases hf
    · exact h.set hold (fun _ _ => le_rfl) (fun _ _ => rfl) fun reg hf => Or.inl hf
  · rcases outcome with e | ⟨_ | _ | _⟩
    · exact h.set hold (fun _ _ => Nat.zero_le _) (fun _ _ => rfl) fun reg hf => by cases hf
    · exact h.deliver hold
    · exact h.set hold (fun _ _ => Nat.zero_le _) (fun _ _ => rfl) fun reg hf => Or.inl hf
    · exact h.set hold (fun _ _ => Nat.zero_le _) (fun _ _ => rfl) fun reg hf => by cases hf
  · next id reg day now =>
    obtain ⟨rfl, hlater⟩ := hc.2 id failed reg day now rfl hold
    exact h.record hold hlater
  · next id reg =>
    have hset : Inv dailyCap (s.set id (.answered .gone)) :=
      h.set hold (fun _ _ => le_rfl) (fun _ _ => rfl) fun reg hf => by cases hf
    rcases failed with _ | _
    · refine hset.rows_change (fun _ hm => hm) fun handle row hr => Or.inl ?_
      by_cases hh : handle = reg.handle
      · subst hh
        change markPruned s.rows reg.handle reg.handle = some row at hr
        rw [markPruned, Function.update_self] at hr
        obtain ⟨old, ho, rfl⟩ := Option.map_eq_some_iff.mp hr
        exact ⟨old, ho, rfl, rfl⟩
      · change markPruned s.rows reg.handle handle = some row at hr
        rw [markPruned, Function.update_of_ne hh] at hr
        exact ⟨row, hr, rfl, rfl⟩
    · exact hset
  · refine h.rows_change (fun handle hm => Or.inl hm) fun handle row hr => ?_
    rcases register_rows hr with ho | ⟨rfl, hzero⟩
    · exact Or.inl ho
    · exact Or.inr ⟨Or.inr rfl, hfresh, hzero⟩
  · refine h.rows_change (fun _ hm => hm) fun handle' row hr => Or.inl ⟨row, ?_, rfl, rfl⟩
    rcases update_eq_some.mp hr with ⟨-, hr⟩ | ⟨-, hr⟩
    · cases hr
    · exact hr

/-- **The cap holds** in a run in which every request that is admitted has room, and every send is
counted in time. -/
theorem cap_respected {as : List Act} (hs : Initial dailyCap s) (hr : Run (Step dailyCap) s as t)
    (hc : Along (Step dailyCap) (Counted dailyCap) s as) : Capped dailyCap t := by
  have hinv : Inv dailyCap t := hr.invariant_along (C := Counted dailyCap)
    (fun pre s a t hi hC ha => capped_step hi hC ha) hs.inv hc
  exact hinv.cap

/-- A relay with one device, which has been sent nothing. -/
def oneDevice : Relay where
  rows := Function.update (fun _ => none) "h" (some (.new "android" "token" 0))
  requests := []
  accepted := []
  minted := fun handle => handle = "h"

theorem initial_oneDevice (dailyCap : ℕ) : Initial dailyCap oneDevice := by
  refine ⟨rfl, fun handle day => ?_, fun handle row hr => ?_, fun handle day hm => ?_⟩
  · exact Nat.zero_le _
  · simp only [oneDevice] at hr
    rcases update_eq_some_iff.mp hr with ⟨hh, rfl⟩ | ⟨-, hr⟩
    · exact ⟨hh, fun day _ => rfl⟩
    · cases hr
  · simp [oneDevice] at hm

def blockedEvent : NotifyRequest := ⟨"h", "blocked", none, none⟩

/-- Two requests are admitted before either is counted. -/
def twoAtOnce : List Act :=
  [.notify true blockedEvent, .notify true blockedEvent, .lookup 0 none, .lookup 1 none,
    .check 0 100, .check 1 100, .limit 0 true, .limit 1 true, .send 0 (.ok .delivered),
    .send 1 (.ok .delivered)]

/-- **The cap is exceeded**: both requests find the count at zero. -/
theorem cap_exceeded :
    ¬ ∀ (dailyCap : ℕ) (s t : Relay) (as : List Act), Initial dailyCap s →
      Run (Step dailyCap) s as t → Capped dailyCap t := by
  intro h
  have hrun : Run (Step 1) oneDevice twoAtOnce _ :=
    .cons (.notify _ true blockedEvent) <| .cons (.notify _ true blockedEvent) <|
    .cons (.lookup rfl none) <| .cons (.lookup rfl none) <| .cons (.check rfl 100) <|
    .cons (.check rfl 100) <| .cons (.limit rfl true) <| .cons (.limit rfl true) <|
    .cons (.send rfl (.ok .delivered)) <| .cons (.send rfl (.ok .delivered)) <| .nil _
  have hcap := h 1 oneDevice _ twoAtOnce (initial_oneDevice 1) hrun "h" 0
  exact absurd hcap (by decide)

/-- One request by itself. -/
def oneByOne : List Act :=
  [.notify true blockedEvent, .lookup 0 none, .check 0 100, .limit 0 true,
    .send 0 (.ok .delivered), .record 0 false]

theorem cap_respected_oneByOne :
    ∃ t, Run (Step 1) oneDevice oneByOne t ∧ Capped 1 t := by
  obtain ⟨t, hrun⟩ : ∃ t, Run (Step 1) oneDevice oneByOne t :=
    ⟨_, .cons (.notify _ true blockedEvent) <| .cons (.lookup rfl none) <|
      .cons (.check rfl 100) <| .cons (.limit rfl true) <| .cons (.send rfl (.ok .delivered)) <|
      .cons (.record rfl false) <| .nil _⟩
  refine ⟨t, hrun, cap_respected (initial_oneDevice 1) hrun ?_⟩
  have hunique : ∀ s a t t', Step 1 s a t → Step 1 s a t' → t = t' := fun _ _ _ _ => Step.unique
  rintro pre a post u he hu
  refine ⟨?_, ?_⟩
  · rintro i now req reg rfl hold -
    rcases pre with _ | ⟨b, _ | ⟨c, _ | ⟨d, pre⟩⟩⟩
    · cases he
    · cases he
    · cases he
      obtain rfl := hu.unique_of hunique
        (.cons (.notify _ true blockedEvent) <| .cons (.lookup rfl none) <| .nil _)
      cases hold
      refine ⟨.new "android" "token" 0, rfl, ?_, by decide⟩
      rintro d ⟨⟩
    · have hmem : Act.check i now ∈ oneByOne.drop 3 := by simp [he]
      simp [oneByOne] at hmem
  · rintro i failed reg day now rfl hold
    rcases pre with _ | ⟨b, _ | ⟨c, _ | ⟨d, _ | ⟨e, _ | ⟨f, _ | ⟨g, pre⟩⟩⟩⟩⟩⟩
    · cases he
    · cases he
    · cases he
    · cases he
    · cases he
    · cases he
      obtain rfl := hu.unique_of hunique
        (.cons (.notify _ true blockedEvent) <| .cons (.lookup rfl none) <|
          .cons (.check rfl 100) <| .cons (.limit rfl true) <|
          .cons (.send rfl (.ok .delivered)) <| .nil _)
      cases hold
      refine ⟨rfl, ?_⟩
      rintro row ⟨⟩ d ⟨⟩
    · have hmem : Act.record i failed ∈ oneByOne.drop 6 := by simp [he]
      simp [oneByOne] at hmem

end MuxrCore.PushRelay.Cap
