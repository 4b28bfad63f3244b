import MuxrCore.Grpc.Watch.State

/-! # A quiescent watch shows the inventory

The whole system: the backend with its inventory, the bus, and the watch. A change of a pane's row
is owed the publication of a status event for the pane, and the end of a pane that of a closure;
the bus keeps the order of what is published, and may replace any stretch of it by a notice that
events were missed. A re-read, like the one that opens the watch, answers with the inventory of any
moment since it started.

`Tracks` is the invariant: a pane about which something is still to be said, or which the watch has
marked, may be wrong; for any other pane every answer the re-read that is out may give agrees with
the inventory, and the held row does too, unless that re-read is going to set it. So a watch with
nothing left to hear, no mark and no re-read out holds the inventory, row for row (`converges`). -/

namespace MuxrCore.Grpc.Watch.Converge

open MuxrCore.Lib.Runs MuxrCore.Lib.Rows MuxrCore.Multiplexer.Agents MuxrCore.Grpc.AgentOps
open MuxrCore.Grpc.Watch.State

/-- The backend's rows, by pane. -/
abbrev Inventory := ℕ → Option AgentSnapshot

/-- A list gives an inventory, each pane once and in any order. -/
def Lists (snapshots : List AgentSnapshot) (inventory : Inventory) : Prop :=
  (snapshots.map AgentSnapshot.pane).Nodup ∧
    ∀ pane, rowAt AgentSnapshot.pane snapshots pane = inventory pane

/-- The system: the inventory, the panes that have closed, those whose last change has not been
published, what the bus has still to deliver, the inventories since the last re-read started, and
the watch, once it is open. -/
structure World where
  inventory : Inventory
  gone : Finset ℕ
  owed : Finset ℕ
  queue : List Recv
  answers : List Inventory
  watch : Option WatchLoop

namespace World

/-- The watch has subscribed and started its first read. What has changed before may still be
published. -/
def Opening (w : World) : Prop :=
  w.watch = none ∧ w.queue = [] ∧ w.answers = [w.inventory] ∧
    ∀ pane ∈ w.gone, w.inventory pane = none

/-- A pane's row becomes `row`; the change is owed a publication. -/
def become (w : World) (pane : ℕ) (row : Option AgentSnapshot) : World :=
  let inventory := Function.update w.inventory pane row
  { w with inventory := inventory, owed := insert pane w.owed, answers := inventory :: w.answers }

/-- What is still owed after an event is published: a status event settles its pane, unless that
has closed, a closure settles its pane, and a resync everything. -/
def owedAfter (w : World) : MuxEvent → Finset ℕ
  | .agentStatusChanged ev => if ev.pane ∈ w.gone then w.owed else w.owed.erase ev.pane
  | .layoutChanged _ _ => w.owed
  | .paneClosed pane => w.owed.erase pane
  | .resynced => ∅

end World

/-- What may stand in the place of lost events. -/
inductive Notice : Recv → Prop
  | lagged (n : ℕ) : Notice (.error (.lagged n))
  | resynced : Notice (.ok .resynced)

/-- What can happen: a pane's row appears or changes, a pane closes, an event is published, events
are lost, the bus shuts down, the watch opens with its first inventory, or takes a turn. -/
inductive WorldAct
  | change (pane : ℕ) (row : AgentSnapshot)
  | vanish (pane : ℕ)
  | publish (ev : MuxEvent)
  | lose (notice : Recv)
  | shutdown
  | opens (snapshots : List AgentSnapshot) (now : ℕ)
  | turn (a : Act)

/-- One step of the system. The id of a pane that has closed is not used again. -/
inductive World.Step (debounce : ℕ) : World → WorldAct → World → Prop
  | change {w : World} {pane : ℕ} {row : AgentSnapshot} (hp : pane ∉ w.gone) :
      Step debounce w (.change pane row) (w.become pane (some row))
  | vanish {w : World} {pane : ℕ} :
      Step debounce w (.vanish pane) { w.become pane none with gone := insert pane w.gone }
  | publish {w : World} {ev : MuxEvent} (hev : ∀ pane, ev = .paneClosed pane → pane ∈ w.gone) :
      Step debounce w (.publish ev) { w with queue := w.queue ++ [.ok ev], owed := w.owedAfter ev }
  | lose {w : World} {pre lost post : List Recv} {notice : Recv} (hn : Notice notice)
      (hq : w.queue = pre ++ lost ++ post) :
      Step debounce w (.lose notice) { w with queue := pre ++ notice :: post }
  | shutdown {w : World} :
      Step debounce w .shutdown { w with queue := w.queue ++ [.error .closed] }
  | opens {w : World} {snapshots : List AgentSnapshot} {now : ℕ} {inventory : Inventory}
      (hw : w.watch = none) (ha : inventory ∈ w.answers) (hl : Lists snapshots inventory) :
      Step debounce w (.opens snapshots now)
        { w with watch := some (startWatch true snapshots now) }
  | receive {w : World} {recv : Recv} {rest : List Recv} {l l' : WatchLoop}
      (hw : w.watch = some l) (hq : w.queue = recv :: rest)
      (hl : l.step debounce (.bus recv) = some l') :
      Step debounce w (.turn (.bus recv)) { w with queue := rest, watch := some l' }
  | startRead {w : World} {now : ℕ} {l l' : WatchLoop} (hw : w.watch = some l)
      (hl : l.step debounce (.startRead now) = some l') :
      Step debounce w (.turn (.startRead now))
        { w with answers := [w.inventory], watch := some l' }
  | finishRead {w : World} {read : ReadResult} {l l' : WatchLoop} (hw : w.watch = some l)
      (hr : ∀ snapshots, read = .ok snapshots → ∃ inv ∈ w.answers, Lists snapshots inv)
      (hl : l.step debounce (.finishRead read) = some l') :
      Step debounce w (.turn (.finishRead read)) { w with watch := some l' }
  | deliver {w : World} {l l' : WatchLoop} (hw : w.watch = some l)
      (hl : l.step debounce .deliver = some l') :
      Step debounce w (.turn .deliver) { w with watch := some l' }
  | stop {w : World} {l l' : WatchLoop} (hw : w.watch = some l)
      (hl : l.step debounce .stop = some l') :
      Step debounce w (.turn .stop) { w with watch := some l' }

/-! ### The invariant -/

/-- What a receive is about: a status or a closure about its pane, a notice about every pane. -/
def Announces (pane : ℕ) : Recv → Prop
  | .ok (.agentStatusChanged ev) => ev.pane = pane
  | .ok (.paneClosed q) => q = pane
  | .ok (.layoutChanged _ _) => False
  | .ok .resynced => True
  | .error (.lagged _) => True
  | .error .closed => False

/-- Something about the pane is still to be published, or to be delivered. -/
def Due (w : World) (pane : ℕ) : Prop := pane ∈ w.owed ∨ ∃ recv ∈ w.queue, Announces pane recv

/-- The watch has marked the pane for the next re-read. -/
def Marked (st : WatchState) (pane : ℕ) : Prop := pane ∈ st.stale ∨ st.resnapshot = true

/-- The row a re-read gives a pane when it answers with an inventory. -/
def answered (flight : InFlight) (inventory : Inventory) (pane : ℕ) : Option AgentSnapshot :=
  if pane ∈ flight.closed then none else inventory pane

/-- The held row is the inventory's. -/
def Agrees (w : World) (st : WatchState) (pane : ℕ) : Prop :=
  st.held.lookup pane = (w.inventory pane).map agentMsg

/-- The pane is right, or is going to be set right by the re-read that is out, whatever that
answers. -/
structure Settled (w : World) (st : WatchState) (pane : ℕ) : Prop where
  idle : st.reading = none → Agrees w st pane
  answers : ∀ flight, st.reading = some flight → ∀ inv ∈ w.answers,
    answered flight inv pane = w.inventory pane
  flight : ∀ flight, st.reading = some flight →
    Agrees w st pane ∨ pane ∈ flight.stale ∨ flight.resnapshot = true

/-- **The invariant of an open watch**: a pane about which nothing is due and which is not marked
is settled. -/
structure Tracks (w : World) (st : WatchState) : Prop where
  keyed : Keyed AgentMsg.paneId st.held
  closed : ∀ flight, st.reading = some flight → flight.closed ⊆ w.gone
  settled : ∀ pane, ¬ Due w pane → ¬ Marked st pane → Settled w st pane

/-- The invariant of the system. -/
structure Inv (w : World) : Prop where
  gone : ∀ pane ∈ w.gone, w.inventory pane = none
  closed : ∀ pane, .ok (.paneClosed pane) ∈ w.queue → pane ∈ w.gone
  opening : w.watch = none → ∀ pane, ¬ Due w pane → ∀ inv ∈ w.answers,
    inv pane = w.inventory pane
  tracks : ∀ l, w.watch = some l → Tracks w l.st

variable {w w' : World} {st : WatchState} {pane : ℕ}

/-! ### The backend and the bus -/

/-- A step of the backend or of the bus: what was due stays due, an inventory changes only where
something is due, and an answer that has become possible is the present inventory. -/
theorem tracks_world (h : Tracks w st) (hgone : w.gone ⊆ w'.gone)
    (hnone : ∀ pane ∈ w'.gone, w'.inventory pane = none)
    (hdue : ∀ pane, Due w pane → Due w' pane)
    (hinv : ∀ pane, ¬ Due w' pane → w'.inventory pane = w.inventory pane)
    (hans : ∀ inv ∈ w'.answers, inv ∈ w.answers ∨ inv = w'.inventory) : Tracks w' st := by
  refine ⟨h.keyed, fun flight hr => (h.closed flight hr).trans hgone, fun pane hd hm => ?_⟩
  have hs := h.settled pane (fun hdw => hd (hdue pane hdw)) hm
  have he := hinv pane hd
  have hagree : Agrees w st pane → Agrees w' st pane := by
    intro ha
    unfold Agrees at ha ⊢
    rw [he, ha]
  refine ⟨fun hr => hagree (hs.idle hr), fun flight hr inv hi => ?_, fun flight hr => ?_⟩
  · rcases hans inv hi with hi | rfl
    · rw [he]
      exact hs.answers flight hr inv hi
    · unfold answered
      split_ifs with hc
      · exact (hnone pane (hgone (h.closed flight hr hc))).symm
      · rfl
  · exact (hs.flight flight hr).imp_left hagree

/-- The four steps of the backend and the bus keep the invariant. -/
theorem inv_world (h : Inv w) (hgone : w.gone ⊆ w'.gone)
    (hnone : ∀ pane ∈ w'.gone, w'.inventory pane = none)
    (hclosed : ∀ pane, .ok (.paneClosed pane) ∈ w'.queue → pane ∈ w'.gone)
    (hdue : ∀ pane, Due w pane → Due w' pane)
    (hinv : ∀ pane, ¬ Due w' pane → w'.inventory pane = w.inventory pane)
    (hans : ∀ inv ∈ w'.answers, inv ∈ w.answers ∨ inv = w'.inventory)
    (hwatch : w'.watch = w.watch) : Inv w' := by
  refine ⟨hnone, hclosed, fun hw pane hd inv hi => ?_, fun l hl => ?_⟩
  · rw [hwatch] at hw
    rcases hans inv hi with hi | rfl
    · rw [hinv pane hd]
      exact h.opening hw pane (fun hdw => hd (hdue pane hdw)) inv hi
    · rfl
  · rw [hwatch] at hl
    exact tracks_world (h.tracks l hl) hgone hnone hdue hinv hans

theorem inv_become (h : Inv w) {row : Option AgentSnapshot} {gone : Finset ℕ}
    (hgone : w.gone ⊆ gone) (hrow : ∀ q ∈ gone, q ∈ w.gone ∧ q ≠ pane ∨ q = pane ∧ row = none) :
    Inv { w.become pane row with gone := gone } := by
  refine inv_world h hgone (fun q hq => ?_) (fun q hq => hgone (h.closed q hq))
    (fun q hd => hd.imp_left (Finset.mem_insert_of_mem)) (fun q hd => ?_) (fun inv hi => ?_) rfl
  · show Function.update w.inventory pane row q = none
    rcases hrow q hq with ⟨hq, hne⟩ | ⟨rfl, rfl⟩
    · rw [Function.update_of_ne hne]
      exact h.gone q hq
    · exact Function.update_self _ _ _
  · have hne : q ≠ pane := by
      rintro rfl
      exact hd (Or.inl (Finset.mem_insert_self _ _))
    exact Function.update_of_ne hne _ _
  · exact (List.mem_cons.mp hi).symm

theorem due_publish {ev : MuxEvent} {owed : Finset ℕ} (hd : Due w pane)
    (howed : pane ∈ w.owed → pane ∈ owed ∨ Announces pane (.ok ev)) :
    Due { w with queue := w.queue ++ [.ok ev], owed := owed } pane := by
  rcases hd with ho | ⟨recv, hr, ha⟩
  · rcases howed ho with ho | ha
    · exact Or.inl ho
    · exact Or.inr ⟨.ok ev, by simp, ha⟩
  · exact Or.inr ⟨recv, List.mem_append_left _ hr, ha⟩

theorem inv_publish (h : Inv w) {ev : MuxEvent}
    (hev : ∀ pane, ev = .paneClosed pane → pane ∈ w.gone) :
    Inv { w with queue := w.queue ++ [.ok ev], owed := w.owedAfter ev } := by
  refine inv_world h (Finset.Subset.refl _) h.gone (fun q hq => ?_) (fun q hd => ?_)
    (fun _ _ => rfl) (fun _ hi => Or.inl hi) rfl
  · rcases List.mem_append.mp hq with hq | hq
    · exact h.closed q hq
    · rw [List.mem_singleton] at hq
      exact hev q (Except.ok.inj hq).symm
  · refine due_publish hd fun ho => ?_
    -- what the event settles, it announces
    rcases ev with ev | ⟨ws, tab⟩ | p | -
    · by_cases hp : ev.pane = q
      · exact Or.inr hp
      · left
        show q ∈ if ev.pane ∈ w.gone then w.owed else w.owed.erase ev.pane
        split_ifs
        · exact ho
        · exact Finset.mem_erase_of_ne_of_mem (Ne.symm hp) ho
    · exact Or.inl ho
    · by_cases hp : p = q
      · exact Or.inr hp
      · exact Or.inl (Finset.mem_erase_of_ne_of_mem (Ne.symm hp) ho)
    · exact Or.inr trivial

theorem announces_notice {notice : Recv} (h : Notice notice) (pane : ℕ) :
    Announces pane notice := by
  rcases h with n | -
  · trivial
  · trivial

theorem inv_lose (h : Inv w) {pre lost post : List Recv} {notice : Recv} (hn : Notice notice)
    (hq : w.queue = pre ++ lost ++ post) : Inv { w with queue := pre ++ notice :: post } := by
  refine inv_world h (Finset.Subset.refl _) h.gone (fun q hm => ?_) (fun q _ => ?_)
    (fun _ _ => rfl) (fun _ hi => Or.inl hi) rfl
  · refine h.closed q ?_
    rw [hq]
    rcases List.mem_append.mp hm with hm | hm
    · simp [hm]
    · rcases List.mem_cons.mp hm with rfl | hm
      · cases hn
      · simp [hm]
  · exact Or.inr ⟨notice, by simp, announces_notice hn q⟩

theorem inv_shutdown (h : Inv w) : Inv { w with queue := w.queue ++ [.error .closed] } := by
  refine inv_world h (Finset.Subset.refl _) h.gone (fun q hq => ?_) (fun q hd => ?_)
    (fun _ _ => rfl) (fun _ hi => Or.inl hi) rfl
  · exact h.closed q (by simpa using hq)
  · exact hd.imp_right fun ⟨recv, hr, ha⟩ => ⟨recv, List.mem_append_left _ hr, ha⟩

/-! ### The turns of the watch -/

theorem rowAt_answer {l : List AgentSnapshot} {inv : Inventory} (hl : Lists l inv)
    (flight : InFlight) (pane : ℕ) :
    rowAt AgentMsg.paneId (answer flight l).agents pane =
      (answered flight inv pane).map agentMsg := by
  have hn : ((l.filter fun a => a.pane ∉ flight.closed).map AgentSnapshot.pane).Nodup :=
    hl.1.sublist (List.filter_sublist.map _)
  have hrow := @rowAt_filter _ _ _ AgentSnapshot.pane l pane fun k => decide (k ∉ flight.closed)
  unfold answer answered
  rw [row_buildAgentList hn, hrow, hl.2]
  by_cases hc : pane ∈ flight.closed <;> simp [hc]

/-- The first inventory, of any moment since the watch subscribed. -/
theorem tracks_opens (h : Inv w) (hw : w.watch = none) {snapshots : List AgentSnapshot} {now : ℕ}
    {inv : Inventory} {watch : Option WatchLoop} (ha : inv ∈ w.answers)
    (hl : Lists snapshots inv) :
    Tracks { w with watch := watch } (startWatch true snapshots now).st := by
  refine ⟨keyed_hold _, fun flight hr => absurd hr (by simp [startWatch, WatchState.new]),
    fun pane hd _ => ⟨fun _ => ?_, fun flight hr => ?_, fun flight hr => ?_⟩⟩
  · show (hold (buildAgentList snapshots)).lookup pane = _
    rw [lookup_hold (nodup_buildAgentList hl.1), row_buildAgentList hl.1, hl.2,
      h.opening hw pane hd inv ha]
  · exact absurd hr (by simp [startWatch, WatchState.new])
  · exact absurd hr (by simp [startWatch, WatchState.new])

/-- A pane whose row and re-read a step leaves alone stays settled. -/
theorem Settled.congr {st' : WatchState} {queue : List Recv} {watch : Option WatchLoop}
    (h : Settled w st pane) (hh : st'.held.lookup pane = st.held.lookup pane)
    (hr : st'.reading = st.reading) :
    Settled { w with queue := queue, watch := watch } st' pane := by
  have hagree : Agrees w st pane → Agrees { w with queue := queue, watch := watch } st' pane :=
    fun ha => hh.trans ha
  refine ⟨fun h' => ?_, fun flight h' => ?_, fun flight h' => ?_⟩ <;> rw [hr] at h'
  · exact hagree (h.idle h')
  · exact h.answers flight h'
  · exact (h.flight flight h').imp_left hagree

theorem not_due_of_rest {recv : Recv} {rest : List Recv} {watch : Option WatchLoop}
    (hq : w.queue = recv :: rest) (hd : ¬ Due { w with queue := rest, watch := watch } pane)
    (ha : ¬ Announces pane recv) : ¬ Due w pane := by
  rintro (ho | ⟨r, hr, har⟩)
  · exact hd (Or.inl ho)
  · rw [hq] at hr
    rcases List.mem_cons.mp hr with rfl | hr
    · exact ha har
    · exact hd (Or.inr ⟨r, hr, har⟩)

/-- A status event marks its pane, and touches no other row. -/
theorem settled_onStatus (h : Tracks w st) {ev : AgentStatusChanged} {rest : List Recv}
    {watch : Option WatchLoop} (hq : w.queue = .ok (.agentStatusChanged ev) :: rest)
    (hd : ¬ Due { w with queue := rest, watch := watch } pane)
    (hm : ¬ Marked (st.onStatus ev) pane) :
    Settled { w with queue := rest, watch := watch } (st.onStatus ev) pane := by
  rcases hs : applyStatus st.held ev with - | msg
  · rw [onStatus_none hs] at hm ⊢
    have hne : ev.pane ≠ pane := by
      rintro rfl
      exact hm (Or.inl (Finset.mem_insert_self _ _))
    have hm' : ¬ Marked st pane := fun h' => hm (h'.imp_left Finset.mem_insert_of_mem)
    exact (h.settled pane (not_due_of_rest hq hd hne) hm').congr rfl rfl
  · rw [onStatus_some hs] at hm ⊢
    have hne : ev.pane ≠ pane := by
      rintro rfl
      exact hm (Or.inl (Finset.mem_insert_self _ _))
    have hm' : ¬ Marked st pane := fun h' => hm (h'.imp_left Finset.mem_insert_of_mem)
    obtain ⟨row, hrow, hpane⟩ := paneId_of_applyStatus hs
    have hkey : msg.paneId = ev.pane := by rw [hpane, h.keyed _ _ hrow]
    refine (h.settled pane (not_due_of_rest hq hd hne) hm').congr ?_ rfl
    exact Finmap.lookup_insert_of_ne _ (hkey ▸ Ne.symm hne)

/-- A closed pane is settled: it has no row, and no answer brings it back. -/
theorem settled_onClosed (h : Tracks w st) {q : ℕ} {rest : List Recv} {watch : Option WatchLoop}
    (hq : w.queue = .ok (.paneClosed q) :: rest) (hnone : w.inventory q = none)
    (hd : ¬ Due { w with queue := rest, watch := watch } pane)
    (hm : ¬ Marked (st.onClosed q) pane) :
    Settled { w with queue := rest, watch := watch } (st.onClosed q) pane := by
  by_cases hp : q = pane
  · subst hp
    have hagree : Agrees { w with queue := rest, watch := watch } (st.onClosed q) q := by
      show (st.held.erase q).lookup q = (w.inventory q).map agentMsg
      rw [Finmap.lookup_erase, hnone]
      rfl
    refine ⟨fun _ => hagree, fun flight hr inv _ => ?_, fun _ _ => Or.inl hagree⟩
    obtain ⟨flight, -, rfl⟩ := Option.map_eq_some_iff.mp hr
    show (if q ∈ insert q flight.closed then none else inv q) = w.inventory q
    rw [if_pos (Finset.mem_insert_self _ _), hnone]
  · have hm' : ¬ Marked st pane :=
      fun h' => hm (h'.imp_left (Finset.mem_erase_of_ne_of_mem (Ne.symm hp)))
    have hs := h.settled pane (not_due_of_rest hq hd hp) hm'
    have hagree : Agrees w st pane →
        Agrees { w with queue := rest, watch := watch } (st.onClosed q) pane :=
      fun ha => (Finmap.lookup_erase_ne (Ne.symm hp)).trans ha
    refine ⟨fun hr => hagree (hs.idle (Option.map_eq_none_iff.mp hr)), fun flight hr inv hi => ?_,
      fun flight hr => ?_⟩
    · obtain ⟨flight, hr', rfl⟩ := Option.map_eq_some_iff.mp hr
      have ha := hs.answers flight hr' inv hi
      unfold answered at ha ⊢
      rw [← ha]
      simp [Ne.symm hp]
    · obtain ⟨flight, hr', rfl⟩ := Option.map_eq_some_iff.mp hr
      exact (hs.flight flight hr').imp_left hagree

theorem tracks_receive (h : Inv w) {recv : Recv} {rest : List Recv} {l : WatchLoop}
    {watch : Option WatchLoop} (hw : w.watch = some l) (hq : w.queue = recv :: rest) :
    Tracks { w with queue := rest, watch := watch } (l.st.onBus recv).1 := by
  have ht := h.tracks l hw
  refine ⟨keyed_onBus ht.keyed recv, fun flight hr => ?_, fun pane hd hm => ?_⟩
  · obtain ⟨flight', hr', hclosed⟩ := onBus_reading hr
    intro q hq'
    rcases (hclosed q).mp hq' with rfl | hq'
    · exact h.closed q (by simp [hq])
    · exact ht.closed flight' hr' hq'
  · rcases recv with (n | -) | (ev | ⟨ws, tab⟩ | q | -)
    · exact absurd (Or.inr rfl) hm
    · exact (ht.settled pane (not_due_of_rest hq hd id) hm).congr rfl rfl
    · exact settled_onStatus ht hq hd hm
    · exact (ht.settled pane (not_due_of_rest hq hd id) hm).congr rfl rfl
    · exact settled_onClosed ht hq (h.gone q (h.closed q (by simp [hq]))) hd hm
    · exact absurd (Or.inr rfl) hm

/-- A re-read that starts answers every mark, and can only answer with the inventory yet. -/
theorem tracks_startRead (h : Tracks w st) (hr : st.reading = none) {now : ℕ}
    {watch : Option WatchLoop} :
    Tracks { w with answers := [w.inventory], watch := watch } (st.startRead now) := by
  refine ⟨h.keyed, fun flight hf => ?_, fun pane hd _ => ⟨fun hf => ?_, fun flight hf inv hi => ?_,
    fun flight hf => ?_⟩⟩
  · cases hf
    exact Finset.empty_subset _
  · exact absurd hf (by simp [WatchState.startRead])
  · cases hf
    rw [List.mem_singleton.mp hi]
    simp [answered]
  · cases hf
    by_cases hm : Marked st pane
    · exact Or.inr hm
    · exact Or.inl ((h.settled pane hd hm).idle hr)

theorem tracks_finishRead (h : Tracks w st) {flight : InFlight} (hr : st.reading = some flight)
    {read : ReadResult} {watch : Option WatchLoop}
    (hread : ∀ snapshots, read = .ok snapshots → ∃ inv ∈ w.answers, Lists snapshots inv) :
    Tracks { w with watch := watch } (st.finishRead flight read) := by
  have hnone := finishRead_reading st flight read
  refine ⟨keyed_finishRead h.keyed flight read, fun flight' hf => absurd hf (by simp [hnone]),
    fun pane hd hm => ⟨fun _ => ?_, fun flight' hf => absurd hf (by simp [hnone]),
      fun flight' hf => absurd hf (by simp [hnone])⟩⟩
  rcases read with failure | snapshots
  · -- the marks of the re-read are marks again
    have hm' : ¬ Marked st pane := by
      rintro (hs | hs)
      · exact hm (Or.inl (Finset.mem_union_left _ hs))
      · exact hm (Or.inr (by simp [WatchState.finishRead, hs]))
    rcases (h.settled pane hd hm').flight flight hr with ha | hs | hs
    · exact ha
    · exact absurd (Or.inl (Finset.mem_union_right _ hs)) hm
    · exact absurd (Or.inr (by simp [WatchState.finishRead, hs])) hm
  · obtain ⟨inv, hi, hl⟩ := hread snapshots rfl
    have hn : ((answer flight snapshots).agents.map AgentMsg.paneId).Nodup :=
      nodup_buildAgentList (hl.1.sublist (List.filter_sublist.map _))
    rcases hre : flight.resnapshot
    · rw [finishRead_reconcile hre] at hm ⊢
      have hd' : pane ∉ st.stale := fun hs => hm (Or.inl hs)
      show (reconcile _ _ _).1.lookup pane = _
      rw [lookup_reconcile hn, if_neg hd', rowAt_answer hl,
        (h.settled pane hd hm).answers flight hr inv hi]
    · rw [finishRead_snapshot hre] at hm ⊢
      show (hold _).lookup pane = _
      rw [lookup_hold hn, rowAt_answer hl, (h.settled pane hd hm).answers flight hr inv hi]

/-! ### Whole runs -/

theorem inv_opening (h : w.Opening) : Inv w := by
  obtain ⟨hw, hq, ha, hg⟩ := h
  refine ⟨hg, fun pane hc => ?_, fun _ pane _ inv hi => ?_, fun l hl => ?_⟩
  · rw [hq] at hc
    exact absurd hc (by simp)
  · rw [ha, List.mem_singleton] at hi
    rw [hi]
  · rw [hw] at hl
    exact absurd hl (by simp)

/-- A turn of the watch leaves the backend as it is. -/
theorem inv_turn (h : Inv w) {queue : List Recv} {answers : List Inventory} {l : WatchLoop}
    (hq : ∀ recv ∈ queue, recv ∈ w.queue)
    (ht : Tracks { w with queue := queue, answers := answers, watch := some l } l.st) :
    Inv { w with queue := queue, answers := answers, watch := some l } := by
  refine ⟨h.gone, fun pane hc => h.closed pane (hq _ hc), fun hw => ?_, fun l' hl' => ?_⟩
  · exact absurd hw (by simp)
  · cases hl'
    exact ht

theorem inv_step {debounce : ℕ} {a : WorldAct} (h : Inv w) (hs : World.Step debounce w a w') :
    Inv w' := by
  rcases hs with hp | - | hev | ⟨hn, hq⟩ | - | ⟨hw, ha, hl⟩ | ⟨hw, hq, hl⟩ | ⟨hw, hl⟩ |
    ⟨hw, hr, hl⟩ | ⟨hw, hl⟩ | ⟨hw, hl⟩
  · exact inv_become h (Finset.Subset.refl _) fun q hq => Or.inl ⟨hq, fun he => hp (he ▸ hq)⟩
  · refine inv_become h (Finset.subset_insert _ _) fun q hq => ?_
    rename_i p
    by_cases he : q = p
    · exact Or.inr ⟨he, rfl⟩
    · exact Or.inl ⟨Finset.mem_of_mem_insert_of_ne hq he, he⟩
  · exact inv_publish h hev
  · exact inv_lose h hn hq
  · exact inv_shutdown h
  · exact inv_turn h (fun _ hq => hq) (tracks_opens h hw ha hl)
  · obtain rfl := step_bus hl
    exact inv_turn h (fun _ hr => by rw [hq]; exact List.mem_cons_of_mem _ hr)
      (tracks_receive h hw hq)
  · obtain ⟨hwant, -, rfl⟩ := step_startRead hl
    exact inv_turn h (fun _ hq => hq)
      (tracks_startRead (h.tracks _ hw) (reading_of_rereadWanted hwant))
  · obtain ⟨flight, hf, rfl⟩ := step_finishRead hl
    exact inv_turn h (fun _ hq => hq) (tracks_finishRead (h.tracks _ hw) hf hr)
  · obtain ⟨ev, rest, -, rfl⟩ := step_deliver hl
    have ht := h.tracks _ hw
    exact inv_turn h (fun _ hq => hq)
      ⟨ht.keyed, ht.closed, fun pane hd hm => (ht.settled pane hd hm).congr rfl rfl⟩
  · obtain rfl := step_stop hl
    have ht := h.tracks _ hw
    exact inv_turn h (fun _ hq => hq)
      ⟨ht.keyed, ht.closed, fun pane hd hm => (ht.settled pane hd hm).congr rfl rfl⟩

/-- The watch has nothing left to hear, no mark, and no re-read out. -/
structure Quiescent (w : World) (st : WatchState) : Prop where
  published : w.owed = ∅
  delivered : w.queue = []
  stale : st.stale = ∅
  resnapshot : st.resnapshot = false
  reading : st.reading = none

/-- **A quiescent watch holds the backend's inventory, row for row**, after every interleaving of
changes, closures, publications, losses, deliveries and re-reads. -/
theorem converges {debounce : ℕ} {w₀ : World} {as : List WorldAct} (h₀ : w₀.Opening)
    (h : Run (World.Step debounce) w₀ as w) {l : WatchLoop} (hw : w.watch = some l)
    (hq : Quiescent w l.st) (pane : ℕ) :
    l.st.held.lookup pane = (w.inventory pane).map agentMsg := by
  have hinv : Inv w := h.invariant (fun _ _ _ hi hs => inv_step hi hs) (inv_opening h₀)
  have hd : ¬ Due w pane := by
    rintro (ho | ⟨recv, hr, -⟩)
    · rw [hq.published] at ho
      exact absurd ho (by simp)
    · rw [hq.delivered] at hr
      exact absurd hr (by simp)
  have hm : ¬ Marked l.st pane := by
    rintro (hs | hs)
    · rw [hq.stale] at hs
      exact absurd hs (by simp)
    · rw [hq.resnapshot] at hs
      exact absurd hs (by simp)
  exact ((hinv.tracks l hw).settled pane hd hm).idle hq.reading

/-- An inventory of one agent, in pane 1. -/
def oneAgent (status : AgentStatus) : Inventory :=
  Function.update (fun _ => none) 1 (some (.bare 1 status))

theorem lists_oneAgent (status : AgentStatus) : Lists [.bare 1 status] (oneAgent status) := by
  refine ⟨by simp, fun pane => ?_⟩
  rw [rowAt_cons, rowAt_nil]
  by_cases hp : 1 = pane
  · subst hp
    simp [oneAgent, AgentSnapshot.bare]
  · simp [oneAgent, AgentSnapshot.bare, hp, Ne.symm hp]

/-- The agent in pane 1 is done, and the event that says so is lost: the watch hears that it missed
one, reads the inventory again, and is quiescent. -/
theorem converges_one_agent :
    ∃ w l, Run (World.Step 250) ⟨oneAgent .working, ∅, ∅, [], [oneAgent .working], none⟩
        [.opens [.bare 1 .working] 0, .change 1 (.bare 1 .done),
          .publish (.agentStatusChanged ⟨1, "", none, .done, none, none, none, none, false⟩),
          .lose (.error (.lagged 1)), .turn (.bus (.error (.lagged 1))), .turn (.startRead 250),
          .turn (.finishRead (.ok [.bare 1 .done]))] w ∧
      w.watch = some l ∧ l.st.held.lookup 1 = some (agentMsg (.bare 1 .done)) := by
  have hdone : Function.update (oneAgent .working) 1 (some (.bare 1 .done)) = oneAgent .done :=
    Function.update_idem _ _ _
  obtain ⟨w, l, hrun, hw, hq, hinv⟩ : ∃ w l, Run (World.Step 250)
      ⟨oneAgent .working, ∅, ∅, [], [oneAgent .working], none⟩
      [.opens [.bare 1 .working] 0, .change 1 (.bare 1 .done),
        .publish (.agentStatusChanged ⟨1, "", none, .done, none, none, none, none, false⟩),
        .lose (.error (.lagged 1)), .turn (.bus (.error (.lagged 1))), .turn (.startRead 250),
        .turn (.finishRead (.ok [.bare 1 .done]))] w ∧
      w.watch = some l ∧ Quiescent w l.st ∧ w.inventory = oneAgent .done := by
    have hlose : ([.ok (.agentStatusChanged ⟨1, "", none, .done, none, none, none, none, false⟩)] :
        List Recv) = [] ++ [_] ++ [] := rfl
    refine ⟨_, _, .cons (.opens rfl (List.mem_singleton_self _) (lists_oneAgent .working))
      (.cons (.change (by simp)) (.cons (.publish (by simp)) (.cons (.lose (.lagged 1) hlose)
        (.cons (.receive rfl rfl rfl) (.cons (.startRead rfl rfl)
          (.cons (.finishRead rfl ?_ rfl) (.nil _))))))), rfl, ?_, hdone⟩
    · rintro snapshots ⟨⟩
      have hl := lists_oneAgent .done
      rw [← hdone] at hl
      exact ⟨_, List.mem_singleton_self _, hl⟩
    · exact ⟨by decide, rfl, rfl, rfl, rfl⟩
  refine ⟨w, l, hrun, hw, ?_⟩
  rw [converges ⟨rfl, rfl, rfl, by simp⟩ hrun hw hq 1, hinv]
  rfl

end MuxrCore.Grpc.Watch.Converge
