import MuxrCore.Grpc.Watch.State

/-! # What the client holds

A client keeps rows by pane: a `snapshot` replaces them, a `changed` sets one, a `removedPaneId`
drops one. `mirror` is what it has after a list of messages. Every message a turn queues announces
what the turn does to the held rows (`step_announced`), so the client, once it has them all, holds
exactly the rows the watch believes it holds (`mirror_eq_held`). -/

namespace MuxrCore.Grpc.Watch.Mirror

open MuxrCore.Lib.Runs MuxrCore.Lib.Rows MuxrCore.Multiplexer.Agents MuxrCore.Grpc.AgentOps
open MuxrCore.Grpc.Watch.State

/-- What a client does with a message. -/
def apply (m : Held) : AgentEvent → Held
  | .snapshot list => hold list
  | .changed msg => m.insert msg.paneId msg
  | .removedPaneId pane => m.erase pane

/-- The rows of a client that started with none. -/
def mirror (evs : List AgentEvent) : Held := evs.foldl apply ∅

/-- A message that gives the client a row for the pane. -/
def Shows (pane : ℕ) : AgentEvent → Prop
  | .snapshot list => pane ∈ list.agents.map AgentMsg.paneId
  | .changed msg => msg.paneId = pane
  | .removedPaneId _ => False

/-- An inventory lists each pane at most once. -/
def Distinct (snapshots : List AgentSnapshot) : Prop := (snapshots.map AgentSnapshot.pane).Nodup

/-- The messages queued between two states announce the change of the held rows: applied to the rows
held before they give the rows held after, if the inventory that was read lists each pane at most
once; and in any case a row they give is held after. -/
def Announced (st st' : WatchState) (distinct : Prop) : Prop :=
  ∃ new, st'.outbox = st.outbox ++ new ∧ (distinct → new.foldl apply st.held = st'.held) ∧
    ∀ pane, ∀ ev ∈ new, Shows pane ev → pane ∈ st'.held

variable {held : Held} {fresh : AgentList} {defer : Finset ℕ}

/-! ### The messages of a reconciliation -/

theorem foldl_changed (rows : List AgentMsg) :
    (rows.map .changed).foldl apply held = insertAll AgentMsg.paneId held rows := by
  rw [List.foldl_map]
  rfl

theorem foldl_removed (panes : List ℕ) :
    (panes.map .removedPaneId).foldl apply held = eraseAll held panes := by
  rw [List.foldl_map]
  rfl

/-- **The messages of a reconciliation announce what it does to the held rows.** -/
theorem foldl_reconcile (hn : (fresh.agents.map AgentMsg.paneId).Nodup) :
    (reconcile held fresh defer).2.foldl apply held = (reconcile held fresh defer).1 := by
  have hrows : ((undeferred fresh defer).map AgentMsg.paneId).Nodup := nodup_undeferred hn
  have hchanged : ((changedRows held (undeferred fresh defer)).map AgentMsg.paneId).Nodup :=
    hrows.sublist (List.filter_sublist.map _)
  refine Finmap.ext_lookup fun pane => ?_
  rw [lookup_reconcile hn]
  show ((_ ++ _ : List AgentEvent).foldl apply held).lookup pane = _
  rw [List.foldl_append, foldl_changed, foldl_removed, lookup_eraseAll,
    lookup_insertAll hchanged, changedRows, rowAt_filter_row hrows]
  have hgone := @mem_gonePanes held defer (undeferred fresh defer) pane
  rw [rowAt_undeferred] at hgone ⊢
  by_cases hd : pane ∈ defer
  · have hno : pane ∉ gonePanes held (undeferred fresh defer) defer := fun h => (hgone.mp h).2.1 hd
    simp [hd, hno]
  · rw [if_neg hd] at hgone ⊢
    rw [if_neg hd]
    rcases hrow : rowAt AgentMsg.paneId fresh.agents pane with - | a
    · -- no fresh row: the pane is dropped, if it was held
      by_cases hheld : pane ∈ held
      · rw [if_pos (hgone.mpr ⟨hheld, hd, hrow⟩)]
      · have hno : pane ∉ gonePanes held (undeferred fresh defer) defer :=
          fun h => hheld (hgone.mp h).1
        rw [if_neg hno, Finmap.lookup_eq_none.mpr hheld]
        rfl
    · -- a fresh row: it is set, unless the held one is the same
      have hno : pane ∉ gonePanes held (undeferred fresh defer) defer := by
        intro h
        rw [(hgone.mp h).2.2] at hrow
        exact absurd hrow (by simp)
      rw [if_neg hno]
      obtain rfl : a.paneId = pane := key_of_rowAt hrow
      by_cases hsame : held.lookup a.paneId = some a <;> simp [Option.filter, hsame]

theorem shows_reconcile {pane : ℕ} {ev : AgentEvent} (hev : ev ∈ (reconcile held fresh defer).2)
    (hs : Shows pane ev) : pane ∈ (reconcile held fresh defer).1 := by
  rcases List.mem_append.mp hev with hev | hev
  · obtain ⟨a, ha, rfl⟩ := List.mem_map.mp hev
    obtain rfl : a.paneId = pane := hs
    refine mem_keepAll _ _ ((mem_insertAll _).mpr (Or.inl (List.mem_map_of_mem ?_)))
    exact List.mem_of_mem_filter ha
  · obtain ⟨a, -, rfl⟩ := List.mem_map.mp hev
    exact absurd hs id

/-! ### The messages of a turn -/

/-- A step that queues nothing and changes no row. -/
theorem announced_same {st st' : WatchState} (ho : st'.outbox = st.outbox)
    (hh : st'.held = st.held) (distinct : Prop) : Announced st st' distinct :=
  ⟨[], by simp [ho], fun _ => hh.symm, by simp⟩

theorem announced_onStatus (st : WatchState) (ev : AgentStatusChanged) :
    Announced st (st.onStatus ev) True := by
  rcases h : applyStatus st.held ev with - | msg
  · rw [onStatus_none h]
    exact announced_same rfl rfl _
  · rw [onStatus_some h]
    refine ⟨[.changed msg], rfl, fun _ => rfl, ?_⟩
    rintro pane ev hev hs
    obtain rfl := List.mem_singleton.mp hev
    obtain rfl : msg.paneId = pane := hs
    exact Finmap.mem_insert.mpr (Or.inl rfl)

theorem announced_onClosed (st : WatchState) (pane : ℕ) :
    Announced st (st.onClosed pane) True := by
  by_cases hheld : pane ∈ st.held
  · refine ⟨[.removedPaneId pane], ?_, fun _ => rfl, ?_⟩
    · simp [WatchState.onClosed, Finmap.lookup_isSome.mpr hheld]
    · rintro pane' ev hev hs
      obtain rfl := List.mem_singleton.mp hev
      exact absurd hs id
  · refine announced_same ?_ (erase_of_notMem hheld) _
    simp [WatchState.onClosed, Finmap.lookup_eq_none.mpr hheld]

theorem announced_onBus (st : WatchState) (recv : Recv) : Announced st (st.onBus recv).1 True := by
  rcases recv with (n | -) | (ev | ⟨ws, tab⟩ | pane | -)
  · exact announced_same rfl rfl _
  · exact announced_same rfl rfl _
  · exact announced_onStatus st ev
  · exact announced_same rfl rfl _
  · exact announced_onClosed st pane
  · exact announced_same rfl rfl _

theorem announced_finishRead (st : WatchState) (flight : InFlight) (read : ReadResult) :
    Announced st (st.finishRead flight read)
      (∀ snapshots, read = .ok snapshots → Distinct snapshots) := by
  rcases read with failure | snapshots
  · exact announced_same rfl rfl _
  · have hn : (∀ l, Except.ok snapshots = (.ok l : ReadResult) → Distinct l) →
        ((answer flight snapshots).agents.map AgentMsg.paneId).Nodup := fun hd =>
      nodup_buildAgentList ((hd snapshots rfl).sublist (List.filter_sublist.map _))
    rcases hre : flight.resnapshot
    · rw [finishRead_reconcile hre]
      exact ⟨_, rfl, fun hd => foldl_reconcile (hn hd), fun pane ev => shows_reconcile⟩
    · rw [finishRead_snapshot hre]
      refine ⟨[.snapshot (answer flight snapshots)], rfl, fun _ => rfl, ?_⟩
      rintro pane ev hev hs
      obtain rfl := List.mem_singleton.mp hev
      exact (mem_insertAll _).mpr (Or.inl hs)

/-- **What a turn queues announces what it does.** -/
theorem step_announced {debounce : ℕ} {w w' : WatchLoop} {a : Act}
    (h : w.step debounce a = some w') :
    ∃ new, w'.emitted = w.emitted ++ new ∧
      ((∀ snapshots, a = .finishRead (.ok snapshots) → Distinct snapshots) →
        new.foldl apply w.st.held = w'.st.held) ∧
      ∀ pane, ∀ ev ∈ new, Shows pane ev → pane ∈ w'.st.held := by
  have hofst : ∀ {st' : WatchState} {live : Bool} {distinct : Prop},
      Announced w.st st' distinct → w' = { w with st := st', live := live } →
      ∃ new, w'.emitted = w.emitted ++ new ∧
        (distinct → new.foldl apply w.st.held = w'.st.held) ∧
        ∀ pane, ∀ ev ∈ new, Shows pane ev → pane ∈ w'.st.held := by
    rintro st' live distinct ⟨new, ho, hfold, hshow⟩ rfl
    exact ⟨new, by simp [WatchLoop.emitted, ho], hfold, hshow⟩
  obtain ⟨rfl, ev, rest, ho, rfl⟩ | ⟨recv, rfl, rfl⟩ | ⟨now, rfl, -, -, rfl⟩ |
    ⟨read, flight, rfl, -, rfl⟩ | ⟨rfl, rfl⟩ := step_cases h
  · exact ⟨[], by simp [WatchLoop.emitted, ho], fun _ => rfl, by simp⟩
  · obtain ⟨new, he, hfold, hshow⟩ := hofst (announced_onBus w.st recv) rfl
    exact ⟨new, he, fun _ => hfold trivial, hshow⟩
  · have hsame := @announced_same w.st (w.st.startRead now) rfl rfl
    exact hofst (hsame _) rfl
  · obtain ⟨new, he, hfold, hshow⟩ := hofst (announced_finishRead w.st flight read) rfl
    refine ⟨new, he, fun hd => hfold fun snapshots hread => hd snapshots ?_, hshow⟩
    rw [hread]
  · exact hofst (announced_same rfl rfl _) rfl

/-! ### Whole runs -/

/-- **The client holds the rows the watch believes it holds**, once it has every message, delivered
or queued: for every run, if the inventories read list each pane at most once. -/
theorem mirror_eq_held {debounce : ℕ} {bus : Bool} {snapshots : List AgentSnapshot} {now : ℕ}
    {as : List Act} {w : WatchLoop}
    (h : Run (ofFn (WatchLoop.step debounce)) (startWatch bus snapshots now) as w)
    (hread : ∀ l, .finishRead (.ok l) ∈ as → Distinct l) : mirror w.emitted = w.st.held := by
  have hstep : ∀ (pre : List Act) (u : WatchLoop) (a : Act) (v : WatchLoop),
      Run (ofFn (WatchLoop.step debounce)) (startWatch bus snapshots now) pre u →
      ((∀ l, .finishRead (.ok l) ∈ pre → Distinct l) → mirror u.emitted = u.st.held) →
      ofFn (WatchLoop.step debounce) u a v →
      (∀ l, .finishRead (.ok l) ∈ pre ++ [a] → Distinct l) → mirror v.emitted = v.st.held := by
    intro pre u a v _ hu hv hd
    obtain ⟨new, he, hfold, -⟩ := step_announced hv
    have hpre := hu fun l hl => hd l (List.mem_append_left _ hl)
    have ha : ∀ l, a = .finishRead (.ok l) → Distinct l := fun l hl => hd l (by simp [hl])
    unfold mirror at hpre ⊢
    rw [he, List.foldl_append, hpre, hfold ha]
  exact h.history hstep (fun _ => rfl) hread

/-- A watch of one pane that reads its inventory again and finds another agent. -/
theorem mirror_eq_held_reread :
    ∃ w, Run (ofFn (WatchLoop.step 250)) (startWatch true [.bare 1 .idle] 0)
        [.bus (.ok .resynced), .startRead 250, .finishRead (.ok [.bare 1 .done, .bare 2 .idle]),
          .deliver] w ∧
      mirror w.emitted = w.st.held := by
  obtain ⟨w, hw⟩ : ∃ w, Run (ofFn (WatchLoop.step 250)) (startWatch true [.bare 1 .idle] 0)
      [.bus (.ok .resynced), .startRead 250, .finishRead (.ok [.bare 1 .done, .bare 2 .idle]),
        .deliver] w :=
    ⟨_, .cons rfl (.cons rfl (.cons rfl (.cons rfl (.nil _))))⟩
  exact ⟨w, hw, mirror_eq_held hw (by simp [Distinct, AgentSnapshot.bare])⟩

end MuxrCore.Grpc.Watch.Mirror
