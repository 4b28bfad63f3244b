import MuxrCore.Grpc.Watch.Mirror

/-! # Closed panes stay closed

A row that a watch did not hold comes only from a re-read whose answer lists its pane, and not from
one that was out when the pane was closed (`row_appears`). So after a closure no message gives the
client a row for the pane, until a re-read that started after the closure lists it again
(`closed_not_shown`). -/

namespace MuxrCore.Grpc.Watch.Closed

open MuxrCore.Lib.Runs MuxrCore.Lib.Rows MuxrCore.Multiplexer.Agents MuxrCore.Grpc.AgentOps
open MuxrCore.Grpc.Watch.State MuxrCore.Grpc.Watch.Mirror

variable {st : WatchState} {debounce : ℕ} {w w' : WatchLoop} {a : Act} {pane : ℕ}

/-! ### Where rows come from -/

theorem mem_hold {list : AgentList} :
    pane ∈ hold list ↔ pane ∈ list.agents.map AgentMsg.paneId := by
  rw [hold, mem_insertAll]
  simp [Finmap.notMem_empty]

theorem mem_of_mem_reconcile {held : Held} {fresh : AgentList} {defer : Finset ℕ}
    (h : pane ∈ (reconcile held fresh defer).1) :
    pane ∈ held ∨ pane ∈ fresh.agents.map AgentMsg.paneId := by
  rcases mem_of_mem_keepAll h with h | h
  · exact Or.inl h
  · rcases (mem_insertAll _).mp h with h | h
    · exact Or.inr ((List.filter_sublist.map _).subset h)
    · exact absurd h Finmap.notMem_empty

theorem mem_of_mem_answer {flight : InFlight} {snapshots : List AgentSnapshot}
    (h : pane ∈ (answer flight snapshots).agents.map AgentMsg.paneId) :
    pane ∉ flight.closed ∧ pane ∈ snapshots.map AgentSnapshot.pane := by
  obtain ⟨a, ha, rfl⟩ := List.mem_map.mp (panes_buildAgentList.mem_iff.mp h)
  obtain ⟨hmem, hclosed⟩ := List.mem_filter.mp ha
  exact ⟨by simpa using hclosed, List.mem_map_of_mem hmem⟩

theorem mem_of_mem_onBus (hk : Keyed AgentMsg.paneId st.held) {recv : Recv}
    (h : pane ∈ (st.onBus recv).1.held) : pane ∈ st.held := by
  rcases recv with (n | -) | (ev | ⟨ws, tab⟩ | q | -)
  · exact h
  · exact h
  · change pane ∈ (st.onStatus ev).held at h
    rcases hs : applyStatus st.held ev with - | msg
    · rw [onStatus_none hs] at h
      exact h
    · -- the row replaced is held under its own pane
      obtain ⟨row, hrow, hpane⟩ := paneId_of_applyStatus hs
      rw [onStatus_some hs] at h
      rcases Finmap.mem_insert.mp h with rfl | h
      · rw [hpane, hk _ _ hrow]
        exact Finmap.mem_of_lookup_eq_some hrow
      · exact h
  · exact h
  · exact (Finmap.mem_erase.mp h).2
  · exact h

theorem mem_of_mem_finishRead {flight : InFlight} {read : ReadResult}
    (h : pane ∈ (st.finishRead flight read).held) :
    pane ∈ st.held ∨ ∃ snapshots, read = .ok snapshots ∧ pane ∉ flight.closed ∧
      pane ∈ snapshots.map AgentSnapshot.pane := by
  rcases read with failure | snapshots
  · exact Or.inl h
  · rcases hre : flight.resnapshot
    · rw [finishRead_reconcile hre] at h
      rcases mem_of_mem_reconcile h with h | h
      · exact Or.inl h
      · exact Or.inr ⟨snapshots, rfl, mem_of_mem_answer h⟩
    · rw [finishRead_snapshot hre] at h
      exact Or.inr ⟨snapshots, rfl, mem_of_mem_answer (mem_hold.mp h)⟩

/-- **A row appears only by a re-read that lists its pane**, and during which the pane was not
closed. -/
theorem row_appears (hk : Keyed AgentMsg.paneId w.st.held) (hw : w.step debounce a = some w')
    (h : pane ∈ w'.st.held) :
    pane ∈ w.st.held ∨ ∃ flight snapshots, a = .finishRead (.ok snapshots) ∧
      w.st.reading = some flight ∧ pane ∉ flight.closed ∧
      pane ∈ snapshots.map AgentSnapshot.pane := by
  obtain ⟨-, ev, rest, -, rfl⟩ | ⟨recv, -, rfl⟩ | ⟨now, -, -, -, rfl⟩ |
    ⟨read, flight, rfl, hr, rfl⟩ | ⟨-, rfl⟩ := step_cases hw
  · exact Or.inl h
  · exact Or.inl (mem_of_mem_onBus hk h)
  · exact Or.inl h
  · rcases mem_of_mem_finishRead h with hold | ⟨snapshots, rfl, hlist⟩
    · exact Or.inl hold
    · exact Or.inr ⟨flight, snapshots, rfl, hr, hlist⟩
  · exact Or.inl h

/-- A re-read that is out after a turn has just started, or was out before it and has lost none of
its closed panes. -/
theorem flight_step (hw : w.step debounce a = some w') {flight' : InFlight}
    (h : w'.st.reading = some flight') :
    (∃ now, a = .startRead now) ∨
      ∃ flight, w.st.reading = some flight ∧ flight.closed ⊆ flight'.closed := by
  obtain ⟨-, ev, rest, -, rfl⟩ | ⟨recv, -, rfl⟩ | ⟨now, ha, -, -, rfl⟩ |
    ⟨read, flight, -, -, rfl⟩ | ⟨-, rfl⟩ := step_cases hw
  · exact Or.inr ⟨flight', h, Finset.Subset.refl _⟩
  · obtain ⟨flight, hr, hclosed⟩ := onBus_reading h
    exact Or.inr ⟨flight, hr, fun q hq => (hclosed q).mpr (Or.inr hq)⟩
  · exact Or.inl ⟨now, ha⟩
  · change (w.st.finishRead flight read).reading = some flight' at h
    rw [finishRead_reading] at h
    exact absurd h (by simp)
  · exact Or.inr ⟨flight', h, Finset.Subset.refl _⟩

/-! ### After a closure -/

/-- A re-read that starts during `as` and finishes during it lists the pane. -/
def ListedAnew (pane : ℕ) (as : List Act) : Prop :=
  ∃ before now after snapshots, as = before ++ Act.startRead now :: after ∧
    Act.finishRead (.ok snapshots) ∈ after ∧ pane ∈ snapshots.map AgentSnapshot.pane

theorem ListedAnew.append {as : List Act} (h : ListedAnew pane as) (bs : List Act) :
    ListedAnew pane (as ++ bs) := by
  obtain ⟨before, now, after, snapshots, rfl, hfin, hmem⟩ := h
  exact ⟨before, now, after ++ bs, snapshots, by simp, List.mem_append_left _ hfin, hmem⟩

/-- A re-read that finishes after one has started in `as` started in `as` too. -/
theorem listedAnew_of_started {as : List Act} {now : ℕ} {snapshots : List AgentSnapshot}
    (hs : .startRead now ∈ as) (hmem : pane ∈ snapshots.map AgentSnapshot.pane) :
    ListedAnew pane (as ++ [Act.finishRead (.ok snapshots)]) := by
  obtain ⟨before, after, rfl⟩ := List.append_of_mem hs
  exact ⟨before, now, after ++ [Act.finishRead (.ok snapshots)], snapshots, by simp, by simp, hmem⟩

/-- The pane is closed, since the closure that came before the actions `as`: it has no row, and a
re-read that is out started in `as` or knows that the pane was closed. -/
structure StaysClosed (pane : ℕ) (as : List Act) (w : WatchLoop) : Prop where
  keyed : Keyed AgentMsg.paneId w.st.held
  gone : pane ∉ w.st.held
  flight : ∀ flight, w.st.reading = some flight →
    (∃ now, .startRead now ∈ as) ∨ pane ∈ flight.closed

/-- The closure closes the pane. -/
theorem closed_onBus (hk : Keyed AgentMsg.paneId w.st.held)
    (hw : w.step debounce (.bus (.ok (.paneClosed pane))) = some w') : StaysClosed pane [] w' := by
  have hk' := keyed_step hk hw
  obtain rfl := step_bus hw
  refine ⟨hk', ?_, fun flight hr => Or.inr ?_⟩
  · exact fun hmem => (Finmap.mem_erase.mp hmem).1 rfl
  · obtain ⟨flight, -, rfl⟩ := Option.map_eq_some_iff.mp hr
    exact Finset.mem_insert_self _ _

theorem closed_step {as : List Act} (h : StaysClosed pane as w) (hw : w.step debounce a = some w')
    (hnew : ¬ ListedAnew pane (as ++ [a])) : StaysClosed pane (as ++ [a]) w' := by
  refine ⟨keyed_step h.keyed hw, fun hmem => ?_, fun flight' hr => ?_⟩
  · rcases row_appears h.keyed hw hmem with hold | ⟨flight, snapshots, rfl, hr, hopen, hlist⟩
    · exact h.gone hold
    · rcases h.flight flight hr with ⟨now, hs⟩ | hclosed
      · exact hnew (listedAnew_of_started hs hlist)
      · exact hopen hclosed
  · rcases flight_step hw hr with ⟨now, rfl⟩ | ⟨flight, hr, hsub⟩
    · exact Or.inl ⟨now, by simp⟩
    · rcases h.flight flight hr with ⟨now, hs⟩ | hclosed
      · exact Or.inl ⟨now, List.mem_append_left _ hs⟩
      · exact Or.inr (hsub hclosed)

/-- **After a closure no message gives the client a row for the pane**, until a re-read that
started after the closure lists it. `w` is any state the watch can reach, and the closure takes it
to `w₁`. -/
theorem closed_not_shown {bus : Bool} {snapshots : List AgentSnapshot} {now : ℕ}
    {pre as : List Act} {w₁ w₂ : WatchLoop}
    (hreach : Run (ofFn (WatchLoop.step debounce)) (startWatch bus snapshots now) pre w)
    (hclosed : w.step debounce (.bus (.ok (.paneClosed pane))) = some w₁)
    (hrun : Run (ofFn (WatchLoop.step debounce)) w₁ as w₂) (hnew : ¬ ListedAnew pane as) :
    ∃ new, w₂.emitted = w₁.emitted ++ new ∧ ∀ ev ∈ new, ¬ Shows pane ev := by
  have hk : Keyed AgentMsg.paneId w.st.held :=
    hreach.invariant (fun _ _ _ h hw => keyed_step h hw) (keyed_hold _)
  have hstep : ∀ (pre : List Act) (u : WatchLoop) (a : Act) (v : WatchLoop),
      Run (ofFn (WatchLoop.step debounce)) w₁ pre u →
      (¬ ListedAnew pane pre → StaysClosed pane pre u ∧
        ∃ new, u.emitted = w₁.emitted ++ new ∧ ∀ ev ∈ new, ¬ Shows pane ev) →
      ofFn (WatchLoop.step debounce) u a v → ¬ ListedAnew pane (pre ++ [a]) →
      StaysClosed pane (pre ++ [a]) v ∧
        ∃ new, v.emitted = w₁.emitted ++ new ∧ ∀ ev ∈ new, ¬ Shows pane ev := by
    intro pre u a v _ hu hv hnew
    obtain ⟨hc, new, he, hshow⟩ := hu fun h => hnew (h.append [a])
    have hc' := closed_step hc hv hnew
    obtain ⟨new', he', -, hshow'⟩ := step_announced hv
    refine ⟨hc', new ++ new', by rw [he', he, List.append_assoc], fun ev hev hs => ?_⟩
    rcases List.mem_append.mp hev with hev | hev
    · exact hshow ev hev hs
    · exact hc'.gone (hshow' pane ev hev hs)
  exact (hrun.history hstep (fun _ => ⟨closed_onBus hk hclosed, [], by simp, by simp⟩) hnew).2

/-- Pane 1 is closed while a re-read is out that still lists it. -/
theorem closed_not_shown_in_flight :
    ∃ w w₁ w₂, Run (ofFn (WatchLoop.step 250)) (startWatch true [.bare 1 .idle] 0)
        [.bus (.ok .resynced), .startRead 250] w ∧
      w.step 250 (.bus (.ok (.paneClosed 1))) = some w₁ ∧
      Run (ofFn (WatchLoop.step 250)) w₁ [.finishRead (.ok [.bare 1 .done])] w₂ ∧
      ∃ new, w₂.emitted = w₁.emitted ++ new ∧ ∀ ev ∈ new, ¬ Shows 1 ev := by
  obtain ⟨w, w₁, w₂, hw, hclosed, hrun⟩ : ∃ w w₁ w₂,
      Run (ofFn (WatchLoop.step 250)) (startWatch true [.bare 1 .idle] 0)
        [.bus (.ok .resynced), .startRead 250] w ∧
      w.step 250 (.bus (.ok (.paneClosed 1))) = some w₁ ∧
      Run (ofFn (WatchLoop.step 250)) w₁ [.finishRead (.ok [.bare 1 .done])] w₂ :=
    ⟨_, _, _, .cons rfl (.cons rfl (.nil _)), rfl, .cons rfl (.nil _)⟩
  refine ⟨w, w₁, w₂, hw, hclosed, hrun, closed_not_shown hw hclosed hrun ?_⟩
  rintro ⟨before, now, after, snapshots, has, -, -⟩
  have hmem : Act.startRead now ∈ [Act.finishRead (.ok [.bare 1 .done])] := by rw [has]; simp
  simp at hmem

end MuxrCore.Grpc.Watch.Closed
