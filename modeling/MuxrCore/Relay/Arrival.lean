import MuxrCore.Relay.Attach

/-! # Attaches in order of arrival

Every attach is stamped when its request is received, and setting it up takes as long as it takes,
so attaches register in any order. `LaterWins` says that one which arrived before another that has
registered under its key comes back evicted. The order is kept in the slot alone: it holds as long
as such an attach finds its key held (`later_wins_iff`), and a holder that leaves takes the order
with it (`later_wins_fails`). -/

namespace MuxrCore.Relay.Arrival

open MuxrCore.Lib.Runs MuxrCore.Lib.Rows MuxrCore.Relay.Attach

/-- An attach that arrived after `arrival` was registered under the key by `pre`. -/
def Superseded (pre : List Act) (key : AttachKey) (arrival : ℕ) : Prop :=
  ∃ connectionId later, Act.register (some key) connectionId later ∈ pre ∧ arrival < later

/-- An attach that registers when a later one has registered under its key comes back evicted. -/
def LaterWins (pre : List Act) (s : Attaches) (a : Act) : Prop :=
  ∀ key connectionId arrival, a = .register (some key) connectionId arrival →
    Superseded pre key arrival →
      let r := s.registry.register (some key) connectionId arrival
      r.1.isEvicted r.2.1 = true

/-- An attach that registers when a later one has registered under its key finds the key held. -/
def Held (pre : List Act) (s : Attaches) (a : Act) : Prop :=
  ∀ key connectionId arrival, a = .register (some key) connectionId arrival →
    Superseded pre key arrival → s.registry.holder key ≠ none

/-- A slot's arrival is the latest registered under its key. -/
def Latest (as : List Act) (s : Attaches) : Prop :=
  ∀ key slot, s.registry.slots.lookup key = some slot →
    ∀ connectionId arrival, Act.register (some key) connectionId arrival ∈ as →
      arrival ≤ slot.arrival

/-! ### The holder is the latest to arrive -/

section
variable {as : List Act} {s : Attaches} {key : AttachKey} {connectionId : String} {arrival : ℕ}

/-- The new slot of a key, when what registered under the key before arrived earlier. -/
theorem latest_install (h : Latest as s) {reg : AttachRegistry} {leases : List AttachLease}
    {signal : SignalId}
    (hreg : reg.slots = s.registry.slots.insert key ⟨connectionId, signal, arrival⟩)
    (hle : ∀ c m, Act.register (some key) c m ∈ as → m ≤ arrival) :
    Latest (as ++ [Act.register (some key) connectionId arrival]) ⟨reg, leases⟩ := by
  intro k slot hslot c m hm
  change reg.slots.lookup k = some slot at hslot
  rw [List.mem_append, List.mem_singleton] at hm
  rw [hreg] at hslot
  rcases lookup_insert_eq_some_iff.mp hslot with ⟨rfl, rfl⟩ | ⟨hkey, hslot⟩
  · rcases hm with hm | hm
    · exact hle c m hm
    · cases hm
      exact le_rfl
  · rcases hm with hm | hm
    · exact h k slot hslot c m hm
    · cases hm
      exact absurd rfl hkey

theorem latest_register (h : Latest as s) (key : Option AttachKey)
    (hheld : Held as s (.register key connectionId arrival)) :
    Latest (as ++ [Act.register key connectionId arrival])
      ⟨(s.registry.register key connectionId arrival).1,
        s.leases ++ [(s.registry.register key connectionId arrival).2.1]⟩ := by
  rcases key with - | key
  · intro k slot hslot c m hm
    rw [List.mem_append, List.mem_singleton] at hm
    rcases hm with hm | hm
    · exact h k slot hslot c m hm
    · cases hm
  · rcases ho : s.registry.slots.lookup key with - | o
    · rw [register_vacant ho]
      refine latest_install h rfl fun c m hm => ?_
      -- the key is vacant, so nothing later has registered under it
      by_contra hlt
      exact hheld key connectionId arrival rfl ⟨c, m, hm, Nat.lt_of_not_le hlt⟩
        (holder_eq_none.mpr ho)
    · by_cases ha : arrival < o.arrival
      · rw [register_stale ho ha]
        intro k slot hslot c m hm
        rw [List.mem_append, List.mem_singleton] at hm
        rcases hm with hm | hm
        · exact h k slot hslot c m hm
        · cases hm
          change s.registry.slots.lookup key = some slot at hslot
          rw [ho] at hslot
          cases hslot
          exact Nat.le_of_lt ha
      · have hle := Nat.le_of_not_lt ha
        rw [register_takeover ho hle]
        exact latest_install h rfl fun c m hm => (h key o ho c m hm).trans hle

end

theorem latest_step {as : List Act} {s t : Attaches} {a : Act} (h : Latest as s)
    (hheld : Held as s a) (ht : s.step a = some t) : Latest (as ++ [a]) t := by
  obtain ⟨key, connectionId, arrival, rfl, rfl⟩ | ⟨i, l, rfl, -, rfl⟩ := step_cases ht
  · exact latest_register h key hheld
  · intro k slot hslot c m hm
    have hm' : Act.register (some k) c m ∈ as := by simpa using hm
    exact h k slot (lookup_of_dropLease hslot).1 c m hm'

theorem latest_run {as : List Act} {s : Attaches}
    (h : Run (ofFn Attaches.step) Attaches.init as s)
    (hheld : Along (ofFn Attaches.step) Held Attaches.init as) : Latest as s :=
  h.history_along (fun _ _ _ _ _ hI hC ht => latest_step hI hC ht)
    (by simp [Latest, Attaches.init, AttachRegistry.empty]) hheld

/-! ### Which attaches come back evicted -/

/-- An attach comes back evicted exactly when its key is held by one that arrived later. -/
theorem register_evicted_iff {reg : AttachRegistry} (hfr : Fresh reg) {key : AttachKey}
    {connectionId : String} {arrival : ℕ} :
    (let r := reg.register (some key) connectionId arrival; r.1.isEvicted r.2.1 = true) ↔
      ∃ slot, reg.slots.lookup key = some slot ∧ arrival < slot.arrival := by
  rcases ho : reg.slots.lookup key with - | o
  · rw [register_vacant ho]
    simp [AttachRegistry.isEvicted, hfr.unfired]
  · by_cases ha : arrival < o.arrival
    · rw [register_stale ho ha]
      simp [AttachRegistry.isEvicted, ha]
    · rw [register_takeover ho (Nat.le_of_not_lt ha)]
      have hne : reg.nextSignal ≠ o.signal := Nat.ne_of_gt (hfr.allocated key o ho)
      simp [AttachRegistry.isEvicted, hfr.unfired, Function.update_of_ne hne, ha]

/-- **The later-received attach wins in exactly the runs where an attach that arrived before another
of its key always finds the key held.** -/
theorem later_wins_iff (as : List Act) :
    Along (ofFn Attaches.step) LaterWins Attaches.init as ↔
      Along (ofFn Attaches.step) Held Attaches.init as := by
  constructor
  · intro h pre a post u has hr key connectionId arrival ha hsup hnone
    have hev := h pre a post u has hr key connectionId arrival ha hsup
    obtain ⟨slot, hslot, -⟩ := (register_evicted_iff (fresh_run hr)).mp hev
    rw [holder_eq_none, hslot] at hnone
    exact absurd hnone (by simp)
  · intro h pre a post u has hr key connectionId arrival ha hsup
    have hpre : Along (ofFn Attaches.step) Held Attaches.init pre := (has ▸ h).left
    have hne := h pre a post u has hr key connectionId arrival ha hsup
    refine (register_evicted_iff (fresh_run hr)).mpr ?_
    rcases hslot : u.registry.slots.lookup key with - | slot
    · exact absurd (holder_eq_none.mpr hslot) hne
    · obtain ⟨c, later, hmem, hlt⟩ := hsup
      have hle := latest_run hr hpre key slot hslot c later hmem
      exact ⟨slot, rfl, Nat.lt_of_lt_of_le hlt hle⟩

/-- The second to arrive registers and leaves, and then the first registers: it is not evicted. -/
theorem later_wins_fails :
    ¬ Along (ofFn Attaches.step) LaterWins Attaches.init
      [.register (some ⟨⟨[]⟩, "tab"⟩) "b" 2, .drop 0, .register (some ⟨⟨[]⟩, "tab"⟩) "a" 1] := by
  intro h
  have hev := h [.register (some ⟨⟨[]⟩, "tab"⟩) "b" 2, .drop 0] _ [] _ rfl
    (.cons rfl (.cons rfl (.nil _))) _ _ _ rfl ⟨"b", 2, by simp, by decide⟩
  exact absurd hev (by decide)

end MuxrCore.Relay.Arrival
