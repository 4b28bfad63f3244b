import MuxrCore.Lib.Rows
import MuxrCore.Lib.Runs

/-! # Attach eviction

An attach may carry a key: the identity of its token and an instance id the client chose. The
registry holds, per key, the one attach that holds it. Registering under a key that is already held
evicts the holder, by firing the one-shot signal its lease listens on, unless the holder arrived
later: then the newcomer is stale and its own lease comes back fired. Dropping a lease gives the
key back, if the lease still holds it.

`Inv` ties the slots to the live leases and their signals; with distinct connection ids every step
keeps it (`inv_step`), and the live leases of a key that are not evicted are exactly its holder
(`holders_eq`). -/

namespace MuxrCore.Relay.Attach

open MuxrCore.Lib.Runs MuxrCore.Lib.Rows

/-- The identity of a bearer token: a digest of it. -/
structure TokenIdentity where
  digest : List UInt8
  deriving DecidableEq, Repr

/-- The identity of a token under a hash function: the hash of a domain tag and the token. -/
def TokenIdentity.of (sha256 : List UInt8 → List UInt8) (token : String) : TokenIdentity :=
  ⟨sha256 ("muxrd/attach-token-identity/v1\x00".toUTF8.data.toList ++ token.toUTF8.data.toList)⟩

/-- The key of an evictable attach. -/
structure AttachKey where
  token : TokenIdentity
  instanceId : String
  deriving DecidableEq, Repr

def maxClientInstanceIdLen : ℕ := 128

/-- The key of an attach; `none` for one that takes no part in eviction. -/
def AttachKey.new (sha256 : List UInt8 → List UInt8) (token : Option String)
    (clientInstanceId : String) : Option AttachKey :=
  match token with
  | none => none
  | some token =>
    if clientInstanceId.isEmpty || maxClientInstanceIdLen < clientInstanceId.utf8ByteSize then none
    else some ⟨TokenIdentity.of sha256 token, clientInstanceId⟩

/-- A one-shot signal, by its address. -/
abbrev SignalId := ℕ

/-- The relay that holds a key. -/
structure AttachSlot where
  connectionId : String
  signal : SignalId
  arrival : ℕ
  deriving DecidableEq, Repr

/-- One relay's hold on its key; a lease without a key is inert. -/
structure AttachLease where
  key : Option AttachKey
  connectionId : String
  signal : Option SignalId
  deriving DecidableEq, Repr

/-- The registry, and the memory of its signals: which have fired, and the next one to allocate. -/
structure AttachRegistry where
  slots : Finmap fun _ : AttachKey => AttachSlot
  fired : SignalId → Bool
  nextSignal : SignalId

namespace AttachRegistry

def empty : AttachRegistry := ⟨∅, fun _ => false, 0⟩

variable (reg : AttachRegistry)

/-- Register a relay under a key: the registry afterwards, its lease, and the connection it
evicted. -/
def register (key : Option AttachKey) (connectionId : String) (arrival : ℕ) :
    AttachRegistry × AttachLease × Option String :=
  match key with
  | none => (reg, ⟨none, connectionId, none⟩, none)
  | some key =>
    let signal := reg.nextSignal
    let newSlot : AttachSlot := ⟨connectionId, signal, arrival⟩
    let lease : AttachLease := ⟨some key, connectionId, some signal⟩
    match reg.slots.lookup key with
    | none => ({ reg with slots := reg.slots.insert key newSlot, nextSignal := signal + 1 },
        lease, none)
    | some o =>
      if o.arrival > arrival then
        -- a later-received attach already holds the key
        ({ reg with fired := Function.update reg.fired signal true, nextSignal := signal + 1 },
          lease, none)
      else
        ({ slots := reg.slots.insert key newSlot
           fired := Function.update reg.fired o.signal true
           nextSignal := signal + 1 }, lease, some o.connectionId)

/-- Remove a key's slot if it belongs to the connection; whether one was removed. -/
def deregister (key : AttachKey) (connectionId : String) : AttachRegistry × Bool :=
  match reg.slots.lookup key with
  | some slot =>
    if slot.connectionId = connectionId then ({ reg with slots := reg.slots.erase key }, true)
    else (reg, false)
  | none => (reg, false)

/-- The connection that holds a key. -/
def holder (key : AttachKey) : Option String := (reg.slots.lookup key).map (·.connectionId)

/-- The lease's relay has been evicted. -/
def isEvicted (lease : AttachLease) : Bool :=
  match lease.signal with
  | some signal => reg.fired signal
  | none => false

/-- Dropping a lease. -/
def dropLease (lease : AttachLease) : AttachRegistry :=
  match lease.key with
  | some key => (reg.deregister key lease.connectionId).1
  | none => reg

end AttachRegistry

/-- The registry and the live leases. -/
structure Attaches where
  registry : AttachRegistry
  leases : List AttachLease

def Attaches.init : Attaches := ⟨.empty, []⟩

/-- What happens to the registry: a relay registers, or the `i`-th live lease is dropped. -/
inductive Act
  | register (key : Option AttachKey) (connectionId : String) (arrival : ℕ)
  | drop (i : ℕ)
  deriving DecidableEq

/-- One step. -/
def Attaches.step (s : Attaches) : Act → Option Attaches
  | .register key connectionId arrival =>
    let (registry, lease, _) := s.registry.register key connectionId arrival
    some ⟨registry, s.leases ++ [lease]⟩
  | .drop i =>
    match s.leases[i]? with
    | some lease => some ⟨s.registry.dropLease lease, s.leases.eraseIdx i⟩
    | none => none

/-- The connection an action registers. -/
def Act.connectionId : Act → Option String
  | .register _ connectionId _ => some connectionId
  | .drop _ => none

/-- The lease holds `key`: it is of that key, and not evicted. -/
def Attaches.holds (s : Attaches) (key : AttachKey) (lease : AttachLease) : Bool :=
  lease.key = some key && !s.registry.isEvicted lease

/-! ### What registering and dropping do -/

section
variable {reg : AttachRegistry} {key : AttachKey} {connectionId : String} {arrival : ℕ}

theorem register_vacant (h : reg.slots.lookup key = none) :
    reg.register (some key) connectionId arrival =
      ({ reg with slots := reg.slots.insert key ⟨connectionId, reg.nextSignal, arrival⟩
                  nextSignal := reg.nextSignal + 1 },
        ⟨some key, connectionId, some reg.nextSignal⟩, none) := by
  simp [AttachRegistry.register, h]

theorem register_stale {o : AttachSlot} (h : reg.slots.lookup key = some o)
    (ha : arrival < o.arrival) :
    reg.register (some key) connectionId arrival =
      ({ reg with fired := Function.update reg.fired reg.nextSignal true
                  nextSignal := reg.nextSignal + 1 },
        ⟨some key, connectionId, some reg.nextSignal⟩, none) := by
  simp [AttachRegistry.register, h, ha]

theorem register_takeover {o : AttachSlot} (h : reg.slots.lookup key = some o)
    (ha : o.arrival ≤ arrival) :
    reg.register (some key) connectionId arrival =
      ({ slots := reg.slots.insert key ⟨connectionId, reg.nextSignal, arrival⟩
         fired := Function.update reg.fired o.signal true
         nextSignal := reg.nextSignal + 1 },
        ⟨some key, connectionId, some reg.nextSignal⟩, some o.connectionId) := by
  simp [AttachRegistry.register, h, Nat.not_lt.mpr ha]

theorem holder_eq_some {reg : AttachRegistry} {key : AttachKey} {connectionId : String} :
    reg.holder key = some connectionId ↔
      ∃ slot, reg.slots.lookup key = some slot ∧ slot.connectionId = connectionId := by
  simp [AttachRegistry.holder, Option.map_eq_some_iff]

theorem holder_eq_none {reg : AttachRegistry} {key : AttachKey} :
    reg.holder key = none ↔ reg.slots.lookup key = none := by
  simp [AttachRegistry.holder]

theorem deregister_eq (reg : AttachRegistry) (key : AttachKey) (connectionId : String) :
    reg.deregister key connectionId =
      if reg.holder key = some connectionId then ({ reg with slots := reg.slots.erase key }, true)
      else (reg, false) := by
  unfold AttachRegistry.deregister AttachRegistry.holder
  cases h : reg.slots.lookup key with
  | none => simp
  | some slot => simp

/-- Dropping a lease gives back its own key, if it still holds it, and no other. -/
theorem dropLease_lookup (reg : AttachRegistry) (l : AttachLease) (k : AttachKey) :
    (reg.dropLease l).slots.lookup k =
      if l.key = some k ∧ reg.holder k = some l.connectionId then none
      else reg.slots.lookup k := by
  unfold AttachRegistry.dropLease
  cases hl : l.key with
  | none => simp
  | some key =>
    simp only [deregister_eq, Option.some.injEq]
    by_cases hk : key = k
    · subst hk
      by_cases hh : reg.holder key = some l.connectionId <;> simp [hh]
    · by_cases hh : reg.holder key = some l.connectionId
      · simp [hh, hk, Finmap.lookup_erase_ne (Ne.symm hk)]
      · simp [hh, hk]

/-- A slot that is left after a drop was there before it. -/
theorem lookup_of_dropLease {reg : AttachRegistry} {l : AttachLease} {k : AttachKey}
    {o : AttachSlot} (h : (reg.dropLease l).slots.lookup k = some o) :
    reg.slots.lookup k = some o ∧ ¬ (l.key = some k ∧ o.connectionId = l.connectionId) := by
  rw [dropLease_lookup] at h
  split_ifs at h with hgone
  exact ⟨h, fun hc => hgone ⟨hc.1, holder_eq_some.mpr ⟨o, h, hc.2⟩⟩⟩

theorem dropLease_fired (reg : AttachRegistry) (l : AttachLease) :
    (reg.dropLease l).fired = reg.fired := by
  unfold AttachRegistry.dropLease
  cases l.key with
  | none => rfl
  | some key => simp only [deregister_eq]; split_ifs <;> rfl

theorem dropLease_nextSignal (reg : AttachRegistry) (l : AttachLease) :
    (reg.dropLease l).nextSignal = reg.nextSignal := by
  unfold AttachRegistry.dropLease
  cases l.key with
  | none => rfl
  | some key => simp only [deregister_eq]; split_ifs <;> rfl

end

/-! ### Signals are fresh -/

/-- A signal not yet allocated has not fired, and the slots' signals have been allocated. -/
structure Fresh (reg : AttachRegistry) : Prop where
  unfired : ∀ g, reg.nextSignal ≤ g → reg.fired g = false
  allocated : ∀ k o, reg.slots.lookup k = some o → o.signal < reg.nextSignal

/-- Firing a signal that has been allocated leaves the others as they were. -/
theorem Fresh.update {reg : AttachRegistry} (h : Fresh reg) {g g' : SignalId}
    (hg : g ≤ reg.nextSignal) (hg' : reg.nextSignal + 1 ≤ g') :
    Function.update reg.fired g true g' = false := by
  have hne : g' ≠ g := Nat.ne_of_gt (Nat.lt_of_le_of_lt hg hg')
  rw [Function.update_of_ne hne]
  exact h.unfired g' (Nat.le_of_succ_le hg')

/-- The new slot's signal is the one just allocated. -/
theorem Fresh.insert {reg : AttachRegistry} (h : Fresh reg) {key : AttachKey}
    {connectionId : String} {arrival : ℕ} {k : AttachKey} {o : AttachSlot}
    (ho : (reg.slots.insert key ⟨connectionId, reg.nextSignal, arrival⟩).lookup k = some o) :
    o.signal < reg.nextSignal + 1 := by
  rcases lookup_insert_eq_some_iff.mp ho with ⟨rfl, rfl⟩ | ⟨-, ho⟩
  · exact Nat.lt_succ_self _
  · exact Nat.lt_succ_of_lt (h.allocated k o ho)

theorem fresh_register {reg : AttachRegistry} (h : Fresh reg) (key : Option AttachKey)
    (connectionId : String) (arrival : ℕ) : Fresh (reg.register key connectionId arrival).1 := by
  rcases key with - | key
  · exact h
  · rcases ho : reg.slots.lookup key with - | o
    · rw [register_vacant ho]
      exact ⟨fun g hg => h.unfired g (Nat.le_of_succ_le hg), fun k o => h.insert⟩
    · by_cases ha : arrival < o.arrival
      · rw [register_stale ho ha]
        exact ⟨fun g hg => h.update le_rfl hg,
          fun k o' ho' => Nat.lt_succ_of_lt (h.allocated k o' ho')⟩
      · rw [register_takeover ho (Nat.le_of_not_lt ha)]
        exact ⟨fun g hg => h.update (Nat.le_of_lt (h.allocated key o ho)) hg,
          fun k o => h.insert⟩

theorem fresh_dropLease {reg : AttachRegistry} (h : Fresh reg) (l : AttachLease) :
    Fresh (reg.dropLease l) := by
  refine ⟨fun g hg => ?_, fun k o ho => ?_⟩
  · rw [dropLease_nextSignal] at hg
    rw [dropLease_fired]
    exact h.unfired g hg
  · rw [dropLease_nextSignal]
    exact h.allocated k o (lookup_of_dropLease ho).1

/-- A step registers, or drops a live lease. -/
theorem step_cases {s t : Attaches} {a : Act} (h : s.step a = some t) :
    (∃ key connectionId arrival, a = .register key connectionId arrival ∧
      t = ⟨(s.registry.register key connectionId arrival).1,
        s.leases ++ [(s.registry.register key connectionId arrival).2.1]⟩) ∨
    ∃ i l, a = .drop i ∧ s.leases[i]? = some l ∧
      t = ⟨s.registry.dropLease l, s.leases.eraseIdx i⟩ := by
  rcases a with ⟨key, connectionId, arrival⟩ | i
  · cases h
    exact .inl ⟨key, connectionId, arrival, rfl, rfl⟩
  · rcases hl : s.leases[i]? with - | l
    · simp [Attaches.step, hl] at h
    · rw [Attaches.step, hl] at h
      cases h
      exact .inr ⟨i, l, rfl, hl, rfl⟩

theorem fresh_run {as : List Act} {s : Attaches}
    (h : Run (ofFn Attaches.step) Attaches.init as s) : Fresh s.registry := by
  have hstep : ∀ (s : Attaches) (a : Act) (t : Attaches), Fresh s.registry →
      ofFn Attaches.step s a t → Fresh t.registry := by
    intro s a t hs ht
    obtain ⟨key, connectionId, arrival, -, rfl⟩ | ⟨i, l, -, -, rfl⟩ := step_cases ht
    · exact fresh_register hs key connectionId arrival
    · exact fresh_dropLease hs l
  exact h.invariant hstep ⟨fun _ _ => rfl, by simp [Attaches.init, AttachRegistry.empty]⟩

/-! ### The invariant -/

/-- What ties the slots to the live leases, after the actions `as`: the live leases are of
connections registered by `as`; a slot is held by a live lease that is not evicted, and no other
slot is held by its signal; and a live lease with a key that is not evicted holds that key's
slot. -/
structure Inv (as : List Act) (s : Attaches) : Prop where
  ids : (s.leases.map (·.connectionId)).Sublist (as.filterMap Act.connectionId)
  slot : ∀ k o, s.registry.slots.lookup k = some o →
    ⟨some k, o.connectionId, some o.signal⟩ ∈ s.leases ∧ s.registry.fired o.signal = false
  inj : ∀ k k' o o', s.registry.slots.lookup k = some o → s.registry.slots.lookup k' = some o' →
    o.signal = o'.signal → k = k'
  lease : ∀ l ∈ s.leases, ∀ k, l.key = some k → ∃ g, l.signal = some g ∧
    g < s.registry.nextSignal ∧ (s.registry.fired g = false →
      ∃ a, s.registry.slots.lookup k = some ⟨l.connectionId, g, a⟩)

theorem inv_init : Inv [] Attaches.init := by
  refine ⟨?_, ?_, ?_, ?_⟩ <;> simp [Attaches.init, AttachRegistry.empty]

/-! ### Every step keeps the invariant -/

section
variable {as : List Act} {s : Attaches} {key : AttachKey} {connectionId : String} {arrival : ℕ}

theorem ids_snoc (h : Inv as s) {l : AttachLease} {key : Option AttachKey} :
    ((s.leases ++ [l]).map (·.connectionId)).Sublist
      ((as ++ [Act.register key l.connectionId arrival]).filterMap Act.connectionId) := by
  rw [List.map_append, List.filterMap_append]
  exact h.ids.append (List.Sublist.refl _)

theorem inv_register_none (h : Inv as s) :
    Inv (as ++ [Act.register none connectionId arrival])
      ⟨s.registry, s.leases ++ [⟨none, connectionId, none⟩]⟩ := by
  refine ⟨ids_snoc h, fun k o ho => ?_, h.inj, fun l hl k hk => ?_⟩
  · obtain ⟨hmem, hf⟩ := h.slot k o ho
    exact ⟨List.mem_append_left _ hmem, hf⟩
  · rw [List.mem_append, List.mem_singleton] at hl
    rcases hl with hl | rfl
    · exact h.lease l hl k hk
    · exact absurd hk (by simp)

/-- A newcomer that takes the slot of its key, vacant or held: the signals that fire are those of
the slot it replaces. -/
theorem inv_install (h : Inv as s) (hfr : Fresh s.registry) {fired : SignalId → Bool}
    (hold : ∀ o, s.registry.slots.lookup key = some o → fired o.signal = true)
    (hrest : ∀ g, (∀ o, s.registry.slots.lookup key = some o → g ≠ o.signal) →
      fired g = s.registry.fired g) :
    Inv (as ++ [Act.register (some key) connectionId arrival])
      ⟨⟨s.registry.slots.insert key ⟨connectionId, s.registry.nextSignal, arrival⟩, fired,
        s.registry.nextSignal + 1⟩,
        s.leases ++ [⟨some key, connectionId, some s.registry.nextSignal⟩]⟩ := by
  have hnew : fired s.registry.nextSignal = false := by
    rw [hrest _ fun o ho => Nat.ne_of_gt (hfr.allocated key o ho)]
    exact hfr.unfired _ le_rfl
  have hother : ∀ k o, k ≠ key → s.registry.slots.lookup k = some o →
      ∀ o', s.registry.slots.lookup key = some o' → o.signal ≠ o'.signal :=
    fun k o hk ho o' ho' he => hk (h.inj k key o o' ho ho' he)
  refine ⟨ids_snoc h, fun k o ho => ?_, fun k k' o o' ho ho' he => ?_, fun l hl k hk => ?_⟩
  · rcases lookup_insert_eq_some_iff.mp ho with ⟨rfl, rfl⟩ | ⟨hkey, ho⟩
    · exact ⟨by simp, hnew⟩
    · obtain ⟨hmem, hf⟩ := h.slot k o ho
      refine ⟨List.mem_append_left _ hmem, ?_⟩
      show fired o.signal = false
      rw [hrest _ (hother k o hkey ho), hf]
  · -- the new slot's signal is above every signal allocated before
    rcases lookup_insert_eq_some_iff.mp ho with ⟨rfl, rfl⟩ | ⟨-, hprev⟩ <;>
      rcases lookup_insert_eq_some_iff.mp ho' with ⟨rfl, rfl⟩ | ⟨-, hprev'⟩
    · rfl
    · exact absurd he (Nat.ne_of_gt (hfr.allocated k' o' hprev'))
    · exact absurd he (Nat.ne_of_lt (hfr.allocated k o hprev))
    · exact h.inj k k' o o' hprev hprev' he
  · rw [List.mem_append, List.mem_singleton] at hl
    rcases hl with hl | rfl
    · obtain ⟨g, hg, hlt, hunf⟩ := h.lease l hl k hk
      refine ⟨g, hg, Nat.lt_succ_of_lt hlt, fun hf => ?_⟩
      change fired g = false at hf
      have hne : ∀ o, s.registry.slots.lookup key = some o → g ≠ o.signal := by
        rintro o ho rfl
        rw [hold o ho] at hf
        exact absurd hf (by simp)
      rw [hrest g hne] at hf
      obtain ⟨a, ha⟩ := hunf hf
      have hkey : k ≠ key := by
        rintro rfl
        exact hne _ ha rfl
      exact ⟨a, by rw [Finmap.lookup_insert_of_ne _ hkey, ha]⟩
    · cases hk
      exact ⟨_, rfl, Nat.lt_succ_self _, fun _ => ⟨arrival, Finmap.lookup_insert _⟩⟩

/-- A newcomer that arrived before the holder: its own signal fires. -/
theorem inv_register_stale (h : Inv as s) (hfr : Fresh s.registry) :
    Inv (as ++ [Act.register (some key) connectionId arrival])
      ⟨{ s.registry with
          fired := Function.update s.registry.fired s.registry.nextSignal true
          nextSignal := s.registry.nextSignal + 1 },
        s.leases ++ [⟨some key, connectionId, some s.registry.nextSignal⟩]⟩ := by
  refine ⟨ids_snoc h, fun k o ho => ?_, h.inj, fun l hl k hk => ?_⟩
  · obtain ⟨hmem, hf⟩ := h.slot k o ho
    have hne : o.signal ≠ s.registry.nextSignal := Nat.ne_of_lt (hfr.allocated k o ho)
    exact ⟨List.mem_append_left _ hmem, (Function.update_of_ne hne _ _).trans hf⟩
  · rw [List.mem_append, List.mem_singleton] at hl
    rcases hl with hl | rfl
    · obtain ⟨g, hg, hlt, hunf⟩ := h.lease l hl k hk
      have hne : g ≠ s.registry.nextSignal := Nat.ne_of_lt hlt
      exact ⟨g, hg, Nat.lt_succ_of_lt hlt,
        fun hf => hunf ((Function.update_of_ne hne _ _).symm.trans hf)⟩
    · exact ⟨_, rfl, Nat.lt_succ_self _, fun hf => absurd hf (by simp)⟩

theorem inv_register (h : Inv as s) (hfr : Fresh s.registry) (key : Option AttachKey) :
    Inv (as ++ [Act.register key connectionId arrival])
      ⟨(s.registry.register key connectionId arrival).1,
        s.leases ++ [(s.registry.register key connectionId arrival).2.1]⟩ := by
  rcases key with - | key
  · exact inv_register_none h
  · rcases ho : s.registry.slots.lookup key with - | o
    · rw [register_vacant ho]
      exact inv_install h hfr (by simp [ho]) (fun _ _ => rfl)
    · by_cases ha : arrival < o.arrival
      · rw [register_stale ho ha]
        exact inv_register_stale h hfr
      · rw [register_takeover ho (Nat.le_of_not_lt ha)]
        refine inv_install h hfr (fun o' ho' => ?_) (fun g hg => ?_)
        · rw [ho] at ho'
          cases ho'
          exact Function.update_self _ _ _
        · exact Function.update_of_ne (hg o ho) _ _

/-- Dropping a lease keeps the invariant, where the live leases are of distinct connections: a slot
that goes was the dropped lease's, and no other lease's. -/
theorem inv_drop (h : Inv as s) (hids : (as.filterMap Act.connectionId).Nodup) {i : ℕ}
    {l : AttachLease} (hl : s.leases[i]? = some l) :
    Inv (as ++ [Act.drop i]) ⟨s.registry.dropLease l, s.leases.eraseIdx i⟩ := by
  obtain ⟨hi, hli⟩ := List.getElem?_eq_some_iff.mp hl
  have hperm : (l :: s.leases.eraseIdx i).Perm s.leases :=
    hli ▸ List.getElem_cons_eraseIdx_perm hi
  have hnodup : ((l :: s.leases.eraseIdx i).map (·.connectionId)).Nodup :=
    (hperm.map _).nodup_iff.mpr (hids.sublist h.ids)
  have hne : ∀ l' ∈ s.leases.eraseIdx i, l'.connectionId ≠ l.connectionId := by
    rw [List.map_cons, List.nodup_cons] at hnodup
    intro l' hl' he
    exact hnodup.1 (he ▸ List.mem_map_of_mem hl')
  refine ⟨?_, fun k o ho => ?_, fun k k' o o' ho ho' => ?_, fun l' hl' k hk => ?_⟩
  · rw [List.filterMap_append]
    exact (((List.eraseIdx_sublist _ i).map _).trans h.ids).trans (List.sublist_append_left _ _)
  · obtain ⟨ho, hkept⟩ := lookup_of_dropLease ho
    obtain ⟨hmem, hf⟩ := h.slot k o ho
    refine ⟨?_, by rw [dropLease_fired]; exact hf⟩
    rcases List.mem_cons.mp (hperm.mem_iff.mpr hmem) with rfl | hmem
    · exact absurd ⟨rfl, rfl⟩ hkept
    · exact hmem
  · exact h.inj k k' o o' (lookup_of_dropLease ho).1 (lookup_of_dropLease ho').1
  · obtain ⟨g, hg, hlt, hunf⟩ := h.lease l' (List.mem_of_mem_eraseIdx hl') k hk
    refine ⟨g, hg, by rw [dropLease_nextSignal]; exact hlt, fun hf => ?_⟩
    rw [dropLease_fired] at hf
    obtain ⟨a, ha⟩ := hunf hf
    refine ⟨a, ?_⟩
    rw [dropLease_lookup, if_neg, ha]
    rintro ⟨-, hh⟩
    obtain ⟨o, ho, hc⟩ := holder_eq_some.mp hh
    rw [ha] at ho
    cases ho
    exact hne l' hl' hc

end

theorem inv_step {as : List Act} {s t : Attaches} {a : Act}
    (hids : (as.filterMap Act.connectionId).Nodup) (h : Inv as s) (hfr : Fresh s.registry)
    (ht : s.step a = some t) : Inv (as ++ [a]) t := by
  obtain ⟨key, connectionId, arrival, rfl, rfl⟩ | ⟨i, l, rfl, hl, rfl⟩ := step_cases ht
  · exact inv_register h hfr key
  · exact inv_drop h hids hl

/-- **Every reachable state meets the invariant.** -/
theorem inv_run {as : List Act} {s : Attaches} (h : Run (ofFn Attaches.step) Attaches.init as s)
    (hids : (as.filterMap Act.connectionId).Nodup) : Inv as s := by
  have hstep : ∀ (pre : List Act) (s : Attaches) (a : Act) (t : Attaches),
      Run (ofFn Attaches.step) Attaches.init pre s →
      ((pre.filterMap Act.connectionId).Nodup → Inv pre s) → ofFn Attaches.step s a t →
      ((pre ++ [a]).filterMap Act.connectionId).Nodup → Inv (pre ++ [a]) t := by
    intro pre s a t hr hI ht hn
    have hpre : (pre.filterMap Act.connectionId).Nodup := by
      rw [List.filterMap_append] at hn
      exact hn.of_append_left
    exact inv_step hpre (hI hpre) (fresh_run hr) ht
  exact h.history hstep (fun _ => inv_init) hids

/-! ### A key has one holder -/

theorem eq_singleton_of_nodup {α : Type*} {l : List α} {a : α} (hn : l.Nodup) (ha : a ∈ l)
    (hall : ∀ b ∈ l, b = a) : l = [a] := by
  have hrep := List.eq_replicate_of_mem hall
  rw [hrep, List.nodup_replicate] at hn
  have hpos := List.length_pos_of_mem ha
  rw [hrep, show l.length = 1 by omega]
  rfl

/-- **The live leases of a key that are not evicted are exactly its holder**: none where the key
has no slot, and otherwise one, of the connection the slot names. -/
theorem holders_eq {as : List Act} {s : Attaches} (h : Run (ofFn Attaches.step) Attaches.init as s)
    (hids : (as.filterMap Act.connectionId).Nodup) (key : AttachKey) :
    (s.leases.filter (s.holds key)).map (·.connectionId) = (s.registry.holder key).toList := by
  have hI := inv_run h hids
  have hslot : ∀ l ∈ s.leases.filter (s.holds key), ∃ o, s.registry.slots.lookup key = some o ∧
      o.connectionId = l.connectionId := by
    intro l hl
    obtain ⟨hmem, hh⟩ := List.mem_filter.mp hl
    simp only [Attaches.holds, Bool.and_eq_true, decide_eq_true_eq, Bool.not_eq_true'] at hh
    obtain ⟨g, hg, -, hunf⟩ := hI.lease l hmem key hh.1
    rw [AttachRegistry.isEvicted, hg] at hh
    obtain ⟨a, ha⟩ := hunf hh.2
    exact ⟨_, ha, rfl⟩
  rcases ho : s.registry.slots.lookup key with - | o
  · rw [AttachRegistry.holder, ho, List.map_eq_nil_iff.mpr]
    · rfl
    · refine List.eq_nil_iff_forall_not_mem.mpr fun l hl => ?_
      obtain ⟨o, ho', -⟩ := hslot l hl
      rw [ho] at ho'
      exact absurd ho' (by simp)
  · rw [AttachRegistry.holder, ho]
    obtain ⟨hmem, hf⟩ := hI.slot key o ho
    refine eq_singleton_of_nodup ?_ ?_ ?_
    · exact (hids.sublist hI.ids).sublist (List.filter_sublist.map _)
    · refine List.mem_map.mpr ⟨_, List.mem_filter.mpr ⟨hmem, ?_⟩, rfl⟩
      simp [Attaches.holds, AttachRegistry.isEvicted, hf]
    · intro c hc
      obtain ⟨l, hl, rfl⟩ := List.mem_map.mp hc
      obtain ⟨o', ho', he⟩ := hslot l hl
      rw [ho] at ho'
      cases ho'
      exact he.symm

/-- After a takeover and the drop of the evicted lease, the successor holds the key. -/
theorem holders_eq_takeover :
    ∃ s, Run (ofFn Attaches.step) Attaches.init
        [.register (some ⟨⟨[]⟩, "tab"⟩) "a" 1, .register (some ⟨⟨[]⟩, "tab"⟩) "b" 2, .drop 0] s ∧
      (s.leases.filter (s.holds ⟨⟨[]⟩, "tab"⟩)).map (·.connectionId) = ["b"] := by
  obtain ⟨s, hrun, hholder⟩ : ∃ s, Run (ofFn Attaches.step) Attaches.init
      [.register (some ⟨⟨[]⟩, "tab"⟩) "a" 1, .register (some ⟨⟨[]⟩, "tab"⟩) "b" 2, .drop 0] s ∧
      s.registry.holder ⟨⟨[]⟩, "tab"⟩ = some "b" :=
    ⟨_, .cons rfl (.cons rfl (.cons rfl (.nil _))), by decide⟩
  exact ⟨s, hrun, by rw [holders_eq hrun (by decide), hholder]; rfl⟩

/-! ### Who evicts -/

/-- Another connection has registered under the lease's key, and it did not arrive earlier. -/
def Superseded (as : List Act) (l : AttachLease) : Prop :=
  ∃ arrival connectionId' arrival', .register l.key l.connectionId arrival ∈ as ∧
    .register l.key connectionId' arrival' ∈ as ∧ connectionId' ≠ l.connectionId ∧
    arrival ≤ arrival'

/-- The slots are of what has been registered, and what is evicted has been superseded. -/
structure Caused (as : List Act) (s : Attaches) : Prop where
  slot : ∀ k o, s.registry.slots.lookup k = some o →
    Act.register (some k) o.connectionId o.arrival ∈ as
  inert : ∀ l ∈ s.leases, l.key = none → l.signal = none
  evicted : ∀ l ∈ s.leases, s.registry.isEvicted l = true → Superseded as l

section
variable {as : List Act} {s : Attaches} {a : Act} {l : AttachLease}

theorem Superseded.concat (h : Superseded as l) : Superseded (as ++ [a]) l := by
  obtain ⟨arrival, c, arrival', hl, hc, hne, hle⟩ := h
  exact ⟨arrival, c, arrival', List.mem_append_left _ hl, List.mem_append_left _ hc, hne, hle⟩

/-- A connection that registers now has not registered before. -/
theorem ne_of_register {key k : Option AttachKey} {connectionId c : String} {arrival n : ℕ}
    (hids : ((as ++ [Act.register key connectionId arrival]).filterMap Act.connectionId).Nodup)
    (hc : .register k c n ∈ as) : connectionId ≠ c := by
  rintro rfl
  have hmem : connectionId ∈ as.filterMap Act.connectionId :=
    List.mem_filterMap.mpr ⟨_, hc, rfl⟩
  rw [List.filterMap_append, List.nodup_append] at hids
  exact hids.2.2 connectionId hmem connectionId (by simp [Act.connectionId]) rfl

/-- When a signal fires, the lease that listens on it is evicted, and no other. -/
theorem isEvicted_update {reg reg' : AttachRegistry} {g : SignalId}
    (hfired : reg'.fired = Function.update reg.fired g true) (he : reg'.isEvicted l = true) :
    reg.isEvicted l = true ∨ l.signal = some g := by
  unfold AttachRegistry.isEvicted at he ⊢
  rcases hg : l.signal with - | g'
  · rw [hg] at he
    cases he
  · by_cases hsame : g' = g
    · exact Or.inr (congrArg some hsame)
    · rw [hg] at he
      simp only [hfired, Function.update_of_ne hsame] at he
      exact Or.inl he

/-- A registration, where the leases of before that it evicts are superseded by it. -/
theorem Caused.register {key : Option AttachKey} {connectionId : String} {arrival : ℕ}
    {registry : AttachRegistry} {lease : AttachLease} (hC : Caused as s)
    (hslot : ∀ k o, registry.slots.lookup k = some o → s.registry.slots.lookup k = some o ∨
      (key = some k ∧ o.connectionId = connectionId ∧ o.arrival = arrival))
    (hinert : lease.key = none → lease.signal = none)
    (hold : ∀ l ∈ s.leases, registry.isEvicted l = true → s.registry.isEvicted l = true ∨
      Superseded (as ++ [Act.register key connectionId arrival]) l)
    (hnew : registry.isEvicted lease = true →
      Superseded (as ++ [Act.register key connectionId arrival]) lease) :
    Caused (as ++ [Act.register key connectionId arrival]) ⟨registry, s.leases ++ [lease]⟩ := by
  refine ⟨fun k o ho => ?_, fun l hl hk => ?_, fun l hl he => ?_⟩
  · rcases hslot k o ho with ho | ⟨rfl, rfl, rfl⟩
    · exact List.mem_append_left _ (hC.slot k o ho)
    · simp
  · rcases List.mem_append.mp hl with hl | hl
    · exact hC.inert l hl hk
    · obtain rfl := List.mem_singleton.mp hl
      exact hinert hk
  · rcases List.mem_append.mp hl with hl | hl
    · rcases hold l hl he with he | hsup
      · exact (hC.evicted l hl he).concat
      · exact hsup
    · obtain rfl := List.mem_singleton.mp hl
      exact hnew he

theorem caused_register {key : Option AttachKey} {connectionId : String} {arrival : ℕ}
    (hI : Inv as s) (hfr : Fresh s.registry) (hC : Caused as s)
    (hids : ((as ++ [Act.register key connectionId arrival]).filterMap Act.connectionId).Nodup) :
    Caused (as ++ [Act.register key connectionId arrival])
      ⟨(s.registry.register key connectionId arrival).1,
        s.leases ++ [(s.registry.register key connectionId arrival).2.1]⟩ := by
  rcases key with - | key
  · exact hC.register (fun k o ho => Or.inl ho) (fun _ => rfl) (fun l _ he => Or.inl he) nofun
  -- the slot of the newcomer, where it gets one
  have hslot : ∀ k o, (s.registry.slots.insert key
      ⟨connectionId, s.registry.nextSignal, arrival⟩).lookup k = some o →
      s.registry.slots.lookup k = some o ∨
        (some key = some k ∧ o.connectionId = connectionId ∧ o.arrival = arrival) := by
    intro k o ho
    rcases lookup_insert_eq_some_iff.mp ho with ⟨rfl, rfl⟩ | ⟨-, ho⟩
    · exact Or.inr ⟨rfl, rfl, rfl⟩
    · exact Or.inl ho
  have hself : Act.register (some key) connectionId arrival ∈
      as ++ [Act.register (some key) connectionId arrival] := by simp
  have hunfired : s.registry.fired s.registry.nextSignal = false := hfr.unfired _ le_rfl
  rcases ho : s.registry.slots.lookup key with - | o
  · rw [register_vacant ho]
    refine hC.register hslot nofun (fun l _ he => Or.inl he) fun he => ?_
    exact absurd (he.symm.trans hunfired) (by simp)
  have hheld := hC.slot key o ho
  by_cases ha : arrival < o.arrival
  · rw [register_stale ho ha]
    refine hC.register (fun k o ho => Or.inl ho) nofun (fun l hl he => ?_) fun _ => ?_
    · -- the signal that fires is the newcomer's own
      refine (isEvicted_update rfl he).imp_right fun hg => ?_
      rcases hk : l.key with - | k
      · rw [hC.inert l hl hk] at hg
        cases hg
      · obtain ⟨g, hg', hlt, -⟩ := hI.lease l hl k hk
        obtain rfl := Option.some.inj (hg'.symm.trans hg)
        exact absurd hlt (Nat.lt_irrefl _)
    · exact ⟨arrival, o.connectionId, o.arrival, hself, List.mem_append_left _ hheld,
        (ne_of_register hids hheld).symm, Nat.le_of_lt ha⟩
  · rw [register_takeover ho (Nat.le_of_not_lt ha)]
    refine hC.register hslot nofun (fun l hl he => ?_) fun he => ?_
    · -- the signal that fires is the holder's
      refine (isEvicted_update rfl he).imp_right fun hg => ?_
      rcases hk : l.key with - | k
      · rw [hC.inert l hl hk] at hg
        cases hg
      obtain ⟨g, hg', -, hslot'⟩ := hI.lease l hl k hk
      obtain rfl := Option.some.inj (hg'.symm.trans hg)
      obtain ⟨n, hn⟩ := hslot' (hI.slot key o ho).2
      obtain rfl := hI.inj k key _ o hn ho rfl
      have hc : l.connectionId = o.connectionId :=
        congrArg AttachSlot.connectionId (Option.some.inj (hn.symm.trans ho))
      unfold Superseded
      rw [hk, hc]
      exact ⟨o.arrival, connectionId, arrival, List.mem_append_left _ hheld, hself,
        ne_of_register hids hheld, Nat.le_of_not_lt ha⟩
    · have hne : s.registry.nextSignal ≠ o.signal := Nat.ne_of_gt (hfr.allocated key o ho)
      have hlease : Function.update s.registry.fired o.signal true s.registry.nextSignal = true :=
        he
      rw [Function.update_of_ne hne, hunfired] at hlease
      cases hlease

theorem caused_drop (hC : Caused as s) (i : ℕ) (l : AttachLease) :
    Caused (as ++ [Act.drop i]) ⟨s.registry.dropLease l, s.leases.eraseIdx i⟩ := by
  refine ⟨fun k o ho => List.mem_append_left _ (hC.slot k o (lookup_of_dropLease ho).1),
    fun l' hl' => hC.inert l' (List.mem_of_mem_eraseIdx hl'), fun l' hl' he => ?_⟩
  refine (hC.evicted l' (List.mem_of_mem_eraseIdx hl') ?_).concat
  unfold AttachRegistry.isEvicted at he ⊢
  rwa [dropLease_fired] at he

end

/-- **Only a connection of the same key that did not arrive earlier evicts.** -/
theorem caused_run {as : List Act} {s : Attaches}
    (h : Run (ofFn Attaches.step) Attaches.init as s)
    (hids : (as.filterMap Act.connectionId).Nodup) : Caused as s := by
  have hstep : ∀ (pre : List Act) (s : Attaches) (a : Act) (t : Attaches),
      Run (ofFn Attaches.step) Attaches.init pre s →
      ((pre.filterMap Act.connectionId).Nodup → Caused pre s) → ofFn Attaches.step s a t →
      ((pre ++ [a]).filterMap Act.connectionId).Nodup → Caused (pre ++ [a]) t := by
    intro pre s a t hr hC ht hn
    have hpre : (pre.filterMap Act.connectionId).Nodup := by
      rw [List.filterMap_append] at hn
      exact hn.of_append_left
    obtain ⟨key, connectionId, arrival, rfl, rfl⟩ | ⟨i, l, rfl, -, rfl⟩ := step_cases ht
    · exact caused_register (inv_run hr hpre) (fresh_run hr) (hC hpre) hn
    · exact caused_drop (hC hpre) i l
  refine h.history hstep (fun _ => ⟨?_, ?_, ?_⟩) hids <;>
    simp [Attaches.init, AttachRegistry.empty]

end MuxrCore.Relay.Attach
