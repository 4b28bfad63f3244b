import MuxrCore.Notify.Concurrent

/-! # The registry of devices is serial

Calls that overlap act as if they came one after the other, in the order in which they took the lock
exclusively: a call that has the lock knows what is under the registry's name (`StageOk`), and a
writer is the only call that has it (`Inv.only`).

* `registry_atomic`: the registry is what the renamed calls make of the empty one, in that order.
* `registry_serial`: this is what the operations make of the file one by one. -/

namespace MuxrCore.Notify.Serial

open MuxrCore.Lib.Files MuxrCore.Lib.Locks MuxrCore.Lib.Runs MuxrCore.Notify.Devices
  MuxrCore.Notify.Concurrent

variable {s t : State} {a : Act}

/-! ### The invariant -/

/-- The devices that a call is to store are what it makes of those in the registry. -/
def Prepared (d : Dir Name Content) (op : Op) (devices : List PushDevice) : Prop :=
  op.exclusive = true ∧ ∃ before, load d = .ok before ∧ devices = op.effect before

/-- What is known of a call that has the lock. -/
def StageOk (d : Dir Name Content) (op : Op) : Stage → Prop
  | .locked => True
  | .reading file => d.names .registry = some file
  | .loaded devices => load d = .ok devices
  | .opened devices file =>
    d.names .tmp = some file ∧ d.content file = .torn ∧ Prepared d op devices
  | .written devices => d.read .tmp = some (.json devices) ∧ Prepared d op devices
  | .restricted devices => d.read .tmp = some (.json devices) ∧ Prepared d op devices
  | .renamed => True

/-- The calls that have the lock hold it, and a writer among them is the last that took it. -/
structure Inv (s : State) : Prop where
  dir : s.dir.WellFormed
  locks : ∀ id op stage, s.calls id = .held op stage → s.lock.Holds op.exclusive id
  stages : ∀ id op stage, s.calls id = .held op stage → StageOk s.dir op stage
  last : ∀ id op stage, s.calls id = .held op stage → op.exclusive = true →
    s.acquired.getLast? = some (id, op)
  begun : ∀ c ∈ s.acquired, ¬ (s.calls c.1).Before
  nodup : (s.acquired.map Prod.fst).Nodup
  through : ∀ id ∈ s.renamed, (s.calls id).Through

theorem inv_of_initial (h : Initial s) : Inv s := by
  refine ⟨h.dir, ?_, ?_, ?_, ?_, ?_, ?_⟩ <;> simp [h.idle, h.acquired, h.renamed]

variable {id : ℕ} {op : Op} {stage : Stage} {devices : List PushDevice}

/-- A call that stores has the lock exclusively. -/
theorem exclusive_of_stores (h : op.stores devices = true) : op.exclusive = true := by
  cases op
  case list => cases h
  all_goals rfl

/-- While a call has the lock exclusively, no other one has it. -/
theorem Inv.only (h : Inv s) (hc : s.calls id = .held op stage) (hx : op.exclusive = true) (j : ℕ)
    (hj : j ≠ id) (op' : Op) (stage' : Stage) : s.calls j ≠ .held op' stage' := by
  intro hc'
  have hid := h.locks id op stage hc
  rw [hx] at hid
  exact hj (hid.only (h.locks j op' stage' hc')).symm

/-- A step of one call: the others keep the lock, and the directory unless they do not have it. -/
theorem Inv.update (h : Inv s) {phase : Phase} {dir : Dir Name Content} {lock : Lock ℕ}
    {renamed : List ℕ} (hdir : dir.WellFormed)
    (hlock : ∀ j y, j ≠ id → s.lock.Holds y j → lock.Holds y j)
    (hheld : ∀ op stage, phase = .held op stage → lock.Holds op.exclusive id ∧
      StageOk dir op stage ∧ (op.exclusive = true → s.acquired.getLast? = some (id, op)))
    (hothers : dir = s.dir ∨ ∀ j, j ≠ id → ∀ op stage, s.calls j ≠ .held op stage)
    (hbefore : phase.Before → (s.calls id).Before)
    (hrenamed : ∀ j ∈ renamed, j ≠ id → j ∈ s.renamed) (hthrough : id ∈ renamed → phase.Through) :
    Inv ⟨dir, lock, Function.update s.calls id phase, s.acquired, renamed⟩ := by
  have hne : ∀ {j : ℕ}, j ≠ id → Function.update s.calls id phase j = s.calls j :=
    fun hj => Function.update_of_ne hj _ _
  refine ⟨hdir, fun j op stage hj => ?_, fun j op stage hj => ?_, fun j op stage hj => ?_,
    fun c hc => ?_, h.nodup, fun j hj => ?_⟩
  · by_cases hid : j = id
    · subst hid
      exact (hheld op stage (by simpa using hj)).1
    · exact hlock j _ hid (h.locks j op stage ((hne hid).symm.trans hj))
  · by_cases hid : j = id
    · subst hid
      exact (hheld op stage (by simpa using hj)).2.1
    · have hj' := (hne hid).symm.trans hj
      rcases hothers with rfl | hno
      · exact h.stages j op stage hj'
      · exact absurd hj' (hno j hid op stage)
  · by_cases hid : j = id
    · subst hid
      exact (hheld op stage (by simpa using hj)).2.2
    · exact h.last j op stage ((hne hid).symm.trans hj)
  · by_cases hid : c.1 = id
    · simp only [hid, Function.update_self]
      exact fun hp => h.begun c hc (hid ▸ hbefore hp)
    · simp only [hne hid]
      exact h.begun c hc
  · by_cases hid : j = id
    · subst hid
      simpa using hthrough hj
    · simp only [hne hid]
      exact h.through j (hrenamed j hj hid)

/-- A call that has the lock goes on with it. -/
theorem Inv.goOn (h : Inv s) (hc : s.calls id = .held op stage) {stage' : Stage}
    {dir : Dir Name Content} {renamed : List ℕ} (hdir : dir.WellFormed)
    (hok : StageOk dir op stage') (hothers : dir = s.dir ∨ op.exclusive = true)
    (hrenamed : ∀ j ∈ renamed, j ≠ id → j ∈ s.renamed)
    (hthrough : id ∈ renamed → stage' = .renamed) :
    Inv ⟨dir, s.lock, Function.update s.calls id (.held op stage'), s.acquired, renamed⟩ := by
  refine h.update hdir (fun _ _ _ hl => hl) ?_ (hothers.imp_right (h.only hc)) (fun hp => hp.elim)
    hrenamed fun hr => ?_
  · rintro op' stage' ⟨⟩
    exact ⟨h.locks id op stage hc, hok, h.last id op stage hc⟩
  · rw [hthrough hr]
    trivial

/-- A call has not renamed before its phase says so. -/
theorem Inv.not_through (h : Inv s) {phase : Phase} (hc : s.calls id = phase)
    (hp : ¬ phase.Through) : id ∉ s.renamed :=
  fun hr => hp (hc ▸ h.through id hr)

theorem Inv.not_renamed (h : Inv s) (hc : s.calls id = .held op stage) (hs : stage ≠ .renamed) :
    id ∉ s.renamed := by
  refine h.not_through hc fun hthrough => ?_
  cases stage
  case renamed => exact hs rfl
  all_goals exact hthrough.elim

/-- A step that leaves the directory alone, with the lock. -/
theorem Inv.keep (h : Inv s) (hc : s.calls id = .held op stage) (hs : stage ≠ .renamed)
    {stage' : Stage} (hok : StageOk s.dir op stage') : Inv (s.set id (.held op stage')) :=
  h.goOn hc h.dir hok (.inl rfl) (fun _ hj _ => hj) fun hr => absurd hr (h.not_renamed hc hs)

theorem Inv.leave (h : Inv s) {phase : Phase} (hheld : ∀ op stage, phase ≠ .held op stage)
    (hbefore : ¬ phase.Before) (hthrough : id ∈ s.renamed → phase.Through) :
    Inv (s.leave id phase) :=
  h.update h.dir (fun _ _ hj hl => hl.release hj) (fun op stage hp => absurd hp (hheld op stage))
    (.inl rfl) (fun hp => absurd hp hbefore) (fun _ hj _ => hj) hthrough

theorem Inv.acquire (h : Inv s) {lock : Lock ℕ} (hc : s.calls id = .waiting op)
    (hl : s.lock.acquire op.exclusive id = some lock) : Inv (s.acquire id op lock) := by
  have hnew : ∀ c ∈ s.acquired, c.1 ≠ id := by
    rintro c hmem rfl
    exact h.begun c hmem (by rw [hc]; trivial)
  have hid : id ∉ s.renamed := h.not_through hc not_false
  have hheld : ∀ j op' stage', Function.update s.calls id (.held op .locked) j = .held op' stage' →
      (j = id ∧ op' = op ∧ stage' = .locked) ∨ (j ≠ id ∧ s.calls j = .held op' stage') := by
    intro j op' stage' hj
    by_cases hji : j = id
    · subst hji
      rw [Function.update_self] at hj
      cases hj
      exact .inl ⟨rfl, rfl, rfl⟩
    · rw [Function.update_of_ne hji] at hj
      exact .inr ⟨hji, hj⟩
  refine ⟨h.dir, fun j op' stage' hj => ?_, fun j op' stage' hj => ?_, fun j op' stage' hj hx => ?_,
    fun c hmem => ?_, ?_, fun j hj => ?_⟩
  · rcases hheld j op' stage' hj with ⟨rfl, rfl, -⟩ | ⟨-, hj⟩
    · exact Lock.holds_acquire hl
    · exact (h.locks j op' stage' hj).acquire hl
  · rcases hheld j op' stage' hj with ⟨-, -, rfl⟩ | ⟨-, hj⟩
    · trivial
    · exact h.stages j op' stage' hj
  · rcases hheld j op' stage' hj with ⟨rfl, rfl, -⟩ | ⟨-, hj⟩
    · simp [State.acquire, hx]
    · rcases hxo : op.exclusive with _ | _
      · simpa [State.acquire, hxo] using h.last j op' stage' hj hx
      · rw [hxo] at hl
        exact absurd (h.locks j op' stage' hj) (Lock.not_holds_of_acquire hl)
  · simp only [State.acquire] at hmem ⊢
    by_cases hci : c.1 = id
    · simp [hci, Phase.Before]
    · rw [Function.update_of_ne hci]
      refine h.begun c ?_
      split_ifs at hmem
      · rcases List.mem_append.mp hmem with hmem | hmem
        · exact hmem
        · exact absurd (by rw [List.mem_singleton.mp hmem]) hci
      · exact hmem
  · simp only [State.acquire]
    split_ifs
    · rw [List.map_append, List.map_singleton, List.nodup_append]
      refine ⟨h.nodup, List.nodup_singleton _, ?_⟩
      simpa using fun a b hmem => hnew (a, b) hmem
    · exact h.nodup
  · have hji : j ≠ id := fun he => hid (he ▸ hj)
    simp only [State.acquire, Function.update_of_ne hji]
    exact h.through j hj

/-! ### The registry -/

theorem load_congr {d d' : Dir Name Content} (h : d'.read .registry = d.read .registry) :
    load d' = load d := by
  rw [load, load, h]

/-- The registry stays when the temporary file is opened. -/
theorem read_openTmp {d : Dir Name Content} (h : d.WellFormed) :
    (d.openTruncate .tmp .torn).1.read .registry = d.read .registry :=
  h.read_openTruncate (by decide) _

/-- What a rename puts in the registry's place. -/
theorem read_rename {d d' : Dir Name Content} (h : d.rename .tmp .registry = some d') :
    d'.read .registry = d.read .tmp := by
  obtain ⟨i, hi, rfl⟩ := Dir.rename_eq_some.mp h
  simp [Dir.read, hi]

theorem Inv.step (h : Inv s) (ha : Steps s a t) : Inv t := by
  rcases ha with hc | ⟨hc, hl⟩ | ⟨hc, hr⟩ | ⟨hc, hr⟩ | ⟨hc, hp⟩ | ⟨hc, hs⟩ | hc | hc | ⟨hc, hr⟩ |
    ⟨hc, hs⟩ | hc | ⟨-, hc, hs, e⟩ | hc | ⟨-, hc, hp⟩
  case start id op =>
    exact h.update h.dir (fun _ _ _ hl => hl) nofun (.inl rfl) (fun _ => by rw [hc]; trivial)
      (fun _ hj _ => hj) fun hr => absurd hr (h.not_through hc not_false)
  case lock => exact h.acquire hc hl
  case openMissing =>
    exact h.keep hc (by simp) (by simp [StageOk, load, Dir.read, hr])
  case openFound => exact h.keep hc (by simp) hr
  case read =>
    have hfile := h.stages _ _ _ hc
    refine h.keep hc (by simp) ?_
    simp only [StageOk] at hfile
    simp [StageOk, load, Dir.read, hfile, hp]
  case openTmp id op devices =>
    have hload := h.stages _ _ _ hc
    have hx := exclusive_of_stores hs
    refine h.goOn hc (h.dir.openTruncate _ _) ⟨Dir.openTruncate_names, Dir.openTruncate_content,
      hx, devices, ?_, rfl⟩ (.inr hx) (fun _ hj _ => hj)
      fun hr => absurd hr (h.not_renamed hc (by simp))
    rw [load_congr (read_openTmp h.dir)]
    exact hload
  case write id op devices file =>
    obtain ⟨hname, htorn, hx, before, hload, heq⟩ := h.stages _ _ _ hc
    refine h.goOn hc (h.dir.write _ _) ⟨?_, hx, before, ?_, heq⟩ (.inr hx) (fun _ hj _ => hj)
      fun hr => absurd hr (h.not_renamed hc (by simp))
    · simp [Dir.read, Dir.write, hname, htorn, Content.write]
    · rw [load_congr (h.dir.read_write hname (by decide) _)]
      exact hload
  case chmod id op devices =>
    have hok : StageOk s.dir op (.written devices) := h.stages _ _ _ hc
    exact h.keep hc (by simp) hok
  case rename id op devices dir =>
    obtain ⟨-, hx, -⟩ := h.stages _ _ _ hc
    refine h.goOn hc (h.dir.rename hr) trivial (.inr hx) (fun j hj hne => ?_) fun _ => rfl
    exact (List.mem_cons.mp hj).resolve_left hne
  case unchanged => exact h.leave nofun id fun _ => trivial
  case stored => exact h.leave nofun id fun _ => trivial
  case error => exact h.leave nofun id fun hr => absurd hr (h.not_renamed hc hs)
  case crash => exact h.leave nofun id fun _ => trivial
  case unlocked id op phase =>
    have hid := h.not_through hc not_false
    refine h.update h.dir (fun _ _ _ hl => hl) ?_ (.inl rfl) ?_ (fun _ hj _ => hj)
      fun hr => absurd hr hid
    · rcases hp with rfl | rfl <;> exact nofun
    · rcases hp with rfl | rfl <;> exact fun hb => hb.elim

/-- A step that is not a rename leaves what is under the registry's name, and the changes. -/
theorem Inv.still (h : Inv s) (ha : Steps s a t) (hne : ∀ id, a ≠ .rename id) :
    t.dir.read .registry = s.dir.read .registry ∧ t.committed = s.committed := by
  rcases ha with hc | ⟨hc, hl⟩ | ⟨hc, hr⟩ | ⟨hc, hr⟩ | ⟨hc, hp⟩ | ⟨hc, hs⟩ | hc | hc | ⟨hc, hr⟩ |
    ⟨hc, hs⟩ | hc | ⟨-, hc, hs, e⟩ | hc | ⟨-, hc, hp⟩
  case lock id op lock =>
    have hid := h.not_through hc not_false
    refine ⟨rfl, ?_⟩
    rw [State.committed, State.acquire]
    split_ifs
    · rw [List.filter_append, List.map_append]
      simp only [hid, List.filter_cons, decide_false, Bool.false_eq_true, if_false, List.filter_nil,
        List.map_nil, List.append_nil]
      rfl
    · rfl
  case openTmp => exact ⟨read_openTmp h.dir, rfl⟩
  case write =>
    obtain ⟨hname, -⟩ := h.stages _ _ _ hc
    exact ⟨h.dir.read_write hname (by decide) _, rfl⟩
  case rename id _ _ _ => exact absurd rfl (hne id)
  all_goals exact ⟨rfl, rfl⟩

/-- **A rename that takes place** applies the change of a call to the registry, and is the last of
the changes in the order of the lock. -/
theorem Inv.renames (h : Inv s) (hc : s.calls id = .held op (.restricted devices))
    {dir : Dir Name Content} (hr : s.dir.rename .tmp .registry = some dir) :
    ∃ before, load s.dir = .ok before ∧ load dir = .ok (op.effect before) ∧
      State.committed ({ s with dir, renamed := id :: s.renamed }.set id (.held op .renamed)) =
        s.committed ++ [op] := by
  obtain ⟨hread, hx, before, hload, rfl⟩ := h.stages _ _ _ hc
  refine ⟨before, hload, by simp [load, read_rename hr, hread, Content.parse], ?_⟩
  obtain ⟨init, hinit⟩ := List.getLast?_eq_some_iff.mp (h.last _ _ _ hc hx)
  have hid := h.not_renamed hc (by simp)
  have hnodup := h.nodup
  rw [hinit, List.map_append, List.nodup_append] at hnodup
  -- the calls that took the lock before are other ones
  have hfilter : init.filter (fun c => c.1 ∈ id :: s.renamed) =
      init.filter fun c => c.1 ∈ s.renamed := by
    refine List.filter_congr fun c hmem => ?_
    have hci : c.1 ≠ id := hnodup.2.2 _ (List.mem_map_of_mem hmem) id (by simp)
    simp [hci]
  simp only [State.committed, State.set, hinit, List.filter_append, hfilter]
  simp [hid]

/-- A step leaves what is under the registry's name and the changes, or it is a rename. -/
theorem Inv.still_or_renames (h : Inv s) (ha : Steps s a t) :
    (t.dir.read .registry = s.dir.read .registry ∧ t.committed = s.committed) ∨
      ∃ op before, load s.dir = .ok before ∧ load t.dir = .ok (op.effect before) ∧
        t.committed = s.committed ++ [op] := by
  by_cases hne : ∀ id, a ≠ .rename id
  · exact .inl (h.still ha hne)
  · obtain ⟨id, rfl⟩ := not_forall_not.mp hne
    cases ha with
    | rename hc hr => exact .inr ⟨_, h.renames hc hr⟩
    | error _ hc hs e => exact .inl ⟨rfl, rfl⟩
    | unlocked _ hc hp => exact .inl ⟨rfl, rfl⟩

/-! ### Runs -/

theorem inv_of_run (hs : Initial s) {as : List Act} (hr : Run (ofFn State.step) s as t) : Inv t :=
  hr.invariant (I := Inv) (fun _ _ _ hi ha => hi.step (steps_of_step ha)) (inv_of_initial hs)

/-- What the changes make of the devices that are there. -/
def fold (ops : List Op) (devices : List PushDevice) : List PushDevice :=
  ops.foldl (fun devices op => op.effect devices) devices

/-- **The registry is what the changes make of it**, in the order of the lock. -/
theorem load_of_run (hs : Initial s) {before : List PushDevice} (hb : load s.dir = .ok before)
    {as : List Act} (hr : Run (ofFn State.step) s as t) :
    load t.dir = .ok (fold t.committed before) := by
  refine (hr.invariant (I := fun u => Inv u ∧ load u.dir = .ok (fold u.committed before))
    (fun u a v hi ha => ?_) ⟨(inv_of_initial hs), ?_⟩).2
  · obtain ⟨hinv, hload⟩ := hi
    have hsteps := steps_of_step ha
    refine ⟨hinv.step hsteps, ?_⟩
    rcases hinv.still_or_renames hsteps with
      ⟨hread, hcommitted⟩ | ⟨op, ds, hds, hnew, hcommitted⟩
    · rw [load_congr hread, hcommitted, hload]
    · obtain rfl : ds = _ := Except.ok.inj (hds.symm.trans hload)
      rw [hcommitted, fold, List.foldl_append]
      exact hnew
  · simp [State.committed, hs.acquired, fold, hb]

/-- **A registry that cannot be parsed stays.** -/
theorem unparsed_of_run (hs : Initial s) {e : Fault} (he : load s.dir = .error e) {as : List Act}
    (hr : Run (ofFn State.step) s as t) : t.dir.read .registry = s.dir.read .registry := by
  refine (hr.invariant (I := fun u => Inv u ∧ u.dir.read .registry = s.dir.read .registry)
    (fun u a v hi ha => ?_) ⟨(inv_of_initial hs), rfl⟩).2
  obtain ⟨hinv, hread⟩ := hi
  have hsteps := steps_of_step ha
  refine ⟨hinv.step hsteps, ?_⟩
  rcases hinv.still_or_renames hsteps with ⟨hstill, -⟩ | ⟨op, ds, hds, -⟩
  · exact hstill.trans hread
  · -- a call that is about to rename has parsed it
    rw [load_congr hread, he] at hds
    cases hds

/-- A change keeps the names of the devices distinct. -/
theorem nodup_effect (op : Op) (h : (devices.map PushDevice.deviceName).Nodup) :
    ((op.effect devices).map PushDevice.deviceName).Nodup := by
  cases op
  case list => exact h
  case upsert device =>
    simp only [Op.effect, Devices.insert]
    split
    · rename_i i hi
      obtain ⟨hlt, hname, -⟩ := List.findIdx?_eq_some_iff_getElem.mp hi
      have hmap : i < (devices.map PushDevice.deviceName).length := by simpa
      have hsame : device.deviceName = (devices.map PushDevice.deviceName)[i] := by
        simpa using (of_decide_eq_true hname).symm
      rw [List.map_set, hsame, List.set_getElem_self]
      exact h
    · rename_i hi
      rw [List.map_append, List.nodup_append]
      refine ⟨h, List.nodup_singleton _, ?_⟩
      rintro name hmem _ hnew rfl
      obtain ⟨d, hd, hname⟩ := List.mem_map.mp hmem
      have hno := List.findIdx?_eq_none_iff.mp hi d hd
      simp only [List.map_cons, List.map_nil, List.mem_singleton] at hnew
      exact absurd (hname.trans hnew) (by simpa using hno)
  case removeByName => exact h.sublist (List.filter_sublist.map _)
  case removeByHandle => exact h.sublist (List.filter_sublist.map _)

theorem nodup_fold (ops : List Op) (h : (devices.map PushDevice.deviceName).Nodup) :
    ((fold ops devices).map PushDevice.deviceName).Nodup := by
  induction ops generalizing devices with
  | nil => exact h
  | cons op ops ih => exact ih (nodup_effect op h)

/-- What a call lists is under the registry's name while it has the lock. -/
theorem listed_of_run (hs : Initial s) {as : List Act} (hr : Run (ofFn State.step) s as t)
    (hl : t.calls id = .returned (.ok (.listed devices))) :
    ∃ pre post u op, as = pre ++ post ∧ Run (ofFn State.step) s pre u ∧
      u.calls id = .held op (.loaded devices) ∧ load u.dir = .ok devices := by
  refine (hr.history (I := fun as t => ∀ id devices,
    t.calls id = .returned (.ok (.listed devices)) →
      ∃ pre post u op, as = pre ++ post ∧ Run (ofFn State.step) s pre u ∧
        u.calls id = .held op (.loaded devices) ∧ load u.dir = .ok devices) ?_ ?_) id devices hl
  · intro pre u a v hu hi ha id devices hl
    have hinv := inv_of_run hs hu
    have hold : u.calls id = .returned (.ok (.listed devices)) →
        ∃ pre' post w op, pre ++ [a] = pre' ++ post ∧ Run (ofFn State.step) s pre' w ∧
          w.calls id = .held op (.loaded devices) ∧ load w.dir = .ok devices := by
      intro hc
      obtain ⟨pre', post, w, op, rfl, hw⟩ := hi id devices hc
      exact ⟨pre', post ++ [a], w, op, List.append_assoc _ _ _, hw⟩
    -- either this step is the return, or it had returned
    have hset : ∀ {j : ℕ} {phase : Phase}, Function.update u.calls j phase id =
        .returned (.ok (.listed devices)) → phase ≠ .returned (.ok (.listed devices)) →
        u.calls id = .returned (.ok (.listed devices)) := by
      intro j phase hup hne
      by_cases hj : id = j
      · subst hj
        rw [Function.update_self] at hup
        exact absurd hup hne
      · rwa [Function.update_of_ne hj] at hup
    rcases steps_of_step ha with hc | ⟨hc, hl'⟩ | ⟨hc, hr⟩ | ⟨hc, hr⟩ | ⟨hc, hp⟩ | ⟨hc, hs⟩ | hc |
      hc | ⟨hc, hr⟩ | ⟨hc, hs⟩ | hc | ⟨_, hc, hs, e⟩ | hc | ⟨_, hc, hp⟩
    case unchanged j op ds =>
      by_cases hj : id = j
      · subst hj
        have hanswer : op.unchanged ds = .listed devices := by
          simpa [State.leave] using hl
        obtain rfl : ds = devices := by
          cases op <;> simp [Op.unchanged] at hanswer
          exact hanswer
        exact ⟨pre, [Act.ret id], u, op, rfl, hu, hc, hinv.stages _ _ _ hc⟩
      · exact hold (by simpa [State.leave, Function.update_of_ne hj] using hl)
    case stored j op =>
      refine hold (hset hl ?_)
      cases op <;> simp [Op.stored]
    case unlocked j op phase =>
      refine hold (hset hl ?_)
      rcases hp with rfl | rfl <;> simp
    all_goals exact hold (hset hl (by simp))
  · intro id devices hc
    exact absurd hc (by simp [hs.idle])

/-- What holds of the registry and of the calls in a state that a run reaches. -/
structure Atomic (s : State) (as : List Act) (t : State) : Prop where
  content : load t.dir = .ok (fold t.committed [])
  distinct : ∀ devices, load t.dir = .ok devices → (devices.map PushDevice.deviceName).Nodup
  still : ∀ a v, t.step a = some v → (∀ id, a ≠ .rename id) →
    v.dir.read .registry = t.dir.read .registry
  failed : ∀ id e, t.calls id = .returned (.error e) → id ∉ t.renamed
  listed : ∀ id devices, t.calls id = .returned (.ok (.listed devices)) →
    ∃ pre post u op, as = pre ++ post ∧ Run (ofFn State.step) s pre u ∧
      u.calls id = .held op (.loaded devices) ∧ load u.dir = .ok devices

/-- **The registry under overlapping calls**: if there is none at first, it is in each state what
the calls that renamed make of the empty one, in the order in which they took the lock; no step but
a rename changes it, a call that fails has not renamed, and what a call lists was there while it had
the lock. A registry that cannot be parsed is never replaced. -/
theorem registry_atomic {as : List Act} (hs : Initial s) (hr : Run (ofFn State.step) s as t) :
    (s.dir.names .registry = none → Atomic s as t) ∧
      ∀ e, load s.dir = .error e → t.dir.read .registry = s.dir.read .registry := by
  refine ⟨fun hmissing => ?_, fun e he => unparsed_of_run hs he hr⟩
  have hinv := inv_of_run hs hr
  have hload : load t.dir = .ok (fold t.committed []) :=
    load_of_run hs (by simp [load, Dir.read, hmissing]) hr
  refine ⟨hload, fun devices hd => ?_, fun a v ha hne => ?_, fun id e hc hmem => ?_,
    fun id devices hc => listed_of_run hs hr hc⟩
  · obtain rfl := Except.ok.inj (hd.symm.trans hload)
    exact nodup_fold _ (by simp)
  · exact (hinv.still (steps_of_step ha) hne).1
  · exact hinv.not_through hc not_false hmem

/-! ### The operations one by one -/

/-- A call by itself, that goes through, on the file. -/
def apply (file : File) : Op → File
  | .list => file
  | .upsert device => (upsert file none device).1
  | .removeByName name => (removeByName file none name).1
  | .removeByHandle handle => (removeByHandle file none handle).1

theorem load_remove {file : File} (hl : file.load = .ok devices)
    {kept : List PushDevice → List PushDevice} (hkept : (kept devices).Sublist devices) :
    (remove file none kept).1.load = .ok (kept devices) := by
  unfold remove
  rw [hl]
  dsimp only
  split_ifs with hlen
  · rw [hl, hkept.eq_of_length hlen]
  · rfl

theorem load_apply {file : File} (hl : file.load = .ok devices) (op : Op) :
    (apply file op).load = .ok (op.effect devices) := by
  cases op
  case list => exact hl
  case upsert device =>
    simp only [apply, upsert, hl]
    rfl
  case removeByName name => exact load_remove hl List.filter_sublist
  case removeByHandle handle => exact load_remove hl List.filter_sublist

theorem load_foldl_apply (ops : List Op) {file : File} (hl : file.load = .ok devices) :
    (ops.foldl apply file).load = .ok (fold ops devices) := by
  induction ops generalizing file devices with
  | nil => exact hl
  | cons op ops ih => exact ih (load_apply hl op)

/-- **Overlapping calls are serial**: the registry has what the operations leave, each a step of its
own, if those of the calls that renamed are done in the order of the lock. -/
theorem registry_serial {as : List Act} (hs : Initial s) (hmissing : s.dir.names .registry = none)
    (hr : Run (ofFn State.step) s as t) :
    ∃ devices, load t.dir = .ok devices ∧
      (t.committed.foldl apply File.missing).load = .ok devices :=
  ⟨fold t.committed [], load_of_run hs (by simp [load, Dir.read, hmissing]) hr,
    load_foldl_apply t.committed rfl⟩

/-! ### A run -/

/-- No registry, no call. -/
def fresh : State := ⟨⟨fun _ => none, fun _ => .torn, 0⟩, .free, fun _ => .idle, [], []⟩

theorem initial_fresh : Initial fresh := by
  refine ⟨⟨?_, ?_⟩, rfl, fun _ => rfl, rfl, rfl⟩ <;> simp [fresh]

/-- A phone and a tablet. -/
def phone : PushDevice := ⟨"phone", "0123456789abcdef0123456789abcdef", "android", 100⟩

def tablet : PushDevice := ⟨"tablet", "fedcba9876543210fedcba9876543210", "android", 200⟩

/-- A process stops while it stores the phone; another one stores the tablet, and the list, which
has been waiting, is taken. -/
def overlap : List Act :=
  [Act.start 0 (.upsert phone), .start 1 .list, .lock 0, .openRegistry 0, .openTmp 0, .crash 0,
    .start 2 (.upsert tablet), .lock 2, .openRegistry 2, .openTmp 2, .write 2, .chmod 2, .rename 2,
    .ret 2, .lock 1, .openRegistry 1, .read 1, .ret 1]

/-- The registry has the tablet. -/
theorem registry_atomic_overlap :
    ∃ t, Run (ofFn State.step) fresh overlap t ∧ t.committed = [.upsert tablet] ∧
      Atomic fresh overlap t := by
  obtain ⟨t, hrun, hc⟩ : ∃ t, Run (ofFn State.step) fresh overlap t ∧
      t.committed = [.upsert tablet] :=
    ⟨_, .cons rfl <| .cons rfl <| .cons rfl <| .cons rfl <| .cons rfl <| .cons rfl <| .cons rfl <|
      .cons rfl <| .cons rfl <| .cons rfl <| .cons rfl <| .cons rfl <| .cons rfl <| .cons rfl <|
      .cons rfl <| .cons rfl <| .cons rfl <| .cons rfl <| .nil _, rfl⟩
  exact ⟨t, hrun, hc, (registry_atomic initial_fresh hrun).1 rfl⟩

end MuxrCore.Notify.Serial
