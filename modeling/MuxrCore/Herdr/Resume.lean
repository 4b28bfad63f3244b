import MuxrCore.Herdr.Sender

/-! # Where an attach lands

The ladder of an attach, for any hints: the hinted workspace is tried before the default one, and in
either the hinted pane before the hinted tab before the focused pane. A hint that leads nowhere is
passed over.

* `choosePane_tab`, `choosePane_uncorroborated`: what the hints do within one workspace.
* `resolveAttachTargetWith_ok_iff`: the ladder fails only if no workspace has a pane.
* `pick_eq`: without hints it lands where `resolveFocusedTerminal` does. -/

namespace MuxrCore.Herdr.Resume

open MuxrCore.Herdr.Registry MuxrCore.Herdr.Sender MuxrCore.Multiplexer.Layout

/-- The ladder, with the herdr ids of the hints. -/
def resolveAttachTargetWith (listPanes : String → Listing) (reg : Registries)
    (defaultWorkspace : String) (hintSpace hintPane hintTab : Option String) :
    Registries × Except SenderError AttachTarget :=
  match hintSpace.filter (· ≠ defaultWorkspace) with
  | none => resolveIn listPanes reg hintPane hintTab defaultWorkspace
  | some space =>
    match resolveIn listPanes reg hintPane hintTab space with
    | (reg, .ok target) => (reg, .ok target)
    | (reg, .error _) => resolveIn listPanes reg hintPane hintTab defaultWorkspace

/-- An attach translates the hints, and goes down the ladder. -/
theorem resolveAttachTarget_eq (listPanes : String → Listing) (reg : Registries)
    (defaultWorkspace : String) (resume : ResumeTarget) :
    resolveAttachTarget listPanes reg defaultWorkspace resume =
      resolveAttachTargetWith listPanes reg defaultWorkspace resume.spaceId (hintIds reg resume).1
        (hintIds reg resume).2 := rfl

variable {listPanes : String → Listing} {reg : Registries} {panes : List PaneInfo}
  {defaultWorkspace workspaceId : String} {hintSpace hintPane hintTab : Option String}

/-! ### Within one workspace -/

/-- The last focused pane, or else the first. -/
theorem focusedOrFirst_eq (panes : List PaneInfo) :
    focusedOrFirst panes = (panes.filter (·.focused)).getLast?.or panes.head? := by
  have hfold : ∀ (panes : List PaneInfo) (acc : Option PaneInfo × Option PaneInfo),
      panes.foldl (fun acc pane =>
        (acc.1.or (some pane), if pane.focused then some pane else acc.2)) acc =
        (acc.1.or panes.head?, (panes.filter (·.focused)).getLast?.or acc.2) := by
    intro panes
    induction panes with
    | nil => simp
    | cons pane panes ih =>
      intro acc
      rw [List.foldl_cons, ih, List.head?_cons]
      refine Prod.ext ?_ ?_
      · rcases acc.1 with - | p <;> simp
      · by_cases hf : pane.focused = true
        · rw [List.filter_cons_of_pos hf, if_pos hf, List.getLast?_cons]
          rcases hl : (panes.filter (·.focused)).getLast? with - | p <;> simp [hl]
        · rw [List.filter_cons_of_neg hf, if_neg hf]
  rw [focusedOrFirst, hfold]
  simp

theorem focusedOrFirst_eq_none_iff : focusedOrFirst panes = none ↔ panes = [] := by
  rw [focusedOrFirst_eq, Option.or_eq_none_iff, List.head?_eq_none_iff]
  constructor
  · exact And.right
  · rintro rfl
    exact ⟨rfl, rfl⟩

/-- The hinted pane is in the hinted tab. -/
def Corroborated (panes : List PaneInfo) (hintPane hintTab : Option String) : Prop :=
  ∃ p ∈ panes, hintPane = some p.paneId ∧ hintTab = some p.tabId

/-- A workspace with a pane has one to attach to. -/
theorem choosePane_eq_none_iff : choosePane panes hintPane hintTab = none ↔ panes = [] := by
  unfold choosePane
  rw [Option.or_eq_none_iff, focusedOrFirst_eq_none_iff]
  constructor
  · exact And.right
  · rintro rfl
    refine ⟨?_, rfl⟩
    rcases hintPane with - | hp <;> rcases hintTab with - | ht <;> rfl

/-- A corroborated pane is found, and it is the hinted one. -/
theorem choosePane_corroborated (h : Corroborated panes hintPane hintTab) :
    ∃ p, choosePane panes hintPane hintTab = some p ∧ hintPane = some p.paneId ∧
      hintTab = some p.tabId := by
  obtain ⟨q, hq, rfl, rfl⟩ := h
  obtain ⟨p, hp⟩ := Option.isSome_iff_exists.mp
    (List.find?_isSome.mpr ⟨q, hq, by simp⟩ :
      (panes.find? fun p => p.paneId = q.paneId && p.tabId = q.tabId).isSome)
  have hsame := List.find?_some hp
  simp only [Bool.and_eq_true, decide_eq_true_eq] at hsame
  refine ⟨p, ?_, by rw [hsame.1], by rw [hsame.2]⟩
  simp [choosePane, hp]

/-- **A pane hint that is not corroborated has no effect.** -/
theorem choosePane_uncorroborated (h : ¬ Corroborated panes hintPane hintTab) :
    choosePane panes hintPane hintTab = choosePane panes none hintTab := by
  have hnone : (hintPane.bind fun hp => hintTab.bind fun ht =>
      panes.find? fun p => p.paneId = hp && p.tabId = ht) = none := by
    rcases hintPane with - | hp
    · rfl
    · rcases hintTab with - | ht
      · rfl
      · refine List.find?_eq_none.mpr fun p hp' hsame => h ⟨p, hp', ?_⟩
        simp only [Bool.and_eq_true, decide_eq_true_eq] at hsame
        rw [hsame.1, hsame.2]
        exact ⟨rfl, rfl⟩
  unfold choosePane
  rw [hnone]
  rfl

/-- **The hinted tab is used if it has a pane.** -/
theorem choosePane_tab {ht : String} {p : PaneInfo} (h : ∃ q ∈ panes, q.tabId = ht)
    (hp : choosePane panes hintPane (some ht) = some p) : p.tabId = ht := by
  by_cases hc : Corroborated panes hintPane (some ht)
  · obtain ⟨q, hq, -, htab⟩ := choosePane_corroborated hc
    rw [hq] at hp
    cases hp
    exact (Option.some.inj htab).symm
  · rw [choosePane_uncorroborated hc] at hp
    obtain ⟨q, hq, hqt⟩ := h
    rcases hf : focusedOrFirst (panes.filter fun p => p.tabId = ht) with - | r
    · rw [focusedOrFirst_eq_none_iff, List.filter_eq_nil_iff] at hf
      exact absurd (decide_eq_true hqt) (hf q hq)
    · have hr : choosePane panes none (some ht) = some r := by simp [choosePane, hf]
      rw [hr] at hp
      cases hp
      exact of_decide_eq_true (List.mem_filter.mp (focusedOrFirst_mem hf)).2

/-- Without a pane in the hinted tab the focused pane is chosen. -/
theorem choosePane_focused (h : ∀ p ∈ panes, hintTab ≠ some p.tabId) :
    choosePane panes hintPane hintTab = focusedOrFirst panes := by
  have hc : ¬ Corroborated panes hintPane hintTab := fun ⟨p, hp, _, ht⟩ => h p hp ht
  rw [choosePane_uncorroborated hc]
  rcases hintTab with - | ht
  · simp [choosePane]
  · have hnone : focusedOrFirst (panes.filter fun p => p.tabId = ht) = none := by
      rw [focusedOrFirst_eq_none_iff, List.filter_eq_nil_iff]
      intro p hp hpt
      exact h p hp (by rw [of_decide_eq_true hpt])
    simp [choosePane, hnone]

/-! ### The ladder -/

/-- The workspace lists a pane. -/
def Usable (listPanes : String → Listing) (workspaceId : String) : Prop :=
  ∃ panes, listPanes workspaceId = .ok panes ∧ panes ≠ []

/-- The target is a pane that its workspace lists, under the numbers that the registries have. -/
structure Lands (listPanes : String → Listing) (after : Registries) (target : AttachTarget)
    (panes : List PaneInfo) (pane : PaneInfo) : Prop where
  listed : listPanes target.workspaceId = .ok panes
  mem : pane ∈ panes
  terminal : target.terminalId = pane.terminalId
  tab : after.tabs.byHerdr pane.tabId = some target.tabId
  pane : after.panes.byHerdr pane.paneId = some target.paneId

/-- A workspace that cannot be used registers nothing. -/
theorem resolveIn_unusable (reg : Registries) (hintPane hintTab : Option String)
    (h : ¬ Usable listPanes workspaceId) :
    ∃ e, resolveIn listPanes reg hintPane hintTab workspaceId = (reg, .error e) := by
  rcases hl : listPanes workspaceId with cause | panes
  · exact ⟨.listPanes workspaceId cause, by rw [resolveIn, hl]⟩
  · obtain rfl : panes = [] := by
      by_contra hne
      exact h ⟨panes, hl, hne⟩
    have hc : choosePane [] hintPane hintTab = none := choosePane_eq_none_iff.mpr rfl
    refine ⟨.noPanes workspaceId, ?_⟩
    simp only [resolveIn, hl, pickResumePane, hc]
    rfl

theorem resolveIn_usable (reg : Registries) (hintPane hintTab : Option String)
    (h : Usable listPanes workspaceId) :
    ∃ target, (resolveIn listPanes reg hintPane hintTab workspaceId).2 = .ok target := by
  obtain ⟨panes, hl, hne⟩ := h
  rcases hc : choosePane panes hintPane hintTab with - | chosen
  · exact absurd (choosePane_eq_none_iff.mp hc) hne
  · simp [resolveIn, hl, pickResumePane, hc]

theorem resolveIn_ok_iff :
    (∃ target, (resolveIn listPanes reg hintPane hintTab workspaceId).2 = .ok target) ↔
      Usable listPanes workspaceId := by
  refine ⟨fun ⟨target, ht⟩ => ?_, resolveIn_usable reg hintPane hintTab⟩
  by_contra hun
  obtain ⟨e, he⟩ := resolveIn_unusable reg hintPane hintTab hun
  rw [he] at ht
  cases ht

/-- One workspace's panes are listed, and the target is the one that the hints choose. -/
theorem resolveIn_lands {target : AttachTarget}
    (h : (resolveIn listPanes reg hintPane hintTab workspaceId).2 = .ok target) :
    target.workspaceId = workspaceId ∧ ∃ panes pane,
      Lands listPanes (resolveIn listPanes reg hintPane hintTab workspaceId).1 target panes pane ∧
      choosePane panes hintPane hintTab = some pane := by
  unfold resolveIn at h ⊢
  rcases hl : listPanes workspaceId with cause | panes
  · rw [hl] at h
    cases h
  · rw [hl] at h
    rcases hc : choosePane panes hintPane hintTab with - | chosen
    · simp [pickResumePane, hc] at h
    · simp only [pickResumePane, hc, Except.ok.injEq] at h ⊢
      subst h
      refine ⟨rfl, panes, chosen, ⟨hl, choosePane_mem hc, rfl, ?_, ?_⟩, hc⟩
      · exact HerdrTabRegistry.byHerdr_assign_self _ _
      · exact byHerdr_assignOrGet_self _ chosen.paneId chosen.terminalId

/-- The pane hint within one workspace: corroborated, or without effect. -/
theorem resolveIn_pane (listPanes : String → Listing) (reg : Registries)
    (hintPane hintTab : Option String) (workspaceId : String) :
    (∃ panes, listPanes workspaceId = .ok panes ∧ Corroborated panes hintPane hintTab) ∨
      resolveIn listPanes reg hintPane hintTab workspaceId =
        resolveIn listPanes reg none hintTab workspaceId := by
  rcases hl : listPanes workspaceId with cause | panes
  · right
    simp only [resolveIn, hl]
  · by_cases hc : Corroborated panes hintPane hintTab
    · exact Or.inl ⟨panes, rfl, hc⟩
    · right
      simp only [resolveIn, hl, pickResumePane, choosePane_uncorroborated hc]

/-- The ladder uses one workspace, whatever the pane and the tab: the hinted one if it has a pane,
or else the default one. -/
theorem resolveAttachTargetWith_eq (listPanes : String → Listing) (reg : Registries)
    (defaultWorkspace : String) (hintSpace : Option String) :
    ∃ workspaceId, (∀ hintPane hintTab, resolveAttachTargetWith listPanes reg defaultWorkspace
        hintSpace hintPane hintTab = resolveIn listPanes reg hintPane hintTab workspaceId) ∧
      ((hintSpace = some workspaceId ∧ Usable listPanes workspaceId) ∨
        workspaceId = defaultWorkspace ∧ ∀ space, hintSpace = some space →
          space = defaultWorkspace ∨ ¬ Usable listPanes space) := by
  rcases hs : hintSpace.filter (· ≠ defaultWorkspace) with - | space
  · refine ⟨defaultWorkspace, fun hintPane hintTab => by rw [resolveAttachTargetWith, hs],
      Or.inr ⟨rfl, fun space hspace => Or.inl ?_⟩⟩
    subst hspace
    simpa using hs
  · obtain ⟨hspace, -⟩ := Option.filter_eq_some_iff.mp hs
    by_cases husable : Usable listPanes space
    · refine ⟨space, fun hintPane hintTab => ?_, Or.inl ⟨hspace, husable⟩⟩
      obtain ⟨target, ht⟩ := resolveIn_usable reg hintPane hintTab husable
      rcases hr : resolveIn listPanes reg hintPane hintTab space with ⟨reg', r⟩
      rw [hr] at ht
      obtain rfl : r = .ok target := ht
      simp only [resolveAttachTargetWith, hs, hr]
    · refine ⟨defaultWorkspace, fun hintPane hintTab => ?_,
        Or.inr ⟨rfl, fun space' hspace' => ?_⟩⟩
      · obtain ⟨e, he⟩ := resolveIn_unusable reg hintPane hintTab husable
        simp only [resolveAttachTargetWith, hs, he]
      · rw [hspace] at hspace'
        cases hspace'
        exact Or.inr husable

/-- **The ladder fails only if no workspace has a pane.** -/
theorem resolveAttachTargetWith_ok_iff (listPanes : String → Listing) (reg : Registries)
    (defaultWorkspace : String) (hintSpace hintPane hintTab : Option String) :
    (∃ target, (resolveAttachTargetWith listPanes reg defaultWorkspace hintSpace hintPane
        hintTab).2 = .ok target) ↔
      Usable listPanes defaultWorkspace ∨ ∃ space, hintSpace = some space ∧
        Usable listPanes space := by
  obtain ⟨workspaceId, heq, ⟨hspace, husable⟩ | ⟨rfl, hnone⟩⟩ :=
    resolveAttachTargetWith_eq listPanes reg defaultWorkspace hintSpace
  · rw [heq, resolveIn_ok_iff]
    exact iff_of_true husable (Or.inr ⟨workspaceId, hspace, husable⟩)
  · rw [heq, resolveIn_ok_iff]
    constructor
    · exact Or.inl
    · rintro (h | ⟨space, hspace, h⟩)
      · exact h
      · rcases hnone space hspace with rfl | hun
        · exact h
        · exact absurd h hun

/-- Where a ladder that lands does so: in the hinted workspace if that has a pane, in the hinted tab
if that has one, and on the hinted pane or as if none were hinted. -/
theorem resolveAttachTargetWith_target {target : AttachTarget}
    (h : (resolveAttachTargetWith listPanes reg defaultWorkspace hintSpace hintPane hintTab).2 =
      .ok target) :
    (∀ space, hintSpace = some space → Usable listPanes space → target.workspaceId = space) ∧
      ∃ panes pane, Lands listPanes (resolveAttachTargetWith listPanes reg defaultWorkspace
          hintSpace hintPane hintTab).1 target panes pane ∧
        (∀ ht, hintTab = some ht → (∃ q ∈ panes, q.tabId = ht) → pane.tabId = ht) ∧
        ((hintPane = some pane.paneId ∧ hintTab = some pane.tabId) ∨
          resolveAttachTargetWith listPanes reg defaultWorkspace hintSpace hintPane hintTab =
            resolveAttachTargetWith listPanes reg defaultWorkspace hintSpace none hintTab) := by
  obtain ⟨workspaceId, heq, hused⟩ :=
    resolveAttachTargetWith_eq listPanes reg defaultWorkspace hintSpace
  rw [heq] at h
  obtain ⟨hws, panes, pane, hlands, hchosen⟩ := resolveIn_lands h
  refine ⟨fun space hspace husable => ?_, panes, pane, ?_, ?_, ?_⟩
  · rcases hused with ⟨hspace', -⟩ | ⟨hdefault, hnone⟩
    · rw [hspace] at hspace'
      cases hspace'
      exact hws
    · rw [hws, hdefault]
      exact ((hnone space hspace).resolve_right (fun h => h husable)).symm
  · rw [heq]
    exact hlands
  · rintro ht rfl hpane
    exact choosePane_tab hpane hchosen
  · rw [heq, heq]
    rcases resolveIn_pane listPanes reg hintPane hintTab workspaceId with
      ⟨panes', hpanes', hcorr⟩ | hsame
    · left
      have hlisted := hlands.listed
      rw [hws, hpanes'] at hlisted
      obtain rfl : panes' = panes := Except.ok.inj hlisted
      obtain ⟨p, hp, hpane, htab⟩ := choosePane_corroborated hcorr
      rw [hchosen] at hp
      cases hp
      exact ⟨hpane, htab⟩
    · exact Or.inr hsame

/-! ### Without hints -/

/-- The panes noted in a scan are the ones of the search, under their numbers. -/
theorem scan_eq (panes : List PaneInfo) (acc : Scan) (found : Option PaneInfo × Option PaneInfo)
    (number : PaneInfo → ℕ × String)
    (hnumber : ∀ p ∈ panes, ∀ id, (panes.foldl (fun r p => (r.assignOrGet p.paneId p.terminalId).1)
      acc.panes).byHerdr p.paneId = some id → number p = (id, p.terminalId))
    (hfirst : acc.first = found.1.map number) (hfocused : acc.focused = found.2.map number) :
    panes.foldl (Scan.step fun _ => true) acc =
      ⟨panes.foldl (fun r p => (r.assignOrGet p.paneId p.terminalId).1) acc.panes,
        (panes.foldl (fun acc pane =>
          (acc.1.or (some pane), if pane.focused then some pane else acc.2)) found).1.map number,
        (panes.foldl (fun acc pane => (acc.1.or (some pane),
          if pane.focused then some pane else acc.2)) found).2.map number⟩ := by
  induction panes generalizing acc found with
  | nil => simp [← hfirst, ← hfocused]
  | cons p panes ih =>
    have hp : number p = ((acc.panes.assignOrGet p.paneId p.terminalId).2, p.terminalId) :=
      hnumber p List.mem_cons_self _ (extends_foldl PaneInfo.paneId PaneInfo.terminalId panes _ _ _
        (byHerdr_assignOrGet_self acc.panes p.paneId p.terminalId))
    rw [List.foldl_cons, List.foldl_cons, List.foldl_cons]
    refine ih _ _ (fun q hq => hnumber q (List.mem_cons_of_mem _ hq)) ?_ ?_
    · simp only [Scan.step, if_true, hfirst, ← hp]
      rcases found.1 with - | q <;> rfl
    · simp only [Scan.step, if_true, hfocused, ← hp]
      split_ifs <;> rfl

/-- **What `resolveFocusedTerminal` picks** is the focused pane, or else the first. -/
theorem pick_eq (reg : HerdrPaneRegistry) (panes : List PaneInfo) :
    (pick (fun _ => true) reg panes).2 = (focusedOrFirst panes).map fun p =>
      (((panes.foldl (fun r p => (r.assignOrGet p.paneId p.terminalId).1) reg).byHerdr
        p.paneId).getD 0, p.terminalId) := by
  rw [pick, scan_eq panes ⟨reg, none, none⟩ (none, none) (fun p =>
    (((panes.foldl (fun r p => (r.assignOrGet p.paneId p.terminalId).1) reg).byHerdr
      p.paneId).getD 0, p.terminalId)) (fun p _ id hid => by rw [hid]; rfl) rfl rfl]
  rw [focusedOrFirst]
  exact Option.map_or.symm

/-- **Without a pane in the hinted tab** a workspace is used as `resolveFocusedTerminal` does. -/
theorem resolveIn_focused (reg : Registries) (hintPane : Option String)
    (h : ∀ panes, listPanes workspaceId = .ok panes → ∀ p ∈ panes, hintTab ≠ some p.tabId) :
    (resolveIn listPanes reg hintPane hintTab workspaceId).2.map
        (fun target => (target.workspaceId, target.paneId, target.terminalId)) =
      (resolveFocusedTerminal reg.panes workspaceId (listPanes workspaceId)).2.map
        fun picked => (workspaceId, picked) := by
  rcases hl : listPanes workspaceId with cause | panes
  · simp only [resolveIn, hl, resolveFocusedTerminal, Except.map]
  · have hc : choosePane panes hintPane hintTab = focusedOrFirst panes :=
      choosePane_focused (h panes hl)
    simp only [resolveIn, hl, pickResumePane, hc, resolveFocusedTerminal, pick_eq]
    rcases hf : focusedOrFirst panes with - | chosen
    · simp [Except.map]
    · obtain ⟨id, hid⟩ := numbered_foldl PaneInfo.paneId PaneInfo.terminalId
        (focusedOrFirst_mem hf) reg.panes
      have hagain : (HerdrPaneRegistry.assignOrGet _ chosen.paneId chosen.terminalId).2 = id :=
        assign_snd hid
      simp [Except.map, hid, hagain]

/-! ### Every hint -/

/-- **Where an attach lands.** It lands unless neither workspace has a pane. It lands on a pane of
the hinted workspace, if that has one, and in the hinted tab, if that has a pane there. A pane hint
is followed in the hinted tab and changes nothing otherwise, and with no hint to follow the landing
is the focused pane of the default workspace. -/
theorem resolveAttachTargetWith_lands (listPanes : String → Listing) (reg : Registries)
    (defaultWorkspace : String) (hintSpace hintPane hintTab : Option String) :
    let result :=
      resolveAttachTargetWith listPanes reg defaultWorkspace hintSpace hintPane hintTab
    ((∃ target, result.2 = .ok target) ↔ Usable listPanes defaultWorkspace ∨
      ∃ space, hintSpace = some space ∧ Usable listPanes space) ∧
    (∀ target, result.2 = .ok target →
      (∀ space, hintSpace = some space → Usable listPanes space → target.workspaceId = space) ∧
      ∃ panes pane, Lands listPanes result.1 target panes pane ∧
        (∀ ht, hintTab = some ht → (∃ q ∈ panes, q.tabId = ht) → pane.tabId = ht) ∧
        ((hintPane = some pane.paneId ∧ hintTab = some pane.tabId) ∨
          result = resolveAttachTargetWith listPanes reg defaultWorkspace hintSpace none
            hintTab)) ∧
    ((∀ space, hintSpace = some space → space = defaultWorkspace ∨ ¬ Usable listPanes space) →
      (∀ panes, listPanes defaultWorkspace = .ok panes → ∀ p ∈ panes, hintTab ≠ some p.tabId) →
      result.2.map (fun target => (target.workspaceId, target.paneId, target.terminalId)) =
        (resolveFocusedTerminal reg.panes defaultWorkspace (listPanes defaultWorkspace)).2.map
          fun picked => (defaultWorkspace, picked)) := by
  refine ⟨resolveAttachTargetWith_ok_iff listPanes reg defaultWorkspace hintSpace hintPane
    hintTab, fun _ => resolveAttachTargetWith_target, fun hspace htab => ?_⟩
  obtain ⟨workspaceId, heq, ⟨hspace', husable⟩ | ⟨rfl, -⟩⟩ :=
    resolveAttachTargetWith_eq listPanes reg defaultWorkspace hintSpace
  · rcases hspace workspaceId hspace' with rfl | hun
    · rw [heq]
      exact resolveIn_focused reg hintPane htab
    · exact absurd husable hun
  · rw [heq]
    exact resolveIn_focused reg hintPane htab

/-- Two workspaces, of which the second has two tabs. -/
def twoSpaces : String → Listing
  | "w1" => .ok [⟨"p1", "term-1", "t1", true⟩]
  | "w2" => .ok [⟨"p2", "term-2", "t2", true⟩, ⟨"p3", "term-3", "t3", false⟩]
  | _ => .error "workspace not found"

theorem resolveAttachTargetWith_lands_hinted :
    (∃ panes pane, Lands twoSpaces (resolveAttachTargetWith twoSpaces ⟨.empty, .empty⟩ "w1"
        (some "w2") (some "p3") (some "t3")).1 ⟨"w2", 1, 2, "term-3"⟩ panes pane ∧
      pane.tabId = "t3") ∧
    (resolveAttachTargetWith twoSpaces ⟨.empty, .empty⟩ "w1" (some "w9") (some "p3")
        (some "t3")).2.map (fun target => (target.workspaceId, target.paneId, target.terminalId)) =
      .ok ("w1", 1, "term-1") := by
  refine ⟨?_, ?_⟩
  · obtain ⟨-, hlands, -⟩ := resolveAttachTargetWith_lands twoSpaces ⟨.empty, .empty⟩ "w1"
      (some "w2") (some "p3") (some "t3")
    obtain ⟨hspace, panes, pane, hpane, htab, -⟩ := hlands ⟨"w2", 1, 2, "term-3"⟩ rfl
    have hlisted : Except.ok _ = Except.ok panes := hpane.listed
    refine ⟨panes, pane, hpane, htab "t3" rfl ?_⟩
    rw [← Except.ok.inj hlisted]
    exact ⟨⟨"p3", "term-3", "t3", false⟩, by simp, rfl⟩
  · obtain ⟨-, -, hfocused⟩ := resolveAttachTargetWith_lands twoSpaces ⟨.empty, .empty⟩ "w1"
      (some "w9") (some "p3") (some "t3")
    refine (hfocused ?_ ?_).trans rfl
    · rintro space hspace
      cases hspace
      exact Or.inr (by rintro ⟨panes, hpanes, -⟩; cases hpanes)
    · intro panes hpanes p hp
      have hlisted : Except.ok _ = Except.ok panes := hpanes
      rw [← Except.ok.inj hlisted, List.mem_singleton] at hp
      subst hp
      decide

/-- A pane hint is met by chance: the tab hint names another tab, but there is just one pane. -/
theorem hinted_pane_by_chance :
    (resolveAttachTargetWith twoSpaces ⟨.empty, .empty⟩ "w1" none (some "p1") (some "t9")).2 =
      .ok ⟨"w1", 1, 1, "term-1"⟩ ∧
    (resolveAttachTargetWith twoSpaces ⟨.empty, .empty⟩ "w1" none (some "p1")
      (some "t9")).1.panes.byHerdr "p1" = some 1 ∧
    ¬ Corroborated [⟨"p1", "term-1", "t1", true⟩] (some "p1") (some "t9") := by
  refine ⟨rfl, rfl, ?_⟩
  rintro ⟨p, hp, -, htab⟩
  rw [List.mem_singleton] at hp
  subst hp
  exact absurd htab (by decide)

end MuxrCore.Herdr.Resume
