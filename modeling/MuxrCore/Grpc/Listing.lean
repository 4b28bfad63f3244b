import MuxrCore.Grpc.Handlers

/-! # The listing of the sessions

Every backend is asked for its sessions, and for the summaries of their agents; the rows of those
that answered follow each other in the order of the backends. A backend that fails, panics or takes
too long leaves out its own rows, and a summary or a count of spaces that fails leaves out itself.

`listSessions_gives` says what a listing is made of, whatever the backends answer. -/

namespace MuxrCore.Grpc.Listing

open MuxrCore.Lib.Program MuxrCore.Lib.Rpc MuxrCore.Multiplexer.Routing
open MuxrCore.Multiplexer.Agents
open MuxrCore.Grpc.Operation MuxrCore.Grpc.Handlers MuxrCore.Grpc.AgentOps
open MuxrCore.Herdr.Backend (SpaceSnapshot)

variable {α β : Type} {svc : MuxrService} {es es₁ es₂ : History} {kind : BackendKind}

/-! ### What a run has been told -/

/-- A session, as a backend lists it: its name, its age, and whether it has to be resurrected. -/
abbrev Listed := String × ℕ × Bool

/-- The sessions that an answer lists. -/
def sessionsOf : Option (Blocking BackendError (List Listed)) → Option (List Listed)
  | some (.ok (.ok sessions)) => some sessions
  | _ => none

/-- The backend that an event asks for its sessions, with those that it lists. -/
def listing? : Event Op.Answer → Option (BackendKind × Option (List Listed))
  | ⟨.timedRead kind .listSessionsWithResurrectables, answer⟩ => some (kind, sessionsOf answer)
  | _ => none

/-- The backends that a run asks for their sessions, in order, with those that each lists. -/
def listings (es : History) : List (BackendKind × Option (List Listed)) := es.filterMap listing?

@[simp] theorem listings_append : listings (es₁ ++ es₂) = listings es₁ ++ listings es₂ :=
  List.filterMap_append

/-- The backend has answered with the agents of the session, and this is their summary. -/
def Summed (es : History) (kind : BackendKind) (name : String) (summary : AgentSummary) : Prop :=
  ∃ agents : List AgentSnapshot, (⟨.read kind (.listAgents name), .ok (.ok agents)⟩ :
    Event Op.Answer) ∈ es ∧ summary = AgentSummary.from (sortAgents agents)

/-- The count of spaces is that of herdr's answer, or nothing is known of them. -/
def Counted (es : History) (kind : BackendKind) (spaces : ℕ) : Prop :=
  spaces = 0 ∨ kind = .herdr ∧ ∃ listed : List SpaceSnapshot,
    (⟨.timedRead .herdr (.listSpaces "herdr"), some (.ok (.ok listed))⟩ : Event Op.Answer) ∈ es ∧
      spaces = min listed.length (2 ^ 32 - 1)

theorem Summed.mono {name : String} {a : AgentSummary} (h : Summed es₁ kind name a)
    (hes : es₁ ⊆ es) : Summed es kind name a := by
  obtain ⟨agents, hin, ha⟩ := h
  exact ⟨agents, hes hin, ha⟩

theorem Counted.mono {spaces : ℕ} (h : Counted es₁ kind spaces) (hes : es₁ ⊆ es) :
    Counted es kind spaces := by
  rcases h with h | ⟨hk, listed, hin, hs⟩
  · exact Or.inl h
  · exact Or.inr ⟨hk, listed, hes hin, hs⟩

/-- Every summary is that of an answer. -/
def AllSummed (es : History) (kind : BackendKind) (summaries : Summaries) : Prop :=
  ∀ name a, summaries.lookup name = some a → Summed es kind name a

theorem AllSummed.mono {summaries : Summaries} (h : AllSummed es₁ kind summaries)
    (hes : es₁ ⊆ es) : AllSummed es kind summaries :=
  fun name a hl => (h name a hl).mono hes

theorem allSummed_empty : AllSummed es kind ∅ := fun _ _ hl => by simp at hl

/-! ### Asking one backend -/

theorem listEach_gives {names : List String} {out : Summaries}
    {r : Except Fault (Option Summaries)} (h : Handler.Gives (listEach kind names out) es r) :
    ∃ summaries, r = .ok summaries ∧ listings es = [] ∧
      ∀ s, summaries = some s → ∀ name a, s.lookup name = some a →
        out.lookup name = some a ∨ Summed es kind name a := by
  induction names generalizing es out with
  | nil =>
    obtain ⟨rfl, rfl⟩ := Handler.gives_pure.mp h
    refine ⟨some out, rfl, rfl, ?_⟩
    rintro _ ⟨⟩ name a hl
    exact Or.inl hl
  | cons name rest ih =>
    obtain ⟨answer, es', rfl, hnext⟩ := Handler.gives_op_bind.mp h
    clear h
    have hsub : es' ⊆ ⟨.read kind (.listAgents name), answer⟩ :: es' := List.subset_cons_self _ _
    rcases answer with e | e | agents
    · obtain ⟨rfl, rfl⟩ := Handler.gives_pure.mp hnext
      exact ⟨none, rfl, rfl, nofun⟩
    · obtain ⟨summaries, rfl, hnone, hs⟩ := ih hnext
      refine ⟨summaries, rfl, hnone, fun s hsome n a hl => ?_⟩
      exact (hs s hsome n a hl).imp_right fun hsum => hsum.mono hsub
    · obtain ⟨summaries, rfl, hnone, hs⟩ := ih hnext
      refine ⟨summaries, rfl, hnone, fun s hsome n a hl => ?_⟩
      rcases hs s hsome n a hl with hout | hsum
      · by_cases hn : n = name
        · subst hn
          rw [AList.lookup_insert] at hout
          exact Or.inr ⟨agents, List.mem_cons_self, (Option.some.inj hout).symm⟩
        · rw [AList.lookup_insert_ne hn] at hout
          exact Or.inl hout
      · exact Or.inr (hsum.mono hsub)

theorem sessionAgentSummaries_gives {sessions : List Listed} {r : Except Fault Summaries}
    (h : Handler.Gives (sessionAgentSummaries kind sessions) es r) :
    ∃ summaries, r = .ok summaries ∧ listings es = [] ∧ AllSummed es kind summaries := by
  unfold sessionAgentSummaries at h
  split at h
  · obtain ⟨rfl, rfl⟩ := Handler.gives_pure.mp h
    exact ⟨∅, rfl, rfl, allSummed_empty⟩
  rcases Handler.gives_bind.mp h with ⟨e, -, hfail⟩ | ⟨summaries, es₁, es₂, rfl, heach, hnext⟩
  · obtain ⟨_, hok, -⟩ := listEach_gives hfail
    cases hok
  obtain ⟨_, ⟨⟩, hnone, hs⟩ := listEach_gives heach
  obtain ⟨elapsed, es', rfl, hpure⟩ := Handler.gives_op_bind.mp hnext
  obtain ⟨rfl, rfl⟩ := Handler.gives_pure.mp hpure
  refine ⟨_, rfl, ?_, ?_⟩
  · rw [listings_append, hnone]
    rfl
  · rcases elapsed with - | -
    · rcases summaries with - | summaries
      · exact allSummed_empty
      · intro name a hl
        rcases hs summaries rfl name a hl with hempty | hsum
        · simp at hempty
        · exact hsum.mono (List.subset_append_left _ _)
    · exact allSummed_empty

theorem queryBackend_gives {backend : Backend}
    {r : Except Fault (Option (List Listed) × Summaries)}
    (h : Handler.Gives (queryBackend kind backend) es r) :
    ∃ listed summaries, r = .ok (listed, summaries) ∧ listings es = [(kind, listed)] ∧
      AllSummed es kind summaries := by
  obtain ⟨answer, es', rfl, hnext⟩ := Handler.gives_op_bind.mp h
  clear h
  rcases answer with - | e | e | sessions
  · obtain ⟨rfl, rfl⟩ := Handler.gives_pure.mp hnext
    exact ⟨none, ∅, rfl, rfl, allSummed_empty⟩
  · obtain ⟨rfl, rfl⟩ := Handler.gives_pure.mp hnext
    exact ⟨none, ∅, rfl, rfl, allSummed_empty⟩
  · obtain ⟨rfl, rfl⟩ := Handler.gives_pure.mp hnext
    exact ⟨none, ∅, rfl, rfl, allSummed_empty⟩
  dsimp only at hnext
  split_ifs at hnext
  · rcases Handler.gives_bind.mp hnext with ⟨e, -, hfail⟩ | ⟨summaries, es₁, es₂, rfl, hg, hpure⟩
    · obtain ⟨_, hok, -⟩ := sessionAgentSummaries_gives hfail
      cases hok
    obtain ⟨_, ⟨⟩, hnone, hs⟩ := sessionAgentSummaries_gives hg
    obtain ⟨rfl, rfl⟩ := Handler.gives_pure.mp hpure
    refine ⟨some sessions, summaries, rfl, ?_, hs.mono ?_⟩
    · rw [List.append_nil]
      exact congrArg (List.cons (kind, some sessions)) hnone
    · exact List.subset_cons_of_subset _ (List.subset_append_left _ _)
  · obtain ⟨rfl, rfl⟩ := Handler.gives_pure.mp hnext
    exact ⟨some sessions, ∅, rfl, rfl, allSummed_empty⟩

/-! ### Asking all of them -/

/-- What is known of a backend once it has been asked. -/
abbrev Asked := BackendKind × Option (List Listed) × Summaries

theorem queryBackends_gives {backends : List (BackendKind × Backend)}
    {r : Except Fault (List Asked)} (h : Handler.Gives (queryBackends backends) es r) :
    ∃ asked, r = .ok asked ∧ listings es = asked.map (fun a => (a.1, a.2.1)) ∧
      asked.map Prod.fst = backends.map Prod.fst ∧ ∀ a ∈ asked, AllSummed es a.1 a.2.2 := by
  induction backends generalizing es r with
  | nil =>
    obtain ⟨rfl, rfl⟩ := Handler.gives_pure.mp h
    exact ⟨[], rfl, rfl, rfl, nofun⟩
  | cons b rest ih =>
    obtain ⟨kind, backend⟩ := b
    rcases Handler.gives_bind.mp h with ⟨e, -, hfail⟩ | ⟨_, es₁, es', rfl, hq, hnext⟩
    · obtain ⟨_, _, hok, -⟩ := queryBackend_gives hfail
      cases hok
    obtain ⟨listed, summaries, ⟨⟩, hlist, hs⟩ := queryBackend_gives hq
    rcases Handler.gives_bind.mp hnext with ⟨e, -, hfail⟩ | ⟨asked, es₂, _, rfl, hrest, hpure⟩
    · obtain ⟨_, hok, -⟩ := ih hfail
      cases hok
    obtain ⟨_, ⟨⟩, hlists, hkinds, hall⟩ := ih hrest
    obtain ⟨rfl, rfl⟩ := Handler.gives_pure.mp hpure
    refine ⟨_, rfl, ?_, ?_, ?_⟩
    · simp [hlist, hlists]
    · simp [hkinds]
    · intro a ha
      rcases List.mem_cons.mp ha with rfl | ha
      · exact hs.mono (List.subset_append_left _ _)
      · exact (hall a ha).mono (by simp)

theorem spaceCount_gives {r : Except Fault ℕ} (h : Handler.Gives (spaceCount kind) es r) :
    ∃ spaces, r = .ok spaces ∧ listings es = [] ∧ Counted es kind spaces := by
  cases kind with
  | zellij =>
    obtain ⟨rfl, rfl⟩ := Handler.gives_pure.mp h
    exact ⟨0, rfl, rfl, Or.inl rfl⟩
  | herdr =>
    obtain ⟨answer, es', rfl, hnext⟩ := Handler.gives_op_bind.mp h
    clear h
    rcases answer with - | e | e | listed
    all_goals obtain ⟨rfl, rfl⟩ := Handler.gives_pure.mp hnext
    · exact ⟨0, rfl, rfl, Or.inl rfl⟩
    · exact ⟨0, rfl, rfl, Or.inl rfl⟩
    · exact ⟨0, rfl, rfl, Or.inl rfl⟩
    · exact ⟨_, rfl, rfl, Or.inr ⟨rfl, listed, List.mem_cons_self, rfl⟩⟩

/-! ### The rows -/

/-- What a row repeats of the listing. -/
def shown (kind : BackendKind) (s : Listed) : ℤ × String × Listed :=
  (protoBackend kind, makeId kind s.1, s)

/-- What the row shows of its session. -/
def rowShown (row : SessionInfo) : ℤ × String × Listed :=
  (row.backend, row.id, row.name, row.ageSecs, row.resurrectable)

/-- The rest of a row is what the run has been told. -/
structure Told (es : History) (kind : BackendKind) (row : SessionInfo) : Prop where
  own : row.id = makeId kind row.name
  clients : (⟨.clientCount row.id, row.connectedClients⟩ : Event Op.Answer) ∈ es
  agents : ∀ a, row.agents = some a → Summed es kind row.name a
  spaces : Counted es kind row.spaceCount
  rest : row.tabCount = 0 ∧ row.paneCount = 0 ∧ row.hasBell = false ∧ row.isCurrent = false

theorem Told.mono {row : SessionInfo} (h : Told es₁ kind row) (hes : es₁ ⊆ es) :
    Told es kind row :=
  ⟨h.own, hes h.clients, fun a ha => (h.agents a ha).mono hes, h.spaces.mono hes, h.rest⟩

/-- The rows of a backend, with the counts of their clients. -/
theorem sessionRows_gives {spaces : ℕ} {sessions : List Listed} {summaries : Summaries}
    {r : Except Fault (List SessionInfo)}
    (h : Handler.Gives (sessionRows kind spaces sessions summaries) es r) :
    ∃ rows, r = .ok rows ∧ listings es = [] ∧ rows.map rowShown = sessions.map (shown kind) ∧
      ∀ row ∈ rows, row.id = makeId kind row.name ∧ row.spaceCount = spaces ∧
        (⟨.clientCount row.id, row.connectedClients⟩ : Event Op.Answer) ∈ es ∧
        (∀ a, row.agents = some a → summaries.lookup row.name = some a) ∧
        row.tabCount = 0 ∧ row.paneCount = 0 ∧ row.hasBell = false ∧ row.isCurrent = false := by
  induction sessions generalizing es summaries r with
  | nil =>
    obtain ⟨rfl, rfl⟩ := Handler.gives_pure.mp h
    exact ⟨[], rfl, rfl, rfl, nofun⟩
  | cons s rest ih =>
    obtain ⟨name, ageSecs, resurrectable⟩ := s
    obtain ⟨clients, es', rfl, hnext⟩ := Handler.gives_op_bind.mp h
    clear h
    rcases Handler.gives_bind.mp hnext with ⟨e, -, hfail⟩ | ⟨rows, es₁, _, rfl, hrest, hpure⟩
    · obtain ⟨_, hok, -⟩ := ih hfail
      cases hok
    obtain ⟨_, ⟨⟩, hnone, hshown, hrows⟩ := ih hrest
    obtain ⟨rfl, rfl⟩ := Handler.gives_pure.mp hpure
    refine ⟨_, rfl, ?_, ?_, ?_⟩
    · show listings (es₁ ++ []) = _
      rw [List.append_nil, hnone]
    · rw [List.map_cons, List.map_cons, hshown]
      rfl
    · intro row hrow
      rcases List.mem_cons.mp hrow with rfl | hrow
      · exact ⟨rfl, rfl, List.mem_cons_self, fun a ha => ha, rfl, rfl, rfl, rfl⟩
      · obtain ⟨hid, hspaces, hclients, hagents, hzero⟩ := hrows row hrow
        refine ⟨hid, hspaces, List.mem_cons_of_mem _ (by simpa using hclients), ?_, hzero⟩
        intro a ha
        have hl := hagents a ha
        by_cases hn : row.name = name
        · rw [hn, AList.lookup_erase] at hl
          cases hl
        · rwa [AList.lookup_erase_ne hn] at hl

/-- The rows of the backends that have been asked. -/
theorem mergeSessions_gives {asked : List Asked} {r : Except Fault (List SessionInfo)}
    (hall : ∀ a ∈ asked, AllSummed es₁ a.1 a.2.2)
    (h : Handler.Gives (mergeSessions asked) es₂ r) :
    ∃ rows, r = .ok rows ∧ listings es₂ = [] ∧
      rows.map rowShown = asked.flatMap (fun a => (a.2.1.getD []).map (shown a.1)) ∧
      ∀ row ∈ rows, ∃ kind, kind ∈ asked.map Prod.fst ∧ Told (es₁ ++ es₂) kind row := by
  induction asked generalizing es₂ r with
  | nil =>
    obtain ⟨rfl, rfl⟩ := Handler.gives_pure.mp h
    exact ⟨[], rfl, rfl, rfl, nofun⟩
  | cons a rest ih =>
    obtain ⟨kind, listed, summaries⟩ := a
    have hrest := fun a ha => hall a (List.mem_cons_of_mem _ ha)
    rcases listed with - | sessions
    · obtain ⟨rows, rfl, hnone, hshown, htold⟩ := ih hrest h
      refine ⟨rows, rfl, hnone, hshown, fun row hrow => ?_⟩
      obtain ⟨kind', hkind, ht⟩ := htold row hrow
      exact ⟨kind', List.mem_cons_of_mem _ hkind, ht⟩
    rcases Handler.gives_bind.mp h with ⟨e, -, hfail⟩ | ⟨spaces, es₃, es', rfl, hcount, hnext⟩
    · obtain ⟨_, hok, -⟩ := spaceCount_gives hfail
      cases hok
    obtain ⟨_, ⟨⟩, hnone₃, hspaces⟩ := spaceCount_gives hcount
    rcases Handler.gives_bind.mp hnext with ⟨e, -, hfail⟩ | ⟨own, es₄, es'', rfl, hown, hnext⟩
    · obtain ⟨_, hok, -⟩ := sessionRows_gives hfail
      cases hok
    obtain ⟨_, ⟨⟩, hnone₄, hshown₄, hrows⟩ := sessionRows_gives hown
    rcases Handler.gives_bind.mp hnext with ⟨e, -, hfail⟩ | ⟨others, es₅, _, rfl, hothers, hpure⟩
    · obtain ⟨_, hok, -⟩ := ih hrest hfail
      cases hok
    obtain ⟨_, ⟨⟩, hnone₅, hshown₅, htold⟩ := ih hrest hothers
    obtain ⟨rfl, rfl⟩ := Handler.gives_pure.mp hpure
    refine ⟨own ++ others, rfl, ?_, ?_, ?_⟩
    · simp [hnone₃, hnone₄, hnone₅]
    · simp [hshown₄, hshown₅]
    · intro row hrow
      rcases List.mem_append.mp hrow with hrow | hrow
      · obtain ⟨hid, hn, hclients, hagents, hzero⟩ := hrows row hrow
        refine ⟨kind, List.mem_cons_self, hid, ?_, ?_, ?_, hzero⟩
        · simp [hclients]
        · intro a ha
          exact (hall _ List.mem_cons_self row.name a (hagents a ha)).mono
            (List.subset_append_left _ _)
        · rw [hn]
          exact hspaces.mono (by simp)
      · obtain ⟨kind', hkind, ht⟩ := htold row hrow
        refine ⟨kind', List.mem_cons_of_mem _ hkind, ht.mono fun e he => ?_⟩
        rcases List.mem_append.mp he with he | he <;> simp [he]

/-- The rows are what the run has been told. -/
structure Lists (svc : MuxrService) (es : History) (rows : List SessionInfo) : Prop where
  /-- every backend is asked once, in order -/
  asked : (listings es).map Prod.fst = svc.backends.kinds
  /-- the rows are the sessions of those that answered -/
  shown : rows.map rowShown = (listings es).flatMap fun l => (l.2.getD []).map (shown l.1)
  /-- a row resolves to its own backend, and shows what is known of its session -/
  told : ∀ row ∈ rows, ∃ kind, Told es kind row ∧
    (validateSession svc.env row.name = .ok () → ∃ b, svc.backends.get kind = some b ∧
      resolveSessionKind svc.env svc.backends row.id = .ok (kind, b, row.name))

theorem get_of_mem_kinds {bs : BackendSet β} (h : kind ∈ bs.kinds) : ∃ b, bs.get kind = some b := by
  obtain ⟨p, hp, rfl⟩ := List.mem_map.mp h
  have hfind : (bs.backends.find? fun q => q.1 = p.1).isSome := by
    rw [List.find?_isSome]
    exact ⟨p, hp, by simp⟩
  obtain ⟨q, hq⟩ := Option.isSome_iff_exists.mp hfind
  exact ⟨q.2, by simp [BackendSet.get, hq]⟩

/-- **The listing never fails**, whatever the backends do: the rows are the sessions of those that
answered, in the order of the backends, each with the clients that are counted for its id, with the
summary and the spaces of an answer or none, and each id leads back to its backend. -/
theorem listSessions_gives {r : Except Fault (List SessionInfo)}
    (h : Handler.Gives (listSessionsImpl svc) es r) : ∃ rows, r = .ok rows ∧ Lists svc es rows := by
  rcases Handler.gives_bind.mp h with ⟨e, -, hfail⟩ | ⟨asked, es₁, es₂, rfl, hq, hmerge⟩
  · obtain ⟨_, hok, -⟩ := queryBackends_gives hfail
    cases hok
  obtain ⟨_, ⟨⟩, hlists, hkinds, hall⟩ := queryBackends_gives hq
  obtain ⟨rows, rfl, hnone, hshown, htold⟩ := mergeSessions_gives hall hmerge
  have hall : listings (es₁ ++ es₂) = asked.map fun a => (a.1, a.2.1) := by
    rw [listings_append, hnone, List.append_nil, hlists]
  refine ⟨rows, rfl, ?_, ?_, fun row hrow => ?_⟩
  · rw [hall, List.map_map]
    exact hkinds
  · rw [hall, hshown, List.flatMap_map]
  · obtain ⟨kind, hkind, ht⟩ := htold row hrow
    refine ⟨kind, ht, fun hv => ?_⟩
    obtain ⟨b, hb⟩ := get_of_mem_kinds (hkinds ▸ hkind)
    refine ⟨b, hb, ?_⟩
    rw [ht.own]
    exact resolve_makeId hb hv

/-- A server whose first backend answers, and whose second takes too long. -/
def twoBackends : MuxrService where
  env := ⟨fun _ => .ok (), id⟩
  backends := ⟨[(.zellij, ⟨false, false, "0.43.1"⟩), (.herdr, ⟨true, false, ""⟩)],
    List.cons_ne_nil _ _⟩
  notifyRelayUrl := none
  eventBus := false
  logsInfo := false

theorem listSessions_twoBackends : ∃ rows,
    (.ok [⟨"main", 5, false, 0, 0, false, false, 2, 1, makeId .zellij "main", 0, none⟩] :
      Except Fault _) = .ok rows ∧ Lists twoBackends
      [⟨.timedRead .zellij .listSessionsWithResurrectables, some (.ok (.ok [("main", 5, false)]))⟩,
        ⟨.timedRead .herdr .listSessionsWithResurrectables, none⟩,
        ⟨.clientCount (makeId .zellij "main"), (2 : ℕ)⟩] rows :=
  listSessions_gives (.answered _ (.answered _ (.answered _ (.done _))))

end MuxrCore.Grpc.Listing
