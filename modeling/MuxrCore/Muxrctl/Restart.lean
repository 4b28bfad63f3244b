import MuxrCore.Muxrctl.Update
import MuxrCore.Pairing.Pinned

/-! # Starting the daemon with the certificate of the panel

The panel makes a certificate for the names that it derives from the settings. A start passes the
names in the sidecar on the command line, and the daemon adds those of `MUXRD_SAN` and the address it
binds to. It keeps the certificate if the sidecar covers all of them.

* `written_calls`: what the sidecar lists is read back from the command line.
* `leftOut`: the names that the daemon adds and the panel does not have: a wildcard address
  in `MUXRD_SAN`, and an address that is bound to in brackets and not listed there.
* `keeps_certificate_iff`: every start keeps the certificate exactly if these names were in the
  sidecar already. -/

namespace MuxrCore.Muxrctl.Restart

open MuxrCore.Lib.Address MuxrCore.Lib.Text MuxrCore.Tls.Identity
open MuxrCore.Pairing.Qr MuxrCore.Pairing.Pinned

/-- What the settings come from. -/
structure Settings where
  file : FileConfig
  muxrdBind : Option String
  muxrdSan : Option String
  /-- the settings for notifications are refused -/
  refused : Bool
  deriving DecidableEq, Repr

/-- What else decides whether a start gets as far as its certificate. -/
structure Machine where
  /-- there is a backend that can be served -/
  usable : Bool
  /-- where the certificate is from, unless the settings for it contradict each other -/
  certSource : Option CertMode
  /-- no daemon is running, and the address is free -/
  vacant : Bool
  deriving DecidableEq, Repr

section
variable (dataDir : String) (settings : Settings)

/-- The settings that hold. -/
def effectiveConfig (bindOverride : Option String) : Option EffectiveConfig :=
  if settings.refused then none
  else some (resolve dataDir bindOverride settings.muxrdBind settings.file)

/-- The advertised names, as texts. -/
def envExtraSans : List String := (SanEntry.fromEnv settings.muxrdSan).map SanEntry.display

/-- The form of the panel, once it has loaded the settings. -/
def loadedConfig (s : AppState) (reachableIps : List (BitVec 32)) : ConfigState :=
  match effectiveConfig dataDir settings none with
  | none => s.config
  | some cfg =>
    (Config.onConfigLoaded s ⟨cfg.bindAddr, cfg.certDir, reachableIps,
      envExtraSans settings⟩).1.config

variable (disk : String → Dir)

/-- The names in the sidecar, as texts. -/
def persistedExtraSans : List String :=
  match effectiveConfig dataDir settings none with
  | none => []
  | some cfg => (readSanSidecar (disk cfg.certDir)).map SanEntry.display

/-- The arguments of a start. -/
def buildDaemonArgs (bindAddr : String) (extraSans : List String) (default : String) :
    List String :=
  ["start", "--daemonize"] ++ (if bindAddr ≠ default then ["--bind", bindAddr] else []) ++
    extraSans.flatMap fun san => ["--san", san]

/-- The arguments that the panel starts the daemon with. -/
def startDaemonArgs : List String :=
  match effectiveConfig dataDir settings none with
  | some cfg => buildDaemonArgs cfg.bindAddr (persistedExtraSans dataDir settings disk) defaultBind
  | none => buildDaemonArgs defaultBind [] defaultBind

variable (machine : Machine) (parseArgs : List String → Option (Option String × List String))

/-- The names that a start asks for, if it gets as far as its certificate. -/
def cmdStart (args : List String) : Option (List SanEntry) :=
  (parseArgs args).bind fun (bindOverride, cliSans) =>
    if !machine.usable then none
    else (effectiveConfig dataDir settings bindOverride).bind fun cfg =>
      if (parseWith readSocketAddr cfg.bindAddr.toList).isNone then none
      else if machine.certSource ≠ some .selfSigned || !machine.vacant then none
      else some (collectSans cliSans settings.muxrdSan cfg.bindAddr)

/-- The names that the panel's start asks for. -/
def startDaemon : Option (List SanEntry) :=
  cmdStart dataDir settings machine parseArgs (startDaemonArgs dataDir settings disk)

/-- A start, with the key that it draws if it generates a certificate. -/
def restart (key : ℕ) : String → Dir :=
  match startDaemon dataDir settings disk machine parseArgs with
  | none => disk
  | some sans =>
    Function.update disk dataDir (loadOrGenerateIdentity (disk dataDir) key sans).1

end

/-! ### Earlier calls -/

/-- Who has asked for a certificate, and for which names. -/
inductive Request
  | panel (config : ConfigState)
  | daemon (cliSans : List String) (muxrdSan : Option String) (bindAddr : String)
  deriving DecidableEq, Repr

def Request.sans : Request → List SanEntry
  | .panel config => requested config
  | .daemon cliSans muxrdSan bindAddr => collectSans cliSans muxrdSan bindAddr

/-- A call that has loaded or generated a certificate; a generation may have ended after some of its
writes. -/
structure Call where
  request : Request
  key : ℕ
  writes : ℕ
  deriving DecidableEq, Repr

def call (dir : Dir) (c : Call) : Dir :=
  if dir.covers c.request.sans then dir
  else partlyGenerated dir c.key c.request.sans c.writes

/-- No certificate. -/
def noCert : Dir := ⟨.absent, .absent, .absent⟩

/-- What the sidecar lists is read back from its text. -/
def Written (dir : Dir) : Prop := ∀ e ∈ readSanSidecar dir, e.Written

theorem Request.written {r : Request} {e : SanEntry} (h : e ∈ r.sans) : e.Written := by
  unfold Request.sans at h
  cases r with
  | panel config => exact written_of_mem_requested h
  | daemon cliSans muxrdSan bindAddr => exact SanEntry.written_of_mem_collectSans h

/-- **What the sidecar lists is read back, whatever calls have been made.** -/
theorem written_calls (calls : List Call) {dir : Dir} (h : Written dir) :
    Written (calls.foldl call dir) := by
  induction calls generalizing dir with
  | nil => exact h
  | cons c calls ih =>
    refine ih ?_
    unfold call
    split_ifs
    · exact h
    · unfold Written partlyGenerated readSanSidecar
      dsimp only
      split_ifs
      · exact fun e he => c.request.written he
      · exact h

/-! ### The names that the panel does not have -/

/-- A wildcard address. -/
def isWildcard : SanEntry → Bool
  | .ip ip => ip.isUnspecified
  | .dns _ => false

/-- The host of a bind address. -/
def bindHost (bindAddr : String) : String := ((rsplitOnce bindAddr ':').map (·.1)).getD bindAddr

/-- There are brackets around the host. -/
def bracketed (bindAddr : String) : Bool :=
  trimMatches isBracket (bindHost bindAddr).toList ≠ (bindHost bindAddr).toList

/-- The names that a daemon adds and the panel does not have. -/
def leftOut (muxrdSan : Option String) (reachableIps : List (BitVec 32)) (bindAddr : String) :
    List SanEntry :=
  (SanEntry.fromEnv muxrdSan).filter isWildcard ++
    match bindIp bindAddr with
    | none => []
    | some ip =>
      if bracketed bindAddr && .ip ip ∉ SanEntry.fromEnv muxrdSan &&
          ip ∉ reachableIps.map IpAddr.v4 then [.ip ip]
      else []

theorem applyBindAddr_host (c : ConfigState) (addr : String) :
    (c.applyBindAddr addr).host = bindHost addr := by
  unfold ConfigState.applyBindAddr bindHost
  cases rsplitOnce addr ':' with
  | none => rfl
  | some parts => rfl

theorem bindIp_eq_some_iff {bindAddr : String} {ip : IpAddr} : bindIp bindAddr = some ip ↔
    (rsplitOnce bindAddr ':').isSome ∧
      IpAddr.parse (String.ofList (trimMatches isBracket (bindHost bindAddr).toList)) = some ip ∧
        ip.isLoopback = false ∧ ip.isUnspecified = false := by
  unfold bindIp bindHost
  cases rsplitOnce bindAddr ':' with
  | none => simp
  | some parts => simp [Option.filter_eq_some_iff]

theorem parse_empty : IpAddr.parse "" = none := by
  rw [IpAddr.parse_eq]
  rfl

/-- A name in the variable is not blank. -/
theorem trim_display_ne {muxrdSan : Option String} {e : SanEntry}
    (h : e ∈ SanEntry.fromEnv muxrdSan) : trim e.display ≠ "" := by
  obtain ⟨s, hs, rfl⟩ := List.mem_map.mp h
  obtain ⟨hs, hne⟩ := List.mem_filter.mp hs
  obtain ⟨t, -, rfl⟩ := List.mem_map.mp hs
  cases hp : IpAddr.parse (trim (trim (String.ofList t))) with
  | none =>
    rw [SanEntry.parse_of_none hp, SanEntry.display, trim_trim, trim_trim]
    simpa using hne
  | some ip =>
    have hd := parse_display ip
    rw [SanEntry.parse_of_some hp, SanEntry.display, trim_of_parse hd]
    intro he
    rw [he, parse_empty] at hd
    cases hd

/-- A name in the variable is one that the panel takes, unless it is a wildcard. -/
theorem taken_display {muxrdSan : Option String} {e : SanEntry}
    (h : e ∈ SanEntry.fromEnv muxrdSan) (hw : isWildcard e = false) : Taken e.display := by
  refine ⟨trim_display_ne h, fun ip hip => ?_⟩
  have hwr : SanEntry.parse e.display = e := SanEntry.written_of_mem_fromEnv h
  rw [SanEntry.parse_of_some hip] at hwr
  subst hwr
  exact hw

variable {config : ConfigState} {e : SanEntry}

/-- The panel takes no wildcard. -/
theorem isWildcard_of_mem_requested (h : e ∈ requested config) : isWildcard e = false := by
  have htaken : ∀ text, Taken text → isWildcard (SanEntry.parse text) = false := by
    intro text ht
    cases hp : IpAddr.parse (trim text) with
    | none => rw [SanEntry.parse_of_none hp]; rfl
    | some ip => rw [SanEntry.parse_of_some hp]; exact ht.2 ip hp
  rcases mem_requested.mp h with ⟨ip, -, hu, rfl⟩ | ⟨ht, rfl⟩ | ⟨text, -, ht, rfl⟩
  · exact hu
  · exact htaken _ ht
  · exact htaken _ ht

/-- A host with brackets around an address is none for the panel. -/
theorem parse_trim_of_bracketed {host : String} {ip : IpAddr}
    (hip : IpAddr.parse (String.ofList (trimMatches isBracket host.toList)) = some ip)
    (hb : trimMatches isBracket host.toList ≠ host.toList) :
    trim host = host ∧ IpAddr.parse host = none := by
  have hchar := isAddrChar_of_parse_eq_some hip
  rw [String.toList_ofList] at hchar
  have hws : ∀ c ∈ host.toList, isWhiteSpace c = false := fun c hc => by
    rcases mem_trimMatches_or (p := isBracket) hc with h | h
    · simp only [isBracket, Bool.or_eq_true, decide_eq_true_eq] at h
      rcases h with rfl | rfl <;> rfl
    · exact isWhiteSpace_of_isAddrChar (hchar c h)
  refine ⟨?_, ?_⟩
  · rw [trim, trimMatches_of_trimmed ⟨fun c hc => hws c (List.mem_of_mem_head? hc),
      fun c hc => hws c (List.mem_of_mem_getLast? hc)⟩, String.ofList_toList]
  · by_contra hne
    obtain ⟨ip', hip'⟩ := Option.ne_none_iff_exists'.mp hne
    exact hb (trimMatches_of_trimmed
      (trimmed_of_parse hip' fun c hc => isBracket_of_isAddrChar hc))

variable {muxrdSan : Option String} {reachableIps : List (BitVec 32)} {bindAddr : String}

/-- A name in the variable is left out exactly if the panel does not have it. -/
theorem mem_leftOut_of_fromEnv (hsans : config.advertiseSans =
      (SanEntry.fromEnv muxrdSan).map SanEntry.display) (h : e ∈ SanEntry.fromEnv muxrdSan) :
    e ∈ leftOut muxrdSan reachableIps bindAddr ↔ e ∉ requested config := by
  unfold leftOut
  rw [List.mem_append, List.mem_filter]
  constructor
  · rintro (⟨-, hw⟩ | hb) hreq
    · rw [isWildcard_of_mem_requested hreq] at hw
      cases hw
    · split at hb
      · cases hb
      next ip _ =>
        split_ifs at hb with hcond
        · rw [List.mem_singleton.mp hb] at h
          simp [h] at hcond
        · cases hb
  · intro hreq
    refine .inl ⟨h, ?_⟩
    by_contra hw
    rw [Bool.not_eq_true] at hw
    refine hreq (mem_requested.mpr (.inr (.inr ⟨e.display, ?_, taken_display h hw, ?_⟩)))
    · rw [hsans]
      exact List.mem_map_of_mem h
    · exact (SanEntry.written_of_mem_fromEnv h).symm

/-- The address that is bound to is left out exactly if the panel does not have it. -/
theorem mem_leftOut_of_bindIp (hsans : config.advertiseSans =
      (SanEntry.fromEnv muxrdSan).map SanEntry.display) (hhost : config.host = bindHost bindAddr)
    (hips : config.reachableIps = reachableIps) {ip : IpAddr} (hip : bindIp bindAddr = some ip) :
    .ip ip ∈ leftOut muxrdSan reachableIps bindAddr ↔ .ip ip ∉ requested config := by
  by_cases henv : .ip ip ∈ SanEntry.fromEnv muxrdSan
  · exact mem_leftOut_of_fromEnv hsans henv
  obtain ⟨-, hparse, -, hu⟩ := bindIp_eq_some_iff.mp hip
  unfold leftOut
  rw [hip, List.mem_append, List.mem_filter]
  dsimp only
  by_cases hreach : ip ∈ reachableIps.map IpAddr.v4
  · have hreq : .ip ip ∈ requested config := by
      obtain ⟨v4, hv4, rfl⟩ := List.mem_map.mp hreach
      exact mem_requested.mpr (.inl ⟨v4, hips ▸ hv4, hu, rfl⟩)
    simp [henv, hreach, hreq]
  by_cases hb : bracketed bindAddr = true
  · have hreq : .ip ip ∉ requested config := by
      obtain ⟨htrim, hnone⟩ := parse_trim_of_bracketed hparse (of_decide_eq_true hb)
      intro hreq
      rcases mem_requested.mp hreq with ⟨v4, hv4, -, he⟩ | ⟨-, he⟩ | ⟨text, htext, -, he⟩
      · cases he
        exact hreach (List.mem_map_of_mem (hips ▸ hv4))
      · rw [hhost, SanEntry.parse_of_none (by rw [htrim, hnone])] at he
        cases he
      · rw [hsans] at htext
        obtain ⟨e', he', rfl⟩ := List.mem_map.mp htext
        rw [SanEntry.written_of_mem_fromEnv he'] at he
        exact henv (he ▸ he')
    simp [henv, hreach, hb, hreq]
  · have hplain : trimMatches isBracket (bindHost bindAddr).toList = (bindHost bindAddr).toList := by
      simpa [bracketed] using hb
    rw [hplain, String.ofList_toList] at hparse
    have htrim := trim_of_parse hparse
    have hreq : .ip ip ∈ requested config := by
      refine mem_requested.mpr (.inr (.inl ⟨⟨?_, fun ip' hip' => ?_⟩, ?_⟩))
      · rw [hhost, htrim]
        intro he
        rw [he, parse_empty] at hparse
        cases hparse
      · rw [hhost, htrim, hparse] at hip'
        cases hip'
        exact hu
      · rw [hhost, SanEntry.parse_of_some (by rw [htrim, hparse])]
    simp [henv, hb, hreq]

/-- What a daemon adds to the names of the command line. -/
def Added (muxrdSan : Option String) (bindAddr : String) (e : SanEntry) : Prop :=
  e ∈ SanEntry.fromEnv muxrdSan ∨ ∃ ip, bindIp bindAddr = some ip ∧ e = .ip ip

theorem added_of_mem_leftOut (h : e ∈ leftOut muxrdSan reachableIps bindAddr) :
    Added muxrdSan bindAddr e := by
  unfold leftOut at h
  rcases List.mem_append.mp h with h | h
  · exact .inl (List.mem_of_mem_filter h)
  · split at h
    · cases h
    next ip hip =>
      split_ifs at h
      · exact .inr ⟨ip, hip, List.mem_singleton.mp h⟩
      · cases h

/-- A sidecar covers its own names, whatever they are; what counts are those that are added. -/
theorem covers_iff {dir : Dir} (h : Written dir) :
    sidecarCovers (readSanSidecar dir)
        (collectSans ((readSanSidecar dir).map SanEntry.display) muxrdSan bindAddr) = true ↔
      ∀ e, Added muxrdSan bindAddr e → e ∈ readSanSidecar dir := by
  rw [sidecarCovers_iff]
  constructor
  · exact fun hcov e he => hcov e (mem_collectSans.mpr (.inr he))
  · intro hadd e he
    rcases mem_collectSans.mp he with he | he
    · obtain ⟨text, htext, rfl⟩ := List.mem_map.mp he
      obtain ⟨e', he', rfl⟩ := List.mem_map.mp htext
      rw [h e' he']
      exact he'
    · exact hadd e he

/-! ### Starts -/

section
variable {dataDir : String} {settings : Settings} {disk : String → Dir} {machine : Machine}
  {parseArgs : List String → Option (Option String × List String)}

/-- The arguments of a start are read back, unless they are refused. -/
def ReadsBack (parseArgs : List String → Option (Option String × List String)) : Prop :=
  ∀ bindAddr extraSans parsed,
    parseArgs (buildDaemonArgs bindAddr extraSans defaultBind) = some parsed →
      parsed = (if bindAddr ≠ defaultBind then some bindAddr else none, extraSans)

/-- The bind address that the settings give. -/
abbrev bindAddrOf (dataDir : String) (settings : Settings) : String :=
  (resolve dataDir none settings.muxrdBind settings.file).bindAddr

/-- **The names that a start asks for**: those of the sidecar, and what the daemon adds. -/
theorem startDaemon_eq (hargs : ReadsBack parseArgs) (hdefault : settings.file.certDir = none)
    {sans : List SanEntry} (h : startDaemon dataDir settings disk machine parseArgs = some sans) :
    settings.refused = false ∧
      sans = collectSans ((readSanSidecar (disk dataDir)).map SanEntry.display) settings.muxrdSan
        (bindAddrOf dataDir settings) := by
  obtain ⟨⟨bindOverride, cliSans⟩, hparse, h⟩ := Option.bind_eq_some_iff.mp h
  dsimp only at h
  rw [Option.ite_none_left_eq_some] at h
  obtain ⟨cfg, hcfg, h⟩ := Option.bind_eq_some_iff.mp h.2
  rw [Option.ite_none_left_eq_some, Option.ite_none_left_eq_some] at h
  obtain rfl := Option.some.inj h.2.2
  unfold effectiveConfig at hcfg
  split_ifs at hcfg with hrefused
  obtain rfl := Option.some.inj hcfg
  have hnone : effectiveConfig dataDir settings none =
      some (resolve dataDir none settings.muxrdBind settings.file) := if_neg hrefused
  rw [startDaemonArgs, persistedExtraSans, hnone] at hparse
  dsimp only at hparse
  have hparsed := hargs _ _ _ hparse
  rw [Prod.mk.injEq] at hparsed
  obtain ⟨rfl, rfl⟩ := hparsed
  refine ⟨by simpa using hrefused, ?_⟩
  have hbind : (resolve dataDir (if bindAddrOf dataDir settings ≠ defaultBind then
      some (bindAddrOf dataDir settings) else none) settings.muxrdBind settings.file).bindAddr =
        bindAddrOf dataDir settings := by
    split_ifs with hb
    · simp [resolve]
    · rfl
  rw [hbind]
  simp [resolve, hdefault]

/-- The starts of the panel, one after another, with the keys that they draw. -/
def restarts (dataDir : String) (settings : Settings) (machine : Machine)
    (parseArgs : List String → Option (Option String × List String)) (disk : String → Dir)
    (keys : List ℕ) : String → Dir :=
  keys.foldl (fun disk => restart dataDir settings disk machine parseArgs) disk

/-- Whatever starts there are: the certificate and its key stay, and a start asks for what the
sidecar covers. -/
def Keeps (dataDir : String) (settings : Settings) (machine : Machine)
    (parseArgs : List String → Option (Option String × List String)) (disk : String → Dir) : Prop :=
  ∀ keys sans, (restarts dataDir settings machine parseArgs disk keys dataDir).cert =
      (disk dataDir).cert ∧
    (restarts dataDir settings machine parseArgs disk keys dataDir).key = (disk dataDir).key ∧
    (startDaemon dataDir settings (restarts dataDir settings machine parseArgs disk keys) machine
        parseArgs = some sans →
      sidecarCovers
        (readSanSidecar (restarts dataDir settings machine parseArgs disk keys dataDir)) sans = true)

/-- The panel's certificate is loaded or generated. -/
def ensureCert (dataDir : String) (disk : String → Dir) (key : ℕ) (config : ConfigState) :
    String → Dir :=
  Function.update disk dataDir (loadOrGenerateIdentity (disk dataDir) key (requested config)).1

/-- A start that asks for what is covered changes nothing. -/
theorem restart_of_covers (hfiles : (disk dataDir).cert.exists && (disk dataDir).key.exists)
    (hcov : ∀ sans, startDaemon dataDir settings disk machine parseArgs = some sans →
      sidecarCovers (readSanSidecar (disk dataDir)) sans = true) (key : ℕ) :
    restart dataDir settings disk machine parseArgs key = disk := by
  unfold restart
  cases hs : startDaemon dataDir settings disk machine parseArgs with
  | none => rfl
  | some sans =>
    have : (disk dataDir).covers sans = true := by
      rw [Dir.covers, hfiles, hcov sans hs]
      rfl
    dsimp only
    rw [loadOrGenerateIdentity_of_covers this, Function.update_eq_self]

/-- **The first start decides.** -/
theorem keeps_iff_first (hfiles : (disk dataDir).cert.exists && (disk dataDir).key.exists) :
    Keeps dataDir settings machine parseArgs disk ↔
      ∀ sans, startDaemon dataDir settings disk machine parseArgs = some sans →
        sidecarCovers (readSanSidecar (disk dataDir)) sans = true := by
  constructor
  · exact fun h sans => (h [] sans).2.2
  · intro h keys sans
    have hsame : restarts dataDir settings machine parseArgs disk keys = disk := by
      induction keys with
      | nil => rfl
      | cons key keys ih =>
        rw [restarts, List.foldl_cons, restart_of_covers hfiles h key]
        exact ih
    rw [hsame]
    exact ⟨rfl, rfl, h sans⟩

/-- After the panel has made its certificate there is one, and its sidecar covers the panel's
names. -/
theorem ensureCert_spec (key : ℕ) (config : ConfigState) :
    ((ensureCert dataDir disk key config dataDir).cert.exists &&
        (ensureCert dataDir disk key config dataDir).key.exists) = true ∧
      readSanSidecar (ensureCert dataDir disk key config dataDir) =
        if (disk dataDir).covers (requested config) then readSanSidecar (disk dataDir)
        else requested config := by
  unfold ensureCert
  rw [Function.update_self, loadOrGenerateIdentity]
  split_ifs with h
  · unfold Dir.covers at h
    rw [Bool.and_eq_true] at h
    exact ⟨h.1, rfl⟩
  · exact ⟨rfl, rfl⟩

/-- What the panel has loaded. -/
theorem loadedConfig_spec (hrefused : settings.refused = false) (s : AppState)
    (reachableIps : List (BitVec 32)) :
    (loadedConfig dataDir settings s reachableIps).host = bindHost (bindAddrOf dataDir settings) ∧
      (loadedConfig dataDir settings s reachableIps).reachableIps = reachableIps ∧
      (loadedConfig dataDir settings s reachableIps).advertiseSans =
        (SanEntry.fromEnv settings.muxrdSan).map SanEntry.display := by
  have hcfg : effectiveConfig dataDir settings none =
      some (resolve dataDir none settings.muxrdBind settings.file) := by
    simp [effectiveConfig, hrefused]
  rw [← applyBindAddr_host s.config]
  simp only [loadedConfig, hcfg, Config.onConfigLoaded, AppState.setConfig, envExtraSans, and_self]

/-- **A start keeps the certificate of the panel exactly if the names that the panel does not have
were in the sidecar already.** -/
theorem keeps_certificate_iff (hargs : ReadsBack parseArgs)
    (hdefault : settings.file.certDir = none)
    (calls : List Call) (hcalls : disk dataDir = calls.foldl call noCert) (s : AppState)
    (reachableIps : List (BitVec 32)) (key : ℕ) :
    Keeps dataDir settings machine parseArgs
        (ensureCert dataDir disk key (loadedConfig dataDir settings s reachableIps)) ↔
      ((startDaemon dataDir settings
          (ensureCert dataDir disk key (loadedConfig dataDir settings s reachableIps)) machine
          parseArgs).isSome = true →
        ∀ e ∈ leftOut settings.muxrdSan reachableIps (bindAddrOf dataDir settings),
          (disk dataDir).covers (requested (loadedConfig dataDir settings s reachableIps)) = true ∧
            e ∈ readSanSidecar (disk dataDir)) := by
  set config := loadedConfig dataDir settings s reachableIps with hconfig
  obtain ⟨hfiles, hsidecar⟩ := @ensureCert_spec dataDir disk key config
  rw [keeps_iff_first hfiles]
  cases hstart : startDaemon dataDir settings (ensureCert dataDir disk key config) machine
      parseArgs with
  | none => simp
  | some sans =>
    obtain ⟨hrefused, hsans⟩ := startDaemon_eq hargs hdefault hstart
    obtain ⟨hhost, hips, hadv⟩ := @loadedConfig_spec dataDir _ hrefused s reachableIps
    rw [← hconfig] at hhost hips hadv
    rw [hsans]
    have hwritten : Written (ensureCert dataDir disk key config dataDir) := by
      unfold Written
      rw [hsidecar]
      split_ifs
      · exact hcalls ▸ written_calls calls fun e he => absurd he (List.not_mem_nil)
      · exact fun e he => written_of_mem_requested he
    have hlost : ∀ e, Added settings.muxrdSan (bindAddrOf dataDir settings) e →
        (e ∈ leftOut settings.muxrdSan reachableIps (bindAddrOf dataDir settings) ↔
          e ∉ requested config) := by
      rintro e (he | ⟨ip, hip, rfl⟩)
      · exact mem_leftOut_of_fromEnv hadv he
      · exact mem_leftOut_of_bindIp hadv hhost hips hip
    simp only [Option.some.injEq, forall_eq', Option.isSome_some, true_implies]
    rw [covers_iff hwritten, hsidecar]
    split_ifs with hcov
    · have hall := sidecarCovers_iff.mp ((Bool.and_eq_true _ _).mp hcov).2
      refine ⟨fun h e he => ⟨hcov, h e (added_of_mem_leftOut he)⟩, fun h e he => ?_⟩
      by_cases hreq : e ∈ requested config
      · exact hall e hreq
      · exact (h e ((hlost e he).mpr hreq)).2
    · refine ⟨fun h e he => ?_, fun h e he => ?_⟩
      · have hadded := added_of_mem_leftOut he
        exact absurd (h e hadded) ((hlost e hadded).mp he)
      · by_contra hreq
        exact hcov (h e ((hlost e he).mpr hreq)).1

end

/-! ### Two starts -/

/-- The options of a start; a value does not look like an option. -/
def parseOptions : List String → Option (Option String × List String)
  | [] => some (none, [])
  | option :: value :: rest =>
    if value.toList.head? = some '-' then none
    else if option = "--bind" then (parseOptions rest).map fun (_, sans) => (some value, sans)
    else if option = "--san" then (parseOptions rest).map fun (bind, sans) => (bind, value :: sans)
    else none
  | _ => none

/-- The arguments of a start. -/
def parseStart (args : List String) : Option (Option String × List String) :=
  parseOptions (args.drop 2)

theorem parseOptions_sans {extraSans : List String} {parsed : Option String × List String}
    (h : parseOptions (extraSans.flatMap fun san => ["--san", san]) = some parsed) :
    parsed = (none, extraSans) := by
  induction extraSans generalizing parsed with
  | nil =>
    cases h
    rfl
  | cons san extraSans ih =>
    simp only [List.flatMap_cons, List.cons_append, List.nil_append, parseOptions] at h
    rw [Option.ite_none_left_eq_some, if_neg (by decide), if_pos trivial] at h
    obtain ⟨parsed', h', rfl⟩ := Option.map_eq_some_iff.mp h.2
    rw [ih h']

theorem readsBack_parseStart : ReadsBack parseStart := by
  intro bindAddr extraSans parsed h
  unfold parseStart buildDaemonArgs at h
  split_ifs at h ⊢ with hb
  · simp only [List.cons_append, List.nil_append, List.drop_succ_cons, List.drop_zero,
      parseOptions] at h
    rw [Option.ite_none_left_eq_some, if_pos trivial] at h
    obtain ⟨parsed', h', rfl⟩ := Option.map_eq_some_iff.mp h.2
    rw [parseOptions_sans h']
  · exact parseOptions_sans h

/-- Settings with a bind address and names in the variable. -/
def settingsOf (muxrdBind muxrdSan : String) : Settings :=
  ⟨⟨none, none⟩, some muxrdBind, some muxrdSan, false⟩

/-- A machine on which a start goes through. -/
def ready : Machine := ⟨true, some .selfSigned, true⟩

/-- The certificate for an address of version 4 and two advertised names is kept. -/
theorem keeps_iff_lan : Keeps "data" (settingsOf "192.168.1.5:50051" "100.64.0.7, host.local") ready
    parseStart (ensureCert "data" (fun _ => noCert) 0 (loadedConfig "data"
      (settingsOf "192.168.1.5:50051" "100.64.0.7, host.local") {} [0xc0a80105])) := by
  refine (keeps_certificate_iff readsBack_parseStart rfl [] rfl {} [0xc0a80105] 0).mpr
    fun _ e he => ?_
  have hnone : leftOut (some "100.64.0.7, host.local") [0xc0a80105] "192.168.1.5:50051" = [] := by
    decide +kernel
  exact absurd (hnone ▸ he : e ∈ []) (List.not_mem_nil)

/-- The certificate for an address of version 6 is replaced at the first start: the panel has read
the address with its brackets. -/
theorem bracketed_replaced : ¬ Keeps "data" (settingsOf "[fd00::1]:50051" "") ready parseStart
    (ensureCert "data" (fun _ => noCert) 0
      (loadedConfig "data" (settingsOf "[fd00::1]:50051" "") {} [])) := by
  intro h
  have hstart := (h [] [.dns "[fd00::1]", .ip (.v6 0xfd000000000000000000000000000001)]).2.2
    (by decide +kernel)
  revert hstart
  decide +kernel

end MuxrCore.Muxrctl.Restart
