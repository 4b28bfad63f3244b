import MuxrCore.Lib.SocketAddress
import MuxrCore.Muxrctl.Restart

/-! # The bind address

The form checks its host and its port without the white space around them, and saves both as they
are. A start of the daemon wants a socket address.

* `loaded_form`: what is loaded is what was saved.
* `round_trips_iff`: a start binds what the form denotes if and only if the settings are not refused,
  the host is the text of an address, with brackets around one of version 6, and the port is digits.
  -/

namespace MuxrCore.Muxrctl.Bind

open MuxrCore.Lib.Address MuxrCore.Lib.Text MuxrCore.Muxrctl.Restart MuxrCore.Tls.Identity
open MuxrCore.Pairing.Qr (parsePort parsePort_of_digits resolve EffectiveConfig)

/-- The settings once an address is saved; the file keeps what else is in it. -/
def setBindAddr (settings : Settings) (bindAddr : String) : Settings :=
  { settings with file := { settings.file with bindAddr := some bindAddr } }

/-- The socket address that a start binds. -/
def startAddr (dataDir : String) (settings : Settings) : Option ((BitVec 32 ⊕ BitVec 128) × ℕ) :=
  (effectiveConfig dataDir settings none).bind fun cfg =>
    parseWith readSocketAddr cfg.bindAddr.toList

/-! ### What a form denotes -/

/-- The address that a host is the text of; around one of version 6 there may be brackets. -/
def hostAddr (host : List Char) : Option (BitVec 32 ⊕ BitVec 128) :=
  (parseWith readIpAddr host).or ((parseWith readBracketed host).map .inr)

/-- The socket address that a form denotes, without the white space around its fields. -/
def denoted (c : ConfigState) : Option ((BitVec 32 ⊕ BitVec 128) × ℕ) :=
  (hostAddr (trim c.host).toList).bind fun ip =>
    (parsePort (trim c.port).toList).map fun port => (ip, port)

/-- The form is accepted, and its address is saved. -/
def Accepts (s : AppState) : Prop := (Config.save s).2 = [.saveBind s.config.bindAddr]

/-- The form is refused, with an error in it. -/
def Refuses (s : AppState) : Prop :=
  (Config.save s).2 = [] ∧ (Config.save s).1.config.error.isSome = true

/-- The saved address is bound, and loaded back. -/
structure RoundTrips (dataDir : String) (settings : Settings) (s : AppState)
    (addr : (BitVec 32 ⊕ BitVec 128) × ℕ) : Prop where
  denotes : denoted s.config = some addr
  binds : startAddr dataDir (setBindAddr settings s.config.bindAddr) = some addr
  /-- whatever the panel is doing when it loads the settings -/
  reloads : ∀ (t : AppState) (reachableIps : List (BitVec 32)),
    let form := loadedConfig dataDir (setBindAddr settings s.config.bindAddr) t reachableIps
    Accepts (t.setConfig form) ∧ denoted form = some addr

/-- The fields are written as a start reads them. -/
structure Strict (c : ConfigState) : Prop where
  host : (parseBindHost c.host.toList).isSome = true
  port : ∀ ch ∈ c.port.toList, isDigit 10 ch = true

/-! ### Saving -/

theorem accepts_iff {s : AppState} : Accepts s ↔
    s.config.loading = false ∧ trim s.config.host ≠ "" ∧ Config.validPort s.config.port = true := by
  unfold Accepts Config.save
  split_ifs with hl hh hp
  · simp [hl]
  · simp [hh]
  · simp_all
  · simp_all

/-- A form is accepted, or it is refused with an error. -/
theorem accepts_or_refuses {s : AppState} (h : s.config.loading = false) :
    Accepts s ∨ Refuses s := by
  unfold Accepts Refuses Config.save
  rw [if_neg (by simp [h])]
  split_ifs
  · exact .inr ⟨rfl, rfl⟩
  · exact .inr ⟨rfl, rfl⟩
  · exact .inl rfl

theorem toList_bindAddr (c : ConfigState) :
    c.bindAddr.toList = c.host.toList ++ ':' :: c.port.toList := by
  have htext : ∀ s : String, toString s = s := fun _ => rfl
  simp [ConfigState.bindAddr, htext]

/-- A port is digits, after an optional plus sign. -/
theorem isDigit_of_parsePort {text : List Char} {n : ℕ} (h : parsePort text = some n) {c : Char}
    (hc : c ∈ text) : c = '+' ∨ c.isDigit = true := by
  have hall : ∀ digits : List Char, ¬(digits.isEmpty || !digits.all (·.isDigit)) = true →
      ∀ c ∈ digits, c.isDigit = true := fun digits hd => by
    rw [Bool.or_eq_true, Bool.not_eq_true', not_or, Bool.not_eq_false] at hd
    exact List.all_eq_true.mp hd.2
  unfold parsePort at h
  by_cases hplus : text.head? = some '+'
  · rw [if_pos hplus] at h
    dsimp only at h
    obtain ⟨t, rfl⟩ := List.head?_eq_some_iff.mp hplus
    split_ifs at h with hd hlt
    rcases List.mem_cons.mp hc with rfl | hc
    · exact .inl rfl
    · exact .inr (hall _ hd c hc)
  · rw [if_neg hplus] at h
    dsimp only at h
    split_ifs at h with hd hlt
    exact .inr (hall _ hd c hc)

/-- There is no colon in a port. -/
theorem notMem_of_validPort {port : String} (h : Config.validPort port = true) :
    ':' ∉ port.toList := by
  intro hc
  obtain ⟨n, hn, -⟩ := (Option.any_eq_true _ _).mp h
  rcases mem_trimMatches_or (p := isWhiteSpace) hc with hw | hc
  · exact absurd hw (by decide)
  · rw [trim, String.toList_ofList] at hn
    rcases isDigit_of_parsePort hn hc with h | h
    · exact absurd h (by decide)
    · exact absurd h (by decide)

/-- The saved address is the one that holds. -/
theorem effectiveConfig_setBindAddr {dataDir : String} {settings : Settings}
    (henv : settings.muxrdBind = none) (hload : settings.refused = false) (bindAddr : String) :
    effectiveConfig dataDir (setBindAddr settings bindAddr) none =
      some ⟨bindAddr, settings.file.certDir.getD dataDir⟩ := by
  unfold effectiveConfig setBindAddr resolve
  rw [if_neg (by simp [hload]), henv]
  rfl

/-- A start that binds has settings that are not refused. -/
theorem not_refused_of_startAddr {dataDir bindAddr : String} {settings : Settings}
    {addr : (BitVec 32 ⊕ BitVec 128) × ℕ}
    (h : startAddr dataDir (setBindAddr settings bindAddr) = some addr) :
    settings.refused = false := by
  obtain ⟨cfg, hcfg, -⟩ := Option.bind_eq_some_iff.mp h
  unfold effectiveConfig at hcfg
  split_ifs at hcfg with hrefused
  exact Bool.eq_false_iff.mpr hrefused

/-- **What is loaded is what was saved.** -/
theorem loaded_form {dataDir : String} {settings : Settings} (henv : settings.muxrdBind = none)
    (hload : settings.refused = false) {c : ConfigState} (hport : ':' ∉ c.port.toList)
    (t : AppState) (reachableIps : List (BitVec 32)) :
    (loadedConfig dataDir (setBindAddr settings c.bindAddr) t reachableIps).host = c.host ∧
      (loadedConfig dataDir (setBindAddr settings c.bindAddr) t reachableIps).port = c.port ∧
      (loadedConfig dataDir (setBindAddr settings c.bindAddr) t reachableIps).loading = false := by
  have hsplit : rsplitOnce c.bindAddr ':' = some (c.host, c.port) :=
    rsplitOnce_eq_some_iff.mpr ⟨hport, toList_bindAddr c⟩
  unfold loadedConfig
  rw [effectiveConfig_setBindAddr henv hload]
  simp only [Config.onConfigLoaded, AppState.setConfig, ConfigState.applyBindAddr, hsplit, and_self]

/-! ### Forms that are read as they are written -/

/-- A host that a start can read is the text of an address of version 4, or in brackets. -/
theorem parseBindHost_cases {host : List Char} {ip : BitVec 32 ⊕ BitVec 128}
    (h : parseBindHost host = some ip) :
    (∃ v, parseWith readIpv4 host = some v ∧ ip = .inl v) ∨
      ∃ v inner, parseWith readBracketed host = some v ∧ ip = .inr v ∧
        host = '[' :: inner ++ [']'] := by
  rcases Option.or_eq_some_iff.mp h with h | ⟨-, h⟩
  · obtain ⟨v, hv, rfl⟩ := Option.map_eq_some_iff.mp h
    exact .inl ⟨v, hv, rfl⟩
  · obtain ⟨v, hv, rfl⟩ := Option.map_eq_some_iff.mp h
    obtain ⟨p, scope, rfl, -⟩ := readBracketed_eq_some_iff.mp (parseWith_eq_some_iff.mp hv)
    exact .inr ⟨v, p ++ scope, hv, rfl, by simp⟩

/-- There is no white space around such a host. -/
theorem trim_host {host : String} {ip : BitVec 32 ⊕ BitVec 128}
    (h : parseBindHost host.toList = some ip) : trim host = host := by
  have htrimmed : Trimmed isWhiteSpace host.toList := by
    rcases parseBindHost_cases h with ⟨v, hv, -⟩ | ⟨v, inner, -, -, hinner⟩
    · obtain ⟨p, hp, hchars⟩ := consumes_readIpv4 _ _ _ (parseWith_eq_some_iff.mp hv)
      rw [List.append_nil] at hp
      have hw : ∀ c ∈ host.toList, isWhiteSpace c = false := fun c hc =>
        isWhiteSpace_of_isAddrChar (hchars c (hp ▸ hc))
      exact ⟨fun c hc => hw c (List.mem_of_mem_head? hc),
        fun c hc => hw c (List.mem_of_mem_getLast? hc)⟩
    · rw [hinner]
      refine ⟨fun c hc => ?_, fun c hc => ?_⟩
      · cases hc
        rfl
      · rw [List.getLast?_concat] at hc
        cases hc
        rfl
  rw [trim, trimMatches_of_trimmed htrimmed, String.ofList_toList]

theorem hostAddr_of_parseBindHost {host : List Char} {ip : BitVec 32 ⊕ BitVec 128}
    (h : parseBindHost host = some ip) : hostAddr host = some ip := by
  rcases parseBindHost_cases h with ⟨v, hv, rfl⟩ | ⟨v, inner, hv, rfl, hinner⟩
  · have hip : parseWith readIpAddr host = some (.inl v) := by
      rw [parseWith_eq_some_iff, readIpAddr, parseWith_eq_some_iff.mp hv]
    rw [hostAddr, hip]
    rfl
  · have hip : parseWith readIpAddr host = none := by
      rcases hp : parseWith readIpAddr host with _ | v'
      · rfl
      · exact absurd (isAddrChar_of_parse hp '[' (by rw [hinner]; exact List.mem_cons_self))
          (by decide)
    rw [hostAddr, hip, hv]
    rfl

theorem trim_port {port : String} (h : ∀ c ∈ port.toList, isDigit 10 c = true) :
    trim port = port := by
  have hw : ∀ c ∈ port.toList, isWhiteSpace c = false := fun c hc => by
    refine isWhiteSpace_of_isAddrChar (.inl (decide_eq_true ?_))
    have : digitValue c < 10 := of_decide_eq_true (h c hc)
    omega
  have htrimmed : Trimmed isWhiteSpace port.toList :=
    ⟨fun c hc => hw c (List.mem_of_mem_head? hc), fun c hc => hw c (List.mem_of_mem_getLast? hc)⟩
  rw [trim, trimMatches_of_trimmed htrimmed, String.ofList_toList]

/-- A port of digits is the same to the form and to a start. -/
theorem parseNumber_of_parsePort {port : String} {n : ℕ}
    (h : ∀ c ∈ port.toList, isDigit 10 c = true) (hn : parsePort port.toList = some n) :
    parseNumber (2 ^ 16) port.toList = some n := by
  have hne : port.toList ≠ [] := by
    intro hnil
    rw [hnil] at hn
    cases hn
  rw [parsePort_of_digits hne h] at hn
  split_ifs at hn with hlt
  cases hn
  exact parseNumber_eq_some_iff.mpr ⟨hne, h, rfl, hlt⟩

/-- **When a start binds what the form denotes, and the form is loaded back.** -/
theorem round_trips_iff (dataDir : String) (settings : Settings) (s : AppState)
    (henv : settings.muxrdBind = none) (hs : Accepts s) :
    (∃ addr, RoundTrips dataDir settings s addr) ↔
      settings.refused = false ∧ Strict s.config := by
  obtain ⟨-, hhost, hport⟩ := accepts_iff.mp hs
  have hcolon := notMem_of_validPort hport
  have hstart : settings.refused = false →
      startAddr dataDir (setBindAddr settings s.config.bindAddr) =
        parseWith readSocketAddr (s.config.host.toList ++ ':' :: s.config.port.toList) := by
    intro hload
    rw [startAddr, effectiveConfig_setBindAddr henv hload, Option.bind_some, toList_bindAddr]
  constructor
  · rintro ⟨⟨ip, n⟩, h⟩
    have hload := not_refused_of_startAddr h.binds
    -- the only colon that a port follows is the one that the form has put there
    have hparse := (hstart hload).symm.trans h.binds
    obtain ⟨host, digits, he, hip, hn⟩ := parse_socketAddr_iff.mp hparse
    obtain ⟨-, hdigits, -, -⟩ := parseNumber_eq_some_iff.mp hn
    have hfree : ':' ∉ digits := fun hc => absurd (hdigits ':' hc) (by decide)
    have hform := rsplitOnce_eq_some_iff.mpr ⟨hcolon, toList_bindAddr s.config⟩
    have hread : rsplitOnce s.config.bindAddr ':' =
        some (String.ofList host, String.ofList digits) :=
      rsplitOnce_eq_some_iff.mpr (by
        simp only [String.toList_ofList]
        exact ⟨hfree, (toList_bindAddr s.config).trans he⟩)
    obtain ⟨hh, hp⟩ := Prod.mk.inj (Option.some.inj (hform.symm.trans hread))
    refine ⟨hload, ?_, ?_⟩
    · rw [hh, String.toList_ofList, hip]
      rfl
    · rwa [hp, String.toList_ofList]
  · rintro ⟨hload, hstrict, hdigits⟩
    obtain ⟨ip, hip⟩ := Option.isSome_iff_exists.mp hstrict
    obtain ⟨n, hn, -⟩ := (Option.any_eq_true _ _).mp hport
    have hdenoted : ∀ c : ConfigState, c.host = s.config.host → c.port = s.config.port →
        denoted c = some (ip, n) := fun c hc hp => by
      rw [denoted, hc, hp, trim_host hip, hostAddr_of_parseBindHost hip, Option.bind_some, hn]
      rfl
    rw [trim_port hdigits] at hn
    refine ⟨(ip, n), hdenoted _ rfl rfl, ?_, fun t reachableIps => ?_⟩
    · exact (hstart hload).trans (parse_socketAddr_iff.mpr
        ⟨_, _, rfl, hip, parseNumber_of_parsePort hdigits hn⟩)
    · obtain ⟨hh, hp, hl⟩ := @loaded_form dataDir _ henv hload _ hcolon t reachableIps
      refine ⟨accepts_iff.mpr ⟨hl, ?_, ?_⟩, hdenoted _ hh hp⟩
      · exact (congrArg trim hh).trans_ne hhost
      · exact (congrArg Config.validPort hp).trans hport

/-- Nothing is set but what is saved. -/
def unset : Settings := ⟨⟨none, none⟩, none, none, false⟩

/-- A loopback address of version 6, in brackets. -/
def bracketed : AppState := { config := { host := "[::1]", port := "050051" } }

theorem round_trips_iff_bracketed :
    Accepts bracketed ∧ ∃ addr, RoundTrips "/var/lib/muxrd" unset bracketed addr := by
  have haccepts : Accepts bracketed := accepts_iff.mpr ⟨rfl, by decide +kernel, by decide +kernel⟩
  exact ⟨haccepts, (round_trips_iff "/var/lib/muxrd" unset bracketed rfl haccepts).mpr
    ⟨rfl, by decide +kernel, List.all_eq_true.mp (by decide +kernel)⟩⟩

/-- A host with a space behind it. -/
def padded : AppState := { config := { host := "127.0.0.1 ", port := "50051" } }

/-- The form is accepted as the address that it denotes, and saved as a text that is none. -/
theorem saved_with_space :
    Accepts padded ∧ denoted padded.config = some (.inl 0x7f000001#32, 50051) ∧
      startAddr "/var/lib/muxrd" (setBindAddr unset padded.config.bindAddr) = none ∧
      ¬∃ addr, RoundTrips "/var/lib/muxrd" unset padded addr := by
  have hnone : startAddr "/var/lib/muxrd" (setBindAddr unset padded.config.bindAddr) = none := by
    decide +kernel
  refine ⟨accepts_iff.mpr ⟨rfl, by decide +kernel, by decide +kernel⟩, by decide +kernel, hnone, ?_⟩
  rintro ⟨addr, h⟩
  cases hnone.symm.trans h.binds

end MuxrCore.Muxrctl.Bind
