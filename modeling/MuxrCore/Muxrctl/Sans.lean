import MuxrCore.Muxrctl.State
import MuxrCore.Tls.Sans

/-! # The names that the control panel asks for

The panel makes a certificate for the reachable addresses, the host that the daemon binds to, and the
names in `MUXRD_SAN`: each text once, and no wildcard address.

* `mem_requested`: which entries are asked for. -/

namespace MuxrCore.Muxrctl

open MuxrCore.Lib.Address MuxrCore.Lib.Text MuxrCore.Tls.Identity

/-- A host as a name: an address if it is the text of one. -/
def San.fromHost (host : String) : San :=
  if (IpAddr.parse (trim host)).isSome then .ip (trim host) else .dns (trim host)

/-- The entry for a name. -/
def sanEntryFrom : San → SanEntry
  | .ip s =>
    match IpAddr.parse s with
    | some ip => .ip ip
    | none => .dns s
  | .dns d => .dns d

/-- The texts seen, and the names for them. -/
abbrev SeenSans := List String × List San

/-- A name, if its text has not been seen. -/
def SeenSans.insert (acc : SeenSans) (key : String) (san : San) : SeenSans :=
  if key ∈ acc.1 then acc else (acc.1 ++ [key], acc.2 ++ [san])

/-- A reachable address. -/
def SeenSans.insertIp (acc : SeenSans) (ip : BitVec 32) : SeenSans :=
  if (IpAddr.v4 ip).isUnspecified then acc
  else acc.insert (IpAddr.v4 ip).display (.ip (IpAddr.v4 ip).display)

/-- The text of a host or of an advertised name; neither a blank one nor a wildcard is taken. -/
def SeenSans.insertHost (acc : SeenSans) (text : String) : SeenSans :=
  let val := trim text
  if val = "" || (IpAddr.parse val).any (·.isUnspecified) then acc
  else acc.insert val (San.fromHost val)

def buildSansFromConfig (config : ConfigState) : List San :=
  let acc := config.reachableIps.foldl SeenSans.insertIp ([], [])
  let acc := acc.insertHost config.host
  (config.advertiseSans.foldl SeenSans.insertHost acc).2

/-- The entries that a generation is asked for. -/
def requested (config : ConfigState) : List SanEntry :=
  (buildSansFromConfig config).map sanEntryFrom

/-! ### Which entries are asked for -/

/-- The entry for a host is what its text is parsed as. -/
theorem sanEntryFrom_fromHost (host : String) :
    sanEntryFrom (San.fromHost host) = SanEntry.parse host := by
  unfold San.fromHost
  cases h : IpAddr.parse (trim host) with
  | some ip => simp [sanEntryFrom, h, SanEntry.parse_of_some h]
  | none => simp [sanEntryFrom, SanEntry.parse_of_none h]

theorem sanEntryFrom_ip (addr : IpAddr) : sanEntryFrom (.ip addr.display) = .ip addr := by
  simp [sanEntryFrom, parse_display]

/-- The text of a host or of an advertised name is taken. -/
def Taken (text : String) : Prop :=
  trim text ≠ "" ∧ ∀ ip, IpAddr.parse (trim text) = some ip → ip.isUnspecified = false

/-- Each name stands for what its text is parsed as. -/
def SeenSans.Parsed (acc : SeenSans) : Prop := acc.2.map sanEntryFrom = acc.1.map SanEntry.parse

variable {acc : SeenSans}

theorem SeenSans.Parsed.insert (h : acc.Parsed) {key : String} {san : San}
    (hsan : sanEntryFrom san = SanEntry.parse key) : (acc.insert key san).Parsed := by
  unfold SeenSans.insert
  split_ifs with hkey
  · exact h
  · simpa [SeenSans.Parsed, hsan] using h

theorem SeenSans.mem_insert {key key' : String} {san : San} :
    key' ∈ (acc.insert key san).1 ↔ key' ∈ acc.1 ∨ key' = key := by
  unfold SeenSans.insert
  split_ifs with hkey
  · constructor
    · exact .inl
    · rintro (h | rfl)
      · exact h
      · exact hkey
  · simp

theorem parse_display_ip (addr : IpAddr) : SanEntry.parse addr.display = .ip addr :=
  SanEntry.written_ip addr

theorem SeenSans.Parsed.insertIp (h : acc.Parsed) (ip : BitVec 32) : (acc.insertIp ip).Parsed := by
  unfold SeenSans.insertIp
  split_ifs
  · exact h
  · exact h.insert (by rw [sanEntryFrom_ip, parse_display_ip])

theorem SeenSans.Parsed.insertHost (h : acc.Parsed) (text : String) :
    (acc.insertHost text).Parsed := by
  unfold SeenSans.insertHost
  dsimp only
  split_ifs
  · exact h
  · exact h.insert (sanEntryFrom_fromHost _)

theorem SeenSans.mem_insertIp {ip : BitVec 32} {key : String} : key ∈ (acc.insertIp ip).1 ↔
    key ∈ acc.1 ∨ (IpAddr.v4 ip).isUnspecified = false ∧ key = (IpAddr.v4 ip).display := by
  unfold SeenSans.insertIp
  split_ifs with h
  · simp [h]
  · rw [mem_insert]
    simp [h]

theorem SeenSans.mem_insertHost {text key : String} : key ∈ (acc.insertHost text).1 ↔
    key ∈ acc.1 ∨ Taken text ∧ key = trim text := by
  unfold SeenSans.insertHost
  dsimp only
  split_ifs with h
  · simp only [Bool.or_eq_true, decide_eq_true_eq, Option.any_eq_true] at h
    refine ⟨.inl, ?_⟩
    rintro (hk | ⟨⟨hne, hall⟩, -⟩)
    · exact hk
    · rcases h with h | ⟨ip, hip, hu⟩
      · exact absurd h hne
      · exact absurd (hall ip hip) (by simp [hu])
  · simp only [Bool.or_eq_true, decide_eq_true_eq, Option.any_eq_true, not_or, not_exists,
      not_and, Bool.not_eq_true] at h
    rw [mem_insert]
    exact or_congr_right ⟨fun hk => ⟨h, hk⟩, fun hk => hk.2⟩

theorem SeenSans.mem_foldl {β : Type*} {f : SeenSans → β → SeenSans} {q : β → String → Prop}
    (hf : ∀ acc b key, key ∈ (f acc b).1 ↔ key ∈ acc.1 ∨ q b key) (l : List β) {key : String} :
    key ∈ (l.foldl f acc).1 ↔ key ∈ acc.1 ∨ ∃ b ∈ l, q b key := by
  induction l generalizing acc with
  | nil => simp
  | cons b l ih => simp [ih, hf, or_assoc]

theorem SeenSans.Parsed.foldl {β : Type*} {f : SeenSans → β → SeenSans}
    (hf : ∀ acc b, acc.Parsed → (f acc b).Parsed) (l : List β) (h : acc.Parsed) :
    (l.foldl f acc).Parsed := by
  induction l generalizing acc with
  | nil => exact h
  | cons b l ih => exact ih (hf acc b h)

/-- The texts that names are made of. -/
theorem mem_seen (config : ConfigState) (key : String) : key ∈ (config.advertiseSans.foldl
      SeenSans.insertHost ((config.reachableIps.foldl SeenSans.insertIp ([], [])).insertHost
        config.host)).1 ↔
    (∃ ip ∈ config.reachableIps, (IpAddr.v4 ip).isUnspecified = false ∧
      key = (IpAddr.v4 ip).display) ∨ (Taken config.host ∧ key = trim config.host) ∨
        ∃ text ∈ config.advertiseSans, Taken text ∧ key = trim text := by
  rw [SeenSans.mem_foldl (f := SeenSans.insertHost) fun _ _ _ => SeenSans.mem_insertHost,
    SeenSans.mem_insertHost,
    SeenSans.mem_foldl (f := SeenSans.insertIp) fun _ _ _ => SeenSans.mem_insertIp]
  simp only [List.not_mem_nil, false_or, or_assoc]

/-- **The entries that the panel asks for**: the reachable addresses, the host, and the advertised
names, without wildcards. -/
theorem mem_requested {config : ConfigState} {e : SanEntry} : e ∈ requested config ↔
    (∃ ip ∈ config.reachableIps, (IpAddr.v4 ip).isUnspecified = false ∧ e = .ip (.v4 ip)) ∨
      (Taken config.host ∧ e = SanEntry.parse config.host) ∨
        ∃ text ∈ config.advertiseSans, Taken text ∧ e = SanEntry.parse text := by
  have hparsed : SeenSans.Parsed (config.advertiseSans.foldl SeenSans.insertHost
      ((config.reachableIps.foldl SeenSans.insertIp ([], [])).insertHost config.host)) :=
    .foldl (fun acc text h => h.insertHost text) _
      (.insertHost (.foldl (fun acc ip h => h.insertIp ip) _
      (show SeenSans.Parsed ([], []) from rfl)) _)
  have hentry : ∀ text, SanEntry.parse (trim text) = SanEntry.parse text := fun text => by
    unfold SanEntry.parse
    rw [trim_trim]
  unfold requested buildSansFromConfig
  dsimp only
  rw [hparsed, List.mem_map]
  simp only [mem_seen]
  constructor
  · rintro ⟨key, ⟨ip, hip, hu, rfl⟩ | ⟨ht, rfl⟩ | ⟨text, hmem, ht, rfl⟩, rfl⟩
    · exact .inl ⟨ip, hip, hu, parse_display_ip _⟩
    · exact .inr (.inl ⟨ht, hentry _⟩)
    · exact .inr (.inr ⟨text, hmem, ht, hentry _⟩)
  · rintro (⟨ip, hip, hu, rfl⟩ | ⟨ht, rfl⟩ | ⟨text, hmem, ht, rfl⟩)
    · exact ⟨_, .inl ⟨ip, hip, hu, rfl⟩, parse_display_ip _⟩
    · exact ⟨_, .inr (.inl ⟨ht, rfl⟩), hentry _⟩
    · exact ⟨_, .inr (.inr ⟨text, hmem, ht, rfl⟩), hentry _⟩

/-- What the panel asks for is read back from its text. -/
theorem written_of_mem_requested {config : ConfigState} {e : SanEntry} (h : e ∈ requested config) :
    e.Written := by
  rcases mem_requested.mp h with ⟨ip, -, -, rfl⟩ | ⟨-, rfl⟩ | ⟨text, -, -, rfl⟩
  · exact SanEntry.written_ip _
  · exact SanEntry.written_parse _
  · exact SanEntry.written_parse _

end MuxrCore.Muxrctl
