import MuxrCore.Lib.Address
import MuxrCore.Lib.Text
import MuxrCore.Tls.Identity

/-! # The names that a daemon asks for

A name is an IP address if it can be parsed as one, and a DNS name otherwise. The daemon collects the
names of its command line, of the variable `MUXRD_SAN`, and the address that it binds to.

* `parse_display`: an address is read back from its text; `SanEntry.Written` says this of any entry,
  and the entries that are parsed have it (`SanEntry.written_parse`). -/

namespace MuxrCore.Tls.Identity

open MuxrCore.Lib.Address MuxrCore.Lib.Text

/-! ### Addresses -/

/-- `IpAddr::from_str`. -/
def IpAddr.parse (s : String) : Option IpAddr :=
  (parseWith readIpAddr s.toList).map (Sum.elim .v4 .v6)

theorem IpAddr.parse_eq (s : String) :
    IpAddr.parse s = (parseWith readIpAddr s.toList).map (Sum.elim .v4 .v6) := rfl

-- the reader is not to be unfolded where a text is compared
attribute [irreducible] IpAddr.parse

/-- The text of an address. -/
def IpAddr.display : IpAddr → String
  | .v4 bits => String.ofList (fmtIpv4 bits)
  | .v6 bits => String.ofList (fmtIpv6 bits)

/-- The wildcard. -/
def IpAddr.isUnspecified : IpAddr → Bool
  | .v4 bits => bits = 0
  | .v6 bits => bits = 0

def IpAddr.isLoopback : IpAddr → Bool
  | .v4 bits => bits.toNat / 2 ^ 24 = 127
  | .v6 bits => bits = 1

theorem parse_display (addr : IpAddr) : IpAddr.parse addr.display = some addr := by
  cases addr with
  | v4 bits => simp [IpAddr.parse_eq, IpAddr.display, parse_fmtIpv4]
  | v6 bits => simp [IpAddr.parse_eq, IpAddr.display, parse_fmtIpv6]

theorem isAddrChar_of_parse_eq_some {s : String} {addr : IpAddr} (h : IpAddr.parse s = some addr) :
    ∀ c ∈ s.toList, IsAddrChar c := by
  rw [IpAddr.parse_eq] at h
  obtain ⟨v, hv, -⟩ := Option.map_eq_some_iff.mp h
  exact isAddrChar_of_parse hv

/-- No character of an address is white space. -/
theorem isWhiteSpace_of_isAddrChar {c : Char} (h : IsAddrChar c) : isWhiteSpace c = false := by
  rcases h with h | rfl | rfl
  · have hd : digitValue c < 16 := of_decide_eq_true h
    unfold digitValue at hd
    simp only [isWhiteSpace, Bool.or_eq_false_iff, Bool.and_eq_false_iff, decide_eq_false_iff_not]
    split_ifs at hd <;> omega
  · rfl
  · rfl

/-- A bracket, as around an IPv6 address. -/
def isBracket (c : Char) : Bool := c = '[' || c = ']'

/-- No character of an address is a bracket. -/
theorem isBracket_of_isAddrChar {c : Char} (h : IsAddrChar c) : isBracket c = false := by
  simp only [isBracket, Bool.or_eq_false_iff, decide_eq_false_iff_not]
  refine ⟨?_, ?_⟩ <;>
  · rintro rfl
    rcases h with h | h | h
    · exact absurd h (by decide)
    · exact absurd h (by decide)
    · exact absurd h (by decide)

/-- No white space or bracket is at the ends of an address. -/
theorem trimmed_of_parse {s : String} {addr : IpAddr} (h : IpAddr.parse s = some addr)
    {p : Char → Bool} (hp : ∀ c, IsAddrChar c → p c = false) : Trimmed p s.toList :=
  ⟨fun c hc => hp c (isAddrChar_of_parse_eq_some h c (List.mem_of_mem_head? hc)),
    fun c hc => hp c (isAddrChar_of_parse_eq_some h c (List.mem_of_mem_getLast? hc))⟩

theorem trim_of_parse {s : String} {addr : IpAddr} (h : IpAddr.parse s = some addr) :
    trim s = s := by
  rw [trim, trimMatches_of_trimmed (trimmed_of_parse h fun c hc => isWhiteSpace_of_isAddrChar hc),
    String.ofList_toList]

/-! ### Names -/

/-- A name: an address if it is the text of one. -/
def SanEntry.parse (s : String) : SanEntry :=
  match IpAddr.parse (trim s) with
  | some addr => .ip addr
  | none => .dns (trim s)

/-- The names in the variable. -/
def SanEntry.fromEnv (muxrdSan : Option String) : List SanEntry :=
  ((((muxrdSan.getD "").toList.splitOn ',').map fun s => trim (String.ofList s)).filter
    (· ≠ "")).map SanEntry.parse

def SanEntry.display : SanEntry → String
  | .ip addr => addr.display
  | .dns name => name

/-- The address that is bound to, without the brackets around it, unless it is a loopback address or
the wildcard. -/
def bindIp (bindAddr : String) : Option IpAddr :=
  (rsplitOnce bindAddr ':').bind fun (host, _) =>
    (IpAddr.parse (String.ofList (trimMatches isBracket host.toList))).filter fun ip =>
      !ip.isLoopback && !ip.isUnspecified

/-- The names that a start asks for: those of the command line and of the variable, and the address
that it binds to. -/
def collectSans (cliSans : List String) (muxrdSan : Option String) (bindAddr : String) :
    List SanEntry :=
  let sans := cliSans.map SanEntry.parse ++ SanEntry.fromEnv muxrdSan
  match bindIp bindAddr with
  | none => sans
  | some ip => if .ip ip ∈ sans then sans else sans ++ [.ip ip]

theorem mem_collectSans {cliSans : List String} {muxrdSan : Option String} {bindAddr : String}
    {e : SanEntry} : e ∈ collectSans cliSans muxrdSan bindAddr ↔
      e ∈ cliSans.map SanEntry.parse ∨ e ∈ SanEntry.fromEnv muxrdSan ∨
        ∃ ip, bindIp bindAddr = some ip ∧ e = .ip ip := by
  unfold collectSans
  cases bindIp bindAddr with
  | none => simp
  | some ip =>
    dsimp only
    split_ifs with h
    · rw [List.mem_append] at h ⊢
      constructor
      · rintro (he | he)
        · exact .inl he
        · exact .inr (.inl he)
      · rintro (he | he | ⟨ip', hip', rfl⟩)
        · exact .inl he
        · exact .inr he
        · cases hip'
          exact h
    · simp

/-! ### Entries are read back -/

/-- The entry is what its text is parsed as. -/
def SanEntry.Written (e : SanEntry) : Prop := SanEntry.parse e.display = e

theorem SanEntry.parse_of_some {s : String} {addr : IpAddr} (h : IpAddr.parse (trim s) = some addr) :
    SanEntry.parse s = .ip addr := by
  rw [SanEntry.parse, h]

theorem SanEntry.parse_of_none {s : String} (h : IpAddr.parse (trim s) = none) :
    SanEntry.parse s = .dns (trim s) := by
  rw [SanEntry.parse, h]

theorem SanEntry.written_ip (addr : IpAddr) : (SanEntry.ip addr).Written := by
  have h := parse_display addr
  exact parse_of_some (by rw [SanEntry.display, trim_of_parse h, h])

theorem trim_trim (s : String) : trim (trim s) = trim s := by
  unfold trim
  rw [String.toList_ofList, trimMatches_of_trimmed (trimmed_trimMatches ..)]

/-- What is parsed is read back. -/
theorem SanEntry.written_parse (s : String) : (SanEntry.parse s).Written := by
  cases h : IpAddr.parse (trim s) with
  | some addr =>
    rw [parse_of_some h]
    exact written_ip addr
  | none =>
    rw [parse_of_none h, SanEntry.Written, SanEntry.display, parse_of_none (by rw [trim_trim, h]),
      trim_trim]

theorem SanEntry.written_of_mem_fromEnv {muxrdSan : Option String} {e : SanEntry}
    (h : e ∈ SanEntry.fromEnv muxrdSan) : e.Written := by
  obtain ⟨s, -, rfl⟩ := List.mem_map.mp h
  exact written_parse s

/-- What a start asks for is read back. -/
theorem SanEntry.written_of_mem_collectSans {cliSans : List String} {muxrdSan : Option String}
    {bindAddr : String} {e : SanEntry} (h : e ∈ collectSans cliSans muxrdSan bindAddr) :
    e.Written := by
  rcases mem_collectSans.mp h with h | h | ⟨ip, -, rfl⟩
  · obtain ⟨s, -, rfl⟩ := List.mem_map.mp h
    exact written_parse s
  · exact written_of_mem_fromEnv h
  · exact written_ip ip

end MuxrCore.Tls.Identity
