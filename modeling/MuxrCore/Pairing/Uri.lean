import MuxrCore.Lib.Base64
import MuxrCore.Lib.Percent
import MuxrCore.Pairing.Qr
import MuxrCore.Tls.Sans

/-! # The URI of a pairing code

A pairing code is a URI whose query names the server and the token. The label is percent-encoded and
the token is encoded in base64; the host is inserted as it is, and it may come from free text.

* `toList_toUri`: the query is a list of keys and values, separated by `&`.
* `recovers_of_host`: it is read back if the host is neither cut nor decoded.
* `recovers_iff`: it is read back if and only if the host has no `&` and no escape. -/

namespace MuxrCore.Pairing.Uri

open MuxrCore.Lib MuxrCore.Lib.Address MuxrCore.Lib.Percent MuxrCore.Lib.Text MuxrCore.Pairing.Qr
open MuxrCore.Tls.Identity

/-! ### The URI -/

/-- A letter or a digit, or one of `-._~`. -/
def isUnreserved (b : UInt8) : Bool :=
  (65 ≤ b && b ≤ 90) || (97 ≤ b && b ≤ 122) || (48 ≤ b && b ≤ 57) || b = 45 || b = 95 || b = 46 ||
    b = 126

/-- Percent-encode a text. -/
def percentEncode (s : String) : String :=
  String.ofList (Percent.encode isUnreserved (bytesOf s.toList))

def trustSuffix : PairingTrust → String
  | .pin fingerprint => s!"tm=pin&fp={fingerprint}"
  | .ca => "tm=ca"

/-- The URI of a pairing code. -/
def toUri (params : PairingParams) : String :=
  let tokenB64 := String.ofList (Base64.encode (bytesOf params.token.toList))
  let labelPct := percentEncode params.label
  let ro := if params.readOnly then "1" else "0"
  s!"muxr://pair?v=2&h={params.host}&p={params.port}&t={tokenB64}&ro={ro}&n={labelPct}&" ++
    trustSuffix params.trust

/-! ### The host -/

/-- A host that is worth advertising: not a loopback address, and not the wildcard. -/
def isConcreteAdvertiseHost (host : String) : Bool :=
  let h := trim host
  if h = "" then false
  else match IpAddr.parse h with
    | some ip => !ip.isLoopback && !ip.isUnspecified
    | none => true

/-- The host in the pairing code: the one that is bound to, one of the names that are asked for, or
an address of this machine. -/
def chooseAdvertiseHost (bindHost : String) (advertiseSans : List String)
    (reachableIpv4 : List (BitVec 32)) : String :=
  if isConcreteAdvertiseHost bindHost then bindHost
  else match advertiseSans.find? isConcreteAdvertiseHost with
    | some adv => trim adv
    | none => (reachableIpv4.head?.map fun ip => (IpAddr.v4 ip).display).getD bindHost

/-! ### The reader -/

/-- The scheme and what else is before the query. -/
def scheme : String := "muxr://pair?"

/-- The trust: a pin has a fingerprint, and other trust has none. -/
def decodeTrust (query : List (String × List Char)) : Option PairingTrust :=
  if value query "tm" = some "pin" then (value query "fp").map .pin
  else if value query "tm" = some "ca" ∧ value query "fp" = none then some .ca
  else none

def decodeFlag (s : String) : Option Bool :=
  if s = "1" then some true else if s = "0" then some false else none

/-- The keys and values of a URI. -/
def query (uri : String) : List (String × List Char) := fields (uri.toList.drop scheme.length)

/-- Read a pairing code: split at `&` and `=`, decode the values, and the token from base64. -/
def decode (uri : String) : Option PairingParams := do
  let fs := query uri
  guard (scheme.toList <+: uri.toList ∧ value fs "v" = some "2")
  let host ← value fs "h"
  let port ← (value fs "p").bind fun s => parsePort s.toList
  let token ← (value fs "t").bind fun s => (Base64.decode s.toList).bind textOf
  let readOnly ← (value fs "ro").bind decodeFlag
  let label ← value fs "n"
  let trust ← decodeTrust fs
  return ⟨host, port, trust, token, readOnly, label⟩

/-- The keys of a pairing code. -/
def keys (trust : PairingTrust) : List String :=
  ["v", "h", "p", "t", "ro", "n", "tm"] ++ match trust with
    | .pin _ => ["fp"]
    | .ca => []

/-- Each key is there exactly once, and the values are those that were written. -/
def Recovers (params : PairingParams) : Prop :=
  ((query (toUri params)).map Prod.fst).Perm (keys params.trust) ∧
    decode (toUri params) = some params

/-! ### The query -/

def WellFormed : PairingTrust → Prop
  | .pin fingerprint => fingerprint.length = 64 ∧
      ∀ c ∈ fingerprint.toList, ('0' ≤ c ∧ c ≤ '9') ∨ ('a' ≤ c ∧ c ≤ 'f')
  | .ca => True

/-- What follows the host. -/
def afterHost (params : PairingParams) : List Char :=
  "p".toList ++ '=' :: Nat.toDigits 10 params.port ++ '&' ::
  ("t".toList ++ '=' :: Base64.encode (bytesOf params.token.toList) ++ '&' ::
  ("ro".toList ++ '=' :: [if params.readOnly then '1' else '0'] ++ '&' ::
  ("n".toList ++ '=' :: Percent.encode isUnreserved (bytesOf params.label.toList) ++ '&' ::
  (trustSuffix params.trust).toList)))

/-- **The query is a list of keys and values, separated by `&`.** -/
theorem toList_toUri (params : PairingParams) : (toUri params).toList =
    scheme.toList ++ ("v".toList ++ '=' :: ['2'] ++ '&' ::
      ("h".toList ++ '=' :: params.host.toList ++ '&' :: afterHost params)) := by
  have htext : ∀ s : String, toString s = s := fun _ => rfl
  have hport : (toString params.port).toList = Nat.toDigits 10 params.port := by simp
  have hro : (if params.readOnly then "1" else "0").toList =
      [if params.readOnly then '1' else '0'] := by
    split_ifs <;> simp
  unfold toUri afterHost percentEncode scheme
  simp only [String.toList_append, htext, hport, hro, String.toList_ofList, List.append_assoc,
    List.cons_append, List.nil_append]
  simp

/-- A fingerprint is hexadecimal digits. -/
theorem isDigit_of_mem_fingerprint {fingerprint : String} (h : WellFormed (.pin fingerprint))
    {c : Char} (hc : c ∈ fingerprint.toList) : isDigit 16 c = true := by
  have hr := h.2 c hc
  simp only [Char.le_def, UInt32.le_iff_toNat_le] at hr
  refine decide_eq_true ?_
  unfold digitValue
  rcases hr with hr | hr
  · have hr' : 48 ≤ c.toNat ∧ c.toNat ≤ 57 := hr
    rw [if_pos hr']
    omega
  · have hr' : 97 ≤ c.toNat ∧ c.toNat ≤ 102 := hr
    rw [if_neg (by omega), if_pos hr']
    omega

theorem notMem_fingerprint {fingerprint : String} (h : WellFormed (.pin fingerprint))
    {c : Char} (hc : isDigit 16 c = false) : c ∉ fingerprint.toList := fun hmem => by
  rw [isDigit_of_mem_fingerprint h hmem] at hc
  cases hc

theorem notMem_port (port : ℕ) {c : Char} (hc : isDigit 10 c = false) :
    c ∉ Nat.toDigits 10 port := fun h => by
  rw [isDigit_of_mem_toDigits (by decide) (by decide) h] at hc
  cases hc

theorem notMem_base64 (bytes : List UInt8) {c : Char} (hc : c ∉ Base64.alphabet) :
    c ∉ Base64.encode bytes := fun h => hc (Base64.mem_alphabet_of_mem_encode h)

/-- The unreserved characters are ASCII, and neither `%` nor `&` is one. -/
theorem lt_of_isUnreserved {b : UInt8} (h : isUnreserved b = true) :
    b.toNat < 128 ∧ b ≠ 37 ∧ b ≠ 38 := by
  simp only [isUnreserved, Bool.or_eq_true, Bool.and_eq_true, decide_eq_true_eq,
    UInt8.le_iff_toNat_le, ← UInt8.toNat_inj, ne_eq] at h ⊢
  simp only [UInt8.reduceToNat] at h ⊢
  omega

theorem notMem_label (bytes : List UInt8) : '&' ∉ Percent.encode isUnreserved bytes := fun h => by
  rcases mem_encode h with ⟨b, hb, hc⟩ | hc | hc
  · obtain ⟨hlt, -, hne⟩ := lt_of_isUnreserved hb
    exact hne (UInt8.toNat_inj.mp ((toNat_ofNat hlt).symm.trans (congrArg Char.toNat hc.symm)))
  · exact absurd hc (by decide)
  · exact absurd hc (by decide)

/-- The fields of the trust. -/
def trustFields : PairingTrust → List (String × List Char)
  | .pin fingerprint => [("tm", "pin".toList), ("fp", fingerprint.toList)]
  | .ca => [("tm", "ca".toList)]

theorem fields_trustSuffix {trust : PairingTrust} (h : WellFormed trust) :
    fields (trustSuffix trust).toList = trustFields trust := by
  cases trust with
  | ca =>
    have htm : (trustSuffix .ca).toList = "tm".toList ++ '=' :: "ca".toList := by
      simp [trustSuffix]
    rw [htm, fields_of_notMem (by decide), field_append (by decide)]
    rfl
  | pin fingerprint =>
    have htm : (trustSuffix (.pin fingerprint)).toList = "tm".toList ++ '=' :: "pin".toList ++
        '&' :: ("fp".toList ++ '=' :: fingerprint.toList) := by
      have htext : ∀ s : String, toString s = s := fun _ => rfl
      simp [trustSuffix, htext]
    have hfp : '&' ∉ "fp".toList ++ '=' :: fingerprint.toList := by
      simpa using notMem_fingerprint h (c := '&') (by decide)
    rw [htm, fields_field (by decide) (by decide), fields_of_notMem hfp, field_append (by decide)]
    rfl

/-- The fields that follow the host. -/
theorem fields_afterHost {params : PairingParams} (h : WellFormed params.trust) :
    fields (afterHost params) =
      [("p", Nat.toDigits 10 params.port), ("t", Base64.encode (bytesOf params.token.toList)),
        ("ro", [if params.readOnly then '1' else '0']),
        ("n", Percent.encode isUnreserved (bytesOf params.label.toList))] ++
      trustFields params.trust := by
  rw [afterHost,
    fields_field (by decide) (by simpa using notMem_port params.port (c := '&') (by decide)),
    fields_field (by decide) (by simpa using notMem_base64 _ (c := '&') (by decide)),
    fields_field (by decide) (by cases params.readOnly <;> decide),
    fields_field (by decide) (by simpa using notMem_label _), fields_trustSuffix h]
  rfl

theorem query_toUri (params : PairingParams) : query (toUri params) =
    ("v", ['2']) :: (fields ("h".toList ++ '=' :: params.host.toList) ++
      fields (afterHost params)) := by
  rw [query, toList_toUri, ← String.length_toList, List.drop_left,
    fields_field (by decide) (by decide), fields_append_cons]

/-- The keys and values that are written. -/
def pairs (params : PairingParams) : List (String × List Char) :=
  [("v", ['2']), ("h", params.host.toList), ("p", Nat.toDigits 10 params.port),
    ("t", Base64.encode (bytesOf params.token.toList)),
    ("ro", [if params.readOnly then '1' else '0']),
    ("n", Percent.encode isUnreserved (bytesOf params.label.toList))] ++ trustFields params.trust

theorem query_of_notMem {params : PairingParams} (htrust : WellFormed params.trust)
    (hamp : '&' ∉ params.host.toList) : query (toUri params) = pairs params := by
  rw [query_toUri, fields_of_notMem (by simpa using hamp), field_append (by decide),
    fields_afterHost htrust]
  rfl

theorem map_fst_pairs (params : PairingParams) :
    (pairs params).map Prod.fst = keys params.trust := by
  unfold pairs
  cases params.trust <;> rfl

theorem nodup_keys (trust : PairingTrust) : (keys trust).Nodup := by
  cases trust with
  | pin fingerprint =>
    change (["v", "h", "p", "t", "ro", "n", "tm", "fp"] : List String).Nodup
    decide
  | ca => decide

/-- The value of a key that is written. -/
theorem value_pairs {params : PairingParams} {key : String} {raw : List Char}
    (h : (key, raw) ∈ pairs params) : value (pairs params) key = textOf (Percent.decode raw) :=
  value_of_mem (map_fst_pairs params ▸ nodup_keys params.trust) h

/-- A value without a `%` is read as it is written. -/
theorem value_pairs_of_notMem {params : PairingParams} {key : String} {raw : List Char}
    (h : (key, raw) ∈ pairs params) (hpercent : '%' ∉ raw) :
    value (pairs params) key = some (String.ofList raw) := by
  rw [value_pairs h, textOf_decode (hasEscape_of_notMem hpercent)]

theorem decodeTrust_pairs {params : PairingParams} (h : WellFormed params.trust) :
    decodeTrust (pairs params) = some params.trust := by
  cases ht : params.trust with
  | ca =>
    have hmem : ("tm", "ca".toList) ∈ pairs params := by simp [pairs, trustFields, ht]
    have htm : value (pairs params) "tm" = some "ca" := by
      rw [value_pairs_of_notMem hmem (by decide), String.ofList_toList]
    have hfp : value (pairs params) "fp" = none :=
      value_of_notMem (by rw [map_fst_pairs, ht]; decide)
    rw [decodeTrust, htm, hfp]
    rfl
  | pin fingerprint =>
    rw [ht] at h
    have hmem : ("tm", "pin".toList) ∈ pairs params ∧
        ("fp", fingerprint.toList) ∈ pairs params := by simp [pairs, trustFields, ht]
    have htm : value (pairs params) "tm" = some "pin" := by
      rw [value_pairs_of_notMem hmem.1 (by decide), String.ofList_toList]
    have hfp : value (pairs params) "fp" = some fingerprint := by
      rw [value_pairs_of_notMem hmem.2 (notMem_fingerprint h (by decide)), String.ofList_toList]
    rw [decodeTrust, htm, hfp]
    rfl

theorem mem_pairs (params : PairingParams) :
    ("v", ['2']) ∈ pairs params ∧ ("h", params.host.toList) ∈ pairs params ∧
      ("p", Nat.toDigits 10 params.port) ∈ pairs params ∧
      ("t", Base64.encode (bytesOf params.token.toList)) ∈ pairs params ∧
      ("ro", [if params.readOnly then '1' else '0']) ∈ pairs params ∧
      ("n", Percent.encode isUnreserved (bytesOf params.label.toList)) ∈ pairs params := by
  simp [pairs]

/-- **What is read: all that was written, and the host decoded.** -/
theorem decode_toUri {params : PairingParams} {host : String} (hport : params.port < 2 ^ 16)
    (htrust : WellFormed params.trust) (hamp : '&' ∉ params.host.toList)
    (hhost : textOf (Percent.decode params.host.toList) = some host) :
    decode (toUri params) = some { params with host } := by
  have hq := query_of_notMem htrust hamp
  have hscheme : scheme.toList <+: (toUri params).toList := by
    rw [toList_toUri]
    exact List.prefix_append _ _
  obtain ⟨mv, mh, mp, mt, mro, mn⟩ := mem_pairs params
  have hv : value (pairs params) "v" = some "2" := value_pairs_of_notMem mv (by decide)
  have hh : value (pairs params) "h" = some host := by rw [value_pairs mh, hhost]
  have hp : value (pairs params) "p" = some (String.ofList (Nat.toDigits 10 params.port)) :=
    value_pairs_of_notMem mp (notMem_port _ (by decide))
  have ht : value (pairs params) "t" =
      some (String.ofList (Base64.encode (bytesOf params.token.toList))) :=
    value_pairs_of_notMem mt (notMem_base64 _ (by decide))
  have hro : value (pairs params) "ro" = some (if params.readOnly then "1" else "0") := by
    rw [value_pairs_of_notMem mro (by cases params.readOnly <;> decide)]
    cases params.readOnly <;> rfl
  have hn : value (pairs params) "n" = some params.label := by
    rw [value_pairs mn, decode_encode fun b hb => ⟨(lt_of_isUnreserved hb).1,
      (lt_of_isUnreserved hb).2.1⟩, textOf_bytesOf, String.ofList_toList]
  have hflag : decodeFlag (if params.readOnly then "1" else "0") = some params.readOnly := by
    cases params.readOnly <;> rfl
  simp only [decode, hq, hscheme, hv, hh, hp, ht, hro, hn, decodeTrust_pairs htrust, hflag,
    String.toList_ofList, parsePort_toDigits hport, Base64.decode_encode, textOf_bytesOf,
    String.ofList_toList, and_self, guard_true, Option.bind_eq_bind, Option.bind_some,
    Option.pure_def]

/-- A host that is read back was neither cut nor decoded. -/
theorem host_of_decode {params : PairingParams} (h : decode (toUri params) = some params) :
    '&' ∉ params.host.toList ∧ hasEscape params.host.toList = false := by
  have hhost : value (query (toUri params)) "h" = some params.host := by
    simp only [decode, Option.bind_eq_bind, Option.bind_eq_some_iff, Option.pure_def,
      Option.some.injEq] at h
    obtain ⟨-, -, host, hhost, port, -, token, -, readOnly, -, label, -, trust, -, rfl⟩ := h
    exact hhost
  rw [query_toUri, value_cons_of_ne (by decide)] at hhost
  by_cases hamp : '&' ∈ params.host.toList
  · -- the host ends at the first `&`, so what is read is shorter
    obtain ⟨a, b, hab, ha⟩ := List.eq_append_cons_of_mem hamp
    have hcut : "h".toList ++ '=' :: params.host.toList =
        "h".toList ++ '=' :: a ++ '&' :: b := by
      rw [hab, List.append_assoc, List.cons_append]
    rw [hcut, fields_field (by decide) (by simpa using ha)] at hhost
    have hlen := congrArg List.length (bytesOf_of_textOf (textOf_of_value hhost))
    have hle := length_decode_le a
    have hamp := length_bytesOf_cons '&' b
    rw [hab, bytesOf_append, List.length_append] at hlen
    omega
  · rw [fields_of_notMem (by simpa using hamp), field_append (by decide)] at hhost
    exact ⟨hamp, hasEscape_of_textOf (textOf_of_value hhost)⟩

/-- Where nothing else is known, what is bound to is advertised, whatever text it is. -/
theorem chooseAdvertiseHost_nil (bindHost : String) :
    chooseAdvertiseHost bindHost [] [] = bindHost := by
  unfold chooseAdvertiseHost
  split_ifs <;> rfl

/-- **Exactly when the pairing code is read back.** -/
theorem recovers_iff (bindHost : String) (advertiseSans : List String)
    (reachableIpv4 : List (BitVec 32)) (port : ℕ) (trust : PairingTrust) (token : String)
    (readOnly : Bool) (label : String) (hport : port < 2 ^ 16) (htrust : WellFormed trust) :
    Recovers ⟨chooseAdvertiseHost bindHost advertiseSans reachableIpv4, port, trust, token,
        readOnly, label⟩ ↔
      '&' ∉ (chooseAdvertiseHost bindHost advertiseSans reachableIpv4).toList ∧
        hasEscape (chooseAdvertiseHost bindHost advertiseSans reachableIpv4).toList = false := by
  generalize chooseAdvertiseHost bindHost advertiseSans reachableIpv4 = host
  constructor
  · intro h
    exact host_of_decode h.2
  · rintro ⟨hamp, hesc⟩
    refine ⟨?_, decode_toUri hport htrust hamp ?_⟩
    · rw [query_of_notMem htrust hamp, map_fst_pairs]
    · rw [textOf_decode hesc, String.ofList_toList]

theorem recovers_iff_local :
    50051 < 2 ^ 16 ∧ WellFormed .ca ∧
      Recovers ⟨chooseAdvertiseHost "server.local" [] [], 50051, .ca, "mysecrettoken", false,
        "Home desktop"⟩ :=
  ⟨by decide, trivial, (recovers_iff "server.local" [] [] 50051 .ca "mysecrettoken" false
    "Home desktop" (by decide) trivial).mpr (by rw [chooseAdvertiseHost_nil]; decide)⟩

/-- A host with an escape is read as another host. -/
theorem host_decoded :
    chooseAdvertiseHost "0.0.0.0" ["fe80::1%25eth0"] [] = "fe80::1%25eth0" ∧
      decode (toUri ⟨"fe80::1%25eth0", 50051, .ca, "mysecrettoken", false, "muxrd"⟩) =
        some ⟨"fe80::1%eth0", 50051, .ca, "mysecrettoken", false, "muxrd"⟩ ∧
      ¬Recovers ⟨"fe80::1%25eth0", 50051, .ca, "mysecrettoken", false, "muxrd"⟩ := by
  have hread : decode (toUri ⟨"fe80::1%25eth0", 50051, .ca, "mysecrettoken", false, "muxrd"⟩) =
      some ⟨"fe80::1%eth0", 50051, .ca, "mysecrettoken", false, "muxrd"⟩ := by
    have hbytes : Percent.decode "fe80::1%25eth0".toList = bytesOf "fe80::1%eth0".toList := by
      decide +kernel
    refine decode_toUri (by decide) trivial (by decide) ?_
    rw [hbytes, textOf_bytesOf, String.ofList_toList]
  have hwild : IpAddr.parse "0.0.0.0" = some (.v4 0) := parse_display (.v4 0)
  have hname : IpAddr.parse "fe80::1%25eth0" = none := by
    rcases h : IpAddr.parse "fe80::1%25eth0" with _ | addr
    · rfl
    · exact absurd (isAddrChar_of_parse_eq_some h '%' (by decide)) (by
        rintro (h | h | h)
        · exact absurd h (by decide)
        · exact absurd h (by decide)
        · exact absurd h (by decide))
  have hbind : isConcreteAdvertiseHost "0.0.0.0" = false := by
    rw [isConcreteAdvertiseHost, trim_of_parse hwild, hwild]
    rfl
  have htrim : trim "fe80::1%25eth0" = "fe80::1%25eth0" := by decide +kernel
  have hsan : isConcreteAdvertiseHost "fe80::1%25eth0" = true := by
    rw [isConcreteAdvertiseHost, htrim, hname]
    rfl
  refine ⟨?_, hread, fun h => ?_⟩
  · rw [chooseAdvertiseHost, hbind, List.find?_cons_of_pos hsan]
    exact htrim
  · have hne := hread.symm.trans h.2
    exact absurd (congrArg (fun p => p.map PairingParams.host) hne) (by decide)

end MuxrCore.Pairing.Uri
