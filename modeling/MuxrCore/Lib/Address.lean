import Mathlib.Data.List.Induction
import Mathlib.Data.List.TakeWhile
import Mathlib.Data.Nat.Basic
import Mathlib.Tactic.IntervalCases
import Mathlib.Tactic.SplitIfs

/-! # Internet addresses as text

The parser and the printer of IP addresses of the Rust standard library (`Ipv4Addr`, `Ipv6Addr`,
`IpAddr`, `SocketAddr`). A reader takes a value off the front of a text and leaves the rest; an
address is parsed if its reader leaves nothing.

* `readIpv4_fmtIpv4`, `readIpv6_fmtIpv6`: what is printed is read back.
* `Consumes`: a reader takes a piece off the front that is made of certain characters. So a text that
  is parsed as an address has nothing but hexadecimal digits, dots and colons (`isAddrChar_of_parse`).
-/

namespace MuxrCore.Lib.Address

/-! ### Positional notation -/

/-- The last `k` digits of a number, the most significant one first. -/
def digitsBE (base : ℕ) : ℕ → ℕ → List ℕ
  | 0, _ => []
  | k + 1, n => digitsBE base k (n / base) ++ [n % base]

/-- The number with these digits. -/
def ofDigitsBE (base : ℕ) (digits : List ℕ) : ℕ := digits.foldl (fun n d => base * n + d) 0

theorem ofDigitsBE_concat (base : ℕ) (digits : List ℕ) (d : ℕ) :
    ofDigitsBE base (digits ++ [d]) = base * ofDigitsBE base digits + d := by
  simp [ofDigitsBE]

theorem ofDigitsBE_digitsBE (base k n : ℕ) :
    ofDigitsBE base (digitsBE base k n) = n % base ^ k := by
  induction k generalizing n with
  | zero => simp [digitsBE, ofDigitsBE, Nat.mod_one]
  | succ k ih =>
    rw [digitsBE, ofDigitsBE_concat, ih, Nat.pow_succ', Nat.mod_mul, Nat.add_comm]

theorem length_digitsBE (base k n : ℕ) : (digitsBE base k n).length = k := by
  induction k generalizing n with
  | zero => rfl
  | succ k ih => simp [digitsBE, ih]

theorem lt_of_mem_digitsBE {base k n d : ℕ} (hb : 0 < base) (h : d ∈ digitsBE base k n) :
    d < base := by
  induction k generalizing n with
  | zero => simp [digitsBE] at h
  | succ k ih =>
    rcases List.mem_append.mp h with h | h
    · exact ih h
    · rw [List.mem_singleton.mp h]
      exact Nat.mod_lt _ hb

/-! ### Digits -/

/-- The value of a digit; sixteen, if it is none. -/
def digitValue (c : Char) : ℕ :=
  if 48 ≤ c.toNat ∧ c.toNat ≤ 57 then c.toNat - 48
  else if 97 ≤ c.toNat ∧ c.toNat ≤ 102 then c.toNat - 87
  else if 65 ≤ c.toNat ∧ c.toNat ≤ 70 then c.toNat - 55
  else 16

/-- A digit of the base. -/
def isDigit (radix : ℕ) (c : Char) : Bool := digitValue c < radix

theorem digitValue_digitChar {d : ℕ} (hd : d < 16) : digitValue d.digitChar = d := by
  interval_cases d <;> rfl

theorem isDigit_of_mem_toDigits {radix n : ℕ} (h1 : 1 < radix) (h16 : radix ≤ 16) {c : Char}
    (hc : c ∈ Nat.toDigits radix n) : isDigit radix c = true := by
  induction n using Nat.base_induction radix h1 with
  | single m hm =>
    rw [Nat.toDigits_of_lt_base hm, List.mem_singleton] at hc
    simp [hc, isDigit, digitValue_digitChar (show m < 16 by omega), hm]
  | digit m k hk hm ih =>
    rw [← Nat.toDigits_append_toDigits h1 hm hk, Nat.toDigits_of_lt_base hk, List.mem_append,
      List.mem_singleton] at hc
    rcases hc with hc | rfl
    · exact ih hc
    · simp [isDigit, digitValue_digitChar (show k < 16 by omega), hk]

theorem ofDigitsBE_toDigits {radix : ℕ} (h1 : 1 < radix) (h16 : radix ≤ 16) (n : ℕ) :
    ofDigitsBE radix ((Nat.toDigits radix n).map digitValue) = n := by
  induction n using Nat.base_induction radix h1 with
  | single m hm =>
    simp [Nat.toDigits_of_lt_base hm, ofDigitsBE, digitValue_digitChar (show m < 16 by omega)]
  | digit m k hk hm ih =>
    rw [← Nat.toDigits_append_toDigits h1 hm hk, Nat.toDigits_of_lt_base hk, List.map_append,
      List.map_singleton, ofDigitsBE_concat, ih, digitValue_digitChar (show k < 16 by omega)]

/-- Only zero is printed with a zero in front. -/
theorem head_toDigits {radix n : ℕ} (h1 : 1 < radix) (h16 : radix ≤ 16)
    (h : (Nat.toDigits radix n).head? = some '0') : (Nat.toDigits radix n).length = 1 := by
  induction n using Nat.base_induction radix h1 with
  | single m hm => simp [Nat.toDigits_of_lt_base hm]
  | digit m k hk hm ih =>
    rw [← Nat.toDigits_append_toDigits h1 hm hk, List.head?_append,
      Option.or_of_isSome (by simp)] at h
    have hl := ih h
    obtain ⟨c, hc⟩ := List.length_eq_one_iff.mp hl
    rw [hc, List.head?_singleton, Option.some.injEq] at h
    have hv := ofDigitsBE_toDigits h1 h16 m
    rw [hc, h] at hv
    exact absurd hv (by simp [ofDigitsBE, digitValue]; omega)

/-! ### Readers -/

/-- What reads a value off the front of a text, and leaves the rest. -/
abbrev Reader (β : Type*) := List Char → Option (β × List Char)

/-- A number: of so many digits at most, and below the bound. -/
def readNumber (radix : ℕ) (maxDigits : Option ℕ) (allowZeroPrefix : Bool) (bound : ℕ) :
    Reader ℕ := fun s =>
  let digits := s.takeWhile (isDigit radix)
  let n := ofDigitsBE radix (digits.map digitValue)
  if digits.isEmpty || maxDigits.any (· < digits.length) ||
      (!allowZeroPrefix && digits.head? = some '0' && 1 < digits.length) || bound ≤ n then none
  else some (n, s.dropWhile (isDigit radix))

/-- The character. -/
def readGivenChar (c : Char) (s : List Char) : Option (List Char) :=
  if s.head? = some c then some s.tail else none

/-- What another reader reads, after the separator unless it is the first. -/
def readSeparator {β : Type*} (sep : Char) (first : Bool) (inner : Reader β) : Reader β := fun s =>
  if first then inner s else (readGivenChar sep s).bind inner

/-- So many octets, separated by dots. -/
def readOctets : ℕ → Bool → Reader (List ℕ)
  | 0, _ => fun s => some ([], s)
  | n + 1, first => fun s =>
    (readSeparator '.' first (readNumber 10 (some 3) false 256) s).bind fun (g, s) =>
      (readOctets n false s).map fun (gs, s) => (g :: gs, s)

/-- An address of version 4: four octets. -/
def readIpv4 : Reader (BitVec 32) := fun s =>
  (readOctets 4 true s).map fun (gs, s) => (BitVec.ofNat 32 (ofDigitsBE 256 gs), s)

/-- Groups of an address of version 6, up to so many, with whether they end in an address of
version 4, and the rest. -/
def readGroups : ℕ → Bool → List Char → List ℕ × Bool × List Char
  | 0, _, s => ([], false, s)
  | n + 1, first, s =>
    match if 0 < n then readSeparator ':' first readIpv4 s else none with
    | some (ipv4, s) => (digitsBE (2 ^ 16) 2 ipv4.toNat, true, s)
    | none =>
      match readSeparator ':' first (readNumber 16 (some 4) true (2 ^ 16)) s with
      | none => ([], false, s)
      | some (g, s) =>
        let (gs, ipv4, s) := readGroups n false s
        (g :: gs, ipv4, s)

/-- The address with these groups. -/
def ofGroups (groups : List ℕ) : BitVec 128 := BitVec.ofNat 128 (ofDigitsBE (2 ^ 16) groups)

/-- An address of version 6: eight groups, or fewer around a double colon. -/
def readIpv6 : Reader (BitVec 128) := fun s =>
  let (head, headIpv4, s) := readGroups 8 true s
  if head.length = 8 then some (ofGroups head, s)
  else if headIpv4 then none
  else ((readGivenChar ':' s).bind (readGivenChar ':')).map fun s =>
    let (tail, _, s) := readGroups (8 - (head.length + 1)) true s
    (ofGroups (head ++ List.replicate (8 - head.length - tail.length) 0 ++ tail), s)

/-- An address of either version. -/
def readIpAddr : Reader (BitVec 32 ⊕ BitVec 128) := fun s =>
  match readIpv4 s with
  | some (ipv4, s) => some (.inl ipv4, s)
  | none => (readIpv6 s).map fun (ipv6, s) => (.inr ipv6, s)

/-- A port, after its colon. -/
def readPort : Reader ℕ := fun s =>
  (readGivenChar ':' s).bind (readNumber 10 none true (2 ^ 16))

/-- The rest after a scope identifier, if there is one. -/
def skipScopeId (s : List Char) : List Char :=
  match (readGivenChar '%' s).bind (readNumber 10 none true (2 ^ 32)) with
  | some (_, s) => s
  | none => s

/-- A socket address: an address and a port, with brackets around an address of version 6. -/
def readSocketAddr : Reader ((BitVec 32 ⊕ BitVec 128) × ℕ) := fun s =>
  match (readIpv4 s).bind fun (ipv4, s) => (readPort s).map fun (port, s) => (ipv4, port, s) with
  | some (ipv4, port, s) => some ((.inl ipv4, port), s)
  | none =>
    ((readGivenChar '[' s).bind readIpv6).bind fun (ipv6, s) =>
      ((readGivenChar ']' (skipScopeId s)).bind readPort).map fun (port, s) =>
        ((.inr ipv6, port), s)

/-- What is read, if nothing is left. -/
def parseWith {β : Type*} (read : Reader β) (s : List Char) : Option β :=
  match read s with
  | some (v, []) => some v
  | _ => none

theorem parseWith_eq_some_iff {β : Type*} {read : Reader β} {s : List Char} {v : β} :
    parseWith read s = some v ↔ read s = some (v, []) := by
  unfold parseWith
  split
  next v' h => simp [h]
  next h =>
    simp only [reduceCtorEq, false_iff]
    exact fun hv => h v hv

/-! ### Printing -/

/-- Numbers separated by a character. -/
def fmtSubslice (radix : ℕ) (sep : Char) : List ℕ → List Char
  | [] => []
  | g :: gs => Nat.toDigits radix g ++ gs.flatMap fun g => sep :: Nat.toDigits radix g

def fmtIpv4 (ipv4 : BitVec 32) : List Char := fmtSubslice 10 '.' (digitsBE 256 4 ipv4.toNat)

/-- A run of groups. -/
structure Span where
  start : ℕ
  len : ℕ
  deriving DecidableEq, Repr

/-- The longest run of zeros so far, and the one that the group before belongs to. -/
def zeroStep (groups : ℕ × Span × Span) (g : ℕ) : ℕ × Span × Span :=
  let (i, longest, current) := groups
  if g = 0 then
    let current := ⟨if current.len = 0 then i else current.start, current.len + 1⟩
    (i + 1, if longest.len < current.len then current else longest, current)
  else (i + 1, longest, ⟨0, 0⟩)

/-- The longest run of zeros, the first of several. -/
def zeroes (groups : List ℕ) : Span := (groups.foldl zeroStep (0, ⟨0, 0⟩, ⟨0, 0⟩)).2.1

/-- An address of version 6, from its groups; one that stands for an address of version 4 ends in
that. -/
def fmtGroups (groups : List ℕ) : List Char :=
  match groups with
  | [0, 0, 0, 0, 0, 65535, a, b] =>
    "::ffff:".toList ++ fmtIpv4 (BitVec.ofNat 32 (ofDigitsBE (2 ^ 16) [a, b]))
  | _ =>
    let z := zeroes groups
    if 1 < z.len then
      fmtSubslice 16 ':' (groups.take z.start) ++ ':' :: ':' ::
        fmtSubslice 16 ':' (groups.drop (z.start + z.len))
    else fmtSubslice 16 ':' groups

def fmtIpv6 (ipv6 : BitVec 128) : List Char := fmtGroups (digitsBE (2 ^ 16) 8 ipv6.toNat)

/-! ### What is printed is read back -/

variable {radix n : ℕ} {rest : List Char}

/-- A text does not go on with a digit of the base. -/
def Bounded (radix : ℕ) (rest : List Char) : Prop := ∀ c ∈ rest.head?, isDigit radix c = false

theorem takeWhile_toDigits (h1 : 1 < radix) (h16 : radix ≤ 16) (hr : Bounded radix rest) :
    (Nat.toDigits radix n ++ rest).takeWhile (isDigit radix) = Nat.toDigits radix n := by
  rw [List.takeWhile_append_of_pos fun c hc => isDigit_of_mem_toDigits h1 h16 hc]
  cases rest with
  | nil => simp
  | cons c rest => simp [hr c rfl]

theorem dropWhile_toDigits (h1 : 1 < radix) (h16 : radix ≤ 16) (hr : Bounded radix rest) :
    (Nat.toDigits radix n ++ rest).dropWhile (isDigit radix) = rest := by
  rw [List.dropWhile_append_of_pos fun c hc => isDigit_of_mem_toDigits h1 h16 hc]
  cases rest with
  | nil => simp
  | cons c rest => simp [hr c rfl]

/-- A number is read back. -/
theorem readNumber_toDigits {maxDigits bound : ℕ} {allowZeroPrefix : Bool} (h1 : 1 < radix)
    (h16 : radix ≤ 16) (hmax : 0 < maxDigits) (hn : n < radix ^ maxDigits) (hbound : n < bound)
    (hr : Bounded radix rest) :
    readNumber radix (some maxDigits) allowZeroPrefix bound (Nat.toDigits radix n ++ rest) =
      some (n, rest) := by
  have hlen : (Nat.toDigits radix n).length ≤ maxDigits :=
    (Nat.length_toDigits_le_iff h1 hmax).mpr hn
  have hzero : ¬ ((Nat.toDigits radix n).head? = some '0' ∧ 1 < (Nat.toDigits radix n).length) := by
    rintro ⟨h0, hl⟩
    have := head_toDigits h1 h16 h0
    omega
  unfold readNumber
  simp only [takeWhile_toDigits h1 h16 hr, dropWhile_toDigits h1 h16 hr,
    ofDigitsBE_toDigits h1 h16]
  rw [if_neg]
  simp only [Bool.or_eq_true, Bool.and_eq_true, List.isEmpty_iff, Nat.toDigits_ne_nil, false_or,
    Option.any_some, decide_eq_true_eq, not_or, not_and, not_lt, not_le]
  exact ⟨⟨hlen, fun h => not_lt.mp fun hl => hzero ⟨h.2, hl⟩⟩, hbound⟩

theorem bounded_cons {sep : Char} (hsep : isDigit radix sep = false) :
    Bounded radix (sep :: rest) := by
  simpa [Bounded] using hsep

theorem bounded_flatMap {sep : Char} {f : ℕ → List Char} {gs : List ℕ}
    (hsep : isDigit radix sep = false) (hr : Bounded radix rest) :
    Bounded radix ((gs.flatMap fun g => sep :: f g) ++ rest) := by
  cases gs with
  | nil => exact hr
  | cons g gs => exact bounded_cons hsep

theorem readOctets_succ (n : ℕ) (first : Bool) (s : List Char) :
    readOctets (n + 1) first s =
      (readSeparator '.' first (readNumber 10 (some 3) false 256) s).bind fun (g, s) =>
        (readOctets n false s).map fun (gs, s) => (g :: gs, s) := rfl

/-- The octets after the first are read back. -/
theorem readOctets_flatMap (gs : List ℕ) (hgs : ∀ g ∈ gs, g < 256) (hr : Bounded 10 rest) :
    readOctets gs.length false ((gs.flatMap fun g => '.' :: Nat.toDigits 10 g) ++ rest) =
      some (gs, rest) := by
  induction gs with
  | nil => rfl
  | cons g gs ih =>
    obtain ⟨hg, hgs⟩ := List.forall_mem_cons.mp hgs
    have hnum := @readNumber_toDigits 10 g _ 3 _ false
      (by omega) (by omega) (by omega) (show g < 10 ^ 3 by omega) hg
      (@bounded_flatMap 10 _ '.' (Nat.toDigits 10) gs rfl hr)
    simp only [List.length_cons, List.flatMap_cons, List.cons_append, List.append_assoc,
      readOctets_succ, readSeparator, readGivenChar, List.head?_cons, List.tail_cons, if_true,
      Bool.false_eq_true, if_false, Option.bind_some, hnum, ih hgs, Option.map_some]

/-- **An address of version 4 is read back.** -/
theorem readIpv4_fmtIpv4 (ipv4 : BitVec 32) (hr : Bounded 10 rest) :
    readIpv4 (fmtIpv4 ipv4 ++ rest) = some (ipv4, rest) := by
  have hlen : (digitsBE 256 4 ipv4.toNat).length = 4 := length_digitsBE ..
  have hlt : ∀ g ∈ digitsBE 256 4 ipv4.toNat, g < 256 := fun g hg =>
    lt_of_mem_digitsBE (by omega) hg
  have hval : BitVec.ofNat 32 (ofDigitsBE 256 (digitsBE 256 4 ipv4.toNat)) = ipv4 := by
    rw [ofDigitsBE_digitsBE, Nat.mod_eq_of_lt (by have := ipv4.isLt; omega), BitVec.ofNat_toNat,
      BitVec.setWidth_eq]
  unfold readIpv4 fmtIpv4
  generalize digitsBE 256 4 ipv4.toNat = gs at hlen hlt hval
  cases gs with
  | nil => cases hlen
  | cons g gs =>
    obtain ⟨hg, hgs⟩ := List.forall_mem_cons.mp hlt
    have hlen' : gs.length = 3 := by simpa using hlen
    have hnum := @readNumber_toDigits 10 g _ 3 _ false
      (by omega) (by omega) (by omega) (show g < 10 ^ 3 by omega) hg
      (@bounded_flatMap 10 _ '.' (Nat.toDigits 10) gs rfl hr)
    have htail := readOctets_flatMap gs hgs hr
    rw [hlen'] at htail
    simp only [fmtSubslice, List.append_assoc, readOctets_succ 3, readSeparator, if_true, hnum,
      Option.bind_some, htail, Option.map_some, hval]

/-! ### Groups are read back -/

/-- The groups end here: nothing is left, or a double colon follows. -/
def Ends (rest : List Char) : Prop := rest = [] ∨ ∃ s, rest = ':' :: ':' :: s

theorem Ends.bounded (h : Ends rest) (radix : ℕ) (h16 : radix ≤ 16) : Bounded radix rest := by
  rcases h with rfl | ⟨s, rfl⟩
  · simp [Bounded]
  · exact bounded_cons (by simpa [isDigit, digitValue] using h16)

/-- Where no digit is, there is no number. -/
theorem readNumber_of_bounded {maxDigits : Option ℕ} {allowZeroPrefix : Bool} {bound : ℕ}
    (hr : Bounded radix rest) : readNumber radix maxDigits allowZeroPrefix bound rest = none := by
  have hnil : rest.takeWhile (isDigit radix) = [] := by
    cases rest with
    | nil => rfl
    | cons c rest => simp [hr c rfl]
  simp [readNumber, hnil]

/-- An address of version 4 starts with decimal digits and a dot. -/
theorem exists_of_readIpv4 {s : List Char} {v : BitVec 32 × List Char} (h : readIpv4 s = some v) :
    s.takeWhile (isDigit 10) ≠ [] ∧ ∃ s', s.dropWhile (isDigit 10) = '.' :: s' := by
  unfold readIpv4 at h
  obtain ⟨o1, h, -⟩ := Option.map_eq_some_iff.mp h
  rw [readOctets_succ] at h
  obtain ⟨⟨g, s1⟩, hg, h⟩ := Option.bind_eq_some_iff.mp h
  obtain ⟨o2, h, -⟩ := Option.map_eq_some_iff.mp h
  rw [readOctets_succ] at h
  obtain ⟨o3, h, -⟩ := Option.bind_eq_some_iff.mp h
  simp only [readSeparator, Bool.false_eq_true, if_false, readGivenChar] at h
  obtain ⟨s2, h, -⟩ := Option.bind_eq_some_iff.mp h
  split_ifs at h with hdot
  simp only [readSeparator, if_true, readNumber] at hg
  split_ifs at hg with hn
  simp only [Option.some.injEq, Prod.mk.injEq] at hg
  obtain ⟨-, rfl⟩ := hg
  exact ⟨fun hnil => hn (by simp [hnil]), List.head?_eq_some_iff.mp hdot⟩

/-- A hexadecimal group is not the start of an address of version 4. -/
theorem readIpv4_toDigits (g : ℕ) (hr : Bounded 16 rest) (hdot : rest.head? ≠ some '.') :
    readIpv4 (Nat.toDigits 16 g ++ rest) = none := by
  by_contra hne
  obtain ⟨v, hv⟩ := Option.ne_none_iff_exists'.mp hne
  obtain ⟨-, s', hs'⟩ := exists_of_readIpv4 hv
  -- the dot ends the hexadecimal digits, so it is what follows the group
  have hpre : ∀ c ∈ (Nat.toDigits 16 g ++ rest).takeWhile (isDigit 10), isDigit 16 c = true := by
    intro c hc
    have := List.mem_takeWhile_imp hc
    simp only [isDigit, decide_eq_true_eq] at this ⊢
    omega
  have hsplit := List.takeWhile_append_dropWhile (p := isDigit 10) (l := Nat.toDigits 16 g ++ rest)
  have hdrop := dropWhile_toDigits (n := g) (by omega) (by omega) hr
  rw [← hsplit, List.dropWhile_append_of_pos hpre, hs'] at hdrop
  rw [← hdrop] at hdot
  exact hdot rfl

theorem readIpv4_of_bounded (hr : Bounded 10 rest) : readIpv4 rest = none := by
  by_contra hne
  obtain ⟨v, hv⟩ := Option.ne_none_iff_exists'.mp hne
  obtain ⟨htake, -⟩ := exists_of_readIpv4 hv
  cases rest with
  | nil => exact htake rfl
  | cons c rest => exact htake (by simp [hr c rfl])

/-- No group starts where the groups end. -/
theorem readGroups_of_ends (n : ℕ) (first : Bool) (hr : Ends rest) :
    readGroups n first rest = ([], false, rest) := by
  have hsep : ∀ {β : Type} (read : Reader β),
      (∀ s, Bounded 16 s → read s = none) → readSeparator ':' first read rest = none := by
    intro β read hread
    have hcolon : ∀ s, Bounded 16 (':' :: s) := fun s => bounded_cons rfl
    rcases hr with rfl | ⟨s, rfl⟩
    · cases first <;> simp [readSeparator, readGivenChar, hread [] (by simp [Bounded])]
    · cases first <;> simp [readSeparator, readGivenChar, hread _ (hcolon _)]
  have hnum := hsep (readNumber 16 (some 4) true (2 ^ 16)) fun s hs => readNumber_of_bounded hs
  have hipv4 := hsep readIpv4 fun s hs => readIpv4_of_bounded fun c hc => by
    have := hs c hc
    simp only [isDigit, decide_eq_false_iff_not] at this ⊢
    omega
  cases n with
  | zero => rfl
  | succ n =>
    simp only [readGroups, hnum, hipv4, ite_self]

/-- A group at the front is read. -/
theorem readGroups_toDigits (n : ℕ) (first : Bool) {g : ℕ} (hg : g < 2 ^ 16) {s : List Char}
    (hs : Bounded 16 s) (hdot : s.head? ≠ some '.') :
    readGroups (n + 1) first ((if first then [] else [':']) ++ Nat.toDigits 16 g ++ s) =
      (g :: (readGroups n false s).1, (readGroups n false s).2) := by
  have hnum := @readNumber_toDigits 16 g _ 4 _ true
    (by omega) (by omega) (by omega) (show g < 16 ^ 4 by omega) hg hs
  have hipv4 := readIpv4_toDigits g hs hdot
  have hsep : ∀ {β : Type} (read : Reader β),
      readSeparator ':' first read ((if first then [] else [':']) ++ Nat.toDigits 16 g ++ s) =
        read (Nat.toDigits 16 g ++ s) := by
    intro β read
    cases first <;> simp [readSeparator, readGivenChar]
  simp only [readGroups, hsep, hipv4, hnum, ite_self]

theorem Ends.dot (h : Ends rest) : rest.head? ≠ some '.' := by
  rcases h with rfl | ⟨s, rfl⟩ <;> simp

/-- What follows a group does not go on with its digits. -/
theorem Ends.bounded_groups (h : Ends rest) (gs : List ℕ) :
    Bounded 16 ((gs.flatMap fun g => ':' :: Nat.toDigits 16 g) ++ rest) :=
  @bounded_flatMap 16 _ ':' (Nat.toDigits 16) gs rfl (h.bounded 16 le_rfl)

/-- What follows a group does not make it a part of an address of version 4. -/
theorem Ends.dot_groups (h : Ends rest) (gs : List ℕ) :
    ((gs.flatMap fun g => ':' :: Nat.toDigits 16 g) ++ rest).head? ≠ some '.' := by
  cases gs with
  | nil => exact h.dot
  | cons g gs => simp

/-- Groups after the first are read back, up to where they end. -/
theorem readGroups_flatMap {n : ℕ} {gs : List ℕ} (hn : gs.length ≤ n)
    (hgs : ∀ g ∈ gs, g < 2 ^ 16) (hr : Ends rest) :
    readGroups n false ((gs.flatMap fun g => ':' :: Nat.toDigits 16 g) ++ rest) =
      (gs, false, rest) := by
  induction gs generalizing n with
  | nil => exact readGroups_of_ends n false hr
  | cons g gs ih =>
    obtain ⟨hg, hgs⟩ := List.forall_mem_cons.mp hgs
    obtain ⟨n, rfl⟩ : ∃ k, n = k + 1 := ⟨n - 1, by simp at hn; omega⟩
    have := readGroups_toDigits n false hg (hr.bounded_groups gs) (hr.dot_groups gs)
    simp only [Bool.false_eq_true, if_false, List.cons_append, List.nil_append] at this
    simp only [List.flatMap_cons, List.cons_append, List.append_assoc, this,
      ih (by simpa using hn) hgs]

/-- Groups are read back, up to where they end. -/
theorem readGroups_fmtSubslice {n : ℕ} {gs : List ℕ} (hn : gs.length ≤ n)
    (hgs : ∀ g ∈ gs, g < 2 ^ 16) (hr : Ends rest) :
    readGroups n true (fmtSubslice 16 ':' gs ++ rest) = (gs, false, rest) := by
  cases gs with
  | nil => exact readGroups_of_ends n true hr
  | cons g gs =>
    obtain ⟨hg, hgs⟩ := List.forall_mem_cons.mp hgs
    obtain ⟨n, rfl⟩ : ∃ k, n = k + 1 := ⟨n - 1, by simp at hn; omega⟩
    have := readGroups_toDigits n true hg (hr.bounded_groups gs) (hr.dot_groups gs)
    simp only [if_true, List.nil_append] at this
    rw [fmtSubslice, List.append_assoc, this, readGroups_flatMap (by simpa using hn) hgs hr]

/-- **The run that is left out when printing is one of zeros.** -/
theorem zeroes_spec (groups : List ℕ) : ∃ pre post : List ℕ,
    groups = pre ++ List.replicate (zeroes groups).len 0 ++ post ∧
      ((zeroes groups).len ≠ 0 → pre.length = (zeroes groups).start) := by
  -- the current run ends where the groups read so far end
  have hinv : ∀ l : List ℕ, (l.foldl zeroStep (0, ⟨0, 0⟩, ⟨0, 0⟩)).1 = l.length ∧
      (∃ pre post : List ℕ, l = pre ++ List.replicate (zeroes l).len 0 ++ post ∧
        ((zeroes l).len ≠ 0 → pre.length = (zeroes l).start)) ∧
      ∃ pre : List ℕ, l = pre ++ List.replicate (l.foldl zeroStep (0, ⟨0, 0⟩, ⟨0, 0⟩)).2.2.len 0 ∧
        ((l.foldl zeroStep (0, ⟨0, 0⟩, ⟨0, 0⟩)).2.2.len ≠ 0 →
          pre.length = (l.foldl zeroStep (0, ⟨0, 0⟩, ⟨0, 0⟩)).2.2.start) := by
    intro l
    induction l using List.reverseRecOn with
    | nil => exact ⟨rfl, ⟨[], [], rfl, fun h => absurd rfl h⟩, [], rfl, fun h => absurd rfl h⟩
    | append_singleton l g ih =>
      obtain ⟨hi, ⟨a, b, hab, hastart⟩, c, hc, hcstart⟩ := ih
      unfold zeroes at hab hastart ⊢
      rw [List.foldl_append, List.foldl_cons, List.foldl_nil]
      generalize l.foldl zeroStep (0, ⟨0, 0⟩, ⟨0, 0⟩) = t at hi hab hastart hc hcstart ⊢
      obtain ⟨i, longest, current⟩ := t
      dsimp only at hi hab hastart hc hcstart
      have hlong : ∃ pre post, l ++ [g] = pre ++ List.replicate longest.len 0 ++ post ∧
          (longest.len ≠ 0 → pre.length = longest.start) :=
        ⟨a, b ++ [g], by rw [← List.append_assoc, ← hab], hastart⟩
      by_cases hg : g = 0
      · subst hg
        have hcur : l ++ [0] = c ++ List.replicate (current.len + 1) 0 := by
          rw [List.replicate_succ', ← List.append_assoc, ← hc]
        have hstart : c.length = if current.len = 0 then i else current.start := by
          split_ifs with h0
          · rw [h0, List.replicate_zero, List.append_nil] at hc
            rw [hi, hc]
          · exact hcstart h0
        simp only [zeroStep, if_true]
        generalize (if current.len = 0 then i else current.start) = start at hstart ⊢
        refine ⟨by simp [hi], ?_, c, hcur, fun _ => hstart⟩
        split_ifs
        · exact ⟨c, [], by rw [List.append_nil]; exact hcur, fun _ => hstart⟩
        · exact hlong
      · simp only [zeroStep, if_neg hg]
        exact ⟨by simp [hi], hlong, l ++ [g], by simp, fun h => absurd rfl h⟩
  exact (hinv groups).2.1

theorem bitVec_ofGroups (ipv6 : BitVec 128) : ofGroups (digitsBE (2 ^ 16) 8 ipv6.toNat) = ipv6 := by
  rw [ofGroups, ofDigitsBE_digitsBE, Nat.mod_eq_of_lt (by have := ipv6.isLt; omega),
    BitVec.ofNat_toNat, BitVec.setWidth_eq]

/-- Groups around a double colon are read back. -/
theorem readIpv6_doubleColon {pre post : List ℕ} {k : ℕ} (hlen : pre.length + k + post.length = 8)
    (hk : 0 < k) (hpre : ∀ g ∈ pre, g < 2 ^ 16) (hpost : ∀ g ∈ post, g < 2 ^ 16) :
    readIpv6 (fmtSubslice 16 ':' pre ++ ':' :: ':' :: fmtSubslice 16 ':' post) =
      some (ofGroups (pre ++ List.replicate k 0 ++ post), []) := by
  have hhead := @readGroups_fmtSubslice _ 8 pre (by omega) hpre
    (.inr ⟨fmtSubslice 16 ':' post, rfl⟩)
  have htail := @readGroups_fmtSubslice _ (8 - (pre.length + 1)) post (by omega) hpost
    (.inl rfl)
  rw [List.append_nil] at htail
  have hk' : 8 - pre.length - post.length = k := by omega
  simp only [readIpv6, hhead, if_neg (show pre.length ≠ 8 by omega), Bool.false_eq_true, if_false,
    readGivenChar, List.head?_cons, if_true, List.tail_cons, Option.bind_some, htail,
    Option.map_some, hk']

/-- An address that stands for one of version 4 is read back. -/
theorem readIpv6_mapped (ipv4 : BitVec 32) :
    readIpv6 ("::ffff:".toList ++ fmtIpv4 ipv4) =
      some (ofGroups ([0, 0, 0, 0, 0, 65535] ++ digitsBE (2 ^ 16) 2 ipv4.toNat), []) := by
  have hipv4 := @readIpv4_fmtIpv4 [] ipv4 (by simp [Bounded])
  rw [List.append_nil] at hipv4
  have hlast : readGroups 6 false (':' :: fmtIpv4 ipv4) =
      (digitsBE (2 ^ 16) 2 ipv4.toNat, true, []) := by
    simp [readGroups, readSeparator, readGivenChar, hipv4]
  have htail := readGroups_toDigits 6 true (show 65535 < 2 ^ 16 by omega)
    (@bounded_cons _ (fmtIpv4 ipv4) _ (show isDigit 16 ':' = false from rfl)) (by simp)
  rw [hlast] at htail
  have hlen : (digitsBE (2 ^ 16) 2 ipv4.toNat).length = 2 := length_digitsBE ..
  have hhead := @readGroups_of_ends ("::ffff:".toList ++ fmtIpv4 ipv4) 8 true (.inr ⟨_, rfl⟩)
  have hdigits : Nat.toDigits 16 65535 = "ffff".toList := by decide
  simp only [if_true, List.nil_append, hdigits] at htail
  have hcolons : "::ffff:".toList ++ fmtIpv4 ipv4 =
      ':' :: ':' :: ("ffff".toList ++ ':' :: fmtIpv4 ipv4) := rfl
  rw [hcolons] at hhead ⊢
  simp only [readIpv6, hhead, List.length_nil, readGivenChar, List.head?_cons, if_true,
    List.tail_cons, Option.bind_some, Nat.zero_add, Nat.reduceSub, htail, Option.map_some,
    List.length_cons, hlen, Bool.false_eq_true, if_false, OfNat.zero_ne_ofNat]
  rfl

/-- **An address of version 6 is read back.** -/
theorem readIpv6_fmtIpv6 (ipv6 : BitVec 128) : readIpv6 (fmtIpv6 ipv6) = some (ipv6, []) := by
  have hlen : (digitsBE (2 ^ 16) 8 ipv6.toNat).length = 8 := length_digitsBE ..
  have hlt : ∀ g ∈ digitsBE (2 ^ 16) 8 ipv6.toNat, g < 2 ^ 16 := fun g hg =>
    lt_of_mem_digitsBE (by omega) hg
  have hval := bitVec_ofGroups ipv6
  rw [fmtIpv6]
  generalize digitsBE (2 ^ 16) 8 ipv6.toNat = groups at hlen hlt hval ⊢
  subst hval
  unfold fmtGroups
  split
  next a b =>
    have ha : a < 2 ^ 16 := hlt a (by simp)
    have hb : b < 2 ^ 16 := hlt b (by simp)
    have hdigits :
        digitsBE (2 ^ 16) 2 (BitVec.ofNat 32 (ofDigitsBE (2 ^ 16) [a, b])).toNat = [a, b] := by
      simp only [ofDigitsBE, List.foldl_cons, List.foldl_nil, digitsBE, BitVec.toNat_ofNat,
        List.nil_append, List.singleton_append, List.cons.injEq, and_true]
      omega
    rw [readIpv6_mapped, hdigits]
    rfl
  next =>
    obtain ⟨pre, post, hsplit, hstart⟩ := zeroes_spec groups
    dsimp only
    split_ifs with hz
    · generalize zeroes groups = z at hsplit hstart hz ⊢
      obtain ⟨start, len⟩ := z
      dsimp only at hsplit hstart hz ⊢
      obtain rfl := hstart (by omega)
      subst hsplit
      have hdrop : (pre ++ List.replicate len 0 ++ post).drop (pre.length + len) = post :=
        List.drop_left' (by simp)
      rw [hdrop, List.append_assoc, List.take_left]
      simp only [List.length_append, List.length_replicate] at hlen
      rw [readIpv6_doubleColon hlen (by omega) (fun g hg => hlt g (by simp [hg]))
        (fun g hg => hlt g (by simp [hg])), List.append_assoc]
    · have hread := readGroups_fmtSubslice (n := 8) (by omega) hlt (.inl rfl)
      rw [List.append_nil] at hread
      simp [readIpv6, hread, hlen]

/-- The start of an address of version 6 is not one of version 4. -/
theorem readIpv4_of_readIpv6 {s : List Char} {v : BitVec 128 × List Char}
    (h : readIpv6 s = some v) : readIpv4 s = none := by
  by_contra hne
  obtain ⟨⟨ipv4, s'⟩, hv⟩ := Option.ne_none_iff_exists'.mp hne
  simp [readIpv6, readGroups, readSeparator, hv, length_digitsBE] at h

theorem parse_fmtIpv4 (ipv4 : BitVec 32) :
    parseWith readIpAddr (fmtIpv4 ipv4) = some (.inl ipv4) := by
  have h := @readIpv4_fmtIpv4 [] ipv4 (by simp [Bounded])
  rw [List.append_nil] at h
  rw [parseWith_eq_some_iff, readIpAddr, h]

theorem parse_fmtIpv6 (ipv6 : BitVec 128) :
    parseWith readIpAddr (fmtIpv6 ipv6) = some (.inr ipv6) := by
  have h := readIpv6_fmtIpv6 ipv6
  rw [parseWith_eq_some_iff, readIpAddr, readIpv4_of_readIpv6 h, h]
  rfl

/-! ### The characters of an address -/

/-- What a reader takes is a piece off the front, made of such characters. -/
def Consumes {β : Type*} (q : Char → Prop) (read : Reader β) : Prop :=
  ∀ s v rest, read s = some (v, rest) → ∃ p, s = p ++ rest ∧ ∀ c ∈ p, q c

/-- A hexadecimal digit, a dot, or a colon. -/
def IsAddrChar (c : Char) : Prop := isDigit 16 c = true ∨ c = '.' ∨ c = ':'

theorem consumes_readNumber {maxDigits : Option ℕ} {allowZeroPrefix : Bool} {bound : ℕ}
    (h16 : radix ≤ 16) : Consumes IsAddrChar (readNumber radix maxDigits allowZeroPrefix bound) := by
  intro s v rest h
  unfold readNumber at h
  dsimp only at h
  split_ifs at h
  simp only [Option.some.injEq, Prod.mk.injEq] at h
  obtain ⟨-, rfl⟩ := h
  refine ⟨s.takeWhile (isDigit radix), List.takeWhile_append_dropWhile.symm, fun c hc => .inl ?_⟩
  have := List.mem_takeWhile_imp hc
  simp only [isDigit, decide_eq_true_eq] at this ⊢
  omega

theorem readGivenChar_eq_some {c : Char} {s s' : List Char} (h : readGivenChar c s = some s') :
    s = c :: s' := by
  unfold readGivenChar at h
  split_ifs at h with hc
  obtain ⟨t, rfl⟩ := List.head?_eq_some_iff.mp hc
  cases h
  rfl

theorem consumes_readSeparator {β : Type*} {q : Char → Prop} {read : Reader β} {sep : Char}
    {first : Bool} (hsep : q sep) (hread : Consumes q read) :
    Consumes q (readSeparator sep first read) := by
  intro s v rest h
  cases first with
  | true => exact hread s v rest h
  | false =>
    obtain ⟨s', hs, h⟩ := Option.bind_eq_some_iff.mp h
    obtain ⟨p, rfl, hp⟩ := hread s' v rest h
    exact ⟨sep :: p, readGivenChar_eq_some hs, List.forall_mem_cons.mpr ⟨hsep, hp⟩⟩

theorem consumes_readOctets (n : ℕ) (first : Bool) : Consumes IsAddrChar (readOctets n first) := by
  induction n generalizing first with
  | zero =>
    intro s v rest h
    cases h
    exact ⟨[], rfl, by simp⟩
  | succ n ih =>
    intro s v rest h
    rw [readOctets_succ] at h
    obtain ⟨⟨g, s1⟩, hg, h⟩ := Option.bind_eq_some_iff.mp h
    obtain ⟨⟨gs, s2⟩, hgs, h⟩ := Option.map_eq_some_iff.mp h
    cases h
    obtain ⟨p, rfl, hp⟩ := consumes_readSeparator (.inr (.inl rfl))
      (consumes_readNumber (by omega)) s g s1 hg
    obtain ⟨p', rfl, hp'⟩ := ih false s1 gs rest hgs
    exact ⟨p ++ p', by simp, List.forall_mem_append.mpr ⟨hp, hp'⟩⟩

theorem consumes_readIpv4 : Consumes IsAddrChar readIpv4 := by
  intro s v rest h
  obtain ⟨⟨gs, s'⟩, hgs, h⟩ := Option.map_eq_some_iff.mp h
  cases h
  exact consumes_readOctets 4 true s gs rest hgs

theorem consumes_readGroups (n : ℕ) (first : Bool) (s : List Char) :
    ∃ p, s = p ++ (readGroups n first s).2.2 ∧ ∀ c ∈ p, IsAddrChar c := by
  induction n generalizing first s with
  | zero => exact ⟨[], rfl, by simp⟩
  | succ n ih =>
    unfold readGroups
    split
    next ipv4 s' h =>
      split_ifs at h
      exact consumes_readSeparator (.inr (.inr rfl)) consumes_readIpv4 s ipv4 s' h
    next =>
      split
      next => exact ⟨[], rfl, by simp⟩
      next g s' h =>
        obtain ⟨p, rfl, hp⟩ := consumes_readSeparator (.inr (.inr rfl))
          (consumes_readNumber (by omega)) s g s' h
        obtain ⟨p', hs, hp'⟩ := ih false s'
        refine ⟨p ++ p', ?_, List.forall_mem_append.mpr ⟨hp, hp'⟩⟩
        rw [List.append_assoc, ← hs]

theorem consumes_readIpv6 : Consumes IsAddrChar readIpv6 := by
  intro s v rest h
  obtain ⟨p, hs, hp⟩ := consumes_readGroups 8 true s
  unfold readIpv6 at h
  generalize readGroups 8 true s = r at h hs
  obtain ⟨head, headIpv4, s1⟩ := r
  dsimp only at h hs
  split_ifs at h
  · cases h
    exact ⟨p, hs, hp⟩
  · obtain ⟨s3, h3, h⟩ := Option.map_eq_some_iff.mp h
    obtain ⟨s2, h2, h3⟩ := Option.bind_eq_some_iff.mp h3
    obtain ⟨p', hs', hp'⟩ := consumes_readGroups (8 - (head.length + 1)) true s3
    generalize readGroups (8 - (head.length + 1)) true s3 = r at h hs'
    cases h
    refine ⟨p ++ (':' :: ':' :: p'), ?_, ?_⟩
    · rw [hs, readGivenChar_eq_some h2, readGivenChar_eq_some h3, hs']
      simp
    · intro c hc
      simp only [List.mem_append, List.mem_cons] at hc
      rcases hc with hc | rfl | rfl | hc
      · exact hp c hc
      · exact .inr (.inr rfl)
      · exact .inr (.inr rfl)
      · exact hp' c hc

theorem consumes_readIpAddr : Consumes IsAddrChar readIpAddr := by
  intro s v rest h
  unfold readIpAddr at h
  split at h
  next ipv4 s' h4 =>
    cases h
    exact consumes_readIpv4 s ipv4 rest h4
  next =>
    obtain ⟨⟨ipv6, s'⟩, h6, h⟩ := Option.map_eq_some_iff.mp h
    cases h
    exact consumes_readIpv6 s ipv6 rest h6

/-- **A text that is parsed as an address has the characters of one only.** -/
theorem isAddrChar_of_parse {s : List Char} {v : BitVec 32 ⊕ BitVec 128}
    (h : parseWith readIpAddr s = some v) : ∀ c ∈ s, IsAddrChar c := by
  obtain ⟨p, hs, hp⟩ := consumes_readIpAddr s v [] (parseWith_eq_some_iff.mp h)
  rw [List.append_nil] at hs
  exact hs ▸ hp

end MuxrCore.Lib.Address
