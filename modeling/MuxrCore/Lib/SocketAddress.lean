import MuxrCore.Lib.Address

/-! # Socket addresses as text

A socket address is an address and a port, and around an address of version 6 there are brackets.

* `Stops q read`: the reader does not read on after a character of this kind, so what follows it
  does not matter. `stops_readIpv4` and `stops_readIpv6` say it of the addresses.
* `readBracketed_eq_some_iff`, `readPort_eq_some_iff`: what is read there.
* `parse_socketAddr_iff`: a text is a socket address if and only if it is a host, a colon and a
  port. -/

namespace MuxrCore.Lib.Address

/-! ### Where a reader stops -/

/-- From a character of this kind on, the reader leaves the text as it is. -/
def Stops {β : Type*} (q : Char → Prop) (read : Reader β) : Prop :=
  ∀ s c t, q c → read (s ++ c :: t) = (read s).map fun (v, rest) => (v, rest ++ c :: t)

theorem Stops.mono {β : Type*} {q q' : Char → Prop} {read : Reader β} (h : Stops q read)
    (hq : ∀ c, q' c → q c) : Stops q' read := fun s c t hc => h s c t (hq c hc)

theorem takeWhile_append_cons {p : Char → Bool} {c : Char} (h : p c = false) (s t : List Char) :
    (s ++ c :: t).takeWhile p = s.takeWhile p := by
  induction s with
  | nil => rw [List.nil_append, List.takeWhile_cons, h]; rfl
  | cons x s ih => rw [List.cons_append, List.takeWhile_cons, List.takeWhile_cons, ih]

theorem dropWhile_append_cons {p : Char → Bool} {c : Char} (h : p c = false) (s t : List Char) :
    (s ++ c :: t).dropWhile p = s.dropWhile p ++ c :: t := by
  induction s with
  | nil => rw [List.nil_append, List.dropWhile_cons, h]; rfl
  | cons x s ih =>
    rw [List.cons_append, List.dropWhile_cons, List.dropWhile_cons, ih]
    split_ifs <;> rfl

theorem stops_readNumber (radix : ℕ) (maxDigits : Option ℕ) (allowZeroPrefix : Bool) (bound : ℕ) :
    Stops (fun c => isDigit radix c = false)
      (readNumber radix maxDigits allowZeroPrefix bound) := by
  intro s c t hc
  unfold readNumber
  rw [takeWhile_append_cons hc, dropWhile_append_cons hc]
  dsimp only
  split_ifs <;> rfl

theorem readGivenChar_append {x c : Char} (h : c ≠ x) (s t : List Char) :
    readGivenChar x (s ++ c :: t) = (readGivenChar x s).map (· ++ c :: t) := by
  cases s with
  | nil => simp [readGivenChar, h]
  | cons y s =>
    unfold readGivenChar
    rw [List.cons_append, List.head?_cons, List.head?_cons, List.tail_cons, List.tail_cons]
    split_ifs <;> rfl

theorem stops_readSeparator {β : Type*} {q : Char → Prop} {read : Reader β} {sep : Char}
    (first : Bool) (h : Stops q read) (hsep : ¬q sep) :
    Stops q (readSeparator sep first read) := by
  intro s c t hc
  have hne : c ≠ sep := fun he => hsep (he ▸ hc)
  cases first with
  | true => exact h s c t hc
  | false =>
    unfold readSeparator
    rw [if_neg Bool.false_ne_true, if_neg Bool.false_ne_true, readGivenChar_append hne]
    cases readGivenChar sep s with
    | none => rfl
    | some s => exact h s c t hc

theorem stops_readOctets (n : ℕ) (first : Bool) :
    Stops (fun c => isDigit 10 c = false ∧ c ≠ '.') (readOctets n first) := by
  induction n generalizing first with
  | zero => exact fun s c t _ => rfl
  | succ n ih =>
    intro s c t hc
    have hnumber : Stops (fun c => isDigit 10 c = false ∧ c ≠ '.')
        (readNumber 10 (some 3) false 256) := (stops_readNumber 10 _ _ _).mono fun c hc => hc.1
    rw [readOctets_succ, readOctets_succ,
      stops_readSeparator first hnumber (fun h => h.2 rfl) s c t hc]
    cases readSeparator '.' first (readNumber 10 (some 3) false 256) s with
    | none => rfl
    | some r =>
      obtain ⟨g, s⟩ := r
      simp only [Option.map_some, Option.bind_some]
      rw [ih false s c t hc]
      cases readOctets n false s <;> rfl

theorem stops_readIpv4 : Stops (fun c => isDigit 10 c = false ∧ c ≠ '.') readIpv4 := by
  intro s c t hc
  unfold readIpv4
  rw [stops_readOctets 4 true s c t hc]
  cases readOctets 4 true s <;> rfl

instance (c : Char) : Decidable (IsAddrChar c) := inferInstanceAs (Decidable (_ ∨ _))

/-- What is no character of an address is no digit and no dot. -/
theorem not_digit_of_not_isAddrChar {c : Char} (hc : ¬IsAddrChar c) :
    isDigit 16 c = false ∧ isDigit 10 c = false ∧ c ≠ '.' ∧ c ≠ ':' := by
  unfold IsAddrChar at hc
  rw [not_or, not_or] at hc
  have h16 := Bool.eq_false_of_not_eq_true hc.1
  refine ⟨h16, ?_, hc.2⟩
  simp only [isDigit, decide_eq_false_iff_not, not_lt] at h16 ⊢
  omega

theorem readGroups_append (n : ℕ) (first : Bool) (s : List Char) {c : Char} (hc : ¬IsAddrChar c)
    (t : List Char) : readGroups n first (s ++ c :: t) =
      ((readGroups n first s).1, (readGroups n first s).2.1,
        (readGroups n first s).2.2 ++ c :: t) := by
  obtain ⟨h16, h10, hdot, hcolon⟩ := not_digit_of_not_isAddrChar hc
  have hipv4 : Stops (· = c) readIpv4 := stops_readIpv4.mono fun _ h => h ▸ ⟨h10, hdot⟩
  have hnumber : Stops (· = c) (readNumber 16 (some 4) true (2 ^ 16)) :=
    (stops_readNumber 16 _ _ _).mono fun _ h => h ▸ h16
  induction n generalizing first s with
  | zero => rfl
  | succ n ih =>
    have h4 : (if 0 < n then readSeparator ':' first readIpv4 (s ++ c :: t) else none) =
        (if 0 < n then readSeparator ':' first readIpv4 s else none).map
          fun x => (x.1, x.2 ++ c :: t) := by
      split_ifs
      · exact stops_readSeparator first hipv4 (Ne.symm hcolon) s c t rfl
      · rfl
    have hg := stops_readSeparator first hnumber (Ne.symm hcolon) s c t rfl
    unfold readGroups
    rw [h4, hg]
    rcases if 0 < n then readSeparator ':' first readIpv4 s else none with _ | ⟨ipv4, s⟩
    · rcases readSeparator ':' first (readNumber 16 (some 4) true (2 ^ 16)) s with _ | ⟨g, s⟩
      · rfl
      · simp only [Option.map_none, Option.map_some, ih]
    · rfl

theorem stops_readIpv6 : Stops (fun c => ¬IsAddrChar c) readIpv6 := by
  intro s c t hc
  have hcolon := (not_digit_of_not_isAddrChar hc).2.2.2
  unfold readIpv6
  rw [readGroups_append 8 true s hc t]
  rcases readGroups 8 true s with ⟨head, headIpv4, s⟩
  dsimp only
  split_ifs
  · rfl
  · rfl
  · rw [readGivenChar_append hcolon]
    rcases readGivenChar ':' s with _ | s
    · rfl
    · rw [Option.map_some, Option.bind_some, readGivenChar_append hcolon, Option.bind_some]
      rcases readGivenChar ':' s with _ | s
      · rfl
      · simp only [Option.map_some, readGroups_append _ true s hc t]

/-- What is read in front of such a character is a text that is parsed as a whole. -/
theorem Stops.eq_some_iff {β : Type*} {q q' : Char → Prop} {read : Reader β} (h : Stops q read)
    (hread : Consumes q' read) {c : Char} (hc : q c) {s t : List Char} {v : β} :
    read s = some (v, c :: t) ↔ ∃ p, s = p ++ c :: t ∧ parseWith read p = some v := by
  constructor
  · intro hs
    obtain ⟨p, rfl, -⟩ := hread s v (c :: t) hs
    rw [h p c t hc] at hs
    obtain ⟨⟨v', rest⟩, hp, he⟩ := Option.map_eq_some_iff.mp hs
    obtain ⟨rfl, hrest⟩ := Prod.mk.inj he
    rw [List.append_left_eq_self.mp hrest] at hp
    exact ⟨p, rfl, parseWith_eq_some_iff.mpr hp⟩
  · rintro ⟨p, rfl, hp⟩
    rw [h p c t hc, parseWith_eq_some_iff.mp hp]
    rfl

/-! ### Socket addresses -/

/-- The number of a port or of a scope. -/
def parseNumber (bound : ℕ) (s : List Char) : Option ℕ :=
  parseWith (readNumber 10 none true bound) s

/-- A number is digits, leading zeros included, and below the bound. -/
theorem parseNumber_eq_some_iff {bound n : ℕ} {s : List Char} :
    parseNumber bound s = some n ↔ s ≠ [] ∧ (∀ c ∈ s, isDigit 10 c = true) ∧
      ofDigitsBE 10 (s.map digitValue) = n ∧ n < bound := by
  rw [parseNumber, parseWith_eq_some_iff]
  constructor
  · intro h
    unfold readNumber at h
    dsimp only at h
    split_ifs at h with hif
    obtain ⟨hn, hdrop⟩ := Prod.mk.inj (Option.some.inj h)
    have hall := List.dropWhile_eq_nil_iff.mp hdrop
    have htake : s.takeWhile (isDigit 10) = s := List.takeWhile_eq_self_iff.mpr hall
    rw [htake] at hn hif
    simp only [Bool.or_eq_true, List.isEmpty_iff, decide_eq_true_eq, not_or, not_le, hn] at hif
    exact ⟨hif.1.1.1, hall, hn, hif.2⟩
  · rintro ⟨hne, hall, rfl, hlt⟩
    unfold readNumber
    rw [List.takeWhile_eq_self_iff.mpr hall, List.dropWhile_eq_nil_iff.mpr hall]
    dsimp only
    rw [if_neg]
    simpa using ⟨hne, hlt⟩

/-- An address of version 6 in brackets, and its scope. -/
def readBracketed : Reader (BitVec 128) := fun s =>
  ((readGivenChar '[' s).bind readIpv6).bind fun (ipv6, s) =>
    (readGivenChar ']' (skipScopeId s)).map fun s => (ipv6, s)

/-- A scope identifier, or none. -/
def IsScope (s : List Char) : Prop :=
  s = [] ∨ ∃ digits n, s = '%' :: digits ∧ parseNumber (2 ^ 32) digits = some n

theorem readNumber_eq_iff {bound n : ℕ} {s rest : List Char} {c : Char}
    (hc : isDigit 10 c = false) : readNumber 10 none true bound s = some (n, c :: rest) ↔
      ∃ digits, s = digits ++ c :: rest ∧ parseNumber bound digits = some n :=
  (stops_readNumber 10 none true bound).eq_some_iff (consumes_readNumber (by decide)) hc

theorem skipScopeId_eq_iff {s rest : List Char} :
    skipScopeId s = ']' :: rest ↔ ∃ scope, s = scope ++ ']' :: rest ∧ IsScope scope := by
  constructor
  · intro h
    unfold skipScopeId at h
    split at h
    · rename_i n s' hn
      subst h
      obtain ⟨digits', hpercent, hn⟩ := Option.bind_eq_some_iff.mp hn
      obtain ⟨digits, rfl, hdigits⟩ := (readNumber_eq_iff (by decide)).mp hn
      exact ⟨'%' :: digits, readGivenChar_eq_some hpercent, .inr ⟨digits, n, rfl, hdigits⟩⟩
    · exact ⟨[], h, .inl rfl⟩
  · rintro ⟨scope, rfl, rfl | ⟨digits, n, rfl, hn⟩⟩
    · rfl
    · unfold skipScopeId
      rw [show readGivenChar '%' ('%' :: digits ++ ']' :: rest) =
          some (digits ++ ']' :: rest) from rfl, Option.bind_some,
        (readNumber_eq_iff (by decide)).mpr ⟨digits, rfl, hn⟩]

/-- **What is read as an address in brackets**, whatever follows. -/
theorem readBracketed_eq_some_iff {s rest : List Char} {v : BitVec 128} :
    readBracketed s = some (v, rest) ↔ ∃ p scope, s = '[' :: (p ++ (scope ++ ']' :: rest)) ∧
      parseWith readIpv6 p = some v ∧ IsScope scope := by
  -- what follows the address starts with `%` or with `]`
  have hstop : ∀ {scope : List Char}, IsScope scope → ∃ c t, scope ++ ']' :: rest = c :: t ∧
      ¬IsAddrChar c := by
    rintro scope (rfl | ⟨digits, n, rfl, -⟩)
    · exact ⟨']', rest, rfl, by decide⟩
    · exact ⟨'%', digits ++ ']' :: rest, rfl, by decide⟩
  constructor
  · intro h
    obtain ⟨⟨v', s2⟩, h2, h⟩ := Option.bind_eq_some_iff.mp h
    obtain ⟨s1, h1, h2⟩ := Option.bind_eq_some_iff.mp h2
    obtain ⟨s3, h3, h⟩ := Option.map_eq_some_iff.mp h
    cases h
    obtain ⟨scope, rfl, hscope⟩ := skipScopeId_eq_iff.mp (readGivenChar_eq_some h3)
    obtain ⟨c, t, hct, hc⟩ := hstop hscope
    rw [hct] at h2
    obtain ⟨p, rfl, hp⟩ := (stops_readIpv6.eq_some_iff consumes_readIpv6 hc).mp h2
    exact ⟨p, scope, by rw [readGivenChar_eq_some h1, hct], hp, hscope⟩
  · rintro ⟨p, scope, rfl, hp, hscope⟩
    obtain ⟨c, t, hct, hc⟩ := hstop hscope
    have h6 : readIpv6 (p ++ (scope ++ ']' :: rest)) = some (v, scope ++ ']' :: rest) := by
      rw [hct]
      exact (stops_readIpv6.eq_some_iff consumes_readIpv6 hc).mpr ⟨p, rfl, hp⟩
    unfold readBracketed
    rw [show readGivenChar '[' ('[' :: (p ++ (scope ++ ']' :: rest))) =
        some (p ++ (scope ++ ']' :: rest)) from rfl, Option.bind_some, h6, Option.bind_some]
    dsimp only
    rw [skipScopeId_eq_iff.mpr ⟨scope, rfl, hscope⟩]
    rfl

/-- An address in brackets is read as far as its closing one. -/
theorem readBracketed_eq_some_iff_parse {s rest : List Char} {v : BitVec 128} :
    readBracketed s = some (v, rest) ↔
      ∃ host, s = host ++ rest ∧ parseWith readBracketed host = some v := by
  constructor
  · intro h
    obtain ⟨p, scope, rfl, hp, hscope⟩ := readBracketed_eq_some_iff.mp h
    refine ⟨'[' :: (p ++ (scope ++ [']'])), by simp, parseWith_eq_some_iff.mpr ?_⟩
    exact readBracketed_eq_some_iff.mpr ⟨p, scope, rfl, hp, hscope⟩
  · rintro ⟨host, rfl, hhost⟩
    obtain ⟨p, scope, rfl, hp, hscope⟩ := readBracketed_eq_some_iff.mp
      (parseWith_eq_some_iff.mp hhost)
    exact readBracketed_eq_some_iff.mpr ⟨p, scope, by simp, hp, hscope⟩

/-- An address in brackets is not one of version 4. -/
theorem readIpv4_of_readBracketed {s rest : List Char} {v : BitVec 128}
    (h : readBracketed s = some (v, rest)) : readIpv4 s = none := by
  obtain ⟨p, scope, rfl, -⟩ := readBracketed_eq_some_iff.mp h
  exact readIpv4_of_bounded (bounded_cons (by decide))

/-- The address that stands in front of a port. -/
def parseBindHost (s : List Char) : Option (BitVec 32 ⊕ BitVec 128) :=
  ((parseWith readIpv4 s).map .inl).or ((parseWith readBracketed s).map .inr)

/-- What is left of a socket address after its host is a colon and the port. -/
theorem readPort_eq_some_iff {s : List Char} {port : ℕ} : readPort s = some (port, []) ↔
    ∃ digits, s = ':' :: digits ∧ parseNumber (2 ^ 16) digits = some port := by
  constructor
  · intro h
    obtain ⟨digits, hcolon, hn⟩ := Option.bind_eq_some_iff.mp h
    exact ⟨digits, readGivenChar_eq_some hcolon, parseWith_eq_some_iff.mpr hn⟩
  · rintro ⟨digits, rfl, hn⟩
    exact parseWith_eq_some_iff.mp hn

/-- **A text is a socket address if and only if it is a host, a colon and a port.** -/
theorem parse_socketAddr_iff {s : List Char} {addr : BitVec 32 ⊕ BitVec 128} {port : ℕ} :
    parseWith readSocketAddr s = some (addr, port) ↔ ∃ host digits, s = host ++ ':' :: digits ∧
      parseBindHost host = some addr ∧ parseNumber (2 ^ 16) digits = some port := by
  rw [parseWith_eq_some_iff]
  constructor
  · intro h
    unfold readSocketAddr at h
    split at h
    · rename_i ipv4 port' s' h4
      cases h
      obtain ⟨⟨v, s1⟩, hv, h4⟩ := Option.bind_eq_some_iff.mp h4
      obtain ⟨⟨n, s2⟩, hn, he⟩ := Option.map_eq_some_iff.mp h4
      cases he
      obtain ⟨digits, rfl, hport⟩ := readPort_eq_some_iff.mp hn
      obtain ⟨p, rfl, hp⟩ := (stops_readIpv4.eq_some_iff consumes_readIpv4 (by decide)).mp hv
      exact ⟨p, digits, rfl, by rw [parseBindHost, hp]; rfl, hport⟩
    · obtain ⟨⟨v, s1⟩, hv, h⟩ := Option.bind_eq_some_iff.mp h
      obtain ⟨⟨n, s2⟩, hn, he⟩ := Option.map_eq_some_iff.mp h
      cases he
      obtain ⟨s3, hs3, hn⟩ := Option.bind_eq_some_iff.mp hn
      obtain ⟨digits, rfl, hport⟩ := readPort_eq_some_iff.mp hn
      have hb : readBracketed s = some (v, ':' :: digits) := by
        rw [readBracketed, hv, Option.bind_some]
        dsimp only
        rw [hs3]
        rfl
      obtain ⟨host, rfl, hhost⟩ := readBracketed_eq_some_iff_parse.mp hb
      have hnone := readIpv4_of_readBracketed (parseWith_eq_some_iff.mp hhost)
      exact ⟨host, digits, rfl, by rw [parseBindHost, parseWith, hnone, hhost]; rfl, hport⟩
  · rintro ⟨host, digits, rfl, hhost, hport⟩
    have hn : readPort (':' :: digits) = some (port, []) :=
      readPort_eq_some_iff.mpr ⟨digits, rfl, hport⟩
    rcases Option.or_eq_some_iff.mp hhost with h4 | ⟨-, h6⟩
    · obtain ⟨v, hv, rfl⟩ := Option.map_eq_some_iff.mp h4
      have hread : readIpv4 (host ++ ':' :: digits) = some (v, ':' :: digits) :=
        (stops_readIpv4.eq_some_iff consumes_readIpv4 (by decide)).mpr ⟨host, rfl, hv⟩
      unfold readSocketAddr
      rw [hread, Option.bind_some]
      dsimp only
      rw [hn]
      rfl
    · obtain ⟨v, hv, rfl⟩ := Option.map_eq_some_iff.mp h6
      have hread : readBracketed (host ++ ':' :: digits) = some (v, ':' :: digits) :=
        readBracketed_eq_some_iff_parse.mpr ⟨host, rfl, hv⟩
      have hnone := readIpv4_of_readBracketed hread
      obtain ⟨⟨v', s1⟩, h1, hread⟩ := Option.bind_eq_some_iff.mp hread
      obtain ⟨s2, h2, he⟩ := Option.map_eq_some_iff.mp hread
      cases he
      unfold readSocketAddr
      rw [hnone, h1, Option.bind_some]
      dsimp only
      rw [h2, Option.bind_some, hn]
      rfl

end MuxrCore.Lib.Address
