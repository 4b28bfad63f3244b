import Mathlib.Data.List.MinMax
import Mathlib.Data.Rat.Lemmas
import Mathlib.Tactic.NormNum
import MuxrCore.Lib.Tables
import MuxrCore.Lib.TokenBucket

/-! # The rate limiters of the push relay

A limiter has a bucket for each key, and the keys are the senders' to choose. So a call first drops
the buckets that have had the time to fill, and then, if its key is a new one, those that were asked
longest ago, until there is room. Numbers are exact.

* `length_tryAcquireAt_le`: there are never more buckets than `hardCap`.
* `tracks_step`: unless the loop has taken it, a key's bucket is alike the one that was never
  dropped. -/

namespace MuxrCore.PushRelay.RateLimit

open MuxrCore.Lib.Tables MuxrCore.Lib.TokenBucket

abbrev Buckets := AList fun _ : String => Bucket ℚ

/-- The longest duration, which stands for no horizon. -/
def durationMax : ℚ := 2 ^ 64 - 1 + 999999999 / 10 ^ 9

/-! ### The code -/

structure TokenBuckets where
  capacity : ℚ
  refillPerSec : ℚ
  /-- a bucket that was left alone for so long is full -/
  idleHorizon : ℚ
  hardCap : ℕ
  buckets : Buckets

/-- The order in which a map is gone through. It is not determined, and another one for each map. -/
structure Order where
  rows : Buckets → List (Σ _ : String, Bucket ℚ)
  perm : ∀ m, (rows m).Perm m.entries

/-- The key that was asked longest ago; of several, the first. -/
def oldest (order : Order) (map : Buckets) : Option String :=
  ((order.rows map).argmin fun row => row.2.last).map Sigma.fst

/-- The loop of `evict`, with the keys that it removes. A round takes a row away, so that there are
no more rounds than rows. -/
def makeRoom (order : Order) (hardCap : ℕ) (keep : String) : ℕ → Buckets → Buckets × List String
  | 0, map => (map, [])
  | rounds + 1, map =>
    if keep ∉ map ∧ hardCap ≤ map.keys.length then
      match oldest order map with
      | some key =>
        let r := makeRoom order hardCap keep rounds (map.erase key)
        (r.1, key :: r.2)
      | none => (map, [])
    else (map, [])

namespace TokenBuckets

def withLimits (capacity refillPerSec : ℚ) (hardCap : ℕ) : TokenBuckets where
  capacity := capacity
  refillPerSec := refillPerSec
  idleHorizon := if 0 < refillPerSec then capacity / refillPerSec else durationMax
  hardCap := hardCap
  buckets := ∅

def new (capacity refillPerSec : ℚ) : TokenBuckets := withLimits capacity refillPerSec 10000

/-- The buckets that were asked within the horizon. -/
def sweep (s : TokenBuckets) (now : ℚ) : Buckets :=
  if s.idleHorizon ≠ durationMax then
    keepRows s.buckets fun _ b => decide (max 0 (now - b.last) < s.idleHorizon)
  else s.buckets

/-- Drop the idle buckets, then make room for a key; with the keys that the loop removes. -/
def evict (s : TokenBuckets) (order : Order) (keep : String) (now : ℚ) : Buckets × List String :=
  makeRoom order s.hardCap keep (s.sweep now).keys.length (s.sweep now)

def tryAcquireAt (s : TokenBuckets) (order : Order) (key : String) (now : ℚ) :
    Bool × TokenBuckets :=
  let map := (s.evict order key now).1
  let bucket := (map.lookup key).getD { tokens := s.capacity, last := now }
  let elapsed := max 0 (now - bucket.last)
  let tokens := min (bucket.tokens + elapsed * s.refillPerSec) s.capacity
  if 1 ≤ tokens then
    (true, { s with buckets := map.insert key { tokens := tokens - 1, last := now } })
  else (false, { s with buckets := map.insert key { tokens := tokens, last := now } })

end TokenBuckets

/-- The limiters of the relay. -/
structure RateLimiter where
  perHandleBurst : TokenBuckets
  perIpRegister : TokenBuckets
  perIpRequest : TokenBuckets

namespace RateLimiter

def new : RateLimiter where
  perHandleBurst := .new 10 (10 / 60)
  perIpRegister := .new 10 (10 / 3600)
  perIpRequest := .new 60 1

def allowNotify (s : RateLimiter) (order : Order) (handle : String) (now : ℚ) :
    Bool × RateLimiter :=
  let r := s.perHandleBurst.tryAcquireAt order handle now
  (r.1, { s with perHandleBurst := r.2 })

def allowRegister (s : RateLimiter) (order : Order) (ip : String) (now : ℚ) : Bool × RateLimiter :=
  let r := s.perIpRegister.tryAcquireAt order ip now
  (r.1, { s with perIpRegister := r.2 })

def allowRequest (s : RateLimiter) (order : Order) (ip : String) (now : ℚ) : Bool × RateLimiter :=
  let r := s.perIpRequest.tryAcquireAt order ip now
  (r.1, { s with perIpRequest := r.2 })

end RateLimiter

/-! ### Sequences of calls -/

/-- A call, and the order in which it goes through the map. -/
structure Call where
  key : String
  now : ℚ
  order : Order

def TokenBuckets.step (s : TokenBuckets) (c : Call) : TokenBuckets :=
  (s.tryAcquireAt c.order c.key c.now).2

/-- The answers, with their keys. -/
def answers : TokenBuckets → List Call → List (String × Bool)
  | _, [] => []
  | s, c :: calls => (c.key, (s.tryAcquireAt c.order c.key c.now).1) :: answers (s.step c) calls

def answersTo (key : String) (os : List (String × Bool)) : List Bool :=
  (os.filter fun o => o.1 = key).map Prod.snd

/-- The times at which a key is asked. -/
def times (key : String) (calls : List Call) : List ℚ :=
  (calls.filter fun c => c.key = key).map Call.now

/-- The keys whose buckets the loop removes in the calls. -/
def removed : TokenBuckets → List Call → List String
  | _, [] => []
  | s, c :: calls => (s.evict c.order c.key c.now).2 ++ removed (s.step c) calls

variable {s : TokenBuckets} {key keep : String} {now t : ℚ} {order : Order} {hardCap : ℕ}

/-! ### The loop -/

theorem oldest_mem {map : Buckets} (h : oldest order map = some key) : key ∈ map := by
  obtain ⟨row, hrow, rfl⟩ := Option.map_eq_some_iff.mp h
  have hmem := (order.perm map).mem_iff.mp (List.argmin_mem hrow)
  exact AList.mem_keys.mpr (List.mem_map_of_mem hmem)

/-- There is an oldest bucket, if there is any. -/
theorem oldest_eq_none {map : Buckets} (h : oldest order map = none) : map.keys.length = 0 := by
  have hnil : order.rows map = [] := List.argmin_eq_none.mp (Option.map_eq_none_iff.mp h)
  have hlen := (order.perm map).length_eq
  rw [hnil] at hlen
  show (List.map _ _).length = 0
  rw [List.length_map, ← hlen]
  rfl

theorem length_erase {map : Buckets} (h : key ∈ map) :
    (map.erase key).keys.length + 1 = map.keys.length := by
  have hk : key ∈ map.keys := AList.mem_keys.mp h
  rw [AList.keys_erase, List.length_erase_of_mem hk,
    Nat.sub_add_cancel (List.length_pos_of_mem hk)]

/-- **The loop makes room:** for a new key there are fewer buckets than the cap. -/
theorem makeRoom_room (hhard : 1 ≤ hardCap) {rounds : ℕ} {map : Buckets}
    (hrounds : map.keys.length ≤ rounds) :
    keep ∈ (makeRoom order hardCap keep rounds map).1 ∨
      (makeRoom order hardCap keep rounds map).1.keys.length < hardCap := by
  induction rounds generalizing map with
  | zero =>
    right
    show map.keys.length < hardCap
    omega
  | succ rounds ih =>
    rw [makeRoom]
    split_ifs with hfull
    · rcases ho : oldest order map with - | key
      · right
        show map.keys.length < hardCap
        have hempty := oldest_eq_none ho
        omega
      · have hlen := length_erase (oldest_mem ho)
        exact ih (by omega)
    · by_cases hk : keep ∈ map
      · exact Or.inl hk
      · exact Or.inr (not_le.mp fun hle => hfull ⟨hk, hle⟩)

theorem length_makeRoom_le {rounds : ℕ} {map : Buckets} :
    (makeRoom order hardCap keep rounds map).1.keys.length ≤ map.keys.length := by
  induction rounds generalizing map with
  | zero => exact le_rfl
  | succ rounds ih =>
    rw [makeRoom]
    split_ifs with hfull
    · rcases ho : oldest order map with - | key
      · exact le_rfl
      · have hlen := length_erase (oldest_mem ho)
        exact le_trans ih (by omega)
    · exact le_rfl

/-- The buckets that the loop does not remove are as they were. -/
theorem lookup_makeRoom {rounds : ℕ} {map : Buckets} :
    (makeRoom order hardCap keep rounds map).1.lookup key =
      if key ∈ (makeRoom order hardCap keep rounds map).2 then none else map.lookup key := by
  induction rounds generalizing map with
  | zero => rfl
  | succ rounds ih =>
    rw [makeRoom]
    split_ifs with hfull hkey hkey
    · rcases ho : oldest order map with - | old
      · simp [ho] at hkey
      · simp only [ho, List.mem_cons] at hkey ⊢
        rw [ih]
        split_ifs with hrest
        · rfl
        · rw [hkey.resolve_right hrest, AList.lookup_erase]
    · rcases ho : oldest order map with - | old
      · rfl
      · simp only [ho, List.mem_cons, not_or] at hkey ⊢
        rw [ih, if_neg hkey.2, AList.lookup_erase_ne hkey.1]
    · simp at hkey
    · rfl

/-! ### One call -/

/-- **A call asks the bucket of its key**, which is full if there is none. -/
theorem tryAcquireAt_eq_request (s : TokenBuckets) (order : Order) (key : String) (now : ℚ) :
    s.tryAcquireAt order key now =
      ((request s.refillPerSec s.capacity ((s.evict order key now).1.lookup key) now).1,
        { s with
          buckets := (s.evict order key now).1.insert key (request s.refillPerSec s.capacity
            ((s.evict order key now).1.lookup key) now).2 }) := by
  unfold TokenBuckets.tryAcquireAt request Bucket.take Bucket.refill
  generalize (s.evict order key now).1 = map
  by_cases h : 1 ≤ min (((map.lookup key).getD ⟨s.capacity, now⟩).tokens +
      max 0 (now - ((map.lookup key).getD ⟨s.capacity, now⟩).last) * s.refillPerSec) s.capacity
  · simp only [h, if_true]
  · simp only [h, if_false]

theorem length_sweep_le (s : TokenBuckets) (now : ℚ) :
    (s.sweep now).keys.length ≤ s.buckets.keys.length := by
  unfold TokenBuckets.sweep
  split_ifs
  · exact length_keepRows_le _
  · exact le_rfl

/-- **There are never more buckets than the cap.** -/
theorem length_tryAcquireAt_le (hhard : 1 ≤ s.hardCap)
    (h : s.buckets.keys.length ≤ s.hardCap) (order : Order) (key : String) (now : ℚ) :
    (s.tryAcquireAt order key now).2.buckets.keys.length ≤ s.hardCap := by
  rw [tryAcquireAt_eq_request]
  by_cases hk : key ∈ (s.evict order key now).1
  · rw [length_keys_insert_of_mem _ hk]
    exact le_trans length_makeRoom_le (le_trans (length_sweep_le s now) h)
  · rw [length_keys_insert _ hk]
    exact (makeRoom_room hhard le_rfl).resolve_left hk

/-- What holds of a limiter at all times: the horizon is the time to fill, and no bucket is below
zero. -/
structure Sound (s : TokenBuckets) : Prop where
  one_le_capacity : 1 ≤ s.capacity
  refill_nonneg : 0 ≤ s.refillPerSec
  horizon : s.idleHorizon ≠ durationMax →
    0 < s.refillPerSec ∧ s.idleHorizon = s.capacity / s.refillPerSec
  tokens_nonneg : ∀ key b, s.buckets.lookup key = some b → 0 ≤ b.tokens

theorem sound_withLimits {capacity refill : ℚ} (hcap : 1 ≤ capacity) (hrefill : 0 ≤ refill)
    (hardCap : ℕ) : Sound (.withLimits capacity refill hardCap) := by
  refine ⟨hcap, hrefill, fun h => ?_, fun key b hb => by cases hb⟩
  by_cases hpos : 0 < refill
  · exact ⟨hpos, if_pos hpos⟩
  · exact absurd (if_neg hpos) h

theorem lookup_sweep_le {b : Bucket ℚ} (h : (s.sweep now).lookup key = some b) :
    s.buckets.lookup key = some b := by
  unfold TokenBuckets.sweep at h
  split_ifs at h
  · rw [lookup_keepRows] at h
    exact (Option.filter_eq_some_iff.mp h).1
  · exact h

theorem lookup_evict_le {b : Bucket ℚ} (h : (s.evict order keep now).1.lookup key = some b) :
    s.buckets.lookup key = some b := by
  rw [TokenBuckets.evict, lookup_makeRoom] at h
  split_ifs at h
  exact lookup_sweep_le h

theorem Sound.step (h : Sound s) (c : Call) : Sound (s.step c) := by
  have hcap : (0 : ℚ) ≤ s.capacity := le_trans zero_le_one h.one_le_capacity
  rw [TokenBuckets.step, tryAcquireAt_eq_request]
  refine ⟨h.one_le_capacity, h.refill_nonneg, h.horizon, fun key b hb => ?_⟩
  rw [lookup_insert_eq] at hb
  split_ifs at hb
  · cases hb
    exact request_tokens_nonneg h.refill_nonneg hcap
      fun b hb => h.tokens_nonneg c.key b (lookup_evict_le hb)
  · exact h.tokens_nonneg key b (lookup_evict_le hb)

/-- **The sweep drops full buckets only.** -/
theorem Sound.sweep (h : Sound s) (key : String) (now : ℚ) :
    Alike s.refillPerSec s.capacity ((s.sweep now).lookup key) (s.buckets.lookup key) now := by
  unfold TokenBuckets.sweep
  split_ifs with hhorizon
  · obtain ⟨hpos, heq⟩ := h.horizon hhorizon
    rw [lookup_keepRows]
    rcases hb : s.buckets.lookup key with - | b
    · exact Or.inl rfl
    · by_cases hrecent : max 0 (now - b.last) < s.idleHorizon
      · left
        rw [Option.filter_some, if_pos (decide_eq_true hrecent)]
      · right
        refine ⟨by rw [Option.filter_some, if_neg (by simpa using hrecent)], fun b' hb' => ?_⟩
        cases hb'
        rw [heq] at hrecent
        exact fullAt_of_idle hpos (h.tokens_nonneg key b hb) (not_lt.mp hrecent)
  · exact Or.inl rfl

/-- What `evict` leaves of a key that the loop spares. -/
theorem Sound.evict (h : Sound s) {right : Option (Bucket ℚ)}
    (halike : Alike s.refillPerSec s.capacity (s.buckets.lookup key) right now)
    (hspared : key ∉ (s.evict order keep now).2) :
    Alike s.refillPerSec s.capacity ((s.evict order keep now).1.lookup key) right now := by
  have hloop : (s.evict order keep now).1.lookup key = (s.sweep now).lookup key := by
    rw [TokenBuckets.evict, lookup_makeRoom]
    exact if_neg hspared
  rw [hloop]
  rcases h.sweep key now with hkept | ⟨hnone, hfull⟩
  · rw [hkept]
    exact halike
  · right
    refine ⟨hnone, fun b hb => ?_⟩
    rcases halike with heq | ⟨-, hright⟩
    · exact hfull b (heq ▸ hb)
    · exact hright b hb

/-! ### Runs -/

/-- **A key that the loop spares is answered as by a bucket of its own** that is never dropped. -/
theorem answersTo_answers (h : Sound s) {right : Option (Bucket ℚ)} {calls : List Call}
    (halike : Alike s.refillPerSec s.capacity (s.buckets.lookup key) right t)
    (htimes : (t :: calls.map Call.now).Pairwise (· ≤ ·)) (hspared : key ∉ removed s calls) :
    answersTo key (answers s calls) =
      (outcomes s.refillPerSec s.capacity right (times key calls)).map Prod.snd := by
  induction calls generalizing s right t with
  | nil => rfl
  | cons c calls ih =>
    obtain ⟨hge, hrest⟩ := List.pairwise_cons.mp htimes
    have hspared : key ∉ (s.evict c.order c.key c.now).2 ++ removed (s.step c) calls := hspared
    rw [List.mem_append, not_or] at hspared
    have hnow := h.evict (halike.mono h.refill_nonneg (hge c.now List.mem_cons_self)) hspared.1
    have hstep := tryAcquireAt_eq_request s c.order c.key c.now
    have hbuckets : (s.step c).buckets = (s.evict c.order c.key c.now).1.insert c.key
        (request s.refillPerSec s.capacity ((s.evict c.order c.key c.now).1.lookup c.key)
          c.now).2 := by
      rw [TokenBuckets.step, hstep]
    have hparams : (s.step c).refillPerSec = s.refillPerSec ∧ (s.step c).capacity = s.capacity := by
      rw [TokenBuckets.step, hstep]
      exact ⟨rfl, rfl⟩
    have ih := fun right' => @ih (s.step c) c.now (h.step c) right'
    rw [hparams.1, hparams.2, hbuckets, lookup_insert_eq] at ih
    by_cases hkey : c.key = key
    · -- the call asks this key's bucket
      subst hkey
      rw [if_pos rfl] at ih
      have hlast := ih _ (Or.inl rfl) hrest hspared.2
      have hfirst : answersTo c.key (answers s (c :: calls)) =
          (s.tryAcquireAt c.order c.key c.now).1 :: answersTo c.key (answers (s.step c) calls) := by
        simp [answers, answersTo]
      have hread : times c.key (c :: calls) = c.now :: times c.key calls := by
        simp [times]
      rw [hfirst, hread, hlast, hstep, hnow.request]
      rfl
    · rw [if_neg (Ne.symm hkey)] at ih
      have hfirst : answersTo key (answers s (c :: calls)) =
          answersTo key (answers (s.step c) calls) := by
        simp [answers, answersTo, hkey]
      have hread : times key (c :: calls) = times key calls := by
        simp [times, hkey]
      rw [hfirst, hread]
      exact ih right hnow hrest hspared.2

theorem length_run_le (hhard : 1 ≤ s.hardCap) (h : s.buckets.keys.length ≤ s.hardCap)
    (calls : List Call) :
    (calls.foldl TokenBuckets.step s).buckets.keys.length ≤ s.hardCap := by
  induction calls generalizing s with
  | nil => exact h
  | cons c calls ih =>
    have hcap : (s.step c).hardCap = s.hardCap := by
      rw [TokenBuckets.step, tryAcquireAt_eq_request]
    have hnext : (s.step c).buckets.keys.length ≤ (s.step c).hardCap :=
      hcap ▸ length_tryAcquireAt_le hhard h c.order c.key c.now
    exact hcap ▸ ih (hcap ▸ hhard) hnext

/-- **A limiter is as good as one bucket for each key:** it never has more buckets than the cap, and
a key that the loop spares is answered as by a bucket that is never dropped and gets its calls
alone. -/
theorem limiter_refines_buckets {capacity refill : ℚ} {hardCap : ℕ} (hcap : 1 ≤ capacity)
    (hrefill : 0 ≤ refill) (hhard : 1 ≤ hardCap) {calls : List Call}
    (htimes : (calls.map Call.now).Pairwise (· ≤ ·)) :
    (∀ pre post, calls = pre ++ post →
      (pre.foldl TokenBuckets.step (.withLimits capacity refill hardCap)).buckets.keys.length ≤
        hardCap) ∧
      ∀ key, key ∉ removed (.withLimits capacity refill hardCap) calls →
        answersTo key (answers (.withLimits capacity refill hardCap) calls) =
          (outcomes refill capacity none (times key calls)).map Prod.snd := by
  refine ⟨fun pre post _ => length_run_le hhard (Nat.zero_le _) pre, fun key hspared => ?_⟩
  rcases calls with - | ⟨c, calls⟩
  · rfl
  · have hfirst : (c.now :: (c :: calls).map Call.now).Pairwise (· ≤ ·) := by
      refine List.pairwise_cons.mpr ⟨fun t ht => ?_, htimes⟩
      rcases List.mem_cons.mp ht with rfl | ht
      · exact le_rfl
      · exact (List.pairwise_cons.mp htimes).1 t ht
    exact answersTo_answers (sound_withLimits hcap hrefill hardCap) (Or.inl rfl) hfirst hspared

/-- The order in which the rows were written. -/
def writtenOrder : Order := ⟨AList.entries, fun _ => List.Perm.refl _⟩

/-- Two keys, with room for two: `a` empties its bucket, and is back after a minute. -/
def visits : List Call :=
  [⟨"a", 0, writtenOrder⟩, ⟨"a", 0, writtenOrder⟩, ⟨"b", 1, writtenOrder⟩, ⟨"a", 61, writtenOrder⟩]

theorem limiter_refines_buckets_visits :
    (visits.map Call.now).Pairwise (· ≤ ·) ∧
      "a" ∉ removed (.withLimits 1 (1 / 60) 2) visits ∧
      answersTo "a" (answers (.withLimits 1 (1 / 60) 2) visits) = [true, false, true] := by
  have htimes : (visits.map Call.now).Pairwise (· ≤ ·) := by decide +kernel
  have hspared : "a" ∉ removed (.withLimits 1 (1 / 60) 2) visits := by decide +kernel
  refine ⟨htimes, hspared, ?_⟩
  rw [(limiter_refines_buckets le_rfl (by norm_num) (by norm_num) htimes).2 "a" hspared]
  decide +kernel

end MuxrCore.PushRelay.RateLimit
