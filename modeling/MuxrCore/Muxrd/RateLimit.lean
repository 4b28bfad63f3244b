import Mathlib.Data.Rat.Lemmas
import Mathlib.Tactic.NormNum
import MuxrCore.Lib.Runs
import MuxrCore.Lib.Tables
import MuxrCore.Lib.TokenBucket

/-! # The rate limiter of the daemon

Each client address has a token bucket. `allow` reads the clock, locks the bucket and asks it, then
counts the check; now and then the count makes it sweep the table, one shard after the other. Calls
run side by side, so `Act` has the parts of a call as actions of their own: an `update` has the
reading that its call took before it had the lock, and a `retain` is a sweep's visit to a shard.
Numbers are exact.

* `update_eq_request`: an update asks the bucket of the address, which is full if there is none.
* `step_buckets`: no sweep drops a bucket, since no update leaves one full.
* `answersTo_answers`: so an address is answered as by a bucket that gets its readings alone. -/

namespace MuxrCore.Muxrd.RateLimit

open MuxrCore.Lib.Runs MuxrCore.Lib.Tables MuxrCore.Lib.TokenBucket

abbrev IpAddr := BitVec 32 ⊕ BitVec 128

/-- The number of addresses beyond which the table is swept. -/
def maxTrackedIps : ℕ := 65536

/-- The address of the requests whose peer is not known. -/
def unknownIp : IpAddr := .inl 0

/-! ### The code -/

/-- The tokens a bucket gains in a second, and those it holds. -/
structure RateLimitConfig where
  rps : ℚ
  burst : ℚ
  rps_pos : 0 < rps
  one_le_burst : 1 ≤ burst

def RateLimitConfig.default : RateLimitConfig := ⟨30, 60, by norm_num, by norm_num⟩

/-- The values of the environment, if they make sense; no limiter if it is disabled there. A
variable that is not a finite number counts as not set. -/
def RateLimitConfig.fromEnv (disabled : Bool) (rps burst : Option ℚ) : Option RateLimitConfig :=
  if disabled then none
  else
    let d := RateLimitConfig.default
    let rps := rps.getD d.rps
    let burst := burst.getD d.burst
    some
      { rps := if 0 < rps then rps else d.rps
        burst := if 1 ≤ burst then burst else d.burst
        rps_pos := by split_ifs with h; exacts [h, d.rps_pos]
        one_le_burst := by split_ifs with h; exacts [h, d.one_le_burst] }

structure RateLimiter where
  cfg : RateLimitConfig
  buckets : AList fun _ : IpAddr => Bucket ℚ
  /-- the number of checks, which wraps -/
  checks : ℕ

namespace RateLimiter

def new (cfg : RateLimitConfig) : RateLimiter := ⟨cfg, ∅, 0⟩

/-- What `allow` does while it has the bucket of the address locked. -/
def update (s : RateLimiter) (ip : IpAddr) (now : ℚ) : Bool × RateLimiter :=
  let entry := (s.buckets.lookup ip).getD { tokens := s.cfg.burst, last := now }
  let elapsed := max 0 (now - entry.last)
  let tokens := min (entry.tokens + elapsed * s.cfg.rps) s.cfg.burst
  if 1 ≤ tokens then
    (true, { s with buckets := s.buckets.insert ip { tokens := tokens - 1, last := now } })
  else (false, { s with buckets := s.buckets.insert ip { tokens := tokens, last := now } })

/-- A sweep's visit to the addresses of a shard: the full buckets go. -/
def retain (s : RateLimiter) (shard : IpAddr → Bool) : RateLimiter :=
  { s with buckets := keepRows s.buckets fun ip b => !shard ip || decide (b.tokens < s.cfg.burst) }

/-- The check that comes next makes its call sweep. -/
def sweepDue (s : RateLimiter) : Bool :=
  decide (s.checks % maxTrackedIps = 0 ∧ maxTrackedIps < s.buckets.keys.length)

/-- What `allow` does once it has its answer. -/
def maintain (s : RateLimiter) : RateLimiter :=
  let counted := { s with checks := (s.checks + 1) % 2 ^ 64 }
  if s.sweepDue then counted.retain fun _ => true else counted

/-- A call that is not disturbed. -/
def allow (s : RateLimiter) (ip : IpAddr) (now : ℚ) : Bool × RateLimiter :=
  ((s.update ip now).1, (s.update ip now).2.maintain)

end RateLimiter

/-- What becomes of a request. -/
inductive Answer
  | forward
  | resourceExhausted (message : String)
  deriving DecidableEq, Repr

/-- The layer: without a limiter everything is forwarded. -/
def call (limiter : Option RateLimiter) (remote : Option IpAddr) (now : ℚ) :
    Answer × Option RateLimiter :=
  match limiter with
  | none => (.forward, none)
  | some s =>
    let r := s.allow (remote.getD unknownIp) now
    (if r.1 then .forward else .resourceExhausted "rate limit exceeded — slow down and retry",
      some r.2)

/-! ### Calls side by side -/

/-- The actions of the calls. A sweep is done at the time that is given. -/
inductive Act
  | update (ip : IpAddr) (now : ℚ)
  | maintain (now : ℚ)
  | retain (shard : IpAddr → Bool) (now : ℚ)

def RateLimiter.step (s : RateLimiter) : Act → RateLimiter
  | .update ip now => (s.update ip now).2
  | .maintain _ => s.maintain
  | .retain shard _ => s.retain shard

/-- The answers to the updates, with their addresses and readings. -/
def answers : RateLimiter → List Act → List (IpAddr × ℚ × Bool)
  | _, [] => []
  | s, .update ip now :: acts =>
    (ip, now, (s.update ip now).1) :: answers (s.step (.update ip now)) acts
  | s, .maintain now :: acts => answers (s.step (.maintain now)) acts
  | s, .retain shard now :: acts => answers (s.step (.retain shard now)) acts

/-- The readings and the answers of one address. -/
def answersTo (ip : IpAddr) (os : List (IpAddr × ℚ × Bool)) : List (ℚ × Bool) :=
  (os.filter fun o => o.1 = ip).map Prod.snd

/-- The readings of an address, in the order in which they reach its bucket. -/
def readings (ip : IpAddr) (acts : List Act) : List ℚ :=
  acts.filterMap fun
    | .update ip' now => if ip' = ip then some now else none
    | _ => none

variable {s : RateLimiter} {ip : IpAddr} {now : ℚ}

/-! ### One action -/

/-- **An update asks the bucket of the address**, which is full if there is none. -/
theorem update_eq_request (s : RateLimiter) (ip : IpAddr) (now : ℚ) :
    s.update ip now =
      ((request s.cfg.rps s.cfg.burst (s.buckets.lookup ip) now).1,
        { s with
          buckets := s.buckets.insert ip
            (request s.cfg.rps s.cfg.burst (s.buckets.lookup ip) now).2 }) := by
  unfold RateLimiter.update request Bucket.take Bucket.refill
  by_cases h : 1 ≤ min (((s.buckets.lookup ip).getD ⟨s.cfg.burst, now⟩).tokens +
      max 0 (now - ((s.buckets.lookup ip).getD ⟨s.cfg.burst, now⟩).last) * s.cfg.rps) s.cfg.burst
  · simp only [h, if_true]
  · simp only [h, if_false]

/-- No bucket has its full number of tokens. -/
def Drained (s : RateLimiter) : Prop :=
  ∀ ip b, s.buckets.lookup ip = some b → b.tokens < s.cfg.burst

theorem drained_new (cfg : RateLimitConfig) : Drained (.new cfg) := by
  intro ip b hb
  cases hb

theorem Drained.update (h : Drained s) (ip : IpAddr) (now : ℚ) :
    Drained (s.update ip now).2 := by
  intro ip' b hb
  rw [update_eq_request] at hb ⊢
  rw [lookup_insert_eq] at hb
  split at hb
  · cases hb
    exact request_tokens_lt s.cfg.one_le_burst
  · exact h ip' b hb

/-- **A sweep drops no bucket.** -/
theorem Drained.retain (h : Drained s) (shard : IpAddr → Bool) : s.retain shard = s := by
  have hkeep : (keepRows s.buckets fun ip b => !shard ip || decide (b.tokens < s.cfg.burst)) =
      s.buckets := keepRows_eq_self fun ip b hb => by simp [h ip b hb]
  rw [RateLimiter.retain, hkeep]

theorem Drained.maintain (h : Drained s) :
    s.maintain = { s with checks := (s.checks + 1) % 2 ^ 64 } := by
  have hcounted : Drained { s with checks := (s.checks + 1) % 2 ^ 64 } := h
  unfold RateLimiter.maintain
  split
  · exact hcounted.retain _
  · rfl

@[simp] theorem step_cfg (a : Act) : (s.step a).cfg = s.cfg := by
  cases a with
  | update ip now =>
    rw [RateLimiter.step, update_eq_request]
  | maintain now =>
    rw [RateLimiter.step, RateLimiter.maintain]
    split <;> rfl
  | retain shard now => rfl

/-- The buckets once an action has asked one of them. -/
def bucketsAsked (s : RateLimiter) : Act → AList fun _ : IpAddr => Bucket ℚ
  | .update ip now =>
    s.buckets.insert ip (request s.cfg.rps s.cfg.burst (s.buckets.lookup ip) now).2
  | .maintain _ => s.buckets
  | .retain _ _ => s.buckets

/-- The buckets after an action: only updates write them. -/
theorem step_buckets (h : Drained s) (a : Act) : (s.step a).buckets = bucketsAsked s a := by
  cases a with
  | update ip now => rw [RateLimiter.step, update_eq_request, bucketsAsked]
  | maintain now => rw [RateLimiter.step, h.maintain, bucketsAsked]
  | retain shard now => rw [RateLimiter.step, h.retain, bucketsAsked]

theorem Drained.step (h : Drained s) (a : Act) : Drained (s.step a) := by
  cases a with
  | update ip now => exact h.update ip now
  | maintain now =>
    rw [RateLimiter.step, h.maintain]
    exact h
  | retain shard now =>
    rw [RateLimiter.step, h.retain]
    exact h

/-! ### The answers to an address -/

/-- **An address is answered as by a bucket of its own**, which gets its readings and nothing else.
-/
theorem answersTo_answers (h : Drained s) (ip : IpAddr) (acts : List Act) :
    answersTo ip (answers s acts) =
      outcomes s.cfg.rps s.cfg.burst (s.buckets.lookup ip) (readings ip acts) := by
  induction acts generalizing s with
  | nil => rfl
  | cons a acts ih =>
    have ih := ih (h.step a)
    rw [step_cfg, step_buckets h a] at ih
    cases a with
    | update ip' now =>
      rw [bucketsAsked, lookup_insert_eq] at ih
      by_cases hip : ip' = ip
      · subst hip
        rw [if_pos rfl] at ih
        have hread : readings ip' (.update ip' now :: acts) = now :: readings ip' acts := by
          simp [readings]
        have hfirst : answersTo ip' (answers s (.update ip' now :: acts)) =
            (now, (s.update ip' now).1) ::
              answersTo ip' (answers (s.step (.update ip' now)) acts) := by
          simp [answers, answersTo]
        rw [hread, hfirst, ih, update_eq_request]
        rfl
      · have hread : readings ip (.update ip' now :: acts) = readings ip acts := by
          simp [readings, hip]
        have hrest : answersTo ip (answers s (.update ip' now :: acts)) =
            answersTo ip (answers (s.step (.update ip' now)) acts) := by
          simp [answers, answersTo, hip]
        rw [if_neg (Ne.symm hip)] at ih
        rw [hread, hrest, ih]
    | maintain now => exact ih
    | retain shard now => exact ih

/-! ### The rate -/

/-- **No window admits more than the burst and the rate allow** an address whose readings do not go
back, whatever the other addresses and the sweeps do. -/
theorem admitted_in_window_le (cfg : RateLimitConfig) (acts : List Act) (ip : IpAddr)
    (hin : (readings ip acts).Pairwise (· ≤ ·)) (a T : ℚ) (hT : 0 ≤ T) :
    (admittedIn a (a + T) (answersTo ip (answers (.new cfg) acts)) : ℚ) ≤
      cfg.burst + cfg.rps * T := by
  have hwindow : a ≤ a + T := le_add_of_nonneg_right hT
  have hburst : (0 : ℚ) ≤ cfg.burst := le_trans zero_le_one cfg.one_le_burst
  have h := admittedIn_le (b := none) cfg.rps_pos.le hburst (by simp) hwindow hin
  rw [answersTo_answers (drained_new cfg)]
  calc (admittedIn a (a + T) (outcomes cfg.rps cfg.burst none (readings ip acts)) : ℚ)
      ≤ cfg.burst + (a + T - a) * cfg.rps := h
    _ = cfg.burst + cfg.rps * T := by ring

/-- A burst of one request, and one more each second. -/
def oneEach : RateLimitConfig := ⟨1, 1, by norm_num, by norm_num⟩

/-- Two calls of one address, and between them a call of another and a sweep. -/
def inOrder : List Act :=
  [.update (.inl 1) 0, .maintain 0, .update (.inl 2) 5, .retain (fun _ => true) 5,
    .update (.inl 1) 1, .maintain 1]

theorem admitted_in_window_le_in_order :
    (readings (.inl 1) inOrder).Pairwise (· ≤ ·) ∧ (0 : ℚ) ≤ 1 ∧
      (admittedIn 0 (0 + 1) (answersTo (.inl 1) (answers (.new oneEach) inOrder)) : ℚ) ≤
        oneEach.burst + oneEach.rps * 1 :=
  ⟨by decide +kernel, by norm_num,
    admitted_in_window_le oneEach inOrder (.inl 1) (by decide +kernel) 0 1 (by norm_num)⟩

/-- The first and the third call read the clock at `0`, the others at `1`; the third gets the lock
after the second. The second that lies between the readings is credited twice. -/
def late : List Act :=
  [.update (.inl 1) 0, .maintain 0, .update (.inl 1) 1, .maintain 1, .update (.inl 1) 0,
    .maintain 1, .update (.inl 1) 1, .maintain 1]

/-- **A reading that comes late lets too many in.** -/
theorem admitted_late :
    ¬ (admittedIn 0 (0 + 1) (answersTo (.inl 1) (answers (.new oneEach) late)) : ℚ) ≤
      oneEach.burst + oneEach.rps * 1 := by
  have hthree : admittedIn 0 (0 + 1) (answersTo (.inl 1) (answers (.new oneEach) late)) = 3 := by
    decide +kernel
  rw [hthree]
  norm_num [oneEach]

/-! ### What a sweep leaves -/

/-- The shard that an action sweeps, and when. -/
def swept (s : RateLimiter) : Act → Option ((IpAddr → Bool) × ℚ)
  | .update _ _ => none
  | .maintain now => if s.sweepDue then some (fun _ => true, now) else none
  | .retain shard now => some (shard, now)

/-- No bucket of the shard has been idle for long enough to be full. -/
def NoneIdle (s : RateLimiter) (shard : IpAddr → Bool) (now : ℚ) : Prop :=
  ∀ ip b, shard ip = true → s.buckets.lookup ip = some b → ¬ b.FullAt s.cfg.rps s.cfg.burst now

/-- The action, if it sweeps, leaves no idle bucket. -/
def LeavesNoneIdle (_ : List Act) (s : RateLimiter) (a : Act) : Prop :=
  ∀ shard now, swept s a = some (shard, now) → NoneIdle (s.step a) shard now

/-- The action, if it sweeps, finds no idle bucket. -/
def FindsNoneIdle (_ : List Act) (s : RateLimiter) (a : Act) : Prop :=
  ∀ shard now, swept s a = some (shard, now) → NoneIdle s shard now

/-- The buckets that the action drops, if it sweeps, would not have changed a later answer. -/
def DropsUnnoticed (_ : List Act) (s : RateLimiter) (a : Act) : Prop :=
  (swept s a).isSome = true →
    ∀ later, answers (s.step a) later = answers { s.step a with buckets := s.buckets } later

/-- The steps of the limiter. -/
def Step (s : RateLimiter) (a : Act) (t : RateLimiter) : Prop := t = s.step a

theorem Drained.run {acts : List Act} {t : RateLimiter} (hr : Run Step s acts t) (h : Drained s) :
    Drained t :=
  hr.invariant (fun _ a _ hd ht => ht ▸ hd.step a) h

theorem swept_buckets (h : Drained s) {a : Act} (ha : (swept s a).isSome = true) :
    (s.step a).buckets = s.buckets := by
  cases a with
  | update ip now => cases ha
  | maintain now => exact step_buckets h _
  | retain shard now => exact step_buckets h _

/-- **When a sweep leaves no idle bucket:** exactly if there was none. -/
theorem sweeps_leave_none_idle_iff (cfg : RateLimitConfig) (acts : List Act) :
    Along Step (fun pre s a => LeavesNoneIdle pre s a ∧ DropsUnnoticed pre s a) (.new cfg) acts ↔
      Along Step FindsNoneIdle (.new cfg) acts := by
  have hsame : ∀ (pre : List Act) (u : RateLimiter) (a : Act) (shard : IpAddr → Bool) (now : ℚ),
      Run Step (.new cfg) pre u → swept u a = some (shard, now) →
        (NoneIdle (u.step a) shard now ↔ NoneIdle u shard now) := by
    intro pre u a shard now hr ha
    have hb := swept_buckets ((drained_new cfg).run hr) (a := a) (by rw [ha]; rfl)
    rw [NoneIdle, NoneIdle, hb, step_cfg]
  constructor
  · intro h
    exact h.mono fun pre u a hr hu shard now ha => (hsame pre u a shard now hr ha).mp (hu.1 _ _ ha)
  · intro h
    refine h.mono fun pre u a hr hu => ⟨fun shard now ha => ?_, fun ha later => ?_⟩
    · exact (hsame pre u a shard now hr ha).mpr (hu shard now ha)
    · rw [← swept_buckets ((drained_new cfg).run hr) ha]

/-! ### A table that is swept in vain -/

/-- The address with this number. -/
def addr (i : ℕ) : IpAddr := .inl (BitVec.ofNat 32 i)

theorem addr_inj {i j : ℕ} (hi : i < 2 ^ 32) (hj : j < 2 ^ 32) (h : addr i = addr j) : i = j := by
  have h := congrArg BitVec.toNat (Sum.inl.inj h)
  rwa [BitVec.toNat_ofNat, BitVec.toNat_ofNat, Nat.mod_eq_of_lt hi, Nat.mod_eq_of_lt hj] at h

/-- One call from each of `n` addresses, all at the same time. -/
def flood (n : ℕ) : List Act := (List.range n).flatMap fun i => [.update (addr i) 0, .maintain 0]

/-- The limiter after the calls. -/
structure Flooded (n : ℕ) (s : RateLimiter) : Prop where
  cfg : s.cfg = oneEach
  checks : s.checks = n
  length : s.buckets.keys.length = n
  asked : ∀ i < n, s.buckets.lookup (addr i) = some ⟨0, 0⟩
  fresh : ∀ i, n ≤ i → i < 2 ^ 32 → s.buckets.lookup (addr i) = none

theorem run_step (s : RateLimiter) (acts : List Act) :
    Run Step s acts (acts.foldl RateLimiter.step s) := by
  induction acts generalizing s with
  | nil => exact Run.nil s
  | cons a acts ih => exact Run.cons rfl (ih (s.step a))

/-- A call from the next address. -/
theorem Flooded.update {n : ℕ} (h : Flooded n s) (hn : n < 2 ^ 32) (now : ℚ) :
    (s.update (addr n) now).2 =
      { s with buckets := s.buckets.insert (addr n) ⟨0, now⟩ } := by
  have hzero : (request (1 : ℚ) 1 none now).2 = ⟨0, now⟩ := by
    simp [request, Bucket.refill, Bucket.take]
  rw [update_eq_request, h.fresh n le_rfl hn, h.cfg]
  show RateLimiter.mk _ (s.buckets.insert (addr n) (request (1 : ℚ) 1 none now).2) _ = _
  rw [hzero, ← h.cfg]

theorem flooded (n : ℕ) (hn : n < 2 ^ 32) :
    Flooded n ((flood n).foldl RateLimiter.step (.new oneEach)) := by
  induction n with
  | zero =>
    refine ⟨rfl, rfl, rfl, fun i hi => absurd hi (Nat.not_lt_zero i), fun i _ _ => rfl⟩
  | succ n ih =>
    have hlt : n < 2 ^ 32 := Nat.lt_of_succ_lt hn
    have ih := ih hlt
    have hdrained := (drained_new oneEach).run (run_step _ (flood n))
    rw [flood, List.range_succ, List.flatMap_append, List.foldl_append]
    change Flooded (n + 1) ((((flood n).foldl RateLimiter.step (.new oneEach)).update (addr n)
      0).2.maintain)
    generalize (flood n).foldl RateLimiter.step (.new oneEach) = u at ih hdrained
    have hnew : addr n ∉ u.buckets := AList.lookup_eq_none.mp (ih.fresh n le_rfl hlt)
    have hnext := hdrained.update (addr n) 0
    rw [ih.update hlt] at hnext ⊢
    rw [hnext.maintain]
    refine ⟨ih.cfg, ?_, ?_, fun i hi => ?_, fun i hi hi' => ?_⟩
    · show (u.checks + 1) % 2 ^ 64 = n + 1
      rw [ih.checks]
      exact Nat.mod_eq_of_lt (by omega)
    · show (u.buckets.insert (addr n) _).keys.length = n + 1
      rw [length_keys_insert _ hnew, ih.length]
    · show (u.buckets.insert (addr n) _).lookup (addr i) = _
      rw [lookup_insert_eq]
      split_ifs with h
      · rfl
      · have hne : i ≠ n := fun he => h (by rw [he])
        exact ih.asked i (by omega)
    · show (u.buckets.insert (addr n) _).lookup (addr i) = _
      rw [lookup_insert_eq, if_neg fun h => by have := addr_inj hi' hlt h; omega]
      exact ih.fresh i (by omega) hi'

/-- A call from one more address a second later, if its check sweeps the table. -/
theorem not_along_flood {n : ℕ} (hn : n = maxTrackedIps) :
    ¬ Along Step (fun pre s a => LeavesNoneIdle pre s a ∧ DropsUnnoticed pre s a) (.new oneEach)
      (flood n ++ [Act.update (addr n) 1, .maintain 1]) := by
  intro h
  have hpos : 0 < n := by rw [hn]; norm_num [maxTrackedIps]
  have hbound : n < 2 ^ 32 := by rw [hn]; norm_num [maxTrackedIps]
  have hother : addr 0 ≠ addr n := fun h => hpos.ne (addr_inj (by norm_num) hbound h)
  have hflood := flooded n hbound
  have hrun := run_step (.new oneEach) (flood n)
  have hlast := (along_append_iff.mp h).2 _ hrun
  generalize (flood n).foldl RateLimiter.step (.new oneEach) = u at hflood hrun hlast
  have hlast := (along_cons_iff.mp ((along_cons_iff.mp hlast).2 _ rfl)).1.1
  have hdrained := ((drained_new oneEach).run hrun).step (.update (addr n) 1)
  have hnew : addr n ∉ u.buckets := AList.lookup_eq_none.mp (hflood.fresh _ le_rfl hbound)
  rw [RateLimiter.step, hflood.update hbound] at hdrained hlast
  have hdue : RateLimiter.sweepDue { u with buckets := u.buckets.insert (addr n) ⟨0, 1⟩ } =
      true := by
    refine decide_eq_true ⟨?_, ?_⟩
    · rw [hflood.checks, hn, Nat.mod_self]
    · rw [length_keys_insert _ hnew, hflood.length, hn]
      exact Nat.lt_add_one _
  have hswept : swept { u with buckets := u.buckets.insert (addr n) ⟨0, 1⟩ } (.maintain 1) =
      some (fun _ => true, 1) := by
    rw [swept, hdue, if_pos rfl]
  -- the first bucket has had its second
  have hidle := hlast _ _ hswept (addr 0) ⟨0, 0⟩ rfl
  rw [swept_buckets hdrained (by rw [hswept]; rfl), step_cfg, hflood.cfg, lookup_insert_eq,
    if_neg hother, hflood.asked 0 hpos] at hidle
  exact hidle rfl (by norm_num [Bucket.FullAt, oneEach])

/-- All addresses call at once, and another one a second later: its check sweeps the table, and the
buckets that are full again stay. -/
theorem sweep_keeps_idle :
    ¬ Along Step (fun pre s a => LeavesNoneIdle pre s a ∧ DropsUnnoticed pre s a) (.new oneEach)
      (flood maxTrackedIps ++ [Act.update (addr maxTrackedIps) 1, .maintain 1]) :=
  not_along_flood rfl

end MuxrCore.Muxrd.RateLimit
