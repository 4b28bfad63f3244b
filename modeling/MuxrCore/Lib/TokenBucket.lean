import Mathlib.Algebra.Order.Field.Basic
import Mathlib.Tactic.Linarith
import Mathlib.Tactic.Ring

/-! # Token buckets

A bucket holds up to `cap` tokens and gains `rate` tokens for each unit of time. The gain is worked
out when the bucket is asked: a request first refills it for the time since the last one, then takes
a token if there is one. A bucket that nobody has asked yet is full.

* `request_tokens`: what a request leaves in the bucket, counting the token it takes.
* `request_tokens_lt`: no request leaves the bucket full.
* `request_of_fullAt`: a bucket that has had the time to fill answers as a new one does.
* `admittedIn_le`: of requests whose times do not go back, no more are admitted in a window of
  length `T` than `cap + rate * T`.
* `Alike.request`: a table that has forgotten a full bucket answers as one that has kept it. -/

namespace MuxrCore.Lib.TokenBucket

variable {K : Type*} [Field K] [LinearOrder K]

/-- The tokens at the last request, and when that was. -/
structure Bucket (K : Type*) where
  tokens : K
  last : K
deriving DecidableEq

/-- The tokens after the time since the last request, up to the capacity. A clock that has gone back
gives no tokens and takes none. -/
def Bucket.refill (rate cap : K) (b : Bucket K) (now : K) : Bucket K :=
  ⟨min (b.tokens + max 0 (now - b.last) * rate) cap, now⟩

/-- Take a token, if there is a whole one. -/
def Bucket.take (b : Bucket K) : Bool × Bucket K :=
  if 1 ≤ b.tokens then (true, { b with tokens := b.tokens - 1 }) else (false, b)

/-- A request: whether it is admitted, and the bucket it leaves. -/
def request (rate cap : K) (b : Option (Bucket K)) (now : K) : Bool × Bucket K :=
  ((b.getD ⟨cap, now⟩).refill rate cap now).take

/-- The times of the requests with the answers to them. -/
def outcomes (rate cap : K) : Option (Bucket K) → List K → List (K × Bool)
  | _, [] => []
  | b, now :: ts =>
    (now, (request rate cap b now).1) :: outcomes rate cap (some (request rate cap b now).2) ts

/-- The number of admitted requests whose times lie between two instants. -/
def admittedIn (a c : K) (os : List (K × Bool)) : ℕ :=
  os.countP fun o => o.2 && decide (a ≤ o.1 ∧ o.1 ≤ c)

/-- The bucket has had the time to fill. -/
def Bucket.FullAt (rate cap : K) (b : Bucket K) (now : K) : Prop :=
  cap ≤ b.tokens + max 0 (now - b.last) * rate

instance (rate cap : K) (b : Bucket K) (now : K) : Decidable (b.FullAt rate cap now) :=
  inferInstanceAs (Decidable (_ ≤ _))

variable {rate cap : K} {b : Option (Bucket K)} {now : K}

/-! ### One request -/

@[simp] theorem take_last (b : Bucket K) : b.take.2.last = b.last := by
  unfold Bucket.take
  split <;> rfl

theorem take_tokens (b : Bucket K) :
    b.take.2.tokens + (if b.take.1 then 1 else 0) = b.tokens := by
  unfold Bucket.take
  split <;> simp

@[simp] theorem request_last : (request rate cap b now).2.last = now := by
  rw [request, take_last]
  rfl

theorem request_some_tokens {bucket : Bucket K} :
    (request rate cap (some bucket) now).2.tokens +
        (if (request rate cap (some bucket) now).1 then 1 else 0) =
      min (bucket.tokens + max 0 (now - bucket.last) * rate) cap :=
  take_tokens _

/-- The tokens that a request finds are not above the capacity. -/
theorem request_tokens :
    (request rate cap b now).2.tokens + (if (request rate cap b now).1 then 1 else 0) ≤ cap := by
  rw [request, take_tokens]
  exact min_le_right _ _

section
variable [IsStrictOrderedRing K]

/-- **No request leaves the bucket full.** -/
theorem request_tokens_lt (hcap : 1 ≤ cap) : (request rate cap b now).2.tokens < cap := by
  have h : (request rate cap b now).2.tokens +
      (if (request rate cap b now).1 then 1 else 0) ≤ cap := request_tokens
  rcases hr : (request rate cap b now).1 with _ | _
  · -- the request was refused for want of a whole token
    have hlt : ¬ 1 ≤ ((b.getD ⟨cap, now⟩).refill rate cap now).tokens := by
      intro hle
      rw [request, Bucket.take, if_pos hle] at hr
      cases hr
    have heq : (request rate cap b now).2 = (b.getD ⟨cap, now⟩).refill rate cap now := by
      rw [request, Bucket.take, if_neg hlt]
    rw [heq]
    exact lt_of_lt_of_le (not_le.mp hlt) hcap
  · rw [hr, if_pos rfl] at h
    linarith

theorem request_tokens_nonneg (hrate : 0 ≤ rate) (hcap : 0 ≤ cap)
    (hb : ∀ bucket ∈ b, 0 ≤ bucket.tokens) : 0 ≤ (request rate cap b now).2.tokens := by
  have hfound : 0 ≤ (b.getD ⟨cap, now⟩).tokens := by
    rcases b with - | bucket
    · exact hcap
    · exact hb bucket rfl
  have hgain : 0 ≤ max 0 (now - (b.getD ⟨cap, now⟩).last) * rate :=
    mul_nonneg (le_max_left _ _) hrate
  rw [request, Bucket.take]
  split
  · next hle => exact sub_nonneg.mpr hle
  · exact le_min (add_nonneg hfound hgain) hcap

end

/-! ### Full buckets -/

/-- **A bucket that has had the time to fill** answers as one that was never asked. -/
theorem request_of_fullAt {bucket : Bucket K} (h : bucket.FullAt rate cap now) :
    request rate cap (some bucket) now = request rate cap none now := by
  have hnew : ((⟨cap, now⟩ : Bucket K).refill rate cap now) = ⟨cap, now⟩ := by
    simp [Bucket.refill]
  have hfull : bucket.refill rate cap now = ⟨cap, now⟩ := by
    rw [Bucket.refill, min_eq_right h]
  rw [request, request, Option.getD_some, Option.getD_none, hnew, hfull]

/-- A full bucket stays full. -/
theorem Bucket.FullAt.mono [IsStrictOrderedRing K] (hrate : 0 ≤ rate) {bucket : Bucket K} {now' : K}
    (h : bucket.FullAt rate cap now) (hle : now ≤ now') : bucket.FullAt rate cap now' := by
  refine le_trans h (add_le_add_right (mul_le_mul_of_nonneg_right ?_ hrate) _)
  exact max_le_max le_rfl (sub_le_sub_right hle _)

theorem fullAt_of_idle [IsStrictOrderedRing K] (hrate : 0 < rate) {bucket : Bucket K}
    (htokens : 0 ≤ bucket.tokens) (h : cap / rate ≤ max 0 (now - bucket.last)) :
    bucket.FullAt rate cap now := by
  have hgain : cap ≤ max 0 (now - bucket.last) * rate := (div_le_iff₀ hrate).mp h
  exact le_trans hgain (le_add_of_nonneg_left htokens)

/-- The bucket that a table has is the right one, or the table has none and the right one is full.
-/
def Alike (rate cap : K) (had right : Option (Bucket K)) (now : K) : Prop :=
  had = right ∨ had = none ∧ ∀ bucket ∈ right, bucket.FullAt rate cap now

theorem Alike.mono [IsStrictOrderedRing K] (hrate : 0 ≤ rate) {had right : Option (Bucket K)}
    {now' : K} (h : Alike rate cap had right now) (hle : now ≤ now') :
    Alike rate cap had right now' :=
  h.imp_right fun hr => ⟨hr.1, fun bucket hb => (hr.2 bucket hb).mono hrate hle⟩

/-- **A forgotten bucket that is full is not missed.** -/
theorem Alike.request {had right : Option (Bucket K)} (h : Alike rate cap had right now) :
    TokenBucket.request rate cap had now = TokenBucket.request rate cap right now := by
  rcases h with rfl | ⟨rfl, hfull⟩
  · rfl
  · rcases right with - | bucket
    · rfl
    · exact (request_of_fullAt (hfull bucket rfl)).symm

/-! ### Sequences of requests -/

theorem mem_outcomes {b : Option (Bucket K)} {ts : List K} {o : K × Bool}
    (h : o ∈ outcomes rate cap b ts) : o.1 ∈ ts := by
  induction ts generalizing b with
  | nil => cases h
  | cons t ts ih =>
    rcases List.mem_cons.mp h with rfl | h
    · exact List.mem_cons_self
    · exact List.mem_cons_of_mem _ (ih h)

/-- Nothing is admitted in a window that lies before all the requests. -/
theorem admittedIn_eq_zero {a c : K} {ts : List K} (h : ∀ t ∈ ts, c < t) :
    admittedIn a c (outcomes rate cap b ts) = 0 := by
  refine List.countP_eq_zero.mpr fun o ho => ?_
  have hlt := h o.1 (mem_outcomes ho)
  simp [not_le.mpr hlt]

theorem admittedIn_cons {a c : K} {ts : List K} {t : K} :
    admittedIn a c (outcomes rate cap b (t :: ts)) =
      admittedIn a c (outcomes rate cap (some (request rate cap b t).2) ts) +
        if (request rate cap b t).1 = true ∧ a ≤ t ∧ t ≤ c then 1 else 0 := by
  show List.countP _ (_ :: _) = _
  rw [List.countP_cons]
  simp only [Bool.and_eq_true, decide_eq_true_eq]
  rfl

section
variable [IsStrictOrderedRing K]

/-- A request counts in a window only if it is admitted. -/
theorem counted_le (admitted : Bool) (a c t : K) :
    ((if admitted = true ∧ a ≤ t ∧ t ≤ c then 1 else 0 : ℕ) : K) ≤
      if admitted then 1 else 0 := by
  by_cases h : admitted = true ∧ a ≤ t ∧ t ≤ c
  · rw [if_pos h, if_pos h.1, Nat.cast_one]
  · rw [if_neg h, Nat.cast_zero]
    split_ifs
    · exact zero_le_one
    · exact le_rfl

/-- What a bucket can still admit up to an instant: the tokens it has and those it will gain. -/
theorem admittedIn_le_budget (hrate : 0 ≤ rate) (hcap : 0 ≤ cap) {bucket : Bucket K} {a c : K}
    {ts : List K} (htokens : 0 ≤ bucket.tokens) (hlast : bucket.last ≤ c)
    (hts : (bucket.last :: ts).Pairwise (· ≤ ·)) :
    (admittedIn a c (outcomes rate cap (some bucket) ts) : K) ≤
      bucket.tokens + (c - bucket.last) * rate := by
  have hroom : 0 ≤ bucket.tokens + (c - bucket.last) * rate :=
    add_nonneg htokens (mul_nonneg (sub_nonneg.mpr hlast) hrate)
  induction ts generalizing bucket with
  | nil => simpa [outcomes, admittedIn] using hroom
  | cons t ts ih =>
    obtain ⟨hge, hrest⟩ := List.pairwise_cons.mp hts
    have hlt : bucket.last ≤ t := hge t List.mem_cons_self
    by_cases hc : t ≤ c
    · -- the request is paid with its own token, the others from what it leaves
      have hpaid : (request rate cap (some bucket) t).2.tokens +
          (if (request rate cap (some bucket) t).1 then 1 else 0) =
            min (bucket.tokens + max 0 (t - bucket.last) * rate) cap := request_some_tokens
      rw [max_eq_right (sub_nonneg.mpr hlt)] at hpaid
      have hgain := min_le_left (bucket.tokens + (t - bucket.last) * rate) cap
      have hleft : 0 ≤ (request rate cap (some bucket) t).2.tokens :=
        request_tokens_nonneg hrate hcap (by simpa using htokens)
      have hih := ih hleft (by simpa using hc) (by simpa using hrest)
        (add_nonneg hleft (mul_nonneg (by simpa using hc) hrate))
      rw [request_last] at hih
      have hone := counted_le (request rate cap (some bucket) t).1 a c t
      rw [admittedIn_cons, Nat.cast_add]
      have hsplit : (c - bucket.last) * rate = (c - t) * rate + (t - bucket.last) * rate := by ring
      linarith
    · -- all that follow are after the window
      rw [admittedIn_eq_zero]
      · simpa using hroom
      · intro u hu
        rcases List.mem_cons.mp hu with rfl | hu
        · exact not_le.mp hc
        · exact lt_of_lt_of_le (not_le.mp hc) ((List.pairwise_cons.mp hrest).1 u hu)

/-- **The rate bound.** If the times of the requests do not go back, no more are admitted in a
window than a full bucket and what it gains in the window. -/
theorem admittedIn_le (hrate : 0 ≤ rate) (hcap : 0 ≤ cap) (hb : ∀ bucket ∈ b, 0 ≤ bucket.tokens)
    {a c : K} (hac : a ≤ c) {ts : List K} (hts : ts.Pairwise (· ≤ ·)) :
    (admittedIn a c (outcomes rate cap b ts) : K) ≤ cap + (c - a) * rate := by
  have hroom : 0 ≤ (c - a) * rate := mul_nonneg (sub_nonneg.mpr hac) hrate
  induction ts generalizing b with
  | nil => simpa [outcomes, admittedIn] using add_nonneg hcap hroom
  | cons t ts ih =>
    obtain ⟨hge, hrest⟩ := List.pairwise_cons.mp hts
    have hleft : 0 ≤ (request rate cap b t).2.tokens := request_tokens_nonneg hrate hcap hb
    by_cases ha : a ≤ t
    · by_cases hc : t ≤ c
      · -- the first request of the window finds a full bucket at best
        have hpaid : (request rate cap b t).2.tokens +
            (if (request rate cap b t).1 then 1 else 0) ≤ cap := request_tokens
        have htimes : ((request rate cap b t).2.last :: ts).Pairwise (· ≤ ·) := by
          simpa using hts
        have hbudget := admittedIn_le_budget (a := a) hrate hcap hleft (by simpa using hc) htimes
        rw [request_last] at hbudget
        rw [admittedIn_cons, Nat.cast_add]
        have hone : ((if (request rate cap b t).1 = true ∧ a ≤ t ∧ t ≤ c then 1 else 0 : ℕ) : K) =
            if (request rate cap b t).1 then 1 else 0 := by
          simp [ha, hc]
        have hwindow : (c - t) * rate ≤ (c - a) * rate :=
          mul_le_mul_of_nonneg_right (sub_le_sub_left ha c) hrate
        linarith
      · rw [admittedIn_eq_zero]
        · simpa using add_nonneg hcap hroom
        · intro u hu
          rcases List.mem_cons.mp hu with rfl | hu
          · exact not_le.mp hc
          · exact lt_of_lt_of_le (not_le.mp hc) (hge u hu)
    · -- a request before the window does not count
      rw [admittedIn_cons, if_neg (fun h => ha h.2.1), Nat.add_zero]
      exact ih (by simpa using hleft) hrest

end

end MuxrCore.Lib.TokenBucket
