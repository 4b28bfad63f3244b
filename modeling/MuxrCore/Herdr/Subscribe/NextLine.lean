import Mathlib.Data.List.TakeWhile
import Mathlib.Tactic.SplitIfs
import MuxrCore.Lib.Bytes

/-! # The line reader of the subscriptions

`LineReader` cuts the bytes of a subscription into lines. The bytes arrive in chunks, and a call may
be dropped while it waits for one: what it has read is in `pending`, where the next call goes on. A
line that is too long is an error, which the reader notices only at the end of a chunk.

* `outputs_cancel`: dropped calls change nothing.
* `outputs_eq_iff`: when the reader returns the lines of the stream, for a reader that is in the
  midst of one. `cuts` are the places where a chunk ends, and `firstLong` is the first line that is
  too long. -/

namespace MuxrCore.Herdr.Subscribe.NextLine

open MuxrCore.Lib.Bytes

def newline : UInt8 := 0x0a

/-- The longest line of a subscription. -/
def maxEventLineBytes : ℕ := 1024 * 1024

/-! ### The code -/

/-- What a call of `next_line` returns. -/
inductive Result
  | line (text : String)
  | invalidUtf8
  /-- herdr event line exceeded size cap without a newline -/
  | sizeCap
  | eof
  | failed (cause : String)
  deriving DecidableEq, Repr

/-- There is nothing to read after the result. -/
def Result.isLast : Result → Bool
  | .line _ | .invalidUtf8 => false
  | .sizeCap | .eof | .failed _ => true

/-- The reader, with the chunks that are still to come; the first is what is left of a chunk, if
that has been used in part. -/
structure LineReader where
  pending : List UInt8
  maxLine : ℕ
  chunks : List (List UInt8)
  ending : Ending
  deriving DecidableEq, Repr

def LineReader.new (chunks : List (List UInt8)) (ending : Ending) : LineReader :=
  ⟨[], maxEventLineBytes, chunks, ending⟩

def takeUtf8 (pending : List UInt8) : Result :=
  match String.fromUTF8? ⟨pending.toArray⟩ with
  | some text => .line text
  | none => .invalidUtf8

/-- How a turn of the loop ends. -/
inductive Turn
  | again (r : LineReader)
  | returns (result : Result) (r : LineReader)

/-- A turn of the loop in `next_line`, once it has a chunk or knows that there is none. -/
def turn (r : LineReader) : Turn :=
  match r.chunks with
  | [] =>
    match r.ending with
    | .failed cause => .returns (.failed cause) r
    | .eof =>
      if r.pending = [] then .returns .eof r
      else .returns (takeUtf8 r.pending) { r with pending := [] }
  | chunk :: rest =>
    match chunk.dropWhile (· ≠ newline) with
    | _ :: left =>
      .returns (takeUtf8 (r.pending ++ chunk.takeWhile (· ≠ newline)))
        { r with pending := [], chunks := if left = [] then rest else left :: rest }
    | [] =>
      if r.maxLine < (r.pending ++ chunk).length then
        .returns .sizeCap { r with pending := [], chunks := rest }
      else .again { r with pending := r.pending ++ chunk, chunks := rest }

/-- What happens to the calls: one takes a turn, which begins the call if there is none, or the one
that waits is dropped. -/
inductive Act
  | turn
  | cancel
  deriving DecidableEq, Repr

/-- The results of the calls, up to the last one. -/
def outputs : List Act → LineReader → List Result
  | [], _ => []
  | .cancel :: acts, r => outputs acts r
  | .turn :: acts, r =>
    match turn r with
    | .again r' => outputs acts r'
    | .returns result r' => if result.isLast then [result] else result :: outputs acts r'

/-! ### The lines of a stream -/

/-- The lines, the last of which has no newline. -/
def lines (stream : List UInt8) : List (List UInt8) := stream.splitOn newline

/-- What a reader is to return for the last line. -/
def expectedEnd (ending : Ending) (tail : List UInt8) : List Result :=
  match ending with
  | .failed cause => [.failed cause]
  | .eof => if tail = [] then [.eof] else [takeUtf8 tail, .eof]

/-- What a reader is to return for the lines. -/
def expected (maxLine : ℕ) (ending : Ending) : List (List UInt8) → List Result
  | [] => []
  | [tail] =>
    if maxLine < tail.length then [.sizeCap] else expectedEnd ending tail
  | line :: next :: rest =>
    if maxLine < line.length then [.sizeCap]
    else takeUtf8 line :: expected maxLine ending (next :: rest)

/-- Where the first line that is too long starts and stops, if it has a newline. The lines start at
`start`. -/
def firstLong (maxLine : ℕ) : ℕ → List (List UInt8) → Option (ℕ × ℕ)
  | _, [] => none
  | _, [_] => none
  | start, line :: next :: rest =>
    if maxLine < line.length then some (start, start + line.length)
    else firstLong maxLine (start + line.length + 1) (next :: rest)

/-- The places where a chunk ends. The first one starts at `start`. -/
def cuts : ℕ → List (List UInt8) → List ℕ
  | _, [] => []
  | start, chunk :: rest => (start + chunk.length) :: cuts (start + chunk.length) rest

/-- If the first line that is too long has a newline, then a chunk ends in it once it is too long,
and no later than before the newline. -/
def LongLineCut (maxLine start : ℕ) (ls : List (List UInt8)) (places : List ℕ) : Prop :=
  ∀ lo hi, firstLong maxLine start ls = some (lo, hi) →
    ∃ place ∈ places, lo + maxLine < place ∧ place ≤ hi

/-- The turns among the actions. -/
def turns (acts : List Act) : ℕ := acts.count .turn

variable {r : LineReader} {acts : List Act} {ls : List (List UInt8)} {line tail : List UInt8}
  {maxLine start : ℕ} {ending : Ending}

theorem lines_ne_nil (stream : List UInt8) : lines stream ≠ [] := List.splitOn_ne_nil _ _

theorem lines_of_notMem {stream : List UInt8} (h : newline ∉ stream) : lines stream = [stream] :=
  List.splitOn_eq_singleton h

theorem lines_append (h : newline ∉ line) (stream : List UInt8) :
    lines (line ++ newline :: stream) = line :: lines stream :=
  List.splitOn_append_cons_self_of_not_mem h stream

theorem expected_cons (h : ls ≠ []) :
    expected maxLine ending (line :: ls) =
      if maxLine < line.length then [.sizeCap]
      else takeUtf8 line :: expected maxLine ending ls := by
  obtain ⟨next, rest, rfl⟩ := List.exists_cons_of_ne_nil h
  rw [expected]

theorem expected_singleton :
    expected maxLine ending [tail] =
      if maxLine < tail.length then [.sizeCap] else expectedEnd ending tail := rfl

theorem firstLong_cons (h : ls ≠ []) :
    firstLong maxLine start (line :: ls) =
      if maxLine < line.length then some (start, start + line.length)
      else firstLong maxLine (start + line.length + 1) ls := by
  obtain ⟨next, rest, rfl⟩ := List.exists_cons_of_ne_nil h
  rw [firstLong]

/-- The first long line does not start before the lines do. -/
theorem le_of_firstLong {lo hi : ℕ} (h : firstLong maxLine start ls = some (lo, hi)) :
    start ≤ lo := by
  induction ls generalizing start with
  | nil => cases h
  | cons line ls ih =>
    rcases ls with - | ⟨next, rest⟩
    · cases h
    · rw [firstLong_cons (by simp)] at h
      split_ifs at h
      · cases h
        exact le_rfl
      · have := ih h
        omega

/-- The lines that begin with a long piece. -/
theorem expected_of_long {stream rest : List UInt8} (hpiece : newline ∉ stream)
    (hlong : maxLine < stream.length) :
    expected maxLine ending (lines (stream ++ rest)) = [.sizeCap] := by
  by_cases hrest : newline ∈ rest
  · obtain ⟨pre, post, rfl, hpre⟩ := List.eq_append_cons_of_mem hrest
    have hno : newline ∉ stream ++ pre := by simp [hpiece, hpre]
    rw [← List.append_assoc, lines_append hno, expected_cons (lines_ne_nil _),
      if_pos (by rw [List.length_append]; omega)]
  · have hno : newline ∉ stream ++ rest := by simp [hpiece, hrest]
    rw [lines_of_notMem hno, expected_singleton, if_pos (by rw [List.length_append]; omega)]

theorem firstLong_of_long {stream rest : List UInt8} (hpiece : newline ∉ stream)
    (hlong : maxLine < stream.length) {lo hi : ℕ}
    (h : firstLong maxLine start (lines (stream ++ rest)) = some (lo, hi)) :
    lo = start ∧ start + stream.length ≤ hi := by
  by_cases hrest : newline ∈ rest
  · obtain ⟨pre, post, rfl, hpre⟩ := List.eq_append_cons_of_mem hrest
    have hno : newline ∉ stream ++ pre := by simp [hpiece, hpre]
    rw [← List.append_assoc, lines_append hno, firstLong_cons (lines_ne_nil _),
      if_pos (by rw [List.length_append]; omega)] at h
    cases h
    rw [List.length_append]
    omega
  · have hno : newline ∉ stream ++ rest := by simp [hpiece, hrest]
    rw [lines_of_notMem hno] at h
    cases h

/-! ### One turn -/

theorem takeWhile_line {left : List UInt8} (h : newline ∉ line) :
    (line ++ newline :: left).takeWhile (· ≠ newline) = line := by
  have hall : ∀ b ∈ line, decide (b ≠ newline) = true :=
    fun b hb => decide_eq_true fun he => h (he ▸ hb)
  rw [List.takeWhile_append_of_pos hall]
  simp

theorem dropWhile_line {left : List UInt8} (h : newline ∉ line) :
    (line ++ newline :: left).dropWhile (· ≠ newline) = newline :: left := by
  have hall : ∀ b ∈ line, decide (b ≠ newline) = true :=
    fun b hb => decide_eq_true fun he => h (he ▸ hb)
  rw [List.dropWhile_append_of_pos hall]
  simp

/-- The chunk has the rest of the line. -/
theorem turn_line {left : List UInt8} {rest : List (List UInt8)} (h : newline ∉ line)
    (hr : r.chunks = (line ++ newline :: left) :: rest) :
    turn r = .returns (takeUtf8 (r.pending ++ line))
      { r with pending := [], chunks := if left = [] then rest else left :: rest } := by
  rw [turn, hr]
  simp only [dropWhile_line h, takeWhile_line h]

/-- The chunk has a piece of the line. -/
theorem turn_piece {chunk : List UInt8} {rest : List (List UInt8)} (h : newline ∉ chunk)
    (hr : r.chunks = chunk :: rest) :
    turn r = if r.maxLine < (r.pending ++ chunk).length then
        .returns .sizeCap { r with pending := [], chunks := rest }
      else .again { r with pending := r.pending ++ chunk, chunks := rest } := by
  have hdrop : chunk.dropWhile (· ≠ newline) = [] :=
    List.dropWhile_eq_nil_iff.mpr fun b hb => decide_eq_true fun he => h (he ▸ hb)
  rw [turn, hr]
  simp only [hdrop]

/-! ### Runs of turns -/

/-- Dropped calls change nothing. -/
theorem outputs_cancel (acts : List Act) (r : LineReader) :
    outputs acts r = outputs (List.replicate (turns acts) .turn) r := by
  induction acts generalizing r with
  | nil => rfl
  | cons a acts ih =>
    cases a with
    | cancel =>
      rw [outputs, ih, turns, turns, List.count_cons_of_ne (by decide)]
    | turn =>
      rw [turns, List.count_cons_self, List.replicate_succ, outputs, outputs]
      rcases turn r with r' | ⟨result, r'⟩
      · exact ih r'
      · simp only [ih r', turns]

@[simp] theorem takeUtf8_isLast (bytes : List UInt8) : (takeUtf8 bytes).isLast = false := by
  unfold takeUtf8
  split <;> rfl

theorem outputs_again {r' : LineReader} (h : turn r = .again r') :
    outputs (.turn :: acts) r = outputs acts r' := by
  rw [outputs, h]

theorem outputs_line {r' : LineReader} {bytes : List UInt8}
    (h : turn r = .returns (takeUtf8 bytes) r') :
    outputs (.turn :: acts) r = takeUtf8 bytes :: outputs acts r' := by
  rw [outputs, h]
  simp only [takeUtf8_isLast, Bool.false_eq_true, if_false]

theorem outputs_sizeCap {r' : LineReader} (h : turn r = .returns .sizeCap r') :
    outputs (.turn :: acts) r = [.sizeCap] := by
  rw [outputs, h]
  rfl

theorem takeUtf8_ne_sizeCap (bytes : List UInt8) : takeUtf8 bytes ≠ .sizeCap := by
  intro h
  have := takeUtf8_isLast bytes
  rw [h] at this
  cases this

/-- The results after the last line, which has been returned. -/
theorem outputs_eof {acts : List Act} (hr : r = ⟨[], maxLine, [], .eof⟩) (hturns : 1 ≤ turns acts) :
    outputs acts r = [.eof] := by
  subst hr
  induction acts with
  | nil => cases hturns
  | cons a acts ih =>
    cases a with
    | cancel =>
      rw [turns, List.count_cons_of_ne (by decide)] at hturns
      exact ih hturns
    | turn => rfl

/-- The results of a reader that has all the bytes. -/
theorem outputs_end {acts : List Act} (hr : r.chunks = []) (hturns : 2 ≤ turns acts) :
    outputs acts r = expectedEnd r.ending r.pending := by
  obtain ⟨pending, maxLine, chunks, ending⟩ := r
  obtain rfl : chunks = [] := hr
  induction acts with
  | nil => cases hturns
  | cons a acts ih =>
    cases a with
    | cancel =>
      rw [turns, List.count_cons_of_ne (by decide)] at hturns
      exact ih hturns
    | turn =>
      rw [turns, List.count_cons_self] at hturns
      cases ending with
      | failed cause => rfl
      | eof =>
        by_cases hp : pending = []
        · subst hp
          rfl
        · have hnext : outputs acts ⟨[], maxLine, [], .eof⟩ = [.eof] :=
            outputs_eof rfl (Nat.le_of_succ_le_succ hturns)
          simp [outputs, turn, expectedEnd, hp, hnext]

/-- The chunks that are left, once a line has been taken off the first. -/
theorem flatten_left (left : List UInt8) (rest : List (List UInt8)) :
    (if left = [] then rest else left :: rest).flatten = left ++ rest.flatten := by
  split_ifs with h
  · rw [h, List.nil_append]
  · rfl

/-- No chunk ends before the first one does. -/
theorem le_of_mem_cuts {place first : ℕ} {rest : List (List UInt8)}
    (h : place ∈ first :: cuts first rest) : first ≤ place := by
  induction rest generalizing first with
  | nil => exact (List.mem_singleton.mp h).ge
  | cons chunk rest ih =>
    rcases List.mem_cons.mp h with rfl | h
    · exact le_rfl
    · exact le_trans (Nat.le_add_right _ _) (ih h)

/-- A chunk that has been used up has no place in a later line. -/
theorem longLineCut_left {start : ℕ} (left : List UInt8) (rest : List (List UInt8)) :
    LongLineCut maxLine start ls (cuts start (if left = [] then rest else left :: rest)) ↔
      LongLineCut maxLine start ls ((start + left.length) :: cuts (start + left.length) rest) := by
  split_ifs with h
  · subst h
    refine forall_congr' fun lo => forall_congr' fun hi => imp_congr_right fun hlong => ?_
    have hle := le_of_firstLong hlong
    rw [List.length_nil, Nat.add_zero]
    constructor
    · rintro ⟨place, hplace, hin⟩
      exact ⟨place, List.mem_cons_of_mem _ hplace, hin⟩
    · rintro ⟨place, hplace, hin⟩
      rcases List.mem_cons.mp hplace with rfl | hplace
      · omega
      · exact ⟨place, hplace, hin⟩
  · rfl

/-- In the midst of a line that starts at `start`, the reader returns the lines of its stream
exactly if a chunk ends inside the first long one. -/
def ReturnsLines (acts : List Act) (r : LineReader) (start : ℕ) : Prop :=
  outputs acts r = expected r.maxLine r.ending (lines (r.pending ++ r.chunks.flatten)) ↔
    LongLineCut r.maxLine start (lines (r.pending ++ r.chunks.flatten))
      (cuts (start + r.pending.length) r.chunks)

/-- The chunk has a newline: the line ends here, whole if it is too long. -/
theorem returnsLines_line {line left : List UInt8} {rest : List (List UInt8)} {start : ℕ}
    {acts : List Act} (hpending : newline ∉ r.pending) (hline : newline ∉ line)
    (hr : r.chunks = (line ++ newline :: left) :: rest)
    (hnext : ReturnsLines acts
      { r with pending := [], chunks := if left = [] then rest else left :: rest }
      (start + (r.pending ++ line).length + 1)) :
    ReturnsLines (.turn :: acts) r start := by
  have hno : newline ∉ r.pending ++ line := by simp [hpending, hline]
  have hstream : lines (r.pending ++ ((line ++ newline :: left) :: rest).flatten) =
      (r.pending ++ line) :: lines (left ++ rest.flatten) := by
    rw [← lines_append hno]
    simp
  have hlen : start + r.pending.length + (line ++ newline :: left).length =
      start + (r.pending ++ line).length + 1 + left.length := by
    simp only [List.length_append, List.length_cons]
    omega
  rw [ReturnsLines, outputs_line (turn_line hline hr), hr, hstream, cuts, hlen,
    expected_cons (lines_ne_nil _)]
  by_cases hlong : r.maxLine < (r.pending ++ line).length
  · -- the line is returned whole, and no chunk ends in it
    rw [if_pos hlong]
    refine iff_of_false (fun h => takeUtf8_ne_sizeCap _ (List.cons.inj h).1) fun h => ?_
    obtain ⟨place, hplace, hlo, hhi⟩ := h start (start + (r.pending ++ line).length)
      (by rw [firstLong_cons (lines_ne_nil _), if_pos hlong])
    have hafter := le_of_mem_cuts hplace
    omega
  · rw [if_neg hlong]
    simp only [ReturnsLines, List.nil_append, flatten_left, List.length_nil, Nat.add_zero,
      longLineCut_left] at hnext
    rw [List.cons.injEq, eq_self, true_and, hnext]
    refine forall_congr' fun lo => forall_congr' fun hi => ?_
    rw [firstLong_cons (lines_ne_nil _), if_neg hlong]

/-- The chunk has no newline: its end shows that the line is too long, or the line goes on. -/
theorem returnsLines_piece {chunk : List UInt8} {rest : List (List UInt8)} {start : ℕ}
    {acts : List Act} (hpending : newline ∉ r.pending) (hnl : newline ∉ chunk)
    (hr : r.chunks = chunk :: rest)
    (hnext : (r.pending ++ chunk).length ≤ r.maxLine →
      ReturnsLines acts { r with pending := r.pending ++ chunk, chunks := rest } start) :
    ReturnsLines (.turn :: acts) r start := by
  have hno : newline ∉ r.pending ++ chunk := by simp [hpending, hnl]
  have hstream : r.pending ++ (chunk :: rest).flatten =
      r.pending ++ chunk ++ rest.flatten := by simp
  have hlen : start + r.pending.length + chunk.length =
      start + (r.pending ++ chunk).length := by rw [List.length_append, Nat.add_assoc]
  have hturn := turn_piece hnl hr
  rw [ReturnsLines, hr, hstream, cuts, hlen]
  by_cases hlong : r.maxLine < (r.pending ++ chunk).length
  · rw [if_pos hlong] at hturn
    rw [outputs_sizeCap hturn, expected_of_long hno hlong]
    refine iff_of_true rfl fun lo hi h => ?_
    obtain ⟨rfl, hhi⟩ := firstLong_of_long hno hlong h
    exact ⟨_, List.mem_cons_self, by omega, hhi⟩
  · rw [if_neg hlong] at hturn
    rw [outputs_again hturn]
    refine (hnext (not_lt.mp hlong)).trans (forall_congr' fun lo => forall_congr' fun hi =>
      imp_congr_right fun hfirst => ?_)
    have hle := le_of_firstLong hfirst
    constructor
    · rintro ⟨place, hplace, hin⟩
      exact ⟨place, List.mem_cons_of_mem _ hplace, hin⟩
    · rintro ⟨place, hplace, hin⟩
      rcases List.mem_cons.mp hplace with rfl | hplace
      · omega
      · exact ⟨place, hplace, hin⟩

/-- **When the reader returns the lines of its stream,** after enough turns. -/
theorem outputs_eq_iff {acts : List Act} (hpending : newline ∉ r.pending)
    (hshort : r.pending.length ≤ r.maxLine) (hchunks : [] ∉ r.chunks)
    (hturns : r.chunks.flatten.length + 2 ≤ turns acts) (start : ℕ) :
    ReturnsLines acts r start := by
  induction acts generalizing r start with
  | nil => exact absurd hturns (by simp [turns])
  | cons a acts ih =>
    cases a with
    | cancel =>
      rw [turns, List.count_cons_of_ne (by decide)] at hturns
      exact ih hpending hshort hchunks hturns start
    | turn =>
      rcases hr : r.chunks with - | ⟨chunk, rest⟩
      · -- the rest of the stream is in the buffer
        rw [hr] at hturns
        have hall : lines (r.pending ++ ([] : List (List UInt8)).flatten) = [r.pending] := by
          rw [List.flatten_nil, List.append_nil, lines_of_notMem hpending]
        have hcut : ∀ places, LongLineCut r.maxLine start [r.pending] places := by
          intro places lo hi hlong
          cases hlong
        rw [ReturnsLines, hr, hall, expected_singleton, if_neg (not_lt.mpr hshort),
          outputs_end hr (by simpa using hturns)]
        exact iff_of_true rfl (hcut _)
      · rw [turns, List.count_cons_self, hr, List.flatten_cons, List.length_append] at hturns
        have hrest : [] ∉ rest := fun h => hchunks (hr ▸ List.mem_cons_of_mem _ h)
        by_cases hnl : newline ∈ chunk
        · obtain ⟨line, left, rfl, hline⟩ := List.eq_append_cons_of_mem hnl
          refine returnsLines_line hpending hline hr (ih (by simp) (by simp) ?_ ?_ _)
          · show [] ∉ if left = [] then rest else left :: rest
            split_ifs with hleft
            · exact hrest
            · simpa [Ne.symm hleft] using hrest
          · show (if left = [] then rest else left :: rest).flatten.length + 2 ≤ turns acts
            rw [flatten_left, List.length_append]
            simp only [List.length_append, List.length_cons] at hturns
            rw [turns]
            omega
        · refine returnsLines_piece hpending hnl hr fun hle =>
            ih (by simp [hpending, hnl]) hle hrest ?_ start
          have hpos : 0 < chunk.length := by
            refine List.length_pos_iff.mpr fun he => hchunks ?_
            rw [hr, he]
            exact List.mem_cons_self
          show rest.flatten.length + 2 ≤ turns acts
          rw [turns]
          omega

/-! ### The reader of a stream -/

/-- More actions give more results. -/
theorem outputs_append (acts more : List Act) (r : LineReader) :
    outputs acts r <+: outputs (acts ++ more) r := by
  induction acts generalizing r with
  | nil => exact List.nil_prefix
  | cons a acts ih =>
    cases a with
    | cancel => exact ih r
    | turn =>
      rw [List.cons_append, outputs, outputs]
      rcases turn r with r' | ⟨result, r'⟩
      · exact ih r'
      · cases h : result.isLast
        · simpa [h] using ih r'
        · simp [h]

theorem size_of_takeUtf8 {bytes : List UInt8} {text : String} (h : takeUtf8 bytes = .line text) :
    text.utf8ByteSize = bytes.length := by
  unfold takeUtf8 at h
  split at h
  · next t ht =>
    cases h
    unfold String.fromUTF8? at ht
    split at ht
    · cases ht
      rfl
    · cases ht
  · cases h

/-- No line of these is too long. -/
theorem size_le_of_mem_expected {text : String}
    (h : .line text ∈ expected maxLine ending ls) : text.utf8ByteSize ≤ maxLine := by
  induction ls with
  | nil => cases h
  | cons line ls ih =>
    have hline : ∀ {bytes : List UInt8}, ¬ maxLine < bytes.length → .line text = takeUtf8 bytes →
        text.utf8ByteSize ≤ maxLine :=
      fun hlen heq => (size_of_takeUtf8 heq.symm).trans_le (not_lt.mp hlen)
    by_cases hlong : maxLine < line.length
    · rcases ls with - | ⟨next, rest⟩ <;> simp [expected, hlong] at h
    · rcases ls with - | ⟨next, rest⟩
      · rw [expected_singleton, if_neg hlong] at h
        cases ending with
        | failed cause => simp [expectedEnd] at h
        | eof =>
          by_cases hnil : line = []
          · simp [expectedEnd, hnil] at h
          · simp only [expectedEnd, hnil, if_false, List.mem_cons, reduceCtorEq,
              List.not_mem_nil, or_false] at h
            exact hline hlong h
      · rw [expected_cons (by simp), if_neg hlong] at h
        rcases List.mem_cons.mp h with h | h
        · exact hline hlong h
        · exact ih h

/-- Whatever calls are dropped, the results are those that are expected for the lines, and all of
them once there have been enough turns; and no line is too long. -/
def ReadsLines (maxLine : ℕ) (ending : Ending) (chunks : List (List UInt8)) : Prop :=
  ∀ acts,
    outputs acts ⟨[], maxLine, chunks, ending⟩ <+: expected maxLine ending (lines chunks.flatten) ∧
    (chunks.flatten.length + 2 ≤ turns acts →
      outputs acts ⟨[], maxLine, chunks, ending⟩ =
        expected maxLine ending (lines chunks.flatten)) ∧
    ∀ text, .line text ∈ outputs acts ⟨[], maxLine, chunks, ending⟩ → text.utf8ByteSize ≤ maxLine

/-- **When the chunks do not matter:** exactly if a chunk ends in the first line that is too long,
once it is too long, or that line has no newline. -/
theorem reads_lines_iff {chunks : List (List UInt8)} (hchunks : [] ∉ chunks) (maxLine : ℕ)
    (ending : Ending) :
    ReadsLines maxLine ending chunks ↔
      LongLineCut maxLine 0 (lines chunks.flatten) (cuts 0 chunks) := by
  have hiff : ∀ acts, chunks.flatten.length + 2 ≤ turns acts →
      (outputs acts ⟨[], maxLine, chunks, ending⟩ =
          expected maxLine ending (lines chunks.flatten) ↔
        LongLineCut maxLine 0 (lines chunks.flatten) (cuts 0 chunks)) :=
    fun acts hturns => outputs_eq_iff (r := ⟨[], maxLine, chunks, ending⟩) (by simp)
      (Nat.zero_le _) hchunks hturns 0
  have henough : chunks.flatten.length + 2 ≤
      turns (List.replicate (chunks.flatten.length + 2) Act.turn) := by
    rw [turns, List.count_replicate_self]
  constructor
  · intro h
    exact (hiff _ henough).mp ((h _).2.1 henough)
  · intro h acts
    have hinit : outputs acts ⟨[], maxLine, chunks, ending⟩ <+:
        expected maxLine ending (lines chunks.flatten) := by
      rw [← (hiff (acts ++ List.replicate (chunks.flatten.length + 2) Act.turn) (by
        rw [turns, List.count_append]
        exact le_trans henough (Nat.le_add_left _ _))).mpr h]
      exact outputs_append _ _ _
    exact ⟨hinit, fun hturns => (hiff acts hturns).mpr h,
      fun text ht => size_le_of_mem_expected (hinit.mem ht)⟩

/-- `ab`, and the long line `cdefg` that a chunk leaves at `f`. -/
theorem reads_lines_iff_cut :
    [] ∉ [[97, 98, 10, 99], [100, 101, 102], [103, (10 : UInt8)]] ∧
      ReadsLines 3 .eof [[97, 98, 10, 99], [100, 101, 102], [103, 10]] := by
  have hchunks : [] ∉ [[97, 98, 10, 99], [100, 101, 102], [103, (10 : UInt8)]] := by decide
  refine ⟨hchunks, (reads_lines_iff hchunks 3 .eof).mpr fun lo hi h => ?_⟩
  obtain ⟨rfl, rfl⟩ : 3 = lo ∧ 8 = hi := by
    have hfirst : firstLong 3 0 (lines [[97, 98, 10, 99], [100, 101, 102], [103, 10]].flatten) =
        some (3, 8) := by decide
    rw [hfirst] at h
    cases h
    exact ⟨rfl, rfl⟩
  exact ⟨7, by decide, by decide, by decide⟩

/-! ### A line that is too long for the reader, and is returned -/

theorem mem_cuts_replicate {place start n : ℕ} {chunk last : List UInt8}
    (h : place ∈ cuts start (List.replicate n chunk ++ [last])) :
    place ≤ start + n * chunk.length ∨ place = start + n * chunk.length + last.length := by
  induction n generalizing start with
  | zero => simpa [cuts] using Or.inr h
  | succ n ih =>
    rw [List.replicate_succ, List.cons_append, cuts] at h
    rw [Nat.succ_mul]
    rcases List.mem_cons.mp h with rfl | h
    · left
      omega
    · have := ih h
      omega

/-- A line of one byte more than `n` chunks, the last of which comes with the newline. -/
theorem not_reads_lines_replicate (n : ℕ) {k : ℕ} (hk : 0 < k) {b : UInt8}
    (hb : b ≠ newline) :
    ¬ ReadsLines (n * k) .eof (List.replicate n (List.replicate k b) ++ [[b, newline]]) := by
  intro h
  have hflat : (List.replicate n (List.replicate k b) ++ [[b, newline]]).flatten =
      (List.replicate (n * k) b ++ [b]) ++ newline :: [] := by simp
  have hno : newline ∉ List.replicate (n * k) b ++ [b] := by simp [hb.symm]
  have hlines : lines (List.replicate n (List.replicate k b) ++ [[b, newline]]).flatten =
      [List.replicate (n * k) b ++ [b], []] := by
    rw [hflat, lines_append hno]
    rfl
  have hlong : n * k < (List.replicate (n * k) b ++ [b]).length := by simp
  -- the results of a reader that has had enough turns
  have hchunks : [] ∉ List.replicate n (List.replicate k b) ++ [[b, newline]] := by
    simp [List.mem_replicate, hk.ne']
  have hturns : (List.replicate n (List.replicate k b) ++ [[b, newline]]).flatten.length + 2 ≤
      turns (List.replicate (((List.replicate n (List.replicate k b) ++
        [[b, newline]]).flatten).length + 2) .turn) := by
    rw [turns, List.count_replicate_self]
  have hcut := (outputs_eq_iff (r := ⟨[], n * k, _, .eof⟩) (by simp) (Nat.zero_le _) hchunks hturns
    0).mp ((h _).2.1 hturns)
  simp only [List.nil_append, hlines] at hcut
  obtain ⟨place, hplace, hlo, hhi⟩ := hcut 0 (0 + (List.replicate (n * k) b ++ [b]).length)
    (by rw [firstLong_cons (by simp), if_pos hlong])
  rcases mem_cuts_replicate hplace with hle | heq
  · simp only [List.length_replicate, List.length_nil] at hle
    omega
  · simp only [List.length_replicate, List.length_nil, List.length_cons, List.length_append]
      at heq hhi
    omega

/-- A line of a megabyte and a byte, read in pieces of eight kilobytes, is returned whole. -/
theorem long_line_is_returned :
    ¬ ReadsLines maxEventLineBytes .eof
      (List.replicate 128 (List.replicate 8192 97) ++ [[97, newline]]) := by
  have hmax : maxEventLineBytes = 128 * 8192 := rfl
  rw [hmax]
  exact not_reads_lines_replicate 128 (Nat.succ_pos 8191) (by decide)

end MuxrCore.Herdr.Subscribe.NextLine
