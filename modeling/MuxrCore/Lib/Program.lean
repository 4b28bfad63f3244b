import Mathlib.Data.List.Basic
import Mathlib.Tactic.TypeStar

/-! # Programs that perform operations

A program returns, or performs an operation and goes on with its answer. What an operation does, and
what it answers, is not part of the program: the answers are the environment's, and so is how long
it waits for one, or whether it is dropped while it waits.

`Does p es s` says that `p` can perform the operations of `es` with those answers, and is then at
`s`: it has a result, or it performs another operation. `Meets P Q h p` is computed along the
program: after the history `h`, every operation meets `P` and every result meets `Q`, each together
with what was done before.

* `meets_iff`: the computed condition is the one about everything the program can do.
* `meets_bind`, `Meets.mono`: how conditions compose.
* `Handler`: programs that may fail, with their rules; `gives_bind` takes a run apart. -/

namespace MuxrCore.Lib.Program

/-- A program over operations with these answers. -/
inductive Prog {Op : Type} (Answer : Op → Type) (α : Type)
  | ret (a : α)
  | perform (op : Op) (next : Answer op → Prog Answer α)

/-- An operation, with the answer that it got. -/
structure Event {Op : Type} (Answer : Op → Type) where
  op : Op
  answer : Answer op

/-- Where a program is. -/
inductive Stage (Op α : Type)
  | done (a : α)
  | performs (op : Op)

variable {Op : Type} {Answer : Op → Type} {α β ε : Type}

namespace Prog

def bind : Prog Answer α → (α → Prog Answer β) → Prog Answer β
  | ret a, f => f a
  | perform op next, f => perform op fun a => (next a).bind f

instance : Monad (Prog Answer) where
  pure := ret
  bind := bind

/-- The program can do the operations of `es`, and then is at `s`. -/
inductive Does : Prog Answer α → List (Event Answer) → Stage Op α → Prop
  | done (a : α) : Does (ret a) [] (.done a)
  | performs (op : Op) (next : Answer op → Prog Answer α) : Does (perform op next) [] (.performs op)
  | answered {op : Op} {next : Answer op → Prog Answer α} (a : Answer op) {es : List (Event Answer)}
      {s : Stage Op α} (h : Does (next a) es s) : Does (perform op next) (⟨op, a⟩ :: es) s

/-- What is required of a program at a stage, after what was done. -/
def AtStage (P : List (Event Answer) → Op → Prop) (Q : List (Event Answer) → α → Prop)
    (h : List (Event Answer)) : Stage Op α → Prop
  | .done a => Q h a
  | .performs op => P h op

/-- After `h`, every operation meets `P` and every result meets `Q`. -/
def Meets (P : List (Event Answer) → Op → Prop) (Q : List (Event Answer) → α → Prop) :
    List (Event Answer) → Prog Answer α → Prop
  | h, ret a => Q h a
  | h, perform op next => P h op ∧ ∀ a, Meets P Q (h ++ [⟨op, a⟩]) (next a)

variable {P P' : List (Event Answer) → Op → Prop} {Q Q' : List (Event Answer) → α → Prop}
  {h : List (Event Answer)} {p : Prog Answer α}

/-- **The condition that is computed along a program is the one about what it can do.** -/
theorem meets_iff : Meets P Q h p ↔ ∀ es s, Does p es s → AtStage P Q (h ++ es) s := by
  induction p generalizing h with
  | ret a =>
    constructor
    · rintro hp es s ⟨⟩
      rwa [List.append_nil]
    · intro hall
      have hdone := hall [] _ (.done a)
      rwa [List.append_nil] at hdone
  | perform op next ih =>
    constructor
    · rintro ⟨hop, hnext⟩ es s hd
      cases hd with
      | performs => simpa [AtStage] using hop
      | answered a hd => simpa using (ih a).mp (hnext a) _ s hd
    · intro hall
      refine ⟨by simpa [AtStage] using hall [] _ (.performs op next), fun a => ?_⟩
      exact (ih a).mpr fun es s hd => by simpa using hall _ s (.answered a hd)

/-- A condition may be weakened. -/
theorem Meets.mono (hp : Meets P Q h p) (hP : ∀ h op, P h op → P' h op)
    (hQ : ∀ h a, Q h a → Q' h a) : Meets P' Q' h p := by
  induction p generalizing h with
  | ret a => exact hQ h a hp
  | perform op next ih => exact ⟨hP h op hp.1, fun a => ih a (hp.2 a)⟩

/-- **A program and its continuation**: the results of the first are where the second goes on. -/
theorem meets_bind {f : α → Prog Answer β} {Q : List (Event Answer) → β → Prop} :
    Meets P Q h (p >>= f) ↔ Meets P (fun h a => Meets P Q h (f a)) h p := by
  induction p generalizing h with
  | ret a => exact Iff.rfl
  | perform op next ih => exact and_congr_right fun _ => forall_congr' fun a => ih a

/-- What has an answer was performed, after what was done before it. -/
theorem Does.performs_of_append {es es' : List (Event Answer)} {e : Event Answer} {s : Stage Op α}
    (hd : Does p (es ++ e :: es') s) : Does p es (.performs e.op) := by
  induction es generalizing p with
  | nil =>
    cases hd with
    | answered a hd => exact .performs _ _
  | cons e' es ih =>
    cases hd with
    | answered a hd => exact .answered a (ih hd)

/-- A result of a program and its continuation has one of the program's on the way. -/
theorem does_bind_done {f : α → Prog Answer β} {es : List (Event Answer)} {b : β} :
    Does (p >>= f) es (.done b) ↔
      ∃ a es₁ es₂, es = es₁ ++ es₂ ∧ Does p es₁ (.done a) ∧ Does (f a) es₂ (.done b) := by
  induction p generalizing es with
  | ret a =>
    constructor
    · exact fun hd => ⟨a, [], es, rfl, .done a, hd⟩
    · rintro ⟨_, _, es₂, rfl, ⟨⟩, hd⟩
      exact hd
  | perform op next ih =>
    constructor
    · rintro (_ | _ | ⟨a, hd⟩)
      obtain ⟨c, es₁, es₂, rfl, hc, hb⟩ := (ih a).mp hd
      exact ⟨c, ⟨op, a⟩ :: es₁, es₂, rfl, .answered a hc, hb⟩
    · rintro ⟨c, _, es₂, rfl, _ | _ | ⟨a, hc⟩, hb⟩
      exact .answered a ((ih a).mpr ⟨c, _, es₂, rfl, hc, hb⟩)

/-- A program and its continuation perform an operation of the one or of the other. -/
theorem does_bind_performs {f : α → Prog Answer β} {es : List (Event Answer)} {o : Op} :
    Does (p >>= f) es (.performs o) ↔ Does p es (.performs o) ∨
      ∃ a es₁ es₂, es = es₁ ++ es₂ ∧ Does p es₁ (.done a) ∧ Does (f a) es₂ (.performs o) := by
  induction p generalizing es with
  | ret a =>
    constructor
    · exact fun hd => Or.inr ⟨a, [], es, rfl, .done a, hd⟩
    · rintro (hp | ⟨_, _, es₂, rfl, ⟨⟩, hd⟩)
      · cases hp
      · exact hd
  | perform op next ih =>
    constructor
    · intro hd
      cases hd with
      | performs => exact Or.inl (.performs _ _)
      | answered a hd =>
        rcases (ih a).mp hd with hp | ⟨c, es₁, es₂, rfl, hc, ho⟩
        · exact Or.inl (.answered a hp)
        · exact Or.inr ⟨c, ⟨_, a⟩ :: es₁, es₂, rfl, .answered a hc, ho⟩
    · rintro (hp | ⟨c, es₁, es₂, rfl, hc, ho⟩)
      · cases hp with
        | performs => exact .performs _ _
        | answered a hp => exact .answered a ((ih a).mpr (Or.inl hp))
      · cases hc with
        | answered a hc => exact .answered a ((ih a).mpr (Or.inr ⟨c, _, es₂, rfl, hc, ho⟩))

end Prog

/-! ### Programs that may fail -/

/-- A program that has a result, or fails. -/
abbrev Handler {Op : Type} (Answer : Op → Type) (ε α : Type) := ExceptT ε (Prog Answer) α

namespace Handler

/-- Perform an operation. -/
def op (o : Op) : Handler Answer ε (Answer o) :=
  ExceptT.mk (.perform o fun a => .ret (.ok a))

/-- Go on with a result, or fail. -/
def check (r : Except ε α) : Handler Answer ε α := ExceptT.mk (.ret r)

/-- What must hold of a handler: of its operations, and of the result or the failure. -/
def Meets (P : List (Event Answer) → Op → Prop) (Q : List (Event Answer) → Except ε α → Prop)
    (h : List (Event Answer)) (x : Handler Answer ε α) : Prop :=
  Prog.Meets P Q h x.run

variable {P P' : List (Event Answer) → Op → Prop}
  {Q Q' : List (Event Answer) → Except ε α → Prop} {h : List (Event Answer)}
  {x : Handler Answer ε α}

theorem Meets.mono (hx : Meets P Q h x) (hP : ∀ h op, P h op → P' h op)
    (hQ : ∀ h a, Q h a → Q' h a) : Meets P' Q' h x :=
  Prog.Meets.mono hx hP hQ

@[simp] theorem meets_pure {a : α} : Meets P Q h (pure a) ↔ Q h (.ok a) := Iff.rfl

@[simp] theorem meets_throw {e : ε} : Meets P Q h (throw e) ↔ Q h (.error e) := Iff.rfl

@[simp] theorem meets_check {r : Except ε α} : Meets P Q h (check r) ↔ Q h r := Iff.rfl

@[simp] theorem meets_op {o : Op} {Q : List (Event Answer) → Except ε (Answer o) → Prop} :
    Meets P Q h (op o) ↔ P h o ∧ ∀ a, Q (h ++ [⟨o, a⟩]) (.ok a) := Iff.rfl

/-- **A handler goes on with the results, and a failure is its own.** -/
@[simp] theorem meets_bind {f : α → Handler Answer ε β}
    {Q : List (Event Answer) → Except ε β → Prop} :
    Meets P Q h (x >>= f) ↔ Meets P (fun h r => match r with
      | .ok a => Meets P Q h (f a)
      | .error e => Q h (.error e)) h x := by
  refine Iff.trans Prog.meets_bind ?_
  refine iff_of_eq (congrArg (fun Q => Prog.Meets P Q h x.run) ?_)
  funext h r
  rcases r with e | a <;> rfl

/-- A handler goes on with the answer of its first operation. -/
theorem meets_op_bind {o : Op} {f : Answer o → Handler Answer ε β}
    {Q : List (Event Answer) → Except ε β → Prop} :
    Meets P Q h (op o >>= f) ↔ P h o ∧ ∀ a, Meets P Q (h ++ [⟨o, a⟩]) (f a) := Iff.rfl

@[simp] theorem meets_map {g : α → β} {Q : List (Event Answer) → Except ε β → Prop} :
    Meets P Q h (g <$> x) ↔ Meets P (fun h r => Q h (r.map g)) h x := by
  refine Iff.trans Prog.meets_bind ?_
  refine iff_of_eq (congrArg (fun Q => Prog.Meets P Q h x.run) ?_)
  funext h r
  rcases r with e | a <;> rfl

/-! ### Runs of a handler -/

/-- The handler can do the operations of `es`, and then has the result or fails. -/
def Gives (x : Handler Answer ε α) (es : List (Event Answer)) (r : Except ε α) : Prop :=
  Prog.Does x.run es (.done r)

variable {es : List (Event Answer)}

theorem gives_pure {a : α} {r : Except ε α} :
    Gives (pure a : Handler Answer ε α) es r ↔ es = [] ∧ r = .ok a := by
  constructor
  · rintro ⟨⟩
    exact ⟨rfl, rfl⟩
  · rintro ⟨rfl, rfl⟩
    exact .done _

theorem gives_throw {e : ε} {r : Except ε α} :
    Gives (throw e : Handler Answer ε α) es r ↔ es = [] ∧ r = .error e := by
  constructor
  · rintro ⟨⟩
    exact ⟨rfl, rfl⟩
  · rintro ⟨rfl, rfl⟩
    exact .done _

/-- A check does nothing, and has the result or fails. -/
theorem gives_check {c r : Except ε α} :
    Gives (check c : Handler Answer ε α) es r ↔ es = [] ∧ c = r := by
  constructor
  · rintro ⟨⟩
    exact ⟨rfl, rfl⟩
  · rintro ⟨rfl, rfl⟩
    exact .done _

theorem gives_check_bind {c : Except ε α} {f : α → Handler Answer ε β} {b : β} :
    Gives (check c >>= f) es (.ok b) ↔ ∃ a, c = .ok a ∧ Gives (f a) es (.ok b) := by
  rcases c with e | a
  · constructor
    · rintro ⟨⟩
    · rintro ⟨a, ha, -⟩
      cases ha
  · constructor
    · exact fun hd => ⟨a, rfl, hd⟩
    · rintro ⟨_, ⟨⟩, hd⟩
      exact hd

theorem gives_op {o : Op} {r : Except ε (Answer o)} :
    Gives (op o) es r ↔ ∃ a, es = [⟨o, a⟩] ∧ r = .ok a := by
  constructor
  · rintro (_ | _ | ⟨a, ⟨⟩⟩)
    exact ⟨a, rfl, rfl⟩
  · rintro ⟨a, rfl, rfl⟩
    exact .answered a (.done _)

theorem gives_op_bind {o : Op} {f : Answer o → Handler Answer ε β} {r : Except ε β} :
    Gives (op o >>= f) es r ↔ ∃ a es', es = ⟨o, a⟩ :: es' ∧ Gives (f a) es' r := by
  constructor
  · rintro (_ | _ | ⟨a, hd⟩)
    exact ⟨a, _, rfl, hd⟩
  · rintro ⟨a, es', rfl, hd⟩
    exact .answered a hd

/-- **A run of a handler and its continuation** is one of the handler, and one of the continuation
unless the handler failed. -/
theorem gives_bind {f : α → Handler Answer ε β} {r : Except ε β} :
    Gives (x >>= f) es r ↔ (∃ e, r = .error e ∧ Gives x es (.error e)) ∨
      ∃ a es₁ es₂, es = es₁ ++ es₂ ∧ Gives x es₁ (.ok a) ∧ Gives (f a) es₂ r := by
  refine Iff.trans Prog.does_bind_done ?_
  constructor
  · rintro ⟨e | a, es₁, es₂, rfl, hx, hf⟩
    · obtain ⟨⟩ := hf
      exact Or.inl ⟨e, rfl, by rwa [List.append_nil]⟩
    · exact Or.inr ⟨a, es₁, es₂, rfl, hx, hf⟩
  · rintro (⟨e, rfl, hx⟩ | ⟨a, es₁, es₂, rfl, hx, hf⟩)
    · exact ⟨.error e, es, [], (List.append_nil es).symm, hx, .done _⟩
    · exact ⟨.ok a, es₁, es₂, rfl, hx, hf⟩

/-- What is required of a result may be shown of the runs that have it. -/
theorem meets_of_gives (hx : Meets P (fun _ _ => True) h x)
    (hr : ∀ es r, Gives x es r → Q (h ++ es) r) : Meets P Q h x := by
  refine Prog.meets_iff.mpr fun es s hd => ?_
  rcases s with r | op
  · exact hr es r hd
  · exact Prog.meets_iff.mp hx es _ hd

end Handler

end MuxrCore.Lib.Program
