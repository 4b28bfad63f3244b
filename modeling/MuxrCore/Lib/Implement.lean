import MuxrCore.Lib.Program

/-! # Operations that are programs

An operation of a program may be done by a program in turn, over operations below. What the whole
does is what the program does, with a run of an operation's own program in the place of each of its
operations; the last of them may be under way.

* `does_implement`: what the whole can perform.
* `does_implement_rename`: and where the operations only go by another name. -/

namespace MuxrCore.Lib.Implement

open MuxrCore.Lib.Program MuxrCore.Lib.Program.Prog

variable {Op Op' : Type} {Answer : Op → Type} {Answer' : Op' → Type} {α : Type}
  {impl : (op : Op) → Prog Answer' (Answer op)}

/-- Every operation is done by its program. -/
def implement (impl : (op : Op) → Prog Answer' (Answer op)) : Prog Answer α → Prog Answer' α
  | .ret a => .ret a
  | .perform op next => impl op >>= fun a => implement impl (next a)

/-- The operations of `es` were done by what is in `lows`. -/
inductive Implements (impl : (op : Op) → Prog Answer' (Answer op)) :
    List (Event Answer) → List (Event Answer') → Prop
  | nil : Implements impl [] []
  | cons {e : Event Answer} {es : List (Event Answer)} {low lows : List (Event Answer')}
      (h : Does (impl e.op) low (.done e.answer)) (hs : Implements impl es lows) :
      Implements impl (e :: es) (low ++ lows)

/-- **What the whole performs is performed for an operation of the program**, after what was done
for the operations before. -/
theorem does_implement {p : Prog Answer α} {lows : List (Event Answer')} {o : Op'} :
    Does (implement impl p) lows (.performs o) ↔ ∃ es before low op, lows = before ++ low ∧
      Implements impl es before ∧ Does p es (.performs op) ∧ Does (impl op) low (.performs o) := by
  induction p generalizing lows with
  | ret a =>
    constructor
    · rintro ⟨⟩
    · rintro ⟨_, _, _, _, -, -, ⟨⟩, -⟩
  | perform op next ih =>
    rw [implement, does_bind_performs]
    constructor
    · rintro (hlow | ⟨a, low, lows, rfl, ha, hrest⟩)
      · exact ⟨[], [], lows, op, rfl, .nil, .performs op next, hlow⟩
      · obtain ⟨es, before, last, op', rfl, himpl, hd, hlast⟩ := (ih a).mp hrest
        have hfirst : Implements impl (⟨op, a⟩ :: es) (low ++ before) := .cons ha himpl
        exact ⟨⟨op, a⟩ :: es, low ++ before, last, op', (List.append_assoc _ _ _).symm, hfirst,
          .answered a hd, hlast⟩
    · rintro ⟨es, before, last, op', rfl, himpl, hd, hlast⟩
      cases hd with
      | performs =>
        cases himpl
        exact Or.inl hlast
      | answered a hd =>
        cases himpl with
        | cons ha hs =>
          exact Or.inr ⟨a, _, _, List.append_assoc _ _ _, ha,
            (ih a).mpr ⟨_, _, last, op', rfl, hs, hd, hlast⟩⟩

/-- What is below was done for something above. -/
theorem Implements.exists_above {es : List (Event Answer)} {lows : List (Event Answer')}
    (h : Implements impl es lows) {x : Event Answer'} (hx : x ∈ lows) :
    ∃ e ∈ es, ∃ low, Does (impl e.op) low (.done e.answer) ∧ x ∈ low := by
  induction h with
  | nil => cases hx
  | @cons e es low lows h hs ih =>
    rcases List.mem_append.mp hx with hx | hx
    · exact ⟨e, List.mem_cons_self, low, h, hx⟩
    · obtain ⟨e', he', hrest⟩ := ih hx
      exact ⟨e', List.mem_cons_of_mem e he', hrest⟩

/-! ### Operations under another name -/

/-- Operations that go by another name below. -/
def rename (f : Op → Op') (back : ∀ op, Answer' (f op) → Answer op) :
    (op : Op) → Prog Answer' (Answer op) :=
  fun op => .perform (f op) fun a => .ret (back op a)

variable {f : Op → Op'} {back : ∀ op, Answer' (f op) → Answer op}

theorem does_rename_done {op : Op} {low : List (Event Answer')} {a : Answer op} :
    Does (rename f back op) low (.done a) ↔ ∃ a', low = [⟨f op, a'⟩] ∧ back op a' = a := by
  constructor
  · rintro (_ | _ | ⟨a', ⟨⟩⟩)
    exact ⟨a', rfl, rfl⟩
  · rintro ⟨a', rfl, rfl⟩
    exact .answered a' (.done _)

theorem does_rename_performs {op : Op} {low : List (Event Answer')} {o : Op'} :
    Does (rename f back op) low (.performs o) ↔ low = [] ∧ o = f op := by
  constructor
  · rintro (_ | _ | ⟨a', ⟨⟩⟩)
    exact ⟨rfl, rfl⟩
  · rintro ⟨rfl, rfl⟩
    exact .performs _ _

/-- What is performed under another name is an operation of the program. -/
theorem does_implement_rename {p : Prog Answer α} {lows : List (Event Answer')} {o : Op'}
    (hd : Does (implement (rename f back) p) lows (.performs o)) :
    ∃ es op, Implements (rename f back) es lows ∧ o = f op ∧ Does p es (.performs op) := by
  obtain ⟨es, before, low, op, rfl, himpl, hp, hlow⟩ := does_implement.mp hd
  obtain ⟨rfl, rfl⟩ := does_rename_performs.mp hlow
  rw [List.append_nil]
  exact ⟨es, op, himpl, rfl, hp⟩

theorem Implements.exists_rename {es : List (Event Answer)} {lows : List (Event Answer')}
    (h : Implements (rename f back) es lows) {x : Event Answer'} (hx : x ∈ lows) :
    ∃ e ∈ es, x.op = f e.op := by
  obtain ⟨e, he, low, hlow, hin⟩ := h.exists_above hx
  obtain ⟨a, rfl, -⟩ := does_rename_done.mp hlow
  obtain rfl := List.mem_singleton.mp hin
  exact ⟨e, he, rfl⟩

end MuxrCore.Lib.Implement
