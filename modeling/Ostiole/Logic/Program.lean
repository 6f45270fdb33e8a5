import Mathlib.Order.Defs.Unbundled

/-!
# Specifications of stateful programs

Total programs over an explicit state, as a state monad gives them. `Preserves`
carries an invariant through a program together with a preorder on its states;
the rules below follow the program text. Nothing here depends on what the state
is.
-/

namespace Ostiole.Logic

universe u

variable {σ α β : Type u}

/-! ## Running on explicit states -/

theorem run_bind (program : StateM σ α) (next : α → StateM σ β) (state : σ) :
    (program >>= next) state = next (program state).1 (program state).2 := rfl

theorem run_pure (value : α) (state : σ) : (pure value : StateM σ α) state = (value, state) := rfl

theorem run_get (state : σ) : (get : StateM σ σ) state = (state, state) := rfl

/-- Substitutes the state read everywhere, decision procedures included. -/
theorem run_get_bind (next : σ → StateM σ β) (state : σ) :
    ((get : StateM σ σ) >>= next) state = next state state := rfl

theorem run_ite (condition : Prop) [Decidable condition] (first second : StateM σ α) (state : σ) :
    (if condition then first else second) state = if condition then first state
      else second state := by
  split <;> rfl

/-! ## Preservation -/

/-- A program keeps an invariant and relates its initial to its final state. -/
def Preserves (invariant : σ → Prop) (relation : σ → σ → Prop) (program : StateM σ α) : Prop :=
  ∀ state, invariant state → relation state (program state).2 ∧ invariant (program state).2

namespace Preserves

variable {invariant : σ → Prop} {relation : σ → σ → Prop}

theorem pure [Std.Refl relation] (value : α) :
    Preserves invariant relation (Pure.pure value : StateM σ α) :=
  fun state holds => ⟨Std.Refl.refl state, holds⟩

/-- One program after another. -/
theorem bind [IsTrans σ relation] {program : StateM σ α} {next : α → StateM σ β}
    (first : Preserves invariant relation program)
    (second : ∀ value, Preserves invariant relation (next value)) :
    Preserves invariant relation (program >>= next) := by
  intro state holds
  obtain ⟨before, middle⟩ := first state holds
  obtain ⟨after, final⟩ := second (program state).1 _ middle
  exact ⟨IsTrans.trans _ _ _ before after, final⟩

/-- A program whose error decides what follows. -/
theorem check [IsTrans σ relation] {ε : Type u} {program : StateM σ (Option ε)}
    {next : Option ε → StateM σ β} (first : Preserves invariant relation program)
    (fails : ∀ err, Preserves invariant relation (next (some err)))
    (rest : Preserves invariant relation (next none)) :
    Preserves invariant relation (program >>= next) := by
  refine first.bind fun failed => ?_
  cases failed with
  | some err => exact fails err
  | none => exact rest

/-- The same of a program that returns a value next to its error. -/
theorem checkValue [IsTrans σ relation] {ε : Type u} {program : StateM σ (α × Option ε)}
    {next : α × Option ε → StateM σ β} (first : Preserves invariant relation program)
    (fails : ∀ value err, Preserves invariant relation (next (value, some err)))
    (rest : ∀ value, Preserves invariant relation (next (value, none))) :
    Preserves invariant relation (program >>= next) := by
  refine first.bind fun (value, failed) => ?_
  cases failed with
  | some err => exact fails value err
  | none => exact rest value

/-- The same of a program that returns a value or an error. -/
theorem checkOk [IsTrans σ relation] {ε : Type u} {program : StateM σ (Except ε α)}
    {next : Except ε α → StateM σ β} (first : Preserves invariant relation program)
    (fails : ∀ err, Preserves invariant relation (next (.error err)))
    (rest : ∀ value, Preserves invariant relation (next (.ok value))) :
    Preserves invariant relation (program >>= next) := by
  refine first.bind fun result => ?_
  cases result with
  | error err => exact fails err
  | ok value => exact rest value

theorem map [IsTrans σ relation] [Std.Refl relation] {program : StateM σ α} (f : α → β)
    (holds : Preserves invariant relation program) :
    Preserves invariant relation (f <$> program) :=
  holds.bind fun value => pure (f value)

theorem ite {condition : Prop} [Decidable condition] {first second : StateM σ α}
    (onTrue : Preserves invariant relation first) (onFalse : Preserves invariant relation second) :
    Preserves invariant relation (if condition then first else second) := by
  split
  · exact onTrue
  · exact onFalse

/-- A program that only reads. -/
theorem reads [Std.Refl relation] {program : StateM σ α}
    (same : ∀ state, (program state).2 = state) :
    Preserves invariant relation program := by
  intro state holds
  rw [same]
  exact ⟨Std.Refl.refl state, holds⟩

/-- A relation that says less. -/
theorem mono {weaker : σ → σ → Prop} {program : StateM σ α}
    (holds : Preserves invariant relation program)
    (imp : ∀ first second, relation first second → weaker first second) :
    Preserves invariant weaker program :=
  fun state start => ⟨imp _ _ (holds state start).1, (holds state start).2⟩

end Preserves

/-! ## Pre- and postconditions -/

/-- From a state that satisfies `pre`, the value and the final state satisfy
`post`. -/
def Triple (pre : σ → Prop) (program : StateM σ α) (post : α → σ → Prop) : Prop :=
  ∀ state, pre state → post (program state).1 (program state).2

namespace Triple

variable {pre stronger : σ → Prop} {post : β → σ → Prop}

theorem pure {value : β} (holds : ∀ state, pre state → post value state) :
    Triple pre (Pure.pure value : StateM σ β) post :=
  holds

/-- One program after another, with what holds between them. -/
theorem bind {middle : α → σ → Prop} {program : StateM σ α} {next : α → StateM σ β}
    (first : Triple pre program middle)
    (second : ∀ value, Triple (middle value) (next value) post) :
    Triple pre (program >>= next) post :=
  fun state holds => second _ _ (first state holds)

/-- A program whose error decides what follows. -/
theorem check {ε : Type u} {middle : Option ε → σ → Prop} {program : StateM σ (Option ε)}
    {next : Option ε → StateM σ β} (first : Triple pre program middle)
    (fails : ∀ err, Triple (middle (some err)) (next (some err)) post)
    (rest : Triple (middle none) (next none) post) : Triple pre (program >>= next) post := by
  refine first.bind fun failed => ?_
  cases failed with
  | some err => exact fails err
  | none => exact rest

/-- The same of a program that returns a value or an error. -/
theorem checkOk {ε : Type u} {middle : Except ε α → σ → Prop} {program : StateM σ (Except ε α)}
    {next : Except ε α → StateM σ β} (first : Triple pre program middle)
    (fails : ∀ err, Triple (middle (.error err)) (next (.error err)) post)
    (rest : ∀ value, Triple (middle (.ok value)) (next (.ok value)) post) :
    Triple pre (program >>= next) post := by
  refine first.bind fun result => ?_
  cases result with
  | error err => exact fails err
  | ok value => exact rest value

/-- A program that starts by reading the state. -/
theorem get_bind {next : σ → StateM σ β}
    (rest : ∀ state, pre state → Triple (· = state) (next state) post) :
    Triple pre ((get : StateM σ σ) >>= next) post :=
  fun state holds => rest state holds state rfl

theorem ite {condition : Prop} [Decidable condition] {first second : StateM σ β}
    (onTrue : condition → Triple pre first post) (onFalse : ¬condition → Triple pre second post) :
    Triple pre (if condition then first else second) post := by
  split
  · next holds => exact onTrue holds
  · next fails => exact onFalse fails

/-- A branch on the state. -/
theorem get_ite {condition : σ → Prop} [∀ state, Decidable (condition state)]
    {first second : StateM σ β}
    (onTrue : Triple (fun state => pre state ∧ condition state) first post)
    (onFalse : Triple (fun state => pre state ∧ ¬condition state) second post) :
    Triple pre ((get : StateM σ σ) >>= fun state => if condition state then first else second)
      post := by
  intro state holds
  rw [run_get_bind]
  split
  · next met => exact onTrue state ⟨holds, met⟩
  · next unmet => exact onFalse state ⟨holds, unmet⟩

/-- A precondition that says more. -/
theorem strengthen {program : StateM σ β} (holds : Triple pre program post)
    (imp : ∀ state, stronger state → pre state) : Triple stronger program post :=
  fun state start => holds state (imp state start)

/-- A postcondition that says less. -/
theorem weaken {weaker : β → σ → Prop} {program : StateM σ β} (holds : Triple pre program post)
    (imp : ∀ value state, post value state → weaker value state) : Triple pre program weaker :=
  fun state start => imp _ _ (holds state start)

end Triple

/-! ## Runs from one state -/

/-- Run from `state`, a program ends with a value and a state in `post`. -/
def Ends (program : StateM σ α) (state : σ) (post : α → σ → Prop) : Prop :=
  post (program state).1 (program state).2

namespace Ends

variable {state : σ} {post : β → σ → Prop}

theorem pure {value : β} (holds : post value state) :
    Ends (Pure.pure value : StateM σ β) state post :=
  holds

theorem bind (middle : α → σ → Prop) {program : StateM σ α} {next : α → StateM σ β}
    (first : Ends program state middle)
    (rest : ∀ value state', middle value state' → Ends (next value) state' post) :
    Ends (program >>= next) state post :=
  rest _ _ first

theorem get_bind {next : σ → StateM σ β} (rest : Ends (next state) state post) :
    Ends ((get : StateM σ σ) >>= next) state post :=
  rest

theorem ite {condition : Prop} [Decidable condition] {first second : StateM σ β}
    (onTrue : condition → Ends first state post) (onFalse : ¬condition → Ends second state post) :
    Ends (if condition then first else second) state post := by
  split
  · next holds => exact onTrue holds
  · next fails => exact onFalse fails

theorem mono {stronger : β → σ → Prop} {program : StateM σ β} (ends : Ends program state stronger)
    (imp : ∀ value state', stronger value state' → post value state') : Ends program state post :=
  imp _ _ ends

/-- Two facts about one run. -/
theorem and {first second : β → σ → Prop} {program : StateM σ β} (one : Ends program state first)
    (other : Ends program state second) :
    Ends program state fun value state' => first value state' ∧ second value state' :=
  ⟨one, other⟩

end Ends

/-- A run of a program that keeps an invariant. -/
theorem Preserves.ends {invariant : σ → Prop} {relation : σ → σ → Prop} {program : StateM σ α}
    {state : σ} (holds : Preserves invariant relation program) (start : invariant state) :
    Ends program state fun _ => relation state :=
  (holds state start).1

end Ostiole.Logic
