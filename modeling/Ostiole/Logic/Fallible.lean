import Ostiole.Logic.Program

/-!
# Programs that may fail

Total programs over an explicit state that end with a value or with an error. `Yields`
says from which state a program is run, and what holds after a value and after an
error; its rules follow the program text. Nothing here depends on what the state is.
-/

namespace Ostiole.Logic

universe u

variable {σ ε α β : Type u}

/-- A program goes on where the one before it ended. -/
theorem run_bind_ok {program : ExceptT ε (StateM σ) α} {state after : σ} {value : α}
    (ran : program state = (.ok value, after)) (next : α → ExceptT ε (StateM σ) β) :
    (program >>= next) state = next value after := by
  have unfolded : (program >>= next) state = ExceptT.bindCont next (program state).1
      (program state).2 := rfl
  rw [unfolded, ran]
  rfl

/-- Run from `state`, a program ends with a value and a state in `post`, or with an
error and a state in `fail`. -/
def Yields (program : ExceptT ε (StateM σ) α) (state : σ) (post : α → σ → Prop)
    (fail : ε → σ → Prop) : Prop :=
  match (program.run state).1 with
  | .ok value => post value (program.run state).2
  | .error err => fail err (program.run state).2

namespace Yields

variable {state : σ} {post : β → σ → Prop} {fail : ε → σ → Prop}

theorem pure {value : β} (holds : post value state) :
    Yields (Pure.pure value : ExceptT ε (StateM σ) β) state post fail :=
  holds

theorem throw {err : ε} (holds : fail err state) :
    Yields (MonadExcept.throw err : ExceptT ε (StateM σ) β) state post fail :=
  holds

/-- A program that cannot fail. -/
theorem lift {program : StateM σ β} (holds : post (program state).1 (program state).2) :
    Yields (liftM program : ExceptT ε (StateM σ) β) state post fail :=
  holds

theorem bind (middle : α → σ → Prop) {program : ExceptT ε (StateM σ) α}
    {next : α → ExceptT ε (StateM σ) β} (first : Yields program state middle fail)
    (second : ∀ value state', middle value state' → Yields (next value) state' post fail) :
    Yields (program >>= next) state post fail := by
  have unfolded : (program >>= next).run state =
      ExceptT.bindCont next (program.run state).1 (program.run state).2 := rfl
  rw [Yields] at first ⊢
  rw [unfolded]
  generalize program.run state = outcome at first ⊢
  obtain ⟨_ | value, state'⟩ := outcome
  · exact first
  · exact second value state' first

/-- A program that starts with one that cannot fail. -/
theorem lift_bind {program : StateM σ α} {next : α → ExceptT ε (StateM σ) β}
    (rest : Yields (next (program state).1) (program state).2 post fail) :
    Yields ((liftM program : ExceptT ε (StateM σ) α) >>= next) state post fail :=
  rest

/-- A program that goes on with how another one ended. -/
theorem attempt_bind {good : α → σ → Prop} {bad : ε → σ → Prop} {program : ExceptT ε (StateM σ) α}
    {next : Except ε α → ExceptT ε (StateM σ) β} (first : Yields program state good bad)
    (onValue : ∀ value state', good value state' → Yields (next (.ok value)) state' post fail)
    (onError : ∀ err state', bad err state' → Yields (next (.error err)) state' post fail) :
    Yields (ExceptT.lift program.run >>= next) state post fail := by
  have rest : Yields (next (program.run state).1) (program.run state).2 post fail → _ := lift_bind
  rw [Yields] at first
  refine rest ?_
  generalize program.run state = outcome at first ⊢
  obtain ⟨err | value, state'⟩ := outcome
  · exact onError err state' first
  · exact onValue value state' first

theorem ite {condition : Prop} [Decidable condition] {first second : ExceptT ε (StateM σ) β}
    (onTrue : condition → Yields first state post fail)
    (onFalse : ¬condition → Yields second state post fail) :
    Yields (if condition then first else second) state post fail := by
  split
  · next holds => exact onTrue holds
  · next fails => exact onFalse fails

/-- A program whose error is handled. -/
theorem tryCatch {middle : ε → σ → Prop} {program : ExceptT ε (StateM σ) β}
    {handle : ε → ExceptT ε (StateM σ) β}
    (first : Yields program state post middle)
    (second : ∀ err state', middle err state' → Yields (handle err) state' post fail) :
    Yields (MonadExcept.tryCatch program handle) state post fail := by
  have unfolded : (MonadExcept.tryCatch program handle).run state =
      (match (program.run state).1 with
        | .ok value => Pure.pure (.ok value)
        | .error err => (handle err).run : StateM σ (Except ε β)) (program.run state).2 := rfl
  rw [Yields] at first ⊢
  rw [unfolded]
  generalize program.run state = outcome at first ⊢
  obtain ⟨_ | value, state'⟩ := outcome
  · exact second _ _ first
  · exact first

theorem mono {post' : β → σ → Prop} {fail' : ε → σ → Prop} {program : ExceptT ε (StateM σ) β}
    (holds : Yields program state post fail) (values : ∀ value state', post value state' →
      post' value state')
    (errors : ∀ err state', fail err state' → fail' err state') :
    Yields program state post' fail' := by
  rw [Yields] at holds ⊢
  generalize program.run state = outcome at holds ⊢
  obtain ⟨_ | value, state'⟩ := outcome
  · exact errors _ _ holds
  · exact values _ _ holds

theorem and {post' : β → σ → Prop} {fail' : ε → σ → Prop} {program : ExceptT ε (StateM σ) β}
    (first : Yields program state post fail) (second : Yields program state post' fail') :
    Yields program state (fun value state' => post value state' ∧ post' value state')
      (fun err state' => fail err state' ∧ fail' err state') := by
  rw [Yields] at first second ⊢
  generalize program.run state = outcome at first second ⊢
  obtain ⟨_ | value, state'⟩ := outcome
  · exact ⟨first, second⟩
  · exact ⟨first, second⟩

end Yields

end Ostiole.Logic
