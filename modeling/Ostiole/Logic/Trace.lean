import Mathlib.Data.List.TakeWhile

/-!
# Properties of logs

Safety properties of a growing log. `Always` says something of every entry and
of what came before it; `Until` forbids an event after another one until a third
has been seen. Each is kept by appending one entry that keeps it, which is all a
proof by induction on a run has to show.
-/

namespace Ostiole.Logic

variable {α : Type*}

/-- Every entry stands in `relation` to the log before it. -/
def Always (relation : List α → α → Prop) (log : List α) : Prop :=
  ∀ before entry after, log = before ++ entry :: after → relation before entry

/-- Every entry stands in `relation` to the log before it and to the state that
came of it, which the next entry shows, or `final` after the last one. -/
def Successive {β : Type*} (relation : List α → α → β → Prop) (state : α → β) (log : List α)
    (final : β) : Prop :=
  ∀ before entry after, log = before ++ entry :: after →
    relation before entry ((after.head?.map state).getD final)

/-- Every event that opens has been followed by one that closes. -/
def Discharged (opens closes : α → Prop) (log : List α) : Prop :=
  ∀ before entry after, log = before ++ entry :: after → opens entry → ∃ e ∈ after, closes e

/-- After an event that opens nothing barred comes until one that closes. -/
def Until (opens barred closes : α → Prop) (log : List α) : Prop :=
  ∀ before first middle second after, log = before ++ first :: (middle ++ second :: after) →
    opens first → barred second → ∃ e ∈ middle, closes e

/-- Every entry that opens stands in `relation` to the entries that follow it
without a break. -/
def Followed (opens : α → Prop) (within : α → Bool) (relation : α → List α → Prop)
    (log : List α) : Prop :=
  ∀ before entry after, log = before ++ entry :: after → opens entry →
    relation entry (after.takeWhile within)

theorem split_snoc {log before after : List α} {last entry : α}
    (split : log ++ [last] = before ++ entry :: after) :
    (before = log ∧ entry = last ∧ after = []) ∨
      ∃ rest, after = rest ++ [last] ∧ log = before ++ entry :: rest := by
  rcases List.eq_nil_or_concat after with rfl | ⟨rest, final, rfl⟩
  · obtain ⟨rfl, same⟩ := List.append_inj' split rfl
    obtain rfl : last = entry := by simpa using same
    exact .inl ⟨rfl, rfl, rfl⟩
  · rw [List.concat_eq_append] at split ⊢
    rw [← List.cons_append, ← List.append_assoc] at split
    obtain ⟨rfl, same⟩ := List.append_inj' split rfl
    obtain rfl : last = final := by simpa using same
    exact .inr ⟨rest, rfl, rfl⟩

namespace Always

variable {relation weaker : List α → α → Prop} {log : List α} {last : α}

theorem nil : Always relation [] := by
  intro before entry after split
  simp at split

theorem snoc (always : Always relation log) (holds : relation log last) :
    Always relation (log ++ [last]) := by
  intro before entry after split
  rcases split_snoc split with ⟨rfl, rfl, -⟩ | ⟨rest, -, earlier⟩
  · exact holds
  · exact always before entry rest earlier

theorem mono (always : Always relation log)
    (imp : ∀ before entry, relation before entry → weaker before entry) : Always weaker log :=
  fun before entry after split => imp before entry (always before entry after split)

end Always

namespace Successive

variable {β : Type*} {relation : List α → α → β → Prop} {state : α → β} {log : List α} {last : α}
  {final : β}

theorem nil : Successive relation state [] final := by
  intro before entry after split
  simp at split

theorem snoc (holds : Successive relation state log (state last)) (step : relation log last final) :
    Successive relation state (log ++ [last]) final := by
  intro before entry after split
  rcases split_snoc split with ⟨rfl, rfl, rfl⟩ | ⟨rest, rfl, earlier⟩
  · exact step
  · have holds := holds before entry rest earlier
    cases rest with
    | nil => exact holds
    | cons next rest => exact holds

end Successive

namespace Discharged

variable {opens closes : α → Prop} {log : List α} {last : α}

theorem nil : Discharged opens closes [] := by
  intro before entry after split
  simp at split

/-- An event that closes, and does not open, discharges everything before it. -/
theorem close (closing : closes last) (shut : ¬opens last) :
    Discharged opens closes (log ++ [last]) := by
  intro before entry after split opened
  rcases split_snoc split with ⟨rfl, rfl, -⟩ | ⟨rest, rfl, -⟩
  · exact absurd opened shut
  · exact ⟨last, by simp, closing⟩

theorem snoc (discharged : Discharged opens closes log) (shut : ¬opens last) :
    Discharged opens closes (log ++ [last]) := by
  intro before entry after split opened
  rcases split_snoc split with ⟨rfl, rfl, -⟩ | ⟨rest, rfl, earlier⟩
  · exact absurd opened shut
  · obtain ⟨e, member, closed⟩ := discharged before entry rest earlier opened
    exact ⟨e, List.mem_append_left _ member, closed⟩

theorem mono {weaker : α → Prop} (discharged : Discharged opens closes log)
    (imp : ∀ entry, closes entry → weaker entry) : Discharged opens weaker log := by
  intro before entry after split opened
  obtain ⟨e, member, closed⟩ := discharged before entry after split opened
  exact ⟨e, member, imp e closed⟩

end Discharged

/-- Barring is a property of each barred entry. -/
theorem until_iff_always {opens barred closes : α → Prop} {log : List α} :
    Until opens barred closes log ↔
      Always (fun before entry => barred entry → Discharged opens closes before) log := by
  refine ⟨fun holds before entry after split bars first opener middle earlier opened => ?_,
    fun holds before first middle second after split opened bars => ?_⟩
  · exact holds first opener middle entry after (by simp [split, earlier]) opened bars
  · exact holds (before ++ first :: middle) second after
      (by simp [split]) bars before first middle rfl
      opened

namespace Until

variable {opens barred closes : α → Prop} {log : List α} {last : α}

theorem nil : Until opens barred closes [] := until_iff_always.2 .nil

theorem snoc (holds : Until opens barred closes log)
    (settled : barred last → Discharged opens closes log) :
    Until opens barred closes (log ++ [last]) :=
  until_iff_always.2 ((until_iff_always.1 holds).snoc settled)

end Until

namespace Followed

variable {opens : α → Prop} {within : α → Bool} {relation : α → List α → Prop} {log block : List α}
  {entry : α}

theorem nil : Followed opens within relation [] := by
  intro before entry after split
  simp at split

theorem takeWhile_break (front : List α) (outside : within entry = false) (back : List α) :
    (front ++ entry :: back).takeWhile within = front.takeWhile within := by
  induction front with
  | nil => simp [outside]
  | cons first front ih =>
    rw [List.cons_append, List.takeWhile_cons, List.takeWhile_cons, ih]

/-- A block that an entry from outside leads. -/
theorem append (followed : Followed opens within relation log) (outside : within entry = false)
    (inside : ∀ e ∈ block, within e = true ∧ ¬opens e)
    (related : opens entry → relation entry block) :
    Followed opens within relation (log ++ entry :: block) := by
  intro before e after split opened
  rcases List.append_eq_append_iff.1 split with ⟨middle, rfl, tail⟩ | ⟨middle, earlier, tail⟩
  · cases middle with
    | nil =>
      obtain ⟨rfl, rfl⟩ := List.cons.inj tail
      rw [List.takeWhile_eq_self_iff.2 fun e member => (inside e member).1]
      exact related opened
    | cons first middle =>
      obtain ⟨-, rest⟩ := List.cons.inj tail
      exact absurd opened (inside e (by simp [rest])).2
  · cases middle with
    | nil =>
      obtain ⟨rfl, rfl⟩ := List.cons.inj tail.symm
      rw [List.takeWhile_eq_self_iff.2 fun e member => (inside e member).1]
      exact related opened
    | cons first middle =>
      obtain ⟨rfl, rfl⟩ := List.cons.inj tail
      rw [List.append_eq, takeWhile_break middle outside]
      exact followed before e middle earlier opened

/-- An entry from outside that does not open. -/
theorem snoc (followed : Followed opens within relation log) (outside : within entry = false)
    (shut : ¬opens entry) : Followed opens within relation (log ++ [entry]) :=
  followed.append outside (fun _ member => absurd member List.not_mem_nil) fun opened =>
    absurd opened shut

end Followed

end Ostiole.Logic
