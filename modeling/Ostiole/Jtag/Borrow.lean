import Ostiole.Jtag.Chain
import Ostiole.Jtag.Tracking

/-!
# Borrowed TAPs

Any interleaving of raw calls, `Connect` and `Release` on the chains of one
connection, and calls on the TAPs they lent. A TAP that is still valid proves
that nothing came between: what each call does to each chain is said once, and a
TAP valid after a call was valid before it.
-/

namespace Ostiole.Jtag

open Ostiole Logic

variable {c : Chain} {name : Nat} {r : Record} {t : TAP} {w w' : World}

/-! ## Calls and their record -/

/-- A call on the connection, on a chain, or on a borrowed TAP. TAPs are named
in the order they were lent. -/
inductive Call where
  | conn (call : ConnCall)
  | connect (ctx : Ctx) (chain : Nat)
  | release (ctx : Ctx) (chain : Nat)
  | lend (chain : Nat) (index : Int)
  | scanIR (ctx : Ctx) (tap : Nat) (instruction : Buffer)
  | scanDR (ctx : Ctx) (tap : Nat) (data : Buffer) (bits : Int)
  | idle (ctx : Ctx) (tap : Nat) (cycles : Int)
deriving DecidableEq, Repr

/-- What is remembered of a call: the TAP it was made on, whether its arguments
were accepted and it went on to the connection, its error, whether it made a
wire call, and the name of the TAP it lent. -/
structure Record where
  call : Call
  tap : Option TAP
  handed : Bool
  err : Option Err
  sent : Bool
  lent : Option Nat
deriving DecidableEq, Repr

def errorOf {α : Type} : Except Err α → Option Err
  | .error err => some err
  | .ok _ => none

/-- Carry out a call. A name no TAP was lent under is the zero TAP, which has no
chain. -/
def Call.perform (call : Call) (w : World) : Record × World :=
  let record (tap : Option TAP) (handed : Bool) (err : Option Err) (w' : World) : Record × World :=
    (⟨call, tap, handed, err, w'.calls != w.calls, none⟩, w')
  match call with
  | .conn call =>
    let (err, w') := call.perform w
    record none true err w'
  | .connect ctx chain =>
    let (err, w') := Jtag.connect ctx chain w
    record none true err w'
  | .release ctx chain =>
    let (err, w') := Jtag.release ctx chain w
    record none true err w'
  | .lend chain index =>
    match Jtag.lend chain index w with
    | (.error err, w') => record none false (some err) w'
    | (.ok tap, w') =>
      (⟨call, none, false, none, w'.calls != w.calls, some w'.taps.length⟩,
        { w' with taps := w'.taps ++ [tap] })
  | .scanIR ctx tap instruction =>
    match w.taps[tap]? with
    | none => record none false (some errChainInvalid) w
    | some t =>
      let (result, w') := tapScanIR ctx t instruction w
      record (some t) (errorOf (scanIRRefusal w t instruction)).isNone (errorOf result) w'
  | .scanDR ctx tap data bits =>
    match w.taps[tap]? with
    | none => record none false (some errChainInvalid) w
    | some t =>
      let (result, w') := tapScanDR ctx t data bits w
      record (some t) (errorOf (scanDRRefusal w t data bits)).isNone (errorOf result) w'
  | .idle ctx tap cycles =>
    match w.taps[tap]? with
    | none => record none false (some errChainInvalid) w
    | some t =>
      let (err, w') := tapIdle ctx t cycles w
      record (some t) (w.valid t) err w'

/-- The records of a list of calls, and the world after it. -/
def performAll (w : World) : List Call → List Record × World
  | [] => ([], w)
  | call :: calls =>
    let (record, next) := call.perform w
    let (records, final) := performAll next calls
    (record :: records, final)

theorem performAll_append (w : World) (first second : List Call) :
    performAll w (first ++ second) = ((performAll w first).1 ++
      (performAll (performAll w first).2 second).1,
        (performAll (performAll w first).2 second).2) := by
  induction first generalizing w with
  | nil => rfl
  | cons call first ih =>
    simp [performAll, ih]

namespace Record

/-- The chain a call went through. -/
def chain (r : Record) : Option Nat :=
  match r.call with
  | .conn _ => none
  | .connect _ chain | .release _ chain | .lend chain _ => some chain
  | .scanIR .. | .scanDR .. | .idle .. => r.tap.map (·.chain)

/-- The call is a `Connect` or a `Release` of the chain. -/
def Renews (r : Record) (name : Nat) : Prop :=
  match r.call with
  | .connect _ chain | .release _ chain => chain = name
  | _ => False

/-- The call scans instructions through the chain. -/
def ScansIR (r : Record) (name : Nat) : Prop :=
  match r.call with
  | .connect _ chain | .release _ chain => chain = name
  | .scanIR .. => r.chain = some name ∧ r.handed = true
  | _ => False

theorem ScansIR.renews_or_handed (scans : r.ScansIR name) :
    r.Renews name ∨ r.chain = some name ∧ r.handed = true := by
  unfold ScansIR at scans
  unfold Renews
  cases call : r.call <;> rw [call] at scans <;> first | exact .inl scans | exact .inr scans

theorem Renews.scansIR (renews : r.Renews name) : r.ScansIR name := by
  unfold Renews at renews
  unfold ScansIR
  cases call : r.call <;> rw [call] at renews <;> first | exact renews | exact renews.elim

/-- The call is a successful `ScanIR` by a TAP of the chain at `index`. -/
def Selects (r : Record) (name index : Nat) : Prop :=
  match r.call with
  | .scanIR .. => r.err = none ∧ ∃ t, r.tap = some t ∧ t.chain = name ∧ t.index = index
  | _ => False

/-- The call leaves the TAPs of the chain valid: it is neither `Connect` nor
`Release`, it did not fail if it went through the chain to the connection, and it
sent nothing if it did not. -/
structure Clean (r : Record) (name : Nat) : Prop where
  renews : ¬r.Renews name
  failed : r.chain = some name → r.handed = true → r.err = none
  others : r.chain ≠ some name → r.sent = false

end Record

/-! ## What a call does to a chain -/

/-- The effect of a call on one chain, given the connection's serial before and
after it. -/
inductive ChainStep (name before after : Nat) (r : Record) (c c' : Chain) : Prop where
  | untouched (same : c' = c) (elsewhere : ¬r.Renews name)
      (refused : r.chain = some name → r.handed = false ∧ r.sent = false)
  | parked (same : c' = c) (renews : r.Renews name) (released : c.released = true)
  | renewed (renews : r.Renews name) (generation : c.generation < c'.generation)
      (serial : c'.serial ≤ max c.serial after)
      (fresh : c'.valid = true → c'.selected = none ∧ c'.released = false)
  | worked (through : r.chain = some name) (renews : ¬r.Renews name) (handed : r.handed = true)
      (valid : c.valid = true) (ready : c.serial = before)
      (generation : c'.generation = c.generation) (released : c'.released = c.released)
      (serial : c'.serial = after)
      (outcome : c'.valid = true → r.err = none)
      (selected : c'.valid = true →
        (∃ index, c'.selected = some index ∧ r.Selects name index) ∨
          c'.selected = c.selected ∧ ¬r.ScansIR name)

/-- A change that leaves the layout alone and stamps a chain with no serial still
to come. -/
structure Allowed (serial : Nat) (change : Chain → Chain) : Prop where
  layout : ∀ c, (change c).layout = c.layout
  irBits : ∀ c, (change c).irBits = c.irBits
  stamped : ∀ c, (change c).serial ≤ max c.serial serial

theorem Allowed.ite {serial : Nat} {change : Chain → Chain} (allowed : Allowed serial change)
    (condition : Prop) [Decidable condition] :
    Allowed serial fun c => if condition then change c else c := by
  by_cases holds : condition
  · simpa only [if_pos holds] using allowed
  · simp only [if_neg holds]
    exact ⟨fun _ => rfl, fun _ => rfl, fun _ => Nat.le_max_left _ _⟩

/-- The effect of a method that changes one chain by `change`. -/
structure Worked (w w' : World) (name : Nat) (change : Chain → Chain) : Prop where
  taps : w'.taps = w.taps
  allowed : Allowed w'.conn.serial change
  chains : w'.chains = w.chains.modify name change
  counted : ∃ count, w'.calls = w.calls + count ∧ w'.conn.serial = w.conn.serial + count
  specs : w'.scanPath.specs = w.scanPath.specs
  env : w'.env = w.env
  still : w'.calls = w.calls → w'.scanPath = w.scanPath ∧
    (w'.conn.state = w.conn.state ∨ w'.conn.state = .unknown)

namespace Worked

variable {w middle w' : World} {name : Nat} {change : Chain → Chain}

theorem of_wired (wired : Wired w w') (name : Nat) : Worked w w' name id where
  taps := wired.taps
  allowed := ⟨fun _ => rfl, fun _ => rfl, fun _ => Nat.le_max_left _ _⟩
  chains := by simpa using wired.chains
  counted := wired.counted
  specs := wired.specs
  env := wired.env
  still := wired.still

/-- Go on with a method of the connection. -/
theorem wired (worked : Worked w middle name change) (after : Wired middle w') :
    Worked w w' name change where
  taps := after.taps.trans worked.taps
  allowed := by
    refine ⟨worked.allowed.layout, worked.allowed.irBits, fun c => ?_⟩
    obtain ⟨_, _, serial⟩ := after.counted
    have before := worked.allowed.stamped c
    omega
  chains := after.chains.trans worked.chains
  counted := by
    obtain ⟨before, calls, serial⟩ := worked.counted
    obtain ⟨rest, calls', serial'⟩ := after.counted
    exact ⟨before + rest, by omega, by omega⟩
  specs := after.specs.trans worked.specs
  env := after.env.trans worked.env
  still quiet := by
    obtain ⟨before, calls, -⟩ := worked.counted
    have later := after.calls_le
    obtain ⟨path, state⟩ := worked.still (by omega)
    obtain ⟨path', state'⟩ := after.still (by omega)
    refine ⟨path'.trans path, ?_⟩
    rcases state' with same | lost
    · rwa [same]
    · exact .inr lost

/-- Go on with a change of the chain. -/
theorem modified (worked : Worked w middle name change) (next : Chain → Chain)
    (allowed : Allowed middle.conn.serial next) :
    Worked w (modifyChain name next middle).2 name (next ∘ change) where
  taps := worked.taps
  allowed := by
    refine ⟨fun c => (allowed.layout _).trans (worked.allowed.layout c),
      fun c => (allowed.irBits _).trans (worked.allowed.irBits c), fun c => ?_⟩
    have before := worked.allowed.stamped c
    have after := allowed.stamped (change c)
    change (next (change c)).serial ≤ max c.serial middle.conn.serial
    omega
  chains := by
    have step : (modifyChain name next middle).2.chains = middle.chains.modify name next := rfl
    rw [step, worked.chains, List.modify_modify_eq]
  counted := worked.counted
  specs := worked.specs
  env := worked.env
  still := worked.still

/-- Only the named chain changes. -/
theorem chain_of (worked : Worked w w' name change) {other : Nat} {c' : Chain}
    (found : w'.chains[other]? = some c') :
    ∃ c, w.chains[other]? = some c ∧ c' = if name = other then change c else c := by
  rw [worked.chains, List.getElem?_modify] at found
  cases before : w.chains[other]? with
  | none => simp [before] at found
  | some c =>
    refine ⟨c, rfl, ?_⟩
    simpa [before] using found.symm

end Worked

theorem checkFound_keeps (ctx : Ctx) (layout : Layout) (irBits : Nat)
    (found : List ObservedTAP) : Keeps (checkFound ctx layout irBits found) := by
  refine .ite (.pure _) ?_
  cases checkReset 0 layout found with
  | some err => exact .pure _
  | none =>
    refine (measureIR_keeps _ _).checkOk (fun _ => .pure _) fun _ => ?_
    refine .ite (.pure _) ((scan_keeps _ _ _ _).bind fun ⟨capture, err⟩ => ?_)
    cases err <;> exact .pure _

/-- The checks of `Connect` do not pass without traffic. -/
theorem connectBody_spec (ctx : Ctx) (layout : Layout) (irBits : Nat)
    (tracked : Tracked w) :
    Wired w (connectBody ctx layout irBits w).2 ∧ Tracked (connectBody ctx layout irBits w).2 ∧
      ((connectBody ctx layout irBits w).1 = none →
        w.calls < (connectBody ctx layout irBits w).2.calls) := by
  unfold connectBody
  rw [run_bind]
  obtain ⟨wired, tracked, -, sent⟩ := discover_spec ctx layout.length tracked
  generalize discover ctx layout.length w = outcome at wired tracked sent ⊢
  obtain ⟨⟨found, err⟩, middle⟩ := outcome
  cases err with
  | some err => exact ⟨wired, tracked, nofun⟩
  | none =>
    obtain ⟨moved, final⟩ := checkFound_keeps ctx layout irBits found middle tracked
    simp only
    refine ⟨wired.trans moved.toWired, final, fun _ => ?_⟩
    obtain ⟨count, counted, -⟩ := moved.counted
    have called : w.calls < middle.calls := sent rfl
    rw [counted]
    exact Nat.lt_add_right count called

/-- `Connect` starts a new generation, which is valid only when it succeeds. -/
theorem connect_spec (ctx : Ctx) (name : Nat) (tracked : Tracked w) :
    ∃ change, Worked w (connect ctx name w).2 name change ∧ Tracked (connect ctx name w).2 ∧
      ∀ c, w.chains[name]? = some c →
        (change c).generation = c.generation + 1 ∧ (change c).selected = none ∧
        ((change c).valid = true → (connect ctx name w).1 = none ∧ (change c).released = false) ∧
        ((connect ctx name w).1 = none →
          (change c).valid = true ∧ (change c).serial = (connect ctx name w).2.conn.serial) := by
  unfold connect
  rw [run_get_bind]
  cases found : w.chains[name]? with
  | none => exact ⟨id, Worked.of_wired (Wired.refl w) name, tracked, nofun⟩
  | some c =>
    simp only
    rw [run_bind, run_get_bind, run_bind]
    have entered := (Worked.of_wired (Wired.refl w) name).modified (fun c => { c with
      valid := false
      selected := none
      generation := c.generation + 1 }) ⟨fun _ => rfl, fun _ => rfl, fun _ => Nat.le_max_left _ _⟩
    have kept : Tracked (modifyChain name (fun c => { c with
      valid := false
      selected := none
      generation := c.generation + 1 }) w).2 := tracked
    generalize (modifyChain name (fun c => { c with
      valid := false
      selected := none
      generation := c.generation + 1 }) w).2 = start at entered kept ⊢
    obtain ⟨wired, final, sent⟩ := connectBody_spec ctx c.layout c.irBits kept
    generalize connectBody ctx c.layout c.irBits start = outcome at wired final sent ⊢
    obtain ⟨err, after⟩ := outcome
    rw [run_get_bind, run_bind, run_bind]
    have stamped := (entered.wired wired).modified
      (fun c => if err.isNone then { c with serial := after.conn.serial, valid := true } else c)
      (by apply Allowed.ite; exact ⟨fun _ => rfl, fun _ => rfl, fun _ => Nat.le_max_right _ _⟩)
    have marked := stamped.modified
      (fun c => if after.conn.serial ≠ start.conn.serial then { c with released := false } else c)
      (by apply Allowed.ite; exact ⟨fun _ => rfl, fun _ => rfl, fun _ => Nat.le_max_left _ _⟩)
    refine ⟨_, marked, final, fun c _ => ?_⟩
    cases err with
    | some err =>
      refine ⟨?_, ?_, ?_, nofun⟩
      all_goals
        simp only [Function.comp_apply, id]
        split_ifs <;> simp at *
    | none =>
      have traffic : after.conn.serial ≠ start.conn.serial := by
        obtain ⟨count, calls, serial⟩ := wired.counted
        have more : start.calls < after.calls := sent rfl
        simp only at calls serial
        omega
      simp only [Function.comp_apply, id, Option.isNone_none, if_true, if_pos traffic]
      exact ⟨trivial, trivial, fun _ => ⟨rfl, trivial⟩, fun _ => ⟨trivial, rfl⟩⟩

/-- Parking ends the generation of a chain. -/
theorem park_spec (ctx : Ctx) (irBits : Nat) {start : World}
    {before : Chain → Chain} (entered : Worked w start name before) (tracked : Tracked start) :
    ∃ change, Worked w (park ctx name irBits start).2 name change ∧
      Tracked (park ctx name irBits start).2 ∧
      (∀ c, (change c).generation = (before c).generation + 1) ∧
      ∀ c, (change c).valid = false := by
  unfold park
  rw [run_bind, run_bind]
  have left := entered.modified
    (fun c => { c with valid := false, generation := c.generation + 1 })
    ⟨fun _ => rfl, fun _ => rfl, fun _ => Nat.le_max_left _ _⟩
  have kept : Tracked (modifyChain name (fun c => { c with
    valid := false
    generation := c.generation + 1 }) start).2 := tracked
  obtain ⟨moved, final⟩ := scan_keeps ctx (.ones irBits) irBits .ir _ kept
  rw [show scan ctx _ _ .ir _ = scanIR ctx (.ones irBits) irBits _ from rfl] at moved final
  generalize scanIR ctx (.ones irBits) irBits _ = outcome at moved final ⊢
  obtain ⟨⟨capture, err⟩, middle⟩ := outcome
  have parked := (left.wired moved.toWired).modified
    (fun c => { c with released := capture.isSome })
    ⟨fun _ => rfl, fun _ => rfl, fun _ => Nat.le_max_left _ _⟩
  exact ⟨_, parked, final, fun _ => rfl, fun _ => rfl⟩

/-- `Release` does nothing to a parked chain and ends the generation of any
other. -/
theorem release_spec (ctx : Ctx) (name : Nat) (tracked : Tracked w) :
    ∃ change, Worked w (release ctx name w).2 name change ∧ Tracked (release ctx name w).2 ∧
      ∀ c, w.chains[name]? = some c →
        (change c = c ∧ c.released = true) ∨
          c.generation < (change c).generation ∧ (change c).valid = false := by
  unfold release
  rw [run_get_bind]
  cases found : w.chains[name]? with
  | none => exact ⟨id, Worked.of_wired (Wired.refl w) name, tracked, nofun⟩
  | some c =>
    simp only [run_ite]
    split_ifs with parked
    · refine ⟨id, Worked.of_wired (Wired.refl w) name, tracked, fun c' same => .inl ⟨rfl, ?_⟩⟩
      cases same
      exact parked
    · rw [run_get_bind]
      simp only [run_ite]
      split_ifs with ready
      · obtain ⟨change, worked, final, generation, valid⟩ := park_spec ctx c.irBits
          (Worked.of_wired (Wired.refl w) name) tracked
        refine ⟨change, worked, final, fun c' _ => .inr ⟨?_, valid c'⟩⟩
        exact Nat.lt_of_succ_le (generation c').symm.le
      · rw [run_bind]
        obtain ⟨before, entered, kept, renewed⟩ := connect_spec ctx name tracked
        generalize connect ctx name w = outcome at entered kept renewed ⊢
        obtain ⟨err, start⟩ := outcome
        cases err with
        | some err =>
          refine ⟨before, entered, kept, fun c' same => .inr ?_⟩
          obtain ⟨generation, -, failed, -⟩ := renewed c' (found.trans same)
          refine ⟨by omega, Bool.eq_false_iff.mpr fun valid => ?_⟩
          exact absurd (failed valid).1 nofun
        | none =>
          obtain ⟨change, worked, final, generation, valid⟩ := park_spec ctx c.irBits entered kept
          refine ⟨change, worked, final, fun c' same => .inr ⟨?_, valid c'⟩⟩
          have grown := (renewed c' (found.trans same)).1
          have more := generation c'
          omega

/-- What `complete` does to its chain. -/
def completed (serial : Nat) (err : Option Err) (c : Chain) : Chain :=
  if err.isSome then { c with serial := serial, valid := false, selected := none }
  else { c with serial := serial }

theorem complete_spec {middle : World} (wired : Wired w middle) (name : Nat) (err : Option Err) :
    (complete name err middle).1 = err ∧ (complete name err middle).2.conn = middle.conn ∧
      (complete name err middle).2.scanPath = middle.scanPath ∧
      Worked w (complete name err middle).2 name (completed middle.conn.serial err) := by
  have worked := ((Worked.of_wired wired name).modified
    (fun c => { c with serial := middle.conn.serial })
    ⟨fun _ => rfl, fun _ => rfl, fun _ => Nat.le_max_right _ _⟩).modified
      (fun c => if err.isSome then { c with valid := false, selected := none } else c)
      (by apply Allowed.ite; exact ⟨fun _ => rfl, fun _ => rfl, fun _ => Nat.le_max_left _ _⟩)
  have same : completed middle.conn.serial err =
      (fun c : Chain => if err.isSome then { c with valid := false, selected := none } else c) ∘
        (fun c => { c with serial := middle.conn.serial }) ∘ id := by
    funext c
    cases err <;> rfl
  rw [same]
  exact ⟨rfl, rfl, rfl, worked⟩

/-- A TAP that is valid has a validated chain of its own generation. -/
theorem valid_iff :
    w.valid t = true ↔ ∃ c, w.chains[t.chain]? = some c ∧ c.valid = true ∧
      c.serial = w.conn.serial ∧ c.generation = t.generation := by
  unfold World.valid World.ready
  cases w.chains[t.chain]? with
  | none => simp
  | some c => simp [and_assoc]

/-- A TAP method that was refused has done nothing. One that was not found its
TAP valid, and leaves the chain as `complete` does. -/
structure TapEffect (w w' : World) (t : TAP) (handed : Bool) (err : Option Err)
    (select : Option Nat → Option Nat) : Prop where
  tracked : Tracked w'
  refused : handed = false → w' = w ∧ err ≠ none
  valid : handed = true → w.valid t = true
  worked : handed = true → ∃ change, Worked w w' t.chain change ∧ ∀ c,
    (change c).generation = c.generation ∧ (change c).released = c.released ∧
    (change c).serial = w'.conn.serial ∧ ((change c).valid = true → err = none) ∧
    (err = none → (change c).valid = c.valid ∧ (change c).selected = select c.selected)

/-- The end of every TAP method that went on to the connection. -/
theorem TapEffect.completed {middle : World} (valid : w.valid t = true) (moved : Wired w middle)
    (final : Tracked middle) (err : Option Err) :
    TapEffect w (complete t.chain err middle).2 t true err id := by
  obtain ⟨-, conn, path, worked⟩ := complete_spec moved t.chain err
  refine ⟨?_, nofun, fun _ => valid, fun _ => ⟨_, worked, fun c => ?_⟩⟩
  · unfold Tracked at final ⊢
    rwa [conn, path]
  · rw [conn]
    cases err <;> simp [Jtag.completed]

theorem tapIdle_effect (ctx : Ctx) (t : TAP) (cycles : Int) (tracked : Tracked w) :
    TapEffect w (tapIdle ctx t cycles w).2 t (w.valid t) (tapIdle ctx t cycles w).1 id := by
  unfold tapIdle
  rw [run_get_bind, run_ite]
  split_ifs with invalid
  · have refused : w.valid t = false := by simpa using invalid
    rw [refused]
    exact ⟨tracked, fun _ => ⟨rfl, nofun⟩, nofun, nofun⟩
  · have valid : w.valid t = true := by simpa using invalid
    obtain ⟨moved, final⟩ := idle_keeps ctx cycles w tracked
    rw [valid]
    exact .completed valid moved.toWired final _

theorem scanDRRefusal_ok {data : Buffer} {bits : Int}
    (passed : scanDRRefusal w t data bits = .ok c) :
    w.valid t = true ∧ w.chains[t.chain]? = some c ∧ c.selected = some t.index ∧
      0 < bits ∧ bits ≤ maxScanBits - c.layout.length + 1 ∧ (bits + 7) / 8 ≤ data.length := by
  unfold scanDRRefusal at passed
  split_ifs at passed with invalid
  cases found : w.chains[t.chain]? with
  | none => rw [found] at passed; cases passed
  | some chain =>
    rw [found] at passed
    simp only at passed
    split_ifs at passed with changed long
    cases passed
    exact ⟨by simpa using invalid, rfl, by simpa using changed, by omega, by omega, by omega⟩

theorem scanIRRefusal_ok {instruction : Buffer}
    (passed : scanIRRefusal w t instruction = .ok c) :
    w.valid t = true ∧ w.chains[t.chain]? = some c ∧
      instruction.length = ((c.layout.map (·.ir)).getD t.index 0 + 7) / 8 := by
  unfold scanIRRefusal at passed
  split_ifs at passed with invalid
  cases found : w.chains[t.chain]? with
  | none => rw [found] at passed; cases passed
  | some chain =>
    rw [found] at passed
    simp only at passed
    split_ifs at passed with wrong
    cases passed
    refine ⟨by simpa using invalid, rfl, ?_⟩
    by_contra short
    exact wrong (.inl short)

theorem tapScanDR_effect (ctx : Ctx) (t : TAP) (data : Buffer) (bits : Int)
    (tracked : Tracked w) :
    TapEffect w (tapScanDR ctx t data bits w).2 t (errorOf (scanDRRefusal w t data bits)).isNone
      (errorOf (tapScanDR ctx t data bits w).1) id := by
  unfold tapScanDR
  rw [run_get_bind]
  cases passed : scanDRRefusal w t data bits with
  | error err => exact ⟨tracked, fun _ => ⟨rfl, nofun⟩, nofun, nofun⟩
  | ok c =>
    obtain ⟨moved, final⟩ := scan_keeps ctx
      ((Buffer.zeros (bits.toNat + c.layout.length - 1)).putAll t.index bits.toNat data.get)
      ((bits.toNat + c.layout.length - 1 : Nat) : Int) .dr w tracked
    simp only
    rw [run_bind, show scanDR ctx _ _ w = scan ctx _ _ .dr w from rfl]
    generalize scan ctx _ _ .dr w = outcome at moved final ⊢
    obtain ⟨⟨capture, err⟩, middle⟩ := outcome
    have effect := TapEffect.completed (scanDRRefusal_ok passed).1 moved.toWired final err
    cases err with
    | some err => exact effect
    | none => exact effect

theorem tapScanIR_effect (ctx : Ctx) (t : TAP) (instruction : Buffer)
    (tracked : Tracked w) :
    TapEffect w (tapScanIR ctx t instruction w).2 t (errorOf (scanIRRefusal w t instruction)).isNone
      (errorOf (tapScanIR ctx t instruction w).1) (fun _ => some t.index) := by
  unfold tapScanIR
  rw [run_get_bind]
  cases passed : scanIRRefusal w t instruction with
  | error err => exact ⟨tracked, fun _ => ⟨rfl, nofun⟩, nofun, nofun⟩
  | ok c =>
    obtain ⟨moved, final⟩ := scan_keeps ctx
      (instructionData c.layout c.irBits t.index instruction) c.irBits .ir w tracked
    simp only
    rw [run_bind, show scanIR ctx _ _ w = scan ctx _ _ .ir w from rfl]
    generalize scan ctx _ _ .ir w = outcome at moved final ⊢
    obtain ⟨⟨capture, err⟩, middle⟩ := outcome
    have effect := TapEffect.completed (scanIRRefusal_ok passed).1 moved.toWired final err
    obtain ⟨change, worked, changes⟩ := effect.worked rfl
    cases err with
    | some err =>
      refine ⟨effect.tracked, nofun, effect.valid, fun _ => ⟨change, worked, fun c => ?_⟩⟩
      obtain ⟨generation, released, serial, failed, -⟩ := changes c
      exact ⟨generation, released, serial, failed, nofun⟩
    | none =>
      refine ⟨effect.tracked, nofun, effect.valid, fun _ => ⟨_, worked.modified _
        ⟨fun _ => rfl, fun _ => rfl, fun _ => Nat.le_max_left _ _⟩, fun c => ?_⟩⟩
      obtain ⟨generation, released, serial, failed, kept⟩ := changes c
      exact ⟨generation, released, serial, failed, fun none => ⟨(kept none).1, rfl⟩⟩

/-! ## One call -/

/-- The effect of a call: it counts its wire calls and moves no device without
one, every chain takes one of the four steps, and it lends at most one TAP, of a
chain that is ready. -/
structure Effect (w w' : World) (r : Record) : Prop where
  tracked : Tracked w'
  counted : ∃ count, w'.calls = w.calls + count ∧ w'.conn.serial = w.conn.serial + count ∧
    r.sent = (count != 0)
  specs : w'.scanPath.specs = w.scanPath.specs
  env : w'.env = w.env
  still : r.sent = false → w'.scanPath = w.scanPath ∧
    (w'.conn.state = w.conn.state ∨ w'.conn.state = .unknown)
  length : w'.chains.length = w.chains.length
  chains : ∀ name c', w'.chains[name]? = some c' →
    ∃ c, w.chains[name]? = some c ∧ ChainStep name w.conn.serial w'.conn.serial r c c'
  layouts : ∀ (name : Nat) c', w'.chains[name]? = some c' → ∃ c, w.chains[name]? = some c ∧
    c'.layout = c.layout ∧ c'.irBits = c.irBits
  taps : (w'.taps = w.taps ∧ r.lent = none) ∨
    ∃ t, w'.taps = w.taps ++ [t] ∧ r.lent = some w.taps.length ∧
      r.call = .lend t.chain t.index ∧ w'.valid t = true ∧
      ∀ c, w'.chains[t.chain]? = some c → t.index < c.layout.length

/-- Effect of a call that left the chains alone. -/
theorem Effect.of_wired (wired : Wired w w') (tracked : Tracked w')
    (sent : r.sent = (w'.calls != w.calls)) (lent : r.lent = none)
    (elsewhere : ∀ name, ¬r.Renews name)
    (refused : ∀ name, r.chain = some name → r.handed = false ∧ r.sent = false) :
    Effect w w' r where
  tracked := tracked
  counted := by
    obtain ⟨count, calls, serial⟩ := wired.counted
    refine ⟨count, calls, serial, ?_⟩
    rw [sent, calls]
    cases count <;> simp
  specs := wired.specs
  env := wired.env
  still quiet := wired.still (by simpa using sent.symm.trans quiet)
  length := congrArg List.length wired.chains
  chains name c' found :=
    ⟨c', wired.chains ▸ found, .untouched rfl (elsewhere name) (refused name)⟩
  layouts name c' found := ⟨c', wired.chains ▸ found, rfl, rfl⟩
  taps := .inl ⟨wired.taps, lent⟩

/-- Effect of a call that changed one chain. -/
theorem Effect.of_worked {change : Chain → Chain}
    (worked : Worked w w' name change) (tracked : Tracked w')
    (sent : r.sent = (w'.calls != w.calls)) (lent : r.lent = none) (through : r.chain = some name)
    (only : ∀ other, r.Renews other → other = name)
    (step : ∀ c, w.chains[name]? = some c →
      ChainStep name w.conn.serial w'.conn.serial r c (change c)) :
    Effect w w' r where
  tracked := tracked
  counted := by
    obtain ⟨count, calls, serial⟩ := worked.counted
    refine ⟨count, calls, serial, ?_⟩
    rw [sent, calls]
    cases count <;> simp
  specs := worked.specs
  env := worked.env
  still quiet := worked.still (by simpa using sent.symm.trans quiet)
  length := by rw [worked.chains, List.length_modify]
  chains other c' found := by
    obtain ⟨c, before, changed⟩ := worked.chain_of found
    refine ⟨c, before, ?_⟩
    by_cases same : name = other
    · subst same
      rw [if_pos rfl] at changed
      exact changed ▸ step c before
    · rw [if_neg same] at changed
      refine .untouched changed (fun renews => same (only other renews).symm) fun passes => ?_
      exact absurd (Option.some.inj (through.symm.trans passes)) same
  layouts other c' found := by
    obtain ⟨c, before, changed⟩ := worked.chain_of found
    refine ⟨c, before, ?_⟩
    rw [changed]
    split_ifs
    · exact ⟨worked.allowed.layout c, worked.allowed.irBits c⟩
    · exact ⟨rfl, rfl⟩
  taps := .inl ⟨worked.taps, lent⟩

/-- Effect of a TAP method. -/
theorem Effect.of_tap {select : Option Nat → Option Nat}
    (effect : TapEffect w w' t r.handed r.err select) (through : r.chain = some t.chain)
    (sent : r.sent = (w'.calls != w.calls)) (lent : r.lent = none)
    (elsewhere : ∀ name, ¬r.Renews name)
    (selects : r.err = none → (∃ index, (∀ before, select before = some index) ∧
      r.Selects t.chain index) ∨ (select = id ∧ ¬r.ScansIR t.chain)) :
    Effect w w' r := by
  cases handed : r.handed with
  | false =>
    obtain ⟨rfl, -⟩ := effect.refused handed
    have quiet : r.sent = false := by simpa using sent
    exact .of_wired (Wired.refl _) effect.tracked sent lent elsewhere
      fun _ _ => ⟨handed, quiet⟩
  | true =>
    obtain ⟨change, worked, changes⟩ := effect.worked handed
    refine .of_worked worked effect.tracked sent lent through
      (fun other renews => absurd renews (elsewhere other)) fun c found => ?_
    obtain ⟨generation, released, serial, outcome, kept⟩ := changes c
    obtain ⟨c', found', valid, ready, -⟩ := valid_iff.mp (effect.valid handed)
    obtain rfl : c = c' := Option.some.inj (found.symm.trans found')
    refine .worked through (elsewhere _) handed valid ready generation released serial outcome ?_
    intro valid'
    have passed := outcome valid'
    rcases selects passed with ⟨index, selects, selected⟩ | ⟨rfl, silent⟩
    · exact .inl ⟨index, (kept passed).2.trans (selects _), selected⟩
    · exact .inr ⟨(kept passed).2, silent⟩

theorem lend_spec (name : Nat) (index : Int) (w : World) :
    (lend name index w).2 = w ∧ ∀ t, (lend name index w).1 = .ok t →
      t.chain = name ∧ (t.index : Int) = index ∧ w.valid t = true ∧
        ∀ c, w.chains[t.chain]? = some c → t.index < c.layout.length := by
  unfold lend
  rw [run_get_bind, run_ite]
  split_ifs with notReady
  · exact ⟨rfl, nofun⟩
  · cases found : w.chains[name]? with
    | none => exact ⟨rfl, nofun⟩
    | some c =>
      simp only [run_ite]
      split_ifs with outside
      · exact ⟨rfl, nofun⟩
      · refine ⟨rfl, fun t lent => ?_⟩
        cases lent
        refine ⟨rfl, by simp; omega, ?_, fun c' same => ?_⟩
        · simp only [World.valid, found, Option.any_some, beq_self_eq_true, Bool.and_true]
          simpa using notReady
        · cases found.symm.trans same
          simp only
          omega

/-- Every call has the effect its record shows. -/
theorem perform_effect (call : Call) (tracked : Tracked w) :
    Effect w (call.perform w).2 (call.perform w).1 := by
  cases call with
  | conn call =>
    obtain ⟨wired, kept, -⟩ := perform_spec call tracked
    exact .of_wired wired kept rfl rfl (fun _ => id) nofun
  | connect ctx chain =>
    obtain ⟨change, worked, kept, renewed⟩ := connect_spec ctx chain tracked
    refine .of_worked worked kept rfl rfl rfl (fun _ renews => renews.symm) fun c found => ?_
    obtain ⟨generation, selected, valid, -⟩ := renewed c found
    exact .renewed rfl (by omega) (worked.allowed.stamped c) fun fresh =>
      ⟨selected, (valid fresh).2⟩
  | release ctx chain =>
    obtain ⟨change, worked, kept, ended⟩ := release_spec ctx chain tracked
    refine .of_worked worked kept rfl rfl rfl (fun _ renews => renews.symm) fun c found => ?_
    rcases ended c found with ⟨same, parked⟩ | ⟨generation, invalid⟩
    · exact .parked same rfl parked
    · exact .renewed rfl generation (worked.allowed.stamped c) fun fresh =>
        absurd (invalid.symm.trans fresh) nofun
  | lend chain index =>
    obtain ⟨same, lent⟩ := lend_spec chain index w
    simp only [Call.perform]
    generalize lend chain index w = outcome at same lent ⊢
    obtain ⟨result, w'⟩ := outcome
    obtain rfl : w' = w := same
    have quiet : (w'.calls != w'.calls) = false := by simp
    cases result with
    | error err =>
      exact .of_wired (Wired.refl _) tracked rfl rfl (fun _ => id) fun _ _ => ⟨rfl, quiet⟩
    | ok t =>
      obtain ⟨rfl, index, valid, inside⟩ := lent t rfl
      refine ⟨tracked, ⟨0, rfl, rfl, quiet⟩, rfl, rfl, fun _ => ⟨rfl, .inl rfl⟩, rfl,
        fun name c' found => ⟨c', found, ?_⟩, fun name c' found => ⟨c', found, rfl, rfl⟩,
        .inr ⟨t, rfl, rfl, ?_, valid, inside⟩⟩
      · exact .untouched rfl id fun _ => ⟨rfl, quiet⟩
      · rw [← index]
  | scanIR ctx tap instruction =>
    simp only [Call.perform]
    cases w.taps[tap]? with
    | none => exact .of_wired (Wired.refl _) tracked rfl rfl (fun _ => id) nofun
    | some t =>
      refine .of_tap (tapScanIR_effect ctx t instruction tracked) rfl rfl rfl (fun _ => id) ?_
      exact fun passed => .inl ⟨t.index, fun _ => rfl, passed, t, rfl, rfl, rfl⟩
  | scanDR ctx tap data bits =>
    simp only [Call.perform]
    cases w.taps[tap]? with
    | none => exact .of_wired (Wired.refl _) tracked rfl rfl (fun _ => id) nofun
    | some t =>
      exact .of_tap (tapScanDR_effect ctx t data bits tracked) rfl rfl rfl (fun _ => id)
        fun _ => .inr ⟨rfl, id⟩
  | idle ctx tap cycles =>
    simp only [Call.perform]
    cases w.taps[tap]? with
    | none => exact .of_wired (Wired.refl _) tracked rfl rfl (fun _ => id) nofun
    | some t =>
      exact .of_tap (tapIdle_effect ctx t cycles tracked) rfl rfl rfl (fun _ => id)
        fun _ => .inr ⟨rfl, id⟩

/-! ## Whole runs -/

/-- What every reachable world satisfies. -/
structure Sound (w : World) : Prop where
  tracked : Tracked w
  released : ∀ (name : Nat) c, w.chains[name]? = some c → c.valid = true → c.released = false
  serial : ∀ (name : Nat) c, w.chains[name]? = some c → c.serial ≤ w.conn.serial
  irBits : ∀ (name : Nat) c, w.chains[name]? = some c → c.irBits = c.layout.irBits
  lent : ∀ t ∈ w.taps, ∃ c, w.chains[t.chain]? = some c ∧ t.generation ≤ c.generation ∧
    t.index < c.layout.length

variable {w w' : World} {r : Record}

/-- Until a counter has been advanced 2^64 times, the `uint64` values that the
source compares are equal exactly when the counters are. -/
theorem Sound.valid_uint64 (sound : Sound w) (lent : t ∈ w.taps)
    (found : w.chains[t.chain]? = some c)
    (fewCalls : w.conn.serial < 2 ^ 64) (fewRenewals : c.generation < 2 ^ 64) :
    w.valid t = (c.valid && BitVec.ofNat 64 c.serial == BitVec.ofNat 64 w.conn.serial &&
      BitVec.ofNat 64 c.generation == BitVec.ofNat 64 t.generation) := by
  obtain ⟨c', found', older, -⟩ := sound.lent t lent
  obtain rfl : c = c' := Option.some.inj (found.symm.trans found')
  have past := sound.serial t.chain c found
  have wrapped {m n : Nat} (small : m < 2 ^ 64) (small' : n < 2 ^ 64) :
      (BitVec.ofNat 64 m == BitVec.ofNat 64 n) = (m == n) := by
    rw [Bool.eq_iff_iff, beq_iff_eq, beq_iff_eq, ← BitVec.toNat_inj, BitVec.toNat_ofNat,
      BitVec.toNat_ofNat, Nat.mod_eq_of_lt small, Nat.mod_eq_of_lt small']
  rw [wrapped (by omega) fewCalls, wrapped fewRenewals (by omega)]
  simp [World.valid, World.ready, found]

theorem ChainStep.generation_le {before after : Nat} {c' : Chain}
    (step : ChainStep name before after r c c') : c.generation ≤ c'.generation := by
  cases step with
  | untouched same => rw [same]
  | parked same => rw [same]
  | renewed _ generation => exact generation.le
  | worked _ _ _ _ _ generation => exact generation.ge

theorem Effect.sound (effect : Effect w w' r) (sound : Sound w) : Sound w' where
  tracked := effect.tracked
  released name c' found valid := by
    obtain ⟨c, before, step⟩ := effect.chains name c' found
    cases step with
    | untouched same => exact sound.released name c' (same ▸ before) valid
    | parked same => exact sound.released name c' (same ▸ before) valid
    | renewed _ _ _ fresh => exact (fresh valid).2
    | worked _ _ _ wasValid _ _ released =>
      exact released.trans (sound.released name c before wasValid)
  serial name c' found := by
    obtain ⟨c, before, step⟩ := effect.chains name c' found
    obtain ⟨count, -, grown, -⟩ := effect.counted
    have bound := sound.serial name c before
    cases step with
    | untouched same => rw [same]; omega
    | parked same => rw [same]; omega
    | renewed _ _ serial => omega
    | worked _ _ _ _ _ _ _ serial => exact serial.le
  irBits name c' found := by
    obtain ⟨c, before, layout, irBits⟩ := effect.layouts name c' found
    rw [layout, irBits]
    exact sound.irBits name c before
  lent t member := by
    have grows {t : TAP} {c : Chain} (found : w.chains[t.chain]? = some c)
        (older : t.generation ≤ c.generation) (inside : t.index < c.layout.length) :
        ∃ c', w'.chains[t.chain]? = some c' ∧ t.generation ≤ c'.generation ∧
          t.index < c'.layout.length := by
      have held : t.chain < w'.chains.length := by
        rw [effect.length]
        exact (List.getElem?_eq_some_iff.mp found).1
      obtain ⟨c₀, before, step⟩ := effect.chains t.chain _ (List.getElem?_eq_getElem held)
      obtain ⟨c₁, before₁, layout, -⟩ := effect.layouts t.chain _ (List.getElem?_eq_getElem held)
      obtain rfl : c = c₀ := Option.some.inj (found.symm.trans before)
      obtain rfl : c = c₁ := Option.some.inj (found.symm.trans before₁)
      exact ⟨_, List.getElem?_eq_getElem held, older.trans step.generation_le, by rwa [layout]⟩
    rcases effect.taps with ⟨same, -⟩ | ⟨new, taps, -, -, valid, inside⟩
    · obtain ⟨c, found, older, inside⟩ := sound.lent t (same ▸ member)
      exact grows found older inside
    · rw [taps] at member
      rcases List.mem_append.mp member with old | lent
      · obtain ⟨c, found, older, inside⟩ := sound.lent t old
        exact grows found older inside
      · obtain rfl := List.mem_singleton.mp lent
        obtain ⟨c, found, -, -, generation⟩ := valid_iff.mp valid
        exact ⟨c, found, generation.ge, inside c found⟩

/-- A TAP once lent stays lent. -/
theorem Effect.lent (effect : Effect w w' r) (lent : t ∈ w.taps) : t ∈ w'.taps := by
  rcases effect.taps with ⟨same, -⟩ | ⟨new, taps, -⟩
  · exact same ▸ lent
  · exact taps ▸ List.mem_append_left _ lent

/-- A TAP valid after a call was valid before it, and the call was clean. -/
theorem Effect.valid_before (effect : Effect w w' r) (sound : Sound w)
    (lent : t ∈ w.taps) (valid : w'.valid t = true) : w.valid t = true ∧ r.Clean t.chain := by
  obtain ⟨c', found, isValid, current, generation⟩ := valid_iff.mp valid
  obtain ⟨c, before, step⟩ := effect.chains t.chain c' found
  obtain ⟨c₀, before₀, older, -⟩ := sound.lent t lent
  obtain rfl : c = c₀ := Option.some.inj (before.symm.trans before₀)
  obtain ⟨count, -, grown, sent⟩ := effect.counted
  have bound := sound.serial t.chain c before
  cases step with
  | untouched same elsewhere refused =>
    -- Nothing came over the wire: the chain's stamp is not from the future.
    subst same
    have quiet : count = 0 := by omega
    subst quiet
    refine ⟨valid_iff.mpr ⟨c', before, isValid, by omega, generation⟩, elsewhere, ?_, ?_⟩
    · exact fun through handed => absurd ((refused through).1.symm.trans handed) nofun
    · exact fun _ => sent
  | parked same _ parked =>
    subst same
    exact absurd ((sound.released _ _ before isValid).symm.trans parked) nofun
  | renewed _ grownGeneration => omega
  | worked through renews _ wasValid ready sameGeneration _ _ outcome =>
    refine ⟨valid_iff.mpr ⟨c, before, wasValid, ready, by omega⟩, renews,
      fun _ _ => outcome isValid, fun other => absurd through other⟩

/-- What the records of a run say about the TAPs lent in it and the instructions
selected in it. -/
structure History (records : List Record) (w : World) : Prop where
  sound : Sound w
  lent : ∀ (name : Nat) t, w.taps[name]? = some t → ∃ before lend since,
    records = before ++ lend :: since ∧ lend.lent = some name ∧
      lend.call = .lend t.chain t.index ∧ (w.valid t = true → ∀ r ∈ since, r.Clean t.chain)
  selected : ∀ (name : Nat) c index, w.chains[name]? = some c → c.valid = true →
    c.selected = some index → ∃ before scan since,
      records = before ++ scan :: since ∧ scan.Selects name index ∧
        ∀ r ∈ since, ¬r.ScansIR name

/-- One call extends the history by its record. -/
theorem History.extend {records : List Record} (history : History records w)
    (effect : Effect w w' r) : History (records ++ [r]) w' where
  sound := effect.sound history.sound
  lent name t found := by
    have older (before : w.taps[name]? = some t) : ∃ before lend since,
        records ++ [r] = before ++ lend :: since ∧ lend.lent = some name ∧
          lend.call = .lend t.chain t.index ∧
            (w'.valid t = true → ∀ r ∈ since, r.Clean t.chain) := by
      obtain ⟨first, lend, since, split, lent, call, clean⟩ := history.lent name t before
      refine ⟨first, lend, since ++ [r], by simp [split], lent, call, fun valid => ?_⟩
      obtain ⟨wasValid, last⟩ := effect.valid_before history.sound
        (List.mem_of_getElem? before) valid
      intro record member
      rcases List.mem_append.mp member with earlier | final
      · exact clean wasValid record earlier
      · rw [List.mem_singleton.mp final]
        exact last
    rcases effect.taps with ⟨same, -⟩ | ⟨new, taps, lent, call, -⟩
    · rw [same] at found
      exact older found
    · rw [taps] at found
      by_cases inside : name < w.taps.length
      · rw [List.getElem?_append_left inside] at found
        exact older found
      · obtain rfl : name = w.taps.length := by
          have bound := (List.getElem?_eq_some_iff.mp found).1
          simp at bound
          omega
        obtain rfl : new = t := by simpa using found
        exact ⟨records, r, [], rfl, lent, call, fun _ _ member => absurd member List.not_mem_nil⟩
  selected name c' index found valid selected := by
    obtain ⟨c, before, step⟩ := effect.chains name c' found
    have older (wasValid : c.valid = true) (wasSelected : c.selected = some index)
        (silent : ¬r.ScansIR name) : ∃ before scan since,
          records ++ [r] = before ++ scan :: since ∧ scan.Selects name index ∧
            ∀ r ∈ since, ¬r.ScansIR name := by
      obtain ⟨first, scan, since, split, selects, quiet⟩ :=
        history.selected name c index before wasValid wasSelected
      refine ⟨first, scan, since ++ [r], by simp [split], selects, fun record member => ?_⟩
      rcases List.mem_append.mp member with earlier | final
      · exact quiet record earlier
      · rw [List.mem_singleton.mp final]
        exact silent
    cases step with
    | untouched same elsewhere refused =>
      subst same
      refine older valid selected fun scans => ?_
      rcases scans.renews_or_handed with renews | ⟨through, handed⟩
      · exact elsewhere renews
      · exact absurd ((refused through).1.symm.trans handed) nofun
    | parked same _ parked =>
      subst same
      exact absurd ((history.sound.released _ _ before valid).symm.trans parked) nofun
    | renewed _ _ _ fresh => exact absurd ((fresh valid).1.symm.trans selected) nofun
    | worked _ _ _ wasValid _ _ _ _ _ selects =>
      rcases selects valid with ⟨chosen, now, selects⟩ | ⟨same, silent⟩
      · obtain rfl : chosen = index := Option.some.inj (now.symm.trans selected)
        exact ⟨records, r, [], rfl, selects, fun _ member => absurd member List.not_mem_nil⟩
      · exact older wasValid (same.symm.trans selected) silent

theorem performAll_history {records : List Record} (history : History records w)
    (calls : List Call) :
    History (records ++ (performAll w calls).1) (performAll w calls).2 := by
  induction calls generalizing records w with
  | nil => simpa [performAll] using history
  | cons call calls ih =>
    have next := ih (history.extend (perform_effect call history.sound.tracked))
    simpa [performAll] using next

/-- The chains `NewChain` makes from a list of layouts. -/
def newChains (layouts : List Layout) : List Chain :=
  layouts.filterMap fun layout => (newChain layout).toOption

theorem newChains_parked {layouts : List Layout} (member : c ∈ newChains layouts) :
    c.valid = false ∧ c.serial = 0 ∧ c.irBits = c.layout.irBits := by
  obtain ⟨layout, -, made⟩ := List.mem_filterMap.mp member
  unfold newChain at made
  cases checked : layout.validate with
  | some err => rw [checked] at made; cases made
  | none => rw [checked] at made; cases made; exact ⟨rfl, rfl, rfl⟩

theorem fresh_history (env : Env) (clock : Nat) (scanPath : ScanPath) (completionTimeout : Int)
    (layouts : List Layout) :
    History [] (.fresh env clock scanPath completionTimeout (newChains layouts)) := by
  have parked {name : Nat} {c : Chain} (found : (newChains layouts)[name]? = some c) :
      c.valid = false ∧ c.serial = 0 ∧ c.irBits = c.layout.irBits :=
    newChains_parked (List.mem_of_getElem? found)
  refine ⟨⟨fresh_tracked _ _ _ _ _, fun name c found valid => ?_, fun name c found => ?_,
    fun name c found => (parked found).2.2, nofun⟩, fun name t found => ?_,
    fun name c index found valid => ?_⟩
  · exact absurd ((parked found).1.symm.trans valid) nofun
  · exact (parked found).2.1.le
  · exact absurd found (by simp [World.fresh])
  · exact absurd ((parked found).1.symm.trans valid) nofun

/-- The TAP a call is made on. -/
def Call.tap : Call → Option Nat
  | .scanIR _ tap _ | .scanDR _ tap _ _ | .idle _ tap _ => some tap
  | _ => none

/-- A TAP method that sends anything found its TAP valid, and `ScanDR` its own
instruction selected. -/
theorem perform_sent {call : Call} {tap : Nat} (tracked : Tracked w) (on : call.tap = some tap)
    (sent : (call.perform w).1.sent = true) :
    ∃ t, w.taps[tap]? = some t ∧ w.valid t = true ∧
      ∀ ctx data bits, call = .scanDR ctx tap data bits →
        ∃ c, w.chains[t.chain]? = some c ∧ c.selected = some t.index := by
  have refused {t : TAP} {after : World} {handed : Bool} {err : Option Err}
      {select : Option Nat → Option Nat} (effect : TapEffect w after t handed err select)
      (sent : (after.calls != w.calls) = true) : handed = true := by
    by_contra stopped
    obtain ⟨rfl, -⟩ := effect.refused (by simpa using stopped)
    simp at sent
  cases call with
  | conn _ | connect _ _ | release _ _ | lend _ _ => cases on
  | scanIR ctx name instruction =>
    cases on
    simp only [Call.perform] at sent
    cases found : w.taps[tap]? with
    | none => simp [found] at sent
    | some t =>
      rw [found] at sent
      have effect := tapScanIR_effect ctx t instruction tracked
      exact ⟨t, rfl, effect.valid (refused effect sent), nofun⟩
  | scanDR ctx name data bits =>
    cases on
    simp only [Call.perform] at sent
    cases found : w.taps[tap]? with
    | none => simp [found] at sent
    | some t =>
      rw [found] at sent
      have effect := tapScanDR_effect ctx t data bits tracked
      have handed := refused effect sent
      refine ⟨t, rfl, effect.valid handed, fun _ _ _ _ => ?_⟩
      cases passed : scanDRRefusal w t data bits with
      | error err => rw [passed] at handed; cases handed
      | ok c => exact ⟨c, (scanDRRefusal_ok passed).2.1, (scanDRRefusal_ok passed).2.2.1⟩
  | idle ctx name cycles =>
    cases on
    simp only [Call.perform] at sent
    cases found : w.taps[tap]? with
    | none => simp [found] at sent
    | some t =>
      rw [found] at sent
      have effect := tapIdle_effect ctx t cycles tracked
      exact ⟨t, rfl, effect.valid (refused effect sent), nofun⟩

/-- A call that is refused before it goes on to the connection sends nothing and
leaves every TAP as it was. -/
theorem perform_refused {call : Call} (tracked : Tracked w)
    (refused : (call.perform w).1.handed = false)
    (failed : (call.perform w).1.err ≠ none) :
    (call.perform w).1.sent = false ∧ (call.perform w).2 = w := by
  have quiet {after : World} (same : after = w) : (after.calls != w.calls) = false ∧ after = w := by
    simp [same]
  cases call with
  | conn _ | connect _ _ | release _ _ => cases refused
  | lend name index =>
    obtain ⟨same, -⟩ := lend_spec name index w
    simp only [Call.perform] at failed ⊢
    generalize lend name index w = outcome at same failed ⊢
    obtain ⟨result, w'⟩ := outcome
    obtain rfl : w' = w := same
    cases result with
    | error err => simp
    | ok tap => simp at failed
  | scanIR ctx name instruction =>
    simp only [Call.perform] at refused ⊢
    cases found : w.taps[name]? with
    | none => simp
    | some t =>
      rw [found] at refused
      exact quiet ((tapScanIR_effect ctx t instruction tracked).refused refused).1
  | scanDR ctx name data bits =>
    simp only [Call.perform] at refused ⊢
    cases found : w.taps[name]? with
    | none => simp
    | some t =>
      rw [found] at refused
      exact quiet ((tapScanDR_effect ctx t data bits tracked).refused refused).1
  | idle ctx name cycles =>
    simp only [Call.perform] at refused ⊢
    cases found : w.taps[name]? with
    | none => simp
    | some t =>
      rw [found] at refused
      exact quiet ((tapIdle_effect ctx t cycles tracked).refused refused).1

end Ostiole.Jtag
