import Ostiole.Jlink.Framing

/-!
# Alignment of J-Link samples

A scan returns the level of each input clock one input clock late. `SWDIO` corrects
this with a bit that it carries from call to call, so that what a caller reads does not
depend on how the stream was cut into calls.
-/

namespace Ostiole.Jlink

open Ostiole Logic

/-! ## Streams -/

/-- The last target-driven position before `i`. -/
def previous (driven : Nat → Bool) (i : Nat) : Option Nat :=
  ((List.range i).filter fun j => !driven j).getLast?

/-- The corrected stream: a host-driven bit is its own sample, a target-driven one the
sample of the target-driven one before it. -/
def aligned (driven raw : Nat → Bool) (i : Nat) : Bool :=
  if driven i then raw i
  else match previous driven i with
    | none => false
    | some j => raw j

/-- The bit carried to position `i`. -/
def carried (driven raw : Nat → Bool) (carry : Bool) : Nat → Bool
  | 0 => carry
  | i + 1 => if driven i then carried driven raw carry i else raw i

section Streams

variable {driven raw : Nat → Bool}

theorem carried_add (driven raw : Nat → Bool) (carry : Bool) (n i : Nat) :
    carried (fun j => driven (n + j)) (fun j => raw (n + j)) (carried driven raw carry n) i =
      carried driven raw carry (n + i) := by
  induction i with
  | zero => rfl
  | succ i ih => rw [carried, ih, ← Nat.add_assoc, carried]

theorem carried_congr {driven' raw' : Nat → Bool} {carry : Bool} {n : Nat}
    (same : ∀ j < n, driven j = driven' j) (same' : ∀ j < n, raw j = raw' j) :
    carried driven raw carry n = carried driven' raw' carry n := by
  induction n with
  | zero => rfl
  | succ n ih =>
    rw [carried, carried, same n (Nat.lt_succ_self n), same' n (Nat.lt_succ_self n),
      ih (fun j below => same j (Nat.lt_succ_of_lt below))
        fun j below => same' j (Nat.lt_succ_of_lt below)]

theorem carried_previous (driven raw : Nat → Bool) (i : Nat) :
    carried driven raw false i = match previous driven i with
      | none => false
      | some j => raw j := by
  induction i with
  | zero => rfl
  | succ i ih =>
    rw [carried, previous, List.range_succ, List.filter_append]
    cases host : driven i with
    | true =>
      rw [if_pos rfl, ih, previous]
      simp [host]
    | false =>
      rw [if_neg (by simp)]
      simp [host]

end Streams

/-! ## One call -/

section Call

variable {direction samples : Bytes} {bits : Nat} {carry : Bool}

theorem get_setStreamBit {stream : Bytes} {bit : Nat} (inside : bit < 8 * stream.length)
    (value : Bool)
    (j : Nat) : (setStreamBit stream bit value).get j = if bit = j then value
      else stream.get j := by
  cases value with
  | true =>
    rw [setStreamBit, if_pos rfl, Jtag.Buffer.get_put inside]
    by_cases same : bit = j <;> simp [same]
  | false =>
    rw [setStreamBit, if_neg (by simp), Jtag.Buffer.get_clear inside]
    by_cases same : bit = j <;> simp [same]

/-- The loop of `delayInputSamples`, after `n` turns. -/
theorem delayInputSamples_get (direction : Bytes) (carry : Bool)
    (inside : bits ≤ 8 * samples.length) :
    (delayInputSamples direction samples bits carry).1.length = samples.length ∧
      (delayInputSamples direction samples bits carry).2 =
        carried direction.get samples.get carry bits ∧
      ∀ j, (delayInputSamples direction samples bits carry).1.get j =
        if j < bits ∧ direction.get j = false then carried direction.get samples.get carry j
        else samples.get j := by
  induction bits with
  | zero => exact ⟨rfl, rfl, fun j => by simp [delayInputSamples]⟩
  | succ n ih =>
    obtain ⟨length, last, get⟩ := ih (Nat.le_of_succ_le inside)
    have turn : delayInputSamples direction samples (n + 1) carry =
        if direction.get n then delayInputSamples direction samples n carry
        else (setStreamBit (delayInputSamples direction samples n carry).1 n
          (delayInputSamples direction samples n carry).2, samples.get n) := by
      rw [delayInputSamples, List.range_succ, List.foldl_append]
      rfl
    rw [turn]
    cases host : direction.get n with
    | true =>
      rw [if_pos rfl]
      refine ⟨length, by rw [last, carried, host, if_pos rfl], fun j => ?_⟩
      rw [get]
      by_cases here : j = n
      · simp [here, host]
      · have same : j < n + 1 ↔ j < n := by omega
        simp [same]
    | false =>
      rw [if_neg (by simp)]
      refine ⟨by rw [length_setStreamBit, length], by rw [carried, host, if_neg (by simp)],
        fun j => ?_⟩
      rw [get_setStreamBit (by rw [length]; omega), get, last]
      by_cases here : n = j
      · subst here
        simp [host]
      · have same : j < n + 1 ↔ j < n := by omega
        simp [here, same]

theorem get_maskUnusedBits {stream : Bytes} (wide : stream.length = streamBytes bits) {j : Nat}
    (inside : j < bits) : (maskUnusedBits stream bits).get j = stream.get j := by
  rw [maskUnusedBits]
  split
  · rfl
  · next partly =>
      rw [Jtag.Buffer.get_modify]
      split
      · next last =>
          rw [wide, streamBytes] at last
          have kept : j % 8 < bits % 8 := by omega
          have small : j % 8 < 8 := Nat.mod_lt _ (by decide)
          rw [BitVec.getLsbD_and, BitVec.getLsbD_ofNat, Nat.testBit_two_pow_sub_one]
          simp [kept, small, Jtag.Buffer.get]
      · rfl

end Call

/-! ## What transfers leave alone -/

/-- The part of a session that alignment depends on. -/
def Session.alignment (s : Session) : Bool × Bool × Bool :=
  (s.delayInput, s.inputCarry, s.scanFailed)

/-- A program leaves the alignment alone. -/
def Steady {α : Type} (program : JlinkS α) : Prop :=
  ∀ w, (program w).2.session.alignment = w.session.alignment

section Steady

variable {α β : Type} {ctx : Ctx}

namespace Steady

theorem bind {program : JlinkS α} {next : α → JlinkS β} (first : Steady program)
    (second : ∀ value, Steady (next value)) : Steady (program >>= next) :=
  fun w => (second _ _).trans (first w)

theorem pure (value : α) : Steady (Pure.pure value : JlinkS α) := fun _ => rfl

theorem ite {condition : Prop} [Decidable condition] {first second : JlinkS α}
    (onTrue : Steady first) (onFalse : Steady second) :
    Steady (if condition then first else second) := by
  split
  · exact onTrue
  · exact onFalse

/-- A program that may fail, after another one. -/
theorem bindM {program : JlinkM α} {next : α → JlinkM β} (first : Steady program.run)
    (second : ∀ value, Steady (next value).run) : Steady (program >>= next).run := by
  have rest : ∀ result, Steady (ExceptT.bindCont next result) := by
    intro result
    cases result with
    | ok value => exact second value
    | error err => exact fun _ => rfl
  exact bind first rest

theorem lift {program : JlinkS α} (steady : Steady program) :
    Steady (liftM program : JlinkM α).run :=
  fun w => steady w

theorem throw (err : Err) : Steady (MonadExcept.throw err : JlinkM α).run := fun _ => rfl

theorem describing {message : String} {program : JlinkM α} (steady : Steady program.run) :
    Steady (Jlink.describing message program).run := fun w => steady w

end Steady

theorem ask_steady (question : Env → Nat → α) : Steady (ask question) := fun _ => rfl

theorem record_steady (event : Event) : Steady (record event) := fun _ => rfl

theorem recordLoss_steady (err : Option Err) : Steady (recordLoss err) := fun _ => rfl

theorem wait_steady (transfer : Transfer) : Steady (wait transfer) :=
  fun w => congrArg Session.alignment (wait_ran transfer w).choose_spec.2

theorem fatal_steady (err : Err) : Steady (fatal err : JlinkM α).run := fun _ => rfl

theorem bulkTransfer_steady (transfer : Transfer) : Steady (bulkTransfer ctx transfer) := by
  refine .bind (.bind (ask_steady _) fun _ => .bind (record_steady _) fun _ => .pure _)
    fun submitted => ?_
  refine .bind (recordLoss_steady _) fun _ => .ite (.pure _) (.bind (wait_steady transfer)
    fun result => ?_)
  refine .bind (recordLoss_steady _) fun _ => ?_
  cases result.2.2 with
  | none => exact .pure _
  | some err =>
    refine .bind (fun _ => rfl) fun cause => ?_
    cases cause with
    | none => exact .bind (fun _ => rfl) fun _ => .pure _
    | some cause =>
      refine .bind ?_ fun _ => .pure _
      refine .bind (ask_steady _) fun abortErr => .bind (recordLoss_steady _) fun _ => ?_
      cases abortErr with
      | some abortErr => exact fun _ => rfl
      | none => exact fun _ => rfl

theorem transportReady_steady : Steady (transportReady ctx).run := by
  refine .bindM (.bindM (.lift fun _ => rfl) fun w => ?_) fun _ =>
    .bindM (.lift fun _ => rfl) fun err => ?_
  · exact .ite (.throw _) (.ite (.throw _) (.ite (.throw _) (.ite (.throw _) (.pure _))))
  · cases err with
    | some err => exact .throw err
    | none => exact .pure _

theorem checkWrite_steady (first : Bool) (data : Bytes) (count : Int) (err : Option Err) :
    Steady (checkWrite first data count err).run := by
  unfold checkWrite
  refine .ite (fatal_steady _) ?_
  cases err with
  | none => exact .ite (fatal_steady _) (.pure _)
  | some err => exact .ite (.throw err) (fatal_steady _)

theorem writeFrom_steady (turns : Nat) (first : Bool) (data : Bytes) :
    Steady (writeFrom ctx turns first data).run := by
  induction turns generalizing first data with
  | zero => exact .pure _
  | succ turns ih =>
    refine .ite (.pure _) (.bindM (.lift (bulkTransfer_steady _)) fun result => ?_)
    refine .bindM (checkWrite_steady _ _ _ _) fun _ => ih _ _

theorem writeExact_steady (data : Bytes) : Steady (writeExact ctx data).run :=
  .bindM transportReady_steady fun _ => writeFrom_steady _ _ _

theorem readBulk_steady : Steady (readBulk ctx).run := by
  refine .bindM (.lift fun _ => rfl) fun w =>
    .bindM (.lift (bulkTransfer_steady _)) fun result => ?_
  show Steady (checkRead _ _ _ result.2.2).run
  cases result.2.2 with
  | some err => exact .throw err
  | none => exact .ite (.throw _) (.pure _)

theorem readByte_steady : Steady (readByte ctx).run := by
  have stores : ∀ packet : Bytes,
      Steady (liftM (modifySession fun s => { s with input := packet }) :
      JlinkM Unit).run := fun _ => .lift fun _ => rfl
  refine .bindM (.bindM (.lift fun _ => rfl) fun w => .ite ?_ (.pure _)) fun _ =>
    .bindM (.lift fun _ => rfl) fun _ => .bindM (.lift fun _ => rfl) fun _ => .pure _
  refine .bindM readBulk_steady fun packet => .ite ?_ (stores _)
  exact .bindM readBulk_steady fun packet => .ite (.throw _) (stores _)

theorem readBytes_steady (size : Nat) : Steady (readBytes ctx size).run := by
  induction size with
  | zero => exact .pure _
  | succ size ih =>
    exact .bindM readByte_steady fun _ => .bindM ih fun _ => .pure _

theorem readResponsePart_steady (size : Nat) : Steady (readResponsePart ctx size).run := by
  refine .bindM (.lift (.bindM transportReady_steady fun _ => readBytes_steady size))
    fun result => ?_
  cases result with
  | ok response => exact .pure _
  | error err => exact .ite (.throw _) (fatal_steady _)

theorem readResponse_steady (size : Nat) : Steady (readResponse ctx size).run :=
  .bindM (readResponsePart_steady size) fun _ => .bindM (.lift fun _ => rfl) fun _ =>
    .ite (fatal_steady _) (.pure _)

theorem command_steady {request : Bytes} {body : JlinkM Bytes} (steady : Steady body.run) :
    Steady (command request body).run :=
  .bind (record_steady _) fun _ => .bind steady fun _ => .bind (record_steady _) fun _ => .pure _

theorem exchange_steady (request : Bytes) (size : Nat) : Steady (exchange ctx request size).run :=
  command_steady (.bindM (writeExact_steady request) fun _ => readResponse_steady size)

theorem targetClock_steady (ceiling : Nat) : Steady (targetClock ctx ceiling).run := by
  refine .bindM (.lift fun _ => rfl) fun w => .bindM ?_ fun _ => .ite (.throw _) (.pure _)
  exact .ite (.bindM (.describing (exchange_steady _ _)) fun _ _ => rfl) (.pure _)

theorem setClock_steady (clockHz : Nat) : Steady (setClock ctx clockHz).run :=
  .bindM (command_steady (.bindM (writeExact_steady _) fun _ => .pure _)) fun _ => .pure _

end Steady

/-! ## Lengths -/

section Lengths

variable {w : World} {ctx : Ctx}

theorem Steady.yields {α : Type} {program : JlinkM α} {post : α → World → Prop}
    {fail : Err → World → Prop}
    (steady : Steady program.run) (holds : Yields program w post fail) :
    Yields program w (fun value w' => post value w' ∧ w'.session.alignment = w.session.alignment)
      fail := by
  have same := steady w
  rw [Yields] at holds ⊢
  generalize program.run w = outcome at holds same ⊢
  obtain ⟨_ | _, _⟩ := outcome
  · exact holds
  · exact ⟨holds, same⟩

/-- What a command returns is what its body returns. -/
theorem command_yields {request : Bytes} {body : JlinkM Bytes} {post : Bytes → Prop}
    (holds : ∀ w, Yields body w (fun bytes _ => post bytes) fun _ _ => True) :
    Yields (command request body) w (fun bytes _ => post bytes) fun _ _ => True := by
  have outcome := holds { w with log := w.log ++ [⟨w.session, w.probe, .begins request⟩] }
  have result : ((command request body).run w).1 =
      (body.run { w with log := w.log ++ [⟨w.session, w.probe, .begins request⟩] }).1 := rfl
  rw [Yields] at outcome ⊢
  rw [result]
  split at outcome
  · next value found =>
      rw [found]
      exact outcome
  · next err found =>
      rw [found]
      trivial

theorem scan_yields (control drive : Bytes) (bits : Nat) (name : String) :
    Yields (scan ctx control drive bits name) w
      (fun samples w' => samples.length = control.length ∧
        w'.session.alignment = w.session.alignment)
      fun _ _ => True := by
  have reads : ∀ (w : World) (message : String) (size : Nat),
      Yields (describing message (readResponsePart ctx size)) w (fun bytes _ => bytes.length = size)
        fun _ _ => True := fun w _ size =>
    describing_yields ((readResponsePart_yields size).mono (fun _ _ facts => facts.1) fun _ _ _ =>
      trivial)
  have ends : ∀ (w : World) (message : String),
      Yields (describing message (readResponse ctx 1)) w (fun bytes _ => bytes.length = 1)
        fun _ _ => True := fun w _ =>
    describing_yields ((readResponse_yields 1).mono (fun _ _ facts => facts.1) fun _ _ _ => trivial)
  have writes : ∀ (w : World) (message : String) (data : Bytes),
      Yields (describing message (writeExact ctx data)) w (fun _ _ => True) fun _ _ => True := by
    intro w message data
    rw [Yields]
    split <;> trivial
  have returns : ∀ {body : JlinkM Bytes} {request : Bytes}, Steady body.run →
      (∀ w, Yields body w (fun bytes _ => bytes.length = control.length + 1) fun _ _ => True) →
      Yields (command request body) w (fun bytes w' => bytes.length = control.length + 1 ∧
        w'.session.alignment = w.session.alignment) fun _ _ => True :=
    fun steady holds => (command_steady steady).yields (command_yields holds)
  refine .bind _ (returns ?_ fun w => ?_) ?_
  · exact .bindM (.describing (writeExact_steady _)) fun _ =>
      .bindM (.describing (readResponsePart_steady _)) fun _ =>
      .bindM (.describing (readResponse_steady _)) fun _ => .pure _
  · refine .bind _ (writes w _ _) fun _ w₁ _ => .bind _ (reads w₁ _ _) fun samples w₂ length => ?_
    refine .bind _ (ends w₂ _) fun status w₃ length' => .pure ?_
    rw [List.length_append, length, length']
  · rintro response w' ⟨length, same⟩
    refine .ite (fun _ => .lift_bind (.throw trivial)) fun _ => .pure ⟨?_, same⟩
    rw [length_maskUnusedBits, List.length_dropLast, length]
    rfl

end Lengths

/-! ## Calls -/

section Calls

variable {w w₁ w' : World} {ctx : Ctx} {carry : Bool}

theorem scanReady_steady (target bits : Nat) (name : String) :
    Steady (scanReady ctx target bits name).run :=
  .bindM transportReady_steady fun _ => .bindM (.lift fun _ => rfl) fun _ =>
    .ite (.throw _) (.ite (.throw _) (.pure _))

/-- Steadiness of a program whose outcome does not matter. -/
theorem Steady.whatever {α : Type} {program : JlinkM α} (steady : Steady program.run) :
    Yields program w (fun _ w' => w'.session.alignment = w.session.alignment) fun _ _ => True := by
  have any : Yields program w (fun _ _ => True) fun _ _ => True := by
    rw [Yields]
    split <;> trivial
  exact (steady.yields any).mono (fun _ _ facts => facts.2) fun _ _ _ => trivial

/-- A scan returns as many samples as it has clocks. -/
theorem sampleSWD_yields (direction output : Bytes) (bits : Int)
    (alignment : w.session.alignment = (true, carry, false)) :
    Yields (sampleSWD ctx direction output bits) w
      (fun raw w' => raw.length = streamBytes bits.toNat ∧
        w'.session.alignment = (true, carry, false))
      fun _ _ => True := by
  refine .ite (fun _ => .throw trivial) fun valid => ?_
  have wide : streamBytes bits.toNat ≤ direction.length := by
    rw [streamBytes]
    omega
  refine .bind _ (scanReady_steady _ _ _).whatever fun _ w₁ same => ?_
  have failed : w₁.session.scanFailed = false :=
    congrArg (·.2.2) (same.trans alignment)
  refine .bind (fun _ w₂ => w₂ = w₁) ?_ ?_
  · have settled : w₁.session.recoverableScan = false := by
      rw [Session.recoverableScan, failed]
      simp
    refine .lift_bind (.ite (fun _ => .pure rfl) fun recoverable => ?_)
    exact absurd (congrArg (!·) settled) recoverable
  · rintro - w₂ rfl
    refine (scan_yields _ _ _ _).mono ?_ fun _ _ _ => trivial
    rintro raw w' ⟨length, steady⟩
    exact ⟨length.trans (length_scanStreams output wide).1, steady.trans (same.trans alignment)⟩

theorem alignSamples_yields {direction raw : Bytes} {bits : Nat}
    (wide : raw.length = streamBytes bits)
    (alignment : w.session.alignment = (true, carry, false)) :
    Yields (alignSamples direction raw bits) w
      (fun result w' => (∀ j < bits, result.get j = if direction.get j then raw.get j
          else carried direction.get raw.get carry j) ∧
        w'.session.alignment = (true, carried direction.get raw.get carry bits, false))
      fun _ _ => True := by
  have inside : bits ≤ 8 * raw.length := by
    rw [wide, streamBytes]
    omega
  obtain ⟨delayed, rfl, failed⟩ : w.session.delayInput = true ∧ w.session.inputCarry = carry ∧
      w.session.scanFailed = false := by
    simpa [Session.alignment] using alignment
  obtain ⟨length, last, get⟩ := delayInputSamples_get direction w.session.inputCarry inside
  refine .lift_bind (.ite (fun _ => .lift_bind (.pure ⟨fun j below => ?_, ?_⟩)) fun late =>
    absurd delayed late)
  · refine (get_maskUnusedBits (length.trans wide) below).trans ((get j).trans ?_)
    cases direction.get j <;> simp [below]
  · exact congrArg₂ Prod.mk delayed (congrArg₂ Prod.mk last failed)

theorem configureSWD_yields (maxClockHz : Nat) :
    Yields (configureSWD ctx maxClockHz) w
      (fun _ w' => w'.session.alignment = (true, false, false)) fun _ _ => True := by
  refine .ite (fun _ => .throw trivial) fun _ => .bind _ transportReady_steady.whatever
    fun _ w₁ _ => ?_
  refine .lift_bind (.ite (fun _ => .throw trivial) fun _ => ?_)
  split
  · exact .throw trivial
  · refine .lift_bind (.bind _ (Steady.describing (exchange_steady _ _)).whatever fun _ w₂ same =>
      ?_)
    refine .ite (fun _ => .throw trivial) fun _ => .lift_bind ?_
    refine .bind _ (targetClock_steady _).whatever fun _ w₃ same' => ?_
    refine .bind _ (Steady.describing (setClock_steady _)).whatever fun _ w₄ same'' => .lift ?_
    have failed : w₄.session.scanFailed = false :=
      congrArg (·.2.2) (same''.trans (same'.trans same))
    exact congrArg (fun failed => (true, false, failed)) failed

end Calls

/-! ## Streams over several calls -/

/-- A successful call: what it was asked to drive, what its scan sampled, what it
returned. -/
structure Piece where
  direction : Bytes
  raw : Bytes
  result : Bytes
  bits : Nat

/-- Consecutive successful calls of `SWDIO`. -/
inductive Calls : World → List Piece → World → Prop where
  | nil (w : World) : Calls w [] w
  | cons {w w₁ w₂ w' : World} {ctx : Ctx} {output : Bytes} {piece : Piece} {rest : List Piece}
      (sampled : (sampleSWD ctx piece.direction output piece.bits).run w = (.ok piece.raw, w₁))
      (returned : (swdio ctx piece.direction output piece.bits).run w = (.ok piece.result, w₂))
      (later : Calls w₂ rest w') : Calls w (piece :: rest) w'

/-- One stream of the calls, as bits. -/
def streamed (stream : Piece → Bytes) (pieces : List Piece) : List Bool :=
  pieces.flatMap fun piece => (stream piece).bits piece.bits

/-- One stream of the calls, by position. -/
def level (stream : Piece → Bytes) (pieces : List Piece) (i : Nat) : Bool :=
  (streamed stream pieces).getD i false

/-- The clocks of the calls. -/
def clocks (pieces : List Piece) : Nat := (pieces.map Piece.bits).sum

section Split

variable {w w' : World} {ctx : Ctx} {carry : Bool}

theorem level_head (stream : Piece → Bytes) (piece : Piece) (rest : List Piece) {i : Nat}
    (inside : i < piece.bits) : level stream (piece :: rest) i = (stream piece).get i := by
  simp [level, streamed, Jtag.Buffer.bits, List.getElem?_append, inside]

theorem level_tail (stream : Piece → Bytes) (piece : Piece) (rest : List Piece) (i : Nat) :
    level stream (piece :: rest) (piece.bits + i) = level stream rest i := by
  have outside : ¬piece.bits + i < piece.bits := Nat.not_lt.mpr (Nat.le_add_right _ _)
  simp [level, streamed, Jtag.Buffer.bits, List.getElem?_append, outside]

/-- One call, from the samples of its scan. -/
theorem swdio_samples {w₁ w₂ : World} {direction output raw result : Bytes} {bits : Nat}
    (sampled : (sampleSWD ctx direction output bits).run w = (.ok raw, w₁))
    (returned : (swdio ctx direction output bits).run w = (.ok result, w₂)) :
    (alignSamples direction raw bits).run w₁ = (.ok result, w₂) := by
  have unfolded : (swdio ctx direction output bits).run w =
      ExceptT.bindCont (fun samples => alignSamples direction samples bits)
        ((sampleSWD ctx direction output bits).run w).1
          ((sampleSWD ctx direction output bits).run w).2 := rfl
  rw [unfolded, sampled] at returned
  exact returned

/-- What calls return, from the bit that the first of them finds carried. -/
theorem Calls.streamed_result {pieces : List Piece} (calls : Calls w pieces w')
    (alignment : w.session.alignment = (true, carry, false)) :
    streamed Piece.result pieces = (List.range (clocks pieces)).map fun i =>
      if level Piece.direction pieces i then level Piece.raw pieces i
      else carried (level Piece.direction pieces) (level Piece.raw pieces) carry i := by
  induction calls generalizing carry with
  | nil => rfl
  | @cons w w₁ w₂ w' ctx output piece rest sampled returned later ih =>
    have samples : Yields (sampleSWD ctx piece.direction output piece.bits) w _ _ :=
      sampleSWD_yields piece.direction output piece.bits alignment
    rw [Yields, sampled] at samples
    have aligns : Yields (alignSamples piece.direction piece.raw piece.bits) w₁ _ _ :=
      alignSamples_yields samples.1 samples.2
    rw [Yields, swdio_samples sampled returned] at aligns
    obtain ⟨values, alignment'⟩ := aligns
    have tail := ih alignment'
    have before : ∀ n ≤ piece.bits, carried piece.direction.get piece.raw.get carry n =
        carried (level Piece.direction (piece :: rest)) (level Piece.raw (piece :: rest)) carry n :=
      fun n inside => carried_congr (fun j below => (level_head _ _ _ (by omega)).symm)
        fun j below => (level_head _ _ _ (by omega)).symm
    have after : ∀ stream, level stream rest = fun j =>
        level stream (piece :: rest) (piece.bits + j) :=
      fun stream => funext fun j => (level_tail stream piece rest j).symm
    rw [clocks, List.map_cons, List.sum_cons, List.range_add, List.map_append, List.map_map]
    refine congrArg₂ (· ++ ·) (List.map_congr_left fun i inside => ?_)
      (tail.trans (List.map_congr_left fun i _ => ?_))
    · have below := List.mem_range.mp inside
      rw [values i below, before i below.le, level_head _ _ _ below, level_head _ _ _ below]
    · rw [before _ le_rfl, after, after, carried_add]
      rfl

/-- Calls after `ConfigureSWD` return the corrected stream. -/
theorem Calls.streamed_aligned {v w w' : World} {maxClockHz : Nat} {pieces : List Piece}
    (configured : (configureSWD ctx maxClockHz).run v = (.ok (), w)) (calls : Calls w pieces w') :
    streamed Piece.result pieces = (List.range (clocks pieces)).map
      (aligned (level Piece.direction pieces) (level Piece.raw pieces)) := by
  have alignment : Yields (configureSWD ctx maxClockHz) v _ _ := configureSWD_yields maxClockHz
  rw [Yields, configured] at alignment
  refine (calls.streamed_result alignment).trans (List.map_congr_left fun i _ => ?_)
  rw [aligned, carried_previous]

theorem length_streamed (stream : Piece → Bytes) (pieces : List Piece) :
    (streamed stream pieces).length = clocks pieces := by
  simp [streamed, clocks, List.length_flatMap, Jtag.Buffer.bits]

/-- After `ConfigureSWD`, consecutive successful calls return the corrected stream: each
host-driven bit is its own sample, the first target-driven bit is zero, and each later one
is the sample of the target-driven bit before it, wherever the stream was cut; so any
other cut of the same stream, one call among them, returns the same. -/
theorem swdio_split_independent (w w₁ w₂ : World) (ctx : Ctx) (maxClockHz : Nat)
    (pieces : List Piece)
    (configured : (configureSWD ctx maxClockHz).run w = (.ok (), w₁)) (calls : Calls w₁ pieces w₂) :
    streamed Piece.result pieces = (List.range (clocks pieces)).map
        (aligned (level Piece.direction pieces) (level Piece.raw pieces)) ∧
      ∀ (v v₁ v₂ : World) (ctx' : Ctx) (maxClockHz' : Nat) (whole : List Piece),
        (configureSWD ctx' maxClockHz').run v = (.ok (), v₁) → Calls v₁ whole v₂ →
        streamed Piece.direction whole = streamed Piece.direction pieces →
        streamed Piece.raw whole = streamed Piece.raw pieces →
        streamed Piece.result whole = streamed Piece.result pieces := by
  refine ⟨calls.streamed_aligned configured, ?_⟩
  intro v v₁ v₂ ctx' maxClockHz' whole configured' calls' directions raws
  have lengths : clocks whole = clocks pieces := by
    rw [← length_streamed Piece.direction, directions, length_streamed]
  have driven : level Piece.direction whole = level Piece.direction pieces := by
    funext i
    rw [level, directions, level]
  have read : level Piece.raw whole = level Piece.raw pieces := by
    funext i
    rw [level, raws, level]
  rw [calls.streamed_aligned configured, calls'.streamed_aligned configured', lengths, driven, read]

/-- A probe that samples ones, with a serial wire interface and no clock description. -/
def onesWorld : World :=
  let zeros := zeroWorld 0 fun _ => 1
  { zeros with
    env := { zeros.env with
      respond := fun _ request =>
        if request.head? = some commandScanV3 then
          List.replicate (responseSize request [] - 1) 0xff ++ [0]
        else List.replicate (responseSize request []) 0 }
    session := { zeros.session with
      device := true
      claim := true
      info := { zeros.session.info with
        selectedInterfaceKnown := true, availableInterfaces := 2 } } }

/-- `onesWorld`, once it is configured, and after each of two calls. -/
def onesConfigured : World := ((configureSWD ⟨1000, .canceled⟩ 1000).run onesWorld).2

def onesMiddle : World := ((swdio ⟨1000, .canceled⟩ [1, 0] [0, 0] (10 : Nat)).run onesConfigured).2

def onesFinal : World := ((swdio ⟨1000, .canceled⟩ [0] [0] (2 : Nat)).run onesMiddle).2

/-- The two calls; the host drives the first clock only. -/
def onesCalls : List Piece :=
  [⟨[1, 0], [0xff, 0x03], [0xfd, 0x03], 10⟩, ⟨[0], [0x03], [0x03], 2⟩]

theorem returns {α : Type} {program : JlinkM α} {value : α}
    (ended : (program.run w).1 = .ok value) :
    program.run w = (.ok value, (program.run w).2) :=
  Prod.ext ended rfl

theorem onesCalls_made : Calls onesConfigured onesCalls onesFinal := by
  have sampled : ((sampleSWD ⟨1000, .canceled⟩ [1, 0] [0, 0] (10 : Nat)).run onesConfigured).1 =
      .ok [0xff, 0x03] := by
    decide +kernel
  have returned : ((swdio ⟨1000, .canceled⟩ [1, 0] [0, 0] (10 : Nat)).run onesConfigured).1 =
      .ok [0xfd, 0x03] := by
    decide +kernel
  have sampled' : ((sampleSWD ⟨1000, .canceled⟩ [0] [0] (2 : Nat)).run onesMiddle).1 =
      .ok [0x03] := by
    decide +kernel
  have returned' : ((swdio ⟨1000, .canceled⟩ [0] [0] (2 : Nat)).run onesMiddle).1 = .ok [0x03] := by
    decide +kernel
  exact .cons (returns sampled) (returns returned)
    (.cons (returns sampled') (returns returned') (.nil _))

theorem onesWorld_configured :
    (configureSWD ⟨1000, .canceled⟩ 1000).run onesWorld = (.ok (), onesConfigured) := by
  have returned : ((configureSWD ⟨1000, .canceled⟩ 1000).run onesWorld).1 = .ok () := by
    decide +kernel
  exact returns returned

/-- Twelve clocks in two calls, of which the host drives the first, against a target that
answers ones. -/
theorem swdio_split_independent_ones :
    Calls onesConfigured onesCalls onesFinal ∧ streamed Piece.result onesCalls =
      (List.range (clocks onesCalls)).map
        (aligned (level Piece.direction onesCalls) (level Piece.raw onesCalls)) :=
  ⟨onesCalls_made, (swdio_split_independent onesWorld onesConfigured onesFinal
    ⟨1000, .canceled⟩ 1000 onesCalls onesWorld_configured onesCalls_made).1⟩

end Split

end Ostiole.Jlink
