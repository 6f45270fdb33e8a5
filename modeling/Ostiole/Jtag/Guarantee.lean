import Ostiole.Jtag.Connect
import Ostiole.Jtag.Isolation

/-!
# What a borrowed TAP guarantees

A TAP acts on a validated chain or not at all, and acts on its own device alone.
Both are over runs from a new connection with any wire and any devices. A chain
of two devices on a working wire shows that such runs exist.
-/

namespace Ostiole.Jtag

open Ostiole Logic

variable {c : Chain} {w : World}

/-! ## TAP methods that succeed -/

theorem lend_accepts {name index : Nat} (ready : w.ready name = true)
    (found : w.chains[name]? = some c) (inside : index < c.layout.length) :
    lend name index w = (.ok ⟨name, index, c.generation⟩, w) := by
  unfold lend
  rw [run_get_bind, run_ite, if_neg (by simp [ready]), found]
  simp only [run_ite]
  rw [if_neg (by omega)]
  rfl

theorem tapScanIR_accepts {ctx : Ctx} {env : Env} {t : TAP} {instruction : Buffer}
    (lasts : env.Lasts) (working : Working env w) (known : w.conn.state ≠ .unknown)
    (passed : scanIRRefusal w t instruction = .ok c) (positive : 0 < c.irBits)
    (small : c.irBits ≤ 2 ^ 20) (alive : w.clock + 2 * c.irBits + 140 ≤ ctx.deadline) :
    ∃ captured w', tapScanIR ctx t instruction w = (.ok captured, w') ∧ Working env w' ∧
      w'.clock ≤ w.clock + 2 * c.irBits + 140 ∧ w.calls < w'.calls := by
  have room : (c.irBits + 7) / 8 ≤
      (instructionData c.layout c.irBits t.index instruction).length := by
    rw [instructionData, length_replaced, Buffer.length_ones]
  obtain ⟨output, scanned, scans, works, time, sent⟩ :=
    scan_succeeds .ir lasts working known positive
    small room alive
  have whole : ∃ final, tapScanIR ctx t instruction w =
      (.ok (output.extract (c.layout.offset t.index) ((c.layout.map (·.ir)).getD t.index 0)),
        { scanned with chains := final }) := by
    unfold tapScanIR
    rw [run_get_bind, passed]
    simp only
    rw [run_bind, show scanIR ctx _ _ w = scan ctx _ _ .ir w from rfl, scans]
    exact ⟨_, rfl⟩
  obtain ⟨final, whole⟩ := whole
  exact ⟨_, _, whole, ⟨works.same, works.works, works.timeout, works.tracked⟩, time, sent⟩

theorem tapScanDR_accepts {ctx : Ctx} {env : Env} {t : TAP} {data : Buffer}
    {bits : Nat} (lasts : env.Lasts) (working : Working env w) (known : w.conn.state ≠ .unknown)
    (passed : scanDRRefusal w t data bits = .ok c) (some : 0 < c.layout.length)
    (alive : w.clock + 2 ^ 22 ≤ ctx.deadline) :
    ∃ read w', tapScanDR ctx t data bits w = (.ok read, w') := by
  obtain ⟨-, -, -, positive, small, -⟩ := scanDRRefusal_ok passed
  simp only [maxScanBits] at small
  have room : (bits + c.layout.length - 1 + 7) / 8 ≤
      ((Buffer.zeros (bits + c.layout.length - 1)).putAll t.index bits data.get).length := by
    simp
  obtain ⟨output, scanned, scans, -⟩ :=
    scan_succeeds .dr lasts working known (by omega) (by omega) room
    (show w.clock + 2 * (bits + c.layout.length - 1) + 140 ≤ ctx.deadline by omega)
  unfold tapScanDR
  rw [run_get_bind, passed]
  simp only [Int.toNat_natCast]
  rw [run_bind, show scanDR ctx _ _ w = scan ctx _ _ .dr w from rfl, scans]
  exact ⟨_, _, rfl⟩

/-! ## A run of two devices -/

namespace Pair

/-- A wire that delivers everything and samples honestly. -/
def env : Env where
  call _ := ⟨none, 0, fun _ => none⟩
  budget _ := 2 ^ 22
  maxTransferBits := none

/-- A device with a four-bit data register behind every instruction. -/
def device (ir : Nat) : Device where
  spec := ⟨true :: List.replicate (ir - 1) false, List.replicate ir true,
    fun _ => [true, true, false, true]⟩
  instruction := List.replicate ir false
  stage _ := []
  written _ := []

def layout : Layout := [⟨2, ⟨0, true⟩⟩, ⟨3, ⟨0, true⟩⟩]

def devices : ScanPath := ⟨.runTestIdle, [device 2, device 3]⟩

def start : World := .fresh env 0 devices 1 (newChains [layout])

def ctx : Ctx := ⟨10 ^ 8, .canceled⟩

/-- The chain connected and its second TAP lent. -/
def opening : List Call := [.connect ctx 0, .lend 0 (1 : Nat)]

/-- Completion contexts outlast every scan of the pair. -/
theorem lasts : env.Lasts := fun _ => Nat.le_refl _

theorem working : Working env start where
  same := rfl
  works := ⟨fun _ => rfl, fun _ _ => rfl, nofun⟩
  timeout := by decide
  tracked := fresh_tracked _ _ _ _ _

theorem matched : List.Forall₂ DeviceSpec.Matches start.scanPath.specs layout :=
  .cons ⟨rfl, ⟨rfl, rfl⟩, rfl⟩ (.cons ⟨rfl, ⟨rfl, rfl⟩, rfl⟩ .nil)

theorem made : ∀ spec ∈ layout, spec.Made := by
  intro spec member
  rcases List.mem_cons.mp member with rfl | member
  · exact .inr ⟨2, rfl⟩
  · obtain rfl := List.mem_singleton.mp member
    exact .inr ⟨3, rfl⟩

theorem performAll_connect (ctx : Ctx) (name : Nat) (calls : List Call) (w : World) :
    (performAll w (.connect ctx name :: calls)).2 =
      (performAll (connect ctx name w).2 calls).2 := rfl

theorem performAll_lend {name index : Nat} (ready : w.ready name = true)
    (found : w.chains[name]? = some c) (inside : index < c.layout.length) (taps : w.taps = []) :
    (performAll w [.lend name index]).2 = { w with taps := [⟨name, index, c.generation⟩] } := by
  simp only [performAll, Call.perform, lend_accepts ready found inside, taps, List.nil_append]

/-- The chain is ready and its second TAP lent. -/
structure Opened (w : World) (c : Chain) : Prop where
  chain : w.chains[0]? = some c
  layout : c.layout = layout
  irBits : c.irBits = 5
  lent : w.taps = [⟨0, 1, c.generation⟩]
  valid : w.valid ⟨0, 1, c.generation⟩ = true
  working : Working env w
  idle : w.conn.state = .idle
  time : w.clock ≤ 500000
  specs : w.scanPath.specs = start.scanPath.specs

theorem Opened.of_connected (works : Working env w) (time : w.clock ≤ 500000)
    (idle : w.conn.state = .idle) (specs : w.scanPath.specs = start.scanPath.specs)
    (chain : w.chains[0]? = some c) (same : c.layout = Pair.layout) (total : c.irBits = 5)
    (ready : w.ready 0 = true) (taps : w.taps = []) :
    Opened (performAll w [.lend 0 (1 : Nat)]).2 c := by
  rw [performAll_lend ready chain (show 1 < c.layout.length by rw [same]; decide) taps]
  refine ⟨chain, same, total, rfl, ?_, ⟨works.same, works.works, works.timeout, works.tracked⟩,
    idle, time, ?_⟩
  · simp only [World.valid, World.ready, chain] at ready ⊢
    simpa using ready
  · exact specs

theorem Opened.fits (opened : Opened w c) :
    w.scanPath.Fits Pair.layout := by
  rw [ScanPath.Fits, opened.specs]
  rfl

theorem opened : ∃ c, Opened (performAll start opening).2 c := by
  have found : start.chains[0]? = some ⟨layout, 5, 0, 0, false, true, none⟩ := rfl
  obtain ⟨connected, works, time, idle, specs⟩ :=
    connect_accepts lasts working found rfl matched made
    (by decide) (by decide) (show start.clock + 500000 ≤ ctx.deadline by decide)
  obtain ⟨c, chain, same, total, ready⟩ := connect_ready working.tracked found connected
  obtain ⟨_, worked, -, -⟩ := connect_spec ctx 0 working.tracked
  refine ⟨c, ?_⟩
  rw [opening, performAll_connect]
  exact .of_connected works (by simpa [start, World.fresh] using time) idle specs chain same total
    ready worked.taps

/-- The lent TAP is found under its name, and an instruction of its length passes. -/
theorem Opened.passes (opened : Opened w c) :
    w.taps[0]? = some ⟨0, 1, c.generation⟩ ∧
      scanIRRefusal w ⟨0, 1, c.generation⟩ [5] = .ok c := by
  refine ⟨by rw [opened.lent]; rfl, ?_⟩
  unfold scanIRRefusal
  rw [if_neg (by simp [opened.valid]), opened.chain]
  simp only [opened.layout]
  rw [if_neg (by decide)]

/-- Once opened, a scan of the lent TAP succeeds and sends. -/
theorem Opened.scansIR (opened : Opened w c) :
    ∃ captured w', tapScanIR ctx ⟨0, 1, c.generation⟩ [5] w = (.ok captured, w') ∧ Working env w' ∧
      w'.clock ≤ 600000 ∧ ((Call.scanIR ctx 0 [5]).perform w).1.sent = true := by
  have time := opened.time
  have total := opened.irBits
  obtain ⟨captured, w', scans, works, later, sent⟩ := tapScanIR_accepts lasts opened.working
    (by rw [opened.idle]; decide) opened.passes.2 (by omega) (by omega)
    (show w.clock + 2 * c.irBits + 140 ≤ ctx.deadline by
      have deadline : ctx.deadline = 10 ^ 8 := rfl
      omega)
  refine ⟨captured, w', scans, works, by omega, ?_⟩
  simp only [Call.perform, opened.passes.1, scans]
  simpa using sent.ne'

end Pair

/-! ## Safety of borrowed TAPs -/

/-- However raw calls, `Connect` and `Release` on any chains, and TAP methods
interleave and fail: a TAP method sends something only if, since its TAP was
lent, every call was clean for its chain; and `ScanDR` only if the last
instruction scan through that chain was a successful one by a TAP of its index.
A failed call that did not go on to the connection sends nothing and changes
nothing, so that it costs no TAP its validity. -/
theorem tap_borrowed (env : Env) (clock : Nat) (scanPath : ScanPath) (completionTimeout : Int)
    (layouts : List Layout) (calls : List Call) :
    let run := performAll (.fresh env clock scanPath completionTimeout (newChains layouts)) calls
    (∀ (call : Call) (tap : Nat), call.tap = some tap → (call.perform run.2).1.sent = true →
      ∃ t, run.2.taps[tap]? = some t ∧
        (∃ before lend since, run.1 = before ++ lend :: since ∧ lend.lent = some tap ∧
          lend.call = .lend t.chain t.index ∧ ∀ r ∈ since, r.Clean t.chain) ∧
        ∀ ctx data bits, call = .scanDR ctx tap data bits →
          ∃ before scan since, run.1 = before ++ scan :: since ∧
            scan.Selects t.chain t.index ∧ ∀ r ∈ since, ¬r.ScansIR t.chain) ∧
      ∀ call : Call, (call.perform run.2).1.handed = false → (call.perform run.2).1.err ≠ none →
        (call.perform run.2).1.sent = false ∧ (call.perform run.2).2 = run.2 := by
  intro run
  have history : History run.1 run.2 := by
    simpa using performAll_history (fresh_history env clock scanPath completionTimeout layouts)
      calls
  refine ⟨fun call tap on sent => ?_, fun call => perform_refused history.sound.tracked⟩
  obtain ⟨t, found, valid, selects⟩ := perform_sent history.sound.tracked on sent
  obtain ⟨before, lend, since, split, lent, lends, clean⟩ := history.lent tap t found
  refine ⟨t, found, ⟨before, lend, since, split, lent, lends, clean valid⟩, ?_⟩
  intro ctx data bits isScan
  obtain ⟨c, chain, selected⟩ := selects ctx data bits isScan
  obtain ⟨c', chain', isValid, -, -⟩ := valid_iff.mp valid
  obtain rfl : c = c' := Option.some.inj (chain.symm.trans chain')
  exact history.selected t.chain c t.index chain isValid selected

/-- The lent TAP of the pair sends, and everything since it was lent was clean. -/
theorem tap_borrowed_pair :
    ((Call.scanIR Pair.ctx 0 [5]).perform (performAll Pair.start Pair.opening).2).1.sent = true ∧
    ∃ t, (performAll Pair.start Pair.opening).2.taps[0]? = some t ∧ ∃ before lend since,
      (performAll Pair.start Pair.opening).1 = before ++ lend :: since ∧ lend.lent = some 0 ∧
        ∀ r ∈ since, r.Clean t.chain := by
  obtain ⟨c, opened⟩ := Pair.opened
  obtain ⟨-, -, -, -, -, sent⟩ := opened.scansIR
  refine ⟨sent, ?_⟩
  unfold Pair.start at sent ⊢
  obtain ⟨t, found, ⟨before, lend, since, split, lent, -, clean⟩, -⟩ :=
    (tap_borrowed Pair.env 0 Pair.devices 1 [Pair.layout] Pair.opening).1 (.scanIR Pair.ctx 0 [5]) 0
      rfl sent
  exact ⟨t, found, before, lend, since, split, lent, clean⟩

/-- What the run records when the TAP is given an instruction of no length. -/
def Pair.refusal (c : Chain) : Record :=
  ⟨.scanIR Pair.ctx 0 [], some ⟨0, 1, c.generation⟩, false,
    some (.text "jtag: invalid instruction buffer"), false, none⟩

theorem Pair.Opened.refuses (opened : Pair.Opened w c) :
    performAll w [.scanIR Pair.ctx 0 []] = ([Pair.refusal c], w) := by
  have short : scanIRRefusal w ⟨0, 1, c.generation⟩ [] =
      .error (.text "jtag: invalid instruction buffer") := by
    unfold scanIRRefusal
    rw [if_neg (by simp [opened.valid]), opened.chain]
    simp only [opened.layout]
    rw [if_pos (by decide)]
  have refused : tapScanIR Pair.ctx ⟨0, 1, c.generation⟩ [] w =
      (.error (.text "jtag: invalid instruction buffer"), w) := by
    unfold tapScanIR
    rw [run_get_bind, short]
    rfl
  simp only [performAll, Call.perform, opened.passes.1, refused, short, errorOf]
  simp [Pair.refusal]

theorem Pair.Opened.survives {start : World} {records : List Record} {calls : List Call}
    (opened : Pair.Opened w c) (history : History records w)
    (ran : performAll start calls = (records, w)) :
    ∃ calls before lend since r, (performAll start calls).1 = before ++ lend :: since ∧
      lend.lent = some 0 ∧ r ∈ since ∧ r.chain = some 0 ∧ r.err ≠ none ∧
      ((Call.scanIR Pair.ctx 0 [5]).perform (performAll start calls).2).1.sent = true := by
  obtain ⟨-, -, -, -, -, sent⟩ := opened.scansIR
  obtain ⟨before, lend, since, split, lent, -⟩ := history.lent 0 _ opened.passes.1
  refine ⟨calls ++ [.scanIR Pair.ctx 0 []], before, lend, since ++ [Pair.refusal c],
    Pair.refusal c, ?_⟩
  rw [performAll_append, ran, opened.refuses]
  exact ⟨by simp [split], lent, List.mem_append_right _ List.mem_cons_self, rfl, nofun, sent⟩

/-- A call that is refused for its own arguments fails through the chain, and the
TAP is still good. -/
theorem refused_call_keeps_tap :
    ∃ calls before lend since r, (performAll Pair.start calls).1 = before ++ lend :: since ∧
      lend.lent = some 0 ∧ r ∈ since ∧ r.chain = some 0 ∧ r.err ≠ none ∧
      ((Call.scanIR Pair.ctx 0 [5]).perform (performAll Pair.start calls).2).1.sent = true := by
  obtain ⟨c, opened⟩ := Pair.opened
  have history := performAll_history (fresh_history Pair.env 0 Pair.devices 1 [Pair.layout])
    Pair.opening
  rw [List.nil_append] at history
  unfold Pair.start at opened ⊢
  exact opened.survives history Prod.mk.eta.symm

/-! ## Validation -/

/-- Wherever a run has got to, on devices that the standard allows and an honest wire: the
devices that a successful `Connect` accepts have the layout's reset registers, nearest TDO
first, and as many instruction bits, and it leaves them in bypass and Idle. -/
theorem connect_validates (env : Env) (clock : Nat) (scanPath : ScanPath) (completionTimeout : Int)
    (layouts : List Layout) (calls : List Call) (honest : env.Honest)
    (standard : scanPath.Standard) :
    let w := (performAll (.fresh env clock scanPath completionTimeout (newChains layouts)) calls).2
    ∀ (ctx : Ctx) (name : Nat) (c : Chain), w.chains[name]? = some c →
      (connect ctx name w).1 = none →
      (connect ctx name w).2.scanPath.specs = scanPath.specs ∧
        Validated (connect ctx name w).2.scanPath c.layout := by
  intro w ctx name c found returned
  have start := (fresh_history env clock scanPath completionTimeout layouts).sound
  have sound := (performAll_settled start (fresh_settled env clock scanPath completionTimeout
    layouts) calls).1
  obtain ⟨sameEnv, sameSpecs, -⟩ := performAll_fixed start calls
  have honest' : w.env.Honest := sameEnv.symm ▸ honest
  have standard' : w.scanPath.Standard := standard.congr sameSpecs
  refine ⟨?_, connect_completed sound.tracked honest' standard' found (sound.irBits name c found)
    returned⟩
  obtain ⟨_, worked, -, -⟩ := connect_spec ctx name sound.tracked
  exact worked.specs.trans sameSpecs

theorem Pair.standard : Pair.devices.Standard where
  registers := by
    intro s member
    refine ⟨⟨0, true⟩, .inl rfl, ?_⟩
    simp only [ScanPath.specs, Pair.devices, List.map_cons, List.map_nil, List.mem_cons,
      List.not_mem_nil, or_false] at member
    rcases member with rfl | rfl <;> rfl
  instructions := by decide
  total := by decide

/-- The pair connects, and is what its layout says. -/
theorem connect_validates_pair :
    (connect Pair.ctx 0 Pair.start).1 = none ∧
      Validated (connect Pair.ctx 0 Pair.start).2.scanPath Pair.layout := by
  have found : Pair.start.chains[0]? = some ⟨Pair.layout, 5, 0, 0, false, true, none⟩ := rfl
  have accepted : (connect Pair.ctx 0 Pair.start).1 = none :=
    (connect_accepts Pair.lasts Pair.working found rfl Pair.matched Pair.made (by decide)
      (by decide)
      (show Pair.start.clock + 500000 ≤ Pair.ctx.deadline by decide)).1
  have validates := connect_validates Pair.env 0 Pair.devices 1 [Pair.layout] []
    (fun _ _ => rfl) Pair.standard
  rw [show (performAll (.fresh Pair.env 0 Pair.devices 1 (newChains [Pair.layout])) []).2 =
    Pair.start from rfl] at validates
  exact ⟨accepted, (validates Pair.ctx 0 _ found accepted).2⟩

/-! ## Isolation -/

/-- Wherever a run has got to, on devices whose instruction registers are as long
as the layout says: a successful `TAP.ScanIR` leaves its instruction in its own
device and ones in every other, and returns what that device captured. Whatever
calls follow, a successful `TAP.ScanDR` of the length of the selected register
leaves its data in that register and returns what the register captured; and the
register is the one of the instruction given unless another was scanned since. -/
theorem tap_isolated (env : Env) (clock : Nat) (scanPath : ScanPath) (completionTimeout : Int)
    (layouts : List Layout) (calls : List Call) (honest : env.Honest) :
    let w := (performAll (.fresh env clock scanPath completionTimeout (newChains layouts)) calls).2
    ∀ (ctx : Ctx) (t : TAP) (c : Chain) (instruction captured : Buffer) (w₁ : World),
      t ∈ w.taps → w.chains[t.chain]? = some c → w.scanPath.Fits c.layout →
      tapScanIR ctx t instruction w = (.ok captured, w₁) →
      Selected w₁.scanPath t.index instruction ∧
        (∃ d, w₁.scanPath.devices[t.index]? = some d ∧ captured = .pack d.spec.captureIR) ∧
        ∀ (between : List Call) (ctx : Ctx) (data read : Buffer) (bits : Int) (d : Device)
          (w₂ : World),
          (performAll w₁ between).2.scanPath.devices[t.index]? = some d →
          ((d.captured .dr).length : Int) = bits →
          tapScanDR ctx t data bits (performAll w₁ between).2 = (.ok read, w₂) →
          ((∀ r ∈ (performAll w₁ between).1, ¬r.ScansIR t.chain) →
            d.instruction = instruction.bits d.spec.captureIR.length) ∧
          read = .pack (d.captured .dr) ∧
          ∃ d', w₂.scanPath.devices[t.index]? = some d' ∧
            d'.written d.instruction = data.bits bits.toNat := by
  intro w ctx t c instruction captured w₁ lent chain fits scansIR
  have start := (fresh_history env clock scanPath completionTimeout layouts).sound
  obtain ⟨sound, settled⟩ :=
    performAll_settled start (fresh_settled env clock scanPath completionTimeout layouts) calls
  have honest₀ : w.env.Honest := (performAll_fixed start calls).1.symm ▸ honest
  obtain ⟨idle, selected, captures⟩ := perform_scanIR sound lent chain fits scansIR
  -- The scan is a call of the run, so what holds of every call holds of it.
  obtain ⟨tap, position⟩ := List.mem_iff_getElem?.mp lent
  have call : ((Call.scanIR ctx tap instruction).perform w).2 = w₁ := by
    simp only [Call.perform, position, scansIR]
  have effect := perform_effect (.scanIR ctx tap instruction) sound.tracked
  have settled₁ := perform_settled (.scanIR ctx tap instruction) sound settled
  rw [call] at effect settled₁
  have sound₁ := effect.sound sound
  have lent₁ := effect.lent lent
  obtain ⟨c₁, chain₁, -, inside⟩ := sound₁.lent t lent₁
  obtain ⟨c₀, chain₀, layout, -⟩ := effect.layouts t.chain c₁ chain₁
  obtain rfl : c = c₀ := Option.some.inj (chain.symm.trans chain₀)
  have fits₁ : w₁.scanPath.Fits c₁.layout := by
    rw [ScanPath.Fits, effect.specs, layout]
    exact fits
  have count : w₁.scanPath.devices.length = c₁.layout.length := by
    simpa [ScanPath.specs] using congrArg List.length fits₁
  obtain ⟨d₁, device⟩ : ∃ d₁, w₁.scanPath.devices[t.index]? = some d₁ :=
    ⟨_, List.getElem?_eq_getElem (count ▸ inside)⟩
  refine ⟨selected, ⟨d₁, device, captures honest₀ d₁ device⟩, ?_⟩
  intro between ctx₂ data read bits d w₂ found long scansDR
  obtain ⟨sound₂, settled₂⟩ := performAll_settled sound₁ settled₁ between
  obtain ⟨env₂, specs₂, layouts₂⟩ := performAll_fixed sound₁ between
  obtain ⟨c₂, chain₂, -, -⟩ := sound₂.lent t (performAll_lent sound₁ lent₁ between)
  obtain ⟨c₁', chain₁', layout₂⟩ := layouts₂ t.chain c₂ chain₂
  obtain rfl : c₁ = c₁' := Option.some.inj (chain₁.symm.trans chain₁')
  have fits₂ : (performAll w₁ between).2.scanPath.Fits c₂.layout := by
    rw [ScanPath.Fits, specs₂, layout₂]
    exact fits₁
  obtain ⟨valid, written, reads⟩ :=
    perform_scanDR sound₂ settled₂ chain₂ fits₂ found long scansDR
  refine ⟨fun silent => ?_, reads (env₂ ▸ effect.env ▸ honest₀), written⟩
  have same := (performAll_undisturbed sound₁ lent₁ between valid silent).instructions (.inl idle)
  have held : d.instruction = d₁.instruction := by
    have entry := congrArg (·[t.index]?) same
    simpa [ScanPath.instructions, found, device] using entry
  have spec : d.spec = d₁.spec := by
    have entry := congrArg (·[t.index]?) specs₂
    simpa [ScanPath.specs, found, device] using entry
  rw [held, spec]
  exact selected.chosen d₁ device

theorem Pair.Opened.selects {w₁ : World} {captured : Buffer}
    (opened : Pair.Opened w c) (scans : tapScanIR Pair.ctx ⟨0, 1, c.generation⟩ [5] w =
      (.ok captured, w₁)) :
    w₁.conn.state = .idle ∧ w₁.scanPath.specs = Pair.start.scanPath.specs := by
  have total : c.irBits = c.layout.irBits := by
    rw [opened.irBits, opened.layout]
    rfl
  obtain ⟨idle, specs, -⟩ := tapScanIR_selected opened.working.tracked opened.chain total
    (show 1 < c.layout.length by rw [opened.layout]; decide) (opened.layout ▸ opened.fits) scans
  exact ⟨idle, specs.trans opened.specs⟩

/-- After its instruction scan the lent TAP reads and writes four bits. -/
theorem Pair.Opened.scansDR {w₁ : World} {captured : Buffer}
    (opened : Pair.Opened w c) (scans : tapScanIR Pair.ctx ⟨0, 1, c.generation⟩ [5] w =
      (.ok captured, w₁)) (works : Working Pair.env w₁) (time : w₁.clock ≤ 600000) :
    ∃ read w₂, tapScanDR Pair.ctx ⟨0, 1, c.generation⟩ [9] (4 : Nat) w₁ = (.ok read, w₂) := by
  have effect := tapScanIR_effect Pair.ctx ⟨0, 1, c.generation⟩ [5] opened.working.tracked
  rw [scans, opened.passes.2] at effect
  obtain ⟨change, worked, changes⟩ := effect.worked rfl
  obtain ⟨generation, -, serial, -, kept⟩ := changes c
  obtain ⟨valid, selected⟩ := kept rfl
  obtain ⟨c', chain', isValid, -, -⟩ := valid_iff.mp opened.valid
  obtain rfl : c = c' := Option.some.inj (opened.chain.symm.trans chain')
  have chain : w₁.chains[0]? = some (change c) := by
    rw [worked.chains, List.getElem?_modify, opened.chain]
    rfl
  have layout : (change c).layout = Pair.layout := (worked.allowed.layout c).trans opened.layout
  have stillValid : w₁.valid ⟨0, 1, c.generation⟩ = true :=
    valid_iff.mpr ⟨_, chain, valid.trans isValid, serial, generation⟩
  have passed : scanDRRefusal w₁ ⟨0, 1, c.generation⟩ [9] (4 : Nat) = .ok (change c) := by
    unfold scanDRRefusal
    rw [if_neg (by simp [stillValid]), chain]
    simp only [selected, layout]
    rw [if_neg (by simp), if_neg (by decide)]
  exact tapScanDR_accepts Pair.lasts works (by rw [(opened.selects scans).1]; decide) passed
    (by rw [layout]; decide)
    (show w₁.clock + 2 ^ 22 ≤ Pair.ctx.deadline by
      have deadline : Pair.ctx.deadline = 10 ^ 8 := rfl
      omega)

/-- The second of two devices is selected, read and written past the first. -/
theorem tap_isolated_pair :
    ∃ t captured read w₁ w₂, t ∈ (performAll Pair.start Pair.opening).2.taps ∧
      tapScanIR Pair.ctx t [5] (performAll Pair.start Pair.opening).2 = (.ok captured, w₁) ∧
      Selected w₁.scanPath t.index [5] ∧
      tapScanDR Pair.ctx t [9] (4 : Nat) w₁ = (.ok read, w₂) ∧
      read = .pack [true, true, false, true] ∧
      ∃ d, w₂.scanPath.devices[t.index]? = some d ∧
        d.written [true, false, true] = [true, false, false, true] := by
  obtain ⟨c, opened⟩ := Pair.opened
  obtain ⟨captured, w₁, scans, works, time, -⟩ := opened.scansIR
  have lent := List.mem_of_getElem? opened.passes.1
  have fits := opened.layout ▸ opened.fits
  have chain := opened.chain
  obtain ⟨read, w₂, reads⟩ := opened.scansDR scans works time
  refine ⟨⟨0, 1, c.generation⟩, captured, read, w₁, w₂, lent, scans, ?_⟩
  have specs := (opened.selects scans).2
  unfold Pair.start at lent chain fits scans
  obtain ⟨selected, ⟨d, device, -⟩, transfers⟩ :=
    tap_isolated Pair.env 0 Pair.devices 1 [Pair.layout]
    Pair.opening (fun _ _ => rfl) Pair.ctx ⟨0, 1, c.generation⟩ c
      [5] captured w₁ lent chain fits scans
  have spec : d.spec = (Pair.device 3).spec := by
    have entry := congrArg (·[1]?) specs
    rw [ScanPath.specs, List.getElem?_map, device] at entry
    exact Option.some.inj entry
  have instruction : d.instruction = [true, false, true] := by
    rw [selected.chosen d device, spec]
    decide
  have register : d.captured .dr = [true, true, false, true] := by
    rw [Device.captured, Device.bypassed, instruction, spec]
    rfl
  obtain ⟨-, same, d', after, written⟩ := transfers [] Pair.ctx [9] read (4 : Nat) d w₂ device
    (by rw [register]; rfl) reads
  refine ⟨selected, reads, same.trans (by rw [register]), d', after, ?_⟩
  rw [instruction] at written
  rw [written]
  decide

end Ostiole.Jtag
