/-
  The commands of a layout, one after the other.

  The outcome of a command at index `i` is that of the command alone: drawn at the origin that
  the moves before it leave (`Origin.along`) and with the commands behind it. What earlier
  commands drew, or were skipped for, does not enter (`outcomes_getElem?`), and the whole layout
  fails exactly if one of its commands does (`exists_outcomes_ok_iff`). What one command can do is
  said once, by `outcome_cases` and `outcome_eq_error_iff`.
-/
import Mathlib.Data.List.Basic
import ThermalLabel.Conversion
import ThermalLabel.Proofs.Fallible

namespace ThermalLabel

/-! ## Opcodes -/

/-- The only opcode that asks for an instruction. -/
def Instruction.opcode? : Instruction → Option Text
  | moveOrigin => some ['F', 'O']
  | fieldData => some Command.fieldDataOpcode
  | qrCode => some ['B', 'Q']
  | barcode symbology => some ['B', symbology]
  | box => some ['G', 'B']
  | circle => some ['G', 'C']
  | line => some ['G', 'D']
  | recallImage => some ['X', 'G']
  | other => none

namespace Command

theorem opcode_of_instruction {c : Command} {asked : Instruction} (h : c.instruction = asked)
    {opcode : Text} (hopcode : asked.opcode? = some opcode) : c.opcode = opcode := by
  subst h
  unfold instruction at hopcode
  repeat' split at hopcode
  all_goals cases hopcode
  all_goals try assumption
  next symbology hbarcode _ hsymbology =>
    rw [hbarcode, hsymbology]

theorem instruction_eq_moveOrigin_iff {c : Command} :
    c.instruction = .moveOrigin ↔ c.opcode = ['F', 'O'] := by
  constructor
  · intro h
    exact opcode_of_instruction h rfl
  · intro h
    rw [instruction, if_pos h]

theorem instruction_eq_fieldData_iff {c : Command} :
    c.instruction = .fieldData ↔ c.opcode = fieldDataOpcode := by
  constructor
  · intro h
    exact opcode_of_instruction h rfl
  · intro h
    rw [instruction, if_neg (by rw [h]; decide), if_pos h]

/-- The opcode asks for a record: field data, a figure, a recall or a barcode. -/
def Draws (c : Command) : Prop :=
  c.opcode ∈ [['F', 'D'], ['G', 'B'], ['G', 'C'], ['G', 'D'], ['X', 'G']] ∨
    c.opcode.head? = some 'B' ∧ c.opcode ≠ ['B', 'Y']

/-- An opcode of two characters, as every command of a text has it. -/
theorem draws_iff {c : Command} (h : c.opcode.length = 2) :
    c.Draws ↔ c.instruction ≠ .moveOrigin ∧ c.instruction ≠ .other := by
  obtain ⟨a, b, hab⟩ := List.length_eq_two.mp h
  unfold Draws instruction
  rw [hab]
  unfold fieldDataOpcode
  repeat' split
  all_goals simp_all

end Command

/-! ## Origins -/

namespace Origin

/-- The origin behind a command. A move that cannot be read leaves it where it is. -/
def follow (origin : Origin) (c : Command) : Origin :=
  if c.opcode = ['F', 'O'] then (origin.move c).toOption.getD origin else origin

/-- The origin behind several commands. -/
def along (origin : Origin) (commands : List Command) : Origin := commands.foldl follow origin

theorem along_cons (origin : Origin) (c : Command) (commands : List Command) :
    origin.along (c :: commands) = (origin.follow c).along commands := rfl

theorem move_eq_error {origin : Origin} {c : Command} {reason : Fault}
    (h : origin.move c = .error reason) : reason = .notOrigin c.params := by
  rw [move] at h
  split at h
  · cases h
  · cases h
    rfl

end Origin

/-! ## One command -/

namespace Command

variable {stored : List Text} {origin : Origin} {later : List Command} {c : Command}

/-- A whole-number parameter, for the figure of the command. -/
def number (c : Command) (i : Nat) : Except Cause (Option Int) := (c.integer? i).mapError .fault

theorem number_eq_ok_iff {i : Nat} {n : Option Int} : c.number i = .ok n ↔ c.integer? i = .ok n :=
  mapError_eq_ok_iff

/-! ### The figures of numbers -/

section Integers

variable {α : Type}

/-- Two numbers, read one after the other. -/
theorem integers_two (first second : Option Int) (f : List (Option Int) → Except Cause α) :
    ((c.integers [first, second]).mapError .fault >>= f) = (do
      let a ← c.number 0
      let b ← c.number 1
      f [a.orElse fun _ => first, b.orElse fun _ => second]) := by
  unfold integers number
  simp only [List.zipIdx_cons, List.zipIdx_nil, List.mapM_cons, List.mapM_nil]
  cases c.integer? 0 with
  | error reason => rfl
  | ok a => cases c.integer? 1 <;> rfl

/-- Three numbers, read one after the other. -/
theorem integers_three (first second third : Option Int)
    (f : List (Option Int) → Except Cause α) :
    ((c.integers [first, second, third]).mapError .fault >>= f) = (do
      let a ← c.number 0
      let b ← c.number 1
      let d ← c.number 2
      f [a.orElse fun _ => first, b.orElse fun _ => second, d.orElse fun _ => third]) := by
  unfold integers number
  simp only [List.zipIdx_cons, List.zipIdx_nil, List.mapM_cons, List.mapM_nil]
  cases c.integer? 0 with
  | error reason => rfl
  | ok a =>
    cases c.integer? 1 with
    | error reason => rfl
    | ok b => cases c.integer? 2 <;> rfl

end Integers

theorem figure_of_box (h : c.instruction = .box) :
    c.figure stored origin later = (do
      let width ← c.number 0
      let height ← c.number 1
      let thickness ← c.number 2
      return some (.box (.number origin.x) (.number origin.y)
        (.ofInt (width.getD (thickness.getD 1))) (.ofInt (height.getD (thickness.getD 1)))
        (.ofInt (thickness.getD 1)))) := by
  rw [figure, h]
  refine (integers_three none none (some Figure.defaultThickness) _).trans ?_
  refine bind_congr fun width => bind_congr fun height => bind_congr fun thickness => ?_
  cases width <;> cases height <;> cases thickness <;> rfl

theorem figure_of_circle (h : c.instruction = .circle) :
    c.figure stored origin later = (do
      let diameter ← c.number 0
      let thickness ← c.number 1
      return some (.circle (.number origin.x) (.number origin.y) (.ofInt (diameter.getD 3))
        (.ofInt (thickness.getD 1)))) := by
  rw [figure, h]
  refine (integers_two (some 3) (some Figure.defaultThickness) _).trans ?_
  refine bind_congr fun diameter => bind_congr fun thickness => ?_
  cases diameter <;> cases thickness <;> rfl

theorem figure_of_line (h : c.instruction = .line) :
    c.figure stored origin later = (do
      let width ← c.number 0
      let height ← c.number 1
      let thickness ← c.number 2
      return some (.line (.number origin.x) (.number origin.y) (.ofInt (width.getD 3))
        (.ofInt (height.getD 3)) (.ofInt (thickness.getD 1)))) := by
  rw [figure, h]
  refine (integers_three (some 3) (some 3) (some Figure.defaultThickness) _).trans ?_
  refine bind_congr fun width => bind_congr fun height => bind_congr fun thickness => ?_
  cases width <;> cases height <;> cases thickness <;> rfl

theorem figure_eq_none_iff :
    c.figure stored origin later = .ok none ↔
      c.instruction = .moveOrigin ∨ c.instruction = .other := by
  cases hasked : c.instruction with
  | box => simp [figure_of_box hasked, bind_eq_ok_iff, pure, Except.pure]
  | circle => simp [figure_of_circle hasked, bind_eq_ok_iff, pure, Except.pure]
  | line => simp [figure_of_line hasked, bind_eq_ok_iff, pure, Except.pure]
  | recallImage =>
    simp only [figure, hasked]
    split <;> simp
  | _ => simp [figure, hasked, bind_eq_ok_iff, pure, Except.pure]

theorem barcodeData_eq_ok_iff {data : Text} :
    barcodeData later = .ok data ↔ fieldData? later = some data := by
  unfold barcodeData
  cases fieldData? later with
  | none => simp
  | some found => simp

/-- What a command draws, with all that it has read for it. -/
inductive Draw (stored : List Text) (origin : Origin) (later : List Command) (c : Command) :
    Figure → Prop
  | text (asked : c.instruction = .fieldData) :
    c.Draw stored origin later (.text (.number origin.x) (.number origin.y) c.params)
  | qrCode {data : Text} (asked : c.instruction = .qrCode) (found : fieldData? later = some data) :
    c.Draw stored origin later
      (.barcode (.number origin.x) (.number origin.y) (qrData data) Figure.qrCodeLetter)
  | barcode {symbology : Char} {data : Text} (asked : c.instruction = .barcode symbology)
    (found : fieldData? later = some data) :
    c.Draw stored origin later (.barcode (.number origin.x) (.number origin.y) data [symbology])
  | box {width height thickness : Option Int} (asked : c.instruction = .box)
    (first : c.integer? 0 = .ok width) (second : c.integer? 1 = .ok height)
    (third : c.integer? 2 = .ok thickness) :
    c.Draw stored origin later (.box (.number origin.x) (.number origin.y)
      (.ofInt (width.getD (thickness.getD 1))) (.ofInt (height.getD (thickness.getD 1)))
      (.ofInt (thickness.getD 1)))
  | circle {diameter thickness : Option Int} (asked : c.instruction = .circle)
    (first : c.integer? 0 = .ok diameter) (second : c.integer? 1 = .ok thickness) :
    c.Draw stored origin later (.circle (.number origin.x) (.number origin.y)
      (.ofInt (diameter.getD 3)) (.ofInt (thickness.getD 1)))
  | line {width height thickness : Option Int} (asked : c.instruction = .line)
    (first : c.integer? 0 = .ok width) (second : c.integer? 1 = .ok height)
    (third : c.integer? 2 = .ok thickness) :
    c.Draw stored origin later (.line (.number origin.x) (.number origin.y)
      (.ofInt (width.getD 3)) (.ofInt (height.getD 3)) (.ofInt (thickness.getD 1)))
  | recallImage (asked : c.instruction = .recallImage)
    (found : Reference.graphicName c.params ∈ stored) :
    c.Draw stored origin later
      (.recallImage (.number origin.x) (.number origin.y) (Reference.graphicName c.params))

theorem figure_eq_some_iff {drawn : Figure} :
    c.figure stored origin later = .ok (some drawn) ↔ c.Draw stored origin later drawn := by
  constructor
  · intro h
    cases hasked : c.instruction with
    | moveOrigin | other =>
      rw [figure, hasked] at h
      cases h
    | fieldData =>
      rw [figure, hasked] at h
      cases h
      exact .text hasked
    | qrCode =>
      rw [figure, hasked] at h
      obtain ⟨data, hdata, h⟩ := bind_eq_ok_iff.mp h
      cases h
      exact .qrCode hasked (barcodeData_eq_ok_iff.mp hdata)
    | barcode symbology =>
      rw [figure, hasked] at h
      obtain ⟨data, hdata, h⟩ := bind_eq_ok_iff.mp h
      cases h
      exact .barcode hasked (barcodeData_eq_ok_iff.mp hdata)
    | box =>
      rw [figure_of_box hasked] at h
      obtain ⟨width, hwidth, h⟩ := bind_eq_ok_iff.mp h
      obtain ⟨height, hheight, h⟩ := bind_eq_ok_iff.mp h
      obtain ⟨thickness, hthickness, h⟩ := bind_eq_ok_iff.mp h
      cases h
      exact .box hasked (number_eq_ok_iff.mp hwidth) (number_eq_ok_iff.mp hheight)
        (number_eq_ok_iff.mp hthickness)
    | circle =>
      rw [figure_of_circle hasked] at h
      obtain ⟨diameter, hdiameter, h⟩ := bind_eq_ok_iff.mp h
      obtain ⟨thickness, hthickness, h⟩ := bind_eq_ok_iff.mp h
      cases h
      exact .circle hasked (number_eq_ok_iff.mp hdiameter) (number_eq_ok_iff.mp hthickness)
    | line =>
      rw [figure_of_line hasked] at h
      obtain ⟨width, hwidth, h⟩ := bind_eq_ok_iff.mp h
      obtain ⟨height, hheight, h⟩ := bind_eq_ok_iff.mp h
      obtain ⟨thickness, hthickness, h⟩ := bind_eq_ok_iff.mp h
      cases h
      exact .line hasked (number_eq_ok_iff.mp hwidth) (number_eq_ok_iff.mp hheight)
        (number_eq_ok_iff.mp hthickness)
    | recallImage =>
      rw [figure, hasked] at h
      dsimp only at h
      split at h
      · next hfound =>
        cases h
        exact .recallImage hasked hfound
      · cases h
  · intro h
    cases h with
    | text asked => rw [figure, asked]
    | qrCode asked found | barcode asked found =>
      rw [figure, asked]
      dsimp only
      rw [barcodeData_eq_ok_iff.mpr found]
      rfl
    | box asked first second third =>
      rw [figure_of_box asked, number_eq_ok_iff.mpr first, number_eq_ok_iff.mpr second,
        number_eq_ok_iff.mpr third]
      rfl
    | line asked first second third =>
      rw [figure_of_line asked, number_eq_ok_iff.mpr first, number_eq_ok_iff.mpr second,
        number_eq_ok_iff.mpr third]
      rfl
    | circle asked first second =>
      rw [figure_of_circle asked, number_eq_ok_iff.mpr first, number_eq_ok_iff.mpr second]
      rfl
    | recallImage asked found =>
      rw [figure, asked]
      exact if_pos found

theorem outcome_of_moveOrigin (h : c.instruction = .moveOrigin) :
    c.outcome stored origin later =
      .ok (match origin.move c with
        | .ok moved => .moved moved
        | .error reason => .skipped (.fault reason)) := by
  rw [outcome, if_pos h]
  cases hm : origin.move c with
  | ok moved => rfl
  | error reason =>
    rw [Origin.move_eq_error hm]
    rfl

theorem outcome_of_figure (h : c.instruction ≠ .moveOrigin) :
    c.outcome stored origin later =
      match c.figure stored origin later with
      | .ok none => .ok .ignored
      | .ok (some figure) =>
        match figure.record with
        | .ok record => .ok (.drawn record)
        | .error reason => (Cause.ofFault reason).map .skipped
      | .error cause => .ok (.skipped cause) := by
  unfold outcome
  exact if_neg h

theorem ofFault_map_skipped {reason : Fault} :
    (Cause.ofFault reason).map CommandOutcome.skipped =
      if reason.diagnosticKind?.isSome then .ok (.skipped (.fault reason))
      else .error reason := by
  rw [Cause.ofFault]
  split <;> rfl

/-- All that a command can do if it moves or draws nothing, and if it draws. -/
theorem outcome_cases {result : CommandOutcome}
    (h : c.outcome stored origin later = .ok result) :
    (c.instruction = .moveOrigin ∧
      ((∃ moved, origin.move c = .ok moved ∧ result = .moved moved) ∨
        ∃ reason, origin.move c = .error reason ∧ result = .skipped (.fault reason))) ∨
    (c.instruction = .other ∧ result = .ignored) ∨
    ((c.instruction ≠ .moveOrigin ∧ c.instruction ≠ .other) ∧
      ((∃ figure record, c.figure stored origin later = .ok (some figure) ∧
          figure.record = .ok record ∧ result = .drawn record) ∨
        (∃ figure reason, c.figure stored origin later = .ok (some figure) ∧
          figure.record = .error reason ∧ result = .skipped (.fault reason)) ∨
        ∃ cause, c.figure stored origin later = .error cause ∧ result = .skipped cause)) := by
  by_cases hmove : c.instruction = .moveOrigin
  · rw [outcome_of_moveOrigin hmove] at h
    refine .inl ⟨hmove, ?_⟩
    cases hm : origin.move c <;> rw [hm] at h <;> cases h
    · exact .inr ⟨_, rfl, rfl⟩
    · exact .inl ⟨_, rfl, rfl⟩
  refine .inr ?_
  by_cases hother : c.instruction = .other
  · rw [outcome_of_figure hmove, figure_eq_none_iff.mpr (.inr hother)] at h
    cases h
    exact .inl ⟨hother, rfl⟩
  refine .inr ⟨⟨hmove, hother⟩, ?_⟩
  cases hf : c.figure stored origin later with
  | error cause =>
    rw [outcome_of_figure hmove, hf] at h
    cases h
    exact .inr (.inr ⟨cause, rfl, rfl⟩)
  | ok drawing =>
    cases drawing with
    | none => exact absurd (figure_eq_none_iff.mp hf) (by simp [hmove, hother])
    | some figure =>
      rw [outcome_of_figure hmove, hf] at h
      dsimp only at h
      cases hr : figure.record with
      | ok record =>
        rw [hr] at h
        cases h
        exact .inl ⟨figure, record, rfl, hr, rfl⟩
      | error reason =>
        rw [hr] at h
        dsimp only at h
        rw [ofFault_map_skipped] at h
        split at h <;> cases h
        exact .inr (.inl ⟨figure, reason, rfl, hr, rfl⟩)

/-- A command ends the conversion exactly if its figure has a fault that makes no diagnostic. -/
theorem outcome_eq_error_iff {reason : Fault} :
    c.outcome stored origin later = .error reason ↔
      ∃ figure, c.figure stored origin later = .ok (some figure) ∧
        figure.record = .error reason ∧ reason.diagnosticKind? = none := by
  by_cases hmove : c.instruction = .moveOrigin
  · rw [outcome_of_moveOrigin hmove, figure_eq_none_iff.mpr (.inl hmove)]
    simp
  rw [outcome_of_figure hmove]
  cases hf : c.figure stored origin later with
  | error cause => simp
  | ok drawing =>
    cases drawing with
    | none => simp
    | some figure =>
      simp only [Except.ok.injEq, Option.some.injEq, exists_eq_left']
      cases hr : figure.record with
      | ok record => simp
      | error found =>
        simp only [ofFault_map_skipped, Except.error.injEq]
        cases hkind : found.diagnosticKind? with
        | none =>
          simp only [Option.isSome_none, Bool.false_eq_true, if_false, Except.error.injEq]
          exact ⟨fun h => ⟨h, h ▸ hkind⟩, And.left⟩
        | some kind =>
          simp only [Option.isSome_some, if_true, reduceCtorEq, false_iff]
          rintro ⟨rfl, hnone⟩
          rw [hnone] at hkind
          cases hkind

theorem originAfter_eq_follow {result : CommandOutcome}
    (h : c.outcome stored origin later = .ok result) :
    result.originAfter origin = origin.follow c := by
  rw [Origin.follow]
  rcases outcome_cases h with ⟨hmove, hm⟩ | ⟨hother, rfl⟩ | ⟨⟨hmove, -⟩, hd⟩
  · rw [if_pos (instruction_eq_moveOrigin_iff.mp hmove)]
    rcases hm with ⟨moved, hm, rfl⟩ | ⟨reason, hm, rfl⟩ <;> rw [hm] <;> rfl
  · rw [if_neg (fun ho => by simp [instruction_eq_moveOrigin_iff.mpr ho] at hother)]
    rfl
  · rw [if_neg (fun ho => hmove (instruction_eq_moveOrigin_iff.mpr ho))]
    rcases hd with ⟨_, _, -, -, rfl⟩ | ⟨_, _, -, -, rfl⟩ | ⟨_, -, rfl⟩ <;> rfl

end Command

/-! ## All commands -/

namespace Command

variable {stored : List Text} {origin : Origin} {commands : List Command}

theorem outcomes_cons_eq_ok_iff {c : Command} {results : List (Command × CommandOutcome)} :
    outcomes stored origin (c :: commands) = .ok results ↔
      ∃ result, c.outcome stored origin commands = .ok result ∧
        ∃ others, outcomes stored (origin.follow c) commands = .ok others ∧
          results = (c, result) :: others := by
  rw [outcomes]
  simp only [bind_eq_ok_iff, pure, Except.pure, Except.ok.injEq]
  constructor
  · rintro ⟨result, hresult, others, hothers, rfl⟩
    rw [originAfter_eq_follow hresult] at hothers
    exact ⟨result, hresult, others, hothers, rfl⟩
  · rintro ⟨result, hresult, others, hothers, rfl⟩
    rw [← originAfter_eq_follow hresult] at hothers
    exact ⟨result, hresult, others, hothers, rfl⟩

/-- The outcome at an index is that of the command there, alone. -/
theorem outcomes_getElem? {results : List (Command × CommandOutcome)}
    (h : outcomes stored origin commands = .ok results) :
    results.length = commands.length ∧
      ∀ (i : Nat) c, commands[i]? = some c →
        ∃ result, results[i]? = some (c, result) ∧
          c.outcome stored (origin.along (commands.take i)) (commands.drop (i + 1)) =
            .ok result := by
  induction commands generalizing origin results with
  | nil =>
    cases h
    simp
  | cons c commands ih =>
    obtain ⟨result, hresult, others, hothers, rfl⟩ := outcomes_cons_eq_ok_iff.mp h
    obtain ⟨hlength, hitems⟩ := ih hothers
    refine ⟨by rw [List.length_cons, List.length_cons, hlength], fun i d hd => ?_⟩
    cases i with
    | zero =>
      rw [List.getElem?_cons_zero, Option.some.injEq] at hd
      subst hd
      exact ⟨result, rfl, hresult⟩
    | succ i =>
      rw [List.getElem?_cons_succ] at hd ⊢
      exact hitems i d hd

theorem exists_outcomes_ok_iff :
    (∃ results, outcomes stored origin commands = .ok results) ↔
      ∀ (i : Nat) c, commands[i]? = some c →
        ∃ result, c.outcome stored (origin.along (commands.take i)) (commands.drop (i + 1)) =
          .ok result := by
  induction commands generalizing origin with
  | nil => simp [outcomes]
  | cons c commands ih =>
    constructor
    · rintro ⟨results, h⟩ i d hd
      obtain ⟨result, -, hresult⟩ := (outcomes_getElem? h).2 i d hd
      exact ⟨result, hresult⟩
    · intro h
      obtain ⟨result, hresult⟩ := h 0 c rfl
      obtain ⟨others, hothers⟩ := ih.mpr fun i d hd => h (i + 1) d hd
      exact ⟨_, outcomes_cons_eq_ok_iff.mpr ⟨result, hresult, others, hothers, rfl⟩⟩

/-- A fault that ends the layout is the fault of one of its commands. -/
theorem outcomes_eq_error {reason : Fault} (h : outcomes stored origin commands = .error reason) :
    ∃ (i : Nat) (c : Command), commands[i]? = some c ∧
      c.outcome stored (origin.along (commands.take i)) (commands.drop (i + 1)) =
        .error reason := by
  induction commands generalizing origin with
  | nil => cases h
  | cons c commands ih =>
    rw [outcomes] at h
    rcases bind_eq_error_iff.mp h with h | ⟨result, hresult, h⟩
    · exact ⟨0, c, rfl, h⟩
    · rcases bind_eq_error_iff.mp h with h | ⟨others, -, h⟩
      · rw [originAfter_eq_follow hresult] at h
        obtain ⟨i, d, hd, hi⟩ := ih h
        exact ⟨i + 1, d, hd, hi⟩
      · cases h

end Command

end ThermalLabel
