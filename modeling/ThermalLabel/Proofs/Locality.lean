/-
  What a command adds to the layout depends on little.

  The outcome of a command is decided by its opcode and parameters, the origin that the moves
  before it leave, for a barcode the next field data behind it, and for a recall whether its
  graphic is stored (`Command.outcome_eq_outcomeOf`). So the layout is a row of pieces, one for
  each command, and another command in the place of one that neither moves nor gives field data
  changes no other piece (`layout_by_command`).
-/
import Mathlib.Data.Finset.Basic
import ThermalLabel.Proofs.Accounting
import ThermalLabel.Proofs.Command.Exchange

namespace ThermalLabel

/-! ## What an outcome depends on -/

namespace Command

variable {stored : List Text} {origin : Origin} {later : List Command} {c : Command}

theorem figure_congr {stored' : List Text} {later' : List Command}
    (hstored : Reference.graphicName c.params ∈ stored ↔ Reference.graphicName c.params ∈ stored')
    (hlater : fieldData? later = fieldData? later') :
    c.figure stored origin later = c.figure stored' origin later' := by
  unfold figure barcodeData
  rw [hlater]
  simp only [hstored]

theorem outcome_congr {stored' : List Text} {later' : List Command}
    (h : c.figure stored origin later = c.figure stored' origin later') :
    c.outcome stored origin later = c.outcome stored' origin later' := by
  unfold outcome
  rw [h]

theorem outcome_bare : c.bare.outcome stored origin later = c.outcome stored origin later := rfl

/-- Field data is drawn where the origin can be written, whatever stands around it. -/
theorem outcome_fieldData (hopcode : c.opcode = fieldDataOpcode) {row column : Position}
    (hrow : Position.read (.number origin.y) = .ok row)
    (hcolumn : Position.read (.number origin.x) = .ok column) :
    c.outcome stored origin later = .ok (.drawn (.text row column c.params)) := by
  have hasked := instruction_eq_fieldData_iff.mpr hopcode
  have hfigure : c.figure stored origin later =
      .ok (some (.text (.number origin.x) (.number origin.y) c.params)) := by
    unfold figure
    rw [hasked]
  have hrecord : (Figure.text (.number origin.x) (.number origin.y) c.params).record =
      .ok (.text row column c.params) := by
    rw [Figure.record, hrow, hcolumn]
    rfl
  have hmove : c.instruction ≠ .moveOrigin := by
    rw [hasked]
    exact Instruction.noConfusion
  rw [outcome_of_figure hmove, hfigure]
  dsimp only
  rw [hrecord]

/-- The outcome of a command from all that it depends on. -/
def outcomeOf (stored : Finset Text) (origin : Origin) (data : Option Text) (opcode params : Text) :
    Except Fault CommandOutcome :=
  let name := Reference.graphicName params
  outcome (if name ∈ stored then [name] else []) origin
    (data.toList.map fun text => ⟨fieldDataOpcode, text, 0⟩) ⟨opcode, params, 0⟩

theorem fieldData?_toList (data : Option Text) :
    fieldData? (data.toList.map fun text => ⟨fieldDataOpcode, text, 0⟩) = data := by
  cases data with
  | none => rfl
  | some text => rfl

theorem outcome_eq_outcomeOf :
    c.outcome stored origin later =
      outcomeOf stored.toFinset origin (fieldData? later) c.opcode c.params := by
  rw [← outcome_bare]
  unfold outcomeOf
  apply outcome_congr
  apply figure_congr
  · split
    · next h => simpa [bare] using h
    · next h => simpa [bare] using h
  · rw [fieldData?_toList]

theorem ne_barcode_of_opcode (h : c.opcode.head? ≠ some 'B' ∨ c.opcode = ['B', 'Y']) :
    c.instruction ≠ .qrCode ∧ ∀ symbology, c.instruction ≠ .barcode symbology := by
  rcases h with h | h
  · refine ⟨fun hqr => ?_, fun symbology hbarcode => ?_⟩
    · rw [opcode_of_instruction hqr rfl] at h
      exact h rfl
    · rw [opcode_of_instruction hbarcode rfl] at h
      exact h rfl
  · have hother : c.instruction = .other := by simp [instruction, h, fieldDataOpcode]
    rw [hother]
    exact ⟨Instruction.noConfusion, fun _ => Instruction.noConfusion⟩

theorem figure_eq_of_stored {stored' : List Text} (h : c.instruction ≠ .recallImage) :
    c.figure stored origin later = c.figure stored' origin later := by
  unfold figure
  cases hasked : c.instruction with
  | recallImage => exact absurd hasked h
  | _ => rfl

theorem figure_eq_of_later {later' : List Command} (hqr : c.instruction ≠ .qrCode)
    (hbarcode : ∀ symbology, c.instruction ≠ .barcode symbology) :
    c.figure stored origin later = c.figure stored origin later' := by
  unfold figure
  cases hasked : c.instruction with
  | qrCode => exact absurd hasked hqr
  | barcode symbology => exact absurd hasked (hbarcode symbology)
  | _ => rfl

/-- Only a recall asks which graphics are stored. -/
theorem outcomeOf_congr_stored {stored stored' : Finset Text} {data : Option Text}
    {opcode params : Text} (h : opcode ≠ ['X', 'G']) :
    outcomeOf stored origin data opcode params = outcomeOf stored' origin data opcode params := by
  unfold outcomeOf
  exact outcome_congr (figure_eq_of_stored fun hrecall => h (opcode_of_instruction hrecall rfl))

/-- Only a barcode asks for field data. -/
theorem outcomeOf_congr_data {stored : Finset Text} {data data' : Option Text}
    {opcode params : Text} (h : opcode.head? ≠ some 'B' ∨ opcode = ['B', 'Y']) :
    outcomeOf stored origin data opcode params = outcomeOf stored origin data' opcode params := by
  obtain ⟨hqr, hbarcode⟩ := ne_barcode_of_opcode (c := ⟨opcode, params, 0⟩) h
  unfold outcomeOf
  exact outcome_congr (figure_eq_of_later hqr hbarcode)

end Command

/-! ## Lists of commands that agree but for one -/

theorem Origin.along_map_bare (origin : Origin) (list : List Command) :
    origin.along (list.map Command.bare) = origin.along list := by
  unfold along
  rw [List.foldl_map]
  rfl

/-- Commands that do not move the origin can be exchanged. -/
theorem Origin.along_set {list : List Command} {i : Nat} {new : Command}
    (hold : ∀ old ∈ list[i]?, old.opcode ≠ ['F', 'O']) (hnew : new.opcode ≠ ['F', 'O'])
    (origin : Origin) : origin.along (list.set i new) = origin.along list := by
  induction list generalizing i origin with
  | nil => rfl
  | cons c list ih =>
    cases i with
    | zero =>
      have hc := hold c rfl
      rw [List.set_cons_zero, along_cons, along_cons, follow, follow, if_neg hnew, if_neg hc]
    | succ i =>
      rw [List.set_cons_succ, along_cons, along_cons, ih hold]

namespace Command

theorem fieldData?_map_bare (list : List Command) :
    fieldData? (list.map bare) = fieldData? list := by
  unfold fieldData?
  rw [List.find?_map, Option.map_map]
  rfl

theorem fieldData?_cons (c : Command) (list : List Command) :
    fieldData? (c :: list) =
      if c.opcode = fieldDataOpcode then some c.params else fieldData? list := by
  unfold fieldData?
  by_cases h : c.opcode = fieldDataOpcode
  · simp [h]
  · simp [h]

/-- Commands that are no field data can be exchanged. -/
theorem fieldData?_set {list : List Command} {i : Nat} {new : Command}
    (hold : ∀ old ∈ list[i]?, old.opcode ≠ fieldDataOpcode)
    (hnew : new.opcode ≠ fieldDataOpcode) :
    fieldData? (list.set i new) = fieldData? list := by
  induction list generalizing i with
  | nil => rfl
  | cons c list ih =>
    cases i with
    | zero =>
      have hc := hold c rfl
      rw [List.set_cons_zero, fieldData?_cons, fieldData?_cons, if_neg hnew, if_neg hc]
    | succ i =>
      rw [List.set_cons_succ, fieldData?_cons, fieldData?_cons, ih hold]

/-- Two lists of commands that agree but for the commands with an index, which neither move the
    origin nor are field data. Where the commands stand in their texts does not count. -/
structure AgreeBut (i : Nat) (list list' : List Command) (new : Command) : Prop where
  bare : list'.map bare = (list.map bare).set i new.bare
  old : ∀ old ∈ list[i]?, old.opcode ≠ ['F', 'O'] ∧ old.opcode ≠ fieldDataOpcode
  new : new.opcode ≠ ['F', 'O'] ∧ new.opcode ≠ fieldDataOpcode

namespace AgreeBut

variable {i j : Nat} {list list' : List Command} {new : Command}

theorem opcode_ne (h : AgreeBut i list list' new) {old : Command}
    (hold : old ∈ (list.map Command.bare)[i]?) :
    old.opcode ≠ ['F', 'O'] ∧ old.opcode ≠ fieldDataOpcode := by
  rw [List.getElem?_map, Option.mem_def, Option.map_eq_some_iff] at hold
  obtain ⟨c, hc, rfl⟩ := hold
  exact h.old c hc

theorem getElem?_bare (h : AgreeBut i list list' new) (hj : j ≠ i) :
    list'[j]?.map Command.bare = list[j]?.map Command.bare := by
  rw [← List.getElem?_map, h.bare, List.getElem?_set_ne (Ne.symm hj), List.getElem?_map]

theorem along_take (h : AgreeBut i list list' new) (origin : Origin) :
    origin.along (list'.take j) = origin.along (list.take j) := by
  rw [← Origin.along_map_bare, List.map_take, h.bare, List.take_set,
    Origin.along_set ?_ (by exact h.new.1), ← List.map_take, Origin.along_map_bare]
  intro old hold
  rw [List.getElem?_take] at hold
  split at hold
  · exact (h.opcode_ne hold).1
  · cases hold

theorem fieldData?_drop (h : AgreeBut i list list' new) :
    fieldData? (list'.drop j) = fieldData? (list.drop j) := by
  rw [← fieldData?_map_bare, List.map_drop, h.bare, List.drop_set,
    ← fieldData?_map_bare (list.drop j), List.map_drop]
  split
  · rfl
  · next hij =>
    refine fieldData?_set (fun old hold => ?_) h.new.2
    rw [List.getElem?_drop, Nat.add_sub_cancel' (Nat.le_of_not_lt hij)] at hold
    exact (h.opcode_ne hold).2

end AgreeBut

end Command

/-! ## Pieces of the layout -/

/-- The text that a command adds to the layout, from all that it depends on. -/
def Command.piece (stored : Finset Text) (origin : Origin) (data : Option Text)
    (opcode params : Text) : Text :=
  match outcomeOf stored origin data opcode params with
  | .ok (.drawn record) => record.render
  | _ => []

namespace Conversion

/-- The piece of the command with an index. -/
def pieceAt (stored : Finset Text) (list : List Command) (i : Nat) : Text :=
  match list[i]? with
  | some c =>
    Command.piece stored (Origin.initial.along (list.take i))
      (Command.fieldData? (list.drop (i + 1))) c.opcode c.params
  | none => []

variable {strictness : Strictness} {config zpl : Text} {c : Conversion}

/-- The outcome at an index depends on little, and gives the record and the report there. -/
theorem outcomeOf_getElem? (h : ofText strictness config zpl = .ok c) {i : Nat} {command : Command}
    (hcommand : (commands zpl)[i]? = some command) :
    ∃ result,
      Command.outcomeOf c.storedNames.toFinset (Origin.initial.along ((commands zpl).take i))
        (Command.fieldData? ((commands zpl).drop (i + 1))) command.opcode command.params =
          .ok result ∧
      c.recordOf? i = result.record? ∧
      c.commandReport? i =
        result.cause?.map fun cause => ⟨some i, command.opcode, cause⟩ := by
  obtain ⟨downloads, -, -, -, -, hlayout⟩ := ofText_eq_ok_iff.mp h
  obtain ⟨result, hat, houtcome⟩ := (Command.outcomes_getElem? hlayout).2 i command hcommand
  rw [Command.outcome_eq_outcomeOf] at houtcome
  exact ⟨result, houtcome, recordOf?_of_getElem? hat, commandReport?_of_getElem? hat⟩

theorem layoutLines_eq (h : ofText strictness config zpl = .ok c) :
    c.label.layoutLines =
      (List.range (commands zpl).length).flatMap
        (pieceAt c.storedNames.toFinset (commands zpl)) := by
  obtain ⟨downloads, -, -, -, -, hlayout⟩ := ofText_eq_ok_iff.mp h
  have hlength := (Command.outcomes_getElem? hlayout).1
  rw [Label.layoutLines, records_eq, hlength, List.filterMap_eq_flatMap_toList, List.flatMap_assoc]
  apply List.flatMap_congr
  intro i hi
  have hcommand := List.getElem?_eq_getElem (List.mem_range.mp hi)
  obtain ⟨result, hresult, hrecord, -⟩ := outcomeOf_getElem? h hcommand
  rw [pieceAt, hcommand, hrecord]
  dsimp only
  rw [Command.piece, hresult]
  cases result with
  | drawn record => exact List.flatMap_singleton _ _
  | moved | skipped | ignored => rfl

/-- Field data whose origin can be written has its own record, with its parameters as they are. -/
theorem recordOf?_fieldData (h : ofText strictness config zpl = .ok c) {i : Nat}
    {command : Command} (hcommand : (commands zpl)[i]? = some command)
    (hopcode : command.opcode = Command.fieldDataOpcode) {row column : Position}
    (hrow : Position.read (.number (Origin.initial.along ((commands zpl).take i)).y) = .ok row)
    (hcolumn :
      Position.read (.number (Origin.initial.along ((commands zpl).take i)).x) = .ok column) :
    c.recordOf? i = some (.text row column command.params) := by
  obtain ⟨downloads, -, -, -, -, hlayout⟩ := ofText_eq_ok_iff.mp h
  obtain ⟨result, hat, houtcome⟩ := (Command.outcomes_getElem? hlayout).2 i command hcommand
  rw [Command.outcome_fieldData hopcode hrow hcolumn] at houtcome
  cases houtcome
  exact recordOf?_of_getElem? hat

/-! ## Exchange of a command -/

theorem ofText_graphics_congr {other : Text} {c' : Conversion}
    (hsources : Download.sources other = Download.sources zpl)
    (h : ofText strictness config zpl = .ok c) (h' : ofText strictness config other = .ok c') :
    c'.graphics = c.graphics := by
  obtain ⟨downloads, hall, hgraphics, -⟩ := ofText_eq_ok_iff.mp h
  obtain ⟨downloads', hall', hgraphics', -⟩ := ofText_eq_ok_iff.mp h'
  have hsame : Download.all other = Download.all zpl := by rw [Download.all, hsources, Download.all]
  rw [hsame, hall] at hall'
  cases hall'
  rw [hgraphics, Except.ok.injEq] at hgraphics'
  exact hgraphics'.symm

theorem recordOf?_of_none (h : ofText strictness config zpl = .ok c) {j : Nat}
    (hcommand : (commands zpl)[j]? = none) : c.recordOf? j = none ∧ c.commandReport? j = none := by
  obtain ⟨downloads, -, -, -, -, hlayout⟩ := ofText_eq_ok_iff.mp h
  have hlength := (Command.outcomes_getElem? hlayout).1
  rw [List.getElem?_eq_none_iff, ← hlength, ← List.getElem?_eq_none_iff] at hcommand
  rw [recordOf?, commandReport?, hcommand]
  exact ⟨rfl, rfl⟩

/-- Texts with the same graphics whose commands agree but for one have the same records and
    reports but for that one. -/
theorem items_eq_of_agreeBut {other : Text} {c' : Conversion} {i j : Nat} {new : Command}
    (h : ofText strictness config zpl = .ok c) (h' : ofText strictness config other = .ok c')
    (hgraphics : c'.graphics = c.graphics)
    (hagree : Command.AgreeBut i (commands zpl) (commands other) new) (hj : j ≠ i) :
    c'.recordOf? j = c.recordOf? j ∧ c'.commandReport? j = c.commandReport? j := by
  have hbare := hagree.getElem?_bare hj
  have hstored : c'.storedNames = c.storedNames := by
    rw [storedNames_eq, storedNames_eq, hgraphics]
  cases hcommand : (commands zpl)[j]? with
  | none =>
    rw [hcommand, Option.map_none, Option.map_eq_none_iff] at hbare
    rw [(recordOf?_of_none h hcommand).1, (recordOf?_of_none h hcommand).2]
    exact recordOf?_of_none h' hbare
  | some command =>
    rw [hcommand, Option.map_some, Option.map_eq_some_iff] at hbare
    obtain ⟨command', hcommand', hsame⟩ := hbare
    obtain ⟨hopcode, hparams⟩ := Command.bare_eq_iff.mp hsame
    obtain ⟨result, hresult, hrecord, hreport⟩ := outcomeOf_getElem? h hcommand
    obtain ⟨result', hresult', hrecord', hreport'⟩ := outcomeOf_getElem? h' hcommand'
    rw [hstored, hagree.along_take, hagree.fieldData?_drop, hopcode, hparams, hresult] at hresult'
    cases hresult'
    rw [hrecord', hrecord, hreport', hreport, hopcode]
    exact ⟨rfl, rfl⟩

theorem exists_exchange? {i : Nat} {old : Command} (h : (commands zpl)[i]? = some old)
    (new : Command) : ∃ other, exchange? zpl i new = some other := by
  unfold commands labelBlock? at h
  unfold exchange?
  cases hbefore : Text.cut? ['^', 'X', 'A'] zpl with
  | none =>
    rw [hbefore] at h
    cases h
  | some start =>
    rw [hbefore] at h
    cases hblock : Text.cut? ['^', 'X', 'Z'] start.2 with
    | none =>
      simp [hblock] at h
    | some parts =>
      simp only [Option.bind_eq_bind, Option.bind_some, hblock, Option.pure_def, Option.elim_some]
        at h
      simp [hblock, h]

/-- The layout of a label text, command by command.

    It is the row of the pieces of the commands, each of which depends on what `Command.piece` is
    given: field data only for barcodes, the stored graphics only for recalls. Another command in
    the place of one changes no other record and no other report, if neither of the two moves the
    origin or is field data. Field data has a record of its own wherever the origin can be
    written. -/
theorem layout_by_command (h : ofText strictness config zpl = .ok c) :
    c.script = ['\x02', 'L', '\r'] ++ config ++ '\r' :: c.label.imageLines ++
      (List.range (commands zpl).length).flatMap (pieceAt c.storedNames.toFinset (commands zpl)) ++
      ['E', '\r'] ∧
    (∀ stored stored' origin data data' opcode params,
      (opcode ≠ ['X', 'G'] → Command.piece stored origin data opcode params =
        Command.piece stored' origin data opcode params) ∧
      (opcode.head? ≠ some 'B' ∨ opcode = ['B', 'Y'] →
        Command.piece stored origin data opcode params =
          Command.piece stored origin data' opcode params)) ∧
    (∀ (i : Nat) old new, (commands zpl)[i]? = some old →
      old.opcode ∉ [['F', 'O'], ['F', 'D']] → new.IsWritten →
      new.opcode ∉ [['F', 'O'], ['F', 'D'], ['X', 'Z']] →
      ∃ other, exchange? zpl i new = some other ∧
        ∀ c', ofText strictness config other = .ok c' →
          c'.graphics = c.graphics ∧
            ∀ j, j ≠ i → c'.recordOf? j = c.recordOf? j ∧
              c'.commandReport? j = c.commandReport? j) ∧
    ∀ (i : Nat) command row column, (commands zpl)[i]? = some command →
      command.opcode = ['F', 'D'] →
      Position.read (.number (Origin.initial.along ((commands zpl).take i)).y) = .ok row →
      Position.read (.number (Origin.initial.along ((commands zpl).take i)).x) = .ok column →
      c.recordOf? i = some (.text row column command.params) := by
  refine ⟨?_, ?_, ?_, ?_⟩
  · obtain ⟨downloads, -, -, hconfig, -⟩ := ofText_eq_ok_iff.mp h
    rw [← layoutLines_eq h, ← hconfig]
    rfl
  · intro stored stored' origin data data' opcode params
    unfold Command.piece
    refine ⟨fun hopcode => ?_, fun hopcode => ?_⟩
    · rw [Command.outcomeOf_congr_stored hopcode]
    · rw [Command.outcomeOf_congr_data hopcode]
  · intro i old new hold holdOpcode hnew hnewOpcode
    simp only [List.mem_cons, List.not_mem_nil, or_false, not_or] at holdOpcode hnewOpcode
    obtain ⟨other, hother⟩ := exists_exchange? hold new
    obtain ⟨before, front, back, rest, found, hparts⟩ := exists_exchanged hother
    refine ⟨other, hother, fun c' h' => ?_⟩
    have hgraphics := ofText_graphics_congr (hparts.sources_eq hnew) h h'
    have hagree : Command.AgreeBut i (commands zpl) (commands other) new := by
      refine ⟨hparts.map_bare_commands hnew hnewOpcode.2.2, fun c hc => ?_,
        hnewOpcode.1, hnewOpcode.2.1⟩
      rw [hold, Option.mem_def, Option.some.injEq] at hc
      subst hc
      exact holdOpcode
    exact ⟨hgraphics, fun j hj => items_eq_of_agreeBut h h' hgraphics hagree hj⟩
  · intro i command row column hcommand hopcode hrow hcolumn
    exact recordOf?_fieldData h hcommand hopcode hrow hcolumn

theorem layout_by_command_of_mixedLabel :
    ∃ c, ofText .lenient Label.defaultConfig mixedLabel = .ok c ∧
      c.recordOf? 1 = some (.text 2 1 ['h', 'i']) ∧
      ∃ other, exchange? mixedLabel 3 ⟨['G', 'B'], ['9'], 0⟩ = some other ∧
        ∀ c', ofText .lenient Label.defaultConfig other = .ok c' →
          c'.graphics = c.graphics ∧
            ∀ j, j ≠ 3 → c'.recordOf? j = c.recordOf? j ∧
              c'.commandReport? j = c.commandReport? j := by
  obtain ⟨c, h⟩ := exists_ofText_mixedLabel
  obtain ⟨-, -, hexchange, hfieldData⟩ := layout_by_command h
  refine ⟨c, h, ?_, ?_⟩
  · exact hfieldData 1 ⟨['F', 'D'], ['h', 'i'], 6⟩ 2 1 (by decide +kernel) rfl
      (by decide +kernel) (by decide +kernel)
  · exact hexchange 3 ⟨['G', 'B'], ['x'], 14⟩ ⟨['G', 'B'], ['9'], 0⟩ (by decide +kernel)
      (by simp) ⟨⟨'G', 'B', rfl, rfl, rfl⟩, by simp [Command.isParameter]⟩ (by simp)

end Conversion

end ThermalLabel
