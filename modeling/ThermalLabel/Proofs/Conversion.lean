/-
  A conversion item by item.

  What a conversion made of the graphic or the command with a given index: its image, its record
  and its report. The images, the records and the diagnostics of a conversion are these, in the
  order of the indexes (`images_eq`, `records_eq`, `diagnostics_eq`), and each comes from the
  outcome of its item alone (`graphics_getElem?`, `Command.outcomes_getElem?`).
-/
import ThermalLabel.Proofs.Command.Parsing
import ThermalLabel.Proofs.Graphic.Scanning
import ThermalLabel.Proofs.Indexed
import ThermalLabel.Proofs.Layout

namespace ThermalLabel

namespace Conversion

/-- The commands of the label block, none if there is no block. -/
def commands (zpl : Text) : List Command := (labelBlock? zpl).elim [] Command.parse

/-- The names of the images that were stored. -/
def storedNames (c : Conversion) : List Text := c.label.images.map StoredImage.name

/-- The image of the graphic with an index. -/
def imageOf? (c : Conversion) (k : Nat) : Option StoredImage :=
  c.graphics[k]?.bind fun g => g.2.image?

/-- The diagnostic of the graphic with an index. -/
def graphicReport? (c : Conversion) (k : Nat) : Option Diagnostic :=
  c.graphics[k]?.bind (graphicDiagnostic? k)

/-- The record of the command with an index. -/
def recordOf? (c : Conversion) (i : Nat) : Option Record :=
  (c.layout.getD [])[i]?.bind fun l => l.2.record?

/-- The diagnostic of the command with an index. -/
def commandReport? (c : Conversion) (i : Nat) : Option Diagnostic :=
  (c.layout.getD [])[i]?.bind (commandDiagnostic? i)

/-! ## In the order of the indexes -/

theorem images_eq (c : Conversion) :
    c.label.images = (List.range c.graphics.length).filterMap c.imageOf? :=
  (filterMap_range_bind_const _ _).symm

theorem records_eq (c : Conversion) :
    c.label.records = (List.range (c.layout.getD []).length).filterMap c.recordOf? :=
  (filterMap_range_bind_const _ _).symm

theorem diagnostics_eq (c : Conversion) :
    c.diagnostics =
      (List.range c.graphics.length).filterMap c.graphicReport? ++
        (if c.layout = none then [blockDiagnostic] else []) ++
        (List.range (c.layout.getD []).length).filterMap c.commandReport? := by
  have hgraphics : (List.range c.graphics.length).filterMap c.graphicReport? =
      c.graphics.zipIdx.filterMap fun g => graphicDiagnostic? g.2 g.1 :=
    filterMap_range_bind _ _
  have hlayout : (List.range (c.layout.getD []).length).filterMap c.commandReport? =
      (c.layout.getD []).zipIdx.filterMap fun l => commandDiagnostic? l.2 l.1 :=
    filterMap_range_bind _ _
  rw [diagnostics, hgraphics, hlayout]
  cases h : c.layout with
  | none => simp
  | some commands => simp

theorem recordOf?_of_getElem? {c : Conversion} {i : Nat} {command : Command}
    {result : CommandOutcome}
    (hat : (c.layout.getD [])[i]? = some (command, result)) :
    c.recordOf? i = result.record? := by
  rw [recordOf?, hat]
  rfl

theorem commandReport?_of_getElem? {c : Conversion} {i : Nat} {command : Command}
    {result : CommandOutcome}
    (hat : (c.layout.getD [])[i]? = some (command, result)) :
    c.commandReport? i = result.cause?.map fun cause => ⟨some i, command.opcode, cause⟩ := by
  rw [commandReport?, hat]
  cases result <;> rfl

theorem index_of_graphicReport? {c : Conversion} {k : Nat} {report : Diagnostic}
    (h : c.graphicReport? k = some report) : report.index = some k := by
  obtain ⟨⟨d, outcome⟩, -, h⟩ := Option.bind_eq_some_iff.mp h
  cases outcome with
  | stored image => cases h
  | skipped reason =>
    cases h
    rfl

theorem index_of_commandReport? {c : Conversion} {i : Nat} {report : Diagnostic}
    (h : c.commandReport? i = some report) : report.index = some i := by
  obtain ⟨⟨command, outcome⟩, -, h⟩ := Option.bind_eq_some_iff.mp h
  cases outcome with
  | skipped cause =>
    cases h
    rfl
  | drawn | moved | ignored => cases h

/-! ## From the text -/

variable {strictness : Strictness} {config zpl : Text} {c : Conversion}

theorem storedNames_eq (c : Conversion) :
    c.storedNames = c.graphics.filterMap fun g => g.2.image?.map StoredImage.name :=
  List.map_filterMap

theorem ofText_eq_ok_iff :
    ofText strictness config zpl = .ok c ↔
      ∃ downloads, Download.all zpl = .ok downloads ∧
        downloads.mapM (fun d => do return (d, ← d.outcome strictness)) = .ok c.graphics ∧
        c.config = config ∧ (c.layout = none ↔ labelBlock? zpl = none) ∧
        Command.outcomes c.storedNames .initial (commands zpl) = .ok (c.layout.getD []) := by
  constructor
  · intro h
    obtain ⟨downloads, hall, h⟩ := bind_eq_ok_iff.mp h
    obtain ⟨graphics, hgraphics, h⟩ := bind_eq_ok_iff.mp h
    refine ⟨downloads, hall, ?_⟩
    rw [commands]
    cases hblock : labelBlock? zpl with
    | none =>
      rw [hblock] at h
      cases h
      exact ⟨hgraphics, rfl, by simp, rfl⟩
    | some block =>
      rw [hblock] at h
      obtain ⟨results, hresults, h⟩ := bind_eq_ok_iff.mp h
      cases h
      exact ⟨hgraphics, rfl, by simp, by rw [storedNames_eq]; exact hresults⟩
  · rintro ⟨downloads, hall, hgraphics, rfl, hlayout, hout⟩
    refine bind_eq_ok_iff.mpr ⟨downloads, hall, bind_eq_ok_iff.mpr ⟨c.graphics, hgraphics, ?_⟩⟩
    obtain ⟨config, graphics, layout⟩ := c
    rw [storedNames_eq, commands] at hout
    cases hblock : labelBlock? zpl with
    | none =>
      obtain rfl := hlayout.mpr hblock
      rfl
    | some block =>
      rw [hblock] at hlayout hout
      cases layout with
      | none => exact absurd (hlayout.mp rfl) (by simp)
      | some results => exact bind_eq_ok_iff.mpr ⟨results, hout, rfl⟩

theorem isWritten_of_mem_commands {command : Command} (h : command ∈ commands zpl) :
    command.IsWritten := by
  rw [commands] at h
  cases hblock : labelBlock? zpl with
  | none =>
    rw [hblock] at h
    cases h
  | some block =>
    rw [hblock] at h
    exact Command.isWritten_of_mem_parse h

/-- The graphics of a conversion are the downloads of the text with their outcomes. -/
theorem graphics_getElem? {downloads : List Download}
    (h : downloads.mapM (fun d => do return (d, ← d.outcome strictness)) = .ok c.graphics) :
    c.graphics.length = downloads.length ∧
      ∀ (k : Nat) d, downloads[k]? = some d →
        ∃ outcome, d.outcome strictness = .ok outcome ∧ c.graphics[k]? = some (d, outcome) := by
  obtain ⟨hlength, hitems⟩ := mapM_getElem? h
  refine ⟨hlength, fun k d hd => ?_⟩
  obtain ⟨g, hg, hat⟩ := hitems k d hd
  obtain ⟨outcome, houtcome, hg⟩ := bind_eq_ok_iff.mp hg
  cases hg
  exact ⟨outcome, houtcome, hat⟩

end Conversion

end ThermalLabel
