/-
  A label text and a label design of the same shapes make the same label.

  Shape by shape, what is drawn for the commands is drawn for the element, or both are skipped with
  a diagnostic of the same kind (`Shape.outcome_alike`). The origin behind a shape does not matter
  to the next, which moves it first, so the same holds of all shapes in a row
  (`Shape.outcomes_alike`), and the two labels are the same (`conversions_agree`).
-/
import ThermalLabel.Proofs.Design.Drawing
import ThermalLabel.Proofs.Offsets
import ThermalLabel.Proofs.Shape

namespace ThermalLabel

/-! ## Outcomes -/

namespace ElementOutcome

/-- Why the element was skipped. -/
def cause? : ElementOutcome → Option Cause
  | skipped cause => some cause
  | _ => none

end ElementOutcome

/-- A command and an element have the same record, or were skipped for the same kind of cause. -/
structure OutcomesAlike (result : CommandOutcome) (outcome : ElementOutcome) : Prop where
  record : result.record? = outcome.record?
  kind : result.cause?.map Cause.kind = outcome.cause?.map Cause.kind

namespace Shape

variable {s : Shape}

theorem outcome_alike (h : s.IsPlain) (stored : List Text) (later : List Command) :
    ∃ result outcome, s.drawing.outcome stored s.origin later = .ok result ∧
      s.resolved.outcome none = .ok outcome ∧ OutcomesAlike result outcome := by
  have hmove : s.drawing.instruction ≠ .moveOrigin := by
    rw [ne_eq, Command.instruction_eq_moveOrigin_iff]
    cases s <;> simp [drawing, Command.ofNumbers]
  obtain ⟨drawn, hdrawn, hsame⟩ := sameResult_figure h
  rw [Command.outcome_of_figure hmove, figure_drawing h, Element.outcome, hdrawn]
  dsimp only
  generalize s.figure.record = record, drawn.record = other at hsame
  cases hsame with
  | ok a => exact ⟨_, _, rfl, rfl, rfl, rfl⟩
  | @fault reason other kind first second =>
    refine ⟨.skipped (.fault reason), .skipped (.fault other), ?_, ?_, rfl, ?_⟩
    · dsimp only
      rw [Command.ofFault_map_skipped, first]
      rfl
    · dsimp only
      rw [Cause.ofFault, second]
      rfl
    · simp [CommandOutcome.cause?, ElementOutcome.cause?, Cause.kind, first, second]

theorem drawing_opcode_ne (s : Shape) :
    s.drawing.opcode ≠ ['F', 'O'] ∧ s.drawing.opcode ≠ ['X', 'Z'] := by
  cases s <;> simp [drawing, Command.ofNumbers]

/-- The commands of a shape are followed by those of the others, at the origin of the shape. -/
theorem outcomes_commands (h : s.IsPlain) (stored : List Text) (current : Origin)
    {later : List Command} {result : CommandOutcome} {others : List (Command × CommandOutcome)}
    (hresult : s.drawing.outcome stored s.origin (⟨['F', 'S'], [], 0⟩ :: later) = .ok result)
    (hothers : Command.outcomes stored s.origin later = .ok others) :
    Command.outcomes stored current (s.commands ++ later) =
      .ok ((.ofNumbers ['F', 'O'] [s.x, s.y], .moved s.origin) :: (s.drawing, result) ::
        (⟨['F', 'S'], [], 0⟩, .ignored) :: others) := by
  have hmove : Command.outcome stored current (s.drawing :: ⟨['F', 'S'], [], 0⟩ :: later)
      (.ofNumbers ['F', 'O'] [s.x, s.y]) = .ok (.moved s.origin) := by
    rw [Command.outcome_of_moveOrigin rfl, move_origin h]
  have hfollow : s.origin.follow s.drawing = s.origin := if_neg s.drawing_opcode_ne.1
  have hmoved : current.follow (.ofNumbers ['F', 'O'] [s.x, s.y]) = s.origin := by
    have hopcode : (Command.ofNumbers ['F', 'O'] [s.x, s.y]).opcode = ['F', 'O'] := rfl
    rw [Origin.follow, if_pos hopcode, move_origin h]
    rfl
  have hend : Command.outcome stored s.origin later ⟨['F', 'S'], [], 0⟩ = .ok .ignored := rfl
  refine Command.outcomes_cons_eq_ok_iff.mpr ⟨_, hmove, _, ?_, rfl⟩
  rw [hmoved]
  refine Command.outcomes_cons_eq_ok_iff.mpr ⟨_, hresult, _, ?_, rfl⟩
  rw [hfollow]
  exact Command.outcomes_cons_eq_ok_iff.mpr ⟨_, hend, _, hothers, rfl⟩

/-- All shapes are drawn alike both ways, or skipped for causes of the same kinds. -/
theorem outcomes_alike {shapes : List Shape} (h : ∀ s ∈ shapes, s.IsPlain) (stored : List Text)
    (current : Origin) {elements : List (Nat × Element)}
    (helements : elements.map Prod.snd = shapes.map resolved) :
    ∃ results layout,
      Command.outcomes stored current (shapes.flatMap commands) = .ok results ∧
      DesignConversion.draw [] elements = .ok layout ∧
      results.filterMap (fun l => l.2.record?) = layout.filterMap (fun l => l.2.2.record?) ∧
      results.filterMap (fun l => l.2.cause?.map Cause.kind) =
        layout.filterMap fun l => l.2.2.cause?.map Cause.kind := by
  induction shapes generalizing current elements with
  | nil =>
    rw [List.map_nil, List.map_eq_nil_iff] at helements
    subst helements
    exact ⟨[], [], rfl, rfl, rfl, rfl⟩
  | cons s shapes ih =>
    rw [List.forall_mem_cons] at h
    obtain ⟨⟨i, element⟩, elements, rfl, hfirst, hothers⟩ := List.map_eq_cons_iff.mp helements
    dsimp only at hfirst
    subst hfirst
    obtain ⟨others, layout, hresults, hlayout, hrecords, hkinds⟩ := ih h.2 s.origin hothers
    obtain ⟨result, outcome, hresult, houtcome, halike⟩ :=
      outcome_alike h.1 stored (⟨['F', 'S'], [], 0⟩ :: shapes.flatMap commands)
    have hdraw : DesignConversion.draw [] ((i, s.resolved) :: elements) =
        .ok ((i, s.resolved, outcome) :: layout) := by
      refine mapM_cons_eq_ok_iff.mpr ⟨_, ?_, layout, hlayout, rfl⟩
      exact bind_eq_ok_iff.mpr ⟨outcome, houtcome, rfl⟩
    refine ⟨_, _, outcomes_commands h.1 stored current hresult hresults, hdraw, ?_, ?_⟩
    · have hmoved : (CommandOutcome.moved s.origin).record? = none := rfl
      have hignored : CommandOutcome.ignored.record? = none := rfl
      simp only [List.filterMap_cons, hmoved, hignored, halike.record, hrecords]
    · have hmoved : (CommandOutcome.moved s.origin).cause? = none := rfl
      have hignored : CommandOutcome.ignored.cause? = none := rfl
      simp only [List.filterMap_cons, hmoved, hignored, Option.map_none, halike.kind, hkinds]

/-! ### The label text -/

theorem commands_written (h : s.IsPlain) :
    ∀ c ∈ s.commands, c.IsWritten ∧ c.opcode ≠ ['X', 'Z'] := by
  have hnumbers : ∀ {a b : Char} {numbers : List Int}, Command.isOpcode a → Command.isOpcode b →
      (Command.ofNumbers [a, b] numbers).IsWritten :=
    fun ha hb => Command.isWritten_ofNumbers ⟨_, _, rfl, ha, hb⟩
  have hdrawing : s.drawing.IsWritten := by
    cases s with
    | text x y body =>
      refine ⟨⟨'F', 'D', rfl, rfl, rfl⟩, fun c hc => ?_⟩
      simpa [Command.isParameter] using h.body c hc
    | box | circle | line => exact hnumbers rfl rfl
  intro c hc
  simp only [commands, List.mem_cons, List.not_mem_nil, or_false] at hc
  rcases hc with rfl | rfl | rfl
  · exact ⟨hnumbers rfl rfl, by simp [Command.ofNumbers]⟩
  · exact ⟨hdrawing, s.drawing_opcode_ne.2⟩
  · exact ⟨⟨⟨'F', 'S', rfl, rfl, rfl⟩, fun c hc => by cases hc⟩, by simp⟩

theorem map_bare_commands (shapes : List Shape) :
    (shapes.flatMap commands).map Command.bare = shapes.flatMap commands := by
  rw [List.map_flatMap]
  refine List.flatMap_congr fun s _ => ?_
  cases s <;> rfl

variable {shapes : List Shape}

theorem flatMap_commands_written (h : ∀ s ∈ shapes, s.IsPlain) :
    ∀ c ∈ shapes.flatMap commands, c.IsWritten ∧ c.opcode ≠ ['X', 'Z'] := by
  intro c hc
  obtain ⟨s, hs, hc⟩ := List.mem_flatMap.mp hc
  exact commands_written (h s hs) c hc

theorem labelBlock?_labelText (h : ∀ s ∈ shapes, s.IsPlain) :
    labelBlock? (labelText shapes) = some (Command.renderAll (shapes.flatMap commands)) := by
  have hstart : Text.cut? ['^', 'X', 'A'] [] = none := rfl
  have hblock := labelBlock?_written hstart List.not_mem_nil (flatMap_commands_written h) []
  rwa [List.nil_append, List.nil_append, List.append_nil, ← List.append_assoc] at hblock

theorem sources_labelText (h : ∀ s ∈ shapes, s.IsPlain) :
    Download.sources (labelText shapes) = [] := by
  have hwritten := fun c hc => (flatMap_commands_written h c hc).1
  have hend : Text.IsBreak ['^', 'X', 'Z'] := Text.isBreak_caret _
  rw [labelText, Download.sources_append _ hend,
    Download.sources_append _ (Command.isBreak_renderAll _), Command.sources_renderAll hwritten]
  rfl

end Shape

/-! ## The whole label -/

namespace Conversion

open Shape (labelText)

variable {shapes : List Shape}

/-- The label text of shapes is converted if its commands are, without regard to their places. -/
theorem ofText_labelText (strictness : Strictness) (config : Text)
    (h : ∀ s ∈ shapes, s.IsPlain) {results : List (Command × CommandOutcome)}
    (hresults : Command.outcomes [] .initial (shapes.flatMap Shape.commands) = .ok results) :
    ∃ c, ofText strictness config (labelText shapes) = .ok c ∧
      c.bare = ⟨config, [], some results⟩ := by
  have hcommands : (commands (labelText shapes)).map Command.bare =
      shapes.flatMap Shape.commands := by
    rw [commands, Shape.labelBlock?_labelText h, Option.elim_some,
      Command.map_bare_parse_renderAll fun c hc => (Shape.flatMap_commands_written h c hc).1,
      Shape.map_bare_commands]
  rw [← hcommands, Command.outcomes_map_bare] at hresults
  obtain ⟨layout, hlayout, hbare⟩ := map_eq_ok_iff.mp hresults
  refine ⟨⟨config, [], some layout⟩, ofText_eq_ok_iff.mpr ⟨[], ?_, rfl, rfl, ?_, hlayout⟩, ?_⟩
  · rw [Download.all, Shape.sources_labelText h]
    rfl
  · rw [Shape.labelBlock?_labelText h]
    simp
  · rw [bare, ← hbare]
    rfl

/-- The kinds of the diagnostics of a conversion without graphics. -/
theorem map_kind_diagnostics (config : Text) (results : List (Command × CommandOutcome)) :
    (⟨config, [], some results⟩ : Conversion).diagnostics.map Diagnostic.kind =
      results.filterMap fun l => l.2.cause?.map Cause.kind := by
  have hkind : ∀ (l : Command × CommandOutcome) (index : Nat),
      (commandDiagnostic? index l).map Diagnostic.kind = l.2.cause?.map Cause.kind := by
    intro l index
    obtain ⟨c, result⟩ := l
    cases result <;> rfl
  unfold diagnostics
  rw [List.zipIdx_nil, List.filterMap_nil, List.nil_append, List.map_filterMap]
  simp only [hkind]
  exact filterMap_zipIdx_fst results fun l => l.2.cause?.map Cause.kind

end Conversion

namespace DesignConversion

/-- Elements none of which is an image have no images to plan. -/
theorem plan_eq_nil {elements : List (Nat × Element)}
    (h : ∀ e ∈ elements, ∀ x y source name, e.2 ≠ .image x y source name)
    (given seen : List Text) (last : Nat) : ImagePlan.plan given seen last elements = [] := by
  induction elements with
  | nil => rfl
  | cons e elements ih =>
    rw [List.forall_mem_cons] at h
    obtain ⟨i, element⟩ := e
    cases element with
    | image x y source name => exact absurd rfl (h.1 x y source name)
    | text | barcode | box | circle | line => exact ih h.2

variable {shapes : List Shape}

/-- The elements of shapes with their resolutions. -/
def elementsOf (shapes : List Shape) : List (PlacedElement × Except Cause Element) :=
  shapes.map fun s => (s.element, .ok s.resolved)

theorem map_snd_resolved (shapes : List Shape) :
    (resolved (elementsOf shapes)).map Prod.snd = shapes.map Shape.resolved := by
  have hsnd : ∀ e : (PlacedElement × Except Cause Element) × Nat,
      (e.1.2.toOption.map fun element => (e.2, element)).map Prod.snd = e.1.2.toOption := by
    intro e
    cases e.1.2 <;> rfl
  unfold resolved
  rw [List.map_filterMap]
  simp only [hsnd]
  rw [filterMap_zipIdx_fst (elementsOf shapes) fun e => e.2.toOption, elementsOf,
    List.filterMap_map]
  exact congrFun List.filterMap_eq_map shapes

theorem mapM_resolution (h : ∀ s ∈ shapes, s.IsPlain) :
    (shapes.map Shape.element).mapM (fun e => do return (e, ← resolution e)) =
      (.ok (elementsOf shapes) :
        Except Fault (List (PlacedElement × Except Cause Element))) := by
  induction shapes with
  | nil => rfl
  | cons s shapes ih =>
    rw [List.forall_mem_cons] at h
    have hresolution : resolution s.element = .ok (.ok s.resolved) := by
      rw [resolution, Shape.resolve_element h.1]
    refine mapM_cons_eq_ok_iff.mpr ⟨_, ?_, _, ih h.2, rfl⟩
    exact bind_eq_ok_iff.mpr ⟨_, hresolution, rfl⟩

theorem ofElements_shapes (settings : ImageSettings) (config : Text)
    (h : ∀ s ∈ shapes, s.IsPlain) {layout : List (Nat × Element × ElementOutcome)}
    (hlayout : draw [] (resolved (elementsOf shapes)) = .ok layout) :
    (ofElements settings config (shapes.map Shape.element)).2 =
      .ok ⟨config, elementsOf shapes, [], layout⟩ := by
  have hplan : ImagePlan.ofElements (resolved (elementsOf shapes)) = [] := by
    refine plan_eq_nil (fun e he x y source name himage => ?_) _ _ _
    have hmem := List.mem_map_of_mem (f := Prod.snd) he
    rw [map_snd_resolved, List.mem_map] at hmem
    obtain ⟨s, -, hs⟩ := hmem
    rw [himage] at hs
    cases s <;> cases hs
  unfold ofElements ofLoading
  rw [mapM_resolution h]
  dsimp only
  rw [hplan, Loading.acquireAll]
  dsimp only
  rw [ok_bind, hlayout]
  rfl

/-- The kinds of the diagnostics of a design all of whose elements are resolved, without images. -/
theorem map_kind_diagnostics (config : Text) (layout : List (Nat × Element × ElementOutcome)) :
    (⟨config, elementsOf shapes, [], layout⟩ : DesignConversion).diagnostics.map Diagnostic.kind =
      layout.filterMap fun l => l.2.2.cause?.map Cause.kind := by
  have hresolved : (elementsOf shapes).zipIdx.filterMap
      (fun e => resolutionDiagnostic? e.2 e.1) = [] := by
    refine List.filterMap_eq_nil_iff.mpr fun e he => ?_
    obtain ⟨s, -, hs⟩ := List.mem_map.mp (List.fst_mem_of_mem_zipIdx he)
    rw [← hs]
    rfl
  have hkind : ∀ l : Nat × Element × ElementOutcome,
      (layoutDiagnostic? l).map Diagnostic.kind = l.2.2.cause?.map Cause.kind := by
    intro l
    obtain ⟨index, element, outcome⟩ := l
    cases outcome <;> rfl
  unfold diagnostics
  rw [hresolved, List.filterMap_nil, List.append_nil, List.nil_append, List.map_filterMap]
  simp only [hkind]

end DesignConversion

/-- Shapes make the same label from their label text and from their elements, with diagnostics of
    the same kinds. -/
theorem conversions_agree (strictness : Strictness) (settings : ImageSettings) (config : Text)
    {shapes : List Shape} (h : ∀ s ∈ shapes, s.IsPlain) :
    ∃ c d, Conversion.ofText strictness config (Shape.labelText shapes) = .ok c ∧
      (DesignConversion.ofElements settings config (shapes.map Shape.element)).2 = .ok d ∧
      c.script = d.script ∧
      c.diagnostics.map Diagnostic.kind = d.diagnostics.map Diagnostic.kind := by
  obtain ⟨results, layout, hresults, hlayout, hrecords, hkinds⟩ :=
    Shape.outcomes_alike h [] .initial (DesignConversion.map_snd_resolved shapes)
  obtain ⟨c, hc, hbare⟩ := Conversion.ofText_labelText strictness config h hresults
  refine ⟨c, _, hc, DesignConversion.ofElements_shapes settings config h hlayout, ?_, ?_⟩
  · rw [← c.script_bare, hbare]
    unfold Conversion.script Conversion.label DesignConversion.script DesignConversion.label
    simp only [Option.getD_some, hrecords]
    rfl
  · rw [← c.diagnostics_bare, hbare, Conversion.map_kind_diagnostics, hkinds,
      DesignConversion.map_kind_diagnostics]

/-- A text, a box without thickness, a circle of a negative thickness and a line beyond the far
    edge. -/
def sampleShapes : List Shape :=
  [.text 10 20 "hi".toList, .box 1 2 30 40 0, .circle 5 5 7 (-1), .line 9000 9000 2000 (-3) 1]

theorem conversions_agree_of_sampleShapes :
    ∃ c d, Conversion.ofText .lenient Label.defaultConfig (Shape.labelText sampleShapes) = .ok c ∧
      (DesignConversion.ofElements ⟨fun _ => .error (.crashed "no loader"), .ofInt 128, .never⟩
        Label.defaultConfig (sampleShapes.map Shape.element)).2 = .ok d ∧
      c.script = d.script ∧ c.label.records.length = 2 ∧
      d.diagnostics.map Diagnostic.kind = [.malformed, .position] := by
  have hsmall : sampleShapes.all fun s =>
      (s.x :: s.y :: s.sizes).all fun n => n.natAbs < 10 ^ 5 := by decide
  have hbody : sampleShapes.all fun s => s.body.all fun c => c ≠ '^' ∧ c ≠ '~' := by decide
  have hpower : 10 ^ 5 ≤ 10 ^ 300 := pow_le_pow_right₀ (by decide) (by decide)
  have hplain : ∀ s ∈ sampleShapes, s.IsPlain := by
    intro s hs
    refine ⟨fun n hn => ?_, fun c hc => ?_⟩
    · have hlt := of_decide_eq_true (List.all_eq_true.mp (List.all_eq_true.mp hsmall s hs) n hn)
      exact hlt.trans_le hpower
    · exact of_decide_eq_true (List.all_eq_true.mp (List.all_eq_true.mp hbody s hs) c hc)
  obtain ⟨c, d, hc, hd, hscript, hkinds⟩ := conversions_agree .lenient
    ⟨fun _ => .error (.crashed "no loader"), .ofInt 128, .never⟩ Label.defaultConfig hplain
  have hresult : (Conversion.ofText .lenient Label.defaultConfig
      (Shape.labelText sampleShapes)).map
        (fun c => (c.label.records.length, c.diagnostics.map Diagnostic.kind)) =
      .ok (2, [.malformed, .position]) := by decide +kernel
  rw [hc] at hresult
  obtain ⟨hrecords, hreports⟩ := Prod.mk.inj (Except.ok.inj hresult)
  exact ⟨c, d, hc, hd, hscript, hrecords, hkinds.symm.trans hreports⟩

end ThermalLabel
