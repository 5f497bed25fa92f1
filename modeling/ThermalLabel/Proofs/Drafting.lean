/-
  The conversion of a label text as a course of calls.

  A conversion can be told step by step: a label and a list of diagnostics grow, calls are made on
  the label, and what is wrong with an item is caught and reported on the spot. Where such a course
  fails, what was added and reported before stays. `Conversion.draft` is the course of a label text.
  It ends as the conversion does, and its label and its diagnostics are those of the outcomes up to
  there (`draft_eq`); so the views of the outcomes are what the steps leave (`draft_of_ofText`).
-/
import ThermalLabel.Proofs.Reporting
import ThermalLabel.Proofs.Script.Calls
import ThermalLabel.Proofs.Script.Returns

namespace ThermalLabel

/-! ## Drafts -/

/-- A label under construction, and what was reported meanwhile. -/
structure Draft where
  label : Label
  diagnostics : List Diagnostic

namespace Draft

def empty (config : Text) : Draft := ⟨.empty config, []⟩

/-- The draft with more on it. -/
def extend (draft : Draft) (images : List StoredImage) (records : List Record)
    (diagnostics : List Diagnostic) : Draft where
  label := ⟨draft.label.config, draft.label.images ++ images, draft.label.records ++ records⟩
  diagnostics := draft.diagnostics ++ diagnostics

@[simp]
theorem extend_nil (draft : Draft) : draft.extend [] [] [] = draft := by
  simp [extend]

@[simp]
theorem extend_extend (draft : Draft) (images images' : List StoredImage)
    (records records' : List Record) (diagnostics diagnostics' : List Diagnostic) :
    (draft.extend images records diagnostics).extend images' records' diagnostics' =
      draft.extend (images ++ images') (records ++ records') (diagnostics ++ diagnostics') := by
  simp [extend]

end Draft

/-- A course of drafting. Where it fails, the draft stays as it is by then. -/
abbrev Drafting := EStateM Fault Draft

namespace Drafting

variable {α β : Type} {draft next : Draft} {reason : Fault}

/-- A call on the label. -/
def call (c : LabelCall) : Drafting Unit := fun draft =>
  match c.build draft.label with
  | .ok a label => .ok a { draft with label }
  | .error reason label => .error reason { draft with label }

def report (d : Diagnostic) : Drafting Unit :=
  modify fun draft => { draft with diagnostics := draft.diagnostics ++ [d] }

/-- A step for an item. A fault that only skips the item is reported, and `otherwise` is the answer
    then. -/
def reporting (index : Nat) (source : Text) (otherwise : α) (step : Drafting α) : Drafting α :=
  tryCatch step fun reason =>
    match Cause.ofFault reason with
    | .ok cause => do
      report ⟨some index, source, cause⟩
      return otherwise
    | .error reason => throw reason

/-! ### What a step does -/

theorem bind_of_ok {a : α} {step : Drafting α} {rest : α → Drafting β}
    (h : step draft = .ok a next) : (step >>= rest) draft = rest a next := by
  show EStateM.bind step rest draft = _
  rw [EStateM.bind, h]

theorem bind_of_error {step : Drafting α} {rest : α → Drafting β}
    (h : step draft = .error reason next) : (step >>= rest) draft = .error reason next := by
  show EStateM.bind step rest draft = _
  rw [EStateM.bind, h]

theorem report_eq (d : Diagnostic) (draft : Draft) :
    report d draft = .ok () (draft.extend [] [] [d]) := by
  simp [report, modify, modifyGet, MonadStateOf.modifyGet, EStateM.modifyGet, Draft.extend]

theorem call_store (name data : Text) (draft : Draft) :
    call (.ofRequest (.store name data)) draft =
      match StoredImage.make name data with
      | .ok image => .ok () (draft.extend [image] [] [])
      | .error reason => .error reason draft := by
  unfold call
  rw [LabelCall.build_ofRequest_store]
  cases StoredImage.make name data with
  | error reason => rfl
  | ok image =>
    simp [Draft.extend]

theorem call_draw (figure : Figure) (draft : Draft) :
    call (.ofRequest (.draw figure)) draft =
      match figure.record with
      | .ok record => .ok () (draft.extend [] [record] [])
      | .error reason => .error reason draft := by
  unfold call
  rw [LabelCall.build_ofRequest_draw]
  cases figure.record with
  | error reason => rfl
  | ok record =>
    simp [Draft.extend]

section Reporting

variable (index : Nat) (source : Text) (otherwise : α) {step : Drafting α}

theorem reporting_of_ok {a : α} (h : step draft = .ok a next) :
    reporting index source otherwise step draft = .ok a next := by
  show EStateM.tryCatch step _ draft = _
  rw [EStateM.tryCatch, h]

@[simp]
theorem reporting_pure (a : α) (draft : Draft) :
    reporting index source otherwise (pure a) draft = .ok a draft := rfl

theorem reporting_of_error (h : step draft = .error reason next) :
    reporting index source otherwise step draft =
      match Cause.ofFault reason with
      | .ok cause => .ok otherwise (next.extend [] [] [⟨some index, source, cause⟩])
      | .error reason => .error reason next := by
  show EStateM.tryCatch step _ draft = _
  rw [EStateM.tryCatch, h]
  dsimp only
  cases Cause.ofFault reason with
  | error reason => rfl
  | ok cause => exact bind_of_ok (report_eq _ next)

end Reporting

end Drafting

/-! ## Graphics -/

open Drafting

theorem filterMap_cons_toList {α β : Type} (f : α → Option β) (a : α) (l : List α) :
    (a :: l).filterMap f = (f a).toList ++ l.filterMap f := by
  rw [List.filterMap_cons]
  cases f a <;> rfl

namespace Download

variable (strictness : Strictness) (index : Nat) (stored : List Text)

/-- Stores a graphic, and gives the names of those stored by then. -/
def draft (d : Download) : Drafting (List Text) :=
  match d.expansion with
  | .ok data => do
    call (.ofRequest (.store d.name data))
    return stored ++ [d.name]
  | .error reason =>
    if strictness = .strict then throw reason
    else do
      report ⟨some index, d.name, .fault reason⟩
      return stored

/-- Stores graphics one after the other. -/
def draftAll (strictness : Strictness) : (index : Nat) → (stored : List Text) → List Download →
    Drafting (List Text)
  | _, stored, [] => return stored
  | index, stored, d :: later => do
    let stored ← d.draft strictness index stored
    draftAll strictness (index + 1) stored later

theorem length_outcomesBeforeFault_lt {strictness : Strictness} {downloads : List Download}
    {reason : Fault}
    (h : downloads.mapM (fun d => do return (d, ← d.outcome strictness)) = .error reason) :
    (outcomesBeforeFault strictness downloads).length < downloads.length := by
  induction downloads with
  | nil => cases h
  | cons d later ih =>
    rw [outcomesBeforeFault]
    rw [List.mapM_cons] at h
    cases hresult : d.outcome strictness with
    | error reason => exact Nat.succ_pos _
    | ok result =>
      rw [hresult] at h
      rcases bind_eq_error_iff.mp h with h | ⟨_, -, h⟩
      · cases h
      · rcases bind_eq_error_iff.mp h with h | ⟨_, -, h⟩
        · exact Nat.succ_lt_succ (ih h)
        · cases h

/-- What the outcomes of graphics add to a draft. -/
def drafted (draft : Draft) (index : Nat) (graphics : List (Download × GraphicOutcome)) : Draft :=
  draft.extend (graphics.filterMap fun g => g.2.image?) []
    ((graphics.zipIdx index).filterMap fun g => Conversion.graphicDiagnostic? g.2 g.1)

theorem drafted_cons (draft : Draft) (index : Nat) (g : Download × GraphicOutcome)
    (graphics : List (Download × GraphicOutcome)) :
    drafted draft index (g :: graphics) =
      drafted (drafted draft index [g]) (index + 1) graphics := by
  simp [drafted, filterMap_cons_toList]

theorem draft_eq (d : Download) (draft : Draft) :
    d.draft strictness index stored draft =
      match d.outcome strictness with
      | .ok result =>
        .ok (stored ++ (result.image?.map StoredImage.name).toList)
          (drafted draft index [(d, result)])
      | .error reason => .error reason draft := by
  unfold Download.draft outcome
  cases d.expansion with
  | ok data =>
    dsimp only
    cases hmake : StoredImage.make d.name data with
    | ok image =>
      have hcall : call (.ofRequest (.store d.name data)) draft =
          .ok () (draft.extend [image] [] []) := by
        rw [call_store, hmake]
      rw [bind_of_ok hcall, StoredImage.eq_of_make hmake]
      rfl
    | error reason =>
      exact bind_of_error (by rw [call_store, hmake])
  | error reason =>
    dsimp only
    cases strictness with
    | strict => rfl
    | lenient =>
      rw [if_neg (by decide), if_neg (by decide), bind_of_ok (report_eq _ draft)]
      simp [drafted, GraphicOutcome.image?, Conversion.graphicDiagnostic?]
      rfl

theorem draftAll_eq (downloads : List Download) (draft : Draft) :
    draftAll strictness index stored downloads draft =
      match downloads.mapM fun d => do return (d, ← d.outcome strictness) with
      | .ok graphics =>
        .ok (stored ++ graphics.filterMap fun g => g.2.image?.map StoredImage.name)
          (drafted draft index (outcomesBeforeFault strictness downloads))
      | .error reason =>
        .error reason (drafted draft index (outcomesBeforeFault strictness downloads)) := by
  induction downloads generalizing index stored draft with
  | nil =>
    simp [draftAll, drafted, outcomesBeforeFault, pure, Except.pure, EStateM.pure]
  | cons d later ih =>
    have hstep := d.draft_eq strictness index stored draft
    rw [draftAll, outcomesBeforeFault, List.mapM_cons]
    cases hresult : d.outcome strictness with
    | error reason =>
      rw [hresult] at hstep
      rw [bind_of_error hstep]
      simp [drafted, bind, Except.bind]
    | ok result =>
      rw [hresult] at hstep
      rw [bind_of_ok hstep, ih, ← drafted_cons]
      cases later.mapM fun d => do return (d, ← d.outcome strictness) with
      | error reason => rfl
      | ok graphics =>
        simp [bind, Except.bind, pure, Except.pure, filterMap_cons_toList]

end Download

/-! ## Commands -/

namespace Command

variable {stored : List Text} {index : Nat} {origin : Origin} {later : List Command} {c : Command}

/-- Follows a command at an origin, and gives the origin of the next one. -/
def emit (stored : List Text) (index : Nat) (origin : Origin) (later : List Command)
    (c : Command) : Drafting Origin :=
  if c.instruction = .moveOrigin then MonadExcept.ofExcept (origin.move c)
  else
    match c.figure stored origin later with
    | .ok none => return origin
    | .ok (some figure) => do
      call (.ofRequest (.draw figure))
      return origin
    | .error (.fault reason) => throw reason
    | .error cause => do
      report ⟨some index, c.opcode, cause⟩
      return origin

/-- Follows a command, or reports what is wrong with it and keeps the origin. -/
def draft (stored : List Text) (index : Nat) (origin : Origin) (later : List Command)
    (c : Command) : Drafting Origin :=
  reporting index c.opcode origin (c.emit stored index origin later)

/-- Follows commands one after the other. -/
def draftAll (stored : List Text) : (index : Nat) → Origin → List Command → Drafting Unit
  | _, _, [] => return ()
  | index, origin, c :: later => do
    let next ← c.draft stored index origin later
    draftAll stored (index + 1) next later

/-- What the outcomes of commands add to a draft. -/
def drafted (draft : Draft) (index : Nat) (results : List (Command × CommandOutcome)) : Draft :=
  draft.extend [] (results.filterMap fun l => l.2.record?)
    ((results.zipIdx index).filterMap fun l => Conversion.commandDiagnostic? l.2 l.1)

theorem drafted_cons (draft : Draft) (index : Nat) (l : Command × CommandOutcome)
    (results : List (Command × CommandOutcome)) :
    drafted draft index (l :: results) =
      drafted (drafted draft index [l]) (index + 1) results := by
  simp [drafted, filterMap_cons_toList]

/-- A figure that is called for is drawn, reported or the end of the course. -/
theorem draft_of_figure {figure : Figure} (hmove : c.instruction ≠ .moveOrigin)
    (hfigure : c.figure stored origin later = .ok (some figure)) (draft : Draft) :
    c.draft stored index origin later draft =
      match figure.record with
      | .ok record => .ok origin (draft.extend [] [record] [])
      | .error reason =>
        match Cause.ofFault reason with
        | .ok cause => .ok origin (draft.extend [] [] [⟨some index, c.opcode, cause⟩])
        | .error reason => .error reason draft := by
  have hemit : c.emit stored index origin later = (do
      call (.ofRequest (.draw figure))
      return origin) := by
    rw [emit, if_neg hmove, hfigure]
  have hcall := call_draw figure draft
  rw [Command.draft, hemit]
  cases hrecord : figure.record with
  | ok record =>
    rw [hrecord] at hcall
    exact reporting_of_ok _ _ _ (bind_of_ok hcall)
  | error reason =>
    rw [hrecord] at hcall
    exact reporting_of_error _ _ _ (bind_of_error hcall)

/-- What is wrong with a command is reported, whether it is caught or seen at once. -/
theorem draft_of_cause {cause : Cause} (hmove : c.instruction ≠ .moveOrigin)
    (hfigure : c.figure stored origin later = .error cause) (draft : Draft) :
    c.draft stored index origin later draft =
      .ok origin (draft.extend [] [] [⟨some index, c.opcode, cause⟩]) := by
  have herror := figureError_of_figure cause hfigure
  unfold Command.draft emit
  rw [if_neg hmove, hfigure]
  cases herror with
  | parameter => exact reporting_of_error _ _ _ rfl
  | noFieldData | notStored => exact reporting_of_ok _ _ _ (bind_of_ok (report_eq _ draft))

theorem draft_eq (stored : List Text) (index : Nat) (origin : Origin) (later : List Command)
    (c : Command) (draft : Draft) :
    c.draft stored index origin later draft =
      match c.outcome stored origin later with
      | .ok result => .ok (result.originAfter origin) (drafted draft index [(c, result)])
      | .error reason => .error reason draft := by
  by_cases hmove : c.instruction = .moveOrigin
  · unfold Command.draft emit
    rw [outcome_of_moveOrigin hmove, if_pos hmove]
    cases hmoved : origin.move c with
    | ok moved =>
      have hpure : (MonadExcept.ofExcept (.ok moved) : Drafting Origin) = pure moved := rfl
      rw [hpure, reporting_pure]
      simp [drafted, CommandOutcome.originAfter, CommandOutcome.record?,
        Conversion.commandDiagnostic?]
    | error reason =>
      rw [Origin.move_eq_error hmoved]
      exact reporting_of_error _ _ _ rfl
  · rw [outcome_of_figure hmove]
    cases hfigure : c.figure stored origin later with
    | error cause =>
      rw [draft_of_cause hmove hfigure]
      rfl
    | ok figure? =>
      cases figure? with
      | none =>
        unfold Command.draft emit
        rw [if_neg hmove, hfigure]
        dsimp only
        rw [reporting_pure]
        simp [drafted, CommandOutcome.originAfter, CommandOutcome.record?,
          Conversion.commandDiagnostic?]
      | some figure =>
        rw [draft_of_figure hmove hfigure]
        dsimp only
        cases figure.record with
        | ok record => rfl
        | error reason =>
          dsimp only
          cases Cause.ofFault reason with
          | ok cause => rfl
          | error reason => rfl

theorem draftAll_eq (stored : List Text) (index : Nat) (origin : Origin)
    (commands : List Command) (draft : Draft) :
    draftAll stored index origin commands draft =
      match outcomes stored origin commands with
      | .ok _ => .ok () (drafted draft index (outcomesBeforeFault stored origin commands))
      | .error reason =>
        .error reason (drafted draft index (outcomesBeforeFault stored origin commands)) := by
  induction commands generalizing index origin draft with
  | nil => simp [draftAll, drafted, outcomes, outcomesBeforeFault, pure, EStateM.pure]
  | cons c later ih =>
    have hstep := c.draft_eq stored index origin later draft
    rw [draftAll, outcomesBeforeFault, outcomes]
    cases hresult : c.outcome stored origin later with
    | error reason =>
      rw [hresult] at hstep
      rw [bind_of_error hstep]
      simp [drafted]
    | ok result =>
      rw [hresult] at hstep
      rw [bind_of_ok hstep, ih, ← drafted_cons, ok_bind]
      cases outcomes stored (result.originAfter origin) later with
      | error reason => rfl
      | ok results => rfl

end Command

/-! ## The whole text -/

namespace Conversion

variable {strictness : Strictness} {config zpl : Text} {c : Conversion}

/-- The course of a label text. -/
def draft (strictness : Strictness) (zpl : Text) : Drafting Unit := do
  let downloads ← MonadExcept.ofExcept (Download.all zpl)
  let stored ← Download.draftAll strictness 0 [] downloads
  match labelBlock? zpl with
  | none => report blockDiagnostic
  | some block => Command.draftAll stored 0 .initial (Command.parse block)

/-- The label and the diagnostics of a conversion. -/
def drafted (c : Conversion) : Draft := ⟨c.label, c.diagnostics⟩

theorem drafted_none (config : Text) (graphics : List (Download × GraphicOutcome)) :
    drafted ⟨config, graphics, none⟩ =
      (Download.drafted (.empty config) 0 graphics).extend [] [] [blockDiagnostic] := by
  simp [drafted, Download.drafted, Draft.extend, Draft.empty, Label.empty, label, diagnostics]

theorem drafted_some (config : Text) (graphics : List (Download × GraphicOutcome))
    (results : List (Command × CommandOutcome)) :
    drafted ⟨config, graphics, some results⟩ =
      Command.drafted (Download.drafted (.empty config) 0 graphics) 0 results := by
  simp [drafted, Download.drafted, Command.drafted, Draft.extend, Draft.empty, Label.empty, label,
    diagnostics]

/-- The course behind its graphics. -/
theorem draft_of_graphics {downloads : List Download} {graphics : List (Download × GraphicOutcome)}
    (hall : Download.all zpl = .ok downloads)
    (hgraphics : downloads.mapM (fun d => do return (d, ← d.outcome strictness)) = .ok graphics) :
    draft strictness zpl (.empty config) =
      (match labelBlock? zpl with
      | none => report blockDiagnostic
      | some block => Command.draftAll (storedNames ⟨config, graphics, none⟩) 0 .initial
          (Command.parse block))
        (Download.drafted (.empty config) 0 graphics) := by
  have hstored := Download.draftAll_eq strictness 0 [] downloads (.empty config)
  rw [hgraphics, Download.outcomesBeforeFault_eq hgraphics] at hstored
  rw [storedNames_eq]
  unfold draft
  rw [hall]
  exact bind_of_ok hstored

/-- The course of a label text ends as its conversion does, with the label and the diagnostics of
    the outcomes up to there. -/
theorem draft_eq (strictness : Strictness) (config zpl : Text) :
    draft strictness zpl (.empty config) =
      match ofText strictness config zpl with
      | .ok _ => .ok () (untilFault strictness config zpl).drafted
      | .error reason => .error reason (untilFault strictness config zpl).drafted := by
  cases hall : Download.all zpl with
  | error reason =>
    unfold draft ofText untilFault
    rw [hall]
    rfl
  | ok downloads =>
    cases hgraphics : downloads.mapM fun d => do return (d, ← d.outcome strictness) with
    | error reason =>
      have hstored := Download.draftAll_eq strictness 0 [] downloads (.empty config)
      rw [hgraphics] at hstored
      have huntil : untilFault strictness config zpl =
          ⟨config, Download.outcomesBeforeFault strictness downloads, some []⟩ := by
        unfold untilFault
        rw [hall]
        exact if_pos (Download.length_outcomesBeforeFault_lt hgraphics)
      rw [huntil, drafted_some]
      unfold draft ofText
      rw [hall, ok_bind, hgraphics]
      refine (bind_of_error hstored).trans ?_
      exact congrArg _ (Draft.extend_nil _).symm
    | ok graphics =>
      rw [draft_of_graphics hall hgraphics,
        untilFault_of_block (c := ⟨config, graphics, none⟩) hall hgraphics]
      unfold ofText
      rw [hall, ok_bind, hgraphics, ok_bind]
      cases hblock : labelBlock? zpl with
      | none =>
        dsimp only
        rw [drafted_none]
        exact report_eq _ _
      | some block =>
        dsimp only
        rw [drafted_some, Command.draftAll_eq, storedNames_eq]
        cases Command.outcomes (graphics.filterMap fun g => g.2.image?.map StoredImage.name)
            .initial (Command.parse block) with
        | error reason => rfl
        | ok results => rfl

/-- The course of a conversion that goes through leaves the label and the diagnostics of that. -/
theorem draft_of_ofText (h : ofText strictness config zpl = .ok c) :
    draft strictness zpl (.empty config) = .ok () ⟨c.label, c.diagnostics⟩ := by
  rw [draft_eq, h, untilFault_eq h]
  rfl

end Conversion

end ThermalLabel
