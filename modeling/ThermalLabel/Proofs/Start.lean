/-
  The origin before any move behaves like one that is moved to 0, 0.

  It starts at whole numbers, and whole numbers are added exactly, while a move leaves doubles,
  whose sums are rounded. Beside 0 the two come to the same: a double is what it is when 0 is added
  to it, and a whole number is rounded once either way (`Position.edge_alike`). So the moves,
  records and reports of commands do not tell the two origins apart (`Command.outcomes_alike`), and
  a move to 0, 0 at the front of a label block only shifts the indexes behind it (`starts_moved`).
-/
import ThermalLabel.Proofs.Command.Writing
import ThermalLabel.Proofs.Offsets
import ThermalLabel.Proofs.Script.Dots
import ThermalLabel.Proofs.Strictness

namespace ThermalLabel

/-! ## Coordinates -/

theorem Number.asReal_real (x : Binary64) : (real x).asReal = .ok x := rfl

/-- A position is read off a finite double alone. -/
theorem Position.ofPixels_of_finite (given given' : Quantity) {negative : Bool} {units : Nat}
    (h : Binary64.Fits units) :
    ofPixels given (.finite negative units h) = ofPixels given' (.finite negative units h) := rfl

/-- A coordinate that a move may have set to the double 0, beside the same coordinate before. -/
inductive Number.Alike : Number → Number → Prop
  | same (n : Number) : Alike n n
  | zero : Alike (.real (.zero false)) (.integer 0)

namespace Number.Alike

variable {m n : Number}

theorem asReal_eq (h : m.Alike n) : m.asReal = n.asReal := by
  cases h with
  | same => rfl
  | zero =>
    rw [asReal_integer, Binary64.ofInt?_zero]
    rfl

theorem read_eq (h : m.Alike n) :
    Position.read (.number m) = Position.read (.number n) := by
  have hreal := h.asReal_eq
  cases h with
  | same => rfl
  | zero =>
    rw [Position.read_number, Position.read_number, ← hreal, Number.asReal_real, ok_bind, ok_bind]
    exact Position.ofPixels_of_finite _ _ _

end Number.Alike

/-- The far edge of a figure is the same whether a whole number is added to 0 exactly or to the
    double 0. -/
theorem Position.edge_alike {m n : Number} (h : m.Alike n) (size : Int) :
    edge (.number m) (.ofInt size) = edge (.number n) (.ofInt size) := by
  cases h with
  | same => rfl
  | zero =>
    have hexact : (Quantity.number (.integer 0)).plus (.ofInt size) =
        .ok (.number (.integer size)) := by
      show Except.ok (Quantity.number (.integer (0 + size))) = _
      rw [Int.zero_add]
    unfold edge
    rw [hexact, Quantity.plus_real_integer, ok_bind, read_number, Number.asReal_integer]
    cases hsize : Binary64.ofInt? size with
    | none => rfl
    | some x =>
      show read (.number (.real ((Binary64.zero false).add x))) = ofPixels (.ofInt size) x
      obtain ⟨units, hfits, rfl, hzero⟩ := Binary64.ofInt?_eq_some hsize
      have hsign : units = 0 → decide (size < 0) = false := by
        intro hunits
        rw [hzero hunits]
        exact decide_eq_false (Int.lt_irrefl 0)
      rw [Binary64.zero_add hfits hsign, read_number, Number.asReal_real, ok_bind]
      exact ofPixels_of_finite _ _ hfits

/-! ## Origins -/

/-- Two origins with coordinates that are drawn alike. -/
structure Origin.Alike (a b : Origin) : Prop where
  x : a.x.Alike b.x
  y : a.y.Alike b.y

namespace Origin

/-- The origin that a move to 0, 0 leaves. -/
def moved : Origin := ⟨.real (.zero false), .real (.zero false)⟩

theorem alike_initial : moved.Alike initial := ⟨.zero, .zero⟩

variable {a b : Origin}

theorem coordinate?_alike {m n : Number} (h : m.Alike n) (parameter : Text) :
    (coordinate? m parameter = none ∧ coordinate? n parameter = none) ∨
      ∃ m' n', coordinate? m parameter = some m' ∧ coordinate? n parameter = some n' ∧
        m'.Alike n' := by
  unfold coordinate?
  split
  · exact .inr ⟨m, n, rfl, rfl, h⟩
  · cases Numeral.real? parameter with
    | none => exact .inl ⟨rfl, rfl⟩
    | some x => exact .inr ⟨_, _, rfl, rfl, .same _⟩

/-- A move cannot be read from either origin, or leaves origins that are alike again. -/
theorem move_alike (h : a.Alike b) (c : Command) :
    (a.move c = .error (.notOrigin c.params) ∧ b.move c = .error (.notOrigin c.params)) ∨
      ∃ a' b', a.move c = .ok a' ∧ b.move c = .ok b' ∧ a'.Alike b' := by
  unfold move
  rcases coordinate?_alike h.x (c.parameter 0) with ⟨hx, hx'⟩ | ⟨x, x', hx, hx', halikeX⟩
  · rw [hx, hx']
    exact .inl ⟨rfl, rfl⟩
  rcases coordinate?_alike h.y (c.parameter 1) with ⟨hy, hy'⟩ | ⟨y, y', hy, hy', halikeY⟩
  · rw [hx, hx', hy, hy']
    exact .inl ⟨rfl, rfl⟩
  · rw [hx, hx', hy, hy']
    exact .inr ⟨_, _, rfl, rfl, halikeX, halikeY⟩

theorem follow_alike (h : a.Alike b) (c : Command) : (a.follow c).Alike (b.follow c) := by
  unfold follow
  split
  · rcases move_alike h c with ⟨ha, hb⟩ | ⟨a', b', ha, hb, halike⟩
    · rw [ha, hb]
      exact h
    · rw [ha, hb]
      exact halike
  · exact h

end Origin

/-! ## Figures -/

/-- A figure with an origin for its first corner. -/
def Figure.at (origin : Origin) : Figure → Figure
  | text _ _ body => text (.number origin.x) (.number origin.y) body
  | barcode _ _ code symbology => barcode (.number origin.x) (.number origin.y) code symbology
  | box _ _ width height thickness =>
    box (.number origin.x) (.number origin.y) width height thickness
  | circle _ _ diameter thickness =>
    circle (.number origin.x) (.number origin.y) diameter thickness
  | line _ _ width height thickness =>
    line (.number origin.x) (.number origin.y) width height thickness
  | recallImage _ _ name => recallImage (.number origin.x) (.number origin.y) name

namespace Command

variable {stored : List Text} {a b : Origin} {later : List Command} {c : Command}

/-- The origin enters a figure as its first corner and nowhere else. -/
theorem figure_at (stored : List Text) (a b : Origin) (later : List Command) (c : Command) :
    c.figure stored b later = (c.figure stored a later).map (Option.map (Figure.at b)) := by
  cases hasked : c.instruction with
  | moveOrigin | fieldData | other =>
    rw [figure, figure, hasked]
    rfl
  | qrCode | barcode =>
    rw [figure, figure, hasked]
    dsimp only
    cases barcodeData later <;> rfl
  | box =>
    rw [figure_of_box hasked, figure_of_box hasked]
    cases c.number 0 <;> cases c.number 1 <;> cases c.number 2 <;> rfl
  | line =>
    rw [figure_of_line hasked, figure_of_line hasked]
    cases c.number 0 <;> cases c.number 1 <;> cases c.number 2 <;> rfl
  | circle =>
    rw [figure_of_circle hasked, figure_of_circle hasked]
    cases c.number 0 <;> cases c.number 1 <;> rfl
  | recallImage =>
    rw [figure, figure, hasked]
    dsimp only
    split <;> rfl

theorem record_alike (h : a.Alike b) {drawn : Figure} (hdraw : c.Draw stored a later drawn) :
    (drawn.at b).record = drawn.record := by
  have hx := h.x.read_eq
  have hy := h.y.read_eq
  cases hdraw with
  | text | qrCode | barcode | circle | recallImage =>
    unfold Figure.at Figure.record
    dsimp only
    rw [hx, hy]
  | box =>
    unfold Figure.at
    dsimp only
    rw [Figure.record_box, Figure.record_box, Figure.cornered, Figure.cornered, hx, hy,
      Position.edge_alike h.x, Position.edge_alike h.y]
  | line =>
    unfold Figure.at
    dsimp only
    rw [Figure.record_line, Figure.record_line, Figure.cornered, Figure.cornered, hx, hy,
      Position.edge_alike h.x, Position.edge_alike h.y]

end Command

/-! ## Outcomes -/

/-- What became of a command, whatever the place where a move goes. -/
def CommandOutcome.unplaced : CommandOutcome → CommandOutcome
  | moved _ => moved .initial
  | outcome => outcome

namespace CommandOutcome

theorem record?_unplaced (result : CommandOutcome) : result.unplaced.record? = result.record? := by
  cases result <;> rfl

theorem cause?_unplaced (result : CommandOutcome) : result.unplaced.cause? = result.cause? := by
  cases result <;> rfl

end CommandOutcome

namespace Command

open CommandOutcome (unplaced)

variable {a b : Origin}

theorem outcome_alike (h : a.Alike b) (stored : List Text) (later : List Command) (c : Command) :
    (c.outcome stored a later).map unplaced = (c.outcome stored b later).map unplaced := by
  by_cases hmove : c.instruction = .moveOrigin
  · rw [outcome_of_moveOrigin hmove, outcome_of_moveOrigin hmove]
    rcases Origin.move_alike h c with ⟨ha, hb⟩ | ⟨a', b', ha, hb, -⟩
    · rw [ha, hb]
    · rw [ha, hb]
      rfl
  · have hfigure := figure_at stored a b later c
    rw [outcome_of_figure hmove, outcome_of_figure hmove, hfigure]
    cases hdrawing : c.figure stored a later with
    | error cause => rfl
    | ok drawing =>
      cases drawing with
      | none => rfl
      | some drawn =>
        have hdrawn : (Except.ok (some drawn) : Except Cause (Option Figure)).map
            (Option.map (Figure.at b)) = .ok (some (drawn.at b)) := rfl
        rw [hdrawn]
        dsimp only
        rw [record_alike h (figure_eq_some_iff.mp hdrawing)]

/-- Commands have the same outcomes from origins that are alike, but for the places where their
    moves go. -/
theorem outcomes_alike (h : a.Alike b) (stored : List Text) (list : List Command) :
    (outcomes stored a list).map (List.map fun l => (l.1, l.2.unplaced)) =
      (outcomes stored b list).map (List.map fun l => (l.1, l.2.unplaced)) := by
  induction list generalizing a b with
  | nil => rfl
  | cons c list ih =>
    have hstep := outcome_alike h stored list c
    rw [outcomes, outcomes]
    cases ha : c.outcome stored a list with
    | error reason =>
      rw [ha] at hstep
      rw [map_eq_error_iff.mp hstep.symm]
      rfl
    | ok result =>
      rw [ha] at hstep
      obtain ⟨result', hb, hresult⟩ := map_eq_ok_iff.mp hstep.symm
      have hothers := ih (Origin.follow_alike h c)
      rw [hb, ok_bind, ok_bind, originAfter_eq_follow ha, originAfter_eq_follow hb]
      cases hrest : outcomes stored (a.follow c) list with
      | error reason =>
        rw [hrest] at hothers
        rw [map_eq_error_iff.mp hothers.symm]
        rfl
      | ok others =>
        rw [hrest] at hothers
        obtain ⟨others', hrest', hsame⟩ := map_eq_ok_iff.mp hothers.symm
        rw [hrest', ok_bind, ok_bind]
        show Except.ok ((c, result.unplaced) :: _) = Except.ok ((c, result'.unplaced) :: _)
        rw [hresult, hsame]

/-- So do commands that stand elsewhere. -/
theorem outcomes_alike_bare (h : a.Alike b) (stored : List Text) {list list' : List Command}
    (hbare : list.map bare = list'.map bare) :
    (outcomes stored a list).map (List.map fun l => (l.1.bare, l.2.unplaced)) =
      (outcomes stored b list').map (List.map fun l => (l.1.bare, l.2.unplaced)) := by
  have hsplit : ∀ (origin : Origin) (list : List Command),
      (outcomes stored origin list).map (List.map fun l => (l.1.bare, l.2.unplaced)) =
        (outcomes stored origin (list.map bare)).map (List.map fun l => (l.1, l.2.unplaced)) := by
    intro origin list
    rw [outcomes_map_bare]
    cases outcomes stored origin list with
    | error reason => rfl
    | ok results =>
      show Except.ok _ = Except.ok (List.map _ (List.map _ results))
      rw [List.map_map]
      rfl
  rw [hsplit, hsplit, hbare, outcomes_alike h]

end Command

/-! ## Labels -/

/-- A diagnostic where one more command stands before its own. Those of the kind that the layout
    does not have are about graphics and keep their indexes. -/
def Diagnostic.shifted (report : Diagnostic) : Diagnostic :=
  if report.kind = .decode then report else { report with index := report.index.map (· + 1) }

namespace Diagnostic

theorem shifted_of_decode {report : Diagnostic} (h : report.kind = .decode) :
    report.shifted = report := if_pos h

theorem shifted_of_ne {i : Nat} {source : Text} {cause : Cause} (h : cause.kind ≠ .decode) :
    shifted ⟨some i, source, cause⟩ = ⟨some (i + 1), source, cause⟩ := if_neg h

end Diagnostic

namespace Conversion

/-- The second conversion has the graphics of the first and one more command in front, which draws
    nothing and is not reported. Behind it the commands and their outcomes are the same, but for
    where the commands stand and where their moves go. -/
structure Shifted (d c : Conversion) : Prop where
  config : c.config = d.config
  graphics : c.graphics = d.graphics
  layout : ∃ results first others, d.layout = some results ∧ c.layout = some (first :: others) ∧
    first.2.record? = none ∧ first.2.cause? = none ∧
    others.map (fun l => (l.1.bare, l.2.unplaced)) =
      results.map fun l => (l.1.bare, l.2.unplaced)

namespace Shifted

variable {c d : Conversion}

theorem script_eq (h : Shifted d c) : c.script = d.script := by
  obtain ⟨results, first, others, hd, hc, hrecord, -, hothers⟩ := h.layout
  have hview : ∀ list : List (Command × CommandOutcome),
      (list.map fun l => (l.1.bare, l.2.unplaced)).filterMap (fun l => l.2.record?) =
        list.filterMap fun l => l.2.record? := by
    intro list
    simp only [List.filterMap_map, Function.comp_def, CommandOutcome.record?_unplaced]
  have hrecords : (first :: others).filterMap (fun l => l.2.record?) =
      results.filterMap fun l => l.2.record? := by
    rw [List.filterMap_cons_none (by exact hrecord), ← hview, hothers, hview]
  have hlabel : c.label = d.label := by
    unfold label
    rw [h.config, h.graphics, hd, hc, Option.getD_some, Option.getD_some, hrecords]
  rw [script, hlabel, script]

theorem graphicReport?_eq (h : Shifted d c) (k : Nat) :
    c.graphicReport? k = d.graphicReport? k := by
  rw [graphicReport?, graphicReport?, h.graphics]

theorem commandReport?_zero (h : Shifted d c) : c.commandReport? 0 = none := by
  obtain ⟨results, first, others, -, hc, -, hcause, -⟩ := h.layout
  have hat : (c.layout.getD [])[0]? = some (first.1, first.2) := by rw [hc]; rfl
  rw [commandReport?_of_getElem? hat, hcause]
  rfl

theorem commandReport?_succ (h : Shifted d c)
    (hkind : ∀ (i : Nat) report, d.commandReport? i = some report → report.kind ≠ .decode)
    (i : Nat) : c.commandReport? (i + 1) = (d.commandReport? i).map Diagnostic.shifted := by
  obtain ⟨results, first, others, hd, hc, -, -, hothers⟩ := h.layout
  have hat : others[i]?.map (fun l => (l.1.bare, l.2.unplaced)) =
      results[i]?.map fun l => (l.1.bare, l.2.unplaced) := by
    rw [← List.getElem?_map, hothers, List.getElem?_map]
  have hnext : (c.layout.getD [])[i + 1]? = others[i]? := by rw [hc]; rfl
  have hsame : (d.layout.getD [])[i]? = results[i]? := by rw [hd]; rfl
  cases hresult : results[i]? with
  | none =>
    rw [hresult, Option.map_none, Option.map_eq_none_iff] at hat
    rw [commandReport?, commandReport?, hnext, hsame, hat, hresult]
    rfl
  | some l =>
    rw [hresult, Option.map_some, Option.map_eq_some_iff] at hat
    obtain ⟨l', hl', hview⟩ := hat
    obtain ⟨hbare, houtcome⟩ := Prod.ext_iff.mp hview
    have hcause : l'.2.cause? = l.2.cause? := by
      rw [← l'.2.cause?_unplaced, ← l.2.cause?_unplaced]
      exact congrArg CommandOutcome.cause? houtcome
    have hreport := commandReport?_of_getElem? (hsame.trans hresult)
    rw [commandReport?_of_getElem? (hnext.trans hl'), hcause, hreport]
    cases hl : l.2.cause? with
    | none => rfl
    | some cause =>
      rw [hl, Option.map_some] at hreport
      rw [Option.map_some, Option.map_some, Option.map_some,
        Diagnostic.shifted_of_ne (hkind i _ hreport), (Command.bare_eq_iff.mp hbare).1]

theorem diagnostics_eq_shifted (h : Shifted d c)
    (hgraphics : ∀ (k : Nat) report, d.graphicReport? k = some report → report.kind = .decode)
    (hcommands : ∀ (i : Nat) report, d.commandReport? i = some report → report.kind ≠ .decode) :
    c.diagnostics = d.diagnostics.map Diagnostic.shifted := by
  obtain ⟨results, first, others, hd, hc, -, -, hothers⟩ := h.layout
  have hlength : others.length = results.length := by
    rw [← List.length_map (fun l => (l.1.bare, l.2.unplaced)), hothers, List.length_map]
  have hkept : ∀ k, (d.graphicReport? k).map Diagnostic.shifted = d.graphicReport? k := by
    intro k
    cases hreport : d.graphicReport? k with
    | none => rfl
    | some report =>
      rw [Option.map_some, Diagnostic.shifted_of_decode (hgraphics k report hreport)]
  have hback : (c.layout.getD []).length = (d.layout.getD []).length + 1 := by
    rw [hc, hd, Option.getD_some, Option.getD_some, List.length_cons, hlength]
  rw [diagnostics_eq, diagnostics_eq, List.map_append, List.map_append, List.map_filterMap,
    List.map_filterMap, hback, List.range_succ_eq_map,
    List.filterMap_cons_none h.commandReport?_zero, List.filterMap_map, h.graphics]
  simp only [hkept, h.graphicReport?_eq, Function.comp_def, Nat.succ_eq_add_one,
    h.commandReport?_succ hcommands]
  simp [hc, hd]

end Shifted

/-! ## Texts -/

/-- The move to 0, 0. -/
def moveToStart : Command := .ofNumbers ['F', 'O'] [0, 0]

theorem isWritten_moveToStart : moveToStart.IsWritten :=
  Command.isWritten_ofNumbers ⟨'F', 'O', rfl, rfl, rfl⟩

theorem move_moveToStart (origin : Origin) : origin.move moveToStart = .ok .moved := by
  have hx : Origin.coordinate? origin.x (moveToStart.parameter 0) = _ :=
    Command.coordinate?_ofNumbers rfl Binary64.ofInt?_zero origin.x
  have hy : Origin.coordinate? origin.y (moveToStart.parameter 1) = _ :=
    Command.coordinate?_ofNumbers rfl Binary64.ofInt?_zero origin.y
  rw [Origin.move, hx, hy]
  rfl

variable {zpl other block block' : Text}

/-- Texts with the same downloads, of which the one has a move to 0, 0 in front of the commands that
    the other has. -/
theorem ofText_shifted (hsources : Download.sources zpl = Download.sources other)
    (hzpl : labelBlock? zpl = some block) (hother : labelBlock? other = some block')
    {list : List Command} (hparse : Command.parse block = moveToStart :: list)
    (hbare : list.map Command.bare = (Command.parse block').map Command.bare)
    (strictness : Strictness) (config : Text) :
    (∃ c d, ofText strictness config zpl = .ok c ∧ ofText strictness config other = .ok d ∧
      Shifted d c) ∨
    ∃ reason, ofText strictness config zpl = .error reason ∧
      ofText strictness config other = .error reason := by
  have hall : Download.all zpl = Download.all other := by
    rw [Download.all, hsources, Download.all]
  have hmoved : ∀ stored,
      Command.outcome stored .initial list moveToStart = .ok (.moved .moved) := by
    intro stored
    rw [Command.outcome_of_moveOrigin rfl, move_moveToStart]
  unfold ofText
  rw [hall]
  cases Download.all other with
  | error reason => exact .inr ⟨reason, rfl, rfl⟩
  | ok downloads =>
    rw [ok_bind, ok_bind]
    cases downloads.mapM fun d => do return (d, ← d.outcome strictness) with
    | error reason => exact .inr ⟨reason, rfl, rfl⟩
    | ok graphics =>
      rw [ok_bind, ok_bind]
      dsimp only
      generalize graphics.filterMap (fun g => g.2.image?.map StoredImage.name) = stored
      rw [hzpl, hother]
      dsimp only
      rw [hparse, Command.outcomes, hmoved, ok_bind]
      have houtcomes := Command.outcomes_alike_bare Origin.alike_initial stored hbare
      cases hlist : Command.outcomes stored .moved list with
      | error reason =>
        rw [hlist] at houtcomes
        have hlist' := map_eq_error_iff.mp houtcomes.symm
        refine .inr ⟨reason, ?_, ?_⟩
        · show (Command.outcomes stored .moved list >>= _) >>= _ = _
          rw [hlist]
          rfl
        · rw [hlist']
          rfl
      | ok others =>
        rw [hlist] at houtcomes
        obtain ⟨results, hresults, hview⟩ := map_eq_ok_iff.mp houtcomes.symm
        refine .inl ⟨⟨config, graphics, some ((moveToStart, .moved .moved) :: others)⟩,
          ⟨config, graphics, some results⟩, ?_, ?_, ?_⟩
        · show (Command.outcomes stored .moved list >>= _) >>= _ = _
          rw [hlist]
          rfl
        · rw [hresults]
          rfl
        · exact ⟨rfl, rfl, _, _, _, rfl, rfl, rfl, rfl, hview.symm⟩

/-- The label text that holds a block and nothing else. -/
def wrapped (block : Text) : Text := "^XA".toList ++ block ++ "^XZ".toList

theorem labelBlock?_wrapped (h : Text.cut? ['^', 'X', 'Z'] block = none) :
    labelBlock? (wrapped block) = some block := by
  have htext : wrapped block =
      [] ++ ['^', 'X', 'A'] ++ (block ++ (['^', 'X', 'Z'] ++ [])) := by simp [wrapped]
  rw [htext]
  exact labelBlock?_between rfl h []

theorem sources_wrapped (h : block.IsBreak) :
    Download.sources (wrapped block) = Download.sources block := by
  have hend : Text.IsBreak "^XZ".toList := Text.isBreak_caret _
  have hempty : Download.sources "^XA".toList = [] ∧ Download.sources "^XZ".toList = [] :=
    ⟨Download.sources_of_no_tilde (by decide), Download.sources_of_no_tilde (by decide)⟩
  rw [wrapped, Download.sources_append _ hend, Download.sources_append _ h, hempty.1, hempty.2,
    List.nil_append, List.append_nil]

theorem wrapped_moveToStart (block : Text) :
    wrapped (moveToStart.render ++ block) = "^XA^FO0,0".toList ++ block ++ "^XZ".toList := by
  have hrender : moveToStart.render = "^FO0,0".toList := by decide
  rw [wrapped, hrender, ← List.append_assoc]
  rfl

/-- A move to 0, 0 at the front of a label block does not change the script, and shifts the reports
    of the layout by one command; or the conversion ends with the same fault with it and without. -/
theorem starts_moved (strictness : Strictness) (config : Text) {block : Text}
    (hbreak : block.IsBreak) (hend : ¬ ['^', 'X', 'Z'] <:+: block) :
    (∃ c d,
      ofText strictness config ("^XA^FO0,0".toList ++ block ++ "^XZ".toList) = .ok c ∧
      ofText strictness config ("^XA".toList ++ block ++ "^XZ".toList) = .ok d ∧
      c.script = d.script ∧ c.diagnostics = d.diagnostics.map Diagnostic.shifted) ∨
    ∃ reason,
      ofText strictness config ("^XA^FO0,0".toList ++ block ++ "^XZ".toList) = .error reason ∧
      ofText strictness config ("^XA".toList ++ block ++ "^XZ".toList) = .error reason := by
  have hcut : Text.cut? ['^', 'X', 'Z'] block = none := Text.cut?_of_not_infix hend
  have hmovedCut : Text.cut? ['^', 'X', 'Z'] (moveToStart.render ++ block) = none := by
    rw [Text.cut?_append (by decide) (by decide) _ hbreak, hcut,
      Command.cut?_render isWritten_moveToStart (by decide)]
    rfl
  have hsources : Download.sources (wrapped (moveToStart.render ++ block)) =
      Download.sources (wrapped block) := by
    rw [sources_wrapped (moveToStart.isBreak_render_append hbreak), sources_wrapped hbreak,
      Download.sources_append _ hbreak, Command.sources_render isWritten_moveToStart,
      List.nil_append]
  have hparse : Command.parse (moveToStart.render ++ block) =
      moveToStart :: Command.parseFrom (0 + moveToStart.render.length) block := by
    rw [Command.parse, Command.parseFrom_append hbreak,
      Command.parseFrom_render isWritten_moveToStart]
    rfl
  rw [← wrapped_moveToStart, ← wrapped]
  rcases ofText_shifted hsources (labelBlock?_wrapped hmovedCut) (labelBlock?_wrapped hcut) hparse
      (Command.map_bare_parseFrom _ 0 block) strictness config with
    ⟨c, d, hc, hd, hshifted⟩ | herror
  · obtain ⟨downloads, -, hgraphics, -⟩ := ofText_eq_ok_iff.mp hd
    refine .inl ⟨c, d, hc, hd, hshifted.script_eq, ?_⟩
    exact hshifted.diagnostics_eq_shifted (fun _ _ => kind_of_graphicReport? hgraphics)
      fun _ _ => kind_ne_decode_of_commandReport? hd
  · exact .inr herror

/-- A block that draws a box and a line at the whole numbers 0, 0, a circle after a move of one
    coordinate, and has two commands and a graphic that are reported. -/
def unmovedBlock : Text := "^GB5,7,2^GD~DGA.GRF,1,1,G^FO3^GC9^GC-1^FO,-2^FDhi^FS".toList

theorem starts_moved_of_unmovedBlock :
    unmovedBlock.IsBreak ∧ ¬ ['^', 'X', 'Z'] <:+: unmovedBlock ∧ ∃ c d,
      ofText .lenient Label.defaultConfig
        ("^XA^FO0,0".toList ++ unmovedBlock ++ "^XZ".toList) = .ok c ∧
      ofText .lenient Label.defaultConfig ("^XA".toList ++ unmovedBlock ++ "^XZ".toList) = .ok d ∧
      c.script = d.script ∧ c.diagnostics = d.diagnostics.map Diagnostic.shifted := by
  have hbreak : unmovedBlock.IsBreak := Text.isBreak_caret _
  have hend : ¬ ['^', 'X', 'Z'] <:+: unmovedBlock := by decide +kernel
  refine ⟨hbreak, hend, ?_⟩
  rcases starts_moved .lenient Label.defaultConfig hbreak hend with h | ⟨reason, -, herror⟩
  · exact h
  · have hcompletes : (ofText .lenient Label.defaultConfig
        ("^XA".toList ++ unmovedBlock ++ "^XZ".toList)).isOk := by decide +kernel
    rw [herror] at hcompletes
    cases hcompletes

end Conversion

end ThermalLabel
