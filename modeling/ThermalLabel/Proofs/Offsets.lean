/-
  Where the commands of a label text stand does not matter.

  Nothing that a conversion makes of its commands depends on their offsets
  (`Command.outcomes_map_bare`). So texts with the same downloads and, but for their places, the
  same commands have the same script, the same diagnostics or the same fault
  (`Conversion.map_bare_ofText`).
-/
import ThermalLabel.Proofs.Locality

namespace ThermalLabel

namespace Command

/-- The outcomes of commands do not depend on where these stand. -/
theorem outcomes_map_bare (stored : List Text) (origin : Origin) (list : List Command) :
    outcomes stored origin (list.map bare) =
      (outcomes stored origin list).map (List.map fun l => (l.1.bare, l.2)) := by
  induction list generalizing origin with
  | nil => rfl
  | cons c list ih =>
    have hlater : c.bare.outcome stored origin (list.map bare) = c.outcome stored origin list :=
      outcome_congr (figure_congr Iff.rfl (fieldData?_map_bare list))
    rw [List.map_cons, outcomes, outcomes, hlater]
    cases c.outcome stored origin list with
    | error reason => rfl
    | ok result =>
      rw [ok_bind, ok_bind, ih]
      cases outcomes stored (result.originAfter origin) list <;> rfl

end Command

namespace Conversion

/-- A conversion without the places of the commands. -/
def bare (c : Conversion) : Conversion :=
  { c with layout := c.layout.map (List.map fun l => (l.1.bare, l.2)) }

theorem script_bare (c : Conversion) : c.bare.script = c.script := by
  have hrecords : c.bare.label = c.label := by
    obtain ⟨config, graphics, layout⟩ := c
    cases layout with
    | none => rfl
    | some commands => simp [bare, label, List.filterMap_map]
  unfold script
  rw [hrecords]

theorem diagnostics_bare (c : Conversion) : c.bare.diagnostics = c.diagnostics := by
  obtain ⟨config, graphics, layout⟩ := c
  cases layout with
  | none => rfl
  | some commands =>
    have hreport : ∀ (index : Nat) (l : Command × CommandOutcome),
        commandDiagnostic? index (l.1.bare, l.2) = commandDiagnostic? index l := by
      intro index l
      obtain ⟨command, outcome⟩ := l
      cases outcome <;> rfl
    simp [bare, diagnostics, List.zipIdx_map, List.filterMap_map, hreport]

/-- Texts with the same downloads and, but for their places, the same commands have the same
    conversions. -/
theorem map_bare_ofText {zpl other : Text}
    (hsources : Download.sources zpl = Download.sources other)
    (hblock : (labelBlock? zpl).map (fun block => (Command.parse block).map Command.bare) =
      (labelBlock? other).map fun block => (Command.parse block).map Command.bare)
    (strictness : Strictness) (config : Text) :
    (ofText strictness config zpl).map bare = (ofText strictness config other).map bare := by
  have hall : Download.all zpl = Download.all other := by
    unfold Download.all
    rw [hsources]
  unfold ofText
  rw [hall]
  cases Download.all other with
  | error reason => rfl
  | ok downloads =>
    rw [ok_bind, ok_bind]
    cases downloads.mapM fun d => do return (d, ← d.outcome strictness) with
    | error reason => rfl
    | ok graphics =>
      rw [ok_bind, ok_bind]
      dsimp only
      generalize graphics.filterMap (fun g => g.2.image?.map StoredImage.name) = stored
      cases hzpl : labelBlock? zpl with
      | none =>
        rw [hzpl] at hblock
        rw [Option.map_eq_none_iff.mp hblock.symm]
      | some block =>
        rw [hzpl] at hblock
        obtain ⟨block', hother, hcommands⟩ := Option.map_eq_some_iff.mp hblock.symm
        dsimp only at hcommands
        rw [hother]
        have houtcomes := Command.outcomes_map_bare stored .initial (Command.parse block)
        rw [← hcommands, Command.outcomes_map_bare] at houtcomes
        dsimp only
        cases h : Command.outcomes stored .initial (Command.parse block) with
        | error reason =>
          rw [h] at houtcomes
          rw [map_eq_error_iff.mp houtcomes]
        | ok results =>
          rw [h] at houtcomes
          obtain ⟨results', h', hsame⟩ := map_eq_ok_iff.mp houtcomes
          rw [h', ok_bind, ok_bind]
          exact congrArg (fun l => Except.ok (Conversion.mk config graphics (some l))) hsame.symm

end Conversion

end ThermalLabel
