/-
  Exchange of a command in a label text.

  `exchange?` writes another command in the place of the one with a given index of the label
  block. The block of the new text is the old one with that command exchanged
  (`Exchanged.map_bare_commands`), and its downloads are the same (`Exchanged.sources_eq`): as marks
  and downloads start at a break, they lie wholly before the command or wholly behind it.
-/
import ThermalLabel.Proofs.Conversion

namespace ThermalLabel

/-! ## The text of a command -/

namespace Command

theorem isBreak_render_append (c : Command) {t : Text} (ht : t.IsBreak) :
    (c.render ++ t).IsBreak := Text.isBreak_append (Text.isBreak_caret _) ht

theorem sources_render {c : Command} (h : c.IsWritten) : Download.sources c.render = [] := by
  apply Download.sources_of_no_tilde
  unfold render
  rw [List.cons_append, List.mem_cons]
  rintro (hcaret | hrest)
  · cases hcaret
  · exact h.tilde_not_mem hrest

/-- The text of a command holds no mark but that of its own opcode. -/
theorem cut?_render {c : Command} (h : c.IsWritten) {a b : Char} (hopcode : c.opcode ≠ [a, b]) :
    Text.cut? ['^', a, b] c.render = none := by
  obtain ⟨x, y, hxy, -, -⟩ := h.opcode
  have hfront : ¬ List.isPrefixOf ['^', a, b] ('^' :: (c.opcode ++ c.params)) := by
    rw [hxy] at hopcode ⊢
    intro hmark
    apply hopcode
    simp only [List.cons_append, List.isPrefixOf, BEq.rfl, Bool.true_and, Bool.and_true,
      Bool.and_eq_true, beq_iff_eq] at hmark
    rw [hmark.1, hmark.2]
  unfold render
  rw [List.cons_append, Text.cut?, if_neg hfront, Text.cut?_of_no_caret h.caret_not_mem]
  rfl

end Command

/-! ## The exchange -/

/-- A block with another command written in the place of one of its commands. -/
def Command.replaceIn (block : Text) (old new : Command) : Text :=
  block.take old.offset.toNat ++ new.render ++
    block.drop (old.offset.toNat + old.render.length)

/-- A label text with another command in the place of the one with an index of its block. -/
def exchange? (zpl : Text) (i : Nat) (new : Command) : Option Text := do
  let (before, after) ← Text.cut? ['^', 'X', 'A'] zpl
  let (block, rest) ← Text.cut? ['^', 'X', 'Z'] after
  let old ← (Command.parse block)[i]?
  return before ++ ['^', 'X', 'A'] ++
    (Command.replaceIn block old new ++ (['^', 'X', 'Z'] ++ rest))

/-- The parts of a label text around a command, and the text with another command between
    them. -/
structure Exchanged (zpl other before front back rest : Text) (i : Nat) (old new : Command) :
    Prop where
  written : old.IsWritten
  block : Text.cut? ['^', 'X', 'A'] zpl =
    some (before, front ++ (old.render ++ (back ++ (['^', 'X', 'Z'] ++ rest))))
  ending : Text.cut? ['^', 'X', 'Z']
      (front ++ (old.render ++ (back ++ (['^', 'X', 'Z'] ++ rest)))) =
    some (front ++ old.render ++ back, rest)
  isBreak : back.IsBreak
  index : (Command.parse front).length = i
  found : (Command.parse (front ++ old.render ++ back))[i]? = some old
  other : other = before ++ ['^', 'X', 'A'] ++
    (front ++ (new.render ++ (back ++ (['^', 'X', 'Z'] ++ rest))))

variable {zpl other : Text} {i : Nat} {new : Command}

theorem exists_exchanged (h : exchange? zpl i new = some other) :
    ∃ before front back rest old, Exchanged zpl other before front back rest i old new := by
  unfold exchange? at h
  simp only [Option.bind_eq_bind, Option.bind_eq_some_iff, Option.pure_def, Option.some.injEq] at h
  obtain ⟨⟨before, after⟩, hbefore, ⟨block, rest⟩, hblock, old, hold, rfl⟩ := h
  obtain ⟨hwritten, front, back, hparts, hback, hoffset, hindex⟩ :=
    Command.exists_of_parseFrom_getElem? hold
  dsimp only at hblock hold
  have hafter := Text.eq_append_of_cut? hblock
  subst hparts
  have htail : after = front ++ (old.render ++ (back ++ (['^', 'X', 'Z'] ++ rest))) := by
    rw [hafter]
    simp only [List.append_assoc]
  have hreplace : Command.replaceIn (front ++ old.render ++ back) old new =
      front ++ new.render ++ back := by
    have hfront : old.offset.toNat = front.length := by
      rw [hoffset]
      omega
    rw [Command.replaceIn, hfront, ← List.length_append, List.drop_left, List.append_assoc front,
      List.take_left]
  subst htail
  refine ⟨before, front, back, rest, old, hwritten, hbefore, hblock, hback, hindex, hold, ?_⟩
  dsimp only
  rw [hreplace]
  simp only [List.append_assoc]

namespace Exchanged

variable {before front back rest : Text} {old : Command}

theorem isBreak_tail (h : Exchanged zpl other before front back rest i old new) :
    (back ++ (['^', 'X', 'Z'] ++ rest)).IsBreak :=
  Text.isBreak_append h.isBreak (Text.isBreak_caret _)

theorem zpl_eq (h : Exchanged zpl other before front back rest i old new) :
    zpl = before ++ ['^', 'X', 'A'] ++
      (front ++ (old.render ++ (back ++ (['^', 'X', 'Z'] ++ rest)))) :=
  Text.eq_append_of_cut? h.block

theorem sources_eq (h : Exchanged zpl other before front back rest i old new)
    (hnew : new.IsWritten) : Download.sources other = Download.sources zpl := by
  have hsources : ∀ {c : Command}, c.IsWritten →
      Download.sources (before ++ ['^', 'X', 'A'] ++
        (front ++ (c.render ++ (back ++ (['^', 'X', 'Z'] ++ rest))))) =
        Download.sources (before ++ ['^', 'X', 'A'] ++ front) ++
          Download.sources (back ++ (['^', 'X', 'Z'] ++ rest)) := by
    intro c hc
    rw [← List.append_assoc,
      Download.sources_append _ (Command.isBreak_render_append c h.isBreak_tail),
      Download.sources_append _ h.isBreak_tail, Command.sources_render hc, List.nil_append]
  rw [h.other, hsources hnew, h.zpl_eq, hsources h.written]

/-- The block ends at the same mark, as the new command is not that mark. -/
theorem labelBlock?_eq (h : Exchanged zpl other before front back rest i old new)
    (hnew : new.IsWritten) (hopcode : new.opcode ≠ ['X', 'Z']) :
    labelBlock? zpl = some (front ++ old.render ++ back) ∧
      labelBlock? other = some (front ++ new.render ++ back) := by
  have hxa : 'X' ≠ '^' ∧ 'X' ≠ '~' := by decide
  have hxz : 'Z' ≠ '^' ∧ 'Z' ≠ '~' := by decide
  constructor
  · unfold labelBlock?
    rw [h.block]
    simp only [Option.bind_eq_bind, Option.bind_some]
    rw [h.ending]
    rfl
  · have hstart : Text.cut? ['^', 'X', 'A'] other =
        some (before, front ++ (new.render ++ (back ++ (['^', 'X', 'Z'] ++ rest)))) := by
      have hblock := h.block
      rw [h.zpl_eq] at hblock
      rw [h.other]
      exact Text.cut?_exchange_after hblock _
    have hending := h.ending
    rw [List.append_assoc,
      Text.cut?_append_eq_some_iff hxa hxz (old.isBreak_render_append h.isBreak_tail),
      Text.cut?_append_eq_some_iff hxa hxz h.isBreak_tail] at hending
    have hnewEnding : Text.cut? ['^', 'X', 'Z']
        (front ++ (new.render ++ (back ++ (['^', 'X', 'Z'] ++ rest)))) =
          some (front ++ (new.render ++ back), rest) := by
      rw [Text.cut?_append_eq_some_iff hxa hxz (new.isBreak_render_append h.isBreak_tail),
        Text.cut?_append_eq_some_iff hxa hxz h.isBreak_tail]
      exact ⟨hending.1, Command.cut?_render hnew hopcode, hending.2.2⟩
    unfold labelBlock?
    rw [hstart]
    simp only [Option.bind_eq_bind, Option.bind_some]
    rw [hnewEnding, List.append_assoc]
    rfl

/-- The new command takes the index of the old one; the others stay as they are but for their
    offsets. -/
theorem map_bare_commands (h : Exchanged zpl other before front back rest i old new)
    (hnew : new.IsWritten) (hopcode : new.opcode ≠ ['X', 'Z']) :
    (Conversion.commands other).map Command.bare =
      ((Conversion.commands zpl).map Command.bare).set i new.bare := by
  obtain ⟨hblock, hotherBlock⟩ := h.labelBlock?_eq hnew hopcode
  unfold Conversion.commands
  rw [hblock, hotherBlock, ← h.index]
  exact Command.map_bare_parse_exchange h.written hnew h.isBreak

end Exchanged

end ThermalLabel
