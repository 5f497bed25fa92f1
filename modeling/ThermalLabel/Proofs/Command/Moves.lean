/-
  The origin behind any run of moves.

  A move is refused exactly if one of its first two parameters is neither empty nor a double, and
  then it leaves the origin alone (`Origin.exists_move_eq_error_iff`). So the two coordinates only
  share the refusals: each is the double last given for it by a move that is not refused
  (`Origin.coordinate_along`), and what stands behind the second comma does not count.
-/
import ThermalLabel.Proofs.Layout
import ThermalLabel.Proofs.Command.Writing

namespace ThermalLabel

/-- The direction of a coordinate. -/
inductive Axis where
  | horizontal
  | vertical
  deriving DecidableEq

/-- The number of the parameter that sets a coordinate. -/
def Axis.index : Axis → Nat
  | horizontal => 0
  | vertical => 1

/-- The coordinate of an origin in a direction. -/
def Origin.coordinate (origin : Origin) : Axis → Number
  | .horizontal => origin.x
  | .vertical => origin.y

theorem Origin.ext_coordinate {origin origin' : Origin}
    (h : ∀ axis, origin.coordinate axis = origin'.coordinate axis) : origin = origin' := by
  cases origin
  cases origin'
  rw [Origin.mk.injEq]
  exact ⟨h .horizontal, h .vertical⟩

/-! ## The parameters of a move -/

namespace Command

/-- The parameter of a direction is neither empty nor the text of a double. -/
def Unreadable (c : Command) (axis : Axis) : Prop :=
  c.parameter axis.index ≠ [] ∧ Numeral.real? (c.parameter axis.index) = none

instance (c : Command) (axis : Axis) : Decidable (c.Unreadable axis) :=
  inferInstanceAs (Decidable (_ ∧ _))

/-- The command is a move that is not refused. -/
def Moves (c : Command) : Prop :=
  c.opcode = ['F', 'O'] ∧ ¬ c.Unreadable .horizontal ∧ ¬ c.Unreadable .vertical

instance (c : Command) : Decidable c.Moves := inferInstanceAs (Decidable (_ ∧ _))

/-- The double that is given for a direction, none if the parameter is empty. -/
def given? (c : Command) (axis : Axis) : Option Binary64 :=
  if c.parameter axis.index = [] then none else Numeral.real? (c.parameter axis.index)

theorem moves_iff {c : Command} :
    c.Moves ↔ c.opcode = ['F', 'O'] ∧ ∀ axis, ¬ c.Unreadable axis := by
  refine and_congr_right fun _ => ⟨?_, fun h => ⟨h _, h _⟩⟩
  rintro ⟨hx, hy⟩ axis
  cases axis with
  | horizontal => exact hx
  | vertical => exact hy

/-- The double last given for a direction by a move that is not refused. -/
def lastGiven? (axis : Axis) (commands : List Command) : Option Binary64 :=
  ((commands.filter fun c => c.Moves).filterMap fun c => c.given? axis).getLast?

theorem lastGiven?_concat (axis : Axis) (commands : List Command) (c : Command) :
    lastGiven? axis (commands ++ [c]) =
      if c.Moves then (c.given? axis).or (lastGiven? axis commands)
      else lastGiven? axis commands := by
  unfold lastGiven?
  by_cases hmoves : c.Moves
  · rw [if_pos hmoves, List.filter_append, List.filter_singleton, decide_eq_true hmoves]
    cases hgiven : c.given? axis with
    | none => simp [hgiven]
    | some v => simp [hgiven]
  · rw [if_neg hmoves, List.filter_append, List.filter_singleton, decide_eq_false hmoves]
    simp

/-- A command without the parameters behind the second. -/
def firstTwo (c : Command) : Command :=
  { c with params := [','].intercalate ((Text.fields ',' c.params).take 2) }

end Command

theorem Text.not_mem_of_mem_fields {separator : Char} {t piece : Text}
    (h : piece ∈ fields separator t) : separator ∉ piece := by
  induction t generalizing piece with
  | nil =>
    rw [fields, List.mem_singleton] at h
    subst h
    exact List.not_mem_nil
  | cons c t ih =>
    rw [fields] at h
    split at h
    · rcases List.mem_cons.mp h with rfl | h
      · exact List.not_mem_nil
      · exact ih h
    · next hc =>
      split at h
      · next hnil => exact absurd hnil (fields_ne_nil separator t)
      · next first others hfields =>
        rw [hfields] at ih
        rcases List.mem_cons.mp h with rfl | h
        · rw [List.mem_cons, not_or]
          exact ⟨Ne.symm hc, ih List.mem_cons_self⟩
        · exact ih (List.mem_cons_of_mem _ h)

namespace Command

theorem parameters_firstTwo (c : Command) : c.firstTwo.parameters = c.parameters.take 2 := by
  have hne : (Text.fields ',' c.params).take 2 ≠ [] := by
    simpa using Text.fields_ne_nil ',' c.params
  have hpieces : ∀ piece ∈ (Text.fields ',' c.params).take 2, ',' ∉ piece := fun piece h =>
    Text.not_mem_of_mem_fields (List.mem_of_mem_take h)
  rw [parameters, firstTwo, Text.fields_intercalate hne hpieces, List.map_take, parameters]

theorem parameter_firstTwo (c : Command) (axis : Axis) :
    c.firstTwo.parameter axis.index = c.parameter axis.index := by
  have hindex : axis.index < 2 := by cases axis <;> decide
  rw [parameter, parameters_firstTwo, List.getElem?_take_of_lt hindex, parameter]

theorem unreadable_firstTwo (c : Command) (axis : Axis) :
    c.firstTwo.Unreadable axis ↔ c.Unreadable axis := by
  rw [Unreadable, parameter_firstTwo, Unreadable]

theorem given?_firstTwo (c : Command) (axis : Axis) : c.firstTwo.given? axis = c.given? axis := by
  rw [given?, parameter_firstTwo, given?]

theorem moves_firstTwo (c : Command) : c.firstTwo.Moves ↔ c.Moves := by
  rw [Moves, unreadable_firstTwo, unreadable_firstTwo]
  exact Iff.rfl

end Command

/-! ## One move -/

namespace Origin

variable {origin : Origin} {c : Command}

theorem coordinate?_eq_none_iff {current : Number} {axis : Axis} :
    coordinate? current (c.parameter axis.index) = none ↔ c.Unreadable axis := by
  unfold coordinate? Command.Unreadable
  split
  · next hempty => simp [hempty]
  · next hne => simp [hne]

theorem coordinate?_eq_some {current : Number} {axis : Axis} (h : ¬ c.Unreadable axis) :
    coordinate? current (c.parameter axis.index) =
      some ((c.given? axis).elim current .real) := by
  unfold Command.Unreadable at h
  unfold coordinate? Command.given?
  split
  · rfl
  · next hne =>
    obtain ⟨v, hv⟩ := Option.ne_none_iff_exists'.mp fun hnone => h ⟨hne, hnone⟩
    rw [hv]
    rfl

/-- A move that is not refused sets each coordinate to what is given for it. -/
theorem exists_move_eq_ok (origin : Origin) (h : ∀ axis, ¬ c.Unreadable axis) :
    ∃ moved, origin.move c = .ok moved ∧
      ∀ axis, moved.coordinate axis = (c.given? axis).elim (origin.coordinate axis) .real := by
  have hx : coordinate? origin.x (c.parameter 0) = _ := coordinate?_eq_some (h .horizontal)
  have hy : coordinate? origin.y (c.parameter 1) = _ := coordinate?_eq_some (h .vertical)
  refine ⟨⟨_, _⟩, by rw [move, hx, hy], ?_⟩
  rintro (_ | _) <;> rfl

theorem exists_move_eq_error_iff :
    (∃ reason, origin.move c = .error reason) ↔ ∃ axis, c.Unreadable axis := by
  constructor
  · rintro ⟨reason, hmove⟩
    by_contra hnone
    obtain ⟨moved, hok, -⟩ := exists_move_eq_ok origin (not_exists.mp hnone)
    rw [hok] at hmove
    cases hmove
  · rintro ⟨axis, h⟩
    refine ⟨.notOrigin c.params, ?_⟩
    cases axis with
    | horizontal =>
      have hnone : coordinate? origin.x (c.parameter 0) = none := coordinate?_eq_none_iff.mpr h
      rw [move, hnone]
    | vertical =>
      have hnone : coordinate? origin.y (c.parameter 1) = none := coordinate?_eq_none_iff.mpr h
      rw [move, hnone]
      cases coordinate? origin.x (c.parameter 0) <;> rfl

theorem follow_of_error {reason : Fault} (h : origin.move c = .error reason) :
    origin.follow c = origin := by
  rw [follow, h]
  exact ite_self origin

theorem follow_of_not_moves (h : ¬ c.Moves) : origin.follow c = origin := by
  by_cases hopcode : c.opcode = ['F', 'O']
  · have hunreadable : ∃ axis, c.Unreadable axis := by
      by_contra hnone
      exact h (Command.moves_iff.mpr ⟨hopcode, not_exists.mp hnone⟩)
    obtain ⟨reason, hmove⟩ := exists_move_eq_error_iff.mpr hunreadable
    exact follow_of_error hmove
  · rw [follow, if_neg hopcode]

theorem coordinate_follow (axis : Axis) :
    (origin.follow c).coordinate axis =
      if c.Moves then (c.given? axis).elim (origin.coordinate axis) .real
      else origin.coordinate axis := by
  by_cases hmoves : c.Moves
  · obtain ⟨hopcode, hreadable⟩ := Command.moves_iff.mp hmoves
    obtain ⟨moved, hmove, hmoved⟩ := exists_move_eq_ok origin hreadable
    rw [if_pos hmoves, follow, if_pos hopcode, hmove, ← hmoved]
    rfl
  · rw [if_neg hmoves, follow_of_not_moves hmoves]

/-! ## Many moves -/

/-- Each coordinate is the one last given, and the one from the start if none is. -/
theorem coordinate_along (origin : Origin) (commands : List Command) (axis : Axis) :
    (origin.along commands).coordinate axis =
      (Command.lastGiven? axis commands).elim (origin.coordinate axis) .real := by
  induction commands using List.reverseRecOn with
  | nil => rfl
  | append_singleton commands c ih =>
    have hlast : origin.along (commands ++ [c]) = (origin.along commands).follow c :=
      List.foldl_concat ..
    rw [hlast, coordinate_follow, ih, Command.lastGiven?_concat]
    by_cases hmoves : c.Moves
    · rw [if_pos hmoves, if_pos hmoves]
      cases c.given? axis <;> rfl
    · rw [if_neg hmoves, if_neg hmoves]

theorem lastGiven?_firstTwo (axis : Axis) (commands : List Command) :
    Command.lastGiven? axis (commands.map .firstTwo) = Command.lastGiven? axis commands := by
  induction commands using List.reverseRecOn with
  | nil => rfl
  | append_singleton commands c ih =>
    rw [List.map_append, List.map_singleton, Command.lastGiven?_concat,
      Command.lastGiven?_concat, ih, Command.given?_firstTwo]
    simp only [Command.moves_firstTwo]

/-- Behind any run of moves each coordinate is the double last given for it by a move that is not
    refused, or zero. A move is refused exactly if its first or its second parameter is neither
    empty nor a double; it is reported as malformed and leaves both coordinates. What stands behind
    the second parameter does not count. -/
theorem along_initial (commands : List Command) :
    (∀ axis, (initial.along commands).coordinate axis =
        (Command.lastGiven? axis commands).elim (.integer 0) .real) ∧
      initial.along (commands.map .firstTwo) = initial.along commands ∧
      ∀ (origin : Origin) (c : Command),
        ((∃ reason, origin.move c = .error reason) ↔ ∃ axis, c.Unreadable axis) ∧
          ∀ reason, origin.move c = .error reason →
            reason = .notOrigin c.params ∧ origin.follow c = origin := by
  have hinitial : ∀ axis, initial.coordinate axis = .integer 0 := by
    rintro (_ | _) <;> rfl
  refine ⟨fun axis => ?_, ext_coordinate fun axis => ?_, fun origin c =>
    ⟨exists_move_eq_error_iff, fun reason h => ⟨move_eq_error h, follow_of_error h⟩⟩⟩
  · rw [coordinate_along, hinitial]
  · rw [coordinate_along, coordinate_along, lastGiven?_firstTwo]

/-- A whole move, one that is refused, one for each coordinate alone, and a command of another
    kind. -/
def mixedMoves : List Command :=
  Command.parse "^FO1.5,2^FO5,a^FO,3^FO4,,x^FD9".toList

theorem along_initial_of_mixedMoves :
    (∃ x y, Numeral.real? ['4'] = some x ∧ Numeral.real? ['3'] = some y ∧
      initial.along mixedMoves = ⟨.real x, .real y⟩ ∧
      initial.along (mixedMoves.map .firstTwo) = ⟨.real x, .real y⟩) ∧
    ∀ origin : Origin, origin.move ⟨['F', 'O'], ['5', ',', 'a'], 8⟩ =
        .error (.notOrigin ['5', ',', 'a']) ∧
      origin.follow ⟨['F', 'O'], ['5', ',', 'a'], 8⟩ = origin := by
  obtain ⟨hcoordinate, hfirstTwo, hrefused⟩ := along_initial mixedMoves
  have hlast : Command.lastGiven? .horizontal mixedMoves = Numeral.real? ['4'] ∧
      Command.lastGiven? .vertical mixedMoves = Numeral.real? ['3'] ∧
      (Numeral.real? ['4']).isSome ∧ (Numeral.real? ['3']).isSome := by decide +kernel
  obtain ⟨hx, hy, hfour, hthree⟩ := hlast
  obtain ⟨x, hfour⟩ := Option.isSome_iff_exists.mp hfour
  obtain ⟨y, hthree⟩ := Option.isSome_iff_exists.mp hthree
  have halong : initial.along mixedMoves = ⟨.real x, .real y⟩ := by
    refine ext_coordinate fun axis => ?_
    rw [hcoordinate]
    cases axis with
    | horizontal => rw [hx, hfour]; rfl
    | vertical => rw [hy, hthree]; rfl
  refine ⟨⟨x, y, hfour, hthree, halong, hfirstTwo.trans halong⟩, fun origin => ?_⟩
  have hunreadable : (⟨['F', 'O'], ['5', ',', 'a'], 8⟩ : Command).Unreadable .vertical := by
    decide +kernel
  obtain ⟨reason, hmove⟩ := (hrefused origin _).1.mpr ⟨.vertical, hunreadable⟩
  obtain ⟨rfl, hfollow⟩ := (hrefused origin _).2 reason hmove
  exact ⟨hmove, hfollow⟩

end Origin

end ThermalLabel
