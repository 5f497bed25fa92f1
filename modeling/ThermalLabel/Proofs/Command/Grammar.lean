/-
  The grammar of commands.

  A command starts at every caret with two capitals or digits behind it, and nowhere else, whatever
  stands around it; its parameters are all that follows up to the next caret or tilde
  (`mem_parse_iff`). Reading the commands one behind the other, each from where the one before it
  ends, misses none (`scanFrom_eq`), and commands that are written one behind the other are read at
  the places where they were put (`parse_renderAll`). All of this together is `parse_exact`.
-/
import ThermalLabel.Proofs.Command.Writing

namespace ThermalLabel

namespace Command

/-! ## Where a command stands -/

/-- A capital letter or a digit of ASCII. -/
def IsOpcode (x : Char) : Prop := ('A' ≤ x ∧ x ≤ 'Z') ∨ ('0' ≤ x ∧ x ≤ '9')

theorem isOpcode_iff {x : Char} : isOpcode x ↔ IsOpcode x := by
  simp only [isOpcode, IsOpcode, Char.isUpper, Char.isDigit, Bool.or_eq_true, Bool.and_eq_true,
    decide_eq_true_eq, Char.le_def, ge_iff_le]

/-- A caret stands at the place, and two capitals or digits behind it. -/
structure StartsAt (block : Text) (p : Nat) : Prop where
  caret : block[p]? = some '^'
  first : ∃ a, block[p + 1]? = some a ∧ IsOpcode a
  second : ∃ b, block[p + 2]? = some b ∧ IsOpcode b

/-- The longest piece at the front of a text that holds neither caret nor tilde. -/
structure IsLongestRun (run t : Text) : Prop where
  front : run <+: t
  plain : ∀ x ∈ run, x ≠ '^' ∧ x ≠ '~'
  longest : ∀ piece, piece <+: t → (∀ x ∈ piece, x ≠ '^' ∧ x ≠ '~') → piece <+: run

/-- The command stands in the block, at the place that is its offset. -/
def StandsIn (c : Command) (block : Text) : Prop :=
  ∃ p : Nat, c.offset = p ∧ StartsAt block p ∧ c.opcode = (block.drop (p + 1)).take 2 ∧
    IsLongestRun c.params (block.drop (p + 3))

theorem isParameter_iff {x : Char} : isParameter x ↔ x ≠ '^' ∧ x ≠ '~' := by
  simp [isParameter]

theorem isLongestRun_iff {run t : Text} : IsLongestRun run t ↔ run = t.takeWhile isParameter := by
  have htake : IsLongestRun (t.takeWhile isParameter) t := by
    refine ⟨List.takeWhile_prefix _, ?_, ?_⟩
    · intro x hx
      exact isParameter_iff.mp (List.mem_takeWhile_imp hx)
    · rintro piece ⟨rest, rfl⟩ hplain
      rw [List.takeWhile_append_of_pos fun x hx => isParameter_iff.mpr (hplain x hx)]
      exact List.prefix_append _ _
  constructor
  · intro h
    have hle := h.longest _ htake.front htake.plain
    exact (htake.longest _ h.front h.plain).eq_of_length_le hle.length_le
  · rintro rfl
    exact htake

/-! ## Soundness and completeness -/

theorem command?_eq_some_iff {offset : Nat} {t : Text} {c : Command} :
    command? offset t = some c ↔
      StartsAt t 0 ∧ c = ⟨(t.drop 1).take 2, (t.drop 3).takeWhile isParameter, offset⟩ := by
  rw [command?.eq_def]
  split
  · next a b rest =>
    have hstart : StartsAt ('^' :: a :: b :: rest) 0 ↔ isOpcode a && isOpcode b := by
      rw [Bool.and_eq_true, isOpcode_iff, isOpcode_iff]
      constructor
      · rintro ⟨-, ⟨x, hx, ha⟩, ⟨y, hy, hb⟩⟩
        obtain rfl : a = x := Option.some.inj hx
        obtain rfl : b = y := Option.some.inj hy
        exact ⟨ha, hb⟩
      · rintro ⟨ha, hb⟩
        exact ⟨rfl, ⟨a, rfl, ha⟩, ⟨b, rfl, hb⟩⟩
    rw [hstart]
    split
    · next hop => simp [hop, eq_comm]
    · next hop => simp [hop]
  · next hshape =>
    constructor
    · intro h
      cases h
    · rintro ⟨⟨hcaret, ⟨a, ha, -⟩, ⟨b, hb, -⟩⟩, -⟩
      rcases t with _ | ⟨x, _ | ⟨y, _ | ⟨z, rest⟩⟩⟩
      · cases hcaret
      · cases ha
      · cases hb
      · cases hcaret
        exact absurd rfl (hshape y z rest)

theorem startsAt_drop_iff {t : Text} {p : Nat} : StartsAt (t.drop p) 0 ↔ StartsAt t p := by
  constructor
  · rintro ⟨hcaret, hfirst, hsecond⟩
    simp only [List.getElem?_drop] at hcaret hfirst hsecond
    exact ⟨hcaret, hfirst, hsecond⟩
  · rintro ⟨hcaret, hfirst, hsecond⟩
    refine ⟨?_, ?_, ?_⟩ <;> simp only [List.getElem?_drop]
    · exact hcaret
    · exact hfirst
    · exact hsecond

/-- The commands of a text are those at its places, each read as if the text started there. -/
theorem mem_parseFrom_iff {offset : Nat} {t : Text} {c : Command} :
    c ∈ parseFrom offset t ↔ ∃ p, command? (offset + p) (t.drop p) = some c := by
  induction t generalizing offset with
  | nil => simp [parseFrom, command?]
  | cons x t ih =>
    rw [parseFrom_cons, List.mem_append, Option.mem_toList, ih]
    constructor
    · rintro (h | ⟨p, h⟩)
      · exact ⟨0, h⟩
      · refine ⟨p + 1, ?_⟩
        rwa [Nat.add_assoc, Nat.add_comm 1 p] at h
    · rintro ⟨p, h⟩
      cases p with
      | zero => exact .inl h
      | succ p =>
        refine .inr ⟨p, ?_⟩
        rwa [Nat.add_assoc, Nat.add_comm 1 p]

/-- The command at a place. -/
theorem command?_drop_iff {block : Text} {p : Nat} {c : Command} :
    command? p (block.drop p) = some c ↔
      c.offset = p ∧ StartsAt block p ∧ c.opcode = (block.drop (p + 1)).take 2 ∧
        IsLongestRun c.params (block.drop (p + 3)) := by
  rw [command?_eq_some_iff, startsAt_drop_iff, List.drop_drop, List.drop_drop, isLongestRun_iff]
  obtain ⟨opcode, params, offset⟩ := c
  rw [mk.injEq]
  constructor
  · rintro ⟨hstart, hopcode, hparams, hoffset⟩
    exact ⟨hoffset, hstart, hopcode, hparams⟩
  · rintro ⟨hoffset, hstart, hopcode, hparams⟩
    exact ⟨hstart, hopcode, hparams, hoffset⟩

theorem mem_parse_iff {block : Text} {c : Command} : c ∈ parse block ↔ c.StandsIn block := by
  rw [parse, mem_parseFrom_iff]
  simp only [Nat.zero_add, command?_drop_iff]
  rfl

/-! ## Order -/

theorem offset_le_of_mem {offset : Nat} {t : Text} {c : Command} (h : c ∈ parseFrom offset t) :
    (offset : Int) ≤ c.offset := by
  obtain ⟨p, hp⟩ := mem_parseFrom_iff.mp h
  rw [(command?_eq_some_iff.mp hp).2]
  simp

theorem pairwise_parseFrom (offset : Nat) (t : Text) :
    (parseFrom offset t).Pairwise fun c d => c.offset < d.offset := by
  induction t generalizing offset with
  | nil => exact .nil
  | cons x t ih =>
    rw [parseFrom_cons, List.pairwise_append]
    refine ⟨?_, ih (offset + 1), ?_⟩
    · cases command? offset (x :: t) with
      | none => exact .nil
      | some c => exact List.pairwise_singleton _ c
    · intro c hc d hd
      rw [Option.mem_toList] at hc
      have hfront : c.offset = offset := by rw [(command?_eq_some_iff.mp hc).2]
      have hbehind := offset_le_of_mem hd
      omega

/-- A command starts where one is read, and there is no other one at that place. -/
theorem startsAt_iff {block : Text} {p : Nat} :
    StartsAt block p ↔ ∃! c, c ∈ parse block ∧ c.offset = p := by
  constructor
  · intro h
    have hread : command? p (block.drop p) = some _ :=
      command?_eq_some_iff.mpr ⟨startsAt_drop_iff.mpr h, rfl⟩
    refine ⟨_, ⟨mem_parse_iff.mpr ⟨p, command?_drop_iff.mp hread⟩, rfl⟩, ?_⟩
    rintro c ⟨hc, hoffset⟩
    obtain ⟨q, hq⟩ := mem_parse_iff.mp hc
    have hplace : q = p := by
      have := hq.1
      omega
    subst hplace
    have hsame := command?_drop_iff.mpr hq
    rw [hread] at hsame
    exact (Option.some.inj hsame).symm
  · rintro ⟨c, ⟨hc, hoffset⟩, -⟩
    obtain ⟨q, hq⟩ := mem_parse_iff.mp hc
    have hplace : q = p := by
      have := hq.1
      omega
    exact hplace ▸ hq.2.1

/-! ## Reading one behind the other -/

/-- The commands of a text that stands at `offset`, where the search for the next one goes on
    behind the one that was found. -/
def scanFrom (offset : Nat) : Text → List Command
  | [] => []
  | x :: t =>
    match command? offset (x :: t) with
    | some c => c :: scanFrom (offset + c.render.length) (t.drop (c.render.length - 1))
    | none => scanFrom (offset + 1) t
termination_by t => t.length
decreasing_by
  all_goals simp only [List.length_drop, List.length_cons]
  all_goals omega

/-- Nothing is hidden in a command that was found: behind its caret it holds no other. -/
theorem scanFrom_eq (offset : Nat) (t : Text) : scanFrom offset t = parseFrom offset t := by
  fun_induction scanFrom offset t with
  | case1 => rfl
  | case2 offset x t c hc ih =>
    obtain ⟨hwritten, hoffset, back, ht, hback⟩ := command?_eq_some hc
    -- `parseFrom` tries each place within `c` as well, but there is no caret behind the first
    have hdrop : t.drop (c.render.length - 1) = back := by
      have hall := congrArg (List.drop c.render.length) ht
      rwa [List.drop_left] at hall
    have hself : { c with offset := (offset : Int) } = c := by rw [← hoffset]
    rw [ih, hdrop, ht, parseFrom_append hback, parseFrom_render hwritten, hself]
    rfl
  | case3 offset x t hc ih =>
    rw [ih, parseFrom_cons, hc]
    rfl

/-! ## Commands as they are written -/

theorem parseFrom_renderAll {list : List Command} (h : ∀ c ∈ list, c.IsWritten) (offset : Nat) :
    parseFrom offset (renderAll list) = list.zipIdx.map fun c =>
      { c.1 with offset := (offset + (renderAll (list.take c.2)).length : Nat) } := by
  induction list generalizing offset with
  | nil => rfl
  | cons c list ih =>
    rw [List.forall_mem_cons] at h
    rw [renderAll_cons, parseFrom_append (isBreak_renderAll list), parseFrom_render h.1, ih h.2,
      List.zipIdx_cons', List.map_cons, List.map_map]
    simp only [List.take_zero, List.singleton_append, List.cons.injEq]
    refine ⟨rfl, List.map_congr_left fun d _ => ?_⟩
    simp only [Function.comp_apply, Prod.map_fst, Prod.map_snd, id_eq, List.take_succ_cons,
      renderAll_cons, List.length_append, Nat.add_assoc]

/-- Each command is read at the place behind all that was written before it. -/
theorem parse_renderAll {list : List Command} (h : ∀ c ∈ list, c.IsWritten) :
    parse (renderAll list) = list.zipIdx.map fun c =>
      { c.1 with offset := ((renderAll (list.take c.2)).length : Nat) } := by
  rw [parse, parseFrom_renderAll h]
  simp only [Nat.zero_add]

/-- The commands of a block are those that stand in it, one at each place where one starts, in the
    order of the places, and the same as when each is looked for behind the one before it. Commands
    written one behind the other are read as they are, each at the place where it was put. -/
theorem parse_exact :
    (∀ block : Text,
      ((parse block).Pairwise fun c d => c.offset < d.offset) ∧
      (∀ c, c ∈ parse block ↔ c.StandsIn block) ∧
      (∀ p : Nat, StartsAt block p ↔ ∃! c, c ∈ parse block ∧ c.offset = p) ∧
      scanFrom 0 block = parse block) ∧
    ∀ list : List Command, (∀ c ∈ list, c.IsWritten) →
      parse (renderAll list) = list.zipIdx.map fun c =>
        { c.1 with offset := ((renderAll (list.take c.2)).length : Nat) } := by
  refine ⟨fun block => ?_, fun list => parse_renderAll⟩
  exact ⟨pairwise_parseFrom 0 block, fun c => mem_parse_iff, fun p => startsAt_iff,
    scanFrom_eq 0 block⟩

/-- Two commands, the first with a parameter of blanks and a comma. -/
def plainCommands : List Command :=
  [⟨['F', 'O'], "1, 2 ".toList, 0⟩, ⟨['9', 'Z'], [], 0⟩]

theorem parse_exact_of_plainCommands :
    (∀ c ∈ plainCommands, c.IsWritten) ∧
      parse "^FO1, 2 ^9Z".toList =
        [⟨['F', 'O'], "1, 2 ".toList, 0⟩, ⟨['9', 'Z'], [], 8⟩] := by
  have hwritten : ∀ c ∈ plainCommands, c.IsWritten := by
    intro c hc
    rcases List.mem_cons.mp hc with rfl | hc
    · exact ⟨⟨'F', 'O', rfl, rfl, rfl⟩, List.all_eq_true.mp (by decide)⟩
    · rw [List.mem_singleton.mp hc]
      exact ⟨⟨'9', 'Z', rfl, rfl, rfl⟩, List.all_eq_true.mp (by decide)⟩
  refine ⟨hwritten, ?_⟩
  have hparse := parse_exact.2 plainCommands hwritten
  exact hparse

end Command

end ThermalLabel
