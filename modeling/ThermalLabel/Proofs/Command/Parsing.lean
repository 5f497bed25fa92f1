/-
  Parsing piece by piece: the commands of a block are those of its pieces, cut at breaks.

  A command of a block stands somewhere in it as it would be written, with as many commands
  before it as its index says (`exists_of_parseFrom_getElem?`). Another command written in its
  place takes its index and changes no other command beyond its offset
  (`map_bare_parse_exchange`).
-/
import Mathlib.Data.List.TakeWhile
import ThermalLabel.Command.Basic
import ThermalLabel.Proofs.Text.Break

namespace ThermalLabel

namespace Command

/-- A command as it can stand in a text. -/
structure IsWritten (c : Command) : Prop where
  opcode : ∃ a b, c.opcode = [a, b] ∧ isOpcode a ∧ isOpcode b
  params : ∀ x ∈ c.params, isParameter x

/-- A command without the place where it stands. -/
def bare (c : Command) : Command := { c with offset := 0 }

theorem bare_eq_iff {c d : Command} :
    c.bare = d.bare ↔ c.opcode = d.opcode ∧ c.params = d.params := by
  simp [bare]

theorem IsWritten.opcode_length {c : Command} (h : c.IsWritten) : c.opcode.length = 2 := by
  obtain ⟨a, b, hab, -⟩ := h.opcode
  rw [hab]
  rfl

theorem isParameter_caret : isParameter '^' = false := rfl

theorem isParameter_tilde : isParameter '~' = false := rfl

theorem isOpcode_caret : isOpcode '^' = false := rfl

theorem isOpcode_tilde : isOpcode '~' = false := rfl

theorem IsWritten.not_mem {c : Command} (h : c.IsWritten) {x : Char} (hopcode : isOpcode x = false)
    (hparameter : isParameter x = false) : x ∉ c.opcode ++ c.params := by
  obtain ⟨a, b, hab, ha, hb⟩ := h.opcode
  rw [List.mem_append, hab, List.mem_cons, List.mem_singleton]
  rintro ((rfl | rfl) | hmem)
  · rw [hopcode] at ha
    cases ha
  · rw [hopcode] at hb
    cases hb
  · have hparams := h.params _ hmem
    rw [hparameter] at hparams
    cases hparams

/-- Behind the caret at its front a command holds no other caret. -/
theorem IsWritten.caret_not_mem {c : Command} (h : c.IsWritten) : '^' ∉ c.opcode ++ c.params :=
  h.not_mem isOpcode_caret isParameter_caret

theorem IsWritten.tilde_not_mem {c : Command} (h : c.IsWritten) : '~' ∉ c.opcode ++ c.params :=
  h.not_mem isOpcode_tilde isParameter_tilde

theorem isOpcode_head_of_isBreak {c : Char} {t : Text} (h : Text.IsBreak (c :: t)) :
    isOpcode c = false := by
  rcases h c rfl with rfl | rfl
  · rfl
  · rfl

/-! ## One command -/

theorem command?_eq_some {offset : Nat} {t : Text} {c : Command}
    (h : command? offset t = some c) :
    c.IsWritten ∧ c.offset = offset ∧ ∃ back, t = c.render ++ back ∧ back.IsBreak := by
  rw [command?.eq_def] at h
  split at h
  · next a b rest =>
    split at h
    · next hop =>
      rw [Bool.and_eq_true] at hop
      cases h
      refine ⟨⟨⟨a, b, rfl, hop.1, hop.2⟩, fun x hx => List.mem_takeWhile_imp hx⟩, rfl,
        rest.dropWhile isParameter, ?_, ?_⟩
      · simp [render]
      · intro x hx
        have hstop := List.head?_dropWhile_not isParameter rest
        rw [Option.mem_def.mp hx] at hstop
        simp only [isParameter, bne, Bool.and_eq_false_iff, Bool.not_eq_false', beq_iff_eq]
          at hstop
        exact hstop
    · cases h
  · cases h

theorem command?_of_ne {x : Char} (hx : x ≠ '^') (offset : Nat) (t : Text) :
    command? offset (x :: t) = none := by
  rw [command?.eq_def]
  split
  · next heq =>
    cases heq
    exact absurd rfl hx
  · rfl

/-- A command at the front of a text ends within its first piece. -/
theorem command?_append {offset : Nat} (x : Char) (s : Text) {t : Text} (ht : t.IsBreak) :
    command? offset (x :: s ++ t) = command? offset (x :: s) := by
  by_cases hx : x = '^'
  · subst hx
    have hno : ∀ y rest, t = y :: rest → isOpcode y = false :=
      fun y rest h => isOpcode_head_of_isBreak (h ▸ ht)
    rcases s with _ | ⟨a, _ | ⟨b, s⟩⟩
    · rcases t with _ | ⟨y, _ | ⟨z, rest⟩⟩
      · rfl
      · rfl
      · simp [command?, hno y _ rfl]
    · rcases t with _ | ⟨y, rest⟩
      · rfl
      · simp [command?, hno y _ rfl]
    · simp only [List.cons_append, command?]
      rw [Text.takeWhile_append_break isParameter_caret isParameter_tilde s ht]
  · rw [List.cons_append, command?_of_ne hx, command?_of_ne hx]

theorem command?_render {c : Command} (h : c.IsWritten) (offset : Nat) :
    command? offset c.render = some { c with offset := offset } := by
  obtain ⟨a, b, hab, ha, hb⟩ := h.opcode
  have hshape : c.render = '^' :: a :: b :: c.params := by rw [render, hab]; rfl
  rw [hshape, command?, ha, hb, List.takeWhile_eq_self_iff.mpr h.params, ← hab]
  rfl

/-! ## All commands -/

theorem parseFrom_cons (offset : Nat) (x : Char) (t : Text) :
    parseFrom offset (x :: t) =
      (command? offset (x :: t)).toList ++ parseFrom (offset + 1) t := by
  rw [parseFrom]
  cases command? offset (x :: t) <;> rfl

theorem parseFrom_append {s t : Text} (ht : t.IsBreak) (offset : Nat) :
    parseFrom offset (s ++ t) = parseFrom offset s ++ parseFrom (offset + s.length) t := by
  induction s generalizing offset with
  | nil => rfl
  | cons x s ih =>
    have hnext : offset + 1 + s.length = offset + (x :: s).length := by
      rw [List.length_cons]
      omega
    rw [List.cons_append, parseFrom_cons, parseFrom_cons, ← List.cons_append,
      command?_append x s ht, ih, hnext, List.append_assoc]

theorem parseFrom_of_no_caret {t : Text} (h : '^' ∉ t) (offset : Nat) :
    parseFrom offset t = [] := by
  induction t generalizing offset with
  | nil => rfl
  | cons x t ih =>
    rw [List.mem_cons, not_or] at h
    rw [parseFrom_cons, command?_of_ne (Ne.symm h.1), ih h.2]
    rfl

theorem parseFrom_render {c : Command} (h : c.IsWritten) (offset : Nat) :
    parseFrom offset c.render = [{ c with offset := offset }] := by
  have hfront := command?_render h offset
  rw [render, List.cons_append] at hfront ⊢
  rw [parseFrom_cons, hfront, parseFrom_of_no_caret h.caret_not_mem]
  rfl

/-- A command stands in the text as it would be written, behind those with smaller indexes. -/
theorem exists_of_parseFrom_getElem? {offset i : Nat} {t : Text} {c : Command}
    (h : (parseFrom offset t)[i]? = some c) :
    c.IsWritten ∧ ∃ front back, t = front ++ c.render ++ back ∧ back.IsBreak ∧
      c.offset = offset + front.length ∧ (parseFrom offset front).length = i := by
  induction t generalizing offset i with
  | nil => simp [parseFrom] at h
  | cons x t ih =>
    -- a command of the rest stands one character further in, behind the one at the front
    have hrest : ∀ j, (parseFrom (offset + 1) t)[j]? = some c →
        c.IsWritten ∧ ∃ front back : Text, x :: t = front ++ c.render ++ back ∧ back.IsBreak ∧
          c.offset = offset + front.length ∧
          (parseFrom offset front).length = (command? offset (x :: t)).toList.length + j := by
      intro j hj
      obtain ⟨hc, front, back, rfl, hback, hoffset, hlength⟩ := ih hj
      have hbreak : Text.IsBreak (c.render ++ back) :=
        Text.isBreak_append (Text.isBreak_caret _) hback
      refine ⟨hc, x :: front, back, rfl, hback, ?_, ?_⟩
      · rw [hoffset, List.length_cons]
        omega
      · rw [parseFrom_cons, List.length_append, hlength, List.append_assoc, ← List.cons_append,
          command?_append x front hbreak]
    rw [parseFrom_cons] at h
    cases hfront : command? offset (x :: t) with
    | none =>
      rw [hfront] at h hrest
      obtain ⟨hc, front, back, ht, hback, hoffset, hlength⟩ := hrest i h
      exact ⟨hc, front, back, ht, hback, hoffset, hlength.trans (Nat.zero_add i)⟩
    | some first =>
      rw [hfront] at h hrest
      cases i with
      | zero =>
        cases h
        obtain ⟨hc, hoffset, back, hback, hbreak⟩ := command?_eq_some hfront
        exact ⟨hc, [], back, hback, hbreak, hoffset, rfl⟩
      | succ i =>
        obtain ⟨hc, front, back, ht, hback, hoffset, hlength⟩ := hrest i h
        exact ⟨hc, front, back, ht, hback, hoffset, hlength.trans (Nat.add_comm 1 i)⟩

theorem isWritten_of_mem_parse {block : Text} {c : Command} (h : c ∈ parse block) :
    c.IsWritten := by
  obtain ⟨i, hi⟩ := List.mem_iff_getElem?.mp h
  exact (exists_of_parseFrom_getElem? hi).1

/-! ## Exchange of a command -/

theorem map_bare_parseFrom (offset offset' : Nat) (t : Text) :
    (parseFrom offset t).map bare = (parseFrom offset' t).map bare := by
  induction t generalizing offset offset' with
  | nil => rfl
  | cons x t ih =>
    have hfront : (command? offset (x :: t)).toList.map bare =
        (command? offset' (x :: t)).toList.map bare := by
      rw [command?.eq_def, command?.eq_def]
      split
      · split <;> rfl
      · rfl
    rw [parseFrom_cons, parseFrom_cons, List.map_append, List.map_append, hfront,
      ih (offset + 1) (offset' + 1)]

/-- Another command written in the place of one takes its index; the others stay as they are but
    for their offsets. -/
theorem map_bare_parse_exchange {front back : Text} {old new : Command}
    (hold : old.IsWritten) (hnew : new.IsWritten) (hback : back.IsBreak) :
    (parse (front ++ new.render ++ back)).map bare =
      ((parse (front ++ old.render ++ back)).map bare).set (parse front).length new.bare := by
  have hparse : ∀ {c : Command}, c.IsWritten →
      (parse (front ++ c.render ++ back)).map bare =
        (parse front).map bare ++ c.bare :: (parse back).map bare := by
    intro c hc
    have hbreak : Text.IsBreak (c.render ++ back) :=
      Text.isBreak_append (Text.isBreak_caret _) hback
    rw [parse, List.append_assoc, parseFrom_append hbreak, parseFrom_append hback,
      parseFrom_render hc, List.map_append, List.map_append, map_bare_parseFrom _ 0 back]
    rfl
  rw [hparse hnew, hparse hold, ← List.length_map bare, List.set_append_right _ _ (Nat.le_refl _),
    Nat.sub_self, List.set_cons_zero]

end Command

end ThermalLabel
