/-
  Steps that can fail, one after the other: when a sequence of them succeeds, with what results,
  and with which fault it ends otherwise.
-/

namespace ThermalLabel

variable {ε α β : Type}

@[simp]
theorem pure_eq_ok (a : α) : (pure a : Except ε α) = .ok a := rfl

@[simp]
theorem ok_bind (a : α) (f : α → Except ε β) : .ok a >>= f = f a := rfl

@[simp]
theorem error_bind (e : ε) (f : α → Except ε β) : .error e >>= f = .error e := rfl

@[simp]
theorem ok_map (a : α) (f : α → β) : (.ok a : Except ε α).map f = .ok (f a) := rfl

theorem bind_eq_ok_iff {x : Except ε α} {f : α → Except ε β} {b : β} :
    x >>= f = .ok b ↔ ∃ a, x = .ok a ∧ f a = .ok b := by
  cases x with
  | error e => simp [bind, Except.bind]
  | ok a => simp [bind, Except.bind]

theorem bind_eq_error_iff {x : Except ε α} {f : α → Except ε β} {e : ε} :
    x >>= f = .error e ↔ x = .error e ∨ ∃ a, x = .ok a ∧ f a = .error e := by
  cases x with
  | error e' => simp [bind, Except.bind]
  | ok a => simp [bind, Except.bind]

theorem map_eq_ok_iff {x : Except ε α} {f : α → β} {b : β} :
    x.map f = .ok b ↔ ∃ a, x = .ok a ∧ f a = b := by
  cases x with
  | error e => simp [Except.map]
  | ok a => simp [Except.map]

theorem map_eq_error_iff {x : Except ε α} {f : α → β} {e : ε} :
    x.map f = .error e ↔ x = .error e := by
  cases x with
  | error e' => simp [Except.map]
  | ok a => simp [Except.map]

theorem mapError_eq_ok_iff {ε' : Type} {x : Except ε α} {f : ε → ε'} {a : α} :
    x.mapError f = .ok a ↔ x = .ok a := by
  constructor
  · intro h
    cases x with
    | error e => cases h
    | ok b => exact congrArg Except.ok (Except.ok.inj h)
  · rintro rfl
    rfl

theorem mapError_eq_error_iff {ε' : Type} {x : Except ε α} {f : ε → ε'} {e : ε'} :
    x.mapError f = .error e ↔ ∃ reason, x = .error reason ∧ f reason = e := by
  constructor
  · intro h
    cases x with
    | error reason => exact ⟨reason, rfl, Except.error.inj h⟩
    | ok a => cases h
  · rintro ⟨reason, rfl, rfl⟩
    rfl

theorem elim_eq_ok_iff {result : Option α} {f : α → β} {e : ε} {b : β} :
    result.elim (.error e) (fun a => .ok (f a)) = (.ok b : Except ε β) ↔
      ∃ a, result = some a ∧ f a = b := by
  cases result with
  | none => simp
  | some a => simp

/-- A missing result that is made a fault is the only fault there. -/
theorem elim_eq_error {result : Option α} {f : α → β} {e e' : ε}
    (h : result.elim (.error e) (fun a => .ok (f a)) = (.error e' : Except ε β)) : e' = e := by
  cases result with
  | none =>
    cases h
    rfl
  | some a => cases h

/-- What holds of each result of the second step, whatever the first was, holds of the results of
    both in a row. -/
theorem forall_ok_bind {x : Except ε α} {f : α → Except ε β} {P : β → Prop}
    (hf : ∀ a, x = .ok a → ∀ b, f a = .ok b → P b) : ∀ b, x >>= f = .ok b → P b := by
  intro b h
  obtain ⟨a, hx, h⟩ := bind_eq_ok_iff.mp h
  exact hf a hx b h

/-- What holds of the faults of two steps holds of the faults of both in a row. -/
theorem forall_error_bind {x : Except ε α} {f : α → Except ε β} {P : ε → Prop}
    (hx : ∀ e, x = .error e → P e) (hf : ∀ a e, f a = .error e → P e) :
    ∀ e, x >>= f = .error e → P e := by
  intro e h
  rcases bind_eq_error_iff.mp h with h | ⟨a, -, h⟩
  · exact hx e h
  · exact hf a e h

/-- A step succeeds exactly if it does not end in a fault. -/
theorem exists_ok_iff {x : Except ε α} : (∃ a, x = .ok a) ↔ ∀ e, x ≠ .error e := by
  cases x with
  | error e => simp
  | ok a => simp

theorem toOption_eq_some_iff {x : Except ε α} {a : α} : x.toOption = some a ↔ x = .ok a := by
  cases x with
  | error e => simp [Except.toOption]
  | ok b => simp [Except.toOption]

theorem exists_of_isOk {x : Except ε α} (h : x.isOk) : ∃ a, x = .ok a := by
  cases x with
  | error e => cases h
  | ok a => exact ⟨a, rfl⟩

/-! ## A step for each item of a list -/

theorem mapM_cons_eq_ok_iff {f : α → Except ε β} {a : α} {l : List α} {results : List β} :
    (a :: l).mapM f = .ok results ↔
      ∃ b, f a = .ok b ∧ ∃ rest, l.mapM f = .ok rest ∧ results = b :: rest := by
  rw [List.mapM_cons]
  simp only [bind_eq_ok_iff, pure, Except.pure, Except.ok.injEq]
  simp only [eq_comm (b := results)]

theorem exists_of_mem_mapM {f : α → Except ε β} {l : List α} {results : List β}
    (h : l.mapM f = .ok results) {b : β} (hb : b ∈ results) : ∃ a ∈ l, f a = .ok b := by
  induction l generalizing results with
  | nil =>
    cases h
    cases hb
  | cons a l ih =>
    obtain ⟨first, hfirst, rest, hrest, rfl⟩ := mapM_cons_eq_ok_iff.mp h
    rcases List.mem_cons.mp hb with rfl | hb
    · exact ⟨a, List.mem_cons_self, hfirst⟩
    · obtain ⟨x, hx, hxb⟩ := ih hrest hb
      exact ⟨x, List.mem_cons_of_mem _ hx, hxb⟩

/-- The results stand at the indexes of their items. -/
theorem mapM_getElem? {f : α → Except ε β} {l : List α} {results : List β}
    (h : l.mapM f = .ok results) :
    results.length = l.length ∧
      ∀ (i : Nat) a, l[i]? = some a → ∃ b, f a = .ok b ∧ results[i]? = some b := by
  induction l generalizing results with
  | nil =>
    rw [List.mapM_nil] at h
    cases h
    simp
  | cons a l ih =>
    obtain ⟨b, hb, rest, hrest, rfl⟩ := mapM_cons_eq_ok_iff.mp h
    obtain ⟨hlength, hitems⟩ := ih hrest
    refine ⟨by rw [List.length_cons, List.length_cons, hlength], fun i x hx => ?_⟩
    cases i with
    | zero =>
      rw [List.getElem?_cons_zero, Option.some.injEq] at hx
      subst hx
      exact ⟨b, hb, rfl⟩
    | succ i =>
      rw [List.getElem?_cons_succ] at hx ⊢
      exact hitems i x hx

/-- The result with a key is that of the item with this key, if each result has the key of its
    item. -/
theorem find?_of_mapM {f : α → Except ε β} {key : α → Nat} {resultKey : β → Nat}
    (hkey : ∀ a b, f a = .ok b → resultKey b = key a) {l : List α} {results : List β}
    (h : l.mapM f = .ok results) (i : Nat) :
    (results.find? fun b => resultKey b = i) =
      (l.find? fun a => key a = i).bind fun a => (f a).toOption := by
  induction l generalizing results with
  | nil =>
    cases h
    rfl
  | cons a l ih =>
    obtain ⟨b, hb, rest, hrest, rfl⟩ := mapM_cons_eq_ok_iff.mp h
    rw [List.find?_cons, List.find?_cons, hkey a b hb]
    by_cases hi : key a = i
    · rw [decide_eq_true hi]
      show some b = (f a).toOption
      rw [hb]
      rfl
    · rw [decide_eq_false hi]
      exact ih hrest

/-- What the results show is what the items show, if each result shows what its item does. -/
theorem map_eq_of_mapM {γ : Type} {f : α → Except ε β} {g : β → γ} {h : α → γ}
    (hstep : ∀ a b, f a = .ok b → g b = h a) {l : List α} {results : List β}
    (hl : l.mapM f = .ok results) : results.map g = l.map h := by
  induction l generalizing results with
  | nil =>
    cases hl
    rfl
  | cons a l ih =>
    obtain ⟨b, hb, rest, hrest, rfl⟩ := mapM_cons_eq_ok_iff.mp hl
    rw [List.map_cons, List.map_cons, hstep a b hb, ih hrest]

/-- What is seen of the results is what is seen of the items. -/
theorem filterMap_eq_of_mapM {γ : Type} {f : α → Except ε β} {g : β → Option γ} {h : α → Option γ}
    {l : List α} (hstep : ∀ a ∈ l, ∀ b, f a = .ok b → g b = h a) {results : List β}
    (hl : l.mapM f = .ok results) : results.filterMap g = l.filterMap h := by
  induction l generalizing results with
  | nil =>
    cases hl
    rfl
  | cons a l ih =>
    rw [List.forall_mem_cons] at hstep
    obtain ⟨b, hb, rest, hrest, rfl⟩ := mapM_cons_eq_ok_iff.mp hl
    rw [List.filterMap_cons, List.filterMap_cons, hstep.1 b hb, ih hstep.2 hrest]

/-- What some of the results show is what some of the items show, in the same order. -/
theorem sublist_of_mapM {γ : Type} {f : α → Except ε β} {g : β → Option γ} {h : α → Option γ}
    (hstep : ∀ a b c, f a = .ok b → g b = some c → h a = some c) {l : List α} {results : List β}
    (hl : l.mapM f = .ok results) : (results.filterMap g).Sublist (l.filterMap h) := by
  induction l generalizing results with
  | nil =>
    cases hl
    exact .slnil
  | cons a l ih =>
    obtain ⟨b, hb, rest, hrest, rfl⟩ := mapM_cons_eq_ok_iff.mp hl
    cases hg : g b with
    | none =>
      rw [List.filterMap_cons_none hg]
      refine (ih hrest).trans (List.Sublist.filterMap h ?_)
      exact List.sublist_cons_self a l
    | some c =>
      rw [List.filterMap_cons_some hg, List.filterMap_cons_some (hstep a b c hb hg)]
      exact (ih hrest).cons_cons c

theorem exists_mapM_ok_iff {f : α → Except ε β} {l : List α} :
    (∃ results, l.mapM f = .ok results) ↔ ∀ a ∈ l, ∃ b, f a = .ok b := by
  induction l with
  | nil => simp [pure, Except.pure]
  | cons a l ih =>
    simp only [mapM_cons_eq_ok_iff, List.forall_mem_cons, ← ih]
    constructor
    · rintro ⟨_, b, hb, rest, hrest, -⟩
      exact ⟨⟨b, hb⟩, rest, hrest⟩
    · rintro ⟨⟨b, hb⟩, rest, hrest⟩
      exact ⟨b :: rest, b, hb, rest, hrest, rfl⟩

/-- A fault that ends the sequence is the fault of one of its items. -/
theorem mapM_eq_error {f : α → Except ε β} {l : List α} {e : ε} (h : l.mapM f = .error e) :
    ∃ a ∈ l, f a = .error e := by
  induction l with
  | nil => cases h
  | cons a l ih =>
    rw [List.mapM_cons] at h
    rcases bind_eq_error_iff.mp h with h | ⟨b, -, h⟩
    · exact ⟨a, List.mem_cons_self, h⟩
    · rcases bind_eq_error_iff.mp h with h | ⟨rest, -, h⟩
      · obtain ⟨x, hx, he⟩ := ih h
        exact ⟨x, List.mem_cons_of_mem _ hx, he⟩
      · cases h

/-- Results of one kind of step are those of another kind where each step has them. -/
theorem mapM_ok_of_ok {f g : α → Except ε β} (hstep : ∀ a b, f a = .ok b → g a = .ok b)
    {l : List α} {results : List β} (h : l.mapM f = .ok results) : l.mapM g = .ok results := by
  induction l generalizing results with
  | nil => exact h
  | cons a l ih =>
    obtain ⟨b, hb, rest, hrest, rfl⟩ := mapM_cons_eq_ok_iff.mp h
    exact mapM_cons_eq_ok_iff.mpr ⟨b, hstep a b hb, rest, ih hrest, rfl⟩

/-- Steps that take some results of other steps for faults end with the first of these. -/
theorem mapM_of_stops {f g : α → Except ε β} {stop : β → Option ε}
    (hstep : ∀ a b, f a = .ok b → g a = (stop b).elim (.ok b) .error) {l : List α}
    {results : List β} (h : l.mapM f = .ok results) :
    l.mapM g = (results.findSome? stop).elim (.ok results) .error := by
  induction l generalizing results with
  | nil =>
    cases h
    rfl
  | cons a l ih =>
    obtain ⟨b, hb, rest, hrest, rfl⟩ := mapM_cons_eq_ok_iff.mp h
    rw [List.mapM_cons, hstep a b hb, ih hrest, List.findSome?_cons]
    cases stop b with
    | some e => rfl
    | none =>
      cases rest.findSome? stop with
      | some e => rfl
      | none => rfl

end ThermalLabel
