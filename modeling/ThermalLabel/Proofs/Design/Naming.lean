/-
  The names that the images of a design are given.

  Among the numbers whose names are not given explicitly, the next one after a number is found
  (`isLeast_nextNumber`), so that the images without a name get these numbers one after the other
  (`nextNumber_eq_nth`). A name that is given explicitly goes to the first image that has it. What
  is planned for an image depends on the images before it and on the names given to all, and on
  nothing that becomes of them (`ofElements_getElem?`); no two are to be loaded under one name
  (`name_ne_of_lt`).
-/
import Mathlib.Data.Nat.Nth
import ThermalLabel.Design.Conversion
import ThermalLabel.Proofs.Number.Reading

namespace ThermalLabel

/-- An image among the elements of a design: the index of its element, its source and the name it
    is given, if any. -/
structure ImageRequest where
  index : Nat
  source : Quantity
  given : Option Text

/-- Decimal digits are word characters. -/
theorem Text.isWord_of_isDigit {c : Char} (h : c.isDigit) : Text.isWord c := by
  have hsmall : c.toNat < 0x80 := by
    simp only [Char.isDigit, Bool.and_eq_true, decide_eq_true_eq] at h
    exact Nat.lt_of_le_of_lt h.2 (by decide)
  unfold isWord
  rw [if_pos hsmall, Char.isAlphanum, h]
  simp

namespace ImagePlan

/-! ## Numbers -/

theorem generatedName_injective : Function.Injective generatedName := by
  intro m n h
  have hpadded := List.append_cancel_left h
  rw [← Decimal.value_digits_padded 3 m, ← Decimal.value_digits_padded 3 n, hpadded]

/-- The number can be given out: its name is not given explicitly. -/
def IsFree (given : List Text) (n : Nat) : Prop := 0 < n ∧ generatedName n ∉ given

theorem infinite_isFree (given : List Text) : {n | IsFree given n}.Infinite := by
  have htaken : {n | generatedName n ∈ given}.Finite :=
    (List.finite_toSet given).preimage generatedName_injective.injOn
  have hfree : {n | IsFree given n} = ({n | generatedName n ∈ given} ∪ {0})ᶜ := by
    ext n
    constructor
    · rintro ⟨hpos, hname⟩ (hn | hn)
      · exact hname hn
      · exact Nat.ne_of_gt hpos hn
    · intro h
      exact ⟨Nat.pos_of_ne_zero fun hn => h (.inr hn), fun hn => h (.inl hn)⟩
  rw [hfree]
  exact (htaken.union (Set.finite_singleton 0)).infinite_compl

/-- One of as many consecutive numbers as there are given names, and one more, is free. -/
theorem exists_not_mem_of_consecutive (given : List Text) (last : Nat) :
    ∃ k ∈ List.range (given.length + 1), generatedName (last + 1 + k) ∉ given := by
  by_contra hno
  simp only [not_exists, not_and, not_not] at hno
  have hnodup : ((List.range (given.length + 1)).map
      fun k => generatedName (last + 1 + k)).Nodup := by
    refine (List.nodup_range).map fun j k h => ?_
    have hsame := generatedName_injective h
    omega
  have hsubset : ((List.range (given.length + 1)).map
      fun k => generatedName (last + 1 + k)) ⊆ given := by
    intro name hname
    obtain ⟨k, hk, rfl⟩ := List.mem_map.mp hname
    exact hno k hk
  have hlength := (hnodup.subperm hsubset).length_le
  rw [List.length_map, List.length_range] at hlength
  omega

/-- The number after another is the least one whose name is not given explicitly. -/
theorem isLeast_nextNumber (given : List Text) (last : Nat) :
    IsLeast {n | last < n ∧ generatedName n ∉ given} (nextNumber given last) := by
  unfold nextNumber
  dsimp only
  rw [List.find?_map]
  cases hfound : (List.range (given.length + 1)).find?
      ((fun n => decide (generatedName n ∉ given)) ∘ fun k => last + 1 + k) with
  | none =>
    obtain ⟨k, hk, hfree⟩ := exists_not_mem_of_consecutive given last
    exact absurd (decide_eq_true hfree) (List.find?_eq_none.mp hfound k hk)
  | some k =>
    obtain ⟨hfree, -, hbefore⟩ := List.find?_range_eq_some.mp hfound
    refine ⟨⟨?_, of_decide_eq_true hfree⟩, ?_⟩
    · show last < last + 1 + k
      omega
    · rintro n ⟨hlast, hn⟩
      show last + 1 + k ≤ n
      by_contra hlt
      have htaken := hbefore (n - (last + 1)) (by omega)
      have hnumber : last + 1 + (n - (last + 1)) = n := by omega
      simp only [Function.comp_apply, hnumber, hn, not_false_eq_true, decide_true] at htaken
      cases htaken

/-- The number `last` was given out after `k` numbers in all: those behind it are those behind the
    first `k` free ones. -/
def GivenOut (given : List Text) (k last : Nat) : Prop :=
  ∀ n, IsFree given n → (last < n ↔ ∀ j < k, Nat.nth (IsFree given) j < n)

theorem givenOut_zero (given : List Text) : GivenOut given 0 0 := by
  intro n hn
  exact ⟨fun _ j hj => absurd hj (Nat.not_lt_zero j), fun _ => hn.1⟩

/-- The next number after `k` that were given out is the free number with that many before it. -/
theorem nextNumber_eq_nth {given : List Text} {k last : Nat} (h : GivenOut given k last) :
    nextNumber given last = Nat.nth (IsFree given) k := by
  have hnth := Nat.isLeast_nth_of_infinite (infinite_isFree given) k
  refine (isLeast_nextNumber given last).unique ?_
  have hsame : {n | last < n ∧ generatedName n ∉ given} =
      {n | IsFree given n ∧ ∀ j < k, Nat.nth (IsFree given) j < n} := by
    ext n
    constructor
    · rintro ⟨hlast, hn⟩
      have hfree : IsFree given n := ⟨Nat.zero_lt_of_lt hlast, hn⟩
      exact ⟨hfree, (h n hfree).mp hlast⟩
    · rintro ⟨hfree, hbefore⟩
      exact ⟨(h n hfree).mpr hbefore, hfree.2⟩
  rw [hsame]
  exact hnth

theorem givenOut_succ (given : List Text) (k : Nat) :
    GivenOut given (k + 1) (Nat.nth (IsFree given) k) := by
  intro n _
  have hmono := Nat.nth_monotone (infinite_isFree given)
  constructor
  · intro hk j hj
    exact Nat.lt_of_le_of_lt (hmono (Nat.le_of_lt_succ hj)) hk
  · intro hbefore
    exact hbefore k (Nat.lt_succ_self k)

/-! ## Plans -/

/-- The index of the element that a plan is for. -/
def index : ImagePlan → Nat
  | load i .. => i
  | taken i _ => i

/-- The name that a plan has for its image. -/
def name : ImagePlan → Text
  | load _ _ name => name
  | taken _ name => name

/-- The image that an element of a design is, if it is one. -/
def request? : Nat × Element → Option ImageRequest
  | (i, .image _ _ source given) => some ⟨i, source, given⟩
  | _ => none

/-- The images among elements, in their order. -/
def requests (elements : List (Nat × Element)) : List ImageRequest := elements.filterMap request?

theorem givenNames_eq (elements : List (Nat × Element)) :
    givenNames elements = (requests elements).filterMap ImageRequest.given := by
  unfold givenNames requests
  rw [List.filterMap_filterMap]
  refine List.filterMap_congr fun e _ => ?_
  obtain ⟨i, element⟩ := e
  cases element <;> rfl

/-- How many images have no name of their own. -/
def unnamedCount (images : List ImageRequest) : Nat := images.countP fun r => r.given.isNone

/-- What is planned for an image behind others, the names of all images being given: an image with
    a name is loaded unless one before has the same name, and one without gets the free number that
    has as many free ones before it as there are images without a name before the image. -/
noncomputable def planned (given : List Text) (before : List ImageRequest) (r : ImageRequest) :
    ImagePlan :=
  match r.given with
  | some name =>
    if some name ∈ before.map ImageRequest.given then .taken r.index name
    else .load r.index r.source name
  | none =>
    .load r.index r.source (generatedName (Nat.nth (IsFree given) (unnamedCount before)))

theorem index_planned (given : List Text) (before : List ImageRequest) (r : ImageRequest) :
    (planned given before r).index = r.index := by
  unfold planned
  split
  · split <;> rfl
  · rfl

theorem source_planned {given : List Text} {before : List ImageRequest} {r : ImageRequest} {i : Nat}
    {source : Quantity} {name : Text} (h : planned given before r = .load i source name) :
    source = r.source := by
  unfold planned at h
  split at h
  · split at h
    · cases h
    · cases h
      rfl
  · cases h
    rfl

theorem plan_getElem? {given : List Text} {elements : List (Nat × Element)}
    {before : List ImageRequest} {seen : List Text} {last : Nat}
    (hseen : ∀ name, name ∈ seen ↔ some name ∈ before.map ImageRequest.given)
    (hlast : GivenOut given (unnamedCount before) last) (p : Nat) :
    (plan given seen last elements)[p]? =
      (requests elements)[p]?.map fun r =>
        planned given (before ++ (requests elements).take p) r := by
  induction elements generalizing before seen last p with
  | nil => rfl
  | cons e elements ih =>
    obtain ⟨i, element⟩ := e
    cases element with
    | text | barcode | box | circle | line => exact ih hseen hlast p
    | image x y source name =>
      have hrequests : requests ((i, .image x y source name) :: elements) =
          ⟨i, source, name⟩ :: requests elements := rfl
      -- the images before the next element are those before this one and this one
      have hnext : ∀ r p, before ++ (r :: requests elements).take (p + 1) =
          (before ++ [r]) ++ (requests elements).take p := by
        intro r p
        rw [List.take_succ_cons, List.append_assoc, List.singleton_append]
      rw [hrequests]
      cases name with
      | none =>
        have hnumber := nextNumber_eq_nth hlast
        rw [plan, hnumber]
        cases p with
        | zero =>
          rw [List.getElem?_cons_zero, List.getElem?_cons_zero, List.take_zero, List.append_nil]
          rfl
        | succ p =>
          rw [List.getElem?_cons_succ, List.getElem?_cons_succ, hnext]
          refine ih (fun other => ?_) ?_ p
          · rw [hseen, List.map_append, List.mem_append]
            simp
          · have hcount : unnamedCount (before ++ [⟨i, source, none⟩]) =
                unnamedCount before + 1 := List.countP_append
            rw [hcount]
            exact givenOut_succ given (unnamedCount before)
      | some name =>
        have hcount : unnamedCount (before ++ [⟨i, source, some name⟩]) = unnamedCount before :=
          List.countP_append
        have hmore : ∀ other, some other ∈ List.map ImageRequest.given
            (before ++ [⟨i, source, some name⟩]) ↔ other ∈ seen ∨ other = name := by
          intro other
          rw [hseen, List.map_append, List.mem_append, List.map_singleton, List.mem_singleton,
            Option.some_inj]
        by_cases hname : name ∈ seen
        · rw [plan, if_pos hname]
          cases p with
          | zero =>
            rw [List.getElem?_cons_zero, List.getElem?_cons_zero, List.take_zero, List.append_nil]
            exact congrArg some (if_pos ((hseen name).mp hname)).symm
          | succ p =>
            rw [List.getElem?_cons_succ, List.getElem?_cons_succ, hnext]
            refine ih (fun other => ?_) (hcount ▸ hlast) p
            rw [hmore]
            constructor
            · exact .inl
            · rintro (h | rfl)
              · exact h
              · exact hname
        · rw [plan, if_neg hname]
          cases p with
          | zero =>
            rw [List.getElem?_cons_zero, List.getElem?_cons_zero, List.take_zero, List.append_nil]
            exact congrArg some (if_neg fun h => hname ((hseen name).mpr h)).symm
          | succ p =>
            rw [List.getElem?_cons_succ, List.getElem?_cons_succ, hnext]
            refine ih (fun other => ?_) (hcount ▸ hlast) p
            rw [hmore, List.mem_cons, or_comm]

/-- What is planned for each image of a design. -/
theorem ofElements_getElem? (elements : List (Nat × Element)) (p : Nat) :
    (ofElements elements)[p]? =
      (requests elements)[p]?.map
        (planned (givenNames elements) ((requests elements).take p)) := by
  have hseen : ∀ name : Text, name ∈ [] ↔ some name ∈ ([] : List ImageRequest).map
      ImageRequest.given := by
    intro name
    simp
  exact plan_getElem? hseen (givenOut_zero _) p

theorem map_index_ofElements (elements : List (Nat × Element)) :
    (ofElements elements).map index = (requests elements).map ImageRequest.index := by
  refine List.ext_getElem? fun p => ?_
  rw [List.getElem?_map, List.getElem?_map, ofElements_getElem?, Option.map_map]
  refine congrArg (Option.map · _) (funext fun r => ?_)
  exact index_planned _ _ r

/-! ## Names -/

section Names

variable {given : List Text} {images : List ImageRequest} {p q : Nat} {r other : ImageRequest}

/-- The name that a planned image is to be loaded under. -/
def loadName? : ImagePlan → Option Text
  | load _ _ name => some name
  | taken _ _ => none

theorem planned_of_unnamed {before : List ImageRequest} (hunnamed : r.given = none) :
    planned given before r =
      .load r.index r.source (generatedName (Nat.nth (IsFree given) (unnamedCount before))) := by
  unfold planned
  rw [hunnamed]

theorem planned_of_first {before : List ImageRequest} {name : Text} (hname : r.given = some name)
    (hfirst : ∀ earlier ∈ before, earlier.given ≠ some name) :
    planned given before r = .load r.index r.source name := by
  unfold planned
  rw [hname]
  refine if_neg fun h => ?_
  obtain ⟨earlier, hearlier, hgiven⟩ := List.mem_map.mp h
  exact hfirst earlier hearlier hgiven

theorem planned_of_later {before : List ImageRequest} {name : Text} (hname : r.given = some name)
    {earlier : ImageRequest} (hearlier : earlier ∈ before) (hgiven : earlier.given = some name) :
    planned given before r = .taken r.index name := by
  unfold planned
  rw [hname]
  exact if_pos (List.mem_map.mpr ⟨earlier, hearlier, hgiven⟩)

/-- The name under which an image is to be loaded is its own, and no earlier one has it, or it is
    generated. -/
theorem loadName?_eq_some {before : List ImageRequest} {name : Text}
    (h : (planned given before r).loadName? = some name) :
    (r.given = some name ∧ ∀ earlier ∈ before, earlier.given ≠ some name) ∨
      (r.given = none ∧ name = generatedName (Nat.nth (IsFree given) (unnamedCount before))) := by
  cases hr : r.given with
  | none =>
    rw [planned_of_unnamed hr] at h
    exact .inr ⟨rfl, (Option.some.inj h).symm⟩
  | some own =>
    by_cases hearlier : ∃ earlier ∈ before, earlier.given = some own
    · obtain ⟨earlier, hmem, hgiven⟩ := hearlier
      rw [planned_of_later hr hmem hgiven] at h
      cases h
    · have hfirst : ∀ earlier ∈ before, earlier.given ≠ some own :=
        fun earlier hmem hgiven => hearlier ⟨earlier, hmem, hgiven⟩
      rw [planned_of_first hr hfirst] at h
      cases h
      exact .inl ⟨rfl, hfirst⟩

theorem generatedName_nth_not_mem (given : List Text) (k : Nat) :
    generatedName (Nat.nth (IsFree given) k) ∉ given :=
  (Nat.nth_mem_of_infinite (infinite_isFree given) k).2

/-- An image without a name is numbered before the images behind it. -/
theorem unnamedCount_lt (hr : images[p]? = some r) (hunnamed : r.given = none) (hpq : p < q) :
    unnamedCount (images.take p) < unnamedCount (images.take q) := by
  have hcount : unnamedCount (images.take (p + 1)) = unnamedCount (images.take p) + 1 := by
    unfold unnamedCount
    rw [List.take_add_one, hr, List.countP_append]
    simp [hunnamed]
  have hle : unnamedCount (images.take (p + 1)) ≤ unnamedCount (images.take q) :=
    (List.take_prefix_take_left hpq).sublist.countP_le
  omega

/-- No two images are to be loaded under one name. -/
theorem name_ne_of_lt (hgiven : given = images.filterMap ImageRequest.given)
    (hr : images[p]? = some r) (hother : images[q]? = some other) (hpq : p < q) {name later : Text}
    (hname : (planned given (images.take p) r).loadName? = some name)
    (hlater : (planned given (images.take q) other).loadName? = some later) : name ≠ later := by
  have hmem : r ∈ images.take q :=
    List.mem_of_getElem? ((List.getElem?_take_of_lt hpq).trans hr)
  have hown : ∀ (s : ImageRequest) own, s ∈ images → s.given = some own → own ∈ given := by
    intro s own hs h
    rw [hgiven]
    exact List.mem_filterMap.mpr ⟨s, hs, h⟩
  rintro rfl
  rcases loadName?_eq_some hname with ⟨hr', -⟩ | ⟨hr', hnumber⟩
  · rcases loadName?_eq_some hlater with ⟨-, hfirst⟩ | ⟨-, hnumber⟩
    · exact hfirst r hmem hr'
    · have hfree := generatedName_nth_not_mem given (unnamedCount (images.take q))
      rw [← hnumber] at hfree
      exact hfree (hown r name (List.mem_of_getElem? hr) hr')
  · rcases loadName?_eq_some hlater with ⟨hother', -⟩ | ⟨-, hnumber'⟩
    · have hfree := generatedName_nth_not_mem given (unnamedCount (images.take p))
      rw [← hnumber] at hfree
      exact hfree (hown other name (List.mem_of_getElem? hother) hother')
    · -- numbers of images behind each other grow
      have hlt := Nat.nth_strictMono (infinite_isFree given) (unnamedCount_lt hr hr' hpq)
      have hsame := generatedName_injective (hnumber.symm.trans hnumber')
      exact absurd hsame (Nat.ne_of_lt hlt)

theorem isWord_generatedName (n : Nat) : (generatedName n).all Text.isWord := by
  unfold generatedName
  rw [List.all_append, Bool.and_eq_true]
  refine ⟨by decide, List.all_eq_true.mpr fun c hc => ?_⟩
  exact Text.isWord_of_isDigit (Decimal.isDigit_of_mem_padded hc)

end Names

end ImagePlan

end ThermalLabel
