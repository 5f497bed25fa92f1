/-
  The faults of fields: why a figure cannot be written.

  Every fault of a figure is about a position or counts as malformed
  (`Figure.isOfField_of_record`). What each step can fail with is said by a lemma of its own.
-/
import ThermalLabel.Diagnostic
import ThermalLabel.Script.Figure
import ThermalLabel.Proofs.Fallible

namespace ThermalLabel

/-! ## Pixels and sums -/

theorem Number.asReal_eq_error {n : Number} {reason : Fault} (h : n.asReal = .error reason) :
    reason = .outOfRange :=
  elim_eq_error h

namespace Quantity

theorem pixels_eq_error {q : Quantity} {reason : Fault} (h : q.pixels = .error reason) :
    reason = .outOfRange ∨ reason = .notPixels q := by
  cases q with
  | number n => exact .inl (Number.asReal_eq_error h)
  | flag b => exact .inl (Number.asReal_eq_error h)
  | text t => exact .inr (elim_eq_error h)
  | missing =>
    cases h
    exact .inr rfl

theorem plus_eq_error {p q : Quantity} {reason : Fault} (h : p.plus q = .error reason) :
    reason = .outOfRange ∨ reason = .notNumber := by
  rw [plus.eq_def] at h
  split at h
  · cases h
  · split at h
    · exact .inl (elim_eq_error h)
    · cases h
      exact .inr rfl

end Quantity

/-! ## Positions and sizes -/

theorem Position.ofPixels_eq_error {given : Quantity} {x : Binary64} {reason : Fault}
    (h : Position.ofPixels given x = .error reason) :
    reason.diagnosticKind? = some .position := by
  rw [Position.ofPixels.eq_def] at h
  split at h
  · dsimp only at h
    split at h
    · cases h
    · cases h
      rfl
  · cases h
    rfl

theorem Size.ofPixels_eq_error {given : Quantity} {x : Binary64} {reason : Fault}
    (h : Size.ofPixels given x = .error reason) : reason = .notSize given := by
  rw [Size.ofPixels.eq_def] at h
  split at h
  · split at h
    · cases h
      rfl
    · cases h
  · cases h
    rfl

/-! ## Kinds -/

/-- The fault is about a position or counts as malformed. -/
def Fault.IsOfField (reason : Fault) : Prop :=
  (Cause.fault reason).kind = .position ∨ (Cause.fault reason).kind = .malformed

theorem Position.isOfField_of_read {q : Quantity} {reason : Fault}
    (h : Position.read q = .error reason) : reason.IsOfField := by
  rcases bind_eq_error_iff.mp h with h | ⟨x, -, h⟩
  · rcases Quantity.pixels_eq_error h with rfl | rfl
    · exact .inr rfl
    · exact .inr rfl
  · left
    rw [Cause.kind, Position.ofPixels_eq_error h]
    rfl

theorem Size.isOfField_of_read {q : Quantity} {reason : Fault}
    (h : Size.read q = .error reason) : reason.IsOfField := by
  rcases bind_eq_error_iff.mp h with h | ⟨x, -, h⟩
  · rcases Quantity.pixels_eq_error h with rfl | rfl
    · exact .inr rfl
    · exact .inr rfl
  · rw [Size.ofPixels_eq_error h]
    exact .inr rfl

theorem Quantity.isOfField_of_plus {p q : Quantity} {reason : Fault}
    (h : p.plus q = .error reason) : reason.IsOfField := by
  rcases Quantity.plus_eq_error h with rfl | rfl
  · exact .inr rfl
  · exact .inr rfl

theorem Figure.isOfField_of_record {figure : Figure} :
    ∀ reason, figure.record = .error reason → reason.IsOfField := by
  have hread : ∀ (q : Quantity) reason, Position.read q = .error reason → reason.IsOfField :=
    fun _ _ => Position.isOfField_of_read
  have hsize : ∀ (q : Quantity) reason, Size.read q = .error reason → reason.IsOfField :=
    fun _ _ => Size.isOfField_of_read
  have hplus : ∀ (p q : Quantity) reason, p.plus q = .error reason → reason.IsOfField :=
    fun _ _ _ => Quantity.isOfField_of_plus
  cases figure with
  | text | barcode | recallImage =>
    refine forall_error_bind (hread _) fun _ => forall_error_bind (hread _) fun _ _ h => ?_
    cases h
  | box | line =>
    refine forall_error_bind (hread _) fun _ => forall_error_bind (hread _) fun _ =>
      forall_error_bind (hplus _ _) fun _ => forall_error_bind (hread _) fun _ =>
      forall_error_bind (hplus _ _) fun _ => forall_error_bind (hread _) fun _ =>
      forall_error_bind (hsize _) fun _ _ h => ?_
    cases h
  | circle =>
    refine forall_error_bind (hread _) fun _ => forall_error_bind (hread _) fun _ =>
      forall_error_bind (hsize _) fun _ => forall_error_bind (hsize _) fun _ _ h => ?_
    cases h

end ThermalLabel
