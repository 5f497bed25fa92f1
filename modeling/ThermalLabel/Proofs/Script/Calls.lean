/-
  What calls leave of a label.

  A call reads all its arguments before it adds anything, so it does the same on every label: it
  fails with the same fault and leaves the label as it is, or it adds the same image or the same
  record at the end (`settled_build`). So the lines of a label are those of the calls that
  succeeded, the images and the layout each in the order of their calls (`imageLines_afterCalls`,
  `layoutLines_afterCalls`, `script_afterCalls`), and the script shows neither the calls that
  failed nor how calls of the two kinds took turns (`calls_frame`). Requests to a label are calls
  whose texts are given as texts (`performAll_eq`).
-/
import ThermalLabel.Proofs.Fallible
import ThermalLabel.Script.Call

namespace ThermalLabel

/-! ## One call -/

namespace Building

/-- What a course does whatever the label is: it fails and leaves the label as it is, or it adds one
    image and nothing else, or one record, which ends with a carriage return, and nothing else. -/
inductive Settled (storing : Bool) (course : Building Unit) : Prop where
  | refused (reason : Fault) (h : ∀ label, course label = .error reason label)
  | stored (image : StoredImage) (hkind : storing = true)
      (h : ∀ label, course label = .ok () { label with images := label.images ++ [image] })
  | drawn (record : Record) (hkind : storing = false)
      (hend : record.render.getLast? = some '\r')
      (h : ∀ label, course label = .ok () { label with records := label.records ++ [record] })

variable {storing : Bool}

theorem settled_argument {α : Type} {x : Except Fault α} {course : α → Building Unit}
    (h : ∀ a, Settled storing (course a)) : Settled storing (argument x >>= course) := by
  cases x with
  | error reason => exact .refused reason fun _ => rfl
  | ok a => exact h a

theorem settled_require {condition : Bool} {reason : Fault} {course : Unit → Building Unit}
    (h : Settled storing (course ())) :
    Settled storing (require condition reason >>= course) := by
  cases condition with
  | false => exact .refused reason fun _ => rfl
  | true => exact h

theorem settled_store (image : StoredImage) : Settled true (store image) :=
  .stored image rfl fun _ => rfl

theorem settled_draw (record : Record) : Settled false (draw record) := by
  refine .drawn record rfl ?_ fun _ => rfl
  rw [Record.render, List.getLast?_concat]
  rfl

end Building

namespace LabelCall

open Building

/-- Nothing is added to the label before the last argument is read. -/
theorem settled_build (call : LabelCall) : Settled call.stores call.build := by
  cases call with
  | storeImage name data =>
    refine settled_argument fun name => settled_require ?_
    refine settled_argument fun data => settled_require ?_
    exact settled_store _
  | writeText x y body =>
    refine settled_argument fun row => settled_argument fun column => ?_
    exact settled_argument fun body => settled_draw _
  | barcode x y code symbology =>
    refine settled_argument fun row => settled_argument fun column => ?_
    split
    · exact settled_argument fun code => settled_draw _
    · exact settled_argument fun symbology => settled_argument fun code => settled_draw _
  | drawBox x y width height thickness =>
    refine settled_argument fun row => settled_argument fun column => ?_
    refine settled_argument fun bottom => settled_argument fun endRow => ?_
    refine settled_argument fun right => settled_argument fun endColumn => ?_
    exact settled_argument fun thickness => settled_draw _
  | drawCircle x y diameter thickness =>
    refine settled_argument fun row => settled_argument fun column => ?_
    exact settled_argument fun across => settled_argument fun thickness => settled_draw _
  | drawLine x y width height thickness =>
    refine settled_argument fun row => settled_argument fun column => ?_
    refine settled_argument fun bottom => settled_argument fun endRow => ?_
    refine settled_argument fun right => settled_argument fun endColumn => ?_
    exact settled_argument fun thickness => settled_draw _
  | recallImage x y name =>
    refine settled_argument fun row => settled_argument fun column => ?_
    exact settled_argument fun name => settled_draw _

/-- The call adds something, which it does to every label if to one. -/
def succeeds (call : LabelCall) : Bool :=
  match call.build (Label.empty []) with
  | .ok .. => true
  | .error .. => false

/-- The lines that a call adds, none if it fails. -/
def lines (call : LabelCall) : Text :=
  (call.after (Label.empty [])).imageLines ++ (call.after (Label.empty [])).layoutLines

variable (call : LabelCall) (label : Label)

theorem succeeds_iff : call.succeeds = true ↔ ∃ next, call.build label = .ok () next := by
  rcases settled_build call with ⟨reason, h⟩ | ⟨image, -, h⟩ | ⟨record, -, -, h⟩
  · simp [succeeds, h]
  · simp [succeeds, h]
  · simp [succeeds, h]

theorem config_after : (call.after label).config = label.config := by
  rcases settled_build call with ⟨reason, h⟩ | ⟨image, -, h⟩ | ⟨record, -, -, h⟩
  · rw [after, h]
  · rw [after, h]
  · rw [after, h]

theorem imageLines_after : (call.after label).imageLines =
    label.imageLines ++ if call.stores && call.succeeds then call.lines else [] := by
  rcases settled_build call with ⟨reason, h⟩ | ⟨image, hkind, h⟩ | ⟨record, hkind, -, h⟩
  · simp [after, succeeds, h]
  · simp [after, succeeds, lines, Label.imageLines, Label.layoutLines, Label.empty, h, hkind]
  · simp [after, Label.imageLines, h, hkind]

theorem layoutLines_after : (call.after label).layoutLines =
    label.layoutLines ++ if !call.stores && call.succeeds then call.lines else [] := by
  rcases settled_build call with ⟨reason, h⟩ | ⟨image, hkind, h⟩ | ⟨record, hkind, -, h⟩
  · simp [after, succeeds, h]
  · simp [after, Label.layoutLines, h, hkind]
  · simp [after, succeeds, lines, Label.imageLines, Label.layoutLines, Label.empty, h, hkind]

/-- The calls of a list that store an image. -/
def imageCalls (calls : List LabelCall) : List LabelCall :=
  calls.filter fun call => call.stores && call.succeeds

/-- The calls of a list that draw a record. -/
def layoutCalls (calls : List LabelCall) : List LabelCall :=
  calls.filter fun call => !call.stores && call.succeeds

end LabelCall

/-! ## Several calls -/

namespace Label

open LabelCall

variable (label : Label) (calls : List LabelCall)

theorem config_afterCalls : (label.afterCalls calls).config = label.config := by
  induction calls generalizing label with
  | nil => rfl
  | cons call calls ih => rw [afterCalls_cons, ih, config_after]

theorem imageLines_afterCalls : (label.afterCalls calls).imageLines =
    label.imageLines ++ (imageCalls calls).flatMap LabelCall.lines := by
  induction calls generalizing label with
  | nil => exact (List.append_nil _).symm
  | cons call calls ih =>
    rw [afterCalls_cons, ih, imageLines_after, List.append_assoc, imageCalls, imageCalls,
      List.filter_cons]
    -- the first call is kept exactly if it has lines for this part of the label
    split
    · rw [List.flatMap_cons]
    · rw [List.nil_append]

theorem layoutLines_afterCalls : (label.afterCalls calls).layoutLines =
    label.layoutLines ++ (layoutCalls calls).flatMap LabelCall.lines := by
  induction calls generalizing label with
  | nil => exact (List.append_nil _).symm
  | cons call calls ih =>
    rw [afterCalls_cons, ih, layoutLines_after, List.append_assoc, layoutCalls, layoutCalls,
      List.filter_cons]
    split
    · rw [List.flatMap_cons]
    · rw [List.nil_append]

/-- The script of a label that calls built. -/
theorem script_afterCalls (config : Text) :
    ((empty config).afterCalls calls).script =
      ['\x02', 'L', '\r'] ++ config ++ '\r' :: (imageCalls calls).flatMap LabelCall.lines ++
        (layoutCalls calls).flatMap LabelCall.lines ++ ['E', '\r'] := by
  rw [script, config_afterCalls, imageLines_afterCalls, layoutLines_afterCalls]
  rfl

end Label

/-! ## Requests as calls -/

namespace Building

@[simp]
theorem argument_error {α : Type} (reason : Fault) (course : α → Building Unit) (label : Label) :
    (argument (.error reason) >>= course) label = .error reason label := rfl

@[simp]
theorem argument_ok_store (image : StoredImage) (label : Label) :
    (argument (.ok image) >>= store) label =
      .ok () { label with images := label.images ++ [image] } := rfl

@[simp]
theorem argument_ok_draw (record : Record) (label : Label) :
    (argument (.ok record) >>= draw) label =
      .ok () { label with records := label.records ++ [record] } := rfl

theorem argument_bind {α β : Type} (x : Except Fault α) (f : α → Except Fault β) :
    argument (x >>= f) = argument x >>= fun a => argument (f a) := by
  cases x with
  | error reason => rfl
  | ok a => rfl

theorem argument_ite {α : Type} (refused : Prop) [Decidable refused] (reason : Fault)
    (x : Except Fault α) :
    argument (if refused then .error reason else x) =
      require (!decide refused) reason >>= fun _ => argument x := by
  by_cases h : refused
  · rw [if_pos h, decide_eq_true h]
    rfl
  · rw [if_neg h, decide_eq_false h]
    rfl

end Building

namespace LabelCall

open Building

/-- Storing on request is reading the image and storing it. -/
theorem build_ofRequest_store (name data : Text) :
    (ofRequest (.store name data)).build = argument (StoredImage.make name data) >>= store := by
  have hname : (!decide (name = [] ∨ ¬ name.all Text.isWord)) =
      (name ≠ [] && name.all Text.isWord) := by
    rw [Bool.eq_iff_iff]
    simp
  have hdata : (!decide (¬ data.all StoredImage.isHexadecimal)) =
      data.all StoredImage.isHexadecimal := by
    rw [Bool.eq_iff_iff]
    simp
  simp only [StoredImage.make, argument_ite, hname, hdata, bind_assoc]
  rfl

/-- Drawing on request is reading the record of the figure and drawing it. -/
theorem build_ofRequest_draw (figure : Figure) :
    (ofRequest (.draw figure)).build = argument figure.record >>= draw := by
  cases figure with
  | text x y body =>
    simp only [Figure.record, argument_bind, bind_assoc]
    rfl
  | barcode x y code symbology =>
    simp only [Figure.record, argument_bind, bind_assoc]
    refine congrArg (argument (Position.read y) >>= ·) (funext fun row => ?_)
    refine congrArg (argument (Position.read x) >>= ·) (funext fun column => ?_)
    show (if Figure.isQrCode symbology then _ else _) = draw (if Figure.isQrCode symbology then _
      else _)
    split
    · rfl
    · rfl
  | box x y width height thickness =>
    simp only [Figure.record, argument_bind, bind_assoc]
    rfl
  | circle x y diameter thickness =>
    simp only [Figure.record, argument_bind, bind_assoc]
    rfl
  | line x y width height thickness =>
    simp only [Figure.record, argument_bind, bind_assoc]
    rfl
  | recallImage x y name =>
    simp only [Figure.record, argument_bind, bind_assoc]
    rfl

/-- A request leaves the label that its call leaves. -/
theorem after_ofRequest (request : LabelRequest) (label : Label) :
    (ofRequest request).after label = (label.perform request).toOption.getD label := by
  cases request with
  | store name data =>
    rw [after, build_ofRequest_store, Label.perform]
    cases StoredImage.make name data <;> simp [Except.toOption]
  | draw figure =>
    -- the reading of the figure cannot see the label, so it is the same in both courses
    rw [after, build_ofRequest_draw, Label.perform]
    cases figure.record <;> simp [Except.toOption]

end LabelCall

namespace Label

open LabelCall

/-- Several requests leave the label that their calls leave. -/
theorem performAll_eq (label : Label) (requests : List LabelRequest) :
    label.performAll requests = label.afterCalls (requests.map ofRequest) := by
  induction requests generalizing label with
  | nil => rfl
  | cons request requests ih =>
    rw [performAll_cons, ih, List.map_cons, afterCalls_cons, after_ofRequest]

/-! ## The script does not show how the calls came -/

/-- Each call either fails and leaves the label as it is, or adds one image or one record, the same
    on every label. So a script has the lines of the calls that succeeded and no others, the images
    before the layout, and calls in which the same images and the same figures come in the same
    order give the same script. What requests to a label do, calls do. -/
theorem calls_frame :
    (∀ call : LabelCall, Building.Settled call.stores call.build ∧
      ∀ label, call.succeeds = true ↔ ∃ next, call.build label = .ok () next) ∧
    (∀ (config : Text) (calls : List LabelCall),
      ((empty config).afterCalls calls).script =
        ['\x02', 'L', '\r'] ++ config ++ '\r' :: (imageCalls calls).flatMap LabelCall.lines ++
          (layoutCalls calls).flatMap LabelCall.lines ++ ['E', '\r']) ∧
    (∀ (config : Text) (calls others : List LabelCall), imageCalls calls = imageCalls others →
      layoutCalls calls = layoutCalls others →
      ((empty config).afterCalls calls).script = ((empty config).afterCalls others).script) ∧
    ∀ (label : Label) (requests : List LabelRequest),
      label.performAll requests = label.afterCalls (requests.map ofRequest) := by
  refine ⟨fun call => ⟨settled_build call, succeeds_iff call⟩, fun config calls => ?_,
    fun config calls others himages hlayout => ?_, performAll_eq⟩
  · exact script_afterCalls calls config
  · rw [script_afterCalls, script_afterCalls, himages, hlayout]

/-- Figures and an image in turns, with a box that leaves the label, data in small letters and a
    negative diameter between them. -/
def mixedCalls : List LabelCall :=
  [.writeText (.ofInt 0) (.ofInt 0) (.text ['A']),
    .drawBox (.ofInt 9990) (.ofInt 0) (.ofInt 20) (.ofInt 20) (.ofInt 1),
    .recallImage (.text ['7', 'p', 'x']) (.ofInt 0) (.text ['L', 'O', 'G', 'O']),
    .storeImage (.text ['L', 'O', 'G', 'O']) (.text ['f', 'f']),
    .storeImage (.text ['L', 'O', 'G', 'O']) (.text ['F', 'F']),
    .drawCircle (.ofInt 5) (.ofInt 5) (.ofInt (-1)) (.ofInt 1)]

/-- The calls of the same that succeed, the image first. -/
def sortedCalls : List LabelCall :=
  [.storeImage (.text ['L', 'O', 'G', 'O']) (.text ['F', 'F']),
    .writeText (.ofInt 0) (.ofInt 0) (.text ['A']),
    .recallImage (.text ['7', 'p', 'x']) (.ofInt 0) (.text ['L', 'O', 'G', 'O'])]

theorem calls_frame_of_mixedCalls :
    imageCalls mixedCalls = imageCalls sortedCalls ∧
      layoutCalls mixedCalls = layoutCalls sortedCalls ∧
      ((empty defaultConfig).afterCalls mixedCalls).script =
        ((empty defaultConfig).afterCalls sortedCalls).script := by
  have himages : imageCalls mixedCalls = imageCalls sortedCalls := by decide +kernel
  have hlayout : layoutCalls mixedCalls = layoutCalls sortedCalls := by decide +kernel
  exact ⟨himages, hlayout, calls_frame.2.2.1 _ _ _ himages hlayout⟩

end Label

end ThermalLabel
