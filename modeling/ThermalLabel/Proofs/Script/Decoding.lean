/-
  Reading a script back.

  A script is a row of lines: two of its frame, two for each image, one for each record, and the
  last one of the frame. `Label.read?` finds the images by the two letters in front of them, and
  each record by its first letter, its position fields by their width and its sizes by the commas
  between them. It gives back what was stored and what was drawn (`Label.read?_script`), if no
  text that a record takes over holds a carriage return and every symbology is one character
  other than the space. So two rows of requests with the same script asked for the same
  (`Label.script_decodable`).
-/
import ThermalLabel.Proofs.Number.Reading
import ThermalLabel.Proofs.Script.Returns

namespace ThermalLabel

/-! ## Operations -/

/-- What a record tells the printer: its kind, its positions and texts, and its sizes as they are
    written. A QR code is a kind of its own, however its symbology was named. -/
inductive Operation where
  | text (y x : Position) (body : Text)
  | qrCode (y x : Position) (code : Text)
  | barcode (symbology : Text) (y x : Position) (code : Text)
  | box (y x endY endX : Position) (thickness : Text)
  | circle (y x : Position) (diameter thickness : Text)
  | line (y x endY endX : Position) (thickness : Text)
  | recallImage (y x : Position) (name : Text)
  deriving DecidableEq

/-- The operation of a record. -/
def Record.operation : Record → Operation
  | text y x body => .text y x body
  | qrCode y x code => .qrCode y x code
  | barcode symbology y x code => .barcode symbology y x code
  | box y x endY endX thickness => .box y x endY endX thickness.field
  | circle y x diameter thickness => .circle y x diameter.field thickness.field
  | line y x endY endX thickness => .line y x endY endX thickness.field
  | recallImage y x name => .recallImage y x name

/-! ## Positions and sizes -/

namespace Position

/-- The position in the first four characters of a text, and what follows them. -/
def split? (t : Text) : Option (Position × Text) :=
  let dots := Decimal.value (Numeral.digits (t.take 4)).1
  if h : dots < 10000 then some (⟨dots, h⟩, t.drop 4) else none

/-- The two positions of a corner, row first, with `gap` characters between them, and what
    follows. -/
def corner? (gap : Nat) (t : Text) : Option (Position × Position × Text) := do
  let (y, rest) ← split? t
  let (x, rest) ← split? (rest.drop gap)
  return (y, x, rest)

theorem split?_field (p : Position) (rest : Text) : split? (p.field ++ rest) = some (p, rest) := by
  have htake : (p.field ++ rest).take 4 = p.field := List.take_left' p.length_field
  have hdrop : (p.field ++ rest).drop 4 = rest := List.drop_left' p.length_field
  simp only [split?, htake, hdrop, value_digits_field, p.isLt, dite_true]

theorem corner?_fields (y x : Position) (rest : Text) :
    corner? 0 (y.field ++ (x.field ++ rest)) = some (y, x, rest) := by
  simp [corner?, split?_field]

theorem corner?_comma (y x : Position) (rest : Text) :
    corner? 1 (y.field ++ ',' :: (x.field ++ rest)) = some (y, x, rest) := by
  simp [corner?, split?_field]

end Position

theorem Decimal.IsWritten.comma_not_mem {t : Text} (h : IsWritten t) : ',' ∉ t := by
  intro hmem
  rcases h _ hmem with hc | hc
  · cases hc
  · exact absurd hc (by decide)

theorem Size.fields_field (s : Size) : Text.fields ',' s.field = [s.field] :=
  Text.fields_of_not_mem s.isWritten_field.comma_not_mem

theorem Size.fields_field_comma (s t : Size) :
    Text.fields ',' (s.field ++ ',' :: t.field) = [s.field, t.field] := by
  rw [Text.fields_append s.isWritten_field.comma_not_mem, fields_field]

/-! ## Lines -/

/-- The operation of a record, read from its line. -/
def Operation.ofLine? : Text → Option Operation
  | '1' :: rest => do
    let (y, x, body) ← Position.corner? 0 (rest.drop 6)
    return .text y x body
  | 'B' :: ' ' :: rest => do
    let (y, x, rest) ← Position.corner? 1 (rest.drop 6)
    return .qrCode y x (rest.drop 4)
  | 'B' :: symbology :: rest => do
    let (y, x, code) ← Position.corner? 0 rest
    return .barcode [symbology] y x code
  | 'E' :: rest => do
    let (y, x, rest) ← Position.corner? 1 rest
    let (endY, endX, rest) ← Position.corner? 1 (rest.drop 1)
    match Text.fields ',' (rest.drop 1) with
    | [thickness, _] => return .box y x endY endX thickness
    | _ => none
  | 'C' :: rest => do
    let (y, x, rest) ← Position.corner? 1 rest
    match Text.fields ',' (rest.drop 1) with
    | [diameter, thickness] => return .circle y x diameter thickness
    | _ => none
  | 'X' :: rest => do
    let (y, x, rest) ← Position.corner? 1 rest
    let (endY, endX, rest) ← Position.corner? 1 (rest.drop 1)
    return .line y x endY endX (rest.drop 1)
  | 'Y' :: rest => do
    let (y, x, rest) ← Position.corner? 1 rest
    return .recallImage y x (rest.drop 1)
  | _ => none

/-- The images at the front of the lines, and the lines behind them. -/
def StoredImage.ofLines : List Text → List StoredImage × List Text
  | ('I' :: 'D' :: name) :: data :: lines =>
    (⟨name, data⟩ :: (ofLines lines).1, (ofLines lines).2)
  | lines => ([], lines)

namespace Record

/-- The texts of a record hold no carriage return, and its symbology is one character that is not
    the space, with which a QR code starts. -/
def IsPlain : Record → Prop
  | text _ _ body => '\r' ∉ body
  | qrCode _ _ code => '\r' ∉ code
  | barcode symbology _ _ code =>
    (∃ c, symbology = [c] ∧ c ≠ ' ' ∧ c ≠ '\r') ∧ '\r' ∉ code
  | box .. | circle .. | line .. => True
  | recallImage _ _ name => '\r' ∉ name

theorem ofLine?_body {r : Record} (h : r.IsPlain) :
    Operation.ofLine? r.body = some r.operation := by
  cases r with
  | text y x written => simp [body, operation, Operation.ofLine?, Position.corner?_fields]
  | qrCode y x code => simp [body, operation, Operation.ofLine?, Position.corner?_comma]
  | barcode symbology y x code =>
    obtain ⟨⟨c, rfl, hspace, -⟩, -⟩ := h
    simp [body, operation, Operation.ofLine?, Position.corner?_fields]
  | box y x endY endX thickness =>
    simp [body, operation, Operation.ofLine?, Position.corner?_comma, Size.fields_field_comma]
  | circle y x diameter thickness =>
    simp [body, operation, Operation.ofLine?, Position.corner?_comma, Size.fields_field_comma]
  | line y x endY endX thickness =>
    simp [body, operation, Operation.ofLine?, Position.corner?_comma]
  | recallImage y x name => simp [body, operation, Operation.ofLine?, Position.corner?_comma]

theorem return_not_mem_field (p : Position) : '\r' ∉ p.field :=
  fun h => (p.isWritten_field _ h).ne_return rfl

theorem return_not_mem_size (s : Size) : '\r' ∉ s.field :=
  fun h => (s.isWritten_field _ h).ne_return rfl

/-- The line of a record holds no carriage return but its terminator. -/
theorem return_not_mem_body {r : Record} (h : r.IsPlain) : '\r' ∉ r.body := by
  cases r with
  | text y x written =>
    simp only [IsPlain] at h
    simp [body, return_not_mem_field, h]
  | qrCode y x code =>
    simp only [IsPlain] at h
    simp [body, return_not_mem_field, h]
  | barcode symbology y x code =>
    obtain ⟨⟨c, rfl, -, hreturn⟩, hcode⟩ := h
    simp [body, return_not_mem_field, hcode, Ne.symm hreturn]
  | box | circle | line => simp [body, return_not_mem_field, return_not_mem_size]
  | recallImage y x name =>
    simp only [IsPlain] at h
    simp [body, return_not_mem_field, h]

/-- No line of a record starts as that of an image does. -/
theorem body_ne_image (r : Record) (name : Text) : r.body ≠ 'I' :: 'D' :: name := by
  cases r <;> simp [body]

end Record

namespace Label

/-- The lines that store an image. -/
def linesOf (image : StoredImage) : List Text := ['I' :: 'D' :: image.name, image.data]

/-- All that the lines of a label are read back from. -/
structure IsPlain (label : Label) : Prop where
  config : '\r' ∉ label.config
  images : ∀ image ∈ label.images, image.IsChecked
  records : ∀ r ∈ label.records, r.IsPlain

theorem fields_images {images : List StoredImage} (h : ∀ image ∈ images, image.IsChecked)
    (rest : Text) :
    Text.fields '\r' (images.flatMap StoredImage.render ++ rest) =
      images.flatMap linesOf ++ Text.fields '\r' rest := by
  induction images with
  | nil => rfl
  | cons image images ih =>
    rw [List.forall_mem_cons] at h
    have hname : '\r' ∉ 'I' :: 'D' :: image.name := by
      have hword := List.count_eq_zero.mp (Record.count_of_all Record.isWord_return h.1.name)
      simp [hword]
    have hdata : '\r' ∉ image.data :=
      List.count_eq_zero.mp (Record.count_of_all Record.isHexadecimal_return h.1.data)
    have hrender : image.render ++ (images.flatMap StoredImage.render ++ rest) =
        ('I' :: 'D' :: image.name) ++ '\r' ::
          (image.data ++ '\r' :: (images.flatMap StoredImage.render ++ rest)) := by
      simp [StoredImage.render]
    rw [List.flatMap_cons, List.append_assoc, hrender, Text.fields_append hname,
      Text.fields_append hdata, ih h.2]
    rfl

theorem fields_records {records : List Record} (h : ∀ r ∈ records, r.IsPlain) (rest : Text) :
    Text.fields '\r' (records.flatMap Record.render ++ rest) =
      records.map Record.body ++ Text.fields '\r' rest := by
  induction records with
  | nil => rfl
  | cons r records ih =>
    rw [List.forall_mem_cons] at h
    have hrender : r.render ++ (records.flatMap Record.render ++ rest) =
        r.body ++ '\r' :: (records.flatMap Record.render ++ rest) := by
      simp [Record.render, Record.terminator]
    rw [List.flatMap_cons, List.append_assoc, hrender,
      Text.fields_append (Record.return_not_mem_body h.1), ih h.2]
    rfl

/-- The lines of a script, with the empty one behind its last carriage return. -/
theorem fields_script {label : Label} (h : label.IsPlain) :
    Text.fields '\r' label.script =
      ['\x02', 'L'] :: label.config :: (label.images.flatMap linesOf ++
        (label.records.map Record.body ++ [['E'], []])) := by
  have hframe : label.script = ['\x02', 'L'] ++ '\r' :: (label.config ++ '\r' ::
      (label.images.flatMap StoredImage.render ++
        (label.records.flatMap Record.render ++ ['E', '\r']))) := by
    simp [script, imageLines, layoutLines]
  rw [hframe, Text.fields_append (by decide), Text.fields_append h.config, fields_images h.images,
    fields_records h.records]
  rfl

/-! ## Contents -/

/-- What a script stores and draws. -/
structure Contents where
  images : List StoredImage
  operations : List Operation
  deriving DecidableEq

/-- Reads the contents of a script. Its first two lines are its frame, the last two the terminator
    and the empty one behind it. -/
def read? (script : Text) : Option Contents :=
  match Text.fields '\r' script with
  | _ :: _ :: lines => do
    let (images, lines) := StoredImage.ofLines lines
    let operations ← (lines.take (lines.length - 2)).mapM Operation.ofLine?
    return ⟨images, operations⟩
  | _ => none

theorem ofLines_append (images : List StoredImage) {lines : List Text}
    (h : ∀ line ∈ lines.head?, ∀ name, line ≠ 'I' :: 'D' :: name) :
    StoredImage.ofLines (images.flatMap linesOf ++ lines) = (images, lines) := by
  induction images with
  | nil =>
    rw [List.flatMap_nil, List.nil_append, StoredImage.ofLines.eq_def]
    split
    · next name data rest => exact absurd rfl (h _ rfl name)
    · rfl
  | cons image images ih =>
    rw [List.flatMap_cons, List.append_assoc, linesOf, List.cons_append, List.cons_append,
      List.nil_append, StoredImage.ofLines, ih]

theorem mapM_ofLine? {records : List Record} (h : ∀ r ∈ records, r.IsPlain) :
    (records.map Record.body).mapM Operation.ofLine? =
      some (records.map Record.operation) := by
  induction records with
  | nil => rfl
  | cons r records ih =>
    rw [List.forall_mem_cons] at h
    rw [List.map_cons, List.mapM_cons, Record.ofLine?_body h.1, ih h.2]
    rfl

theorem read?_script {label : Label} (h : label.IsPlain) :
    read? label.script = some ⟨label.images, label.records.map Record.operation⟩ := by
  have hlayout : ∀ line ∈ (label.records.map Record.body ++ [['E'], []]).head?,
      ∀ name, line ≠ 'I' :: 'D' :: name := by
    intro line hline name
    cases hrecords : label.records with
    | nil =>
      rw [hrecords] at hline
      cases hline
      simp
    | cons r records =>
      rw [hrecords] at hline
      cases hline
      exact r.body_ne_image name
  have htake : (label.records.map Record.body ++ [['E'], []]).take
      ((label.records.map Record.body ++ [['E'], []]).length - 2) =
        label.records.map Record.body :=
    List.take_left' (by simp)
  unfold read?
  rw [fields_script h]
  dsimp only
  rw [ofLines_append label.images hlayout]
  dsimp only
  rw [htake, mapM_ofLine? h.records]
  rfl

end Label

/-! ## Requests -/

/-- The texts of a figure hold no carriage return, and a symbology other than the QR code is one
    character, not the space. -/
def Figure.IsPlain : Figure → Prop
  | text _ _ body => '\r' ∉ body
  | barcode _ _ code symbology =>
    '\r' ∉ code ∧ (isQrCode symbology ∨ ∃ c, symbology = [c] ∧ c ≠ ' ' ∧ c ≠ '\r')
  | box .. | circle .. | line .. => True
  | recallImage _ _ name => '\r' ∉ name

theorem Figure.isPlain_of_record {figure : Figure} (h : figure.IsPlain) :
    ∀ r, figure.record = .ok r → r.IsPlain := by
  cases figure with
  | text x y body =>
    refine forall_ok_bind fun row _ => forall_ok_bind fun column _ r hr => ?_
    cases hr
    exact h
  | barcode x y code symbology =>
    refine forall_ok_bind fun row _ => forall_ok_bind fun column _ r hr => ?_
    cases hr
    split
    · exact h.1
    · next hqr => exact ⟨h.2.resolve_left hqr, h.1⟩
  | box | line =>
    refine forall_ok_bind fun row _ => forall_ok_bind fun column _ =>
      forall_ok_bind fun bottom _ => forall_ok_bind fun endRow _ =>
      forall_ok_bind fun right _ => forall_ok_bind fun endColumn _ =>
      forall_ok_bind fun size _ r hr => ?_
    cases hr
    exact trivial
  | circle =>
    refine forall_ok_bind fun row _ => forall_ok_bind fun column _ =>
      forall_ok_bind fun across _ => forall_ok_bind fun size _ r hr => ?_
    cases hr
    exact trivial
  | recallImage x y name =>
    refine forall_ok_bind fun row _ => forall_ok_bind fun column _ r hr => ?_
    cases hr
    exact h

namespace LabelRequest

/-- A request that can be read back. -/
def IsPlain : LabelRequest → Prop
  | store .. => True
  | draw figure => figure.IsPlain

/-- The image that is asked to be stored. -/
def stored? : LabelRequest → Option StoredImage
  | store name data => some ⟨name, data⟩
  | draw _ => none

/-- The operation that is asked for. -/
def operation? : LabelRequest → Option Operation
  | store .. => none
  | draw figure => figure.record.toOption.map Record.operation

end LabelRequest

namespace Label

/-- The label after several requests, of which none fails. -/
def carryOut (label : Label) (requests : List LabelRequest) : Except Fault Label :=
  requests.foldlM perform label

/-- A request adds what it asks for and nothing else. -/
theorem perform_eq_ok {label next : Label} {request : LabelRequest}
    (h : label.perform request = .ok next) (hrequest : request.IsPlain) (hlabel : label.IsPlain) :
    next.IsPlain ∧ next.images = label.images ++ request.stored?.toList ∧
      next.records.map Record.operation =
        label.records.map Record.operation ++ request.operation?.toList := by
  cases request with
  | store name data =>
    obtain ⟨image, himage, h⟩ := bind_eq_ok_iff.mp h
    cases h
    have hmade : image = ⟨name, data⟩ := StoredImage.eq_of_make himage
    subst hmade
    refine ⟨⟨hlabel.config, ?_, hlabel.records⟩, rfl, (List.append_nil _).symm⟩
    intro image hmem
    rcases List.mem_append.mp hmem with hmem | hmem
    · exact hlabel.images image hmem
    · rw [List.mem_singleton.mp hmem]
      exact StoredImage.isChecked_of_make himage
  | draw figure =>
    obtain ⟨record, hrecord, h⟩ := bind_eq_ok_iff.mp h
    cases h
    refine ⟨⟨hlabel.config, hlabel.images, ?_⟩, (List.append_nil _).symm, ?_⟩
    · intro r hmem
      rcases List.mem_append.mp hmem with hmem | hmem
      · exact hlabel.records r hmem
      · rw [List.mem_singleton.mp hmem]
        exact Figure.isPlain_of_record hrequest record hrecord
    · simp [LabelRequest.operation?, hrecord, Except.toOption]

theorem carryOut_eq_ok {label final : Label} {requests : List LabelRequest}
    (h : label.carryOut requests = .ok final) (hrequests : ∀ r ∈ requests, r.IsPlain)
    (hlabel : label.IsPlain) :
    final.IsPlain ∧ final.images = label.images ++ requests.filterMap LabelRequest.stored? ∧
      final.records.map Record.operation =
        label.records.map Record.operation ++ requests.filterMap LabelRequest.operation? := by
  induction requests generalizing label with
  | nil =>
    cases h
    simp [hlabel]
  | cons request requests ih =>
    rw [List.forall_mem_cons] at hrequests
    obtain ⟨next, hnext, h⟩ := bind_eq_ok_iff.mp h
    obtain ⟨hplain, himages, hoperations⟩ := perform_eq_ok hnext hrequests.1 hlabel
    obtain ⟨hfinal, himages', hoperations'⟩ := ih h hrequests.2 hplain
    simp only [List.filterMap_eq_flatMap_toList, List.flatMap_cons] at himages' hoperations' ⊢
    refine ⟨hfinal, ?_, ?_⟩
    · rw [himages', himages, List.append_assoc]
    · rw [hoperations', hoperations, List.append_assoc]

theorem read?_carryOut {config : Text} (hconfig : '\r' ∉ config) {requests : List LabelRequest}
    {label : Label} (h : (empty config).carryOut requests = .ok label)
    (hrequests : ∀ r ∈ requests, r.IsPlain) :
    read? label.script =
      some ⟨requests.filterMap LabelRequest.stored?,
        requests.filterMap LabelRequest.operation?⟩ := by
  have hempty : (empty config).IsPlain :=
    ⟨hconfig, fun _ h => absurd h List.not_mem_nil, fun _ h => absurd h List.not_mem_nil⟩
  obtain ⟨hplain, himages, hoperations⟩ := carryOut_eq_ok h hrequests hempty
  rw [read?_script hplain, himages, hoperations]
  rfl

/-- What was stored and what was drawn can be read back from the script alone. So requests that
    lead to the same script ask for the same images and the same operations, each in the same
    order. -/
theorem script_decodable {config : Text} (hconfig : '\r' ∉ config) :
    (∀ requests label, (empty config).carryOut requests = .ok label →
      (∀ r ∈ requests, r.IsPlain) →
      read? label.script =
        some ⟨requests.filterMap LabelRequest.stored?,
          requests.filterMap LabelRequest.operation?⟩) ∧
    ∀ requests requests' label label', (empty config).carryOut requests = .ok label →
      (empty config).carryOut requests' = .ok label' →
      (∀ r ∈ requests, r.IsPlain) → (∀ r ∈ requests', r.IsPlain) →
      label.script = label'.script →
      requests.filterMap LabelRequest.stored? = requests'.filterMap LabelRequest.stored? ∧
        requests.filterMap LabelRequest.operation? =
          requests'.filterMap LabelRequest.operation? := by
  refine ⟨fun _ _ => read?_carryOut hconfig, fun _ _ _ _ h h' hplain hplain' hscript => ?_⟩
  have hread := read?_carryOut hconfig h hplain
  rw [hscript, read?_carryOut hconfig h' hplain', Option.some.injEq, Contents.mk.injEq] at hread
  exact ⟨hread.1.symm, hread.2.symm⟩

/-- Requests in an order of which the script shows nothing, and with a QR code by its letter. -/
def mixedRequests : List LabelRequest :=
  [.draw (.text (.ofInt 1) (.ofInt 2) "a,b".toList),
    .store "A".toList "0F".toList,
    .draw (.barcode (.ofInt 3) (.ofInt 4) "E0001".toList Figure.qrCodeLetter),
    .draw (.box (.ofInt 5) (.ofInt 6) (.ofInt 7) (.ofInt 8) (.ofInt 9)),
    .draw (.barcode (.ofInt 1) (.ofInt 1) "ID".toList ['E'])]

/-- The same with the image first and with the QR code by its name. -/
def orderedRequests : List LabelRequest :=
  [.store "A".toList "0F".toList,
    .draw (.text (.text "1px".toList) (.ofInt 2) "a,b".toList),
    .draw (.barcode (.ofInt 3) (.ofInt 4) "E0001".toList Figure.qrCodeName),
    .draw (.box (.ofInt 5) (.ofInt 6) (.ofInt 7) (.ofInt 8) (.text "9".toList)),
    .draw (.barcode (.ofInt 1) (.ofInt 1) "ID".toList ['E'])]

theorem script_decodable_of_mixedRequests :
    ∃ label label', (empty defaultConfig).carryOut mixedRequests = .ok label ∧
      (empty defaultConfig).carryOut orderedRequests = .ok label' ∧
      label.script = label'.script ∧
      mixedRequests.filterMap LabelRequest.stored? =
        orderedRequests.filterMap LabelRequest.stored? ∧
      mixedRequests.filterMap LabelRequest.operation? =
        orderedRequests.filterMap LabelRequest.operation? := by
  obtain ⟨label, h⟩ := exists_of_isOk
    (x := (empty defaultConfig).carryOut mixedRequests) (by decide +kernel)
  obtain ⟨label', h'⟩ := exists_of_isOk
    (x := (empty defaultConfig).carryOut orderedRequests) (by decide +kernel)
  have hscript : (((empty defaultConfig).carryOut mixedRequests).map script).toOption =
      (((empty defaultConfig).carryOut orderedRequests).map script).toOption := by
    decide +kernel
  rw [h, h'] at hscript
  have hsame : label.script = label'.script := Option.some.inj hscript
  refine ⟨label, label', h, h', hsame, ?_⟩
  refine (script_decodable (by decide)).2 _ _ label label' h h' ?_ ?_ hsame
  · simp [mixedRequests, LabelRequest.IsPlain, Figure.IsPlain, Figure.isQrCode]
  · simp [orderedRequests, LabelRequest.IsPlain, Figure.IsPlain, Figure.isQrCode]

end Label

end ThermalLabel
