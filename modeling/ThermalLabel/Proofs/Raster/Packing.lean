/-
  A bitmap is packed without loss.

  A byte under way with the bits that follow comes to the bytes of the pieces of eight bits
  (`Bitmap.rowTextFrom_joined`). The bytes in hexadecimal are read back pair by pair of digits
  (`Bitmap.bytes`). Every row takes as many bytes as its width needs, so the bit of column `x` in
  row `y` stands in a byte that its place alone tells (`Bitmap.bitAt`). What `pack` puts there is
  the bit of the bitmap, and
  zero behind the end of a row (`Bitmap.bitAt_rowsText`). So the bits can be read back, and every
  text of the right length with zeros behind the ends of its rows is the packing of what is read
  from it (`Bitmap.pack_lossless`).
-/
import Mathlib.Data.List.Induction
import Mathlib.Data.Nat.Bitwise
import ThermalLabel.Proofs.Raster.Hexadecimal

namespace ThermalLabel

open StoredImage (isHexadecimal)

/-! ## Pieces of equal size -/

theorem getElem?_rowsOf {α : Type} (size count : Nat) (items : List α) (k : Nat) :
    (rowsOf size count items)[k]? =
      if k < count then some ((items.drop (k * size)).take size) else none := by
  induction count generalizing items k with
  | zero => rfl
  | succ count ih =>
    rw [rowsOf]
    cases k with
    | zero => simp
    | succ k =>
      rw [List.getElem?_cons_succ, ih, List.drop_drop, Nat.succ_mul, Nat.add_comm size]
      simp only [Nat.succ_lt_succ_iff]

theorem exists_of_mem_rowsOf {α : Type} {size count : Nat} {items piece : List α}
    (h : piece ∈ rowsOf size count items) :
    ∃ k < count, piece = (items.drop (k * size)).take size := by
  obtain ⟨k, hk⟩ := List.mem_iff_getElem?.mp h
  rw [getElem?_rowsOf] at hk
  split at hk
  · next hless => exact ⟨k, hless, (Option.some.inj hk).symm⟩
  · cases hk

/-- Among pieces of equal length the place of an item tells its piece. -/
theorem getElem?_flatMap_of_length {α β : Type} {f : α → List β} {n : Nat} {l : List α}
    (h : ∀ a ∈ l, (f a).length = n) (y : Nat) {k : Nat} (hk : k < n) :
    (l.flatMap f)[y * n + k]? = l[y]?.bind fun a => (f a)[k]? := by
  induction l generalizing y with
  | nil => rfl
  | cons a l ih =>
    rw [List.forall_mem_cons] at h
    rw [List.flatMap_cons]
    cases y with
    | zero =>
      rw [Nat.zero_mul, Nat.zero_add, List.getElem?_append_left (by omega)]
      rfl
    | succ y =>
      have hplace : (y + 1) * n + k = (f a).length + (y * n + k) := by
        rw [h.1, Nat.succ_mul]
        omega
      rw [hplace, List.getElem?_append_right (Nat.le_add_right _ _), Nat.add_sub_cancel_left,
        ih h.2, List.getElem?_cons_succ]

theorem length_flatMap_of_length {α β : Type} {f : α → List β} {n : Nat} {l : List α}
    (h : ∀ a ∈ l, (f a).length = n) : (l.flatMap f).length = l.length * n := by
  induction l with
  | nil => simp
  | cons a l ih =>
    rw [List.forall_mem_cons] at h
    rw [List.flatMap_cons, List.length_append, h.1, ih h.2, List.length_cons, Nat.succ_mul]
    omega

theorem length_rowsOf {α : Type} (size count : Nat) (items : List α) :
    (rowsOf size count items).length = count := by
  induction count generalizing items with
  | zero => rfl
  | succ count ih => rw [rowsOf, List.length_cons, ih]

namespace Bitmap

/-! ## The bytes of a row -/

/-- The number of bits that are put one behind the other. -/
def joined (bits : List Int) : Int := bits.foldl (fun byte bit => or (2 * byte) bit) 0

/-- The byte of up to eight bits, which stand at its upper end. -/
def byte (bits : List Int) : Int := joined bits * Int.pow 2 (8 - bits.length)

theorem joined_concat (bits : List Int) (bit : Int) :
    joined (bits ++ [bit]) = or (2 * joined bits) bit := by
  rw [joined, List.foldl_append]
  rfl

/-- The bytes of bits in hexadecimal, cut into pieces of eight. -/
def pieceTexts (bits : List Int) : Text :=
  (rowsOf 8 ((bits.length + 7) / 8) bits).flatMap fun piece => byteText (byte piece)

theorem pieceTexts_of_short {bits : List Int} (hne : bits ≠ []) (hless : bits.length < 8) :
    pieceTexts bits = byteText (byte bits) := by
  have hpositive := List.length_pos_iff.mpr hne
  have hone : (bits.length + 7) / 8 = 1 := by omega
  rw [pieceTexts, hone, rowsOf, rowsOf, List.take_of_length_le (Nat.le_of_lt hless)]
  exact List.append_nil _

theorem pieceTexts_append {piece : List Int} (hlength : piece.length = 8) (bits : List Int) :
    pieceTexts (piece ++ bits) = byteText (joined piece) ++ pieceTexts bits := by
  have hcount : ((piece ++ bits).length + 7) / 8 = (bits.length + 7) / 8 + 1 := by
    rw [List.length_append]
    omega
  have hbyte : byte piece = joined piece := by
    rw [byte, hlength]
    exact Int.mul_one _
  rw [pieceTexts, hcount, rowsOf, ← hlength, List.take_left, List.drop_left, hlength,
    List.flatMap_cons, hbyte]
  rfl

/-- The bits of the byte under way are those before the rest of the row: with them the rest comes to
    the bytes of its pieces. -/
theorem rowTextFrom_joined (bits : List Int) {front : List Int} (hfront : front.length < 8) :
    rowTextFrom (joined front) front.length bits = pieceTexts (front ++ bits) := by
  induction bits generalizing front with
  | nil =>
    rw [rowTextFrom, List.append_nil]
    split
    · next hnone =>
      rw [List.length_eq_zero_iff.mp hnone]
      rfl
    · next hsome =>
      have hne : front ≠ [] := fun hnone => hsome (by rw [hnone]; rfl)
      exact (pieceTexts_of_short hne hfront).symm
  | cons bit bits ih =>
    have hlength : (front ++ [bit]).length = front.length + 1 := List.length_append
    rw [rowTextFrom, List.append_cons, ← joined_concat, ← hlength]
    split
    · next hfull =>
      -- the byte is full, and the next one starts with no bits
      rw [pieceTexts_append hfull]
      exact congrArg _ (ih (by decide : ([] : List Int).length < 8))
    · next hopen => exact ih (by omega)

theorem rowText_eq_pieceTexts (row : List Int) : rowText row = pieceTexts row :=
  rowTextFrom_joined row (by decide : ([] : List Int).length < 8)

/-! ## The bits of a byte -/

/-- Bits put one behind the other make a number with these binary digits. -/
theorem exists_joined {bits : List Int} (h : ∀ bit ∈ bits, IsBit bit) :
    ∃ n : Nat, joined bits = n ∧ n < 2 ^ bits.length ∧
      ∀ i < bits.length, n.testBit (bits.length - 1 - i) = decide (bits[i]? = some 1) := by
  induction bits using List.reverseRecOn with
  | nil => exact ⟨0, rfl, by decide, fun i hi => absurd hi (Nat.not_lt_zero i)⟩
  | append_singleton bits bit ih =>
    obtain ⟨n, hn, hless, hbits⟩ := ih fun b hb => h b (List.mem_append_left _ hb)
    obtain ⟨b, hb, hbit⟩ : ∃ b : Nat, b < 2 ∧ bit = b := by
      rcases h bit (by simp) with rfl | rfl
      · exact ⟨0, by decide, rfl⟩
      · exact ⟨1, by decide, rfl⟩
    have hor : 2 * n ||| b = 2 * n + b :=
      (Nat.two_pow_add_eq_or_of_lt (i := 1) hb n).symm
    rw [List.length_append, List.length_singleton]
    refine ⟨2 * n + b, ?_, ?_, fun i hi => ?_⟩
    · rw [joined_concat, hn, hbit, ← hor]
      rfl
    · rw [Nat.pow_succ]
      omega
    · rcases Nat.lt_succ_iff_lt_or_eq.mp hi with hi | rfl
      · have hplace : bits.length + 1 - 1 - i = (bits.length - 1 - i) + 1 := by omega
        have hhalf : (2 * n + b) / 2 = n := by omega
        rw [hplace, Nat.testBit_succ, hhalf, hbits i hi, List.getElem?_append_left hi]
      · rw [Nat.add_sub_cancel, Nat.sub_self, Nat.testBit_zero, List.getElem?_concat_length, hbit]
        have hrest : (2 * n + b) % 2 = b := by omega
        rw [hrest]
        exact decide_eq_decide.mpr (by rw [Option.some.injEq]; omega)

theorem exists_byte {piece : List Int} (hlength : piece.length ≤ 8)
    (h : ∀ bit ∈ piece, IsBit bit) :
    ∃ n : Nat, byte piece = n ∧ n < 256 ∧
      ∀ i < 8, n.testBit (7 - i) = decide (piece[i]? = some 1) := by
  obtain ⟨n, hn, hless, hbits⟩ := exists_joined h
  refine ⟨n * 2 ^ (8 - piece.length), ?_, ?_, fun i hi => ?_⟩
  · rw [byte, hn]
    push_cast
    rfl
  · calc n * 2 ^ (8 - piece.length)
        < 2 ^ piece.length * 2 ^ (8 - piece.length) :=
          Nat.mul_lt_mul_of_pos_right hless (Nat.two_pow_pos _)
      _ = 256 := by rw [← Nat.pow_add, Nat.add_sub_cancel' hlength]
  · rw [Nat.testBit_mul_two_pow]
    by_cases hpiece : i < piece.length
    · have hplace : 7 - i - (8 - piece.length) = piece.length - 1 - i := by omega
      rw [hplace, hbits i hpiece, decide_eq_true (by omega : 8 - piece.length ≤ 7 - i),
        Bool.true_and]
    · rw [decide_eq_false (by omega : ¬ 8 - piece.length ≤ 7 - i), Bool.false_and,
        List.getElem?_eq_none (by omega)]
      rfl

/-! ## Bytes in hexadecimal -/

/-- The value of a capital hexadecimal digit. -/
def digitValue (c : Char) : Nat :=
  if c.isDigit then c.toNat - '0'.toNat else c.toNat - 'A'.toNat + 10

/-- The bytes of a text, every one in two hexadecimal digits. -/
def bytes : Text → List Nat
  | a :: b :: rest => (16 * digitValue a + digitValue b) :: bytes rest
  | _ => []

theorem length_byteText {n : Nat} (hn : n < 256) : (byteText n).length = 2 := by
  have hall : ∀ n : Fin 256, (byteText (n : Nat)).length = 2 := by decide +kernel
  exact hall ⟨n, hn⟩

/-- The two digits that a byte is written as are read as the byte. -/
theorem bytes_byteText {n : Nat} (hn : n < 256) (rest : Text) :
    bytes (byteText n ++ rest) = n :: bytes rest := by
  have hall : ∀ n : Fin 256, bytes (byteText (n : Nat)) = [n.1] := by decide +kernel
  have hread : bytes (byteText n) = [n] := hall ⟨n, hn⟩
  obtain ⟨a, b, htext⟩ := List.length_eq_two.mp (length_byteText hn)
  rw [htext] at hread ⊢
  exact congrArg (· ++ bytes rest) hread

theorem bytes_flatMap_byteText {l : List Nat} (h : ∀ n ∈ l, n < 256) :
    bytes (l.flatMap fun n : Nat => byteText n) = l := by
  induction l with
  | nil => rfl
  | cons n l ih =>
    rw [List.forall_mem_cons] at h
    rw [List.flatMap_cons, bytes_byteText h.1, ih h.2]

/-- Two digits are what the byte they are read as is written as. -/
theorem byteText_of_digits {a b : Char} (ha : isHexadecimal a) (hb : isHexadecimal b) :
    byteText ((16 * digitValue a + digitValue b : Nat) : Int) = [a, b] := by
  have hall : ∀ a ∈ "0123456789ABCDEF".toList, "0123456789ABCDEF".toList.all fun b =>
      byteText ((16 * digitValue a + digitValue b : Nat) : Int) = [a, b] :=
    List.all_iff_forall_prop.mp (by decide +kernel)
  have hrow := List.all_iff_forall_prop.mp (hall a (mem_digits_of_isHexadecimal ha))
  exact hrow b (mem_digits_of_isHexadecimal hb)

theorem digitValue_lt {c : Char} (h : isHexadecimal c) : digitValue c < 16 := by
  have hall : ∀ c ∈ "0123456789ABCDEF".toList, digitValue c < 16 :=
    List.all_iff_forall_prop.mp (by decide)
  exact hall c (mem_digits_of_isHexadecimal h)

/-- Less than two digits are no byte. -/
theorem bytes_of_short {data : Text} (h : ∀ a b rest, data = a :: b :: rest → False) :
    bytes data = [] ∧ data.length < 2 := by
  match data, h with
  | [], _ => exact ⟨rfl, by decide⟩
  | [a], _ => exact ⟨by simp [bytes], Nat.lt_succ_self 1⟩
  | a :: b :: rest, h => exact absurd rfl (h a b rest)

theorem length_bytes (data : Text) : (bytes data).length = data.length / 2 := by
  induction data using bytes.induct with
  | case1 a b rest ih =>
    rw [bytes, List.length_cons, ih, List.length_cons, List.length_cons]
    omega
  | case2 data hshort =>
    obtain ⟨hnone, hless⟩ := bytes_of_short hshort
    rw [hnone, List.length_nil]
    omega

theorem lt_of_mem_bytes {data : Text} (h : data.all isHexadecimal) : ∀ n ∈ bytes data, n < 256 := by
  induction data using bytes.induct with
  | case1 a b rest ih =>
    rw [List.all_cons, List.all_cons, Bool.and_eq_true, Bool.and_eq_true] at h
    have ha := digitValue_lt h.1
    have hb := digitValue_lt h.2.1
    rw [bytes, List.forall_mem_cons]
    exact ⟨by omega, ih h.2.2⟩
  | case2 data hshort =>
    rw [(bytes_of_short hshort).1]
    exact fun n hn => absurd hn List.not_mem_nil

/-- An even number of digits is written again from the bytes they are read as. -/
theorem flatMap_byteText_bytes {data : Text} (heven : data.length % 2 = 0)
    (h : data.all isHexadecimal) : ((bytes data).flatMap fun n : Nat => byteText n) = data := by
  induction data using bytes.induct with
  | case1 a b rest ih =>
    rw [List.all_cons, List.all_cons, Bool.and_eq_true, Bool.and_eq_true] at h
    rw [List.length_cons, List.length_cons] at heven
    rw [bytes, List.flatMap_cons, byteText_of_digits h.1 h.2.1, ih (by omega) h.2.2]
    rfl
  | case2 data hshort =>
    obtain ⟨hnone, hless⟩ := bytes_of_short hshort
    have hempty : data = [] := List.length_eq_zero_iff.mp (by omega)
    rw [hempty]
    rfl

/-! ## The place of a bit -/

/-- The bytes of a row. -/
def stride (width : Nat) : Nat := (width + 7) / 8

/-- The bit of column `x` in row `y` of the bytes of a text. -/
def bitAt (width : Nat) (data : Text) (x y : Nat) : Bool :=
  ((bytes data).getD (y * stride width + x / 8) 0).testBit (7 - x % 8)

/-- The bits of a text, row by row. -/
def unpack (width height : Nat) (data : Text) : List Int :=
  (List.range (width * height)).map fun i => (bitAt width data (i % width) (i / width)).toInt

/-- As many bits as the dimensions say. -/
structure IsBitmap (width height : Nat) (bits : List Int) : Prop where
  length : bits.length = width * height
  isBit : ∀ bit ∈ bits, IsBit bit

/-- Rows of whole bytes in hexadecimal with zeros behind the ends of the rows. -/
structure IsPacking (width height : Nat) (data : Text) : Prop where
  length : data.length = 2 * height * stride width
  digits : data.all isHexadecimal
  padding : ∀ y < height, ∀ x < 8 * stride width, width ≤ x → bitAt width data x y = false

variable {width height : Nat} {bits : List Int} {data : Text}

theorem width_le_stride (width : Nat) : width ≤ 8 * stride width := by
  unfold stride
  omega

/-! ## Packing -/

/-- The byte of a piece as a natural number. -/
def number (piece : List Int) : Nat := (byte piece).toNat

theorem number_spec {piece : List Int} (hlength : piece.length ≤ 8)
    (h : ∀ bit ∈ piece, IsBit bit) :
    byte piece = number piece ∧ number piece < 256 ∧
      ∀ i < 8, (number piece).testBit (7 - i) = decide (piece[i]? = some 1) := by
  obtain ⟨n, hn, hbits⟩ := exists_byte hlength h
  have hnumber : number piece = n := by rw [number, hn, Int.toNat_natCast]
  rw [hnumber]
  exact ⟨hn, hbits⟩

theorem length_le_of_mem_rowsOf {α : Type} {size count : Nat} {items piece : List α}
    (h : piece ∈ rowsOf size count items) : piece.length ≤ size := by
  obtain ⟨k, -, rfl⟩ := exists_of_mem_rowsOf h
  exact List.length_take_le _ _

/-- The numbers of the bytes of a row. -/
def rowNumbers (row : List Int) : List Nat := (rowsOf 8 (stride row.length) row).map number

/-- The numbers of the bytes of a bitmap. -/
def numbers (width height : Nat) (bits : List Int) : List Nat :=
  (rowsOf width height bits).flatMap rowNumbers

theorem rowText_eq {row : List Int} (h : ∀ bit ∈ row, IsBit bit) :
    rowText row = (rowNumbers row).flatMap fun n : Nat => byteText n := by
  rw [rowText_eq_pieceTexts, pieceTexts, rowNumbers, stride, List.flatMap_map]
  refine List.flatMap_congr fun piece hpiece => ?_
  rw [(number_spec (length_le_of_mem_rowsOf hpiece) fun bit hbit =>
    h bit (exists_mem_of_mem_rowsOf hpiece bit hbit)).1]

theorem rowsText_eq (h : ∀ bit ∈ bits, IsBit bit) :
    rowsText bits width height = (numbers width height bits).flatMap fun n : Nat => byteText n := by
  rw [rowsText, numbers, List.flatMap_assoc]
  refine List.flatMap_congr fun row hrow => ?_
  exact rowText_eq fun bit hbit => h bit (exists_mem_of_mem_rowsOf hrow bit hbit)

theorem lt_of_mem_numbers (h : ∀ bit ∈ bits, IsBit bit) :
    ∀ n ∈ numbers width height bits, n < 256 := by
  intro n hn
  obtain ⟨row, hrow, hn⟩ := List.mem_flatMap.mp hn
  obtain ⟨piece, hpiece, rfl⟩ := List.mem_map.mp hn
  refine (number_spec (length_le_of_mem_rowsOf hpiece) fun bit hbit => ?_).2.1
  exact h bit (exists_mem_of_mem_rowsOf hrow bit (exists_mem_of_mem_rowsOf hpiece bit hbit))

/-- The rows of a bitmap are as long as it is wide. -/
theorem length_of_mem_rowsOf {row : List Int} (hlength : bits.length = width * height)
    (h : row ∈ rowsOf width height bits) : row.length = width := by
  obtain ⟨y, hy, rfl⟩ := exists_of_mem_rowsOf h
  have hrest : (y + 1) * width ≤ width * height := by
    rw [Nat.mul_comm width]
    exact Nat.mul_le_mul_right width hy
  rw [Nat.succ_mul] at hrest
  rw [List.length_take, List.length_drop]
  omega

theorem length_rowNumbers (row : List Int) : (rowNumbers row).length = stride row.length := by
  rw [rowNumbers, List.length_map, length_rowsOf]

theorem length_rowNumbers_of_mem {row : List Int} (hlength : bits.length = width * height)
    (h : row ∈ rowsOf width height bits) : (rowNumbers row).length = stride width := by
  rw [length_rowNumbers, length_of_mem_rowsOf hlength h]

theorem length_numbers (hlength : bits.length = width * height) :
    (numbers width height bits).length = height * stride width := by
  rw [numbers, length_flatMap_of_length fun row => length_rowNumbers_of_mem hlength, length_rowsOf]

theorem getElem?_numbers (hlength : bits.length = width * height) {x y : Nat}
    (hx : x < 8 * stride width) (hy : y < height) :
    (numbers width height bits)[y * stride width + x / 8]? =
      some (number ((((bits.drop (y * width)).take width).drop (x / 8 * 8)).take 8)) := by
  have hbyte : x / 8 < stride width := by omega
  have hrow : (rowsOf width height bits)[y]? = some ((bits.drop (y * width)).take width) := by
    rw [getElem?_rowsOf, if_pos hy]
  rw [numbers, getElem?_flatMap_of_length (fun row => length_rowNumbers_of_mem hlength) y hbyte,
    hrow, Option.bind_some, rowNumbers, List.getElem?_map, getElem?_rowsOf,
    length_of_mem_rowsOf hlength (List.mem_of_getElem? hrow), if_pos hbyte, Option.map_some]

/-- The bit at a place of the packing is that of the bitmap, or zero behind the end of the row. -/
theorem bitAt_rowsText (h : IsBitmap width height bits) {x y : Nat} (hx : x < 8 * stride width)
    (hy : y < height) :
    bitAt width (rowsText bits width height) x y =
      decide (x < width ∧ bits[y * width + x]? = some 1) := by
  have hpiece : ∀ bit ∈ (((bits.drop (y * width)).take width).drop (x / 8 * 8)).take 8,
      IsBit bit := fun bit hbit => h.isBit bit
    (List.mem_of_mem_drop (List.mem_of_mem_take (List.mem_of_mem_drop (List.mem_of_mem_take hbit))))
  have hplace : x / 8 * 8 + x % 8 = x := Nat.div_add_mod' x 8
  rw [bitAt, rowsText_eq h.isBit, bytes_flatMap_byteText (lt_of_mem_numbers h.isBit),
    List.getD_eq_getElem?_getD, getElem?_numbers h.length hx hy, Option.getD_some,
    (number_spec (List.length_take_le _ _) hpiece).2.2 _ (Nat.mod_lt x (by decide)),
    List.getElem?_take_of_lt (Nat.mod_lt x (by decide)), List.getElem?_drop, hplace,
    List.getElem?_take, List.getElem?_drop]
  split
  · next hin => simp only [hin, true_and]
  · next hout => simp only [hout, false_and, reduceCtorEq]

theorem isPacking_rowsText (h : IsBitmap width height bits) :
    IsPacking width height (rowsText bits width height) where
  length := by
    rw [rowsText_eq h.isBit, length_flatMap_of_length fun n hn =>
      length_byteText (lt_of_mem_numbers h.isBit n hn), length_numbers h.length, Nat.mul_comm _ 2,
      Nat.mul_assoc]
  digits := List.all_eq_true.mpr fun c hc => isHexadecimal_of_mem_rowsText
    (fun bit hbit => (h.isBit bit hbit).nonneg) hc
  padding y hy x hx hwidth := by
    rw [bitAt_rowsText h hx hy]
    exact decide_eq_false fun hin => absurd hin.1 (Nat.not_lt.mpr hwidth)

/-! ## Unpacking -/

theorem isBitmap_unpack (width height : Nat) (data : Text) :
    IsBitmap width height (unpack width height data) where
  length := by rw [unpack, List.length_map, List.length_range]
  isBit bit hbit := by
    obtain ⟨i, -, rfl⟩ := List.mem_map.mp hbit
    cases bitAt width data (i % width) (i / width)
    · exact .inl rfl
    · exact .inr rfl

theorem place_lt {x y : Nat} (hx : x < width) (hy : y < height) :
    y * width + x < width * height := by
  calc y * width + x < (y + 1) * width := by rw [Nat.succ_mul]; omega
    _ ≤ height * width := Nat.mul_le_mul_right width hy
    _ = width * height := Nat.mul_comm _ _

theorem getElem?_unpack {x y : Nat} (hx : x < width) (hy : y < height) :
    (unpack width height data)[y * width + x]? = some (bitAt width data x y).toInt := by
  have hrow : (y * width + x) / width = y := by
    rw [Nat.mul_comm, Nat.mul_add_div (by omega), Nat.div_eq_of_lt hx, Nat.add_zero]
  have hcolumn : (y * width + x) % width = x := by
    rw [Nat.mul_comm, Nat.mul_add_mod, Nat.mod_eq_of_lt hx]
  rw [unpack, List.getElem?_map, List.getElem?_range (place_lt hx hy), Option.map_some, hrow,
    hcolumn]

/-- Bitmaps of one size are equal if they are so at every place. -/
theorem IsBitmap.ext {bits' : List Int} (h : IsBitmap width height bits)
    (h' : IsBitmap width height bits')
    (hall : ∀ x < width, ∀ y < height, bits[y * width + x]? = bits'[y * width + x]?) :
    bits = bits' := by
  refine List.ext_getElem? fun i => ?_
  by_cases hi : i < width * height
  · have hwidth : 0 < width := Nat.pos_of_mul_pos_right (by omega : 0 < width * height)
    have hplace := hall (i % width) (Nat.mod_lt i hwidth) (i / width)
      (Nat.div_lt_of_lt_mul hi)
    rwa [Nat.div_add_mod'] at hplace
  · rw [List.getElem?_eq_none (by rw [h.length]; omega),
      List.getElem?_eq_none (by rw [h'.length]; omega)]

/-- The places of the bits of a byte. -/
theorem bitAt_of_byte (data : Text) {k i : Nat} (hi : i < 8) :
    bitAt width data (8 * (k % stride width) + (7 - i)) (k / stride width) =
      ((bytes data).getD k 0).testBit i := by
  have hbyte : (8 * (k % stride width) + (7 - i)) / 8 = k % stride width := by omega
  have hbit : 7 - (8 * (k % stride width) + (7 - i)) % 8 = i := by omega
  rw [bitAt, hbyte, hbit, Nat.div_add_mod']

/-- Packings of one size are equal if their bits inside the rows are. -/
theorem IsPacking.ext {data' : Text} (h : IsPacking width height data)
    (h' : IsPacking width height data')
    (hall : ∀ x < width, ∀ y < height, bitAt width data x y = bitAt width data' x y) :
    data = data' := by
  have hbits : ∀ y < height, ∀ x < 8 * stride width,
      bitAt width data x y = bitAt width data' x y := by
    intro y hy x hx
    by_cases hwidth : x < width
    · exact hall x hwidth y hy
    · rw [h.padding y hy x hx (Nat.not_lt.mp hwidth), h'.padding y hy x hx (Nat.not_lt.mp hwidth)]
  have hlength : ∀ {data}, IsPacking width height data →
      (bytes data).length = stride width * height ∧ data.length % 2 = 0 := by
    intro data h
    have heven : data.length = 2 * (stride width * height) := by
      rw [h.length, Nat.mul_assoc, Nat.mul_comm height]
    rw [length_bytes]
    omega
  have hbytes : bytes data = bytes data' := by
    refine List.ext_getElem (by rw [(hlength h).1, (hlength h').1]) fun k hk hk' => ?_
    refine Nat.eq_of_testBit_eq fun i => ?_
    by_cases hi : i < 8
    · have hin : k < stride width * height := by rwa [(hlength h).1] at hk
      have hpositive : 0 < stride width := Nat.pos_of_mul_pos_right (Nat.zero_lt_of_lt hin)
      have hcolumn := Nat.mod_lt k hpositive
      have hbit := hbits (k / stride width) (Nat.div_lt_of_lt_mul hin)
        (8 * (k % stride width) + (7 - i)) (by omega)
      rwa [bitAt_of_byte data hi, bitAt_of_byte data' hi, List.getD_eq_getElem _ _ hk,
        List.getD_eq_getElem _ _ hk'] at hbit
    · have hpow : 256 ≤ 2 ^ i :=
          Nat.pow_le_pow_right (n := 2) (by decide) (Nat.not_lt.mp hi)
      rw [Nat.testBit_lt_two_pow (Nat.lt_of_lt_of_le
          (lt_of_mem_bytes h.digits _ (List.getElem_mem hk)) hpow),
        Nat.testBit_lt_two_pow (Nat.lt_of_lt_of_le
          (lt_of_mem_bytes h'.digits _ (List.getElem_mem hk')) hpow)]
  rw [← flatMap_byteText_bytes (hlength h).2 h.digits, hbytes,
    flatMap_byteText_bytes (hlength h').2 h'.digits]

/-- The bits of a bitmap are those at the places of its packing. -/
theorem getElem?_eq_bitAt (h : IsBitmap width height bits) {x y : Nat} (hx : x < width)
    (hy : y < height) :
    bits[y * width + x]? = some (bitAt width (rowsText bits width height) x y).toInt := by
  have hin : y * width + x < bits.length := by
    rw [h.length]
    exact place_lt hx hy
  rw [bitAt_rowsText h (Nat.lt_of_lt_of_le hx (width_le_stride width)) hy,
    List.getElem?_eq_getElem hin]
  rcases h.isBit _ (List.getElem_mem hin) with hbit | hbit
  · simp [hbit]
  · simp [hbit, hx]

theorem unpack_rowsText (h : IsBitmap width height bits) :
    unpack width height (rowsText bits width height) = bits :=
  (isBitmap_unpack width height _).ext h fun x hx y hy => by
    rw [getElem?_unpack hx hy, getElem?_eq_bitAt h hx hy]

theorem rowsText_unpack (h : IsPacking width height data) :
    rowsText (unpack width height data) width height = data := by
  have hinjective : ∀ a b : Bool, a.toInt = b.toInt → a = b := by decide
  have hunpacked := isBitmap_unpack width height data
  refine (isPacking_rowsText hunpacked).ext h fun x hx y hy => ?_
  have hbit := getElem?_eq_bitAt hunpacked hx hy
  rw [getElem?_unpack hx hy, Option.some.injEq] at hbit
  exact hinjective _ _ hbit.symm

theorem pack_eq_ok (h : IsBitmap width height bits) :
    pack bits width height = .ok (rowsText bits width height) := by
  rw [pack, if_pos (by rw [h.length]; push_cast; rfl)]
  rfl

/-- Packing loses nothing: the packing of a bitmap has two digits for every byte of its rows, the
    bits of the bitmap at their places and zeros elsewhere, so that it is unpacked to the bitmap;
    bitmaps of one size that are packed alike are equal; and every text of this form is the packing
    of the bitmap it is unpacked to. -/
theorem pack_lossless (width height : Nat) :
    (∀ bits, IsBitmap width height bits → ∃ data, pack bits width height = .ok data ∧
      IsPacking width height data ∧
      (∀ x < width, ∀ y < height,
        bits[y * width + x]? = some (bitAt width data x y).toInt) ∧
      unpack width height data = bits) ∧
    (∀ bits bits', IsBitmap width height bits → IsBitmap width height bits' →
      pack bits width height = pack bits' width height → bits = bits') ∧
    ∀ data, IsPacking width height data → IsBitmap width height (unpack width height data) ∧
      pack (unpack width height data) width height = .ok data := by
  refine ⟨fun bits h => ?_, fun bits bits' h h' heq => ?_, fun data h => ?_⟩
  · exact ⟨rowsText bits width height, pack_eq_ok h, isPacking_rowsText h,
      fun x hx y hy => getElem?_eq_bitAt h hx hy, unpack_rowsText h⟩
  · rw [pack_eq_ok h, pack_eq_ok h', Except.ok.injEq] at heq
    rw [← unpack_rowsText h, heq, unpack_rowsText h']
  · have hunpacked := isBitmap_unpack width height data
    exact ⟨hunpacked, by rw [pack_eq_ok hunpacked, rowsText_unpack h]⟩

/-- Two rows of nine bits. -/
def stripes : List Int := [1, 0, 1, 0, 1, 0, 1, 0, 1, 0, 0, 0, 0, 1, 1, 1, 1, 0]

/-- The same without the bit that ends the first row. -/
def shorterStripes : List Int := stripes.set 8 0

theorem pack_lossless_of_stripes :
    IsBitmap 9 2 stripes ∧ IsPacking 9 2 "AA800F00".toList ∧
      (∃ data, pack stripes 9 2 = .ok data ∧ IsPacking 9 2 data ∧
        (∀ x < 9, ∀ y < 2, stripes[y * 9 + x]? = some (bitAt 9 data x y).toInt) ∧
        unpack 9 2 data = stripes) ∧
      pack stripes 9 2 ≠ pack shorterStripes 9 2 ∧
      pack (unpack 9 2 "AA800F00".toList) 9 2 = .ok "AA800F00".toList := by
  have hbitmap : IsBitmap 9 2 stripes := ⟨rfl, by unfold IsBit; decide⟩
  have hshorter : IsBitmap 9 2 shorterStripes := ⟨rfl, by unfold IsBit; decide⟩
  have hpacking : IsPacking 9 2 "AA800F00".toList := ⟨rfl, by decide, by decide +kernel⟩
  have hlossless := pack_lossless 9 2
  refine ⟨hbitmap, hpacking, hlossless.1 stripes hbitmap, fun hsame => ?_,
    (hlossless.2.2 _ hpacking).2⟩
  have hequal := hlossless.2.1 stripes shorterStripes hbitmap hshorter hsame
  exact absurd hequal (by decide)

end Bitmap

end ThermalLabel
