/-
  How bytes become the text that is converted.

  UTF-8 is read strictly, so that a byte string is read as a text exactly if it is the encoding of
  that text (`Utf8.decode?_eq_some_iff`). Then line ends are unified: a carriage return with a line
  feed behind it and one without both become a line feed, and all else is kept (`SameLines`,
  `sameLines_iff`). No carriage return is left (`SameLines.not_mem`), and a text without any is
  read as it is (`SameLines.eq_of_not_mem`).
-/
import ThermalLabel.Encoding.Stream

namespace ThermalLabel

/-! ## UTF-8 -/

namespace Utf8

theorem toNat_ofNat {n : Nat} (h : n < 0x100) : (UInt8.ofNat n).toNat = n := by
  rw [UInt8.toNat_ofNat', Nat.mod_eq_of_lt h]

theorem continuation?_ofNat {y : Nat} (h : y < 0x40) :
    continuation? (UInt8.ofNat (0x80 + y)) = some y := by
  unfold continuation?
  rw [toNat_ofNat (by omega), if_pos (by omega), Nat.add_sub_cancel_left]

theorem continuation?_eq_some {b : UInt8} {y : Nat} (h : continuation? b = some y) :
    y < 0x40 ∧ b = UInt8.ofNat (0x80 + y) := by
  unfold continuation? at h
  split at h
  · next hb =>
    rw [Option.some.injEq] at h
    subst h
    have hbyte : 0x80 + (b.toNat - 0x80) = b.toNat := by omega
    rw [hbyte, UInt8.ofNat_toNat]
    exact ⟨by omega, rfl⟩
  · cases h

theorem char?_toNat {least : Nat} {c : Char} (h : least ≤ c.toNat) :
    char? least c.toNat = some c := by
  have hvalid : c.toNat.isValidChar := c.valid
  unfold char?
  rw [dif_pos hvalid, if_pos h]
  rfl

theorem char?_eq_some {least code : Nat} {c : Char} (h : char? least code = some c) :
    least ≤ code ∧ c.toNat = code := by
  unfold char? at h
  by_cases hvalid : code.isValidChar
  · rw [dif_pos hvalid] at h
    by_cases hleast : least ≤ code
    · rw [if_pos hleast] at h
      cases h
      exact ⟨hleast, rfl⟩
    · rw [if_neg hleast] at h
      cases h
  · rw [dif_neg hvalid] at h
    cases h

section Steps

variable {a b b' b'' : UInt8} {rest : Bytes}

theorem decode?_of_one (h : a.toNat < 0x80) :
    decode? (a :: rest) = (decode? rest).map (Char.ofNat a.toNat :: ·) := by
  rw [decode?.eq_def]
  exact if_pos h

theorem decode?_of_two (h : 0xC0 ≤ a.toNat) (hlt : a.toNat < 0xE0) :
    decode? (a :: b :: rest) = (do
      let y ← continuation? b
      let c ← char? 0x80 ((a.toNat - 0xC0) * 0x40 + y)
      (decode? rest).map (c :: ·)) := by
  rw [decode?.eq_def]
  dsimp only
  rw [if_neg (by omega), if_neg (by omega), if_pos hlt]

theorem decode?_of_three (h : 0xE0 ≤ a.toNat) (hlt : a.toNat < 0xF0) :
    decode? (a :: b :: b' :: rest) = (do
      let y ← continuation? b
      let z ← continuation? b'
      let c ← char? 0x800 (((a.toNat - 0xE0) * 0x40 + y) * 0x40 + z)
      (decode? rest).map (c :: ·)) := by
  rw [decode?.eq_def]
  dsimp only
  rw [if_neg (by omega), if_neg (by omega), if_neg (by omega), if_pos hlt]

theorem decode?_of_four (h : 0xF0 ≤ a.toNat) :
    decode? (a :: b :: b' :: b'' :: rest) = (do
      let x ← continuation? b
      let y ← continuation? b'
      let z ← continuation? b''
      let c ← char? 0x10000 ((((a.toNat - 0xF0) * 0x40 + x) * 0x40 + y) * 0x40 + z)
      (decode? rest).map (c :: ·)) := by
  rw [decode?.eq_def]
  dsimp only
  rw [if_neg (by omega), if_neg (by omega), if_neg (by omega), if_neg (by omega)]

end Steps

theorem toNat_lt (c : Char) : c.toNat < 0x110000 := by
  rcases c.valid with h | h
  · exact Nat.lt_trans h (by omega)
  · exact h.2

/-- The bytes of a character are read as that character, whatever stands behind them. -/
theorem decode?_encodeChar_append (c : Char) (rest : Bytes) :
    decode? (encodeChar c ++ rest) = (decode? rest).map (c :: ·) := by
  have hlimit := toNat_lt c
  unfold encodeChar
  dsimp only
  split
  · next hone =>
    have hbyte := toNat_ofNat (n := c.toNat) (by omega)
    rw [List.singleton_append, decode?_of_one (by omega), hbyte, Char.ofNat_toNat]
  split
  · next htwo =>
    have hbyte := toNat_ofNat (n := 0xC0 + c.toNat / 0x40) (by omega)
    have hcode : (0xC0 + c.toNat / 0x40 - 0xC0) * 0x40 + c.toNat % 0x40 = c.toNat := by omega
    rw [List.cons_append, List.singleton_append, decode?_of_two (by omega) (by omega), hbyte,
      continuation?_ofNat (by omega), Option.bind_eq_bind, Option.bind_some, hcode,
      char?_toNat (by omega)]
    rfl
  split
  · next hthree =>
    have hbyte := toNat_ofNat (n := 0xE0 + c.toNat / 0x1000) (by omega)
    have hcode : ((0xE0 + c.toNat / 0x1000 - 0xE0) * 0x40 + c.toNat / 0x40 % 0x40) * 0x40 +
        c.toNat % 0x40 = c.toNat := by omega
    rw [List.cons_append, List.cons_append, List.singleton_append,
      decode?_of_three (by omega) (by omega), hbyte, continuation?_ofNat (by omega),
      Option.bind_eq_bind, Option.bind_some, continuation?_ofNat (by omega), Option.bind_eq_bind,
      Option.bind_some, hcode, char?_toNat (by omega)]
    rfl
  · next hfour =>
    have hbyte := toNat_ofNat (n := 0xF0 + c.toNat / 0x40000) (by omega)
    have hcode : (((0xF0 + c.toNat / 0x40000 - 0xF0) * 0x40 + c.toNat / 0x1000 % 0x40) * 0x40 +
        c.toNat / 0x40 % 0x40) * 0x40 + c.toNat % 0x40 = c.toNat := by omega
    rw [List.cons_append, List.cons_append, List.cons_append, List.singleton_append,
      decode?_of_four (by omega), hbyte, continuation?_ofNat (by omega), Option.bind_eq_bind,
      Option.bind_some, continuation?_ofNat (by omega), Option.bind_eq_bind, Option.bind_some,
      continuation?_ofNat (by omega), Option.bind_some, hcode, char?_toNat (by omega)]
    rfl

theorem decode?_encode (t : Text) : decode? (encode t) = some t := by
  induction t with
  | nil => rfl
  | cons c t ih =>
    unfold encode at ih ⊢
    rw [List.flatMap_cons, decode?_encodeChar_append, ih]
    rfl

section Bytes

variable {a : UInt8} {c : Char} {x y z : Nat}

theorem encodeChar_of_one (h : a.toNat < 0x80) : encodeChar (Char.ofNat a.toNat) = [a] := by
  have hvalid : a.toNat.isValidChar := .inl (by omega)
  have hcode : (Char.ofNat a.toNat).toNat = a.toNat := by
    rw [Char.ofNat, dif_pos hvalid]
    rfl
  unfold encodeChar
  dsimp only
  rw [hcode, if_pos h, UInt8.ofNat_toNat]

theorem encodeChar_of_two (h : 0xC0 ≤ a.toNat) (hlt : a.toNat < 0xE0) (hy : y < 0x40)
    (hleast : 0x80 ≤ c.toNat) (hcode : c.toNat = (a.toNat - 0xC0) * 0x40 + y) :
    encodeChar c = [a, UInt8.ofNat (0x80 + y)] := by
  have hbyte : 0xC0 + c.toNat / 0x40 = a.toNat := by omega
  have hlast : c.toNat % 0x40 = y := by omega
  unfold encodeChar
  dsimp only
  rw [if_neg (by omega), if_pos (by omega), hbyte, hlast, UInt8.ofNat_toNat]

theorem encodeChar_of_three (h : 0xE0 ≤ a.toNat) (hlt : a.toNat < 0xF0) (hy : y < 0x40)
    (hz : z < 0x40) (hleast : 0x800 ≤ c.toNat)
    (hcode : c.toNat = ((a.toNat - 0xE0) * 0x40 + y) * 0x40 + z) :
    encodeChar c = [a, UInt8.ofNat (0x80 + y), UInt8.ofNat (0x80 + z)] := by
  have hbyte : 0xE0 + c.toNat / 0x1000 = a.toNat := by omega
  have hmiddle : c.toNat / 0x40 % 0x40 = y := by omega
  have hlast : c.toNat % 0x40 = z := by omega
  unfold encodeChar
  dsimp only
  rw [if_neg (by omega), if_neg (by omega), if_pos (by omega), hbyte, hmiddle, hlast,
    UInt8.ofNat_toNat]

theorem encodeChar_of_four (h : 0xF0 ≤ a.toNat) (hx : x < 0x40) (hy : y < 0x40) (hz : z < 0x40)
    (hleast : 0x10000 ≤ c.toNat)
    (hcode : c.toNat = (((a.toNat - 0xF0) * 0x40 + x) * 0x40 + y) * 0x40 + z) :
    encodeChar c =
      [a, UInt8.ofNat (0x80 + x), UInt8.ofNat (0x80 + y), UInt8.ofNat (0x80 + z)] := by
  have hbyte : 0xF0 + c.toNat / 0x40000 = a.toNat := by omega
  have hsecond : c.toNat / 0x1000 % 0x40 = x := by omega
  have hthird : c.toNat / 0x40 % 0x40 = y := by omega
  have hlast : c.toNat % 0x40 = z := by omega
  unfold encodeChar
  dsimp only
  rw [if_neg (by omega), if_neg (by omega), if_neg (by omega), hbyte, hsecond, hthird, hlast,
    UInt8.ofNat_toNat]

end Bytes

theorem encode_cons (c : Char) (t : Text) : encode (c :: t) = encodeChar c ++ encode t :=
  List.flatMap_cons

/-- Bytes are read as a text only if they are its encoding. -/
theorem encode_of_decode? {bytes : Bytes} {t : Text} (h : decode? bytes = some t) :
    encode t = bytes := by
  fun_induction decode? bytes generalizing t with
  | case1 =>
    cases h
    rfl
  | case2 a rest hone ih =>
    obtain ⟨t, ht, rfl⟩ := Option.map_eq_some_iff.mp h
    rw [encode_cons, encodeChar_of_one hone, ih ht]
    rfl
  | case4 a h1 h2 hlt b rest ih =>
    obtain ⟨y, hb, h⟩ := Option.bind_eq_some_iff.mp h
    obtain ⟨c, hc, h⟩ := Option.bind_eq_some_iff.mp h
    obtain ⟨t, ht, rfl⟩ := Option.map_eq_some_iff.mp h
    obtain ⟨hy, rfl⟩ := continuation?_eq_some hb
    obtain ⟨hleast, hcode⟩ := char?_eq_some hc
    rw [encode_cons, encodeChar_of_two (by omega) hlt hy (by omega) hcode, ih ht]
    rfl
  | case6 a h1 h2 h3 hlt b b' rest ih =>
    obtain ⟨y, hb, h⟩ := Option.bind_eq_some_iff.mp h
    obtain ⟨z, hb', h⟩ := Option.bind_eq_some_iff.mp h
    obtain ⟨c, hc, h⟩ := Option.bind_eq_some_iff.mp h
    obtain ⟨t, ht, rfl⟩ := Option.map_eq_some_iff.mp h
    obtain ⟨hy, rfl⟩ := continuation?_eq_some hb
    obtain ⟨hz, rfl⟩ := continuation?_eq_some hb'
    obtain ⟨hleast, hcode⟩ := char?_eq_some hc
    rw [encode_cons, encodeChar_of_three (by omega) hlt hy hz (by omega) hcode, ih ht]
    rfl
  | case8 a h1 h2 h3 h4 b b' b'' rest ih =>
    obtain ⟨x, hb, h⟩ := Option.bind_eq_some_iff.mp h
    obtain ⟨y, hb', h⟩ := Option.bind_eq_some_iff.mp h
    obtain ⟨z, hb'', h⟩ := Option.bind_eq_some_iff.mp h
    obtain ⟨c, hc, h⟩ := Option.bind_eq_some_iff.mp h
    obtain ⟨t, ht, rfl⟩ := Option.map_eq_some_iff.mp h
    obtain ⟨hx, rfl⟩ := continuation?_eq_some hb
    obtain ⟨hy, rfl⟩ := continuation?_eq_some hb'
    obtain ⟨hz, rfl⟩ := continuation?_eq_some hb''
    obtain ⟨hleast, hcode⟩ := char?_eq_some hc
    rw [encode_cons, encodeChar_of_four (by omega) hx hy hz (by omega) hcode, ih ht]
    rfl
  | case3 | case5 | case7 | case9 =>
    -- a byte that starts no character, or one that lacks the bytes behind it
    cases h

/-- Bytes are read as a text exactly if they are its encoding. -/
theorem decode?_eq_some_iff {bytes : Bytes} {t : Text} :
    decode? bytes = some t ↔ encode t = bytes := by
  constructor
  · exact encode_of_decode?
  · rintro rfl
    exact decode?_encode t

end Utf8

/-! ## Line ends -/

/-- The second text has the lines of the first, with a line feed for each line end: for a carriage
    return and the line feed behind it, for a carriage return without one, and for any other line
    feed. -/
inductive SameLines : Text → Text → Prop
  | nil : SameLines [] []
  | pair {raw t : Text} (rest : SameLines raw t) : SameLines ('\r' :: '\n' :: raw) ('\n' :: t)
  | single {raw t : Text} (alone : raw.head? ≠ some '\n') (rest : SameLines raw t) :
      SameLines ('\r' :: raw) ('\n' :: t)
  | other {c : Char} {raw t : Text} (other : c ≠ '\r') (rest : SameLines raw t) :
      SameLines (c :: raw) (c :: t)

theorem sameLines_unifyLineEnds (raw : Text) : SameLines raw (unifyLineEnds raw) := by
  fun_induction unifyLineEnds raw with
  | case1 => exact .nil
  | case2 rest ih => exact .pair ih
  | case3 c rest hpair ih =>
    by_cases hc : c = '\r'
    · rw [if_pos hc]
      subst hc
      refine .single (fun hhead => ?_) ih
      obtain ⟨later, rfl⟩ := List.head?_eq_some_iff.mp hhead
      exact hpair later rfl rfl
    · rw [if_neg hc]
      exact .other hc ih

namespace SameLines

variable {raw t : Text}

theorem unifyLineEnds_eq (h : SameLines raw t) : unifyLineEnds raw = t := by
  induction h with
  | nil => rfl
  | pair rest ih => rw [unifyLineEnds, ih]
  | single alone rest ih =>
    rw [unifyLineEnds, if_pos rfl, ih]
    rintro later hreturn rfl
    exact alone rfl
  | other other rest ih =>
    rw [unifyLineEnds, if_neg other, ih]
    intro later hreturn
    exact absurd hreturn other

/-- No carriage return is left. -/
theorem not_mem (h : SameLines raw t) : '\r' ∉ t := by
  induction h with
  | nil => exact List.not_mem_nil
  | pair rest ih | single alone rest ih =>
    rw [List.mem_cons, not_or]
    exact ⟨by decide, ih⟩
  | other other rest ih =>
    rw [List.mem_cons, not_or]
    exact ⟨other.symm, ih⟩

/-- A text without carriage returns is left as it is. -/
theorem eq_of_not_mem (h : SameLines raw t) (hreturn : '\r' ∉ raw) : t = raw := by
  induction h with
  | nil => rfl
  | pair rest ih | single alone rest ih => exact absurd List.mem_cons_self hreturn
  | other other rest ih =>
    rw [List.mem_cons, not_or] at hreturn
    rw [ih hreturn.2]

end SameLines

theorem sameLines_iff {raw t : Text} : SameLines raw t ↔ unifyLineEnds raw = t := by
  constructor
  · exact SameLines.unifyLineEnds_eq
  · rintro rfl
    exact sameLines_unifyLineEnds raw

example : unifyLineEnds "a\r\nb\rc\n\r\r\nd".toList = "a\nb\nc\n\n\nd".toList := by decide

/-! ## Streams -/

namespace TextStream

variable {s : TextStream} {t : Text}

/-- The text that a stream gives: the one that its codec reads, with its line ends unified or as it
    is. -/
inductive Gives (s : TextStream) : Text → Prop
  | unified {raw t : Text} (unifies : s.unifies = true) (decoded : s.codec s.bytes = some raw)
      (lines : SameLines raw t) : Gives s t
  | plain {raw : Text} (unifies : s.unifies = false) (decoded : s.codec s.bytes = some raw) :
      Gives s raw

theorem text?_eq_some_iff : s.text? = some t ↔ s.Gives t := by
  unfold text?
  rw [Option.map_eq_some_iff]
  constructor
  · rintro ⟨raw, hraw, rfl⟩
    cases hunifies : s.unifies with
    | true => exact .unified hunifies hraw (sameLines_iff.mpr rfl)
    | false => exact .plain hunifies hraw
  · rintro (⟨hunifies, hraw, hlines⟩ | ⟨hunifies, hraw⟩)
    · exact ⟨_, hraw, (if_pos hunifies).trans (sameLines_iff.mp hlines)⟩
    · exact ⟨_, hraw, if_neg (Bool.eq_false_iff.mp hunifies)⟩

/-- A stream in UTF-8 that unifies line ends gives the lines of the text that its bytes encode. -/
theorem Gives.lines_of_utf8 (h : s.Gives t) (hunifies : s.unifies = true)
    (hcodec : s.codec = Utf8.decode?) : ∃ raw, Utf8.encode raw = s.bytes ∧ SameLines raw t := by
  cases h with
  | unified _ hraw hlines =>
    rw [hcodec] at hraw
    exact ⟨_, Utf8.decode?_eq_some_iff.mp hraw, hlines⟩
  | plain hplain =>
    rw [hunifies] at hplain
    cases hplain

end TextStream

end ThermalLabel
