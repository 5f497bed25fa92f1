/-
  Payloads as rows of tokens.

  A token is a character that is no count, or a count with the one character that it repeats, also
  where that is a count character itself. The tokens are a prefix code, so every payload is in one
  way only a row of tokens with at most one count behind them that has nothing to repeat
  (`existsUnique_row`), and the row decides what the payload expands to (`decode_text`). From this
  follow the expansion of every run-length coding of hexadecimal digits and that of two payloads in
  a row (`decode_rows`).
-/
import Mathlib.Data.List.Basic
import ThermalLabel.Graphic.RunLength
import ThermalLabel.Proofs.Raster.Hexadecimal
import ThermalLabel.Proofs.Text.Capitals

namespace ThermalLabel

namespace RunLength

/-! ## Counts -/

/-- The count characters with their numbers: 1 to 19 in capitals, the multiples of twenty up to 380
    in small letters. -/
def counts : List (Char × Nat) :=
  [('G', 1), ('H', 2), ('I', 3), ('J', 4), ('K', 5), ('L', 6), ('M', 7), ('N', 8), ('O', 9),
    ('P', 10), ('Q', 11), ('R', 12), ('S', 13), ('T', 14), ('U', 15), ('V', 16), ('W', 17),
    ('X', 18), ('Y', 19), ('g', 20), ('h', 40), ('i', 60), ('j', 80), ('k', 100), ('l', 120),
    ('m', 140), ('n', 160), ('o', 180), ('p', 200), ('q', 220), ('r', 240), ('s', 260),
    ('t', 280), ('u', 300), ('v', 320), ('w', 340), ('x', 360), ('y', 380)]

theorem toNat_lt_of_count? {c : Char} {n : Nat} (h : count? c = some n) : c.toNat < 128 := by
  unfold count? at h
  split at h
  · next hcapital =>
    have hlast : c.toNat ≤ 89 := hcapital.2
    omega
  · split at h
    · next hsmall =>
      have hlast : c.toNat ≤ 121 := hsmall.2
      omega
    · cases h

theorem count?_eq_some_iff {c : Char} {n : Nat} : count? c = some n ↔ (c, n) ∈ counts := by
  constructor
  · intro h
    have hlisted := Text.forall_ascii (P := fun c => ∀ n ∈ (count? c).toList, (c, n) ∈ counts)
      (by decide +kernel) (toNat_lt_of_count? h)
    rw [h] at hlisted
    exact hlisted n List.mem_cons_self
  · intro h
    have hall : ∀ listed ∈ counts, count? listed.1 = some listed.2 := by decide
    exact hall (c, n) h

/-- A count: its character with the number that it stands for. -/
structure Count where
  mark : Char
  number : Nat
  listed : (mark, number) ∈ counts

namespace Count

theorem count?_mark (k : Count) : count? k.mark = some k.number := count?_eq_some_iff.mpr k.listed

/-- The character of a count decides its number. -/
theorem eq_of_mark {k l : Count} (h : k.mark = l.mark) : k = l := by
  have hk := k.count?_mark
  rw [h, l.count?_mark] at hk
  obtain ⟨mark, number, listed⟩ := k
  obtain ⟨mark', number', listed'⟩ := l
  simp_all

end Count

/-! ## Tokens as they are written -/

/-- A token as it is written. -/
inductive Written where
  | single (c : Char) (plain : ∀ n, (c, n) ∉ counts)
  | run (count : Count) (c : Char)

namespace Written

/-- The characters of a token. -/
def text : Written → Text
  | single c _ => [c]
  | run count c => [count.mark, c]

/-- The characters that a token stands for. -/
def expansion : Written → Text
  | single c _ => [c]
  | run count c => List.replicate count.number c

/-- The token without the character of its count. -/
def token : Written → Token
  | single c _ => .single c
  | run count c => .run count.number c

theorem expand_token (w : Written) : w.token.expand = w.expansion := by
  cases w <;> rfl

theorem count?_plain {c : Char} (plain : ∀ n, (c, n) ∉ counts) : count? c = none := by
  cases h : count? c with
  | none => rfl
  | some n => exact absurd (count?_eq_some_iff.mp h) (plain n)

theorem ne_mark {c : Char} (plain : ∀ n, (c, n) ∉ counts) (k : Count) : c ≠ k.mark := by
  rintro rfl
  exact plain k.number k.listed

/-- No token starts another one. -/
theorem eq_of_text_append {w v : Written} {s t : Text} (h : w.text ++ s = v.text ++ t) :
    w = v ∧ s = t := by
  cases w with
  | single c plain =>
    cases v with
    | single d plain' =>
      obtain ⟨rfl, rfl⟩ := List.cons.inj h
      exact ⟨rfl, rfl⟩
    | run k d => exact absurd (List.cons.inj h).1 (ne_mark plain k)
  | run k c =>
    cases v with
    | single d plain => exact absurd (List.cons.inj h).1.symm (ne_mark plain k)
    | run l d =>
      obtain ⟨hmark, hrest⟩ := List.cons.inj h
      obtain ⟨rfl, rfl⟩ := List.cons.inj hrest
      rw [Count.eq_of_mark hmark]
      exact ⟨rfl, rfl⟩

/-- No token starts with a count alone, or is one. -/
theorem text_append_ne_mark (w : Written) (s : Text) (k : Count) : w.text ++ s ≠ [k.mark] := by
  intro h
  cases w with
  | single c plain => exact ne_mark plain k (List.cons.inj h).1
  | run l c => cases (List.cons.inj h).2

end Written

/-! ## Rows -/

/-- A row of tokens, and the count behind them if there is one that has nothing to repeat. -/
structure Row where
  tokens : List Written
  dangling : Option Count

namespace Row

/-- The payload that is written so. -/
def text (row : Row) : Text :=
  row.tokens.flatMap Written.text ++ row.dangling.toList.map Count.mark

/-- The characters that the tokens stand for. -/
def expansion (row : Row) : Text := row.tokens.flatMap Written.expansion

/-- The row with a token in front. -/
def cons (w : Written) (row : Row) : Row := ⟨w :: row.tokens, row.dangling⟩

theorem text_cons (w : Written) (row : Row) : (row.cons w).text = w.text ++ row.text := by
  rw [text, cons, List.flatMap_cons, List.append_assoc, ← text]

theorem exists_row : ∀ s : Text, ∃ row : Row, row.text = s
  | [] => ⟨⟨[], none⟩, rfl⟩
  | c :: rest => by
    cases hc : count? c with
    | none =>
      obtain ⟨row, hrow⟩ := exists_row rest
      have plain : ∀ n, (c, n) ∉ counts := by
        intro n hn
        rw [count?_eq_some_iff.mpr hn] at hc
        cases hc
      refine ⟨row.cons (.single c plain), ?_⟩
      rw [text_cons, hrow]
      rfl
    | some n =>
      have listed := count?_eq_some_iff.mp hc
      cases rest with
      | nil => exact ⟨⟨[], some ⟨c, n, listed⟩⟩, rfl⟩
      | cons d rest =>
        obtain ⟨row, hrow⟩ := exists_row rest
        refine ⟨row.cons (.run ⟨c, n, listed⟩ d), ?_⟩
        rw [text_cons, hrow]
        rfl

/-- What stands behind the tokens is at most one character, and no token starts with it. -/
theorem text_append_ne_dangling (w : Written) (s : Text) (dangling : Option Count) :
    w.text ++ s ≠ dangling.toList.map Count.mark := by
  cases dangling with
  | none =>
    intro h
    cases w <;> cases h
  | some k => exact w.text_append_ne_mark s k

theorem eq_of_text {row other : Row} (h : row.text = other.text) : row = other := by
  obtain ⟨ws, dangling⟩ := row
  obtain ⟨vs, dangling'⟩ := other
  -- a row ends where the other one does, since what dangles does not start like a token
  induction ws generalizing vs with
  | nil =>
    cases vs with
    | nil =>
      cases dangling with
      | none =>
        cases dangling' with
        | none => rfl
        | some l => cases h
      | some k =>
        cases dangling' with
        | none => cases h
        | some l => rw [Count.eq_of_mark (List.cons.inj h).1]
    | cons v vs =>
      have hcons := text_cons v ⟨vs, dangling'⟩
      exact absurd (hcons.symm.trans h.symm) (text_append_ne_dangling v _ dangling)
  | cons w ws ih =>
    have hcons := text_cons w ⟨ws, dangling⟩
    cases vs with
    | nil => exact absurd (hcons.symm.trans h) (text_append_ne_dangling w _ dangling')
    | cons v vs =>
      have hcons' := text_cons v ⟨vs, dangling'⟩
      obtain ⟨rfl, hrest⟩ := Written.eq_of_text_append (hcons.symm.trans (h.trans hcons'))
      have hrow := ih vs hrest
      rw [Row.mk.injEq] at hrow ⊢
      exact ⟨by rw [hrow.1], hrow.2⟩

theorem existsUnique_row (s : Text) : ∃! row : Row, row.text = s := by
  obtain ⟨row, hrow⟩ := exists_row s
  exact ⟨row, hrow, fun other hother => eq_of_text (hother.trans hrow.symm)⟩

/-! ## Expansion -/

/-- The tokens in front are read whatever stands behind them. -/
theorem tokens_append (ws : List Written) (t : Text) (offset : Nat) :
    RunLength.tokens offset (ws.flatMap Written.text ++ t) =
      (RunLength.tokens (offset + (ws.flatMap Written.text).length) t).map
        (ws.map Written.token ++ ·) := by
  induction ws generalizing offset with
  | nil =>
    cases h : RunLength.tokens offset t <;> simp [h, Except.map]
  | cons w ws ih =>
    have hlength : offset + ((w :: ws).flatMap Written.text).length =
        offset + w.text.length + (ws.flatMap Written.text).length := by
      rw [List.flatMap_cons, List.length_append]
      omega
    -- one token is read without a look at what stands behind it
    have hfirst : RunLength.tokens offset (w.text ++ (ws.flatMap Written.text ++ t)) =
        (RunLength.tokens (offset + w.text.length) (ws.flatMap Written.text ++ t)).map
          (w.token :: ·) := by
      cases w with
      | single c plain =>
        rw [Written.text, List.singleton_append, RunLength.tokens, Written.count?_plain plain]
        rfl
      | run k c =>
        rw [Written.text, List.cons_append, RunLength.tokens, k.count?_mark]
        rfl
    rw [List.flatMap_cons, List.append_assoc, hfirst, ih, ← List.flatMap_cons, hlength]
    cases RunLength.tokens _ t <;> rfl

/-- The row of a payload decides its expansion: that of the tokens in capitals, or the fault of the
    count at the end that has nothing to repeat. -/
theorem decode_text (row : Row) :
    decode row.text =
      row.dangling.elim (.ok (Text.uppercase row.expansion)) fun count =>
        .error (.danglingCount count.mark (row.text.length - 1)) := by
  obtain ⟨ws, dangling⟩ := row
  rw [decode, text, tokens_append]
  cases dangling with
  | none =>
    have hexpand : (ws.map Written.token).flatMap Token.expand = ws.flatMap Written.expansion := by
      rw [List.flatMap_map]
      simp only [Written.expand_token]
    simp [RunLength.tokens, Except.map, bind, Except.bind, pure, Except.pure, expansion, hexpand]
  | some k =>
    simp [RunLength.tokens, k.count?_mark, Except.map, bind, Except.bind]

end Row

/-! ## Hexadecimal digits -/

/-- A capital hexadecimal digit is its own capital form. -/
theorem upper_of_isHexadecimal {c : Char} (h : StoredImage.isHexadecimal c) :
    Text.upper c = [c] := by
  have hall : ∀ c ∈ "0123456789ABCDEF".toList, Text.upper c = [c] :=
    List.all_iff_forall_prop.mp (by decide +kernel)
  exact hall c (Bitmap.mem_digits_of_isHexadecimal h)

theorem uppercase_of_hexadecimal {t : Text} (h : t.all StoredImage.isHexadecimal) :
    Text.uppercase t = t := by
  induction t with
  | nil => rfl
  | cons c t ih =>
    rw [List.all_cons, Bool.and_eq_true] at h
    have hrest := ih h.2
    rw [Text.uppercase] at hrest ⊢
    rw [List.flatMap_cons, upper_of_isHexadecimal h.1, hrest]
    rfl

/-! ## Payloads in a row -/

theorem dangling_of_decode {row : Row} {data : Text} (h : decode row.text = .ok data) :
    row.dangling = none ∧ data = Text.uppercase row.expansion := by
  rw [row.decode_text] at h
  cases hdangling : row.dangling with
  | none =>
    rw [hdangling] at h
    cases h
    exact ⟨rfl, rfl⟩
  | some k =>
    rw [hdangling] at h
    cases h

/-- A payload that expands ends where the tokens behind it start. -/
theorem decode_append {row : Row} (hrow : row.dangling = none) (next : Row) :
    decode (row.text ++ next.text) =
      next.dangling.elim (.ok (Text.uppercase row.expansion ++ Text.uppercase next.expansion))
        fun count =>
          .error (.danglingCount count.mark (next.text.length - 1 + row.text.length)) := by
  have htext : row.text ++ next.text =
      Row.text ⟨row.tokens ++ next.tokens, next.dangling⟩ := by
    simp [Row.text, hrow]
  have hexpansion : Row.expansion ⟨row.tokens ++ next.tokens, next.dangling⟩ =
      row.expansion ++ next.expansion := by
    simp [Row.expansion]
  rw [htext, Row.decode_text, ← htext, hexpansion]
  cases hnext : next.dangling with
  | none => simp [Text.uppercase]
  | some k =>
    have hlast : 0 < next.text.length := by simp [Row.text, hnext]
    have hlength : (row.text ++ next.text).length - 1 =
        next.text.length - 1 + row.text.length := by
      rw [List.length_append]
      omega
    rw [hlength]
    rfl

/-- Every payload is a row of tokens in one way, and expands to the capitals of what these stand
    for; only a count at its end that has nothing to repeat is a fault, with its character and its
    place. So every way to write hexadecimal digits as tokens expands to them, and behind a payload
    that expands another one expands, or fails, as it does alone, at a place that much further. -/
theorem decode_rows :
    (∀ s : Text, ∃! row : Row, row.text = s) ∧
    (∀ row : Row, decode row.text =
      row.dangling.elim (.ok (Text.uppercase row.expansion)) fun count =>
        .error (.danglingCount count.mark (row.text.length - 1))) ∧
    (∀ row : Row, row.dangling = none → row.expansion.all StoredImage.isHexadecimal →
      decode row.text = .ok row.expansion) ∧
    ∀ a data, decode a = .ok data → ∀ b,
      (∀ more, decode b = .ok more → decode (a ++ b) = .ok (data ++ more)) ∧
      ∀ reason, decode b = .error reason → ∃ mark offset, reason = .danglingCount mark offset ∧
        decode (a ++ b) = .error (.danglingCount mark (offset + a.length)) := by
  refine ⟨Row.existsUnique_row, Row.decode_text, ?_, ?_⟩
  · intro row hrow hhexadecimal
    rw [row.decode_text, hrow, uppercase_of_hexadecimal hhexadecimal]
    rfl
  · intro a data ha b
    obtain ⟨row, rfl⟩ := Row.exists_row a
    obtain ⟨next, rfl⟩ := Row.exists_row b
    obtain ⟨hrow, rfl⟩ := dangling_of_decode ha
    rw [decode_append hrow next, next.decode_text]
    cases next.dangling with
    | none =>
      constructor
      · intro more hmore
        cases hmore
        rfl
      · intro reason hreason
        cases hreason
    | some k =>
      constructor
      · intro more hmore
        cases hmore
      · intro reason hreason
        cases hreason
        exact ⟨k.mark, next.text.length - 1, rfl, rfl⟩

/-- A run of 40 of the digit 0, a 1, and a run of 20 of the digit F. -/
def sampleRow : Row where
  tokens := [.run ⟨'h', 40, by decide⟩ '0', .single '1' (fun n h => by simp [counts] at h),
    .run ⟨'g', 20, by decide⟩ 'F']
  dangling := none

/-- A count that repeats a count, and the same count with nothing behind it. -/
theorem decode_rows_of_sampleRow :
    decode "h01gF".toList = .ok (List.replicate 40 '0' ++ '1' :: List.replicate 20 'F') ∧
      decode "HK".toList = .ok "KK".toList ∧
      decode "H".toList = .error (.danglingCount 'H' 0) ∧
      decode "HKH".toList = .error (.danglingCount 'H' 2) := by
  have hcount : decode "HK".toList = .ok "KK".toList := by decide +kernel
  have hdangling : decode "H".toList = .error (.danglingCount 'H' 0) := by decide +kernel
  obtain ⟨-, -, hhexadecimal, happend⟩ := decode_rows
  obtain ⟨mark, offset, hreason, hboth⟩ := (happend _ _ hcount _).2 _ hdangling
  cases hreason
  exact ⟨hhexadecimal sampleRow rfl (by decide +kernel), hcount, hdangling, hboth⟩

end RunLength

end ThermalLabel
