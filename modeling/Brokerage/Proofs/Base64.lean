import Brokerage.Identity.Base64
import Brokerage.Text.Blank

/-!
# Base64 loses nothing

Three bytes are four times six bits, and each six bits have a character of their own.

* `value?_symbol`: the characters of the alphabet are told apart.
* `three?_symbols`, `two?_symbols`, `one?_symbols`: a group of characters gives its bytes back.
* `decode?_encode`: **decoding undoes encoding**, whatever the number of bytes.
* `decode?_eq_some_iff`: **bytes have one text**, and nothing else is decoded.
* `isBlank_of_mem_encode`: no blank is written.
-/

namespace Brokerage.Base64

/-- **A character gives its six bits back.** -/
theorem value?_symbol {n : Nat} (h : n < 64) : value? (symbol n) = some n := by
  have hall : ∀ n < 64, value? (symbol n) = some n := by decide
  exact hall n h

/-- Padding is no character of the alphabet. -/
theorem symbol_ne_padding {n : Nat} (h : n < 64) : symbol n ≠ '=' := by
  have hall : ∀ n < 64, symbol n ≠ '=' := by decide
  exact hall n h

theorem isBlank_symbol {n : Nat} (h : n < 64) : Text.isBlank (symbol n) = false := by
  have hall : ∀ n < 64, Text.isBlank (symbol n) = false := by decide
  exact hall n h

/-! ## One group -/

theorem ofNat_eq {n : Nat} {b : UInt8} (h : n = b.toNat) : UInt8.ofNat n = b := by
  rw [h, UInt8.ofNat_toNat]

variable (a b c : UInt8)

/-- Four characters give three bytes back. -/
theorem three?_symbols :
    let n := (a.toNat * 256 + b.toNat) * 256 + c.toNat
    three? (symbol (n / 262144)) (symbol (n / 4096 % 64)) (symbol (n / 64 % 64)) (symbol (n % 64)) =
      some [a, b, c] := by
  intro n
  have ha := a.toNat_lt
  have hb := b.toNat_lt
  have hc := c.toNat_lt
  have hfirst : n / 262144 * 4 + n / 4096 % 64 / 16 = a.toNat := by omega
  have hsecond : n / 4096 % 64 % 16 * 16 + n / 64 % 64 / 4 = b.toNat := by omega
  have hthird : n / 64 % 64 % 4 * 64 + n % 64 = c.toNat := by omega
  unfold three?
  rw [value?_symbol (by omega), value?_symbol (by omega), value?_symbol (by omega),
    value?_symbol (by omega)]
  simp only [Option.bind_eq_bind, Option.bind_some]
  rw [ofNat_eq hfirst, ofNat_eq hsecond, ofNat_eq hthird]

/-- Three characters give two bytes back; the two bits left over are zero. -/
theorem two?_symbols :
    let n := (a.toNat * 256 + b.toNat) * 4
    two? (symbol (n / 4096)) (symbol (n / 64 % 64)) (symbol (n % 64)) = some [a, b] := by
  intro n
  have ha := a.toNat_lt
  have hb := b.toNat_lt
  have hrest : n % 64 % 4 = 0 := by omega
  have hfirst : n / 4096 * 4 + n / 64 % 64 / 16 = a.toNat := by omega
  have hsecond : n / 64 % 64 % 16 * 16 + n % 64 / 4 = b.toNat := by omega
  unfold two?
  rw [value?_symbol (by omega), value?_symbol (by omega), value?_symbol (by omega)]
  simp only [Option.bind_eq_bind, Option.bind_some]
  rw [if_pos hrest, ofNat_eq hfirst, ofNat_eq hsecond]

/-- Two characters give one byte back; the four bits left over are zero. -/
theorem one?_symbols :
    let n := a.toNat * 16
    one? (symbol (n / 64)) (symbol (n % 64)) = some [a] := by
  intro n
  have ha := a.toNat_lt
  have hrest : n % 64 % 16 = 0 := by omega
  have hfirst : n / 64 * 4 + n % 64 / 16 = a.toNat := by omega
  unfold one?
  rw [value?_symbol (by omega), value?_symbol (by omega)]
  simp only [Option.bind_eq_bind, Option.bind_some]
  rw [if_pos hrest, ofNat_eq hfirst]

/-! ## All groups -/

/-- A group without padding is read on its own. -/
theorem decode?_of_ne_padding {a b c d : Char} (hd : d ≠ '=') (rest : List Char) :
    decode? (a :: b :: c :: d :: rest) =
      (three? a b c d).bind fun bytes => (decode? rest).map (bytes ++ ·) := by
  have hgroup : decode? (a :: b :: c :: d :: rest) = (do
      let bytes ← three? a b c d
      let more ← decode? rest
      some (bytes ++ more)) := by
    rw [decode?]
    · intro _ h _
      exact hd h
    · intro h _
      exact hd h
  rw [hgroup]
  simp only [Option.bind_eq_bind, Option.map_eq_bind]
  rfl

/-- One mark of padding stands behind three characters. -/
theorem decode?_padded {a b c : Char} (hc : c ≠ '=') : decode? [a, b, c, '='] = two? a b c := by
  rw [decode?]
  rintro ⟨⟩
  exact hc rfl

/-- **Decoding undoes encoding.** -/
theorem decode?_encode : (bytes : List UInt8) → decode? (encode bytes) = some bytes
  | [] => rfl
  | [a] => one?_symbols a
  | [a, b] => by
    have hlast : (a.toNat * 256 + b.toNat) * 4 % 64 < 64 := by omega
    unfold encode
    rw [decode?_padded (symbol_ne_padding hlast), two?_symbols]
  | a :: b :: c :: rest => by
    have hlast : ((a.toNat * 256 + b.toNat) * 256 + c.toNat) % 64 < 64 := by omega
    unfold encode
    rw [decode?_of_ne_padding (symbol_ne_padding hlast), three?_symbols, decode?_encode rest]
    rfl

/-- **No blank is written.** -/
theorem isBlank_of_mem_encode : (bytes : List UInt8) → ∀ c ∈ encode bytes, Text.isBlank c = false
  | [] => nofun
  | [a] => by
    have ha := a.toNat_lt
    simp only [encode, List.forall_mem_cons]
    exact ⟨isBlank_symbol (by omega), isBlank_symbol (by omega), rfl, rfl, nofun⟩
  | [a, b] => by
    have ha := a.toNat_lt
    have hb := b.toNat_lt
    simp only [encode, List.forall_mem_cons]
    exact ⟨isBlank_symbol (by omega), isBlank_symbol (by omega), isBlank_symbol (by omega), rfl,
      nofun⟩
  | a :: b :: c :: rest => by
    have ha := a.toNat_lt
    have hb := b.toNat_lt
    have hc := c.toNat_lt
    simp only [encode, List.forall_mem_cons]
    exact ⟨isBlank_symbol (by omega), isBlank_symbol (by omega), isBlank_symbol (by omega),
      isBlank_symbol (by omega), isBlank_of_mem_encode rest⟩

/-! ## No other text is decoded -/

/-- A character that stands for six bits is the one that is written for them. -/
theorem symbol_of_value? {c : Char} {n : Nat} (h : value? c = some n) : n < 64 ∧ symbol n = c := by
  have hall : ∀ k < 128, ∀ n ∈ value? (Char.ofNat k), n < 64 ∧ symbol n = Char.ofNat k := by decide
  -- no character beyond ASCII stands for anything
  have hascii : c.toNat < 128 := by
    refine Nat.lt_of_not_le fun hbeyond => ?_
    have hnot : ∀ d : Char, d.toNat < 128 → ¬c ≤ d ∧ c ≠ d := by
      intro d hd
      have hlt : d.toNat < c.toNat := Nat.lt_of_lt_of_le hd hbeyond
      refine ⟨fun hle => Nat.not_le_of_lt hlt hle, ?_⟩
      rintro rfl
      exact Nat.lt_irrefl _ hlt
    simp [value?, hnot 'Z' (by decide), hnot 'z' (by decide), hnot '9' (by decide),
      hnot '+' (by decide), hnot '/' (by decide)] at h
  have hc := hall c.toNat hascii n
  rw [Char.ofNat_toNat] at hc
  exact hc h

/-- Whatever gives one byte is written for it. -/
theorem encode_of_one? {a b : Char} {bytes : List UInt8} (h : one? a b = some bytes) :
    encode bytes = [a, b, '=', '='] := by
  simp only [one?, Option.bind_eq_bind, Option.bind_eq_some_iff] at h
  obtain ⟨m, hm, n, hn, h⟩ := h
  split at h
  · rename_i hzero
    obtain ⟨hm, rfl⟩ := symbol_of_value? hm
    obtain ⟨hn, rfl⟩ := symbol_of_value? hn
    cases h
    have hbyte : (UInt8.ofNat (m * 4 + n / 16)).toNat = m * 4 + n / 16 :=
      UInt8.toNat_ofNat_of_lt (by show _ < 256; omega)
    have hfirst : (m * 4 + n / 16) * 16 / 64 = m := by omega
    have hsecond : (m * 4 + n / 16) * 16 % 64 = n := by omega
    simp only [encode, hbyte, hfirst, hsecond]
  · cases h

theorem encode_of_two? {a b c : Char} {bytes : List UInt8} (h : two? a b c = some bytes) :
    encode bytes = [a, b, c, '='] := by
  simp only [two?, Option.bind_eq_bind, Option.bind_eq_some_iff] at h
  obtain ⟨k, hk, m, hm, n, hn, h⟩ := h
  split at h
  · rename_i hzero
    obtain ⟨hk, rfl⟩ := symbol_of_value? hk
    obtain ⟨hm, rfl⟩ := symbol_of_value? hm
    obtain ⟨hn, rfl⟩ := symbol_of_value? hn
    cases h
    have hx : (UInt8.ofNat (k * 4 + m / 16)).toNat = k * 4 + m / 16 :=
      UInt8.toNat_ofNat_of_lt (by show _ < 256; omega)
    have hy : (UInt8.ofNat (m % 16 * 16 + n / 4)).toNat = m % 16 * 16 + n / 4 :=
      UInt8.toNat_ofNat_of_lt (by show _ < 256; omega)
    have hfirst : ((k * 4 + m / 16) * 256 + (m % 16 * 16 + n / 4)) * 4 / 4096 = k := by omega
    have hsecond : ((k * 4 + m / 16) * 256 + (m % 16 * 16 + n / 4)) * 4 / 64 % 64 = m := by omega
    have hthird : ((k * 4 + m / 16) * 256 + (m % 16 * 16 + n / 4)) * 4 % 64 = n := by omega
    simp only [encode, hx, hy, hfirst, hsecond, hthird]
  · cases h

theorem encode_of_three? {a b c d : Char} {bytes rest : List UInt8}
    (h : three? a b c d = some bytes) :
    encode (bytes ++ rest) = a :: b :: c :: d :: encode rest := by
  simp only [three?, Option.bind_eq_bind, Option.bind_eq_some_iff] at h
  obtain ⟨j, hj, k, hk, m, hm, n, hn, h⟩ := h
  obtain ⟨hj, rfl⟩ := symbol_of_value? hj
  obtain ⟨hk, rfl⟩ := symbol_of_value? hk
  obtain ⟨hm, rfl⟩ := symbol_of_value? hm
  obtain ⟨hn, rfl⟩ := symbol_of_value? hn
  cases h
  have hx : (UInt8.ofNat (j * 4 + k / 16)).toNat = j * 4 + k / 16 :=
    UInt8.toNat_ofNat_of_lt (by show _ < 256; omega)
  have hy : (UInt8.ofNat (k % 16 * 16 + m / 4)).toNat = k % 16 * 16 + m / 4 :=
    UInt8.toNat_ofNat_of_lt (by show _ < 256; omega)
  have hz : (UInt8.ofNat (m % 4 * 64 + n)).toNat = m % 4 * 64 + n :=
    UInt8.toNat_ofNat_of_lt (by show _ < 256; omega)
  have hnumber : ((j * 4 + k / 16) * 256 + (k % 16 * 16 + m / 4)) * 256 + (m % 4 * 64 + n) =
      ((j * 64 + k) * 64 + m) * 64 + n := by omega
  have hfirst : (((j * 64 + k) * 64 + m) * 64 + n) / 262144 = j := by omega
  have hsecond : (((j * 64 + k) * 64 + m) * 64 + n) / 4096 % 64 = k := by omega
  have hthird : (((j * 64 + k) * 64 + m) * 64 + n) / 64 % 64 = m := by omega
  have hfourth : (((j * 64 + k) * 64 + m) * 64 + n) % 64 = n := by omega
  simp only [List.cons_append, List.nil_append, encode, hx, hy, hz, hnumber, hfirst, hsecond, hthird,
    hfourth]

/-- **A text that is decoded is the one that is written** for its bytes. -/
theorem encode_of_decode? {cs : List Char} {bytes : List UInt8} (h : decode? cs = some bytes) :
    encode bytes = cs := by
  fun_induction decode? cs generalizing bytes with
  | case1 =>
    cases h
    rfl
  | case2 a b => exact encode_of_one? h
  | case3 a b c => exact encode_of_two? h
  | case4 a b c d rest _ _ ih =>
    simp only [Option.bind_eq_bind, Option.bind_eq_some_iff] at h
    obtain ⟨group, hgroup, more, hmore, h⟩ := h
    cases h
    rw [encode_of_three? hgroup, ih hmore]
  | case5 => cases h

/-- **Bytes have one text**: what is decoded to them is what is written for them. -/
theorem decode?_eq_some_iff {cs : List Char} {bytes : List UInt8} :
    decode? cs = some bytes ↔ cs = encode bytes := by
  constructor
  · exact fun h => (encode_of_decode? h).symm
  · rintro rfl
    exact decode?_encode bytes

end Brokerage.Base64
