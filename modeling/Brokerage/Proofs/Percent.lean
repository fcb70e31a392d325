import Brokerage.Http.Percent
import Brokerage.Proofs.Utf8

/-!
# Percent encoding loses nothing

Every text can be written in a segment of a path: what means something else there is escaped, and to
read the segment gives the text back.

* `percentDecode_escape`, `percentDecode_unreserved`: a byte is read back, escaped or not.
* `percentText?_percentEncode`: **decoding undoes encoding**, whatever the text.
* `mem_percentEncode`, `ne_of_mem_percentEncode`: an encoded text holds unreserved characters and escape
  signs, and so nothing that ends a segment, a path or a target.
-/

namespace Brokerage.Http

/-! ## One byte -/

/-- **A hexadecimal digit gives its number back**, and is a character of one byte. -/
theorem hexDigit_spec {n : Nat} (h : n < 16) : (hexDigit n).toNat < 0x80 ∧
    isUnreserved (hexDigit n) = true ∧
    Json.Token.hexValue? (.ofNat (hexDigit n).toNat) = some n := by
  have hall : ∀ n < 16, (hexDigit n).toNat < 0x80 ∧ isUnreserved (hexDigit n) = true ∧
    Json.Token.hexValue? (.ofNat (hexDigit n).toNat) = some n := by decide
  exact hall n h

/-- An unreserved character is one byte, and no escape sign. -/
theorem isUnreserved_ascii {c : Char} (h : isUnreserved c = true) :
    c.toNat < 0x80 ∧ c.toNat ≠ 0x25 := by
  unfold isUnreserved at h
  simp only [Bool.or_eq_true, Bool.and_eq_true, decide_eq_true_eq, beq_iff_eq] at h
  omega

theorem percentDecode_of_ne {b : UInt8} (h : b ≠ 0x25) (rest : List UInt8) :
    percentDecode (b :: rest) = b :: percentDecode rest := by
  rw [percentDecode]
  exact fun _ _ _ hb _ => h hb

/-- **An escaped byte is read back.** -/
theorem percentDecode_escape (b : UInt8) (rest : List UInt8) :
    percentDecode (Utf8.encode (percentEscape b) ++ rest) = b :: percentDecode rest := by
  have hb := b.toNat_lt
  obtain ⟨hhigh, -, hhighValue⟩ := hexDigit_spec (n := b.toNat / 16) (by omega)
  obtain ⟨hlow, -, hlowValue⟩ := hexDigit_spec (n := b.toNat % 16) (by omega)
  have hbytes : Utf8.encode (percentEscape b) =
      [0x25, .ofNat (hexDigit (b.toNat / 16)).toNat, .ofNat (hexDigit (b.toNat % 16)).toNat] :=
    Utf8.encode_of_ascii (by simp [percentEscape, hhigh, hlow])
  have hsum : b.toNat / 16 * 16 + b.toNat % 16 = b.toNat := by omega
  rw [hbytes]
  show percentDecode (0x25 :: _ :: _ :: rest) = _
  rw [percentDecode, hhighValue, hlowValue]
  simp only [hsum, UInt8.ofNat_toNat]

/-- Escaped bytes are read back. -/
theorem percentDecode_escapes (bytes rest : List UInt8) :
    percentDecode (Utf8.encode (bytes.flatMap percentEscape) ++ rest) =
      bytes ++ percentDecode rest := by
  induction bytes with
  | nil => rfl
  | cons b bytes ih =>
    rw [List.flatMap_cons, Utf8.encode_append_append, percentDecode_escape, ih, List.cons_append]

/-- So is an unreserved character. -/
theorem percentDecode_unreserved {c : Char} (h : isUnreserved c = true) (rest : List UInt8) :
    percentDecode (Utf8.encode [c] ++ rest) = Utf8.encodeChar c ++ percentDecode rest := by
  obtain ⟨hascii, hsign⟩ := isUnreserved_ascii h
  have hchar : Utf8.encodeChar c = [.ofNat c.toNat] := if_pos hascii
  have hne : UInt8.ofNat c.toNat ≠ 0x25 := fun heq => hsign (by
    have hnat := congrArg UInt8.toNat heq
    rwa [Utf8.toNat_ofNat (by omega)] at hnat)
  rw [Utf8.encode_cons, hchar]
  exact percentDecode_of_ne hne rest

/-! ## A text -/

/-- **What is encoded is decoded**, to the bytes of the text. -/
theorem percentDecode_percentEncode (s : String) :
    percentDecode (Utf8.encode (percentEncode s)) = Utf8.encode s.toList := by
  unfold percentEncode
  induction s.toList with
  | nil => rfl
  | cons c cs ih =>
    rw [List.flatMap_cons, Utf8.encode_append, Utf8.encode_cons]
    split
    · rename_i hplain
      rw [percentDecode_unreserved hplain, ih]
    · rw [percentDecode_escapes, ih]

/-- **Decoding undoes encoding.** -/
theorem percentText?_percentEncode (s : String) : percentText? (percentEncode s) = some s := by
  unfold percentText?
  rw [percentDecode_percentEncode, Utf8.decode?_encode, Option.map_some, String.ofList_toList]

/-- **An encoded text holds unreserved characters and escape signs.** -/
theorem mem_percentEncode {s : String} {c : Char} (h : c ∈ percentEncode s) :
    isUnreserved c = true ∨ c = '%' := by
  obtain ⟨d, -, hc⟩ := List.mem_flatMap.1 h
  split at hc
  · rename_i hplain
    rw [List.mem_singleton.1 hc]
    exact .inl hplain
  · obtain ⟨b, -, hc⟩ := List.mem_flatMap.1 hc
    have hb := b.toNat_lt
    simp only [percentEscape, List.mem_cons, List.not_mem_nil, or_false] at hc
    obtain rfl | rfl | rfl := hc
    · exact .inr rfl
    · exact .inl (hexDigit_spec (by omega)).2.1
    · exact .inl (hexDigit_spec (by omega)).2.1

/-- A reserved character is not in it: none that ends a segment, a path or a target. -/
theorem ne_of_mem_percentEncode {s : String} {c d : Char} (h : c ∈ percentEncode s)
    (hreserved : isUnreserved d = false) (hsign : d ≠ '%') : c ≠ d := by
  rintro rfl
  obtain hplain | rfl := mem_percentEncode h
  · rw [hreserved] at hplain
    cases hplain
  · exact hsign rfl

end Brokerage.Http
