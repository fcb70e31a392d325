import Brokerage.Text.Utf8
import Mathlib.Tactic.IntervalCases

/-!
# UTF-8 loses nothing

A character is written as up to four bytes. The first tells how many, the others carry six bits each,
and the reader, who is only given one byte at a time, gathers them again. The ranges of second bytes
leave room for every character: what they keep out are numbers that are no characters or have a
shorter writing.

* `toNat_of_mem_encodeChar`: bytes below `0x80` are characters of their own.
* `scan_first`, `scan_more`, `scan_last`: one byte of a character of several bytes.
* `scan_encodeChar`: **the bytes of a character show it**, whatever follows.
* `decode?_encode`: **decoding undoes encoding.**
-/

namespace Brokerage.Utf8

variable {rest : List UInt8} {low high bits n m : Nat}

/-! ## Writing -/

theorem toNat_ofNat (h : n < 0x100) : (UInt8.ofNat n).toNat = n :=
  UInt8.toNat_ofNat_of_lt h

theorem encode_cons (c : Char) (cs : List Char) : encode (c :: cs) = encodeChar c ++ encode cs :=
  List.flatMap_cons

theorem encode_append (cs ds : List Char) : encode (cs ++ ds) = encode cs ++ encode ds :=
  List.flatMap_append

theorem encode_append_append (cs ds : List Char) (rest : List UInt8) :
    encode (cs ++ ds) ++ rest = encode cs ++ (encode ds ++ rest) := by
  rw [encode_append, List.append_assoc]

/-- Characters below `0x80` are their own bytes. -/
theorem encode_of_ascii {cs : List Char} (h : ∀ c ∈ cs, c.toNat < 0x80) :
    encode cs = cs.map fun c => .ofNat c.toNat := by
  induction cs with
  | nil => rfl
  | cons c cs ih =>
    obtain ⟨hc, hcs⟩ := List.forall_mem_cons.1 h
    have hchar : encodeChar c = [.ofNat c.toNat] := if_pos hc
    rw [encode_cons, hchar, ih hcs]
    rfl

/-- A byte of a character is the character itself or lies beyond `0x80`. -/
theorem toNat_of_mem_encodeChar (c : Char) :
    ∀ b ∈ encodeChar c, b.toNat = c.toNat ∨ 0x80 ≤ b.toNat := by
  have hvalid : c.toNat < 0xD800 ∨ 0xDFFF < c.toNat ∧ c.toNat < 0x110000 := c.valid
  have hbeyond : ∀ n, 0x80 ≤ n → n < 0x100 →
      (UInt8.ofNat n).toNat = c.toNat ∨ 0x80 ≤ (UInt8.ofNat n).toNat := by
    intro n hlow hhigh
    rw [toNat_ofNat hhigh]
    exact .inr hlow
  unfold encodeChar
  simp only
  split
  · rename_i hone
    simp only [List.forall_mem_cons]
    exact ⟨.inl (toNat_ofNat (by omega)), nofun⟩
  split
  · simp only [List.forall_mem_cons]
    exact ⟨hbeyond _ (by omega) (by omega), hbeyond _ (by omega) (by omega), nofun⟩
  split
  · simp only [List.forall_mem_cons]
    exact ⟨hbeyond _ (by omega) (by omega), hbeyond _ (by omega) (by omega),
      hbeyond _ (by omega) (by omega), nofun⟩
  · simp only [List.forall_mem_cons]
    exact ⟨hbeyond _ (by omega) (by omega), hbeyond _ (by omega) (by omega),
      hbeyond _ (by omega) (by omega), hbeyond _ (by omega) (by omega), nofun⟩

/-! ## Reading -/

theorem scan_cons (p : Option Pending) (b : UInt8) (rest : List UInt8) :
    scan p (b :: rest) = (step p b).1 ++ scan (step p b).2 rest := by
  cases p <;> rfl

/-- The first byte of several opens a character. -/
theorem scan_first {b : UInt8} {p : Pending} (h : start b = .pending p) :
    scan none (b :: rest) = scan (some p) rest := by
  have hstep : step none b = ([], some p) := by
    show begin b = _
    unfold begin
    rw [h]
  rw [scan_cons, hstep]
  rfl

/-- A byte that is not the last adds six bits. -/
theorem scan_more {owed : Nat} (hm : m < 0x40) (hlow : low ≤ 0x80 + m) (hhigh : 0x80 + m ≤ high) :
    scan (some ⟨owed + 2, low, high, bits⟩) (.ofNat (0x80 + m) :: rest) =
      scan (some ⟨owed + 1, 0x80, 0xBF, bits * 0x40 + m⟩) rest := by
  have hbyte : (UInt8.ofNat (0x80 + m)).toNat = 0x80 + m := toNat_ofNat (by omega)
  have hstep : step (some ⟨owed + 2, low, high, bits⟩) (.ofNat (0x80 + m)) =
      ([], some ⟨owed + 1, 0x80, 0xBF, bits * 0x40 + m⟩) := by
    simp only [step]
    rw [hbyte, if_pos ⟨hlow, hhigh⟩, if_neg (by omega), Nat.add_sub_cancel_left]
    rfl
  rw [scan_cons, hstep]
  rfl

/-- The last byte shows the character. -/
theorem scan_last (hm : m < 0x40) (hlow : low ≤ 0x80 + m) (hhigh : 0x80 + m ≤ high) :
    scan (some ⟨1, low, high, bits⟩) (.ofNat (0x80 + m) :: rest) =
      some (.ofNat (bits * 0x40 + m)) :: scan none rest := by
  have hbyte : (UInt8.ofNat (0x80 + m)).toNat = 0x80 + m := toNat_ofNat (by omega)
  have hstep : step (some ⟨1, low, high, bits⟩) (.ofNat (0x80 + m)) =
      ([some (.ofNat (bits * 0x40 + m))], none) := by
    simp only [step]
    rw [hbyte, if_pos ⟨hlow, hhigh⟩, if_pos trivial, Nat.add_sub_cancel_left]
  rw [scan_cons, hstep]
  rfl

/-! ## First bytes -/

theorem start_one (h : n < 0x80) : start (.ofNat n) = .char (.ofNat n) := by
  have hbyte : (UInt8.ofNat n).toNat = n := toNat_ofNat (by omega)
  unfold start
  rw [hbyte, if_pos h]

theorem start_two (hlow : 2 ≤ n) (hhigh : n < 0x20) :
    start (.ofNat (0xC0 + n)) = .pending ⟨1, 0x80, 0xBF, n⟩ := by
  interval_cases n <;> rfl

/-- Behind `0xE0` a shorter writing is kept out, behind `0xED` the surrogates. -/
theorem start_three (h : n < 0x10) :
    start (.ofNat (0xE0 + n)) =
      .pending ⟨2, if n = 0 then 0xA0 else 0x80, if n = 0xD then 0x9F else 0xBF, n⟩ := by
  interval_cases n <;> rfl

/-- Behind `0xF0` a shorter writing is kept out, behind `0xF4` what is too large. -/
theorem start_four (h : n < 5) :
    start (.ofNat (0xF0 + n)) =
      .pending ⟨3, if n = 0 then 0x90 else 0x80, if n = 4 then 0x8F else 0xBF, n⟩ := by
  interval_cases n <;> rfl

/-! ## Characters -/

/-- **The bytes of a character show it.** -/
theorem scan_encodeChar (c : Char) (rest : List UInt8) :
    scan none (encodeChar c ++ rest) = some c :: scan none rest := by
  obtain ⟨n, hn⟩ : ∃ n, c.toNat = n := ⟨_, rfl⟩
  have hchar : Char.ofNat n = c := by rw [← hn, Char.ofNat_toNat]
  have hvalid : n < 0xD800 ∨ 0xDFFF < n ∧ n < 0x110000 := hn ▸ c.valid
  have hsize : encodeChar c =
      if n < 0x80 then [.ofNat n]
      else if n < 0x800 then [.ofNat (0xC0 + n / 0x40), .ofNat (0x80 + n % 0x40)]
      else if n < 0x10000 then
        [.ofNat (0xE0 + n / 0x1000), .ofNat (0x80 + n / 0x40 % 0x40), .ofNat (0x80 + n % 0x40)]
      else
        [.ofNat (0xF0 + n / 0x40000), .ofNat (0x80 + n / 0x1000 % 0x40),
          .ofNat (0x80 + n / 0x40 % 0x40), .ofNat (0x80 + n % 0x40)] := by
    rw [← hn]
    rfl
  rw [hsize]
  by_cases hone : n < 0x80
  · have hstep : step none (.ofNat n) = ([some c], none) := by
      show begin _ = _
      unfold begin
      rw [start_one hone, hchar]
    rw [if_pos hone, List.singleton_append, scan_cons, hstep]
    rfl
  rw [if_neg hone]
  by_cases htwo : n < 0x800
  · have hbits : n / 0x40 * 0x40 + n % 0x40 = n := by omega
    rw [if_pos htwo]
    simp only [List.cons_append, List.nil_append]
    rw [scan_first (start_two (by omega) (by omega)),
      scan_last (by omega) (by omega) (by omega), hbits, hchar]
  rw [if_neg htwo]
  by_cases hthree : n < 0x10000
  · have hbits : (n / 0x1000 * 0x40 + n / 0x40 % 0x40) * 0x40 + n % 0x40 = n := by omega
    rw [if_pos hthree]
    simp only [List.cons_append, List.nil_append]
    rw [scan_first (start_three (by omega)),
      scan_more (by omega) (by split <;> omega) (by split <;> omega),
      scan_last (by omega) (by omega) (by omega), hbits, hchar]
  · have hbits : ((n / 0x40000 * 0x40 + n / 0x1000 % 0x40) * 0x40 + n / 0x40 % 0x40) * 0x40 +
        n % 0x40 = n := by omega
    rw [if_neg hthree]
    simp only [List.cons_append, List.nil_append]
    rw [scan_first (start_four (by omega)),
      scan_more (by omega) (by split <;> omega) (by split <;> omega),
      scan_more (by omega) (by omega) (by omega),
      scan_last (by omega) (by omega) (by omega), hbits, hchar]

/-- What a text is written as shows its characters. -/
theorem scan_encode (cs : List Char) : scan none (encode cs) = cs.map some := by
  induction cs with
  | nil => rfl
  | cons c cs ih =>
    rw [encode_cons, scan_encodeChar, ih, List.map_cons]

/-- **Decoding undoes encoding.** -/
theorem decode?_encode (cs : List Char) : decode? (encode cs) = some cs := by
  unfold decode?
  rw [scan_encode]
  induction cs with
  | nil => rfl
  | cons c cs ih =>
    rw [List.map_cons, List.mapM_cons, ih]
    rfl

end Brokerage.Utf8
