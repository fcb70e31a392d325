import Brokerage.Json.Printer
import Brokerage.Json.Token
import Brokerage.Proofs.Utf8

/-!
# The tokens of a printed value

A value is printed character by character, and its bytes are cut into tokens again. A text is one
token whatever is in it: its marks are escaped and its other characters are bytes that stand for
themselves. A numeral has no mark at its end, so it is told from what follows it by what cannot go on
with it. Floating point numbers are left aside.

* `Numeral.ofInt`, `number?_ofInt`: the numeral of a whole number, which stands for it.
* `Token.scan_text`, `scan_int`: **a text is one token**, and so is a whole number.
* `Json.all`: a property of every value inside a value.
* `Json.tokens`, `scan_printChars`: **a printed value is its tokens.**
-/

namespace Brokerage

/-! ## Numerals -/

/-- The digits of a number. -/
def Numeral.digits (n : Nat) : List Nat := (Nat.toDigits 10 n).map (·.toNat - 0x30)

/-- The numeral of a whole number. -/
def Numeral.ofInt : Int → Numeral
  | .ofNat n => ⟨false, digits n, none, none⟩
  | .negSucc n => ⟨true, digits (n + 1), none, none⟩

/-- Digits write the number they are the digits of. -/
theorem Numeral.natOf_digits (n : Nat) : natOf (digits n) = n := by
  have hfold : ∀ (cs : List Char) (init : Nat),
      (cs.map (·.toNat - 0x30)).foldl (fun n d => n * 10 + d) init = Nat.ofDigitChars 10 cs init := by
    intro cs
    induction cs with
    | nil => exact fun _ => rfl
    | cons c cs ih =>
      intro init
      rw [List.map_cons, List.foldl_cons, ih, Nat.ofDigitChars_cons, Nat.mul_comm]
      rfl
  unfold natOf digits
  rw [hfold, Nat.ofDigitChars_ten_toDigits]

/-- **A whole number in range is the number of its numeral.** -/
theorem Numeral.number?_ofInt {n : Int} (hmin : Number.minInt ≤ n) (hmax : n ≤ Number.maxInt) :
    (Numeral.ofInt n).number? = some (.int n) := by
  cases n with
  | ofNat n =>
    simp only [ofInt, number?, natOf_digits, Bool.false_eq_true, if_false]
    exact if_pos hmax
  | negSucc n =>
    have hneg : -((n + 1 : Nat) : Int) = .negSucc n := rfl
    have hpos : (0 : Int) < (n + 1 : Nat) := by omega
    simp only [ofInt, number?, natOf_digits, if_true, hneg]
    rw [if_pos ⟨hpos, hmin⟩]

/-- No numeral has a zero in front of other digits. -/
theorem Numeral.digits_eq_cons (n : Nat) : ∃ d ds, digits n = d :: ds ∧ (d = 0 → ds = []) := by
  by_cases hn : n < 10
  · exact ⟨_, [], by unfold digits; rw [Nat.toDigits_of_lt_base hn]; rfl, fun _ => rfl⟩
  · have hsplit := Nat.toDigits_of_base_le (b := 10) (by decide) (Nat.le_of_not_lt hn)
    obtain ⟨d, ds, hds, hzero⟩ := digits_eq_cons (n / 10)
    refine ⟨d, ds ++ [(Nat.digitChar (n % 10)).toNat - 0x30], ?_, fun hd => ?_⟩
    · unfold digits at hds ⊢
      rw [hsplit, List.map_append, hds]
      rfl
    · -- the digits in front are those of a positive number
      have hnat := natOf_digits (n / 10)
      rw [hds, hd, hzero hd] at hnat
      have : (0 : Nat) = n / 10 := hnat
      omega

namespace Json.Token

variable {rest : List UInt8} {b : UInt8}

/-! ## Digits -/

/-- A byte may go on with a numeral. -/
def goesOn (b : UInt8) : Bool := isDigit b || b == 0x2E || b == 0x65 || b == 0x45

/-- A numeral ends in front of these bytes. -/
def Ends (rest : List UInt8) : Prop := ∀ b ∈ rest.head?, goesOn b = false

theorem mem_toDigits {n : Nat} {c : Char} (hc : c ∈ Nat.toDigits 10 n) :
    0x30 ≤ c.toNat ∧ c.toNat ≤ 0x39 :=
  Char.isDigit_iff_toNat.1 (Nat.isDigit_of_mem_toDigits (by decide) (by decide) hc)

theorem encode_toDigits (n : Nat) :
    Utf8.encode (Nat.toDigits 10 n) = (Nat.toDigits 10 n).map fun c => .ofNat c.toNat :=
  Utf8.encode_of_ascii fun _ hc => Nat.lt_of_le_of_lt (mem_toDigits hc).2 (by decide)

/-- The bytes of digits are digits. -/
theorem isDigit_of_mem_toDigits {n : Nat} (hb : b ∈ Utf8.encode (Nat.toDigits 10 n)) :
    isDigit b = true := by
  rw [encode_toDigits] at hb
  obtain ⟨c, hc, rfl⟩ := List.mem_map.1 hb
  obtain ⟨hlow, hhigh⟩ := mem_toDigits hc
  have hbyte : (UInt8.ofNat c.toNat).toNat = c.toNat := Utf8.toNat_ofNat (by omega)
  unfold isDigit
  rw [Bool.and_eq_true, decide_eq_true_iff, decide_eq_true_iff, UInt8.le_iff_toNat_le,
    UInt8.le_iff_toNat_le, hbyte]
  exact ⟨hlow, hhigh⟩

/-- Digits are read up to the end of the numeral. -/
theorem takeDigits_toDigits (n : Nat) (h : Ends rest) :
    takeDigits (Utf8.encode (Nat.toDigits 10 n) ++ rest) = (Numeral.digits n, rest) := by
  have hdigits : ∀ b ∈ Utf8.encode (Nat.toDigits 10 n), isDigit b = true := fun b hb =>
    isDigit_of_mem_toDigits hb
  have hend : rest.takeWhile isDigit = [] ∧ rest.dropWhile isDigit = rest := by
    cases rest with
    | nil => exact ⟨rfl, rfl⟩
    | cons b rest =>
      have hb : ¬isDigit b = true := fun hb => by
        have hstop := h b rfl
        unfold goesOn at hstop
        rw [hb] at hstop
        cases hstop
      exact ⟨List.takeWhile_cons_of_neg hb, List.dropWhile_cons_of_neg hb⟩
  have hvalues : (Utf8.encode (Nat.toDigits 10 n)).map (·.toNat - 0x30) = Numeral.digits n := by
    rw [encode_toDigits, List.map_map]
    refine List.map_congr_left fun c hc => ?_
    have hhigh := (mem_toDigits hc).2
    show (UInt8.ofNat c.toNat).toNat - 0x30 = _
    rw [Utf8.toNat_ofNat (by omega)]
  unfold takeDigits
  rw [List.takeWhile_append_of_pos hdigits, List.dropWhile_append_of_pos hdigits, hend.1, hend.2,
    List.append_nil, hvalues]

/-- Nothing that goes on stands behind a numeral: no fraction and no exponent. -/
theorem scanFraction_of_ends (h : Ends rest) : scanFraction rest = some (none, rest) := by
  unfold scanFraction
  split
  · cases h _ rfl
  · rfl

theorem scanExponent_of_ends (h : Ends rest) : scanExponent rest = some (none, rest) := by
  cases rest with
  | nil => rfl
  | cons b rest =>
    have hb : ¬(b = 0x65 ∨ b = 0x45) := by
      have hstop := h b rfl
      rintro (rfl | rfl) <;> cases hstop
    exact if_neg hb

/-- **The digits of a number are its numeral.** -/
theorem scanNumeral_toDigits (negative : Bool) (n : Nat) (h : Ends rest) :
    scanNumeral negative (Utf8.encode (Nat.toDigits 10 n) ++ rest) =
      some (⟨negative, Numeral.digits n, none, none⟩, rest) := by
  obtain ⟨d, ds, hds, hzero⟩ := Numeral.digits_eq_cons n
  have hlead : ¬(d = 0 ∧ ds ≠ []) := fun hd => hd.2 (hzero hd.1)
  unfold scanNumeral
  rw [takeDigits_toDigits n h, hds]
  simp only [if_neg hlead, scanFraction_of_ends h, Option.bind_eq_bind, Option.bind_some,
    scanExponent_of_ends h]
  rfl

/-! ## Texts -/

/-- A byte stands for itself inside a text: it is no control character, no mark and no escape sign. -/
def StandsAlone (b : UInt8) : Prop := 0x20 ≤ b.toNat ∧ b.toNat ≠ 0x22 ∧ b.toNat ≠ 0x5C

theorem scanText_byte (hb : StandsAlone b) :
    scanText (b :: rest) = (scanText rest).map fun (ps, tail) => (.byte b :: ps, tail) := by
  obtain ⟨hlow, hmark, hescape⟩ := hb
  have hlow' : ¬b < 0x20 := fun h => Nat.not_le_of_lt (UInt8.lt_iff_toNat_lt.1 h) hlow
  have hmark' : b ≠ 0x22 := fun h => hmark (congrArg UInt8.toNat h)
  have hescape' : b ≠ 0x5C := fun h => hescape (congrArg UInt8.toNat h)
  rw [scanText]
  · rw [if_neg fun h => h.elim hlow' hescape']
    cases scanText rest <;> rfl
  · exact hmark'
  · exact fun _ _ _ _ _ h _ => hescape' h
  · exact fun _ _ h _ => hescape' h

theorem scanText_escape {e : UInt8} (he : e ≠ 0x75) (hb : escape? e = some b) :
    scanText (0x5C :: e :: rest) = (scanText rest).map fun (ps, tail) => (.byte b :: ps, tail) := by
  rw [scanText]
  · rw [hb]
    cases scanText rest <;> rfl
  · intro _ _ _ _ _ h _
    exact he h

/-- Bytes that stand for themselves are read one by one. -/
theorem scanText_bytes {bs : List UInt8} (h : ∀ b ∈ bs, StandsAlone b) :
    scanText (bs ++ rest) =
      (scanText rest).map fun (ps, tail) => (bs.map .byte ++ ps, tail) := by
  induction bs with
  | nil =>
    rw [List.nil_append]
    cases scanText rest <;> rfl
  | cons b bs ih =>
    obtain ⟨hb, hbs⟩ := List.forall_mem_cons.1 h
    rw [List.cons_append, scanText_byte hb, ih hbs, Option.map_map]
    rfl

theorem pieceBytes?_bytes (bs : List UInt8) (ps : List Piece) :
    pieceBytes? (bs.map .byte ++ ps) = (pieceBytes? ps).map (bs ++ ·) := by
  induction bs with
  | nil => cases hps : pieceBytes? ps <;> simp [hps]
  | cons b bs ih =>
    have hcons : pieceBytes? ((b :: bs).map .byte ++ ps) =
        (pieceBytes? (bs.map .byte ++ ps)).map (b :: ·) := rfl
    rw [hcons, ih, Option.map_map]
    rfl

theorem scanText_unit {a b c d : UInt8} {n : Nat} (hn : hex4? a b c d = some n) :
    scanText (0x5C :: 0x75 :: a :: b :: c :: d :: rest) =
      (scanText rest).map fun (ps, tail) => (.unit n :: ps, tail) := by
  rw [scanText, hn]
  cases scanText rest <;> rfl

/-- A unit that is no surrogate is a character of its own. -/
theorem pieceBytes?_unit {n : Nat} (hn : n < 0xD800) (ps : List Piece) :
    pieceBytes? (.unit n :: ps) = (pieceBytes? ps).map (Utf8.encodeChar (.ofNat n) ++ ·) := by
  have hleading : isLeading n = false := by
    unfold isLeading
    simp; omega
  have htrailing : isTrailing n = false := by
    unfold isTrailing
    simp; omega
  cases ps with
  | nil => simp [pieceBytes?, hleading, htrailing]
  | cons p ps =>
    cases p with
    | byte b => simp [pieceBytes?, hleading, htrailing]
    | unit m => simp [pieceBytes?, hleading, htrailing]

/-- The bytes of a character that is not escaped stand for themselves. -/
theorem standsAlone_of_mem_encodeChar {c : Char} (hlow : 0x20 ≤ c.toNat) (hmark : c.toNat ≠ 0x22)
    (hescape : c.toNat ≠ 0x5C) : ∀ b ∈ Utf8.encodeChar c, StandsAlone b := by
  intro b hb
  obtain hself | hbeyond := Utf8.toNat_of_mem_encodeChar c b hb
  · unfold StandsAlone
    rw [hself]
    exact ⟨hlow, hmark, hescape⟩
  · exact ⟨by omega, by omega, by omega⟩

/-- A control character is written by its number, in four digits. -/
theorem encode_control {n : Nat} (hn : n < 0x20) :
    ∃ a b, Utf8.encode ['\\', 'u', '0', '0', Nat.digitChar (n / 16), Nat.digitChar (n % 16)] =
        [0x5C, 0x75, 0x30, 0x30, a, b] ∧
      hex4? 0x30 0x30 a b = some n := by
  interval_cases n <;> exact ⟨_, _, rfl, rfl⟩

/-- **A printed character is read as pieces that give its bytes.** -/
theorem scanText_printChar (c : Char) (rest : List UInt8) :
    ∃ ps, (∀ qs, pieceBytes? (ps ++ qs) = (pieceBytes? qs).map (Utf8.encodeChar c ++ ·)) ∧
      scanText (Utf8.encode (printChar c) ++ rest) =
        (scanText rest).map fun (qs, tail) => (ps ++ qs, tail) := by
  unfold printChar
  split
  · exact ⟨[.byte 0x22], fun _ => rfl, scanText_escape (by decide) rfl⟩
  · exact ⟨[.byte 0x5C], fun _ => rfl, scanText_escape (by decide) rfl⟩
  · exact ⟨[.byte 0x08], fun _ => rfl, scanText_escape (by decide) rfl⟩
  · exact ⟨[.byte 0x0C], fun _ => rfl, scanText_escape (by decide) rfl⟩
  · exact ⟨[.byte 0x0A], fun _ => rfl, scanText_escape (by decide) rfl⟩
  · exact ⟨[.byte 0x0D], fun _ => rfl, scanText_escape (by decide) rfl⟩
  · exact ⟨[.byte 0x09], fun _ => rfl, scanText_escape (by decide) rfl⟩
  · rename_i hmark hescape _ _ _ _ _
    split
    · -- a control character without a letter
      rename_i hcontrol
      obtain ⟨a, b, hbytes, hhex⟩ := encode_control hcontrol
      refine ⟨[.unit c.toNat], fun qs => ?_, ?_⟩
      · rw [List.singleton_append, pieceBytes?_unit (by omega), Char.ofNat_toNat]
      · rw [hbytes]
        exact scanText_unit hhex
    · rename_i hcontrol
      have halone := standsAlone_of_mem_encodeChar (c := c) (by omega)
        (fun h => hmark (Char.toNat_inj.1 h)) (fun h => hescape (Char.toNat_inj.1 h))
      have hone : Utf8.encode [c] = Utf8.encodeChar c := by
        rw [Utf8.encode_cons]
        exact List.append_nil _
      refine ⟨(Utf8.encodeChar c).map .byte, pieceBytes?_bytes _, ?_⟩
      rw [hone]
      exact scanText_bytes halone

/-- **A printed text is read back.** -/
theorem scanText_print (cs : List Char) (rest : List UInt8) :
    ∃ ps, content? ps = some (String.ofList cs) ∧
      scanText (Utf8.encode (cs.flatMap printChar ++ ['"']) ++ rest) = some (ps, rest) := by
  have hpieces : ∃ ps, pieceBytes? ps = some (Utf8.encode cs) ∧
      scanText (Utf8.encode (cs.flatMap printChar ++ ['"']) ++ rest) = some (ps, rest) := by
    induction cs with
    | nil => exact ⟨[], rfl, rfl⟩
    | cons c cs ih =>
      obtain ⟨qs, hqs, hscan⟩ := ih
      obtain ⟨ps, hps, hchar⟩ :=
        scanText_printChar c (Utf8.encode (cs.flatMap printChar ++ ['"']) ++ rest)
      refine ⟨ps ++ qs, ?_, ?_⟩
      · rw [hps, hqs, Utf8.encode_cons]
        rfl
      · rw [List.flatMap_cons, List.append_assoc, Utf8.encode_append_append, hchar, hscan]
        rfl
  obtain ⟨ps, hps, hscan⟩ := hpieces
  refine ⟨ps, ?_, hscan⟩
  unfold content?
  rw [hps, Option.bind_some, Utf8.decode?_encode]
  rfl

/-! ## One token -/

theorem scan_of_next {t : Token} {tail : List UInt8} (hspace : isSpace b = false)
    (h : next b rest = some (t, tail)) : scan (b :: rest) = t :: scan tail := by
  rw [scan, if_neg (by rw [hspace]; exact Bool.false_ne_true)]
  split
  · rename_i t' tail' h'
    cases h.symm.trans h'
    rfl
  · rename_i h'
    cases h.symm.trans h'

/-- A byte is no space if it has a property that none of the four spaces has. -/
theorem isSpace_eq_false {p : UInt8 → Prop} (hb : p b)
    (h : ¬p 0x20 ∧ ¬p 0x0A ∧ ¬p 0x0D ∧ ¬p 0x09) : isSpace b = false := by
  by_contra hspace
  unfold isSpace at hspace
  simp only [Bool.not_eq_false, Bool.or_eq_true, beq_iff_eq] at hspace
  obtain ((rfl | rfl) | rfl) | rfl := hspace
  · exact h.1 hb
  · exact h.2.1 hb
  · exact h.2.2.1 hb
  · exact h.2.2.2 hb

/-- Marks are tokens of their own. -/
theorem scan_mark {t : Token} (h : mark? b = some t) : scan (b :: rest) = t :: scan rest := by
  refine scan_of_next (isSpace_eq_false (p := (mark? · = some t)) h ⟨nofun, nofun, nofun, nofun⟩) ?_
  unfold next
  rw [h]

/-- **A text is one token.** -/
theorem scan_text (s : String) (rest : List UInt8) :
    scan (Utf8.encode (printText s) ++ rest) = .text (some s) :: scan rest := by
  obtain ⟨ps, hps, hscan⟩ := scanText_print s.toList rest
  have hbytes : Utf8.encode (printText s) ++ rest =
      0x22 :: (Utf8.encode (s.toList.flatMap printChar ++ ['"']) ++ rest) := rfl
  have hnext : next 0x22 (Utf8.encode (s.toList.flatMap printChar ++ ['"']) ++ rest) =
      some (.text (content? ps), rest) := by
    show (scanText _).map _ = _
    rw [hscan]
    rfl
  rw [hbytes, scan_of_next rfl hnext, hps, String.ofList_toList]

/-- A digit starts a numeral. -/
theorem next_of_isDigit (hb : isDigit b = true) :
    next b rest = (scanNumeral false (b :: rest)).map fun (n, rest) => (.numeral n, rest) := by
  have hne : ∀ k, isDigit k = false → b ≠ k := by
    rintro _ hk rfl
    rw [hk] at hb
    cases hb
  have hmark : mark? b = none := by
    unfold mark?
    rw [if_neg (hne _ rfl), if_neg (hne _ rfl), if_neg (hne _ rfl), if_neg (hne _ rfl),
      if_neg (hne _ rfl), if_neg (hne _ rfl)]
  unfold next
  simp only [hmark]
  rw [if_neg (hne _ rfl), if_neg (hne _ rfl), if_pos hb]

theorem toList_toString (n : Nat) : (toString n).toList = Nat.toDigits 10 n := by
  rw [Nat.toString_eq_ofList_toDigits, String.toList_ofList]

/-- The digits of a number are one token. -/
theorem scan_toDigits (n : Nat) (h : Ends rest) :
    scan (Utf8.encode (Nat.toDigits 10 n) ++ rest) =
      .numeral ⟨false, Numeral.digits n, none, none⟩ :: scan rest := by
  have hnumeral := scanNumeral_toDigits false n h
  have hdigits : ∀ b ∈ Utf8.encode (Nat.toDigits 10 n), isDigit b = true := fun b hb =>
    isDigit_of_mem_toDigits hb
  cases hbytes : Utf8.encode (Nat.toDigits 10 n) with
  | nil =>
    rw [encode_toDigits, List.map_eq_nil_iff] at hbytes
    exact absurd hbytes Nat.toDigits_ne_nil
  | cons b bs =>
    have hb := hdigits b (hbytes ▸ List.mem_cons_self)
    rw [hbytes, List.cons_append] at hnumeral
    rw [List.cons_append]
    refine scan_of_next (isSpace_eq_false (p := (isDigit · = true)) hb (by decide)) ?_
    rw [next_of_isDigit hb, hnumeral]
    rfl

/-- **A whole number is one token.** -/
theorem scan_int (n : Int) (h : Ends rest) :
    scan (Utf8.encode (toString n).toList ++ rest) = .numeral (.ofInt n) :: scan rest := by
  cases n with
  | ofNat m =>
    have htext : (toString (Int.ofNat m)).toList = Nat.toDigits 10 m := toList_toString m
    rw [htext]
    exact scan_toDigits m h
  | negSucc m =>
    have htext : (toString (Int.negSucc m)).toList = '-' :: Nat.toDigits 10 (m + 1) := by
      show ("-" ++ toString (m + 1)).toList = _
      rw [String.toList_append, toList_toString]
      rfl
    have hnext : next 0x2D (Utf8.encode (Nat.toDigits 10 (m + 1)) ++ rest) =
        some (.numeral (.ofInt (.negSucc m)), rest) := by
      show (scanNumeral true _).map _ = _
      rw [scanNumeral_toDigits true (m + 1) h]
      rfl
    rw [htext]
    exact scan_of_next rfl hnext

end Json.Token

namespace Json

open Token (Ends)

/-! ## Printed values -/

mutual

/-- The tokens of a printed value. Floating point numbers are left aside. -/
def tokens : Json → List Token
  | .null => [.null]
  | .bool b => [.bool b]
  | .number (.int n) => [.numeral (.ofInt n)]
  | .number (.float _) => [.broken]
  | .text s => [.text (some s)]
  | .array items => .openArray :: itemTokens items
  | .object members => .openObject :: memberTokens members

/-- The tokens of items and the closing bracket. -/
def itemTokens : List Json → List Token
  | [] => [.closeArray]
  | [item] => tokens item ++ [.closeArray]
  | item :: rest => tokens item ++ .comma :: itemTokens rest

/-- The tokens of members and the closing bracket. -/
def memberTokens : List (String × Json) → List Token
  | [] => [.closeObject]
  | [(name, value)] => .text (some name) :: .colon :: tokens value ++ [.closeObject]
  | (name, value) :: rest =>
    .text (some name) :: .colon :: tokens value ++ .comma :: memberTokens rest

end

mutual

/-- A property of every value inside a value, itself included. -/
def all (p : Json → Bool) : Json → Bool
  | .array items => p (.array items) && allItems p items
  | .object members => p (.object members) && allMembers p members
  | j => p j

/-- A property of every value inside some items. -/
def allItems (p : Json → Bool) : List Json → Bool
  | [] => true
  | item :: rest => all p item && allItems p rest

/-- A property of every value inside some members. -/
def allMembers (p : Json → Bool) : List (String × Json) → Bool
  | [] => true
  | (_, value) :: rest => all p value && allMembers p rest

end

mutual

/-- What follows from a property of every value holds of every value. -/
theorem all_mono {p q : Json → Bool} (h : ∀ j, p j = true → q j = true) :
    (j : Json) → j.all p = true → j.all q = true
  | .null, hp => h _ hp
  | .bool _, hp => h _ hp
  | .number _, hp => h _ hp
  | .text _, hp => h _ hp
  | .array items, hp => by
    obtain ⟨hself, hitems⟩ := Bool.and_eq_true_iff.1 hp
    exact Bool.and_eq_true_iff.2 ⟨h _ hself, allItems_mono h items hitems⟩
  | .object members, hp => by
    obtain ⟨hself, hmembers⟩ := Bool.and_eq_true_iff.1 hp
    exact Bool.and_eq_true_iff.2 ⟨h _ hself, allMembers_mono h members hmembers⟩

theorem allItems_mono {p q : Json → Bool} (h : ∀ j, p j = true → q j = true) :
    (items : List Json) → allItems p items = true → allItems q items = true
  | [], _ => rfl
  | item :: rest, hp => by
    obtain ⟨hitem, hrest⟩ := Bool.and_eq_true_iff.1 hp
    exact Bool.and_eq_true_iff.2 ⟨all_mono h item hitem, allItems_mono h rest hrest⟩

theorem allMembers_mono {p q : Json → Bool} (h : ∀ j, p j = true → q j = true) :
    (members : List (String × Json)) → allMembers p members = true → allMembers q members = true
  | [], _ => rfl
  | (_, value) :: rest, hp => by
    obtain ⟨hvalue, hrest⟩ := Bool.and_eq_true_iff.1 hp
    exact Bool.and_eq_true_iff.2 ⟨all_mono h value hvalue, allMembers_mono h rest hrest⟩

end

/-- The value is no floating point number. -/
def isDiscrete : Json → Bool
  | .number (.float _) => false
  | _ => true

theorem ends_cons {b : UInt8} (rest : List UInt8) (hb : Token.goesOn b = false) :
    Ends (b :: rest) := by
  rintro _ ⟨⟩
  exact hb

theorem encode_member (name : String) (value : Json) (tail : List Char) (rest : List UInt8) :
    Utf8.encode (printText name ++ ':' :: value.printChars ++ tail) ++ rest =
      Utf8.encode (printText name) ++
        0x3A :: (Utf8.encode value.printChars ++ (Utf8.encode tail ++ rest)) := by
  rw [List.append_assoc, Utf8.encode_append_append, List.cons_append, Utf8.encode_cons,
    List.append_assoc, Utf8.encode_append_append]
  rfl

mutual

/-- **A printed value is its tokens**, in front of anything that does not go on with a numeral. -/
theorem scan_printChars : (j : Json) → j.all isDiscrete = true → (rest : List UInt8) → Ends rest →
    Token.scan (Utf8.encode j.printChars ++ rest) = j.tokens ++ Token.scan rest
  | .null, _, _, _ => Token.scan_of_next rfl rfl
  | .bool true, _, _, _ => Token.scan_of_next rfl rfl
  | .bool false, _, _, _ => Token.scan_of_next rfl rfl
  | .number (.int n), _, _, h => Token.scan_int n h
  | .number (.float _), hp, _, _ => nomatch hp
  | .text s, _, rest, _ => Token.scan_text s rest
  | .array items, hp, rest, _ => by
    have hopen : Utf8.encode (Json.array items).printChars ++ rest =
        0x5B :: (Utf8.encode (printItems items) ++ rest) := rfl
    rw [hopen, Token.scan_mark (t := .openArray) rfl, scan_printItems items hp rest]
    rfl
  | .object members, hp, rest, _ => by
    have hopen : Utf8.encode (Json.object members).printChars ++ rest =
        0x7B :: (Utf8.encode (printMembers members) ++ rest) := rfl
    rw [hopen, Token.scan_mark (t := .openObject) rfl, scan_printMembers members hp rest]
    rfl

/-- Items are read value by value, each up to its comma or the bracket. -/
theorem scan_printItems : (items : List Json) → allItems isDiscrete items = true →
    (rest : List UInt8) →
      Token.scan (Utf8.encode (printItems items) ++ rest) = itemTokens items ++ Token.scan rest
  | [], _, _ => Token.scan_mark rfl
  | [item], hp, rest => by
    have hitem : item.all isDiscrete = true := (Bool.and_eq_true_iff.1 hp).1
    have hbytes : Utf8.encode (printItems [item]) ++ rest =
        Utf8.encode item.printChars ++ 0x5D :: rest := Utf8.encode_append_append _ [']'] rest
    have htokens : itemTokens [item] = item.tokens ++ [.closeArray] := rfl
    rw [hbytes, scan_printChars item hitem _ (ends_cons rest rfl),
      Token.scan_mark (t := .closeArray) rfl, htokens, List.append_assoc]
    rfl
  | item :: next :: more, hp, rest => by
    obtain ⟨hitem, hmore⟩ := Bool.and_eq_true_iff.1 hp
    have hbytes : Utf8.encode (printItems (item :: next :: more)) ++ rest =
        Utf8.encode item.printChars ++
          0x2C :: (Utf8.encode (printItems (next :: more)) ++ rest) :=
      Utf8.encode_append_append _ (',' :: printItems (next :: more)) rest
    have htokens : itemTokens (item :: next :: more) =
        item.tokens ++ .comma :: itemTokens (next :: more) := rfl
    rw [hbytes, scan_printChars item hitem _ (ends_cons _ rfl),
      Token.scan_mark (t := .comma) rfl, scan_printItems (next :: more) hmore rest, htokens,
      List.append_assoc]
    rfl

/-- So are members, each behind its name. -/
theorem scan_printMembers : (members : List (String × Json)) → allMembers isDiscrete members = true →
    (rest : List UInt8) →
      Token.scan (Utf8.encode (printMembers members) ++ rest) =
        memberTokens members ++ Token.scan rest
  | [], _, _ => Token.scan_mark rfl
  | [(name, value)], hp, rest => by
    have hvalue : value.all isDiscrete = true := (Bool.and_eq_true_iff.1 hp).1
    have hbytes : Utf8.encode (printMembers [(name, value)]) ++ rest =
        Utf8.encode (printText name) ++ 0x3A :: (Utf8.encode value.printChars ++ 0x7D :: rest) :=
      encode_member name value ['\x7d'] rest
    have htokens : memberTokens [(name, value)] =
        .text (some name) :: .colon :: (value.tokens ++ [.closeObject]) := rfl
    rw [hbytes, Token.scan_text, Token.scan_mark (t := .colon) rfl,
      scan_printChars value hvalue _ (ends_cons rest rfl),
      Token.scan_mark (t := .closeObject) rfl, htokens]
    simp only [List.cons_append, List.append_assoc, List.nil_append]
  | (name, value) :: next :: more, hp, rest => by
    obtain ⟨hvalue, hmore⟩ := Bool.and_eq_true_iff.1 hp
    have hbytes : Utf8.encode (printMembers ((name, value) :: next :: more)) ++ rest =
        Utf8.encode (printText name) ++ 0x3A :: (Utf8.encode value.printChars ++
          0x2C :: (Utf8.encode (printMembers (next :: more)) ++ rest)) :=
      encode_member name value (',' :: printMembers (next :: more)) rest
    have htokens : memberTokens ((name, value) :: next :: more) =
        .text (some name) :: .colon :: (value.tokens ++ .comma :: memberTokens (next :: more)) := rfl
    rw [hbytes, Token.scan_text, Token.scan_mark (t := .colon) rfl,
      scan_printChars value hvalue _ (ends_cons _ rfl), Token.scan_mark (t := .comma) rfl,
      scan_printMembers (next :: more) hmore rest, htokens]
    simp only [List.cons_append, List.append_assoc]

end

end Json

end Brokerage
