import Brokerage.Text.Utf8
import Brokerage.Number.Numeral

/-!
# Tokens of a JSON text

* `Token`: brackets, commas, colons, words, numerals and texts, and `broken`, the place where the
  text is no JSON.
* `Token.scan`: the tokens of a text given as bytes, up to the first broken place.

A text token keeps its content only where the content is text: an unpaired surrogate or bytes that
are not UTF-8 leave a token without content, which matters only where the content is wanted.
-/

namespace Brokerage.Json

/-- A token. -/
inductive Token where
  | openArray
  | closeArray
  | openObject
  | closeObject
  | comma
  | colon
  | null
  | bool (b : Bool)
  | numeral (n : Numeral)
  /-- A text with its content, none where that is no text. -/
  | text (content : Option String)
  /-- The text is no JSON from here on. -/
  | broken
deriving DecidableEq, Repr

namespace Token

/-- A byte that separates tokens. -/
def isSpace (b : UInt8) : Bool := b == 0x20 || b == 0x0A || b == 0x0D || b == 0x09

/-- The byte of a decimal digit. -/
def isDigit (b : UInt8) : Bool := 0x30 ≤ b && b ≤ 0x39

/-- The value of a hexadecimal digit, of either case. -/
def hexValue? (b : UInt8) : Option Nat :=
  let n := b.toNat
  if 0x30 ≤ n ∧ n ≤ 0x39 then some (n - 0x30)
  else if 0x41 ≤ n ∧ n ≤ 0x46 then some (n - 0x41 + 10)
  else if 0x61 ≤ n ∧ n ≤ 0x66 then some (n - 0x61 + 10)
  else none

/-- The value of four hexadecimal digits. -/
def hex4? (a b c d : UInt8) : Option Nat := do
  let a ← hexValue? a
  let b ← hexValue? b
  let c ← hexValue? c
  let d ← hexValue? d
  pure (((a * 16 + b) * 16 + c) * 16 + d)

/-! ## Texts -/

/-- A part of a text's content: a byte as it stands, or a UTF-16 unit given by number. -/
inductive Piece where
  | byte (b : UInt8)
  | unit (n : Nat)
deriving DecidableEq, Repr

/-- The byte a one-letter escape stands for. -/
def escape? (b : UInt8) : Option UInt8 :=
  if b = 0x22 ∨ b = 0x5C ∨ b = 0x2F then some b
  else if b = 0x62 then some 0x08
  else if b = 0x66 then some 0x0C
  else if b = 0x6E then some 0x0A
  else if b = 0x72 then some 0x0D
  else if b = 0x74 then some 0x09
  else none

/-- Reads a text from behind its opening mark: its pieces, and what follows its closing mark. None
for a text that does not end, a bare control character or an unknown escape. -/
def scanText : List UInt8 → Option (List Piece × List UInt8)
  | [] => none
  | 0x22 :: rest => some ([], rest)
  | 0x5C :: 0x75 :: a :: b :: c :: d :: rest => do
    let n ← hex4? a b c d
    let (ps, rest) ← scanText rest
    pure (.unit n :: ps, rest)
  | 0x5C :: e :: rest => do
    let b ← escape? e
    let (ps, rest) ← scanText rest
    pure (.byte b :: ps, rest)
  | b :: rest =>
    if b < 0x20 ∨ b = 0x5C then none
    else do
      let (ps, rest) ← scanText rest
      pure (.byte b :: ps, rest)

/-- A unit that opens a surrogate pair. -/
def isLeading (n : Nat) : Bool := 0xD800 ≤ n && n < 0xDC00

/-- A unit that closes a surrogate pair. -/
def isTrailing (n : Nat) : Bool := 0xDC00 ≤ n && n < 0xE000

/-- The bytes of a text's pieces, if every surrogate is paired. -/
def pieceBytes? : List Piece → Option (List UInt8)
  | [] => some []
  | .byte b :: rest => (pieceBytes? rest).map (b :: ·)
  | .unit n :: .unit m :: rest =>
    if isLeading n then
      if isTrailing m then
        (pieceBytes? rest).map
          (Utf8.encodeChar (.ofNat (0x10000 + (n - 0xD800) * 0x400 + (m - 0xDC00))) ++ ·)
      else none
    else if isTrailing n then none
    else (pieceBytes? (.unit m :: rest)).map (Utf8.encodeChar (.ofNat n) ++ ·)
  | .unit n :: rest =>
    if isLeading n ∨ isTrailing n then none
    else (pieceBytes? rest).map (Utf8.encodeChar (.ofNat n) ++ ·)

/-- The content of a text's pieces. -/
def content? (ps : List Piece) : Option String :=
  ((pieceBytes? ps).bind Utf8.decode?).map String.ofList

/-! ## Numerals -/

/-- The digits at the front, and what follows them. -/
def takeDigits (s : List UInt8) : List Nat × List UInt8 :=
  ((s.takeWhile isDigit).map (·.toNat - 0x30), s.dropWhile isDigit)

/-- The sign of an exponent (true for minus), and what follows it. -/
def takeSign : List UInt8 → Bool × List UInt8
  | 0x2B :: rest => (false, rest)
  | 0x2D :: rest => (true, rest)
  | rest => (false, rest)

/-- Reads the exponent of a numeral, if there is one; none for an exponent without digits. -/
def scanExponent : List UInt8 → Option (Option (Bool × List Nat) × List UInt8)
  | [] => some (none, [])
  | e :: rest =>
    if e = 0x65 ∨ e = 0x45 then
      match takeDigits (takeSign rest).2 with
      | ([], _) => none
      | (ds, tail) => some (some ((takeSign rest).1, ds), tail)
    else some (none, e :: rest)

/-- Reads the fraction of a numeral, if there is one; none for a point without digits. -/
def scanFraction : List UInt8 → Option (Option (List Nat) × List UInt8)
  | 0x2E :: rest =>
    match takeDigits rest with
    | ([], _) => none
    | (ds, rest) => some (some ds, rest)
  | rest => some (none, rest)

/-- Reads a numeral behind its sign. A zero in front of another digit is no numeral. -/
def scanNumeral (negative : Bool) (s : List UInt8) : Option (Numeral × List UInt8) :=
  match takeDigits s with
  | ([], _) => none
  | (d :: ds, rest) =>
    if d = 0 ∧ ds ≠ [] then none
    else do
      let (fraction, rest) ← scanFraction rest
      let (exponent, rest) ← scanExponent rest
      pure (⟨negative, d :: ds, fraction, exponent⟩, rest)

/-! ## All tokens -/

/-- The token of a single byte. -/
def mark? (b : UInt8) : Option Token :=
  if b = 0x5B then some .openArray
  else if b = 0x5D then some .closeArray
  else if b = 0x7B then some .openObject
  else if b = 0x7D then some .closeObject
  else if b = 0x2C then some .comma
  else if b = 0x3A then some .colon
  else none

/-- Reads one of the three words. -/
def scanWord : List UInt8 → Option (Token × List UInt8)
  | 0x6E :: 0x75 :: 0x6C :: 0x6C :: rest => some (.null, rest)
  | 0x74 :: 0x72 :: 0x75 :: 0x65 :: rest => some (.bool true, rest)
  | 0x66 :: 0x61 :: 0x6C :: 0x73 :: 0x65 :: rest => some (.bool false, rest)
  | _ => none

/-- One token and what follows it, from a byte that is no space. -/
def next (b : UInt8) (rest : List UInt8) : Option (Token × List UInt8) :=
  match mark? b with
  | some t => some (t, rest)
  | none =>
    if b = 0x22 then (scanText rest).map fun (ps, rest) => (.text (content? ps), rest)
    else if b = 0x2D then (scanNumeral true rest).map fun (n, rest) => (.numeral n, rest)
    else if isDigit b then
      (scanNumeral false (b :: rest)).map fun (n, rest) => (.numeral n, rest)
    else scanWord (b :: rest)

/-- A text ends behind its start. -/
theorem length_scanText {s : List UInt8} {ps : List Piece} {rest : List UInt8}
    (h : scanText s = some (ps, rest)) : rest.length ≤ s.length := by
  fun_induction scanText s generalizing ps rest with
  | case1 => simp at h
  | case2 => grind
  | case3 => simp only [Option.bind_eq_bind, Option.bind_eq_some_iff] at h; grind
  | case4 => simp only [Option.bind_eq_bind, Option.bind_eq_some_iff] at h; grind
  | case5 => simp at h
  | case6 => simp only [Option.bind_eq_bind, Option.bind_eq_some_iff] at h; grind

/-- Digits end behind their start. -/
theorem length_takeDigits (s : List UInt8) : (takeDigits s).2.length ≤ s.length :=
  (List.dropWhile_suffix _).length_le

/-- Digits that are there take a byte at least. -/
theorem length_takeDigits_lt {s : List UInt8} {d : Nat} {ds : List Nat} {rest : List UInt8}
    (h : takeDigits s = (d :: ds, rest)) : rest.length < s.length := by
  have hs := congrArg List.length (List.takeWhile_append_dropWhile (p := isDigit) (l := s))
  simp only [takeDigits, Prod.mk.injEq] at h
  have h1 := congrArg List.length h.1
  simp only [List.length_map, List.length_cons, List.length_append] at h1 hs
  rw [← h.2]
  omega

/-- A fraction ends behind its start. -/
theorem length_scanFraction {s rest : List UInt8} {f : Option (List Nat)}
    (h : scanFraction s = some (f, rest)) : rest.length ≤ s.length := by
  unfold scanFraction at h
  split at h
  · have := length_takeDigits (by assumption)
    split at h <;> grind
  · grind

/-- A sign ends behind its start. -/
theorem length_takeSign (s : List UInt8) : (takeSign s).2.length ≤ s.length := by
  unfold takeSign
  split <;> simp

/-- An exponent ends behind its start. -/
theorem length_scanExponent {s rest : List UInt8} {e : Option (Bool × List Nat)}
    (h : scanExponent s = some (e, rest)) : rest.length ≤ s.length := by
  cases s with
  | nil => simp_all [scanExponent]
  | cons b r =>
    have hs := length_takeSign r
    have hd := length_takeDigits (takeSign r).2
    simp only [scanExponent] at h
    split at h
    · split at h
      · simp at h
      · simp only [Option.some.injEq, Prod.mk.injEq] at h
        rename_i hds
        rw [hds] at hd
        rw [← h.2, List.length_cons]
        exact Nat.le_succ_of_le (Nat.le_trans hd hs)
    · simp only [Option.some.injEq, Prod.mk.injEq] at h
      exact Nat.le_of_eq (congrArg List.length h.2.symm)

/-- A numeral takes a byte at least. -/
theorem length_scanNumeral {neg : Bool} {s rest : List UInt8} {n : Numeral}
    (h : scanNumeral neg s = some (n, rest)) : rest.length < s.length := by
  unfold scanNumeral at h
  split at h
  · simp at h
  · rename_i d ds r hds
    split at h
    · simp at h
    · simp only [Option.bind_eq_bind, Option.bind_eq_some_iff] at h
      obtain ⟨⟨f, r1⟩, hf, ⟨e, r2⟩, he, hr⟩ := h
      simp only [Option.pure_def, Option.some.injEq, Prod.mk.injEq] at hr
      rw [← hr.2]
      exact Nat.lt_of_le_of_lt (Nat.le_trans (length_scanExponent he) (length_scanFraction hf))
        (length_takeDigits_lt hds)

/-- A word takes a byte at least. -/
theorem length_scanWord {s rest : List UInt8} {t : Token}
    (h : scanWord s = some (t, rest)) : rest.length < s.length := by
  unfold scanWord at h
  split at h <;> simp at h <;> simp only [← h.2, List.length_cons] <;> omega

/-- A token takes a byte at least. -/
theorem length_next {b : UInt8} {rest tail : List UInt8} {t : Token}
    (h : next b rest = some (t, tail)) : tail.length ≤ rest.length := by
  unfold next at h
  split at h
  · simp only [Option.some.injEq, Prod.mk.injEq] at h
    exact Nat.le_of_eq (congrArg List.length h.2.symm)
  · split at h
    · simp only [Option.map_eq_some_iff, Prod.mk.injEq] at h
      obtain ⟨⟨ps, r⟩, hp, -, rfl⟩ := h
      exact length_scanText hp
    · split at h
      · simp only [Option.map_eq_some_iff, Prod.mk.injEq] at h
        obtain ⟨⟨n, r⟩, hn, -, rfl⟩ := h
        exact Nat.le_of_lt (length_scanNumeral hn)
      · split at h
        · simp only [Option.map_eq_some_iff, Prod.mk.injEq] at h
          obtain ⟨⟨n, r⟩, hn, -, rfl⟩ := h
          exact Nat.le_of_lt_succ (length_scanNumeral hn)
        · exact Nat.le_of_lt_succ (length_scanWord h)

/-- The tokens of a text up to its first broken place. -/
def scan : List UInt8 → List Token
  | [] => []
  | b :: rest =>
    if isSpace b then scan rest
    else
      match h : next b rest with
      | some (t, tail) =>
        have := length_next h
        t :: scan tail
      | none => [.broken]
termination_by s => s.length
decreasing_by all_goals simp only [List.length_cons]; omega

end Token

end Brokerage.Json
