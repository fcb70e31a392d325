/-!
# Text as bytes

UTF-8 in both directions, over lists of bytes.

* `Utf8.encode`: the bytes of a text.
* `Utf8.scan`: reads bytes one at a time and reports, in order, each character and each
  ill-formed run (a longest start of a character that the next byte does not go on with, or one
  byte that starts none).
* `Utf8.decode?`: the text of bytes that hold nothing ill-formed.
* `Utf8.decodeLossy`: the text of any bytes, one replacement character for each ill-formed run.
-/

namespace Brokerage.Utf8

/-- The bytes of one character, by the size of its code point. -/
def encodeChar (c : Char) : List UInt8 :=
  let n := c.toNat
  if n < 0x80 then [.ofNat n]
  else if n < 0x800 then [.ofNat (0xC0 + n / 0x40), .ofNat (0x80 + n % 0x40)]
  else if n < 0x10000 then
    [.ofNat (0xE0 + n / 0x1000), .ofNat (0x80 + n / 0x40 % 0x40), .ofNat (0x80 + n % 0x40)]
  else
    [.ofNat (0xF0 + n / 0x40000), .ofNat (0x80 + n / 0x1000 % 0x40),
      .ofNat (0x80 + n / 0x40 % 0x40), .ofNat (0x80 + n % 0x40)]

/-- The bytes of a text, character after character. -/
def encode (cs : List Char) : List UInt8 := cs.flatMap encodeChar

/-- Where the reader stands inside a character: how many continuation bytes are owed, the range
the next one lies in, and the bits read so far. -/
structure Pending where
  owed : Nat
  low : Nat
  high : Nat
  bits : Nat
deriving DecidableEq, Repr

/-- What a byte between characters starts. -/
inductive Start where
  /-- A whole character. -/
  | char (c : Char)
  /-- The first byte of a longer character. -/
  | pending (p : Pending)
  /-- Nothing. -/
  | illFormed

/-- **First bytes.** The range of the second byte keeps out overlong forms, surrogates and code
points above `0x10FFFF`. -/
def start (b : UInt8) : Start :=
  let n := b.toNat
  if n < 0x80 then .char (.ofNat n)
  else if n < 0xC2 then .illFormed
  else if n < 0xE0 then .pending ⟨1, 0x80, 0xBF, n - 0xC0⟩
  else if n = 0xE0 then .pending ⟨2, 0xA0, 0xBF, 0⟩
  else if n = 0xED then .pending ⟨2, 0x80, 0x9F, 0xD⟩
  else if n < 0xF0 then .pending ⟨2, 0x80, 0xBF, n - 0xE0⟩
  else if n = 0xF0 then .pending ⟨3, 0x90, 0xBF, 0⟩
  else if n < 0xF4 then .pending ⟨3, 0x80, 0xBF, n - 0xF0⟩
  else if n = 0xF4 then .pending ⟨3, 0x80, 0x8F, 4⟩
  else .illFormed

/-- A byte between characters: what it shows, and what stays open. -/
def begin (b : UInt8) : List (Option Char) × Option Pending :=
  match start b with
  | .char c => ([some c], none)
  | .pending p => ([], some p)
  | .illFormed => ([none], none)

/-- One byte. An ill-formed run shows as `none`; the byte that breaks a character off is read
again as a first byte. -/
def step : Option Pending → UInt8 → List (Option Char) × Option Pending
  | none, b => begin b
  | some p, b =>
    if p.low ≤ b.toNat ∧ b.toNat ≤ p.high then
      let bits := p.bits * 0x40 + (b.toNat - 0x80)
      if p.owed = 1 then ([some (.ofNat bits)], none)
      else ([], some ⟨p.owed - 1, 0x80, 0xBF, bits⟩)
    else (none :: (begin b).1, (begin b).2)

/-- The characters and ill-formed runs of the bytes, from a reader that stands at `open?`. -/
def scan : (open? : Option Pending) → List UInt8 → List (Option Char)
  | none, [] => []
  | some _, [] => [none]
  | p, b :: rest => (step p b).1 ++ scan (step p b).2 rest

/-- The text of the bytes, if they are well-formed throughout. -/
def decode? (bytes : List UInt8) : Option (List Char) := (scan none bytes).mapM id

/-- The text of the bytes, with U+FFFD for each ill-formed run. -/
def decodeLossy (bytes : List UInt8) : List Char := (scan none bytes).map (·.getD '\uFFFD')

end Brokerage.Utf8
