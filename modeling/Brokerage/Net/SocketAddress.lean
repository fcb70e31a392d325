/-!
# Socket addresses

* `SocketAddress`: an IPv4 or IPv6 address with a port.
* `SocketAddress.parse?`: reads the written form, the whole of it.
* `SocketAddress.render`: the one form an address is printed in: IPv6 groups in lower case without
  leading zeros, the first of the longest runs of two or more zero groups as `::`, the dotted form
  for mapped IPv4 addresses only, the scope where it is not zero.
-/

namespace Brokerage.Net

/-- An IPv4 address. -/
structure IPv4 where
  a : UInt8
  b : UInt8
  c : UInt8
  d : UInt8
deriving DecidableEq, Repr

/-- An IPv6 address, as its eight groups. -/
structure IPv6 where
  groups : Vector UInt16 8
deriving DecidableEq, Repr

/-- An address and a port. The scope of an IPv6 address tells links apart. -/
inductive SocketAddress where
  | v4 (ip : IPv4) (port : UInt16)
  | v6 (ip : IPv6) (scope : UInt32) (port : UInt16)
deriving DecidableEq, Repr

namespace SocketAddress

/-! ## Reading

A reader takes characters from the front and gives what it read with the rest, or nothing. -/

/-- A reader of an `α`. -/
abbrev Reader (α : Type) := List Char → Option (α × List Char)

/-- The value of a digit of base at most 16, of either case. -/
def digit? (base : Nat) (c : Char) : Option Nat :=
  let n :=
    if '0' ≤ c ∧ c ≤ '9' then c.toNat - '0'.toNat
    else if 'a' ≤ c ∧ c ≤ 'f' then c.toNat - 'a'.toNat + 10
    else if 'A' ≤ c ∧ c ≤ 'F' then c.toNat - 'A'.toNat + 10
    else 16
  if n < base then some n else none

/-- The number that digits write. -/
def natOf (base : Nat) (digits : List Nat) : Nat := digits.foldl (fun n d => n * base + d) 0

/-- The digits at the front, and the rest. -/
def takeDigits (base : Nat) : List Char → List Nat × List Char
  | [] => ([], [])
  | c :: rest =>
    match digit? base c with
    | some d => (d :: (takeDigits base rest).1, (takeDigits base rest).2)
    | none => ([], c :: rest)

/-- Reads a number below `bound`: all digits at the front, at least one and at most `most`. -/
def number (base bound : Nat) (most : Option Nat) : Reader Nat := fun s =>
  let (ds, rest) := takeDigits base s
  if ds = [] then none
  else if most.any (· < ds.length) then none
  else if bound ≤ natOf base ds then none
  else some (natOf base ds, rest)

/-- Reads one character. -/
def char (c : Char) : Reader Unit
  | [] => none
  | x :: rest => if x = c then some ((), rest) else none

/-- Reads a number of an IPv4 address: at most 255, without leading zeros. -/
def octet : Reader UInt8 := fun s =>
  match takeDigits 10 s with
  | (0 :: _ :: _, _) => none
  | _ => (number 10 256 (some 3) s).map fun (n, rest) => (.ofNat n, rest)

/-- Reads an IPv4 address. -/
def ipv4 : Reader IPv4 := fun s => do
  let (a, s) ← octet s
  let (_, s) ← char '.' s
  let (b, s) ← octet s
  let (_, s) ← char '.' s
  let (c, s) ← octet s
  let (_, s) ← char '.' s
  let (d, s) ← octet s
  pure (⟨a, b, c, d⟩, s)

/-- The two groups an IPv4 address takes at the end of an IPv6 address. -/
def IPv4.groups (ip : IPv4) : List UInt16 :=
  [ip.a.toUInt16 * 256 + ip.b.toUInt16, ip.c.toUInt16 * 256 + ip.d.toUInt16]

/-- Reads a group. -/
def group : Reader UInt16 := fun s =>
  (number 16 65536 (some 4) s).map fun (n, rest) => (.ofNat n, rest)

/-- Reads up to `most` groups, divided by colons; an IPv4 address may take the place of two and
ends them. Also whether one did. -/
def groups (first : Bool) : (most : Nat) → List Char → List UInt16 × Bool × List Char
  | 0, s => ([], false, s)
  | most + 1, s =>
    let start := if first then some s else (char ':' s).map (·.2)
    let dotted := if most = 0 then none else start.bind ipv4
    match dotted with
    | some (ip, rest) => (IPv4.groups ip, true, rest)
    | none =>
      match start.bind group with
      | some (g, rest) =>
        let (gs, dotted, rest) := groups false most rest
        (g :: gs, dotted, rest)
      | none => ([], false, s)

/-- The address of eight groups. -/
def IPv6.ofList? (gs : List UInt16) : Option IPv6 :=
  if h : gs.toArray.size = 8 then some ⟨⟨gs.toArray, h⟩⟩ else none

/-- Reads an IPv6 address. Two colons stand for one zero group at least. -/
def ipv6 : Reader IPv6 := fun s =>
  match groups true 8 s with
  | (head, dotted, rest) =>
    if head.length = 8 then (IPv6.ofList? head).map (·, rest)
    else if dotted then none
    else do
      let (_, rest) ← char ':' rest
      let (_, rest) ← char ':' rest
      let (tail, _, rest) := groups true (7 - head.length) rest
      let zeros := List.replicate (8 - head.length - tail.length) 0
      (IPv6.ofList? (head ++ zeros ++ tail)).map (·, rest)

/-- Reads a colon and a port. -/
def port : Reader UInt16 := fun s => do
  let (_, s) ← char ':' s
  let (n, s) ← number 10 65536 none s
  pure (.ofNat n, s)

/-- Reads a scope; none given is zero. -/
def scope : Reader UInt32 := fun s =>
  match (char '%' s).bind fun (_, rest) => number 10 4294967296 none rest with
  | some (n, rest) => some (.ofNat n, rest)
  | none => some (0, s)

/-- Reads an address of either kind. -/
def address : Reader SocketAddress := fun s =>
  let dotted : Option (SocketAddress × List Char) := do
    let (ip, s) ← ipv4 s
    let (p, s) ← port s
    pure (.v4 ip p, s)
  match dotted with
  | some r => some r
  | none => do
    let (_, s) ← char '[' s
    let (ip, s) ← ipv6 s
    let (sc, s) ← scope s
    let (_, s) ← char ']' s
    let (p, s) ← port s
    pure (.v6 ip sc p, s)

/-- **Reading an address**: nothing may be left over. -/
def parse? (s : String) : Option SocketAddress :=
  match address s.toList with
  | some (a, []) => some a
  | _ => none

/-! ## Printing -/

/-- The dotted form. -/
def renderIPv4 (ip : IPv4) : List Char :=
  (toString ip.a.toNat).toList ++ ['.'] ++ (toString ip.b.toNat).toList ++ ['.'] ++
    (toString ip.c.toNat).toList ++ ['.'] ++ (toString ip.d.toNat).toList

/-- A group in lower case without leading zeros. -/
def renderGroup (g : UInt16) : List Char := Nat.toDigits 16 g.toNat

/-- Groups divided by colons. -/
def renderGroups (gs : List UInt16) : List Char :=
  [':'].intercalate (gs.map renderGroup)

/-- The number of zero groups at the front. -/
def zeroRun (gs : List UInt16) : Nat := (gs.takeWhile (· == 0)).length

/-- Start and length of the first longest run of zero groups, at offsets from `i` on. -/
def longestRun (i : Nat) : List UInt16 → Nat × Nat
  | [] => (i, 0)
  | g :: rest =>
    let later := longestRun (i + 1) rest
    let here := zeroRun (g :: rest)
    if later.2 ≤ here then (i, here) else later

/-- The IPv4 address that an IPv6 address maps. -/
def mapped? (ip : IPv6) : Option IPv4 :=
  match ip.groups.toList with
  | [0, 0, 0, 0, 0, 0xFFFF, x, y] =>
    some ⟨(x / 256).toUInt8, (x % 256).toUInt8, (y / 256).toUInt8, (y % 256).toUInt8⟩
  | _ => none

/-- The groups of an IPv6 address, its longest run of zeros cut short. -/
def renderIPv6 (ip : IPv6) : List Char :=
  match mapped? ip with
  | some ip4 => "::ffff:".toList ++ renderIPv4 ip4
  | none =>
    let gs := ip.groups.toList
    let (start, size) := longestRun 0 gs
    if 1 < size then
      renderGroups (gs.take start) ++ [':', ':'] ++ renderGroups (gs.drop (start + size))
    else renderGroups gs

/-- **The printed form of an address.** -/
def render : SocketAddress → String
  | .v4 ip p => String.ofList (renderIPv4 ip ++ [':'] ++ (toString p.toNat).toList)
  | .v6 ip sc p =>
    let scope := if sc = 0 then [] else '%' :: (toString sc.toNat).toList
    String.ofList (['['] ++ renderIPv6 ip ++ scope ++ [']', ':'] ++ (toString p.toNat).toList)

end SocketAddress

end Brokerage.Net
