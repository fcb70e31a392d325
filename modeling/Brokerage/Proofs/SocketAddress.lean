import Brokerage.Net.SocketAddress

/-!
# Socket addresses are read back

An address is printed in one of many forms that would be read as the same address: groups without
leading zeros, one run of zeros cut short, the dotted form at the end where it is mapped. Every reader
takes the text of its part and stops where the part ends.

* `SocketAddress.Spells`: the digits of a number, without a leading zero.
* `number_toDigits`, `octet_render`, `group_render`: **a number is read back** in front of what is no
  digit.
* `groups_spell`: so are groups divided by colons; an IPv4 address is not seen among them.
* `longestRun_spec`: what is cut short is a run of zeros.
* `ipv4_render`, `ipv6_render`: **an address is read back**, and with its port and scope
  `parse?_render`.
-/

namespace Brokerage.Net.SocketAddress

variable {b : Nat} {rest : List Char}

/-! ## Digits -/

/-- The text does not go on with a digit. -/
def Ends (b : Nat) (rest : List Char) : Prop := ∀ c ∈ rest.head?, digit? b c = none

theorem ends_cons {c : Char} (h : digit? b c = none) : Ends b (c :: rest) := by
  rintro _ ⟨⟩
  exact h

/-- What is no hexadecimal digit is no decimal one. -/
theorem Ends.decimal (h : Ends 16 rest) : Ends 10 rest := by
  intro c hc
  have hhex := h c hc
  unfold digit? at hhex ⊢
  generalize (if '0' ≤ c ∧ c ≤ '9' then c.toNat - '0'.toNat
    else if 'a' ≤ c ∧ c ≤ 'f' then c.toNat - 'a'.toNat + 10
    else if 'A' ≤ c ∧ c ≤ 'F' then c.toNat - 'A'.toNat + 10
    else 16) = n at hhex ⊢
  by_cases hn : n < 10
  · simp [Nat.lt_trans hn (by decide : 10 < 16)] at hhex
  · simp [hn]

theorem digit?_digitChar {d : Nat} (hb : b ≤ 16) (hd : d < b) :
    digit? b (Nat.digitChar d) = some d := by
  have hall : ∀ b ≤ 16, ∀ d < b, digit? b (Nat.digitChar d) = some d := by decide
  exact hall b hb d hd

/-- **Digits are read** up to what is no digit. -/
theorem takeDigits_append (hb : b ≤ 16) {ds : List Nat} (hds : ∀ d ∈ ds, d < b)
    (hrest : Ends b rest) : takeDigits b (ds.map Nat.digitChar ++ rest) = (ds, rest) := by
  induction ds with
  | nil =>
    cases rest with
    | nil => rfl
    | cons c rest =>
      have hc := hrest c rfl
      rw [List.map_nil, List.nil_append, takeDigits, hc]
  | cons d ds ih =>
    obtain ⟨hd, hds⟩ := List.forall_mem_cons.1 hds
    rw [List.map_cons, List.cons_append, takeDigits, digit?_digitChar hb hd, ih hds]

/-- **The digits of a number**: those that are printed, none of them a leading zero. -/
structure Spells (b n : Nat) (ds : List Nat) : Prop where
  toDigits : Nat.toDigits b n = ds.map Nat.digitChar
  natOf : natOf b ds = n
  lt : ∀ d ∈ ds, d < b
  leading : ∀ more, ds = 0 :: more → more = []

theorem exists_spells (hb : 1 < b) (n : Nat) : ∃ ds, Spells b n ds := by
  -- the digits of a number are those of its quotient by the base, and its remainder
  induction n using Nat.strongRecOn with
  | ind n ih =>
    by_cases hn : n < b
    · refine ⟨[n], Nat.toDigits_of_lt_base hn, ?_, ?_, ?_⟩
      · show 0 * b + n = n
        rw [Nat.zero_mul, Nat.zero_add]
      · simpa using hn
      · rintro more ⟨⟩
        rfl
    · have hle : b ≤ n := Nat.le_of_not_lt hn
      have hquot : 0 < n / b := Nat.div_pos hle (by omega)
      obtain ⟨ds, hds⟩ := ih (n / b) (Nat.div_lt_self (by omega) hb)
      refine ⟨ds ++ [n % b], ?_, ?_, ?_, ?_⟩
      · rw [Nat.toDigits_of_base_le hb hle, hds.toDigits, List.map_append]
        rfl
      · unfold natOf
        rw [List.foldl_append]
        show natOf b ds * b + n % b = n
        rw [hds.natOf, Nat.mul_comm, Nat.div_add_mod]
      · intro d hd
        obtain hd | hd := List.mem_append.1 hd
        · exact hds.lt d hd
        · rw [List.mem_singleton.1 hd]
          exact Nat.mod_lt n (by omega)
      · intro more hmore
        -- a leading zero would be one of the quotient, which is positive
        cases ds with
        | nil =>
          have hnat := hds.natOf
          have : (0 : Nat) = n / b := hnat
          omega
        | cons d ds =>
          obtain ⟨rfl, -⟩ := List.cons.inj hmore
          have hnil := hds.leading ds rfl
          have hnat := hds.natOf
          rw [hnil] at hnat
          have : (0 : Nat) * b + 0 = n / b := hnat
          omega

/-- **A number is read back** in front of what is no digit. -/
theorem number_toDigits {n bound : Nat} {most : Option Nat} (hb : 1 < b) (hb' : b ≤ 16)
    (hn : n < bound) (hmost : ∀ m ∈ most, (Nat.toDigits b n).length ≤ m) (hrest : Ends b rest) :
    number b bound most (Nat.toDigits b n ++ rest) = some (n, rest) := by
  obtain ⟨ds, hds⟩ := exists_spells hb n
  have hne : ds ≠ [] := fun hnil => by
    have hdigits := hds.toDigits
    rw [hnil] at hdigits
    exact Nat.toDigits_ne_nil hdigits
  have hlength : ¬most.any (· < ds.length) = true := by
    cases most with
    | none => exact Bool.false_ne_true
    | some m =>
      have hm := hmost m rfl
      rw [hds.toDigits, List.length_map] at hm
      simpa using hm
  unfold number
  rw [hds.toDigits, takeDigits_append hb' hds.lt hrest]
  simp only [if_neg hne, if_neg hlength, hds.natOf, if_neg (Nat.not_le.2 hn)]

/-- What is left behind a number stands behind its digits. -/
theorem number_eq_some {bound n : Nat} {most : Option Nat} {s more : List Char}
    (h : number b bound most s = some (n, more)) : more = (takeDigits b s).2 := by
  unfold number at h
  simp only [Option.ite_none_left_eq_some, Option.some.injEq, Prod.mk.injEq] at h
  exact h.2.2.2.2.symm

theorem number_of_ends {bound : Nat} {most : Option Nat} (h : Ends b rest) :
    number b bound most rest = none := by
  have hnone : takeDigits b rest = ([], rest) := by
    cases rest with
    | nil => rfl
    | cons c rest => rw [takeDigits, h c rfl]
  unfold number
  rw [hnone]
  rfl

theorem char_self (c : Char) : char c (c :: rest) = some ((), rest) := if_pos rfl

theorem char_eq_none {c : Char} (h : ∀ x ∈ rest.head?, x ≠ c) : char c rest = none := by
  cases rest with
  | nil => rfl
  | cons x rest => exact if_neg (h x rfl)

theorem char_eq_some {c : Char} {s : List Char} {read : Unit × List Char}
    (h : char c s = some read) : s = c :: read.2 := by
  cases s with
  | nil => cases h
  | cons x s =>
    unfold char at h
    simp only [Option.ite_none_right_eq_some, Option.some.injEq] at h
    obtain ⟨rfl, rfl⟩ := h
    rfl

/-! ## IPv4 -/

/-- A number of an IPv4 address is read back. -/
theorem octet_render (a : UInt8) (hrest : Ends 10 rest) :
    octet ((toString a.toNat).toList ++ rest) = some (a, rest) := by
  have hlt : a.toNat < 256 := a.toNat_lt
  have hlength : (Nat.toDigits 10 a.toNat).length ≤ 3 :=
    (Nat.length_toDigits_le_iff (by decide) (by decide)).2 (by omega)
  have hnumber : number 10 256 (some 3) (Nat.toDigits 10 a.toNat ++ rest) = some (a.toNat, rest) :=
    number_toDigits (by decide) (by decide) hlt (by rintro _ ⟨⟩; exact hlength) hrest
  obtain ⟨ds, hds⟩ := exists_spells (b := 10) (by decide) a.toNat
  have htake : takeDigits 10 (Nat.toDigits 10 a.toNat ++ rest) = (ds, rest) := by
    rw [hds.toDigits, takeDigits_append (by decide) hds.lt hrest]
  rw [Nat.toString_eq_repr, Nat.toList_repr]
  unfold octet
  rw [htake, hnumber]
  split
  · -- a zero with digits behind it would be refused, but no number is printed so
    rename_i more _ heq
    have hzero := hds.leading _ (congrArg Prod.fst heq)
    cases hzero
  · simp only [Option.map_some, UInt8.ofNat_toNat]

/-- **An IPv4 address is read back.** -/
theorem ipv4_render (ip : IPv4) (hrest : Ends 10 rest) :
    ipv4 (renderIPv4 ip ++ rest) = some (ip, rest) := by
  have hdot : ∀ s, Ends 10 ('.' :: s) := fun s => ends_cons rfl
  unfold ipv4 renderIPv4
  simp only [List.append_assoc, List.cons_append, List.nil_append, octet_render _ (hdot _),
    octet_render _ hrest, char_self, Option.bind_eq_bind, Option.bind_some, Option.pure_def]

theorem octet_eq_some {a : UInt8} {s more : List Char} (h : octet s = some (a, more)) :
    more = (takeDigits 10 s).2 := by
  unfold octet at h
  split at h
  · cases h
  · obtain ⟨⟨n, more'⟩, hnumber, heq⟩ := Option.map_eq_some_iff.1 h
    cases heq
    exact number_eq_some hnumber

/-- No dot behind the digits, no IPv4 address. -/
theorem ipv4_eq_none {s : List Char} (h : ∀ c ∈ (takeDigits 10 s).2.head?, c ≠ '.') :
    ipv4 s = none := by
  unfold ipv4
  cases hoctet : octet s with
  | none => rfl
  | some read =>
    obtain ⟨a, more⟩ := read
    have hmore := octet_eq_some hoctet
    subst hmore
    simp only [Option.bind_eq_bind, Option.bind_some, char_eq_none h, Option.bind_none]

theorem ipv4_of_ends (h : Ends 10 rest) : ipv4 rest = none := by
  have hoctet : octet rest = none := by
    unfold octet
    rw [number_of_ends h]
    split <;> rfl
  unfold ipv4
  rw [hoctet]
  rfl

/-! ## Groups -/

/-- A group is read back. -/
theorem group_render (g : UInt16) (hrest : Ends 16 rest) :
    group (renderGroup g ++ rest) = some (g, rest) := by
  have hlt : g.toNat < 65536 := g.toNat_lt
  have hlength : (Nat.toDigits 16 g.toNat).length ≤ 4 :=
    (Nat.length_toDigits_le_iff (by decide) (by decide)).2 (by omega)
  have hnumber : number 16 65536 (some 4) (Nat.toDigits 16 g.toNat ++ rest) = some (g.toNat, rest) :=
    number_toDigits (by decide) (by decide) hlt (by rintro _ ⟨⟩; exact hlength) hrest
  unfold group renderGroup
  simp only [hnumber, Option.map_some, UInt16.ofNat_toNat]

theorem group_of_ends (h : Ends 16 rest) : group rest = none := by
  unfold group
  rw [number_of_ends h]
  rfl

/-- **Neither a group nor an IPv4 address goes on** with the text. -/
structure Stops (rest : List Char) : Prop where
  ends : Ends 16 rest
  dot : ∀ c ∈ rest.head?, c ≠ '.'
  colon : ∀ more, rest = ':' :: more → Ends 16 more

theorem stops_cons {c : Char} (hdigit : digit? 16 c = none) (hdot : c ≠ '.') (hcolon : c ≠ ':') :
    Stops (c :: rest) where
  ends := ends_cons hdigit
  dot := by
    rintro _ ⟨⟩
    exact hdot
  colon more h := absurd (List.cons.inj h).1 hcolon

/-- Two colons stop groups. -/
theorem stops_colons (rest : List Char) : Stops (':' :: ':' :: rest) where
  ends := ends_cons rfl
  dot := by
    rintro _ ⟨⟩
    decide
  colon more h := by
    obtain ⟨-, rfl⟩ := List.cons.inj h
    exact ends_cons rfl

/-- Characters without a dot do not come to one behind their digits. -/
theorem head?_takeDigits_ne_dot {xs : List Char} (hxs : ∀ c ∈ xs, c ≠ '.') (hends : Ends 10 rest)
    (hdot : ∀ c ∈ rest.head?, c ≠ '.') : ∀ c ∈ (takeDigits 10 (xs ++ rest)).2.head?, c ≠ '.' := by
  induction xs with
  | nil =>
    cases rest with
    | nil => exact nofun
    | cons c rest =>
      rw [List.nil_append, takeDigits, hends c rfl]
      exact hdot
  | cons x xs ih =>
    obtain ⟨hx, hxs⟩ := List.forall_mem_cons.1 hxs
    rw [List.cons_append, takeDigits]
    split
    · exact ih hxs
    · rintro _ ⟨⟩
      exact hx

theorem ne_dot_of_mem_renderGroup (g : UInt16) : ∀ c ∈ renderGroup g, c ≠ '.' := by
  intro c hc
  obtain ⟨ds, hds⟩ := exists_spells (b := 16) (by decide) g.toNat
  have hmem : c ∈ ds.map Nat.digitChar := hds.toDigits ▸ hc
  obtain ⟨d, hd, rfl⟩ := List.mem_map.1 hmem
  have hall : ∀ d < 16, Nat.digitChar d ≠ '.' := by decide
  exact hall d (hds.lt d hd)

/-- A group is no IPv4 address. -/
theorem ipv4_renderGroup (g : UInt16) (hends : Ends 16 rest) (hdot : ∀ c ∈ rest.head?, c ≠ '.') :
    ipv4 (renderGroup g ++ rest) = none :=
  ipv4_eq_none (head?_takeDigits_ne_dot (ne_dot_of_mem_renderGroup g) hends.decimal hdot)

/-- Groups as they are printed, the first without a colon in front or behind others. -/
def spell : (first : Bool) → List UInt16 → List Char
  | _, [] => []
  | true, g :: gs => renderGroup g ++ spell false gs
  | false, g :: gs => ':' :: (renderGroup g ++ spell false gs)

theorem renderGroups_eq (gs : List UInt16) : renderGroups gs = spell true gs := by
  have hmore : ∀ (g : UInt16) (gs : List UInt16),
      renderGroups (g :: gs) = renderGroup g ++ spell false gs := by
    intro g gs
    induction gs generalizing g with
    | nil => simp [renderGroups, spell]
    | cons g' gs ih =>
      have hcons : renderGroups (g :: g' :: gs) = renderGroup g ++ ':' :: renderGroups (g' :: gs) := by
        simp [renderGroups, List.intercalate]
      rw [hcons, ih]
      rfl
  cases gs with
  | nil => rfl
  | cons g gs => exact hmore g gs

/-- Behind a group stands a colon or what stops groups. -/
theorem Stops.spell (h : Stops rest) (gs : List UInt16) :
    Ends 16 (SocketAddress.spell false gs ++ rest) ∧
      ∀ c ∈ (SocketAddress.spell false gs ++ rest).head?, c ≠ '.' := by
  cases gs with
  | nil => exact ⟨h.ends, h.dot⟩
  | cons g gs =>
    refine ⟨ends_cons rfl, ?_⟩
    rintro _ ⟨⟩
    decide

/-- **Groups divided by colons are read back**, as many as there is room for. -/
theorem groups_spell {first : Bool} {most : Nat} {gs : List UInt16} (hmost : gs.length ≤ most)
    (hstop : Stops rest) : groups first most (spell first gs ++ rest) = (gs, false, rest) := by
  induction gs generalizing first most with
  | nil =>
    cases most with
    | zero => cases first <;> rfl
    | succ most =>
      -- whatever stands where a group could start is none
      have hnone : ∀ start : Option (List Char), (∀ x ∈ start, Ends 16 x) →
          (if most = 0 then none else start.bind ipv4) = none ∧ start.bind group = none := by
        intro start hstart
        cases start with
        | none => exact ⟨ite_self _, rfl⟩
        | some x =>
          have hx := hstart x rfl
          exact ⟨by rw [Option.bind_some, ipv4_of_ends hx.decimal, ite_self], group_of_ends hx⟩
      cases first with
      | true =>
        obtain ⟨hdotted, hgroup⟩ := hnone (some rest) (by rintro _ ⟨⟩; exact hstop.ends)
        show groups true (most + 1) rest = _
        unfold groups
        simp only [if_true, hdotted, hgroup]
      | false =>
        obtain ⟨hdotted, hgroup⟩ := hnone ((char ':' rest).map (·.2)) (by
          intro x hx
          obtain ⟨read, hread, rfl⟩ := Option.map_eq_some_iff.1 hx
          exact hstop.colon _ (char_eq_some hread))
        show groups false (most + 1) rest = _
        unfold groups
        simp only [Bool.false_eq_true, if_false, hdotted, hgroup]
  | cons g gs ih =>
    cases most with
    | zero => cases hmost
    | succ most =>
      obtain ⟨hends, hdot⟩ := hstop.spell gs
      have hdotted : (if most = 0 then none
          else ipv4 (renderGroup g ++ (spell false gs ++ rest))) = none := by
        rw [ipv4_renderGroup g hends hdot, ite_self]
      have hmore : groups false most (spell false gs ++ rest) = _ :=
        ih (Nat.le_of_succ_le_succ hmost)
      cases first with
      | true =>
        show groups true (most + 1) (renderGroup g ++ spell false gs ++ rest) = _
        rw [List.append_assoc]
        unfold groups
        simp only [if_true, Option.bind_some, hdotted, group_render g hends, hmore]
      | false =>
        show groups false (most + 1) (':' :: (renderGroup g ++ spell false gs ++ rest)) = _
        rw [List.append_assoc]
        unfold groups
        simp only [Bool.false_eq_true, if_false, char_self, Option.map_some, Option.bind_some, hdotted,
          group_render g hends, hmore]

/-! ## IPv6 -/

/-- The zeros at the front are zeros. -/
theorem take_zeroRun (gs : List UInt16) :
    gs = List.replicate (zeroRun gs) 0 ++ gs.drop (zeroRun gs) := by
  induction gs with
  | nil => rfl
  | cons g gs ih =>
    unfold zeroRun at ih ⊢
    by_cases hg : g = 0
    · rw [List.takeWhile_cons_of_pos (by rw [hg]; rfl), List.length_cons, List.replicate_succ,
        List.drop_succ_cons, List.cons_append, ← ih, hg]
    · rw [List.takeWhile_cons_of_neg (by simpa using hg)]
      rfl

/-- **What is cut short is a run of zeros.** -/
theorem longestRun_spec (i : Nat) (gs : List UInt16) :
    ∃ start, (longestRun i gs).1 = i + start ∧
      gs = gs.take start ++ List.replicate (longestRun i gs).2 0 ++
        gs.drop (start + (longestRun i gs).2) := by
  induction gs generalizing i with
  | nil => exact ⟨0, rfl, rfl⟩
  | cons g gs ih =>
    have hrun : longestRun i (g :: gs) = (i, zeroRun (g :: gs)) ∨
        longestRun i (g :: gs) = longestRun (i + 1) gs := by
      have hdef : longestRun i (g :: gs) = if (longestRun (i + 1) gs).2 ≤ zeroRun (g :: gs) then
          (i, zeroRun (g :: gs)) else longestRun (i + 1) gs := rfl
      rw [hdef]
      split
      · exact .inl rfl
      · exact .inr rfl
    obtain hrun | hrun := hrun
    · refine ⟨0, by rw [hrun]; rfl, ?_⟩
      rw [hrun, List.take_zero, List.nil_append, Nat.zero_add]
      exact take_zeroRun (g :: gs)
    · -- the run is one of those behind the first group
      obtain ⟨start, hstart, hgs⟩ := ih (i + 1)
      refine ⟨start + 1, by rw [hrun]; omega, ?_⟩
      rw [hrun, List.take_succ_cons, List.cons_append, List.cons_append, Nat.add_right_comm,
        List.drop_succ_cons, ← hgs]

theorem ofList?_groups (ip : IPv6) : IPv6.ofList? ip.groups.toList = some ip := by
  obtain ⟨⟨groups, hsize⟩⟩ := ip
  exact dif_pos hsize

/-- A mapped address has the groups of the IPv4 address at its end. -/
theorem groups_of_mapped {ip : IPv6} {ip4 : IPv4} (h : mapped? ip = some ip4) :
    ip.groups.toList = [0, 0, 0, 0, 0, 0xFFFF] ++ IPv4.groups ip4 := by
  have hbytes : ∀ x : UInt16, (x / 256).toUInt8.toUInt16 * 256 + (x % 256).toUInt8.toUInt16 = x := by
    intro x
    have hx := x.toNat_lt
    apply UInt16.toNat_inj.1
    simp only [UInt16.toNat_add, UInt16.toNat_mul, UInt8.toNat_toUInt16, UInt16.toNat_toUInt8,
      UInt16.toNat_div, UInt16.toNat_mod, UInt16.toNat_ofNat, Nat.reducePow, Nat.reduceMod]
    omega
  unfold mapped? at h
  split at h
  · rename_i x y heq
    cases h
    rw [heq]
    simp only [IPv4.groups, hbytes]
    rfl
  · cases h

/-- Two colons stand for the groups that are missing. -/
theorem ipv6_of_colons {s more : List Char} {head tail : List UInt16} {dotted : Bool}
    (hhead : groups true 8 s = (head, false, ':' :: ':' :: more)) (hlength : head.length < 8)
    (htail : groups true (7 - head.length) more = (tail, dotted, rest)) :
    ipv6 s = (IPv6.ofList? (head ++ List.replicate (8 - head.length - tail.length) 0 ++ tail)).map
      (·, rest) := by
  unfold ipv6
  simp only [hhead, if_neg (Nat.ne_of_lt hlength), Bool.false_eq_true, if_false, char_self,
    Option.bind_eq_bind, Option.bind_some, htail]

/-- An IPv4 address at the end is read back as two groups. -/
theorem groups_dotted (ip : IPv4) (most : Nat) (hrest : Ends 10 rest) :
    groups false (most + 2) (':' :: (renderIPv4 ip ++ rest)) = (IPv4.groups ip, true, rest) := by
  have hdotted : (if most + 1 = 0 then none else ipv4 (renderIPv4 ip ++ rest)) = some (ip, rest) := by
    rw [if_neg (Nat.succ_ne_zero most), ipv4_render ip hrest]
  unfold groups
  simp only [Bool.false_eq_true, if_false, char_self, Option.map_some, Option.bind_some, hdotted]

/-- A mapped address is read back from its dotted form. -/
theorem ipv6_mapped {ip : IPv6} {ip4 : IPv4} (h : mapped? ip = some ip4) (hrest : Ends 10 rest) :
    ipv6 ("::ffff:".toList ++ renderIPv4 ip4 ++ rest) = some (ip, rest) := by
  have htext : "::ffff:".toList ++ renderIPv4 ip4 ++ rest =
      ':' :: ':' :: (renderGroup 0xFFFF ++ ':' :: (renderIPv4 ip4 ++ rest)) := by
    have hfront : "::ffff:".toList = ':' :: ':' :: (renderGroup 0xFFFF ++ [':']) := by decide +kernel
    simp only [hfront, List.cons_append, List.append_assoc, List.nil_append]
  have hnone : ([] : List UInt16).length ≤ 8 := Nat.zero_le 8
  have hhead : groups true 8 (':' :: ':' :: (renderGroup 0xFFFF ++ ':' :: (renderIPv4 ip4 ++ rest))) =
      ([], false, ':' :: ':' :: (renderGroup 0xFFFF ++ ':' :: (renderIPv4 ip4 ++ rest))) :=
    groups_spell hnone (stops_colons _)
  have hends : Ends 16 (':' :: (renderIPv4 ip4 ++ rest)) := ends_cons rfl
  -- the group in front of the dotted form is no IPv4 address itself
  have hdotted : (if 6 = 0 then none
      else ipv4 (renderGroup 0xFFFF ++ ':' :: (renderIPv4 ip4 ++ rest))) = none := by
    rw [if_neg (by decide), ipv4_renderGroup _ hends (by rintro _ ⟨⟩; decide)]
  have htail : groups true 7 (renderGroup 0xFFFF ++ ':' :: (renderIPv4 ip4 ++ rest)) =
      (0xFFFF :: IPv4.groups ip4, true, rest) := by
    unfold groups
    simp only [if_true, Option.bind_some, hdotted, group_render _ hends, groups_dotted ip4 4 hrest]
  rw [htext, ipv6_of_colons hhead (by decide) htail]
  have hgroups : [] ++ List.replicate (8 - ([] : List UInt16).length -
      (0xFFFF :: IPv4.groups ip4).length) 0 ++ 0xFFFF :: IPv4.groups ip4 = ip.groups.toList :=
    (groups_of_mapped h).symm
  rw [hgroups, ofList?_groups]
  rfl

/-- **An IPv6 address is read back**, in whichever form it is printed. -/
theorem ipv6_render (ip : IPv6) (hstop : Stops rest) :
    ipv6 (renderIPv6 ip ++ rest) = some (ip, rest) := by
  have hlength : ip.groups.toList.length = 8 := by simp
  unfold renderIPv6
  cases hmapped : mapped? ip with
  | some ip4 => exact ipv6_mapped hmapped hstop.ends.decimal
  | none =>
    obtain ⟨start, hstart, hgs⟩ := longestRun_spec 0 ip.groups.toList
    rw [Nat.zero_add] at hstart
    dsimp only
    simp only [renderGroups_eq, hstart]
    by_cases hsize : 1 < (longestRun 0 ip.groups.toList).2
    · -- the groups in front of the run, two colons, and those behind it
      rw [if_pos hsize]
      generalize (longestRun 0 ip.groups.toList).2 = size at hsize hgs ⊢
      generalize ip.groups.toList.take start = head at hgs ⊢
      generalize ip.groups.toList.drop (start + size) = tail at hgs ⊢
      have hsum : head.length + size + tail.length = 8 := by
        rw [← hlength, hgs, List.length_append, List.length_append, List.length_replicate]
      have hread : groups true 8 (spell true head ++ [':', ':'] ++ spell true tail ++ rest) =
          (head, false, ':' :: ':' :: (spell true tail ++ rest)) := by
        rw [List.append_assoc, List.append_assoc]
        exact groups_spell (by omega) (stops_colons _)
      have htail : groups true (7 - head.length) (spell true tail ++ rest) = (tail, false, rest) :=
        groups_spell (by omega) hstop
      have hzeros : 8 - head.length - tail.length = size := by omega
      rw [ipv6_of_colons hread (by omega) htail, hzeros, ← hgs, ofList?_groups, Option.map_some]
    · rw [if_neg hsize]
      have hread : groups true 8 (spell true ip.groups.toList ++ rest) =
          (ip.groups.toList, false, rest) := groups_spell (Nat.le_of_eq hlength) hstop
      unfold ipv6
      rw [hread]
      simp only [hlength, if_true, ofList?_groups, Option.map_some]

/-! ## Port and scope -/

theorem port_render (p : UInt16) : port (':' :: (toString p.toNat).toList) = some (p, []) := by
  have hnumber : number 10 65536 none (Nat.toDigits 10 p.toNat ++ []) = some (p.toNat, []) :=
    number_toDigits (by decide) (by decide) p.toNat_lt nofun nofun
  rw [List.append_nil] at hnumber
  unfold port
  simp only [char_self, Nat.toString_eq_repr, Nat.toList_repr, hnumber, Option.bind_eq_bind,
    Option.bind_some, Option.pure_def, UInt16.ofNat_toNat]

/-- A scope is read back; none is printed for zero. -/
theorem scope_render (sc : UInt32) (more : List Char) :
    scope ((if sc = 0 then [] else '%' :: (toString sc.toNat).toList) ++ ']' :: more) =
      some (sc, ']' :: more) := by
  unfold scope
  by_cases hsc : sc = 0
  · subst hsc
    rw [if_pos rfl]
    rfl
  · have hnumber : number 10 4294967296 none (Nat.toDigits 10 sc.toNat ++ ']' :: more) =
        some (sc.toNat, ']' :: more) :=
      number_toDigits (by decide) (by decide) sc.toNat_lt nofun (ends_cons rfl)
    rw [if_neg hsc, List.cons_append, char_self, Nat.toString_eq_repr, Nat.toList_repr]
    simp only [Option.bind_some, hnumber, UInt32.ofNat_toNat]

/-- What stands behind the groups, a scope or the closing bracket, stops them. -/
theorem stops_scope (sc : UInt32) (more : List Char) :
    Stops ((if sc = 0 then [] else '%' :: (toString sc.toNat).toList) ++ ']' :: more) := by
  split
  · exact stops_cons rfl (by decide) (by decide)
  · exact stops_cons rfl (by decide) (by decide)

/-! ## Addresses -/

/-- **Every printed address is read back.** -/
theorem parse?_render (a : SocketAddress) : parse? a.render = some a := by
  have hread : address a.render.toList = some (a, []) := by
    cases a with
    | v4 ip p =>
      have hdotted : ipv4 (renderIPv4 ip ++ ':' :: (toString p.toNat).toList) = _ :=
        ipv4_render ip (ends_cons rfl)
      unfold address render
      simp only [String.toList_ofList, List.append_assoc, List.cons_append, List.nil_append, hdotted,
        port_render, Option.bind_eq_bind, Option.bind_some, Option.pure_def]
    | v6 ip sc p =>
      -- the dotted form is tried first and fails at the bracket
      have hdotted : ∀ more, ipv4 ('[' :: more) = none := fun more => ipv4_of_ends (ends_cons rfl)
      unfold address render
      simp only [String.toList_ofList, List.append_assoc, List.cons_append, List.nil_append, hdotted,
        char_self, ipv6_render ip (stops_scope sc _), scope_render, port_render, Option.bind_eq_bind,
        Option.bind_some, Option.bind_none, Option.pure_def]
  unfold parse?
  rw [hread]

/-- The first of two runs of the same length is cut short. -/
example : render (.v6 ⟨#v[0x20, 0, 0, 1, 0, 0, 0xAB, 2]⟩ 7 443) = "[20::1:0:0:ab:2%7]:443" := by
  decide

end Brokerage.Net.SocketAddress
