import Brokerage.Config
import Brokerage.Proofs.Agreement
import Brokerage.Proofs.Documents
import Brokerage.Proofs.RoundTrip
import Brokerage.Proofs.Texts

/-!
# A configuration is loaded again

Loading takes any text for a host, a level or a version, so it fails at the port and at the address of
the metrics only. What a configuration is written as, variables or JSON, gives it back: ports have one
decimal form, and addresses are read back in the form that they are printed in.

* `Config.WritesNumber`: decimal digits, perhaps behind a plus sign, however many.
* `Config.parsePort?_eq_some_iff`: **the texts that are ports**, and the ports that they are.
* `Config.Misgiven`: a fault names a variable that is given and its value, which is of no use.
* `Config.load_eq_error_iff`: the two faults, that of the port first.
* `Config.load_toVariables`, `Config.decodeText_encode`: what is written is loaded again.
* `configurations_reload`: all of it.
-/

namespace Brokerage

namespace Net.SocketAddress

/-! ## Decimal numbers -/

theorem digit?_ten (c : Char) : digit? 10 c = if c.isDigit then some (c.toNat - '0'.toNat) else none := by
  have hdigit : c.isDigit = true ↔ '0' ≤ c ∧ c ≤ '9' := by
    rw [Char.isDigit, Bool.and_eq_true, decide_eq_true_iff, decide_eq_true_iff]
    rfl
  unfold digit?
  by_cases hc : '0' ≤ c ∧ c ≤ '9'
  · have hle : c.toNat ≤ '9'.toNat := hc.2
    have hlt : c.toNat - '0'.toNat < 10 := Nat.lt_succ_of_le (Nat.sub_le_sub_right hle _)
    simp only [if_pos hc, if_pos hlt, if_pos (hdigit.2 hc)]
  · have hge : ∀ n, ¬n + 10 < 10 := fun n => Nat.not_lt.2 (Nat.le_add_left 10 n)
    simp only [if_neg hc, if_neg (mt hdigit.1 hc)]
    split
    · exact if_neg (hge _)
    · split
      · exact if_neg (hge _)
      · rfl

/-- Nothing is left behind digits, and behind digits alone. -/
theorem takeDigits_ten_eq_iff {s : List Char} {ds : List Nat} :
    takeDigits 10 s = (ds, []) ↔ (∀ c ∈ s, c.isDigit = true) ∧ ds = s.map (·.toNat - '0'.toNat) := by
  induction s generalizing ds with
  | nil =>
    rw [takeDigits, Prod.mk.injEq]
    exact ⟨fun h => ⟨fun _ hc => absurd hc List.not_mem_nil, h.1.symm⟩, fun h => ⟨h.2.symm, rfl⟩⟩
  | cons c s ih =>
    rw [takeDigits, digit?_ten, List.forall_mem_cons]
    by_cases hc : c.isDigit = true
    · rw [if_pos hc]
      constructor
      · intro h
        obtain ⟨rfl, hrest⟩ := Prod.mk.inj h
        obtain ⟨hs, hds⟩ := ih.1 (Prod.ext rfl hrest)
        exact ⟨⟨hc, hs⟩, congrArg _ hds⟩
      · rintro ⟨⟨-, hs⟩, rfl⟩
        rw [ih.2 ⟨hs, rfl⟩]
        rfl
    · rw [if_neg hc]
      refine ⟨fun h => ?_, fun h => absurd h.1.1 hc⟩
      cases h

/-- **A whole text is a decimal number** if it consists of digits, however many, and is in range. -/
theorem number_ten_eq_some_iff {bound n : Nat} {s : List Char} :
    number 10 bound none s = some (n, []) ↔
      s ≠ [] ∧ (∀ c ∈ s, c.isDigit = true) ∧ Nat.ofDigitChars 10 s 0 = n ∧ n < bound := by
  have hvalue : ∀ s : List Char, natOf 10 (s.map (·.toNat - '0'.toNat)) = Nat.ofDigitChars 10 s 0 := by
    intro s
    unfold natOf
    rw [List.foldl_map, Nat.ofDigitChars_eq_foldl]
    simp only [Nat.mul_comm]
  unfold number
  cases hread : takeDigits 10 s with
  | mk ds rest =>
    simp only [Option.any_none, Bool.false_eq_true, if_false, Option.ite_none_left_eq_some,
      Option.some.injEq, Prod.mk.injEq, Nat.not_le]
    constructor
    · rintro ⟨hne, hlt, hn, rfl⟩
      obtain ⟨hs, rfl⟩ := takeDigits_ten_eq_iff.1 hread
      rw [hvalue] at hlt hn
      exact ⟨fun hnil => hne (hnil ▸ rfl), hs, hn, hn ▸ hlt⟩
    · rintro ⟨hne, hs, rfl, hlt⟩
      obtain ⟨rfl, rfl⟩ := Prod.mk.inj (hread.symm.trans (takeDigits_ten_eq_iff.2 ⟨hs, rfl⟩))
      rw [hvalue]
      exact ⟨mt List.map_eq_nil_iff.1 hne, hlt, rfl, rfl⟩

end Net.SocketAddress

namespace Config

/-! ## Ports -/

/-- **The text writes the number**: decimal digits, at least one and however many, perhaps behind a plus
sign. -/
def WritesNumber (s : String) (n : Nat) : Prop :=
  ∃ digits : List Char, digits ≠ [] ∧ (∀ c ∈ digits, c.isDigit = true) ∧
    (s.toList = digits ∨ s.toList = '+' :: digits) ∧ Nat.ofDigitChars 10 digits 0 = n

/-- The text writes a number of 16 bits. -/
def IsPort (s : String) : Prop := ∃ n < 65536, WritesNumber s n

/-- Behind a plus sign, or without one, a text is read as a decimal number to its end. -/
theorem parsePort?_eq {s : String} {digits : List Char}
    (hdigits : s.toList = '+' :: digits ∨ s.toList = digits ∧ ∀ rest, digits ≠ '+' :: rest) :
    parsePort? s = (Net.SocketAddress.number 10 65536 none digits).bind fun read =>
      if read.2 = [] then some (.ofNat read.1) else none := by
  unfold parsePort?
  split
  · rename_i rest hs
    obtain rfl : digits = rest := by
      obtain hplus | ⟨hplain, hne⟩ := hdigits
      · exact (List.cons.inj (hplus.symm.trans hs)).2
      · exact absurd (hplain.symm.trans hs) (hne rest)
    dsimp only
    rcases Net.SocketAddress.number 10 65536 none digits with _ | ⟨n, _ | ⟨c, more⟩⟩ <;> rfl
  · rename_i hs
    obtain hplus | ⟨rfl, -⟩ := hdigits
    · exact absurd hplus (hs digits)
    · dsimp only
      rcases Net.SocketAddress.number 10 65536 none s.toList with _ | ⟨n, _ | ⟨c, more⟩⟩ <;> rfl

theorem parsePort?_eq_some_iff_number {s : String} {p : UInt16} {digits : List Char}
    (hdigits : s.toList = '+' :: digits ∨ s.toList = digits ∧ ∀ rest, digits ≠ '+' :: rest) :
    parsePort? s = some p ↔
      Net.SocketAddress.number 10 65536 none digits = some (p.toNat, []) := by
  rw [parsePort?_eq hdigits, Option.bind_eq_some_iff]
  simp only [Option.ite_none_right_eq_some, Option.some.injEq]
  constructor
  · rintro ⟨⟨n, more⟩, hread, rfl, rfl⟩
    have hlt : n < 65536 := (Net.SocketAddress.number_ten_eq_some_iff.1 hread).2.2.2
    rw [hread, UInt16.toNat_ofNat_of_lt' hlt]
  · intro hread
    exact ⟨_, hread, rfl, UInt16.ofNat_toNat⟩

/-- **A text is the port whose number it writes.** -/
theorem parsePort?_eq_some_iff {s : String} {p : UInt16} :
    parsePort? s = some p ↔ WritesNumber s p.toNat := by
  have hplus : '+'.isDigit = false := by decide
  by_cases hs : ∃ rest, s.toList = '+' :: rest
  · obtain ⟨rest, hrest⟩ := hs
    rw [parsePort?_eq_some_iff_number (.inl hrest), Net.SocketAddress.number_ten_eq_some_iff]
    constructor
    · rintro ⟨hne, hdigits, hvalue, -⟩
      exact ⟨rest, hne, hdigits, .inr hrest, hvalue⟩
    · rintro ⟨digits, hne, hdigits, rfl | htext, hvalue⟩
      · -- a plus sign is no digit
        rw [hrest] at hdigits
        exact absurd (hdigits '+' List.mem_cons_self) (Bool.eq_false_iff.1 hplus)
      · obtain ⟨-, rfl⟩ := List.cons.inj (hrest.symm.trans htext)
        exact ⟨hne, hdigits, hvalue, p.toNat_lt⟩
  · have hplain : ∀ rest, s.toList ≠ '+' :: rest := fun rest hrest => hs ⟨rest, hrest⟩
    rw [parsePort?_eq_some_iff_number (.inr ⟨rfl, hplain⟩), Net.SocketAddress.number_ten_eq_some_iff]
    constructor
    · rintro ⟨hne, hdigits, hvalue, -⟩
      exact ⟨s.toList, hne, hdigits, .inl rfl, hvalue⟩
    · rintro ⟨digits, hne, hdigits, rfl | htext, hvalue⟩
      · exact ⟨hne, hdigits, hvalue, p.toNat_lt⟩
      · exact absurd htext (hplain digits)

theorem isPort_iff {s : String} : IsPort s ↔ (parsePort? s).isSome = true := by
  rw [Option.isSome_iff_exists]
  constructor
  · rintro ⟨n, hn, hwrites⟩
    refine ⟨.ofNat n, parsePort?_eq_some_iff.2 ?_⟩
    rwa [UInt16.toNat_ofNat_of_lt' hn]
  · rintro ⟨p, hp⟩
    exact ⟨p.toNat, p.toNat_lt, parsePort?_eq_some_iff.1 hp⟩

/-- The decimal form of a port writes it. -/
theorem writesNumber_toString (n : Nat) : WritesNumber (toString n) n := by
  refine ⟨Nat.toDigits 10 n, Nat.toDigits_ne_nil, ?_, .inl ?_, ?_⟩
  · intro c hc
    exact Nat.isDigit_of_mem_toDigits (by decide) (by decide) hc
  · exact Nat.toList_repr
  · exact Nat.ofDigitChars_toDigits (by decide) (by decide)

/-! ## Faults -/

/-- The text is an address with a port. -/
def IsAddress (s : String) : Prop := ∃ a, Net.SocketAddress.parse? s = some a

/-- **A fault names a variable that is given**, and its value, which is of no use. -/
structure Misgiven (lookup : String → Option String) (name : String) (good : String → Prop)
    (fault : ConfigFault) : Prop where
  name_eq : fault.name = name
  given : lookup name = some fault.value
  bad : ¬good fault.value

variable {lookup : String → Option String} {fault : ConfigFault}

theorem readVariable_eq_error_iff {α : Type} {name : String} {blank : α} {parse : String → Option α}
    {good : String → Prop} (hgood : ∀ s, good s ↔ (parse s).isSome = true) :
    readVariable lookup name blank parse = .error fault ↔ Misgiven lookup name good fault := by
  unfold readVariable
  cases hvalue : lookup name with
  | none =>
    refine ⟨nofun, fun h => ?_⟩
    rw [h.given] at hvalue
    cases hvalue
  | some value =>
    cases hparse : parse value with
    | some a =>
      simp only [hparse]
      refine ⟨nofun, fun h => ?_⟩
      obtain rfl : value = fault.value := Option.some.inj (hvalue.symm.trans h.given)
      exact absurd ((hgood _).2 (hparse ▸ rfl)) h.bad
    | none =>
      simp only [hparse, Except.error.injEq]
      constructor
      · rintro rfl
        refine ⟨rfl, hvalue, fun hok => ?_⟩
        have hsome := (hgood value).1 hok
        rw [hparse] at hsome
        cases hsome
      · intro h
        obtain rfl : value = fault.value := Option.some.inj (hvalue.symm.trans h.given)
        rw [← h.name_eq]

/-- **Loading fails at the port or at the address of the metrics**, and at the port first. -/
theorem load_eq_error_iff :
    load lookup = .error fault ↔
      Misgiven lookup portVariable IsPort fault ∨
        (¬∃ other, Misgiven lookup portVariable IsPort other) ∧
          Misgiven lookup metricsVariable IsAddress fault := by
  have haddress : ∀ s, IsAddress s ↔
      ((Net.SocketAddress.parse? s).map some).isSome = true := by
    intro s
    rw [Option.isSome_map, Option.isSome_iff_exists]
    rfl
  have hport : ∀ {fault}, readVariable lookup portVariable 8080 parsePort? = .error fault ↔ _ :=
    readVariable_eq_error_iff fun _ => isPort_iff
  have hmetrics : ∀ {fault}, readVariable lookup metricsVariable none
      (fun s => (Net.SocketAddress.parse? s).map some) = .error fault ↔ _ :=
    readVariable_eq_error_iff haddress
  rw [← hport, ← hmetrics]
  simp only [← hport]
  unfold load
  -- the address is looked at only if the port is of use
  cases readVariable lookup portVariable 8080 parsePort? with
  | error e => simp
  | ok port =>
    cases readVariable lookup metricsVariable none
        (fun s => (Net.SocketAddress.parse? s).map some) with
    | error e => simp
    | ok metrics => simp

/-! ## Reloading -/

/-- Each variable has its part of the configuration. -/
theorem lookup_toVariables (c : Config) :
    c.toVariables.lookup hostVariable = some c.host ∧
    c.toVariables.lookup portVariable = some (toString c.port.toNat) ∧
    c.toVariables.lookup logLevelVariable = some c.logLevel ∧
    c.toVariables.lookup apiVersionVariable = some c.apiVersion ∧
    c.toVariables.lookup metricsVariable = c.metricsAddress.map (·.render) := by
  obtain ⟨host, port, logLevel, apiVersion, metrics⟩ := c
  cases metrics <;> exact ⟨rfl, rfl, rfl, rfl, rfl⟩

/-- **The variables of a configuration give it back.** -/
theorem load_toVariables (c : Config) : load (c.toVariables.lookup ·) = .ok c := by
  obtain ⟨hhost, hport, hlevel, hversion, hmetrics⟩ := c.lookup_toVariables
  have hread : parsePort? (toString c.port.toNat) = some c.port :=
    parsePort?_eq_some_iff.2 (writesNumber_toString c.port.toNat)
  obtain ⟨host, port, logLevel, apiVersion, metrics⟩ := c
  unfold load readVariable
  simp only [hhost, hport, hlevel, hversion, hmetrics, hread, Option.getD_some]
  cases metrics with
  | none => rfl
  | some a => simp only [Option.map_some, Net.SocketAddress.parse?_render]

end Config

open Wire (Faithful Shape)

theorem faithful_config : Faithful Config id := ⟨by decide, fun _ => rfl⟩

/-- The members of the JSON object of a configuration. -/
def Config.members (c : Config) : Json.Members :=
  [("host", .text c.host), ("port", .int c.port.toNat), ("log_level", .text c.logLevel),
    ("api_version", .text c.apiVersion),
    ("metrics_addr", (c.metricsAddress.map fun a => Json.text a.render).getD .null)]

theorem Config.encode_eq (c : Config) : Wire.encode c = .object c.members := by
  obtain ⟨host, port, logLevel, apiVersion, metrics⟩ := c
  cases metrics <;> rfl

/-- All of them are read as they are. -/
theorem Config.members_isNormal (c : Config) :
    Json.allMembers Json.isNormal c.members = true ∧ Json.depthOfMembers c.members = 0 := by
  have hlt := c.port.toNat_lt
  have hport : (Json.int c.port.toNat).isNormal = true := by
    show (decide (Number.minInt ≤ (c.port.toNat : Int)) && decide (_ ≤ Number.maxInt)) = true
    rw [Bool.and_eq_true, decide_eq_true_iff, decide_eq_true_iff]
    unfold Number.minInt Number.maxInt
    omega
  have hmembers : Json.allMembers Json.isNormal c.members = (Json.int c.port.toNat).isNormal := by
    obtain ⟨host, port, logLevel, apiVersion, metrics⟩ := c
    cases metrics <;> exact Bool.and_true _
  refine ⟨hmembers.trans hport, ?_⟩
  obtain ⟨host, port, logLevel, apiVersion, metrics⟩ := c
  cases metrics <;> rfl

/-- **The JSON text of a configuration gives it back.** -/
theorem Config.decodeText_encode (c : Config) :
    Wire.decodeText Config (Wire.encode c).printBytes = .ok c := by
  obtain ⟨hnormal, hdepth⟩ := c.members_isNormal
  have hnodup : (c.members.map (·.1)).Nodup := by
    simp [Config.members]
  -- the members are read in the order of their names
  have hvalue : Wire.decode Config (.object c.members.sorted) = .ok c := by
    have hwrites := Shape.writes_toJson _ (Wire.Message.toValue c)
    have hmembers : (Wire.Message.shape Config).toJson _ = .object c.members := c.encode_eq
    rw [hmembers] at hwrites
    obtain ⟨ms, ms', hms, hperm, hms'⟩ := hwrites
    cases hms
    exact faithful_config.roundTrips.decode_of_writes c _
      ⟨_, ms', rfl, (Json.Members.sorted_perm hnodup).trans hperm, hms'⟩
  rw [c.encode_eq]
  have htree : (Json.object c.members).document.toJson? Json.maxDepth =
      some (.object c.members.sorted) := by
    have hmembers := Json.toJson?_memberDocuments c.members hnormal 126 (by omega)
    exact congrArg (Option.map Json.ofMembers) hmembers
  have hdistinct : (Json.object c.members).document.distinct = true := by
    obtain ⟨host, port, logLevel, apiVersion, metrics⟩ := c
    cases metrics <;> rfl
  have hread : Json.Document.read (Json.object c.members).printBytes = _ :=
    Json.Document.read_printBytes (Json.allMembers_mono Json.isDiscrete_of_isNormal _ hnormal)
  have hsame := congrArg (Option.map Wire.Message.ofValue)
    ((Wire.Message.shape Config).agrees htree hdistinct)
  rw [← Wire.toOption_map, ← Wire.toOption_map] at hsame
  unfold Wire.decodeText
  rw [Shape.ofText_of_read _ hread]
  exact (Wire.toOption_eq_iff.1 hsame c).2 hvalue

/-- **Configurations reload.** -/
theorem configurations_reload :
    (∀ (lookup : String → Option String) (fault : ConfigFault),
      Config.load lookup = .error fault ↔
        Config.Misgiven lookup Config.portVariable Config.IsPort fault ∨
          (¬∃ other, Config.Misgiven lookup Config.portVariable Config.IsPort other) ∧
            Config.Misgiven lookup Config.metricsVariable Config.IsAddress fault) ∧
    ∀ c : Config,
      Config.load (c.toVariables.lookup ·) = .ok c ∧
      Wire.decode Config (Wire.encode c) = .ok c ∧
      Wire.decodeText Config (Wire.encode c).printBytes = .ok c := by
  refine ⟨fun lookup fault => Config.load_eq_error_iff, fun c => ⟨c.load_toVariables, ?_, ?_⟩⟩
  · exact faithful_config.roundTrips.decode_encode c
  · exact c.decodeText_encode

end Brokerage
