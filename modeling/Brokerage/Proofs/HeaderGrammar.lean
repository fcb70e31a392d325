import Brokerage.Http.Extract
import Brokerage.Proofs.Identity
import Brokerage.Proofs.Texts
import Mathlib.Data.List.TakeWhile

/-!
# The grammar of the originating identity header

A value is cut at its first space, and blanks matter neither around it nor around what stands behind
that space. So a value holds an identity if it can be written so: a platform, a space and, perhaps among
blanks, the properties in base64.

* `Text.trim_append`, `Text.trimEnd_append_of_exists`: blanks around a text do not matter, and what
  stands in front of a text that is not blank stays.
* `OriginatingIdentity.splitSpace_eq_some_iff`: a text is cut at its first space.
* `OriginatingIdentity.parts?`, `parse_eq`: all that is looked at in a value; `parts?_append` and
  `parts?_pad` name the blanks that are not.
* `OriginatingIdentity.Holds`, `parse_eq_ok_iff`: **the grammar**, and what is read by it.
* `header_grammar`: **a value is read if it has the grammar** and its properties are not too deep;
  `parse_write_of_deep` is about those that are.
-/

namespace Brokerage

/-! ## Blanks -/

namespace Text

variable {s before after : List Char}

/-- A text is blank, or has a character that is not. -/
theorem blank_or_exists (s : List Char) :
    (∀ c ∈ s, isBlank c = true) ∨ ∃ c ∈ s, isBlank c = false := by
  by_cases h : ∃ c ∈ s, isBlank c = false
  · exact .inr h
  · left
    intro c hc
    by_contra hblank
    exact h ⟨c, hc, Bool.eq_false_iff.2 hblank⟩

theorem dropWhile_ne_nil (h : ∃ c ∈ s, isBlank c = false) : s.dropWhile isBlank ≠ [] := by
  obtain ⟨c, hc, hblank⟩ := h
  intro hnil
  have hall := List.dropWhile_eq_nil_iff.1 hnil c hc
  rw [hblank] at hall
  cases hall

theorem trimStart_append (h : ∀ c ∈ before, isBlank c = true) :
    trimStart (before ++ s) = trimStart s := by
  unfold trimStart
  rw [List.dropWhile_append, List.dropWhile_eq_nil_iff.2 h]
  rfl

theorem trimEnd_append (h : ∀ c ∈ after, isBlank c = true) : trimEnd (s ++ after) = trimEnd s := by
  have hreverse : ∀ c ∈ after.reverse, isBlank c = true := fun c hc => h c (List.mem_reverse.1 hc)
  have hstart := trimStart_append (s := s.reverse) hreverse
  unfold trimEnd
  rw [List.reverse_append]
  exact congrArg List.reverse hstart

/-- What stands behind a text that is not blank stays. -/
theorem trimStart_append_of_exists (after : List Char) (h : ∃ c ∈ s, isBlank c = false) :
    trimStart (s ++ after) = trimStart s ++ after := by
  have hne : (s.dropWhile isBlank).isEmpty = false := by simpa using dropWhile_ne_nil h
  unfold trimStart
  rw [List.dropWhile_append, hne]
  rfl

/-- **What stands in front of a text that is not blank stays.** -/
theorem trimEnd_append_of_exists (before : List Char) (h : ∃ c ∈ s, isBlank c = false) :
    trimEnd (before ++ s) = before ++ trimEnd s := by
  obtain ⟨c, hc, hblank⟩ := h
  have hreverse : ∃ c ∈ s.reverse, isBlank c = false := ⟨c, List.mem_reverse.2 hc, hblank⟩
  have hstart := trimStart_append_of_exists before.reverse hreverse
  unfold trimStart at hstart
  unfold trimEnd
  rw [List.reverse_append, hstart, List.reverse_append, List.reverse_reverse]

/-- A blank text leaves nothing. -/
theorem trim_blank (h : ∀ c ∈ s, isBlank c = true) : trim s = [] := by
  unfold trim trimStart
  rw [List.dropWhile_eq_nil_iff.2 h]
  rfl

/-- **Blanks around a text do not matter.** -/
theorem trim_append (hbefore : ∀ c ∈ before, isBlank c = true)
    (hafter : ∀ c ∈ after, isBlank c = true) : trim (before ++ s ++ after) = trim s := by
  rw [List.append_assoc]
  obtain hblank | hexists := blank_or_exists s
  · have hall : ∀ c ∈ before ++ (s ++ after), isBlank c = true := by
      simp only [List.mem_append]
      rintro c (hc | hc | hc)
      · exact hbefore c hc
      · exact hblank c hc
      · exact hafter c hc
    rw [trim_blank hall, trim_blank hblank]
  · unfold trim
    rw [trimStart_append hbefore, trimStart_append_of_exists after hexists, trimEnd_append hafter]

/-- **A trimmed text does not start with a blank.** -/
theorem isBlank_of_trim {c : Char} {rest : List Char} (h : trim s = c :: rest) : isBlank c = false := by
  -- what is left at the end is the front of what is left at the start
  obtain ⟨tail, htail⟩ := List.dropWhile_suffix isBlank (l := (trimStart s).reverse)
  have hfront : trimStart s = trim s ++ tail.reverse := by
    rw [← List.reverse_reverse (trimStart s), ← htail, List.reverse_append]
    rfl
  rw [h] at hfront
  have hhead := List.head?_dropWhile_not isBlank s
  unfold trimStart at hfront
  rw [hfront] at hhead
  simpa using hhead

end Text

/-! ## Objects that are too deep -/

namespace Json

mutual

/-- The tree of a value is as deep as the value. -/
theorem depth_document : (j : Json) → j.document.depth = j.depth
  | .null | .bool _ | .number (.int _) | .number (.float _) | .text _ => rfl
  | .array items => congrArg (· + 1) (depth_itemDocuments items)
  | .object members => congrArg (· + 1) (depth_memberDocuments members)

theorem depth_itemDocuments : (items : List Json) → (itemDocuments items).depth = depthOfItems items
  | [] => rfl
  | item :: rest => congrArg₂ max (depth_document item) (depth_itemDocuments rest)

theorem depth_memberDocuments : (members : List (String × Json)) →
    (memberDocuments members).depth = depthOfMembers members
  | [] => rfl
  | (_, value) :: rest => congrArg₂ max (depth_document value) (depth_memberDocuments rest)

end

end Json

/-- **The text of an object that is too deep is not read.** -/
theorem Wire.ofText_printBytes_of_deep {members : Json.Members}
    (hnormal : (Json.object members).all Json.isNormal = true)
    (hdeep : Json.maxDepth < (Json.object members).depth) :
    Shape.object.ofText (Json.object members).printBytes = .error .syntaxError := by
  have hread := Json.Document.read_printBytes (Json.all_mono Json.isDiscrete_of_isNormal _ hnormal)
  have hnone : (Json.memberDocuments members).toJson? 126 = none := by
    rw [Option.eq_none_iff_forall_ne_some]
    intro ms hms
    obtain ⟨-, hdepth⟩ := (Json.memberDocuments members).toJson?_eq_some_iff.1 hms
    rw [Json.depth_memberDocuments] at hdepth
    simp only [Json.maxDepth, Json.depth] at hdeep
    omega
  have hvalue : Shape.object.ofDocument Json.maxDepth (Json.object members).document =
      .error .syntaxError := by
    simp only [Json.document, Json.maxDepth, Shape.ofDocument, hnone]
  unfold Shape.ofText Shape.ofFront
  rw [hread, hvalue]

/-! ## What a value holds -/

namespace OriginatingIdentity

open Json (Document)

variable {value : List Char} {i : OriginatingIdentity} {tree : Document}

/-- A text without a space is not cut. -/
theorem splitSpace_eq_none {s : List Char} (h : ' ' ∉ s) : splitSpace s = none := by
  induction s with
  | nil => rfl
  | cons c s ih =>
    rw [List.mem_cons, not_or] at h
    obtain ⟨hc, hs⟩ := h
    rw [splitSpace, if_neg (Ne.symm hc), ih hs]
    rfl

/-- **A text is cut at its first space.** -/
theorem splitSpace_eq_some_iff {s front rest : List Char} :
    splitSpace s = some (front, rest) ↔ s = front ++ ' ' :: rest ∧ ' ' ∉ front := by
  have hcut : ∀ {front rest : List Char}, ' ' ∉ front →
      splitSpace (front ++ ' ' :: rest) = some (front, rest) := by
    intro front rest hfront
    exact splitSpace_append (fun c hc heq => hfront (heq ▸ hc)) rest
  constructor
  · intro h
    by_cases hs : ' ' ∈ s
    · obtain ⟨first, behind, rfl, hfirst⟩ := List.eq_append_cons_of_mem hs
      rw [hcut hfirst] at h
      cases h
      exact ⟨rfl, hfirst⟩
    · rw [splitSpace_eq_none hs] at h
      cases h
  · rintro ⟨rfl, hfront⟩
    exact hcut hfront

/-- The two parts of a value: what stands in front of its first space, and what stands behind it. -/
def parts? (value : List Char) : Option (List Char × List Char) :=
  (splitSpace (Text.trim value)).map fun (platform, encoded) => (platform, Text.trim encoded)

/-- What the properties of an identity are read from. -/
def parseProperties (encoded : List Char) : Except IdentityFault Json.Members :=
  match Base64.decode? encoded with
  | none => .error .noBase64
  | some bytes => (Wire.Shape.object.ofText bytes).mapError .noObject

/-- A value does not start with a space once it is trimmed, so its platform is never empty. -/
theorem platform_ne_nil {front rest : List Char}
    (h : splitSpace (Text.trim value) = some (front, rest)) : front ≠ [] := by
  obtain ⟨htrim, -⟩ := splitSpace_eq_some_iff.1 h
  rintro rfl
  have hspace := Text.isBlank_of_trim htrim
  revert hspace
  decide

/-- **All that is looked at in a value are its parts.** -/
theorem parse_eq (value : List Char) : parse value =
    match parts? value with
    | none => .error .noSpace
    | some (platform, encoded) =>
      (parseProperties encoded).map fun properties => ⟨String.ofList platform, properties⟩ := by
  unfold parse parts?
  cases hsplit : splitSpace (Text.trim value) with
  | none => rfl
  | some parts =>
    obtain ⟨platform, encoded⟩ := parts
    simp only [if_neg (platform_ne_nil hsplit), Option.map_some, parseProperties]
    cases hbytes : Base64.decode? (Text.trim encoded) with
    | none => rfl
    | some bytes =>
      simp only
      cases Wire.Shape.object.ofText bytes <;> rfl

/-- Blanks around a value do not change its parts. -/
theorem parts?_append (value : List Char) {before after : List Char}
    (hbefore : ∀ c ∈ before, Text.isBlank c = true) (hafter : ∀ c ∈ after, Text.isBlank c = true) :
    parts? (before ++ value ++ after) = parts? value := by
  unfold parts?
  rw [Text.trim_append hbefore hafter]

/-- The parts of a value that is cut at a space behind `front`. -/
theorem parts?_of_trim {front encoded : List Char} (htrim : Text.trim value = front ++ ' ' :: encoded)
    (hfront : ' ' ∉ front) : parts? value = some (front, Text.trim encoded) := by
  unfold parts?
  rw [splitSpace_eq_some_iff.2 ⟨htrim, hfront⟩]
  rfl

/-- **Neither do blanks behind its first space.** Before the platform there may be more blanks, spaces
too. -/
theorem parts?_pad {front pad rest : List Char} (hfront : ' ' ∉ Text.trimStart front)
    (hpad : ∀ c ∈ pad, Text.isBlank c = true) :
    parts? (front ++ ' ' :: (pad ++ rest)) = parts? (front ++ ' ' :: rest) := by
  have hspace : Text.isBlank ' ' = true := by decide
  have hnone : ∀ c ∈ ([] : List Char), Text.isBlank c = true := nofun
  obtain hblank | hexists := Text.blank_or_exists front
  · -- no platform stands there: all of it is trimmed off the front
    have hpadded : ∀ c ∈ front ++ ' ' :: pad, Text.isBlank c = true := by grind
    have hplain : ∀ c ∈ front ++ [' '], Text.isBlank c = true := by grind
    have hlong := parts?_append rest hpadded hnone
    have hshort := parts?_append rest hplain hnone
    simp only [List.append_assoc, List.cons_append, List.nil_append, List.append_nil] at hlong hshort
    rw [hlong, hshort]
  obtain hrest | hrest := Text.blank_or_exists rest
  · -- no properties stand there: all of it is trimmed off the end
    have hpadded : ∀ c ∈ ' ' :: (pad ++ rest), Text.isBlank c = true := by grind
    have hplain : ∀ c ∈ ' ' :: rest, Text.isBlank c = true := by grind
    unfold parts? Text.trim
    rw [Text.trimStart_append_of_exists _ hexists, Text.trimStart_append_of_exists _ hexists,
      Text.trimEnd_append hpadded, Text.trimEnd_append hplain]
  · -- the padding goes to the properties, and is trimmed off those
    have hcut : ∀ pad, parts? (front ++ ' ' :: (pad ++ rest)) =
        some (Text.trimStart front, Text.trim (pad ++ Text.trimEnd rest)) := by
      intro pad
      refine parts?_of_trim ?_ hfront
      have hend := Text.trimEnd_append_of_exists (Text.trimStart front ++ ' ' :: pad) hrest
      unfold Text.trim
      rw [Text.trimStart_append_of_exists _ hexists]
      simpa using hend
    have hpadding := Text.trim_append (s := Text.trimEnd rest) hpad hnone
    have hplain := hcut []
    rw [List.nil_append] at hplain
    rw [List.append_nil] at hpadding
    rw [hcut pad, hpadding, hplain]
    rfl

/-! ## The grammar -/

/-- **A value holds an identity**, its properties being written as a tree: blanks apart it is a platform,
a space and the base64 of a text of the tree, with more blanks perhaps behind the space. -/
structure Holds (value : List Char) (i : OriginatingIdentity) (tree : Document) : Prop where
  platform : i.platform ≠ ""
  noSpace : ' ' ∉ i.platform.toList
  text : ∃ rest bytes, Text.trim value = i.platform.toList ++ ' ' :: rest ∧
    Text.trim rest = Base64.encode bytes ∧ tree.HasText bytes
  properties : tree.value? = some (.object i.properties)

/-- Properties are read from the base64 of a text of theirs. -/
theorem parseProperties_eq_ok_iff {encoded : List Char} {properties : Json.Members} :
    parseProperties encoded = .ok properties ↔ ∃ (bytes : List UInt8) (tree : Document),
      encoded = Base64.encode bytes ∧ tree.HasText bytes ∧
        tree.value? = some (.object properties) ∧ tree.depth ≤ Json.maxDepth := by
  unfold parseProperties
  cases hbytes : Base64.decode? encoded with
  | none =>
    constructor
    · intro h
      cases h
    · rintro ⟨bytes, tree, rfl, -⟩
      rw [Base64.decode?_encode] at hbytes
      cases hbytes
  | some bytes =>
    have hencoded := Base64.decode?_eq_some_iff.1 hbytes
    have hok : (Wire.Shape.object.ofText bytes).mapError IdentityFault.noObject = .ok properties ↔
        Wire.Shape.object.ofText bytes = .ok properties := by
      cases Wire.Shape.object.ofText bytes <;> simp [Except.mapError]
    rw [hok, Wire.ofText_object_iff, Json.parse?_eq_some_iff]
    constructor
    · rintro ⟨tree, htext, hvalue, hdepth⟩
      exact ⟨bytes, tree, hencoded, htext, hvalue, hdepth⟩
    · rintro ⟨bytes', tree, hencoded', htext, hvalue, hdepth⟩
      rw [hencoded', Base64.decode?_encode] at hbytes
      cases hbytes
      exact ⟨tree, htext, hvalue, hdepth⟩

/-- **What is read is what a value holds**, unless it is too deep. -/
theorem parse_eq_ok_iff :
    parse value = .ok i ↔ ∃ tree, Holds value i tree ∧ tree.depth ≤ Json.maxDepth := by
  constructor
  · intro h
    rw [parse_eq] at h
    unfold parts? at h
    cases hsplit : splitSpace (Text.trim value) with
    | none =>
      rw [hsplit] at h
      cases h
    | some parts =>
      obtain ⟨platform, rest⟩ := parts
      obtain ⟨htrim, hspace⟩ := splitSpace_eq_some_iff.1 hsplit
      have hplatform := platform_ne_nil hsplit
      rw [hsplit] at h
      simp only [Option.map_some] at h
      cases hproperties : parseProperties (Text.trim rest) with
      | error fault =>
        rw [hproperties] at h
        cases h
      | ok properties =>
        rw [hproperties] at h
        cases h
        obtain ⟨bytes, tree, hencoded, htext, hvalue, hdepth⟩ :=
          parseProperties_eq_ok_iff.1 hproperties
        refine ⟨tree, ⟨?_, ?_, ⟨rest, bytes, ?_, hencoded, htext⟩, hvalue⟩, hdepth⟩
        · simpa using hplatform
        · simpa using hspace
        · simpa using htrim
  · rintro ⟨tree, ⟨-, hspace, ⟨rest, bytes, htrim, hencoded, htext⟩, hvalue⟩, hdepth⟩
    have hparts := parts?_of_trim htrim hspace
    have hproperties := parseProperties_eq_ok_iff.2 ⟨bytes, tree, hencoded, htext, hvalue, hdepth⟩
    rw [parse_eq, hparts]
    simp only [hproperties, Except.map, String.ofList_toList]

/-- No value is refused for a platform without characters. -/
theorem parse_ne_noPlatform (value : List Char) : parse value ≠ .error .noPlatform := by
  unfold parse
  cases hsplit : splitSpace (Text.trim value) with
  | none => simp
  | some parts =>
    obtain ⟨platform, encoded⟩ := parts
    simp only [if_neg (platform_ne_nil hsplit)]
    cases Base64.decode? (Text.trim encoded) with
    | none => simp
    | some bytes => cases hread : Wire.Shape.object.ofText bytes <;> simp [hread]

/-- **The grammar of the header.** An identity is read from the values that hold it, its properties nested
no deeper than JSON is read, and any other value is refused as malformed. Blanks around a value and behind
its first space change nothing, and no value lacks characters for a platform. -/
theorem header_grammar (value : List Char) :
    (∀ i, parse value = .ok i ↔ ∃ tree, Holds value i tree ∧ tree.depth ≤ Json.maxDepth) ∧
    ((¬ ∃ i tree, Holds value i tree ∧ tree.depth ≤ Json.maxDepth) →
      ∃ fault, parse value = .error fault ∧
        (Http.Rejection.identity fault).response = (Http.Problem.unprocessable
          ("Malformed X-Broker-API-Originating-Identity header: " ++ fault.detail)).response) ∧
    (∀ before after, (∀ c ∈ before, Text.isBlank c = true) → (∀ c ∈ after, Text.isBlank c = true) →
      parse (before ++ value ++ after) = parse value) ∧
    (∀ front pad rest, value = front ++ ' ' :: rest → ' ' ∉ Text.trimStart front →
      (∀ c ∈ pad, Text.isBlank c = true) → parse (front ++ ' ' :: (pad ++ rest)) = parse value) ∧
    parse value ≠ .error .noPlatform := by
  refine ⟨fun i => parse_eq_ok_iff, ?_, ?_, ?_, parse_ne_noPlatform value⟩
  · intro hnone
    cases hparse : parse value with
    | ok i => exact absurd ⟨i, parse_eq_ok_iff.1 hparse⟩ hnone
    | error fault => exact ⟨fault, rfl, rfl⟩
  · intro before after hbefore hafter
    rw [parse_eq, parse_eq value, parts?_append value hbefore hafter]
  · rintro front pad rest rfl hfront hpad
    rw [parse_eq, parse_eq (front ++ ' ' :: rest), parts?_pad hfront hpad]

/-! ## Properties that are too deep -/

/-- A written identity is held by its header. -/
theorem holds_write (hplatform : i.platform ≠ "") (hspace : ' ' ∉ i.platform.toList)
    (hblank : ∀ c ∈ i.platform.toList.head?, Text.isBlank c = false)
    (hnormal : (Json.object i.properties).all Json.isNormal = true) :
    Holds i.write i (Json.object i.properties).document := by
  have hdiscrete := Json.all_mono Json.isDiscrete_of_isNormal _ hnormal
  have hwhole := Json.isWhole_document _ hdiscrete
  have htext := (Document.read_eq_iff hwhole).1 (Json.Document.read_printBytes hdiscrete)
  have hvalue := Json.toJson?_document _ hnormal _ le_rfl
  refine ⟨hplatform, hspace, ⟨_, _, trim_write hplatform hblank, ?_, hwhole, htext⟩, ?_⟩
  · exact Text.trim_of_forall (Base64.isBlank_of_mem_encode _)
  · exact (Document.toJson?_eq_some_iff _).1 hvalue |>.1

/-- **An identity that is too deep is refused**, though its header holds it. -/
theorem parse_write_of_deep (hplatform : i.platform ≠ "") (hspace : ' ' ∉ i.platform.toList)
    (hblank : ∀ c ∈ i.platform.toList.head?, Text.isBlank c = false)
    (hnormal : (Json.object i.properties).all Json.isNormal = true)
    (hdeep : Json.maxDepth < (Json.object i.properties).depth) :
    parse i.write = .error (.noObject .syntaxError) := by
  have htrim := Text.trim_of_forall
    (Base64.isBlank_of_mem_encode (Json.object i.properties).printBytes)
  have hparts := parts?_of_trim (trim_write hplatform hblank) hspace
  rw [parse_eq, hparts, htrim]
  simp only [parseProperties, Base64.decode?_encode, Wire.ofText_printBytes_of_deep hnormal hdeep]
  rfl

end OriginatingIdentity

namespace Sample

/-- Arrays in arrays, the innermost of them empty. -/
def nested : Nat → Json
  | 0 => .array []
  | n + 1 => .array [nested n]

theorem depth_nested (n : Nat) : (nested n).depth = n + 1 := by
  induction n with
  | zero => rfl
  | succ n ih => simp [nested, Json.depth, Json.depthOfItems, ih]

theorem all_nested (n : Nat) : (nested n).all Json.isNormal = true := by
  induction n with
  | zero => rfl
  | succ n ih => simp [nested, Json.all, Json.allItems, Json.isNormal, ih]

/-- A user whose properties are one array too deep. -/
def deepUser : OriginatingIdentity where
  platform := "cf"
  properties := [("deep", nested 126)]

/-- **A header that holds an identity and is refused all the same**, as the properties are too deep. -/
theorem deepUser_is_refused :
    (∃ tree, OriginatingIdentity.Holds deepUser.write deepUser tree) ∧
      OriginatingIdentity.parse deepUser.write = .error (.noObject .syntaxError) := by
  have hblank : ∀ c ∈ deepUser.platform.toList.head?, Text.isBlank c = false := by
    rintro _ ⟨⟩
    rfl
  have hnormal : (Json.object deepUser.properties).all Json.isNormal = true := by
    simp [deepUser, Json.all, Json.allMembers, Json.isNormal, all_nested]
  have hdeep : Json.maxDepth < (Json.object deepUser.properties).depth := by
    simp [deepUser, Json.depth, Json.depthOfMembers, depth_nested, Json.maxDepth]
  exact ⟨⟨_, OriginatingIdentity.holds_write (by decide) (by decide) hblank hnormal⟩,
    OriginatingIdentity.parse_write_of_deep (by decide) (by decide) hblank hnormal hdeep⟩

end Sample

end Brokerage
