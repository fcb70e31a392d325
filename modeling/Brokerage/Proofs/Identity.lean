import Brokerage.Identity.Header
import Brokerage.Proofs.Base64
import Brokerage.Proofs.Documents

/-!
# The originating identity is read back

A platform writes the identity of its user into a header, and the broker reads it there. Between them
lie a space, the alphabet of base64, the bytes of UTF-8 and the grammar of JSON, and each layer gives
back what it was given.

* `Text.trim_of_ends`: a text without blanks at its ends stays as it is.
* `splitSpace_append`: the first space ends the platform.
* `Wire.ofText_printBytes`: **the text of an object is read as its members.**
* `OriginatingIdentity.parse_write`: **the identity that was written is read.**
-/

namespace Brokerage

/-! ## Blanks -/

namespace Text

theorem dropWhile_of_head {p : Char → Bool} {s : List Char} (h : ∀ c ∈ s.head?, p c = false) :
    s.dropWhile p = s := by
  cases s with
  | nil => rfl
  | cons c s => exact List.dropWhile_cons_of_neg (by rw [h c rfl]; exact Bool.false_ne_true)

/-- **A text without blanks at its ends stays as it is.** -/
theorem trim_of_ends {s : List Char} (hfirst : ∀ c ∈ s.head?, isBlank c = false)
    (hlast : ∀ c ∈ s.getLast?, isBlank c = false) : trim s = s := by
  have hreverse : ∀ c ∈ s.reverse.head?, isBlank c = false := by
    rw [List.head?_reverse]
    exact hlast
  unfold trim trimEnd trimStart
  rw [dropWhile_of_head hfirst, dropWhile_of_head hreverse, List.reverse_reverse]

/-- So does a text without any blank. -/
theorem trim_of_forall {s : List Char} (h : ∀ c ∈ s, isBlank c = false) : trim s = s :=
  trim_of_ends (fun c hc => h c (List.mem_of_mem_head? hc))
    fun c hc => h c (List.mem_of_getLast? hc)

end Text

/-! ## Objects -/

/-- **The text of an object is read as its members.** -/
theorem Wire.ofText_printBytes {members : Json.Members}
    (hnormal : (Json.object members).all Json.isNormal = true)
    (hdepth : (Json.object members).depth ≤ Json.maxDepth) :
    Shape.object.ofText (Json.object members).printBytes = .ok members := by
  obtain ⟨hnames, hvalues⟩ := Bool.and_eq_true_iff.1 hnormal
  have hread := Json.Document.read_printBytes (Json.all_mono Json.isDiscrete_of_isNormal _ hnormal)
  have hmembers := Json.toJson?_memberDocuments members hvalues 126 (Nat.le_of_succ_le_succ hdepth)
  have hsorted := Json.Members.sorted_of_pairwise (of_decide_eq_true hnames)
  have hvalue : Shape.object.ofDocument Json.maxDepth (Json.object members).document =
      .ok members := by
    simp only [Json.document, Json.maxDepth, Shape.ofDocument, hmembers, hsorted]
  unfold Shape.ofText Shape.ofFront
  rw [hread, hvalue]

/-! ## The header -/

namespace OriginatingIdentity

/-- **The first space ends the platform.** -/
theorem splitSpace_append {platform : List Char} (h : ∀ c ∈ platform, c ≠ ' ') (rest : List Char) :
    splitSpace (platform ++ ' ' :: rest) = some (platform, rest) := by
  induction platform with
  | nil => rfl
  | cons c platform ih =>
    obtain ⟨hc, hplatform⟩ := List.forall_mem_cons.1 h
    rw [List.cons_append, splitSpace, if_neg hc, ih hplatform]
    rfl

/-- The header has no blanks at its ends: it begins like its platform and ends like its properties. -/
theorem trim_write {i : OriginatingIdentity} (hplatform : i.platform ≠ "")
    (hblank : ∀ c ∈ i.platform.toList.head?, Text.isBlank c = false) : Text.trim i.write = i.write := by
  have hencode := Base64.isBlank_of_mem_encode (Json.object i.properties).printBytes
  apply Text.trim_of_ends
  · intro c hc
    unfold write at hc
    cases hchars : i.platform.toList with
    | nil => exact absurd (String.toList_eq_nil_iff.1 hchars) hplatform
    | cons first rest =>
      rw [hchars] at hc hblank
      exact hblank c hc
  · intro c hc
    obtain hnil | ⟨front, last, hlast⟩ :=
      List.eq_nil_or_concat (Base64.encode (Json.object i.properties).printBytes)
    · -- the text of an object is not empty, and neither is what it is encoded as
      have hdecode := Base64.decode?_encode (Json.object i.properties).printBytes
      rw [hnil] at hdecode
      cases hdecode
    · unfold write at hc
      rw [hlast, List.concat_eq_append] at hc hencode
      rw [← List.cons_append, ← List.append_assoc, List.getLast?_concat] at hc
      cases hc
      exact hencode c (List.mem_append_right _ List.mem_cons_self)

/-- **The identity that was written is read**, if its platform can stand in front of a space and its
properties are an object that JSON can hold. -/
theorem parse_write (i : OriginatingIdentity) (hplatform : i.platform ≠ "")
    (hspace : ' ' ∉ i.platform.toList)
    (hblank : ∀ c ∈ i.platform.toList.head?, Text.isBlank c = false)
    (hnormal : (Json.object i.properties).all Json.isNormal = true)
    (hdepth : (Json.object i.properties).depth ≤ 127) : parse i.write = .ok i := by
  have hsplit : splitSpace i.write =
      some (i.platform.toList, Base64.encode (Json.object i.properties).printBytes) :=
    splitSpace_append (fun c hc hc' => hspace (hc' ▸ hc)) _
  have hchars : i.platform.toList ≠ [] := fun h => hplatform (String.toList_eq_nil_iff.1 h)
  have htrim := Text.trim_of_forall
    (Base64.isBlank_of_mem_encode (Json.object i.properties).printBytes)
  unfold parse
  rw [trim_write hplatform hblank, hsplit]
  simp only [if_neg hchars, htrim, Base64.decode?_encode, Wire.ofText_printBytes hnormal hdepth,
    String.ofList_toList]

end OriginatingIdentity

namespace Sample

/-- A user with a name beyond ASCII, a note that needs escapes and the largest and the smallest
number. -/
def user : OriginatingIdentity where
  platform := "cloudfoundry"
  properties :=
    [("ids", .array [.int Number.minInt, .int 0, .int Number.maxInt]),
      ("name", .text "Zoë 🦀"),
      ("note", .object [("lines", .text "a \"quoted\"\n\u0001line\\"), ("ok", .bool true)]),
      ("parent", .null)]

/-- The broker reads who the user is. -/
theorem parse_write_user : OriginatingIdentity.parse user.write = .ok user :=
  have hblank : ∀ c ∈ user.platform.toList.head?, Text.isBlank c = false := by
    rintro _ ⟨⟩
    rfl
  OriginatingIdentity.parse_write user (by decide) (by decide) hblank (by decide) (by decide)

end Sample

end Brokerage
