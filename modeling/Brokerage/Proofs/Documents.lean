import Brokerage.Proofs.Grammar
import Brokerage.Proofs.Tokens

/-!
# The document of a printed value

A value is printed as the tokens of a tree, so by the grammar of documents it is read as that tree, and
the tree gives the value back unless its containers are nested too deep.

* `Json.document`: the tree of a printed value.
* `Json.tokens_document`, `Document.read_printBytes`: **a printed value is read as its tree.**
* `Json.depth`, `Json.isNormal`: how deep containers are nested, and what a value that was read looks
  like: whole numbers in range, the members of an object in the order of their names.
* `Json.toJson?_document`: **the tree of a value gives it back.**
-/

namespace Brokerage.Json

mutual

/-- The tree of a printed value. Floating point numbers are left aside. -/
def document : Json → Document
  | .null => .null
  | .bool b => .bool b
  | .number (.int n) => .numeral (.ofInt n)
  | .number (.float _) => .broken
  | .text s => .text (some s)
  | .array items => .array (itemDocuments items)
  | .object members => .object (memberDocuments members)

/-- The trees of items. -/
def itemDocuments : List Json → Items
  | [] => .closed
  | item :: rest => .cons item.document (itemDocuments rest)

/-- The trees of members. -/
def memberDocuments : List (String × Json) → Members.Written
  | [] => .closed
  | (name, value) :: rest => .cons (some name) value.document (memberDocuments rest)

end

mutual

/-- A printed value does not break off. -/
theorem isWhole_document : (j : Json) → j.all isDiscrete = true → j.document.isWhole = true
  | .null, _ => rfl
  | .bool _, _ => rfl
  | .number (.int _), _ => rfl
  | .number (.float _), hp => nomatch hp
  | .text _, _ => rfl
  | .array items, hp => isWhole_itemDocuments items hp
  | .object members, hp => isWhole_memberDocuments members hp

theorem isWhole_itemDocuments : (items : List Json) → allItems isDiscrete items = true →
    (itemDocuments items).isWhole = true
  | [], _ => rfl
  | item :: rest, hp => by
    obtain ⟨hitem, hrest⟩ := Bool.and_eq_true_iff.1 hp
    exact Bool.and_eq_true_iff.2 ⟨isWhole_document item hitem, isWhole_itemDocuments rest hrest⟩

theorem isWhole_memberDocuments : (members : List (String × Json)) →
    allMembers isDiscrete members = true → (memberDocuments members).isWhole = true
  | [], _ => rfl
  | (_, value) :: rest, hp => by
    obtain ⟨hvalue, hrest⟩ := Bool.and_eq_true_iff.1 hp
    exact Bool.and_eq_true_iff.2 ⟨isWhole_document value hvalue, isWhole_memberDocuments rest hrest⟩

end

mutual

/-- **The tree of a printed value has the tokens that are printed.** -/
theorem tokens_document : (j : Json) → j.all isDiscrete = true → j.document.tokens = j.tokens
  | .null, _ => rfl
  | .bool _, _ => rfl
  | .number (.int _), _ => rfl
  | .number (.float _), hp => nomatch hp
  | .text _, _ => rfl
  | .array items, hp => congrArg (Token.openArray :: ·) (tokens_itemDocuments items hp)
  | .object members, hp => congrArg (Token.openObject :: ·) (tokens_memberDocuments members hp)

theorem tokens_itemDocuments : (items : List Json) → allItems isDiscrete items = true →
    (itemDocuments items).tokens = itemTokens items
  | [], _ => rfl
  | [item], hp => by
    have hitem : item.all isDiscrete = true := (Bool.and_eq_true_iff.1 hp).1
    have htokens : (itemDocuments [item]).tokens = item.document.tokens ++ [.closeArray] := rfl
    rw [htokens, tokens_document item hitem]
    rfl
  | item :: next :: more, hp => by
    obtain ⟨hitem, hmore⟩ := Bool.and_eq_true_iff.1 hp
    have htokens : (itemDocuments (item :: next :: more)).tokens =
        item.document.tokens ++ .comma :: (itemDocuments (next :: more)).tokens := rfl
    rw [htokens, tokens_document item hitem, tokens_itemDocuments (next :: more) hmore]
    rfl

theorem tokens_memberDocuments : (members : List (String × Json)) →
    allMembers isDiscrete members = true → (memberDocuments members).tokens = memberTokens members
  | [], _ => rfl
  | [(name, value)], hp => by
    have hvalue : value.all isDiscrete = true := (Bool.and_eq_true_iff.1 hp).1
    have htokens : (memberDocuments [(name, value)]).tokens =
        .text (some name) :: .colon :: (value.document.tokens ++ [.closeObject]) := rfl
    rw [htokens, tokens_document value hvalue]
    rfl
  | (name, value) :: next :: more, hp => by
    obtain ⟨hvalue, hmore⟩ := Bool.and_eq_true_iff.1 hp
    have htokens : (memberDocuments ((name, value) :: next :: more)).tokens =
        .text (some name) :: .colon ::
          (value.document.tokens ++ .comma :: (memberDocuments (next :: more)).tokens) := rfl
    have hprinted : memberTokens ((name, value) :: next :: more) =
        .text (some name) :: .colon :: (value.tokens ++ .comma :: memberTokens (next :: more)) := rfl
    rw [htokens, tokens_document value hvalue, tokens_memberDocuments (next :: more) hmore, hprinted]

end

/-- **The text of a value is read as its tree**, to the end. -/
theorem Document.read_printBytes {j : Json} (h : j.all isDiscrete = true) :
    read j.printBytes = (j.document, []) := by
  have hscan := scan_printChars j h [] nofun
  have hnil : Token.scan [] = [] := by rw [Token.scan]
  rw [List.append_nil, hnil, List.append_nil] at hscan
  rw [read_eq_iff (isWhole_document j h), tokens_document j h]
  exact hscan

/-! ## From trees to values -/

mutual

/-- How deep arrays and objects are nested. -/
def depth : Json → Nat
  | .array items => depthOfItems items + 1
  | .object members => depthOfMembers members + 1
  | _ => 0

/-- The depth of the deepest item. -/
def depthOfItems : List Json → Nat
  | [] => 0
  | item :: rest => max item.depth (depthOfItems rest)

/-- The depth of the deepest member. -/
def depthOfMembers : List (String × Json) → Nat
  | [] => 0
  | (_, value) :: rest => max value.depth (depthOfMembers rest)

end

/-- What a value that was read looks like, seen from outside: whole numbers in range, no floating
point numbers, and the members of an object in the order of their names, each name once. -/
def isNormal : Json → Bool
  | .number (.int n) => Number.minInt ≤ n && n ≤ Number.maxInt
  | .number (.float _) => false
  | .object members => decide ((members.map (·.1)).Pairwise (· < ·))
  | _ => true

theorem isDiscrete_of_isNormal (j : Json) (h : j.isNormal = true) : j.isDiscrete = true := by
  cases j with
  | number n =>
    cases n with
    | int n => rfl
    | float x => cases h
  | _ => rfl

namespace Members

/-- The greatest name comes last. -/
theorem insert_of_forall_lt {name : String} {members : Members} (h : ∀ m ∈ members, m.1 < name)
    (value : Json) : members.insert name value = members ++ [(name, value)] := by
  induction members with
  | nil => rfl
  | cons m members ih =>
    obtain ⟨hm, hmembers⟩ := List.forall_mem_cons.1 h
    unfold insert
    rw [if_neg (String.lt_asymm hm), if_neg (String.ne_of_lt hm).symm, ih hmembers]
    rfl

/-- **Members in the order of their names stay as they are.** -/
theorem sorted_of_pairwise {members : Members} (h : (members.map (·.1)).Pairwise (· < ·)) :
    members.sorted = members := by
  have hfold : ∀ rest acc : Members, ((acc ++ rest).map (·.1)).Pairwise (· < ·) →
      rest.foldl (fun ms m => ms.insert m.1 m.2) acc = acc ++ rest := by
    intro rest
    induction rest with
    | nil => exact fun acc _ => (List.append_nil acc).symm
    | cons m rest ih =>
      intro acc hpairwise
      have hlast : ∀ m' ∈ acc, m'.1 < m.1 := by
        rw [List.map_append, List.pairwise_append] at hpairwise
        exact fun m' hm' => hpairwise.2.2 _ (List.mem_map_of_mem hm') _ List.mem_cons_self
      have hmore : acc ++ m :: rest = (acc ++ [m]) ++ rest := List.append_cons acc m rest
      rw [List.foldl_cons, insert_of_forall_lt hlast, hmore]
      exact ih _ (hmore ▸ hpairwise)
  exact hfold members [] h

end Members

mutual

/-- **The tree of a value gives it back** if there is room for its containers. -/
theorem toJson?_document : (j : Json) → j.all isNormal = true → (room : Nat) → j.depth ≤ room →
    j.document.toJson? room = some j
  | .null, _, room, _ => by cases room <;> rfl
  | .bool _, _, room, _ => by cases room <;> rfl
  | .number (.int n), hp, room, _ => by
    obtain ⟨hmin, hmax⟩ := Bool.and_eq_true_iff.1 hp
    have hn := Numeral.number?_ofInt (of_decide_eq_true hmin) (of_decide_eq_true hmax)
    have hread : (Document.numeral (.ofInt n)).toJson? room =
        (Numeral.ofInt n).number?.map .number := by
      cases room <;> rfl
    exact hread.trans (congrArg (Option.map Json.number) hn)
  | .number (.float _), hp, _, _ => nomatch hp
  | .text _, _, room, _ => by cases room <;> rfl
  | .array items, hp, 0, hroom => nomatch hroom
  | .array items, hp, room + 1, hroom => by
    have hitems := toJson?_itemDocuments items hp room (Nat.le_of_succ_le_succ hroom)
    exact congrArg (Option.map Json.array) hitems
  | .object members, hp, 0, hroom => nomatch hroom
  | .object members, hp, room + 1, hroom => by
    obtain ⟨hnames, hvalues⟩ := Bool.and_eq_true_iff.1 hp
    have hmembers := toJson?_memberDocuments members hvalues room (Nat.le_of_succ_le_succ hroom)
    have hsorted := Members.sorted_of_pairwise (of_decide_eq_true hnames)
    have hread : (Json.object members).document.toJson? (room + 1) =
        ((memberDocuments members).toJson? room).map ofMembers := rfl
    rw [hread, hmembers, Option.map_some, ofMembers, hsorted]

theorem toJson?_itemDocuments : (items : List Json) → allItems isNormal items = true →
    (room : Nat) → depthOfItems items ≤ room → (itemDocuments items).toJson? room = some items
  | [], _, _, _ => rfl
  | item :: rest, hp, room, hroom => by
    obtain ⟨hitem, hrest⟩ := Bool.and_eq_true_iff.1 hp
    have hfirst := toJson?_document item hitem room (le_trans (le_max_left _ _) hroom)
    have hmore := toJson?_itemDocuments rest hrest room (le_trans (le_max_right _ _) hroom)
    unfold itemDocuments Items.toJson?
    rw [hfirst, hmore]
    rfl

theorem toJson?_memberDocuments : (members : Members) → allMembers isNormal members = true →
    (room : Nat) → depthOfMembers members ≤ room →
      (memberDocuments members).toJson? room = some members
  | [], _, _, _ => rfl
  | (name, value) :: rest, hp, room, hroom => by
    obtain ⟨hvalue, hrest⟩ := Bool.and_eq_true_iff.1 hp
    have hfirst := toJson?_document value hvalue room (le_trans (le_max_left _ _) hroom)
    have hmore := toJson?_memberDocuments rest hrest room (le_trans (le_max_right _ _) hroom)
    unfold memberDocuments Members.Written.toJson?
    rw [hfirst, hmore]
    rfl

end

end Brokerage.Json
