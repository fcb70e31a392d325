import Brokerage.Json.Document

/-!
# The grammar of documents

A whole tree has one sequence of tokens, in which commas stand between items and members and colons
behind names. The reader goes the other way with a stack of open containers. What it has read so far can
be told from where it stands, so it reads these tokens as that tree, and nothing else as a whole tree.

* `Document.tokens`: the tokens of a tree.
* `Document.run_document`: **the tokens of a whole tree are delivered as the tree.**
* `Reader.consumed`, `Reader.consumed_step`: the tokens behind a reader, and what a step adds to them.
* `Document.tokens_of_run`: **a whole tree is read from its own tokens.**
* `Document.read_eq_iff`: a text is read as a whole tree if its tokens are those of the tree, and only
  then.
-/

namespace Brokerage.Json

open Document (Frame Reader Progress deliver startValue abandon itemsOf membersOf)

mutual

/-- The tokens of a tree. -/
def Document.tokens : Document → List Token
  | .null => [.null]
  | .bool b => [.bool b]
  | .numeral n => [.numeral n]
  | .text content => [.text content]
  | .array items => .openArray :: items.tokens
  | .object members => .openObject :: members.tokens
  | .broken => [.broken]

/-- The tokens of items behind the opening bracket. -/
def Items.tokens : Items → List Token
  | .closed => [.closeArray]
  | .cut => [.broken]
  | .cons item rest => item.tokens ++ rest.moreTokens

/-- The tokens of items behind another one. -/
def Items.moreTokens : Items → List Token
  | .closed => [.closeArray]
  | .cut => [.broken]
  | .cons item rest => .comma :: (item.tokens ++ rest.moreTokens)

/-- The tokens of members behind the opening bracket. -/
def Members.Written.tokens : Members.Written → List Token
  | .closed => [.closeObject]
  | .cut => [.broken]
  | .cons name value rest => .text name :: .colon :: (value.tokens ++ rest.moreTokens)

/-- The tokens of members behind another one. -/
def Members.Written.moreTokens : Members.Written → List Token
  | .closed => [.closeObject]
  | .cut => [.broken]
  | .cons name value rest => .comma :: .text name :: .colon :: (value.tokens ++ rest.moreTokens)

end

namespace Document

/-! ## From a tree to its tokens and back -/

/-- Goes on with the tokens behind the one that was read. -/
def Progress.goOn : Progress → List Token → Document × List Token
  | .going r, ts => r.run ts
  | .finished d, ts => (d, ts)

theorem run_cons (r : Reader) (t : Token) (ts : List Token) :
    r.run (t :: ts) = (r.step t).goOn ts := by
  rw [Reader.run]
  cases r.step t <;> rfl

/-- No whole tree starts with a closing bracket. -/
theorem tokens_eq_cons {d : Document} (h : d.isWhole = true) :
    ∃ t ts, d.tokens = t :: ts ∧ t ≠ .closeArray := by
  cases d with
  | broken => cases h
  | _ => exact ⟨_, _, rfl, nofun⟩

/-- An array that does not close at once starts with a value. -/
theorem run_firstItem {t : Token} (h : t ≠ .closeArray) (stack : List Frame) (ts : List Token) :
    (Reader.firstItem stack).run (t :: ts) = (Reader.value (.array [] :: stack)).run (t :: ts) := by
  have hstep : (Reader.firstItem stack).step t = (Reader.value (.array [] :: stack)).step t := by
    cases t with
    | closeArray => exact absurd rfl h
    | _ => rfl
  rw [run_cons, run_cons, hstep]

/-- Behind a name and its colon the value of the member is read. -/
theorem run_name (members : List (Option String × Document)) (name : Option String)
    (stack : List Frame) (ts : List Token) :
    (Reader.nextName members stack).run (.text name :: .colon :: ts) =
      (Reader.value (.member members name :: stack)).run ts := by
  rw [run_cons]
  exact run_cons (.colon members name stack) .colon ts

mutual

/-- **The tokens of a whole tree are delivered as the tree** to whatever it stands in. -/
theorem run_document : (d : Document) → d.isWhole = true → (stack : List Frame) →
    (ts : List Token) → (Reader.value stack).run (d.tokens ++ ts) = (deliver d stack).goOn ts
  | .null, _, _, _ => run_cons _ _ _
  | .bool _, _, _, _ => run_cons _ _ _
  | .numeral _, _, _, _ => run_cons _ _ _
  | .text _, _, _, _ => run_cons _ _ _
  | .broken, h, _, _ => nomatch h
  | .array .cut, h, _, _ => nomatch h
  | .array .closed, _, _, _ => (run_cons _ _ _).trans (run_cons _ _ _)
  | .array (.cons item rest), h, stack, ts => by
    obtain ⟨hitem, hrest⟩ := Bool.and_eq_true_iff.1 h
    obtain ⟨t, ts', htokens, hne⟩ := tokens_eq_cons hitem
    have hopen : (Reader.value stack).run ((Document.array (.cons item rest)).tokens ++ ts) =
        (Reader.firstItem stack).run (item.tokens ++ (rest.moreTokens ++ ts)) := by
      rw [← List.append_assoc]
      exact run_cons _ _ _
    rw [hopen, htokens, List.cons_append, run_firstItem hne, ← List.cons_append, ← htokens,
      run_document item hitem]
    exact run_moreItems rest hrest [item] stack ts
  | .object .cut, h, _, _ => nomatch h
  | .object .closed, _, _, _ => (run_cons _ _ _).trans (run_cons _ _ _)
  | .object (.cons name value rest), h, stack, ts => by
    obtain ⟨hvalue, hrest⟩ := Bool.and_eq_true_iff.1 h
    have hopen : (Reader.value stack).run ((Document.object (.cons name value rest)).tokens ++ ts) =
        (Reader.firstName stack).run
          (.text name :: .colon :: (value.tokens ++ (rest.moreTokens ++ ts))) := by
      rw [← List.append_assoc]
      exact run_cons _ _ _
    -- a name is read alike behind the bracket and behind a comma
    have hfirst : ∀ ts, (Reader.firstName stack).run (.text name :: ts) =
        (Reader.nextName [] stack).run (.text name :: ts) := fun ts =>
      (run_cons _ _ _).trans (run_cons _ _ _).symm
    rw [hopen, hfirst, run_name, run_document value hvalue]
    exact run_moreMembers rest hrest [(name, value)] stack ts

/-- Items that are still to come are put behind those that were read. -/
theorem run_moreItems : (rest : Items) → rest.isWhole = true → (items : List Document) →
    (stack : List Frame) → (ts : List Token) →
      (Reader.afterItem items stack).run (rest.moreTokens ++ ts) =
        (deliver (.array (itemsOf items rest)) stack).goOn ts
  | .cut, h, _, _, _ => nomatch h
  | .closed, _, _, _, _ => run_cons _ _ _
  | .cons item rest, h, items, stack, ts => by
    obtain ⟨hitem, hrest⟩ := Bool.and_eq_true_iff.1 h
    have hcomma : (Reader.afterItem items stack).run ((Items.cons item rest).moreTokens ++ ts) =
        (Reader.value (.array items :: stack)).run (item.tokens ++ (rest.moreTokens ++ ts)) := by
      rw [← List.append_assoc]
      exact run_cons _ _ _
    rw [hcomma, run_document item hitem]
    exact run_moreItems rest hrest (item :: items) stack ts

/-- So are members. -/
theorem run_moreMembers : (rest : Members.Written) → rest.isWhole = true →
    (members : List (Option String × Document)) → (stack : List Frame) → (ts : List Token) →
      (Reader.afterMember members stack).run (rest.moreTokens ++ ts) =
        (deliver (.object (membersOf members rest)) stack).goOn ts
  | .cut, h, _, _, _ => nomatch h
  | .closed, _, _, _, _ => run_cons _ _ _
  | .cons name value rest, h, members, stack, ts => by
    obtain ⟨hvalue, hrest⟩ := Bool.and_eq_true_iff.1 h
    have hcomma : (Reader.afterMember members stack).run
        ((Members.Written.cons name value rest).moreTokens ++ ts) =
          (Reader.nextName members stack).run
            (.text name :: .colon :: (value.tokens ++ (rest.moreTokens ++ ts))) := by
      rw [← List.append_assoc]
      exact run_cons _ _ _
    rw [hcomma, run_name, run_document value hvalue]
    exact run_moreMembers rest hrest ((name, value) :: members) stack ts

end

/-! ## What a reader has read -/

/-- A comma, unless nothing was read. -/
def commaBehind {α : Type} : List α → List Token
  | [] => []
  | _ :: _ => [.comma]

/-- The tokens of items, last first, with commas between them. -/
def itemsRead : List Document → List Token
  | [] => []
  | d :: earlier => itemsRead earlier ++ commaBehind earlier ++ d.tokens

/-- The tokens of members, last first, with commas between them. -/
def membersRead : List (Option String × Document) → List Token
  | [] => []
  | (name, d) :: earlier =>
    membersRead earlier ++ commaBehind earlier ++ .text name :: .colon :: d.tokens

/-- The tokens that were read of an open container. -/
def Frame.consumed : Frame → List Token
  | .array items => .openArray :: (itemsRead items ++ commaBehind items)
  | .member members name =>
    .openObject :: (membersRead members ++ commaBehind members ++ [.text name, .colon])

/-- The tokens that were read of open containers, the innermost first. -/
def consumedOf : List Frame → List Token
  | [] => []
  | frame :: stack => consumedOf stack ++ frame.consumed

/-- **The tokens behind a reader.** -/
def Reader.consumed : Reader → List Token
  | .value stack => consumedOf stack
  | .firstItem stack => consumedOf stack ++ [.openArray]
  | .afterItem items stack => consumedOf stack ++ .openArray :: itemsRead items
  | .firstName stack => consumedOf stack ++ [.openObject]
  | .nextName members stack =>
    consumedOf stack ++ .openObject :: (membersRead members ++ commaBehind members)
  | .colon members name stack =>
    consumedOf stack ++ .openObject :: (membersRead members ++ commaBehind members ++ [.text name])
  | .afterMember members stack => consumedOf stack ++ .openObject :: membersRead members

/-- A reader that stands behind an item or a member has read one. -/
def Reader.Proper : Reader → Prop
  | .afterItem items _ => items ≠ []
  | .afterMember members _ => members ≠ []
  | _ => True

/-- The tokens that led to some progress: those behind the reader, or those of the tree if it is
whole. -/
def Progress.Reads (ts : List Token) : Progress → Prop
  | .going r => r.Proper ∧ r.consumed = ts
  | .finished d => d.isWhole = true → d.tokens = ts

/-! ### Trees that break off -/

theorem isWhole_itemsOf (items : List Document) (tail : Items) :
    (itemsOf items tail).isWhole = (items.all isWhole && tail.isWhole) := by
  induction items generalizing tail with
  | nil => rfl
  | cons d items ih =>
    have hcons : itemsOf (d :: items) tail = itemsOf items (.cons d tail) := rfl
    rw [hcons, ih, List.all_cons, Items.isWhole]
    cases d.isWhole <;> cases items.all isWhole <;> rfl

theorem isWhole_membersOf (members : List (Option String × Document)) (tail : Members.Written) :
    (membersOf members tail).isWhole = (members.all (·.2.isWhole) && tail.isWhole) := by
  induction members generalizing tail with
  | nil => rfl
  | cons m members ih =>
    obtain ⟨name, d⟩ := m
    have hcons : membersOf ((name, d) :: members) tail = membersOf members (.cons name d tail) := rfl
    rw [hcons, ih, List.all_cons, Members.Written.isWhole]
    cases d.isWhole <;> cases members.all (·.2.isWhole) <;> rfl

/-- What breaks off leaves nothing whole around it. -/
theorem isWhole_abandon {d : Document} (h : d.isWhole = false) (stack : List Frame) :
    (abandon d stack).isWhole = false := by
  induction stack generalizing d with
  | nil => exact h
  | cons frame stack ih =>
    cases frame with
    | array items =>
      apply ih
      rw [isWhole, isWhole_itemsOf]
      exact Bool.and_false _
    | member members name =>
      apply ih
      rw [isWhole, isWhole_membersOf]
      exact Bool.and_false _

theorem Reader.isWhole_cut (r : Reader) : r.cut.isWhole = false := by
  cases r <;> apply isWhole_abandon <;>
    simp [isWhole, isWhole_itemsOf, isWhole_membersOf, Items.isWhole, Members.Written.isWhole]

/-! ### Steps -/

theorem tokens_itemsOf (items : List Document) :
    (itemsOf items .closed).tokens = itemsRead items ++ [.closeArray] := by
  have hmore : ∀ (earlier : List Document) (d : Document) (tail : Items),
      (itemsOf (d :: earlier) tail).tokens = itemsRead (d :: earlier) ++ tail.moreTokens := by
    intro earlier
    induction earlier with
    | nil =>
      intro d tail
      rfl
    | cons e earlier ih =>
      intro d tail
      have hcons : itemsOf (d :: e :: earlier) tail = itemsOf (e :: earlier) (.cons d tail) := rfl
      rw [hcons, ih]
      simp only [itemsRead, commaBehind, Items.moreTokens, List.append_assoc, List.cons_append,
        List.nil_append]
  cases items with
  | nil => rfl
  | cons d earlier => exact hmore earlier d .closed

theorem tokens_membersOf (members : List (Option String × Document)) :
    (membersOf members .closed).tokens = membersRead members ++ [.closeObject] := by
  have hmore : ∀ (earlier : List (Option String × Document)) (name : Option String) (d : Document)
      (tail : Members.Written), (membersOf ((name, d) :: earlier) tail).tokens =
        membersRead ((name, d) :: earlier) ++ tail.moreTokens := by
    intro earlier
    induction earlier with
    | nil =>
      intro name d tail
      rfl
    | cons e earlier ih =>
      intro name d tail
      have hcons : membersOf ((name, d) :: e :: earlier) tail =
          membersOf (e :: earlier) (.cons name d tail) := rfl
      rw [hcons, ih]
      simp only [membersRead, commaBehind, Members.Written.moreTokens, List.append_assoc,
        List.cons_append, List.nil_append]
  cases members with
  | nil => rfl
  | cons m earlier => exact hmore earlier m.1 m.2 .closed

/-- A value that is delivered was read behind the containers around it. -/
theorem deliver_reads (d : Document) (stack : List Frame) :
    (deliver d stack).Reads (consumedOf stack ++ d.tokens) := by
  cases stack with
  | nil => exact fun _ => rfl
  | cons frame stack =>
    cases frame with
    | array items =>
      refine ⟨List.cons_ne_nil _ _, ?_⟩
      simp only [Reader.consumed, consumedOf, Frame.consumed, itemsRead, List.append_assoc,
        List.cons_append]
    | member members name =>
      refine ⟨List.cons_ne_nil _ _, ?_⟩
      simp only [Reader.consumed, consumedOf, Frame.consumed, membersRead, List.append_assoc,
        List.cons_append, List.nil_append]

theorem finished_reads {d : Document} (h : d.isWhole = false) (ts : List Token) :
    (Progress.finished d).Reads ts := by
  intro hd
  rw [h] at hd
  cases hd

theorem startValue_reads (t : Token) (stack : List Frame) :
    (startValue t stack).Reads (consumedOf stack ++ [t]) := by
  cases t with
  | null => exact deliver_reads .null stack
  | bool b => exact deliver_reads (.bool b) stack
  | numeral n => exact deliver_reads (.numeral n) stack
  | text content => exact deliver_reads (.text content) stack
  | openArray => exact ⟨trivial, rfl⟩
  | openObject => exact ⟨trivial, rfl⟩
  | _ => exact finished_reads (isWhole_abandon rfl stack) _

/-- **A step reads one token.** -/
theorem Reader.step_reads {r : Reader} (hr : r.Proper) (t : Token) :
    (r.step t).Reads (r.consumed ++ [t]) := by
  -- what is not foreseen breaks the tree off
  have hcut : (Progress.finished r.cut).Reads (r.consumed ++ [t]) := finished_reads r.isWhole_cut _
  cases r with
  | value stack => exact startValue_reads t stack
  | firstItem stack =>
    cases t with
    | closeArray =>
      have htokens : (Reader.firstItem stack).consumed ++ [.closeArray] =
          consumedOf stack ++ (array .closed).tokens := List.append_assoc _ _ _
      rw [htokens]
      exact deliver_reads _ _
    | _ => exact startValue_reads _ (.array [] :: stack)
  | afterItem items stack =>
    cases t with
    | comma =>
      refine ⟨trivial, ?_⟩
      cases items with
      | nil => exact absurd rfl hr
      | cons d earlier =>
        simp only [Reader.consumed, consumedOf, Frame.consumed, commaBehind, List.append_assoc,
          List.cons_append]
    | closeArray =>
      have htokens : (Reader.afterItem items stack).consumed ++ [.closeArray] =
          consumedOf stack ++ (array (itemsOf items .closed)).tokens := by
        simp only [Reader.consumed, tokens, tokens_itemsOf, List.append_assoc, List.cons_append]
      rw [htokens]
      exact deliver_reads _ _
    | _ => exact hcut
  | firstName stack =>
    cases t with
    | closeObject =>
      have htokens : (Reader.firstName stack).consumed ++ [.closeObject] =
          consumedOf stack ++ (object .closed).tokens := List.append_assoc _ _ _
      rw [htokens]
      exact deliver_reads _ _
    | text name =>
      refine ⟨trivial, ?_⟩
      simp only [Reader.consumed, membersRead, commaBehind, List.append_assoc, List.nil_append,
        List.cons_append]
    | _ => exact hcut
  | nextName members stack =>
    cases t with
    | text name =>
      refine ⟨trivial, ?_⟩
      simp only [Reader.consumed, List.append_assoc, List.cons_append]
    | _ => exact hcut
  | colon members name stack =>
    cases t with
    | colon =>
      refine ⟨trivial, ?_⟩
      simp only [Reader.consumed, consumedOf, Frame.consumed, List.append_assoc, List.cons_append,
        List.nil_append]
    | _ => exact hcut
  | afterMember members stack =>
    cases t with
    | comma =>
      refine ⟨trivial, ?_⟩
      cases members with
      | nil => exact absurd rfl hr
      | cons m earlier =>
        simp only [Reader.consumed, commaBehind, List.append_assoc, List.cons_append]
    | closeObject =>
      have htokens : (Reader.afterMember members stack).consumed ++ [.closeObject] =
          consumedOf stack ++ (object (membersOf members .closed)).tokens := by
        simp only [Reader.consumed, tokens, tokens_membersOf, List.append_assoc, List.cons_append]
      rw [htokens]
      exact deliver_reads _ _
    | _ => exact hcut

/-- **A whole tree is read from its own tokens.** -/
theorem tokens_of_run {r : Reader} {ts rest : List Token} {d : Document} (hr : r.Proper)
    (hrun : r.run ts = (d, rest)) (hd : d.isWhole = true) : d.tokens ++ rest = r.consumed ++ ts := by
  induction ts generalizing r with
  | nil =>
    cases hrun
    rw [r.isWhole_cut] at hd
    cases hd
  | cons t ts ih =>
    have hreads := r.step_reads hr t
    rw [run_cons] at hrun
    cases hstep : r.step t with
    | going r' =>
      rw [hstep] at hrun hreads
      obtain ⟨hr', hconsumed⟩ := hreads
      rw [ih hr' hrun, hconsumed, List.append_assoc]
      rfl
    | finished d' =>
      rw [hstep] at hrun hreads
      cases hrun
      rw [hreads hd, List.append_assoc]
      rfl

/-- **A text is read as a whole tree** if its tokens are those of the tree, and only then. -/
theorem read_eq_iff {bytes : List UInt8} {d : Document} (hd : d.isWhole = true) :
    read bytes = (d, []) ↔ Token.scan bytes = d.tokens := by
  unfold read
  constructor
  · intro hrun
    have htokens := tokens_of_run (r := .value []) trivial hrun hd
    rw [List.append_nil] at htokens
    exact htokens.symm
  · intro htokens
    have hrun := run_document d hd [] []
    rw [List.append_nil] at hrun
    rw [htokens, hrun]
    rfl

end Document

end Brokerage.Json
