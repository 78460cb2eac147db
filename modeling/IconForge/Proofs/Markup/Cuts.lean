import IconForge.Proofs.Markup.Content
import IconForge.Proofs.Markup.Decoding

/-!
# Where a text is cut

Documents are cut from their text by byte offsets, and a cut can fail in three ways: it leaves the
text, it ends before it starts, or it falls inside a character. The first two never happen. The
third happens only to a text with two byte order marks in front, as its places are counted from
behind the second one and the text is cut from behind the first; the program breaks off then, though
there is nothing wrong with the markup. It breaks off at the first cut that fails, and nowhere else.

Character data is decoded by offsets as well, pass by pass over what is left of it. There no cut
fails, whatever the text is, and the passes come to an end with what `decodeText` says.

## Main statements

- `Document.ofChars_ne_crashed`: behind one mark no cut fails.
- `content_within`: behind more marks only a character can be in the way of a cut.
- `Decodes.ofList`: decoding by offsets is `decodeText`.
- `Document.read_cuts`: all three.
-/

namespace IconForge.Markup

open IconForge.Text

/-! ## Behind one mark -/

/-- A text that does not begin with two byte order marks is cut between characters only. -/
theorem Document.ofChars_ne_crashed {text : List Char}
    (single : ¬ [byteOrderMark, byteOrderMark] <+: text) (crash : Crash) :
    Document.ofChars text ≠ .error (.crashed crash) := by
  obtain ⟨unread, parts, ends⟩ := flatten_lexemes (withoutMark text)
  generalize rowEq : (lexemes (withoutMark text)).1 = row at parts
  generalize faultEq : (lexemes (withoutMark text)).2 = fault at ends
  rw [Document.ofChars]
  simp only [withoutMark_withoutMark single, Tokens.ofChars_eq_place, rowEq, faultEq]
  generalize withoutMark text = chars at parts
  cases found : (Tokens.place fault 0 row).root (String.ofList chars) with
  | error e => simp [Except.mapError, bind, Except.bind]
  | ok root =>
    obtain ⟨tag, content⟩ := root
    obtain ⟨prolog, lexeme, rest, -, -, ⟨first, rfl⟩ | ⟨-, rfl⟩⟩ := Tokens.root_place.mp found
    · -- what follows the start tag is read by its lexemes, which know of no places
      have text : chars = (written prolog ++ lexeme) ++ written rest ++ unread := by
        rw [parts, first]
        simp
      have read := filled_place tag text ends
      rw [Nat.zero_add]
      intro crashed
      have crashed : _ = Except.error _ := read.symm.trans crashed
      split at crashed <;> simp at crashed
    · simp [Except.mapError, bind, Except.bind, pure, Except.pure]

/-! ## Behind more marks -/

/-- Tokens stand one after the other, from `start` on and up to `last` at most. -/
inductive Tokens.InOrder (last : Nat) : (start : Nat) → Tokens → Prop
  | ended {start : Nat} : start ≤ last → InOrder last start (.ended start)
  | broken {start : Nat} {fault : Fault} : start ≤ last → InOrder last start (.broken fault start)
  | next {token : Token} {start stop : Nat} {rest : Tokens} :
      start ≤ stop → InOrder last stop rest → InOrder last start (.next token start stop rest)

theorem Tokens.InOrder.le {last start : Nat} {tokens : Tokens}
    (ordered : InOrder last start tokens) : start ≤ last := by
  induction ordered with
  | ended le | broken le => exact le
  | next le _ ih => exact le.trans ih

theorem Tokens.inOrder_ofChars (offset : Nat) (cs : List Char) :
    Tokens.InOrder (offset + byteSize cs) offset (Tokens.ofChars offset cs) := by
  induction cs using lexemes.induct generalizing offset with
  | case1 cs h =>
    rw [ofChars_eq, h]
    exact .ended (Nat.le_add_right _ _)
  | case2 cs fault h =>
    rw [ofChars_eq, h]
    exact .broken (Nat.le_add_right _ _)
  | case3 cs token lexeme rest h _ ih =>
    -- the rest stands behind this lexeme, and both end where the text does
    have after := ih (offset + byteSize lexeme)
    rw [Nat.add_assoc, ← byteSize_append, ← (scan_append h).2] at after
    rw [ofChars_eq, h]
    exact .next (Nat.le_add_right _ _) after

/-- What comes of reading a source is as it should be, and if a cut fails, its offsets are in order
and in the source, so that only a character can be in its way. -/
structure Within {α : Type} (source : String) (post : α → Prop)
    (outcome : Except Halt α) : Prop where
  result : ∀ value, outcome = .ok value → post value
  bounds : ∀ start stop, outcome = .error (.crashed ⟨start, stop⟩) →
    start ≤ stop ∧ stop ≤ source.utf8ByteSize ∧ slice? source start stop = none

namespace Within

variable {α β : Type} {source : String} {post : α → Prop}

theorem ok {value : α} (h : post value) : Within source post (.ok value) where
  result := by
    intro value' eq
    obtain rfl := Except.ok.inj eq
    exact h
  bounds := by simp

theorem malformed (e : DocumentError) : Within source post (.error (.malformed e)) where
  result := by simp
  bounds := by simp

theorem bind {outcome : Except Halt α} {next : α → Except Halt β}
    {after : β → Prop} (first : Within source post outcome)
    (second : ∀ value, post value → Within source after (next value)) :
    Within source after (outcome >>= next) := by
  cases outcome with
  | ok value => exact second value (first.result value rfl)
  | error e =>
    constructor
    · intro value eq
      simp [Bind.bind, Except.bind] at eq
    · intro start stop eq
      obtain rfl : e = .crashed ⟨start, stop⟩ := by simpa [Bind.bind, Except.bind] using eq
      exact first.bounds start stop rfl

theorem mono {outcome : Except Halt α} {weaker : α → Prop}
    (within : Within source post outcome) (h : ∀ value, post value → weaker value) :
    Within source weaker outcome :=
  ⟨fun value eq => h value (within.result value eq), within.bounds⟩

end Within

theorem within_cut {source : String} {start stop : Nat} (ordered : start ≤ stop)
    (fits : stop ≤ source.utf8ByteSize) :
    Within source (fun _ => True) (cut source start stop) := by
  unfold cut
  cases sliced : slice? source start stop with
  | some part => exact .ok trivial
  | none =>
    constructor
    · intro value eq
      simp at eq
    · intro start' stop' eq
      obtain ⟨rfl, rfl⟩ : start = start' ∧ stop = stop' := by simpa using eq
      exact ⟨ordered, fits, sliced⟩

/-- The places of an open element are in order, and they come before what is read next. -/
structure OpenElement.StartsBefore (e : OpenElement) (offset : Nat) : Prop where
  tag : e.start ≤ e.innerStart
  inner : e.innerStart ≤ offset

theorem OpenElement.StartsBefore.mono {e : OpenElement} {offset later : Nat}
    (before : e.StartsBefore offset) (le : offset ≤ later) : e.StartsBefore later :=
  ⟨before.tag, before.inner.trans le⟩

/-- Closing an element cuts within the text. -/
theorem OpenElement.within_close (source : String) {e : OpenElement} {innerStop stop : Nat}
    (before : e.StartsBefore innerStop) (le : innerStop ≤ stop)
    (fits : stop ≤ source.utf8ByteSize) :
    Within source (fun _ => True) (e.close source innerStop stop) := by
  have inner := within_cut before.inner (le.trans fits)
  have markup := within_cut ((before.tag.trans before.inner).trans le) fits
  exact inner.bind fun _ _ => markup.bind fun _ _ => .ok trivial

/-- Reading content whose tokens stand in order within a text cuts within it, and the content ends
there. -/
theorem content_within {source : String} (root : String) {last start : Nat} {tokens : Tokens}
    (ordered : tokens.InOrder last start) (fits : last ≤ source.utf8ByteSize)
    {opened : Option OpenElement} (before : ∀ e ∈ opened, e.StartsBefore start) :
    Within source (fun read => start ≤ read.2 ∧ read.2 ≤ source.utf8ByteSize)
      (tokens.content source root opened) := by
  -- any token may open or close an element, so the open one is as general as the row
  induction ordered generalizing opened with
  | @ended start le =>
    have here : start ≤ source.utf8ByteSize := le.trans fits
    cases opened with
    | none =>
      rw [Tokens.content]
      exact .ok ⟨here, le_rfl⟩
    | some e =>
      rw [Tokens.content]
      have closed := OpenElement.within_close source ((before e rfl).mono here) le_rfl le_rfl
      exact closed.bind fun _ _ => .ok ⟨here, le_rfl⟩
  | broken le =>
    rw [Tokens.content]
    exact .malformed _
  | @next token start stop rest le ordered ih =>
    have stops : stop ≤ source.utf8ByteSize := ordered.le.trans fits
    -- what is read after this token ends after it
    have later (opened : Option OpenElement) (before : ∀ e ∈ opened, e.StartsBefore stop) :=
      (ih before).mono fun read h => And.intro (le.trans h.1) h.2
    cases opened with
    | none =>
      have nothing : ∀ e ∈ (none : Option OpenElement), e.StartsBefore stop := by simp
      cases token with
      | startTag tag =>
        rw [Tokens.content]
        apply later
        rintro e ⟨⟩
        exact ⟨le, le_rfl⟩
      | endTag name =>
        rw [Tokens.content]
        exact .ok ⟨le_rfl, le.trans stops⟩
      | emptyTag | characters | reference | cdata | comment | instruction | doctype =>
        simp only [Tokens.content]
        exact (within_cut le stops).bind fun _ _ =>
          (later none nothing).bind fun _ ended => .ok ended
    | some e =>
      have here := before e rfl
      -- the element goes on, whatever is open in it now
      have goesOn (nesting : List String) : ∀ e' ∈ some { e with nesting := nesting },
          e'.StartsBefore stop := by
        rintro e' ⟨⟩
        exact ⟨here.tag, here.inner.trans le⟩
      cases token with
      | startTag tag =>
        rw [Tokens.content]
        exact later _ (goesOn _)
      | endTag name =>
        rw [Tokens.content]
        split
        · have closed := OpenElement.within_close source here le_rfl (le.trans stops)
          exact closed.bind fun _ _ => .ok ⟨le_rfl, le.trans stops⟩
        · split
          · have closed := OpenElement.within_close source here le stops
            exact closed.bind fun _ _ =>
              (later none (by simp)).bind fun _ ended => .ok ended
          · exact later _ (goesOn _)
      | emptyTag | characters | reference | cdata | comment | instruction | doctype =>
        simp only [Tokens.content]
        exact later _ (goesOn e.nesting)

/-- The content of a root stands in order after its start tag. -/
theorem Tokens.inOrder_of_root {source : String} {last start stop : Nat} {tokens rest : Tokens}
    {tag : Tag} (ordered : tokens.InOrder last start)
    (found : tokens.root source = .ok (tag, some (stop, rest))) : rest.InOrder last stop := by
  induction ordered with
  | ended | broken => simp [root] at found
  | @next token start' stop' rest' le ordered ih =>
    cases isTag : token.isTag with
    | false =>
      rw [root_next_of_not_isTag isTag] at found
      exact ih found
    | true =>
      obtain ⟨-, ⟨-, eq⟩ | ⟨-, eq⟩⟩ := (root_next_of_isTag isTag).mp found
      · obtain ⟨rfl, rfl⟩ := Prod.mk.inj (Option.some.inj eq)
        exact ordered
      · contradiction

theorem byteSize_withoutMark_le (text : List Char) :
    byteSize (withoutMark text) ≤ byteSize text := by
  cases text with
  | nil => rfl
  | cons c cs =>
    rw [withoutMark]
    split
    · exact Nat.le_add_left _ _
    · rfl

/-- Whatever marks are in front, documents are cut within their text. -/
theorem Document.ofChars_within (text : List Char) :
    Within (String.ofList (withoutMark text)) (fun _ => True) (Document.ofChars text) := by
  rw [Document.ofChars]
  have ordered := Tokens.inOrder_ofChars 0 (withoutMark (withoutMark text))
  generalize Tokens.ofChars 0 (withoutMark (withoutMark text)) = tokens at ordered
  have fits := byteSize_withoutMark_le (withoutMark text)
  generalize withoutMark text = chars at ordered fits
  rw [Nat.zero_add] at ordered
  rw [← utf8ByteSize_ofList chars] at fits
  have root : Within (String.ofList chars)
      (fun found : Tag × Option (Nat × Tokens) => ∀ stop rest, found.2 = some (stop, rest) →
        rest.InOrder (byteSize (withoutMark chars)) stop)
      ((tokens.root (String.ofList chars)).mapError .malformed) := by
    -- the way to the root cuts nothing
    cases found : tokens.root (String.ofList chars) with
    | error e => exact .malformed e
    | ok root =>
      refine .ok ?_
      intro stop rest eq
      have isRoot : tokens.root (String.ofList chars) = .ok (root.1, some (stop, rest)) := by
        rw [found, ← eq]
      exact Tokens.inOrder_of_root ordered isRoot
  apply root.bind
  -- the content is cut out last, from where it starts to where reading it has ended
  rintro ⟨tag, content⟩ inOrder
  cases content with
  | none => exact .ok trivial
  | some content =>
    obtain ⟨start, rest⟩ := content
    have noneOpen : ∀ e ∈ (none : Option OpenElement), e.StartsBefore start := by simp
    have read := content_within tag.name (inOrder start rest rfl) fits noneOpen
    exact read.bind fun _ ended => (within_cut ended.1 ended.2).bind fun _ _ => .ok trivial

/-! ## Character data -/

/-- The byte offset at which a marker first stands in a text. -/
def offsetOf? (marker : List Char) (text : String) : Option Nat :=
  (splitAtFirst? marker text.toList).map fun (before, _) => byteSize before

/-- The texts before and after a byte offset. -/
def cutAt? (text : String) (offset : Nat) : Option (String × String) := do
  let before ← slice? text 0 offset
  let after ← slice? text offset text.utf8ByteSize
  return (before, after)

/-- What the front of a text says that begins at a bracket, and what follows it, by byte offsets.
The end of a section that is not closed would lie behind that of the text, and so nothing follows
it. -/
def skipSliced? (text : String) : Option (String × String) :=
  if cdataOpening.isPrefixOf text.toList then do
    let body := String.ofList (text.toList.drop cdataOpening.length)
    let close := (offsetOf? "]]>".toList body).getD body.utf8ByteSize
    let said ← slice? body 0 close
    return (said, (slice? body (close + 3) body.utf8ByteSize).getD "")
  else do
    let close := ((offsetOf? ['>'] text).map (· + 1)).getD text.utf8ByteSize
    let rest ← slice? text close text.utf8ByteSize
    return ("", rest)

/-- The passes over character data, by byte offsets: `Decodes text said` says that no pass over
`text` takes a slice that is none, and that together they say `said`. -/
inductive Decodes : String → String → Prop
  /-- What is left holds no bracket. -/
  | plain {text : String} : offsetOf? ['<'] text = none →
      Decodes text (String.ofList (unescape text.toList))
  | markup {text before tail said rest later : String} {bracket : Nat} :
      offsetOf? ['<'] text = some bracket → cutAt? text bracket = some (before, tail) →
      skipSliced? tail = some (said, rest) → Decodes rest later →
        Decodes text (String.ofList (unescape before.toList) ++ said ++ later)

/-! ### Slices -/

/-- A text is cut at an offset into its front and the rest. -/
theorem slice?_front (front rest : List Char) :
    slice? (String.ofList (front ++ rest)) 0 (byteSize front) = some (String.ofList front) :=
  slice?_middle [] front rest

theorem slice?_rest (front rest : List Char) :
    slice? (String.ofList (front ++ rest)) (byteSize front)
      (String.ofList (front ++ rest)).utf8ByteSize = some (String.ofList rest) := by
  have found := slice?_middle front rest []
  rwa [List.append_nil, ← utf8ByteSize_ofList (front ++ rest)] at found

theorem cutAt?_append (front rest : List Char) :
    cutAt? (String.ofList (front ++ rest)) (byteSize front) =
      some (String.ofList front, String.ofList rest) := by
  rw [cutAt?, slice?_front, slice?_rest]
  rfl

/-- There is no slice that begins behind the end of a text. -/
theorem slice?_behind (text : String) {start : Nat} (behind : text.utf8ByteSize < start) :
    slice? text start text.utf8ByteSize = none := by
  rw [slice?, dif_neg]
  rintro ⟨le, -⟩
  omega

theorem offsetOf?_of_not_found {marker cs : List Char} (missing : splitAtFirst? marker cs = none) :
    offsetOf? marker (String.ofList cs) = none := by
  rw [offsetOf?, String.toList_ofList, missing]
  rfl

/-- Where a marker is found, the text can be cut before and after it. -/
theorem slices_of_found {marker cs before after : List Char}
    (found : splitAtFirst? marker cs = some (before, after)) :
    offsetOf? marker (String.ofList cs) = some (byteSize before) ∧
      slice? (String.ofList cs) 0 (byteSize before) = some (String.ofList before) ∧
      slice? (String.ofList cs) (byteSize before + byteSize marker)
        (String.ofList cs).utf8ByteSize = some (String.ofList after) := by
  have parts := eq_of_splitAtFirst? found
  have front := slice?_front before (marker ++ after)
  have rest := slice?_rest (before ++ marker) after
  rw [← List.append_assoc, ← parts] at front
  rw [← parts, byteSize_append] at rest
  refine ⟨?_, front, rest⟩
  rw [offsetOf?, String.toList_ofList, found]
  rfl

/-- A single character is found where the characters that are not it end. -/
theorem splitAtFirst?_singleton (c : Char) (cs : List Char) :
    splitAtFirst? [c] cs =
      match cs.dropWhile fun d => d != c with
      | [] => none
      | _ :: rest => some (cs.takeWhile fun d => d != c, rest) := by
  induction cs with
  | nil => rfl
  | cons d ds ih =>
    rw [splitAtFirst?]
    by_cases here : d = c
    · simp [here]
    · have other : (d != c) = true := bne_iff_ne.mpr here
      have before : [c].isPrefixOf (d :: ds) = false := by
        simp [List.isPrefixOf, Ne.symm here]
      simp only [List.dropWhile_cons, List.takeWhile_cons, other, if_true, ih, before]
      cases ds.dropWhile fun d => d != c <;> rfl

/-- So what follows the first one is what follows the text before it, or nothing. -/
theorem drop_dropWhile_eq (c : Char) (cs : List Char) :
    (cs.dropWhile fun d => d != c).drop 1 =
      match splitAtFirst? [c] cs with
      | none => []
      | some (_, after) => after := by
  rw [splitAtFirst?_singleton]
  cases cs.dropWhile fun d => d != c <;> rfl

/-! ### Sections and tags -/

/-- What begins at a bracket is skipped by offsets as it is by characters. -/
theorem skipSliced?_ofList (cs : List Char) :
    skipSliced? (String.ofList cs) =
      some (String.ofList (skipMarkup cs).1, String.ofList (skipMarkup cs).2) := by
  rw [skipSliced?, skipMarkup, String.toList_ofList]
  split
  · generalize cs.drop cdataOpening.length = body
    cases found : splitAtFirst? "]]>".toList body with
    | none =>
      -- a section that is not closed says all that is left
      have said := slice?_front body []
      rw [List.append_nil, ← utf8ByteSize_ofList] at said
      have behind : (String.ofList body).utf8ByteSize < (String.ofList body).utf8ByteSize + 3 := by
        omega
      simp only [offsetOf?_of_not_found found, Option.getD_none, said, slice?_behind _ behind]
      rfl
    | some parts =>
      obtain ⟨said, rest⟩ := parts
      obtain ⟨close, front, back⟩ := slices_of_found found
      have three : byteSize "]]>".toList = 3 := rfl
      rw [three] at back
      simp only [close, Option.getD_some, front, back]
      rfl
  · rw [drop_dropWhile_eq]
    cases found : splitAtFirst? ['>'] cs with
    | none =>
      -- a tag that is not closed is all that is left
      have nothing := slice?_rest cs []
      rw [List.append_nil, ← utf8ByteSize_ofList] at nothing
      simp only [offsetOf?_of_not_found found, Option.map_none, Option.getD_none, nothing]
      rfl
    | some parts =>
      obtain ⟨said, rest⟩ := parts
      obtain ⟨close, -, back⟩ := slices_of_found found
      have one : byteSize ['>'] = 1 := rfl
      rw [one] at back
      simp only [close, Option.map_some, Option.getD_some, back]
      rfl

/-! ### Passes -/

/-- Decoding by offsets comes to an end, no slice fails on the way, and it says what the text
says. -/
theorem Decodes.ofList (cs : List Char) :
    Decodes (String.ofList cs) (String.ofList (decodeText cs)) := by
  induction cs using decodeText.induct with
  | case1 cs ends =>
    have noBracket : splitAtFirst? ['<'] cs = none := by rw [splitAtFirst?_singleton, ends]
    have last := Decodes.plain (offsetOf?_of_not_found noBracket)
    have plain : cs.takeWhile (fun c => c != '<') = cs := by
      have parts := List.takeWhile_append_dropWhile (p := fun c => c != '<') (l := cs)
      rwa [ends, List.append_nil] at parts
    rw [decodeText_of_nil ends, plain]
    rwa [String.toList_ofList] at last
  | case2 cs c rest starts shorter ih =>
    have parts := List.takeWhile_append_dropWhile (p := fun c => c != '<') (l := cs)
    have found : splitAtFirst? ['<'] cs = some (cs.takeWhile fun c => c != '<', rest) := by
      rw [splitAtFirst?_singleton, starts]
    obtain ⟨bracket, -, -⟩ := slices_of_found found
    have split := cutAt?_append (cs.takeWhile fun c => c != '<') (cs.dropWhile fun c => c != '<')
    rw [parts, starts] at split
    have pass := Decodes.markup bracket split (skipSliced?_ofList (c :: rest)) ih
    rw [decodeText_of_cons starts, String.ofList_append, String.ofList_append]
    rwa [String.toList_ofList] at pass

/-- The passes over a text are determined by it. -/
theorem Decodes.unique {text said other : String} (first : Decodes text said)
    (second : Decodes text other) : said = other := by
  induction first generalizing other with
  | plain none =>
    cases second with
    | plain => rfl
    | markup some =>
      rw [none] at some
      contradiction
  | markup some split skip later ih =>
    cases second with
    | plain none =>
      rw [some] at none
      contradiction
    | markup some' split' skip' later' =>
      obtain rfl := Option.some.inj (some.symm.trans some')
      obtain ⟨rfl, rfl⟩ := Prod.mk.inj (Option.some.inj (split.symm.trans split'))
      obtain ⟨rfl, rfl⟩ := Prod.mk.inj (Option.some.inj (skip.symm.trans skip'))
      rw [ih later']

/-- No cut fails in a text that does not begin with two byte order marks. In any other one, a cut
that fails is in order and within the text without its first mark, and falls inside a character.
Decoding never fails. -/
theorem Document.read_cuts (text : String) :
    (¬ [byteOrderMark, byteOrderMark] <+: text.toList →
      ∀ crash, Document.read text ≠ .error (.crashed crash)) ∧
    (∀ start stop, Document.read text = .error (.crashed ⟨start, stop⟩) →
      let source := String.ofList (withoutMark text.toList)
      start ≤ stop ∧ stop ≤ source.utf8ByteSize ∧
        ¬ (String.Pos.Raw.IsValid source ⟨start⟩ ∧ String.Pos.Raw.IsValid source ⟨stop⟩)) ∧
    ∀ said, Decodes text said ↔ said = String.ofList (decodeText text.toList) := by
  refine ⟨?single, ?bounds, ?decoding⟩
  case single =>
    intro single crash
    exact Document.ofChars_ne_crashed single crash
  case bounds =>
    intro start stop crashed source
    obtain ⟨ordered, fits, none⟩ :=
      (Document.ofChars_within text.toList).bounds start stop crashed
    refine ⟨ordered, fits, ?_⟩
    intro valid
    rw [slice?, dif_pos ⟨ordered, valid⟩] at none
    contradiction
  case decoding =>
    intro said
    have decoded := Decodes.ofList text.toList
    rw [String.ofList_toList] at decoded
    constructor
    · intro other
      exact other.unique decoded
    · rintro rfl
      exact decoded

/-- Behind one mark the text between the tags is cut out as it is. Behind two the cut begins three
bytes early, and it ends inside a character. -/
theorem Document.read_behind_marks :
    let one := "\uFEFF<svg>éé</svg>"
    let two := "\uFEFF\uFEFF<svg>éé</svg>"
    Document.read one = .ok ⟨"svg", [], [.characters "éé"], "éé"⟩ ∧
      Document.read two = .error (.crashed ⟨5, 9⟩) ∧
      String.Pos.Raw.IsValid one ⟨5⟩ ∧ ¬ String.Pos.Raw.IsValid one ⟨9⟩ := by
  intro one two
  have crashed : Document.read two = .error (.crashed ⟨5, 9⟩) := by decide +kernel
  have source : String.ofList (withoutMark two.toList) = one := by decide +kernel
  have start : String.Pos.Raw.IsValid one ⟨5⟩ := by decide +kernel
  obtain ⟨-, -, inside⟩ := (Document.read_cuts two).2.1 5 9 crashed
  rw [source] at inside
  exact ⟨by decide +kernel, crashed, start, fun stop => inside ⟨start, stop⟩⟩

end IconForge.Markup
