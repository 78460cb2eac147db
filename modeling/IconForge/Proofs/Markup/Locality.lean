import IconForge.Proofs.Markup.Content

/-!
# Reading does not look ahead

A token that has been read is read in the same way when more text follows. Only text that reaches to
the end of what has been read may go on, and so may an ampersand there; a tag always has an end of
its own. So all the lexemes of a text up to a tag stay the same whatever is put after the text.

In the same way a content that has come to its end tag is read without what follows that tag.

## Main statements

- `scan_followed`: one token, when more text follows.
- `lexemes_followed`: the lexemes up to a tag, when more text follows.
- `contentOf_cons_cases`: what a lexeme can do to a content.
- `contentOf_followed`: a content up to the tag that ends it, when other lexemes follow.
-/

namespace IconForge.Markup

open IconForge.Text

/-! ## Where constructs end -/

/-- The first place of a marker does not depend on what follows the marker. -/
theorem splitAtFirst?_front {marker cs before after : List Char}
    (h : splitAtFirst? marker cs = some (before, after)) (more : List Char) :
    splitAtFirst? marker (before ++ marker ++ more) = some (before, more) := by
  have atOnce : splitAtFirst? marker (marker ++ more) = some ([], more) := by
    cases marker <;> cases more <;> simp [splitAtFirst?]
  induction cs generalizing before with
  | nil =>
    rw [splitAtFirst?] at h
    split at h
    · obtain ⟨rfl, -⟩ := Prod.mk.inj (Option.some.inj h)
      exact atOnce
    · contradiction
  | cons c cs ih =>
    rw [splitAtFirst?] at h
    by_cases here : marker <+: c :: cs
    · rw [if_pos (by simpa using here)] at h
      obtain ⟨rfl, -⟩ := Prod.mk.inj (Option.some.inj h)
      exact atOnce
    · rw [if_neg (by simpa using here)] at h
      obtain ⟨⟨before', after'⟩, later, eq⟩ := Option.map_eq_some_iff.mp h
      obtain ⟨rfl, rfl⟩ := Prod.mk.inj eq
      -- the marker would already begin here without what follows
      have notHere : ¬ marker <+: c :: (before' ++ marker ++ more) := by
        intro starts
        have front : c :: (before' ++ marker) <+: c :: cs := by
          rw [eq_of_splitAtFirst? later]
          exact List.prefix_append _ _
        have long : marker.length ≤ (c :: (before' ++ marker)).length := by
          simp
          omega
        exact here ((List.prefix_of_prefix_length_le starts (List.prefix_append _ _) long).trans
          front)
      simp only [List.cons_append]
      rw [splitAtFirst?, if_neg (by simpa using notHere), ih later]
      rfl

/-- A marker that stands in a text is found. -/
theorem splitAtFirst?_ne_none (marker before after : List Char) :
    splitAtFirst? marker (before ++ marker ++ after) ≠ none := by
  induction before with
  | nil => cases marker <;> cases after <;> simp [splitAtFirst?]
  | cons c before ih =>
    rw [List.cons_append, List.cons_append, splitAtFirst?]
    split
    · simp
    · simpa using ih

/-- A text without the marker is passed over together with a character that the marker does not
have. -/
theorem splitAtFirst?_append_of_none {marker cs : List Char} {d : Char}
    (missing : splitAtFirst? marker cs = none) (outside : d ∉ marker) (more : List Char) :
    splitAtFirst? marker (cs ++ d :: more) =
      (splitAtFirst? marker more).map fun (before, after) => (cs ++ d :: before, after) := by
  induction cs with
  | nil =>
    have notHere : ¬ marker <+: d :: more := by
      intro starts
      cases marker with
      | nil => simp [splitAtFirst?] at missing
      | cons c marker =>
        obtain ⟨rfl, -⟩ := List.cons_prefix_cons.mp starts
        exact outside List.mem_cons_self
    rw [List.nil_append, splitAtFirst?, if_neg (by simpa using notHere)]
    rfl
  | cons c cs ih =>
    rw [splitAtFirst?] at missing
    split at missing
    · contradiction
    · rename_i here
      have later := Option.map_eq_none_iff.mp missing
      have notHere : ¬ marker <+: c :: (cs ++ d :: more) := by
        intro starts
        have front := List.prefix_append (c :: cs) (d :: more)
        rcases List.prefix_or_prefix_of_prefix starts front with within | ⟨back, rfl⟩
        · exact here (List.isPrefixOf_iff_prefix.mpr within)
        · -- the marker would go on with the character that it does not have
          have goesOn := (List.prefix_append_right_inj (c :: cs)).mp starts
          cases back with
          | nil => exact here (by simp)
          | cons b back =>
            obtain ⟨rfl, -⟩ := List.cons_prefix_cons.mp goesOn
            exact outside (by simp)
      rw [List.cons_append, splitAtFirst?, if_neg (by simpa using notHere), ih later,
        Option.map_map]
      rfl

/-- A marker that is not in a front of a text ends behind it. -/
theorem suffix_of_splitAtFirst? {marker cs more before after : List Char}
    (missing : splitAtFirst? marker cs = none)
    (found : splitAtFirst? marker (cs ++ more) = some (before, after)) : after <:+ more := by
  have whole := eq_of_splitAtFirst? found
  have back : more <:+ before ++ marker ++ after := whole ▸ List.suffix_append cs more
  rcases List.suffix_or_suffix_of_suffix (List.suffix_append _ after) back with ends | ⟨rest, rfl⟩
  · exact ends
  · -- otherwise the marker would be in the front
    rw [← List.append_assoc] at whole
    rw [List.append_cancel_right whole] at missing
    exact absurd missing (splitAtFirst?_ne_none marker before rest)

/-- The first place of a marker stays the first one. -/
theorem splitAtFirst?_followed {marker cs before after : List Char}
    (h : splitAtFirst? marker cs = some (before, after)) (more : List Char) :
    splitAtFirst? marker (cs ++ more) = some (before, after ++ more) := by
  have front := splitAtFirst?_front h (after ++ more)
  rwa [← List.append_assoc, ← eq_of_splitAtFirst? h] at front

theorem tagBody?_followed {quote : Option Char} {cs body rest : List Char}
    (h : tagBody? quote cs = some (body, rest)) (more : List Char) :
    tagBody? quote (cs ++ more) = some (body, rest ++ more) := by
  induction cs generalizing quote body with
  | nil => simp [tagBody?] at h
  | cons c cs ih =>
    cases quote with
    | none =>
      rw [tagBody?] at h
      rw [List.cons_append, tagBody?]
      by_cases bracket : (c == '>') = true
      · simp_all
      · simp only [bracket, Bool.false_eq_true, if_false, Option.map_eq_some_iff, Prod.exists,
          Prod.mk.injEq] at h ⊢
        obtain ⟨body, rest, found, rfl, rfl⟩ := h
        exact ⟨body, rest ++ more, ih found, rfl, rfl⟩
    | some q =>
      simp only [tagBody?, List.cons_append, Option.map_eq_some_iff, Prod.exists,
        Prod.mk.injEq] at h ⊢
      obtain ⟨body, rest, found, rfl, rfl⟩ := h
      exact ⟨body, rest ++ more, ih found, rfl, rfl⟩

theorem doctypeBody?_followed {depth : Nat} {cs body rest : List Char}
    (h : doctypeBody? depth cs = some (body, rest)) (more : List Char) :
    doctypeBody? depth (cs ++ more) = some (body, rest ++ more) := by
  fun_induction doctypeBody? depth cs generalizing body with
  | case1 => simp at h
  | case2 cs =>
    obtain ⟨rfl, rfl⟩ := Prod.mk.inj (Option.some.inj h)
    rfl
  | case3 depth cs ih | case4 depth cs ih | case5 depth c cs _ _ _ ih =>
    obtain ⟨⟨body', rest'⟩, found, eq⟩ := Option.map_eq_some_iff.mp h
    obtain ⟨rfl, rfl⟩ := Prod.mk.inj eq
    rw [List.cons_append, doctypeBody?]
    · rw [ih found]
      rfl
    all_goals simp_all

/-! ## Tokens -/

variable {cs lexeme rest : List Char} {token : Token}

/-- What stands between an opening and the first marker after it stays there. -/
theorem delimited_followed {opening marker cs body rest : List Char} {length : Nat}
    (opens : opening.isPrefixOf cs = true) (isLength : opening.length = length)
    (found : splitAtFirst? marker (cs.drop length) = some (body, rest)) (more : List Char) :
    opening.isPrefixOf (cs ++ more) = true ∧
      splitAtFirst? marker ((cs ++ more).drop length) = some (body, rest ++ more) := by
  rw [List.isPrefixOf_iff_prefix] at opens ⊢
  refine ⟨opens.trans (List.prefix_append _ _), ?_⟩
  rw [← isLength] at found ⊢
  rw [List.drop_append_of_le_length opens.length_le]
  exact splitAtFirst?_followed found more

/-- A run of characters of a class that ends in a text stays the same. -/
theorem span_followed {p : Char → Bool} {cs : List Char} (ends : cs.dropWhile p ≠ [])
    (more : List Char) :
    (cs ++ more).takeWhile p = cs.takeWhile p ∧
      (cs ++ more).dropWhile p = cs.dropWhile p ++ more := by
  have parts := List.takeWhile_append_dropWhile (p := p) (l := cs)
  obtain ⟨c, after, eq⟩ := List.exists_cons_of_ne_nil ends
  have outside : p c = false := by
    have := List.head_dropWhile_not p ends
    simpa [eq] using this
  have inside : ∀ d ∈ cs.takeWhile p, p d = true := fun d mem => by
    simpa using List.mem_takeWhile_imp mem
  have text : cs ++ more = cs.takeWhile p ++ (c :: after ++ more) := by
    rw [← List.append_assoc, ← eq, parts]
  rw [text, List.takeWhile_append_of_pos inside, List.dropWhile_append_of_pos inside, eq]
  simp [outside]

theorem scanBang_followed (h : scanBang cs = .token token lexeme rest) (more : List Char) :
    scanBang (cs ++ more) = .token token lexeme (rest ++ more) := by
  unfold scanBang at h
  split at h
  · -- a CDATA section
    split at h
    · rename_i opens
      split at h
      · rename_i found
        obtain ⟨rfl, rfl, rfl⟩ := Scan.token.inj h
        have isLength : "[CDATA[".toList.length = 7 := rfl
        obtain ⟨stillOpens, stillFound⟩ := delimited_followed opens isLength found more
        rw [List.cons_append] at stillOpens stillFound ⊢
        rw [scanBang, if_pos stillOpens, stillFound]
      · simp at h
    · simp at h
  · -- a comment
    split at h
    · rename_i opens
      split at h
      · rename_i found
        obtain ⟨rfl, rfl, rfl⟩ := Scan.token.inj h
        have isLength : "--".toList.length = 2 := rfl
        obtain ⟨stillOpens, stillFound⟩ := delimited_followed opens isLength found more
        rw [List.cons_append] at stillOpens stillFound ⊢
        rw [scanBang, if_pos stillOpens, stillFound]
      · simp at h
    · simp at h
  · -- a document type declaration
    rename_i noSection noComment
    split at h
    · rename_i letter
      split at h
      · rename_i found
        split at h
        · simp at h
        · split at h
          · simp at h
          · rename_i keyword named
            obtain ⟨rfl, rfl, rfl⟩ := Scan.token.inj h
            have followed := doctypeBody?_followed found more
            rw [List.cons_append] at followed ⊢
            rw [scanBang, if_pos letter, followed]
            · simp only [if_neg keyword, if_neg named]
            · simpa using noSection
            · simpa using noComment
      · simp at h
    · simp at h
  · simp at h

theorem scanInstruction_followed (h : scanInstruction cs = .token token lexeme rest)
    (more : List Char) : scanInstruction (cs ++ more) = .token token lexeme (rest ++ more) := by
  unfold scanInstruction at h
  split at h
  · simp at h
  · rename_i bracket
    split at h
    · rename_i found
      obtain ⟨rfl, rfl, rfl⟩ := Scan.token.inj h
      -- an instruction that is closed has a first character
      have first : (cs ++ more).head? = cs.head? := by
        cases cs with
        | nil => simp [splitAtFirst?] at found
        | cons c cs => rfl
      rw [scanInstruction, first, if_neg bracket, splitAtFirst?_followed found]
    · simp at h

/-- What begins with a bracket has an end of its own. -/
theorem scanMarkup_followed (h : scanMarkup cs = .token token lexeme rest) (more : List Char) :
    scanMarkup (cs ++ more) = .token token lexeme (rest ++ more) := by
  unfold scanMarkup at h
  split at h
  · rw [List.cons_append, scanMarkup]
    exact scanBang_followed h more
  · rw [List.cons_append, scanMarkup]
    exact scanInstruction_followed h more
  · split at h
    · rename_i found
      obtain ⟨rfl, rfl, rfl⟩ := Scan.token.inj h
      rw [List.cons_append, scanMarkup, tagBody?_followed found]
    · simp at h
  · rename_i noBang noInstruction noEnd
    split at h
    · rename_i found
      obtain ⟨rfl, rfl, rfl⟩ := Scan.token.inj h
      have followed := tagBody?_followed found more
      cases cs with
      | nil => simp [tagBody?] at found
      | cons c cs =>
        rw [List.cons_append] at followed ⊢
        rw [scanMarkup, followed]
        all_goals simp_all
    · simp at h

/-- What begins with an ampersand ends before more text. -/
theorem scanAmpersand_followed (h : scanAmpersand cs = .token token lexeme rest)
    (ends : rest ≠ []) (more : List Char) :
    scanAmpersand (cs ++ more) = .token token lexeme (rest ++ more) := by
  have inside : cs.dropWhile isInReference ≠ [] := by
    intro none
    rw [scanAmpersand, none] at h
    obtain ⟨-, -, rfl⟩ := Scan.token.inj h
    exact ends rfl
  obtain ⟨taken, dropped⟩ := span_followed inside more
  unfold scanAmpersand at h ⊢
  rw [taken, dropped]
  split at h
  · rename_i eq
    obtain ⟨rfl, rfl, rfl⟩ := Scan.token.inj h
    rw [eq]
    rfl
  · rename_i noReference
    obtain ⟨rfl, rfl, rfl⟩ := Scan.token.inj h
    -- the first character after the ampersand's text is the same, and no semicolon
    split
    · rename_i eq
      obtain ⟨c, after, first⟩ := List.exists_cons_of_ne_nil inside
      rw [first, List.cons_append] at eq
      obtain ⟨rfl, -⟩ := List.cons.inj eq
      exact absurd first (noReference after)
    · rfl

/-- A token that is read stays the same when more text follows, if it is a tag or if there is more
text already. -/
theorem scan_followed (h : scan cs = .token token lexeme rest)
    (ends : token.isTag = true ∨ rest ≠ []) (more : List Char) :
    scan (cs ++ more) = .token token lexeme (rest ++ more) := by
  unfold scan at h
  split at h
  · simp at h
  · rw [List.cons_append, scan]
    exact scanMarkup_followed h more
  · rename_i after
    rw [List.cons_append, scan]
    refine scanAmpersand_followed h (ends.resolve_left fun isTag => ?_) more
    unfold scanAmpersand at h
    split at h <;> obtain ⟨rfl, -, -⟩ := Scan.token.inj h <;> exact Bool.noConfusion isTag
  · rename_i filled noMarkup noAmpersand
    obtain ⟨rfl, rfl, rfl⟩ := Scan.token.inj h
    have goesOn : cs.dropWhile isPlain ≠ [] := ends.resolve_left (by simp [Token.isTag])
    obtain ⟨taken, dropped⟩ := span_followed goesOn more
    cases cs with
    | nil => exact absurd rfl goesOn
    | cons c cs =>
      rw [← taken, ← dropped, List.cons_append, scan]
      all_goals simp_all

/-! ## Lexemes -/

/-- The lexemes of a text up to a tag are those of any text that goes on after it. -/
theorem lexemes_followed {cs : List Char} {row after : List Lexeme} {l : Lexeme}
    (h : (lexemes cs).1 = row ++ l :: after) (isTag : l.1.isTag = true) (more : List Char) :
    ∃ after', (lexemes (cs ++ more)).1 = row ++ l :: after' := by
  induction cs using lexemes.induct generalizing row with
  | case1 cs done => simp [lexemes_of_done done] at h
  | case2 cs fault failed => simp [lexemes_of_fault failed] at h
  | case3 cs token lexeme rest read _ ih =>
    rw [lexemes_of_token read] at h
    cases row with
    | nil =>
      obtain ⟨rfl, -⟩ := List.cons.inj h
      exact ⟨_, by rw [lexemes_of_token (scan_followed read (Or.inl isTag) more)]; rfl⟩
    | cons first row =>
      obtain ⟨rfl, later⟩ := List.cons.inj h
      -- the tag comes later, so there is more text after this lexeme
      have goesOn : rest ≠ [] := by
        rintro rfl
        rw [lexemes_of_done rfl] at later
        simp at later
      obtain ⟨after', eq⟩ := ih later
      exact ⟨after', by rw [lexemes_of_token (scan_followed read (Or.inr goesOn) more), eq]; rfl⟩

/-! ## Contents -/

/-- A lexeme ends a content, or belongs to it and leaves it in a state that does not depend on what
comes later. -/
theorem contentOf_cons_cases (root : String) (e : Option Frame) (l : Lexeme) :
    (∃ nodes, ∀ fault row, contentOf root fault e (l :: row) = .ok (nodes, [])) ∨
      ∃ e' nodes, ∀ fault row,
        contentOf root fault e (l :: row) = (contentOf root fault e' row).after nodes l.2 := by
  obtain ⟨token, lexeme⟩ := l
  cases e with
  | none =>
    cases token with
    | startTag tag => exact Or.inr ⟨_, _, fun fault row => by rw [contentOf]⟩
    | endTag name => exact Or.inl ⟨_, fun fault row => by rw [contentOf]⟩
    | emptyTag | characters | reference | cdata | comment | instruction | doctype =>
      exact Or.inr ⟨_, _, fun fault row => by rw [contentOf] <;> simp⟩
  | some e =>
    cases token with
    | startTag tag => exact Or.inr ⟨_, _, fun fault row => by rw [contentOf]⟩
    | endTag name =>
      by_cases rootEnds : name = root ∧ name ∉ e.nesting
      · exact Or.inl ⟨_, fun fault row => by rw [contentOf, if_pos rootEnds]⟩
      · -- the innermost element ends, and perhaps it is the last one that is open
        cases outer : e.nesting.tail with
        | nil => exact Or.inr ⟨_, _, fun fault row => by rw [contentOf, if_neg rootEnds, outer]⟩
        | cons name' nesting =>
          exact Or.inr ⟨_, _, fun fault row => by rw [contentOf, if_neg rootEnds, outer]⟩
    | emptyTag | characters | reference | cdata | comment | instruction | doctype =>
      exact Or.inr ⟨_, _, fun fault row => by rw [contentOf] <;> simp⟩

/-- A content that has come to its end tag is read without what follows that tag. -/
theorem contentOf_followed {root : String} {fault : Option Fault} {e : Option Frame}
    {content rest : List Lexeme} {last : Lexeme} {nodes : List Node}
    (filled : ∀ l ∈ content ++ [last], l.2 ≠ [])
    (h : contentOf root fault e (content ++ last :: rest) = .ok (nodes, written content))
    (fault' : Option Fault) (rest' : List Lexeme) :
    contentOf root fault' e (content ++ last :: rest') = .ok (nodes, written content) := by
  induction content generalizing e nodes with
  | nil =>
    rcases contentOf_cons_cases root e last with ⟨stopped, stops⟩ | ⟨e', before, goesOn⟩
    · rw [List.nil_append] at h ⊢
      rw [stops, ← h, stops]
    · -- the last lexeme would belong to the content, which has no characters
      rw [List.nil_append, goesOn] at h
      obtain ⟨more, inner, -, -, none⟩ := Reading.after_eq_ok h
      exact absurd (List.append_eq_nil_iff.mp none.symm).1 (filled last (by simp))
  | cons l content ih =>
    rw [List.cons_append] at h ⊢
    obtain ⟨here, filled⟩ := List.forall_mem_cons.mp filled
    rcases contentOf_cons_cases root e l with ⟨stopped, stops⟩ | ⟨e', before, goesOn⟩
    · -- the content would end before a lexeme that belongs to it
      rw [stops] at h
      have none : [] = written (l :: content) := (Prod.mk.inj (Except.ok.inj h)).2
      exact absurd (List.append_eq_nil_iff.mp none.symm).1 here
    · rw [goesOn] at h ⊢
      obtain ⟨more, inner, reading, rfl, eq⟩ := Reading.after_eq_ok h
      obtain rfl := List.append_cancel_left eq
      rw [ih filled reading]
      rfl

end IconForge.Markup
