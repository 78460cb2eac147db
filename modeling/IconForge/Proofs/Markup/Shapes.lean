import IconForge.Proofs.Markup.Locality

/-!
# What lexemes look like

Text holds no opening bracket, a CDATA section is closed at the first place where it can be, and all
other markup begins and ends with a bracket. It may have more closing brackets before its last one.
What comes after such a bracket and opens a bracket again has a character of some kind that no
opening of a CDATA section has: the quote that closes a value, the dashes or the question mark at
the end of the construct, or the bracket that is closed in return.

## Main statements

- `marked_of_tagBody?`, `marked_of_doctypeBody?`, `marked_of_last`: markup of each kind is marked.
- `shape_of_scan`: every lexeme has one of the shapes.
-/

namespace IconForge.Markup

open IconForge.Text

/-! ## Shapes -/

/-- Tags, comments, instructions and declarations. -/
def Token.isMarkup : Token → Bool
  | .characters | .reference | .cdata => false
  | _ => true

/-- A CDATA section with this body is closed right after it. -/
def IsBody (body : List Char) : Prop :=
  ∀ more, splitAtFirst? "]]>".toList (body ++ "]]>".toList ++ more) = some (body, more)

/-- The characters that close a value or a construct. -/
def isMark (c : Char) : Bool := c == '>' || c == '-' || c == '?' || c == '"' || c == '\x27'

/-- What comes after a closing bracket has a mark if it has an opening bracket. -/
def Marked (cs : List Char) : Prop :=
  ∀ before after, cs = before ++ '>' :: after → '<' ∈ after → ∃ c ∈ after, isMark c = true

/-- What a lexeme looks like. -/
inductive Shape : Lexeme → Prop where
  | characters {chars : List Char} (noTag : '<' ∉ chars) : Shape (.characters, chars)
  | reference {chars : List Char} : Shape (.reference, '&' :: chars)
  | cdata {body : List Char} (isBody : IsBody body) :
      Shape (.cdata, cdataOpening ++ body ++ "]]>".toList)
  | markup {token : Token} {body : List Char} (isMarkup : token.isMarkup)
      (noSection : ¬ cdataOpening <+: '<' :: (body ++ ['>']))
      (marked : Marked ('<' :: body)) : Shape (token, '<' :: (body ++ ['>']))

/-! ## Marks -/

theorem Marked.of_suffix {cs rest : List Char} (marked : Marked cs) (suffix : rest <:+ cs) :
    Marked rest := by
  obtain ⟨front, rfl⟩ := suffix
  intro before after eq opens
  exact marked (front ++ before) after (by rw [eq, List.append_assoc]) opens

/-- A text that ends with a mark is marked. -/
theorem marked_of_last (front : List Char) {c : Char} (mark : isMark c = true) :
    Marked (front ++ [c]) := by
  intro before after eq opens
  rcases List.eq_nil_or_concat' after with rfl | ⟨init, last, rfl⟩
  · contradiction
  · rw [← List.cons_append, ← List.append_assoc] at eq
    obtain rfl := List.singleton_injective (List.append_inj' eq rfl).2
    exact ⟨c, by simp, mark⟩

/-- Nothing comes after a closing bracket of an opening that has none. -/
theorem Marked.append {opening cs : List Char} (noClosing : '>' ∉ opening) (marked : Marked cs) :
    Marked (opening ++ cs) := by
  intro before after eq opens
  rcases List.append_eq_append_iff.mp eq with ⟨front, rfl, rfl⟩ | ⟨back, rfl, back_eq⟩
  · exact marked front after rfl opens
  · cases back with
    | nil => exact marked [] after back_eq.symm opens
    | cons c back =>
      obtain ⟨rfl, -⟩ := List.cons.inj back_eq
      exact absurd (by simp) noClosing

/-- A quote that is open where a tag goes on is closed in it. -/
theorem mem_of_tagBody? {quote : Char} {cs body rest : List Char}
    (h : tagBody? (some quote) cs = some (body, rest)) : quote ∈ body := by
  induction cs generalizing body with
  | nil => simp [tagBody?] at h
  | cons c cs ih =>
    rw [tagBody?] at h
    obtain ⟨⟨body', rest'⟩, found, eq⟩ := Option.map_eq_some_iff.mp h
    obtain ⟨rfl, rfl⟩ := Prod.mk.inj eq
    by_cases closes : c = quote
    · simp [closes]
    · rw [if_neg (by simpa using closes)] at found
      exact List.mem_cons_of_mem c (ih found)

/-- A closing bracket in a tag stands in quotes, and these are closed after it. -/
theorem exists_mark_of_tagBody? {quote : Option Char} {cs before between rest : List Char}
    (quotes : ∀ q ∈ quote, q = '"' ∨ q = '\x27')
    (h : tagBody? quote cs = some (before ++ '>' :: between, rest)) :
    ∃ c ∈ between, isMark c = true := by
  induction cs generalizing quote before with
  | nil => simp [tagBody?] at h
  | cons c cs ih =>
    cases quote with
    | none =>
      rw [tagBody?] at h
      split at h
      · simp at h
      · rename_i inside
        obtain ⟨⟨body, rest'⟩, found, eq⟩ := Option.map_eq_some_iff.mp h
        obtain ⟨body_eq, rfl⟩ := Prod.mk.inj eq
        cases before with
        | nil =>
          obtain ⟨rfl, -⟩ := List.cons.inj body_eq
          exact absurd rfl inside
        | cons d before =>
          obtain ⟨rfl, rfl⟩ := List.cons.inj body_eq
          by_cases isQuote : (c == '"' || c == '\x27') = true
          · rw [if_pos isQuote] at found
            refine ih ?_ found
            rintro q ⟨⟩
            simpa using isQuote
          · rw [if_neg isQuote] at found
            exact ih (by simp) found
    | some q =>
      rw [tagBody?] at h
      obtain ⟨⟨body, rest'⟩, found, eq⟩ := Option.map_eq_some_iff.mp h
      obtain ⟨body_eq, rfl⟩ := Prod.mk.inj eq
      cases before with
      | nil =>
        -- the bracket does not close the quotes it stands in
        obtain ⟨rfl, rfl⟩ := List.cons.inj body_eq
        have isQuote := quotes q rfl
        have other : '>' ≠ q := by rcases isQuote with rfl | rfl <;> decide
        rw [if_neg (by simpa using other)] at found
        exact ⟨q, mem_of_tagBody? found, by rcases isQuote with rfl | rfl <;> rfl⟩
      | cons d before =>
        obtain ⟨rfl, rfl⟩ := List.cons.inj body_eq
        refine ih ?_ found
        intro p opened
        split at opened
        · contradiction
        · exact quotes p opened

/-- All ends of a text close as many brackets as they open, or more. -/
def ClosesMore (cs : List Char) : Prop := ∀ back, back <:+ cs → back.count '<' ≤ back.count '>'

theorem ClosesMore.cons {c : Char} {cs : List Char}
    (here : (c :: cs).count '<' ≤ (c :: cs).count '>') (ends : ClosesMore cs) :
    ClosesMore (c :: cs) := by
  intro back suffix
  rcases List.suffix_cons_iff.mp suffix with rfl | inner
  · exact here
  · exact ends back inner

/-- A declaration closes the brackets that are open before it and those that it opens. -/
theorem closesMore_of_doctypeBody? {depth : Nat} {cs body rest : List Char}
    (h : doctypeBody? depth cs = some (body, rest)) :
    body.count '>' = depth + body.count '<' ∧ ClosesMore body := by
  fun_induction doctypeBody? depth cs generalizing body with
  | case1 => simp at h
  | case2 cs =>
    obtain ⟨rfl, rfl⟩ := Prod.mk.inj (Option.some.inj h)
    simp [ClosesMore]
  | case3 depth cs ih =>
    obtain ⟨⟨inner, rest'⟩, found, eq⟩ := Option.map_eq_some_iff.mp h
    obtain ⟨rfl, rfl⟩ := Prod.mk.inj eq
    obtain ⟨whole, ends⟩ := ih found
    have counts : ('>' :: inner).count '>' = depth + 1 + ('>' :: inner).count '<' := by
      simp
      omega
    exact ⟨counts, ends.cons (by omega)⟩
  | case4 depth cs ih =>
    obtain ⟨⟨inner, rest'⟩, found, eq⟩ := Option.map_eq_some_iff.mp h
    obtain ⟨rfl, rfl⟩ := Prod.mk.inj eq
    obtain ⟨whole, ends⟩ := ih found
    have counts : ('<' :: inner).count '>' = depth + ('<' :: inner).count '<' := by
      simp
      omega
    exact ⟨counts, ends.cons (by omega)⟩
  | case5 depth c cs closed closes opens ih =>
    obtain ⟨⟨inner, rest'⟩, found, eq⟩ := Option.map_eq_some_iff.mp h
    obtain ⟨rfl, rfl⟩ := Prod.mk.inj eq
    obtain ⟨whole, ends⟩ := ih found
    have noClosing : c ≠ '>' := by
      cases depth with
      | zero => exact closed rfl
      | succ depth => exact closes depth rfl
    have counts : (c :: inner).count '>' = depth + (c :: inner).count '<' := by
      rw [List.count_cons_of_ne noClosing, List.count_cons_of_ne opens]
      exact whole
    exact ⟨counts, ends.cons (by omega)⟩

/-- The body of a tag is marked. -/
theorem marked_of_tagBody? {cs body rest : List Char} (h : tagBody? none cs = some (body, rest)) :
    Marked body := by
  rintro before after rfl -
  exact exists_mark_of_tagBody? (by simp) h

/-- The body of a declaration is marked, by a bracket. -/
theorem marked_of_doctypeBody? {cs body rest : List Char}
    (h : doctypeBody? 0 cs = some (body, rest)) : Marked body := by
  rintro before after rfl opens
  have ends := (closesMore_of_doctypeBody? h).2 after ⟨before ++ ['>'], by simp⟩
  have opened : 0 < after.count '<' := List.count_pos_iff.mpr opens
  exact ⟨'>', List.count_pos_iff.mp (by omega), rfl⟩

/-! ## The shape of what is read -/

variable {cs lexeme rest : List Char} {token : Token}

/-- A section is read where one is opened. -/
theorem eq_cdata_of_scan (opens : cdataOpening <+: cs)
    (h : scan cs = .token token lexeme rest) : token = .cdata := by
  obtain ⟨more, rfl⟩ := opens
  change scanBang ("[CDATA[".toList ++ more) = _ at h
  have keyword : "[CDATA[".toList.isPrefixOf ("[CDATA[".toList ++ more) = true := by simp
  rw [show "[CDATA[".toList ++ more = '[' :: ("CDATA[".toList ++ more) from rfl] at h keyword
  rw [scanBang, if_pos keyword] at h
  split at h
  · exact (Scan.token.inj h).1.symm
  · contradiction

/-- The lexeme of a token that is markup stands in brackets. -/
def Bracketed (token : Token) (lexeme : List Char) : Prop :=
  ∃ body, lexeme = '<' :: (body ++ ['>']) ∧ token.isMarkup ∧ Marked ('<' :: body)

/-- The lexeme of a CDATA section is closed at its end and not before. -/
def IsSection (token : Token) (lexeme : List Char) : Prop :=
  ∃ body, IsBody body ∧ token = .cdata ∧ lexeme = cdataOpening ++ body ++ "]]>".toList

/-- What begins with `<!` is a section or ends with a bracket. -/
theorem scanBang_cases (h : scanBang cs = .token token lexeme rest) :
    IsSection token lexeme ∨ Bracketed token lexeme := by
  unfold scanBang at h
  split at h
  · split at h
    · split at h
      · rename_i body _ found
        obtain ⟨rfl, rfl, -⟩ := Scan.token.inj h
        exact Or.inl ⟨body, splitAtFirst?_front found, rfl, rfl⟩
      · contradiction
    · contradiction
  · split at h
    · split at h
      · rename_i body _ _
        obtain ⟨rfl, rfl, -⟩ := Scan.token.inj h
        have dash : isMark '-' = true := rfl
        have marked := marked_of_last ("<!--".toList ++ body ++ ['-']) dash
        exact Or.inr ⟨"!--".toList ++ body ++ "--".toList, by simp, rfl, by simpa using marked⟩
      · contradiction
    · contradiction
  · split at h
    · split at h
      · rename_i found
        split at h
        · contradiction
        · split at h
          · contradiction
          · obtain ⟨rfl, rfl, -⟩ := Scan.token.inj h
            have marked := (marked_of_doctypeBody? found).append (show '>' ∉ "<!".toList by decide)
            exact Or.inr ⟨'!' :: _, by simp, rfl, marked⟩
      · contradiction
    · contradiction
  · contradiction

/-- What begins at a bracket is a section or ends with a bracket. -/
theorem scanMarkup_cases (h : scanMarkup cs = .token token lexeme rest) :
    IsSection token lexeme ∨ Bracketed token lexeme := by
  unfold scanMarkup at h
  split at h
  · exact scanBang_cases h
  · unfold scanInstruction at h
    split at h
    · contradiction
    · split at h
      · rename_i body _ _
        obtain ⟨rfl, rfl, -⟩ := Scan.token.inj h
        have question : isMark '?' = true := rfl
        have marked := marked_of_last ("<?".toList ++ body) question
        exact Or.inr ⟨'?' :: (body ++ ['?']), by simp, rfl, by simpa using marked⟩
      · contradiction
  · split at h
    · rename_i found
      obtain ⟨rfl, rfl, -⟩ := Scan.token.inj h
      have marked := (marked_of_tagBody? found).append (show '>' ∉ "</".toList by decide)
      exact Or.inr ⟨'/' :: _, by simp, rfl, marked⟩
    · contradiction
  · split at h
    · rename_i found
      obtain ⟨rfl, rfl, -⟩ := Scan.token.inj h
      have marked := (marked_of_tagBody? found).append (show '>' ∉ "<".toList by decide)
      refine Or.inr ⟨_, by simp, ?_, marked⟩
      unfold Token.ofTagBody
      split <;> rfl
    · contradiction

/-- What is read at the front of a text has one of the shapes. -/
theorem shape_of_scan (h : scan cs = .token token lexeme rest) : Shape (token, lexeme) := by
  obtain ⟨-, text⟩ := scan_append h
  have read := h
  unfold scan at h
  split at h
  · contradiction
  · rcases scanMarkup_cases h with ⟨body, isBody, rfl, rfl⟩ | ⟨body, rfl, isMarkup, marked⟩
    · exact .cdata isBody
    · refine .markup isMarkup (fun opens => ?_) marked
      -- otherwise a section would have been read
      rw [text] at read
      obtain rfl := eq_cdata_of_scan (opens.trans (List.prefix_append _ rest)) read
      contradiction
  · -- an ampersand without its semicolon stops before the next bracket
    unfold scanAmpersand at h
    split at h
    · obtain ⟨rfl, rfl, -⟩ := Scan.token.inj h
      exact .reference
    · obtain ⟨rfl, rfl, -⟩ := Scan.token.inj h
      refine .characters fun mem => ?_
      rcases List.mem_cons.mp mem with eq | mem
      · exact absurd eq (by decide)
      · exact absurd (List.mem_takeWhile_imp mem) (by decide)
  · obtain ⟨rfl, rfl, -⟩ := Scan.token.inj h
    exact .characters fun mem => absurd (List.mem_takeWhile_imp mem) (by decide)

end IconForge.Markup
