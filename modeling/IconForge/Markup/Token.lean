import IconForge.Text.Classes
import IconForge.Text.Search

/-!
# Tokens of markup

A document is read as a row of tokens: runs of characters, references, CDATA sections, comments,
instructions, document type declarations and tags. `scan` reads the token at the front of a text
together with its lexeme, the very characters it was written with. `scan_append` says that lexeme
and rest make up the text, and that a lexeme is never empty: reading is lossless and makes progress.

## Rules

- A run of characters ends before `<` or `&`.
- `&` starts a reference if a semicolon comes before the next ampersand, bracket or end; otherwise
  it is a plain character, alone with what follows it up to there.
- A tag ends at the first `>` outside quotes. Nothing is asked of its name.
- A comment ends at the first `-->` after its opening, a CDATA section at the first `]]>`, an
  instruction at the first `?>`, and a document type declaration at the bracket that balances.
-/

namespace IconForge.Markup

open IconForge.Text

/-! ## Tokens and faults -/

/-- A start tag taken apart: its qualified name, and what stands between the name and the end of
the tag. -/
structure Tag where
  name : String
  attributes : List Char
  deriving DecidableEq, Repr

inductive Token where
  /-- Plain characters; also an ampersand that starts no reference. -/
  | characters
  /-- A reference `&name;`. -/
  | reference
  | cdata
  | comment
  /-- A processing instruction or the declaration at the head of a document. -/
  | instruction
  | doctype
  | startTag (tag : Tag)
  /-- A tag that opens and closes its element. -/
  | emptyTag (tag : Tag)
  | endTag (name : String)
  deriving DecidableEq, Repr

inductive Fault where
  /-- `<!` is followed by none of the three constructs it can start. -/
  | unknownMarkup
  | unclosedInstruction
  | unclosedComment
  | unclosedDoctype
  | unclosedCData
  | unclosedTag
  /-- A document type declaration that names no type. -/
  | unnamedDoctype
  /-- An end tag where no element is open. -/
  | unmatchedEnd (name : String)
  deriving DecidableEq, Repr

def Fault.message : Fault → String
  | .unknownMarkup => "syntax error: unknown or missed symbol in markup"
  | .unclosedInstruction =>
    "syntax error: processing instruction or xml declaration not closed: `?>` not found before end of input"
  | .unclosedComment =>
    "syntax error: comment not closed: `-->` not found before end of input"
  | .unclosedDoctype =>
    "syntax error: DOCTYPE not closed: `>` not found before end of input"
  | .unclosedCData =>
    "syntax error: CDATA not closed: `]]>` not found before end of input"
  | .unclosedTag =>
    "syntax error: tag not closed: `>` not found before end of input"
  | .unnamedDoctype =>
    "ill-formed document: `<!DOCTYPE>` declaration does not contain a name of a document type"
  | .unmatchedEnd name =>
    "ill-formed document: close tag `</" ++ name ++ ">` does not match any open tag"

/-! ## Where constructs end -/

/-- The body of a tag and what follows its `>`. Inside quotes (`quote` is the open one) a `>` does
not end the tag. -/
def tagBody? (quote : Option Char) : List Char → Option (List Char × List Char)
  | [] => none
  | c :: cs =>
    match quote with
    | none =>
      if c == '>' then some ([], cs)
      else
        let quote := if c == '"' || c == '\x27' then some c else none
        (tagBody? quote cs).map fun (body, rest) => (c :: body, rest)
    | some q =>
      (tagBody? (if c == q then none else some q) cs).map fun (body, rest) => (c :: body, rest)

/-- The body of a document type declaration and what follows the `>` that balances, with `depth`
brackets open. Quotes do not matter here. -/
def doctypeBody? : (depth : Nat) → List Char → Option (List Char × List Char)
  | _, [] => none
  | 0, '>' :: cs => some ([], cs)
  | depth + 1, '>' :: cs =>
    (doctypeBody? depth cs).map fun (body, rest) => ('>' :: body, rest)
  | depth, '<' :: cs => (doctypeBody? (depth + 1) cs).map fun (body, rest) => ('<' :: body, rest)
  | depth, c :: cs => (doctypeBody? depth cs).map fun (body, rest) => (c :: body, rest)

/-- The tag written as `body`: its name ends at the first space. -/
def Tag.ofBody (body : List Char) : Tag where
  name := String.ofList (body.takeWhile fun c => !isMarkupSpace c)
  attributes := body.dropWhile fun c => !isMarkupSpace c

/-- The start tag or empty tag with the text `body` between its brackets: a slash at the end makes
it an empty tag. -/
def Token.ofTagBody (body : List Char) : Token :=
  if body.getLast? == some '/' then .emptyTag (Tag.ofBody body.dropLast)
  else .startTag (Tag.ofBody body)

/-- The name in an end tag with the text `body` after its slash: spaces before the bracket are not
part of it, unless there is nothing else. -/
def endTagName (body : List Char) : String :=
  if body.all isMarkupSpace then String.ofList body
  else String.ofList (body.reverse.dropWhile isMarkupSpace).reverse

/-! ## Reading one token -/

/-- The outcome of reading the front of a text. -/
inductive Scan where
  | done
  | fault (fault : Fault)
  | token (token : Token) (lexeme rest : List Char)

/-- A character that neither starts markup nor a reference. -/
def isPlain (c : Char) : Bool := c != '<' && c != '&'

/-- Reads on after `<!`. -/
def scanBang (cs : List Char) : Scan :=
  match cs with
  | '[' :: _ =>
    if "[CDATA[".toList.isPrefixOf cs then
      match splitAtFirst? "]]>".toList (cs.drop 7) with
      | some (body, rest) =>
        .token .cdata ("<![CDATA[".toList ++ body ++ "]]>".toList) rest
      | none => .fault .unclosedCData
    else .fault .unclosedCData
  | '-' :: _ =>
    if "--".toList.isPrefixOf cs then
      match splitAtFirst? "-->".toList (cs.drop 2) with
      | some (body, rest) => .token .comment ("<!--".toList ++ body ++ "-->".toList) rest
      | none => .fault .unclosedComment
    else .fault .unclosedComment
  | c :: _ =>
    if c == 'D' || c == 'd' then
      match doctypeBody? 0 cs with
      | some (body, rest) =>
        if (body.take 7).map Char.toUpper != "DOCTYPE".toList then .fault .unclosedDoctype
        else if (body.drop 7).all isMarkupSpace then .fault .unnamedDoctype
        else .token .doctype ("<!".toList ++ body ++ ">".toList) rest
      | none => .fault .unclosedDoctype
    else .fault .unknownMarkup
  | [] => .fault .unknownMarkup

/-- Reads on after `<?`. The closing `?>` has a question mark of its own, so `<?>` is not closed. -/
def scanInstruction (cs : List Char) : Scan :=
  if cs.head? == some '>' then .fault .unclosedInstruction
  else
    match splitAtFirst? "?>".toList cs with
    | some (body, rest) => .token .instruction ("<?".toList ++ body ++ "?>".toList) rest
    | none => .fault .unclosedInstruction

/-- Reads on after `<`. -/
def scanMarkup : List Char → Scan
  | '!' :: cs => scanBang cs
  | '?' :: cs => scanInstruction cs
  | '/' :: cs =>
    match tagBody? none cs with
    | some (body, rest) =>
      .token (.endTag (endTagName body)) ("</".toList ++ body ++ ">".toList) rest
    | none => .fault .unclosedTag
  | cs =>
    match tagBody? none cs with
    | some (body, rest) => .token (Token.ofTagBody body) ("<".toList ++ body ++ ">".toList) rest
    | none => .fault .unclosedTag

/-- A character that can stand between the ampersand and the semicolon of a reference. -/
def isInReference (c : Char) : Bool := isPlain c && c != ';'

/-- Reads on after `&`. -/
def scanAmpersand (cs : List Char) : Scan :=
  match cs.dropWhile isInReference with
  | ';' :: rest =>
    .token .reference ("&".toList ++ cs.takeWhile isInReference ++ ";".toList) rest
  | rest => .token .characters ("&".toList ++ cs.takeWhile isInReference) rest

/-- Reads the token at the front of a text. -/
def scan : List Char → Scan
  | [] => .done
  | '<' :: cs => scanMarkup cs
  | '&' :: cs => scanAmpersand cs
  | cs => .token .characters (cs.takeWhile isPlain) (cs.dropWhile isPlain)

/-! ## Reading is lossless -/

theorem eq_of_tagBody? {quote : Option Char} {cs body rest : List Char}
    (h : tagBody? quote cs = some (body, rest)) : cs = body ++ '>' :: rest := by
  induction cs generalizing quote body with
  | nil => simp [tagBody?] at h
  | cons c cs ih =>
    cases quote with
    | none =>
      simp only [tagBody?] at h
      split at h
      · simp_all
      · simp only [Option.map_eq_some_iff, Prod.exists, Prod.mk.injEq] at h
        obtain ⟨b, r, hbr, rfl, rfl⟩ := h
        simp [ih hbr]
    | some q =>
      simp only [tagBody?, Option.map_eq_some_iff, Prod.exists, Prod.mk.injEq] at h
      obtain ⟨b, r, hbr, rfl, rfl⟩ := h
      simp [ih hbr]

theorem eq_of_doctypeBody? {depth : Nat} {cs body rest : List Char}
    (h : doctypeBody? depth cs = some (body, rest)) : cs = body ++ '>' :: rest := by
  fun_induction doctypeBody? depth cs generalizing body with
  | case1 => simp at h
  | case2 cs => simp_all
  | case3 depth cs ih | case4 depth cs ih | case5 depth c cs _ _ _ ih =>
    simp only [Option.map_eq_some_iff, Prod.exists, Prod.mk.injEq] at h
    obtain ⟨b, r, hbr, rfl, rfl⟩ := h
    simp [ih hbr]

theorem scanBang_append {cs lexeme rest : List Char} {t : Token}
    (h : scanBang cs = .token t lexeme rest) :
    ∃ l, lexeme = '<' :: '!' :: l ∧ cs = l ++ rest := by
  have drop_eq {p : List Char} (hp : p.isPrefixOf cs = true) : cs = p ++ cs.drop p.length := by
    obtain ⟨u, hu⟩ := List.isPrefixOf_iff_prefix.mp hp
    simp [← hu]
  unfold scanBang at h
  split at h
  · split at h
    · rename_i hp
      split at h
      · rename_i body r hs
        simp only [Scan.token.injEq] at h
        obtain ⟨-, rfl, rfl⟩ := h
        refine ⟨"[CDATA[".toList ++ body ++ "]]>".toList, by simp, ?_⟩
        rw [drop_eq hp, show "[CDATA[".toList.length = 7 from rfl, eq_of_splitAtFirst? hs]
        simp
      · simp at h
    · simp at h
  · split at h
    · rename_i hp
      split at h
      · rename_i body r hs
        simp only [Scan.token.injEq] at h
        obtain ⟨-, rfl, rfl⟩ := h
        refine ⟨"--".toList ++ body ++ "-->".toList, by simp, ?_⟩
        rw [drop_eq hp, show "--".toList.length = 2 from rfl, eq_of_splitAtFirst? hs]
        simp
      · simp at h
    · simp at h
  · split at h
    · split at h
      · rename_i body r hs
        split at h
        · simp at h
        · split at h
          · simp at h
          · simp only [Scan.token.injEq] at h
            obtain ⟨-, rfl, rfl⟩ := h
            exact ⟨body ++ ">".toList, by simp, by simp [eq_of_doctypeBody? hs]⟩
      · simp at h
    · simp at h
  · simp at h

theorem scanInstruction_append {cs lexeme rest : List Char} {t : Token}
    (h : scanInstruction cs = .token t lexeme rest) :
    ∃ l, lexeme = '<' :: '?' :: l ∧ cs = l ++ rest := by
  unfold scanInstruction at h
  split at h
  · simp at h
  · split at h
    · rename_i body r hs
      simp only [Scan.token.injEq] at h
      obtain ⟨-, rfl, rfl⟩ := h
      exact ⟨body ++ "?>".toList, by simp, by simp [eq_of_splitAtFirst? hs]⟩
    · simp at h

theorem scanMarkup_append {cs lexeme rest : List Char} {t : Token}
    (h : scanMarkup cs = .token t lexeme rest) : ∃ l, lexeme = '<' :: l ∧ cs = l ++ rest := by
  unfold scanMarkup at h
  split at h
  · obtain ⟨l, rfl, rfl⟩ := scanBang_append h
    exact ⟨_, rfl, rfl⟩
  · obtain ⟨l, rfl, rfl⟩ := scanInstruction_append h
    exact ⟨_, rfl, rfl⟩
  · split at h
    · rename_i body r hs
      simp only [Scan.token.injEq] at h
      obtain ⟨-, rfl, rfl⟩ := h
      exact ⟨'/' :: body ++ ">".toList, by simp, by simp [eq_of_tagBody? hs]⟩
    · simp at h
  · split at h
    · rename_i body r hs
      simp only [Scan.token.injEq] at h
      obtain ⟨-, rfl, rfl⟩ := h
      exact ⟨body ++ ">".toList, by simp, by simp [eq_of_tagBody? hs]⟩
    · simp at h

theorem scanAmpersand_append {cs lexeme rest : List Char} {t : Token}
    (h : scanAmpersand cs = .token t lexeme rest) : ∃ l, lexeme = '&' :: l ∧ cs = l ++ rest := by
  have parts := List.takeWhile_append_dropWhile (p := isInReference) (l := cs)
  unfold scanAmpersand at h
  split at h
  · rename_i r hr
    simp only [Scan.token.injEq] at h
    obtain ⟨-, rfl, rfl⟩ := h
    exact ⟨cs.takeWhile isInReference ++ ";".toList, by simp, by
      rw [hr] at parts
      simpa using parts.symm⟩
  · simp only [Scan.token.injEq] at h
    obtain ⟨-, rfl, rfl⟩ := h
    exact ⟨_, rfl, parts.symm⟩

/-- A lexeme is not empty, and lexeme and rest make up the text. -/
theorem scan_append {cs lexeme rest : List Char} {t : Token}
    (h : scan cs = .token t lexeme rest) : lexeme ≠ [] ∧ cs = lexeme ++ rest := by
  unfold scan at h
  split at h
  · simp at h
  · obtain ⟨l, rfl, rfl⟩ := scanMarkup_append h
    simp
  · obtain ⟨l, rfl, rfl⟩ := scanAmpersand_append h
    simp
  · rename_i lt amp
    simp only [Scan.token.injEq] at h
    obtain ⟨-, rfl, rfl⟩ := h
    refine ⟨?_, by simp⟩
    cases cs with
    | nil => contradiction
    | cons c cs =>
      have : isPlain c = true := by
        simp only [isPlain, bne_iff_ne, ne_eq, Bool.and_eq_true]
        exact ⟨fun h => lt cs (by rw [h]), fun h => amp cs (by rw [h])⟩
      simp [this]

/-- Reading a token leaves a shorter text. -/
theorem length_rest_lt {cs lexeme rest : List Char} {t : Token}
    (h : scan cs = .token t lexeme rest) : rest.length < cs.length := by
  obtain ⟨hl, rfl⟩ := scan_append h
  have := List.length_pos_iff.mpr hl
  simp only [List.length_append]
  omega

end IconForge.Markup
