import SessionReplay.Proofs.Json.Grammar

/-! The tokens of texts in the grammar. A text is cut off with what actually follows it present, so
that no number is read on into its neighbour. -/
namespace SessionReplay.Json

/-- What may follow a number without being taken for a part of it. -/
def Ends (rest : List Char) : Prop :=
  ∀ c ∈ rest.head?, c.isDigit = false ∧ c ≠ '.' ∧ c ≠ 'e' ∧ c ≠ 'E'

/-- Whatever may follow the text, these tokens are read off it. -/
def Lexes (text : List Char) (own : List Token) : Prop :=
  ∀ rest, Ends rest → tokens (text ++ rest) = own ++ tokens rest

section Numbers
open NumberLiteral
variable {digits rest : List Char}

theorem Ends.head_not_digit (ends : Ends rest) : ∀ c ∈ rest.head?, c.isDigit = false :=
  fun c first => (ends c first).1

/-- Digits are taken up to the first character that is none. -/
theorem someDigits_append (some : Digits digits) (stops : ∀ c ∈ rest.head?, c.isDigit = false) :
    someDigits (digits ++ rest) = .ok (digits, rest) := by
  obtain ⟨nonempty, all⟩ := some
  obtain ⟨first, more, rfl⟩ := List.exists_cons_of_ne_nil nonempty
  obtain ⟨isFirst, areMore⟩ := List.forall_mem_cons.mp all
  have none : rest.takeWhile Char.isDigit = [] ∧ rest.dropWhile Char.isDigit = rest := by
    cases rest with
    | nil => exact ⟨rfl, rfl⟩
    | cons c rest =>
      have stop := stops c rfl
      simp [stop]
  rw [List.cons_append, someDigits, if_pos isFirst, List.takeWhile_append_of_pos areMore,
    List.dropWhile_append_of_pos areMore, none.1, none.2, List.append_nil]

theorem wholePart_append (whole : WholeText digits)
    (stops : ∀ c ∈ rest.head?, c.isDigit = false) :
    wholePart (digits ++ rest) = .ok (digits, rest) := by
  have some := someDigits_append whole.1 stops
  unfold wholePart
  split
  · next c after text =>
    -- a zero in front is the only digit
    obtain ⟨first, more, rfl⟩ := List.exists_cons_of_ne_nil whole.1.1
    obtain ⟨rfl, tail⟩ := List.cons.inj text
    obtain ⟨-, rfl⟩ := List.cons.inj (whole.2 rfl)
    have tail : rest = c :: after := tail
    subst tail
    rw [if_neg (by simp [stops c rfl])]
  · exact some

theorem fractionPart_append {fraction : List Char} (all : ∀ c ∈ fraction, c.isDigit = true)
    (stops : ∀ c ∈ rest.head?, c.isDigit = false ∧ c ≠ '.') :
    fractionPart (fractionText fraction ++ rest) = .ok (fraction, rest) := by
  cases fraction with
  | nil =>
    unfold fractionText fractionPart
    split
    · next after text => exact absurd rfl (stops '.' (by rw [← List.nil_append rest, text]; rfl)).2
    · rfl
  | cons first more =>
    exact someDigits_append ⟨List.cons_ne_nil _ _, all⟩ fun c first => (stops c first).1

theorem exponentDigits_append
    (signed : (down, sign) ∈ [(true, ['-']), (false, ['+']), (false, [])])
    (some : Digits digits) (stops : ∀ c ∈ rest.head?, c.isDigit = false) :
    exponentDigits (sign ++ digits ++ rest) = .ok ((down, digits), rest) := by
  have taken := someDigits_append some stops
  simp only [List.mem_cons, Prod.mk.injEq, List.not_mem_nil, or_false] at signed
  rcases signed with ⟨rfl, rfl⟩ | ⟨rfl, rfl⟩ | ⟨rfl, rfl⟩
  · show (someDigits (digits ++ rest)).bind _ = _
    rw [taken]
    rfl
  · show (someDigits (digits ++ rest)).bind _ = _
    rw [taken]
    rfl
  · obtain ⟨first, more, rfl⟩ := List.exists_cons_of_ne_nil some.1
    have digit := some.2 first List.mem_cons_self
    unfold exponentDigits
    split
    · next after text =>
      cases (List.cons.inj text).1
      contradiction
    · next after text =>
      cases (List.cons.inj text).1
      contradiction
    · rw [List.nil_append, taken]
      rfl

/-- An exponent begins with neither a digit nor a point. -/
theorem ExponentText.head {exponent : Option (Bool × List Char)}
    (written : ExponentText exponent text) (ends : Ends rest) :
    ∀ c ∈ (text ++ rest).head?, c.isDigit = false ∧ c ≠ '.' := by
  cases written with
  | none => exact fun c first => ⟨(ends c first).1, (ends c first).2.1⟩
  | some mark signed written =>
    intro c first
    obtain rfl := Option.some.inj first
    rcases mark with rfl | rfl <;> decide

theorem head_fractionText (fraction : List Char) (stops : ∀ c ∈ rest.head?, c.isDigit = false) :
    ∀ c ∈ (fractionText fraction ++ rest).head?, c.isDigit = false := by
  cases fraction with
  | nil => exact stops
  | cons first more =>
    intro c point
    obtain rfl := Option.some.inj point
    decide

theorem exponentPart_append {exponent : Option (Bool × List Char)}
    (written : ExponentText exponent text) (ends : Ends rest) :
    exponentPart (text ++ rest) = .ok (exponent, rest) := by
  cases written with
  | none =>
    cases rest with
    | nil => rfl
    | cons c rest =>
      obtain ⟨-, -, small, large⟩ := ends c rfl
      exact if_neg (not_or.mpr ⟨small, large⟩)
  | @some c down sign digits mark signed written =>
    rw [List.cons_append, List.cons_append, exponentPart, if_pos mark,
      exponentDigits_append signed written ends.head_not_digit]
    rfl

theorem scan_append {literal : NumberLiteral} (number : NumberText literal text)
    (ends : Ends rest) : scan (text ++ rest) = .ok (literal, rest) := by
  obtain ⟨exponentText, written, rfl⟩ := number.written
  have unsigned : scanUnsigned literal.negative
      (literal.whole ++ fractionText literal.fraction ++ exponentText ++ rest) =
        .ok (literal, rest) := by
    have afterExponent := exponentPart_append written ends
    have afterFraction := fractionPart_append number.fraction (written.head ends)
    have afterWhole := wholePart_append number.whole (head_fractionText literal.fraction
      fun c first => (written.head ends c first).1)
    simp only [List.append_assoc] at *
    rw [scanUnsigned, afterWhole]
    simp only [bind, Except.bind]
    rw [afterFraction]
    simp only
    rw [afterExponent]
  cases negative : literal.negative with
  | true =>
    rw [negative] at unsigned
    exact unsigned
  | false =>
    rw [negative] at unsigned
    unfold scan
    split
    · next after text =>
      -- a digit comes first, and no sign
      obtain ⟨nonempty, all⟩ := number.whole.1
      obtain ⟨first, more, digits⟩ := List.exists_cons_of_ne_nil nonempty
      have digit := all first (digits ▸ List.mem_cons_self)
      rw [digits] at text
      cases (List.cons.inj text).1
      contradiction
    · exact unsigned

end Numbers

section Strings
variable {text spelled rest : List Char}

theorem takeQuad_cons (value : quad? a b c d = some unit) (rest : List Char) :
    takeQuad (a :: b :: c :: d :: rest) = .ok (unit, rest) := by
  rw [takeQuad]
  simp only [value]

theorem lookup_shortEscapes (known : (mark, c) ∈ shortEscapes) :
    shortEscapes.lookup mark = some c ∧ mark ≠ 'u' := by
  simp only [shortEscapes, List.mem_cons, Prod.mk.injEq, List.not_mem_nil, or_false] at known
  rcases known with ⟨rfl, rfl⟩ | ⟨rfl, rfl⟩ | ⟨rfl, rfl⟩ | ⟨rfl, rfl⟩ | ⟨rfl, rfl⟩ | ⟨rfl, rfl⟩ |
    ⟨rfl, rfl⟩ | ⟨rfl, rfl⟩ <;> decide

theorem takeText_escape (taken : takeEscape escape = .ok (c, spelled))
    (onward : takeText spelled = .ok (text, rest)) :
    takeText ('\\' :: escape) = .ok (c :: text, rest) := by
  rw [takeText, if_neg (by decide), if_pos rfl]
  split
  · next failed =>
    rw [taken] at failed
    contradiction
  · next meant after found =>
    cases taken.symm.trans found
    rw [onward]

theorem passText_escape (passed : passEscape escape = .ok spelled)
    (onward : passText spelled = .ok rest) : passText ('\\' :: escape) = .ok rest := by
  rw [passText, if_neg (by decide), if_pos rfl]
  split
  · next failed =>
    rw [passed] at failed
    contradiction
  · next after found =>
    cases passed.symm.trans found
    exact onward

theorem takeText_plain (quote : c ≠ '"') (backslash : c ≠ '\\') (control : ' ' ≤ c)
    (onward : takeText spelled = .ok (text, rest)) :
    takeText (c :: spelled) = .ok (c :: text, rest) := by
  rw [takeText, if_neg quote, if_neg backslash, if_neg (Char.not_lt.mpr control), onward]

theorem passText_plain (quote : c ≠ '"') (backslash : c ≠ '\\') (control : ' ' ≤ c)
    (onward : passText spelled = .ok rest) : passText (c :: spelled) = .ok rest := by
  rw [passText, if_neg quote, if_neg backslash, if_neg (Char.not_lt.mpr control), onward]

theorem takeEscape_short (known : (mark, c) ∈ shortEscapes) (rest : List Char) :
    takeEscape (mark :: rest) = .ok (c, rest) ∧ passEscape (mark :: rest) = .ok rest := by
  obtain ⟨found, other⟩ := lookup_shortEscapes known
  constructor
  · unfold takeEscape
    split
    · contradiction
    · next same => exact absurd (List.cons.inj same).1 other
    · next same =>
      obtain ⟨rfl, rfl⟩ := List.cons.inj same
      rw [found]
  · unfold passEscape
    split
    · contradiction
    · next same => exact absurd (List.cons.inj same).1 other
    · next same =>
      obtain ⟨rfl, rfl⟩ := List.cons.inj same
      rw [found]
      rfl

theorem takeEscape_unit (value : quad? a b c d = some unit) (leading : isLeading unit = false)
    (trailing : isTrailing unit = false) (rest : List Char) :
    takeEscape ('u' :: a :: b :: c :: d :: rest) = .ok (Char.ofNat unit, rest) := by
  simp [takeEscape, takeQuad_cons value, leading, trailing, bind, Except.bind]

theorem passEscape_unit (value : quad? a b c d = some unit) (rest : List Char) :
    passEscape ('u' :: a :: b :: c :: d :: rest) = .ok rest := by
  simp [passEscape, takeQuad_cons value, bind, Except.bind]

theorem takeEscape_surrogates (first : quad? a b c d = some leading)
    (isFirst : isLeading leading = true) (second : quad? a' b' c' d' = some trailing)
    (isSecond : isTrailing trailing = true) (rest : List Char) :
    takeEscape ('u' :: a :: b :: c :: d :: '\\' :: 'u' :: a' :: b' :: c' :: d' :: rest) =
      .ok (ofSurrogates leading trailing, rest) := by
  have notSecond : isTrailing leading = false := by
    simp only [isLeading, isTrailing, Bool.and_eq_true, decide_eq_true_eq, Bool.and_eq_false_iff,
      decide_eq_false_iff_not] at *
    omega
  simp [takeEscape, takeTrailing, takeQuad_cons first, takeQuad_cons second, isFirst, notSecond,
    isSecond, bind, Except.bind]

/-- A string is decoded as it was meant, up to the quote that ends it. -/
theorem takeText_append (spelling : Spelled text spelled) (rest : List Char) :
    takeText (spelled ++ '"' :: rest) = .ok (text, rest) := by
  induction spelling with
  | nil => rw [List.nil_append, takeText, if_pos rfl]
  | plain quote backslash control _ ih => exact takeText_plain quote backslash control ih
  | short known _ ih => exact takeText_escape (takeEscape_short known _).1 ih
  | unit value leading trailing _ ih =>
    exact takeText_escape (takeEscape_unit value leading trailing _) ih
  | surrogates first isFirst second isSecond _ ih =>
    exact takeText_escape (takeEscape_surrogates first isFirst second isSecond _) ih

/-- Who passes over a string comes to the same end. -/
theorem passText_append (spelling : Spelled text spelled) (rest : List Char) :
    passText (spelled ++ '"' :: rest) = .ok rest := by
  induction spelling with
  | nil => rw [List.nil_append, passText, if_pos rfl]
  | plain quote backslash control _ ih => exact passText_plain quote backslash control ih
  | short known _ ih => exact passText_escape (takeEscape_short known _).2 ih
  | unit value _ _ _ ih => exact passText_escape (passEscape_unit value _) ih
  | surrogates first _ second _ _ ih =>
    exact passText_escape (passEscape_unit first _) (passText_escape (passEscape_unit second _) ih)

end Strings

section Tokens
variable {text rest : List Char}

theorem tokens_of_first (visible : isBlank c = false)
    (first : Token.first c rest = (token, more)) : tokens (c :: rest) = token :: tokens more := by
  rw [tokens, if_neg (by simp [visible]), first]

theorem tokens_blank (blank : Blank text) (rest : List Char) :
    tokens (text ++ rest) = tokens rest := by
  induction text with
  | nil => rfl
  | cons c text ih =>
    obtain ⟨first, more⟩ := List.forall_mem_cons.mp blank
    rw [List.cons_append, tokens, if_pos first, ih more]

@[simp] theorem tokens_openList (rest : List Char) :
    tokens ('[' :: rest) = .openList :: tokens rest :=
  tokens_of_first rfl rfl

@[simp] theorem tokens_closeList (rest : List Char) :
    tokens (']' :: rest) = .closeList :: tokens rest :=
  tokens_of_first rfl rfl

@[simp] theorem tokens_openObject (rest : List Char) :
    tokens ('\x7b' :: rest) = .openObject :: tokens rest :=
  tokens_of_first rfl rfl

@[simp] theorem tokens_closeObject (rest : List Char) :
    tokens ('\x7d' :: rest) = .closeObject :: tokens rest :=
  tokens_of_first rfl rfl

@[simp] theorem tokens_comma (rest : List Char) : tokens (',' :: rest) = .comma :: tokens rest :=
  tokens_of_first rfl rfl

@[simp] theorem tokens_colon (rest : List Char) : tokens (':' :: rest) = .colon :: tokens rest :=
  tokens_of_first rfl rfl

/-- A string is one token, whatever follows it. -/
theorem tokens_string (string : StringText value text) (rest : List Char) :
    tokens (text ++ rest) = .text (.ok value) (.ok ()) :: tokens rest := by
  obtain ⟨spelled, spelling, rfl⟩ := string
  refine tokens_of_first rfl ?_
  show Token.ofText (spelled ++ ['"'] ++ rest) = _
  rw [List.append_assoc, Token.ofText]
  simp [takeText_append spelling, passText_append spelling, Except.map]

theorem first_number (start : c = '-' ∨ c.isDigit = true) (rest : List Char) :
    isBlank c = false ∧ Token.first c rest = Token.ofNumber (c :: rest) := by
  constructor
  · cases blank : isBlank c with
    | false => rfl
    | true =>
      simp only [isBlank, Bool.or_eq_true, decide_eq_true_eq] at blank
      rcases blank with ((rfl | rfl) | rfl) | rfl <;> exact absurd start (by decide)
  · unfold Token.first
    split
    all_goals first
      | exact absurd start (by decide)
      | exact if_pos start

theorem NumberText.head {literal : NumberLiteral} (number : NumberText literal text) :
    ∃ c more, text = c :: more ∧ (c = '-' ∨ c.isDigit = true) := by
  obtain ⟨exponent, -, rfl⟩ := number.written
  obtain ⟨nonempty, all⟩ := number.whole.1
  obtain ⟨first, more, digits⟩ := List.exists_cons_of_ne_nil nonempty
  rw [digits]
  cases literal.negative with
  | true => exact ⟨_, _, rfl, .inl rfl⟩
  | false => exact ⟨_, _, rfl, .inr (all first (digits ▸ List.mem_cons_self))⟩

theorem lexes_number {literal : NumberLiteral} (number : NumberText literal text) :
    Lexes text [.number literal.value (.ok ())] := by
  intro rest ends
  obtain ⟨c, more, rfl, start⟩ := number.head
  obtain ⟨visible, first⟩ := first_number start (more ++ rest)
  refine tokens_of_first visible (first.trans ?_)
  rw [Token.ofNumber, ← List.cons_append, scan_append number ends]

theorem afterWord_append (word rest : List Char) : afterWord word (word ++ rest) = .ok rest := by
  induction word with
  | nil => rfl
  | cons w word ih =>
    rw [List.cons_append, afterWord, if_pos rfl]
    exact ih

theorem lexes_word (visible : isBlank c = false)
    (first : ∀ rest, Token.first c rest = Token.ofWord token word rest) :
    Lexes (c :: word) [token] := by
  intro rest _
  refine tokens_of_first visible ((first _).trans ?_)
  show Token.ofWord token word (word ++ rest) = _
  rw [Token.ofWord, afterWord_append]

/-- What may follow a number: a blank, a comma or the end of an enclosure. -/
theorem ends_cons (mark : isBlank c = true ∨ c ∈ [',', ']', '\x7d']) (rest : List Char) :
    Ends (c :: rest) := by
  intro first same
  obtain rfl := Option.some.inj same
  simp only [isBlank, Bool.or_eq_true, decide_eq_true_eq, List.mem_cons, List.not_mem_nil,
    or_false] at mark
  rcases mark with (((rfl | rfl) | rfl) | rfl) | rfl | rfl | rfl <;> decide

theorem ends_blank (blank : Blank text) (ends : Ends rest) : Ends (text ++ rest) := by
  cases text with
  | nil => exact ends
  | cons c text => exact ends_cons (.inl (blank c List.mem_cons_self)) _

/-- Blanks around a text are no tokens. -/
theorem Lexes.padded {padded : Padded} (lexes : Lexes padded.text own) (blanks : padded.InBlanks) :
    Lexes padded.written own := by
  intro rest ends
  rw [Padded.written, List.append_assoc, List.append_assoc, tokens_blank blanks.front,
    lexes _ (ends_blank blanks.back ends), tokens_blank blanks.back]

/-- A key and its colon, whatever the value. -/
theorem tokens_member {member : Member} (framed : member.Framed) (rest : List Char) :
    tokens (member.written ++ rest) =
      .text (.ok member.key) (.ok ()) :: .colon :: tokens (member.value.written ++ rest) := by
  rw [Member.written, List.append_assoc, Padded.written, List.append_assoc, List.append_assoc,
    tokens_blank framed.aroundKey.front, tokens_string framed.key,
    tokens_blank framed.aroundKey.back, List.cons_append, tokens_colon]

end Tokens
end SessionReplay.Json
