import SessionReplay.Json.Record

/-! The grammar of JSON texts, apart from any reader of them. Strings come with the text that they
stand for and integers with their value. Lone surrogates are no part of it, and nothing may follow
the last item of a list or the last member of an object. -/
namespace SessionReplay.Json

def Blank (text : List Char) : Prop := ∀ c ∈ text, isBlank c = true

instance (text : List Char) : Decidable (Blank text) :=
  decidable_of_iff (text.all isBlank = true) List.all_eq_true

def Digits (text : List Char) : Prop := text ≠ [] ∧ ∀ c ∈ text, c.isDigit = true

/-- The digits before a point. Only zero itself begins with a zero. -/
def WholeText (digits : List Char) : Prop :=
  Digits digits ∧ (digits.head? = some '0' → digits = ['0'])

/-- An integer without fraction and exponent that is not minus zero. -/
inductive IntegerText : Int → List Char → Prop
  | natural (whole : WholeText digits) : IntegerText (Nat.ofDigitChars 10 digits 0) digits
  | negative (whole : WholeText digits) (positive : 0 < Nat.ofDigitChars 10 digits 0) :
    IntegerText (-Nat.ofDigitChars 10 digits 0) ('-' :: digits)

/-- An exponent, if there is one, with whether it is negative and its digits. -/
inductive ExponentText : Option (Bool × List Char) → List Char → Prop
  | none : ExponentText none []
  | some (mark : c = 'e' ∨ c = 'E')
    (signed : (down, sign) ∈ [(true, ['-']), (false, ['+']), (false, [])])
    (written : Digits digits) : ExponentText (some (down, digits)) (c :: sign ++ digits)

/-- A point with digits after it, or neither. -/
def fractionText : List Char → List Char
  | [] => []
  | digits => '.' :: digits

structure NumberText (literal : NumberLiteral) (text : List Char) : Prop where
  whole : WholeText literal.whole
  fraction : ∀ c ∈ literal.fraction, c.isDigit = true
  written : ∃ exponent, ExponentText literal.exponent exponent ∧
    text = (if literal.negative then ['-'] else []) ++ literal.whole ++
      fractionText literal.fraction ++ exponent

/-- How text is spelled between quotes. -/
inductive Spelled : List Char → List Char → Prop
  | nil : Spelled [] []
  | plain (quote : c ≠ '"') (backslash : c ≠ '\\') (control : ' ' ≤ c)
    (rest : Spelled text spelled) :
    Spelled (c :: text) (c :: spelled)
  | short (known : (mark, c) ∈ shortEscapes) (rest : Spelled text spelled) :
    Spelled (c :: text) ('\\' :: mark :: spelled)
  | unit (value : quad? a b c d = some unit) (leading : isLeading unit = false)
    (trailing : isTrailing unit = false) (rest : Spelled text spelled) :
    Spelled (Char.ofNat unit :: text) ('\\' :: 'u' :: a :: b :: c :: d :: spelled)
  | surrogates (first : quad? a b c d = some leading) (isFirst : isLeading leading = true)
    (second : quad? a' b' c' d' = some trailing) (isSecond : isTrailing trailing = true)
    (rest : Spelled text spelled) :
    Spelled (ofSurrogates leading trailing :: text)
      ('\\' :: 'u' :: a :: b :: c :: d :: '\\' :: 'u' :: a' :: b' :: c' :: d' :: spelled)

def StringText (value : String) (text : List Char) : Prop :=
  ∃ spelled, Spelled value.toList spelled ∧ text = '"' :: spelled ++ ['"']

/-- A text with something before and after it. -/
structure Padded where
  front : List Char := []
  text : List Char
  back : List Char := []
  deriving DecidableEq

namespace Padded

def written (padded : Padded) : List Char := padded.front ++ padded.text ++ padded.back

@[simp] theorem written_bare (text : List Char) : ({ text } : Padded).written = text := by
  rw [written, List.nil_append, List.append_nil]

structure InBlanks (padded : Padded) : Prop where
  front : Blank padded.front
  back : Blank padded.back

instance (padded : Padded) : Decidable padded.InBlanks :=
  decidable_of_iff (Blank padded.front ∧ Blank padded.back)
    ⟨fun ⟨front, back⟩ => ⟨front, back⟩, fun ⟨front, back⟩ => ⟨front, back⟩⟩

end Padded

/-- A member of an object: its key as it is meant and as it is written, and its value. -/
structure Member where
  key : String
  keyText : Padded
  value : Padded
  deriving DecidableEq

namespace Member

def written (member : Member) : List Char :=
  member.keyText.written ++ ':' :: member.value.written

/-- Everything about the member but its value is in order. -/
structure Framed (member : Member) : Prop where
  key : StringText member.key member.keyText.text
  aroundKey : member.keyText.InBlanks
  aroundValue : member.value.InBlanks

end Member

inductive ValueText : List Char → Prop
  | nullWord : ValueText ['n', 'u', 'l', 'l']
  | trueWord : ValueText ['t', 'r', 'u', 'e']
  | falseWord : ValueText ['f', 'a', 'l', 's', 'e']
  | number (number : NumberText literal text) : ValueText text
  | string (string : StringText value text) : ValueText text
  | emptyList (blank : Blank blanks) : ValueText ('[' :: blanks ++ [']'])
  | list (nonempty : items ≠ []) (around : ∀ item ∈ items, item.InBlanks)
    (values : ∀ item ∈ items, ValueText item.text) :
    ValueText ('[' :: withCommas (items.map Padded.written) ++ [']'])
  | emptyObject (blank : Blank blanks) : ValueText ('\x7b' :: blanks ++ ['\x7d'])
  | object (nonempty : members ≠ []) (framed : ∀ member ∈ members, member.Framed)
    (values : ∀ member ∈ members, ValueText member.value.text) :
    ValueText ('\x7b' :: withCommas (members.map Member.written) ++ ['\x7d'])

/-- An object with these members in this order. -/
inductive ObjectText : List Member → List Char → Prop
  | empty (blank : Blank blanks) : ObjectText [] ('\x7b' :: blanks ++ ['\x7d'])
  | nonempty (some : members ≠ []) (framed : ∀ member ∈ members, member.Framed)
    (values : ∀ member ∈ members, ValueText member.value.text) :
    ObjectText members ('\x7b' :: withCommas (members.map Member.written) ++ ['\x7d'])

theorem ObjectText.framed (object : ObjectText members text) :
    ∀ member ∈ members, member.Framed ∧ ValueText member.value.text := by
  cases object with
  | empty blank => simp
  | nonempty some framed values =>
    exact fun member known => ⟨framed member known, values member known⟩

section Integers

/-- A number that is not zero is not written with a zero in front. -/
theorem head?_toDigits {n : Nat} (positive : 0 < n) : (Nat.toDigits 10 n).head? ≠ some '0' := by
  induction n using Nat.strongRecOn with
  | ind n ih =>
    rw [Nat.toDigits_eq_if (by decide)]
    split
    · next small =>
      have each : ∀ digit < 10, 0 < digit → [Nat.digitChar digit].head? ≠ some '0' := by decide
      exact each n small positive
    · next large =>
      have leading := ih (n / 10) (by omega) (by omega)
      rw [List.head?_append]
      cases digits : (Nat.toDigits 10 (n / 10)).head? with
      | none =>
        rw [List.head?_eq_none_iff] at digits
        have := @Nat.length_toDigits_pos 10 (n / 10)
        rw [digits] at this
        contradiction
      | some digit => rwa [digits] at leading

theorem wholeText_toDigits (n : Nat) : WholeText (Nat.toDigits 10 n) := by
  refine ⟨⟨?_, fun c => Nat.isDigit_of_mem_toDigits (by decide) (by decide)⟩, fun zero => ?_⟩
  · exact List.ne_nil_of_length_pos Nat.length_toDigits_pos
  · rcases Nat.eq_zero_or_pos n with rfl | positive
    · rfl
    · exact absurd zero (head?_toDigits positive)

/-- Integers are written in the grammar. -/
theorem integerText_toString (n : Int) : IntegerText n (toString n).toList := by
  have value (n : Nat) : Nat.ofDigitChars 10 (Nat.toDigits 10 n) 0 = n :=
    Nat.ofDigitChars_toDigits (by decide) (by decide)
  cases n with
  | ofNat n =>
    have natural := IntegerText.natural (wholeText_toDigits n)
    rw [value, ← Nat.toList_repr] at natural
    exact natural
  | negSucc n =>
    have negative := IntegerText.negative (wholeText_toDigits (n + 1)) (by rw [value]; omega)
    rw [value, ← Nat.toList_repr] at negative
    show IntegerText _ ("-" ++ (n + 1).repr).toList
    rw [String.toList_append]
    exact negative

theorem IntegerText.numberText (integer : IntegerText n text) :
    ∃ literal, NumberText literal text ∧ literal.fraction = [] ∧ literal.exponent = none ∧
      (literal.negative = false ∧ n = Nat.ofDigitChars 10 literal.whole 0 ∨
        literal.negative = true ∧ 0 < Nat.ofDigitChars 10 literal.whole 0 ∧
          n = -Nat.ofDigitChars 10 literal.whole 0) := by
  cases integer with
  | natural whole =>
    refine ⟨{ whole := text }, ⟨whole, by simp, [], .none, ?_⟩, rfl, rfl, .inl ⟨rfl, rfl⟩⟩
    simp [fractionText]
  | @negative digits whole positive =>
    refine ⟨{ negative := true, whole := digits }, ⟨whole, by simp, [], .none, ?_⟩, rfl, rfl,
      .inr ⟨rfl, positive, rfl⟩⟩
    simp [fractionText]

theorem IntegerText.valueText (integer : IntegerText n text) : ValueText text := by
  obtain ⟨literal, number, -⟩ := integer.numberText
  exact .number number

end Integers

section Strings

theorem toNat_lt_of_control {c : Char} (control : c < ' ') : c.toNat < 32 :=
  UInt32.lt_iff_toNat_lt.mp control

theorem quad?_control {c : Char} (control : c < ' ') :
    quad? '0' '0' (Nat.digitChar (c.toNat / 16)) (Nat.digitChar (c.toNat % 16)) =
      some c.toNat := by
  have each : ∀ n < 32, quad? '0' '0' (Nat.digitChar (n / 16)) (Nat.digitChar (n % 16)) =
      some n := by decide
  exact each c.toNat (toNat_lt_of_control control)

/-- Every character is written in the grammar. -/
theorem spelled_writtenChar (c : Char) (rest : Spelled text spelled) :
    Spelled (c :: text) (writtenChar c ++ spelled) := by
  unfold writtenChar
  split
  · next marked =>
    rcases marked with rfl | rfl
    · exact .short (by decide) rest
    · exact .short (by decide) rest
  · next unmarked =>
    obtain ⟨quote, backslash⟩ := not_or.mp unmarked
    repeat' split
    · next backspace => exact backspace ▸ .short (by decide) rest
    · next feed => exact feed ▸ .short (by decide) rest
    · next newline => exact newline ▸ .short (by decide) rest
    · next carriage => exact carriage ▸ .short (by decide) rest
    · next tab => exact tab ▸ .short (by decide) rest
    · next control =>
      have value := quad?_control control
      have plain : isLeading c.toNat = false ∧ isTrailing c.toNat = false := by
        have small := toNat_lt_of_control control
        simp only [isLeading, isTrailing]
        simp; omega
      have unit := Spelled.unit value plain.1 plain.2 rest
      rwa [Char.ofNat_toNat] at unit
    · next control => exact .plain quote backslash (Char.not_lt.mp control) rest

theorem spelled_flatMap (text : List Char) : Spelled text (text.flatMap writtenChar) := by
  induction text with
  | nil => exact .nil
  | cons c rest ih => exact spelled_writtenChar c ih

/-- Strings are written in the grammar. -/
theorem stringText_writtenText (value : String) :
    StringText value (writtenText value.toList) :=
  ⟨_, spelled_flatMap value.toList, rfl⟩

end Strings

section Writing

def Member.compact (member : String × List Char) : Member where
  key := member.1
  keyText := { text := writtenText member.1.toList }
  value := { text := member.2 }

theorem blank_nil : Blank [] := fun _ member => nomatch member

theorem Padded.InBlanks.compact (text : List Char) : Padded.InBlanks { text } :=
  ⟨blank_nil, blank_nil⟩

/-- Objects are written in the grammar. -/
theorem objectText_writtenObject {members : List (String × List Char)} (some : members ≠ [])
    (values : ∀ member ∈ members, ValueText member.2) :
    ObjectText (members.map Member.compact) (writtenObject members) := by
  have written : (members.map Member.compact).map Member.written =
      members.map writtenMember := by
    rw [List.map_map]
    refine List.map_congr_left fun member _ => ?_
    rw [Function.comp_apply, Member.written, Member.compact, Padded.written_bare,
      Padded.written_bare]
    rfl
  rw [writtenObject, ← written]
  refine .nonempty (mt List.map_eq_nil_iff.mp some) ?_ ?_
  · rw [List.forall_mem_map]
    exact fun member _ =>
      ⟨stringText_writtenText member.1, .compact _, .compact _⟩
  · rw [List.forall_mem_map]
    exact values

/-- Lists are written in the grammar. -/
theorem valueText_writtenList {items : List (List Char)} (values : ∀ item ∈ items, ValueText item) :
    ValueText (writtenList items) := by
  cases items with
  | nil => exact @ValueText.emptyList [] blank_nil
  | cons first rest =>
    have written : ((first :: rest).map fun text => { text : Padded }).map Padded.written =
        first :: rest := by
      rw [List.map_map]
      exact (List.map_congr_left fun text _ => Padded.written_bare text).trans (List.map_id _)
    rw [writtenList, ← written]
    refine .list (List.cons_ne_nil _ _) ?_ ?_
    · rw [List.forall_mem_map]
      exact fun text _ => .compact text
    · rw [List.forall_mem_map]
      exact values

end Writing
end SessionReplay.Json
