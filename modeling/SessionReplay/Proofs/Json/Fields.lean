import SessionReplay.Proofs.Json.Members

/-! The values of a record's fields. An integer is taken if it fits the field and otherwise refused,
never wrapped; and whatever a field takes of a text, it takes one whole value. -/
namespace SessionReplay.Json

/-- The token stands for an integer, which fields take if it is theirs to represent. -/
structure Token.Means (token : Token) (n : Int) : Prop where
  unsigned64 : ∀ value, token.unsigned64 = .ok value ↔ (value.toNat : Int) = n
  unsigned32 : ∀ value, token.unsigned32 = .ok value ↔ (value.toNat : Int) = n
  signed32 : ∀ value, token.signed32 = .ok value ↔ value.toInt = n

section Integers
variable {n : Int}

theorem IntegerText.unique (one : IntegerText n text) (two : IntegerText m text) : n = m := by
  have unsigned {digits : List Char} (whole : WholeText ('-' :: digits)) : False :=
    absurd (whole.1.2 '-' List.mem_cons_self) (by decide)
  cases one with
  | natural whole =>
    cases two with
    | natural => rfl
    | negative => exact (unsigned whole).elim
  | negative _ positive =>
    cases two with
    | natural whole => exact (unsigned whole).elim
    | negative => rfl

/-- An integer is kept as it is if it has at most 64 bits. -/
theorem IntegerText.literal (integer : IntegerText n text) :
    ∃ literal, NumberText literal text ∧ literal.integer? =
      if -9223372036854775808 ≤ n ∧ n < 18446744073709551616 then some n else none := by
  obtain ⟨literal, number, fraction, exponent, sign⟩ := integer.numberText
  refine ⟨literal, number, ?_⟩
  have size : UInt64.size = 18446744073709551616 := rfl
  rw [show Nat.ofDigitChars 10 literal.whole 0 = NumberLiteral.valueOf literal.whole from rfl]
    at sign
  rw [NumberLiteral.integer?, if_pos ⟨fraction, exponent⟩]
  generalize NumberLiteral.valueOf literal.whole = magnitude at sign ⊢
  rcases sign with ⟨negative, rfl⟩ | ⟨negative, positive, rfl⟩
  · rw [negative, if_neg Bool.false_ne_true]
    by_cases small : magnitude < UInt64.size
    · rw [if_pos small, if_pos (by omega)]
    · rw [if_neg small, if_neg (by omega)]
  · rw [negative, if_pos rfl]
    by_cases small : 0 < magnitude ∧ magnitude ≤ 9223372036854775808
    · rw [if_pos small, if_pos (by omega)]
    · rw [if_neg small, if_neg (by omega)]

/-- A field that asks for integers between two bounds of at most 64 bits gets them. -/
theorem integer_eq_ok_iff {literal : NumberLiteral} {low high : Int}
    (kept : literal.integer? =
      if -9223372036854775808 ≤ n ∧ n < 18446744073709551616 then some n else none)
    (least : -9223372036854775808 ≤ low) (greatest : high < 18446744073709551616)
    (expected : Expected) (value : Int) :
    (Token.number literal.value (.ok ())).integer expected low high = .ok value ↔
      value = n ∧ low ≤ n ∧ n ≤ high := by
  rw [NumberLiteral.value, kept]
  by_cases small : -9223372036854775808 ≤ n ∧ n < 18446744073709551616
  · rw [if_pos small]
    by_cases inside : low ≤ n ∧ n ≤ high
    · simp [Token.integer, inside, eq_comm]
    · simp [Token.integer, inside]
  · rw [if_neg small]
    cases read : literal.float with
    | error fault => simp [Token.integer, Except.map]; omega
    | ok float => simp [Token.integer, Except.map]; omega

theorem map_eq_ok_iff {given : Except ReadFault β} {change : β → γ} :
    given.map change = .ok value ↔ ∃ known, given = .ok known ∧ change known = value := by
  cases given with
  | error fault => simp [Except.map]
  | ok known => simp [Except.map]

/-- The values of a type are the integers between two bounds. -/
structure Spans {β : Type} (low high : Int) (change : Int → β) (meant : β → Int) : Prop where
  inside : ∀ value, low ≤ meant value ∧ meant value ≤ high
  change_meant : ∀ value, change (meant value) = value
  meant_change : ∀ n, low ≤ n ∧ n ≤ high → meant (change n) = n

theorem spans_unsigned64 :
    Spans 0 18446744073709551615 (fun n => UInt64.ofNat n.toNat) fun value => value.toNat where
  inside value := by
    have := value.toNat_lt
    omega
  change_meant value := UInt64.ofNat_toNat
  meant_change n fits := by
    rw [UInt64.toNat_ofNat_of_lt' (by simp only [UInt64.size]; omega)]
    omega

theorem spans_unsigned32 :
    Spans 0 4294967295 (fun n => UInt32.ofNat n.toNat) fun value => value.toNat where
  inside value := by
    have := value.toNat_lt
    omega
  change_meant value := UInt32.ofNat_toNat
  meant_change n fits := by
    rw [UInt32.toNat_ofNat_of_lt' (by simp only [UInt32.size]; omega)]
    omega

theorem spans_signed32 : Spans (-2147483648) 2147483647 Int32.ofInt Int32.toInt where
  inside value := by
    have := value.le_toInt
    have := value.toInt_lt
    omega
  change_meant := Int32.ofInt_toInt
  meant_change n fits := Int32.toInt_ofInt_of_le (by omega) (by omega)

theorem Spans.map_integer_iff {literal : NumberLiteral} {low high : Int} {change : Int → β}
    {meant : β → Int} (spans : Spans low high change meant)
    (kept : literal.integer? =
      if -9223372036854775808 ≤ n ∧ n < 18446744073709551616 then some n else none)
    (least : -9223372036854775808 ≤ low) (greatest : high < 18446744073709551616)
    (expected : Expected) (value : β) :
    ((Token.number literal.value (.ok ())).integer expected low high).map change = .ok value ↔
      meant value = n := by
  rw [map_eq_ok_iff]
  constructor
  · rintro ⟨known, found, rfl⟩
    obtain ⟨rfl, fits⟩ := (integer_eq_ok_iff kept least greatest expected known).mp found
    exact spans.meant_change known fits
  · rintro rfl
    exact ⟨meant value, (integer_eq_ok_iff kept least greatest expected _).mpr
      ⟨rfl, spans.inside value⟩, spans.change_meant value⟩

/-- An integer is one token, which means it. -/
theorem IntegerText.lexes (integer : IntegerText n text) :
    ∃ token, Lexes text [token] ∧ token.Means n := by
  obtain ⟨literal, number, kept⟩ := integer.literal
  refine ⟨_, lexes_number number, ?_, ?_, ?_⟩
  · exact spans_unsigned64.map_integer_iff kept (by decide) (by decide) .unsigned64
  · exact spans_unsigned32.map_integer_iff kept (by decide) (by decide) .unsigned32
  · exact spans_signed32.map_integer_iff kept (by decide) (by decide) .signed32

end Integers

section Soundness

theorem passEscape_of_takeQuad (taken : takeQuad digits = .ok (unit, rest)) :
    passEscape ('u' :: digits) = .ok rest := by
  simp [passEscape, taken, bind, Except.bind]

theorem passEscape_of_takeTrailing (taken : takeTrailing leading spelled = .ok (c, rest)) :
    ∃ digits, spelled = '\\' :: 'u' :: digits ∧ passEscape ('u' :: digits) = .ok rest := by
  unfold takeTrailing at taken
  split at taken
  · contradiction
  · split at taken
    · contradiction
    · next digits =>
      obtain ⟨⟨unit, after⟩, quad, taken⟩ := bind_ok taken
      dsimp only at taken
      split at taken
      · obtain ⟨-, rfl⟩ := Prod.mk.inj (Except.ok.inj taken)
        exact ⟨digits, rfl, passEscape_of_takeQuad quad⟩
      · contradiction
    · contradiction
  · contradiction

/-- Who decodes an escape could as well pass over it; a pair of surrogates is passed over in two
steps. -/
theorem passText_of_takeEscape (taken : takeEscape escape = .ok (c, spelled))
    (onward : passText spelled = .ok rest) : passText ('\\' :: escape) = .ok rest := by
  unfold takeEscape at taken
  split at taken
  · contradiction
  · obtain ⟨⟨unit, after⟩, quad, taken⟩ := bind_ok taken
    refine passText_escape (passEscape_of_takeQuad quad) ?_
    dsimp only at taken
    split at taken
    · contradiction
    · split at taken
      · obtain ⟨digits, rfl, passed⟩ := passEscape_of_takeTrailing taken
        exact passText_escape passed onward
      · obtain ⟨-, rfl⟩ := Prod.mk.inj (Except.ok.inj taken)
        exact onward
  · next mark after other =>
    split at taken
    · next meant known =>
      obtain ⟨-, rfl⟩ := Prod.mk.inj (Except.ok.inj taken)
      refine passText_escape ?_ onward
      unfold passEscape
      split
      · contradiction
      · next same => exact (other (List.cons.inj same).1).elim
      · next same =>
        cases same
        rw [known]
        rfl
    · contradiction

/-- Who decodes a string could as well pass over it, to the same end. -/
theorem passText_of_takeText (taken : takeText text = .ok (decoded, rest)) :
    passText text = .ok rest := by
  fun_induction takeText text generalizing decoded with
  | case1 => contradiction
  | case2 rest' =>
    cases taken
    rw [passText, if_pos rfl]
  | case3 => contradiction
  | case4 => contradiction
  | case5 escape meant spelled escaped decoded left onward _ ih =>
    obtain ⟨-, rfl⟩ := Prod.mk.inj (Except.ok.inj taken)
    exact passText_of_takeEscape escaped (ih onward)
  | case6 => contradiction
  | case7 => contradiction
  | case8 c spelled quote backslash control decoded left onward ih =>
    obtain ⟨-, rfl⟩ := Prod.mk.inj (Except.ok.inj taken)
    exact passText_plain quote backslash (Char.not_lt.mp control) (ih onward)

/-- A token that has a value can also be passed over. -/
def Token.Sound : Token → Prop
  | number (.ok _) passed | text (.ok _) passed => passed = .ok ()
  | _ => True

theorem sound_first (c : Char) (rest : List Char) : (Token.first c rest).1.Sound := by
  have word (token : Token) (sound : token.Sound) (letters : List Char) :
      (Token.ofWord token letters rest).1.Sound := by
    unfold Token.ofWord
    split
    · exact sound
    · trivial
  have number (text : List Char) : (Token.ofNumber text).1.Sound := by
    unfold Token.ofNumber
    split
    · next literal after scanned => cases literal.value <;> trivial
    · trivial
  have text : (Token.ofText rest).1.Sound := by
    cases taken : takeText rest with
    | error fault =>
      simp only [Token.ofText, taken, Except.map]
      split <;> trivial
    | ok result =>
      obtain ⟨decoded, after⟩ := result
      simp only [Token.ofText, taken, passText_of_takeText taken]
      rfl
  unfold Token.first
  split
  all_goals first
    | exact text
    | exact word .null trivial _
    | exact word (.boolean _) trivial _
    | exact trivial
    | split
      · exact number _
      · trivial

theorem sound_tokens (text : List Char) : ∀ token ∈ tokens text, token.Sound := by
  fun_induction tokens text with
  | case1 => simp
  | case2 c rest blank ih => exact ih
  | case3 c rest visible ih => exact List.forall_mem_cons.mpr ⟨sound_first c rest, ih⟩

theorem passFrom_of_integer {token : Token} {change : Int → β} (sound : token.Sound)
    (read : (token.integer expected low high).map change = .ok taken) (mayClose : Bool)
    (enclosures : List Enclosure) (rest : List Token) :
    passFrom (.value mayClose) enclosures (token :: rest) = passFrom .next enclosures rest := by
  obtain ⟨value, read, -⟩ := map_eq_ok_iff.mp read
  unfold Token.integer at read
  split at read
  · cases sound
    rfl
  · contradiction

theorem passValue_of_integer {change : Int → β} (token : Token) (taken : β) (rest : List Token)
    (sound : token.Sound) (read : (token.integer expected low high).map change = .ok taken) :
    passValue (token :: rest) = .ok rest :=
  (passFrom_of_integer sound read ..).trans (passFrom_next rest)

theorem passValue_of_string (token : Token) (taken : String) (rest : List Token)
    (sound : token.Sound) (read : token.string = .ok taken) :
    passValue (token :: rest) = .ok rest := by
  unfold Token.string at read
  split at read
  · cases sound
    exact passFrom_next rest
  · contradiction

end Soundness

section Members
variable {σ α : Type} {shape : RecordShape σ α} {field : RecordField σ} {member : Member}
  {state next : σ}

/-- Where the field takes a value, it takes what would be passed over. -/
def RecordField.Aligned (field : RecordField σ) : Prop :=
  ∀ state tokens next rest, (∀ token ∈ tokens, token.Sound) →
    field.read state tokens = .ok (next, rest) → passValue tokens = .ok rest

theorem aligned_ofToken {value : Token → Except ReadFault β}
    (single : ∀ token taken rest, token.Sound → value token = .ok taken →
      passValue (token :: rest) = .ok rest) (name : String) (isRead : σ → Bool)
    (store : σ → β → σ) : (RecordField.ofToken name isRead value store).Aligned := by
  intro state ahead next rest sound read
  cases ahead with
  | nil => contradiction
  | cons token more =>
    obtain ⟨taken, known, same⟩ := map_eq_ok_iff.mp read
    cases same
    exact single token taken _ (sound token List.mem_cons_self) known

theorem store_of_read_ofToken {value : Token → Except ReadFault β} {isRead : σ → Bool}
    {store : σ → β → σ} {ahead : List Token}
    (read : (RecordField.ofToken name isRead value store).read state ahead = .ok (next, rest)) :
    ∃ taken, next = store state taken := by
  cases ahead with
  | nil => contradiction
  | cons token more =>
    obtain ⟨taken, -, same⟩ := map_eq_ok_iff.mp read
    exact ⟨taken, (Prod.mk.inj same).1.symm⟩

theorem read_ofToken {value : Token → Except ReadFault β} {token : Token}
    (lexes : Lexes member.value.text [token]) (framed : member.Framed) (ends : Ends following)
    (name : String) (isRead : σ → Bool) (store : σ → β → σ) (state : σ) :
    (RecordField.ofToken name isRead value store).read state (member.ahead following) =
      (value token).map fun taken => (store state taken, tokens following) := by
  rw [Member.ahead, lexes.padded framed.aroundValue following ends]
  rfl

namespace RecordShape

theorem readMember_of_unknown (unknown : ∀ field ∈ shape.fields, field.name ≠ member.key)
    (framed : member.Framed) (value : ValueText member.value.text) (state : σ)
    (ends : Ends following) :
    shape.readMember member.key state (.colon :: member.ahead following) =
      .ok (state, tokens following) := by
  have none : shape.fields.find? (·.name = member.key) = none := by simpa using unknown
  have passed := (value.passes.padded framed.aroundValue).passValue ends
  rw [readMember, none]
  simp only [Option.any_none, Bool.false_eq_true, if_false, Member.ahead, passed, Except.map]

/-- The value of a known key is taken by its field, unless that was read before. -/
theorem readMember_eq_ok_iff (known : shape.fields.find? (·.name = member.key) = some field) :
    shape.readMember member.key state (.colon :: member.ahead following) = .ok (next, rest) ↔
      field.isRead state = false ∧
        field.read state (member.ahead following) = .ok (next, rest) := by
  rw [readMember, known, Option.any_some]
  cases read : field.isRead state <;> simp

section OfToken
variable {value : Token → Except ReadFault β} {isRead : σ → Bool} {store : σ → β → σ}
  {token : Token} {taken : β}

theorem readMember_ofToken
    (known : shape.fields.find? (·.name = member.key) = some (.ofToken name isRead value store))
    (unread : isRead state = false) (lexes : Lexes member.value.text [token])
    (given : value token = .ok taken) (framed : member.Framed) (ends : Ends following) :
    shape.readMember member.key state (.colon :: member.ahead following) =
      .ok (store state taken, tokens following) := by
  refine (readMember_eq_ok_iff known).mpr ⟨unread, ?_⟩
  rw [read_ofToken lexes framed ends, given]
  rfl

theorem store_of_readMember_ofToken
    (known : shape.fields.find? (·.name = member.key) = some (.ofToken name isRead value store))
    (lexes : Lexes member.value.text [token]) (framed : member.Framed) (ends : Ends following)
    (read : shape.readMember member.key state (.colon :: member.ahead following) =
      .ok (next, rest)) :
    isRead state = false ∧ ∃ taken, value token = .ok taken ∧ next = store state taken := by
  obtain ⟨unread, read⟩ := (readMember_eq_ok_iff known).mp read
  rw [read_ofToken lexes framed ends] at read
  obtain ⟨taken, given, same⟩ := map_eq_ok_iff.mp read
  exact ⟨unread, taken, given, (Prod.mk.inj same).1.symm⟩

end OfToken

/-- If all fields are aligned, a member is taken or passed over as a whole. -/
theorem rest_of_readMember (aligned : ∀ field ∈ shape.fields, field.Aligned)
    (framed : member.Framed) (value : ValueText member.value.text) (ends : Ends following)
    (read : shape.readMember member.key state (.colon :: member.ahead following) =
      .ok (next, rest)) : rest = tokens following := by
  cases found : shape.fields.find? (·.name = member.key) with
  | none =>
    have unknown : ∀ field ∈ shape.fields, field.name ≠ member.key := by simpa using found
    rw [readMember_of_unknown unknown framed value state ends] at read
    cases read
    rfl
  | some field =>
    obtain ⟨-, read⟩ := (readMember_eq_ok_iff found).mp read
    have taken := aligned field (List.mem_of_find?_eq_some found) state _ next rest
      (sound_tokens _) read
    have passed := (value.passes.padded framed.aroundValue).passValue ends
    exact Except.ok.inj (taken.symm.trans passed)

end RecordShape
end Members

/-- Which integer members state under a key, if any of them has it; at most one does. -/
inductive States (key : String) : List Member → Option Int → Prop
  | nothing : States key [] none
  | here (same : member.key = key) (value : IntegerText n member.value.text)
    (rest : States key members none) : States key (member :: members) (some n)
  | elsewhere (other : member.key ≠ key) (rest : States key members stated) :
    States key (member :: members) stated

section States
variable {σ β : Type} {takes : σ → Member → σ → Prop} {state last : σ} {get : σ → Option β}
  {meant : β → Int}

theorem States.integer (states : States key members stated) :
    ∀ member ∈ members, member.key = key → ∃ n, IntegerText n member.value.text := by
  induction states with
  | nothing => simp
  | here _ value _ ih => exact List.forall_mem_cons.mpr ⟨fun _ => ⟨_, value⟩, ih⟩
  | elsewhere other _ ih =>
    exact List.forall_mem_cons.mpr ⟨fun same => absurd same other, ih⟩

/-- What members state under a key is what the field of that key holds in the end. -/
theorem States.get_of_taken (states : States key members stated)
    (own : ∀ state member next, takes state member next → member.key = key →
      ∃ value, IntegerText (meant value) member.value.text ∧ get next = some value)
    (others : ∀ state member next, takes state member next → member.key ≠ key →
      get next = get state)
    (taken : Taken takes state members last) :
    (stated = none → get last = get state) ∧
      ∀ n, stated = some n → ∃ value, meant value = n ∧ get last = some value := by
  induction states generalizing state with
  | nothing =>
    cases taken
    exact ⟨fun _ => rfl, fun n given => nomatch given⟩
  | here same value _ ih =>
    cases taken with
    | cons first rest =>
      obtain ⟨taken, text, stored⟩ := own _ _ _ first same
      refine ⟨fun none => (nomatch none), fun n given => ⟨taken, ?_, ?_⟩⟩
      · cases given
        exact text.unique value
      · exact ((ih rest).1 rfl).trans stored
  | elsewhere other _ ih =>
    cases taken with
    | cons first rest =>
      obtain ⟨absent, present⟩ := ih rest
      exact ⟨fun none => (absent none).trans (others _ _ _ first other), present⟩

end States
end SessionReplay.Json
