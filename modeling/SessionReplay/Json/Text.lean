import SessionReplay.Json.Fault

/-! Strings in JSON. A string that is wanted is decoded; a string that is passed over
is only checked for its shape, so that lone surrogates go unnoticed there. -/
namespace SessionReplay.Json

def hexDigit? (c : Char) : Option Nat :=
  if '0' ≤ c ∧ c ≤ '9' then some (c.toNat - '0'.toNat)
  else if 'a' ≤ c ∧ c ≤ 'f' then some (c.toNat - 'a'.toNat + 10)
  else if 'A' ≤ c ∧ c ≤ 'F' then some (c.toNat - 'A'.toNat + 10)
  else none

def quad? (a b c d : Char) : Option Nat := do
  let a ← hexDigit? a
  let b ← hexDigit? b
  let c ← hexDigit? c
  let d ← hexDigit? d
  return ((a * 16 + b) * 16 + c) * 16 + d

def byteLength (text : List Char) : Nat := text.foldl (fun bytes char => bytes + char.utf8Size) 0

/-- What is wrong where four digits were expected: a text of less than four bytes
ended too early. -/
def quadFault (text : List Char) : ReadFault :=
  if byteLength text < 4 then .truncated else .malformed

def takeQuad (text : List Char) : Except ReadFault (Nat × List Char) :=
  match text with
  | a :: b :: c :: d :: rest =>
    match quad? a b c d with
    | some unit => .ok (unit, rest)
    | none => .error (quadFault text)
  | _ => .error (quadFault text)

def shortEscapes : List (Char × Char) :=
  [('"', '"'), ('\\', '\\'), ('/', '/'), ('b', '\x08'), ('f', '\x0c'), ('n', '\n'),
    ('r', '\x0d'), ('t', '\t')]

def isLeading (unit : Nat) : Bool := 0xD800 ≤ unit && unit ≤ 0xDBFF
def isTrailing (unit : Nat) : Bool := 0xDC00 ≤ unit && unit ≤ 0xDFFF

def ofSurrogates (leading trailing : Nat) : Char :=
  Char.ofNat (0x10000 + (leading - 0xD800) * 0x400 + (trailing - 0xDC00))

/-- The escaped trailing surrogate that must follow a leading one. -/
def takeTrailing (leading : Nat) : List Char → Except ReadFault (Char × List Char)
  | [] => .error .truncated
  | '\\' :: rest =>
    match rest with
    | [] => .error .truncated
    | 'u' :: digits => do
      let (unit, rest) ← takeQuad digits
      if isTrailing unit then .ok (ofSurrogates leading unit, rest) else .error .malformed
    | _ => .error .malformed
  | _ => .error .malformed

/-- The character that an escape stands for, after its backslash. -/
def takeEscape : List Char → Except ReadFault (Char × List Char)
  | [] => .error .truncated
  | 'u' :: digits => do
    let (unit, rest) ← takeQuad digits
    if isTrailing unit then .error .malformed
    else if isLeading unit then takeTrailing unit rest
    else .ok (Char.ofNat unit, rest)
  | c :: rest =>
    match shortEscapes.lookup c with
    | some meant => .ok (meant, rest)
    | none => .error .malformed

/-- Passes over an escape, after its backslash. -/
def passEscape : List Char → Except ReadFault (List Char)
  | [] => .error .truncated
  | 'u' :: digits => do
    let (_, rest) ← takeQuad digits
    .ok rest
  | c :: rest => if (shortEscapes.lookup c).isSome then .ok rest else .error .malformed

theorem takeQuad_length {text rest : List Char} {unit : Nat}
    (taken : takeQuad text = .ok (unit, rest)) : rest.length < text.length := by
  unfold takeQuad at taken
  split at taken
  · split at taken
    · obtain ⟨-, rfl⟩ := Prod.mk.inj (Except.ok.inj taken)
      simp only [List.length_cons]; omega
    · contradiction
  · contradiction

theorem takeTrailing_length {leading : Nat} {text rest : List Char} {c : Char}
    (taken : takeTrailing leading text = .ok (c, rest)) : rest.length < text.length := by
  unfold takeTrailing at taken
  split at taken
  · contradiction
  · split at taken
    · contradiction
    · next digits =>
      cases quad : takeQuad digits with
      | error fault => simp [quad, bind, Except.bind] at taken
      | ok result =>
        have shorter := takeQuad_length (show takeQuad digits = .ok (result.1, result.2) from quad)
        simp only [quad, bind, Except.bind] at taken
        split at taken
        · obtain ⟨-, rfl⟩ := Prod.mk.inj (Except.ok.inj taken)
          simp only [List.length_cons]; omega
        · contradiction
    · contradiction
  · contradiction

theorem takeEscape_length {text rest : List Char} {c : Char}
    (taken : takeEscape text = .ok (c, rest)) : rest.length < text.length := by
  unfold takeEscape at taken
  split at taken
  · contradiction
  · next digits =>
    cases quad : takeQuad digits with
    | error fault => simp [quad, bind, Except.bind] at taken
    | ok result =>
      have shorter := takeQuad_length (show takeQuad digits = .ok (result.1, result.2) from quad)
      simp only [quad, bind, Except.bind] at taken
      split at taken
      · contradiction
      · split at taken
        · have := takeTrailing_length taken
          simp only [List.length_cons]; omega
        · obtain ⟨-, rfl⟩ := Prod.mk.inj (Except.ok.inj taken)
          simp only [List.length_cons]; omega
  · split at taken
    · obtain ⟨-, rfl⟩ := Prod.mk.inj (Except.ok.inj taken)
      simp
    · contradiction

theorem passEscape_length {text rest : List Char}
    (passed : passEscape text = .ok rest) : rest.length < text.length := by
  unfold passEscape at passed
  split at passed
  · contradiction
  · next digits =>
    cases quad : takeQuad digits with
    | error fault => simp [quad, bind, Except.bind] at passed
    | ok result =>
      have shorter := takeQuad_length (show takeQuad digits = .ok (result.1, result.2) from quad)
      simp only [quad, bind, Except.bind] at passed
      obtain rfl := Except.ok.inj passed
      simp only [List.length_cons]; omega
  · split at passed
    · obtain rfl := Except.ok.inj passed
      simp
    · contradiction

/-- The text up to the closing quote, decoded, and what follows it. -/
def takeText (text : List Char) : Except ReadFault (List Char × List Char) :=
  match text with
  | [] => .error .truncated
  | c :: rest =>
    if c = '"' then .ok ([], rest)
    else if c = '\\' then
      match _ : takeEscape rest with
      | .error fault => .error fault
      | .ok (meant, rest') =>
        match takeText rest' with
        | .error fault => .error fault
        | .ok (decoded, rest) => .ok (meant :: decoded, rest)
    else if c < ' ' then .error .malformed
    else
      match takeText rest with
      | .error fault => .error fault
      | .ok (decoded, rest) => .ok (c :: decoded, rest)
termination_by text.length
decreasing_by
  · have := takeEscape_length ‹takeEscape rest = _›
    simp only [List.length_cons]; omega
  · simp

/-- What follows the closing quote. -/
def passText (text : List Char) : Except ReadFault (List Char) :=
  match text with
  | [] => .error .truncated
  | c :: rest =>
    if c = '"' then .ok rest
    else if c = '\\' then
      match _ : passEscape rest with
      | .error fault => .error fault
      | .ok rest' => passText rest'
    else if c < ' ' then .error .malformed
    else passText rest
termination_by text.length
decreasing_by
  · have := passEscape_length ‹passEscape rest = _›
    simp only [List.length_cons]; omega
  · simp

theorem passText_length {text rest : List Char} (passed : passText text = .ok rest) :
    rest.length < text.length := by
  fun_induction passText text with
  | case1 => contradiction
  | case2 rest' =>
    obtain rfl := Except.ok.inj passed
    simp
  | case3 => contradiction
  | case4 rest' tail escape _ ih =>
    have := ih passed
    have := passEscape_length escape
    simp only [List.length_cons]; omega
  | case5 => contradiction
  | case6 c rest' _ _ _ ih =>
    have := ih passed
    simp only [List.length_cons]; omega

def writtenChar (c : Char) : List Char :=
  if c = '"' ∨ c = '\\' then ['\\', c]
  else if c = '\x08' then ['\\', 'b']
  else if c = '\x0c' then ['\\', 'f']
  else if c = '\n' then ['\\', 'n']
  else if c = '\x0d' then ['\\', 'r']
  else if c = '\t' then ['\\', 't']
  else if c < ' ' then
    ['\\', 'u', '0', '0', Nat.digitChar (c.toNat / 16), Nat.digitChar (c.toNat % 16)]
  else [c]

def writtenText (text : List Char) : List Char :=
  '"' :: text.flatMap writtenChar ++ ['"']

end SessionReplay.Json
