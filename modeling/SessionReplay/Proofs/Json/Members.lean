import SessionReplay.Proofs.Json.Passing

/-! Records as objects. Its members are taken one after another: those that are wanted give their
value, all others are passed over, and either way the next member is found. -/
namespace SessionReplay.Json

/-- What the state of a record becomes as members are taken in turn. -/
inductive Taken {σ : Type} (takes : σ → Member → σ → Prop) : σ → List Member → σ → Prop
  | nil : Taken takes state [] state
  | cons (first : takes state member next) (rest : Taken takes next members last) :
    Taken takes state (member :: members) last

/-- Where no member touches a part of the state, it stays as it was. -/
theorem Taken.untouched {σ β : Type} {takes : σ → Member → σ → Prop} {state last : σ} {get : σ → β}
    {touches : Member → Prop} (taken : Taken takes state members last)
    (others : ∀ state member next, takes state member next → ¬touches member →
      get next = get state)
    (none : ∀ member ∈ members, ¬touches member) : get last = get state := by
  induction taken with
  | nil => rfl
  | cons first _ ih =>
    obtain ⟨untouched, later⟩ := List.forall_mem_cons.mp none
    exact (ih later).trans (others _ _ _ first untouched)

/-- The tokens that a field finds where the value of a member stands. -/
def Member.ahead (member : Member) (following : List Char) : List Token :=
  tokens (member.value.written ++ following)

theorem length_le_tokens {members : List Member} (framed : ∀ member ∈ members, member.Framed)
    (values : ∀ member ∈ members, ValueText member.value.text) (rest : List Char) :
    members.length ≤
      (tokens (withCommas (members.map Member.written) ++ '\x7d' :: rest)).length := by
  induction members with
  | nil => exact Nat.zero_le _
  | cons member members ih =>
    obtain ⟨frame, framedLater⟩ := List.forall_mem_cons.mp framed
    obtain ⟨value, valuesLater⟩ := List.forall_mem_cons.mp values
    obtain ⟨own, lexes, -⟩ := value.passes.padded frame.aroundValue
    have onward := ih framedLater valuesLater
    cases members with
    | nil =>
      rw [List.map_singleton, withCommas, tokens_member frame]
      simp
    | cons next members =>
      rw [List.map_cons, List.map_cons, withCommas_cons, List.append_assoc, List.cons_append,
        tokens_member frame, lexes _ (ends_cons (.inr (by decide)) _), tokens_comma]
      simp only [List.length_cons, List.length_append, List.map_cons] at onward ⊢
      omega

namespace RecordShape
variable {σ α : Type} {shape : RecordShape σ α} {takes : σ → Member → σ → Prop}
  {members : List Member} {state last : σ}

/-- Whatever may be taken of the member is taken of it, and what follows it is left. -/
def TakesAll (shape : RecordShape σ α) (takes : σ → Member → σ → Prop) (member : Member) : Prop :=
  ∀ state next following, Ends following → takes state member next →
    shape.readMember member.key state (.colon :: member.ahead following) =
      .ok (next, tokens following)

/-- Nothing else is taken of the member than what may be taken of it. -/
def TakesOnly (shape : RecordShape σ α) (takes : σ → Member → σ → Prop) (member : Member) : Prop :=
  ∀ state next following rest, Ends following →
    shape.readMember member.key state (.colon :: member.ahead following) = .ok (next, rest) →
    takes state member next ∧ rest = tokens following

section One
variable {member : Member} {next : σ} {following : List Char}

theorem readMembers_last (framed : member.Framed)
    (taken : shape.readMember member.key state (.colon :: member.ahead ('\x7d' :: rest)) =
      .ok (next, tokens ('\x7d' :: rest))) (limit : Nat) :
    shape.readMembers (limit + 1) state (tokens (member.written ++ '\x7d' :: rest)) =
      .ok (next, tokens rest) := by
  rw [tokens_member framed]
  show (shape.readMember member.key state (.colon :: member.ahead ('\x7d' :: rest))).bind _ = _
  rw [taken, tokens_closeObject]
  rfl

theorem readMembers_more (framed : member.Framed)
    (taken : shape.readMember member.key state (.colon :: member.ahead (',' :: rest)) =
      .ok (next, tokens (',' :: rest))) (limit : Nat) :
    shape.readMembers (limit + 1) state (tokens (member.written ++ ',' :: rest)) =
      shape.readMembers limit next (tokens rest) := by
  rw [tokens_member framed]
  show (shape.readMember member.key state (.colon :: member.ahead (',' :: rest))).bind _ = _
  rw [taken, tokens_comma]
  rfl

theorem exists_of_readMembers (framed : member.Framed)
    (read : shape.readMembers limit state (tokens (member.written ++ following)) = .ok result) :
    ∃ less next rest, limit = less + 1 ∧
      shape.readMember member.key state (.colon :: member.ahead following) = .ok (next, rest) := by
  cases limit with
  | zero => contradiction
  | succ less =>
    rw [tokens_member framed] at read
    obtain ⟨⟨next, rest⟩, taken, -⟩ := bind_ok read
    exact ⟨less, next, rest, rfl, taken⟩

end One

section All

theorem written_cons (member next : Member) (others : List Member) (rest : List Char) :
    withCommas ((member :: next :: others).map Member.written) ++ rest =
      member.written ++ ',' :: (withCommas ((next :: others).map Member.written) ++ rest) := by
  rw [List.map_cons, List.map_cons, withCommas_cons, List.append_assoc, List.cons_append]

/-- If each member is taken as a whole, then so are all of them in turn. -/
theorem readMembers_of_taken (each : ∀ member ∈ members, shape.TakesAll takes member)
    (framed : ∀ member ∈ members, member.Framed) (nonempty : members ≠ [])
    (taken : Taken takes state members last) (enough : members.length ≤ limit)
    (rest : List Char) :
    shape.readMembers limit state
        (tokens (withCommas (members.map Member.written) ++ '\x7d' :: rest)) =
      .ok (last, tokens rest) := by
  induction taken generalizing limit with
  | nil => contradiction
  | @cons state member next members last first others ih =>
    obtain ⟨frame, framedLater⟩ := List.forall_mem_cons.mp framed
    obtain ⟨one, eachLater⟩ := List.forall_mem_cons.mp each
    obtain ⟨less, rfl⟩ := Nat.exists_eq_add_of_lt enough
    cases members with
    | nil =>
      cases others
      exact readMembers_last frame
        (one state next ('\x7d' :: rest) (ends_cons (.inr (by decide)) _) first) _
    | cons following members =>
      rw [written_cons, readMembers_more frame
        (one state next _ (ends_cons (.inr (by decide)) _) first)]
      exact ih eachLater framedLater (List.cons_ne_nil _ _) (by simp)

/-- What was read of an object was taken of its members in turn, and the object was read to its
end. -/
theorem taken_of_readMembers (each : ∀ member ∈ members, shape.TakesOnly takes member)
    (framed : ∀ member ∈ members, member.Framed) (nonempty : members ≠ [])
    (read : shape.readMembers limit state
      (tokens (withCommas (members.map Member.written) ++ '\x7d' :: rest)) = .ok (last, left)) :
    Taken takes state members last ∧ left = tokens rest := by
  induction members generalizing limit state with
  | nil => contradiction
  | cons member members ih =>
    obtain ⟨frame, framedLater⟩ := List.forall_mem_cons.mp framed
    obtain ⟨one, eachLater⟩ := List.forall_mem_cons.mp each
    cases members with
    | nil =>
      rw [List.map_singleton, withCommas] at read
      obtain ⟨less, next, after, rfl, taken⟩ := exists_of_readMembers frame read
      obtain ⟨first, rfl⟩ := one state next _ after (ends_cons (.inr (by decide)) _) taken
      rw [readMembers_last frame taken] at read
      cases read
      exact ⟨.cons first .nil, rfl⟩
    | cons following members =>
      rw [written_cons] at read
      obtain ⟨less, next, after, rfl, taken⟩ := exists_of_readMembers frame read
      obtain ⟨first, rfl⟩ := one state next _ after (ends_cons (.inr (by decide)) _) taken
      rw [readMembers_more frame taken] at read
      obtain ⟨others, same⟩ := ih eachLater framedLater (List.cons_ne_nil _ _) read
      exact ⟨.cons first others, same⟩

end All

section Whole
variable {text : Padded} {value : α}

theorem tokens_eq_nil_of_blank (blank : Blank back) : tokens back = [] := by
  have passed := tokens_blank blank []
  rw [List.append_nil] at passed
  rw [passed, tokens]

theorem read_object (blanks : text.InBlanks) (object : text.text = '\x7b' :: body ++ ['\x7d']) :
    shape.read (String.ofList text.written) =
      (shape.readObject (tokens (body ++ '\x7d' :: text.back))).bind fun (value, rest) =>
        if rest.isEmpty then .ok value else .error .malformed := by
  rw [read, String.toList_ofList, Padded.written, object, List.append_assoc,
    tokens_blank blanks.front, List.cons_append, List.cons_append, tokens_openObject,
    List.append_assoc, List.singleton_append]
  rfl

theorem exists_of_read (blanks : text.InBlanks) (object : text.text = '\x7b' :: body ++ ['\x7d'])
    (read : shape.read (String.ofList text.written) = .ok value) :
    ∃ rest, shape.readObject (tokens (body ++ '\x7d' :: text.back)) = .ok (value, rest) := by
  rw [read_object blanks object] at read
  obtain ⟨⟨other, rest⟩, done, same⟩ := bind_ok read
  dsimp only at same
  split at same
  · cases same
    exact ⟨rest, done⟩
  · contradiction

theorem complete_of_ok {left rest : List Token}
    (done : (((shape.complete last).mapError ReadFault.unfit).bind fun value =>
      .ok (value, left)) = .ok (value, rest)) : shape.complete last = .ok value := by
  cases complete : shape.complete last with
  | error mismatch =>
    rw [complete] at done
    contradiction
  | ok other =>
    rw [complete] at done
    cases done
    rfl

theorem readObject_empty (blank : Blank blanks) (rest : List Char) :
    shape.readObject (tokens (blanks ++ '\x7d' :: rest)) =
      ((shape.complete shape.blank).mapError .unfit).bind fun value =>
        .ok (value, tokens rest) := by
  rw [tokens_blank blank, tokens_closeObject]
  rfl

theorem readObject_members (framed : ∀ member ∈ members, member.Framed) (nonempty : members ≠ [])
    (rest : List Char) :
    let tokens := tokens (withCommas (members.map Member.written) ++ rest)
    shape.readObject tokens =
      (shape.readMembers tokens.length shape.blank tokens).bind fun (state, rest) =>
        ((shape.complete state).mapError .unfit).bind fun value => .ok (value, rest) := by
  obtain ⟨member, others, rfl⟩ := List.exists_cons_of_ne_nil nonempty
  obtain ⟨more, key⟩ : ∃ more, tokens (withCommas ((member :: others).map Member.written) ++ rest) =
      .text (.ok member.key) (.ok ()) :: more := by
    cases others with
    | nil => exact ⟨_, tokens_member (framed member List.mem_cons_self) rest⟩
    | cons next others =>
      rw [written_cons]
      exact ⟨_, tokens_member (framed member List.mem_cons_self) _⟩
  intro tokens
  have first : tokens = _ := key
  rw [first]
  rfl

/-- A record is read from an object whose members can be taken in turn. -/
theorem read_of_taken (blanks : text.InBlanks) (object : ObjectText members text.text)
    (each : ∀ member ∈ members, shape.TakesAll takes member)
    (taken : Taken takes shape.blank members last) (complete : shape.complete last = .ok value) :
    shape.read (String.ofList text.written) = .ok value := by
  generalize written : text.text = body at object
  cases object with
  | empty blank =>
    cases taken
    rw [read_object blanks written, readObject_empty blank, complete,
      tokens_eq_nil_of_blank blanks.back]
    rfl
  | nonempty some framed values =>
    have enough := length_le_tokens framed values text.back
    rw [read_object blanks written, readObject_members framed some,
      readMembers_of_taken each framed some taken enough, tokens_eq_nil_of_blank blanks.back]
    simp only [Except.bind, complete]
    rfl

/-- The same without blanks around the object. -/
theorem read_written {text : List Char} (object : ObjectText members text)
    (each : ∀ member ∈ members, shape.TakesAll takes member)
    (taken : Taken takes shape.blank members last) (complete : shape.complete last = .ok value) :
    shape.read (String.ofList text) = .ok value := by
  have read := @read_of_taken _ _ shape takes members last { text } value (.compact text) object
    each taken complete
  rwa [Padded.written_bare] at read

/-- A record that was read from an object was taken from its members in turn. -/
theorem taken_of_read (blanks : text.InBlanks) (object : ObjectText members text.text)
    (each : ∀ member ∈ members, shape.TakesOnly takes member)
    (read : shape.read (String.ofList text.written) = .ok value) :
    ∃ last, Taken takes shape.blank members last ∧ shape.complete last = .ok value := by
  generalize written : text.text = body at object
  cases object with
  | empty blank =>
    obtain ⟨rest, done⟩ := exists_of_read blanks written read
    rw [readObject_empty blank] at done
    exact ⟨shape.blank, .nil, complete_of_ok done⟩
  | nonempty some framed values =>
    obtain ⟨rest, done⟩ := exists_of_read blanks written read
    rw [readObject_members framed some] at done
    obtain ⟨⟨last, left⟩, taken, done⟩ := bind_ok done
    exact ⟨last, (taken_of_readMembers each framed some taken).1, complete_of_ok done⟩

end Whole

end RecordShape
end SessionReplay.Json
