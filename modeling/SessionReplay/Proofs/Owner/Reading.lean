import SessionReplay.Owner.Json
import SessionReplay.Proofs.Json.Fields

/-! Reading owner registrations. Written ones are read back, whatever the order of their
connections; and where a field is missing nothing is read. -/
namespace SessionReplay.OwnerInfo
open Json

def listed (connections : List ConnectionId) : List (List Char) :=
  connections.map fun connection => (toString connection).toList

section Connections
variable {connections : List ConnectionId} {ahead rest : List Token}

theorem lexes_connection (connection : ConnectionId) :
    ∃ token, Lexes (toString connection).toList [token] ∧ token.unsigned64 = .ok connection := by
  obtain ⟨token, lexes, means⟩ := (integerText_toString connection.toNat).lexes
  exact ⟨token, lexes, (means.unsigned64 connection).mpr rfl⟩

/-- Connections may be listed in any order, each of them once. -/
theorem perm_toList_ofList (once : connections.Nodup) :
    connections.Perm (.ofList connections : ConnectionSet).toList := by
  have ascending : (.ofList connections : ConnectionSet).toList.Nodup := by
    refine Std.ExtTreeSet.distinct_toList.imp fun {first second} different same => different ?_
    exact Std.compare_eq_iff_eq.mpr same
  refine (List.perm_ext_iff_of_nodup once ascending).mpr fun connection => ?_
  rw [Std.ExtTreeSet.mem_toList, Std.ExtTreeSet.mem_ofList, List.contains_iff_mem]

/-- What a written list still has after its first item. -/
def closing (connections : List ConnectionId) (rest : List Char) : List Char :=
  (listed connections).flatMap (',' :: ·) ++ ']' :: rest

theorem closing_cons (connection : ConnectionId) (connections : List ConnectionId)
    (rest : List Char) :
    closing (connection :: connections) rest =
      ',' :: ((toString connection).toList ++ closing connections rest) := by
  simp [closing, listed]

theorem ends_closing (connections : List ConnectionId) (rest : List Char) :
    Ends (closing connections rest) := by
  cases connections with
  | nil => exact ends_cons (.inr (by decide)) _
  | cons => exact ends_cons (.inr (by decide)) _

theorem withCommas_eq (first : List Char) (rest : List (List Char)) :
    withCommas (first :: rest) = first ++ rest.flatMap (',' :: ·) := by
  induction rest generalizing first with
  | nil => exact (List.append_nil _).symm
  | cons next rest ih =>
    rw [withCommas_cons, ih]
    rfl

theorem moreConnections_cons (given : token.unsigned64 = .ok connection)
    (more : moreConnections ahead = .ok (connections, rest)) :
    moreConnections (.comma :: token :: ahead) = .ok (connection :: connections, rest) := by
  cases token with
  | closeList => contradiction
  | _ => simp [moreConnections, given, more, bind, Except.bind]

theorem takeConnections_cons (given : token.unsigned64 = .ok connection)
    (more : moreConnections ahead = .ok (connections, rest)) :
    takeConnections (.openList :: token :: ahead) = .ok (connection :: connections, rest) := by
  cases token with
  | closeList => contradiction
  | _ => simp [takeConnections, given, more, bind, Except.bind]

theorem moreConnections_closing (connections : List ConnectionId) (rest : List Char) :
    moreConnections (tokens (closing connections rest)) = .ok (connections, tokens rest) := by
  induction connections with
  | nil =>
    show moreConnections (tokens (']' :: rest)) = _
    rw [tokens_closeList]
    rfl
  | cons connection connections ih =>
    obtain ⟨token, lexes, given⟩ := lexes_connection connection
    rw [closing_cons, tokens_comma, lexes _ (ends_closing _ _)]
    exact moreConnections_cons given ih

/-- A written list is read back, in the order in which it was written. -/
theorem takeConnections_writtenList (connections : List ConnectionId) (rest : List Char) :
    takeConnections (tokens (writtenList (listed connections) ++ rest)) =
      .ok (connections, tokens rest) := by
  cases connections with
  | nil =>
    show takeConnections (tokens ('[' :: ']' :: rest)) = _
    rw [tokens_openList, tokens_closeList]
    rfl
  | cons connection connections =>
    obtain ⟨token, lexes, given⟩ := lexes_connection connection
    have written : writtenList (listed (connection :: connections)) ++ rest =
        '[' :: ((toString connection).toList ++ closing connections rest) := by
      rw [writtenList, listed, List.map_cons, withCommas_eq]
      simp [closing, listed]
    rw [written, tokens_openList, lexes _ (ends_closing _ _)]
    exact takeConnections_cons given (moreConnections_closing connections rest)

/-- Whoever passes over the rest of a list ends where its connections end. -/
theorem passFrom_of_moreConnections (sound : ∀ token ∈ ahead, token.Sound)
    (taken : moreConnections ahead = .ok (connections, rest)) :
    passFrom .next [.list] ahead = .ok rest := by
  fun_induction moreConnections ahead generalizing connections with
  | case1 => contradiction
  | case2 more =>
    cases taken
    exact passFrom_next rest
  | case3 => contradiction
  | case4 => contradiction
  | case5 token more _ ih =>
    obtain ⟨-, sound⟩ := List.forall_mem_cons.mp sound
    obtain ⟨soundToken, soundMore⟩ := List.forall_mem_cons.mp sound
    obtain ⟨connection, given, taken⟩ := bind_ok taken
    obtain ⟨⟨others, left⟩, onward, same⟩ := bind_ok taken
    cases same
    exact (passFrom_of_integer soundToken given false [.list] more).trans (ih soundMore onward)
  | case6 => contradiction

theorem passValue_of_takeConnections (sound : ∀ token ∈ ahead, token.Sound)
    (taken : takeConnections ahead = .ok (connections, rest)) :
    passValue ahead = .ok rest := by
  unfold takeConnections at taken
  split at taken
  · contradiction
  · split at taken
    · contradiction
    · cases taken
      exact passFrom_next rest
    · next token more _ =>
      obtain ⟨-, sound⟩ := List.forall_mem_cons.mp sound
      obtain ⟨soundToken, soundMore⟩ := List.forall_mem_cons.mp sound
      obtain ⟨connection, given, taken⟩ := bind_ok taken
      obtain ⟨⟨others, left⟩, onward, same⟩ := bind_ok taken
      cases same
      exact (passFrom_of_integer soundToken given true [.list] more).trans
        (passFrom_of_moreConnections soundMore onward)
  · contradiction

end Connections

/-- A member that carries a field which was not read before, in its written form. -/
inductive Takes : Stated → Member → Stated → Prop
  | owner {id : OwnerId} (key : member.key = ownerField.name) (first : stated.owner = none)
    (value : IntegerText id.toNat member.value.text) :
    Takes stated member { stated with owner := some id }
  | name {name : String} (key : member.key = nameField.name) (first : stated.name = none)
    (value : StringText name member.value.text) :
    Takes stated member { stated with name := some name }
  | session {session : Int32} (key : member.key = sessionField.name)
    (first : stated.session = none) (value : IntegerText session.toInt member.value.text) :
    Takes stated member { stated with session := some session }
  | connections {connections : List ConnectionId} (key : member.key = connectionsField.name)
    (first : stated.connections = none)
    (value : member.value.text = writtenList (listed connections)) :
    Takes stated member { stated with connections := some (.ofList connections) }

/-- What a member leaves untouched of what was stated before it. -/
structure Spares (stated : Stated) (member : Member) (next : Stated) : Prop where
  owner : member.key ≠ ownerField.name → next.owner = stated.owner
  name : member.key ≠ nameField.name → next.name = stated.name
  session : member.key ≠ sessionField.name → next.session = stated.session
  connections : member.key ≠ connectionsField.name → next.connections = stated.connections

section Fields
variable {member : Member}

theorem aligned : ∀ field ∈ shape.fields, field.Aligned := by
  intro field known
  simp only [shape, List.mem_cons, List.not_mem_nil, or_false] at known
  rcases known with rfl | rfl | rfl | rfl
  · exact aligned_ofToken passValue_of_integer _ _ _
  · exact aligned_ofToken passValue_of_string _ _ _
  · exact aligned_ofToken passValue_of_integer _ _ _
  · intro state ahead next rest sound read
    obtain ⟨⟨connections, left⟩, taken, same⟩ := bind_ok read
    cases same
    exact passValue_of_takeConnections sound taken

theorem takesAll (framed : member.Framed) : shape.TakesAll Takes member := by
  intro stated next following ends takes
  cases takes with
  | owner key first value =>
    have known : shape.fields.find? (·.name = member.key) = some ownerField := by
      rw [key]
      rfl
    obtain ⟨token, lexes, means⟩ := value.lexes
    exact RecordShape.readMember_ofToken known (congrArg Option.isSome first) lexes
      ((means.unsigned32 _).mpr rfl) framed ends
  | name key first value =>
    have known : shape.fields.find? (·.name = member.key) = some nameField := by
      rw [key]
      rfl
    exact RecordShape.readMember_ofToken known (congrArg Option.isSome first)
      (fun rest _ => tokens_string value rest) rfl framed ends
  | session key first value =>
    have known : shape.fields.find? (·.name = member.key) = some sessionField := by
      rw [key]
      rfl
    obtain ⟨token, lexes, means⟩ := value.lexes
    exact RecordShape.readMember_ofToken known (congrArg Option.isSome first) lexes
      ((means.signed32 _).mpr rfl) framed ends
  | @connections connections key first value =>
    refine (RecordShape.readMember_eq_ok_iff (by rw [key]; rfl)).mpr
      ⟨congrArg Option.isSome first, ?_⟩
    have taken : takeConnections (member.ahead following) =
        .ok (connections, tokens following) := by
      rw [Member.ahead, Padded.written, List.append_assoc, List.append_assoc,
        tokens_blank framed.aroundValue.front, value, takeConnections_writtenList,
        tokens_blank framed.aroundValue.back]
    show (takeConnections (member.ahead following)).bind _ = _
    rw [taken]
    rfl

theorem takesOnly_spares (framed : member.Framed) (value : ValueText member.value.text) :
    shape.TakesOnly Spares member := by
  intro stated next following rest ends read
  refine ⟨?_, RecordShape.rest_of_readMember aligned framed value ends read⟩
  cases found : shape.fields.find? (·.name = member.key) with
  | none =>
    have unknown : ∀ field ∈ shape.fields, field.name ≠ member.key := by simpa using found
    rw [RecordShape.readMember_of_unknown unknown framed value stated ends] at read
    cases read
    exact ⟨fun _ => rfl, fun _ => rfl, fun _ => rfl, fun _ => rfl⟩
  | some field =>
    obtain ⟨-, read⟩ := (RecordShape.readMember_eq_ok_iff found).mp read
    have key : field.name = member.key := by simpa using List.find?_some found
    have known := List.mem_of_find?_eq_some found
    simp only [shape, List.mem_cons, List.not_mem_nil, or_false] at known
    rcases known with rfl | rfl | rfl | rfl
    · obtain ⟨taken, rfl⟩ := store_of_read_ofToken read
      exact ⟨absurd key.symm, fun _ => rfl, fun _ => rfl, fun _ => rfl⟩
    · obtain ⟨taken, rfl⟩ := store_of_read_ofToken read
      exact ⟨fun _ => rfl, absurd key.symm, fun _ => rfl, fun _ => rfl⟩
    · obtain ⟨taken, rfl⟩ := store_of_read_ofToken read
      exact ⟨fun _ => rfl, fun _ => rfl, absurd key.symm, fun _ => rfl⟩
    · obtain ⟨⟨connections, left⟩, -, same⟩ := bind_ok read
      cases same
      exact ⟨fun _ => rfl, fun _ => rfl, fun _ => rfl, absurd key.symm⟩

end Fields

section Texts
variable {members : List Member} {text : Padded}

theorem stated_of_complete {stated : Stated} {info : OwnerInfo}
    (complete : ofStated stated = .ok info) :
    stated.owner = some info.owner ∧ stated.name = some info.name ∧
      stated.session = some info.session ∧ stated.connections = some info.connections := by
  rcases stated with ⟨_ | owner, _ | name, _ | session, _ | connections⟩
  all_goals first
    | contradiction
    | cases complete
      exact ⟨rfl, rfl, rfl, rfl⟩

/-- Nothing is read of an object where a field is missing, whatever else it has. -/
theorem read_of_missing (blanks : text.InBlanks) (object : ObjectText members text.text)
    (field : RecordField Stated) (known : field ∈ shape.fields)
    (missing : ∀ member ∈ members, member.key ≠ field.name) :
    ∃ fault, read (String.ofList text.written) = .error fault := by
  cases found : read (String.ofList text.written) with
  | error fault => exact ⟨fault, rfl⟩
  | ok info =>
    obtain ⟨last, taken, complete⟩ := RecordShape.taken_of_read blanks object
      (fun member mem =>
        takesOnly_spares (object.framed member mem).1 (object.framed member mem).2) found
    obtain ⟨owner, name, session, connections⟩ := stated_of_complete complete
    simp only [shape, List.mem_cons, List.not_mem_nil, or_false] at known
    rcases known with rfl | rfl | rfl | rfl
    · have absent := taken.untouched (fun _ _ _ spares => spares.owner) missing
      rw [owner] at absent
      contradiction
    · have absent := taken.untouched (fun _ _ _ spares => spares.name) missing
      rw [name] at absent
      contradiction
    · have absent := taken.untouched (fun _ _ _ spares => spares.session) missing
      rw [session] at absent
      contradiction
    · have absent := taken.untouched (fun _ _ _ spares => spares.connections) missing
      rw [connections] at absent
      contradiction

def writtenMembers (info : OwnerInfo) (connections : List ConnectionId) :
    List (String × List Char) :=
  [("owner_id", (toString info.owner).toList), ("name", writtenText info.name.toList),
    ("session_id", (toString info.session).toList),
    ("connections", writtenList (listed connections))]

/-- What was written is read back. -/
theorem read_renderWith (info : OwnerInfo) {connections : List ConnectionId}
    (all : connections.Perm info.connections.toList) :
    read (info.renderWith connections) = .ok info := by
  have values : ∀ member ∈ info.writtenMembers connections, ValueText member.2 := by
    have items : ∀ item ∈ listed connections, ValueText item :=
      List.forall_mem_map.mpr fun connection _ =>
        (integerText_toString connection.toNat).valueText
    simp only [writtenMembers, List.forall_mem_cons, List.not_mem_nil, false_implies,
      implies_true, and_true]
    exact ⟨(integerText_toString info.owner.toNat).valueText, .string (stringText_writtenText _),
      (integerText_toString info.session.toInt).valueText, valueText_writtenList items⟩
  have taken : Taken Takes {} ((info.writtenMembers connections).map Member.compact)
      { owner := some info.owner, name := some info.name, session := some info.session,
        connections := some (.ofList connections) } :=
    .cons (.owner rfl rfl (integerText_toString info.owner.toNat)) <|
    .cons (.name rfl rfl (stringText_writtenText info.name)) <|
    .cons (.session rfl rfl (integerText_toString info.session.toInt)) <|
    .cons (.connections rfl rfl rfl) .nil
  have same : Std.ExtTreeSet.ofList connections = info.connections := by
    refine Std.ExtTreeSet.ext_mem fun connection => ?_
    rw [Std.ExtTreeSet.mem_ofList, List.contains_iff_mem, all.mem_iff, Std.ExtTreeSet.mem_toList]
  have object := objectText_writtenObject (List.cons_ne_nil _ _) values
  refine RecordShape.read_written object (fun member mem =>
    takesAll (object.framed member mem).1) taken ?_
  rw [same]
  rfl

end Texts
end SessionReplay.OwnerInfo
