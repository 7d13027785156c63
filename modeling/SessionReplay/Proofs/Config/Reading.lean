import SessionReplay.Config.Json
import SessionReplay.Proofs.Json.Fields

/-! Reading configurations. What a text does not state is left as it is by default, and what it
states is taken as it is or not at all. -/
namespace SessionReplay.Config
open Json

/-- What a member makes of the values that were stated before it. -/
inductive Takes : Stated → Member → Stated → Prop
  | initialTime (key : member.key = initialTimeField.name) (first : stated.initialTime = none)
    (value : IntegerText (time : Word).toNat member.value.text) :
    Takes stated member { stated with initialTime := some time }
  | fragmentLimit (key : member.key = fragmentLimitField.name)
    (first : stated.fragmentLimit = none)
    (value : IntegerText (limit : UInt32).toNat member.value.text) :
    Takes stated member { stated with fragmentLimit := some limit }
  | other (time : member.key ≠ initialTimeField.name)
    (limit : member.key ≠ fragmentLimitField.name) : Takes stated member stated

def overridden (time limit : Option Int) : Config :=
  let timed : Config := match time with
    | none => {}
    | some n => ({} : Config).withInitialTime (UInt64.ofNat n.toNat)
  match limit with
  | none => timed
  | some n => timed.withFragmentLimit (UInt32.ofNat n.toNat)

section Members
variable {member : Member}

theorem eq_none_of_unread {value : Option β} (unread : value.isSome = false) : value = none := by
  cases value with
  | none => rfl
  | some => contradiction

theorem find?_of_initialTime (key : member.key = initialTimeField.name) :
    shape.fields.find? (·.name = member.key) = some initialTimeField := by
  rw [key]
  rfl

theorem find?_of_fragmentLimit (key : member.key = fragmentLimitField.name) :
    shape.fields.find? (·.name = member.key) = some fragmentLimitField := by
  rw [key]
  rfl

theorem unknown_of_other (time : member.key ≠ initialTimeField.name)
    (limit : member.key ≠ fragmentLimitField.name) :
    ∀ field ∈ shape.fields, field.name ≠ member.key := by
  intro field known
  simp only [shape, List.mem_cons, List.not_mem_nil, or_false] at known
  rcases known with rfl | rfl
  · exact time.symm
  · exact limit.symm

theorem aligned : ∀ field ∈ shape.fields, field.Aligned := by
  intro field known
  simp only [shape, List.mem_cons, List.not_mem_nil, or_false] at known
  rcases known with rfl | rfl
  · exact aligned_ofToken passValue_of_integer _ _ _
  · exact aligned_ofToken passValue_of_integer _ _ _

theorem takesAll (framed : member.Framed) (value : ValueText member.value.text) :
    shape.TakesAll Takes member := by
  intro stated next following ends takes
  cases takes with
  | initialTime key first value =>
    obtain ⟨token, lexes, means⟩ := value.lexes
    exact RecordShape.readMember_ofToken (find?_of_initialTime key)
      (congrArg Option.isSome first) lexes ((means.unsigned64 _).mpr rfl) framed ends
  | fragmentLimit key first value =>
    obtain ⟨token, lexes, means⟩ := value.lexes
    exact RecordShape.readMember_ofToken (find?_of_fragmentLimit key)
      (congrArg Option.isSome first) lexes ((means.unsigned32 _).mpr rfl) framed ends
  | other time limit =>
    exact RecordShape.readMember_of_unknown (unknown_of_other time limit) framed value stated ends

/-- The value of a known key is supposed to be an integer here. -/
theorem takesOnly (framed : member.Framed) (value : ValueText member.value.text)
    (integer : member.key = initialTimeField.name ∨ member.key = fragmentLimitField.name →
      ∃ n, IntegerText n member.value.text) : shape.TakesOnly Takes member := by
  intro stated next following rest ends read
  refine ⟨?_, RecordShape.rest_of_readMember aligned framed value ends read⟩
  by_cases time : member.key = initialTimeField.name
  · obtain ⟨n, text⟩ := integer (.inl time)
    obtain ⟨token, lexes, means⟩ := text.lexes
    obtain ⟨unread, taken, given, rfl⟩ := RecordShape.store_of_readMember_ofToken
      (find?_of_initialTime time) lexes framed ends read
    have meant := (means.unsigned64 taken).mp given
    exact .initialTime time (eq_none_of_unread unread) (meant ▸ text)
  · by_cases limit : member.key = fragmentLimitField.name
    · obtain ⟨n, text⟩ := integer (.inr limit)
      obtain ⟨token, lexes, means⟩ := text.lexes
      obtain ⟨unread, taken, given, rfl⟩ := RecordShape.store_of_readMember_ofToken
        (find?_of_fragmentLimit limit) lexes framed ends read
      have meant := (means.unsigned32 taken).mp given
      exact .fragmentLimit limit (eq_none_of_unread unread) (meant ▸ text)
    · rw [RecordShape.readMember_of_unknown (unknown_of_other time limit) framed value stated ends]
        at read
      cases read
      exact .other time limit

end Members

section Texts
variable {members : List Member} {stated last : Stated} {time limit : Option Int}

/-- The members can be taken in turn if what they state fits the fields. -/
theorem exists_taken (times : States initialTimeField.name members time)
    (limits : States fragmentLimitField.name members limit)
    (timeFits : ∀ n, time = some n → 0 ≤ n ∧ n ≤ 18446744073709551615)
    (limitFits : ∀ n, limit = some n → 0 ≤ n ∧ n ≤ 4294967295)
    (timeFirst : time ≠ none → stated.initialTime = none)
    (limitFirst : limit ≠ none → stated.fragmentLimit = none) :
    ∃ last, Taken Takes stated members last := by
  induction members generalizing stated time limit with
  | nil => exact ⟨stated, .nil⟩
  | cons member members ih =>
    cases times with
    | @here n _ _ same value rest =>
      cases limits with
      | here sameLimit => exact absurd (same.symm.trans sameLimit) (by decide)
      | elsewhere otherLimit restLimits =>
        rw [← spans_unsigned64.meant_change n (timeFits n rfl)] at value
        obtain ⟨last, taken⟩ := @ih { stated with initialTime := some (UInt64.ofNat n.toNat) } none
          limit rest restLimits nofun limitFits (absurd rfl) limitFirst
        exact ⟨last, .cons (.initialTime same (timeFirst nofun) value) taken⟩
    | elsewhere other rest =>
      cases limits with
      | @here n _ _ same value restLimits =>
        rw [← spans_unsigned32.meant_change n (limitFits n rfl)] at value
        obtain ⟨last, taken⟩ := @ih { stated with fragmentLimit := some (UInt32.ofNat n.toNat) }
          time none rest restLimits timeFits nofun timeFirst (absurd rfl)
        exact ⟨last, .cons (.fragmentLimit same (limitFirst nofun) value) taken⟩
      | elsewhere otherLimit restLimits =>
        obtain ⟨last, taken⟩ := ih rest restLimits timeFits limitFits timeFirst limitFirst
        exact ⟨last, .cons (.other other otherLimit) taken⟩

theorem initialTime_of_taken (times : States initialTimeField.name members time)
    (taken : Taken Takes stated members last) :
    (time = none → last.initialTime = stated.initialTime) ∧
      ∀ n, time = some n → ∃ value : Word, (value.toNat : Int) = n ∧
        last.initialTime = some value := by
  refine times.get_of_taken ?_ ?_ taken
  · intro state member next takes key
    cases takes with
    | initialTime _ _ value => exact ⟨_, value, rfl⟩
    | fragmentLimit other => exact absurd (key.symm.trans other) (by decide)
    | other time => exact absurd key time
  · intro state member next takes key
    cases takes with
    | initialTime same => exact absurd same key
    | fragmentLimit => rfl
    | other => rfl

theorem fragmentLimit_of_taken (limits : States fragmentLimitField.name members limit)
    (taken : Taken Takes stated members last) :
    (limit = none → last.fragmentLimit = stated.fragmentLimit) ∧
      ∀ n, limit = some n → ∃ value : UInt32, (value.toNat : Int) = n ∧
        last.fragmentLimit = some value := by
  refine limits.get_of_taken ?_ ?_ taken
  · intro state member next takes key
    cases takes with
    | initialTime other => exact absurd (key.symm.trans other) (by decide)
    | fragmentLimit _ _ value => exact ⟨_, value, rfl⟩
    | other _ limit => exact absurd key limit
  · intro state member next takes key
    cases takes with
    | initialTime => rfl
    | fragmentLimit same => exact absurd same key
    | other => rfl

/-- A configuration is read if everything that is stated fits, and nothing else of it differs from
the default. -/
theorem read_stated {text : Padded} (blanks : text.InBlanks)
    (object : ObjectText members text.text)
    (times : States initialTimeField.name members time)
    (limits : States fragmentLimitField.name members limit) :
    ((∃ config, read (String.ofList text.written) = .ok config) ↔
      (∀ n, time = some n → 0 ≤ n ∧ n ≤ 18446744073709551615) ∧
        ∀ n, limit = some n → 0 ≤ n ∧ n ≤ 4294967295) ∧
    ∀ config, read (String.ofList text.written) = .ok config →
      config = overridden time limit ∧
        (∀ n, time = some n → (config.initialTime.toNat : Int) = n) ∧
        ∀ n, limit = some n → (config.fragmentLimit.toNat : Int) = n := by
  have known : ∀ member ∈ members, member.key = initialTimeField.name ∨
      member.key = fragmentLimitField.name → ∃ n, IntegerText n member.value.text := by
    rintro member known (time | limit)
    · exact times.integer member known time
    · exact limits.integer member known limit
  have taken {config : Config} (found : read (String.ofList text.written) = .ok config) :
      ∃ last, Taken Takes {} members last ∧ ofStated last = config := by
    obtain ⟨last, taken, complete⟩ := RecordShape.taken_of_read blanks object
      (fun member mem => takesOnly (object.framed member mem).1 (object.framed member mem).2
        (known member mem)) found
    exact ⟨last, taken, Except.ok.inj complete⟩
  have stated {config : Config} (found : read (String.ofList text.written) = .ok config) :
      config = overridden time limit ∧
        (∀ n, time = some n → (config.initialTime.toNat : Int) = n) ∧
        ∀ n, limit = some n → (config.fragmentLimit.toNat : Int) = n := by
    obtain ⟨last, taken, rfl⟩ := taken found
    obtain ⟨noTime, someTime⟩ := initialTime_of_taken times taken
    obtain ⟨noLimit, someLimit⟩ := fragmentLimit_of_taken limits taken
    have timed : last.initialTime = time.map fun n => UInt64.ofNat n.toNat := by
      cases time with
      | none => exact noTime rfl
      | some n =>
        obtain ⟨value, rfl, stored⟩ := someTime n rfl
        rw [stored, Option.map_some, Int.toNat_natCast, UInt64.ofNat_toNat]
    have limited : last.fragmentLimit = limit.map fun n => UInt32.ofNat n.toNat := by
      cases limit with
      | none => exact noLimit rfl
      | some n =>
        obtain ⟨value, rfl, stored⟩ := someLimit n rfl
        rw [stored, Option.map_some, Int.toNat_natCast, UInt32.ofNat_toNat]
    refine ⟨?_, fun n given => ?_, fun n given => ?_⟩
    · rw [ofStated, timed, limited]
      cases time <;> cases limit <;> rfl
    · obtain ⟨value, meant, stored⟩ := someTime n given
      rw [ofStated, stored]
      exact meant
    · obtain ⟨value, meant, stored⟩ := someLimit n given
      rw [ofStated, stored]
      exact meant
  refine ⟨⟨?_, ?_⟩, fun config => stated⟩
  · rintro ⟨config, found⟩
    obtain ⟨-, meantTime, meantLimit⟩ := stated found
    constructor
    · intro n given
      exact meantTime n given ▸ spans_unsigned64.inside config.initialTime
    · intro n given
      exact meantLimit n given ▸ spans_unsigned32.inside config.fragmentLimit
  · rintro ⟨timeFits, limitFits⟩
    obtain ⟨last, taken⟩ := @exists_taken members {} time limit times limits timeFits limitFits
      (fun _ => rfl) (fun _ => rfl)
    refine ⟨ofStated last, RecordShape.read_of_taken blanks object ?_ taken rfl⟩
    exact fun member mem => takesAll (object.framed member mem).1 (object.framed member mem).2

def writtenMembers (config : Config) : List (String × List Char) :=
  [("initial_time_ns", (toString config.initialTime).toList),
    ("fragment_limit", (toString config.fragmentLimit).toList)]

theorem objectText_render (config : Config) :
    ObjectText (config.writtenMembers.map Member.compact) (writtenObject config.writtenMembers) :=
  objectText_writtenObject (List.cons_ne_nil _ _) <|
    List.forall_mem_cons.mpr ⟨(integerText_toString config.initialTime.toNat).valueText,
      List.forall_mem_singleton.mpr (integerText_toString config.fragmentLimit.toNat).valueText⟩

/-- What was written is read back. -/
theorem read_render (config : Config) : read config.render = .ok config := by
  have taken : Taken Takes {} (config.writtenMembers.map Member.compact)
      { initialTime := some config.initialTime, fragmentLimit := some config.fragmentLimit } :=
    .cons (.initialTime rfl rfl (integerText_toString config.initialTime.toNat)) <|
    .cons (.fragmentLimit rfl rfl (integerText_toString config.fragmentLimit.toNat)) .nil
  have object := config.objectText_render
  exact RecordShape.read_written object (fun member mem =>
    takesAll (object.framed member mem).1 (object.framed member mem).2) taken rfl

end Texts
end SessionReplay.Config
