import SessionReplay.Proofs.Config.Reading
import SessionReplay.Proofs.Owner.Reading

/-! Objects that state some fields only. For a configuration the others are the default ones, and a
registration cannot be read. -/
namespace SessionReplay.Json

/-- An object is read as a configuration exactly if the integers fit that it states under the known
keys. The configuration is the default one but for these integers, and depends neither on the order
of the members nor on other ones. No registration is read of an object where a field is missing. -/
theorem read_partial {members : List Member} {text : Padded} (blanks : text.InBlanks)
    (object : ObjectText members text.text) :
    (∀ time limit : Option Int, States "initial_time_ns" members time →
      States "fragment_limit" members limit →
      ((∃ config, Config.read (String.ofList text.written) = .ok config) ↔
        (∀ n, time = some n → 0 ≤ n ∧ n ≤ 18446744073709551615) ∧
          ∀ n, limit = some n → 0 ≤ n ∧ n ≤ 4294967295) ∧
      ∀ config, Config.read (String.ofList text.written) = .ok config →
        config = Config.overridden time limit ∧
          (∀ n, time = some n → (config.initialTime.toNat : Int) = n) ∧
          ∀ n, limit = some n → (config.fragmentLimit.toNat : Int) = n) ∧
    ∀ key ∈ ["owner_id", "name", "session_id", "connections"],
      (∀ member ∈ members, member.key ≠ key) →
      ∃ fault, OwnerInfo.read (String.ofList text.written) = .error fault := by
  refine ⟨fun time limit => Config.read_stated blanks object, fun key known missing => ?_⟩
  have names : ["owner_id", "name", "session_id", "connections"] =
      OwnerInfo.shape.fields.map (·.name) := rfl
  rw [names, List.mem_map] at known
  obtain ⟨field, known, rfl⟩ := known
  exact OwnerInfo.read_of_missing blanks object field known missing

/-- An unknown member with nested values, and the largest limit behind a key with an escape. -/
theorem read_partial_of_note :
    let face : Member := ⟨"😀", ⟨[], "\x22\\ud83d\\ude00\x22".toList, []⟩,
      ⟨[], "-1.5e+3".toList, []⟩⟩
    let items : List Padded := [⟨[' '], "null".toList, []⟩,
      ⟨[], '\x7b' :: withCommas ([face].map Member.written) ++ ['\x7d'], []⟩]
    let note : Member := ⟨"note", ⟨[' '], "\x22note\x22".toList, [' ']⟩,
      ⟨[' '], '[' :: withCommas (items.map Padded.written) ++ [']'], []⟩⟩
    let limit : Member := ⟨"fragment_limit", ⟨['\n'], "\x22\\u0066ragment_limit\x22".toList, []⟩,
      ⟨[], "4294967295".toList, ['\t']⟩⟩
    let text : Padded := ⟨[], '\x7b' :: withCommas ([note, limit].map Member.written) ++ ['\x7d'],
      ['\r', '\n']⟩
    String.ofList text.written =
      "\x7b \x22note\x22 : [ null,\x7b\x22\\ud83d\\ude00\x22:-1.5e+3\x7d]," ++
        "\n\x22\\u0066ragment_limit\x22:4294967295\t\x7d\r\n" ∧
    Config.read (String.ofList text.written) = .ok { fragmentLimit := 4294967295 } ∧
    ∃ fault, OwnerInfo.read (String.ofList text.written) = .error fault := by
  intro face items note limit text
  have pair : Spelled [ofSurrogates 0xD83D 0xDE00] "\\ud83d\\ude00".toList :=
    .surrogates rfl rfl rfl rfl .nil
  rw [show [ofSurrogates 0xD83D 0xDE00] = face.key.toList by decide] at pair
  have faceKey : StringText face.key face.keyText.text := ⟨_, pair, rfl⟩
  have digits (c : Char) (digit : c.isDigit = true) : Digits [c] :=
    ⟨List.cons_ne_nil _ _, List.forall_mem_singleton.mpr digit⟩
  have faceValue : NumberText ⟨true, ['1'], ['5'], some (false, ['3'])⟩ face.value.text :=
    ⟨⟨digits '1' rfl, by decide⟩, (digits '5' rfl).2, _,
      .some (.inl rfl) (.tail _ (.head _)) (digits '3' rfl), rfl⟩
  have noteKey : StringText note.key note.keyText.text := stringText_writtenText "note"
  have escape : Spelled (Char.ofNat 0x66 :: "ragment_limit".toList)
      ('\\' :: 'u' :: '0' :: '0' :: '6' :: '6' :: "ragment_limit".toList.flatMap writtenChar) :=
    .unit rfl rfl rfl (spelled_flatMap _)
  rw [show Char.ofNat 0x66 :: "ragment_limit".toList = limit.key.toList by decide] at escape
  have limitKey : StringText limit.key limit.keyText.text := ⟨_, escape, rfl⟩
  have limitValue : IntegerText 4294967295 limit.value.text := integerText_toString 4294967295
  have faceObject : ValueText ('\x7b' :: withCommas ([face].map Member.written) ++ ['\x7d']) :=
    .object (List.cons_ne_nil _ _)
      (List.forall_mem_singleton.mpr ⟨faceKey, .compact _, .compact _⟩)
      (List.forall_mem_singleton.mpr (.number faceValue))
  have noteValue : ValueText note.value.text :=
    .list (List.cons_ne_nil _ _)
      (List.forall_mem_cons.mpr ⟨by decide, List.forall_mem_singleton.mpr (.compact _)⟩)
      (List.forall_mem_cons.mpr ⟨.nullWord, List.forall_mem_singleton.mpr faceObject⟩)
  have object : ObjectText [note, limit] text.text :=
    .nonempty (List.cons_ne_nil _ _)
      (List.forall_mem_cons.mpr ⟨⟨noteKey, by decide, by decide⟩,
        List.forall_mem_singleton.mpr ⟨limitKey, by decide, by decide⟩⟩)
      (List.forall_mem_cons.mpr ⟨noteValue, List.forall_mem_singleton.mpr limitValue.valueText⟩)
  obtain ⟨configured, refused⟩ := read_partial (by decide) object
  obtain ⟨succeeds, stated⟩ := configured none (some 4294967295)
    (.elsewhere (by decide) (.elsewhere (by decide) .nothing))
    (.elsewhere (by decide) (.here rfl limitValue .nothing))
  obtain ⟨config, read⟩ := succeeds.mpr ⟨nofun, fun n given => by cases given; decide⟩
  obtain ⟨rfl, -⟩ := stated config read
  exact ⟨by decide +kernel, read, refused "name" (by decide) (by decide)⟩

end SessionReplay.Json
