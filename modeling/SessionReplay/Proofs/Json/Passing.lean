import SessionReplay.Proofs.Json.Lexing

/-! Passing over values. Whatever value of the grammar is passed over, it is passed over as a whole,
and what follows it comes next. -/
namespace SessionReplay.Json

/-- These tokens are passed over as one value, wherever a value may stand. -/
def Passed (own : List Token) : Prop :=
  ∀ mayClose enclosures rest,
    passFrom (.value mayClose) enclosures (own ++ rest) = passFrom .next enclosures rest

/-- The text is one value for whoever passes over it. -/
def Passes (text : List Char) : Prop := ∃ own, Lexes text own ∧ Passed own

theorem Passes.padded {padded : Padded} (passes : Passes padded.text) (blanks : padded.InBlanks) :
    Passes padded.written := by
  obtain ⟨own, lexes, passed⟩ := passes
  exact ⟨own, lexes.padded blanks, passed⟩

theorem withCommas_cons (item next : List Char) (rest : List (List Char)) :
    withCommas (item :: next :: rest) = item ++ ',' :: withCommas (next :: rest) := rfl

/-- Items with commas between them are passed over up to the end of the list. -/
theorem passes_items {items : List (List Char)} (nonempty : items ≠ [])
    (each : ∀ item ∈ items, Passes item) :
    ∃ own, Lexes (withCommas items) own ∧ ∀ mayClose enclosures rest,
      passFrom (.value mayClose) (.list :: enclosures) (own ++ .closeList :: rest) =
        passFrom .next enclosures rest := by
  induction items with
  | nil => contradiction
  | cons item rest ih =>
    obtain ⟨⟨first, lexes, passed⟩, later⟩ := List.forall_mem_cons.mp each
    cases rest with
    | nil =>
      refine ⟨first, lexes, fun mayClose enclosures rest => ?_⟩
      rw [passed]
      rfl
    | cons next rest =>
      obtain ⟨more, lexesMore, passedMore⟩ := ih (List.cons_ne_nil _ _) later
      refine ⟨first ++ .comma :: more, fun following ends => ?_, fun mayClose enclosures rest => ?_⟩
      · rw [withCommas_cons, List.append_assoc, List.cons_append,
          lexes _ (ends_cons (.inr (by decide)) _), tokens_comma, lexesMore _ ends,
          List.append_assoc, List.cons_append]
      · rw [List.append_assoc, passed, List.cons_append]
        exact passedMore false enclosures rest

/-- Members with commas between them are passed over up to the end of the object. -/
theorem passes_members {members : List Member} (nonempty : members ≠ [])
    (framed : ∀ member ∈ members, member.Framed)
    (each : ∀ member ∈ members, Passes member.value.text) :
    ∃ own, Lexes (withCommas (members.map Member.written)) own ∧ ∀ mayClose enclosures rest,
      passFrom (.key mayClose) (.object :: enclosures) (own ++ .closeObject :: rest) =
        passFrom .next enclosures rest := by
  induction members with
  | nil => contradiction
  | cons member rest ih =>
    obtain ⟨passes, later⟩ := List.forall_mem_cons.mp each
    obtain ⟨frame, framedLater⟩ := List.forall_mem_cons.mp framed
    obtain ⟨value, lexes, passed⟩ := passes.padded frame.aroundValue
    have lexesMember (following : List Char) (ends : Ends following) :
        tokens (member.written ++ following) =
          .text (.ok member.key) (.ok ()) :: .colon :: value ++ tokens following := by
      rw [tokens_member frame, lexes _ ends]
      rfl
    cases rest with
    | nil =>
      refine ⟨.text (.ok member.key) (.ok ()) :: .colon :: value, lexesMember,
        fun mayClose enclosures rest => ?_⟩
      exact passed false (.object :: enclosures) (.closeObject :: rest)
    | cons next rest =>
      obtain ⟨more, lexesMore, passedMore⟩ := ih (List.cons_ne_nil _ _) framedLater later
      refine ⟨.text (.ok member.key) (.ok ()) :: .colon :: value ++ .comma :: more,
        fun following ends => ?_, fun mayClose enclosures rest => ?_⟩
      · rw [List.map_cons, List.map_cons, withCommas_cons, List.append_assoc, List.cons_append,
          lexesMember _ (ends_cons (.inr (by decide)) _), tokens_comma, ← List.map_cons,
          lexesMore _ ends]
        simp
      · rw [List.append_assoc]
        exact (passed false (.object :: enclosures) _).trans (passedMore false enclosures rest)

/-- Every value can be passed over, however deeply it is nested. -/
theorem ValueText.passes (value : ValueText text) : Passes text := by
  induction value with
  | nullWord => exact ⟨[.null], lexes_word rfl fun _ => rfl, fun _ _ _ => rfl⟩
  | trueWord => exact ⟨[.boolean true], lexes_word rfl fun _ => rfl, fun _ _ _ => rfl⟩
  | falseWord => exact ⟨[.boolean false], lexes_word rfl fun _ => rfl, fun _ _ _ => rfl⟩
  | @number literal _ number =>
    exact ⟨[.number literal.value (.ok ())], lexes_number number, fun _ _ _ => rfl⟩
  | @string value _ string =>
    exact ⟨[.text (.ok value) (.ok ())], fun rest _ => tokens_string string rest, fun _ _ _ => rfl⟩
  | @emptyList blanks blank =>
    refine ⟨[.openList, .closeList], fun rest _ => ?_, fun _ _ _ => rfl⟩
    rw [List.cons_append, List.cons_append, tokens_openList, List.append_assoc,
      tokens_blank blank]
    exact congrArg _ (tokens_closeList rest)
  | list nonempty around _ ih =>
    obtain ⟨own, lexes, passed⟩ := passes_items (mt List.map_eq_nil_iff.mp nonempty)
      (List.forall_mem_map.mpr fun item member => (ih item member).padded (around item member))
    refine ⟨.openList :: own ++ [.closeList], fun rest _ => ?_, fun mayClose enclosures rest => ?_⟩
    · have closed := lexes (']' :: rest) (ends_cons (.inr (by decide)) rest)
      rw [List.cons_append, List.cons_append, tokens_openList, List.append_assoc,
        List.singleton_append, closed, tokens_closeList]
      simp
    · rw [List.append_assoc]
      exact passed true enclosures rest
  | @emptyObject blanks blank =>
    refine ⟨[.openObject, .closeObject], fun rest _ => ?_, fun _ _ _ => rfl⟩
    rw [List.cons_append, List.cons_append, tokens_openObject, List.append_assoc,
      tokens_blank blank]
    exact congrArg _ (tokens_closeObject rest)
  | object nonempty framed _ ih =>
    obtain ⟨own, lexes, passed⟩ := passes_members nonempty framed ih
    refine ⟨.openObject :: own ++ [.closeObject], fun rest _ => ?_,
      fun mayClose enclosures rest => ?_⟩
    · have closed := lexes ('\x7d' :: rest) (ends_cons (.inr (by decide)) rest)
      rw [List.cons_append, List.cons_append, tokens_openObject, List.append_assoc,
        List.singleton_append, closed, tokens_closeObject]
      simp
    · rw [List.append_assoc]
      exact passed true enclosures rest

theorem passFrom_next (rest : List Token) : passFrom .next [] rest = .ok rest := by
  cases rest <;> rfl

theorem Passes.passValue (passes : Passes text) (ends : Ends rest) :
    passValue (tokens (text ++ rest)) = .ok (tokens rest) := by
  obtain ⟨own, lexes, passed⟩ := passes
  rw [lexes rest ends]
  exact (passed ..).trans (passFrom_next _)

end SessionReplay.Json
