import SessionReplay.Owner.Change

/-! What a table of owners answers after each change. Every lemma reads the table
in one of its two directions: from an owner to its list, from a connection to its
holder. Nothing beyond these answers is needed of the maps behind the table. -/
namespace SessionReplay.OwnerTable

/-- The owner is live and the connection is on its list. -/
def Lists (table : OwnerTable) (owner : OwnerId) (connection : ConnectionId) : Prop :=
  ∃ info, table.get? owner = some info ∧ connection ∈ info.connections

theorem contains_eq_isSome (table : OwnerTable) (owner : OwnerId) :
    table.contains owner = (table.get? owner).isSome :=
  Std.TreeMap.contains_eq_isSome_getElem?

theorem not_lists_of_absent {table : OwnerTable} (absent : table.contains owner = false)
    (connection : ConnectionId) : ¬ table.Lists owner connection := by
  rintro ⟨info, found, _⟩
  rw [contains_eq_isSome, found] at absent
  contradiction

section Folds

/-- Entering many connections under one owner, and striking many out. The order in
which a set is gone through does not matter to a later look. -/
theorem getElem?_foldl_insert (connections : List ConnectionId) (owner : OwnerId)
    (holders : Std.TreeMap ConnectionId OwnerId) (connection : ConnectionId) :
    (connections.foldl (fun holders each => holders.insert each owner) holders)[connection]? =
      if connection ∈ connections then some owner else holders[connection]? := by
  induction connections generalizing holders with
  | nil => simp
  | cons first rest ih =>
    rw [List.foldl_cons, ih, Std.TreeMap.getElem?_insert]
    by_cases later : connection ∈ rest
    · simp [later]
    · by_cases same : first = connection <;> simp [later, same, Ne.symm]

theorem getElem?_foldl_erase (connections : List ConnectionId)
    (holders : Std.TreeMap ConnectionId OwnerId) (connection : ConnectionId) :
    (connections.foldl (fun holders each => holders.erase each) holders)[connection]? =
      if connection ∈ connections then none else holders[connection]? := by
  induction connections generalizing holders with
  | nil => simp
  | cons first rest ih =>
    rw [List.foldl_cons, ih, Std.TreeMap.getElem?_erase]
    by_cases later : connection ∈ rest
    · simp [later]
    · by_cases same : first = connection <;> simp [later, same, Ne.symm]

end Folds

section Register
variable {table : OwnerTable} {info : OwnerInfo}

theorem register_of_live (live : table.contains info.owner = true) :
    table.register info = (table, false) := by
  simp only [register, live, if_true]

theorem get?_register (absent : table.contains info.owner = false) (owner : OwnerId) :
    (table.register info).1.get? owner =
      if owner = info.owner then some info else table.get? owner := by
  simp only [register, absent, get?, Std.TreeMap.getElem?_insert, Bool.false_eq_true, if_false,
    Std.LawfulEqCmp.compare_eq_iff_eq, @eq_comm _ owner]

theorem holder?_register (absent : table.contains info.owner = false)
    (connection : ConnectionId) :
    (table.register info).1.holder? connection =
      if connection ∈ info.connections then some info.owner else table.holder? connection := by
  simp only [register, absent, holder?, Std.ExtTreeSet.foldl_eq_foldl_toList,
    Bool.false_eq_true, if_false, getElem?_foldl_insert, Std.ExtTreeSet.mem_toList]

theorem lists_register (absent : table.contains info.owner = false) (owner : OwnerId)
    (connection : ConnectionId) :
    (table.register info).1.Lists owner connection ↔
      owner = info.owner ∧ connection ∈ info.connections ∨ table.Lists owner connection := by
  have before := not_lists_of_absent absent connection
  unfold Lists at before ⊢
  rw [get?_register absent]
  by_cases same : owner = info.owner
  · simp [same, before]
  · simp [same]

end Register

section Unregister
variable {table : OwnerTable} {owner : OwnerId} {info : OwnerInfo}

theorem unregister_of_absent (absent : table.get? owner = none) :
    table.unregister owner = (table, none) := by
  simp only [unregister, absent]

theorem get?_unregister (live : table.get? owner = some info) (other : OwnerId) :
    (table.unregister owner).1.get? other = if other = owner then none else table.get? other := by
  simp only [unregister, live]
  simp only [get?, Std.TreeMap.getElem?_erase, Std.LawfulEqCmp.compare_eq_iff_eq, @eq_comm _ other]

theorem holder?_unregister (live : table.get? owner = some info) (connection : ConnectionId) :
    (table.unregister owner).1.holder? connection =
      if connection ∈ info.connections then none else table.holder? connection := by
  simp only [unregister, live]
  simp only [holder?, Std.ExtTreeSet.foldl_eq_foldl_toList, getElem?_foldl_erase,
    Std.ExtTreeSet.mem_toList]

theorem lists_unregister (live : table.get? owner = some info) (other : OwnerId)
    (connection : ConnectionId) :
    (table.unregister owner).1.Lists other connection ↔
      other ≠ owner ∧ table.Lists other connection := by
  unfold Lists
  rw [get?_unregister live]
  by_cases same : other = owner <;> simp [same]

end Unregister

section Lists
variable (table : OwnerTable) (owner other : OwnerId) (connection each : ConnectionId)

theorem get?_drop : (table.drop owner connection).get? other =
    if other = owner then
      (table.get? owner).map fun info =>
        { info with connections := info.connections.erase connection }
    else table.get? other := by
  simp only [drop, get?, Std.TreeMap.getElem?_modify, Std.LawfulEqCmp.compare_eq_iff_eq,
    @eq_comm _ other]

theorem get?_hold : (table.hold owner connection).get? other =
    if other = owner then
      (table.get? owner).map fun info =>
        { info with connections := info.connections.insert connection }
    else table.get? other := by
  simp only [hold, get?, Std.TreeMap.getElem?_modify, Std.LawfulEqCmp.compare_eq_iff_eq,
    @eq_comm _ other]

@[simp] theorem holder?_drop : (table.drop owner connection).holder? each = table.holder? each :=
  rfl

@[simp] theorem holder?_hold : (table.hold owner connection).holder? each = table.holder? each :=
  rfl

@[simp] theorem contains_drop :
    (table.drop owner connection).contains other = table.contains other := by
  rw [contains_eq_isSome, contains_eq_isSome, get?_drop]
  by_cases same : other = owner <;> simp [same]

theorem lists_drop : (table.drop owner connection).Lists other each ↔
    table.Lists other each ∧ ¬ (other = owner ∧ each = connection) := by
  unfold Lists
  rw [get?_drop]
  by_cases same : other = owner
  · subst same
    cases found : table.get? other <;>
      simp [Std.ExtTreeSet.mem_erase, and_comm, @eq_comm _ each]
  · simp [same]

theorem lists_hold (live : table.contains owner = true) :
    (table.hold owner connection).Lists other each ↔
      table.Lists other each ∨ other = owner ∧ each = connection := by
  rw [contains_eq_isSome] at live
  obtain ⟨info, found⟩ := Option.isSome_iff_exists.mp live
  unfold Lists
  rw [get?_hold]
  by_cases same : other = owner
  · subst same
    simp [found, Std.ExtTreeSet.mem_insert, or_comm, @eq_comm _ each]
  · simp [same]

end Lists

section Assign
variable {table : OwnerTable} {owner : OwnerId}

theorem assign_of_absent (absent : table.contains owner = false) (connection : ConnectionId) :
    table.assign owner connection = (table, false) := by
  simp only [assign, absent, Bool.false_eq_true, if_false]

theorem holder?_assign (live : table.contains owner = true) (connection each : ConnectionId) :
    (table.assign owner connection).1.holder? each =
      if each = connection then some owner else table.holder? each := by
  have moved : ({ table with holders := table.holders.insert connection owner } :
      OwnerTable).holder? each = if each = connection then some owner else table.holder? each := by
    simp only [holder?, Std.TreeMap.getElem?_insert, Std.LawfulEqCmp.compare_eq_iff_eq,
      @eq_comm _ each]
  simp only [assign, live, if_true, holder?_hold, ← moved]
  split
  · split <;> rfl
  · rfl

/-- A connection given to a live owner leaves the list of the owner that the index
names, and no other list. -/
theorem lists_assign (live : table.contains owner = true) (connection : ConnectionId)
    (other : OwnerId) (each : ConnectionId) :
    (table.assign owner connection).1.Lists other each ↔
      other = owner ∧ each = connection ∨
        table.Lists other each ∧ ¬ (each = connection ∧ table.holder? connection = some other) := by
  let moved : OwnerTable := { table with holders := table.holders.insert connection owner }
  have movedLive : moved.contains owner = true := live
  have movedLists : moved.Lists other each ↔ table.Lists other each := Iff.rfl
  simp only [assign, live, if_true]
  cases held : table.holder? connection with
  | none =>
    simp only [reduceCtorEq, and_false, not_false_eq_true, and_true]
    rw [lists_hold moved owner other connection each movedLive, movedLists, or_comm]
  | some previous =>
    by_cases same : previous = owner
    · simp only [same, if_true, Option.some.injEq]
      rw [lists_hold moved owner other connection each movedLive, movedLists]
      by_cases given : other = owner ∧ each = connection
      · simp [given]
      · have kept : ¬ (each = connection ∧ owner = other) := fun ⟨h, h'⟩ => given ⟨h'.symm, h⟩
        simp [given, kept]
    · simp only [same, if_false, Option.some.injEq]
      have droppedLive : (moved.drop previous connection).contains owner = true := by
        rw [contains_drop, movedLive]
      rw [lists_hold _ owner other connection each droppedLive,
        lists_drop moved previous other connection each, movedLists, or_comm,
        and_comm (a := other = previous), @eq_comm _ other previous]

end Assign

section Release
variable {table : OwnerTable}

theorem release_of_free (free : table.holder? connection = none) :
    table.release connection = (table, none) := by
  simp only [release, free]

theorem holder?_release (connection each : ConnectionId) :
    (table.release connection).1.holder? each =
      if each = connection then none else table.holder? each := by
  cases held : table.holder? connection with
  | none =>
    rw [release_of_free held]
    split
    · next same => rw [same, held]
    · rfl
  | some owner =>
    simp only [release, held, holder?_drop]
    simp only [holder?, Std.TreeMap.getElem?_erase, Std.LawfulEqCmp.compare_eq_iff_eq,
      @eq_comm _ each]

theorem lists_release (connection : ConnectionId) (owner : OwnerId) (each : ConnectionId) :
    (table.release connection).1.Lists owner each ↔
      table.Lists owner each ∧ ¬ (each = connection ∧ table.holder? connection = some owner) := by
  cases held : table.holder? connection with
  | none =>
    rw [release_of_free held]
    simp
  | some holder =>
    simp only [release, held, Option.some.injEq]
    rw [lists_drop _ holder owner connection each, and_comm (a := owner = holder),
      @eq_comm _ owner holder]
    exact Iff.rfl

end Release

section Details
variable {α : Type} {detail : OwnerInfo → α} (table : OwnerTable) (owner other : OwnerId)
  (connection : ConnectionId)
  (fixed : ∀ info connections, detail { info with connections } = detail info)
include fixed

/-- Connections come and go without a change to anything else in a registration. -/
theorem map_get?_drop :
    ((table.drop owner connection).get? other).map detail = (table.get? other).map detail := by
  rw [get?_drop]
  by_cases same : other = owner
  · subst same
    cases table.get? other <;> simp [fixed]
  · simp [same]

theorem map_get?_hold :
    ((table.hold owner connection).get? other).map detail = (table.get? other).map detail := by
  rw [get?_hold]
  by_cases same : other = owner
  · subst same
    cases table.get? other <;> simp [fixed]
  · simp [same]

theorem map_get?_assign :
    ((table.assign owner connection).1.get? other).map detail = (table.get? other).map detail := by
  unfold assign
  split
  · refine (map_get?_hold _ owner other connection fixed).trans ?_
    split
    · split
      · rfl
      · exact map_get?_drop _ _ other connection fixed
    · rfl
  · rfl

theorem map_get?_release :
    ((table.release connection).1.get? other).map detail = (table.get? other).map detail := by
  unfold release
  split
  · rfl
  · exact map_get?_drop _ _ other connection fixed

end Details

section Others
variable {table : OwnerTable} {owner other : OwnerId} {connection : ConnectionId}

/-- The registration of an owner that neither takes the connection nor held it. -/
theorem get?_assign_of_other (different : other ≠ owner)
    (apart : table.holder? connection ≠ some other) :
    (table.assign owner connection).1.get? other = table.get? other := by
  unfold assign
  split
  · refine (get?_hold _ owner other connection).trans ?_
    rw [if_neg different]
    split
    · next previous held =>
      split
      · rfl
      · refine (get?_drop _ previous other connection).trans (if_neg ?_)
        rintro rfl
        exact apart held
    · rfl
  · rfl

theorem get?_release_of_other (apart : table.holder? connection ≠ some other) :
    (table.release connection).1.get? other = table.get? other := by
  unfold release
  split
  · rfl
  · next holder held =>
    refine (get?_drop _ holder other connection).trans (if_neg ?_)
    rintro rfl
    exact apart held

end Others
end SessionReplay.OwnerTable
