import SessionReplay.Proofs.Config.Reading
import SessionReplay.Proofs.Owner.Reading

/-! What is kept as JSON comes back as it was, so no two values have a text in common. -/
namespace SessionReplay.Json

section Texts
variable {config otherConfig : Config} {info otherInfo : OwnerInfo}
  {connections others : List ConnectionId}

theorem render_injective (same : otherConfig.render = config.render) : otherConfig = config := by
  have read := otherConfig.read_render
  rw [same, config.read_render] at read
  exact (Except.ok.inj read).symm

variable (all : connections.Perm info.connections.toList)
include all

theorem renderWith_injective (allOther : others.Perm otherInfo.connections.toList)
    (same : otherInfo.renderWith others = info.renderWith connections) : otherInfo = info := by
  have read := otherInfo.read_renderWith allOther
  rw [same, info.read_renderWith all] at read
  exact (Except.ok.inj read).symm

/-- A configuration is no registration, since it does not name an owner. -/
theorem render_ne_renderWith : config.render ≠ info.renderWith connections := by
  intro same
  have unnamed : ∀ member ∈ config.writtenMembers.map Member.compact,
      member.key ≠ OwnerInfo.ownerField.name := by
    rw [List.forall_mem_map]
    exact List.forall_mem_cons.mpr
      ⟨show "initial_time_ns" ≠ "owner_id" by decide,
        List.forall_mem_singleton.mpr (show "fragment_limit" ≠ "owner_id" by decide)⟩
  obtain ⟨fault, refused⟩ := @OwnerInfo.read_of_missing _
    { text := writtenObject config.writtenMembers } (.compact _) config.objectText_render
    OwnerInfo.ownerField List.mem_cons_self unnamed
  rw [Padded.written_bare] at refused
  have read := info.read_renderWith all
  rw [← same] at read
  exact absurd (refused.symm.trans read) nofun

end Texts

/-- Values are read back from their texts, which they share with no other value: configurations
with any numbers, and registrations with any name and with their connections in any order. -/
theorem read_back (config : Config) (info : OwnerInfo) {connections : List ConnectionId}
    (all : connections.Perm info.connections.toList) :
    Config.read config.render = .ok config ∧
      OwnerInfo.read (info.renderWith connections) = .ok info ∧
      (∀ other : Config, other.render = config.render → other = config) ∧
      (∀ (other : OwnerInfo) (others : List ConnectionId),
        others.Perm other.connections.toList →
        other.renderWith others = info.renderWith connections → other = info) ∧
      config.render ≠ info.renderWith connections :=
  ⟨config.read_render, info.read_renderWith all, fun _ => render_injective,
    fun _ _ allOther => renderWith_injective all allOther, render_ne_renderWith all⟩

/-- The largest numbers, and a name with every kind of escape. -/
theorem read_back_of_strange :
    let listed : List ConnectionId := [7, 18446744073709551615, 0]
    let config : Config := ⟨18446744073709551615, 4294967295⟩
    let info : OwnerInfo :=
      ⟨4294967295, "\x22\\\x08\t\n\x0c\r\x01\x1f\x7f/é😀", -2147483648, .ofList listed⟩
    Config.read config.render = .ok config ∧
      OwnerInfo.read (info.renderWith listed) = .ok info ∧
      OwnerInfo.read (info.renderWith listed.reverse) = .ok info ∧
      config.render ≠ info.renderWith listed := by
  intro listed config info
  have all : listed.Perm info.connections.toList := OwnerInfo.perm_toList_ofList (by decide)
  obtain ⟨configBack, infoBack, -, -, different⟩ := read_back config info all
  obtain ⟨-, infoBackReversed, -⟩ := read_back config info (listed.reverse_perm.trans all)
  exact ⟨configBack, infoBack, infoBackReversed, different⟩

end SessionReplay.Json
