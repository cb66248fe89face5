import TypedTable.Proofs.Schema.Valid

namespace TypedTable

namespace Declaration

-- What can be declared: a member of a kind with any options, as the members
-- with roles are, or a member that is never stored.
inductive Made : Declaration → Prop where
  | field (field : String) (kind : Kind) (role : Option Role) (ignored : Bool) (column : Option String) :
      Made ⟨field,some kind,role,ignored,column⟩
  | ignore (field : String) : Made (ignore field)

theorem made_iff {d : Declaration} : d.Made ↔ d.kind.isSome = true ∨ d = ignore d.field := by
  constructor
  · intro made
    cases made with
    | field => exact .inl rfl
    | ignore => exact .inr rfl
  · rintro (kinded | same)
    · obtain ⟨kind,declared⟩ := Option.isSome_iff_exists.mp kinded
      obtain ⟨field,_,role,ignored,column⟩ := d
      cases declared
      exact .field ..
    · rw [same]
      exact .ignore _

instance (d : Declaration) : Decidable d.Made := decidable_of_iff _ made_iff.symm

theorem Made.kind {d : Declaration} (made : d.Made) (shown : d.ignored = false) : ∃ kind, d.kind = some kind := by
  cases made with
  | field _ kind => exact ⟨kind,rfl⟩
  | ignore => cases shown

end Declaration

namespace Mapping

variable {declarations : List Declaration} {typeName name : String} {m : Mapping} {f g : Field}

-- Every stored member has a kind.
theorem kind_of_stored (built : build typeName declarations = .ok m) (made : ∀ d ∈ declarations, d.Made)
    (stored : f ∈ m.stored) : ∃ kind, f.kind = some kind := by
  obtain ⟨member,shown⟩ := mem_stored.mp stored
  rw [(build_listed.mp built).1] at member
  obtain ⟨d,declared,rfl⟩ := List.mem_map.mp member
  rw [d.ignored_mapped] at shown
  rw [Declaration.mapped_stored shown]
  exact (made d declared).kind shown

theorem Sound.resolve_ignored (sound : Sound m.fields) (declared : f ∈ m.fields) (ignored : f.ignored = true) :
    m.names.resolve f.name = f.name := by
  refine resolve_own fun g stored named => ?_
  obtain ⟨member,shown⟩ := mem_stored.mp stored
  rw [List.inj_on_of_nodup_map sound.names member declared named,ignored] at shown
  cases shown

-- A stored member is resolved to its own column, which is that of no other
-- member. Members that are not stored are not in the table of names: one that
-- has the name of a column is resolved to this column.
theorem resolve_eq_column_iff (typeName : String) (declarations : List Declaration) (m : Mapping)
    (built : build typeName declarations = .ok m) (f g : Field) (declared : f ∈ m.fields) (stored : g ∈ m.stored)
    (apart : f ≠ g) : m.names.resolve f.name = g.column ↔ f.ignored = true ∧ f.name = g.column := by
  have sound := build_sound built
  cases shown : f.ignored with
  | true =>
    rw [sound.resolve_ignored declared shown]
    exact (and_iff_right rfl).symm
  | false =>
    have also : f ∈ m.stored := mem_stored.mpr ⟨declared,shown⟩
    rw [sound.resolve also]
    constructor
    · intro same
      exact absurd (sound.column_inj also stored same) apart
    · rintro ⟨ignored,_⟩
      cases ignored

-- The ignored member has the name of the column of another one.
def shadowed : List Declaration :=
  [.partitionKey "Id",.rowKey "Source",.propertyAs "Message" .string "OldMessage",.ignore "OldMessage"]

def shadowedMapping : Mapping := ⟨"LogEntry",[⟨"Id","PartitionKey",some .string,some .partitionKey,false⟩,
  ⟨"Source","RowKey",some .string,some .rowKey,false⟩,⟨"Message","OldMessage",some .string,none,false⟩,
  ⟨"OldMessage","OldMessage",none,none,true⟩]⟩

theorem shadowed_built : build "LogEntry" shadowed = .ok shadowedMapping := by rfl

-- Messages are stored in the column of that name, the ignored member in none.
theorem ignored_reads_message : ∃ f ∈ shadowedMapping.fields, ∃ g ∈ shadowedMapping.stored,
    build "LogEntry" shadowed = .ok shadowedMapping ∧ f ≠ g ∧ f.ignored = true ∧ g.name = "Message" ∧
    shadowedMapping.names.resolve f.name = g.column := by
  have ignored : (⟨"OldMessage","OldMessage",none,none,true⟩ : Field) ∈ shadowedMapping.fields := by decide
  have message : (⟨"Message","OldMessage",some .string,none,false⟩ : Field) ∈ shadowedMapping.stored := by decide
  exact ⟨_,ignored,_,message,shadowed_built,by decide,rfl,rfl,(build_sound shadowed_built).resolve_ignored ignored rfl⟩

theorem resolve_eq_column_iff_shadowed : build "LogEntry" shadowed = .ok shadowedMapping ∧
    shadowedMapping.names.resolve "OldMessage" = "OldMessage" ∧
    shadowedMapping.names.resolve "Source" ≠ "OldMessage" := by
  have exact (f : Field) (declared : f ∈ shadowedMapping.fields) (apart : f ≠ _) :=
    resolve_eq_column_iff "LogEntry" shadowed shadowedMapping shadowed_built f
      ⟨"Message","OldMessage",some .string,none,false⟩ declared (by decide) apart
  have ignored := exact ⟨"OldMessage","OldMessage",none,none,true⟩ (by decide) (by decide)
  have source := exact ⟨"Source","RowKey",some .string,some .rowKey,false⟩ (by decide) (by decide)
  exact ⟨shadowed_built,ignored.mpr ⟨rfl,rfl⟩,fun same => nomatch (source.mp same).1⟩

end Mapping
end TypedTable
