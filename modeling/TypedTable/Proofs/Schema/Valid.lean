import TypedTable.Proofs.Schema

namespace TypedTable

theorem Column.isReserved_iff {name : String} :
    Column.isReserved name = true ↔ ∃ role : Role, name = role.column := by
  simp only [isReserved,Bool.or_eq_true,beq_iff_eq]
  constructor
  · rintro (((partition | row) | time) | tag)
    · exact ⟨.partitionKey,partition⟩
    · exact ⟨.rowKey,row⟩
    · exact ⟨.timestamp,time⟩
    · exact ⟨.etag,tag⟩
  · rintro ⟨role,rfl⟩
    cases role with
    | partitionKey => exact .inl (.inl (.inl rfl))
    | rowKey => exact .inl (.inl (.inr rfl))
    | timestamp => exact .inl (.inr rfl)
    | etag => exact .inr rfl

namespace Declaration

-- The column that a stored member asks for.
def columnName (d : Declaration) : String :=
  match d.role with
  | some role => role.column
  | none => d.column.getD d.field

-- The member as a mapping has it.
def mapped (d : Declaration) : Field :=
  if d.ignored then ⟨d.field,d.field,none,none,true⟩ else ⟨d.field,d.columnName,d.kind,d.role,false⟩

-- Declarations that are right by themselves, whatever the others say.
structure Regular (d : Declaration) : Prop where
  hidden : d.ignored = true → d.role = none
  reserved : ∀ role, d.role = some role → d.kind = some role.kind ∧ ∀ c, d.column = some c → c = role.column
  unreserved : d.ignored = false → d.role = none → ∀ role : Role, d.column.getD d.field ≠ role.column

variable {d : Declaration} {roles : List Role} {column : String} {earlier : List Field} {f : Field}

theorem mapped_ignored (hidden : d.ignored = true) : d.mapped = ⟨d.field,d.field,none,none,true⟩ := if_pos hidden

theorem mapped_stored (shown : d.ignored = false) :
    d.mapped = ⟨d.field,d.columnName,d.kind,d.role,false⟩ := if_neg (Bool.eq_false_iff.mp shown)

theorem ignored_mapped (d : Declaration) : d.mapped.ignored = d.ignored := by
  cases shown : d.ignored with
  | false => rw [mapped_stored shown]
  | true => rw [mapped_ignored shown]

theorem name_mapped (d : Declaration) : d.mapped.name = d.field := by
  cases shown : d.ignored with
  | false => rw [mapped_stored shown]
  | true => rw [mapped_ignored shown]

theorem claims_exact (shown : d.ignored = false) : d.Claims roles column ↔
    column = d.columnName ∧ d.Regular ∧ ∀ role, d.role = some role → role ∉ roles := by
  have never : d.ignored = true → d.role = none := fun hidden => absurd (shown.symm.trans hidden) Bool.false_ne_true
  constructor
  · intro claims
    cases claims with
    | @reserved role given once kind column =>
      refine ⟨?_,⟨never,?_,?_⟩,?_⟩
      · rw [columnName,given]
      · intro other stated
        cases given.symm.trans stated
        exact ⟨kind,column⟩
      · intro _ without
        cases given.symm.trans without
      · intro other stated
        cases given.symm.trans stated
        exact once
    | free given unreserved =>
      refine ⟨?_,⟨never,?_,?_⟩,?_⟩
      · rw [columnName,given]
      · intro role stated
        cases given.symm.trans stated
      · intro _ _ role same
        have reserved := Column.isReserved_iff.mpr ⟨role,same⟩
        cases unreserved.symm.trans reserved
      · intro role stated
        cases given.symm.trans stated
  · rintro ⟨rfl,regular,once⟩
    cases given : d.role with
    | some role =>
      obtain ⟨kind,column⟩ := regular.reserved role given
      rw [columnName,given]
      exact .reserved given (once role given) kind column
    | none =>
      rw [columnName,given]
      refine .free given (Bool.eq_false_iff.mpr fun reserved => ?_)
      obtain ⟨role,same⟩ := Column.isReserved_iff.mp reserved
      exact regular.unreserved shown given role same

end Declaration

namespace Mapping

-- No name, no column and no role of a stored member is there twice.
structure Distinct (fields : List Field) : Prop where
  names : (fields.map Field.name).Nodup
  columns : ((fields.filter (!·.ignored)).map Field.column).Nodup
  roles : ((fields.filter (!·.ignored)).filterMap Field.role).Nodup

-- A member that takes nothing from the members before it.
structure Apart (earlier : List Field) (f : Field) : Prop where
  name : f.name ∉ earlier.map Field.name
  column : f.ignored = false → f.column ∉ (earlier.filter (!·.ignored)).map Field.column
  role : f.ignored = false → ∀ role, f.role = some role →
    role ∉ (earlier.filter (!·.ignored)).filterMap Field.role

variable {d : Declaration} {declarations : List Declaration} {earlier fields : List Field} {f : Field}
  {typeName : String} {m : Mapping}

theorem Distinct.sublist (distinct : Distinct fields) (part : earlier.Sublist fields) : Distinct earlier :=
  ⟨distinct.names.sublist (part.map _),distinct.columns.sublist ((part.filter _).map _),
    distinct.roles.sublist ((part.filter _).filterMap _)⟩

theorem nodup_map_snoc {α β : Type} (g : α → β) (xs : List α) (x : α) :
    ((xs ++ [x]).map g).Nodup ↔ g x ∉ xs.map g ∧ (xs.map g).Nodup := by
  rw [List.map_append,List.map_singleton,← List.concat_eq_append,List.nodup_concat]

theorem nodup_filterMap_snoc {α β : Type} (g : α → Option β) (xs : List α) (x : α) :
    ((xs ++ [x]).filterMap g).Nodup ↔ (∀ y, g x = some y → y ∉ xs.filterMap g) ∧ (xs.filterMap g).Nodup := by
  rw [List.filterMap_append]
  cases given : g x with
  | none => simp [given]
  | some y =>
    have last : [x].filterMap g = [y] := by rw [List.filterMap_cons,given]; rfl
    rw [last,← List.concat_eq_append,List.nodup_concat]
    simp

theorem distinct_snoc : Distinct (earlier ++ [f]) ↔ Distinct earlier ∧ Apart earlier f := by
  cases shown : f.ignored with
  | true =>
    have same : (earlier ++ [f]).filter (!·.ignored) = earlier.filter (!·.ignored) := by
      rw [List.filter_append,List.filter_singleton,shown]
      exact List.append_nil _
    have never : ¬f.ignored = false := fun stored => Bool.false_ne_true (stored.symm.trans shown)
    constructor
    · rintro ⟨names,columns,roles⟩
      rw [nodup_map_snoc] at names
      rw [same] at columns roles
      exact ⟨⟨names.2,columns,roles⟩,names.1,fun stored => absurd stored never,fun stored => absurd stored never⟩
    · rintro ⟨⟨names,columns,roles⟩,apart,-,-⟩
      rw [← same] at columns roles
      exact ⟨(nodup_map_snoc ..).mpr ⟨apart,names⟩,columns,roles⟩
  | false =>
    have added : (earlier ++ [f]).filter (!·.ignored) = earlier.filter (!·.ignored) ++ [f] := by
      rw [List.filter_append,List.filter_singleton,shown]
      rfl
    constructor
    · rintro ⟨names,columns,roles⟩
      rw [nodup_map_snoc] at names
      rw [added,nodup_map_snoc] at columns
      rw [added,nodup_filterMap_snoc] at roles
      exact ⟨⟨names.2,columns.2,roles.2⟩,names.1,fun _ => columns.1,fun _ => roles.1⟩
    · rintro ⟨⟨names,columns,roles⟩,name,column,role⟩
      refine ⟨(nodup_map_snoc ..).mpr ⟨name,names⟩,?_,?_⟩
      · rw [added,nodup_map_snoc]
        exact ⟨column shown,columns⟩
      · rw [added,nodup_filterMap_snoc]
        exact ⟨role shown,roles⟩

theorem adds_exact (distinct : Distinct earlier) :
    d.Adds earlier f ↔ f = d.mapped ∧ d.Regular ∧ Distinct (earlier ++ [d.mapped]) := by
  rw [distinct_snoc]
  constructor
  · intro adds
    cases adds with
    | ignored fresh hidden given =>
      have regular : d.Regular := by
        refine ⟨fun _ => given,fun role stated => ?_,fun shown => ?_⟩
        · cases given.symm.trans stated
        · cases hidden.symm.trans shown
      rw [Declaration.mapped_ignored hidden]
      exact ⟨rfl,regular,distinct,fresh,nofun,nofun⟩
    | stored fresh shown claims apart =>
      obtain ⟨rfl,regular,once⟩ := (Declaration.claims_exact shown).mp claims
      rw [Declaration.mapped_stored shown]
      exact ⟨rfl,regular,distinct,fresh,fun _ => apart,fun _ => once⟩
  · rintro ⟨rfl,regular,-,fresh,column,once⟩
    cases shown : d.ignored with
    | true =>
      rw [Declaration.mapped_ignored shown] at fresh ⊢
      exact .ignored fresh shown (regular.hidden shown)
    | false =>
      rw [Declaration.mapped_stored shown] at fresh column once ⊢
      exact .stored fresh shown ((Declaration.claims_exact shown).mpr ⟨rfl,regular,once rfl⟩) (column rfl)

theorem extends_exact (distinct : Distinct earlier) : Extends earlier declarations fields ↔
    fields = earlier ++ declarations.map Declaration.mapped ∧ (∀ d ∈ declarations, d.Regular) ∧
      Distinct (earlier ++ declarations.map Declaration.mapped) := by
  induction declarations generalizing earlier with
  | nil =>
    rw [List.map_nil,List.append_nil]
    constructor
    · intro extended
      cases extended
      exact ⟨rfl,nofun,distinct⟩
    · rintro ⟨rfl,-,-⟩
      exact .nil
  | cons d rest ih =>
    have next : earlier ++ (d :: rest).map Declaration.mapped =
      earlier ++ [d.mapped] ++ rest.map Declaration.mapped := (List.append_cons ..)
    rw [next,List.forall_mem_cons]
    constructor
    · intro extended
      cases extended with
      | cons adds more =>
        obtain ⟨rfl,regular,longer⟩ := (adds_exact distinct).mp adds
        obtain ⟨listed,others,whole⟩ := (ih longer).mp more
        exact ⟨listed,⟨regular,others⟩,whole⟩
    · rintro ⟨listed,⟨regular,others⟩,whole⟩
      have longer : Distinct (earlier ++ [d.mapped]) := whole.sublist (List.sublist_append_left ..)
      exact .cons ((adds_exact distinct).mpr ⟨rfl,regular,longer⟩) ((ih longer).mpr ⟨listed,others,whole⟩)

-- What a whole list of declarations has to be.
structure Valid (declarations : List Declaration) : Prop where
  names : (declarations.map Declaration.field).Nodup
  hidden : ∀ d ∈ declarations, d.ignored = true → d.role = none
  once : ∀ role, declarations.countP (·.role == some role) ≤ 1
  partitionKey : declarations.countP (·.role == some .partitionKey) = 1
  rowKey : declarations.countP (·.role == some .rowKey) = 1
  kinds : ∀ d ∈ declarations, ∀ role, d.role = some role → d.kind = some role.kind
  overrides : ∀ d ∈ declarations, ∀ role, d.role = some role → d.column = none ∨ d.column = some role.column
  unreserved : ∀ d ∈ declarations, d.ignored = false → d.role = none →
    ∀ role : Role, d.column.getD d.field ≠ role.column
  columns : ((declarations.filter (!·.ignored)).map Declaration.columnName).Nodup

theorem names_mapped : (declarations.map Declaration.mapped).map Field.name = declarations.map Declaration.field := by
  rw [List.map_map]
  exact List.map_congr_left fun d _ => d.name_mapped

theorem columns_mapped : ((declarations.map Declaration.mapped).filter (!·.ignored)).map Field.column =
    (declarations.filter (!·.ignored)).map Declaration.columnName := by
  rw [List.filter_map,List.map_map]
  have same : ((!·.ignored) ∘ Declaration.mapped : Declaration → Bool) = (!·.ignored) :=
    funext fun d => congrArg not d.ignored_mapped
  rw [same]
  refine List.map_congr_left fun d stored => ?_
  have shown : d.ignored = false := by simpa using List.of_mem_filter stored
  rw [Function.comp_apply,Declaration.mapped_stored shown]

theorem role_mapped (regular : d.Regular) : d.mapped.role = d.role := by
  cases shown : d.ignored with
  | false => rw [Declaration.mapped_stored shown]
  | true => rw [Declaration.mapped_ignored shown,regular.hidden shown]

theorem roles_mapped (regular : ∀ d ∈ declarations, d.Regular) :
    ((declarations.map Declaration.mapped).filter (!·.ignored)).filterMap Field.role =
      declarations.filterMap Declaration.role := by
  rw [List.filterMap_filter,List.filterMap_map]
  refine List.filterMap_congr fun d member => ?_
  rw [Function.comp_apply,d.ignored_mapped,role_mapped (regular d member)]
  cases shown : d.ignored with
  | false => rfl
  | true => exact ((regular d member).hidden shown).symm

theorem valid_exact : Valid declarations ↔ (∀ d ∈ declarations, d.Regular) ∧
    Distinct (declarations.map Declaration.mapped) ∧
    ∀ role ∈ required, ∃ f ∈ declarations.map Declaration.mapped, f.role = some role := by
  have held : ∀ role, 0 < declarations.countP (·.role == some role) ↔ ∃ d ∈ declarations, d.role = some role := by
    intro role
    rw [List.countP_pos_iff]
    simp only [beq_iff_eq]
  constructor
  · intro valid
    have regular : ∀ d ∈ declarations, d.Regular := by
      refine fun d member => ⟨valid.hidden d member,fun role given => ⟨valid.kinds d member role given,?_⟩,
        valid.unreserved d member⟩
      intro c written
      rcases valid.overrides d member role given with without | own
      · cases written.symm.trans without
      · exact Option.some.inj (written.symm.trans own)
    refine ⟨regular,⟨?_,?_,?_⟩,fun role needed => ?_⟩
    · rw [names_mapped]
      exact valid.names
    · rw [columns_mapped]
      exact valid.columns
    · rw [roles_mapped regular,List.nodup_iff_count]
      intro role
      rw [List.count_filterMap]
      exact valid.once role
    · have counted : declarations.countP (·.role == some role) = 1 := by
        rcases List.mem_cons.mp needed with rfl | last
        · exact valid.partitionKey
        · cases List.mem_singleton.mp last
          exact valid.rowKey
      obtain ⟨d,member,given⟩ := (held role).mp (counted ▸ Nat.one_pos)
      exact ⟨d.mapped,List.mem_map_of_mem member,(role_mapped (regular d member)).trans given⟩
  · rintro ⟨regular,⟨names,columns,roles⟩,complete⟩
    rw [names_mapped] at names
    rw [columns_mapped] at columns
    rw [roles_mapped regular,List.nodup_iff_count] at roles
    have once : ∀ role, declarations.countP (·.role == some role) ≤ 1 := by
      intro role
      rw [← List.count_filterMap]
      exact roles role
    have key : ∀ role ∈ required, declarations.countP (·.role == some role) = 1 := by
      intro role needed
      obtain ⟨f,member,given⟩ := complete role needed
      obtain ⟨d,declared,rfl⟩ := List.mem_map.mp member
      have some := (held role).mpr ⟨d,declared,(role_mapped (regular d declared)).symm.trans given⟩
      exact Nat.le_antisymm (once role) some
    refine ⟨names,fun d member => (regular d member).hidden,once,key .partitionKey (.head _),
      key .rowKey (.tail _ (.head _)),fun d member role given => ((regular d member).reserved role given).1,?_,
      fun d member => (regular d member).unreserved,columns⟩
    intro d member role given
    cases written : d.column with
    | none => exact .inl rfl
    | some c => exact .inr (congrArg _ (((regular d member).reserved role given).2 c written))

theorem build_iff : build typeName declarations = .ok m ↔
    m.typeName = typeName ∧ Extends [] declarations m.fields ∧
      ∀ role ∈ required, ∃ f ∈ m.fields, f.role = some role := by
  constructor
  · exact build_parts
  · rintro ⟨rfl,extended,complete⟩
    have none : (required.find? fun role => role ∉ m.fields.filterMap Field.role) = none := by
      refine List.find?_eq_none.mpr fun role needed => ?_
      simpa using complete role needed
    have found : fieldsOf declarations = .ok m.fields := by
      unfold fieldsOf
      rw [foldlM_exact.mpr extended]
      simp only [bind,Except.bind]
      rw [none]
    unfold build
    rw [found]

theorem build_listed : build typeName declarations = .ok m ↔
    m = ⟨typeName,declarations.map Declaration.mapped⟩ ∧ Valid declarations := by
  have nothing : Distinct [] := ⟨.nil,.nil,.nil⟩
  rw [build_iff,extends_exact nothing,valid_exact,List.nil_append]
  constructor
  · rintro ⟨rfl,⟨listed,regular,distinct⟩,complete⟩
    rw [listed] at complete
    exact ⟨congrArg (Mapping.mk m.typeName) listed,regular,distinct,complete⟩
  · rintro ⟨rfl,regular,distinct,complete⟩
    exact ⟨rfl,⟨rfl,regular,distinct⟩,complete⟩

-- A reserved column is the one of the member that has its role.
theorem Sound.byRole? {role : Role} (sound : Sound m.fields) (stored : f ∈ m.stored) :
    f.column = role.column ↔ m.byRole? role = some f := by
  constructor
  · intro column
    have given := sound.role_of_column stored column
    have member := (mem_stored.mp stored).1
    cases found : m.byRole? role with
    | none => exact absurd (beq_iff_eq.mpr given) (List.find?_eq_none.mp found f member)
    | some g =>
      have given' : g.role = some role := by simpa using List.find?_some found
      rw [sound.role_inj (List.mem_of_find?_eq_some found) member given' given]
  · intro found
    have given : f.role = some role := by simpa using List.find?_some found
    exact (sound.roles f (mem_stored.mp stored).1 role given).2.1

-- Declarations build a mapping if they are valid and only then. It has their
-- members in order; a reserved column is the one of its role alone, and every
-- stored member is resolved to its column.
theorem build_exact (typeName : String) (declarations : List Declaration) :
    ((∃ m, build typeName declarations = .ok m) ↔ Valid declarations) ∧
    ∀ m, build typeName declarations = .ok m →
      m = ⟨typeName,declarations.map Declaration.mapped⟩ ∧
      (∀ f ∈ m.stored, ∀ role : Role, f.column = role.column ↔ m.byRole? role = some f) ∧
      ∀ f ∈ m.stored, m.names.resolve f.name = f.column := by
  refine ⟨⟨?_,?_⟩,?_⟩
  · rintro ⟨m,built⟩
    exact (build_listed.mp built).2
  · intro valid
    exact ⟨_,build_listed.mpr ⟨rfl,valid⟩⟩
  · intro m built
    have sound := build_sound built
    exact ⟨(build_listed.mp built).1,fun f stored role => sound.byRole? stored,
      fun f stored => sound.resolve stored⟩

-- The column of the row key is stated, and an ignored member is named after
-- the column of another role.
def places : List Declaration :=
  [.propertyAs "Message" .string "OldMessage",
   { field := "Name", kind := some .string, role := some .rowKey, column := some "RowKey" },
   .property "Population" .int64,.etag "Tag",.ignore "PartitionKey",.partitionKey "Continent"]

theorem build_exact_places : ∃ m, build "Country" places = .ok m ∧ Valid places ∧
    m.fields = [⟨"Message","OldMessage",some .string,none,false⟩,⟨"Name","RowKey",some .string,some .rowKey,false⟩,
      ⟨"Population","Population",some .int64,none,false⟩,⟨"Tag","ETag",some .string,some .etag,false⟩,
      ⟨"PartitionKey","PartitionKey",none,none,true⟩,
      ⟨"Continent","PartitionKey",some .string,some .partitionKey,false⟩] ∧
    m.names.resolve "Continent" = "PartitionKey" ∧ m.names.resolve "Message" = "OldMessage" := by
  obtain ⟨exact,listed⟩ := build_exact "Country" places
  have built : build "Country" places = .ok ⟨"Country",places.map Declaration.mapped⟩ := by rfl
  obtain ⟨_,_,resolved⟩ := listed _ built
  have continent := resolved ⟨"Continent","PartitionKey",some .string,some .partitionKey,false⟩ (by decide)
  have message := resolved ⟨"Message","OldMessage",some .string,none,false⟩ (by decide)
  exact ⟨_,built,exact.mp ⟨_,built⟩,by decide,continent,message⟩

end Mapping
end TypedTable
