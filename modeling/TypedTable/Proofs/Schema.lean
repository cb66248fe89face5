import Mathlib.Data.List.Nodup
import TypedTable.Proofs.Except
import TypedTable.Schema.Build

namespace TypedTable

namespace Declaration

-- The columns that a declaration may ask for: the one of its role, or any that
-- is not reserved.
inductive Claims (d : Declaration) (roles : List Role) : String → Prop where
  | reserved {role : Role} (given : d.role = some role) (once : role ∉ roles) (kind : d.kind = some role.kind)
      (column : ∀ c, d.column = some c → c = role.column) : Claims d roles role.column
  | free (given : d.role = none) (unreserved : Column.isReserved (d.column.getD d.field) = false) :
      Claims d roles (d.column.getD d.field)

-- What a declaration adds behind the members before it.
inductive Adds (d : Declaration) (earlier : List Field) : Field → Prop where
  | ignored (fresh : d.field ∉ earlier.map Field.name) (hidden : d.ignored = true) (given : d.role = none) :
      Adds d earlier ⟨d.field,d.field,none,none,true⟩
  | stored {column : String} (fresh : d.field ∉ earlier.map Field.name) (shown : d.ignored = false)
      (claims : d.Claims ((earlier.filter (!·.ignored)).filterMap Field.role) column)
      (apart : column ∉ (earlier.filter (!·.ignored)).map Field.column) :
      Adds d earlier ⟨d.field,column,d.kind,d.role,false⟩

variable {d : Declaration} {roles : List Role} {column : String} {earlier : List Field} {f : Field}

theorem columnOf_exact : d.columnOf roles = .ok column ↔ d.Claims roles column := by
  constructor
  · intro chosen
    unfold columnOf at chosen
    split at chosen
    · rename_i role given
      split at chosen
      · cases chosen
      · rename_i once
        split at chosen
        · cases chosen
        · rename_i kind
          split at chosen
          · cases chosen
          · rename_i same
            cases chosen
            refine .reserved given once (Decidable.not_not.mp kind) fun c written => ?_
            simpa [written] using same
    · rename_i given
      dsimp only at chosen
      split at chosen
      · cases chosen
      · rename_i unreserved
        cases chosen
        exact .free given (Bool.not_eq_true _ ▸ unreserved)
  · intro claims
    unfold columnOf
    cases claims with
    | @reserved role given once kind column =>
      have same : ¬d.column.any (· ≠ role.column) = true := by
        cases written : d.column with
        | none => exact Bool.false_ne_true
        | some c => simp [column c written]
      rw [given]
      dsimp only
      rw [if_neg once,if_neg (Decidable.not_not.mpr kind),if_neg same]
    | free given unreserved =>
      rw [given]
      dsimp only
      rw [unreserved]
      rfl

theorem fieldAfter_exact : d.fieldAfter earlier = .ok f ↔ d.Adds earlier f := by
  unfold fieldAfter
  constructor
  · intro added
    split at added
    · cases added
    · rename_i fresh
      split at added
      · rename_i hidden
        split at added
        · cases added
        · rename_i given
          cases added
          exact .ignored fresh hidden given
      · rename_i shown
        obtain ⟨column,chosen,rest⟩ := bind_parts added
        split at rest
        · cases rest
        · rename_i apart
          cases rest
          exact .stored fresh (Bool.not_eq_true _ ▸ shown) (columnOf_exact.mp chosen) apart
  · intro adds
    cases adds with
    | ignored fresh hidden given =>
      rw [if_neg fresh,if_pos hidden,given]
    | stored fresh shown claims apart =>
      rw [if_neg fresh,if_neg (by simp [shown]),columnOf_exact.mpr claims]
      exact if_neg apart

end Declaration

namespace Mapping

-- The fields after more declarations, one behind the other.
inductive Extends : List Field → List Declaration → List Field → Prop where
  | nil {fields : List Field} : Extends fields [] fields
  | cons {earlier fields : List Field} {d : Declaration} {rest : List Declaration} {f : Field}
      (adds : d.Adds earlier f) (more : Extends (earlier ++ [f]) rest fields) :
      Extends earlier (d :: rest) fields

-- No two members share a name and no two stored ones a column; a member with
-- a role is stored as the role says, and only it in the column of the role.
structure Sound (fields : List Field) : Prop where
  names : (fields.map Field.name).Nodup
  columns : ((fields.filter (!·.ignored)).map Field.column).Nodup
  roles : ∀ f ∈ fields, ∀ role, f.role = some role →
    f.ignored = false ∧ f.column = role.column ∧ f.kind = some role.kind
  unreserved : ∀ f ∈ fields, f.ignored = false → f.role = none → Column.isReserved f.column = false

variable {declarations : List Declaration} {earlier fields : List Field} {typeName : String} {m : Mapping}

theorem foldlM_exact :
    declarations.foldlM (fun earlier d => do return earlier ++ [← d.fieldAfter earlier]) earlier = .ok fields ↔
      Extends earlier declarations fields := by
  induction declarations generalizing earlier with
  | nil =>
    constructor
    · intro done; cases done; exact .nil
    · intro extended; cases extended; rfl
  | cons d rest ih =>
    rw [List.foldlM_cons]
    constructor
    · intro ran
      obtain ⟨next,stepped,others⟩ := bind_parts ran
      obtain ⟨f,added,whole⟩ := bind_parts stepped
      cases whole
      exact .cons (Declaration.fieldAfter_exact.mp added) (ih.mp others)
    · intro extended
      cases extended with
      | cons adds more =>
        rw [Declaration.fieldAfter_exact.mpr adds]
        exact ih.mpr more

theorem adds_sound {d : Declaration} {f : Field} (sound : Sound earlier) (adds : d.Adds earlier f) :
    Sound (earlier ++ [f]) := by
  obtain ⟨names,columns,roles,unreserved⟩ := sound
  cases adds with
  | ignored fresh hidden given =>
    refine ⟨?_,?_,?_,?_⟩
    · rw [List.map_append,List.map_singleton,← List.concat_eq_append,List.nodup_concat]
      exact ⟨fresh,names⟩
    · simpa using columns
    · intro g member role stated
      rcases List.mem_append.mp member with old | new
      · exact roles g old role stated
      · cases List.mem_singleton.mp new
        cases stated
    · intro g member shown given
      rcases List.mem_append.mp member with old | new
      · exact unreserved g old shown given
      · cases List.mem_singleton.mp new
        cases shown
  | @stored column fresh shown claims apart =>
    have added : [(⟨d.field,column,d.kind,d.role,false⟩ : Field)].filter (!·.ignored) =
      [⟨d.field,column,d.kind,d.role,false⟩] := rfl
    refine ⟨?_,?_,?_,?_⟩
    · rw [List.map_append,List.map_singleton,← List.concat_eq_append,List.nodup_concat]
      exact ⟨fresh,names⟩
    · rw [List.filter_append,added,List.map_append,List.map_singleton,← List.concat_eq_append,
        List.nodup_concat]
      exact ⟨apart,columns⟩
    · intro g member role stated
      rcases List.mem_append.mp member with old | new
      · exact roles g old role stated
      · cases List.mem_singleton.mp new
        cases claims with
        | reserved given once kind column =>
          cases given.symm.trans stated
          exact ⟨rfl,rfl,kind⟩
        | free given _ => cases given.symm.trans stated
    · intro g member shown without
      rcases List.mem_append.mp member with old | new
      · exact unreserved g old shown without
      · cases List.mem_singleton.mp new
        cases claims with
        | reserved given once kind column => cases given.symm.trans without
        | free _ unreserved => exact unreserved

theorem extends_sound (sound : Sound earlier) (extended : Extends earlier declarations fields) :
    Sound fields := by
  induction extended with
  | nil => exact sound
  | cons adds more ih => exact ih (adds_sound sound adds)

theorem build_parts (built : build typeName declarations = .ok m) :
    m.typeName = typeName ∧ Extends [] declarations m.fields ∧
      ∀ role ∈ required, ∃ f ∈ m.fields, f.role = some role := by
  unfold build at built
  split at built
  · rename_i fields found
    cases built
    obtain ⟨all,ran,checked⟩ := bind_parts found
    split at checked
    · cases checked
    · rename_i complete
      cases checked
      refine ⟨rfl,foldlM_exact.mp ran,fun role needed => ?_⟩
      have held := List.find?_eq_none.mp complete role needed
      simpa using held
  · cases built

theorem build_sound (built : build typeName declarations = .ok m) : Sound m.fields := by
  have nothing : Sound [] := ⟨.nil,.nil,nofun,nofun⟩
  exact extends_sound nothing (build_parts built).2.1

-- The stored field of a member.
def stores? (m : Mapping) (name : String) : Option Field := (m.field? name).filter (!·.ignored)

theorem mem_stored {f : Field} : f ∈ m.stored ↔ f ∈ m.fields ∧ f.ignored = false := by
  rw [stored,List.mem_filter,Bool.not_eq_true']

theorem field?_parts {f : Field} {name : String} (found : m.field? name = some f) :
    f ∈ m.fields ∧ f.name = name :=
  ⟨List.mem_of_find?_eq_some found,by simpa using List.find?_some found⟩

theorem Sound.field? {f : Field} (sound : Sound m.fields) (member : f ∈ m.fields) :
    m.field? f.name = some f := by
  cases found : m.field? f.name with
  | none =>
    have other := List.find?_eq_none.mp found f member
    exact absurd (beq_self_eq_true f.name) other
  | some g =>
    obtain ⟨also,same⟩ := field?_parts found
    rw [List.inj_on_of_nodup_map sound.names also member same]

theorem Sound.stores? {f : Field} {name : String} (sound : Sound m.fields) :
    m.stores? name = some f ↔ f ∈ m.stored ∧ f.name = name := by
  rw [Mapping.stores?,Option.filter_eq_some_iff,mem_stored]
  constructor
  · rintro ⟨found,shown⟩
    obtain ⟨member,named⟩ := field?_parts found
    exact ⟨⟨member,by simpa using shown⟩,named⟩
  · rintro ⟨⟨member,shown⟩,rfl⟩
    exact ⟨sound.field? member,by simpa using shown⟩

theorem Sound.stored_names (sound : Sound m.fields) : (m.stored.map Field.name).Nodup :=
  sound.names.sublist (List.filter_sublist.map Field.name)

-- A name is resolved to itself unless a member of that name is stored under another one.
theorem resolve_own {name : String} (own : ∀ f ∈ m.stored, f.name = name → f.column = name) :
    m.names.resolve name = name := by
  unfold NameTable.resolve Mapping.names
  rw [Std.ExtTreeMap.getElem?_ofList_of_contains_eq_false,Option.getD_none]
  rw [List.contains_eq_mem,decide_eq_false_iff_not,List.map_map]
  intro listed
  obtain ⟨f,renamed,named⟩ := List.mem_map.mp listed
  obtain ⟨stored,apart⟩ := List.mem_filter.mp renamed
  exact bne_iff_ne.mp apart (named.trans (own f stored named).symm)

-- A member is resolved to the column that it is stored in.
theorem Sound.resolve {f : Field} (sound : Sound m.fields) (stored : f ∈ m.stored) :
    m.names.resolve f.name = f.column := by
  by_cases same : f.name = f.column
  · refine (resolve_own fun g also named => ?_).trans same
    rw [List.inj_on_of_nodup_map sound.stored_names also stored named,same]
  · have keys : ((m.stored.filter fun f => f.name != f.column).map fun f => (f.name,f.column)).map Prod.fst =
        (m.stored.filter fun f => f.name != f.column).map Field.name := List.map_map
    have distinct : ((m.stored.filter fun f => f.name != f.column).map Field.name).Nodup :=
      sound.stored_names.sublist (List.filter_sublist.map Field.name)
    rw [← keys] at distinct
    unfold NameTable.resolve Mapping.names
    rw [Std.ExtTreeMap.getElem?_ofList_of_mem Std.ReflCmp.compare_self]
    · rfl
    · exact (List.pairwise_map.mp distinct).imp fun apart equal => apart (Std.compare_eq_iff_eq.mp equal)
    · exact List.mem_map.mpr ⟨f,List.mem_filter.mpr ⟨stored,bne_iff_ne.mpr same⟩,rfl⟩

theorem Sound.column_inj {f g : Field} (sound : Sound m.fields) (left : f ∈ m.stored) (right : g ∈ m.stored)
    (same : f.column = g.column) : f = g :=
  List.inj_on_of_nodup_map sound.columns left right same

-- No two members have one role, for they would share its column.
theorem Sound.role_inj {f g : Field} {role : Role} (sound : Sound m.fields) (left : f ∈ m.fields)
    (right : g ∈ m.fields) (stated : f.role = some role) (stated' : g.role = some role) : f = g := by
  obtain ⟨shown,column,_⟩ := sound.roles f left role stated
  obtain ⟨shown',column',_⟩ := sound.roles g right role stated'
  exact sound.column_inj (mem_stored.mpr ⟨left,shown⟩) (mem_stored.mpr ⟨right,shown'⟩) (column.trans column'.symm)

theorem Sound.role_of_column {f : Field} {role : Role} (sound : Sound m.fields) (stored : f ∈ m.stored)
    (column : f.column = role.column) : f.role = some role := by
  obtain ⟨member,shown⟩ := mem_stored.mp stored
  have reserved : Column.isReserved role.column = true := by cases role <;> rfl
  cases stated : f.role with
  | none =>
    have free := sound.unreserved f member shown stated
    rw [column,reserved] at free
    cases free
  | some other =>
    have same : other.column = role.column := (sound.roles f member other stated).2.1.symm.trans column
    have injective : other = role := by
      cases other <;> cases role <;> first | rfl | exact absurd same (by decide)
    rw [injective]

end Mapping
end TypedTable
