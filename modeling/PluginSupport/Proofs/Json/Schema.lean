import Mathlib.Logic.Relation
import PluginSupport.Proofs.Json.Filling

/-!
# What a value may be reworded to, and what it must not be

A `Schema` is the outline of what a reader expects. It tells two things about values:

* `Rewords`: the members of an object may be put in another order, members of no field may be added,
  and a record may be written as the list of its values instead of an object. Where records stand
  inside others, all this may happen at every level.
* `Misfit`: a value of another type does not fit, nor does a record with a repeated field, with too
  many items in its list form or, if it has to be complete, with a missing field; and all this again
  at every level.

A schema describes a meaning that does not change under rewordings and makes nothing of misfits
(`Schema.Describes`). Results: the schemas of scalars, lists and records describe what the readers
of scalars, lists and records make of values (`describes_scalar`, `describes_list`,
`describes_record`).
-/
namespace PluginSupport.Json

variable {σ α : Type}

/-! ## Definitions -/

/-- Outline of the values that are expected. A complete record needs all its fields. -/
inductive Schema where
  | scalar (fits : Value → Prop)
  | list (item : Schema)
  | record (complete : Bool) (fields : List (String × Schema))

/-- A single rewording, at some level of a value. -/
inductive Rewords : Schema → Value → Value → Prop
  | reorder {complete : Bool} {fields : List (String × Schema)}
      {members others : List (List Char × Value)} (permuted : members.Perm others) :
      Rewords (.record complete fields) (.object members) (.object others)
  | unknown {complete : Bool} {fields : List (String × Schema)}
      {members : List (List Char × Value)} {key : List Char} {value : Value}
      (unknown : ∀ field ∈ fields, field.1.toList ≠ key) :
      Rewords (.record complete fields) (.object members) (.object ((key, value) :: members))
  | form {complete : Bool} {fields : List (String × Schema)} {items : List Value}
      (all : items.length = fields.length) :
      Rewords (.record complete fields)
        (.object ((fields.map fun field => field.1.toList).zip items)) (.list items)
  | member {complete : Bool} {fields : List (String × Schema)} {name : String} {schema : Schema}
      {before after : List (List Char × Value)} {one two : Value}
      (known : (name, schema) ∈ fields) (inner : Rewords schema one two) :
      Rewords (.record complete fields) (.object (before ++ (name.toList, one) :: after))
        (.object (before ++ (name.toList, two) :: after))
  | item {schema : Schema} {before after : List Value} {one two : Value}
      (inner : Rewords schema one two) :
      Rewords (.list schema) (.list (before ++ one :: after)) (.list (before ++ two :: after))

/-- Whether values differ by rewordings only, any number of them, back and forth. -/
def Reworded (schema : Schema) : Value → Value → Prop :=
  Relation.EqvGen (Rewords schema)

/-- Whether something in a value does not fit, at some level. -/
inductive Misfit : Schema → Value → Prop
  | scalar {fits : Value → Prop} {value : Value} (wrong : ¬fits value) :
      Misfit (.scalar fits) value
  | list {schema : Schema} {value : Value} (noList : ∀ items, value ≠ .list items) :
      Misfit (.list schema) value
  | item {schema : Schema} {items : List Value} {item : Value} (member : item ∈ items)
      (inner : Misfit schema item) : Misfit (.list schema) (.list items)
  | record {complete : Bool} {fields : List (String × Schema)} {value : Value}
      (noRecord : value.members? (fields.map Prod.fst) = none) :
      Misfit (.record complete fields) value
  | missing {fields : List (String × Schema)} {value : Value}
      {members : List (List Char × Value)} {field : String × Schema}
      (found : value.members? (fields.map Prod.fst) = some members) (known : field ∈ fields)
      (none : valuesOf members field.1 = []) : Misfit (.record true fields) value
  | repeated {complete : Bool} {fields : List (String × Schema)} {value : Value}
      {members : List (List Char × Value)} {field : String × Schema}
      (found : value.members? (fields.map Prod.fst) = some members) (known : field ∈ fields)
      (several : 1 < (valuesOf members field.1).length) : Misfit (.record complete fields) value
  | field {complete : Bool} {fields : List (String × Schema)} {value item : Value}
      {members : List (List Char × Value)} {field : String × Schema}
      (found : value.members? (fields.map Prod.fst) = some members) (known : field ∈ fields)
      (member : item ∈ valuesOf members field.1) (inner : Misfit field.2 item) :
      Misfit (.record complete fields) value

/-- Whether a meaning does not change under the rewordings of a schema and makes nothing of its
misfits. -/
structure Schema.Describes (schema : Schema) (meaning : Value → Option α) : Prop where
  respects : ∀ ⦃one two : Value⦄, Rewords schema one two → meaning one = meaning two
  rejects : ∀ ⦃value : Value⦄, Misfit schema value → meaning value = none

theorem Schema.Describes.eq_of_reworded {schema : Schema} {meaning : Value → Option α}
    (describes : schema.Describes meaning) {one two : Value} (reworded : Reworded schema one two) :
    meaning one = meaning two := by
  induction reworded with
  | rel one two rewords => exact describes.respects rewords
  | refl value => rfl
  | symm one two _ ih => exact ih.symm
  | trans one two three _ _ first second => exact first.trans second

/-! ## Scalars and lists -/

theorem describes_scalar {fits : Value → Prop} {meaning : Value → Option α}
    (fitting : ∀ value a, meaning value = some a → fits value) :
    (Schema.scalar fits).Describes meaning where
  respects := nofun
  rejects := by
    intro value misfit
    refine Option.eq_none_iff_forall_ne_some.mpr fun a means => ?_
    cases misfit with
    | scalar wrong => exact wrong (fitting value a means)

/-- Outline of a text. -/
def Schema.text : Schema := .scalar fun value => ∃ cs, value = .text cs

/-- Outline of a flag. -/
def Schema.flag : Schema := .scalar fun value => ∃ b, value = .bool b

/-- Outline of an index: a number that consists of digits and is below 2³². -/
def Schema.index : Schema := .scalar fun value =>
  ∃ lexeme n, value = .number lexeme ∧ Numeral.read? 10 lexeme = some n ∧ n < UInt32.size

theorem describes_text : Schema.text.Describes Value.asText? :=
  describes_scalar fun value text means =>
    ⟨text.toList, (Value.asText?_eq_some_iff value text).mp means⟩

theorem describes_flag : Schema.flag.Describes Value.asFlag? :=
  describes_scalar fun value flag means => ⟨flag, (Value.asFlag?_eq_some_iff value flag).mp means⟩

theorem describes_index : Schema.index.Describes Value.asIndex? :=
  describes_scalar fun value index means => by
    obtain ⟨lexeme, same, denotes⟩ := (Value.asIndex?_eq_some_iff value index).mp means
    exact ⟨lexeme, index.toNat, same, denotes, index.toNat_lt⟩

theorem exists_of_forall₂ {β : Type} {related : Value → β → Prop} {items : List Value}
    {others : List β} (each : List.Forall₂ related items others) {item : Value}
    (member : item ∈ items) : ∃ other, related item other := by
  induction each with
  | nil => cases member
  | @cons _ other _ _ here _ ih =>
    rcases List.mem_cons.mp member with rfl | member
    · exact ⟨other, here⟩
    · exact ih member

theorem describes_list {schema : Schema} {item : Value → Option α}
    (describes : schema.Describes item) : (Schema.list schema).Describes (Value.asList? item) where
  respects := by
    intro one two rewords
    cases rewords with
    | item inner =>
      simp only [Value.asList?, List.mapM_append, List.mapM_cons, describes.respects inner]
  rejects := by
    intro value misfit
    refine Option.eq_none_iff_forall_ne_some.mpr fun as means => ?_
    obtain ⟨items, rfl, each⟩ := (Value.asList?_eq_some_iff _ _ _).mp means
    cases misfit with
    | list noList => exact noList items rfl
    | item member inner =>
      obtain ⟨a, means⟩ := exists_of_forall₂ each member
      rw [describes.rejects inner] at means
      cases means

/-! ## Records -/

/-- Members of different columns may change places, and two of one column are refused anyway. -/
theorem absorb_comm {columns : List (Column σ)} (apart : columns.Pairwise Column.Apart) (draft : σ)
    (one two : List Char × Value) :
    ((absorb columns draft one).bind fun next => absorb columns next two) =
      (absorb columns draft two).bind fun next => absorb columns next one := by
  unfold absorb
  cases first : columns.find? fun column => column.name.toList = one.1 with
  | none =>
    cases columns.find? fun column => column.name.toList = two.1 <;> simp
  | some column =>
    cases second : columns.find? fun column => column.name.toList = two.1 with
    | none => simp
    | some other =>
      have member := List.mem_of_find?_eq_some first
      obtain rfl | apart := Column.eq_or_apart apart member (List.mem_of_find?_eq_some second)
      · exact (column.put_put draft one.2 two.2).trans (column.put_put draft two.2 one.2).symm
      · exact apart.put_comm draft one.2 two.2

/-- The order of the members does not matter. -/
theorem fill_perm {columns : List (Column σ)} (apart : columns.Pairwise Column.Apart)
    {members others : List (List Char × Value)} (permuted : members.Perm others) (draft : σ) :
    fill columns draft members = fill columns draft others := by
  induction permuted generalizing draft with
  | nil => rfl
  | cons head _ ih => simp only [fill, ih]
  | swap one two members =>
    have swapped := absorb_comm apart draft two one
    simp only [fill, ← Option.bind_assoc, swapped]
  | trans _ _ first second => exact (first draft).trans (second draft)

/-- A member may be replaced by one that is taken in alike. -/
theorem fill_replace {columns : List (Column σ)} {one two : List Char × Value}
    (alike : ∀ draft, absorb columns draft one = absorb columns draft two)
    (before after : List (List Char × Value)) (draft : σ) :
    fill columns draft (before ++ one :: after) = fill columns draft (before ++ two :: after) := by
  induction before generalizing draft with
  | nil => simp only [List.nil_append, fill, alike]
  | cons head before ih => simp only [List.cons_append, fill, ih]

/-- Whether the columns of a record go by the names of a schema's fields, each of which describes
the values of its column. -/
def DescribesFields (fields : List (String × Schema)) (columns : List (Column σ)) : Prop :=
  List.Forall₂ (fun field column => column.name = field.1 ∧ field.2.Describes column.meaning)
    fields columns

theorem DescribesFields.names {columns : List (Column σ)} {fields : List (String × Schema)}
    (describes : DescribesFields fields columns) :
    columns.map Column.name = fields.map Prod.fst := by
  induction describes with
  | nil => rfl
  | cons here _ ih => rw [List.map_cons, List.map_cons, here.1, ih]

theorem DescribesFields.column {columns : List (Column σ)} {fields : List (String × Schema)}
    (describes : DescribesFields fields columns) {field : String × Schema}
    (known : field ∈ fields) :
    ∃ column ∈ columns, column.name = field.1 ∧ field.2.Describes column.meaning := by
  induction describes with
  | nil => cases known
  | @cons _ column _ _ here _ ih =>
    rcases List.mem_cons.mp known with rfl | known
    · exact ⟨column, List.mem_cons_self, here⟩
    · obtain ⟨column, member, found⟩ := ih known
      exact ⟨column, List.mem_cons_of_mem _ member, found⟩

/-- A record does not change under the rewordings of its schema. -/
theorem respects_record {shape : Shape σ α} {columns : List (Column σ)}
    (table : shape.IsTable columns) {complete : Bool} {fields : List (String × Schema)}
    (describes : DescribesFields fields columns) {one two : Value}
    (rewords : Rewords (.record complete fields) one two) :
    shape.meaning columns one = shape.meaning columns two := by
  cases rewords with
  | reorder permuted =>
    simp only [Shape.meaning, Value.members?, Option.bind_some, fill_perm table.apart permuted]
  | @unknown _ _ members key value unknown =>
    have noColumn : columns.find? (fun column => column.name.toList = key) = none := by
      refine List.find?_eq_none.mpr fun column member => ?_
      have named : column.name ∈ fields.map Prod.fst :=
        describes.names ▸ List.mem_map_of_mem member
      obtain ⟨field, known, same⟩ := List.mem_map.mp named
      simpa [← same] using unknown field known
    have passed : absorb columns shape.start (key, value) = some shape.start := by
      rw [absorb, noColumn]
    simp only [Shape.meaning, Value.members?, Option.bind_some, fill, passed]
  | @form _ _ items all =>
    have names : (columns.map Column.name).map String.toList =
        fields.map fun field => field.1.toList := by
      rw [describes.names, List.map_map]
      rfl
    have fits : items.length ≤ (columns.map Column.name).length := by
      rw [describes.names, List.length_map, all]
    simp only [Shape.meaning, Value.members?, names, if_pos fits]
  | @member _ _ name _ _ _ value other known inner =>
    obtain ⟨column, member, rfl, inside⟩ := describes.column known
    have alike : ∀ draft, absorb columns draft (column.name.toList, value) =
        absorb columns draft (column.name.toList, other) := by
      intro draft
      simp only [absorb, find?_column table.apart member, Column.put, Column.take,
        inside.respects inner]
    simp only [Shape.meaning, Value.members?, Option.bind_some, fill_replace alike]

/-- A record is made of no misfit of its schema. -/
theorem rejects_record {shape : Shape σ α} {columns : List (Column σ)}
    (table : shape.IsTable columns) {complete : Bool}
    (needs : complete = true → ∀ draft a, shape.finish draft = .ok a →
      ∀ column ∈ columns, column.get draft ≠ none)
    {fields : List (String × Schema)} (describes : DescribesFields fields columns) {value : Value}
    (misfit : Misfit (.record complete fields) value) : shape.meaning columns value = none := by
  refine Option.eq_none_iff_forall_ne_some.mpr fun a means => ?_
  obtain ⟨draft, finished, held⟩ := (Shape.meaning_eq_some_iff table).mp means
  rw [describes.names] at held
  -- What is found at a field is what its column holds.
  have given : ∀ {members field}, value.members? (fields.map Prod.fst) = some members →
      field ∈ fields → ∃ column ∈ columns, field.2.Describes column.meaning ∧
        ∃ given : Option Value,
          valuesOf members field.1 = given.toList ∧ column.Holds draft given := by
    intro members field found known
    obtain ⟨column, member, named, inside⟩ := describes.column known
    obtain ⟨given, ⟨others, foundAgain, values⟩, holds⟩ := held column member
    obtain rfl : members = others := Option.some.inj (found.symm.trans foundAgain)
    exact ⟨column, member, inside, given, named ▸ values, holds⟩
  cases misfit with
  | record noRecord =>
    obtain ⟨members, found, -⟩ := Option.bind_eq_some_iff.mp means
    rw [describes.names, noRecord] at found
    cases found
  | missing found known nothing =>
    obtain ⟨column, member, -, item, values, holds⟩ := given found known
    obtain rfl : item = none := Option.toList_eq_nil_iff.mp (values.symm.trans nothing)
    exact needs rfl draft a finished column member (Option.map_eq_none_iff.mp holds.symm)
  | repeated found known several =>
    obtain ⟨column, member, -, item, values, holds⟩ := given found known
    rw [values] at several
    exact absurd several (Nat.not_lt.mpr Option.length_toList_le)
  | field found known among inner =>
    obtain ⟨column, member, inside, item, values, holds⟩ := given found known
    rw [values] at among
    obtain rfl := Option.mem_toList.mp among
    obtain ⟨b, means⟩ := holds.means
    rw [inside.rejects inner] at means
    cases means

theorem describes_record {shape : Shape σ α} {columns : List (Column σ)}
    (table : shape.IsTable columns) {complete : Bool}
    (needs : complete = true → ∀ draft a, shape.finish draft = .ok a →
      ∀ column ∈ columns, column.get draft ≠ none)
    {fields : List (String × Schema)} (describes : DescribesFields fields columns) :
    (Schema.record complete fields).Describes (shape.meaning columns) where
  respects := fun _ _ => respects_record table describes
  rejects := fun _ => rejects_record table needs describes

end PluginSupport.Json
