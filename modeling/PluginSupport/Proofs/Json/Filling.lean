import Mathlib.Data.List.Pairwise
import Mathlib.Tactic.MkIffOfInductiveProp
import PluginSupport.Proofs.Json.Deciding

/-!
# What a record makes of its members

A record reader fills a draft member by member. Here the same is done with values: `fill` takes the
members of an object, or the items of a list under the names of the fields, into a draft, and a
record means what it makes of the filled draft (`Shape.meaning`). The columns of a record are its
fields together with what their values mean, and with the laws that keep them apart.

Results:

1. `decides_record`: reading a record makes of a value what the value means.
2. `Shape.meaning_eq_some_iff`: a value means something as a record exactly if it gives every field
   at most one value, each of its type, and the record can be made of the draft that holds what
   these values mean.

So a record depends on the values of its fields alone: not on their order, nor on what stands beside
them, nor on the form.
-/
namespace PluginSupport.Json

variable {σ α : Type}

/-! ## Columns -/

/-- A field of a record with its place in the draft, the reader of its values, and their meaning. -/
structure Column (σ : Type) where
  {α : Type}
  {read : Reader α}
  {meaning : Value → Option α}
  name : String
  get : σ → Option α
  set : σ → α → σ
  decides : Decides read meaning
  get_set : ∀ draft a, get (set draft a) = some a

namespace Column

/-- The field of the record. -/
def field (column : Column σ) : Field σ :=
  .make column.name column.get column.set column.read

/-- Draft with a value taken in. -/
def take (column : Column σ) (draft : σ) (value : Value) : Option σ :=
  (column.meaning value).map (column.set draft)

theorem decides_take (column : Column σ) (draft : σ) :
    Decides (column.field.read draft) (column.take draft) := by
  intro blanks spelled rest value blank spells stops
  have here := column.decides blank spells stops
  rw [field, Field.make, toOption_map, here, take, Option.map_map, Option.map_map]
  rfl

/-- Draft with a value taken in, unless the column is set already. -/
def put (column : Column σ) (draft : σ) (value : Value) : Option σ :=
  if (column.get draft).isSome then none else column.take draft value

/-- A column is not set twice. -/
theorem put_put (column : Column σ) (draft : σ) (value other : Value) :
    ((column.put draft value).bind fun next => column.put next other) = none := by
  unfold put take
  cases column.meaning value <;> cases column.get draft <;> simp [column.get_set]

/-- Whether two columns have different names and places. -/
@[mk_iff]
structure Apart (one two : Column σ) : Prop where
  name : one.name ≠ two.name
  keeps : ∀ draft a, two.get (one.set draft a) = two.get draft
  kept : ∀ draft a, one.get (two.set draft a) = one.get draft
  commute : ∀ draft a b, two.set (one.set draft a) b = one.set (two.set draft b) a

instance : Std.Symm (@Apart σ) where
  symm _ _ apart :=
    ⟨apart.name.symm, apart.kept, apart.keeps, fun draft a b => (apart.commute draft b a).symm⟩

/-- Columns that are apart find the same, whichever is set first. -/
theorem Apart.put_comm {one two : Column σ} (apart : one.Apart two) (draft : σ)
    (value other : Value) :
    ((one.put draft value).bind fun next => two.put next other) =
      (two.put draft other).bind fun next => one.put next value := by
  unfold put take
  cases one.meaning value <;> cases two.meaning other <;>
    cases first : one.get draft <;> cases second : two.get draft <;>
    simp [first, second, apart.keeps, apart.kept, apart.commute]

end Column

/-- A column is found by its name. -/
theorem find?_column {columns : List (Column σ)} (apart : columns.Pairwise Column.Apart)
    {column : Column σ} (member : column ∈ columns) :
    columns.find? (fun other => other.name.toList = column.name.toList) = some column := by
  induction columns with
  | nil => cases member
  | cons other columns ih =>
    obtain ⟨fromOther, apart⟩ := List.pairwise_cons.mp apart
    rcases List.mem_cons.mp member with rfl | later
    · simp
    · have different : other.name.toList ≠ column.name.toList := fun same =>
        (fromOther column later).name (String.toList_injective same)
      rw [List.find?_cons_of_neg (by simpa using different)]
      exact ih apart later

theorem find?_field (columns : List (Column σ)) (key : List Char) :
    (columns.map Column.field).find? (fun field => field.name = key) =
      (columns.find? fun column => column.name.toList = key).map Column.field :=
  List.find?_map

/-! ## Filling a draft -/

/-- Draft with a member taken in. A member of no column is passed over; a column must not be set
twice. -/
def absorb (columns : List (Column σ)) (draft : σ) (member : List Char × Value) : Option σ :=
  match columns.find? fun column => column.name.toList = member.1 with
  | some column => column.put draft member.2
  | none => some draft

/-- Draft with members taken in, one after the other. -/
def fill (columns : List (Column σ)) : σ → List (List Char × Value) → Option σ
  | draft, [] => some draft
  | draft, member :: members =>
    (absorb columns draft member).bind fun next => fill columns next members

theorem toOption_readFields {columns : List (Column σ)} {draft : σ} {first : Bool}
    {body : List Char} {members : List (List Char × Value)}
    (spells : SpellsMembers first body members) {fuel : Nat} (enough : members.length < fuel)
    (rest : List Char) :
    (readFields (columns.map Column.field) fuel first draft (body ++ rest)).toOption =
      (fill columns draft members).map fun last => (last, rest) := by
  induction members generalizing draft first body fuel with
  | nil =>
    cases spells with
    | close blank =>
      obtain ⟨fuel, rfl⟩ := Nat.exists_eq_succ_of_ne_zero (Nat.ne_zero_of_lt enough)
      rw [List.append_assoc, readFields]
      simp [nextKey_close string first blank, bind, Except.bind, Except.toOption, fill]
  | cons member members ih =>
    cases spells with
    | @member _ lead name blanks gap spelled body key value _ isLead spellsKey blank gapBlank
        spells others =>
      obtain ⟨fuel, rfl⟩ := Nat.exists_eq_succ_of_ne_zero (Nat.ne_zero_of_lt enough)
      have later := fun draft => @ih draft _ _ others fuel (Nat.lt_of_succ_lt_succ enough)
      simp only [List.append_assoc, List.cons_append]
      rw [readFields, nextKey_more isLead (string_of_spells spellsKey _), toOption_bind,
        Except.toOption, Option.bind_some, fill, absorb]
      simp only [find?_field, colon_append blank]
      cases columns.find? fun column => column.name.toList = key with
      | none =>
        have skipped := skipValue_of_spells gapBlank spells (others.stops rest)
        simp only [Option.map_none, toOption_bind, toOption_ok, Option.bind_some, skipped]
        exact later draft
      | some column =>
        have here := column.decides_take draft gapBlank spells (others.stops rest)
        simp only [Option.map_some, Column.put]
        by_cases set : (column.get draft).isSome = true
        · have isSet : column.field.isSet draft = true := set
          rw [if_pos isSet, if_pos set]
          rfl
        · have notSet : ¬column.field.isSet draft = true := set
          rw [if_neg notSet, if_neg set, toOption_bind, toOption_ok, Option.bind_some,
            toOption_bind, here]
          cases column.take draft value with
          | none => rfl
          | some next => exact later next

/-! ## Lists instead of objects -/

theorem closeList_append {blanks : List Char} (blank : Blanks blanks) (rest : List Char) :
    closeList (blanks ++ ']' :: rest) = .ok rest := by
  rw [closeList, skipBlank_append blank, skipBlank_cons rfl]
  rfl

theorem toOption_closeList {cs rest : List Char} {c : Char} (next : skipBlank cs = c :: rest)
    (notClose : c ≠ ']') : (closeList cs).toOption = none := by
  simp only [closeList, next, if_neg notClose]
  repeat' split
  all_goals rfl

/-- A list with more items than the record has fields is refused. -/
theorem closeList_item {first : Bool} {lead spelled : List Char} {item : Value}
    (isLead : Lead first lead) (spells : Spells spelled item) (rest : List Char) :
    (closeList (lead ++ (spelled ++ rest))).toOption = none := by
  cases isLead with
  | first blank =>
    obtain ⟨c, more, rfl, -, notClose⟩ := spells.head
    exact toOption_closeList (spells.skipBlank_append blank rest) notClose
  | @next blanks gap blank gapBlank =>
    have comma : skipBlank (blanks ++ ',' :: gap ++ (spelled ++ rest)) =
        ',' :: (gap ++ (spelled ++ rest)) := by
      rw [List.append_assoc, skipBlank_append blank, List.cons_append, skipBlank_cons rfl]
    exact toOption_closeList comma (by decide)

/-- Items go to the columns that are left, as members with their names would. The columns `before`
have had their turn. -/
theorem toOption_readPlaces {before columns : List (Column σ)}
    (apart : (before ++ columns).Pairwise Column.Apart) {draft : σ}
    (unset : ∀ column ∈ columns, column.get draft = none) {first : Bool} {body : List Char}
    {items : List Value} (spells : SpellsItems first body items) (rest : List Char) :
    (readPlaces (columns.map Column.field) first draft (body ++ rest)).toOption =
      if items.length ≤ columns.length then
        (fill (before ++ columns) draft
          ((columns.map fun column => column.name.toList).zip items)).map fun last => (last, rest)
      else none := by
  induction columns generalizing before draft first body items with
  | nil =>
    cases spells with
    | close blank =>
      rw [List.append_assoc]
      simp [readPlaces, closeList_append blank, Except.map, Except.toOption, fill]
    | item isLead spells more =>
      rw [List.map_nil, readPlaces, toOption_map, List.append_assoc, List.append_assoc,
        closeList_item isLead spells]
      rfl
  | cons column columns ih =>
    rw [List.map_cons, readPlaces]
    cases spells with
    | close blank =>
      rw [List.append_assoc]
      simp [nextItem_close first blank, bind, Except.bind, Except.toOption, fill]
    | @item _ lead _ _ item _ isLead spells more =>
      have found := find?_column apart (List.mem_append_right before List.mem_cons_self)
      have fromColumn := (List.pairwise_cons.mp (List.pairwise_append.mp apart).2.1).1
      have here := column.decides_take draft blanks_nil spells (more.stops rest)
      obtain ⟨c, tail, rfl, notBlank, notClose⟩ := spells.head
      rw [List.nil_append, List.cons_append] at here
      rw [List.append_assoc, List.append_assoc, List.cons_append,
        nextItem_more isLead notBlank notClose, toOption_bind, toOption_ok, Option.bind_some,
        toOption_bind, here, List.map_cons, List.zip_cons_cons, fill, absorb, found]
      have noValue : ¬(column.get draft).isSome = true := by
        simp [unset column List.mem_cons_self]
      simp only [Column.put, if_neg noValue, List.length_cons, Nat.add_le_add_iff_right]
      cases taken : column.take draft item with
      | none => simp
      | some next =>
        obtain ⟨a, -, rfl⟩ := Option.map_eq_some_iff.mp taken
        have stillUnset : ∀ other ∈ columns, other.get (column.set draft a) = none := by
          intro other member
          rw [(fromColumn other member).keeps]
          exact unset other (List.mem_cons_of_mem _ member)
        -- The column has had its turn now.
        have stillApart : ((before ++ [column]) ++ columns).Pairwise Column.Apart := by
          simpa using apart
        have later := ih stillApart stillUnset more
        simpa using later

/-! ## Records -/

/-- Members of a record with the given names of fields: those of an object, or the items of a list
under the names, in their order. -/
def Value.members? (names : List String) : Value → Option (List (List Char × Value))
  | .object members => some members
  | .list items =>
    if items.length ≤ names.length then some ((names.map String.toList).zip items) else none
  | _ => none

/-- What a value means as a record. -/
def Shape.meaning (shape : Shape σ α) (columns : List (Column σ)) (value : Value) : Option α :=
  (value.members? (columns.map Column.name)).bind fun members =>
    (fill columns shape.start members).bind fun draft => (shape.finish draft).toOption

/-- Whether columns describe a record: they are its fields, each has a name and a place of its own,
the first draft is empty, and a draft is what stands in its places. -/
structure Shape.IsTable (shape : Shape σ α) (columns : List (Column σ)) : Prop where
  nonempty : columns ≠ []
  fields : shape.fields = columns.map Column.field
  apart : columns.Pairwise Column.Apart
  unset : ∀ column ∈ columns, column.get shape.start = none
  ext : ∀ one two, (∀ column ∈ columns, column.get one = column.get two) → one = two

/-- A filled draft is made a record of. -/
theorem toOption_complete (shape : Shape σ α) {filling : Except Fault (σ × List Char)}
    {filled : Option σ} {rest : List Char}
    (result : filling.toOption = filled.map fun draft => (draft, rest)) :
    (filling >>= fun (draft, rest) => shape.complete draft rest).toOption =
      (filled.bind fun draft => (shape.finish draft).toOption).map fun a => (a, rest) := by
  rw [toOption_bind, result]
  cases filled with
  | none => rfl
  | some draft =>
    simp only [Option.map_some, Option.bind_some, Shape.complete]
    cases shape.finish draft <;> rfl

theorem decides_record {shape : Shape σ α} {columns : List (Column σ)}
    (table : shape.IsTable columns) : Decides (readRecord shape) (shape.meaning columns) := by
  intro blanks spelled rest value blank spells _
  obtain ⟨c, more, same, opens⟩ := spells.opens
  rw [readRecord, spells.skipBlank_append blank, table.fields]
  cases spells with
  | @object body members spells =>
    have shorter := spells.length_lt
    have enough : members.length < enoughFuel (body ++ rest) := by
      rw [enoughFuel, List.length_append]
      omega
    exact toOption_complete shape (toOption_readFields spells enough rest)
  | @list body items spells =>
    have apart : ([] ++ columns).Pairwise Column.Apart := table.apart
    have placed := toOption_readPlaces apart table.unset spells rest
    rw [List.nil_append] at placed
    have names : ((columns.map Column.name).map String.toList) =
        columns.map fun column => column.name.toList := List.map_map
    rw [Shape.meaning, Value.members?, List.length_map, names]
    by_cases fits : items.length ≤ columns.length
    · rw [if_pos fits] at placed ⊢
      exact toOption_complete shape placed
    · rw [if_neg fits] at placed ⊢
      exact @toOption_complete _ _ shape _ none _ placed
  | number =>
    have notBracket : c ≠ '[' := opens.ne_of_number (by decide)
    have notBrace : c ≠ '\x7b' := opens.ne_of_number (by decide)
    simpa [same, notBracket, notBrace, Shape.meaning, Value.members?] using toOption_mismatch _
  | _ => exact toOption_mismatch _

/-! ## Values of the fields -/

/-- Values that members give to a name. -/
def valuesOf (members : List (List Char × Value)) (name : String) : List Value :=
  (members.filter fun member => member.1 = name.toList).map Prod.snd

/-- Whether a value, as a record with these names of fields, gives the field `name` this value: its
only one, or none. -/
def Value.Gives (names : List String) (value : Value) (name : String) (given : Option Value) :
    Prop :=
  ∃ members, value.members? names = some members ∧ valuesOf members name = given.toList

/-- Whether a column of a draft holds what a given value means, and nothing if none is given. -/
def Column.Holds (draft : σ) (column : Column σ) (given : Option Value) : Prop :=
  given.map column.meaning = (column.get draft).map some

theorem valuesOf_cons_self (name : String) (value : Value)
    (members : List (List Char × Value)) :
    valuesOf ((name.toList, value) :: members) name = value :: valuesOf members name := by
  simp [valuesOf]

theorem valuesOf_cons_of_ne {key : List Char} {name : String} (different : key ≠ name.toList)
    (value : Value) (members : List (List Char × Value)) :
    valuesOf ((key, value) :: members) name = valuesOf members name := by
  simp [valuesOf, different]

theorem eq_of_toList_eq {one two : Option Value} (same : one.toList = two.toList) : one = two :=
  Option.head?_toList.symm.trans ((congrArg List.head? same).trans Option.head?_toList)

theorem Column.Holds.means {draft : σ} {column : Column σ} {value : Value}
    (holds : column.Holds draft (some value)) : ∃ a, column.meaning value = some a := by
  obtain ⟨a, -, same⟩ := Option.map_eq_some_iff.mp holds.symm
  exact ⟨a, same.symm⟩

/-- What a column holds is determined by the given value. -/
theorem Column.Holds.get_eq {one two : σ} {column : Column σ} {given : Option Value}
    (first : column.Holds one given) (second : column.Holds two given) :
    column.get one = column.get two :=
  Option.map_injective (Option.some_injective _) (first.symm.trans second)

/-- Two columns of a record are the same one, or do not get in each other's way. -/
theorem Column.eq_or_apart {columns : List (Column σ)} (apart : columns.Pairwise Column.Apart)
    {one two : Column σ} (first : one ∈ columns) (second : two ∈ columns) :
    one = two ∨ one.Apart two := by
  by_cases same : one = two
  · exact .inl same
  · exact .inr (apart.forall first second same)

/-- What a column holds at last is what it held at first, or what its only value means. -/
theorem holds_of_fill {columns : List (Column σ)} (apart : columns.Pairwise Column.Apart)
    {draft last : σ} {members : List (List Char × Value)}
    (filled : fill columns draft members = some last) {column : Column σ}
    (member : column ∈ columns) :
    ∃ given : Option Value, valuesOf members column.name = given.toList ∧
      (∀ a, column.get draft = some a → given = none ∧ column.get last = some a) ∧
      (column.get draft = none → column.Holds last given) := by
  induction members generalizing draft with
  | nil =>
    cases filled
    refine ⟨none, rfl, fun a held => ⟨rfl, held⟩, fun unset => ?_⟩
    rw [Column.Holds, unset]
    rfl
  | cons head members ih =>
    obtain ⟨key, value⟩ := head
    obtain ⟨next, absorbed, filled⟩ := Option.bind_eq_some_iff.mp filled
    obtain ⟨given, values, kept, holds⟩ := ih filled
    rw [absorb] at absorbed
    split at absorbed
    · rename_i other found
      obtain rfl : other.name.toList = key := by simpa using List.find?_some found
      rw [Column.put] at absorbed
      split at absorbed
      · cases absorbed
      · rename_i unset
        obtain ⟨a, meant, rfl⟩ := Option.map_eq_some_iff.mp absorbed
        obtain rfl | apart := Column.eq_or_apart apart member (List.mem_of_find?_eq_some found)
        · -- The column's own member: no other may follow.
          obtain ⟨rfl, held⟩ := kept a (column.get_set draft a)
          refine ⟨some value, ?_, fun b before => ?_, fun _ => ?_⟩
          · rw [valuesOf_cons_self, values]
            rfl
          · simp [before] at unset
          · rw [Column.Holds, Option.map_some, meant, held]
            rfl
        · have different : other.name.toList ≠ column.name.toList := fun same =>
            apart.name (String.toList_injective same).symm
          rw [apart.kept] at kept holds
          exact ⟨given, by rw [valuesOf_cons_of_ne different, values], kept, holds⟩
    · rename_i unknown
      have different : key ≠ column.name.toList := by
        rintro rfl
        simpa using List.find?_eq_none.mp unknown column member
      cases absorbed
      exact ⟨given, by rw [valuesOf_cons_of_ne different, values], kept, holds⟩

/-- Members that give each column at most one value, of its type, fill a draft. -/
theorem fill_of_values {columns : List (Column σ)} (apart : columns.Pairwise Column.Apart)
    {draft : σ} {members : List (List Char × Value)}
    (admitted : ∀ column ∈ columns, ∃ given : Option Value,
      valuesOf members column.name = given.toList ∧
        ∀ value ∈ given, column.get draft = none ∧ (column.meaning value).isSome = true) :
    ∃ last, fill columns draft members = some last := by
  induction members generalizing draft with
  | nil => exact ⟨draft, rfl⟩
  | cons head members ih =>
    obtain ⟨key, value⟩ := head
    rw [fill, absorb]
    split
    · rename_i column found
      have member := List.mem_of_find?_eq_some found
      obtain rfl : column.name.toList = key := by simpa using List.find?_some found
      obtain ⟨given, values, fits⟩ := admitted column member
      rw [valuesOf_cons_self] at values
      obtain ⟨rfl, nothing⟩ : given = some value ∧ valuesOf members column.name = [] := by
        cases given with
        | none => cases values
        | some other =>
          obtain ⟨same, nothing⟩ := List.cons.inj values
          exact ⟨congrArg some same.symm, nothing⟩
      obtain ⟨unset, means⟩ := fits value rfl
      obtain ⟨a, meant⟩ := Option.isSome_iff_exists.mp means
      rw [Column.put, unset, Column.take, meant, if_neg (by simp), Option.map_some,
        Option.bind_some]
      refine ih fun other otherMember => ?_
      obtain rfl | apart := Column.eq_or_apart apart otherMember member
      · exact ⟨none, nothing, nofun⟩
      · have different : column.name.toList ≠ other.name.toList := fun same =>
          apart.name (String.toList_injective same).symm
        obtain ⟨given, values, fits⟩ := admitted other otherMember
        rw [valuesOf_cons_of_ne different] at values
        refine ⟨given, values, fun value member => ?_⟩
        rw [apart.kept]
        exact fits value member
    · rename_i unknown
      refine ih fun column member => ?_
      have different : key ≠ column.name.toList := by
        rintro rfl
        simpa using List.find?_eq_none.mp unknown column member
      rw [← valuesOf_cons_of_ne different value]
      exact admitted column member

/-- A record means what it makes of the draft that holds the values of its fields. -/
theorem Shape.meaning_eq_some_iff {shape : Shape σ α} {columns : List (Column σ)}
    (table : shape.IsTable columns) {value : Value} {a : α} :
    shape.meaning columns value = some a ↔
      ∃ draft, shape.finish draft = .ok a ∧ ∀ column ∈ columns, ∃ given,
        value.Gives (columns.map Column.name) column.name given ∧ column.Holds draft given := by
  constructor
  · intro means
    obtain ⟨members, found, filling⟩ := Option.bind_eq_some_iff.mp means
    obtain ⟨draft, filled, finished⟩ := Option.bind_eq_some_iff.mp filling
    refine ⟨draft, toOption_eq_some_iff.mp finished, fun column member => ?_⟩
    obtain ⟨given, values, -, holds⟩ := holds_of_fill table.apart filled member
    exact ⟨given, ⟨members, found, values⟩, holds (table.unset column member)⟩
  · rintro ⟨draft, finished, fields⟩
    obtain ⟨column, member⟩ := List.exists_mem_of_ne_nil _ table.nonempty
    obtain ⟨-, ⟨members, found, -⟩, -⟩ := fields column member
    have held : ∀ column ∈ columns, ∃ given : Option Value,
        valuesOf members column.name = given.toList ∧ column.Holds draft given := by
      intro column member
      obtain ⟨given, ⟨others, foundAgain, values⟩, holds⟩ := fields column member
      obtain rfl : members = others := Option.some.inj (found.symm.trans foundAgain)
      exact ⟨given, values, holds⟩
    obtain ⟨last, filled⟩ : ∃ last, fill columns shape.start members = some last := by
      refine fill_of_values table.apart fun column member => ?_
      obtain ⟨given, values, holds⟩ := held column member
      refine ⟨given, values, fun value same => ⟨table.unset column member, ?_⟩⟩
      obtain rfl : given = some value := same
      exact Option.isSome_iff_exists.mpr holds.means
    -- The draft that has been filled holds the same values, so it is the same draft.
    obtain rfl : last = draft := by
      refine table.ext last draft fun column member => ?_
      obtain ⟨given, values, holds⟩ := held column member
      obtain ⟨again, sameValues, -, holdsAgain⟩ := holds_of_fill table.apart filled member
      obtain rfl : again = given := eq_of_toList_eq (sameValues.symm.trans values)
      exact (holdsAgain (table.unset column member)).get_eq holds
    rw [meaning, found, Option.bind_some, filled, Option.bind_some]
    exact toOption_eq_some_iff.mpr finished

/-- Where the values of a column's type have one form each, a draft tells what is given. -/
theorem Column.gives_iff_of_form {column : Column σ} {form : column.α → Value}
    (means : ∀ value a, column.meaning value = some a ↔ value = form a) {names : List String}
    {value : Value} {draft : σ} :
    (∃ given, value.Gives names column.name given ∧ column.Holds draft given) ↔
      value.Gives names column.name ((column.get draft).map form) := by
  have holds : ∀ given, column.Holds draft given ↔ given = (column.get draft).map form := by
    intro given
    unfold Column.Holds
    cases given <;> cases column.get draft <;> simp [means]
  simp only [holds, exists_eq_right]

/-- A column that holds something is given a value that means it. -/
theorem Column.gives_iff_of_get {column : Column σ} {draft : σ} {a : column.α}
    (held : column.get draft = some a) {names : List String} {value : Value} :
    (∃ given, value.Gives names column.name given ∧ column.Holds draft given) ↔
      ∃ item, value.Gives names column.name (some item) ∧ column.meaning item = some a := by
  constructor
  · rintro ⟨given, gives, holds⟩
    rw [Column.Holds, held] at holds
    obtain ⟨item, rfl, means⟩ := Option.map_eq_some_iff.mp holds
    exact ⟨item, gives, means⟩
  · rintro ⟨item, gives, means⟩
    refine ⟨some item, gives, ?_⟩
    rw [Column.Holds, held, Option.map_some, means]
    rfl

end PluginSupport.Json
