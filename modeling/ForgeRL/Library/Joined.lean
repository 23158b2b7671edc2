import ForgeRL.Library.RoundTrip
import Mathlib.Data.List.Nodup

namespace Library

/-!
# Values that have been read back

Reading a written value back joins its surrogate pairs, and of the fields whose
names join to the same text it keeps one.  What has been read back once is read
back as itself: it is as easy to write, and its text is not longer.

An object whose names stay apart keeps all its fields.  A value made of such
objects is written as the text of the original.
-/

namespace Json

/-! ## Induction over values -/

/-- The cases of an induction over values. -/
structure Cases (motive : Json → Prop) : Prop where
  null : motive .null
  bool : ∀ value, motive (.bool value)
  int : ∀ value, motive (.int value)
  float : ∀ value, motive (.float value)
  str : ∀ text, motive (.str text)
  arr : ∀ items, (∀ item ∈ items, motive item) → motive (.arr items)
  obj : ∀ fields : JsonObject, (∀ field ∈ fields, motive field.2) → motive (.obj fields)

mutual

/-- Induction over a value, through its items and the values of its fields. -/
theorem Cases.value {motive : Json → Prop} (cases : Cases motive) : ∀ value, motive value
  | .null => cases.null
  | .bool value => cases.bool value
  | .int value => cases.int value
  | .float value => cases.float value
  | .str text => cases.str text
  | .arr items => cases.arr items (cases.items items)
  | .obj fields => cases.obj fields (cases.fields fields)

theorem Cases.items {motive : Json → Prop} (cases : Cases motive) :
    ∀ items : List Json, ∀ item ∈ items, motive item
  | [] => fun _ member => absurd member List.not_mem_nil
  | item :: items => List.forall_mem_cons.mpr ⟨cases.value item, cases.items items⟩

theorem Cases.fields {motive : Json → Prop} (cases : Cases motive) :
    ∀ fields : JsonObject, ∀ field ∈ fields, motive field.2
  | [] => fun _ member => absurd member List.not_mem_nil
  | (_, value) :: fields => List.forall_mem_cons.mpr ⟨cases.value value, cases.fields fields⟩

end

/-! ## What holds of all parts -/

theorem itemsIntsShort_iff {items : List Json} :
    itemsIntsShort items = true ↔ ∀ item ∈ items, intsShort item = true := by
  refine forall_iff_of_cons (fun items => itemsIntsShort items = true) rfl fun _ _ => ?_
  rw [itemsIntsShort, Bool.and_eq_true]

theorem fieldsIntsShort_iff {fields : JsonObject} :
    fieldsIntsShort fields = true ↔ ∀ field ∈ fields, intsShort field.2 = true := by
  refine forall_iff_of_cons (fun fields => fieldsIntsShort fields = true) rfl fun _ _ => ?_
  rw [fieldsIntsShort, Bool.and_eq_true]

section Floats

variable {floatText : ℚ → Text}

theorem itemsFloatsRead_iff {items : List Json} :
    ItemsFloatsRead floatText items ↔ ∀ item ∈ items, FloatsRead floatText item := by
  refine forall_iff_of_cons (ItemsFloatsRead floatText) trivial fun _ _ => ?_
  rw [ItemsFloatsRead]

theorem fieldsFloatsRead_iff {fields : JsonObject} :
    FieldsFloatsRead floatText fields ↔ ∀ field ∈ fields, FloatsRead floatText field.2 := by
  refine forall_iff_of_cons (FieldsFloatsRead floatText) trivial fun _ _ => ?_
  rw [FieldsFloatsRead]

end Floats

theorem itemsNesting_le_iff {items : List Json} {depth : ℕ} :
    itemsNesting items ≤ depth ↔ ∀ item ∈ items, nesting item ≤ depth := by
  refine forall_iff_of_cons (fun items => itemsNesting items ≤ depth) (Nat.zero_le _) fun _ _ => ?_
  rw [itemsNesting, max_le_iff]

theorem fieldsNesting_le_iff {fields : JsonObject} {depth : ℕ} :
    fieldsNesting fields ≤ depth ↔ ∀ field ∈ fields, nesting field.2 ≤ depth := by
  refine forall_iff_of_cons (fun fields => fieldsNesting fields ≤ depth) (Nat.zero_le _) fun _ _ => ?_
  rw [fieldsNesting, max_le_iff]

/-! ## The fields that are kept -/

theorem mem_setField {fields : JsonObject} {name : Text} {value : Json} {field : Text × Json}
    (member : field ∈ setField fields name value) : field = (name, value) ∨ field ∈ fields := by
  unfold setField at member
  split_ifs at member
  · rcases List.mem_map.mp member with ⟨other, inside, rfl⟩
    split_ifs
    · exact .inl rfl
    · exact .inr inside
  · rcases List.mem_append.mp member with inside | last
    · exact .inr inside
    · exact .inl (List.mem_singleton.mp last)

theorem setField_nodup {fields : JsonObject} (distinct : (fields.map Prod.fst).Nodup) (name : Text)
    (value : Json) : ((setField fields name value).map Prod.fst).Nodup := by
  unfold setField
  split_ifs with present
  · have names : (fields.map fun field => if field.1 = name then (name, value) else field).map
        Prod.fst = fields.map Prod.fst := by
      rw [List.map_map]
      apply List.map_congr_left
      intro field _
      rw [Function.comp_apply]
      split_ifs with same
      · exact same.symm
      · rfl
    rwa [names]
  · rw [List.map_append, List.nodup_append]
    refine ⟨distinct, List.nodup_singleton _, ?_⟩
    rintro earlier inside last singleton rfl
    rcases List.mem_map.mp inside with ⟨field, member, rfl⟩
    refine present (List.any_eq_true.mpr ⟨field, member, decide_eq_true ?_⟩)
    exact List.mem_singleton.mp singleton

theorem setField_of_fresh {fields : JsonObject} {name : Text} (fresh : name ∉ fields.map Prod.fst)
    (value : Json) : setField fields name value = fields ++ [(name, value)] := by
  unfold setField
  rw [if_neg]
  intro present
  rcases List.any_eq_true.mp present with ⟨field, member, same⟩
  exact fresh (List.mem_map.mpr ⟨field, member, of_decide_eq_true same⟩)

theorem joinedItems_eq (items : List Json) : joinedItems items = items.map joined := by
  induction items with
  | nil => rfl
  | cons item items ih => rw [joinedItems, ih, List.map_cons]

/-- A field that is kept is a joined one. -/
theorem mem_joinedFields {fields read : JsonObject} {field : Text × Json}
    (member : field ∈ joinedFields read fields) :
    field ∈ read ∨ ∃ source ∈ fields, field = (joinPairs source.1, joined source.2) := by
  induction fields generalizing read with
  | nil => exact .inl member
  | cons first fields ih =>
      rw [joinedFields] at member
      rcases ih member with inside | ⟨source, later, same⟩
      · rcases mem_setField inside with same | earlier
        · exact .inr ⟨first, List.mem_cons_self, same⟩
        · exact .inl earlier
      · exact .inr ⟨source, List.mem_cons_of_mem first later, same⟩

theorem joinedFields_nodup {fields read : JsonObject} (distinct : (read.map Prod.fst).Nodup) :
    ((joinedFields read fields).map Prod.fst).Nodup := by
  induction fields generalizing read with
  | nil => exact distinct
  | cons field fields ih => exact ih (setField_nodup distinct _ _)

/-- What holds of all joined fields holds of the fields that are kept. -/
theorem forall_joinedFields {fields : JsonObject} {property : Text × Json → Prop}
    (all : ∀ field ∈ fields, property (joinPairs field.1, joined field.2)) :
    ∀ field ∈ joinedFields [] fields, property field := by
  intro field member
  rcases mem_joinedFields member with none_ | ⟨source, inside, rfl⟩
  · cases none_
  · exact all source inside

/-- Fields whose names stay apart are all kept, in their order. -/
theorem joinedFields_of_apart {fields read : JsonObject}
    (apart : (read.map Prod.fst ++ fields.map fun field => joinPairs field.1).Nodup) :
    joinedFields read fields =
      read ++ fields.map fun field => (joinPairs field.1, joined field.2) := by
  induction fields generalizing read with
  | nil => rw [joinedFields, List.map_nil, List.append_nil]
  | cons field fields ih =>
      have fresh : joinPairs field.1 ∉ read.map Prod.fst := by
        intro member
        rw [List.map_cons, List.nodup_append] at apart
        exact apart.2.2 _ member _ List.mem_cons_self rfl
      rw [joinedFields, setField_of_fresh fresh, ih, List.map_cons, List.append_assoc,
        List.singleton_append]
      rwa [List.map_append, List.map_cons, List.map_nil, List.append_assoc, List.singleton_append]

/-! ## Reading back once more -/

/-- What has been read back is read back as itself. -/
theorem joined_joined (value : Json) : joined (joined value) = joined value := by
  refine (Cases.value (motive := fun value => joined (joined value) = joined value) ?_) value
  refine ⟨rfl, fun _ => rfl, fun _ => rfl, fun _ => rfl, fun text => ?_, fun items ih => ?_,
    fun fields ih => ?_⟩
  · rw [joined, joined, joinPairs_joinPairs]
  · rw [joined, joined, joinedItems_eq, joinedItems_eq, List.map_map]
    exact congrArg Json.arr (List.map_congr_left ih)
  · have fixed : ∀ field ∈ joinedFields [] fields,
        joinPairs field.1 = field.1 ∧ joined field.2 = field.2 :=
      forall_joinedFields fun field member => ⟨joinPairs_joinPairs field.1, ih field member⟩
    have names : ((joinedFields [] fields).map fun field => joinPairs field.1).Nodup := by
      rw [List.map_congr_left fun field member => (fixed field member).1]
      exact joinedFields_nodup List.nodup_nil
    rw [joined, joined, joinedFields_of_apart (by simpa using names), List.nil_append]
    refine congrArg Json.obj ?_
    conv_rhs => rw [← List.map_id (joinedFields [] fields)]
    apply List.map_congr_left
    intro field member
    exact Prod.ext (fixed field member).1 (fixed field member).2

/-- What a value has from its parts, whatever its texts are, the joined value
has too. -/
theorem joined_of_parts (property : Json → Prop) (texts : ∀ text, property (.str text))
    (arrays : ∀ items, property (.arr items) ↔ ∀ item ∈ items, property item)
    (objects : ∀ fields, property (.obj fields) ↔ ∀ field ∈ fields, property field.2)
    (value : Json) (holds : property value) : property (joined value) := by
  revert holds
  refine (Cases.value (motive := fun value => property value → property (joined value)) ?_) value
  refine ⟨id, fun _ => id, fun _ => id, fun _ => id, fun text _ => texts (joinPairs text),
    fun items ih holds => ?_, fun fields ih holds => ?_⟩
  · rw [arrays] at holds
    rw [joined, arrays, joinedItems_eq, List.forall_mem_map]
    exact fun item member => ih item member (holds item member)
  · rw [objects] at holds
    rw [joined, objects]
    exact forall_joinedFields fun field member => ih field member (holds field member)

theorem isStandard_joined (value : Json) (standard : isStandard value = true) :
    isStandard (joined value) = true := by
  apply joined_of_parts (fun value => isStandard value = true) (fun _ => rfl) _ _ value standard
  · exact fun items => by rw [isStandard, areStandard_iff]
  · exact fun fields => by rw [isStandard, fieldsStandard_iff]

theorem intsShort_joined (value : Json) (short : intsShort value = true) :
    intsShort (joined value) = true := by
  apply joined_of_parts (fun value => intsShort value = true) (fun _ => rfl) _ _ value short
  · exact fun items => by rw [intsShort, itemsIntsShort_iff]
  · exact fun fields => by rw [intsShort, fieldsIntsShort_iff]

theorem floatsRead_joined {floatText : ℚ → Text} (value : Json)
    (read : FloatsRead floatText value) : FloatsRead floatText (joined value) := by
  apply joined_of_parts (FloatsRead floatText) (fun _ => trivial) _ _ value read
  · exact fun items => by rw [FloatsRead, itemsFloatsRead_iff]
  · exact fun fields => by rw [FloatsRead, fieldsFloatsRead_iff]

theorem nesting_joined_le (value : Json) : nesting (joined value) ≤ nesting value := by
  refine (Cases.value (motive := fun value => nesting (joined value) ≤ nesting value) ?_) value
  refine ⟨le_rfl, fun _ => le_rfl, fun _ => le_rfl, fun _ => le_rfl, fun _ => le_rfl,
    fun items ih => ?_, fun fields ih => ?_⟩
  · rw [joined, nesting, nesting, Nat.add_le_add_iff_right, itemsNesting_le_iff, joinedItems_eq,
      List.forall_mem_map]
    exact fun item member => (ih item member).trans (itemsNesting_le_iff.mp le_rfl item member)
  · rw [joined, nesting, nesting, Nat.add_le_add_iff_right, fieldsNesting_le_iff]
    exact forall_joinedFields fun field member =>
      (ih field member).trans (fieldsNesting_le_iff.mp le_rfl field member)

/-! ## Names that stay apart -/

mutual

/-- In no object two names join to the same text. -/
def NamesApart : Json → Prop
  | .arr items => ItemsNamesApart items
  | .obj fields => (fields.map fun field => joinPairs field.1).Nodup ∧ FieldsNamesApart fields
  | _ => True

def ItemsNamesApart : List Json → Prop
  | [] => True
  | item :: items => NamesApart item ∧ ItemsNamesApart items

def FieldsNamesApart : JsonObject → Prop
  | [] => True
  | (_, value) :: fields => NamesApart value ∧ FieldsNamesApart fields

end

theorem itemsNamesApart_iff {items : List Json} :
    ItemsNamesApart items ↔ ∀ item ∈ items, NamesApart item := by
  refine forall_iff_of_cons ItemsNamesApart trivial fun _ _ => ?_
  rw [ItemsNamesApart]

theorem fieldsNamesApart_iff {fields : JsonObject} :
    FieldsNamesApart fields ↔ ∀ field ∈ fields, NamesApart field.2 := by
  refine forall_iff_of_cons FieldsNamesApart trivial fun _ _ => ?_
  rw [FieldsNamesApart]

section Written

variable (floatText : ℚ → Text) (separators : Separators)

/-- The text of one field. -/
def fieldText (field : Text × Json) : Text :=
  ascii (quote field.1) ++ ascii (Text.ofString separators.key) ++ dumps floatText separators field.2

def itemsText (items : List Json) : Text := ascii (encodeItems floatText separators items)

def fieldsText (fields : JsonObject) : Text := ascii (encodeFields floatText separators fields)

theorem itemsText_cons (item next : Json) (items : List Json) :
    itemsText floatText separators (item :: next :: items) = dumps floatText separators item ++
      ascii (Text.ofString separators.item) ++ itemsText floatText separators (next :: items) := by
  rw [itemsText, encodeItems, ascii_append, ascii_append]
  rfl

theorem fieldsText_singleton (field : Text × Json) :
    fieldsText floatText separators [field] = fieldText floatText separators field := by
  rw [fieldsText, encodeFields, ascii_append, ascii_append]
  rfl

theorem fieldsText_cons (field next : Text × Json) (fields : JsonObject) :
    fieldsText floatText separators (field :: next :: fields) =
      fieldText floatText separators field ++ ascii (Text.ofString separators.item) ++
        fieldsText floatText separators (next :: fields) := by
  rw [fieldsText, encodeFields, ascii_append, ascii_append, ascii_append, ascii_append]
  rfl

theorem dumps_arr (items : List Json) : dumps floatText separators (.arr items) =
    ascii (Text.ofString "[") ++ itemsText floatText separators items ++
      ascii (Text.ofString "]") := by
  rw [dumps, encode, ascii_append, ascii_append]
  rfl

theorem dumps_obj (fields : JsonObject) : dumps floatText separators (.obj fields) =
    ascii (Text.ofString "\x7b") ++ fieldsText floatText separators fields ++
      ascii (Text.ofString "\x7d") := by
  rw [dumps, encode, ascii_append, ascii_append]
  rfl

/-- Lists of items with the same texts have the same text. -/
theorem itemsText_map {items : List Json} {change : Json → Json}
    (same : ∀ item ∈ items, dumps floatText separators (change item) =
      dumps floatText separators item) :
    itemsText floatText separators (items.map change) = itemsText floatText separators items := by
  induction items with
  | nil => rfl
  | cons item items ih =>
      rw [List.forall_mem_cons] at same
      have rest := ih same.2
      cases items with
      | nil => exact same.1
      | cons next items =>
          rw [List.map_cons] at rest
          rw [List.map_cons, List.map_cons, itemsText_cons, itemsText_cons, rest, same.1]

theorem fieldsText_map {fields : JsonObject} {change : Text × Json → Text × Json}
    (same : ∀ field ∈ fields, fieldText floatText separators (change field) =
      fieldText floatText separators field) :
    fieldsText floatText separators (fields.map change) = fieldsText floatText separators fields := by
  induction fields with
  | nil => rfl
  | cons field fields ih =>
      rw [List.forall_mem_cons] at same
      have rest := ih same.2
      cases fields with
      | nil =>
          rw [List.map_cons, List.map_nil, fieldsText_singleton, fieldsText_singleton]
          exact same.1
      | cons next fields =>
          rw [List.map_cons] at rest
          rw [List.map_cons, List.map_cons, fieldsText_cons, fieldsText_cons, rest, same.1]

/-- A joined field is written as the field, when its value is. -/
theorem fieldText_joined {field : Text × Json}
    (value : dumps floatText separators (joined field.2) = dumps floatText separators field.2) :
    fieldText floatText separators (joinPairs field.1, joined field.2) =
      fieldText floatText separators field := by
  rw [fieldText, fieldText, ascii_quote_joinPairs, value]

/-- A value whose names stay apart is written as it is read back. -/
theorem dumps_joined {value : Json} (apart : NamesApart value) :
    dumps floatText separators (joined value) = dumps floatText separators value := by
  revert apart
  refine (Cases.value (motive := fun value => NamesApart value →
    dumps floatText separators (joined value) = dumps floatText separators value) ?_) value
  refine ⟨fun _ => rfl, fun _ _ => rfl, fun _ _ => rfl, fun _ _ => rfl, fun text _ => ?_,
    fun items ih apart => ?_, fun fields ih apart => ?_⟩
  · exact ascii_quote_joinPairs text
  · rw [NamesApart, itemsNamesApart_iff] at apart
    rw [joined, dumps_arr, dumps_arr, joinedItems_eq,
      itemsText_map floatText separators fun item member => ih item member (apart item member)]
  · rw [NamesApart, fieldsNamesApart_iff] at apart
    rw [joined, dumps_obj, dumps_obj, joinedFields_of_apart (by simpa using apart.1),
      List.nil_append, fieldsText_map floatText separators]
    exact fun field member =>
      fieldText_joined floatText separators (ih field member (apart.2 field member))

/-! ## The size of what is read back -/

/-- The text of the fields with a separator after each of them. -/
def closedSize (fields : JsonObject) : ℕ :=
  (fields.map fun field => (fieldText floatText separators field).length +
    (ascii (Text.ofString separators.item)).length).sum

theorem length_fieldsText (fields : JsonObject) :
    (fieldsText floatText separators fields).length =
      closedSize floatText separators fields - (ascii (Text.ofString separators.item)).length := by
  induction fields with
  | nil => simp [fieldsText, encodeFields, closedSize, ascii]
  | cons field fields ih =>
      cases fields with
      | nil => simp [fieldsText_singleton, closedSize]
      | cons next fields =>
          simp only [closedSize, List.map_cons, List.sum_cons] at ih ⊢
          rw [fieldsText_cons, List.length_append, List.length_append, ih]
          omega

theorem closedSize_cons (field : Text × Json) (fields : JsonObject) :
    closedSize floatText separators (field :: fields) =
      closedSize floatText separators [field] + closedSize floatText separators fields := by
  simp [closedSize]

/-- A field that is set adds at most its own size. -/
theorem closedSize_setField {fields : JsonObject} (distinct : (fields.map Prod.fst).Nodup)
    (name : Text) (value : Json) :
    closedSize floatText separators (setField fields name value) ≤
      closedSize floatText separators fields + closedSize floatText separators [(name, value)] := by
  have replaced : closedSize floatText separators
        (fields.map fun field => if field.1 = name then (name, value) else field) ≤
      closedSize floatText separators fields + closedSize floatText separators [(name, value)] := by
    induction fields with
    | nil => exact Nat.zero_le _
    | cons field fields ih =>
        rw [List.map_cons, List.nodup_cons] at distinct
        rw [List.map_cons, closedSize_cons, closedSize_cons _ _ field]
        split_ifs with same
        · -- the name does not come again
          have kept : fields.map (fun field => if field.1 = name then (name, value) else field) =
              fields := by
            conv_rhs => rw [← List.map_id fields]
            apply List.map_congr_left
            intro other member
            refine if_neg fun again => distinct.1 ?_
            exact List.mem_map.mpr ⟨other, member, again.trans same.symm⟩
          rw [kept]
          omega
        · have rest := ih distinct.2
          omega
  unfold setField
  split_ifs with present
  · exact replaced
  · exact le_of_eq (by simp [closedSize])

theorem closedSize_joinedFields {fields read : JsonObject} (distinct : (read.map Prod.fst).Nodup)
    (smaller : ∀ field ∈ fields, (dumps floatText separators (joined field.2)).length ≤
      (dumps floatText separators field.2).length) :
    closedSize floatText separators (joinedFields read fields) ≤
      closedSize floatText separators read + closedSize floatText separators fields := by
  induction fields generalizing read with
  | nil => exact Nat.le_add_right _ _
  | cons field fields ih =>
      rw [List.forall_mem_cons] at smaller
      have own : closedSize floatText separators [(joinPairs field.1, joined field.2)] ≤
          closedSize floatText separators [field] := by
        simp only [closedSize, List.map_cons, List.map_nil, List.sum_singleton, fieldText,
          ascii_quote_joinPairs, List.length_append]
        omega
      have added := closedSize_setField floatText separators distinct (joinPairs field.1)
        (joined field.2)
      have rest := ih (setField_nodup distinct (joinPairs field.1) (joined field.2)) smaller.2
      rw [joinedFields, closedSize_cons _ _ field]
      omega

theorem length_itemsText_map_le {items : List Json} {change : Json → Json}
    (smaller : ∀ item ∈ items, (dumps floatText separators (change item)).length ≤
      (dumps floatText separators item).length) :
    (itemsText floatText separators (items.map change)).length ≤
      (itemsText floatText separators items).length := by
  induction items with
  | nil => exact le_rfl
  | cons item items ih =>
      rw [List.forall_mem_cons] at smaller
      have rest := ih smaller.2
      cases items with
      | nil => exact smaller.1
      | cons next items =>
          rw [List.map_cons] at rest
          rw [List.map_cons, List.map_cons, itemsText_cons, itemsText_cons]
          simp only [List.length_append]
          have first := smaller.1
          omega

/-- What is read back is not written longer. -/
theorem length_dumps_joined_le (value : Json) :
    (dumps floatText separators (joined value)).length ≤
      (dumps floatText separators value).length := by
  refine (Cases.value (motive := fun value => (dumps floatText separators (joined value)).length ≤
    (dumps floatText separators value).length) ?_) value
  refine ⟨le_rfl, fun _ => le_rfl, fun _ => le_rfl, fun _ => le_rfl, fun text => ?_,
    fun items ih => ?_, fun fields ih => ?_⟩
  · exact le_of_eq (congrArg List.length (ascii_quote_joinPairs text))
  · have inside := length_itemsText_map_le floatText separators ih
    rw [joined, dumps_arr, dumps_arr, joinedItems_eq]
    simp only [List.length_append]
    omega
  · have inside := @closedSize_joinedFields floatText separators _ [] List.nodup_nil ih
    have nothing : closedSize floatText separators [] = 0 := rfl
    rw [joined, dumps_obj, dumps_obj]
    simp only [List.length_append, length_fieldsText]
    omega

end Written

/-! ## One line -/

/-- A text without a line break. -/
def OneLine (text : Text) : Prop := ∀ point ∈ text, point.val ≠ 0x0A

theorem oneLine_ofString {source : String}
    (single : source.toList.all (fun letter => decide (letter.toNat ≠ 0x0A)) = true) :
    OneLine (Text.ofString source) := by
  intro point member
  rcases List.mem_map.mp member with ⟨letter, inside, rfl⟩
  exact of_decide_eq_true (List.all_eq_true.mp single letter inside)

theorem OneLine.append {first second : Text} (before : OneLine first) (after : OneLine second) :
    OneLine (first ++ second) := List.forall_mem_append.mpr ⟨before, after⟩

theorem hexDigit_ne_break {digit : ℕ} (small : digit < 16) : (hexDigit digit).val ≠ 0x0A := by
  interval_cases digit <;> decide

theorem oneLine_unitEscape {unit : ℕ} (small : unit < 0x10000) : OneLine (unitEscape unit) := by
  refine (oneLine_ofString (by decide)).append ?_
  intro point member
  simp only [List.mem_cons, List.not_mem_nil, or_false] at member
  rcases member with rfl | rfl | rfl | rfl
  · exact hexDigit_ne_break (by omega)
  · exact hexDigit_ne_break (by omega)
  · exact hexDigit_ne_break (by omega)
  · exact hexDigit_ne_break (by omega)

theorem oneLine_ascii {text : Text} (single : OneLine text) : OneLine (ascii text) := by
  intro point member
  rcases List.mem_flatMap.mp member with ⟨source, inside, written⟩
  have bound := source.isLt
  unfold asciiPoint at written
  split_ifs at written
  · exact List.mem_singleton.mp written ▸ single source inside
  · exact oneLine_unitEscape (by omega) point written
  · rcases List.mem_append.mp written with first | second
    · exact oneLine_unitEscape (by omega) point first
    · exact oneLine_unitEscape (by omega) point second

/-- A line break in a string is written as an escape. -/
theorem oneLine_escape (point : CodePoint) : OneLine (escape point) := by
  have bound := point.isLt
  unfold escape
  split_ifs with _ _ break_
  · exact oneLine_ofString (by decide)
  · exact oneLine_ofString (by decide)
  · exact oneLine_ofString (by decide)
  · exact oneLine_ofString (by decide)
  · exact oneLine_ofString (by decide)
  · exact oneLine_ofString (by decide)
  · exact oneLine_ofString (by decide)
  · refine (oneLine_ofString (by decide)).append ?_
    intro digit member
    rw [List.mem_pair] at member
    rcases member with rfl | rfl
    · exact hexDigit_ne_break (by omega)
    · exact hexDigit_ne_break (by omega)
  · intro other member
    exact List.mem_singleton.mp member ▸ break_

theorem oneLine_quote (text : Text) : OneLine (quote text) := by
  refine ((oneLine_ofString (by decide)).append ?_).append (oneLine_ofString (by decide))
  intro point member
  rcases List.mem_flatMap.mp member with ⟨source, _, written⟩
  exact oneLine_escape source point written

theorem oneLine_intText (value : ℤ) : OneLine (Text.ofString (toString value)) := by
  intro point member break_
  refine (intText_letters value).1.2 point member (.inl ?_)
  rw [isBlank, decide_eq_true_eq, break_]
  decide

section Lines

variable {floatText : ℚ → Text} {separators : Separators}

theorem oneLine_itemsText (item_ : OneLine (ascii (Text.ofString separators.item)))
    {items : List Json} (single : ∀ item ∈ items, OneLine (dumps floatText separators item)) :
    OneLine (itemsText floatText separators items) := by
  induction items with
  | nil => exact fun _ member => absurd member List.not_mem_nil
  | cons item items ih =>
      rw [List.forall_mem_cons] at single
      cases items with
      | nil => exact single.1
      | cons next items =>
          rw [itemsText_cons]
          exact (single.1.append item_).append (ih single.2)

theorem oneLine_fieldsText (item_ : OneLine (ascii (Text.ofString separators.item)))
    (key : OneLine (ascii (Text.ofString separators.key))) {fields : JsonObject}
    (single : ∀ field ∈ fields, OneLine (dumps floatText separators field.2)) :
    OneLine (fieldsText floatText separators fields) := by
  have one (field : Text × Json) (value : OneLine (dumps floatText separators field.2)) :
      OneLine (fieldText floatText separators field) :=
    ((oneLine_ascii (oneLine_quote field.1)).append key).append value
  induction fields with
  | nil => exact fun _ member => absurd member List.not_mem_nil
  | cons field fields ih =>
      rw [List.forall_mem_cons] at single
      cases fields with
      | nil =>
          rw [fieldsText_singleton]
          exact one field single.1
      | cons next fields =>
          rw [fieldsText_cons]
          exact ((one field single.1).append item_).append (ih single.2)

/-- A value is written on one line. -/
theorem oneLine_dumps (item_ : OneLine (ascii (Text.ofString separators.item)))
    (key : OneLine (ascii (Text.ofString separators.key))) {value : Json}
    (read : FloatsRead floatText value) : OneLine (dumps floatText separators value) := by
  revert read
  refine (Cases.value (motive := fun value => FloatsRead floatText value →
    OneLine (dumps floatText separators value)) ?_) value
  refine ⟨fun _ => ?_, fun flag _ => ?_, fun value _ => ?_, fun value read => ?_, fun text _ => ?_,
    fun items ih read => ?_, fun fields ih read => ?_⟩
  · exact oneLine_ascii (@oneLine_ofString "null" (by decide))
  · cases flag
    · exact oneLine_ascii (@oneLine_ofString "false" (by decide))
    · exact oneLine_ascii (@oneLine_ofString "true" (by decide))
  · exact oneLine_ascii (oneLine_intText value)
  · cases value with
    | finite value =>
        refine oneLine_ascii fun point member break_ => ?_
        refine (FloatReads.isWord read).2 point member (.inl ?_)
        rw [isBlank, decide_eq_true_eq, break_]
        decide
    | nan => exact oneLine_ascii (@oneLine_ofString "NaN" (by decide))
    | infinity negative =>
        cases negative
        · exact oneLine_ascii (@oneLine_ofString "Infinity" (by decide))
        · exact oneLine_ascii (@oneLine_ofString "-Infinity" (by decide))
  · exact oneLine_ascii (oneLine_quote text)
  · rw [FloatsRead, itemsFloatsRead_iff] at read
    rw [dumps_arr]
    refine OneLine.append (OneLine.append ?_ ?_) ?_
    · exact oneLine_ascii (oneLine_ofString (by decide))
    · exact oneLine_itemsText item_ fun item member => ih item member (read item member)
    · exact oneLine_ascii (oneLine_ofString (by decide))
  · rw [FloatsRead, fieldsFloatsRead_iff] at read
    rw [dumps_obj]
    refine OneLine.append (OneLine.append ?_ ?_) ?_
    · exact oneLine_ascii (oneLine_ofString (by decide))
    · exact oneLine_fieldsText item_ key fun field member => ih field member (read field member)
    · exact oneLine_ascii (oneLine_ofString (by decide))

end Lines

/-- A line break after a value is read over. -/
theorem loads_dumps_line {floatText : ℚ → Text} {separators : Separators}
    (separates : separators.Reads) {depth : ℕ} {value : Json} (portable : Portable floatText value)
    (shallow : nesting value ≤ depth) :
    loads depth (dumps floatText separators value ++ Text.newline) = some (joined value) := by
  have blank : Delimited Text.newline := @delimited_cons (CodePoint.ofNat 0x0A) (by decide) []
  have cut := tokens_encode separates value portable Text.newline blank
  have built := parse_value depth value [] (by rw [List.length_nil]; omega) []
  have rest : tokens .between Text.newline = some [] := rfl
  rw [rest, Option.map_some] at cut
  rw [deliver, parse] at built
  rw [List.append_nil] at built cut
  rw [loads, dumps, if_neg, cut, Option.bind_some, built]
  intro mark
  rcases List.mem_append.mp (List.mem_of_mem_head? mark) with inside | last
  · exact absurd (ascii_small _ _ inside) (by decide)
  · exact absurd (List.mem_singleton.mp last) (by decide)

/-! ## Files of lines -/

/-- Put a code point before the first line, or before what has no break. -/
def pushPoint (point : CodePoint) : List Text × Text → List Text × Text
  | ([], rest) => ([], point :: rest)
  | (line :: lines, rest) => ((point :: line) :: lines, rest)

/-- The lines of a text with their breaks, and what follows the last break. -/
def breakLines : Text → List Text × Text
  | [] => ([], [])
  | point :: text =>
    if point.val = 0x0A then ([point] :: (breakLines text).1, (breakLines text).2)
    else pushPoint point (breakLines text)

theorem breakLines_of_oneLine {text : Text} (single : OneLine text) : breakLines text = ([], text) := by
  induction text with
  | nil => rfl
  | cons point text ih =>
    have split := List.forall_mem_cons.mp single
    unfold breakLines
    rw [if_neg split.1, ih split.2]
    rfl

theorem breakLines_line {text : Text} (single : OneLine text) (rest : Text) :
    breakLines (text ++ Text.newline ++ rest) =
      ((text ++ Text.newline) :: (breakLines rest).1, (breakLines rest).2) := by
  induction text with
  | nil => rfl
  | cons point text ih =>
    have split := List.forall_mem_cons.mp single
    rw [List.cons_append, List.cons_append, breakLines, if_neg split.1, ih split.2]
    rfl

/-- Lines that are written one after the other are found again, with what
follows them. -/
theorem breakLines_flatten {texts : List Text} (single : ∀ text ∈ texts, OneLine text) {rest : Text}
    (tail : OneLine rest) :
    breakLines ((texts.map fun text => text ++ Text.newline).flatten ++ rest) =
      (texts.map fun text => text ++ Text.newline, rest) := by
  induction texts with
  | nil => exact breakLines_of_oneLine tail
  | cons text texts ih =>
    have split := List.forall_mem_cons.mp single
    rw [List.map_cons, List.flatten_cons, List.append_assoc, breakLines_line split.1, ih split.2]

/-- A line that is not complete has no break. -/
theorem oneLine_of_unfinished {text torn : Text} (single : OneLine text)
    (beginning : torn <+: text ++ Text.newline) (unfinished : torn ≠ text ++ Text.newline) :
    OneLine torn := by
  rcases List.prefix_concat_iff.mp beginning with whole | inside
  · exact absurd whole unfinished
  · exact fun point member => single point (inside.subset member)

end Json

end Library
