import Formwork.Form.Snapshot
import Formwork.Proofs.JsonRoundTrip
import Formwork.Proofs.MapLookup

/-!
# Decoders undo encoders

Every part of a saved form is decoded from the document that it is encoded as,
whatever its values are. A record is written with each of its members once, so
no member is refused as repeated and each is found under its name. The laws go
from parts to wholes: texts, lists and maps, the description of a field, the
table, the snapshot, and what is stored for a displayed form.
-/

namespace Formwork

namespace Json

/-! ## Parts of records -/

/-- Results of one list after another are the results of each. -/
theorem mapM_encoded {α β : Type} {encode : α → β} {decode : β → Except Fault α} (values : List α)
    (undone : ∀ value ∈ values, decode (encode value) = .ok value) :
    (values.map encode).mapM decode = .ok values := by
  induction values with
  | nil => rfl
  | cons value rest inductionHypothesis =>
    have first : decode (encode value) = .ok value := undone value List.mem_cons_self
    have later : (rest.map encode).mapM decode = .ok rest :=
      inductionHypothesis fun other member => undone other (List.mem_cons_of_mem _ member)
    simp only [List.map_cons, List.mapM_cons, first, later]
    rfl

/-- A text is read back. -/
@[simp] theorem asText_string (text : String) : asText (.string text) = .ok text := rfl

/-- A truth value is read back. -/
@[simp] theorem asFlag_bool (value : Bool) : asFlag (.bool value) = .ok value := rfl

/-- A text or its absence is read back. -/
@[simp] theorem orNull_ofText? (text : Option String) : orNull asText (ofText? text) = .ok text := by
  cases text <;> rfl

/-- A list is read back when each item is. -/
theorem asList_encoded {α : Type} {encode : α → Json} {decode : Decoder α} (values : List α)
    (undone : ∀ value ∈ values, decode (encode value) = .ok value) :
    asList decode (.array (values.map encode)) = .ok values :=
  mapM_encoded values undone

/-- A list of texts is read back. -/
@[simp] theorem asList_ofTexts (texts : List String) : asList asText (ofTexts texts) = .ok texts :=
  asList_encoded texts fun _ _ => rfl

/-- Pairs of texts are read back. -/
@[simp] theorem asList_ofPairs (pairs : List (String × String)) :
    asList asTextPair (ofPairs pairs) = .ok pairs :=
  asList_encoded pairs fun _ _ => rfl

/-- A map is read back when each value is. Its keys ascend, so collecting the
decoded entries restores their places. -/
theorem asMap_ofMap {α : Type} {encode : α → Json} {decode : Decoder α} (map : TextMap α)
    (undone : ∀ value, decode (encode value) = .ok value) :
    asMap decode (ofMap encode map) = .ok map := by
  have entries : (map.entries.map fun entry => (entry.1, encode entry.2)).mapM
      (fun member => (decode member.2).map fun value => (member.1, value)) = .ok map.entries :=
    mapM_encoded map.entries fun entry _ => by simp only [undone]; rfl
  unfold asMap ofMap
  dsimp only
  rw [entries]
  exact congrArg Except.ok (TextMap.ofList_entries map)

/-- A record written with pairwise distinct names gives the members that belong
to it. -/
theorem asRecord_distinct (names : List String) (shortage : Shortage) (members : Entries Json)
    (distinct : (members.map Prod.fst).Nodup) :
    asRecord names shortage (.object members) =
      .ok (members.filter fun member => names.contains member.1) := by
  have once (name : String) : ((members.filter fun member => names.contains member.1).filter
      fun member => member.1 = name).length ≤ 1 := by
    have counted (members : Entries Json) : (members.filter fun member => member.1 = name).length =
        (members.map Prod.fst).count name := by
      rw [List.count, List.countP_map, List.countP_eq_length_filter]
      rfl
    rw [counted]
    exact List.nodup_iff_count.mp (distinct.sublist (List.filter_sublist.map _)) name
  have noneRepeated : names.find? (fun name => decide (1 < ((members.filter fun member =>
      names.contains member.1).filter fun member => member.1 = name).length)) = none :=
    List.find?_eq_none.mpr fun name _ => by simpa using once name
  simp only [asRecord, noneRepeated]

/-- A record written with pairwise distinct names that all belong to it gives
its members as they were written. -/
theorem asRecord_written (names : List String) (shortage : Shortage) (members : Entries Json)
    (known : ∀ member ∈ members, member.1 ∈ names) (distinct : (members.map Prod.fst).Nodup) :
    asRecord names shortage (.object members) = .ok members := by
  have kept : members.filter (fun member => names.contains member.1) = members :=
    List.filter_eq_self.mpr fun member inside => by simpa using known member inside
  rw [asRecord_distinct names shortage members distinct, kept]

/-! ## Documents without numbers -/

/-- A list is without numbers when every item is written without. -/
theorem itemsNumberless_map {α : Type} {encode : α → Json} (values : List α)
    (plain : ∀ value, (encode value).isNumberless = true) :
    itemsNumberless (values.map encode) = true := by
  rw [itemsNumberless_iff]
  intro item member
  obtain ⟨value, -, rfl⟩ := List.mem_map.mp member
  exact plain value

/-- A map is without numbers when every value is written without. -/
theorem ofMap_isNumberless {α : Type} {encode : α → Json} (map : TextMap α)
    (plain : ∀ value, (encode value).isNumberless = true) :
    (ofMap encode map).isNumberless = true := by
  rw [ofMap, isNumberless, membersNumberless_iff]
  intro item member
  obtain ⟨entry, -, rfl⟩ := List.mem_map.mp member
  exact plain entry.2

/-- A text or its absence is no number. -/
@[simp] theorem ofText?_isNumberless (text : Option String) :
    (ofText? text).isNumberless = true := by
  cases text <;> rfl

/-- Texts are no numbers. -/
@[simp] theorem ofTexts_isNumberless (texts : List String) : (ofTexts texts).isNumberless = true :=
  itemsNumberless_map texts fun _ => rfl

/-- Pairs of texts are no numbers. -/
@[simp] theorem ofPairs_isNumberless (pairs : List (String × String)) :
    (ofPairs pairs).isNumberless = true :=
  itemsNumberless_map pairs fun _ => rfl

end Json

/-! ## Fields -/

/-- The kind of a form is read back from its name. -/
@[simp] theorem FormKind.ofJson_toJson (kind : FormKind) : ofJson kind.toJson = .ok kind := by
  cases kind <;> rfl

/-- The way a field is put in is read back from its name. -/
@[simp] theorem InputKind.asName_name (input : InputKind) :
    Json.asName ofName? (.string input.name) = .ok input := by
  cases input <;> rfl

namespace Field

/-- A choice is read back. -/
@[simp] theorem choiceOfJson_toJson (choice : Choice) :
    choiceOfJson (choiceToJson choice) = .ok choice := by
  unfold choiceOfJson choiceToJson
  rw [Json.asRecord_written _ _ _ (by simp) (by simp)]
  rfl

/-- The description of a field is read back, member by member. -/
theorem ofJson_toJson (field : Field) : ofJson field.toJson = .ok field := by
  have kinds : Json.asList FormKind.ofJson (.array (field.showIn.map FormKind.toJson)) =
      .ok field.showIn := Json.asList_encoded _ fun kind _ => kind.ofJson_toJson
  have attributes : Json.asMap Json.asText (Json.ofMap .string field.attributes) =
      .ok field.attributes := Json.asMap_ofMap _ fun _ => rfl
  have choices : Json.asList choiceOfJson (.array (field.choices.map choiceToJson)) =
      .ok field.choices := Json.asList_encoded _ fun choice _ => choiceOfJson_toJson choice
  unfold ofJson toJson
  rw [Json.asRecord_written _ _ _ (by simp) (by simp)]
  simp [Json.defaulted, Json.optional, Entries.get?, bind, Except.bind, pure, Except.pure, kinds,
    attributes, choices]

/-- The description of a field is written without numbers. -/
@[simp] theorem toJson_isNumberless (field : Field) : field.toJson.isNumberless = true := by
  have kinds : Json.itemsNumberless (field.showIn.map FormKind.toJson) = true :=
    Json.itemsNumberless_map _ fun _ => rfl
  have attributes : (Json.ofMap Json.string field.attributes).isNumberless = true :=
    Json.ofMap_isNumberless _ fun _ => rfl
  have choices : Json.itemsNumberless (field.choices.map choiceToJson) = true :=
    Json.itemsNumberless_map _ fun _ => rfl
  unfold toJson
  simp only [Json.isNumberless, Json.membersNumberless, kinds, attributes, choices,
    Json.ofTexts_isNumberless, Json.ofText?_isNumberless, Bool.and_self]

end Field

/-! ## Saved forms -/

/-- The binding of a form to its table is read back. -/
@[simp] theorem Binding.ofJson_toJson (binding : Binding) : ofJson binding.toJson = .ok binding := by
  unfold ofJson toJson
  rw [Json.asRecord_written _ _ _ (by simp) (by simp)]
  simp [Json.required, Json.optional, Entries.get?, bind, Except.bind, pure, Except.pure]

namespace Snapshot

/-- A binding or its absence is read back. A binding is written as an object, so
its text is never that of an absent one. -/
theorem orNull_binding (binding : Option Binding) :
    Json.orNull Binding.ofJson ((binding.map Binding.toJson).getD .null) = .ok binding := by
  cases binding with
  | none => rfl
  | some binding =>
    change (Binding.ofJson binding.toJson).map some = _
    rw [Binding.ofJson_toJson]
    rfl

/-- A snapshot is read back from its document, member by member. -/
theorem ofJson_toJson (snapshot : Snapshot) : ofJson snapshot.toJson = .ok snapshot := by
  have fields : Json.asList Field.ofJson (.array (snapshot.fields.map Field.toJson)) =
      .ok snapshot.fields := Json.asList_encoded _ fun field _ => field.ofJson_toJson
  have rowKeys : Json.asMap (Json.asList Json.asTextPair) (Json.ofMap Json.ofPairs snapshot.rowKeys) =
      .ok snapshot.rowKeys := Json.asMap_ofMap _ Json.asList_ofPairs
  unfold ofJson toJson
  rw [Json.asRecord_written _ _ _ (by simp [memberNames]) (by simp)]
  simp [Json.required, Json.optional, Entries.get?, bind, Except.bind, pure, Except.pure, fields,
    rowKeys, orNull_binding]

/-- A snapshot is written without numbers. -/
theorem toJson_isNumberless (snapshot : Snapshot) : snapshot.toJson.isNumberless = true := by
  have fields : Json.itemsNumberless (snapshot.fields.map Field.toJson) = true :=
    Json.itemsNumberless_map _ Field.toJson_isNumberless
  have rowKeys : (Json.ofMap Json.ofPairs snapshot.rowKeys).isNumberless = true :=
    Json.ofMap_isNumberless _ Json.ofPairs_isNumberless
  have binding : ((snapshot.binding.map Binding.toJson).getD .null).isNumberless = true := by
    cases snapshot.binding with
    | none => rfl
    | some binding => simp [Binding.toJson, Json.isNumberless, Json.membersNumberless]
  unfold toJson
  simp only [Json.isNumberless, Json.membersNumberless, fields, rowKeys, binding,
    Json.ofText?_isNumberless, Bool.and_self]

/-- A snapshot is read back from its text. -/
theorem decode_encode (snapshot : Snapshot) : decode snapshot.encode = .ok snapshot := by
  unfold decode encode
  rw [Json.read_print snapshot.toJson snapshot.toJson_isNumberless]
  exact snapshot.ofJson_toJson

end Snapshot

/-- What is stored for a displayed form is read back. -/
theorem SavedForm.ofJson_toJson (saved : SavedForm) : ofJson saved.toJson = .ok saved := by
  unfold ofJson toJson
  rw [Json.asRecord_written _ _ _ (by simp) (by simp)]
  simp [Json.required, Entries.get?, bind, Except.bind, pure, Except.pure]

/-- What is stored for a snapshot gives that snapshot. -/
theorem SavedForm.snapshot_ofSnapshot (snapshot : Snapshot) (kind : FormKind) :
    (ofSnapshot snapshot kind).snapshot = .ok snapshot :=
  snapshot.decode_encode

end Formwork
