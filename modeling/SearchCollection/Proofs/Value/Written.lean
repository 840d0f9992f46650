import SearchCollection.Proofs.Json.Reordered
import SearchCollection.Value.Json

/-! # Values written without a tree

A value can be written as it is, or turned into a tree first. Both give the same text
(`Value.serialize_eq_compact`): the tree has null where the writer finds a double that is not
finite, and the text of an instant where it finds the instant. The members of objects come in the
order in which the value has them. If that is the order of the keys, then the tree is in key order
as well (`Value.sorted_toJson`).
-/

namespace SearchCollection

/-- A double that is not finite has no digits. -/
theorem Json.writeFloat_of_not_finite {x : Binary64} (notFinite : ¬x.isFinite) :
    Json.writeFloat x = "null" := by
  have large : Binary64.infinityBits ≤ x.magnitude := by
    unfold Binary64.isFinite at notFinite
    simpa using notFinite
  unfold Json.writeFloat FloatLayout.write
  rcases Nat.eq_or_lt_of_le large with infinite | beyond
  · have isInfinite : x.isInfinite := decide_eq_true infinite.symm
    have isNumber : ¬x.isNaN := by
      unfold Binary64.isNaN
      simp [infinite]
    rw [if_neg isNumber, if_pos isInfinite]
    exact ite_self "null"
  · have isNaN : x.isNaN := decide_eq_true beyond
    rw [if_pos isNaN]
    rfl

namespace Value

mutual

/-- The writer of values and the writer of trees agree. -/
theorem serialize_eq_compact : ∀ value : Value, value.serialize = value.toJson.compact
  | .null | .bool _ | .int _ | .text _ | .instant _ => rfl
  | .float value => by
      rw [serialize, toJson]
      by_cases finite : value.isFinite
      · rw [if_pos finite]
        rfl
      · rw [if_neg finite, Json.writeFloat_of_not_finite finite]
        rfl
  | .array items => by
      rw [serialize, toJson, Json.compact, serializeItems_eq_compactItems items]
  | .object members => by
      rw [serialize, toJson, Json.compact, serializeMembers_eq_compactMembers members]

theorem serializeItems_eq_compactItems : ∀ items : List Value,
    serializeItems items = Json.compactItems (itemsToJson items)
  | [] => rfl
  | item :: rest => by
      rw [serializeItems, itemsToJson, Json.compactItems, serialize_eq_compact item,
        serializeItems_eq_compactItems rest]

theorem serializeMembers_eq_compactMembers : ∀ members : List (String × Value),
    serializeMembers members = Json.compactMembers (membersToJson members)
  | [] => rfl
  | (key, value) :: rest => by
      rw [serializeMembers, membersToJson, Json.compactMembers, serialize_eq_compact value,
        serializeMembers_eq_compactMembers rest]

end

/-! ## Key order -/

/-- Every object in the value has its members in key order. -/
inductive KeysOrdered : Value → Prop where
  | null : KeysOrdered .null
  | bool (value : Bool) : KeysOrdered (.bool value)
  | int (value : Int64) : KeysOrdered (.int value)
  | float (value : Binary64) : KeysOrdered (.float value)
  | text (value : String) : KeysOrdered (.text value)
  | instant (value : Instant) : KeysOrdered (.instant value)
  | array {items : List Value} (each : ∀ item ∈ items, KeysOrdered item) :
      KeysOrdered (.array items)
  | object {members : List (String × Value)} (ordered : Entries.Ordered members)
      (each : ∀ member ∈ members, KeysOrdered member.2) : KeysOrdered (.object members)

theorem membersToJson_eq_map (members : List (String × Value)) :
    membersToJson members = members.map fun member => (member.1, member.2.toJson) := by
  induction members with
  | nil => rfl
  | cons member rest ih => rw [membersToJson, ih, List.map_cons]

/-- The tree of a value in key order is in key order. -/
theorem sorted_toJson {value : Value} (ordered : value.KeysOrdered) :
    value.toJson.sorted = value.toJson := by
  induction ordered with
  | null | bool _ | int _ | text _ | instant _ => rfl
  | float value =>
      rw [toJson]
      split <;> rfl
  | @array items each ih =>
      rw [toJson, itemsToJson_eq_map, Json.sorted, Json.sortedItems_eq_map, List.map_map]
      exact congrArg Json.array (List.map_congr_left ih)
  | @object members ordered each ih =>
      have same : (members.map fun member => (member.1, member.2.toJson)).map
          (fun member => (member.1, member.2.sorted)) =
          members.map fun member => (member.1, member.2.toJson) := by
        rw [List.map_map]
        exact List.map_congr_left fun member among => congrArg (Prod.mk member.1) (ih member among)
      have keys : Entries.Ordered (members.map fun member => (member.1, member.2.toJson)) :=
        List.pairwise_map.mpr ordered
      rw [toJson, membersToJson_eq_map, Json.sorted, Json.sortedMembers_eq_ofList, same,
        Entries.ofList_of_ordered keys]

/-- **Both writers agree.** A value that is written as it is has the text of its tree. The tree is
in key order if the value is, so that a tree whose members are put in key order has the same
text. -/
theorem writers_agree (value : Value) :
    value.serialize = value.toJson.compact ∧
      (value.KeysOrdered → value.toJson.sorted = value.toJson ∧
        value.serialize = value.toJson.sorted.compact) := by
  refine ⟨serialize_eq_compact value, fun ordered => ?_⟩
  have sorted := sorted_toJson ordered
  rw [sorted]
  exact ⟨rfl, serialize_eq_compact value⟩

/-- What a sensor tells in a leap second. -/
def sensorValue : Value :=
  .object [("at", .instant ⟨1483228799, 1500000000, by decide, by decide, by decide⟩),
    ("level", .float (.infinity true)), ("parts", .array [.null, .object []])]

/-- What a sensor tells in a leap second is written alike by both writers. -/
theorem writers_agree_sensor :
    sensorValue.KeysOrdered ∧
    sensorValue.serialize =
      "\x7b\"at\":\"2016-12-31T23:59:60Z\",\"level\":null,\"parts\":[null,\x7b\x7d]\x7d" ∧
    sensorValue.serialize = sensorValue.toJson.sorted.compact := by
  have parts : ∀ item ∈ [null, object []], item.KeysOrdered :=
    List.forall_mem_cons.mpr ⟨.null, List.forall_mem_singleton.mpr (.object .nil nofun)⟩
  have ordered : sensorValue.KeysOrdered := by
    refine .object (Entries.ordered_iff.mpr (by decide)) ?_
    simp only [List.forall_mem_cons]
    exact ⟨.instant _, .float _, .array parts, nofun⟩
  exact ⟨ordered, by decide +kernel, ((writers_agree sensorValue).2 ordered).2⟩

end Value

end SearchCollection
