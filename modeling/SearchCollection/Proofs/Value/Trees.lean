import SearchCollection.Proofs.Cast.Width
import SearchCollection.Proofs.Number.Nearest

/-! # Values and trees, there and back

A tree that is read as a value comes back with one change only: a whole number beyond the signed
64 bits comes back as the double nearest to it (`Value.toJson_ofJson`). A value comes back from its
tree if trees can express it, which they cannot do for an instant or for a double that is not
finite (`Value.ofJson_toJson_iff`).
-/

namespace SearchCollection

namespace JsonNumber

/-- A whole number of 64 bits, with a sign or without one, or a finite double. -/
def InRange : JsonNumber → Prop
  | .integer value => -2 ^ 63 ≤ value ∧ value < 2 ^ 64
  | .float value => value.isFinite

instance : DecidablePred InRange
  | .integer value => inferInstanceAs (Decidable (-2 ^ 63 ≤ value ∧ value < 2 ^ 64))
  | .float value => inferInstanceAs (Decidable (value.isFinite = true))

/-- A whole number beyond the signed 64 bits as the nearest double, any other number as it is. -/
def narrowed : JsonNumber → JsonNumber
  | .integer value =>
      if value ≤ Int64.maxValue.toInt then .integer value else .float (.ofInt value)
  | .float value => .float value

/-- A number is kept exactly when it is no whole number beyond the signed 64 bits. -/
theorem narrowed_eq_self_iff {number : JsonNumber} :
    number.narrowed = number ↔ ∀ value, number = .integer value → value ≤ Int64.maxValue.toInt := by
  cases number with
  | float value => exact iff_of_true rfl (fun _ => JsonNumber.noConfusion)
  | integer value =>
      rw [narrowed]
      by_cases fits : value ≤ Int64.maxValue.toInt
      · rw [if_pos fits]
        exact iff_of_true rfl (fun other same => (integer.inj same) ▸ fits)
      · rw [if_neg fits]
        exact iff_of_false JsonNumber.noConfusion (fun each => fits (each value rfl))

end JsonNumber

namespace Json

mutual

/-- The numbers in a tree, in order. -/
def numbers : Json → List JsonNumber
  | .number value => [value]
  | .null | .bool _ | .string _ => []
  | .array items => itemNumbers items
  | .object members => memberNumbers members

def itemNumbers : List Json → List JsonNumber
  | [] => []
  | item :: rest => numbers item ++ itemNumbers rest

def memberNumbers : List (String × Json) → List JsonNumber
  | [] => []
  | (_, value) :: rest => numbers value ++ memberNumbers rest

end

section MapNumbers

variable (change : JsonNumber → JsonNumber)

mutual

/-- The tree with each of its numbers changed, and nothing else. -/
def mapNumbers : Json → Json
  | .null => .null
  | .bool value => .bool value
  | .number value => .number (change value)
  | .string value => .string value
  | .array items => .array (mapItems items)
  | .object members => .object (mapMembers members)

def mapItems : List Json → List Json
  | [] => []
  | item :: rest => mapNumbers item :: mapItems rest

def mapMembers : List (String × Json) → List (String × Json)
  | [] => []
  | (key, value) :: rest => (key, mapNumbers value) :: mapMembers rest

end

mutual

/-- A tree is not changed if none of its numbers is. -/
theorem mapNumbers_eq_self_iff : ∀ json : Json,
    json.mapNumbers change = json ↔ ∀ number ∈ json.numbers, change number = number
  | .null | .bool _ | .string _ => iff_of_true rfl (fun _ member => (List.not_mem_nil member).elim)
  | .number value => by simp only [mapNumbers, numbers, number.injEq, List.forall_mem_singleton]
  | .array items => by
      simp only [mapNumbers, numbers, array.injEq, mapItems_eq_self_iff items]
  | .object members => by
      simp only [mapNumbers, numbers, object.injEq, mapMembers_eq_self_iff members]

theorem mapItems_eq_self_iff : ∀ items : List Json,
    mapItems change items = items ↔ ∀ number ∈ itemNumbers items, change number = number
  | [] => iff_of_true rfl (fun _ member => (List.not_mem_nil member).elim)
  | item :: rest => by
      rw [mapItems, itemNumbers, List.cons.injEq, List.forall_mem_append,
        mapNumbers_eq_self_iff item, mapItems_eq_self_iff rest]

theorem mapMembers_eq_self_iff : ∀ members : List (String × Json),
    mapMembers change members = members ↔ ∀ number ∈ memberNumbers members, change number = number
  | [] => iff_of_true rfl (fun _ member => (List.not_mem_nil member).elim)
  | (key, value) :: rest => by
      rw [mapMembers, memberNumbers, List.cons.injEq, List.forall_mem_append, Prod.mk.injEq,
        mapNumbers_eq_self_iff value, mapMembers_eq_self_iff rest]
      simp only [true_and]

end

end MapNumbers

/-- The numbers of the tree are those that a text can give. -/
def InRange (json : Json) : Prop :=
  ∀ number ∈ json.numbers, number.InRange

instance (json : Json) : Decidable json.InRange :=
  inferInstanceAs (Decidable (∀ number ∈ json.numbers, number.InRange))

end Json

namespace Value

/-! ## From a tree to a value and back -/

/-- A number in range returns, narrowed to what a value can hold. -/
theorem toJson_ofNumber {number : JsonNumber} (inRange : number.InRange) :
    (ofNumber number).toJson = .number number.narrowed := by
  cases number with
  | float value =>
      have finite : value.isFinite := inRange
      rw [ofNumber, toJson, if_pos finite, JsonNumber.narrowed]
  | integer value =>
      obtain ⟨low, high⟩ := inRange
      rw [ofNumber, JsonNumber.narrowed, toInt_minValue, toInt_maxValue]
      by_cases fits : value ≤ 2 ^ 63 - 1
      · rw [if_pos ⟨low, fits⟩, if_pos fits, toJson, Int64.toInt_ofInt_of_le low (by omega)]
      · have size : value.natAbs < twoTo 64 := by
          rw [show twoTo 64 = 2 ^ 64 from rfl]
          omega
        have finite := (Binary64.isNearest_ofInt size (by decide)).finite
        rw [if_neg (fun both => fits both.2), if_neg fits, toJson, if_pos finite]

mutual

/-- A tree returns with its numbers narrowed. -/
theorem toJson_ofJson : ∀ json : Json, json.InRange →
    (ofJson json).toJson = json.mapNumbers JsonNumber.narrowed
  | .null, _ | .bool _, _ | .string _, _ => rfl
  | .number value, inRange => toJson_ofNumber (inRange value List.mem_cons_self)
  | .array items, inRange => by
      rw [ofJson, toJson, Json.mapNumbers, itemsToJson_itemsOfJson items inRange]
  | .object members, inRange => by
      rw [ofJson, toJson, Json.mapNumbers, membersToJson_membersOfJson members inRange]

theorem itemsToJson_itemsOfJson : ∀ items : List Json,
    (∀ number ∈ Json.itemNumbers items, number.InRange) →
    itemsToJson (itemsOfJson items) = Json.mapItems JsonNumber.narrowed items
  | [], _ => rfl
  | item :: rest, inRange => by
      obtain ⟨head, tail⟩ := List.forall_mem_append.mp inRange
      rw [itemsOfJson, itemsToJson, Json.mapItems, toJson_ofJson item head,
        itemsToJson_itemsOfJson rest tail]

theorem membersToJson_membersOfJson : ∀ members : List (String × Json),
    (∀ number ∈ Json.memberNumbers members, number.InRange) →
    membersToJson (membersOfJson members) = Json.mapMembers JsonNumber.narrowed members
  | [], _ => rfl
  | (key, value) :: rest, inRange => by
      obtain ⟨head, tail⟩ := List.forall_mem_append.mp inRange
      rw [membersOfJson, membersToJson, Json.mapMembers, toJson_ofJson value head,
        membersToJson_membersOfJson rest tail]

end

/-! ## From a value to its tree and back -/

/-- The value is made of what trees can express: it has no instants, and its doubles are finite. -/
inductive Expressible : Value → Prop where
  | null : Expressible .null
  | bool (value : Bool) : Expressible (.bool value)
  | int (value : Int64) : Expressible (.int value)
  | float {value : Binary64} (finite : value.isFinite) : Expressible (.float value)
  | text (value : String) : Expressible (.text value)
  | array {items : List Value} (each : ∀ item ∈ items, Expressible item) :
      Expressible (.array items)
  | object {members : List (String × Value)} (each : ∀ member ∈ members, Expressible member.2) :
      Expressible (.object members)

/-- A list is expressible exactly when all its items are. -/
theorem expressible_array_iff {items : List Value} :
    Expressible (.array items) ↔ ∀ item ∈ items, item.Expressible :=
  ⟨fun | .array each => each, .array⟩

/-- An object is expressible exactly when all its members are. -/
theorem expressible_object_iff {members : List (String × Value)} :
    Expressible (.object members) ↔ ∀ member ∈ members, member.2.Expressible :=
  ⟨fun | .object each => each, .object⟩

mutual

/-- A value comes back from its tree exactly if trees can express it. -/
theorem ofJson_toJson_iff : ∀ value : Value, ofJson value.toJson = value ↔ value.Expressible
  | .null => iff_of_true rfl .null
  | .bool value => iff_of_true rfl (.bool value)
  | .text value => iff_of_true rfl (.text value)
  | .int value => by
      refine iff_of_true ?_ (.int value)
      rw [toJson, ofJson, ofNumber, if_pos, Int64.ofInt_toInt]
      rw [toInt_minValue, toInt_maxValue]
      exact ⟨value.le_toInt, Int.le_sub_one_of_lt value.toInt_lt⟩
  | .float value => by
      rw [toJson]
      by_cases finite : value.isFinite
      · rw [if_pos finite]
        exact iff_of_true rfl (.float finite)
      · rw [if_neg finite]
        refine iff_of_false Value.noConfusion ?_
        rintro (_ | _ | _ | number)
        exact finite number
  | .instant value => iff_of_false Value.noConfusion nofun
  | .array items => by
      rw [toJson, ofJson, array.injEq, expressible_array_iff, itemsOfJson_itemsToJson_iff items]
  | .object members => by
      rw [toJson, ofJson, object.injEq, expressible_object_iff,
        membersOfJson_membersToJson_iff members]

theorem itemsOfJson_itemsToJson_iff : ∀ items : List Value,
    itemsOfJson (itemsToJson items) = items ↔ ∀ item ∈ items, item.Expressible
  | [] => iff_of_true rfl (fun _ member => (List.not_mem_nil member).elim)
  | item :: rest => by
      rw [itemsToJson, itemsOfJson, List.cons.injEq, List.forall_mem_cons, ofJson_toJson_iff item,
        itemsOfJson_itemsToJson_iff rest]

theorem membersOfJson_membersToJson_iff : ∀ members : List (String × Value),
    membersOfJson (membersToJson members) = members ↔ ∀ member ∈ members, member.2.Expressible
  | [] => iff_of_true rfl (fun _ member => (List.not_mem_nil member).elim)
  | (key, value) :: rest => by
      rw [membersToJson, membersOfJson, List.cons.injEq, List.forall_mem_cons, Prod.mk.injEq,
        ofJson_toJson_iff value, membersOfJson_membersToJson_iff rest]
      simp only [true_and]

end

/-- **Trees and values, there and back.** A tree that is read as a value comes back with its numbers
narrowed, and unchanged exactly if it has no whole number beyond the signed 64 bits; such a number
is replaced by the double nearest to it. A value comes back from its tree exactly if it has no
instant and no double that is not finite. -/
theorem trees_return :
    (∀ json : Json, json.InRange →
      (ofJson json).toJson = json.mapNumbers JsonNumber.narrowed ∧
      ((ofJson json).toJson = json ↔
        ∀ value, .integer value ∈ json.numbers → value ≤ Int64.maxValue.toInt)) ∧
    (∀ value : Int, Int64.maxValue.toInt < value → value < 2 ^ 64 →
      (JsonNumber.integer value).narrowed = .float (.ofInt value) ∧
      (Binary64.ofInt value).IsNearest value) ∧
    ∀ value : Value, ofJson value.toJson = value ↔ value.Expressible := by
  refine ⟨?_, ?_, ofJson_toJson_iff⟩
  · intro json inRange
    have back := toJson_ofJson json inRange
    refine ⟨back, ?_⟩
    rw [back, Json.mapNumbers_eq_self_iff]
    simp only [JsonNumber.narrowed_eq_self_iff]
    constructor
    · intro each value member
      exact each (.integer value) member value rfl
    · rintro each number member value rfl
      exact each value member
  · intro value beyond inRange
    have size : value.natAbs < twoTo 64 := by
      rw [toInt_maxValue] at beyond
      rw [show twoTo 64 = 2 ^ 64 from rfl]
      omega
    refine ⟨?_, Binary64.isNearest_ofInt size (by decide)⟩
    rw [JsonNumber.narrowed, if_neg (by omega)]

/-- The whole numbers at the upper bound of the signed 64 bits, and a zero with a sign. -/
def boundsTree : Json :=
  .object [("above", .array [.number (.integer (2 ^ 63 + 1025)), .null]),
    ("at", .number (.integer (2 ^ 63 - 1))), ("zero", .number (.float (.ofParts true 0)))]

/-- The greatest integer and a zero with its sign return, and a whole number beyond becomes the
nearest double. -/
theorem trees_return_bounds :
    boundsTree.InRange ∧
    (ofJson boundsTree).toJson =
      .object [("above", .array [.number (.float ⟨0x43E0000000000001⟩), .null]),
        ("at", .number (.integer (2 ^ 63 - 1))), ("zero", .number (.float (.ofParts true 0)))] ∧
    (ofJson boundsTree).toJson ≠ boundsTree ∧
    (Binary64.ofInt (2 ^ 63 + 1025)).IsNearest (2 ^ 63 + 1025) ∧
    ofJson (toJson (.array [.int .maxValue, .float (.ofParts true 0)])) =
      .array [.int .maxValue, .float (.ofParts true 0)] := by
  obtain ⟨trees, nearest, values⟩ := trees_return
  have inRange : boundsTree.InRange := by decide
  have beyond : Int64.maxValue.toInt < 2 ^ 63 + 1025 := by decide
  obtain ⟨back, unchanged⟩ := trees boundsTree inRange
  obtain ⟨narrowed, closest⟩ := nearest (2 ^ 63 + 1025) beyond (by decide)
  refine ⟨inRange, ?_, ?_, closest, ?_⟩
  · have bits : Binary64.ofInt (2 ^ 63 + 1025) = ⟨0x43E0000000000001⟩ := by decide +kernel
    rw [back, boundsTree, Json.mapNumbers, Json.mapMembers]
    simp only [Json.mapNumbers, Json.mapMembers, Json.mapItems, narrowed, bits]
    rfl
  · rw [Ne, unchanged]
    intro each
    exact Int.not_le.mpr beyond (each _ List.mem_cons_self)
  · rw [values]
    exact .array (List.forall_mem_cons.mpr ⟨.int _, List.forall_mem_singleton.mpr (.float rfl)⟩)

end Value

end SearchCollection
