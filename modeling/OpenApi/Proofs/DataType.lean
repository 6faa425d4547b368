import OpenApi.DataType
import OpenApi.Proofs.OrderedMap

/-!
# The records of a data type

A type mentions records at any depth, in arrays and as members of unions.
-/

namespace OpenApi.DataType

/-- The record stands in the type at some depth. -/
inductive Mentions : DataType → RecordId → Prop where
  | record (id : RecordId) : Mentions (.record id) id
  | array {element : DataType} {id : RecordId} (mentions : Mentions element id) :
      Mentions (.array element) id
  | union {field : String} {mapping : List (String × DataType)} {p : String × DataType}
      {id : RecordId} (member : p ∈ mapping) (mentions : Mentions p.2 id) :
      Mentions (.union field mapping) id

theorem Mentions.of_get? {field tag : String} {mapping : OrderedMap String DataType}
    {ty : DataType} {id : RecordId} (listed : OrderedMap.get? mapping tag = some ty)
    (mentions : ty.Mentions id) : (DataType.union field mapping).Mentions id :=
  .union (OrderedMap.mem_of_get? listed) mentions

theorem eq_record_of_same {ty : DataType} {id : RecordId} (h : ty.same (.record id) = true) :
    ty = .record id := by
  cases ty with
  | record id' => rw [DataType.same, beq_iff_eq] at h; rw [h]
  | _ => simp [DataType.same] at h

theorem eq_primitive_of_same {ty : DataType} {kind : Primitive}
    (h : ty.same (.primitive kind) = true) : ty = .primitive kind := by
  cases ty with
  | primitive kind' => rw [DataType.same, beq_iff_eq] at h; rw [h]
  | _ => simp [DataType.same] at h

end OpenApi.DataType
