import WhyUsb.Lib.Endian

/-!
# Packed records

A record is its fields in their order, each of its own width and little-endian,
with nothing between them. Reading at an offset gives the field that starts
there, if the one who reads has the same fields in mind.
-/

namespace Packed

open Endian

/-- Fields with their widths, one behind the other. -/
def pack : List (Nat × Nat) → List UInt8
  | [] => []
  | (width, value) :: fields => leBytes width value ++ pack fields

/-- The field of this width at this offset. -/
def field (bytes : List UInt8) (offset width : Nat) : Nat := leNat (slice bytes offset (offset + width))

theorem pack_length : ∀ fields : List (Nat × Nat), (pack fields).length = (fields.map Prod.fst).sum
  | [] => rfl
  | (width, value) :: fields => by
    rw [pack, List.length_append, leBytes_length, pack_length fields, List.map_cons, List.sum_cons]

section
variable {width value : Nat} {fields : List (Nat × Nat)}

theorem field_pack_here (h : value < 256 ^ width) : field (pack ((width, value) :: fields)) 0 width = value := by
  rw [field, pack, Nat.zero_add, slice_append_take (leBytes_length width value), leNat_leBytes_of_lt h]

theorem field_pack_skip {offset width' : Nat} (h : width ≤ offset) :
    field (pack ((width, value) :: fields)) offset width' = field (pack fields) (offset - width) width' := by
  rw [field, field, pack, slice_append_skip (by rw [leBytes_length]; exact h), leBytes_length]
  congr 2
  omega

end

end Packed
