import Mathlib.Data.List.Basic
import Mathlib.Tactic.Ring
import Mathlib.Tactic.Linarith

/-!
# Fixed-width big- and little-endian byte strings

`beBytes w n` is the low `w` bytes of `n`, most significant byte first, and
`beNat` reads a byte string back. Within the width the two are inverse to each
other; the little-endian forms are their reversals. `slice` and `byteAt` are
the subscripts a decoder uses after it has checked the length.
-/

namespace Endian

/-- The low `w` bytes of `n`, most significant first. -/
def beBytes : Nat → Nat → List UInt8
  | 0, _ => []
  | w + 1, n => UInt8.ofNat (n / 256 ^ w) :: beBytes w n

/-- The number a byte string spells, most significant byte first. -/
def beNat : List UInt8 → Nat
  | [] => 0
  | b :: bs => b.toNat * 256 ^ bs.length + beNat bs

@[simp] theorem beBytes_length : ∀ w n, (beBytes w n).length = w
  | 0, _ => rfl
  | w + 1, n => by rw [beBytes, List.length_cons, beBytes_length w n]

theorem beNat_lt : ∀ bs : List UInt8, beNat bs < 256 ^ bs.length
  | [] => by simp [beNat]
  | b :: bs => by
    have ih := beNat_lt bs
    have hb : b.toNat + 1 ≤ 256 := b.toNat_lt
    have hm : (b.toNat + 1) * 256 ^ bs.length ≤ 256 * 256 ^ bs.length := Nat.mul_le_mul_right _ hb
    rw [beNat, List.length_cons, Nat.pow_succ, Nat.mul_comm (256 ^ bs.length)]
    rw [Nat.add_mul, Nat.one_mul] at hm
    omega

theorem beNat_beBytes : ∀ w n, beNat (beBytes w n) = n % 256 ^ w
  | 0, n => by simp [beBytes, beNat, Nat.mod_one]
  | w + 1, n => by
    have hm : n % 256 ^ (w + 1) = n % 256 ^ w + 256 ^ w * (n / 256 ^ w % 256) := by
      rw [pow_succ 256 w, Nat.mod_mul]
    rw [beBytes, beNat, beBytes_length, beNat_beBytes w n, UInt8.toNat_ofNat', hm, Nat.add_comm, Nat.mul_comm]

theorem beNat_beBytes_of_lt {w n : Nat} (h : n < 256 ^ w) : beNat (beBytes w n) = n := by
  rw [beNat_beBytes, Nat.mod_eq_of_lt h]

theorem beBytes_add_mul : ∀ w n k, beBytes w (k * 256 ^ w + n) = beBytes w n
  | 0, _, _ => rfl
  | w + 1, n, k => by
    have hpos : 0 < 256 ^ w := Nat.pow_pos (by decide)
    have hk : k * 256 ^ (w + 1) = (k * 256) * 256 ^ w := by rw [Nat.pow_succ]; ring
    rw [beBytes, beBytes, hk, beBytes_add_mul w n (k * 256)]
    congr 1
    rw [Nat.add_comm, Nat.add_mul_div_right _ _ hpos]
    apply UInt8.toNat_inj.mp
    simp

theorem beBytes_beNat : ∀ bs : List UInt8, beBytes bs.length (beNat bs) = bs
  | [] => rfl
  | b :: bs => by
    have hpos : 0 < 256 ^ bs.length := Nat.pow_pos (by decide)
    rw [List.length_cons, beBytes, beNat, beBytes_add_mul, beBytes_beNat bs]
    congr 1
    rw [Nat.add_comm, Nat.add_mul_div_right _ _ hpos, Nat.div_eq_of_lt (beNat_lt bs), Nat.zero_add]
    exact UInt8.ofNat_toNat

/-- The low `w` bytes of `n`, least significant first. -/
def leBytes (w n : Nat) : List UInt8 := (beBytes w n).reverse

/-- The number a byte string spells, least significant byte first. -/
def leNat (bs : List UInt8) : Nat := beNat bs.reverse

@[simp] theorem leBytes_length (w n : Nat) : (leBytes w n).length = w := by
  rw [leBytes, List.length_reverse, beBytes_length]

theorem leNat_leBytes_of_lt {w n : Nat} (h : n < 256 ^ w) : leNat (leBytes w n) = n := by
  rw [leNat, leBytes, List.reverse_reverse, beNat_beBytes_of_lt h]

/-! ## Subscripts -/

def slice (bytes : List UInt8) (start stop : Nat) : List UInt8 := (bytes.drop start).take (stop - start)

def byteAt (bytes : List UInt8) (i : Nat) : UInt8 := bytes.getD i 0

theorem slice_append_skip {xs ys : List UInt8} {a b : Nat} (h : xs.length ≤ a) :
    slice (xs ++ ys) a b = slice ys (a - xs.length) (b - xs.length) := by
  rw [slice, slice, List.drop_append, List.drop_eq_nil_of_le h, List.nil_append]
  congr 1
  omega

theorem slice_append_take {xs ys : List UInt8} {b : Nat} (h : xs.length = b) : slice (xs ++ ys) 0 b = xs := by
  rw [slice, List.drop_zero, Nat.sub_zero, List.take_left' h]

theorem byteAt_append_skip {xs ys : List UInt8} {i : Nat} (h : xs.length ≤ i) :
    byteAt (xs ++ ys) i = byteAt ys (i - xs.length) := by
  rw [byteAt, byteAt, List.getD_eq_getElem?_getD, List.getD_eq_getElem?_getD, List.getElem?_append_right h]

theorem byteAt_append_left {xs ys : List UInt8} {i : Nat} (h : i < xs.length) :
    byteAt (xs ++ ys) i = byteAt xs i := by
  rw [byteAt, byteAt, List.getD_eq_getElem?_getD, List.getD_eq_getElem?_getD, List.getElem?_append_left h]

theorem slice_append_slice (bytes : List UInt8) {a b c : Nat} (hab : a ≤ b) (hbc : b ≤ c) :
    slice bytes a b ++ slice bytes b c = slice bytes a c := by
  rw [slice, slice, slice, show bytes.drop b = (bytes.drop a).drop (b - a) by rw [List.drop_drop]; congr 1; omega,
    ← List.take_add]
  congr 1
  omega

theorem slice_append_drop (bytes : List UInt8) {a b : Nat} (h : a ≤ b) :
    slice bytes a b ++ bytes.drop b = bytes.drop a := by
  rw [slice, show bytes.drop b = (bytes.drop a).drop (b - a) by rw [List.drop_drop]; congr 1; omega,
    List.take_append_drop]

theorem slice_length {bytes : List UInt8} {a b : Nat} (h : b ≤ bytes.length) : (slice bytes a b).length = b - a := by
  rw [slice, List.length_take, List.length_drop]
  omega

theorem slice_succ {bytes : List UInt8} {i : Nat} (h : i < bytes.length) : slice bytes i (i + 1) = [byteAt bytes i] := by
  rw [slice, Nat.add_sub_cancel_left, byteAt, List.getD_eq_getElem?_getD, List.getElem?_eq_getElem h, Option.getD_some,
    List.drop_eq_getElem_cons h, List.take_succ_cons, List.take_zero]

theorem slice_pair {bytes : List UInt8} {i : Nat} (h : i + 2 ≤ bytes.length) :
    slice bytes i (i + 2) = [byteAt bytes i, byteAt bytes (i + 1)] := by
  have hsplit : slice bytes i (i + 1) ++ slice bytes (i + 1) (i + 1 + 1) = slice bytes i (i + 2) :=
    slice_append_slice bytes (Nat.le_succ _) (Nat.le_succ _)
  rw [← hsplit, slice_succ (by omega), slice_succ (by omega)]
  rfl

theorem slice_zero (bytes : List UInt8) (n : Nat) : slice bytes 0 n = bytes.take n := by
  rw [slice, List.drop_zero, Nat.sub_zero]

end Endian
