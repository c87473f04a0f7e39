import WhyUsb.Descriptor.Basic

/-!
# Configuration bodies as lists of records

A record begins with its own length. The loop of `decode_from` splits a body
into records and folds `bodyStep` over them (`loop_records`, `loop_ok`), so
that what remains to be said about it concerns single records.
-/

namespace WhyUsb

open Endian

/-! ## Byte strings -/

theorem take_append {xs : List UInt8} {n : Nat} (h : xs.length = n) (ys : List UInt8) :
    take (xs ++ ys) n = .ok (xs, ys) := by
  rw [take, if_neg (by rw [List.length_append]; omega), List.take_left' h, List.drop_left' h]

theorem take_ok {rest xs ys : List UInt8} {n : Nat} (h : take rest n = .ok (xs, ys)) :
    rest = xs ++ ys ∧ xs.length = n := by
  rw [take, ite_error_eq_ok] at h
  obtain ⟨hlen, h⟩ := h
  cases h
  exact ⟨(List.take_append_drop n rest).symm, by rw [List.length_take]; omega⟩

theorem orTooMany_ok {α : Type} {x : Option α} {message : String} {a : α} :
    orTooMany x message = .ok a ↔ x = some a := by
  cases x <;> simp [orTooMany]

def IsRecord (bytes : List UInt8) : Prop := 2 ≤ bytes.length ∧ (byteAt bytes 0).toNat = bytes.length

theorem validateExtraDescriptor_ok {bytes : List UInt8} : validateExtraDescriptor bytes = .ok () ↔ IsRecord bytes := by
  rw [validateExtraDescriptor, ite_error_eq_ok, IsRecord]
  constructor
  · rintro ⟨h, -⟩
    omega
  · intro h
    exact ⟨by omega, rfl⟩

theorem descriptorHeader_record {r : List UInt8} (h : IsRecord r) (rest : List UInt8) :
    descriptorHeader (r ++ rest) = .ok (r.length, byteAt r 1) := by
  obtain ⟨hlen, hfirst⟩ := h
  rw [descriptorHeader, if_neg (by rw [List.length_append]; omega), byteAt_append_left (by omega),
    byteAt_append_left (by omega)]
  dsimp only
  rw [hfirst, if_neg (by rw [List.length_append]; omega)]

theorem descriptorHeader_ok {rest : List UInt8} {n : Nat} {type : UInt8}
    (h : descriptorHeader rest = .ok (n, type)) :
    ∃ r rest', rest = r ++ rest' ∧ IsRecord r ∧ r.length = n ∧ byteAt r 1 = type := by
  rw [descriptorHeader, ite_error_eq_ok] at h
  obtain ⟨hmin, h⟩ := h
  dsimp only at h
  rw [ite_error_eq_ok] at h
  obtain ⟨hlen, h⟩ := h
  cases h
  have htake : (rest.take (byteAt rest 0).toNat).length = (byteAt rest 0).toNat := by
    rw [List.length_take]
    omega
  have hsplit := (List.take_append_drop (byteAt rest 0).toNat rest)
  have hfirst : byteAt (rest.take (byteAt rest 0).toNat) 0 = byteAt rest 0 := by
    conv_rhs => rw [← hsplit, byteAt_append_left (by omega)]
  have hsecond : byteAt (rest.take (byteAt rest 0).toNat) 1 = byteAt rest 1 := by
    conv_rhs => rw [← hsplit, byteAt_append_left (by omega)]
  exact ⟨_, _, hsplit.symm, ⟨by omega, by rw [hfirst, htake]⟩, htake, hsecond⟩

/-! ## Fixed records -/

theorem u16Le_pair (n : UInt16) : ∃ lo hi, u16Le n = [lo, hi] ∧ UInt16.ofNat (leNat [lo, hi]) = n := by
  have h : u16Le n = [(u16Le n)[0], (u16Le n)[1]] := by
    apply List.ext_getElem (by simp)
    intro i h₁ h₂
    have hi : i = 0 ∨ i = 1 := by simp at h₂; omega
    rcases hi with rfl | rfl <;> rfl
  exact ⟨_, _, h, by rw [← h, ofNat_leNat_u16Le]⟩

@[simp] theorem UsbDeviceDescriptor.toUsbBytes_length (d : UsbDeviceDescriptor) (n : UInt8) :
    (d.toUsbBytes n).length = len := by
  simp [toUsbBytes, len]

@[simp] theorem UsbConfigurationDescriptor.toUsbBytes_length (d : UsbConfigurationDescriptor) (t : UInt16)
    (n : UInt8) : (d.toUsbBytes t n).length = len := by
  simp [toUsbBytes, len]

@[simp] theorem UsbInterfaceDescriptor.toUsbBytes_length (d : UsbInterfaceDescriptor) (n : UInt8) :
    (d.toUsbBytes n).length = len := rfl

@[simp] theorem UsbEndpointDescriptor.toUsbBytes_length (d : UsbEndpointDescriptor) : d.toUsbBytes.length = len := by
  simp [toUsbBytes, len]

theorem UsbDeviceDescriptor.fromUsbBytes_toUsbBytes (d : UsbDeviceDescriptor) (n : UInt8) :
    fromUsbBytes (d.toUsbBytes n) = .ok (d, n) := by
  obtain ⟨v₀, v₁, hv, hv'⟩ := u16Le_pair d.usbVersion
  obtain ⟨i₀, i₁, hi, hi'⟩ := u16Le_pair d.vendorId
  obtain ⟨p₀, p₁, hp, hp'⟩ := u16Le_pair d.productId
  obtain ⟨r₀, r₁, hr, hr'⟩ := u16Le_pair d.deviceVersion
  simp [fromUsbBytes, toUsbBytes, len, hv, hi, hp, hr, byteAt, readU16Le, slice, hv', hi', hp', hr']

theorem UsbConfigurationDescriptor.fromUsbBytes_toUsbBytes (d : UsbConfigurationDescriptor) (t : UInt16)
    (n : UInt8) : fromUsbBytes (d.toUsbBytes t n) = .ok (d, t, n) := by
  obtain ⟨t₀, t₁, ht, ht'⟩ := u16Le_pair t
  simp [fromUsbBytes, toUsbBytes, len, ht, byteAt, readU16Le, slice, ht']

theorem UsbInterfaceDescriptor.fromUsbBytes_toUsbBytes (d : UsbInterfaceDescriptor) (n : UInt8) :
    fromUsbBytes (d.toUsbBytes n) = .ok (d, n) := by
  simp [fromUsbBytes, toUsbBytes, len, byteAt]

theorem UsbEndpointDescriptor.fromUsbBytes_toUsbBytes (d : UsbEndpointDescriptor) :
    fromUsbBytes d.toUsbBytes = .ok d := by
  obtain ⟨m₀, m₁, hm, hm'⟩ := u16Le_pair d.maxPacketSize
  simp [fromUsbBytes, toUsbBytes, len, hm, byteAt, readU16Le, slice, hm']

/-! ## The loop -/

namespace Body

/-- `bodyStep` with the type read from the record itself. -/
def step (st : Body) (r : List UInt8) : DecodeM Body := st.bodyStep (byteAt r 1) r

theorem loop_nil (fuel : Nat) (st : Body) : loop fuel [] st = .ok st := by
  cases fuel <;> rfl

theorem loop_succ {rest : List UInt8} (h : rest ≠ []) (fuel : Nat) (st : Body) :
    loop (fuel + 1) rest st = (do
      let (descriptorLen, descriptorType) ← descriptorHeader rest
      let (bytes, rest) ← take rest descriptorLen
      let st ← st.bodyStep descriptorType bytes
      loop fuel rest st) := by
  cases rest with
  | nil => exact absurd rfl h
  | cons b rest => rfl

/-- On a string of records the loop is a fold. -/
theorem loop_records : ∀ {rs : List (List UInt8)} {fuel : Nat} {st : Body}, (∀ r ∈ rs, IsRecord r) →
    rs.flatten.length ≤ fuel → loop fuel rs.flatten st = rs.foldlM step st
  | [], fuel, st, _, _ => loop_nil fuel st
  | r :: rs, fuel, st, h, hf => by
    have hr := h r List.mem_cons_self
    have hlen := hr.1
    rw [List.flatten_cons, List.length_append] at hf
    obtain ⟨fuel, rfl⟩ : ∃ n, fuel = n + 1 := ⟨fuel - 1, by omega⟩
    have hne : r ++ rs.flatten ≠ [] := by
      intro he
      rw [List.append_eq_nil_iff] at he
      rw [he.1] at hlen
      exact absurd hlen (by decide)
    rw [List.flatten_cons, loop_succ hne, descriptorHeader_record hr, ok_bind]
    dsimp only
    rw [take_append rfl, ok_bind, List.foldlM_cons]
    dsimp only
    rw [← step]
    congr 1
    funext st'
    exact loop_records (fun r hr => h r (List.mem_cons_of_mem _ hr)) (by omega)

/-- What the loop accepts is a string of records. -/
theorem loop_ok : ∀ {fuel : Nat} {rest : List UInt8} {st st' : Body}, loop fuel rest st = .ok st' →
    rest.length ≤ fuel → ∃ rs : List (List UInt8), rest = rs.flatten ∧ (∀ r ∈ rs, IsRecord r) ∧ rs.foldlM step st = .ok st'
  | fuel, [], st, st', h, _ => by
    rw [loop_nil] at h
    exact ⟨[], rfl, (fun _ hr => nomatch hr), h⟩
  | 0, _ :: _, _, _, _, hf => absurd hf (by simp)
  | fuel + 1, b :: rest, st, st', h, hf => by
    rw [loop_succ (List.cons_ne_nil b rest)] at h
    obtain ⟨⟨n, type⟩, hheader, h⟩ := bind_eq_ok.mp h
    obtain ⟨r, rest', hsplit, hr, rfl, rfl⟩ := descriptorHeader_ok hheader
    dsimp only at h
    rw [hsplit, take_append rfl, ok_bind] at h
    dsimp only at h
    obtain ⟨st₁, hstep, h⟩ := bind_eq_ok.mp h
    have hlen := congrArg List.length hsplit
    rw [List.length_append] at hlen
    have := hr.1
    obtain ⟨rs, rfl, hrs, hfold⟩ := loop_ok h (by omega)
    refine ⟨r :: rs, by rw [hsplit, List.flatten_cons], fun r' hr' => ?_, ?_⟩
    · rcases List.mem_cons.mp hr' with rfl | hr'
      · exact hr
      · exact hrs r' hr'
    · rw [List.foldlM_cons]
      exact bind_eq_ok.mpr ⟨st₁, hstep, hfold⟩

end Body

end WhyUsb
