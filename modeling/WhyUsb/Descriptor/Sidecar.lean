import WhyUsb.Descriptor.RoundTrip

/-!
# Report descriptors travel as sidecars

The encoder sends the report descriptors in interface order behind the blocks;
the decoder hangs each on the first interface with its key. With the blocks of
the previous module this gives the round trip of whole descriptor sets.
-/

namespace WhyUsb

open Endian

/-- The sidecar the encoder writes for an interface, if it has a report descriptor. -/
def UsbInterface.sidecarOf (configIndex : UInt8) (i : UsbInterface) : Option (List UInt8) :=
  i.reportDescriptor.map fun report => i.sidecar configIndex (UInt16.ofNat report.length) report

def UsbInterface.ReportFits (i : UsbInterface) : Prop :=
  ∀ report, i.reportDescriptor = some report → report.length < 2 ^ 16

def sidecarsOf (k : Nat) : List UsbConfiguration → List (List UInt8)
  | [] => []
  | c :: cs => c.interfaces.filterMap (UsbInterface.sidecarOf (UInt8.ofNat k)) ++ sidecarsOf (k + 1) cs

theorem interfaceSidecars_ok (configIndex : UInt8) : ∀ (is : List UsbInterface) (sidecars : List (List UInt8)),
    interfaceSidecars configIndex is = .ok sidecars ↔
      (∀ i ∈ is, i.ReportFits) ∧ sidecars = is.filterMap (UsbInterface.sidecarOf configIndex)
  | [], sidecars => by simp [interfaceSidecars, eq_comm]
  | i :: is, sidecars => by
    rw [interfaceSidecars, List.forall_mem_cons, List.filterMap_cons]
    cases hreport : i.reportDescriptor with
    | none =>
      have hfits : i.ReportFits := fun report h => by rw [hreport] at h; cases h
      have hside : i.sidecarOf configIndex = none := by rw [UsbInterface.sidecarOf, hreport, Option.map_none]
      simp only [hside, interfaceSidecars_ok configIndex is, hfits, true_and]
    | some report =>
      have hside : i.sidecarOf configIndex = some (i.sidecar configIndex (UInt16.ofNat report.length) report) := by
        rw [UsbInterface.sidecarOf, hreport, Option.map_some]
      have hfits : i.ReportFits ↔ report.length < 2 ^ 16 := by
        constructor
        · exact fun h => h report hreport
        · intro h r hr
          rw [hreport] at hr
          cases hr
          exact h
      simp only [hside, hfits, bind_eq_ok]
      constructor
      · rintro ⟨len, hlen, rest, hrest, h⟩
        cases h
        obtain ⟨hlt, rfl⟩ := u16TryFrom_iff.mp (orTooMany_ok.mp hlen)
        obtain ⟨hall, rfl⟩ := (interfaceSidecars_ok configIndex is _).mp hrest
        exact ⟨⟨hlt, hall⟩, rfl⟩
      · rintro ⟨⟨hlt, hall⟩, rfl⟩
        exact ⟨_, orTooMany_ok.mpr (u16TryFrom_iff.mpr ⟨hlt, rfl⟩), _,
          (interfaceSidecars_ok configIndex is _).mpr ⟨hall, rfl⟩, rfl⟩

theorem configurationSidecars_ok : ∀ (cs : List UsbConfiguration) (k : Nat) (sidecars : List (List UInt8)),
    k + cs.length ≤ 2 ^ 8 → (configurationSidecars k cs = .ok sidecars ↔
      (∀ c ∈ cs, ∀ i ∈ c.interfaces, i.ReportFits) ∧ sidecars = sidecarsOf k cs)
  | [], _, sidecars, _ => by simp [configurationSidecars, sidecarsOf, eq_comm]
  | c :: cs, k, sidecars, hk => by
    rw [List.length_cons] at hk
    have hindex : orTooMany (u8TryFrom k) "too many configurations" = .ok (UInt8.ofNat k) :=
      orTooMany_ok.mpr (u8TryFrom_iff.mpr ⟨by omega, rfl⟩)
    rw [configurationSidecars, hindex, ok_bind, bind_eq_ok, List.forall_mem_cons, sidecarsOf]
    constructor
    · rintro ⟨first, hfirst, h⟩
      obtain ⟨rest, hrest, h⟩ := bind_eq_ok.mp h
      cases h
      obtain ⟨hc, rfl⟩ := (interfaceSidecars_ok _ _ _).mp hfirst
      obtain ⟨hcs, rfl⟩ := (configurationSidecars_ok cs (k + 1) _ (by omega)).mp hrest
      exact ⟨⟨hc, hcs⟩, rfl⟩
    · rintro ⟨⟨hc, hcs⟩, rfl⟩
      exact ⟨_, (interfaceSidecars_ok _ _ _).mpr ⟨hc, rfl⟩, bind_eq_ok.mpr
        ⟨_, (configurationSidecars_ok cs (k + 1) _ (by omega)).mpr ⟨hcs, rfl⟩, rfl⟩⟩

/-! ## Reading sidecars back -/

theorem attachReport_first {n a : UInt8} {report : List UInt8} {i : UsbInterface} {after : List UsbInterface}
    (hi : i.hasKey n a = true) : ∀ {before : List UsbInterface}, (∀ j ∈ before, j.hasKey n a = false) →
      attachReport n a report (before ++ i :: after) =
        .ok (before ++ { i with reportDescriptor := some report } :: after)
  | [], _ => by rw [List.nil_append, attachReport, if_pos hi, List.nil_append]
  | j :: before, h => by
    have hj : ¬ j.hasKey n a = true := by rw [h j List.mem_cons_self]; exact Bool.false_ne_true
    rw [List.cons_append, attachReport, if_neg hj,
      attachReport_first hi fun j hj => h j (List.mem_cons_of_mem _ hj)]
    rfl

theorem decodeSidecars_sidecar {i : UsbInterface} {report : List UInt8} (h : report.length < 2 ^ 16) (n : Nat)
    (configIndex : UInt8) (rest : List UInt8) (cs : List UsbConfiguration) :
    decodeSidecars (n + 1) (i.sidecar configIndex (UInt16.ofNat report.length) report ++ rest) cs =
      attachSidecar cs configIndex.toNat i.descriptor.interfaceNumber i.descriptor.alternateSetting report >>=
        fun cs => decodeSidecars n rest cs := by
  obtain ⟨lo, hi, hlen, hlen'⟩ := u16Le_pair (UInt16.ofNat report.length)
  have hsplit : i.sidecar configIndex (UInt16.ofNat report.length) report ++ rest =
      [configIndex, i.descriptor.interfaceNumber, i.descriptor.alternateSetting, usbDescHidReport, 0, 0, lo, hi] ++
        (report ++ rest) := by
    simp [UsbInterface.sidecar, hlen]
  have hread : (readU16Le [configIndex, i.descriptor.interfaceNumber, i.descriptor.alternateSetting,
      usbDescHidReport, 0, 0, lo, hi] 6).toNat = report.length := by
    have hpair : readU16Le [configIndex, i.descriptor.interfaceNumber, i.descriptor.alternateSetting,
        usbDescHidReport, 0, 0, lo, hi] 6 = UInt16.ofNat (leNat [lo, hi]) := rfl
    rw [hpair, hlen', UInt16.toNat_ofNat', Nat.mod_eq_of_lt h]
  have hheader : [configIndex, i.descriptor.interfaceNumber, i.descriptor.alternateSetting, usbDescHidReport, 0, 0,
      lo, hi].length = descriptorSidecarHeaderLen := rfl
  rw [hsplit, decodeSidecars, take_append hheader, ok_bind]
  dsimp only
  rw [hread, take_append rfl, ok_bind]
  dsimp only
  rw [if_neg (by simp [byteAt])]
  rfl

theorem decodeSidecars_interfaces {k n : Nat} {c : UsbConfiguration} {pre post : List UsbConfiguration}
    (hpre : pre.length = k) (hk : k < 2 ^ 8) (rest : List UInt8) :
    ∀ (todo done : List UsbInterface), FirstReports (done ++ todo) → (∀ i ∈ todo, i.ReportFits) →
      decodeSidecars ((todo.filterMap (UsbInterface.sidecarOf (UInt8.ofNat k))).length + n)
          ((todo.filterMap (UsbInterface.sidecarOf (UInt8.ofNat k))).flatten ++ rest)
          (pre ++ { c with interfaces := done ++ todo.map UsbInterface.strip } :: post) =
        decodeSidecars n rest (pre ++ { c with interfaces := done ++ todo } :: post)
  | [], done, _, _ => by simp
  | i :: todo, done, hfirst, hfits => by
    have hassoc : done ++ i :: todo = (done ++ [i]) ++ todo := by simp
    have ih := @decodeSidecars_interfaces k n c pre post hpre hk rest todo (done ++ [i]) (hassoc ▸ hfirst)
      fun i hi => hfits i (List.mem_cons_of_mem _ hi)
    cases hreport : i.reportDescriptor with
    | none =>
      have hstrip : i.strip = i := by rw [UsbInterface.strip, ← hreport]
      have hside : i.sidecarOf (UInt8.ofNat k) = none := by rw [UsbInterface.sidecarOf, hreport, Option.map_none]
      rw [List.filterMap_cons_none hside, List.map_cons, hstrip, hassoc, ← ih]
      simp
    | some report =>
      have hside : i.sidecarOf (UInt8.ofNat k) =
          some (i.sidecar (UInt8.ofNat k) (UInt16.ofNat report.length) report) := by
        rw [UsbInterface.sidecarOf, hreport, Option.map_some]
      have hindex : (UInt8.ofNat k).toNat = pre.length := by rw [UInt8.toNat_ofNat', Nat.mod_eq_of_lt hk, hpre]
      have hdone : ∀ j ∈ done, j.hasKey i.descriptor.interfaceNumber i.descriptor.alternateSetting = false :=
        fun j hj => (List.pairwise_append.mp hfirst).2.2 j hj i List.mem_cons_self (by rw [hreport]; rfl)
      have hkey : i.strip.hasKey i.descriptor.interfaceNumber i.descriptor.alternateSetting = true := by
        simp [UsbInterface.strip, UsbInterface.hasKey]
      have hback : { i.strip with reportDescriptor := some report } = i := by rw [UsbInterface.strip, ← hreport]
      have hattach : attachSidecar (pre ++ { c with interfaces := done ++ (i :: todo).map UsbInterface.strip } :: post)
          (UInt8.ofNat k).toNat i.descriptor.interfaceNumber i.descriptor.alternateSetting report =
          .ok (pre ++ { c with interfaces := done ++ [i] ++ todo.map UsbInterface.strip } :: post) := by
        rw [attachSidecar, hindex, List.getElem?_append_right (Nat.le_refl _), Nat.sub_self, List.getElem?_cons_zero]
        dsimp only
        rw [List.map_cons, attachReport_first hkey hdone, ok_bind, hback, List.set_append_right _ _ (Nat.le_refl _),
          Nat.sub_self, List.set_cons_zero, List.append_assoc, List.singleton_append]
      rw [List.filterMap_cons_some hside, List.length_cons, List.flatten_cons, List.append_assoc, Nat.add_right_comm,
        decodeSidecars_sidecar (hfits i List.mem_cons_self report hreport), hattach, ok_bind, ih, hassoc]

theorem decodeSidecars_sidecarsOf (n : Nat) (rest : List UInt8) : ∀ (todo done : List UsbConfiguration),
    done.length + todo.length ≤ 2 ^ 8 → (∀ c ∈ todo, FirstReports c.interfaces ∧ ∀ i ∈ c.interfaces, i.ReportFits) →
      decodeSidecars ((sidecarsOf done.length todo).length + n) ((sidecarsOf done.length todo).flatten ++ rest)
          (done ++ todo.map UsbConfiguration.strip) =
        decodeSidecars n rest (done ++ todo)
  | [], done, _, _ => by simp [sidecarsOf]
  | c :: todo, done, hlen, h => by
    obtain ⟨hfirst, hfits⟩ := h c List.mem_cons_self
    have hassoc : done ++ c :: todo = (done ++ [c]) ++ todo := by simp
    have hone : (done ++ [c]).length = done.length + 1 := by simp
    rw [List.length_cons] at hlen
    have ih := decodeSidecars_sidecarsOf n rest todo (done ++ [c]) (by rw [hone]; omega)
      fun c hc => h c (List.mem_cons_of_mem _ hc)
    have hc := @decodeSidecars_interfaces done.length ((sidecarsOf (done.length + 1) todo).length + n) c done
      (todo.map UsbConfiguration.strip) rfl (by omega) ((sidecarsOf (done.length + 1) todo).flatten ++ rest)
      c.interfaces [] hfirst hfits
    rw [List.nil_append, List.nil_append] at hc
    simp only [hone, List.append_assoc, List.singleton_append] at ih
    rw [sidecarsOf, List.length_append, List.flatten_append, List.append_assoc, Nat.add_assoc, List.map_cons, hassoc,
      List.append_assoc, List.singleton_append]
    exact hc.trans ih

/-! ## Descriptor sets -/

namespace UsbDescriptorSet

structure Encodable (d : UsbDescriptorSet) : Prop where
  count : d.configurations.length < 2 ^ 8
  configurations : ∀ c ∈ d.configurations, c.Encodable
  reports : ∀ c ∈ d.configurations, ∀ i ∈ c.interfaces, i.ReportFits
  sidecars : (sidecarsOf 0 d.configurations).length < 2 ^ 16

def bytes (d : UsbDescriptorSet) : List UInt8 :=
  descriptorSetMagic ++ descriptorSetVersion :: UInt8.ofNat d.configurations.length ::
    (u16Le (UInt16.ofNat (sidecarsOf 0 d.configurations).length) ++
      (d.device.toUsbBytes (UInt8.ofNat d.configurations.length) ++
        (d.configurations.flatMap UsbConfiguration.block ++ (sidecarsOf 0 d.configurations).flatten)))

theorem encode_ok (d : UsbDescriptorSet) (b : List UInt8) : d.encode = .ok b ↔ d.Encodable ∧ b = d.bytes := by
  have hconfigurations := concatM_ok UsbConfiguration.toUsbBytes_ok d.configurations
  rw [encode, bind_eq_ok]
  constructor
  · rintro ⟨count, hcount, h⟩
    obtain ⟨hlen, rfl⟩ := u8TryFrom_iff.mp (orTooMany_ok.mp hcount)
    obtain ⟨sidecars, hsidecars, h⟩ := bind_eq_ok.mp h
    obtain ⟨hreports, rfl⟩ := (configurationSidecars_ok _ 0 _ (by omega)).mp hsidecars
    obtain ⟨number, hnumber, h⟩ := bind_eq_ok.mp h
    obtain ⟨hfew, rfl⟩ := u16TryFrom_iff.mp (orTooMany_ok.mp hnumber)
    obtain ⟨blocks, hblocks, h⟩ := bind_eq_ok.mp h
    obtain ⟨hencodable, rfl⟩ := (hconfigurations _).mp hblocks
    cases h
    exact ⟨⟨hlen, hencodable, hreports, hfew⟩, rfl⟩
  · rintro ⟨h, rfl⟩
    have hlen := h.count
    exact ⟨_, orTooMany_ok.mpr (u8TryFrom_iff.mpr ⟨h.count, rfl⟩),
      bind_eq_ok.mpr ⟨_, (configurationSidecars_ok _ 0 _ (by omega)).mpr ⟨h.reports, rfl⟩,
      bind_eq_ok.mpr ⟨_, orTooMany_ok.mpr (u16TryFrom_iff.mpr ⟨h.sidecars, rfl⟩),
      bind_eq_ok.mpr ⟨_, (hconfigurations _).mpr ⟨h.configurations, rfl⟩, rfl⟩⟩⟩⟩

theorem decode_bytes {d : UsbDescriptorSet} (h : d.Encodable) (hr : d.Representable) : decode d.bytes = .ok d := by
  obtain ⟨lo, hi, hpair, hnumber⟩ := u16Le_pair (UInt16.ofNat (sidecarsOf 0 d.configurations).length)
  have hcount : (UInt8.ofNat d.configurations.length).toNat = d.configurations.length := by
    rw [UInt8.toNat_ofNat', Nat.mod_eq_of_lt h.count]
  have hsidecars : (UInt16.ofNat (sidecarsOf 0 d.configurations).length).toNat =
      (sidecarsOf 0 d.configurations).length := by
    rw [UInt16.toNat_ofNat', Nat.mod_eq_of_lt h.sidecars]
  have hblocks := decodeConfigurations_blocks (fun c hc => ⟨h.configurations c hc, hr c hc⟩)
    (sidecarsOf 0 d.configurations).flatten
  have hreports := decodeSidecars_sidecarsOf 0 [] d.configurations [] (by have := h.count; simp; omega)
    fun c hc => ⟨(hr c hc).reports, h.reports c hc⟩
  simp only [List.length_nil, List.nil_append, List.append_nil, Nat.add_zero] at hreports
  generalize htail : d.device.toUsbBytes (UInt8.ofNat d.configurations.length) ++
    (d.configurations.flatMap UsbConfiguration.block ++ (sidecarsOf 0 d.configurations).flatten) = tail
  have hbytes : d.bytes = [0x57, 0x44, 0x45, 0x53, 1, UInt8.ofNat d.configurations.length, lo, hi] ++ tail := by
    rw [bytes, htail, hpair]
    rfl
  have hlen : tail.length = 18 + (d.configurations.flatMap UsbConfiguration.block ++
      (sidecarsOf 0 d.configurations).flatten).length := by
    rw [← htail, List.length_append, UsbDeviceDescriptor.toUsbBytes_length, UsbDeviceDescriptor.len]
  have hfive : byteAt d.bytes 5 = UInt8.ofNat d.configurations.length := by rw [hbytes]; rfl
  have hsix : readU16Le d.bytes 6 = UInt16.ofNat (sidecarsOf 0 d.configurations).length := by
    rw [hbytes, ← hnumber]
    rfl
  have hdrop : d.bytes.drop 8 = tail := by rw [hbytes]; rfl
  have hmin : ¬ d.bytes.length < 8 + UsbDeviceDescriptor.len := by
    rw [hbytes, List.length_append, hlen, UsbDeviceDescriptor.len]
    simp only [List.length_cons, List.length_nil]
    omega
  rw [decode, if_neg hmin, if_neg (by rw [hbytes]; exact not_not_intro rfl),
    if_neg (by rw [hbytes]; exact not_not_intro rfl), hdrop, ← htail,
    take_append (UsbDeviceDescriptor.toUsbBytes_length _ _), ok_bind]
  dsimp only
  rw [UsbDeviceDescriptor.fromUsbBytes_toUsbBytes, ok_bind]
  dsimp only
  rw [hfive, if_neg (not_not_intro rfl), hcount, hblocks, ok_bind]
  dsimp only
  rw [hsix, hsidecars, hreports]
  rfl

end UsbDescriptorSet

end WhyUsb
