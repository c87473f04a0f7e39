import Mathlib.Data.List.Pairwise
import WhyUsb.Descriptor.Sidecar

/-!
# What the decoder returns can be sent on

Every set the decoder returns is encodable and representable, and the encoder
needs no more bytes for it than were read: the blocks keep their lengths, and
of several sidecars for one interface the last alone is written back.
-/

namespace WhyUsb

open Endian

/-! ## The state machine's result -/

theorem UsbInterface.encoded_length (i : UsbInterface) :
    i.encoded.flatten.length = 9 + i.extraDescriptors.flatten.length + 7 * i.endpoints.length := by
  have hend : (i.endpoints.map (·.toUsbBytes)).flatten.length = 7 * i.endpoints.length := by
    rw [List.length_flatten, List.map_map, List.map_congr_left (g := fun _ => 7), List.map_const',
      List.sum_replicate_nat, Nat.mul_comm]
    intro e _
    exact UsbEndpointDescriptor.toUsbBytes_length e
  rw [encoded, records, List.flatten_cons, List.flatten_append, List.length_append, List.length_append, hend,
    UsbInterfaceDescriptor.toUsbBytes_length, UsbInterfaceDescriptor.len]
  omega

/-- An interface as the state machine finishes it. -/
structure UsbInterface.Received (i : UsbInterface) : Prop where
  encodable : i.Encodable
  extras : ∀ e ∈ i.extraDescriptors, IsExtra e
  report : i.reportDescriptor = none

namespace Body

def openSize (o : OpenInterface) : Nat := 9 + o.extraDescriptors.flatten.length + 7 * o.endpoints.length

def size (st : Body) : Nat :=
  st.extraDescriptors.flatten.length + (st.interfaces.map fun i => i.encoded.flatten.length).sum +
    st.current.elim 0 openSize

structure Good (n : Nat) (st : Body) : Prop where
  extras : ∀ e ∈ st.extraDescriptors, IsRecord e ∧ IsExtra e
  interfaces : ∀ i ∈ st.interfaces, i.Received
  current : ∀ o, st.current = some o → ∀ e ∈ o.extraDescriptors, IsRecord e ∧ IsExtra e
  size : st.size = n

theorem good_empty : Good 0 .empty where
  extras := fun _ h => nomatch h
  interfaces := fun _ h => nomatch h
  current := fun _ h => nomatch h
  size := rfl

theorem forall_mem_snoc {α : Type} {P : α → Prop} {xs : List α} {x : α} (h : ∀ a ∈ xs, P a) (hx : P x) :
    ∀ a ∈ xs ++ [x], P a := by
  intro a ha
  rcases List.mem_append.mp ha with ha | ha
  · exact h a ha
  · rw [List.mem_singleton.mp ha]
    exact hx

section
variable {n : Nat} {st st' : Body}

theorem close_good (h : Good n st) (hc : st.close = .ok st') : Good n st' := by
  have hsize := h.size
  unfold close at hc
  split at hc
  · cases hc
    exact h
  · rename_i o ho
    obtain ⟨i, hi, hc⟩ := bind_eq_ok.mp hc
    rw [OpenInterface.finish, ite_error_eq_ok, Decidable.not_not] at hi
    obtain ⟨hcount, hi⟩ := hi
    cases hi
    cases hc
    have hextras := h.current o ho
    refine ⟨h.extras, forall_mem_snoc h.interfaces ?_, (fun _ ho => by cases ho), ?_⟩
    · exact ⟨⟨hcount ▸ o.expectedEndpoints.toNat_lt, fun e he => (hextras e he).1⟩,
        fun e he => (hextras e he).2, rfl⟩
    · rw [Body.size, ho, Option.elim_some, openSize] at hsize
      simp only [Body.size, List.map_append, List.map_cons, List.map_nil, List.sum_append, List.sum_cons,
        List.sum_nil, UsbInterface.encoded_length, Option.elim_none] at hsize ⊢
      omega

theorem length_flatten_snoc (xs : List (List UInt8)) (x : List UInt8) :
    (xs ++ [x]).flatten.length = xs.flatten.length + x.length := by
  rw [List.flatten_append, List.length_append, List.flatten_singleton]

theorem step_good {r : List UInt8} (h : Good n st) (hr : IsRecord r) (hs : st.step r = .ok st') :
    Good (n + r.length) st' := by
  have hsize := h.size
  unfold step bodyStep at hs
  split at hs
  · obtain ⟨st₁, hclose, hs⟩ := bind_eq_ok.mp hs
    obtain ⟨⟨d, count⟩, hd, hs⟩ := bind_eq_ok.mp hs
    cases hs
    have hclosed := close_ok_current hclose
    have h := close_good h hclose
    have hsize := h.size
    rw [UsbInterfaceDescriptor.fromUsbBytes, ite_error_eq_ok] at hd
    have hlen : r.length = 9 := Decidable.not_not.mp fun hne => hd.1 (Or.inl hne)
    refine ⟨h.extras, h.interfaces, ?_, ?_⟩
    · rintro o ⟨⟩ e he
      cases he
    · rw [Body.size, hclosed, Option.elim_none] at hsize
      simp only [Body.size, Option.elim_some, openSize, List.flatten_nil, List.length_nil] at hsize ⊢
      omega
  · rename_i hinterface
    split at hs
    · split at hs
      · cases hs
      · rename_i o ho
        obtain ⟨e, he, hs⟩ := bind_eq_ok.mp hs
        cases hs
        rw [UsbEndpointDescriptor.fromUsbBytes, ite_error_eq_ok] at he
        have hlen : r.length = 7 := Decidable.not_not.mp fun hne => he.1 (Or.inl hne)
        refine ⟨h.extras, h.interfaces, ?_, ?_⟩
        · rintro o' ⟨⟩
          exact h.current o ho
        · rw [Body.size, ho, Option.elim_some, openSize] at hsize
          simp only [Body.size, Option.elim_some, openSize, List.length_append, List.length_singleton] at hsize ⊢
          omega
    · rename_i hendpoint
      split at hs
      · rename_i o ho
        obtain ⟨_, -, hs⟩ := bind_eq_ok.mp hs
        cases hs
        refine ⟨h.extras, h.interfaces, ?_, ?_⟩
        · rintro o' ⟨⟩
          exact forall_mem_snoc (h.current o ho) ⟨hr, hinterface, hendpoint⟩
        · rw [Body.size, ho, Option.elim_some, openSize] at hsize
          simp only [Body.size, Option.elim_some, openSize, length_flatten_snoc] at hsize ⊢
          omega
      · rename_i ho
        obtain ⟨_, -, hs⟩ := bind_eq_ok.mp hs
        cases hs
        refine ⟨forall_mem_snoc h.extras ⟨hr, hinterface, hendpoint⟩, h.interfaces, h.current, ?_⟩
        simp only [Body.size, length_flatten_snoc] at hsize ⊢
        omega

theorem foldlM_good : ∀ {rs : List (List UInt8)} {n : Nat} {st : Body}, Good n st → (∀ r ∈ rs, IsRecord r) →
    rs.foldlM step st = .ok st' → Good (n + rs.flatten.length) st'
  | [], n, st, h, _, hs => by
    cases hs
    exact h
  | r :: rs, n, st, h, hr, hs => by
    rw [List.foldlM_cons] at hs
    obtain ⟨st₁, hstep, hs⟩ := bind_eq_ok.mp hs
    have hgood := foldlM_good (step_good h (hr r List.mem_cons_self) hstep)
      (fun r hm => hr r (List.mem_cons_of_mem _ hm)) hs
    rwa [List.flatten_cons, List.length_append, ← Nat.add_assoc]

end

end Body

/-- A configuration as its block is decoded. -/
structure UsbConfiguration.Received (c : UsbConfiguration) : Prop where
  encodable : c.Encodable
  extras : ∀ e ∈ c.extraDescriptors, IsExtra e
  interfaces : ∀ i ∈ c.interfaces, i.Received

theorem UsbConfiguration.encoded_length (c : UsbConfiguration) : c.encoded.flatten.length =
    c.extraDescriptors.flatten.length + (c.interfaces.map fun i => i.encoded.flatten.length).sum := by
  rw [encoded, List.flatten_append, List.length_append, List.flatMap_def, List.flatten_flatten, List.map_map,
    List.length_flatten (L := c.interfaces.map (List.flatten ∘ UsbInterface.encoded)), List.map_map]
  rfl

theorem decodeFrom_ok {rest rest' : List UInt8} {c : UsbConfiguration}
    (h : UsbConfiguration.decodeFrom rest = .ok (c, rest')) :
    c.Received ∧ rest.length = c.totalLength + rest'.length := by
  rw [UsbConfiguration.decodeFrom] at h
  obtain ⟨⟨header, rest₁⟩, hheader, h⟩ := bind_eq_ok.mp h
  obtain ⟨hrest, hheaderLen⟩ := take_ok hheader
  dsimp only at h
  obtain ⟨⟨d, total, count⟩, -, h⟩ := bind_eq_ok.mp h
  dsimp only at h
  rw [ite_error_eq_ok] at h
  obtain ⟨htotal, h⟩ := h
  obtain ⟨⟨body, rest₂⟩, hbody, h⟩ := bind_eq_ok.mp h
  obtain ⟨hrest₁, hbodyLen⟩ := take_ok hbody
  dsimp only at h
  obtain ⟨st₁, hloop, h⟩ := bind_eq_ok.mp h
  obtain ⟨st, hclose, h⟩ := bind_eq_ok.mp h
  rw [ite_error_eq_ok, Decidable.not_not] at h
  obtain ⟨hcount, h⟩ := h
  cases h
  obtain ⟨rs, hrs, hrecords, hfold⟩ := Body.loop_ok hloop (Nat.le_refl _)
  have hgood := Body.close_good (Body.foldlM_good Body.good_empty hrecords hfold) hclose
  have hsize := hgood.size
  rw [Body.size, Body.close_ok_current hclose, Option.elim_none, ← hrs] at hsize
  have hlen : UsbConfiguration.totalLength
      { descriptor := d, extraDescriptors := st.extraDescriptors, interfaces := st.interfaces } = total.toNat := by
    rw [UsbConfiguration.totalLength, UsbConfiguration.encoded_length]
    dsimp only
    omega
  refine ⟨⟨⟨hcount ▸ count.toNat_lt, fun e he => (hgood.extras e he).1, fun i hi => (hgood.interfaces i hi).encodable,
    hlen ▸ total.toNat_lt⟩, fun e he => (hgood.extras e he).2, hgood.interfaces⟩, ?_⟩
  rw [hlen, hrest, hrest₁, List.length_append, List.length_append]
  omega

def blocksLength (cs : List UsbConfiguration) : Nat := (cs.map UsbConfiguration.totalLength).sum

theorem decodeConfigurations_ok : ∀ {n : Nat} {rest rest' : List UInt8} {cs : List UsbConfiguration},
    UsbDescriptorSet.decodeConfigurations n rest = .ok (cs, rest') →
      cs.length = n ∧ (∀ c ∈ cs, c.Received) ∧ rest.length = blocksLength cs + rest'.length
  | 0, rest, rest', cs, h => by
    cases h
    exact ⟨rfl, (fun _ hc => nomatch hc), (Nat.zero_add _).symm⟩
  | n + 1, rest, rest', cs, h => by
    rw [UsbDescriptorSet.decodeConfigurations] at h
    obtain ⟨⟨c, rest₁⟩, hc, h⟩ := bind_eq_ok.mp h
    obtain ⟨⟨cs₁, rest₂⟩, hcs, h⟩ := bind_eq_ok.mp h
    cases h
    obtain ⟨hrc, hlen⟩ := decodeFrom_ok hc
    obtain ⟨hn, hrcs, hlens⟩ := decodeConfigurations_ok hcs
    refine ⟨by rw [List.length_cons, hn], List.forall_mem_cons.mpr ⟨hrc, hrcs⟩, ?_⟩
    rw [blocksLength, List.map_cons, List.sum_cons, ← blocksLength]
    omega

/-! ## Sidecars -/

def UsbInterface.sidecarLength (i : UsbInterface) : Nat := i.reportDescriptor.elim 0 fun report => 8 + report.length

def UsbInterface.sidecarCount (i : UsbInterface) : Nat := i.reportDescriptor.elim 0 fun _ => 1

theorem filterMap_sidecarOf (k : UInt8) : ∀ is : List UsbInterface,
    (is.filterMap (UsbInterface.sidecarOf k)).length = (is.map UsbInterface.sidecarCount).sum ∧
      (is.filterMap (UsbInterface.sidecarOf k)).flatten.length = (is.map UsbInterface.sidecarLength).sum
  | [] => ⟨rfl, rfl⟩
  | i :: is => by
    obtain ⟨hcount, hlength⟩ := filterMap_sidecarOf k is
    rw [List.map_cons, List.map_cons, List.sum_cons, List.sum_cons, ← hcount, ← hlength]
    cases hreport : i.reportDescriptor with
    | none =>
      have hside : i.sidecarOf k = none := by rw [UsbInterface.sidecarOf, hreport, Option.map_none]
      rw [List.filterMap_cons_none hside, UsbInterface.sidecarCount, UsbInterface.sidecarLength, hreport]
      simp
    | some report =>
      have hside : i.sidecarOf k = some (i.sidecar k (UInt16.ofNat report.length) report) := by
        rw [UsbInterface.sidecarOf, hreport, Option.map_some]
      rw [List.filterMap_cons_some hside, UsbInterface.sidecarCount, UsbInterface.sidecarLength, hreport,
        List.length_cons, List.flatten_cons, List.length_append]
      simp [UsbInterface.sidecar]
      omega

def allInterfaces (cs : List UsbConfiguration) : List UsbInterface := cs.flatMap (·.interfaces)

theorem sidecarsOf_length : ∀ (cs : List UsbConfiguration) (k : Nat),
    (sidecarsOf k cs).length = ((allInterfaces cs).map UsbInterface.sidecarCount).sum ∧
      (sidecarsOf k cs).flatten.length = ((allInterfaces cs).map UsbInterface.sidecarLength).sum
  | [], _ => ⟨rfl, rfl⟩
  | c :: cs, k => by
    obtain ⟨hcount, hlength⟩ := sidecarsOf_length cs (k + 1)
    obtain ⟨hcount', hlength'⟩ := filterMap_sidecarOf (UInt8.ofNat k) c.interfaces
    have hall : allInterfaces (c :: cs) = c.interfaces ++ allInterfaces cs := List.flatMap_cons
    rw [sidecarsOf, List.length_append, List.flatten_append, List.length_append, hcount, hlength, hcount', hlength',
      hall, List.map_append, List.map_append, List.sum_append, List.sum_append]
    exact ⟨rfl, rfl⟩

theorem attachReport_ok {n a : UInt8} {report : List UInt8} : ∀ {is is' : List UsbInterface},
    attachReport n a report is = .ok is' → ∃ before i after, is = before ++ i :: after ∧
      is' = before ++ { i with reportDescriptor := some report } :: after ∧ i.hasKey n a = true ∧
        ∀ j ∈ before, j.hasKey n a = false
  | i :: is, is', h => by
    rw [attachReport] at h
    by_cases hi : i.hasKey n a = true
    · rw [if_pos hi] at h
      cases h
      exact ⟨[], i, is, rfl, rfl, hi, fun _ hj => by cases hj⟩
    · rw [if_neg hi] at h
      obtain ⟨is₁, his, h⟩ := bind_eq_ok.mp h
      cases h
      obtain ⟨before, j, after, rfl, rfl, hj, hbefore⟩ := attachReport_ok his
      exact ⟨i :: before, j, after, rfl, rfl, hj,
        List.forall_mem_cons.mpr ⟨Bool.eq_false_iff.mpr hi, hbefore⟩⟩

/-- A configuration as the decoder returns it, sidecars attached. -/
structure UsbConfiguration.Complete (c : UsbConfiguration) : Prop where
  encodable : c.Encodable
  representable : c.Representable
  reports : ∀ i ∈ c.interfaces, i.ReportFits

theorem UsbConfiguration.Received.complete {c : UsbConfiguration} (h : c.Received) : c.Complete where
  encodable := h.encodable
  representable :=
    ⟨h.extras, fun i hi => (h.interfaces i hi).extras,
      List.pairwise_of_forall_mem_list fun _ _ j hj hsome => by
        rw [(h.interfaces j hj).report] at hsome
        cases hsome⟩
  reports := fun i hi report hreport => by
    rw [(h.interfaces i hi).report] at hreport
    cases hreport

theorem firstReports_attach {n a : UInt8} {report : List UInt8} {before after : List UsbInterface} {i : UsbInterface}
    (h : FirstReports (before ++ i :: after)) (hi : i.hasKey n a = true) (hbefore : ∀ j ∈ before, j.hasKey n a = false) :
    FirstReports (before ++ { i with reportDescriptor := some report } :: after) := by
  obtain ⟨hb, hrest, hcross⟩ := List.pairwise_append.mp h
  obtain ⟨hfirst, ha⟩ := List.pairwise_cons.mp hrest
  refine List.pairwise_append.mpr ⟨hb, List.pairwise_cons.mpr ⟨hfirst, ha⟩, fun j hj k hk => ?_⟩
  rcases List.mem_cons.mp hk with rfl | hk
  · intro _
    rw [UsbInterface.hasKey, Bool.and_eq_true, beq_iff_eq, beq_iff_eq] at hi
    rw [hi.1, hi.2]
    exact hbefore j hj
  · exact hcross j hj k (List.mem_cons_of_mem _ hk)

theorem attach_complete {n a : UInt8} {report : List UInt8} {c : UsbConfiguration} {before after : List UsbInterface}
    {i : UsbInterface} (h : c.Complete) (hc : c.interfaces = before ++ i :: after) (hr : report.length < 2 ^ 16)
    (hi : i.hasKey n a = true) (hbefore : ∀ j ∈ before, j.hasKey n a = false) :
    UsbConfiguration.Complete
        { c with interfaces := before ++ { i with reportDescriptor := some report } :: after } ∧
      UsbConfiguration.totalLength
        { c with interfaces := before ++ { i with reportDescriptor := some report } :: after } = c.totalLength := by
  have hencoded : UsbConfiguration.encoded
      { c with interfaces := before ++ { i with reportDescriptor := some report } :: after } = c.encoded := by
    rw [UsbConfiguration.encoded, UsbConfiguration.encoded, hc, List.flatMap_append, List.flatMap_append,
      List.flatMap_cons, List.flatMap_cons]
    rfl
  have htotal : UsbConfiguration.totalLength
      { c with interfaces := before ++ { i with reportDescriptor := some report } :: after } = c.totalLength := by
    rw [UsbConfiguration.totalLength, UsbConfiguration.totalLength, hencoded]
  have hmem : ∀ {P : UsbInterface → Prop}, (∀ j ∈ c.interfaces, P j) → P { i with reportDescriptor := some report } →
      ∀ j ∈ before ++ { i with reportDescriptor := some report } :: after, P j := by
    intro P hall hnew j hj
    rw [hc] at hall
    rcases List.mem_append.mp hj with hj | hj
    · exact hall j (List.mem_append_left _ hj)
    · rcases List.mem_cons.mp hj with rfl | hj
      · exact hnew
      · exact hall j (List.mem_append_right _ (List.mem_cons_of_mem _ hj))
  have hin : i ∈ c.interfaces := by rw [hc]; simp
  have hcount : c.interfaces.length = (before ++ { i with reportDescriptor := some report } :: after).length := by
    rw [hc, List.length_append, List.length_append, List.length_cons, List.length_cons]
  refine ⟨⟨⟨hcount ▸ h.encodable.count, h.encodable.extras, ?_, htotal ▸ h.encodable.total⟩,
    ⟨h.representable.extras, ?_, ?_⟩, ?_⟩, htotal⟩
  · exact hmem h.encodable.interfaces ⟨(h.encodable.interfaces i hin).endpoints, (h.encodable.interfaces i hin).extras⟩
  · exact hmem h.representable.interfaceExtras (h.representable.interfaceExtras i hin)
  · exact firstReports_attach (hc ▸ h.representable.reports) hi hbefore
  · refine hmem h.reports fun report' hreport => ?_
    cases hreport
    exact hr

theorem attachSidecar_ok {cs cs' : List UsbConfiguration} {k : Nat} {n a : UInt8} {report : List UInt8}
    (hr : report.length < 2 ^ 16) (hcs : ∀ c ∈ cs, c.Complete) (h : attachSidecar cs k n a report = .ok cs') :
    cs'.length = cs.length ∧ (∀ c ∈ cs', c.Complete) ∧ blocksLength cs' = blocksLength cs ∧
      ((allInterfaces cs').map UsbInterface.sidecarCount).sum ≤
        ((allInterfaces cs).map UsbInterface.sidecarCount).sum + 1 ∧
      ((allInterfaces cs').map UsbInterface.sidecarLength).sum ≤
        ((allInterfaces cs).map UsbInterface.sidecarLength).sum + (8 + report.length) := by
  unfold attachSidecar at h
  split at h
  · cases h
  · rename_i c hk
    obtain ⟨is, his, h⟩ := bind_eq_ok.mp h
    cases h
    obtain ⟨before, i, after, hc, rfl, hi, hbefore⟩ := attachReport_ok his
    obtain ⟨hlt, hget⟩ := List.getElem?_eq_some_iff.mp hk
    have hin : c ∈ cs := List.mem_of_getElem? hk
    obtain ⟨hcomplete, htotal⟩ := attach_complete (hcs c hin) hc hr hi hbefore
    obtain ⟨pre, post, rfl, rfl⟩ : ∃ pre post, cs = pre ++ c :: post ∧ pre.length = k :=
      ⟨cs.take k, cs.drop (k + 1), by rw [← hget, ← List.drop_eq_getElem_cons hlt, List.take_append_drop], by
        rw [List.length_take]
        omega⟩
    have hset : (pre ++ c :: post).set pre.length
          { c with interfaces := before ++ { i with reportDescriptor := some report } :: after } =
        pre ++ { c with interfaces := before ++ { i with reportDescriptor := some report } :: after } :: post := by
      rw [List.set_append_right _ _ (Nat.le_refl _), Nat.sub_self, List.set_cons_zero]
    rw [hset]
    refine ⟨by simp, fun c' hc' => ?_, ?_, ?_, ?_⟩
    · rcases List.mem_append.mp hc' with hc' | hc'
      · exact hcs c' (List.mem_append_left _ hc')
      · rcases List.mem_cons.mp hc' with rfl | hc'
        · exact hcomplete
        · exact hcs c' (List.mem_append_right _ (List.mem_cons_of_mem _ hc'))
    · simp only [blocksLength, List.map_append, List.map_cons, List.sum_append, List.sum_cons, htotal]
    · simp only [allInterfaces, List.flatMap_append, List.flatMap_cons, hc, List.map_append, List.map_cons,
        List.sum_append, List.sum_cons, UsbInterface.sidecarCount, Option.elim_some]
      omega
    · simp only [allInterfaces, List.flatMap_append, List.flatMap_cons, hc, List.map_append, List.map_cons,
        List.sum_append, List.sum_cons, UsbInterface.sidecarLength, Option.elim_some]
      omega

theorem decodeSidecars_ok : ∀ {n : Nat} {rest rest' : List UInt8} {cs cs' : List UsbConfiguration},
    (∀ c ∈ cs, c.Complete) → decodeSidecars n rest cs = .ok (cs', rest') →
      cs'.length = cs.length ∧ (∀ c ∈ cs', c.Complete) ∧ blocksLength cs' = blocksLength cs ∧
        ((allInterfaces cs').map UsbInterface.sidecarCount).sum ≤
          ((allInterfaces cs).map UsbInterface.sidecarCount).sum + n ∧
        ((allInterfaces cs').map UsbInterface.sidecarLength).sum + rest'.length ≤
          ((allInterfaces cs).map UsbInterface.sidecarLength).sum + rest.length
  | 0, rest, rest', cs, cs', hcs, h => by
    cases h
    exact ⟨rfl, hcs, rfl, Nat.le_refl _, Nat.le_refl _⟩
  | n + 1, rest, rest', cs, cs', hcs, h => by
    rw [decodeSidecars] at h
    obtain ⟨⟨header, rest₁⟩, hheader, h⟩ := bind_eq_ok.mp h
    obtain ⟨hrest, hheaderLen⟩ := take_ok hheader
    dsimp only at h
    obtain ⟨⟨report, rest₂⟩, hreport, h⟩ := bind_eq_ok.mp h
    obtain ⟨hrest₁, hreportLen⟩ := take_ok hreport
    dsimp only at h
    rw [ite_error_eq_ok] at h
    obtain ⟨cs₁, hattach, h⟩ := bind_eq_ok.mp h.2
    have hfits : report.length < 2 ^ 16 := hreportLen ▸ (readU16Le header 6).toNat_lt
    obtain ⟨hlen, hcomplete, hblocks, hcount, hlength⟩ := attachSidecar_ok hfits hcs hattach
    obtain ⟨hlen', hcomplete', hblocks', hcount', hlength'⟩ := decodeSidecars_ok hcomplete h
    rw [descriptorSidecarHeaderLen] at hheaderLen
    refine ⟨hlen'.trans hlen, hcomplete', hblocks'.trans hblocks, by omega, ?_⟩
    rw [hrest, hrest₁, List.length_append, List.length_append]
    omega

/-! ## Descriptor sets -/

namespace UsbDescriptorSet

theorem bytes_length (d : UsbDescriptorSet) : d.bytes.length =
    26 + blocksLength d.configurations + ((allInterfaces d.configurations).map UsbInterface.sidecarLength).sum := by
  have hblocks : (d.configurations.flatMap UsbConfiguration.block).length = blocksLength d.configurations := by
    rw [List.length_flatMap, blocksLength]
    exact congrArg List.sum (List.map_congr_left fun c _ => c.block_length)
  rw [bytes, ← (sidecarsOf_length d.configurations 0).2, ← hblocks]
  simp only [List.length_append, List.length_cons, u16Le_length, UsbDeviceDescriptor.toUsbBytes_length,
    UsbDeviceDescriptor.len, descriptorSetMagic, List.length_nil]
  omega

theorem decode_ok {b : List UInt8} {d : UsbDescriptorSet} (h : decode b = .ok d) :
    d.Encodable ∧ d.Representable ∧ d.bytes.length ≤ b.length := by
  rw [decode, ite_error_eq_ok, ite_error_eq_ok, ite_error_eq_ok] at h
  obtain ⟨hmin, -, -, h⟩ := h
  obtain ⟨⟨deviceBytes, rest⟩, hdevice, h⟩ := bind_eq_ok.mp h
  obtain ⟨hsplit, hdeviceLen⟩ := take_ok hdevice
  dsimp only at h
  obtain ⟨⟨device, deviceConfigCount⟩, -, h⟩ := bind_eq_ok.mp h
  dsimp only at h
  rw [ite_error_eq_ok] at h
  obtain ⟨⟨cs, rest₁⟩, hcs, h⟩ := bind_eq_ok.mp h.2
  dsimp only at h
  obtain ⟨⟨cs', rest₂⟩, hcs', h⟩ := bind_eq_ok.mp h
  dsimp only at h
  rw [ite_error_eq_ok] at h
  obtain ⟨-, h⟩ := h
  cases h
  obtain ⟨hn, hreceived, hblocks⟩ := decodeConfigurations_ok hcs
  obtain ⟨hlen, hcomplete, hblocks', hcount, hlength⟩ :=
    decodeSidecars_ok (fun c hc => (hreceived c hc).complete) hcs'
  have hnone : ∀ i ∈ allInterfaces cs, i.sidecarCount = 0 ∧ i.sidecarLength = 0 := by
    intro i hi
    obtain ⟨c, hc, hi⟩ := List.mem_flatMap.mp hi
    rw [UsbInterface.sidecarCount, UsbInterface.sidecarLength, ((hreceived c hc).interfaces i hi).report]
    exact ⟨rfl, rfl⟩
  have hzero : ((allInterfaces cs).map UsbInterface.sidecarCount).sum = 0 ∧
      ((allInterfaces cs).map UsbInterface.sidecarLength).sum = 0 := by
    constructor
    · rw [List.map_congr_left fun i hi => (hnone i hi).1, List.map_const', List.sum_replicate_nat, Nat.mul_zero]
    · rw [List.map_congr_left fun i hi => (hnone i hi).2, List.map_const', List.sum_replicate_nat, Nat.mul_zero]
  have hdrop := congrArg List.length hsplit
  rw [List.length_drop, List.length_append, hdeviceLen] at hdrop
  have hconfigs := (byteAt b 5).toNat_lt
  have hsidecars := (readU16Le b 6).toNat_lt
  rw [UsbDeviceDescriptor.len] at hdrop hmin
  refine ⟨⟨?_, fun c hc => (hcomplete c hc).encodable, fun c hc => (hcomplete c hc).reports, ?_⟩,
    fun c hc => (hcomplete c hc).representable, ?_⟩
  · dsimp only
    omega
  · rw [(sidecarsOf_length _ 0).1]
    dsimp only
    omega
  · rw [bytes_length]
    dsimp only
    omega

theorem mockHidKeyboard_wellFormed (vendorId productId : UInt16) :
    (mockHidKeyboard vendorId productId).Encodable ∧ (mockHidKeyboard vendorId productId).Representable := by
  have h : decode (mockHidKeyboard 0 0).bytes = .ok (mockHidKeyboard 0 0) := by decide +kernel
  obtain ⟨hencodable, hrepresentable, -⟩ := decode_ok h
  exact ⟨⟨hencodable.count, hencodable.configurations, hencodable.reports, hencodable.sidecars⟩, hrepresentable⟩

/-- What was received can be sent on, in no more bytes, and is then received again as it was. -/
theorem resend {b : List UInt8} {d : UsbDescriptorSet} (h : decode b = .ok d) :
    ∃ b', d.encode = .ok b' ∧ b'.length ≤ b.length ∧ decode b' = .ok d := by
  obtain ⟨hencodable, hrepresentable, hlen⟩ := decode_ok h
  exact ⟨d.bytes, (encode_ok d _).mpr ⟨hencodable, rfl⟩, hlen, decode_bytes hencodable hrepresentable⟩

/-- One interface with two sidecars: the second alone is sent on. -/
def twoSidecars : List UInt8 :=
  descriptorSetMagic ++ [1, 1, 2, 0] ++
    [18, 1, 0, 2, 0, 0, 0, 64, 9, 0x12, 1, 0, 0, 1, 1, 2, 3, 1] ++
    [9, 2, 18, 0, 1, 1, 0, 0x80, 50] ++ [9, 4, 0, 0, 0, 3, 1, 1, 0] ++
    [0, 0, 0, 0x22, 0, 0, 2, 0, 5, 1] ++ [0, 0, 0, 0x22, 0, 0, 1, 0, 6]

theorem resend_twoSidecars : ∃ d b', decode twoSidecars = .ok d ∧ d.encode = .ok b' ∧
    b'.length ≤ twoSidecars.length ∧ decode b' = .ok d := by
  have h : ∃ d, decode twoSidecars = .ok d := by
    refine ⟨{
      device := ⟨0x0200, 0, 0, 0, 64, 0x1209, 1, 0x0100, 1, 2, 3⟩
      configurations := [⟨⟨1, 0, 0x80, 50⟩, [], [⟨⟨0, 0, 3, 1, 1, 0⟩, [], some [6], []⟩]⟩] }, ?_⟩
    decide +kernel
  obtain ⟨d, hd⟩ := h
  obtain ⟨b', hb'⟩ := resend hd
  exact ⟨d, b', hd, hb'⟩

/-- An encoded set is received as sent exactly when it is representable. -/
theorem decode_encode_iff {d : UsbDescriptorSet} {b : List UInt8} (h : d.encode = .ok b) :
    decode b = .ok d ↔ d.Representable := by
  obtain ⟨hencodable, rfl⟩ := (encode_ok d b).mp h
  exact ⟨fun hd => (decode_ok hd).2.1, decode_bytes hencodable⟩

theorem decode_encode_iff_mockHidKeyboard : ∃ b, (mockHidKeyboard 0x1209 1).encode = .ok b ∧
    (decode b = .ok (mockHidKeyboard 0x1209 1) ↔ (mockHidKeyboard 0x1209 1).Representable) := by
  have h : (mockHidKeyboard 0x1209 1).encode = .ok (mockHidKeyboard 0x1209 1).bytes := by decide +kernel
  exact ⟨_, h, decode_encode_iff h⟩

/-- A keyboard with an endpoint record among the extra descriptors of its interface. -/
def strayEndpoint : UsbDescriptorSet where
  device := (mockHidKeyboard 0x1209 1).device
  configurations := [{
    descriptor := ⟨1, 0, 0x80, 50⟩
    extraDescriptors := []
    interfaces := [{
      descriptor := ⟨0, 0, 3, 1, 1, 0⟩
      extraDescriptors := [[7, 5, 0x82, 2, 64, 0, 0]]
      reportDescriptor := none
      endpoints := [] }] }]

theorem strayEndpoint_not_received :
    ¬ ∀ (d : UsbDescriptorSet) (b : List UInt8), d.encode = .ok b → decode b = .ok d := by
  intro h
  have hencode : strayEndpoint.encode = .ok strayEndpoint.bytes := by decide +kernel
  have hdecode : decode strayEndpoint.bytes =
      .error (.invalidDescriptorSet "endpoint count mismatch") := by decide +kernel
  have := h _ _ hencode
  rw [hdecode] at this
  cases this

end UsbDescriptorSet

end WhyUsb
