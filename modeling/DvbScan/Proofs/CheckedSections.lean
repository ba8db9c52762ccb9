import DvbScan.Proofs.CheckedDescriptors
import DvbScan.Proofs.SectionContent
import DvbScan.Si.NetworkTable
import DvbScan.Si.ServiceTable

/-!
# Sections on a machine

Sections and the tables in them with the operations of a machine. Three loops follow lengths that were received:
the one through the descriptors of a loop, the one through the transports and the one through the services. Each
turn goes on by at least two bytes, or gives up, and no position goes far beyond the section, which has at most
4098 bytes.
-/

namespace DvbScan

open Machine

namespace Checked

def parseSection (data : Bytes) : Machine Section := do
  let length ← word12 data 1
  if length < Section.headerLength - 3 + Section.checksumLength then refuse (.sectionLengthTooSmall length)
  else do
    let total ← add .size 3 length
    if data.length < total then refuse (.incomplete total data.length)
    else do
      let bytes ← slice data 0 total
      let tableId ← index bytes 0
      let sectionId ← word16 bytes 3
      let versionByte ← index bytes 5
      let number ← index bytes 6
      let lastNumber ← index bytes 7
      pure {
        header := {
          tableId, length, sectionId, number, lastNumber
          version := UInt8.ofNat (bits versionByte 1 5)
          isCurrent := flag versionByte 0 }
        bytes }

def payloadEnd (whole : Section) : Machine Nat := sub whole.bytes.length Section.checksumLength

def descriptorsAt (whole : Section) (offset : Nat) : Machine Bytes := do
  let length ← word12 whole.bytes offset
  let start ← add .size offset 2
  let stop ← add .size start length
  let limit ← payloadEnd whole
  if limit < stop then refuse (.truncated start length limit)
  else slice whole.bytes start stop

def descriptorAt (data : Bytes) (offset : Nat) : Machine RawDescriptor := do
  let head ← field data offset 2
  let tag ← index head 0
  let length ← index head 1
  let start ← add .size offset 2
  let payload ← field data start length.toNat
  pure ⟨tag, payload⟩

def nextEntry (data : Bytes) (offset : Nat) :
    Machine (Option (Except SiError RawDescriptor) × Nat) :=
  if data.length ≤ offset then pure (none, offset)
  else do
    match ← attempt (descriptorAt data offset) with
    | .ok raw => do
      let size ← add .size 2 raw.payload.length
      let next ← add .size offset size
      pure (some (.ok raw), next)
    | .error reason => pure (some (.error reason), data.length)

/-- An entry of no interest and a malformed one are passed over. -/
def collectStep (table : CheckedTable) (data : Bytes) (state : Nat × List Descriptor) :
    Machine ((Nat × List Descriptor) ⊕ List Descriptor) := do
  match ← nextEntry data state.1 with
  | (none, _) => pure (.inr state.2)
  | (some item, next) => do
    match ← attempt (of item >>= table.read) with
    | .ok (some descriptor) => pure (.inl (next, state.2 ++ [descriptor]))
    | .ok none | .error _ => pure (.inl (next, state.2))

noncomputable def collect (table : CheckedTable) (data : Bytes) : Machine (List Descriptor) :=
  loop (collectStep table data) (0, [])

def hasRoom (size limit position : Nat) : Machine Bool := do
  let stop ← add .size position size
  pure (stop ≤ limit)

noncomputable def transportAt (whole : Section) (table : CheckedTable) (position : Nat) :
    Machine (TransportEntry × Nat) := do
  let tsid ← word16 whole.bytes position
  let place ← add .size position 2
  let onid ← word16 whole.bytes place
  let place ← add .size position 4
  let entryLoop ← descriptorsAt whole place
  let descriptors ← collect table entryLoop
  let size ← add .size 6 entryLoop.length
  let next ← add .size position size
  pure ({ tsid, onid, descriptors }, next)

noncomputable def parseNetwork (whole : Section) (table : CheckedTable) : Machine NetworkSection := do
  let limit ← payloadEnd whole
  let networkLoop ← descriptorsAt whole Section.headerLength
  let descriptors ← collect table networkLoop
  let header ← add .size Section.headerLength 2
  let position ← add .size header networkLoop.length
  let length ← word12 whole.bytes position
  let start ← add .size position 2
  let stop ← add .size start length
  let transports ← gather (hasRoom 6 (min stop limit)) (transportAt whole table) start
  pure { id := whole.header.sectionId, descriptors, transports }

noncomputable def serviceAt (whole : Section) (table : CheckedTable) (limit position : Nat) :
    Machine (ServiceEntry × Nat) := do
  let serviceId ← word16 whole.bytes position
  let place ← add .size position 3
  let flags ← word8 whole.bytes place
  let length ← word12 whole.bytes place
  let start ← add .size position 5
  let data ← field whole.bytes start length
  let stop ← add .size start length
  if limit < stop then refuse (.truncated start length limit)
  else do
    let descriptors ← collect table data
    let size ← add .size 5 length
    let next ← add .size position size
    pure ({ serviceId, runningStatus := bits flags 5 3, freeCa := flag flags 4, descriptors }, next)

noncomputable def parseService (whole : Section) (table : CheckedTable) : Machine ServiceSection := do
  let limit ← payloadEnd whole
  let onid ← word16 whole.bytes Section.headerLength
  let start ← add .size Section.headerLength 3
  let services ← gather (hasRoom 5 limit) (serviceAt whole table limit) start
  pure { tsid := whole.header.sectionId, onid, services }

/-! ## Framing -/

/-- A byte of a section is read by its index, or as a word of one byte. -/
theorem index_eq_word8 {data : Bytes} {place : Nat} (inside : place < data.length) :
    index data place = of (data.word8 place) := by
  have byte : data.word8 place = .ok data[place] := by
    unfold Bytes.word8 Bytes.number
    rw [Bytes.field_of_inside inside, List.drop_eq_getElem_cons inside]
    change Except.ok (UInt8.ofNat (Bytes.bigEndian [data[place]])) = .ok data[place]
    simp [Bytes.bigEndian]
  rw [index_eq inside, byte, of_ok]

theorem parseSection_eq {data : Bytes} (fits : data.Fits) :
    parseSection data = of (Section.parse data) := by
  unfold parseSection Section.parse
  rw [word12_eq fits]
  refine bind_of fun length read => ?_
  have announced := Bytes.word12_spec read
  split
  next => rfl
  next enough =>
    rw [add_size fits (by omega), pure_bind]
    split
    next => rfl
    next complete =>
      simp only [Section.headerLength, Section.checksumLength] at enough
      have total : (data.take (3 + length)).length = 3 + length := by
        rw [List.length_take]
        omega
      have small : Bytes.Fits (data.take (3 + length)) := fits.of_le (List.length_take_le' _ _)
      rw [slice_eq (Nat.zero_le _) (by omega), pure_bind, List.drop_zero, Nat.sub_zero,
        index_eq_word8 (by omega)]
      refine bind_of fun tableId _ => ?_
      rw [word16_eq small]
      refine bind_of fun sectionId _ => ?_
      rw [index_eq_word8 (by omega)]
      refine bind_of fun versionByte _ => ?_
      rw [index_eq_word8 (by omega)]
      refine bind_of fun number _ => ?_
      rw [index_eq_word8 (by omega)]
      exact bind_of fun lastNumber _ => rfl

variable {whole : Section}

theorem fits_of_framed (framed : whole.IsFramed) : whole.bytes.Fits := by
  have length := framed.length
  have short := framed.short
  unfold Bytes.Fits
  omega

theorem payloadEnd_eq (framed : whole.IsFramed) : payloadEnd whole = pure whole.payloadEnd :=
  sub_eq (Nat.le_trans (Nat.le_add_left _ _) framed.long)

theorem descriptorsAt_eq (framed : whole.IsFramed) (offset : Nat) :
    descriptorsAt whole offset = of (whole.descriptorsAt offset) := by
  have fits := fits_of_framed framed
  unfold descriptorsAt Section.descriptorsAt
  rw [word12_eq fits]
  refine bind_of fun length read => ?_
  have announced := Bytes.word12_spec read
  rw [add_size fits (by omega), pure_bind, add_size fits (by omega), pure_bind, payloadEnd_eq framed,
    pure_bind]
  by_cases inside : offset + 2 + length ≤ whole.payloadEnd
  · have within := framed.length_eq
    rw [if_neg (Nat.not_lt_of_le inside), if_pos inside,
      slice_eq (Nat.le_add_right _ _) (by omega), Nat.add_sub_cancel_left]
    rfl
  · rw [if_pos (Nat.lt_of_not_le inside), if_neg inside]
    rfl

/-! ## Descriptor loops -/

theorem descriptorAt_eq {data : Bytes} {offset : Nat} {tag length : UInt8} {rest : Bytes}
    (fits : data.Fits) (stands : data.drop offset = tag :: length :: rest) :
    descriptorAt data offset =
      of ((data.field (offset + 2) length.toNat).map fun payload => ⟨tag, payload⟩) := by
  have count : data.length - offset = rest.length + 2 := by
    rw [← List.length_drop, stands]
    rfl
  unfold descriptorAt
  rw [field_eq fits, Bytes.field_of_inside (by omega), stands, of_ok, pure_bind]
  change (add .size offset 2 >>= fun start => field data start length.toNat >>= fun payload =>
    (pure ⟨tag, payload⟩ : Machine RawDescriptor)) = _
  rw [add_size fits (by omega), pure_bind, field_eq fits, of_map]

theorem nextEntry_of_refused {data : Bytes} {offset : Nat} {reason : SiError} (inside : offset < data.length)
    (refused : descriptorAt data offset = refuse reason) :
    nextEntry data offset = pure (some (.error reason), data.length) := by
  unfold nextEntry
  rw [if_neg (Nat.not_le_of_lt inside), refused]
  rfl

theorem nextEntry_spec {data : Bytes} {offset : Nat} (fits : data.Fits) (inside : offset ≤ data.length) :
    (nextEntry data offset = pure (none, offset) ∧
      RawDescriptor.entries data.length (data.drop offset) = []) ∨
    ∃ item next, nextEntry data offset = pure (some item, next) ∧ offset < next ∧ next ≤ data.length ∧
      (∀ raw, item = .ok raw → raw.payload.Fits) ∧
      RawDescriptor.entries data.length (data.drop offset) =
        item :: RawDescriptor.entries data.length (data.drop next) := by
  have count : data.length - offset = (data.drop offset).length := List.length_drop.symm
  rcases stands : data.drop offset with _ | ⟨tag, _ | ⟨length, rest⟩⟩
  · rw [stands, List.length_nil] at count
    refine .inl ⟨if_pos (by omega), by rw [RawDescriptor.entries]⟩
  · rw [stands, List.length_singleton] at count
    have short : descriptorAt data offset = refuse (.truncated offset 2 data.length) := by
      unfold descriptorAt
      rw [field_eq fits, Bytes.field_of_beyond (by omega)]
      rfl
    refine .inr ⟨.error (.truncated offset 2 data.length), data.length,
      nextEntry_of_refused (by omega) short, by omega, Nat.le_refl _, (fun raw same => by cases same), ?_⟩
    rw [RawDescriptor.entries, List.drop_length, RawDescriptor.entries,
      show data.length - 1 = offset by omega]
  · rw [stands, List.length_cons, List.length_cons] at count
    have behind : data.drop (offset + 2) = rest := by
      rw [← List.drop_drop, stands]
      rfl
    have here := descriptorAt_eq fits stands
    by_cases whole : length.toNat ≤ rest.length
    · have size : (rest.take length.toNat).length = length.toNat := by
        rw [List.length_take]
        omega
      rw [Bytes.field_of_inside (by omega), behind] at here
      refine .inr ⟨.ok ⟨tag, rest.take length.toNat⟩, offset + (2 + length.toNat), ?_, by omega, by omega,
        ?_, ?_⟩
      · unfold nextEntry
        rw [if_neg (by omega), here, attempt_of, pure_bind]
        simp only [Except.map]
        rw [size, add_size fits (by omega), pure_bind, add_size fits (by omega), pure_bind]
      · intro raw same
        cases same
        exact fits.of_le (by rw [size]; omega)
      · rw [RawDescriptor.entries, if_pos whole, ← Nat.add_assoc, ← List.drop_drop, behind]
    · rw [Bytes.field_of_beyond (by omega)] at here
      refine .inr ⟨.error (.truncated (offset + 2) length.toNat data.length), data.length,
        nextEntry_of_refused (by omega) here, by omega, Nat.le_refl _, (fun raw same => by cases same), ?_⟩
      rw [RawDescriptor.entries, if_neg whole, List.drop_length, RawDescriptor.entries,
        show data.length - rest.length = offset + 2 by omega]

variable {table : CheckedTable} {plain : DescriptorTable}

def found? (table : DescriptorTable) (entry : Except SiError RawDescriptor) :
    Option Descriptor :=
  match entry >>= table.read with
  | .ok found => found
  | .error _ => none

theorem attempt_read (agrees : table.Agrees plain) {item : Except SiError RawDescriptor}
    (fits : ∀ raw, item = .ok raw → raw.payload.Fits) :
    attempt (of item >>= table.read) = pure (item >>= plain.read) := by
  cases item with
  | error reason => rfl
  | ok raw =>
    rw [of_ok, pure_bind, CheckedTable.read_eq agrees (fits raw rfl), attempt_of]
    rfl

theorem collect_eq (agrees : table.Agrees plain) {data : Bytes} (fits : data.Fits) :
    collect table data = pure (plain.readLoop data) := by
  have whole (left offset : Nat) (found : List Descriptor) (inside : offset ≤ data.length)
      (rest : data.length - offset = left) :
      loop (collectStep table data) (offset, found) =
        pure (found ++ (RawDescriptor.entries data.length (data.drop offset)).filterMap (found? plain)) := by
    induction left using Nat.strongRecOn generalizing offset found with
    | ind left ih =>
      rw [loop_eq]
      unfold collectStep
      simp only
      rcases nextEntry_spec fits inside with
        ⟨ends, none⟩ | ⟨item, next, taken, onward, within, small, shape⟩
      · rw [ends, none, List.filterMap_nil, List.append_nil]
        rfl
      · rw [taken, pure_bind, shape, List.filterMap_cons]
        simp only
        rw [attempt_read agrees small, pure_bind, found?]
        have later (found : List Descriptor) := ih _ (by omega) next found within rfl
        cases item >>= plain.read with
        | error reason => exact later found
        | ok meaning =>
          cases meaning with
          | none => exact later found
          | some descriptor =>
            refine (later (found ++ [descriptor])).trans ?_
            rw [List.append_assoc, List.singleton_append]
  have start := whole _ 0 [] (Nat.zero_le _) rfl
  rw [List.drop_zero, List.nil_append] at start
  exact start

/-! ## Tables -/

theorem length_descriptorsAt {offset : Nat} {found : Bytes} (read : whole.descriptorsAt offset = .ok found) :
    offset + 2 + found.length ≤ whole.payloadEnd := by
  unfold Section.descriptorsAt at read
  obtain ⟨length, -, read⟩ := bind_eq_ok.mp read
  simp only at read
  split at read
  next inside =>
    cases read
    rw [List.length_take]
    omega
  next => cases read

theorem hasRoom_eq (framed : whole.IsFramed) {size limit position : Nat} (small : size ≤ 4096)
    (near : position ≤ whole.bytes.length) :
    hasRoom size limit position = pure (decide (position + size ≤ limit)) := by
  unfold hasRoom
  rw [add_size (fits_of_framed framed) (by omega), pure_bind]

end Checked

def NetworkSection.transportAt (whole : Section) (table : DescriptorTable) (position : Nat) :
    Except SiError (TransportEntry × Nat) := do
  let tsid ← whole.bytes.word16 position
  let onid ← whole.bytes.word16 (position + 2)
  let entryLoop ← whole.descriptorsAt (position + 4)
  .ok ({ tsid, onid, descriptors := table.readLoop entryLoop }, position + 6 + entryLoop.length)

def ServiceSection.serviceAt (whole : Section) (table : DescriptorTable) (position : Nat) :
    Except SiError (ServiceEntry × Nat) := do
  let serviceId ← whole.bytes.word16 position
  let flags ← whole.bytes.word8 (position + 3)
  let length ← whole.bytes.word12 (position + 3)
  let entryLoop ← whole.bytes.field (position + 5) length
  if whole.payloadEnd < position + 5 + length then
    .error (.truncated (position + 5) length whole.payloadEnd)
  else
    .ok ({ serviceId, runningStatus := bits flags 5 3, freeCa := flag flags 4,
           descriptors := table.readLoop entryLoop }, position + 5 + length)

namespace Checked

theorem transportAt_eq (framed : whole.IsFramed) (agrees : table.Agrees plain) {position : Nat}
    (near : position ≤ whole.bytes.length) :
    transportAt whole table position = of (NetworkSection.transportAt whole plain position) := by
  have fits := fits_of_framed framed
  unfold transportAt NetworkSection.transportAt
  rw [word16_eq fits]
  refine bind_of fun tsid _ => ?_
  rw [add_size fits (by omega), pure_bind, word16_eq fits]
  refine bind_of fun onid _ => ?_
  rw [add_size fits (by omega), pure_bind, descriptorsAt_eq framed]
  refine bind_of fun entryLoop read => ?_
  have size := framed.length_eq
  have reach := length_descriptorsAt read
  rw [collect_eq agrees (fits.of_le (by omega)), pure_bind, add_size fits (by omega), pure_bind,
    add_size fits (by omega), pure_bind, ← Nat.add_assoc]
  rfl

theorem transportAt_onward (framed : whole.IsFramed) {position next : Nat} {entry : TransportEntry}
    (read : NetworkSection.transportAt whole plain position = .ok (entry, next)) :
    position < next ∧ next ≤ whole.bytes.length := by
  obtain ⟨tsid, -, read⟩ := bind_eq_ok.mp read
  obtain ⟨onid, -, read⟩ := bind_eq_ok.mp read
  obtain ⟨entryLoop, last, read⟩ := bind_eq_ok.mp read
  have size := framed.length_eq
  have reach := length_descriptorsAt last
  cases read
  omega

theorem transports_eq (framed : whole.IsFramed) (agrees : table.Agrees plain) (limit : Nat) {start : Nat}
    (inside : start ≤ whole.bytes.length) : gather (hasRoom 6 limit) (transportAt whole table) start =
      of (NetworkSection.transportsFrom whole plain limit start) := by
  refine gather_of whole.bytes.length (fun position near => hasRoom_eq framed (by omega) near)
    (fun position near _ => transportAt_eq framed agrees near)
    (fun position entry next _ read => transportAt_onward framed read) ?_ ?_ inside
  · intro position last
    rw [NetworkSection.transportsFrom, if_neg (of_decide_eq_false last)]
  · intro position more
    rw [NetworkSection.transportsFrom, if_pos (of_decide_eq_true more), NetworkSection.transportAt]
    simp only [bind_assoc]
    rfl

theorem parseNetwork_eq (framed : whole.IsFramed) (agrees : table.Agrees plain) :
    parseNetwork whole table = of (NetworkSection.parse whole plain) := by
  have fits := fits_of_framed framed
  have size := framed.length_eq
  unfold parseNetwork NetworkSection.parse
  rw [payloadEnd_eq framed, pure_bind, descriptorsAt_eq framed]
  refine bind_of fun networkLoop read => ?_
  have reach := length_descriptorsAt read
  rw [collect_eq agrees (fits.of_le (by omega)), pure_bind, add_size fits (by omega), pure_bind,
    add_size fits (by omega), pure_bind, word12_eq fits]
  refine bind_of fun length read => ?_
  have announced := Bytes.word12_spec read
  rw [add_size fits (by omega), pure_bind, add_size fits (by omega), pure_bind,
    transports_eq framed agrees _ announced.1]
  exact bind_of fun transports _ => rfl

theorem serviceAt_eq (framed : whole.IsFramed) (agrees : table.Agrees plain) {position : Nat}
    (near : position ≤ whole.bytes.length) :
    serviceAt whole table whole.payloadEnd position = of (ServiceSection.serviceAt whole plain position) := by
  have fits := fits_of_framed framed
  unfold serviceAt ServiceSection.serviceAt
  rw [word16_eq fits]
  refine bind_of fun serviceId _ => ?_
  rw [add_size fits (by omega), pure_bind, word8_eq fits]
  refine bind_of fun flags _ => ?_
  rw [word12_eq fits]
  refine bind_of fun length read => ?_
  have announced := Bytes.word12_spec read
  rw [add_size fits (by omega), pure_bind, field_eq fits]
  refine bind_of fun data read => ?_
  rw [add_size fits (by omega), pure_bind]
  split
  next => rfl
  next =>
    rw [collect_eq agrees (fits.field read), pure_bind, add_size fits (by omega), pure_bind,
      add_size fits (by omega), pure_bind, ← Nat.add_assoc]
    rfl

theorem serviceAt_onward {position next : Nat} {entry : ServiceEntry}
    (read : ServiceSection.serviceAt whole plain position = .ok (entry, next)) :
    position < next ∧ next ≤ whole.bytes.length := by
  obtain ⟨serviceId, -, read⟩ := bind_eq_ok.mp read
  obtain ⟨flags, -, read⟩ := bind_eq_ok.mp read
  obtain ⟨length, -, read⟩ := bind_eq_ok.mp read
  obtain ⟨entryLoop, last, read⟩ := bind_eq_ok.mp read
  have reach := (Bytes.field_eq_ok last).1
  split at read
  next => cases read
  next =>
    cases read
    omega

theorem services_eq (framed : whole.IsFramed) (agrees : table.Agrees plain) {start : Nat}
    (inside : start ≤ whole.bytes.length) :
    gather (hasRoom 5 whole.payloadEnd) (serviceAt whole table whole.payloadEnd) start =
      of (ServiceSection.servicesFrom whole plain start) := by
  refine gather_of whole.bytes.length (fun position near => hasRoom_eq framed (by omega) near)
    (fun position near _ => serviceAt_eq framed agrees near)
    (fun position entry next _ read => serviceAt_onward read) ?_ ?_ inside
  · intro position last
    rw [ServiceSection.servicesFrom, if_neg (of_decide_eq_false last)]
  · intro position more
    rw [ServiceSection.servicesFrom, if_pos (of_decide_eq_true more), ServiceSection.serviceAt]
    simp only [bind_assoc]
    refine congrArg _ (funext fun serviceId => congrArg _ (funext fun flags =>
      congrArg _ (funext fun length => congrArg _ (funext fun entryLoop => ?_))))
    split
    next => rfl
    next => rfl

theorem parseService_eq (framed : whole.IsFramed) (agrees : table.Agrees plain) :
    parseService whole table = of (ServiceSection.parse whole plain) := by
  have fits := fits_of_framed framed
  have long : 12 ≤ whole.bytes.length := framed.long
  unfold parseService ServiceSection.parse
  rw [payloadEnd_eq framed, pure_bind, word16_eq fits]
  refine bind_of fun onid _ => ?_
  simp only [Section.headerLength]
  rw [add_size fits (by omega), pure_bind, services_eq framed agrees (by omega)]
  exact bind_of fun services _ => rfl

end Checked

end DvbScan
