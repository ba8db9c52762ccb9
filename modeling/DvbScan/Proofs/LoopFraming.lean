import DvbScan.Proofs.CheckedSections
import DvbScan.Proofs.SectionLayout

/-!
# How loops are cut

A loop is cut into descriptors that lie side by side. They are whole up to the first that breaks off, which is
the last item, and with it or with the loop the cutting ends. What is cut off as descriptors can be put together
again: it is the loop, or its front if a descriptor breaks off.
-/

namespace DvbScan

namespace RawDescriptor

/-- No whole descriptor stands in front: there is a tag alone, or the length announces more bytes than follow. -/
inductive BreaksOff : Bytes → Prop where
  | header (tag : UInt8) : BreaksOff [tag]
  | payload (tag : UInt8) {length : UInt8} {rest : Bytes} (beyond : rest.length < length.toNat) :
    BreaksOff (tag :: length :: rest)

theorem BreaksOff.ne_nil {bytes : Bytes} (broken : BreaksOff bytes) : bytes ≠ [] := by
  cases broken with
  | header tag => exact List.cons_ne_nil _ _
  | payload tag beyond => exact List.cons_ne_nil _ _

/-- What the items of some bytes come to: descriptors that make up the bytes, or their front, behind which one
breaks off. -/
inductive CutAs (bytes : Bytes) (items : List (Except SiError RawDescriptor)) : Prop where
  | whole (raws : List RawDescriptor) (short : AllShort raws) (shape : bytes = encodeAll raws)
    (same : items = raws.map .ok)
  | broken (raws : List RawDescriptor) {rest : Bytes} (reason : SiError) (short : AllShort raws)
    (breaks : BreaksOff rest) (shape : bytes = encodeAll raws ++ rest)
    (same : items = raws.map .ok ++ [.error reason])

theorem allShort_cons {raw : RawDescriptor} {raws : List RawDescriptor} :
    AllShort (raw :: raws) ↔ raw.payload.length < 256 ∧ AllShort raws :=
  List.forall_mem_cons

theorem CutAs.cons {bytes : Bytes} {items : List (Except SiError RawDescriptor)} {raw : RawDescriptor}
    (cut : CutAs bytes items) (short : raw.payload.length < 256) :
    CutAs (raw.encode ++ bytes) (.ok raw :: items) := by
  cases cut with
  | whole raws shorter shape same =>
    refine .whole (raw :: raws) (allShort_cons.mpr ⟨short, shorter⟩) ?_ ?_
    · rw [shape, encodeAll, encodeAll, List.flatMap_cons]
    · rw [same, List.map_cons]
  | broken raws reason shorter breaks shape same =>
    refine .broken (raw :: raws) reason (allShort_cons.mpr ⟨short, shorter⟩) breaks ?_ ?_
    · rw [shape, encodeAll, encodeAll, List.flatMap_cons, List.append_assoc]
    · rw [same, List.map_cons, List.cons_append]

theorem cutAs_entries (total : Nat) (bytes : Bytes) : CutAs bytes (entries total bytes) := by
  fun_induction entries total bytes with
  | case1 => exact .whole [] nofun rfl rfl
  | case2 tag => exact .broken [] _ nofun (.header tag) rfl rfl
  | case3 tag length rest inside ih =>
    have size : (rest.take length.toNat).length = length.toNat := List.length_take_of_le inside
    have shape : tag :: length :: rest =
        encode ⟨tag, rest.take length.toNat⟩ ++ rest.drop length.toNat := by
      unfold encode
      rw [size, UInt8.ofNat_toNat, List.cons_append, List.cons_append, List.take_append_drop]
    rw [shape]
    exact ih.cons (by rw [size]; exact length.toNat_lt)
  | case4 tag length rest beyond =>
    exact .broken [] _ nofun (.payload tag (Nat.lt_of_not_le beyond)) rfl rfl

def wholes (items : List (Except SiError RawDescriptor)) : List RawDescriptor :=
  items.filterMap Except.toOption

theorem wholes_map_ok (raws : List RawDescriptor) : wholes (raws.map .ok) = raws := by
  unfold wholes
  rw [List.filterMap_map]
  exact List.filterMap_some

theorem wholes_append_error (raws : List RawDescriptor) (reason : SiError) :
    wholes (raws.map .ok ++ [.error reason]) = raws := by
  have front := wholes_map_ok raws
  unfold wholes at front ⊢
  rw [List.filterMap_append, front]
  exact List.append_nil raws

theorem isOk_of_mem_map {raws : List RawDescriptor} {item : Except SiError RawDescriptor}
    (member : item ∈ raws.map .ok) : item.isOk = true := by
  obtain ⟨raw, -, rfl⟩ := List.mem_map.mp member
  rfl

section CutAs

variable {bytes : Bytes} {items : List (Except SiError RawDescriptor)}

theorem CutAs.isOk_of_mem_dropLast (cut : CutAs bytes items) :
    ∀ item ∈ items.dropLast, item.isOk = true := by
  intro item member
  cases cut with
  | whole raws short shape same =>
    rw [same] at member
    exact isOk_of_mem_map (List.dropLast_subset _ member)
  | broken raws reason short breaks shape same =>
    rw [same, List.dropLast_concat] at member
    exact isOk_of_mem_map member

theorem CutAs.allShort_wholes (cut : CutAs bytes items) : AllShort (wholes items) := by
  cases cut with
  | whole raws short shape same => rwa [same, wholes_map_ok]
  | broken raws reason short breaks shape same => rwa [same, wholes_append_error]

theorem CutAs.encodeAll_prefix (cut : CutAs bytes items) : encodeAll (wholes items) <+: bytes := by
  cases cut with
  | whole raws short shape same =>
    have all : encodeAll (wholes items) = bytes := by rw [same, wholes_map_ok, shape]
    exact all ▸ List.prefix_refl _
  | broken raws reason short breaks shape same =>
    rw [same, wholes_append_error, shape]
    exact List.prefix_append _ _

/-- Bytes are lost exactly where a descriptor breaks off. -/
theorem CutAs.encodeAll_eq_iff (cut : CutAs bytes items) :
    encodeAll (wholes items) = bytes ↔ ∀ item ∈ items, item.isOk = true := by
  cases cut with
  | whole raws short shape same =>
    rw [same, wholes_map_ok, shape]
    exact iff_of_true rfl fun item member => isOk_of_mem_map member
  | broken raws reason short breaks shape same =>
    rw [same, wholes_append_error, shape]
    refine iff_of_false (fun all => ?_) fun all => ?_
    · exact breaks.ne_nil (List.append_right_eq_self.mp all.symm)
    · cases all (.error reason) (List.mem_append_right _ List.mem_cons_self)

end CutAs

end RawDescriptor

namespace Checked

/-- The items that are taken one after the other from the offset on, up to where there is none. -/
inductive Yields (data : Bytes) : Nat → List (Except SiError RawDescriptor) → Prop where
  | ends {offset : Nat} (none : nextEntry data offset = pure (none, offset)) : Yields data offset []
  | takes {offset next : Nat} {item : Except SiError RawDescriptor}
    {items : List (Except SiError RawDescriptor)} (taken : nextEntry data offset = pure (some item, next))
    (later : Yields data next items) : Yields data offset (item :: items)

theorem pure_inj {α : Type} {first second : α} (same : (pure first : Machine α) = pure second) :
    first = second :=
  Except.ok.inj (Option.some.inj same)

variable {data : Bytes} {offset : Nat} {items : List (Except SiError RawDescriptor)}

theorem yields_entries (fits : data.Fits) (inside : offset ≤ data.length) :
    Yields data offset (RawDescriptor.entries data.length (data.drop offset)) := by
  induction left : data.length - offset using Nat.strongRecOn generalizing offset with
  | ind left ih =>
    rcases nextEntry_spec fits inside with ⟨none, shape⟩ | ⟨item, next, taken, onward, within, -, shape⟩
    · rw [shape]
      exact .ends none
    · rw [shape]
      exact .takes taken (ih _ (by omega) within rfl)

theorem Yields.unique {items' : List (Except SiError RawDescriptor)} (yields : Yields data offset items)
    (yields' : Yields data offset items') : items = items' := by
  induction yields generalizing items' with
  | ends none =>
    cases yields' with
    | ends => rfl
    | takes taken => cases pure_inj (none.symm.trans taken)
  | takes taken later ih =>
    cases yields' with
    | ends none => cases pure_inj (none.symm.trans taken)
    | takes taken' later' =>
      cases pure_inj (taken.symm.trans taken')
      rw [ih later']

theorem yields_iff (fits : data.Fits) (items : List (Except SiError RawDescriptor)) :
    Yields data 0 items ↔ items = RawDescriptor.ofLoop data := by
  have cut : Yields data 0 (RawDescriptor.ofLoop data) := yields_entries fits (Nat.zero_le _)
  constructor
  · intro yields
    exact yields.unique cut
  · rintro rfl
    exact cut

end Checked

namespace RawDescriptor

/-- Every loop is cut into finitely many items, which are all that a machine takes from it one after the other. They
are descriptors, apart from the last, which may be an error. The descriptors put together are the front of the loop,
and they are the whole of it exactly if no item is an error. And what is put together from descriptors whose payloads
fit their lengths is cut into these. -/
theorem loops_are_cut_exactly :
    (∀ loop : Bytes,
      (loop.Fits → ∀ items, Checked.Yields loop 0 items ↔ items = ofLoop loop) ∧
        (∀ item ∈ (ofLoop loop).dropLast, item.isOk = true) ∧
        AllShort (wholes (ofLoop loop)) ∧ encodeAll (wholes (ofLoop loop)) <+: loop ∧
        (encodeAll (wholes (ofLoop loop)) = loop ↔ ∀ item ∈ ofLoop loop, item.isOk = true)) ∧
      ∀ raws, AllShort raws → ofLoop (encodeAll raws) = raws.map .ok := by
  constructor
  · intro loop
    have cut : CutAs loop (ofLoop loop) := cutAs_entries loop.length loop
    exact ⟨Checked.yields_iff, cut.isOk_of_mem_dropLast, cut.allShort_wholes, cut.encodeAll_prefix,
      cut.encodeAll_eq_iff⟩
  · exact fun raws short => entries_encodeAll _ short

end RawDescriptor

/-! The name of a network, and a list of services that announces six bytes where there are five. -/

namespace CutLoop

def name : RawDescriptor := ⟨0x40, [0x42, 0x42, 0x43]⟩
def services : Bytes := [0x41, 0x06, 0x10, 0x4B, 0x01, 0x10, 0x4C]
def loop : Bytes := name.encode ++ services

theorem items_of_cut_loop :
    RawDescriptor.ofLoop loop = [.ok name, .error (.truncated 7 6 12)] ∧
      Checked.Yields loop 0 [.ok name, .error (.truncated 7 6 12)] ∧
      RawDescriptor.encodeAll [name] <+: loop ∧ RawDescriptor.encodeAll [name] ≠ loop ∧
      RawDescriptor.ofLoop (RawDescriptor.encodeAll [name, name]) = [.ok name, .ok name] := by
  have items : RawDescriptor.ofLoop loop = [.ok name, .error (.truncated 7 6 12)] := by decide +kernel
  obtain ⟨cut, back⟩ := RawDescriptor.loops_are_cut_exactly
  obtain ⟨yields, -, -, front, whole⟩ := cut loop
  rw [items] at yields front whole
  refine ⟨items, (yields (by decide) _).mpr rfl, front, fun all => ?_, back [name, name] (by decide)⟩
  cases whole.mp all (.error (.truncated 7 6 12)) (by simp)

end CutLoop

end DvbScan
