import DvbScan.Proofs.NetworkLayout
import DvbScan.Proofs.ServiceLayout
import Mathlib.Data.Nat.Init

/-!
# Sections before their descriptors are read

Where the descriptors, transports and services of a section begin and end does not depend on what the descriptors
say. Any section, and not only one that is written as it should be, has a content that no table of readers has
been asked about yet, or is refused by all of them for one reason. A table then reads each descriptor of the
content by itself.
-/

namespace DvbScan

namespace RawDescriptor

/-- The descriptors of a loop that it is long enough for. -/
def complete (loop : Bytes) : List RawDescriptor := (ofLoop loop).filterMap Except.toOption

theorem filterMap_entries (total total' : Nat) (bytes : Bytes) :
    (entries total bytes).filterMap Except.toOption = (entries total' bytes).filterMap Except.toOption := by
  fun_induction entries total bytes with
  | case1 => rw [entries]
  | case2 last => rw [entries]; rfl
  | case3 tag length rest inside ih =>
    rw [entries, if_pos inside, List.filterMap_cons, List.filterMap_cons, ih]
  | case4 tag length rest beyond =>
    rw [entries, if_neg beyond]
    rfl

theorem complete_append {raws : List RawDescriptor} (short : AllShort raws) (rest : Bytes) :
    complete (encodeAll raws ++ rest) = raws ++ complete rest := by
  unfold complete ofLoop
  rw [entries_append _ short, List.filterMap_append, List.filterMap_map,
    filterMap_entries _ rest.length rest]
  exact congrArg (· ++ _) List.filterMap_some

theorem complete_of_beyond (tag : UInt8) {length : UInt8} {payload : Bytes}
    (beyond : payload.length < length.toNat) : complete (tag :: length :: payload) = [] := by
  unfold complete ofLoop
  rw [entries, if_neg (Nat.not_le_of_lt beyond)]
  rfl

end RawDescriptor

open RawDescriptor (complete)

theorem DescriptorTable.readLoop_eq (table : DescriptorTable) (loop : Bytes) :
    table.readLoop loop = (complete loop).filterMap table.meaning? := by
  unfold readLoop complete
  rw [List.filterMap_filterMap]
  refine List.filterMap_congr fun entry _ => ?_
  cases entry with
  | error reason => rfl
  | ok raw => rfl

/-- The reading gathers a content, or is refused, without a table of readers; only then a table reads what was
gathered. -/
def ReadsLast {α β : Type} (reading : DescriptorTable → Except SiError β) (read : DescriptorTable → α → β) : Prop :=
  ∃ content : Except SiError α, ∀ table, reading table = content.map (read table)

namespace ReadsLast

variable {α β γ : Type} {reading : DescriptorTable → Except SiError β} {read : DescriptorTable → α → β}

theorem of_ok {result : β} (content : α) (same : ∀ table, read table content = result) :
    ReadsLast (fun _ => .ok result) read :=
  ⟨.ok content, fun table => congrArg Except.ok (same table).symm⟩

theorem of_error (reason : SiError) : ReadsLast (fun _ => .error reason) read :=
  ⟨.error reason, fun _ => rfl⟩

theorem after {first : Except SiError γ} {later : γ → DescriptorTable → Except SiError β}
    (last : ∀ field, ReadsLast (later field) read) :
    ReadsLast (fun table => first >>= fun field => later field table) read := by
  cases first with
  | error reason => exact of_error reason
  | ok field => exact last field

theorem within {whole : Type} {readWhole : DescriptorTable → whole → γ} (last : ReadsLast reading read)
    {extend : DescriptorTable → β → γ} (enlarge : α → whole)
    (fits : ∀ table content, extend table (read table content) = readWhole table (enlarge content)) :
    ReadsLast (fun table => reading table >>= fun part => .ok (extend table part)) readWhole := by
  obtain ⟨content, same⟩ := last
  refine ⟨content.map enlarge, fun table => ?_⟩
  simp only [same]
  cases content with
  | error reason => rfl
  | ok content => exact congrArg Except.ok (fits table content)

end ReadsLast

namespace NetworkSection

theorem transportsFrom_readsLast (whole : Section) (limit position : Nat) :
    ReadsLast (fun table => transportsFrom whole table limit position)
      fun table (raws : List RawTransport) => raws.map (·.entry table) := by
  -- on the bytes that are left of the loop
  induction left : limit - position using Nat.strong_induction_on generalizing position with
  | h left ih =>
    by_cases room : position + 6 ≤ limit
    · have step (table : DescriptorTable) : transportsFrom whole table limit position = (do
          let tsid ← whole.bytes.word16 position
          let onid ← whole.bytes.word16 (position + 2)
          let loop ← whole.descriptorsAt (position + 4)
          let rest ← transportsFrom whole table limit (position + 6 + loop.length)
          .ok ({ tsid, onid, descriptors := table.readLoop loop } :: rest)) := by
        rw [transportsFrom, if_pos room]
      rw [funext step]
      refine .after fun tsid => .after fun onid => .after fun loop => ?_
      refine (ih _ (by omega) (position + 6 + loop.length) rfl).within
        (⟨tsid, onid, complete loop⟩ :: ·) fun table raws => ?_
      rw [table.readLoop_eq]
      rfl
    · have ended (table : DescriptorTable) : transportsFrom whole table limit position = .ok [] := by
        rw [transportsFrom, if_neg room]
      rw [funext ended]
      exact .of_ok [] fun table => rfl

/-- A table reads the descriptors of the content of a section, and nothing else of it. -/
theorem parse_readsLast (whole : Section) :
    ReadsLast (parse whole)
      fun table (content : RawNetworkTable) => content.parsed table whole.header.sectionId := by
  refine .after fun loop => .after fun length => ?_
  refine (transportsFrom_readsLast whole _ _).within (⟨complete loop, ·⟩) fun table raws => ?_
  rw [table.readLoop_eq]
  rfl

end NetworkSection

namespace ServiceSection

theorem servicesFrom_readsLast (whole : Section) (position : Nat) :
    ReadsLast (fun table => servicesFrom whole table position)
      fun table (raws : List RawService) => raws.map (·.entry table) := by
  -- on the bytes that are left of the payload
  induction left : whole.payloadEnd - position using Nat.strong_induction_on generalizing position with
  | h left ih =>
    by_cases room : position + 5 ≤ whole.payloadEnd
    · have step (table : DescriptorTable) : servicesFrom whole table position = (do
          let serviceId ← whole.bytes.word16 position
          let flags ← whole.bytes.word8 (position + 3)
          let length ← whole.bytes.word12 (position + 3)
          let loop ← whole.bytes.field (position + 5) length
          if whole.payloadEnd < position + 5 + length then
            .error (.truncated (position + 5) length whole.payloadEnd)
          else do
            let rest ← servicesFrom whole table (position + 5 + length)
            .ok ({ serviceId, runningStatus := bits flags 5 3, freeCa := flag flags 4,
                   descriptors := table.readLoop loop } :: rest)) := by
        rw [servicesFrom, if_pos room]
      rw [funext step]
      refine .after fun serviceId => .after fun flags => .after fun length => .after fun loop => ?_
      by_cases beyond : whole.payloadEnd < position + 5 + length
      · simp only [if_pos beyond]
        exact .of_error _
      · simp only [if_neg beyond]
        have status : bits flags 5 3 < 8 := Nat.mod_lt _ (by decide)
        refine (ih _ (by omega) (position + 5 + length) rfl).within
          (⟨serviceId, 0, ⟨bits flags 5 3, status⟩, flag flags 4, complete loop⟩ :: ·) fun table raws => ?_
        rw [table.readLoop_eq]
        rfl
    · have ended (table : DescriptorTable) : servicesFrom whole table position = .ok [] := by
        rw [servicesFrom, if_neg room]
      rw [funext ended]
      exact .of_ok [] fun table => rfl

theorem parse_readsLast (whole : Section) :
    ReadsLast (parse whole)
      fun table (content : RawServiceTable) => content.parsed table whole.header.sectionId := by
  refine .after fun onid => ?_
  exact (servicesFrom_readsLast whole _).within (⟨onid, 0, ·⟩) fun table raws => rfl

end ServiceSection

end DvbScan
