import DvbScan.Si.Section

/-!
# Descriptor loops

A descriptor is a tag, a length and as many bytes of payload. A loop is a run of descriptors. After an
entry that the loop is too short for there is no way to find the next one, so the reading ends there.
-/

namespace DvbScan

structure RawDescriptor where
  tag : UInt8
  payload : Bytes
  deriving DecidableEq, Repr

namespace RawDescriptor

def entries (total : Nat) : Bytes → List (Except SiError RawDescriptor)
  | [] => []
  | [_] => [.error (.truncated (total - 1) 2 total)]
  | tag :: length :: rest =>
    if length.toNat ≤ rest.length then
      .ok ⟨tag, rest.take length.toNat⟩ :: entries total (rest.drop length.toNat)
    else [.error (.truncated (total - rest.length) length.toNat total)]
termination_by bytes => bytes.length
decreasing_by simp only [List.length_drop, List.length_cons]; omega

def ofLoop (loop : Bytes) : List (Except SiError RawDescriptor) :=
  entries loop.length loop

end RawDescriptor

end DvbScan
