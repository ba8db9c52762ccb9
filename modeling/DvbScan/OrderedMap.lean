/-!
# Maps in the order of their keys

Collected topology and stored rows are listed in the order of numeric keys. A key type has a rank, which
is a number of its own for each key, and a map is the list of its entries with strictly increasing ranks;
so two maps with the same contents are equal.
-/

namespace DvbScan

/-- Keys that are ordered by a number, no two by the same. -/
class Ranked (κ : Type) where
  rank : κ → Nat
  rank_injective : ∀ first second : κ, rank first = rank second → first = second

export Ranked (rank)

instance : Ranked UInt16 where
  rank := UInt16.toNat
  rank_injective _ _ same := UInt16.toNat_inj.mp same

structure OrderedMap (κ : Type) [Ranked κ] (α : Type) where
  entries : List (κ × α)
  ordered : entries.Pairwise fun first second => rank first.1 < rank second.1

namespace OrderedMap

variable {κ α : Type} [Ranked κ]

def empty : OrderedMap κ α := ⟨[], .nil⟩

instance : Inhabited (OrderedMap κ α) := ⟨empty⟩

instance [DecidableEq κ] [DecidableEq α] : DecidableEq (OrderedMap κ α) := fun first second =>
  if same : first.entries = second.entries then
    .isTrue (by cases first; cases second; cases same; rfl)
  else .isFalse (fun equal => same (by rw [equal]))

def isEmpty (map : OrderedMap κ α) : Bool := map.entries.isEmpty

def size (map : OrderedMap κ α) : Nat := map.entries.length

def keys (map : OrderedMap κ α) : List κ := map.entries.map (·.1)

def values (map : OrderedMap κ α) : List α := map.entries.map (·.2)

def get? (map : OrderedMap κ α) (key : κ) : Option α :=
  (map.entries.find? fun entry => rank entry.1 == rank key).map (·.2)

def contains (map : OrderedMap κ α) (key : κ) : Bool := (map.get? key).isSome

/-- The entries with the one of the key changed, or put where it belongs. -/
def place (key : κ) (change : Option α → α) : List (κ × α) → List (κ × α)
  | [] => [(key, change none)]
  | entry :: rest =>
    if rank key < rank entry.1 then (key, change none) :: entry :: rest
    else if rank key = rank entry.1 then (key, change (some entry.2)) :: rest
    else entry :: place key change rest

theorem rank_of_mem_place {key : κ} {change : Option α → α} {entries : List (κ × α)} {entry : κ × α}
    (member : entry ∈ place key change entries) :
    rank entry.1 = rank key ∨ ∃ old ∈ entries, rank old.1 = rank entry.1 := by
  induction entries with
  | nil =>
    simp only [place, List.mem_singleton] at member
    exact .inl (by rw [member])
  | cons first rest ih =>
    unfold place at member
    split at member
    · rcases List.mem_cons.mp member with rfl | member
      · exact .inl rfl
      · exact .inr ⟨entry, member, rfl⟩
    · split at member
      · rcases List.mem_cons.mp member with rfl | member
        · exact .inl rfl
        · exact .inr ⟨entry, List.mem_cons_of_mem _ member, rfl⟩
      · rcases List.mem_cons.mp member with rfl | member
        · exact .inr ⟨entry, List.mem_cons_self, rfl⟩
        · rcases ih member with same | ⟨old, present, same⟩
          · exact .inl same
          · exact .inr ⟨old, List.mem_cons_of_mem _ present, same⟩

theorem pairwise_place (key : κ) (change : Option α → α) {entries : List (κ × α)}
    (ordered : entries.Pairwise fun first second => rank first.1 < rank second.1) :
    (place key change entries).Pairwise fun first second => rank first.1 < rank second.1 := by
  induction entries with
  | nil => exact List.pairwise_singleton _ _
  | cons first rest ih =>
    obtain ⟨below, tail⟩ := List.pairwise_cons.mp ordered
    unfold place
    split
    next before =>
      refine List.pairwise_cons.mpr ⟨fun entry member => ?_, ordered⟩
      rcases List.mem_cons.mp member with rfl | member
      · exact before
      · exact Nat.lt_trans before (below entry member)
    next notBefore =>
      split
      next same =>
        refine List.pairwise_cons.mpr ⟨fun entry member => ?_, tail⟩
        show rank key < rank entry.1
        rw [same]
        exact below entry member
      next different =>
        refine List.pairwise_cons.mpr ⟨fun entry member => ?_, ih tail⟩
        rcases rank_of_mem_place member with same | ⟨old, present, same⟩
        · omega
        · rw [← same]
          exact below old present

/-- Changes the value of a key, starting from none if the key is new. -/
def alter (map : OrderedMap κ α) (key : κ) (change : Option α → α) : OrderedMap κ α :=
  ⟨place key change map.entries, pairwise_place key change map.ordered⟩

def insert (map : OrderedMap κ α) (key : κ) (value : α) : OrderedMap κ α :=
  map.alter key fun _ => value

def modify (map : OrderedMap κ α) (key : κ) (change : α → α) : OrderedMap κ α :=
  match map.get? key with
  | some value => map.insert key (change value)
  | none => map

def mapValues {β : Type} (map : OrderedMap κ α) (change : κ → α → β) : OrderedMap κ β :=
  ⟨map.entries.map fun entry => (entry.1, change entry.1 entry.2), by
    rw [List.pairwise_map]
    exact map.ordered⟩

end OrderedMap

abbrev OrderedSet (κ : Type) [Ranked κ] := OrderedMap κ Unit

namespace OrderedSet

variable {κ : Type} [Ranked κ]

def insert (set : OrderedSet κ) (key : κ) : OrderedSet κ := OrderedMap.insert set key ()

def insertAll (set : OrderedSet κ) (keys : List κ) : OrderedSet κ := keys.foldl insert set

def toList (set : OrderedSet κ) : List κ := set.keys

end OrderedSet

end DvbScan
