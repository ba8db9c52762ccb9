import DvbScan.Proofs.CheckedText

/-!
# Units of broadcast text

A text in the default table is made of units: characters, characters with a diacritic in front, control bytes and
bytes that stand for nothing. No diacritic waits between two units, so a text is decoded unit by unit, and what comes
before a unit does not matter to it. No character of the control range is ever given.
-/

namespace DvbScan.BroadcastText

/-- The byte stands for a character by itself: it is ASCII, or the table lists a character for it. -/
inductive Shows : UInt8 → Char → Prop where
  | ascii {byte : UInt8} (low : byte.toNat < 0x80) : Shows byte (Char.ofNat byte.toNat)
  | listed {byte : UInt8} {char : Char} (high : 0x9F < byte.toNat)
    (entry : latinTable[byte.toNat - 0xA0]? = some char) (mapped : char ≠ ' ') : Shows byte char

structure Letter where
  byte : UInt8
  char : Char
  shows : Shows byte char

structure Diacritic where
  byte : UInt8
  mark : Char
  marks : combiningMark? byte = some mark

/-- What a text in the default table is made of. -/
inductive TextUnit where
  | plain (letter : Letter)
  | marked (diacritic : Diacritic) (letter : Letter)
  | control (byte : UInt8) (range : 0x80 ≤ byte.toNat ∧ byte.toNat ≤ 0x9F)
  /-- A byte without a character and without a mark. -/
  | unmapped (byte : UInt8) (high : 0x9F < byte.toNat) (unmarked : combiningMark? byte = none)
    (unlisted : ∀ char, ¬Shows byte char)

namespace TextUnit

def encode : TextUnit → Bytes
  | plain letter => [letter.byte]
  | marked diacritic letter => [diacritic.byte, letter.byte]
  | control byte _ => [byte]
  | unmapped byte _ _ _ => [byte]

/-- The mark follows its letter, and of the control bytes one is a new line. -/
def text : TextUnit → List Char
  | plain letter => [letter.char]
  | marked diacritic letter => [letter.char, diacritic.mark]
  | control byte _ => if byte = 0x8A then ['\n'] else []
  | unmapped _ _ _ _ => []

def encodeAll (units : List TextUnit) : Bytes := units.flatMap encode

def textAll (units : List TextUnit) : List Char := units.flatMap text

end TextUnit

variable {byte : UInt8} {char mark : Char}

theorem range_of_combiningMark? (marks : combiningMark? byte = some mark) :
    0xC0 < byte.toNat ∧ byte.toNat ≤ 0xCF ∧ 0x300 ≤ mark.toNat := by
  unfold combiningMark? at marks
  split at marks
  all_goals first
    | cases marks
      rename_i code
      rw [code]
      decide
    | cases marks

theorem latinTable_of_diacritic {place : Nat} (after : 0x20 < place) (before : place ≤ 0x2F) :
    latinTable[place]? = some ' ' := by
  have row : ∀ place < 0x30, 0x20 < place → latinTable[place]? = some ' ' := by decide +kernel
  exact row place (by omega) after

theorem Shows.combiningMark?_eq_none (shows : Shows byte char) : combiningMark? byte = none := by
  cases marks : combiningMark? byte with
  | none => rfl
  | some mark =>
    obtain ⟨above, below, -⟩ := range_of_combiningMark? marks
    cases shows with
    | ascii low => omega
    | listed high entry mapped =>
      rw [latinTable_of_diacritic (by omega) (by omega)] at entry
      exact absurd (Option.some.inj entry).symm mapped

theorem latinChar?_of_high (high : 0x9F < byte.toNat) :
    latinChar? byte = (latinTable[byte.toNat - 0xA0]?).filter (· ≠ ' ') := by
  unfold latinChar?
  simp only
  rw [if_neg (by omega), if_neg (by omega), if_neg (by omega)]
  split
  next blank => rw [blank]; rfl
  next absent => rw [absent]; rfl
  next char mapped entry =>
    rw [entry, Option.filter_some, if_pos]
    exact decide_eq_true fun blank => mapped (blank ▸ rfl)

theorem latinChar?_eq_some_iff_of_high (high : 0x9F < byte.toNat) :
    latinChar? byte = some char ↔ Shows byte char := by
  rw [latinChar?_of_high high, Option.filter_eq_some_iff]
  constructor
  · rintro ⟨entry, mapped⟩
    exact .listed high entry (of_decide_eq_true mapped)
  · intro shows
    cases shows with
    | ascii low => omega
    | listed _ entry mapped => exact ⟨entry, decide_eq_true mapped⟩

theorem Shows.latinChar?_eq (shows : Shows byte char) : latinChar? byte = some char := by
  cases shows with
  | ascii low =>
    unfold latinChar?
    exact if_pos low
  | listed high entry mapped => exact (latinChar?_eq_some_iff_of_high high).mpr (.listed high entry mapped)

theorem latinChar?_of_control (range : 0x80 ≤ byte.toNat ∧ byte.toNat ≤ 0x9F) :
    latinChar? byte = if byte = 0x8A then some '\n' else none := by
  have newLine : byte.toNat = 0x8A ↔ byte = 0x8A := UInt8.toNat_inj (b := 0x8A)
  unfold latinChar?
  simp only [newLine]
  rw [if_neg (by omega), if_pos (by omega : byte.toNat < 0xA0)]

theorem combiningMark?_of_control (range : 0x80 ≤ byte.toNat ∧ byte.toNat ≤ 0x9F) :
    combiningMark? byte = none := by
  cases marks : combiningMark? byte with
  | none => rfl
  | some mark =>
    have above := (range_of_combiningMark? marks).1
    omega

/-- Between two units nothing waits. -/
theorem decodeLatin_encode (unit : TextUnit) (rest : Bytes) :
    decodeLatin (unit.encode ++ rest) = unit.text ++ decodeLatin rest := by
  unfold decodeLatin
  cases unit with
  | plain letter =>
    simp only [TextUnit.encode, TextUnit.text, List.singleton_append, decodeLatinFrom,
      letter.shows.combiningMark?_eq_none, letter.shows.latinChar?_eq]
    rfl
  | marked diacritic letter =>
    simp only [TextUnit.encode, TextUnit.text, List.cons_append, List.nil_append, decodeLatinFrom,
      diacritic.marks, letter.shows.combiningMark?_eq_none, letter.shows.latinChar?_eq]
    rfl
  | control byte range =>
    simp only [TextUnit.encode, TextUnit.text, List.singleton_append, decodeLatinFrom,
      combiningMark?_of_control range, latinChar?_of_control range]
    by_cases newLine : byte = 0x8A
    · rw [if_pos newLine, if_pos newLine]
      rfl
    · rw [if_neg newLine, if_neg newLine]
      rfl
  | unmapped byte high unmarked unlisted =>
    have nothing : latinChar? byte = none := by
      rw [Option.eq_none_iff_forall_ne_some]
      exact fun char shows => unlisted char ((latinChar?_eq_some_iff_of_high high).mp shows)
    simp only [TextUnit.encode, TextUnit.text, List.singleton_append, decodeLatinFrom, unmarked, nothing]
    rfl

theorem decodeLatin_encodeAll (units : List TextUnit) (rest : Bytes) :
    decodeLatin (TextUnit.encodeAll units ++ rest) = TextUnit.textAll units ++ decodeLatin rest := by
  induction units with
  | nil => rfl
  | cons unit units ih =>
    unfold TextUnit.encodeAll TextUnit.textAll at ih ⊢
    rw [List.flatMap_cons, List.flatMap_cons, List.append_assoc, decodeLatin_encode, ih, List.append_assoc]

/-- The first byte selects no other table. -/
def BeginsPlainly (bytes : Bytes) : Prop := ∃ first ∈ bytes.head?, 0x20 ≤ first.toNat

theorem decodeChars_of_beginsPlainly [HanDecoders] {bytes : Bytes} (plainly : BeginsPlainly bytes) :
    decodeChars bytes = decodeLatin bytes := by
  obtain ⟨first, head, low⟩ := plainly
  obtain ⟨rest, rfl⟩ := List.head?_eq_some_iff.mp head
  exact if_pos low

theorem BeginsPlainly.append {bytes : Bytes} (plainly : BeginsPlainly bytes) (rest : Bytes) :
    BeginsPlainly (bytes ++ rest) := by
  obtain ⟨first, head, low⟩ := plainly
  exact ⟨first, by rw [List.head?_append, head]; rfl, low⟩

def OutsideControls (char : Char) : Prop := char.toNat < 0x80 ∨ 0x9F < char.toNat

theorem outsideControls_of_latinTable : ∀ char ∈ latinTable, OutsideControls char := by
  have row : latinTable.all (fun char => char.toNat < 0x80 || 0x9F < char.toNat) = true := by decide +kernel
  intro char member
  have outside := List.all_eq_true.mp row char member
  rwa [Bool.or_eq_true, decide_eq_true_eq, decide_eq_true_eq] at outside

theorem outsideControls_of_latinChar? (found : latinChar? byte = some char) : OutsideControls char := by
  by_cases high : 0x9F < byte.toNat
  · rw [latinChar?_of_high high, Option.filter_eq_some_iff] at found
    exact outsideControls_of_latinTable char (List.mem_of_getElem? found.1)
  · unfold latinChar? at found
    simp only at found
    split at found
    next low =>
      have codes : ∀ code < 0x80, (Char.ofNat code).toNat = code := by decide
      cases found
      left
      rwa [codes _ low]
    next =>
      split at found
      · cases found
        exact .inl (by decide)
      · rw [if_pos (by omega)] at found
        cases found

theorem outsideControls_of_mem_decodeLatinFrom {waiting : Option Char} {bytes : Bytes}
    (outside : ∀ mark ∈ waiting, OutsideControls mark) :
    ∀ char ∈ decodeLatinFrom waiting bytes, OutsideControls char := by
  induction bytes generalizing waiting with
  | nil => exact List.forall_mem_nil _
  | cons byte rest ih =>
    unfold decodeLatinFrom
    split
    next mark marks =>
      refine ih fun other same => ?_
      cases same
      have above := (range_of_combiningMark? marks).2.2
      exact .inr (by omega)
    next =>
      split
      next first shown =>
        intro char member
        rcases List.mem_cons.mp member with rfl | later
        · exact outsideControls_of_latinChar? shown
        · rcases List.mem_append.mp later with mark | later
          · exact outside char (Option.mem_toList.mp mark)
          · exact ih (fun _ absent => by cases absent) char later
      next => exact ih outside

/-- A text of units that begins plainly gives the texts of its units in order, and what follows it is decoded as if
nothing were before it; a machine decodes it in the same way. Whatever such a text is made of, none of its characters
is in the control range. -/
theorem decodes_unit_by_unit [HanDecoders] :
    (∀ units : List TextUnit, BeginsPlainly (TextUnit.encodeAll units) →
      decode (TextUnit.encodeAll units) = String.ofList (TextUnit.textAll units) ∧
        (∀ rest, decode (TextUnit.encodeAll units ++ rest) =
          String.ofList (TextUnit.textAll units) ++ String.ofList (decodeLatin rest)) ∧
        (Checked.decode (TextUnit.encodeAll units)).Gives (.ok (String.ofList (TextUnit.textAll units)))) ∧
    ∀ bytes, BeginsPlainly bytes →
      ∀ char ∈ (decode bytes).toList, ¬(0x80 ≤ char.toNat ∧ char.toNat ≤ 0x9F) := by
  constructor
  · intro units plainly
    have continued (rest : Bytes) : decode (TextUnit.encodeAll units ++ rest) =
        String.ofList (TextUnit.textAll units) ++ String.ofList (decodeLatin rest) := by
      unfold decode
      rw [decodeChars_of_beginsPlainly (plainly.append rest), decodeLatin_encodeAll, String.ofList_append]
    have alone : decode (TextUnit.encodeAll units) = String.ofList (TextUnit.textAll units) := by
      have whole := continued []
      rwa [List.append_nil, show decodeLatin [] = [] from rfl, String.ofList_nil, String.append_empty] at whole
    refine ⟨alone, continued, Machine.gives_of ?_⟩
    rw [Checked.decode_eq, alone]
    rfl
  · intro bytes plainly char member
    unfold decode at member
    rw [String.toList_ofList, decodeChars_of_beginsPlainly plainly] at member
    rcases outsideControls_of_mem_decodeLatinFrom (fun _ absent => by cases absent) char member with low | high
    · omega
    · omega

/-! A name with an accent, a new line, two bytes that stand for nothing and a sign of the upper half. -/

namespace AccentedName

open scoped HanDecoders

def ascii (byte : UInt8) (low : byte.toNat < 0x80) : TextUnit := .plain ⟨byte, _, .ascii low⟩

def acute : Diacritic := ⟨0xC2, '\u0301', rfl⟩

def degree : Letter := ⟨0xB0, '°', .listed (by decide) (by decide +kernel) (by decide)⟩

theorem unlisted (char : Char) : ¬Shows 0xC9 char := by
  rintro (low | ⟨-, entry, mapped⟩)
  · exact absurd low (by decide)
  · rw [show latinTable[(0xC9 : UInt8).toNat - 0xA0]? = some ' ' by decide +kernel] at entry
    exact mapped (Option.some.inj entry).symm

def units : List TextUnit :=
  [ascii 0x43 (by decide), ascii 0x61 (by decide), ascii 0x66 (by decide),
    .marked acute ⟨0x65, 'e', .ascii (by decide)⟩, .control 0x8A (by decide), .control 0x86 (by decide),
    .unmapped 0xC9 (by decide) rfl unlisted, .plain degree]

def bytes : Bytes := [0x43, 0x61, 0x66, 0xC2, 0x65, 0x8A, 0x86, 0xC9, 0xB0]

def name : String := "Cafe\u0301\n°"

/-- A diacritic behind the text marks nothing of it. -/
theorem decode_accented_name :
    BeginsPlainly bytes ∧ bytes = TextUnit.encodeAll units ∧ decode bytes = name ∧
      decode (bytes ++ [0xC2, 0x41]) = name ++ "A\u0301" ∧ (Checked.decode bytes).Gives (.ok name) ∧
      ∀ char ∈ name.toList, ¬(0x80 ≤ char.toNat ∧ char.toNat ≤ 0x9F) := by
  have plainly : BeginsPlainly bytes := ⟨0x43, rfl, by decide⟩
  obtain ⟨unit_by_unit, outside⟩ := decodes_unit_by_unit
  obtain ⟨whole, continued, machine⟩ := unit_by_unit units plainly
  have text : String.ofList (TextUnit.textAll units) = name := by decide
  rw [text] at whole machine
  refine ⟨plainly, rfl, whole, ?_, machine, ?_⟩
  · have behind := continued [0xC2, 0x41]
    rw [text] at behind
    exact behind
  · have chars := outside bytes plainly
    change ∀ char ∈ (decode (TextUnit.encodeAll units)).toList, _ at chars
    rwa [whole] at chars

end AccentedName

end DvbScan.BroadcastText
