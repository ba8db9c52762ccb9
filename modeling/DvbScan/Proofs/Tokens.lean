import DvbScan.Text.Blank
import DvbScan.Text.Decimal

/-!
# Lines of tokens

Tokens that are written with single blanks between them are read back as they are, and so is the numeral of a
number.
-/

namespace DvbScan

/-- A word that begins no comment. -/
def isToken (text : String) : Bool :=
  !text.toList.isEmpty && text.toList.all (!isBlank ·) && text.toList.head? != some '#'

theorem isToken_append {first second : String} (token : isToken first = true)
    (unbroken : second.toList.all (!isBlank ·) = true) : isToken (first ++ second) = true := by
  unfold isToken at token ⊢
  rw [Bool.and_eq_true, Bool.and_eq_true, Bool.not_eq_true', List.isEmpty_eq_false_iff] at token
  obtain ⟨⟨some_char, clean⟩, significant⟩ := token
  rw [String.toList_append, List.all_append, clean, unbroken]
  cases shape : first.toList with
  | nil => exact absurd shape some_char
  | cons c rest =>
    rw [shape] at significant
    exact significant

section Words

variable {piece rest : List Char}

theorem blankPieces_of_unbroken (unbroken : piece.all (!isBlank ·)) :
    blankPieces piece = (piece, []) := by
  induction piece with
  | nil => rfl
  | cons c piece ih =>
    rw [List.all_cons, Bool.and_eq_true, Bool.not_eq_true'] at unbroken
    simp only [blankPieces, ih unbroken.2, unbroken.1, Bool.false_eq_true, if_false]

theorem blankPieces_append_blank (unbroken : piece.all (!isBlank ·)) :
    blankPieces (piece ++ ' ' :: rest) =
      (piece, (blankPieces rest).1 :: (blankPieces rest).2) := by
  induction piece with
  | nil =>
    have blank : isBlank ' ' = true := by decide
    simp only [List.nil_append, blankPieces, blank, if_true]
  | cons c piece ih =>
    rw [List.all_cons, Bool.and_eq_true, Bool.not_eq_true'] at unbroken
    simp only [List.cons_append, blankPieces, ih unbroken.2, unbroken.1, Bool.false_eq_true, if_false]

end Words

theorem blankPieces_intercalate {token : String} {tokens : List String}
    (clean : ∀ other ∈ token :: tokens, isToken other = true) :
    blankPieces (" ".intercalate (token :: tokens)).toList =
      (token.toList, tokens.map String.toList) := by
  have unbroken : token.toList.all (!isBlank ·) := by
    have first := clean token List.mem_cons_self
    simp only [isToken, Bool.and_eq_true] at first
    exact first.1.2
  induction tokens generalizing token with
  | nil =>
    rw [String.intercalate_singleton]
    exact blankPieces_of_unbroken unbroken
  | cons next tokens ih =>
    have later : ∀ other ∈ next :: tokens, isToken other = true :=
      fun other member => clean other (List.mem_cons_of_mem _ member)
    have next_unbroken : next.toList.all (!isBlank ·) := by
      have second := later next List.mem_cons_self
      simp only [isToken, Bool.and_eq_true] at second
      exact second.1.2
    rw [String.intercalate_cons_cons, String.toList_append, String.toList_append, List.append_assoc]
    change blankPieces (token.toList ++ ' ' :: (" ".intercalate (next :: tokens)).toList) = _
    rw [blankPieces_append_blank unbroken, ih later next_unbroken]
    rfl

theorem words_intercalate {tokens : List String} (clean : ∀ token ∈ tokens, isToken token = true) :
    words (" ".intercalate tokens) = tokens := by
  cases tokens with
  | nil => rfl
  | cons token tokens =>
    unfold words
    rw [blankPieces_intercalate clean]
    change (((token :: tokens).map String.toList).filter (!·.isEmpty)).map String.ofList = _
    have kept : ((token :: tokens).map String.toList).filter (!·.isEmpty) =
        (token :: tokens).map String.toList := by
      refine List.filter_eq_self.mpr fun piece member => ?_
      obtain ⟨other, present, rfl⟩ := List.mem_map.mp member
      have shape := clean other present
      simp only [isToken, Bool.and_eq_true] at shape
      exact shape.1.1
    rw [kept, List.map_map]
    exact (List.map_congr_left fun other _ => String.ofList_toList).trans (List.map_id _)

namespace Decimal

theorem digit?_of_isDigit {c : Char} (digit : c.isDigit = true) :
    digit? c = some (c.toNat - '0'.toNat) := by
  unfold Char.isDigit at digit
  rw [Bool.and_eq_true, decide_eq_true_eq, decide_eq_true_eq] at digit
  exact if_pos ⟨digit.1, digit.2⟩

theorem continueDigits_of_isDigit {digits : List Char} (all : ∀ c ∈ digits, c.isDigit = true)
    (sofar : Nat) : continueDigits sofar digits = some (Nat.ofDigitChars 10 digits sofar) := by
  induction digits generalizing sofar with
  | nil => simp [continueDigits]
  | cons c digits ih =>
    have first := all c List.mem_cons_self
    have later := fun other member => all other (List.mem_cons_of_mem c member)
    rw [continueDigits, digit?_of_isDigit first, Nat.ofDigitChars_cons]
    exact ih later _

theorem isDigit_of_mem_write {number : Nat} {c : Char} (member : c ∈ (write number).toList) :
    c.isDigit = true := by
  unfold write at member
  rw [String.toList_ofList] at member
  exact Nat.isDigit_of_mem_toDigits (by decide) (by decide) member

theorem write_ne_nil (number : Nat) : (write number).toList ≠ [] := by
  unfold write
  rw [String.toList_ofList]
  exact Nat.toDigits_ne_nil

theorem digits?_write (number : Nat) : digits? (write number).toList = some number := by
  have value : continueDigits 0 (write number).toList =
      some (Nat.ofDigitChars 10 (write number).toList 0) :=
    continueDigits_of_isDigit (fun c => isDigit_of_mem_write) 0
  cases shape : (write number).toList with
  | nil => exact absurd shape (write_ne_nil number)
  | cons c rest =>
    rw [shape] at value
    rw [digits?, value, ← shape]
    unfold write
    rw [String.toList_ofList, Nat.ofDigitChars_ten_toDigits]

theorem readBelow?_write {number limit : Nat} (below : number < limit) :
    readBelow? limit (write number) = some number := by
  have value := digits?_write number
  unfold readBelow?
  split
  next rest shape =>
    have sign : '+'.isDigit = true := isDigit_of_mem_write (by rw [shape]; exact List.mem_cons_self)
    exact absurd sign (by decide)
  next =>
    rw [value]
    exact if_pos below

theorem readWord?_write (word : UInt32) : readWord? (write word.toNat) = some word := by
  unfold readWord?
  rw [readBelow?_write word.toNat_lt, Option.map_some, UInt32.ofNat_toNat]

theorem not_isBlank_of_isDigit {c : Char} (digit : c.isDigit = true) : isBlank c = false := by
  unfold Char.isDigit at digit
  rw [Bool.and_eq_true, decide_eq_true_eq, decide_eq_true_eq] at digit
  have low : 48 ≤ c.toNat := UInt32.le_iff_toNat_le.mp digit.1
  have high : c.toNat ≤ 57 := UInt32.le_iff_toNat_le.mp digit.2
  unfold isBlank
  simp only [Bool.or_eq_false_iff, Bool.and_eq_false_iff, decide_eq_false_iff_not,
    beq_eq_false_iff_ne]
  omega

theorem toUpper_of_isDigit {c : Char} (digit : c.isDigit = true) : c.toUpper = c := by
  unfold Char.isDigit at digit
  rw [Bool.and_eq_true, decide_eq_true_eq, decide_eq_true_eq] at digit
  have high : c.toNat ≤ 57 := UInt32.le_iff_toNat_le.mp digit.2
  refine dif_neg fun small => ?_
  have low : 97 ≤ c.toNat := UInt32.le_iff_toNat_le.mp small.1
  omega

theorem isToken_write (number : Nat) : isToken (write number) = true := by
  unfold isToken
  rw [Bool.and_eq_true, Bool.and_eq_true]
  refine ⟨⟨?_, ?_⟩, ?_⟩
  · simpa using write_ne_nil number
  · rw [List.all_eq_true]
    intro c member
    rw [not_isBlank_of_isDigit (isDigit_of_mem_write member)]
    rfl
  · rw [bne_iff_ne]
    intro comment
    have digit : '#'.isDigit = true := isDigit_of_mem_write (List.mem_of_head? comment)
    exact absurd digit (by decide)

end Decimal

end DvbScan
