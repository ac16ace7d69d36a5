import Mathlib

/-!
# Decimal numerals

Digits are read from the left.  Numerals of one width are ordered as texts the
way their numbers are, and so are texts that consist of fields of fixed widths:
the first field that differs decides.
-/

namespace MessagingPlatform.Decimal

section Reading

/-- The number that `digits` denote when they follow the digits of `sofar`. -/
def readDigits (sofar : ℕ) : List Char → Option ℕ
  | [] => some sofar
  | digit :: rest =>
      if digit.isDigit then
        readDigits (10 * sofar + (digit.toNat - '0'.toNat)) rest
      else none

/-- All characters are digits. -/
def IsNumeral (text : List Char) : Prop := ∀ digit ∈ text, digit.isDigit = true

theorem isNumeral_cons {digit : Char} {rest : List Char} :
    IsNumeral (digit :: rest) ↔ digit.isDigit = true ∧ IsNumeral rest :=
  List.forall_mem_cons

theorem IsNumeral.append {left right : List Char} (hleft : IsNumeral left)
    (hright : IsNumeral right) : IsNumeral (left ++ right) :=
  List.forall_mem_append.mpr ⟨hleft, hright⟩

theorem isNumeral_toDigits (value : ℕ) : IsNumeral (Nat.toDigits 10 value) :=
  fun _ => Nat.isDigit_of_mem_toDigits (by decide) (by decide)

theorem isNumeral_zeros (count : ℕ) : IsNumeral (List.replicate count '0') := by
  intro digit hmem
  rw [List.eq_of_mem_replicate hmem]
  rfl

theorem readDigits_eq {text : List Char} (htext : IsNumeral text)
    (sofar : ℕ) :
    readDigits sofar text = some (Nat.ofDigitChars 10 text sofar) := by
  induction text generalizing sofar with
  | nil => rfl
  | cons digit rest ih =>
      obtain ⟨hdigit, hrest⟩ := isNumeral_cons.mp htext
      rw [readDigits, if_pos hdigit, ih hrest, Nat.ofDigitChars_cons]

theorem isDigit_bounds {digit : Char} (hdigit : digit.isDigit = true) :
    48 ≤ digit.toNat ∧ digit.toNat ≤ 57 :=
  Char.isDigit_iff_toNat.mp hdigit

theorem digitValue_lt {digit : Char} (hdigit : digit.isDigit = true) :
    digit.toNat - '0'.toNat < 10 := by
  have hbounds := isDigit_bounds hdigit
  change digit.toNat - 48 < 10
  omega

theorem ofDigitChars_lt {text : List Char} (htext : IsNumeral text) :
    Nat.ofDigitChars 10 text 0 < 10 ^ text.length := by
  induction text with
  | nil => decide
  | cons digit rest ih =>
      obtain ⟨hdigit, hrest⟩ := isNumeral_cons.mp htext
      have hvalue := digitValue_lt hdigit
      rw [Nat.ofDigitChars_cons, Nat.ofDigitChars_eq_ofDigitChars_zero]
      have hbound := ih hrest
      rw [List.length_cons, pow_succ]
      nlinarith

end Reading

section Order

variable {A : Type} [LinearOrder A]

/-- The first difference decides, whatever follows it. -/
theorem append_lt_append {left right : List A}
    (hlength : left.length = right.length) (hlt : left < right)
    (leftRest rightRest : List A) : left ++ leftRest < right ++ rightRest := by
  induction left generalizing right with
  | nil =>
      rw [List.length_nil, eq_comm, List.length_eq_zero_iff] at hlength
      subst hlength
      exact (lt_irrefl _ hlt).elim
  | cons head tail ih =>
      cases right with
      | nil => cases hlength
      | cons other others =>
          rw [List.cons_lt_cons_iff] at hlt
          rw [List.cons_append, List.cons_append, List.cons_lt_cons_iff]
          refine hlt.imp_right fun ⟨heq, hrest⟩ => ⟨heq, ?_⟩
          exact ih (Nat.succ.inj hlength) hrest

/-- Digits of one width are ordered like the numbers they denote. -/
theorem ofDigitChars_lt_of_lt {left right : List Char}
    (hleft : IsNumeral left) (hright : IsNumeral right)
    (hlength : left.length = right.length) (hlt : left < right) (sofar : ℕ) :
    Nat.ofDigitChars 10 left sofar < Nat.ofDigitChars 10 right sofar := by
  induction left generalizing right sofar with
  | nil =>
      rw [List.length_nil, eq_comm, List.length_eq_zero_iff] at hlength
      subst hlength
      exact (lt_irrefl _ hlt).elim
  | cons digit rest ih =>
      cases right with
      | nil => cases hlength
      | cons other others =>
          obtain ⟨hdigit, hrest⟩ := isNumeral_cons.mp hleft
          obtain ⟨hother, hothers⟩ := isNumeral_cons.mp hright
          have htail : rest.length = others.length := Nat.succ.inj hlength
          rw [Nat.ofDigitChars_cons, Nat.ofDigitChars_cons]
          rcases List.cons_lt_cons_iff.mp hlt with hhead | ⟨rfl, hless⟩
          · -- The smaller digit is outweighed by nothing that follows it.
            have hbound := ofDigitChars_lt hrest
            have hvalue : digit.toNat - '0'.toNat + 1 ≤
                other.toNat - '0'.toNat := by
              have hbounds := isDigit_bounds hdigit
              have hless : digit.toNat < other.toNat := hhead
              change digit.toNat - 48 + 1 ≤ other.toNat - 48
              omega
            rw [Nat.ofDigitChars_eq_ofDigitChars_zero,
              Nat.ofDigitChars_eq_ofDigitChars_zero (l := others), ← htail]
            nlinarith
          · exact ih hrest hothers htail hless _

theorem lt_of_ofDigitChars_lt {left right : List Char}
    (hleft : IsNumeral left) (hright : IsNumeral right)
    (hlength : left.length = right.length)
    (hlt : Nat.ofDigitChars 10 left 0 < Nat.ofDigitChars 10 right 0) :
    left < right := by
  rcases lt_trichotomy left right with hless | rfl | hgreater
  · exact hless
  · exact (lt_irrefl _ hlt).elim
  · exact (hlt.trans (ofDigitChars_lt_of_lt hright hleft hlength.symm hgreater
      0)).false.elim

end Order

section Padding

variable {width value left right : ℕ}

/-- A number with zeros before it, up to a width. -/
def padded (width value : ℕ) : List Char :=
  List.replicate (width - (Nat.toDigits 10 value).length) '0' ++
    Nat.toDigits 10 value

theorem length_padded (hwidth : 0 < width) (hvalue : value < 10 ^ width) :
    (padded width value).length = width := by
  have hdigits : (Nat.toDigits 10 value).length ≤ width :=
    (Nat.length_toDigits_le_iff (by decide) hwidth).mpr hvalue
  rw [padded, List.length_append, List.length_replicate]
  omega

theorem isNumeral_padded (width value : ℕ) : IsNumeral (padded width value) :=
  (isNumeral_zeros _).append (isNumeral_toDigits value)

/-- The padding does not change the number that is read. -/
theorem ofDigitChars_padded (width value : ℕ) :
    Nat.ofDigitChars 10 (padded width value) 0 = value := by
  rw [padded, Nat.ofDigitChars_append, Nat.ofDigitChars_replicate_zero,
    Nat.mul_zero]
  exact Nat.ofDigitChars_toDigits (by decide) (by decide)

theorem readDigits_padded (width value : ℕ) :
    readDigits 0 (padded width value) = some value := by
  rw [readDigits_eq (isNumeral_padded width value), ofDigitChars_padded]

theorem padded_lt (hwidth : 0 < width) (hright : right < 10 ^ width)
    (hlt : left < right) : padded width left < padded width right := by
  apply lt_of_ofDigitChars_lt (isNumeral_padded _ _) (isNumeral_padded _ _)
  · rw [length_padded hwidth (hlt.trans hright), length_padded hwidth hright]
  · rwa [ofDigitChars_padded, ofDigitChars_padded]

end Padding

section Fields

/-- A field of digits with the mark that ends it. -/
structure Field where
  width : ℕ
  mark : Char

/-- The value can be written in the field. -/
def Field.Fits (field : Field) (value : ℕ) : Prop :=
  0 < field.width ∧ value < 10 ^ field.width

def Field.text (field : Field) (value : ℕ) : List Char :=
  padded field.width value ++ [field.mark]

/-- Values one after the other in their fields. -/
def fieldsText : List Field → List ℕ → List Char
  | field :: fields, value :: values =>
      field.text value ++ fieldsText fields values
  | _, _ => []

theorem Field.Fits.length {field : Field} {value : ℕ}
    (hfits : field.Fits value) :
    (field.text value).length = field.width + 1 := by
  rw [Field.text, List.length_append, length_padded hfits.1 hfits.2]
  rfl

/-- Texts of the same fields are ordered like the lists of their values. -/
theorem fieldsText_lt {fields : List Field} {left right : List ℕ}
    (hleft : List.Forall₂ Field.Fits fields left)
    (hright : List.Forall₂ Field.Fits fields right) (hlt : left < right) :
    fieldsText fields left < fieldsText fields right := by
  induction hleft generalizing right with
  | nil =>
      cases hright
      exact (lt_irrefl _ hlt).elim
  | @cons field value fields values hvalue _ ih =>
      cases hright with
      | @cons _ other _ others hother hothers =>
          rw [fieldsText, fieldsText]
          rcases List.cons_lt_cons_iff.mp hlt with hless | ⟨rfl, hrest⟩
          · have hpadded := padded_lt hother.1 hother.2 hless
            have hlength : (padded field.width value).length =
                (padded field.width other).length := by
              rw [length_padded hvalue.1 hvalue.2,
                length_padded hother.1 hother.2]
            simp only [Field.text, List.append_assoc]
            exact append_lt_append hlength hpadded _ _
          · exact List.append_left_lt (ih hothers hrest)

end Fields

end MessagingPlatform.Decimal
