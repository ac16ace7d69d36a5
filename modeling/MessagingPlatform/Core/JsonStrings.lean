import MessagingPlatform.Core.Decimal

/-!
# JSON string literals

`quote` writes a text the way package `encoding/json` does: control characters
and the characters that matter to HTML are escaped.  `readString` reads any
literal, with all escapes of the grammar and pairs of surrogates, and gives back
every text that was quoted.
-/

namespace MessagingPlatform.JsonStrings

section Writing

/-- A digit of the alphabet `0123456789abcdef`. -/
def hexDigit (value : ℕ) : Char := Nat.digitChar value

/-- A character that is written as four hexadecimal digits. -/
def unicodeEscape (code : ℕ) : List Char :=
  ['\\', 'u', hexDigit (code / 4096 % 16), hexDigit (code / 256 % 16),
    hexDigit (code / 16 % 16), hexDigit (code % 16)]

/-- Characters with a meaning in HTML or in JavaScript. -/
def isHTML (c : Char) : Bool :=
  c = '<' || c = '>' || c = '&' || c = '\u2028' || c = '\u2029'

/-- A character within a string literal. -/
def escape (c : Char) : List Char :=
  if c = '"' || c = '\\' then ['\\', c]
  else if c = '\x08' then ['\\', 'b']
  else if c = '\x0c' then ['\\', 'f']
  else if c = '\n' then ['\\', 'n']
  else if c = '\x0d' then ['\\', 'r']
  else if c = '\t' then ['\\', 't']
  else if c.toNat < 32 || isHTML c then unicodeEscape c.toNat
  else [c]

def quote (text : String) : List Char :=
  '"' :: text.toList.flatMap escape ++ ['"']

end Writing

section Reading

/-- The value of a hexadecimal digit in either case. -/
def hexValue (c : Char) : Option ℕ :=
  if '0' ≤ c ∧ c ≤ '9' then some (c.toNat - 48)
  else if 'a' ≤ c ∧ c ≤ 'f' then some (c.toNat - 87)
  else if 'A' ≤ c ∧ c ≤ 'F' then some (c.toNat - 55)
  else none

/-- Four hexadecimal digits. -/
def readHex : List Char → Option (ℕ × List Char)
  | a :: b :: c :: d :: rest => do
      let a ← hexValue a
      let b ← hexValue b
      let c ← hexValue c
      let d ← hexValue d
      some (4096 * a + 256 * b + 16 * c + d, rest)
  | _ => none

/-- The character that two surrogates encode. -/
def decodeSurrogates (high low : ℕ) : Option Char :=
  if 0xd800 ≤ high ∧ high < 0xdc00 ∧ 0xdc00 ≤ low ∧ low < 0xe000 then
    some (Char.ofNat (0x10000 + (high - 0xd800) * 1024 + (low - 0xdc00)))
  else none

/-- What follows the `\u` of an escape.  A surrogate without its partner reads
as the replacement character. -/
def readUnicode (text : List Char) : Option (Char × List Char) := do
  let (code, rest) ← readHex text
  if 0xd800 ≤ code ∧ code < 0xe000 then
    match rest with
    | '\\' :: 'u' :: more =>
        match readHex more with
        | none => some ('\ufffd', rest)
        | some (low, others) =>
            match decodeSurrogates code low with
            | none => some ('\ufffd', rest)
            | some c => some (c, others)
    | _ => some ('\ufffd', rest)
  else some (Char.ofNat code, rest)

/-- What follows the backslash of an escape. -/
def readEscape : List Char → Option (Char × List Char)
  | [] => none
  | c :: rest =>
      if c = 'u' then readUnicode rest
      else if c = 'b' then some ('\x08', rest)
      else if c = 'f' then some ('\x0c', rest)
      else if c = 'n' then some ('\n', rest)
      else if c = 'r' then some ('\x0d', rest)
      else if c = 't' then some ('\t', rest)
      else if c = '"' || c = '\\' || c = '/' then some (c, rest)
      else none

/-- One character of a string literal. -/
def readChar : List Char → Option (Char × List Char)
  | [] => none
  | c :: rest =>
      if c = '\\' then readEscape rest
      else if c.toNat < 32 then none
      else some (c, rest)

/-- A string literal after its opening quote. -/
def readString : ℕ → List Char → Option (List Char × List Char)
  | 0, _ => none
  | _ + 1, [] => none
  | fuel + 1, c :: rest =>
      if c = '"' then some ([], rest)
      else do
        let (first, rest) ← readChar (c :: rest)
        let (others, rest) ← readString fuel rest
        some (first :: others, rest)

end Reading

section RoundTrip

theorem hexValue_hexDigit {value : ℕ} (hvalue : value < 16) :
    hexValue (hexDigit value) = some value := by
  interval_cases value <;> rfl

theorem readHex_unicodeEscape {code : ℕ} (hcode : code < 65536)
    (rest : List Char) :
    readHex ([hexDigit (code / 4096 % 16), hexDigit (code / 256 % 16),
      hexDigit (code / 16 % 16), hexDigit (code % 16)] ++ rest) =
      some (code, rest) := by
  have hsum : 4096 * (code / 4096 % 16) + 256 * (code / 256 % 16) +
      16 * (code / 16 % 16) + code % 16 = code := by omega
  simp [readHex, hexValue_hexDigit, Nat.mod_lt, hsum]

/-- A character outside the surrogates that is written in hexadecimal. -/
theorem readChar_unicodeEscape {c : Char} (hcode : c.toNat < 0xd800)
    (rest : List Char) :
    readChar (unicodeEscape c.toNat ++ rest) = some (c, rest) := by
  have hhex := readHex_unicodeEscape (show c.toNat < 65536 by omega) rest
  simp only [List.cons_append, List.nil_append] at hhex
  have hplain : ¬ (0xd800 ≤ c.toNat ∧ c.toNat < 0xe000) := by omega
  simp only [unicodeEscape, List.cons_append, List.nil_append, readChar,
    readEscape, readUnicode, hhex]
  simp [hplain, Char.ofNat_toNat]

theorem toNat_lt_of_isHTML {c : Char} (hhtml : isHTML c = true) :
    c.toNat < 0xd800 := by
  simp only [isHTML, Bool.or_eq_true, decide_eq_true_eq] at hhtml
  obtain (((rfl | rfl) | rfl) | rfl) | rfl := hhtml <;> decide

/-- Every character is read back as it was written. -/
theorem readChar_escape (c : Char) (rest : List Char) :
    readChar (escape c ++ rest) = some (c, rest) := by
  unfold escape
  split_ifs with hquote hb hf hn hr ht hcode
  · simp only [Bool.or_eq_true, decide_eq_true_eq] at hquote
    obtain rfl | rfl := hquote <;> rfl
  · rw [hb]
    rfl
  · rw [hf]
    rfl
  · rw [hn]
    rfl
  · rw [hr]
    rfl
  · rw [ht]
    rfl
  · simp only [Bool.or_eq_true, decide_eq_true_eq] at hcode
    apply readChar_unicodeEscape
    exact hcode.elim (fun hcontrol => by omega) toNat_lt_of_isHTML
  · simp only [Bool.or_eq_true, decide_eq_true_eq, not_or] at hquote hcode
    simp [readChar, hquote.2, hcode.1]

/-- What a character is written as never starts with the closing quote. -/
theorem escape_eq_cons (c : Char) :
    ∃ first others, escape c = first :: others ∧ first ≠ '"' := by
  unfold escape
  split_ifs with hquote hb hf hn hr ht hcode
  · exact ⟨'\\', _, rfl, by decide⟩
  · exact ⟨'\\', _, rfl, by decide⟩
  · exact ⟨'\\', _, rfl, by decide⟩
  · exact ⟨'\\', _, rfl, by decide⟩
  · exact ⟨'\\', _, rfl, by decide⟩
  · exact ⟨'\\', _, rfl, by decide⟩
  · exact ⟨'\\', _, rfl, by decide⟩
  · simp only [Bool.or_eq_true, decide_eq_true_eq, not_or] at hquote
    exact ⟨c, [], rfl, hquote.1⟩

theorem readString_flatMap (text rest : List Char) {fuel : ℕ}
    (hfuel : text.length < fuel) :
    readString fuel (text.flatMap escape ++ '"' :: rest) =
      some (text, rest) := by
  induction text generalizing fuel with
  | nil =>
      obtain ⟨fuel, rfl⟩ := Nat.exists_eq_add_of_lt hfuel
      simp [readString]
  | cons c text ih =>
      obtain ⟨fuel, rfl⟩ : ∃ more, fuel = more + 1 :=
        ⟨fuel - 1, by omega⟩
      obtain ⟨first, others, hescape, hfirst⟩ := escape_eq_cons c
      have hread := readChar_escape c (text.flatMap escape ++ '"' :: rest)
      rw [List.length_cons] at hfuel
      rw [hescape] at hread
      simp only [List.cons_append] at hread
      simp only [List.flatMap_cons, List.append_assoc, hescape,
        List.cons_append, readString, hfirst, if_false, hread]
      simp [ih (show text.length < fuel by omega)]

theorem length_le_length_flatMap (text : List Char) :
    text.length ≤ (text.flatMap escape).length := by
  induction text with
  | nil => simp
  | cons c text ih =>
      obtain ⟨first, others, hescape, -⟩ := escape_eq_cons c
      simp only [List.flatMap_cons, hescape, List.length_append,
        List.length_cons]
      omega

end RoundTrip

end MessagingPlatform.JsonStrings
