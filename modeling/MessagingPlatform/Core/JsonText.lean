import MessagingPlatform.Core.JsonStrings

/-!
# JSON values as texts

A reader needs the extent of a value before its type is known: `skipValue` finds
its end, and `readElements` and `readMembers` cut an array or an object into the
texts of its parts.  `Value depth text` says that `text` is found again in front
of whatever may follow a value; arrays and objects of values are values.
-/

namespace MessagingPlatform.JsonText

open JsonStrings

section Reading

def isSpace (c : Char) : Bool := c = ' ' || c = '\t' || c = '\x0d' || c = '\n'

def skipSpace (text : List Char) : List Char := text.dropWhile isSpace

/-- At least one digit. -/
def skipDigits : List Char → Option (List Char)
  | [] => none
  | c :: rest =>
      if c.isDigit then some (rest.dropWhile Char.isDigit) else none

/-- The integer part of a number, which has no superfluous zeros. -/
def skipNatural : List Char → Option (List Char)
  | [] => none
  | c :: rest => if c = '0' then some rest else skipDigits (c :: rest)

def skipSign (signs : List Char) : List Char → List Char
  | [] => []
  | c :: rest => if c ∈ signs then rest else c :: rest

def skipFraction : List Char → Option (List Char)
  | [] => some []
  | c :: rest => if c = '.' then skipDigits rest else some (c :: rest)

def skipExponent : List Char → Option (List Char)
  | [] => some []
  | c :: rest =>
      if c = 'e' || c = 'E' then skipDigits (skipSign ['+', '-'] rest)
      else some (c :: rest)

def skipNumber (text : List Char) : Option (List Char) := do
  let rest ← skipNatural (skipSign ['-'] text)
  let rest ← skipFraction rest
  skipExponent rest

def skipWord (word text : List Char) : Option (List Char) :=
  if text.take word.length = word then some (text.drop word.length) else none

/-- A string, one of the three words, or a number. -/
def skipScalar : List Char → Option (List Char)
  | [] => none
  | c :: rest =>
      if c = '"' then (readString (rest.length + 1) rest).map Prod.snd
      else if c = 'n' then skipWord ['u', 'l', 'l'] rest
      else if c = 't' then skipWord ['r', 'u', 'e'] rest
      else if c = 'f' then skipWord ['a', 'l', 's', 'e'] rest
      else skipNumber (c :: rest)

/-- The text in front of `rest`. -/
def consumed (text rest : List Char) : List Char :=
  text.take (text.length - rest.length)

/-- The text of a value, given how to find its end. -/
def readRaw (skip : List Char → Option (List Char)) (text : List Char) :
    Option (List Char × List Char) := do
  let rest ← skip text
  some (consumed text rest, rest)

/-- A key with the text of its value. -/
def readMember (skip : List Char → Option (List Char)) :
    List Char → Option ((String × List Char) × List Char)
  | [] => none
  | c :: rest =>
      if c = '"' then do
        let (key, rest) ← readString (rest.length + 1) rest
        match skipSpace rest with
        | [] => none
        | c :: rest =>
            if c = ':' then do
              let (raw, rest) ← readRaw skip (skipSpace rest)
              some ((String.ofList key, raw), rest)
            else none
      else none

variable {A : Type} (item : List Char → Option (A × List Char)) (close : Char)

/-- One or more items with commas between them, up to the closing bracket. -/
def readItems : ℕ → List Char → Option (List A × List Char)
  | 0, _ => none
  | fuel + 1, text => do
      let (first, rest) ← item (skipSpace text)
      match skipSpace rest with
      | [] => none
      | c :: rest =>
          if c = ',' then do
            let (others, rest) ← readItems fuel rest
            some (first :: others, rest)
          else if c = close then some ([first], rest)
          else none

/-- What follows an opening bracket. -/
def readSequence (text : List Char) : Option (List A × List Char) :=
  match skipSpace text with
  | [] => none
  | c :: rest =>
      if c = close then some ([], rest)
      else readItems item close (text.length + 1) text

omit item close

/-- The rest of a text after its first value, which nests at most `depth` arrays
and objects. -/
def skipValue : ℕ → List Char → Option (List Char)
  | _, [] => none
  | 0, c :: rest => skipScalar (c :: rest)
  | depth + 1, c :: rest =>
      if c = '[' then
        (readSequence (readRaw (skipValue depth)) ']' rest).map Prod.snd
      else if c = '{' then
        (readSequence (readMember (skipValue depth)) '}' rest).map Prod.snd
      else skipScalar (c :: rest)

/-- A whole text is one value with space around it. -/
def isValid (limit : ℕ) (text : List Char) : Bool :=
  match skipValue limit (skipSpace text) with
  | none => false
  | some rest => skipSpace rest = []

/-- The elements of an array. -/
def readElements (limit : ℕ) : List Char → Option (List (List Char))
  | [] => none
  | c :: rest =>
      if c = '[' then
        (readSequence (readRaw (skipValue limit)) ']' rest).map Prod.fst
      else none

/-- The members of an object. -/
def readMembers (limit : ℕ) : List Char → Option (List (String × List Char))
  | [] => none
  | c :: rest =>
      if c = '{' then
        (readSequence (readMember (skipValue limit)) '}' rest).map Prod.fst
      else none

/-- The text of a string literal. -/
def unquote : List Char → Option String
  | [] => none
  | c :: rest =>
      if c = '"' then
        (readString (rest.length + 1) rest).map (String.ofList ·.1)
      else none

end Reading

section Writing

/-- Items with commas between them. -/
def joined : List (List Char) → List Char
  | [] => []
  | [item] => item
  | item :: next :: items => item ++ ',' :: joined (next :: items)

def array (elements : List (List Char)) : List Char :=
  '[' :: joined elements ++ [']']

def member (entry : String × List Char) : List Char :=
  quote entry.1 ++ ':' :: entry.2

def object (members : List (String × List Char)) : List Char :=
  '{' :: joined (members.map member) ++ ['}']

def natural (value : ℕ) : List Char := Nat.toDigits 10 value

def integer (value : ℤ) : List Char :=
  if value < 0 then '-' :: natural value.natAbs else natural value.natAbs

def null : List Char := ['n', 'u', 'l', 'l']

def boolean (value : Bool) : List Char :=
  if value then ['t', 'r', 'u', 'e'] else ['f', 'a', 'l', 's', 'e']

/-- Where a character of a text stands. -/
inductive Place
  | outside
  | inside
  | escaped

/-- Space between tokens is dropped, and characters that matter to HTML are
escaped. -/
def strip : Place → List Char → List Char
  | _, [] => []
  | .outside, c :: rest =>
      if isSpace c then strip .outside rest
      else if c = '"' then c :: strip .inside rest
      else c :: strip .outside rest
  | .inside, c :: rest =>
      if c = '"' then c :: strip .outside rest
      else if c = '\\' then c :: strip .escaped rest
      else if isHTML c then unicodeEscape c.toNat ++ strip .inside rest
      else c :: strip .inside rest
  | .escaped, c :: rest => c :: strip .inside rest

/-- A valid text without the space in it. -/
def compact (limit : ℕ) (text : List Char) : Option (List Char) :=
  if isValid limit text then some (strip .outside text) else none

end Writing

section Items

/-- What may follow a value that is written without space. -/
inductive Ends : List Char → Prop
  | nil : Ends []
  | comma (rest : List Char) : Ends (',' :: rest)
  | bracket (rest : List Char) : Ends (']' :: rest)
  | brace (rest : List Char) : Ends ('}' :: rest)

/-- An item starts with neither space nor a closing bracket. -/
structure Opens (text : List Char) (c : Char) : Prop where
  head : text.head? = some c
  notSpace : isSpace c = false
  notBracket : c ≠ ']'
  notBrace : c ≠ '}'

/-- `read` finds `value` at the start of `text`, whatever ends it. -/
structure Reads {A : Type} (read : List Char → Option (A × List Char))
    (text : List Char) (value : A) : Prop where
  opens : ∃ c, Opens text c
  found : ∀ rest, Ends rest → read (text ++ rest) = some (value, rest)

theorem consumed_append (text rest : List Char) :
    consumed (text ++ rest) rest = text := by
  simp [consumed]

theorem Opens.append {text : List Char} {c : Char} (hopens : Opens text c)
    (rest : List Char) :
    ∃ others, text ++ rest = c :: others := by
  cases text with
  | nil => cases hopens.head
  | cons first others =>
      cases hopens.head
      exact ⟨others ++ rest, rfl⟩

theorem skipSpace_of_opens {text : List Char} {c : Char}
    (hopens : Opens text c) (rest : List Char) :
    skipSpace (text ++ rest) = text ++ rest := by
  obtain ⟨others, htext⟩ := hopens.append rest
  rw [htext, skipSpace, List.dropWhile_cons_of_neg]
  simp [hopens.notSpace]

theorem skipSpace_of_ends {rest : List Char} (hends : Ends rest) :
    skipSpace rest = rest := by
  cases hends <;> rfl

/-- The two brackets that close a sequence. -/
def Closes (close : Char) : Prop := close = ']' ∨ close = '}'

theorem Closes.ends {close : Char} (hclose : Closes close) (rest : List Char) :
    Ends (close :: rest) := by
  obtain rfl | rfl := hclose
  · exact .bracket rest
  · exact .brace rest

theorem Closes.ne_comma {close : Char} (hclose : Closes close) :
    close ≠ ',' := by
  obtain rfl | rfl := hclose <;> decide

theorem length_le_length_joined {items : List (List Char)}
    (hopens : ∀ item ∈ items, ∃ c, Opens item c) :
    items.length ≤ (joined items).length := by
  induction items with
  | nil => simp
  | cons item items ih =>
      obtain ⟨c, hitem⟩ := hopens item (by simp)
      have hpos : 0 < item.length := by
        obtain ⟨others, htext⟩ := hitem.append []
        rw [List.append_nil] at htext
        simp [htext]
      have hrest := ih fun other hmem =>
        hopens other (List.mem_cons_of_mem _ hmem)
      cases items with
      | nil =>
          change 1 ≤ item.length
          exact hpos
      | cons next items =>
          simp only [joined, List.length_append, List.length_cons] at hrest ⊢
          omega

theorem Opens.joined {item : List Char} {c : Char} (hopens : Opens item c)
    (items : List (List Char)) : Opens (joined (item :: items)) c := by
  obtain ⟨others, hitem⟩ := hopens.append []
  rw [List.append_nil] at hitem
  refine ⟨?_, hopens.notSpace, hopens.notBracket, hopens.notBrace⟩
  cases items <;> simp [JsonText.joined, hitem]

variable {A : Type} {read : List Char → Option (A × List Char)} {close : Char}

/-- Items that are read one by one are read in sequence.  The induction is on
the items; every one but the last has a comma behind it. -/
theorem readItems_joined (hclose : Closes close) {entry : List Char × A}
    {entries : List (List Char × A)}
    (hread : ∀ e ∈ entry :: entries, Reads read e.1 e.2) (rest : List Char)
    {fuel : ℕ} (hfuel : entries.length < fuel) :
    readItems read close fuel
        (joined ((entry :: entries).map Prod.fst) ++ close :: rest) =
      some ((entry :: entries).map Prod.snd, rest) := by
  induction entries generalizing entry fuel with
  | nil =>
      obtain ⟨fuel, rfl⟩ := Nat.exists_eq_add_of_lt hfuel
      have hentry := hread entry (by simp)
      obtain ⟨c, hopens⟩ := hentry.opens
      simp only [List.map_cons, List.map_nil, joined, readItems,
        skipSpace_of_opens hopens, hentry.found _ (hclose.ends rest)]
      simp [skipSpace_of_ends (hclose.ends rest), hclose.ne_comma]
  | cons next entries ih =>
      obtain ⟨fuel, rfl⟩ : ∃ more, fuel = more + 1 := ⟨fuel - 1, by omega⟩
      have hentry := hread entry (by simp)
      obtain ⟨c, hopens⟩ := hentry.opens
      have hlength : entries.length < fuel := by simpa using hfuel
      have hothers := ih
        (fun e hmem => hread e (List.mem_cons_of_mem _ hmem)) hlength
      simp only [List.map_cons] at hothers
      simp only [List.map_cons, joined, List.append_assoc, List.cons_append,
        readItems, skipSpace_of_opens hopens, hentry.found _ (.comma _)]
      simp [skipSpace_of_ends (.comma _), hothers]

theorem readSequence_joined (hclose : Closes close)
    {entries : List (List Char × A)}
    (hread : ∀ e ∈ entries, Reads read e.1 e.2) (rest : List Char) :
    readSequence read close
        (joined (entries.map Prod.fst) ++ close :: rest) =
      some (entries.map Prod.snd, rest) := by
  cases entries with
  | nil =>
      simp [joined, readSequence, skipSpace_of_ends (hclose.ends rest)]
  | cons entry entries =>
      have hopens : ∀ item ∈ (entry :: entries).map Prod.fst,
          ∃ c, Opens item c := by
        intro item hmem
        obtain ⟨e, he, rfl⟩ := List.mem_map.mp hmem
        exact (hread e he).opens
      have hlength := length_le_length_joined hopens
      obtain ⟨c, hfirst⟩ := (hread entry (by simp)).opens
      have hjoined : Opens (joined ((entry :: entries).map Prod.fst)) c :=
        hfirst.joined _
      have hne : c ≠ close := by
        obtain rfl | rfl := hclose
        · exact hfirst.notBracket
        · exact hfirst.notBrace
      have hfuel : entries.length <
          (joined ((entry :: entries).map Prod.fst) ++
            close :: rest).length + 1 := by
        simp only [List.length_map, List.length_cons, List.length_append]
          at hlength ⊢
        omega
      have hitems := readItems_joined hclose hread rest hfuel
      obtain ⟨others, hothers⟩ := hjoined.append (close :: rest)
      rw [readSequence, skipSpace_of_opens hjoined, ← hitems, hothers]
      simp [hne]

end Items

section Values

/-- `text` is found again in front of whatever ends a value, and has no space to
lose.  It nests at most `depth` arrays and objects. -/
structure Value (depth : ℕ) (text : List Char) : Prop where
  opens : ∃ c, Opens text c
  skips : ∀ limit, depth ≤ limit → ∀ rest, Ends rest →
    skipValue limit (text ++ rest) = some rest
  stripped : ∀ rest,
    strip .outside (text ++ rest) = text ++ strip .outside rest

theorem Value.mono {depth deeper : ℕ} {text : List Char}
    (hvalue : Value depth text) (hle : depth ≤ deeper) : Value deeper text :=
  ⟨hvalue.opens, fun limit hlimit => hvalue.skips limit (hle.trans hlimit),
    hvalue.stripped⟩

theorem Value.reads {depth limit : ℕ} {text : List Char}
    (hvalue : Value depth text) (hlimit : depth ≤ limit) :
    Reads (readRaw (skipValue limit)) text text where
  opens := hvalue.opens
  found rest hends := by
    simp [readRaw, hvalue.skips limit hlimit rest hends, consumed_append]

theorem Value.isValid {depth limit : ℕ} {text : List Char}
    (hvalue : Value depth text) (hlimit : depth ≤ limit) :
    isValid limit text = true := by
  obtain ⟨c, hopens⟩ := hvalue.opens
  have hspace := skipSpace_of_opens hopens []
  have hskip := hvalue.skips limit hlimit [] .nil
  rw [List.append_nil] at hspace hskip
  simp [JsonText.isValid, hspace, hskip, skipSpace_of_ends .nil]

theorem Value.compact {depth limit : ℕ} {text : List Char}
    (hvalue : Value depth text) (hlimit : depth ≤ limit) :
    compact limit text = some text := by
  have hstrip := hvalue.stripped []
  rw [List.append_nil] at hstrip
  rw [JsonText.compact, if_pos (hvalue.isValid hlimit), hstrip]
  simp [strip]

/-- A value that is no array and no object. -/
theorem value_of_scalar {text : List Char} {c : Char} (hopens : Opens text c)
    (harray : c ≠ '[') (hobject : c ≠ '{')
    (hskip : ∀ rest, Ends rest → skipScalar (text ++ rest) = some rest)
    (hstrip : ∀ rest,
      strip .outside (text ++ rest) = text ++ strip .outside rest) :
    Value 0 text where
  opens := ⟨c, hopens⟩
  skips limit _ rest hends := by
    have hscalar := hskip rest hends
    obtain ⟨others, htext⟩ := hopens.append rest
    rw [htext] at hscalar ⊢
    cases limit with
    | zero => exact hscalar
    | succ limit =>
        simp only [skipValue, if_neg harray, if_neg hobject, hscalar]
  stripped := hstrip

end Values

section Strings

theorem readString_quote (text : String) (rest : List Char) :
    readString ((text.toList.flatMap escape ++ '"' :: rest).length + 1)
        (text.toList.flatMap escape ++ '"' :: rest) =
      some (text.toList, rest) := by
  apply readString_flatMap
  have hlength := length_le_length_flatMap text.toList
  rw [List.length_append]
  omega

theorem quote_append (text : String) (rest : List Char) :
    quote text ++ rest =
      '"' :: (text.toList.flatMap escape ++ '"' :: rest) := by
  simp [quote]

theorem opens_quote (text : String) : Opens (quote text) '"' :=
  ⟨rfl, by decide, by decide, by decide⟩

theorem strip_hexDigit {value : ℕ} (hvalue : value < 16) (rest : List Char) :
    strip .inside (hexDigit value :: rest) =
      hexDigit value :: strip .inside rest := by
  interval_cases value <;> rfl

theorem strip_escape (c : Char) (rest : List Char) :
    strip .inside (escape c ++ rest) = escape c ++ strip .inside rest := by
  unfold escape
  split_ifs with hquote hb hf hn hr ht hcode
  · rfl
  · rfl
  · rfl
  · rfl
  · rfl
  · rfl
  · have hdigit := fun value => strip_hexDigit
      (Nat.mod_lt value (show 16 > 0 by decide))
    have hescape : ∀ text, strip .inside ('\\' :: 'u' :: text) =
        '\\' :: 'u' :: strip .inside text := fun _ => rfl
    simp only [unicodeEscape, List.cons_append, List.nil_append, hescape,
      hdigit]
  · simp only [Bool.or_eq_true, decide_eq_true_eq, not_or] at hquote hcode
    simp [strip, hquote.1, hquote.2, hcode.2]

theorem strip_flatMap (text rest : List Char) :
    strip .inside (text.flatMap escape ++ rest) =
      text.flatMap escape ++ strip .inside rest := by
  induction text with
  | nil => rfl
  | cons c text ih =>
      simp only [List.flatMap_cons, List.append_assoc, strip_escape, ih]

theorem value_quote (text : String) : Value 0 (quote text) := by
  apply value_of_scalar (opens_quote text) (by decide) (by decide)
  · intro rest _
    rw [quote_append, skipScalar, if_pos rfl, readString_quote]
    rfl
  · intro rest
    rw [quote_append, quote_append]
    simp [strip, isSpace, strip_flatMap]

theorem unquote_quote (text : String) : unquote (quote text) = some text := by
  have hread := readString_quote text []
  rw [← List.append_nil (quote text), quote_append]
  simp only [unquote, if_true, hread]
  simp

end Strings

section Words

theorem value_null : Value 0 null := by
  apply value_of_scalar (c := 'n') ⟨rfl, by decide, by decide, by decide⟩
    (by decide) (by decide)
  · intro rest _
    rfl
  · intro rest
    rfl

theorem value_boolean (value : Bool) : Value 0 (boolean value) := by
  cases value
  · apply value_of_scalar (c := 'f') ⟨rfl, by decide, by decide, by decide⟩
      (by decide) (by decide)
    · intro rest _
      rfl
    · intro rest
      rfl
  · apply value_of_scalar (c := 't') ⟨rfl, by decide, by decide, by decide⟩
      (by decide) (by decide)
    · intro rest _
      rfl
    · intro rest
      rfl

end Words

section Numbers

open Decimal

/-- A character that can stand in a number. -/
def isNumeric (c : Char) : Bool := c = '-' || c.isDigit

theorem isSpace_of_isNumeric {c : Char} (hnumeric : isNumeric c = true) :
    isSpace c = false := by
  apply Bool.eq_false_of_not_eq_true
  intro hspace
  simp only [isSpace, Bool.or_eq_true, decide_eq_true_eq] at hspace
  obtain ((rfl | rfl) | rfl) | rfl := hspace <;> cases hnumeric

theorem ne_of_isNumeric {c other : Char} (hnumeric : isNumeric c = true)
    (hother : isNumeric other = false) : c ≠ other := by
  rintro rfl
  rw [hnumeric] at hother
  cases hother

theorem strip_of_isNumeric {text : List Char}
    (hnumeric : ∀ c ∈ text, isNumeric c = true) (rest : List Char) :
    strip .outside (text ++ rest) = text ++ strip .outside rest := by
  induction text with
  | nil => rfl
  | cons c text ih =>
      have hc := hnumeric c (by simp)
      have hquote := ne_of_isNumeric hc (show isNumeric '"' = false by rfl)
      have hothers := ih fun other hmem =>
        hnumeric other (List.mem_cons_of_mem _ hmem)
      simp [strip, isSpace_of_isNumeric hc, hquote, hothers]

/-- A text of numeric characters that the grammar accepts. -/
theorem value_of_number {c : Char} {others : List Char}
    (hnumeric : ∀ digit ∈ c :: others, isNumeric digit = true)
    (hskip : ∀ rest, Ends rest →
      skipNumber (c :: others ++ rest) = some rest) :
    Value 0 (c :: others) := by
  have hc := hnumeric c (by simp)
  have hne : ∀ {other : Char}, isNumeric other = false → c ≠ other :=
    fun hother => ne_of_isNumeric hc hother
  have hopens : Opens (c :: others) c :=
    ⟨rfl, isSpace_of_isNumeric hc, hne rfl, hne rfl⟩
  apply value_of_scalar hopens (hne rfl) (hne rfl)
  · intro rest hends
    rw [List.cons_append, skipScalar, if_neg (hne rfl), if_neg (hne rfl),
      if_neg (hne rfl), if_neg (hne rfl)]
    exact hskip rest hends
  · exact strip_of_isNumeric hnumeric

theorem dropWhile_digits {digits : List Char} (hdigits : IsNumeral digits)
    {rest : List Char} (hends : Ends rest) :
    (digits ++ rest).dropWhile Char.isDigit = rest := by
  rw [List.dropWhile_append_of_pos hdigits]
  cases hends <;> rfl

/-- A numeral has a superfluous zero at its head only when it is zero. -/
theorem toDigits_eq_cons (value : ℕ) : ∃ c rest,
    Nat.toDigits 10 value = c :: rest ∧ c.isDigit = true ∧ IsNumeral rest ∧
      (c = '0' → rest = []) := by
  have hnumeral := isNumeral_toDigits value
  obtain ⟨c, rest, htext⟩ :=
    List.exists_cons_of_ne_nil (Nat.toDigits_ne_nil (n := value) (b := 10))
  rw [htext, isNumeral_cons] at hnumeral
  refine ⟨c, rest, htext, hnumeral.1, hnumeral.2, ?_⟩
  -- A number with a zero in front has fewer digits than that.
  rintro rfl
  by_contra hrest
  have hlt : value < 10 ^ rest.length := by
    have hvalue : Nat.ofDigitChars 10 (Nat.toDigits 10 value) 0 = value :=
      Nat.ofDigitChars_toDigits (by decide) (by decide)
    rw [htext, Nat.ofDigitChars_cons] at hvalue
    rw [← hvalue]
    exact ofDigitChars_lt hnumeral.2
  have hlength := (Nat.length_toDigits_le_iff (by decide)
    (List.length_pos_iff.mpr hrest)).mpr hlt
  rw [htext, List.length_cons] at hlength
  omega

theorem skipFraction_of_ends {rest : List Char} (hends : Ends rest) :
    skipFraction rest = some rest := by
  cases hends <;> rfl

theorem skipExponent_of_ends {rest : List Char} (hends : Ends rest) :
    skipExponent rest = some rest := by
  cases hends <;> rfl

theorem skipNatural_natural (value : ℕ) {rest : List Char} (hends : Ends rest) :
    skipNatural (natural value ++ rest) = some rest := by
  obtain ⟨c, digits, htext, hdigit, hdigits, hzero⟩ := toDigits_eq_cons value
  rw [natural, htext, List.cons_append, skipNatural]
  split_ifs with hc
  · rw [hzero hc, List.nil_append]
  · rw [skipDigits, if_pos hdigit, dropWhile_digits hdigits hends]

theorem skipNumber_of_natural {text : List Char} {value : ℕ}
    (hsign : ∀ rest, skipSign ['-'] (text ++ rest) = natural value ++ rest)
    {rest : List Char} (hends : Ends rest) :
    skipNumber (text ++ rest) = some rest := by
  simp [skipNumber, hsign, skipNatural_natural value hends,
    skipFraction_of_ends hends, skipExponent_of_ends hends]

theorem isNumeric_of_isDigit {c : Char} (hdigit : c.isDigit = true) :
    isNumeric c = true := by
  simp [isNumeric, hdigit]

theorem isNumeric_natural (value : ℕ) :
    ∀ c ∈ natural value, isNumeric c = true :=
  fun c hmem => isNumeric_of_isDigit (isNumeral_toDigits value c hmem)

theorem skipSign_natural (value : ℕ) (rest : List Char) :
    skipSign ['-'] (natural value ++ rest) = natural value ++ rest := by
  obtain ⟨c, digits, htext, hdigit, -⟩ := toDigits_eq_cons value
  have hc : c ≠ '-' := by
    rintro rfl
    cases hdigit
  simp [natural, htext, skipSign, hc]

theorem value_natural (value : ℕ) : Value 0 (natural value) := by
  obtain ⟨c, digits, htext, -⟩ := toDigits_eq_cons value
  have htext : natural value = c :: digits := htext
  have hnumeric := isNumeric_natural value
  have hskip := fun rest (hends : Ends rest) =>
    skipNumber_of_natural (skipSign_natural value) hends
  rw [htext] at hnumeric hskip ⊢
  exact value_of_number hnumeric hskip

theorem value_integer (value : ℤ) : Value 0 (integer value) := by
  unfold integer
  split_ifs with hneg
  · apply value_of_number
    · exact List.forall_mem_cons.mpr ⟨rfl, isNumeric_natural _⟩
    · intro rest hends
      exact skipNumber_of_natural (fun rest => rfl) hends
  · exact value_natural _

end Numbers

section Containers

variable {depth limit : ℕ}

theorem strip_joined {items : List (List Char)}
    (hitems : ∀ item ∈ items, ∀ rest,
      strip .outside (item ++ rest) = item ++ strip .outside rest)
    (rest : List Char) :
    strip .outside (joined items ++ rest) =
      joined items ++ strip .outside rest := by
  induction items with
  | nil => rfl
  | cons item items ih =>
      have hitem := hitems item (by simp)
      have hothers := ih fun other hmem =>
        hitems other (List.mem_cons_of_mem _ hmem)
      cases items with
      | nil => exact hitem rest
      | cons next items =>
          simp only [joined, List.append_assoc, List.cons_append, hitem]
          simp [strip, isSpace, hothers]

theorem readSequence_array {elements : List (List Char)}
    (helements : ∀ element ∈ elements, Value depth element)
    (hlimit : depth ≤ limit) (rest : List Char) :
    readSequence (readRaw (skipValue limit)) ']'
        (joined elements ++ ']' :: rest) = some (elements, rest) := by
  have hread : ∀ e ∈ elements.map (fun text => (text, text)),
      Reads (readRaw (skipValue limit)) e.1 e.2 := by
    intro e hmem
    obtain ⟨text, htext, rfl⟩ := List.mem_map.mp hmem
    exact (helements text htext).reads hlimit
  have hsequence := readSequence_joined (.inl rfl) hread rest
  simpa [List.map_map, Function.comp_def] using hsequence

theorem readElements_array {elements : List (List Char)}
    (helements : ∀ element ∈ elements, Value depth element)
    (hlimit : depth ≤ limit) :
    readElements limit (array elements) = some elements := by
  rw [array, List.cons_append, readElements, if_pos rfl,
    readSequence_array helements hlimit]
  rfl

theorem value_array {elements : List (List Char)}
    (helements : ∀ element ∈ elements, Value depth element) :
    Value (depth + 1) (array elements) where
  opens := ⟨'[', rfl, by decide, by decide, by decide⟩
  skips limit hlimit rest _ := by
    obtain ⟨inner, rfl⟩ : ∃ inner, limit = inner + 1 := ⟨limit - 1, by omega⟩
    have hread := readSequence_array helements
      (Nat.le_of_succ_le_succ hlimit) rest
    simp only [array, List.cons_append, List.append_assoc, List.nil_append,
      skipValue, if_true, hread]
    rfl
  stripped rest := by
    have hjoined := strip_joined fun item hmem => (helements item hmem).stripped
    simp [array, strip, isSpace, hjoined]

theorem reads_member {entry : String × List Char}
    (hvalue : Value depth entry.2) (hlimit : depth ≤ limit) :
    Reads (readMember (skipValue limit)) (member entry) entry where
  opens := ⟨'"', by simp [member, quote], by decide, by decide, by decide⟩
  found rest hends := by
    obtain ⟨c, hopens⟩ := hvalue.opens
    have hraw := (hvalue.reads hlimit).found rest hends
    have hspace : skipSpace (':' :: (entry.2 ++ rest)) =
        ':' :: (entry.2 ++ rest) := rfl
    rw [member, List.append_assoc, quote_append, readMember, if_pos rfl,
      readString_quote]
    simp [hspace, skipSpace_of_opens hopens, hraw]

theorem readSequence_object {members : List (String × List Char)}
    (hmembers : ∀ entry ∈ members, Value depth entry.2)
    (hlimit : depth ≤ limit) (rest : List Char) :
    readSequence (readMember (skipValue limit)) '}'
        (joined (members.map member) ++ '}' :: rest) =
      some (members, rest) := by
  have hread : ∀ e ∈ members.map (fun entry => (member entry, entry)),
      Reads (readMember (skipValue limit)) e.1 e.2 := by
    intro e hmem
    obtain ⟨entry, hentry, rfl⟩ := List.mem_map.mp hmem
    exact reads_member (hmembers entry hentry) hlimit
  have hsequence := readSequence_joined (.inr rfl) hread rest
  simpa [List.map_map, Function.comp_def] using hsequence

theorem readMembers_object {members : List (String × List Char)}
    (hmembers : ∀ entry ∈ members, Value depth entry.2)
    (hlimit : depth ≤ limit) :
    readMembers limit (object members) = some members := by
  rw [object, List.cons_append, readMembers, if_pos rfl,
    readSequence_object hmembers hlimit]
  rfl

theorem strip_member {entry : String × List Char}
    (hvalue : Value depth entry.2) (rest : List Char) :
    strip .outside (member entry ++ rest) =
      member entry ++ strip .outside rest := by
  have hkey := (value_quote entry.1).stripped
  simp [member, hkey, strip, isSpace, hvalue.stripped]

theorem value_object {members : List (String × List Char)}
    (hmembers : ∀ entry ∈ members, Value depth entry.2) :
    Value (depth + 1) (object members) where
  opens := ⟨'{', rfl, by decide, by decide, by decide⟩
  skips limit hlimit rest _ := by
    obtain ⟨inner, rfl⟩ : ∃ inner, limit = inner + 1 := ⟨limit - 1, by omega⟩
    have hread := readSequence_object hmembers
      (Nat.le_of_succ_le_succ hlimit) rest
    simp only [object, List.cons_append, List.append_assoc, List.nil_append,
      skipValue, if_true, hread]
    rfl
  stripped rest := by
    have hjoined : ∀ rest, strip .outside
        (joined (members.map member) ++ rest) =
          joined (members.map member) ++ strip .outside rest := by
      apply strip_joined
      intro item hmem
      obtain ⟨entry, hentry, rfl⟩ := List.mem_map.mp hmem
      exact strip_member (hmembers entry hentry)
    simp [object, strip, isSpace, hjoined]

end Containers

end MessagingPlatform.JsonText
