import MessagingPlatform.Core.JsonText

/-!
# Records as JSON objects

A value is read into a target that already holds one, the way package
`encoding/json` does: `null` and missing members leave the target as it is.
The names that belong to a record are looked up among its fields.
-/

namespace MessagingPlatform.JsonFields

open JsonStrings JsonText

/-- How values of a type are written, and how a text is read into a target.
What is written nests at most `depth` arrays and objects. -/
structure Codec (A : Type) (depth : ℕ) where
  encode : A → List Char
  decode : A → List Char → Option A
  value : ∀ a, Value depth (encode a)

/-- Every target takes the value that was written. -/
def Codec.Restores {A : Type} {depth : ℕ} (codec : Codec A depth) : Prop :=
  ∀ target a, codec.decode target (codec.encode a) = some a

/-- The text of a whole document is read into `target`. -/
def unmarshal {A : Type} (limit : ℕ) (decode : A → List Char → Option A)
    (target : A) (text : List Char) : Option A := do
  let (raw, rest) ← readRaw (skipValue limit) (skipSpace text)
  if skipSpace rest = [] then decode target raw else none

theorem unmarshal_of_value {A : Type} {decode : A → List Char → Option A}
    {depth limit : ℕ} {text : List Char} (hvalue : Value depth text)
    (hlimit : depth ≤ limit) (target : A) :
    unmarshal limit decode target text = decode target text := by
  obtain ⟨c, hopens⟩ := hvalue.opens
  have hspace := skipSpace_of_opens hopens []
  have hread := (hvalue.reads hlimit).found [] .nil
  rw [List.append_nil] at hspace hread
  simp [unmarshal, hspace, hread, skipSpace_of_ends .nil]

section Scalars

variable {A : Type} {depth : ℕ}

/-- `null` leaves a scalar unchanged. -/
def orNull (read : List Char → Option A) (target : A) (raw : List Char) :
    Option A :=
  if raw = null then some target else read raw

def string : Codec String depth where
  encode := quote
  decode := orNull unquote
  value text := (value_quote text).mono (Nat.zero_le _)

def readBool (raw : List Char) : Option Bool :=
  if raw = boolean true then some true
  else if raw = boolean false then some false
  else none

def bool : Codec Bool depth where
  encode := boolean
  decode := orNull readBool
  value value := (value_boolean value).mono (Nat.zero_le _)

def readNatural (digits : List Char) : Option ℕ :=
  if digits = [] then none else Decimal.readDigits 0 digits

/-- A decimal integer of 64 bits with a sign. -/
def parseInt : List Char → Option Int64
  | [] => none
  | c :: rest =>
      if c = '-' then do
        let value ← readNatural rest
        if value ≤ 2 ^ 63 then some (Int64.ofInt (-value)) else none
      else do
        let value ← readNatural (c :: rest)
        if value < 2 ^ 63 then some (Int64.ofInt value) else none

def int64 : Codec Int64 depth where
  encode value := integer value.toInt
  decode := orNull parseInt
  value value := (value_integer value.toInt).mono (Nat.zero_le _)

/-- A decimal integer of 64 bits without a sign. -/
def parseUint (raw : List Char) : Option UInt64 := do
  let value ← readNatural raw
  if value < 2 ^ 64 then some (UInt64.ofNat value) else none

def uint64 : Codec UInt64 depth where
  encode value := natural value.toNat
  decode := orNull parseUint
  value value := (value_natural value.toNat).mono (Nat.zero_le _)

/-- A scalar that is never written as `null` is read back. -/
theorem orNull_of_read {write : A → List Char} {read : List Char → Option A}
    (hnull : ∀ a, write a ≠ null) (hread : ∀ a, read (write a) = some a)
    (target a : A) : orNull read target (write a) = some a := by
  rw [orNull, if_neg (hnull a), hread a]

theorem quote_ne_null (text : String) : quote text ≠ null := by
  intro heq
  cases (opens_quote text).head.symm.trans (congrArg List.head? heq)

theorem restores_string : (string : Codec String depth).Restores :=
  orNull_of_read quote_ne_null unquote_quote

theorem restores_bool : (bool : Codec Bool depth).Restores :=
  orNull_of_read (show ∀ value, boolean value ≠ null by decide)
    (show ∀ value, readBool (boolean value) = some value by decide)

theorem readNatural_natural (value : ℕ) :
    readNatural (natural value) = some value := by
  rw [readNatural, natural, if_neg Nat.toDigits_ne_nil,
    Decimal.readDigits_eq (Decimal.isNumeral_toDigits value),
    Nat.ofDigitChars_toDigits (by decide) (by decide)]

theorem natural_ne_null (value : ℕ) : natural value ≠ null := by
  intro heq
  have hhead : 'n' ∈ natural value := by simp [heq, null]
  cases isNumeric_natural value 'n' hhead

theorem integer_ne_null (value : ℤ) : integer value ≠ null := by
  unfold integer
  split_ifs
  · simp [null]
  · exact natural_ne_null _

theorem parseInt_natural {value : ℕ} (hvalue : value < 2 ^ 63) :
    parseInt (natural value) = some (Int64.ofInt value) := by
  obtain ⟨c, digits, htext, hdigit, -⟩ := toDigits_eq_cons value
  have hread := readNatural_natural value
  have hc : c ≠ '-' := by
    rintro rfl
    cases hdigit
  change natural value = c :: digits at htext
  rw [htext] at hread ⊢
  simp only [parseInt, if_neg hc, hread, Option.bind_eq_bind,
    Option.bind_some, if_pos hvalue]

theorem parseInt_integer (value : Int64) :
    parseInt (integer value.toInt) = some value := by
  have hlow := value.le_toInt
  have hhigh := value.toInt_lt
  unfold integer
  split_ifs with hneg
  · have habs : (-(value.toInt.natAbs : ℤ)) = value.toInt := by omega
    have hbound : value.toInt.natAbs ≤ 2 ^ 63 := by omega
    simp only [parseInt, if_true, readNatural_natural, Option.bind_eq_bind,
      Option.bind_some, if_pos hbound, habs, Int64.ofInt_toInt]
  · have habs : (value.toInt.natAbs : ℤ) = value.toInt := by omega
    rw [parseInt_natural (by omega), habs, Int64.ofInt_toInt]

theorem restores_int64 : (int64 : Codec Int64 depth).Restores :=
  orNull_of_read (fun value => integer_ne_null value.toInt) parseInt_integer

theorem parseUint_natural (value : UInt64) :
    parseUint (natural value.toNat) = some value := by
  simp only [parseUint, readNatural_natural, Option.bind_eq_bind,
    Option.bind_some, if_pos value.toNat_lt, UInt64.ofNat_toNat]

theorem restores_uint64 : (uint64 : Codec UInt64 depth).Restores :=
  orNull_of_read (fun value => natural_ne_null value.toNat) parseUint_natural

end Scalars

section Slices

variable {A : Type} {depth : ℕ} (limit : ℕ) (zero : A) (element : Codec A depth)

/-- Elements are read into those the target has, and then into new ones. -/
def readEach : List A → List (List Char) → Option (List A)
  | _, [] => some []
  | [], raw :: raws => do
      let first ← element.decode zero raw
      let others ← readEach [] raws
      some (first :: others)
  | old :: olds, raw :: raws => do
      let first ← element.decode old raw
      let others ← readEach olds raws
      some (first :: others)

def encodeSlice : Option (List A) → List Char
  | none => null
  | some elements => array (elements.map element.encode)

theorem value_elements (elements : List A) :
    ∀ raw ∈ elements.map element.encode, Value depth raw := by
  intro raw hmem
  obtain ⟨a, -, rfl⟩ := List.mem_map.mp hmem
  exact element.value a

/-- A slice is nil or a list. -/
def slice : Codec (Option (List A)) (depth + 1) where
  encode := encodeSlice element
  decode target raw :=
    if raw = null then some none
    else do
      let raws ← readElements limit raw
      let elements ← readEach zero element (target.getD []) raws
      some (some elements)
  value
    | none => value_null.mono (Nat.zero_le _)
    | some elements => value_array (value_elements element elements)

variable {limit zero element}

theorem readEach_encode (hrestores : element.Restores)
    (olds elements : List A) :
    readEach zero element olds (elements.map element.encode) =
      some elements := by
  induction elements generalizing olds with
  | nil => cases olds <;> rfl
  | cons first elements ih =>
      cases olds with
      | nil => simp [readEach, hrestores zero first, ih]
      | cons old olds => simp [readEach, hrestores old first, ih]

theorem restores_slice (hrestores : element.Restores) (hlimit : depth ≤ limit) :
    (slice limit zero element).Restores := by
  intro target elements
  cases elements with
  | none => rfl
  | some elements =>
      have hnull : array (elements.map element.encode) ≠ null := by
        simp [array, null]
      simp [slice, encodeSlice, hnull,
        readElements_array (value_elements element elements) hlimit,
        readEach_encode hrestores]

end Slices

section Maps

/-- Members are written in the order of their keys. -/
abbrev StringMap := Std.ExtTreeMap String String

def readEntry (member : String × List Char) : Option (String × String) := do
  let value ← orNull unquote "" member.2
  some (member.1, value)

def encodeEntries (entries : List (String × String)) :
    List (String × List Char) :=
  entries.map fun entry => (entry.1, quote entry.2)

def encodeMap : Option StringMap → List Char
  | none => null
  | some entries => object (encodeEntries entries.toList)

theorem value_entries (entries : List (String × String)) :
    ∀ entry ∈ encodeEntries entries, Value 0 entry.2 := by
  intro entry hmem
  obtain ⟨pair, -, rfl⟩ := List.mem_map.mp hmem
  exact value_quote pair.2

/-- A map is nil or not; a nil map is made when an object is read into it. -/
def stringMap (limit : ℕ) : Codec (Option StringMap) (depth + 1) where
  encode := encodeMap
  decode target raw :=
    if raw = null then some none
    else do
      let members ← readMembers limit raw
      let entries ← members.mapM readEntry
      some (some ((target.getD ∅).insertMany entries))
  value
    | none => value_null.mono (Nat.zero_le _)
    | some entries =>
        (value_object (value_entries entries.toList)).mono (by omega)

theorem insertMany_toList (entries : StringMap) :
    (∅ : StringMap).insertMany entries.toList = entries := by
  apply Std.ExtTreeMap.ext_getElem?
  intro key
  cases hentry : entries[key]? with
  | none =>
      have hmem : key ∉ entries.toList.map Prod.fst := by
        intro hmem
        obtain ⟨entry, hentries, rfl⟩ := List.mem_map.mp hmem
        have hsome := Std.ExtTreeMap.mem_toList_iff_getElem?_eq_some.mp hentries
        rw [hentry] at hsome
        cases hsome
      rw [Std.ExtTreeMap.getElem?_insertMany_list_of_contains_eq_false]
      · rfl
      · simpa using hmem
  | some value =>
      exact Std.ExtTreeMap.getElem?_insertMany_list_of_mem
        Std.ReflCmp.compare_self Std.ExtTreeMap.distinct_keys_toList
        (Std.ExtTreeMap.mem_toList_iff_getElem?_eq_some.mpr hentry)

theorem mapM_readEntry (entries : List (String × String)) :
    (encodeEntries entries).mapM readEntry = some entries := by
  induction entries with
  | nil => rfl
  | cons entry entries ih =>
      have hvalue : orNull unquote "" (quote entry.2) = some entry.2 :=
        (restores_string : (string : Codec String 0).Restores) "" entry.2
      simp only [encodeEntries] at ih
      simp [encodeEntries, List.mapM_cons, readEntry, hvalue, ih]

/-- Reading into a nil map. -/
theorem decode_stringMap {depth limit : ℕ} (entries : StringMap) :
    (stringMap limit : Codec _ (depth + 1)).decode none
        (encodeMap (some entries)) =
      some (some entries) := by
  have hnull : object (encodeEntries entries.toList) ≠ null := by
    simp [object, null]
  simp only [stringMap, encodeMap, if_neg hnull, mapM_readEntry,
    Option.bind_eq_bind, Option.bind_some, Option.getD_none,
    readMembers_object (value_entries entries.toList) (Nat.zero_le limit),
    insertMany_toList]

end Maps

section Slots

variable {S : Type}

/-- Where the text of a member goes. -/
structure Slot (S : Type) where
  name : String
  read : S → List Char → Option S

/-- A slot of the exact name, or else one whose name differs in case only. -/
def findSlot (foldName : String → String) (slots : List (Slot S))
    (key : String) : Option (Slot S) :=
  match slots.find? (·.name = key) with
  | some found => some found
  | none => slots.find? (fun slot => foldName slot.name = foldName key)

/-- Members that belong to no slot are skipped. -/
def readInto (foldName : String → String) (slots : List (Slot S))
    (target : S) (member : String × List Char) : Option S :=
  match findSlot foldName slots member.1 with
  | none => some target
  | some found => found.read target member.2

/-- An object is read member by member; `null` leaves the target as it is. -/
def readRecord (limit : ℕ) (foldName : String → String) (slots : List (Slot S))
    (target : S) (raw : List Char) : Option S :=
  if raw = null then some target
  else do
    let members ← readMembers limit raw
    members.foldlM (readInto foldName slots) target

theorem findSlot_name {slots : List (Slot S)}
    (hdistinct : (slots.map Slot.name).Nodup) (foldName : String → String)
    {slot : Slot S} (hmem : slot ∈ slots) :
    findSlot foldName slots slot.name = some slot := by
  have hfind : slots.find? (·.name = slot.name) = some slot := by
    induction slots with
    | nil => cases hmem
    | cons first slots ih =>
        rw [List.map_cons, List.nodup_cons] at hdistinct
        obtain rfl | hlater := List.mem_cons.mp hmem
        · simp
        · have hne : first.name ≠ slot.name := by
            intro heq
            exact hdistinct.1 (heq ▸ List.mem_map_of_mem hlater)
          rw [List.find?_cons_of_neg (by simpa using hne)]
          exact ih hdistinct.2 hlater
  rw [findSlot, hfind]

theorem readRecord_object {depth limit : ℕ}
    {members : List (String × List Char)}
    (hmembers : ∀ entry ∈ members, Value depth entry.2)
    (hlimit : depth ≤ limit) (foldName : String → String)
    (slots : List (Slot S)) (target : S) :
    readRecord limit foldName slots target (object members) =
      members.foldlM (readInto foldName slots) target := by
  have hnull : object members ≠ null := by
    simp [object, null]
  simp only [readRecord, if_neg hnull, readMembers_object hmembers hlimit,
    Option.bind_eq_bind, Option.bind_some]

end Slots

section Records

variable {S : Type} {depth : ℕ}

/-- A slot with what is written from it, unless it is left out. -/
structure Field (S : Type) (depth : ℕ) extends Slot S where
  write : S → Option (List Char)
  writes : ∀ record raw, write record = some raw → Value depth raw

/-- A member that is always written. -/
def field {A : Type} (name : String) (codec : Codec A depth) (get : S → A)
    (set : S → A → S) : Field S depth where
  name := name
  read record raw := (codec.decode (get record) raw).map (set record)
  write record := some (codec.encode (get record))
  writes record raw hwrite := by
    cases hwrite
    exact codec.value _

/-- A member that is left out when its value is empty. -/
def omitEmpty {A : Type} (isEmpty : A → Bool) (name : String)
    (codec : Codec A depth) (get : S → A) (set : S → A → S) :
    Field S depth where
  name := name
  read record raw := (codec.decode (get record) raw).map (set record)
  write record :=
    if isEmpty (get record) then none else some (codec.encode (get record))
  writes record raw hwrite := by
    split_ifs at hwrite
    cases hwrite
    exact codec.value _

/-- The fields of a record have different names. -/
structure Layout (S : Type) (depth : ℕ) where
  fields : List (Field S depth)
  distinct : (fields.map (·.name)).Nodup

def Layout.slots (layout : Layout S depth) : List (Slot S) :=
  layout.fields.map Field.toSlot

def members (fields : List (Field S depth)) (record : S) :
    List (String × List Char) :=
  fields.filterMap fun field => (field.write record).map (field.name, ·)

theorem value_members (fields : List (Field S depth)) (record : S) :
    ∀ entry ∈ members fields record, Value depth entry.2 := by
  intro entry hmem
  obtain ⟨field, -, hentry⟩ := List.mem_filterMap.mp hmem
  obtain ⟨raw, hwrite, rfl⟩ := Option.map_eq_some_iff.mp hentry
  exact field.writes record raw hwrite

/-- A record as an object. -/
def Layout.codec (layout : Layout S depth) (limit : ℕ)
    (foldName : String → String) : Codec S (depth + 1) where
  encode record := object (members layout.fields record)
  decode := readRecord limit foldName layout.slots
  value record := value_object (value_members layout.fields record)

/-- What a target takes over from a field of the record that was written. -/
def restore (record : S) (target : S) (field : Field S depth) : Option S :=
  match field.write record with
  | none => some target
  | some raw => field.read target raw

variable (layout : Layout S depth)

theorem Layout.distinct_slots : (layout.slots.map Slot.name).Nodup := by
  simpa [Layout.slots, List.map_map, Function.comp_def] using layout.distinct

theorem Layout.foldlM_members (foldName : String → String) (record : S)
    {part : List (Field S depth)} (hpart : part ⊆ layout.fields) (target : S) :
    (members part record).foldlM (readInto foldName layout.slots) target =
      part.foldlM (restore record) target := by
  induction part generalizing target with
  | nil => rfl
  | cons field part ih =>
      have hslot : field.toSlot ∈ layout.slots :=
        List.mem_map_of_mem (hpart List.mem_cons_self)
      have hfield := findSlot_name layout.distinct_slots foldName hslot
      have hothers := ih (List.subset_of_cons_subset hpart)
      simp only [members] at hothers
      cases hwrite : field.write record with
      | none => simpa [members, restore, hwrite] using hothers target
      | some raw =>
          simp [members, restore, hwrite, readInto, hfield, hothers]

/-- Reading a record that was written sets one field after the other. -/
theorem Layout.decode_encode {limit : ℕ} (hlimit : depth ≤ limit)
    (foldName : String → String) (record target : S) :
    (layout.codec limit foldName).decode target
        ((layout.codec limit foldName).encode record) =
      layout.fields.foldlM (restore record) target := by
  change readRecord limit foldName layout.slots target
    (object (members layout.fields record)) = _
  rw [readRecord_object (value_members layout.fields record) hlimit]
  exact layout.foldlM_members foldName record (List.Subset.refl _) target

/-- A field that is always written takes the value that was written. -/
theorem restore_field {A : Type} {name : String} {codec : Codec A depth}
    {get : S → A} {set : S → A → S} (hrestores : codec.Restores)
    (record target : S) :
    restore record target (field name codec get set) =
      some (set target (get record)) := by
  simp [restore, field, hrestores (get target) (get record)]

/-- An empty value leaves the target as it is. -/
theorem restore_omitEmpty_of_empty {A : Type} {isEmpty : A → Bool}
    {name : String} {codec : Codec A depth} {get : S → A} {set : S → A → S}
    {record : S} (hempty : isEmpty (get record) = true) (target : S) :
    restore record target (omitEmpty isEmpty name codec get set) =
      some target := by
  simp [restore, omitEmpty, hempty]

theorem restore_omitEmpty {A : Type} {isEmpty : A → Bool} {name : String}
    {codec : Codec A depth} {get : S → A} {set : S → A → S} {record : S}
    (hempty : isEmpty (get record) = false) (target : S) :
    restore record target (omitEmpty isEmpty name codec get set) =
      (codec.decode (get target) (codec.encode (get record))).map
        (set target) := by
  simp [restore, omitEmpty, hempty]

end Records

end MessagingPlatform.JsonFields
