import NetTimeline.Proofs.Json.Number

/-!
# Reading a written document back

A value is read back from its text at any level of nesting, with or without an indent, and whatever
stands behind it, as long as that could not belong to a number. The exceptions are the limits of
the reader: whole numbers of too many digits are refused, and of fields with one name only the last
is kept. `Value.Readable` leaves both out.

Principal results:

* `readString_escaped` — every text is read back from its escaped form;
* `Value.Readable.reads` — a readable value is read back at every level;
* `read_write` — so is a document, with blanks behind it;
* `document_injective` — two readable values with one document are equal.
-/

set_option autoImplicit false

namespace NetTimeline.Json

/-! ## Strings -/

section Strings

variable {opened : Nat} {cs rest : List Char}

/-- The characters of an escape that has been read are skipped. -/
theorem readString_skip (opened : Nat) (front cs : List Char) :
    readString opened front.length (front ++ cs) = readString opened 0 cs := by
  induction front with
  | nil => rfl
  | cons c front ih => exact ih

/-- An escape of one character behind the backslash. -/
theorem readString_simple {mark c : Char} (h : simpleEscape? mark = some c) :
    readString opened 0 ('\\' :: mark :: cs) =
      (readString opened 0 cs).map fun (xs, rest) => (c :: xs, rest) := by
  have hmark : mark ≠ 'u' := by
    rintro rfl
    cases h
  have hdecode : decodeEscape opened (mark :: cs) = .ok (c, 1) := by
    unfold decodeEscape
    split
    · rename_i hnil
      cases hnil
    · rename_i hcons
      cases hcons
      exact absurd rfl hmark
    · rename_i hcons
      cases hcons
      rw [h]
  simp only [readString, hdecode]
  rfl

/-- The four digits of a control character. -/
theorem padZeros_toDigits_of_lt :
    ∀ n < 0x20, Text.padZeros 4 (Nat.toDigits 16 n) =
      ['0', '0', (n / 16).digitChar, (n % 16).digitChar] := by
  decide

theorem hexValue?_digitChar : ∀ d < 16, hexValue? d.digitChar = some d := by decide

theorem codeUnit?_padZeros {n : Nat} (h : n < 0x20) :
    codeUnit? (Text.padZeros 4 (Nat.toDigits 16 n) ++ rest) = some n := by
  have hhigh := hexValue?_digitChar (n / 16) (by omega)
  have hlow := hexValue?_digitChar (n % 16) (by omega)
  have hzero : hexValue? '0' = some 0 := by decide
  have hvalue : n / 16 * 16 + n % 16 = n := by omega
  rw [padZeros_toDigits_of_lt n h]
  simp [codeUnit?, hzero, hhigh, hlow, hvalue]

/-- A control character behind its four digits; the text has to go on. -/
theorem readString_control {c : Char} (h : c.toNat < 0x20) (hcs : cs ≠ []) :
    readString opened 0
        ('\\' :: 'u' :: (Text.padZeros 4 (Nat.toDigits 16 c.toNat) ++ cs)) =
      (readString opened 0 cs).map fun (xs, rest) => (c :: xs, rest) := by
  have hlength : (Text.padZeros 4 (Nat.toDigits 16 c.toNat)).length = 4 := by
    rw [padZeros_toDigits_of_lt _ h]
    rfl
  have hchar : charOfUnit c.toNat = c := by
    have hhigh : isHighSurrogate c.toNat = false := by simp [isHighSurrogate]; omega
    have hlow : isLowSurrogate c.toNat = false := by simp [isLowSurrogate]; omega
    simp [charOfUnit, hhigh, hlow, Char.ofNat_toNat]
  have hunit : unicodeEscape (Text.padZeros 4 (Nat.toDigits 16 c.toNat) ++ cs) = .ok (c, 4) := by
    have hhigh : isHighSurrogate c.toNat = false := by simp [isHighSurrogate]; omega
    unfold unicodeEscape
    rw [codeUnit?_padZeros h, List.drop_left' hlength]
    simp [hcs, hhigh, hchar]
  have hdecode : decodeEscape opened
      ('u' :: (Text.padZeros 4 (Nat.toDigits 16 c.toNat) ++ cs)) = .ok (c, 5) := by
    simp only [decodeEscape, hunit]
    rfl
  have hskip := readString_skip opened ('u' :: Text.padZeros 4 (Nat.toDigits 16 c.toNat)) cs
  rw [List.length_cons, hlength] at hskip
  simp only [readString, hdecode]
  rw [← hskip]
  rfl

/-- The three kinds of escapes: one character behind a backslash, the digits of a control
character, and the character itself. -/
theorem escape_cases (c : Char) :
    (∃ mark, escape c = ['\\', mark] ∧ simpleEscape? mark = some c) ∨
    (escape c = '\\' :: 'u' :: Text.padZeros 4 (Nat.toDigits 16 c.toNat) ∧ c.toNat < 0x20) ∨
    (escape c = [c] ∧ c ≠ '"' ∧ c ≠ '\\' ∧ 0x20 ≤ c.toNat) := by
  by_cases hmark : c ∈ ['"', '\\', '\x08', '\x0c', '\n', '\r', '\t']
  · left
    simp only [List.mem_cons, List.not_mem_nil, or_false] at hmark
    rcases hmark with rfl | rfl | rfl | rfl | rfl | rfl | rfl <;> exact ⟨_, rfl, rfl⟩
  · right
    simp only [List.mem_cons, List.not_mem_nil, or_false, not_or] at hmark
    obtain ⟨hquote, hback, hb, hf, hn, hr, ht⟩ := hmark
    rcases Nat.lt_or_ge c.toNat 0x20 with hcontrol | hplain
    · left
      simp [escape, hquote, hback, hb, hf, hn, hr, ht, hcontrol]
    · exact .inr ⟨escape_of_plain hquote hback hplain, hquote, hback, hplain⟩

theorem readString_escape (c : Char) (hcs : cs ≠ []) :
    readString opened 0 (escape c ++ cs) =
      (readString opened 0 cs).map fun (xs, rest) => (c :: xs, rest) := by
  rcases escape_cases c with ⟨mark, h, hmark⟩ | ⟨h, hcontrol⟩ | ⟨h, hquote, hback, hplain⟩
  · rw [h]
    exact readString_simple hmark
  · rw [h]
    exact readString_control hcontrol hcs
  · rw [h]
    exact readString_plain hquote hback hplain

/-- **Every text is read back from its escaped form.** -/
theorem readString_escaped (text rest : List Char) :
    readString opened 0 (text.flatMap escape ++ '"' :: rest) = .ok (text, rest) := by
  induction text with
  | nil => rfl
  | cons c text ih =>
    rw [List.flatMap_cons, List.append_assoc, readString_escape c (by simp), ih]
    rfl

end Strings

/-! ## Readable values -/

/-- Whole numbers have no more digits than are read, and the names of an object are distinct. -/
inductive Value.Readable : Value → Prop
  | null : Readable .null
  | bool (b : Bool) : Readable (.bool b)
  | int (n : Int) (hdigits : decimalLength n.natAbs ≤ maxIntDigits) : Readable (.int n)
  | float (x : Binary64) : Readable (.float x)
  | string (s : String) : Readable (.string s)
  | array (items : List Value) (hitems : ∀ item ∈ items, Readable item) : Readable (.array items)
  | object (fields : List (String × Value)) (hnames : (fields.map Prod.fst).Nodup)
      (hfields : ∀ field ∈ fields, Readable field.2) : Readable (.object fields)

/-- A value is read back from its text at every level, with fuel for twice its characters. -/
def Reads (indent : Option Nat) (value : Value) : Prop :=
  ∀ level fuel rest, 2 * (write indent level value).length ≤ fuel → Ends rest →
    readValue fuel (write indent level value ++ rest) = .ok (value, rest)

/-- What a text starts with, that is a value: no blank, no bracket that would close an empty list
and no mark of the encoding. -/
def IsFirst (c : Char) : Prop := isSpace c = false ∧ c ≠ ']' ∧ c ≠ '\ufeff'

theorem isFirst_of_isDigit {c : Char} (h : c.isDigit = true) : IsFirst c := by
  have hne : ∀ d : Char, d.isDigit = false → c ≠ d := by
    rintro d hd rfl
    rw [hd] at h
    cases h
  refine ⟨?_, hne ']' (by decide), hne '\ufeff' (by decide)⟩
  simp [isSpace, hne ' ' (by decide), hne '\t' (by decide), hne '\n' (by decide),
    hne '\r' (by decide)]

theorem Numeral.text_first (n : Numeral) : ∃ c cs, n.text = c :: cs ∧ IsFirst c := by
  obtain ⟨c, cs, hc, hsign | hdigit⟩ := n.text_eq_cons
  · subst hsign
    exact ⟨'-', cs, hc, by unfold IsFirst; decide⟩
  · exact ⟨c, cs, hc, isFirst_of_isDigit hdigit⟩

theorem writeFloat_first (x : Binary64) : ∃ c cs, writeFloat x = c :: cs ∧ IsFirst c := by
  cases x with
  | nan => exact ⟨'N', _, rfl, by unfold IsFirst; decide⟩
  | infinite negative =>
    cases negative with
    | true => exact ⟨'-', _, rfl, by unfold IsFirst; decide⟩
    | false => exact ⟨'I', _, rfl, by unfold IsFirst; decide⟩
  | finite x =>
    obtain ⟨n, htext, -⟩ := exists_numeral_writeFloat x
    rw [← htext]
    exact n.text_first

theorem write_first (indent : Option Nat) (level : Nat) (value : Value) :
    ∃ c cs, write indent level value = c :: cs ∧ IsFirst c := by
  cases value with
  | null => exact ⟨'n', _, rfl, by unfold IsFirst; decide⟩
  | bool b =>
    cases b with
    | true => exact ⟨'t', _, rfl, by unfold IsFirst; decide⟩
    | false => exact ⟨'f', _, rfl, by unfold IsFirst; decide⟩
  | int n =>
    rw [write_int, ← Numeral.text_ofInt]
    exact (Numeral.ofInt n).text_first
  | float x =>
    rw [write_float]
    exact writeFloat_first x
  | string s => exact ⟨'"', _, rfl, by unfold IsFirst; decide⟩
  | array items =>
    cases items with
    | nil => exact ⟨'[', _, rfl, by unfold IsFirst; decide⟩
    | cons item items => exact ⟨'[', _, by rw [write_array]; rfl, by unfold IsFirst; decide⟩
  | object fields =>
    cases fields with
    | nil => exact ⟨'\x7b', _, rfl, by unfold IsFirst; decide⟩
    | cons field fields => exact ⟨'\x7b', _, by rw [write_object]; rfl, by unfold IsFirst; decide⟩

/-! ## Blanks -/

variable {indent : Option Nat} {level : Nat} {value : Value} {cs rest : List Char}

theorem skipSpace_first {c : Char} (h : IsFirst c) : skipSpace (c :: cs) = c :: cs := by
  simp [skipSpace, h.1]

theorem skipSpace_write :
    skipSpace (write indent level value ++ rest) = write indent level value ++ rest := by
  obtain ⟨c, cs, hc, hfirst⟩ := write_first indent level value
  rw [hc]
  exact skipSpace_first hfirst

theorem skipSpace_newline : skipSpace (newline indent level ++ cs) = skipSpace cs := by
  cases indent with
  | none => rfl
  | some blanks =>
    have hblanks : ∀ c ∈ '\n' :: List.replicate (blanks * level) ' ', isSpace c = true := by
      intro c hc
      rcases List.mem_cons.1 hc with rfl | hc
      · rfl
      · rw [List.eq_of_mem_replicate hc]
        rfl
    rw [newline, skipSpace, List.dropWhile_append_of_pos hblanks]
    rfl

theorem skipSpace_comma : skipSpace (',' :: cs) = ',' :: cs :=
  skipSpace_first (by unfold IsFirst; decide)

theorem skipSpace_writeString (name : String) :
    skipSpace (writeString name ++ cs) = writeString name ++ cs :=
  skipSpace_first (by unfold IsFirst; decide)

theorem skipSpace_colon (indent : Option Nat) :
    ∃ blanks, colon indent = ':' :: blanks ∧
      (∀ cs, skipSpace (':' :: cs) = ':' :: cs) ∧ ∀ cs, skipSpace (blanks ++ cs) = skipSpace cs := by
  have hcolon : ∀ cs, skipSpace (':' :: cs) = ':' :: cs :=
    fun _ => skipSpace_first (by unfold IsFirst; decide)
  cases indent with
  | none => exact ⟨[], rfl, hcolon, fun _ => rfl⟩
  | some blanks => exact ⟨[' '], rfl, hcolon, fun _ => rfl⟩

/-- A closing bracket on its own line, or a comma, is behind a value. -/
theorem ends_newline {c : Char} (hdigit : c.isDigit = false) (hpoint : c ≠ '.') (hsmall : c ≠ 'e')
    (hlarge : c ≠ 'E') : Ends (newline indent level ++ c :: rest) := by
  cases indent with
  | none => exact Ends.cons hdigit hpoint hsmall hlarge
  | some blanks => exact Ends.cons (by decide) (by decide) (by decide) (by decide)

/-! ## Values -/

theorem Numeral.readValue_text (n : Numeral) (fuel : Nat) (rest : List Char) :
    readValue (fuel + 1) (n.text ++ rest) = readNumber (n.text ++ rest) := by
  have hnone : readNamed? (n.text ++ rest) = none := n.readNamed?_text
  obtain ⟨c, cs, hc, hfirst⟩ := n.text_eq_cons
  have hne : ∀ d : Char, d ≠ '-' → d.isDigit = false → c ≠ d := by
    rintro d hminus hd rfl
    rcases hfirst with hsign | hdigit
    · exact hminus hsign
    · rw [hd] at hdigit
      cases hdigit
  rw [hc, List.cons_append] at hnone ⊢
  unfold readValue
  split
  · rename_i h
    exact absurd (List.cons.inj h).1 (hne '"' (by decide) (by decide))
  · rename_i h
    exact absurd (List.cons.inj h).1 (hne '[' (by decide) (by decide))
  · rename_i h
    exact absurd (List.cons.inj h).1 (hne '\x7b' (by decide) (by decide))
  · rw [hnone]

/-- A value that is written as a name is read back. -/
theorem readValue_name {name : List Char} (hname : (name, value) ∈ namedValues) (fuel : Nat)
    (rest : List Char) : readValue (fuel + 1) (name ++ rest) = .ok (value, rest) := by
  simp only [namedValues, List.mem_cons, List.not_mem_nil, or_false, Prod.mk.injEq] at hname
  rcases hname with ⟨rfl, rfl⟩ | ⟨rfl, rfl⟩ | ⟨rfl, rfl⟩ | ⟨rfl, rfl⟩ | ⟨rfl, rfl⟩ | ⟨rfl, rfl⟩ <;>
    simp [readValue, readNamed?, namedValues, Text.after?]

/-- Fuel for a text is not used up before it is read. -/
theorem exists_fuel {fuel : Nat} (hfuel : 2 * (write indent level value).length ≤ fuel) :
    ∃ more, fuel = more + 1 := by
  obtain ⟨c, cs, hc, -⟩ := write_first indent level value
  rw [hc, List.length_cons] at hfuel
  exact ⟨fuel - 1, by omega⟩

theorem reads_name (hname : ∀ level, (write indent level value, value) ∈ namedValues) :
    Reads indent value := by
  intro level fuel rest hfuel hrest
  obtain ⟨fuel, rfl⟩ := exists_fuel hfuel
  exact readValue_name (hname level) fuel rest

theorem reads_null : Reads indent .null :=
  reads_name fun _ => by simp [write_null, namedValues]

theorem reads_bool (b : Bool) : Reads indent (.bool b) := by
  cases b <;> exact reads_name fun _ => by simp [write_bool, namedValues]

theorem reads_int {k : Int} (hdigits : decimalLength k.natAbs ≤ maxIntDigits) :
    Reads indent (.int k) := by
  intro level fuel rest hfuel hrest
  obtain ⟨fuel, rfl⟩ := exists_fuel hfuel
  rw [write_int, ← Numeral.text_ofInt, Numeral.readValue_text, Numeral.text_ofInt]
  exact readNumber_intNumeral k hrest hdigits

theorem named_nan : ("NaN".toList, .float .nan) ∈ namedValues := by simp [namedValues]

theorem named_infinite (negative : Bool) :
    (writeFloat (.infinite negative), .float (.infinite negative)) ∈ namedValues := by
  cases negative with
  | true =>
    show ("-Infinity".toList, Value.float (.infinite true)) ∈ namedValues
    simp [namedValues]
  | false =>
    show ("Infinity".toList, Value.float (.infinite false)) ∈ namedValues
    simp [namedValues]

theorem reads_float (x : Binary64) : Reads indent (.float x) := by
  cases x with
  | nan => exact reads_name fun _ => by rw [write_float]; exact named_nan
  | infinite negative => exact reads_name fun _ => by rw [write_float]; exact named_infinite negative
  | finite x =>
    intro level fuel rest hfuel hrest
    obtain ⟨fuel, rfl⟩ := exists_fuel hfuel
    obtain ⟨n, htext, -⟩ := exists_numeral_writeFloat x
    rw [write_float, ← htext, n.readValue_text, htext]
    exact readNumber_writeFloat x hrest

theorem reads_string (s : String) : Reads indent (.string s) := by
  intro level fuel rest hfuel hrest
  obtain ⟨fuel, rfl⟩ := exists_fuel hfuel
  simp only [write_string, writeString, List.cons_append, List.append_assoc, List.nil_append, readValue,
    readString_escaped, Except.map, String.ofList_toList]

/-! ## Arrays -/

theorem readItems_last {fuel : Nat} {tail : List Char} (hitem : Reads indent value)
    (hfuel : 2 * (write indent level value).length ≤ fuel) (htail : Ends tail)
    (hbracket : skipSpace tail = ']' :: rest) :
    readItems (fuel + 1) (write indent level value ++ tail) = .ok ([value], rest) := by
  rw [readItems, hitem level fuel tail hfuel htail]
  simp only [hbracket]

theorem readItems_more {fuel : Nat} {tail more : List Char} {items : List Value}
    (hitem : Reads indent value) (hfuel : 2 * (write indent level value).length ≤ fuel)
    (htail : Ends tail) (hcomma : skipSpace tail = ',' :: more)
    (hmore : readItems fuel (skipSpace more) = .ok (items, rest)) :
    readItems (fuel + 1) (write indent level value ++ tail) = .ok (value :: items, rest) := by
  rw [readItems, hitem level fuel tail hfuel htail]
  simp only [hcomma, hmore, Except.map]

/-- The items of a list are read back up to its closing bracket. -/
theorem readItems_write {item : Value} {items : List Value} {outer fuel : Nat}
    (hitems : ∀ v ∈ item :: items, Reads indent v)
    (hfuel : 2 * (write indent level item ++ writeItems indent level items).length < fuel) :
    readItems fuel (write indent level item ++ writeItems indent level items ++
        newline indent outer ++ ']' :: rest) = .ok (item :: items, rest) := by
  obtain ⟨fuel, rfl⟩ := Nat.exists_eq_add_one_of_ne_zero (Nat.ne_of_gt (Nat.zero_lt_of_lt hfuel))
  have hitem := hitems item List.mem_cons_self
  have hone : 2 * (write indent level item).length ≤ fuel := by
    rw [List.length_append] at hfuel
    omega
  -- The tail is what shrinks: every item costs one unit of fuel, and its comma pays for it.
  induction items generalizing item fuel with
  | nil =>
    rw [writeItems_nil, List.append_nil, List.append_assoc]
    exact readItems_last hitem hone
      (ends_newline (by decide) (by decide) (by decide) (by decide)) skipSpace_newline
  | cons next items ih =>
    simp only [writeItems_cons, List.append_assoc, List.cons_append, List.length_append,
      List.length_cons] at hfuel ⊢
    obtain ⟨fuel, rfl⟩ := Nat.exists_eq_add_one_of_ne_zero (show fuel ≠ 0 by omega)
    refine readItems_more hitem hone (Ends.cons (by decide) (by decide) (by decide) (by decide))
      skipSpace_comma ?_
    rw [skipSpace_newline, skipSpace_write]
    have hnext := ih (fun v hv => hitems v (List.mem_cons_of_mem _ hv)) fuel
      (by rw [List.length_append]; omega) (hitems next (by simp)) (by omega)
    simpa only [List.append_assoc] using hnext

theorem reads_array {items : List Value} (hitems : ∀ item ∈ items, Reads indent item) :
    Reads indent (.array items) := by
  intro level fuel rest hfuel hrest
  obtain ⟨fuel, rfl⟩ := exists_fuel hfuel
  cases items with
  | nil => rfl
  | cons item items =>
    obtain ⟨c, cs, hc, hfirst⟩ := write_first indent (level + 1) item
    have hbracket : c ≠ ']' := hfirst.2.1
    have hread : readItems fuel (write indent (level + 1) item ++
        writeItems indent (level + 1) items ++ newline indent level ++ ']' :: rest) =
        .ok (item :: items, rest) := by
      refine readItems_write hitems ?_
      simp only [write_array, List.cons_append, List.append_assoc, List.length_cons,
        List.length_append] at hfuel ⊢
      omega
    simp only [write_array, List.cons_append, List.append_assoc, List.nil_append, readValue,
      skipSpace_newline, skipSpace_write] at hread ⊢
    simp only [hc, List.cons_append] at hread ⊢
    simp [hbracket, hread, Except.map]

/-! ## Objects -/

theorem insertField_of_not_mem {name : String} {fields : List (String × Value)}
    (h : name ∉ fields.map Prod.fst) :
    insertField name value fields = fields ++ [(name, value)] := by
  induction fields with
  | nil => rfl
  | cons field fields ih =>
    rw [List.map_cons, List.mem_cons, not_or] at h
    simp [insertField, Ne.symm h.1, ih h.2]

section Fields

variable {name : String} {acc : List (String × Value)} {fuel : Nat} {tail more : List Char}

theorem readFields_last (hvalue : Reads indent value)
    (hfuel : 2 * (write indent level value).length ≤ fuel) (htail : Ends tail)
    (hbrace : skipSpace tail = '\x7d' :: rest) :
    readFields (fuel + 1) acc
        (writeString name ++ (colon indent ++ (write indent level value ++ tail))) =
      .ok (insertField name value acc, rest) := by
  obtain ⟨blanks, hcolon, hmark, hblanks⟩ := skipSpace_colon indent
  simp only [hcolon, writeString, List.cons_append, List.append_assoc, List.nil_append, readFields,
    readString_escaped, hmark, hblanks, skipSpace_write,
    hvalue level fuel tail hfuel htail, String.ofList_toList, hbrace]

theorem readFields_more (hvalue : Reads indent value)
    (hfuel : 2 * (write indent level value).length ≤ fuel) (htail : Ends tail)
    (hcomma : skipSpace tail = ',' :: more) :
    readFields (fuel + 1) acc
        (writeString name ++ (colon indent ++ (write indent level value ++ tail))) =
      readFields fuel (insertField name value acc) (skipSpace more) := by
  obtain ⟨blanks, hcolon, hmark, hblanks⟩ := skipSpace_colon indent
  simp only [hcolon, writeString, List.cons_append, List.append_assoc, List.nil_append, readFields,
    readString_escaped, hmark, hblanks, skipSpace_write,
    hvalue level fuel tail hfuel htail, String.ofList_toList, hcomma]

/-- The fields of an object are read back up to its closing brace, behind those read before. -/
theorem readFields_write {fields : List (String × Value)} {outer : Nat}
    (hfields : ∀ field ∈ (name, value) :: fields, Reads indent field.2)
    (hnames : ((acc ++ (name, value) :: fields).map Prod.fst).Nodup)
    (hfuel : 2 * (write indent level value ++ writeFields indent level fields).length < fuel) :
    readFields fuel acc (writeString name ++ colon indent ++ write indent level value ++
        writeFields indent level fields ++ newline indent outer ++ '\x7d' :: rest) =
      .ok (acc ++ (name, value) :: fields, rest) := by
  obtain ⟨fuel, rfl⟩ := Nat.exists_eq_add_one_of_ne_zero (Nat.ne_of_gt (Nat.zero_lt_of_lt hfuel))
  have hvalue : Reads indent value := hfields (name, value) List.mem_cons_self
  have hone : 2 * (write indent level value).length ≤ fuel := by
    rw [List.length_append] at hfuel
    omega
  have hnew : name ∉ acc.map Prod.fst := by
    rw [List.map_append, List.map_cons] at hnames
    exact fun hmem => (List.nodup_append.1 hnames).2.2 name hmem name (by simp) rfl
  simp only [List.append_assoc]
  -- The fields that are read grow at the end, where a new name is never one that is replaced.
  induction fields generalizing name value acc fuel with
  | nil =>
    rw [writeFields_nil, List.nil_append, readFields_last hvalue hone
      (ends_newline (by decide) (by decide) (by decide) (by decide)) skipSpace_newline,
      insertField_of_not_mem hnew]
  | cons next fields ih =>
    obtain ⟨nextName, nextValue⟩ := next
    simp only [writeFields_cons, List.append_assoc, List.cons_append, List.length_append,
      List.length_cons] at hfuel ⊢
    obtain ⟨fuel, rfl⟩ := Nat.exists_eq_add_one_of_ne_zero (show fuel ≠ 0 by omega)
    have hmore : acc ++ (name, value) :: (nextName, nextValue) :: fields =
        acc ++ [(name, value)] ++ (nextName, nextValue) :: fields := by simp
    have hnextNew : nextName ∉ (acc ++ [(name, value)]).map Prod.fst := by
      rw [hmore, List.map_append] at hnames
      exact fun hmem => (List.nodup_append.1 hnames).2.2 nextName hmem nextName (by simp) rfl
    rw [readFields_more hvalue hone (Ends.cons (by decide) (by decide) (by decide) (by decide))
      skipSpace_comma, insertField_of_not_mem hnew, skipSpace_newline, skipSpace_writeString, hmore]
    exact ih (fun field hfield => hfields field (List.mem_cons_of_mem _ hfield))
      (hmore ▸ hnames) fuel (by rw [List.length_append]; omega)
      (hfields (nextName, nextValue) (by simp)) (by omega) hnextNew

end Fields

theorem reads_object {fields : List (String × Value)}
    (hfields : ∀ field ∈ fields, Reads indent field.2) (hnames : (fields.map Prod.fst).Nodup) :
    Reads indent (.object fields) := by
  intro level fuel rest hfuel hrest
  obtain ⟨fuel, rfl⟩ := exists_fuel hfuel
  cases fields with
  | nil => rfl
  | cons field fields =>
    obtain ⟨name, value⟩ := field
    have hread : readFields fuel [] (writeString name ++ colon indent ++
        write indent (level + 1) value ++ writeFields indent (level + 1) fields ++
        newline indent level ++ '\x7d' :: rest) = .ok ((name, value) :: fields, rest) := by
      refine readFields_write hfields hnames ?_
      simp only [write_object, List.cons_append, List.append_assoc, List.length_cons,
        List.length_append] at hfuel ⊢
      omega
    simp only [write_object, List.cons_append, List.append_assoc, List.nil_append, readValue,
      skipSpace_newline, skipSpace_writeString] at hread ⊢
    simp only [writeString, List.cons_append, List.append_assoc, List.nil_append] at hread ⊢
    simp [hread, Except.map]

/-! ## Documents -/

/-- **A readable value is read back at every level.** -/
theorem Value.Readable.reads (h : value.Readable) : Reads indent value := by
  induction h with
  | null => exact reads_null
  | bool b => exact reads_bool b
  | int n hdigits => exact reads_int hdigits
  | float x => exact reads_float x
  | string s => exact reads_string s
  | array items hitems ih => exact reads_array ih
  | object fields hnames hfields ih => exact reads_object ih hnames

theorem ends_blanks (h : ∀ c ∈ cs, isSpace c = true) : Ends cs := by
  intro c hc
  have hspace := h c (List.mem_of_mem_head? hc)
  have hne : ∀ d : Char, isSpace d = false → c ≠ d := by
    rintro d hd rfl
    rw [hd] at hspace
    cases hspace
  refine ⟨?_, hne '.' (by decide), hne 'e' (by decide), hne 'E' (by decide)⟩
  by_contra hdigit
  have hfirst := isFirst_of_isDigit (Bool.not_eq_false _ ▸ hdigit)
  rw [hfirst.1] at hspace
  cases hspace

/-- **A readable value is read back from its document**, with an indent or without, and with blanks
behind it. -/
theorem read_write (h : value.Readable) (indent : Option Nat) {blanks : List Char}
    (hblanks : ∀ c ∈ blanks, isSpace c = true) :
    read (write indent 0 value ++ blanks) = .ok value := by
  obtain ⟨c, cs, hc, hfirst⟩ := write_first indent 0 value
  have hmark : (write indent 0 value ++ blanks).head? ≠ some '\ufeff' := by
    rw [hc]
    exact fun heq => hfirst.2.2 (Option.some.inj heq)
  have hread : readValue (2 * (write indent 0 value ++ blanks).length + 1)
      (write indent 0 value ++ blanks) = .ok (value, blanks) :=
    h.reads 0 _ blanks (by rw [List.length_append]; omega) (ends_blanks hblanks)
  have hnil : skipSpace blanks = [] := Text.dropWhile_eq_nil_iff.2 hblanks
  unfold read readDocument
  rw [if_neg hmark, skipSpace_write, hread]
  simp only [hnil]
  rfl

theorem read_document (h : value.Readable) (indent : Option Nat) :
    read (document indent value).toList = .ok value := by
  have hread := read_write h indent (List.forall_mem_nil _)
  rwa [List.append_nil, ← String.toList_ofList (l := write indent 0 value)] at hread

/-- Two readable values with one document are equal. -/
theorem document_injective {other : Value} (h : value.Readable) (hother : other.Readable)
    {indent otherIndent : Option Nat} (heq : document indent value = document otherIndent other) :
    value = other := by
  have hread := read_document h indent
  rw [heq, read_document hother otherIndent] at hread
  exact (Except.ok.inj hread).symm

end NetTimeline.Json
