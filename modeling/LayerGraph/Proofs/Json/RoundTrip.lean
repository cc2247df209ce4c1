import LayerGraph.Proofs.Json.Numerals

/-! Documents are read back from their texts.

Reading undoes writing part by part, with whatever may follow a value behind it. What a document has to keep for that
are the limits of the reader: few digits, finite numbers, and containers that are not nested too deeply.
-/

set_option autoImplicit false

namespace LayerGraph.Json

open Number Text

section
variable {rest : List Char}

theorem hexValue4?_hex {n : Nat} (control : n < 0x20) :
    ∃ a b c d, hex 4 n = [a, b, c, d] ∧ hexValue4? a b c d = some n := by
  have all : ∀ n < 0x20, hexValue4? (hexDigit (n / 16 / 16 / 16 % 16)) (hexDigit (n / 16 / 16 % 16))
      (hexDigit (n / 16 % 16)) (hexDigit (n % 16)) = some n := by decide
  exact ⟨_, _, _, _, rfl, all n control⟩

/-- A control character is read from its code. -/
theorem readEscape_code {c : Char} (control : c.toNat < 0x20) :
    readEscape (('u' :: hex 4 c.toNat) ++ rest) = some (c, rest) := by
  obtain ⟨one, two, three, four, digits, value⟩ := hexValue4?_hex control
  rw [digits]
  change (hexValue4? one two three four).bind _ = _
  rw [value]
  dsimp only [Option.bind]
  rw [if_neg (by omega), if_neg (by omega), Char.ofNat_toNat]
  rfl

/-- A character is written as an escape that stands for it, or as it is. -/
theorem escapeChar_cases (c : Char) :
    (∃ escape, escapeChar false c = '\\' :: escape ∧ ∀ rest, readEscape (escape ++ rest) = some (c, rest)) ∨
      escapeChar false c = [c] ∧ c ≠ '"' ∧ c ≠ '\\' ∧ 0x20 ≤ c.toNat := by
  unfold escapeChar
  split
  case h_8 quote slash newline ret tab back feed =>
    split
    · next control =>
      rw [unicodeEscape, if_pos (by omega)]
      exact .inl ⟨_, rfl, fun _ => readEscape_code control⟩
    · next printed =>
      exact .inr ⟨rfl, quote, slash, Nat.not_lt.mp printed⟩
  all_goals exact .inl ⟨_, rfl, fun _ => rfl⟩

/-- The characters of a text up to its closing quote are read as the text. -/
theorem readString_chars {text : List Char} {fuel : Nat} (read : List Char)
    (enough : (text.flatMap (escapeChar false)).length < fuel) :
    readString fuel read (text.flatMap (escapeChar false) ++ '"' :: rest) =
      some (String.ofList (read.reverse ++ text), rest) := by
  induction text generalizing read fuel with
  | nil =>
    obtain ⟨fuel, rfl⟩ := Nat.exists_eq_succ_of_ne_zero (Nat.ne_of_gt enough)
    rw [List.append_nil]
    exact if_pos rfl
  | cons c text ih =>
    obtain ⟨fuel, rfl⟩ := Nat.exists_eq_succ_of_ne_zero (Nat.ne_of_gt (Nat.zero_lt_of_lt enough))
    have whole : read.reverse ++ c :: text = (c :: read).reverse ++ text := by simp
    rw [whole, List.flatMap_cons, List.append_assoc]
    rw [List.flatMap_cons, List.length_append] at enough
    rcases escapeChar_cases c with ⟨escape, written, reads⟩ | ⟨written, quote, slash, printed⟩
    · rw [written] at enough ⊢
      rw [List.length_cons] at enough
      rw [List.cons_append, readString, if_neg (by decide), if_pos rfl, reads]
      exact ih (c :: read) (by omega)
    · rw [written] at enough ⊢
      rw [List.length_singleton] at enough
      rw [List.singleton_append, readString, if_neg quote, if_neg slash, if_neg (Nat.not_lt.mpr printed)]
      exact ih (c :: read) (by omega)

end

/-- Documents within the limits of a reader; `depth` bounds the nesting of containers that are not empty. -/
inductive Legible (limits : Limits) : Nat → Json → Prop
  | null {depth : Nat} : Legible limits depth .null
  | bool {depth : Nat} (value : Bool) : Legible limits depth (.bool value)
  | int {depth : Nat} {n : Int} (short : n.natAbs < 10 ^ limits.digits) : Legible limits depth (.int n)
  | float {depth : Nat} {x : Binary64} (finite : x.isFinite = true) : Legible limits depth (.float x)
  | str {depth : Nat} (text : String) : Legible limits depth (.str text)
  | noItems {depth : Nat} : Legible limits depth (.arr [])
  | arr {depth : Nat} {items : List Json} (inner : ∀ item ∈ items, Legible limits depth item) :
      Legible limits (depth + 1) (.arr items)
  | noFields {depth : Nat} : Legible limits depth (.obj [])
  | obj {depth : Nat} {fields : List (String × Json)} (inner : ∀ field ∈ fields, Legible limits depth field.2) :
      Legible limits (depth + 1) (.obj fields)

theorem skipSpace_cons {c : Char} {rest : List Char} (printed : isSpace c = false) :
    skipSpace (c :: rest) = c :: rest :=
  List.dropWhile_cons_of_neg (by rw [printed]; exact Bool.false_ne_true)

section
variable {limits : Limits} {text rest : List Char} {value : Json}

/-- What is read as a word or a number starts with neither a blank, a quote nor a bracket. -/
theorem head_of_readAtom (read : readAtom limits text = some (value, rest)) :
    ∃ c tail, text = c :: tail ∧ isSpace c = false ∧ c ∉ ['"', '[', ']', '\x7b', '\x7d'] := by
  cases text with
  | nil => cases read
  | cons c tail =>
    have refused : ∀ c ∈ [' ', '\t', '\n', '\r', '"', '[', ']', '\x7b', '\x7d'],
        readAtom limits (c :: tail) = none := by
      simp only [List.forall_mem_cons]
      exact ⟨rfl, rfl, rfl, rfl, rfl, rfl, rfl, rfl, rfl, fun _ absent => absurd absent List.not_mem_nil⟩
    have other : c ∉ [' ', '\t', '\n', '\r'] ++ ['"', '[', ']', '\x7b', '\x7d'] := fun member => by
      rw [refused c member] at read
      cases read
    rw [List.mem_append, not_or] at other
    refine ⟨c, tail, rfl, ?_, other.2⟩
    have blanks := other.1
    simp only [List.mem_cons, List.not_mem_nil, or_false, not_or] at blanks
    simp [isSpace, blanks]

theorem readValue_of_readAtom (read : readAtom limits text = some (value, rest)) (fuel depth : Nat) :
    readValue limits (fuel + 1) depth text = .ok (value, rest) := by
  obtain ⟨c, tail, rfl, printed, plain⟩ := head_of_readAtom read
  simp only [List.mem_cons, not_or] at plain
  obtain ⟨quote, bracket, -, brace, -⟩ := plain
  unfold readValue
  rw [skipSpace_cons printed]
  split
  · next same => exact absurd (List.cons.inj same).1 quote
  · next same => exact absurd (List.cons.inj same).1 bracket
  · next same => exact absurd (List.cons.inj same).1 brace
  · rw [read]
    rfl

/-- The first character of a document is neither a blank nor a closing bracket. -/
theorem chars_head {depth : Nat} {document : Json} (room : 16 ≤ limits.digits)
    (legible : Legible limits depth document) :
    ∃ c tail, document.chars .document = c :: tail ∧ isSpace c = false ∧ c ≠ ']' := by
  have ends : Ends [] := fun _ member => absurd member (Option.not_mem_none _)
  have numbered {text : List Char} {value : Json} (read : readAtom limits (text ++ []) = some (value, [])) :
      ∃ c tail, text = c :: tail ∧ isSpace c = false ∧ c ≠ ']' := by
    rw [List.append_nil] at read
    obtain ⟨c, tail, same, printed, plain⟩ := head_of_readAtom read
    exact ⟨c, tail, same, printed, fun bracket => plain (by simp [bracket])⟩
  cases legible with
  | null => exact ⟨_, _, rfl, rfl, by decide⟩
  | bool value => cases value <;> exact ⟨_, _, rfl, rfl, by decide⟩
  | int short => exact numbered (readAtom_int (by omega) short ends)
  | float finite => exact numbered (readAtom_float room finite ends)
  | str | noItems | arr | noFields | obj => exact ⟨_, _, rfl, rfl, by decide⟩

theorem Ends.comma : Ends (',' :: rest) := by
  rintro _ ⟨⟩
  exact .inl rfl

theorem Ends.bracket : Ends (']' :: rest) := by
  rintro _ ⟨⟩
  exact .inr (.inl rfl)

theorem Ends.brace : Ends ('\x7d' :: rest) := by
  rintro _ ⟨⟩
  exact .inr (.inr rfl)

/-- A document is read from its text, whatever stands behind it. -/
def Reads (limits : Limits) (depth : Nat) (document : Json) : Prop :=
  ∀ {fuel : Nat} {rest : List Char}, 2 * (document.chars .document).length ≤ fuel → Ends rest →
    readValue limits fuel depth (document.chars .document ++ rest) = .ok (document, rest)

theorem itemChars_cons {item next : Json} {items : List Json} :
    itemChars .document (item :: next :: items) =
      item.chars .document ++ ',' :: itemChars .document (next :: items) := rfl

theorem fieldChars_cons {key : String} {value : Json} {next : String × Json} {fields : List (String × Json)} :
    fieldChars .document ((key, value) :: next :: fields) =
      stringChars .document key ++ ':' :: (value.chars .document ++ ',' :: fieldChars .document (next :: fields)) := rfl

/-- Items are read up to their closing bracket if each of them is read. -/
theorem readItems_chars {items : List Json} {depth fuel : Nat} (some : items ≠ [])
    (each : ∀ item ∈ items, Reads limits depth item)
    (enough : 2 * (itemChars .document items).length ≤ fuel) :
    readItems limits fuel depth (itemChars .document items ++ rest) = .ok (items, rest) := by
  obtain ⟨item, items, rfl⟩ := List.exists_cons_of_ne_nil some
  obtain ⟨first, others⟩ := List.forall_mem_cons.mp each
  -- Every item takes one step of fuel, which the character behind it pays for.
  induction items generalizing item fuel with
  | nil =>
    rw [itemChars, List.length_append, List.length_singleton] at enough
    obtain ⟨fuel, rfl⟩ := Nat.exists_eq_add_of_le' (show 1 ≤ fuel by omega)
    rw [itemChars, List.append_assoc, List.singleton_append, readItems, first (by omega) Ends.bracket]
    dsimp only
    rw [skipSpace_cons rfl]
    rfl
  | cons next items ih =>
    rw [itemChars_cons, List.length_append, List.length_cons] at enough
    obtain ⟨fuel, rfl⟩ := Nat.exists_eq_add_of_le' (show 1 ≤ fuel by omega)
    obtain ⟨second, behind⟩ := List.forall_mem_cons.mp others
    rw [itemChars_cons, List.append_assoc, List.cons_append, readItems, first (by omega) Ends.comma]
    dsimp only
    rw [skipSpace_cons rfl]
    change (readItems limits fuel depth (itemChars .document (next :: items) ++ rest)).map _ = _
    rw [ih next (List.cons_ne_nil _ _) others (by omega) second behind]
    rfl

/-- A string is read from its quoted text. -/
theorem readString_stringChars (text : String) {fuel : Nat} (rest : List Char)
    (enough : (stringChars .document text).length ≤ fuel + 1) :
    ∃ body, stringChars .document text ++ rest = '"' :: body ∧ readString fuel [] body = some (text, rest) := by
  have quoted : stringChars .document text = '"' :: (text.toList.flatMap (escapeChar false) ++ ['"']) := rfl
  rw [quoted, List.length_cons, List.length_append, List.length_singleton] at enough
  refine ⟨text.toList.flatMap (escapeChar false) ++ '"' :: rest, ?_, ?_⟩
  · rw [quoted, List.cons_append, List.append_assoc, List.singleton_append]
  · rw [readString_chars [] (by omega), List.reverse_nil, List.nil_append, String.ofList_toList]

/-- The fields of an object are read behind a key and a value. -/
theorem readFields_cons {key : String} {value : Json} {fuel depth : Nat}
    (enough : (stringChars .document key).length ≤ fuel + 1)
    (reads : readValue limits fuel depth text = .ok (value, rest)) :
    readFields limits (fuel + 1) depth (stringChars .document key ++ ':' :: text) =
      match skipSpace rest with
      | '\x7d' :: rest => .ok ([(key, value)], rest)
      | ',' :: rest => (readFields limits fuel depth rest).map fun (fields, rest) => ((key, value) :: fields, rest)
      | _ => .error .malformed := by
  obtain ⟨body, quoted, read⟩ := readString_stringChars key (':' :: text) enough
  have colon : skipSpace (':' :: text) = ':' :: text := skipSpace_cons rfl
  rw [quoted, readFields, skipSpace_cons rfl]
  simp only [read, colon, reads] <;> rfl

/-- Fields are read up to their closing brace if the value of each is read. -/
theorem readFields_chars {fields : List (String × Json)} {depth fuel : Nat} (some : fields ≠ [])
    (each : ∀ field ∈ fields, Reads limits depth field.2)
    (enough : 2 * (fieldChars .document fields).length ≤ fuel) :
    readFields limits fuel depth (fieldChars .document fields ++ rest) = .ok (fields, rest) := by
  obtain ⟨⟨key, value⟩, fields, rfl⟩ := List.exists_cons_of_ne_nil some
  obtain ⟨first, others⟩ := List.forall_mem_cons.mp each
  dsimp only at first
  -- Every member takes one step of fuel, which the character behind it pays for.
  induction fields generalizing key value fuel with
  | nil =>
    have written : fieldChars .document [(key, value)] =
        stringChars .document key ++ ':' :: (value.chars .document ++ ['\x7d']) := rfl
    rw [written, List.length_append, List.length_cons, List.length_append, List.length_singleton] at enough
    obtain ⟨fuel, rfl⟩ := Nat.exists_eq_add_of_le' (show 1 ≤ fuel by omega)
    rw [written, List.append_assoc, List.cons_append, List.append_assoc, List.singleton_append,
      readFields_cons (by omega) (first (by omega) Ends.brace), skipSpace_cons rfl]
    rfl
  | cons next fields ih =>
    obtain ⟨nextKey, nextValue⟩ := next
    rw [fieldChars_cons, List.length_append, List.length_cons, List.length_append, List.length_cons] at enough
    obtain ⟨fuel, rfl⟩ := Nat.exists_eq_add_of_le' (show 1 ≤ fuel by omega)
    obtain ⟨second, behind⟩ := List.forall_mem_cons.mp others
    rw [fieldChars_cons, List.append_assoc, List.cons_append, List.append_assoc, List.cons_append,
      readFields_cons (by omega) (first (by omega) Ends.comma), skipSpace_cons rfl]
    change (readFields limits fuel depth (fieldChars .document ((nextKey, nextValue) :: fields) ++ rest)).map _ = _
    rw [ih nextKey nextValue (List.cons_ne_nil _ _) others (by omega) second behind]
    rfl

theorem Reads.of_succ {document : Json} {depth : Nat} (room : 16 ≤ limits.digits)
    (legible : Legible limits depth document)
    (reads : ∀ (fuel : Nat) (rest : List Char), 2 * (document.chars .document).length ≤ fuel + 1 → Ends rest →
      readValue limits (fuel + 1) depth (document.chars .document ++ rest) = .ok (document, rest)) :
    Reads limits depth document := by
  intro fuel rest enough ends
  obtain ⟨c, tail, first, -⟩ := chars_head room legible
  have some : 1 ≤ (document.chars .document).length := by rw [first]; exact Nat.succ_pos _
  obtain ⟨fuel, rfl⟩ := Nat.exists_eq_add_of_le' (show 1 ≤ fuel by omega)
  exact reads fuel rest enough ends

theorem itemChars_head {depth : Nat} {item : Json} (items : List Json) (room : 16 ≤ limits.digits)
    (legible : Legible limits depth item) :
    ∃ c tail, itemChars .document (item :: items) = c :: tail ∧ isSpace c = false ∧ c ≠ ']' := by
  obtain ⟨c, tail, first, printed, other⟩ := chars_head room legible
  cases items with
  | nil => exact ⟨c, _, by rw [itemChars, first]; rfl, printed, other⟩
  | cons next items => exact ⟨c, _, by rw [itemChars_cons, first]; rfl, printed, other⟩

theorem fieldChars_head (field : String × Json) (fields : List (String × Json)) :
    ∃ tail, fieldChars .document (field :: fields) = '"' :: tail := by
  cases fields <;> exact ⟨_, rfl⟩

/-- A list is read once its items are. -/
theorem readValue_arr {items : List Json} {depth fuel : Nat} {rest : List Char} (room : 16 ≤ limits.digits)
    (inner : ∀ item ∈ items, Legible limits depth item) (each : ∀ item ∈ items, Reads limits depth item)
    (enough : 2 * ((Json.arr items).chars .document).length ≤ fuel + 1) :
    readValue limits (fuel + 1) (depth + 1) ((Json.arr items).chars .document ++ rest) = .ok (.arr items, rest) := by
  cases items with
  | nil => rfl
  | cons item items =>
    obtain ⟨c, tail, first, printed, other⟩ := itemChars_head items room (inner item List.mem_cons_self)
    rw [chars, List.length_cons] at enough
    have read : readItems limits fuel depth (itemChars .document (item :: items) ++ rest) =
        .ok (item :: items, rest) := readItems_chars (List.cons_ne_nil item items) each (by omega)
    rw [first, List.cons_append] at read
    rw [chars, first, List.cons_append, List.cons_append, readValue, skipSpace_cons rfl]
    simp only [skipSpace_cons printed]
    split
    · next same => exact absurd (List.cons.inj same).1 other
    · rw [if_neg (Nat.succ_ne_zero depth), Nat.add_sub_cancel, read]
      rfl

/-- An object is read once its members are. -/
theorem readValue_obj {fields : List (String × Json)} {depth fuel : Nat} {rest : List Char}
    (each : ∀ field ∈ fields, Reads limits depth field.2)
    (enough : 2 * ((Json.obj fields).chars .document).length ≤ fuel + 1) :
    readValue limits (fuel + 1) (depth + 1) ((Json.obj fields).chars .document ++ rest) =
      .ok (.obj fields, rest) := by
  cases fields with
  | nil => rfl
  | cons field fields =>
    obtain ⟨tail, first⟩ := fieldChars_head field fields
    have quote : skipSpace ('"' :: (tail ++ rest)) = '"' :: (tail ++ rest) := skipSpace_cons rfl
    rw [chars, List.length_cons] at enough
    have read : readFields limits fuel depth (fieldChars .document (field :: fields) ++ rest) =
        .ok (field :: fields, rest) := readFields_chars (List.cons_ne_nil field fields) each (by omega)
    rw [first, List.cons_append] at read
    rw [chars, first, List.cons_append, List.cons_append, readValue, skipSpace_cons rfl]
    simp only [quote]
    change (if depth + 1 = 0 then _ else _) = _
    rw [if_neg (Nat.succ_ne_zero depth), Nat.add_sub_cancel, read]
    rfl

/-- Every document within the limits is read from its text. -/
theorem reads_of_legible {document : Json} {depth : Nat} (room : 16 ≤ limits.digits)
    (legible : Legible limits depth document) : Reads limits depth document := by
  -- Each container takes one step of fuel and each of its parts another one, which its brackets and commas pay for.
  induction legible with
  | null => exact Reads.of_succ room .null fun _ _ _ _ => readValue_of_readAtom rfl _ _
  | bool value =>
    refine Reads.of_succ room (.bool value) fun _ _ _ _ => ?_
    cases value <;> exact readValue_of_readAtom rfl _ _
  | int short =>
    exact Reads.of_succ room (.int short) fun _ _ _ ends =>
      readValue_of_readAtom (readAtom_int (by omega) short ends) _ _
  | float finite =>
    exact Reads.of_succ room (.float finite) fun _ _ _ ends =>
      readValue_of_readAtom (readAtom_float room finite ends) _ _
  | str text =>
    refine Reads.of_succ room (.str text) fun fuel rest enough _ => ?_
    rw [chars] at enough ⊢
    obtain ⟨body, quoted, read⟩ := readString_stringChars text rest (show _ ≤ fuel + 1 by omega)
    rw [quoted, readValue, skipSpace_cons rfl]
    change (expected (readString fuel [] body)).map _ = _
    rw [read]
    rfl
  | noItems => exact Reads.of_succ room .noItems fun _ _ _ _ => rfl
  | arr inner ih => exact Reads.of_succ room (.arr inner) fun _ _ enough _ => readValue_arr room inner ih enough
  | noFields => exact Reads.of_succ room .noFields fun _ _ _ _ => rfl
  | obj inner ih => exact Reads.of_succ room (.obj inner) fun _ _ enough _ => readValue_obj ih enough

/-- A document within the limits is read from its own text. -/
theorem read_render {document : Json} (room : 16 ≤ limits.digits) (legible : Legible limits limits.depth document) :
    Json.read limits (document.render .document) = .ok document := by
  have ends : Ends [] := fun _ member => absurd member (Option.not_mem_none _)
  have reads : readValue limits (2 * (document.chars .document).length + 2) limits.depth
      (document.chars .document ++ []) = .ok (document, []) := reads_of_legible room legible (by omega) ends
  rw [List.append_nil] at reads
  unfold Json.read Json.render
  rw [String.toList_ofList]
  dsimp only
  rw [reads]
  rfl

end

end LayerGraph.Json
