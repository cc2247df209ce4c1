import LayerGraph.Proofs.Tensor.Spelled
import LayerGraph.Proofs.Tensor.Steps

/-! Canonical names of element types as spellings.

The types of numbers, and those that have no size yet, are spelled by their canonical names. A type with a size is not: its
name goes on with bits, which no spelling does. Nor is a step of time with a negative count, or a text of any length.
-/

set_option autoImplicit false

namespace LayerGraph.ElementType

open Attempt Text

/-- Types of a width that has a spelling, and steps of time with a count that is not too large. -/
def Spellable : ElementType → Prop
  | .signed width | .unsigned width => width ∈ [1, 2, 4, 8]
  | .float width => width ∈ [2, 4, 8, 16]
  | .complex width => width ∈ [8, 16, 32]
  | .instant step | .duration step => step.count ≤ 0x7fffffff
  | _ => True

/-- Types whose canonical name is a spelling. -/
def Nameable : ElementType → Prop
  | .bytes size | .block _ _ size => size = 0
  | .text length => length = 0
  | .record stretches _ => Stretch.total stretches = 0
  | .longText => False
  | .instant step | .duration step => step.unit = .generic ∨ 0 ≤ step.count
  | _ => True

instance : DecidablePred Nameable := fun type => by
  cases type <;> unfold Nameable <;> infer_instance

variable {type : ElementType} {stem : String} {c : Char} {rest : List Char}

/-! ### What spellings lead to -/

theorem spellable_of_ofCode? (named : ofCode? c = some type) : type.Spellable := by
  unfold ofCode? at named
  split at named <;> cases named <;> simp [Spellable, raw]

theorem spellable_of_mem_numbered : ∀ type ∈ numbered, type.Spellable := by
  simp [numbered, Spellable, raw]

theorem spellable_of_ofSized? {kind : Char} {size : Nat} (named : ofSized? kind size = some type) :
    type.Spellable := by
  unfold ofSized? at named
  split at named
  all_goals try split at named
  all_goals cases named
  all_goals simp_all [Spellable, raw]

theorem spellable_of_ofName? {name : String} (named : ofName? name = some type) : type.Spellable := by
  unfold ofName? at named
  split at named <;> cases named <;> simp [Spellable, raw]

theorem spellable_of_repeated {counted : ElementType} {extents : List Nat} {several : Bool}
    (spellable : type.Spellable) (made : repeated type extents several = .ok counted) : counted.Spellable := by
  rcases repeated_cases made with ⟨_, size, rfl⟩ | rfl | ⟨_, rfl⟩
  · cases type <;> exact spellable
  · exact spellable
  · trivial

theorem kept_spellable : Kept Spellable where
  timed read := ⟨TimeStep.count_le_of_read read, TimeStep.count_le_of_read read⟩
  single := trivial
  numbered := spellable_of_mem_numbered
  coded := spellable_of_ofCode?
  sized := spellable_of_ofSized?
  named := spellable_of_ofName?
  counted := spellable_of_repeated
  record _ _ := trivial

/-! ### Names with bits -/

theorem hasOuterComma_of_notMem {text : List Char} {depth : Int} (bare : ',' ∉ text) :
    hasOuterComma depth text = false := by
  induction text generalizing depth with
  | nil => rfl
  | cons c text ih =>
    simp only [List.mem_cons, not_or] at bare
    unfold hasOuterComma
    split <;> simp_all

/-- A small letter, which all names begin with but one. -/
def isSmall (c : Char) : Bool := 'a' ≤ c && c ≤ 'z'

theorem toNat_of_isSmall (letter : isSmall c = true) : 97 ≤ c.toNat := by
  simp only [isSmall, Bool.and_eq_true, decide_eq_true_eq] at letter
  exact letter.1

theorem not_digit_of_isSmall (letter : isSmall c = true) : isDigit c = false := by
  have low := toNat_of_isSmall letter
  simp [isDigit, Char.le_def, UInt32.le_iff_toNat_le]
  omega

theorem not_order_of_isSmall (letter : isSmall c = true) : isOrder c = false := by
  simp only [isOrder, List.contains_eq_mem, decide_eq_false_iff_not, List.mem_cons, List.not_mem_nil, or_false, not_or]
  refine ⟨?_, ?_, ?_, ?_⟩ <;> rintro rfl <;> exact absurd letter (by decide)

/-- A spelling that begins with a letter and has no comma lists no formats. -/
theorem parse_eq_ofPlain (letter : isSmall c = true) (bare : ',' ∉ rest) :
    parse (String.ofList (c :: rest)) = ofPlain (String.ofList (c :: rest)) := by
  have alone : ',' ∉ c :: rest := by
    rintro (_ | ⟨_, member⟩)
    · exact absurd letter (by decide)
    · exact bare member
  have plain : listsFormats (c :: rest) = false := by
    unfold listsFormats
    simp only [hasOuterComma_of_notMem alone, Bool.or_false, Bool.or_eq_false_iff]
    constructor
    · split
      · next same => exact absurd letter (by rw [(List.cons.inj same).1]; decide)
      · next same => rw [← (List.cons.inj same).1, not_digit_of_isSmall letter]
      · rfl
    · split
      · next same => rw [← (List.cons.inj same).1, not_order_of_isSmall letter]
      · next same => rw [← (List.cons.inj same).1, not_order_of_isSmall letter, Bool.false_and]
      · rfl
  unfold parse parseWith
  rw [String.toList_ofList, plain]
  rfl

theorem size?_of_isSmall (letter : isSmall c = true) : size? (c :: rest) = none := by
  have low := toNat_of_isSmall letter
  have gap : TimeStep.isGap c = false := by
    simp only [TimeStep.isGap, Bool.or_eq_false_iff, decide_eq_false_iff_not, Bool.and_eq_false_iff]
    refine ⟨?_, by omega⟩
    rintro rfl
    exact absurd low (by decide)
  have sign : c ≠ '-' ∧ c ≠ '+' := by
    constructor <;> rintro rfl <;> exact absurd letter (by decide)
  rw [size?, TimeStep.leadingInteger?_other ⟨gap, sign.1, sign.2, not_digit_of_isSmall letter⟩]

/-- All names that are written out. -/
def writtenNames : List String := [
  "bool", "bool_", "int8", "byte", "uint8", "ubyte", "int16", "short", "uint16", "ushort", "int32", "intc", "uint32",
  "uintc", "int64", "int", "int_", "intp", "long", "longlong", "uint64", "uint", "uintp", "ulong", "ulonglong",
  "float16", "half", "float32", "single", "float64", "double", "float", "float128", "longdouble", "complex64", "csingle",
  "complex128", "cdouble", "complex", "complex256", "clongdouble", "bytes", "bytes_", "a", "str", "str_", "unicode",
  "void", "object", "object_"]

theorem mem_writtenNames {name : String} (named : ofName? name = some type) : name ∈ writtenNames := by
  unfold ofName? at named
  split at named
  all_goals first | cases named; done | simp [writtenNames]

/-- The names of types without a size, behind which the bits of a size stand. -/
def stems : List String := ["bytes", "str", "void"]

/-- No name that is written out goes on with digits behind a stem. -/
theorem ofName?_sized (member : stem ∈ stems) (n : Nat) : ofName? (stem ++ toString n) = none := by
  have apart : ∀ stem ∈ stems, ∀ name ∈ writtenNames,
      ¬ (stem.toList.isPrefixOf name.toList ∧ (name.toList.drop stem.toList.length).head?.any isDigit) := by decide
  rw [Option.eq_none_iff_forall_ne_some]
  intro type named
  -- Bits would begin with a digit.
  apply apart stem member _ (mem_writtenNames named)
  have some_digit : Nat.toDigits 10 n ≠ [] := Nat.toDigits_ne_nil
  obtain ⟨digit, digits, listed⟩ := List.exists_cons_of_ne_nil some_digit
  have first : isDigit digit = true := isDigit_toDigits digit (by rw [listed]; exact List.mem_cons_self)
  rw [String.toList_append, Nat.toString_eq_repr, Nat.toList_repr, listed, List.drop_left]
  simp [first]

theorem splitOrder_of_isSmall (letter : isSmall c = true) : splitOrder (c :: rest) = (.little, c :: rest) := by
  have other := not_order_of_isSmall letter
  unfold splitOrder
  split
  all_goals first | rfl | (next same => cases same; simp [isOrder] at other)

/-- What is neither a time, a short spelling nor a name is refused, as an old name or an unknown one. -/
theorem ofPlain_unknown {second : Char} (letter : isSmall c = true) (more : isSmall second = true)
    (timeless : ofTime? (c :: second :: rest) = none)
    (unnamed : ofName? (String.ofList (c :: second :: rest)) = none) :
    ∃ defect, ofPlain (String.ofList (c :: second :: rest)) = .error defect ∧ defect.kind = .type := by
  unfold ofPlain
  rw [String.toList_ofList, splitOrder_of_isSmall letter]
  dsimp only
  rw [timeless]
  dsimp only
  rw [size?_of_isSmall more, Option.bind_none, unnamed]
  dsimp only
  split <;> exact ⟨_, rfl, rfl⟩

/-- A stem with bits behind it is no spelling. -/
theorem parse_sized (member : stem ∈ stems) (n : Nat) :
    ∃ defect, parse (stem ++ toString n) = .error defect ∧ defect.kind = .type := by
  have unnamed := ofName?_sized member n
  have bare : ',' ∉ Nat.toDigits 10 n := fun comma => absurd (isDigit_toDigits _ comma) (by decide)
  have digits : (toString n).toList = Nat.toDigits 10 n := by rw [Nat.toString_eq_repr, Nat.toList_repr]
  -- Two letters begin each stem, so that no size is read behind the first one.
  obtain ⟨c, second, tail, whole, letter, more, alone, timeless⟩ : ∃ c second tail, stem.toList = c :: second :: tail ∧
      isSmall c = true ∧ isSmall second = true ∧ ',' ∉ second :: tail ∧
        ∀ rest, ofTime? (c :: second :: (tail ++ rest)) = none := by
    simp only [stems, List.mem_cons, List.not_mem_nil, or_false] at member
    rcases member with rfl | rfl | rfl <;>
      exact ⟨_, _, _, rfl, by decide, by decide, by decide, fun rest => rfl⟩
  have spelled : stem ++ toString n = String.ofList (c :: second :: (tail ++ Nat.toDigits 10 n)) := by
    rw [← String.toList_inj, String.toList_append, digits, whole, String.toList_ofList]
    rfl
  rw [spelled] at unnamed ⊢
  rw [parse_eq_ofPlain letter (by simpa [bare] using alone)]
  exact ofPlain_unknown letter more (timeless _) unnamed

/-! ### Times -/

theorem parse_time (front : List Char) {text : String} {made : Except TimeDefect ElementType} (letter : isSmall c = true)
    (bare : ',' ∉ front ++ text.toList) (timed : ofTime? (c :: (front ++ text.toList)) = some made) :
    parse (String.ofList (c :: front) ++ text) = (made.map (·, .little)).mapError .time := by
  have spelled : String.ofList (c :: front) ++ text = String.ofList (c :: (front ++ text.toList)) := by
    rw [← String.toList_inj, String.toList_append, String.toList_ofList, String.toList_ofList, List.cons_append]
  rw [spelled, parse_eq_ofPlain letter bare]
  unfold ofPlain
  rw [String.toList_ofList, splitOrder_of_isSmall letter]
  dsimp only
  rw [timed]
  cases made <;> rfl

theorem parse_instant (step : TimeStep) : parse (instant step).name =
    (((TimeStep.read step.text.toList).map instant).map (·, .little)).mapError .time :=
  parse_time "atetime64".toList (by decide) (by simpa using fun comma => (TimeStep.mem_text comma).1 rfl) rfl

theorem parse_duration (step : TimeStep) : parse (duration step).name =
    (((TimeStep.read step.text.toList).map duration).map (·, .little)).mapError .time :=
  parse_time "imedelta64".toList (by decide) (by simpa using fun comma => (TimeStep.mem_text comma).1 rfl) rfl

/-! ### All names -/

/-- The types that have no size, or one width only, and those of numbers. -/
def plainTypes : List ElementType := [
  .bool, .signed 1, .signed 2, .signed 4, .signed 8, .unsigned 1, .unsigned 2, .unsigned 4, .unsigned 8, .float 2, .float 4,
  .float 8, .float 16, .complex 8, .complex 16, .complex 32, .bytes 0, .text 0, .raw 0, .reference]

theorem parse_plain : ∀ type ∈ plainTypes, parse type.name = .ok (type, .little) := by decide +kernel

/-- The name spells a type of the same name if it can be, and else it is refused. -/
def Settled (type : ElementType) : Prop :=
  (type.Nameable → ∃ again order, parse type.name = .ok (again, order) ∧ again.name = type.name) ∧
  (¬ type.Nameable → ∃ defect, parse type.name = .error defect ∧ defect.kind = .type)

theorem settled_plain (plain : ElementType) (listed : plain ∈ plainTypes) (named : plain.name = type.name)
    (nameable : type.Nameable) : type.Settled := by
  refine ⟨fun _ => ⟨plain, .little, ?_, named⟩, absurd nameable⟩
  rw [← named]
  exact parse_plain plain listed

theorem settled_sized (plain : ElementType) {size : Nat} (listed : plain ∈ plainTypes) (member : plain.name ∈ stems)
    (named : type.name = if size = 0 then plain.name else plain.name ++ toString (8 * size))
    (nameable : type.Nameable ↔ size = 0) : type.Settled := by
  by_cases empty : size = 0
  · rw [if_pos empty] at named
    exact settled_plain plain listed named.symm (nameable.mpr empty)
  · rw [if_neg empty] at named
    refine ⟨fun name => absurd (nameable.mp name) empty, fun _ => ?_⟩
    rw [named]
    exact parse_sized member _

theorem settled_time {make : TimeStep → ElementType} {step : TimeStep} (most : step.count ≤ 0x7fffffff)
    (parsed : parse (make step).name = (((TimeStep.read step.text.toList).map make).map (·, .little)).mapError .time)
    (named : ∀ again : TimeStep, again.text = step.text → (make again).name = (make step).name)
    (nameable : (make step).Nameable ↔ step.unit = .generic ∨ 0 ≤ step.count) : (make step).Settled := by
  obtain ⟨shown, unshown⟩ := TimeStep.read_text most
  constructor
  · intro name
    obtain ⟨again, read, same⟩ := shown (nameable.mp name)
    exact ⟨make again, .little, by rw [parsed, read]; rfl, named again same⟩
  · intro unnameable
    obtain ⟨text, position, refused⟩ := unshown (mt nameable.mpr unnameable)
    exact ⟨.time (.form text (some position)), by rw [parsed, refused]; rfl, rfl⟩

theorem settled_of_spellable (spellable : type.Spellable) : type.Settled := by
  cases type with
  | bool => exact settled_plain .bool (by decide) rfl trivial
  | reference => exact settled_plain .reference (by decide) rfl trivial
  | signed width | unsigned width | float width =>
    simp only [Spellable, List.mem_cons, List.not_mem_nil, or_false] at spellable
    refine settled_plain _ ?_ rfl trivial
    rcases spellable with rfl | rfl | rfl | rfl <;> decide
  | complex width =>
    simp only [Spellable, List.mem_cons, List.not_mem_nil, or_false] at spellable
    refine settled_plain _ ?_ rfl trivial
    rcases spellable with rfl | rfl | rfl <;> decide
  | bytes size => exact settled_sized (.bytes 0) (by decide) (by decide) rfl Iff.rfl
  | text length =>
    have whole : length = 0 ↔ 4 * length = 0 := by omega
    exact settled_sized (.text 0) (by decide) (by decide) rfl whole
  | record stretches reach => exact settled_sized (.raw 0) (by decide) (by decide) rfl Iff.rfl
  | block base extents size => exact settled_sized (.raw 0) (by decide) (by decide) rfl Iff.rfl
  | longText => exact ⟨False.elim, fun _ => ⟨.unknown "StringDType128", by decide +kernel, rfl⟩⟩
  | instant step =>
    exact settled_time spellable (parse_instant step) (fun again same => by simp only [name, same]) Iff.rfl
  | duration step =>
    exact settled_time spellable (parse_duration step) (fun again same => by simp only [name, same]) Iff.rfl

/-- The name of a type that is spelled is a spelling exactly if it can be. -/
theorem settled_of_parse {spelling : String} {order : ByteOrder} (parsed : parse spelling = .ok (type, order)) :
    type.Settled :=
  settled_of_spellable (kept_spellable.of_parseWith parsed)

/-! ### Blanks -/

theorem not_blank_bits (clean : stem.toList.any isBlank = false) (size : Nat) :
    (if size = 0 then stem else stem ++ toString (8 * size)).toList.any isBlank = false := by
  split
  · exact clean
  · rw [String.toList_append, Nat.toString_eq_repr, Nat.toList_repr, List.any_append, clean, Bool.false_or]
    simpa using fun c digit => TimeStep.not_blank_of_digit (isDigit_toDigits c digit)

theorem not_blank_time (clean : stem.toList.any isBlank = false) (step : TimeStep) :
    (stem ++ step.text).toList.any isBlank = false := by
  rw [String.toList_append, List.any_append, clean, Bool.false_or]
  simpa using fun c member => (TimeStep.mem_text member).2

theorem not_blank_name (type : ElementType) : type.name.toList.any isBlank = false := by
  cases type with
  | bool | reference | longText => decide
  | signed size | unsigned size | float size | complex size | bytes size => exact not_blank_bits (by decide) size
  | text length => exact not_blank_bits (by decide) (4 * length)
  | record stretches reach => exact not_blank_bits (by decide) (Stretch.total stretches)
  | block base extents size => exact not_blank_bits (by decide) size
  | instant step | duration step => exact not_blank_time (by decide) step

/-- Nothing is stripped from a name. -/
theorem strip_name (type : ElementType) : strip type.name = type.name := by
  have clean : ∀ c ∈ type.name.toList, isBlank c = false := by simpa using type.not_blank_name
  have front : ∀ text : List Char, (∀ c ∈ text, isBlank c = false) → text.dropWhile isBlank = text := by
    intro text clean
    cases text with
    | nil => rfl
    | cons c text => simp [clean c List.mem_cons_self]
  unfold strip trimList
  rw [front _ clean, front _ (by simpa using clean), List.reverse_reverse, String.ofList_toList]

end LayerGraph.ElementType
