import LayerGraph.Layer.Basic
import LayerGraph.Proofs.Markup.Tagless
import Mathlib.Data.List.Chain

/-! Texts with brackets that open no tag.

Numbers are written without brackets, and lists of them with brackets in front of digits, signs and
other brackets. None of these starts a tag, so what is put together from such texts can be read as
markup.
-/

set_option autoImplicit false

namespace LayerGraph

open Number Text

namespace Markup

/-- No bracket of a text opens a tag, whatever stands behind the text. -/
def Blunt (text : String) : Prop :=
  text.toList.IsChain (fun c d => c = '[' → opensTag d = false) ∧ text.toList.getLast? ≠ some '['

theorem tagless_of_chain {text : List Char}
    (chain : text.IsChain fun c d => c = '[' → opensTag d = false) : Tagless text := by
  induction text with
  | nil => exact .nil
  | cons c rest ih =>
    refine .char c rest ?_ (ih chain.of_cons)
    have behind : (behindSlashes (c :: rest)).IsChain fun c d => c = '[' → opensTag d = false :=
      chain.suffix (List.dropWhile_suffix _)
    match same : behindSlashes (c :: rest) with
    | [] => rfl
    | d :: others =>
      by_cases bracket : d = '['
      · subst bracket
        match others with
        | [] => rfl
        | e :: others =>
          rw [same, List.isChain_cons_cons] at behind
          exact tagText?_bracket.mpr (.inl (behind.1 rfl))
      · exact tagText?_of_head bracket

theorem Blunt.tagless {text : String} (blunt : Blunt text) : Tagless text.toList :=
  tagless_of_chain blunt.1

theorem blunt_of_no_bracket {text : String} (absent : '[' ∉ text.toList) : Blunt text := by
  refine ⟨?_, fun last => absent (List.mem_of_getLast? last)⟩
  rw [List.isChain_iff_forall_rel_of_append_cons_cons]
  rintro c d front back same rfl
  exact (absent (by simp [same])).elim

theorem Blunt.append {first second : String} (blunt : Blunt first) (other : Blunt second) :
    Blunt (first ++ second) := by
  unfold Blunt
  rw [String.toList_append, List.isChain_append, List.getLast?_append]
  refine ⟨⟨blunt.1, other.1, fun c last d _ bracket => ?_⟩, fun last => ?_⟩
  · subst bracket
    exact (blunt.2 last).elim
  · rw [Option.or_eq_some_iff] at last
    rcases last with last | ⟨_, last⟩
    · exact other.2 last
    · exact blunt.2 last

theorem blunt_join {separator : String} {parts : List String} (between : Blunt separator)
    (blunt : ∀ part ∈ parts, Blunt part) : Blunt (join separator parts) := by
  unfold join
  induction parts with
  | nil => exact blunt_of_no_bracket (by simp)
  | cons part parts ih =>
    have first := blunt part (List.mem_cons_self ..)
    cases parts with
    | nil =>
      rw [String.intercalate_singleton]
      exact first
    | cons next parts =>
      rw [String.intercalate_cons_cons]
      exact (first.append between).append (ih fun other member => blunt other (List.mem_cons_of_mem _ member))

theorem mem_join {separator : String} {parts : List String} {c : Char}
    (member : c ∈ (join separator parts).toList) :
    c ∈ separator.toList ∨ ∃ part ∈ parts, c ∈ part.toList := by
  unfold join at member
  induction parts with
  | nil => simp at member
  | cons part parts ih =>
    cases parts with
    | nil =>
      rw [String.intercalate_singleton] at member
      exact .inr ⟨part, List.mem_cons_self .., member⟩
    | cons next parts =>
      rw [String.intercalate_cons_cons, String.toList_append, String.toList_append, List.mem_append,
        List.mem_append] at member
      rcases member with (here | between) | later
      · exact .inr ⟨part, List.mem_cons_self .., here⟩
      · exact .inl between
      · exact (ih later).imp_right fun ⟨other, among, found⟩ => ⟨other, List.mem_cons_of_mem _ among, found⟩

/-- A text in brackets of which the first character starts no tag. -/
theorem Blunt.bracketed {text : String} (blunt : Blunt text)
    (starts : ∀ c, text.toList.head? = some c → opensTag c = false) : Blunt ("[" ++ text ++ "]") := by
  have closing : Blunt (text ++ "]") := blunt.append (blunt_of_no_bracket (by decide))
  unfold Blunt at closing ⊢
  have whole : ("[" ++ text ++ "]").toList = '[' :: (text ++ "]").toList := by simp
  rw [whole, List.isChain_cons, List.getLast?_cons]
  refine ⟨⟨fun d first _ => ?_, closing.1⟩, fun last => ?_⟩
  · rw [String.toList_append] at first
    cases inner : text.toList with
    | nil =>
      rw [inner] at first
      cases first
      decide
    | cons c rest =>
      rw [inner] at first starts
      cases first
      exact starts _ rfl
  · cases behind : (text ++ "]").toList.getLast? with
    | none => simp at behind
    | some d =>
      rw [behind] at last
      exact closing.2 (behind.trans last)

theorem isDigit_of_mem_toString {n : Nat} {c : Char} (member : c ∈ (toString n).toList) :
    c.isDigit = true := by
  rw [Nat.toString_eq_repr, Nat.toList_repr] at member
  exact Nat.isDigit_of_mem_toDigits (by decide) (by decide) member

theorem no_bracket_natural (n : Nat) : '[' ∉ (toString n).toList :=
  fun member => absurd (isDigit_of_mem_toString member) (by decide)

/-- An integer is written with digits and a sign. -/
theorem digit_or_sign {n : Int} {c : Char} (member : c ∈ (toString n).toList) :
    c.isDigit = true ∨ c = '-' := by
  cases n with
  | ofNat m => exact .inl (isDigit_of_mem_toString member)
  | negSucc m =>
    have negative : toString (Int.negSucc m) = "-" ++ toString (m + 1) := rfl
    rw [negative, String.toList_append, List.mem_append] at member
    rcases member with sign | digit
    · exact .inr (by simpa using sign)
    · exact .inl (isDigit_of_mem_toString digit)

theorem no_bracket_integer (n : Int) : '[' ∉ (toString n).toList := by
  intro member
  rcases digit_or_sign member with digit | sign
  · exact absurd digit (by decide)
  · exact absurd sign (by decide)

theorem opensTag_of_digit {c : Char} (digit : c.isDigit = true) : opensTag c = false := by
  have hash : c ≠ '#' := by rintro rfl; exact absurd digit (by decide)
  have slash : c ≠ '/' := by rintro rfl; exact absurd digit (by decide)
  have sign : c ≠ '@' := by rintro rfl; exact absurd digit (by decide)
  have letter : ¬ 'a' ≤ c := by
    simp only [Char.isDigit, Bool.and_eq_true, decide_eq_true_eq] at digit
    rw [Char.le_def]
    grind
  simp [opensTag, hash, slash, sign, letter]

theorem opensTag_of_separator {c : Char} (member : c ∈ ", []".toList) : opensTag c = false := by
  have all : (", []".toList.all fun d => !opensTag d) = true := by decide
  simpa using List.all_eq_true.mp all c member

theorem opensTag_of_mem_join {ns : List Int} {c : Char}
    (member : c ∈ (join ", " (ns.map toString)).toList) : opensTag c = false := by
  rcases mem_join member with between | ⟨part, among, here⟩
  · exact opensTag_of_separator (List.mem_of_mem_take (i := 2) between)
  · obtain ⟨n, _, rfl⟩ := List.mem_map.mp among
    rcases digit_or_sign here with digit | rfl
    · exact opensTag_of_digit digit
    · decide

/-- A list of integers opens no tag. -/
theorem blunt_integers (ns : List Int) : Blunt (integers ns) := by
  unfold integers
  refine (blunt_join (blunt_of_no_bracket (by decide)) fun part member => ?_).bracketed fun c first =>
    opensTag_of_mem_join (List.mem_of_head? first)
  obtain ⟨n, _, rfl⟩ := List.mem_map.mp member
  exact blunt_of_no_bracket (no_bracket_integer n)

theorem no_bracket_zeroDigits (count : Nat) : '[' ∉ (zeroDigits count).toList := by
  simp [zeroDigits]

theorem no_bracket_render (style : FloatStyle) (x : Decimal) : '[' ∉ (x.render style).toList := by
  have digits := no_bracket_natural x.digits
  have exponent := no_bracket_natural (x.exponent + (toString x.digits).length - 1).natAbs
  unfold Decimal.render padDigits
  dsimp only
  generalize toString (x.exponent + (toString x.digits).length - 1).natAbs = written at exponent ⊢
  generalize toString x.digits = text at digits ⊢
  have front : ∀ count, '[' ∉ text.toList.take count :=
    fun count member => digits (List.mem_of_mem_take member)
  have back : ∀ count, '[' ∉ text.toList.drop count :=
    fun count member => digits (List.mem_of_mem_drop member)
  have tail : '[' ∉ text.toList.tail := fun member => digits (List.mem_of_mem_tail member)
  split
  · split
    · simp [digits, no_bracket_zeroDigits]
    · split
      · simp [front, back]
      · simp [digits, no_bracket_zeroDigits]
  · split <;> split <;> simp [front, tail, exponent, no_bracket_zeroDigits]

/-- A number is written without brackets. -/
theorem no_bracket_real (x : Binary64) : '[' ∉ x.text.toList := by
  unfold Binary64.text Binary64.render
  dsimp only
  have sign : '[' ∉ (if x.negative then "-" else "").toList := by split <;> decide
  split
  · decide
  · split
    · simp [sign]
    · split
      · simp [sign]
      · simp [sign, no_bracket_render]

/-- The names of parameters and modes are quoted without brackets. -/
theorem no_bracket_names : ∀ name ∈ ["padding", "strides", "kernel", "axis", "epsilon", "shape",
    "block_shape", "paddings", "valid", "same"], '[' ∉ (quoted name).toList := by
  decide +kernel

theorem blunt_name {name : String} (member : name ∈ ["padding", "strides", "kernel", "axis", "epsilon",
    "shape", "block_shape", "paddings", "valid", "same"]) : Blunt (quoted name) :=
  blunt_of_no_bracket (no_bracket_names name member)

theorem blunt_pairs (pairs : List (Int × Int)) : Blunt (ParamValue.pairs pairs).shown := by
  unfold ParamValue.shown
  refine (blunt_join (blunt_of_no_bracket (by decide)) fun part member => ?_).bracketed fun c first => ?_
  · obtain ⟨pair, _, rfl⟩ := List.mem_map.mp member
    exact blunt_integers _
  · rcases mem_join (List.mem_of_head? first) with between | ⟨part, member, here⟩
    · exact opensTag_of_separator (List.mem_of_mem_take (i := 2) between)
    · obtain ⟨pair, _, rfl⟩ := List.mem_map.mp member
      unfold integers at here
      rw [String.toList_append, String.toList_append, List.mem_append, List.mem_append] at here
      rcases here with (opening | inside) | closing
      · exact opensTag_of_separator (by simp_all)
      · exact opensTag_of_mem_join inside
      · exact opensTag_of_separator (by simp_all)

/-- The parameters of a layer that is no constant open no tag. -/
theorem blunt_params {body : LayerBody} (kind : body.kind ≠ .constant) : Blunt body.paramsText := by
  have padding : ∀ mode : Padding, Blunt (ParamValue.text mode.name).shown := by
    intro mode
    cases mode <;> exact blunt_name (by decide)
  have parts : ∀ param ∈ body.params, Blunt (quoted param.1) ∧ Blunt param.2.shown := by
    cases body with
    | input | output | relu => nofun
    | constant value => exact (kind rfl).elim
    | conv2d convolution | depthwiseConv2d convolution =>
      simp only [LayerBody.params, LayerBody.convolutionParams, List.forall_mem_cons]
      exact ⟨⟨blunt_name (by decide), padding _⟩, ⟨blunt_name (by decide), blunt_integers _⟩,
        ⟨blunt_name (by decide), blunt_integers _⟩, nofun⟩
    | add axis | softmax axis =>
      simp only [LayerBody.params, List.forall_mem_cons]
      exact ⟨⟨blunt_name (by decide), blunt_of_no_bracket (no_bracket_integer axis)⟩, nofun⟩
    | batchNormalization statistics epsilon =>
      simp only [LayerBody.params, List.forall_mem_cons]
      exact ⟨⟨blunt_name (by decide), blunt_of_no_bracket (no_bracket_real epsilon)⟩, nofun⟩
    | averagePool2d mode kernel strides =>
      simp only [LayerBody.params, List.forall_mem_cons]
      exact ⟨⟨blunt_name (by decide), padding mode⟩, ⟨blunt_name (by decide), blunt_integers _⟩,
        ⟨blunt_name (by decide), blunt_integers _⟩, nofun⟩
    | reshape target =>
      simp only [LayerBody.params, List.forall_mem_cons]
      exact ⟨⟨blunt_name (by decide), blunt_integers target⟩, nofun⟩
    | spaceToBatch block paddings =>
      simp only [LayerBody.params, List.forall_mem_cons]
      exact ⟨⟨blunt_name (by decide), blunt_integers _⟩, ⟨blunt_name (by decide), blunt_pairs paddings⟩, nofun⟩
  unfold LayerBody.paramsText
  refine ((blunt_of_no_bracket (by decide)).append (blunt_join (blunt_of_no_bracket (by decide))
    fun part member => ?_)).append (blunt_of_no_bracket (by decide))
  obtain ⟨⟨name, value⟩, among, rfl⟩ := List.mem_map.mp member
  exact ((parts _ among).1.append (blunt_of_no_bracket (by decide))).append (parts _ among).2

/-- A layer is named by its kind and shapes, which open no tag. -/
theorem blunt_layer (layer : Layer) : Blunt layer.text := by
  have name : ∀ kind : LayerKind, '[' ∉ kind.name.toList := by
    intro kind
    cases kind <;> decide
  unfold Layer.text
  refine (((blunt_of_no_bracket (name _)).append (blunt_of_no_bracket (by decide))).append
    (blunt_join (blunt_of_no_bracket (by decide)) fun part member => ?_)).append (blunt_of_no_bracket (by decide))
  obtain ⟨port, _, rfl⟩ := List.mem_map.mp member
  exact blunt_integers port.shape

end Markup

end LayerGraph
