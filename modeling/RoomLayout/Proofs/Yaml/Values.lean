import Mathlib.Data.List.Forall2
import RoomLayout.Yaml.Fields
import RoomLayout.Proofs.Yaml.Collections

/-!
# Texts and numbers in trees

Nodes of texts and of numbers are legible: the style in which a text is written always
fits the text, and the text of a number always fits without quotes. A record reads back as
its fields, a list as its items.
-/

namespace RoomLayout.Yaml

/-! ## Texts -/

/-- Every text is written in a style that fits it. -/
theorem legible_text (text : String) : (Node.text text).Legible := by
  refine .scalar ?_
  rw [styleOf]
  split
  · next lineFeed =>
    have nonempty : text.toList ≠ [] := by
      intro empty
      rw [empty] at lineFeed
      exact absurd lineFeed (by decide)
    split
    · next fits => exact .literal fits nonempty
    · exact .doubleQuoted
  · next noLineFeed =>
    split
    · next fits => exact .plain (Bool.and_eq_true_iff.mp fits).2
    · split
      · next fits => exact .singleQuoted fits (by simpa using noLineFeed)
      · exact .doubleQuoted

/-- A text that looks like something else is not written without quotes. -/
theorem isAmbiguous_of_styleOf {text : String} (plain : styleOf text = .plain) :
    isAmbiguous text = false := by
  rw [styleOf] at plain
  split at plain
  · split at plain <;> cases plain
  · split at plain
    · next fits => simpa using (Bool.and_eq_true_iff.mp fits).1
    · split at plain <;> cases plain

/-- A text that may be missing is legible, -/
theorem legible_optionalText (value : Option String) : (Node.optionalText value).Legible := by
  cases value with
  | none => exact .scalar (.plain (by decide +kernel))
  | some text => exact legible_text text

/-- and is read back, also if it is empty or spells nothing. -/
theorem optionalText?_optionalText (value : Option String) :
    (Node.optionalText value).optionalText? = some value := by
  cases value with
  | none => decide
  | some text =>
    simp only [Node.optionalText, Node.text, Node.optionalText?]
    cases style : styleOf text with
    | plain =>
      have unambiguous := isAmbiguous_of_styleOf style
      simp only [isAmbiguous, Bool.or_eq_false_iff, decide_eq_false_iff_not] at unambiguous
      obtain ⟨⟨⟨⟨⟨nonempty, noNull⟩, -⟩, -⟩, -⟩, -⟩ := unambiguous
      simp [nonempty, noNull, show (ScalarStyle.plain != ScalarStyle.plain) = false from rfl]
    | _ => rfl

/-! ## Truth values -/

theorem legible_truth (value : Bool) : (Node.truth value).Legible := by
  cases value <;> exact .scalar (.plain (by decide +kernel))

theorem truth?_truth (value : Bool) : (Node.truth value).truth? = some value := by
  cases value <;> decide

/-! ## Numbers -/

/-- The characters in the text of a finite number. -/
def isNumberCharacter (c : Char) : Bool := c.isDigit || c ∈ ['.', '-', 'e']

theorem isPrintable_of_isNumberCharacter {c : Char} (number : isNumberCharacter c = true) :
    isPrintable c = true := by
  rcases Bool.or_eq_true_iff.mp number with digit | mark
  · exact isPrintable_of_range digit (by decide)
  · have marks : ∀ d ∈ ['.', '-', 'e'], isPrintable d = true := List.all_eq_true.mp (by decide)
    exact marks c (of_decide_eq_true mark)

/-- A character of a number is none that gives structure to a text. -/
theorem ne_of_isNumberCharacter {c other : Char} (number : isNumberCharacter c = true)
    (noNumber : isNumberCharacter other = false) : c ≠ other := by
  rintro rfl
  exact absurd number (by simp [noNumber])

theorem ne_of_any_isNumberCharacter {c : Char} (number : isNumberCharacter c = true)
    {marks : List Char} (noNumbers : marks.any isNumberCharacter = false) :
    ∀ mark ∈ marks, c ≠ mark := fun mark member =>
  ne_of_isNumberCharacter number (by simpa using List.any_eq_false.mp noNumbers mark member)

theorem isSpacing_of_isNumberCharacter {c : Char} (number : isNumberCharacter c = true) :
    isSpacing c = false := by
  have apart : ∀ d ∈ [' ', '\t', '\n', '\r', '\x85', '\u2028', '\u2029'], c ≠ d :=
    ne_of_any_isNumberCharacter number (by decide)
  simp [isSpacing, isBlank, isBreak, apart]

/-- A text of number characters holds no mark of a key. -/
theorem holdsKeyMark_of_isNumberCharacter {text : List Char}
    (numbers : ∀ c ∈ text, isNumberCharacter c = true) : holdsKeyMark text = false := by
  induction text with
  | nil => rfl
  | cons c rest inductionHypothesis =>
    obtain ⟨first, rest⟩ := List.forall_mem_cons.mp numbers
    have noColon : c ≠ ':' := ne_of_isNumberCharacter first (by decide)
    simp [holdsKeyMark, noColon, inductionHypothesis rest]

/-- A text of number characters holds no comment. -/
theorem holdsComment_of_isNumberCharacter {text : List Char}
    (numbers : ∀ c ∈ text, isNumberCharacter c = true) : holdsComment text = false := by
  rw [holdsComment]
  induction text with
  | nil => rfl
  | cons c rest inductionHypothesis =>
    obtain ⟨first, rest'⟩ := List.forall_mem_cons.mp numbers
    cases rest with
    | nil => rfl
    | cons d rest =>
      rw [hasNeighbours, inductionHypothesis rest', isSpacing_of_isNumberCharacter first]
      rfl

/-- What starts with a digit, or with a sign and a digit, looks like nothing else. -/
theorem startsWith_digit {c : Char} (digit : c.isDigit = true) (rest : List Char)
    (negative : Bool) :
    startsLikeDocument ((if negative then ['-'] else []) ++ c :: rest) = false
      ∧ startsWithIndicator ((if negative then ['-'] else []) ++ c :: rest) = false := by
  have number : isNumberCharacter c = true := by simp [isNumberCharacter, digit]
  have noDash : c ≠ '-' := by rintro rfl; exact absurd digit (by decide)
  have noDot : c ≠ '.' := by rintro rfl; exact absurd digit (by decide)
  have noSpacing := isSpacing_of_isNumberCharacter number
  cases negative with
  | true =>
    constructor
    · simp [startsLikeDocument, noDash]
    · simp [startsWithIndicator, startsWithSpacing, noSpacing, isReserved, isFlowIndicator]
  | false =>
    constructor
    · simp [startsLikeDocument, noDash, noDot]
    · have apart : ∀ d ∈ [',', '[', ']', '\x7b', '\x7d', '#', '&', '*', '!', '|', '>', '\x27',
          '\x22', '%', '@', '\x60', '?', ':'], c ≠ d :=
        ne_of_any_isNumberCharacter number (by decide)
      simp [startsWithIndicator, isReserved, isFlowIndicator, apart, noDash]

/-- A text of number characters fits without quotes if a digit comes first or behind the sign. -/
theorem fitsPlain_of_isNumberCharacter {c : Char} {rest : List Char} (digit : c.isDigit = true)
    (numbers : ∀ d ∈ rest, isNumberCharacter d = true) (negative : Bool) :
    fitsPlain ((if negative then ['-'] else []) ++ c :: rest) = true := by
  obtain ⟨noDocument, noIndicator⟩ := startsWith_digit digit rest negative
  have all : ∀ d ∈ (if negative then ['-'] else []) ++ c :: rest, isNumberCharacter d = true := by
    refine List.forall_mem_append.mpr ⟨?_, List.forall_mem_cons.mpr ⟨?_, numbers⟩⟩
    · cases negative <;> exact List.all_eq_true.mp (by decide)
    · simp [isNumberCharacter, digit]
  have nonempty : (if negative then ['-'] else []) ++ c :: rest ≠ [] := by simp
  generalize (if negative then ['-'] else []) ++ c :: rest = text at *
  have noSpace (d : Char) (member : d ∈ text) : d ≠ ' ' :=
    ne_of_isNumberCharacter (all d member) (by decide)
  simp only [fitsPlain, isWritable, Bool.and_eq_true, Bool.not_eq_true', bne_iff_ne, ne_eq,
    List.all_eq_true, List.any_eq_false, List.isEmpty_eq_false_iff]
  refine ⟨⟨⟨⟨⟨⟨⟨⟨nonempty, ?_⟩, ?_⟩, ?_⟩, ?_⟩, noDocument⟩, noIndicator⟩,
    holdsKeyMark_of_isNumberCharacter all⟩, holdsComment_of_isNumberCharacter all⟩
  · exact fun d member => isPrintable_of_isNumberCharacter (all d member)
  · intro d member
    have noSpacing := isSpacing_of_isNumberCharacter (all d member)
    simp [(Bool.or_eq_false_iff.mp noSpacing).2]
  · exact fun first => noSpace ' ' (List.mem_of_head? first) rfl
  · exact fun last => noSpace ' ' (List.mem_of_getLast? last) rfl

/-- The text of a number without its sign: number characters, a digit first. -/
structure IsNumberText (text : List Char) : Prop where
  digit : ∃ c rest, text = c :: rest ∧ c.isDigit = true
  numbers : ∀ c ∈ text, isNumberCharacter c = true

namespace IsNumberText

theorem append {text further : List Char} (number : IsNumberText text)
    (numbers : ∀ c ∈ further, isNumberCharacter c = true) : IsNumberText (text ++ further) where
  digit := by
    obtain ⟨c, rest, rfl, digit⟩ := number.digit
    exact ⟨c, rest ++ further, rfl, digit⟩
  numbers := List.forall_mem_append.mpr ⟨number.numbers, numbers⟩

theorem of_digits {text : List Char} (nonempty : text ≠ [])
    (digits : ∀ c ∈ text, c.isDigit = true) : IsNumberText text where
  digit := by
    obtain ⟨c, rest, rfl⟩ := List.exists_cons_of_ne_nil nonempty
    exact ⟨c, rest, rfl, digits c List.mem_cons_self⟩
  numbers c member := by simp [isNumberCharacter, digits c member]

end IsNumberText

theorem isNumberCharacter_zeros (count : Nat) :
    ∀ c ∈ (DecimalFormat.zeros count).toList, isNumberCharacter c = true := by
  intro c member
  rw [DecimalFormat.zeros, String.toList_ofList] at member
  rw [(List.mem_replicate.mp member).2]
  decide

theorem isNumberCharacter_toString (n : Int) :
    ∀ c ∈ (toString n).toList, isNumberCharacter c = true := by
  have digits (n : Nat) : ∀ c ∈ n.repr.toList, isNumberCharacter c = true := by
    intro c member
    rw [Nat.repr_eq_ofList_toDigits, String.toList_ofList] at member
    simp [isNumberCharacter, Nat.isDigit_of_mem_toDigits (by decide) (by decide) member]
  rw [Int.toString_eq_repr, Int.repr_eq_if]
  split
  · exact digits _
  · rw [String.toList_append]
    exact List.forall_mem_append.mpr ⟨List.all_eq_true.mp (by decide), digits _⟩

/-- Digits around a point, or with an exponent, are the text of a number. -/
theorem isNumberText_write (d : Decimal) : IsNumberText (numberFormat.write d).toList := by
  have digits : ∀ c ∈ Nat.toDigits 10 d.digits, c.isDigit = true := fun c member =>
    Nat.isDigit_of_mem_toDigits (by decide) (by decide) member
  have numbers : ∀ c ∈ Nat.toDigits 10 d.digits, isNumberCharacter c = true := fun c member => by
    simp [isNumberCharacter, digits c member]
  have nonempty : Nat.toDigits 10 d.digits ≠ [] := Nat.toDigits_ne_nil
  have number := IsNumberText.of_digits nonempty digits
  have first (count : Nat) (positive : 0 < count) :
      IsNumberText ((Nat.toDigits 10 d.digits).take count) := by
    refine .of_digits ?_ fun c member => digits c (List.mem_of_mem_take member)
    simp only [ne_eq, List.take_eq_nil_iff, nonempty, or_false]
    omega
  rw [DecimalFormat.write]
  split
  · exact ⟨⟨'0', ['.', '0'], rfl, by decide⟩, List.all_eq_true.mp (by decide)⟩
  · split
    · next noZero withoutExponent =>
      rw [DecimalFormat.writePlain]
      split
      · have leading : IsNumberText ("0." : String).toList :=
          ⟨⟨'0', ['.'], rfl, by decide⟩, List.all_eq_true.mp (by decide)⟩
        simp only [String.toList_append, String.toList_ofList]
        exact (leading.append (isNumberCharacter_zeros _)).append numbers
      · split
        · have tail : ∀ c ∈ numberFormat.emptyFraction.toList, isNumberCharacter c = true :=
            List.all_eq_true.mp (by decide)
          simp only [String.toList_append, String.toList_ofList]
          exact (number.append (isNumberCharacter_zeros _)).append tail
        · have point : ∀ c ∈ ("." : String).toList, isNumberCharacter c = true :=
            List.all_eq_true.mp (by decide)
          simp only [String.toList_append, String.toList_ofList]
          exact ((first _ (by omega)).append point).append fun c member =>
            numbers c (List.mem_of_mem_drop member)
    · rw [DecimalFormat.writeScientific]
      have mark : ∀ c ∈ numberFormat.exponentMark.toList, isNumberCharacter c = true :=
        List.all_eq_true.mp (by decide)
      have point : ∀ c ∈ ("." : String).toList, isNumberCharacter c = true :=
        List.all_eq_true.mp (by decide)
      have fraction : ∀ c ∈ (if (Nat.toDigits 10 d.digits).tail.isEmpty then ""
          else "." ++ String.ofList (Nat.toDigits 10 d.digits).tail).toList,
          isNumberCharacter c = true := by
        split
        · exact nofun
        · simp only [String.toList_append, String.toList_ofList]
          exact List.forall_mem_append.mpr ⟨point, fun c member =>
            numbers c (List.mem_of_mem_tail member)⟩
      simp only [String.toList_append, String.toList_ofList]
      exact (((first 1 (by decide)).append fraction).append mark).append
        (isNumberCharacter_toString _)

/-- What is written for a number fits without quotes. -/
theorem fitsPlain_writeFloat (x : Float) : fitsPlain (numberFormat.writeFloat x).toList = true := by
  rw [DecimalFormat.writeFloat]
  split
  · decide +kernel
  · decide +kernel
  · decide +kernel
  · next negative mantissa exponent _ =>
    obtain ⟨⟨c, rest, written, digit⟩, numbers⟩ := isNumberText_write
      (if mantissa = 0 then ⟨0, 0⟩ else Decimal.shortest mantissa exponent)
    have sign : (if negative then "-" else "").toList = if negative then ['-'] else [] := by
      cases negative <;> rfl
    rw [written] at numbers
    rw [String.toList_append, sign, written]
    exact fitsPlain_of_isNumberCharacter digit (List.forall_mem_cons.mp numbers).2 negative

/-- Every number is written legibly. -/
theorem legible_number (x : Float) : (Node.number x).Legible :=
  .scalar (.plain (fitsPlain_writeFloat x))

/-! ## Lists and records -/

/-- A list of legible nodes is legible. -/
theorem legible_sequence_map {α : Type} {write : α → Node} (values : List α)
    (each : ∀ value, (write value).Legible) : (Node.sequence (values.map write)).Legible := by
  refine .sequence fun item member => ?_
  obtain ⟨value, -, rfl⟩ := List.mem_map.mp member
  exact each value

/-- A record of legible nodes is legible if its names can stand as keys. -/
theorem legible_record {fields : List (String × Node)} (names : List String)
    (named : fields.map Prod.fst = names)
    (keys : ∀ name ∈ names, fitsPlain name.toList = true ∧ name.toList.length ≤ 1024)
    (values : ∀ field ∈ fields, field.2.Legible) : (Node.record fields).Legible := by
  subst named
  refine .mapping (fun entry member => ?_) fun entry member => ?_
  · obtain ⟨⟨name, value⟩, field, rfl⟩ := List.mem_map.mp member
    obtain ⟨fits, short⟩ := keys name (List.mem_map_of_mem field)
    exact .plain fits short
  · obtain ⟨⟨name, value⟩, field, rfl⟩ := List.mem_map.mp member
    exact values _ field

/-- A list is read value by value. -/
theorem list?_sequence_of_forall₂ {α : Type} {read : Node → Option α} {values : List α}
    {nodes : List Node}
    (each : List.Forall₂ (fun value node => read node = some value) values nodes) :
    (Node.sequence nodes).list? read = some values := by
  change nodes.mapM read = some values
  induction each with
  | nil => rfl
  | cons first _ inductionHypothesis =>
    rw [List.mapM_cons, first, inductionHypothesis]
    rfl

/-- A list reads back if each of its values does. -/
theorem list?_sequence_map {α : Type} {write : α → Node} {read : Node → Option α}
    {values : List α} (each : ∀ value ∈ values, read (write value) = some value) :
    (Node.sequence (values.map write)).list? read = some values :=
  list?_sequence_of_forall₂ (List.forall₂_map_right_iff.mpr (List.forall₂_same.mpr each))

/-- A record reads back as its fields. -/
theorem fields?_record (fields : List (String × Node)) :
    (Node.record fields).fields? = some fields := by
  simp only [Node.record, Node.fields?]
  induction fields with
  | nil => rfl
  | cons field rest inductionHypothesis =>
    rw [List.map_cons, List.mapM_cons, inductionHypothesis]
    rfl

end RoomLayout.Yaml
