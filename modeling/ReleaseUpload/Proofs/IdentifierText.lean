import Mathlib.Data.List.Induction
import ReleaseUpload.Error
import ReleaseUpload.Proofs.Documents

/-!
Identifiers as texts. Thirty-two hex digits are accepted alone, in groups with hyphens between them,
and as such groups within braces or after a mark, in either case. Whatever form a text has, its
identifier is the one that its digits spell, so writing it gives the digits of the text in lower
case and in groups. Any other text is refused, and what is said about it never looks like an
identifier.
-/

namespace ReleaseUpload

namespace Hex

/-- An ASCII digit, or one of the first six letters in lower or upper case. -/
def IsHexDigit (c : Char) : Prop :=
  ('0' ≤ c ∧ c ≤ '9') ∨ ('a' ≤ c ∧ c ≤ 'f') ∨ ('A' ≤ c ∧ c ≤ 'F')

theorem isSome_value?_iff {c : Char} : (value? c).isSome = true ↔ IsHexDigit c := by
  rw [value?, IsHexDigit]
  split_ifs <;> simp [*]

theorem of_value? {c : Char} {value : Nat} (found : value? c = some value) :
    value < 16 ∧ c.toLower = digit value := by
  have all : ∀ code : Fin 128, ∀ value ∈ value? (Char.ofNat code),
      value < 16 ∧ (Char.ofNat code).toLower = digit value := by decide +kernel
  have ascii : c.toNat < 128 := by
    have hex : IsHexDigit c := isSome_value?_iff.mp (by rw [found]; rfl)
    have last : ∀ {most : Char}, c ≤ most → most.toNat < 128 → c.toNat < 128 :=
      fun within small => Nat.lt_of_le_of_lt (UInt32.le_iff_toNat_le.mp within) small
    rcases hex with ⟨-, within⟩ | ⟨-, within⟩ | ⟨-, within⟩ <;> exact last within (by decide)
  have this_char := all ⟨c.toNat, ascii⟩ value
  rw [Char.ofNat_toNat] at this_char
  exact this_char found

theorem exists_number? {digits : List Char} (hex : ∀ c ∈ digits, IsHexDigit c) (before : Nat) :
    ∃ number, number? before digits = some number := by
  induction digits generalizing before with
  | nil => exact ⟨before, rfl⟩
  | cons c rest inductionHypothesis =>
    rw [List.forall_mem_cons, ← isSome_value?_iff, Option.isSome_iff_exists] at hex
    obtain ⟨⟨value, found⟩, others⟩ := hex
    obtain ⟨number, read⟩ := inductionHypothesis others (before * 16 + value)
    exact ⟨number, by rw [number?, found, Option.bind_some, read]⟩

/-- What reads as a number is its digits, but for their case. -/
theorem of_number? {text : List Char} {number : Nat} (read : number? 0 text = some number) :
    number < Nat.pow 16 text.length ∧ (∀ c ∈ text, IsHexDigit c) ∧
      digits text.length number = text.map Char.toLower := by
  induction text using List.reverseRecOn generalizing number with
  | nil =>
    cases read
    exact ⟨Nat.one_pos, by simp, rfl⟩
  | append_singleton front c inductionHypothesis =>
    rw [number?_append, Option.bind_eq_some_iff] at read
    obtain ⟨high, front_read, last_read⟩ := read
    rw [number?, Option.bind_eq_some_iff] at last_read
    obtain ⟨value, found, same⟩ := last_read
    cases same
    obtain ⟨small, lower⟩ := of_value? found
    obtain ⟨bound, hex, written⟩ := inductionHypothesis front_read
    have front_part : (high * 16 + value) / 16 = high := by omega
    have last_part : (high * 16 + value) % 16 = value := by omega
    rw [List.length_append, List.length_singleton]
    refine ⟨?_, ?_, ?_⟩
    · change high * 16 + value < Nat.pow 16 front.length * 16
      omega
    · rw [List.forall_mem_append, List.forall_mem_singleton]
      exact ⟨hex, isSome_value?_iff.mp (Option.isSome_iff_exists.mpr ⟨value, found⟩)⟩
    · rw [digits, front_part, last_part, written, List.map_append, List.map_singleton, lower]

end Hex

namespace Id

variable {kind : IdKind}

/-- Groups of the given widths with a hyphen between any two; `digits` are the groups side by
side. -/
inductive Grouped : (widths : List Nat) → (digits text : List Char) → Prop
  | last {width : Nat} {group : List Char} (wide : group.length = width) :
    Grouped [width] group group
  | cons {width : Nat} {widths : List Nat} {group digits text : List Char}
    (wide : group.length = width) (rest : Grouped widths digits text) :
    Grouped (width :: widths) (group ++ digits) (group ++ '-' :: text)

/-- The forms in which digits are accepted: alone, in groups, in groups within braces, and in groups
after a mark. -/
inductive Form (digits : List Char) : (text : List Char) → Prop
  | bare : Form digits digits
  | hyphenated {text : List Char} (grouped : Grouped [8, 4, 4, 4, 12] digits text) :
    Form digits text
  | braced {text : List Char} (grouped : Grouped [8, 4, 4, 4, 12] digits text) :
    Form digits ('\x7b' :: text ++ ['\x7d'])
  | urn {mark text : List Char} (marked : mark.map Char.toLower = "urn:uuid:".toList)
    (grouped : Grouped [8, 4, 4, 4, 12] digits text) : Form digits (mark ++ text)

/-- Thirty-two hex digits in either case. -/
structure IsDigits (digits : List Char) : Prop where
  count : digits.length = 32
  hex : ∀ c ∈ digits, Hex.IsHexDigit c

/-- The identifier is made of these digits. -/
structure Spells (digits : List Char) (id : Id kind) : Prop extends IsDigits digits where
  value : Hex.digits 32 id.bits.toNat = digits.map Char.toLower

section

variable {digits text : List Char} {id : Id kind}

theorem IsDigits.exists_spells (hex : IsDigits digits) (kind : IdKind) :
    ∃ id : Id kind, Spells digits id := by
  obtain ⟨number, found⟩ := Hex.exists_number? hex.hex 0
  obtain ⟨bound, -, written⟩ := Hex.of_number? found
  rw [hex.count] at bound written
  refine ⟨⟨BitVec.ofNat 128 number⟩, hex, ?_⟩
  rw [BitVec.toNat_ofNat, Nat.mod_eq_of_lt bound, written]

/-- Digits spell one identifier. -/
theorem Spells.bits_eq {other : IdKind} {same : Id other} (spells : Spells digits id)
    (again : Spells digits same) : id.bits = same.bits := by
  have numbers : some (0 * Nat.pow 16 32 + id.bits.toNat) =
      some (0 * Nat.pow 16 32 + same.bits.toNat) := by
    rw [← Hex.number?_digits 0 32 _ id.bits.isLt, spells.value, ← again.value,
      Hex.number?_digits 0 32 _ same.bits.isLt]
  exact BitVec.eq_of_toNat_eq (Nat.add_left_cancel (Option.some.inj numbers))

theorem ofDigits?_eq_some_iff : ofDigits? digits = some id ↔ Spells digits id := by
  have sound : ∀ {read : Id kind}, ofDigits? digits = some read → Spells digits read := by
    intro read found
    rw [ofDigits?] at found
    split_ifs at found with count
    obtain ⟨number, valued, rfl⟩ := Option.map_eq_some_iff.mp found
    obtain ⟨bound, hex, written⟩ := Hex.of_number? valued
    rw [count] at bound written
    refine ⟨⟨count, hex⟩, ?_⟩
    rw [← written, BitVec.toNat_ofNat, Nat.mod_eq_of_lt bound]
  refine ⟨sound, fun spells => ?_⟩
  obtain ⟨number, valued⟩ := Hex.exists_number? spells.hex 0
  have found : ofDigits? digits = some (⟨BitVec.ofNat 128 number⟩ : Id kind) := by
    rw [ofDigits?, if_pos spells.count, valued, Option.map_some]
  rw [found, Option.some.injEq, Id.mk.injEq]
  exact (sound found).bits_eq spells

theorem Grouped.length_eq {widths : List Nat} (grouped : Grouped widths digits text) :
    digits.length = widths.sum ∧ text.length + 1 = digits.length + widths.length := by
  induction grouped with
  | last wide => simp [wide]
  | cons wide rest inductionHypothesis =>
    simp only [List.length_append, List.length_cons, List.sum_cons]
    omega

/-- The written form takes thirty-six characters. -/
theorem Grouped.length_text (grouped : Grouped [8, 4, 4, 4, 12] digits text) :
    text.length = 36 := by
  obtain ⟨count, long⟩ := grouped.length_eq
  rw [count] at long
  exact Nat.succ.inj long

theorem unhyphenate_eq_some_iff (widths : List Nat) (last : Nat) :
    unhyphenate widths text = some digits ∧ digits.length = widths.sum + last ↔
      Grouped (widths ++ [last]) digits text := by
  induction widths generalizing digits text with
  | nil =>
    rw [unhyphenate, Option.some.injEq, List.sum_nil, Nat.zero_add, List.nil_append]
    constructor
    · rintro ⟨rfl, wide⟩
      exact .last wide
    · intro grouped
      cases grouped with
      | last wide => exact ⟨rfl, wide⟩
      | cons wide rest => cases rest
  | cons width widths inductionHypothesis =>
    constructor
    · rintro ⟨read, count⟩
      rw [unhyphenate] at read
      split at read
      · rename_i rest behind
        obtain ⟨others, found, rfl⟩ := Option.map_eq_some_iff.mp read
        have wide : (text.take width).length = width := by
          have left := congrArg List.length behind
          rw [List.length_drop, List.length_cons] at left
          rw [List.length_take]
          omega
        rw [List.length_append, wide, List.sum_cons, Nat.add_assoc] at count
        have grouped := Grouped.cons wide
          (inductionHypothesis.mp ⟨found, Nat.add_left_cancel count⟩)
        rwa [← behind, List.take_append_drop] at grouped
      · cases read
    · intro grouped
      rw [List.cons_append] at grouped
      generalize following : widths ++ [last] = others at grouped
      cases grouped with
      | last wide => simp at following
      | cons wide rest =>
        subst following
        obtain ⟨read, count⟩ := inductionHypothesis.mpr rest
        constructor
        · rw [unhyphenate, List.drop_left' wide, List.take_left' wide]
          simp only [read, Option.map_some]
        · rw [List.length_append, wide, count, List.sum_cons, Nat.add_assoc]

theorem ofHyphenated?_eq_some_iff :
    ofHyphenated? text = some id ↔
      ∃ digits, Grouped [8, 4, 4, 4, 12] digits text ∧ Spells digits id := by
  have widths : groupWidths.sum + 12 = 32 := rfl
  rw [ofHyphenated?, Option.bind_eq_some_iff]
  refine exists_congr fun digits => ?_
  rw [ofDigits?_eq_some_iff]
  refine and_congr_left fun spells => ?_
  have grouped : _ ↔ Grouped [8, 4, 4, 4, 12] digits text := unhyphenate_eq_some_iff groupWidths 12
  rw [← grouped]
  exact (and_iff_left (spells.count.trans widths.symm)).symm

theorem ofDigits?_of_length (other : text.length ≠ 32) :
    (ofDigits? text : Option (Id kind)) = none := by
  rw [ofDigits?, if_neg other]

theorem ofHyphenated?_of_length (other : text.length ≠ 36) :
    (ofHyphenated? text : Option (Id kind)) = none := by
  rw [Option.eq_none_iff_forall_ne_some]
  intro id read
  obtain ⟨digits, grouped, -⟩ := ofHyphenated?_eq_some_iff.mp read
  exact other grouped.length_text

theorem insideBraces?_eq_some_iff {inside : List Char} :
    insideBraces? text = some inside ↔ text = '\x7b' :: inside ++ ['\x7d'] := by
  constructor
  · intro found
    unfold insideBraces? at found
    split at found
    · split_ifs at found with closed
      obtain ⟨front, rfl⟩ := List.getLast?_eq_some_iff.mp closed
      rw [List.dropLast_concat] at found
      cases found
      rfl
    · cases found
  · rintro rfl
    rw [List.cons_append, insideBraces?, List.getLast?_concat, if_pos rfl, List.dropLast_concat]

theorem afterUrnMark?_eq_some_iff {rest : List Char} :
    afterUrnMark? text = some rest ↔
      ∃ mark, mark.map Char.toLower = urnMark ∧ text = mark ++ rest := by
  rw [afterUrnMark?]
  constructor
  · intro found
    split_ifs at found with marked
    cases found
    exact ⟨_, marked, (List.take_append_drop urnMark.length text).symm⟩
  · rintro ⟨mark, marked, rfl⟩
    have long : mark.length = urnMark.length := by rw [← marked, List.length_map]
    rw [List.take_left' long, List.drop_left' long, if_pos marked]

/-- What begins with the mark does not begin with a brace. -/
theorem insideBraces?_of_urnMark {mark rest : List Char}
    (marked : mark.map Char.toLower = urnMark) : insideBraces? (mark ++ rest) = none := by
  rw [Option.eq_none_iff_forall_ne_some]
  intro inside found
  rw [insideBraces?_eq_some_iff] at found
  cases mark with
  | nil => cases marked
  | cons first mark =>
    obtain ⟨rfl, -⟩ := List.cons.inj found
    have letter : some 'u' = some '\x7b' := congrArg List.head? marked.symm
    cases letter

theorem ofChars?_eq_some_iff :
    ofChars? text = some id ↔ ∃ digits, Form digits text ∧ Spells digits id := by
  rw [ofChars?]
  simp only [Option.orElse_eq_orElse, Option.orElse_eq_or]
  constructor
  · intro read
    simp only [Option.or_eq_some_iff, Option.bind_eq_some_iff, ofHyphenated?_eq_some_iff] at read
    rcases read with bare | ⟨-, ⟨digits, grouped, spells⟩ |
      ⟨-, ⟨inside, found, digits, grouped, spells⟩ | ⟨-, rest, found, digits, grouped, spells⟩⟩⟩
    · exact ⟨text, .bare, ofDigits?_eq_some_iff.mp bare⟩
    · exact ⟨digits, .hyphenated grouped, spells⟩
    · rw [insideBraces?_eq_some_iff] at found
      exact ⟨digits, found ▸ .braced grouped, spells⟩
    · obtain ⟨mark, marked, rfl⟩ := afterUrnMark?_eq_some_iff.mp found
      exact ⟨digits, .urn marked grouped, spells⟩
  · rintro ⟨digits, form, spells⟩
    -- The forms are of different lengths, so none is taken for another.
    have grouped_read : ∀ {grouped_text : List Char}, Grouped [8, 4, 4, 4, 12] digits grouped_text →
        ofHyphenated? grouped_text = some id :=
      fun grouped => ofHyphenated?_eq_some_iff.mpr ⟨digits, grouped, spells⟩
    cases form with
    | bare => rw [ofDigits?_eq_some_iff.mpr spells, Option.some_or]
    | hyphenated grouped =>
      have long := grouped.length_text
      rw [ofDigits?_of_length (by omega), Option.none_or, grouped_read grouped, Option.some_or]
    | @braced inside grouped =>
      have long : ('\x7b' :: inside ++ ['\x7d']).length = 38 := by simp [grouped.length_text]
      rw [ofDigits?_of_length (by omega), ofHyphenated?_of_length (by omega), Option.none_or,
        Option.none_or, insideBraces?_eq_some_iff.mpr rfl, Option.bind_some, grouped_read grouped,
        Option.some_or]
    | @urn mark rest marked grouped =>
      have marks : mark.length = 9 := by
        rw [← List.length_map Char.toLower, marked]
        rfl
      have long : (mark ++ rest).length = 45 := by simp [marks, grouped.length_text]
      rw [ofDigits?_of_length (by omega), ofHyphenated?_of_length (by omega), Option.none_or,
        Option.none_or, insideBraces?_of_urnMark marked, Option.bind_none, Option.none_or,
        afterUrnMark?_eq_some_iff.mpr ⟨mark, marked, rfl⟩, Option.bind_some, grouped_read grouped]

theorem parse_eq_ok_iff {text : String} :
    parse text = .ok id ↔ ∃ digits, Form digits text.toList ∧ Spells digits id := by
  rw [← ofChars?_eq_some_iff, parse]
  cases (ofChars? text.toList : Option (Id kind)) <;> simp

/-- There is nothing in groups but the digits and the hyphens. -/
theorem Grouped.mem_text {widths : List Nat} (grouped : Grouped widths digits text) {c : Char}
    (found : c ∈ text) : c ∈ digits ∨ c = '-' := by
  induction grouped with
  | last wide => exact .inl found
  | cons wide rest inductionHypothesis =>
    rw [List.mem_append, List.mem_cons] at found
    rcases found with first | hyphen | later
    · exact .inl (List.mem_append_left _ first)
    · exact .inr hyphen
    · exact (inductionHypothesis later).imp_left (List.mem_append_right _)

theorem parse_toString (id : Id kind) : parse id.toString = .ok id := by
  rw [parse, toString, String.toList_ofList, ofChars?_toChars]

/-- The written form of an identifier is its digits in groups. -/
theorem grouped_toChars (id : Id kind) :
    Grouped [8, 4, 4, 4, 12] (Hex.digits 32 id.bits.toNat) id.toChars := by
  have long : groupWidths.sum ≤ (Hex.digits 32 id.bits.toNat).length := by
    rw [Hex.length_digits]
    decide
  have read := unhyphenate_hyphenate long
  exact (unhyphenate_eq_some_iff groupWidths 12).mp ⟨read, Hex.length_digits 32 id.bits.toNat⟩

end

/-! Refusals. -/

/-- A character is blamed only if it has no place in an identifier. -/
def Fault.Fair : Fault → Prop
  | .character found _ => ¬Hex.IsHexDigit found ∧ found ≠ '-'
  | _ => True

theorem fair_of_hyphens {start place : Nat} {chars : List Char} {fault : Fault}
    (failed : hyphens start place chars = .error fault) : fault.Fair := by
  induction chars generalizing place with
  | nil => cases failed
  | cons c rest inductionHypothesis =>
    rw [hyphens] at failed
    split_ifs at failed with digit hyphen
    · exact inductionHypothesis failed
    · cases later : hyphens start (place + 1) rest with
      | ok places =>
        rw [later] at failed
        cases failed
      | error found =>
        rw [later] at failed
        cases failed
        exact inductionHypothesis later
    · cases failed
      exact ⟨fun hex => digit (Hex.isSome_value?_iff.mpr hex), hyphen⟩

theorem fair_groupFault (size group start : Nat) (widths places : List Nat) :
    (groupFault size group start widths places).Fair := by
  fun_induction groupFault size group start widths places with
  | case1 group width widths place places inductionHypothesis => exact inductionHypothesis
  | case2 => trivial
  | case3 => trivial

theorem fair_faultFrom (size start : Nat) (bare : Bool) (chars : List Char) :
    (faultFrom size start bare chars).Fair := by
  rw [faultFrom]
  split
  · rename_i fault failed
    exact fair_of_hyphens failed
  · split_ifs
    · trivial
    · trivial
    · exact fair_groupFault size 0 0 groupWidths _

theorem fair_looseFault (chars : List Char) : (looseFault chars).Fair := by
  simp only [looseFault]
  split_ifs
  · trivial
  · split <;> exact fair_faultFrom _ _ _ _

theorem fair_fault (chars : List Char) : (fault chars).Fair := by
  have hyphenated : ∀ chars, (hyphenatedFault chars).Fair := fun chars => fair_faultFrom _ _ _ _
  simp only [fault]
  split
  · exact hyphenated chars
  · split
    · split
      · exact hyphenated _
      · exact fair_looseFault chars
    · split
      · exact hyphenated _
      · exact fair_looseFault chars
    · exact fair_looseFault chars

theorem hyphen_not_mem_toDigits (number : Nat) : '-' ∉ Nat.toDigits 10 number := fun found =>
  absurd (Nat.isDigit_of_mem_toDigits (by decide) (by decide) found) (by decide)

theorem Fault.hyphen_not_mem_message {fault : Fault} (fair : fault.Fair) :
    '-' ∉ fault.message.toList := by
  cases fault with
  | length found =>
    change '-' ∉ ("invalid length: found " ++ found.repr).toList
    simp [hyphen_not_mem_toDigits]
  | character found place =>
    change '-' ∉ ("invalid character: found " ++ String.ofList ['\x60', found, '\x60'] ++
      (" at " ++ place.repr)).toList
    simp [hyphen_not_mem_toDigits, fair.2.symm]
  | groupCount found =>
    change '-' ∉ ("invalid group count: expected 5, found " ++ found.repr).toList
    simp [hyphen_not_mem_toDigits]
  | groupLength group expected found =>
    change '-' ∉ ("invalid group length in group " ++ group.repr ++ ": expected " ++
      expected.repr ++ ", found " ++ found.repr).toList
    simp [hyphen_not_mem_toDigits]

/-- What a refusal begins with. -/
def refusalMark : IdKind → String
  | .session => "invalid upload session ID: "
  | .file => "invalid file upload session ID: "

theorem ofIdFault_eq (kind : IdKind) (fault : Fault) :
    UploadError.ofIdFault kind fault = .invalidId (refusalMark kind ++ fault.message) := by
  cases kind <;> rfl

theorem hyphen_mem_toChars (id : Id kind) : '-' ∈ id.toChars := by
  have grouped := grouped_toChars id
  generalize Hex.digits 32 id.bits.toNat = digits, id.toChars = text at grouped
  cases grouped with
  | cons wide rest => exact List.mem_append_right _ List.mem_cons_self

/-- What is said about a text that is refused. -/
theorem parse_of_refused {text : String}
    (refused : ¬∃ digits, Form digits text.toList ∧ IsDigits digits) :
    (parse text : Except Fault (Id kind)) = .error (fault text.toList) := by
  cases read : (parse text : Except Fault (Id kind)) with
  | ok id =>
    obtain ⟨digits, form, spells⟩ := parse_eq_ok_iff.mp read
    exact absurd ⟨digits, form, spells.toIsDigits⟩ refused
  | error found =>
    rw [parse] at read
    cases parsed : (ofChars? text.toList : Option (Id kind)) with
    | some id =>
      rw [parsed] at read
      cases read
    | none =>
      rw [parsed] at read
      exact read.symm

theorem not_infix_message (kind : IdKind) (chars : List Char) {other : IdKind} (id : Id other) :
    ¬id.toString.toList <:+: (UploadError.ofIdFault kind (fault chars)).message.toList := by
  intro inside
  have named : '-' ∈ id.toString.toList := by
    rw [toString, String.toList_ofList]
    exact hyphen_mem_toChars id
  have found := inside.subset named
  have unnamed := Fault.hyphen_not_mem_message (fair_fault chars)
  have whole : (UploadError.ofIdFault kind (fault chars)).message =
      "invalid session ID: " ++ (refusalMark kind ++ (fault chars).message) := by
    rw [ofIdFault_eq]
    rfl
  have marked : '-' ∉ (refusalMark kind).toList := by
    cases kind <;> decide
  rw [whole] at found
  simp [marked, unnamed] at found

/-- How identifiers and texts correspond. -/
structure TextCodec : Prop where
  read_back : ∀ (kind : IdKind) (id : Id kind), parse id.toString = .ok id
  accepted_iff : ∀ (kind : IdKind) (text : String), (∃ id : Id kind, parse text = .ok id) ↔
    ∃ digits, Form digits text.toList ∧ IsDigits digits
  /-- The identifier has the digits of the text, and is written with them in lower case. -/
  spelled : ∀ (kind : IdKind) (text : String) (digits : List Char), Form digits text.toList →
    IsDigits digits → ∃ id : Id kind, parse text = .ok id ∧
      Hex.digits 32 id.bits.toNat = digits.map Char.toLower ∧
      Grouped [8, 4, 4, 4, 12] (digits.map Char.toLower) id.toString.toList
  /-- The kinds differ in nothing but what they say of a text that they refuse. -/
  alike : ∀ (kind other : IdKind) (text : String),
    (parse text : Except Fault (Id kind)).map (·.bits) =
      (parse text : Except Fault (Id other)).map (·.bits)
  refused : ∀ (kind : IdKind) (text : String),
    (¬∃ digits, Form digits text.toList ∧ IsDigits digits) →
    ∃ fault, (parse text : Except Fault (Id kind)) = .error fault ∧
      UploadError.ofIdFault kind fault = .invalidId (refusalMark kind ++ fault.message) ∧
      ∀ (other : IdKind) (id : Id other),
        ¬id.toString.toList <:+: (UploadError.ofIdFault kind fault).message.toList

/-- Identifiers are read back from what is written, and from the other forms of the same digits. -/
theorem text_codec : TextCodec where
  read_back kind id := parse_toString id
  accepted_iff kind text := by
    simp only [parse_eq_ok_iff]
    constructor
    · rintro ⟨id, digits, form, spells⟩
      exact ⟨digits, form, spells.toIsDigits⟩
    · rintro ⟨digits, form, hex⟩
      obtain ⟨id, spells⟩ := hex.exists_spells kind
      exact ⟨id, digits, form, spells⟩
  spelled kind text digits form hex := by
    obtain ⟨id, spells⟩ := hex.exists_spells kind
    refine ⟨id, parse_eq_ok_iff.mpr ⟨digits, form, spells⟩, spells.value, ?_⟩
    rw [← spells.value, toString, String.toList_ofList]
    exact grouped_toChars id
  alike kind other text := by
    by_cases accepted : ∃ digits, Form digits text.toList ∧ IsDigits digits
    · obtain ⟨digits, form, hex⟩ := accepted
      obtain ⟨id, spells⟩ := hex.exists_spells kind
      obtain ⟨same, again⟩ := hex.exists_spells other
      rw [parse_eq_ok_iff.mpr ⟨digits, form, spells⟩, parse_eq_ok_iff.mpr ⟨digits, form, again⟩]
      exact congrArg Except.ok (spells.bits_eq again)
    · rw [parse_of_refused accepted, parse_of_refused accepted]
      rfl
  refused kind text refused :=
    ⟨fault text.toList, parse_of_refused refused, ofIdFault_eq kind _,
      fun _ id => not_infix_message kind text.toList id⟩

end Id

end ReleaseUpload
