import Liqi.Database.Calls
import Liqi.Pattern
import Liqi.V0.Envelope

/-!
# The grammar of event types

The event contract gives event types by a pattern. `event_type_version` splits a type at its last `.v`, checks the
segments before it and leaves the number to `str::parse`. The two agree but for the numbers: `str::parse` takes a plus
before the digits, and it refuses a number beyond a `u32`, which the pattern does not bound.
-/

namespace Liqi.V0

open Pattern Liqi.Database

/-- `[a-z][a-z0-9]*`. -/
def segmentPattern : RegularExpression Char :=
  oneOf (between 'a' 'z') * (oneOf (between 'a' 'z' ++ between '0' '9')).star

/-- `[a-z][a-z0-9]*(\.[a-z][a-z0-9]*)+`. -/
def namePattern : RegularExpression Char := separated '.' segmentPattern

/-- `[0-9]+`. -/
def digitsPattern : RegularExpression Char := oneOrMore (oneOf (between '0' '9'))

/-- `eventType` of the event contract. -/
def eventTypePattern : RegularExpression Char := namePattern * (literal ".v" * digitsPattern)

/-- The contract's pattern and its greatest length, which JSON Schema counts in characters. -/
def ContractAccepts (eventType : String) : Prop :=
  eventType.toList ∈ eventTypePattern.matches' ∧ eventType.length ≤ 160

/-- The text is a name, the mark before the version, and digits. -/
structure Numbered (mark : String) (text : String) (name digits : List Char) : Prop where
  parts : text.toList = name ++ mark.toList ++ digits
  name : name ∈ namePattern.matches'
  digits : digits ∈ digitsPattern.matches'

/-- The type matches the pattern and its final digits denote the number. -/
def Denotes (eventType : String) (n : Nat) : Prop :=
  ∃ name digits, Numbered ".v" eventType name digits ∧ Nat.ofDigitChars 10 digits 0 = n

/-- A type that matches but for a plus before its digits, which denote a `u32`. -/
def Signed (eventType : String) : Prop :=
  ∃ name digits, Numbered ".v+" eventType name digits ∧ Nat.ofDigitChars 10 digits 0 ≤ 2 ^ 32 - 1

/-- A type that matches and whose number is not a `u32`. -/
def Oversized (eventType : String) : Prop := ∃ n, Denotes eventType n ∧ 2 ^ 32 - 1 < n

/-- The code reads the number of the type as the pattern does, and refuses the types that the contract refuses. -/
structure MatchesGrammar (eventType : String) : Prop where
  version : ∀ n, eventTypeVersion eventType = some n ↔ Denotes eventType n ∧ n ≤ 2 ^ 32 - 1
  accepted : ∀ (envelope : EventEnvelope) (most : Nat), envelope.eventType = eventType →
    (envelope.validate most ≠ .error .invalidEventType ↔ ContractAccepts eventType)

/-! ## The patterns -/

section Patterns

variable {cs : List Char}

theorem mem_lower {c : Char} : c ∈ between 'a' 'z' ↔ c.isLower = true := by
  rw [mem_between (by decide)]
  have lower : c.isLower = (decide (97 ≤ c.val) && decide (c.val ≤ 122)) := rfl
  simp [lower, UInt32.le_iff_toNat_le]

theorem mem_digit {c : Char} : c ∈ between '0' '9' ↔ c.isDigit = true := by
  rw [mem_between (by decide)]
  simp [Char.isDigit, UInt32.le_iff_toNat_le]

theorem mem_digitsPattern : cs ∈ digitsPattern.matches' ↔ cs ≠ [] ∧ cs.all Char.isDigit = true := by
  rw [digitsPattern, mem_oneOrMore_oneOf, List.all_eq_true]
  exact and_congr_right fun _ => forall₂_congr fun c _ => mem_digit

theorem mem_segmentPattern : cs ∈ segmentPattern.matches' ↔ validEventSegment cs = true := by
  have allowed (rest : List Char) : (∀ c ∈ rest, c ∈ between 'a' 'z' ++ between '0' '9') ↔
      rest.all (fun c => c.isLower || c.isDigit) = true := by
    rw [List.all_eq_true]
    exact forall₂_congr fun c _ => by rw [List.mem_append, mem_lower, mem_digit, Bool.or_eq_true]
  rw [segmentPattern, mem_mul]
  cases cs with
  | nil => simp [mem_oneOf, validEventSegment]
  | cons c rest =>
    constructor
    · rintro ⟨front, back, first, more, same⟩
      obtain ⟨d, lower, rfl⟩ := mem_oneOf.1 first
      obtain ⟨rfl, rfl⟩ := List.cons.inj same
      simp [validEventSegment, mem_lower.1 lower, (allowed rest).1 (mem_star_oneOf.1 more)]
    · intro valid
      simp only [validEventSegment, List.all_cons, Bool.and_eq_true, List.head?_cons, Option.any_some] at valid
      exact ⟨[c], rest, mem_oneOf.2 ⟨c, mem_lower.2 valid.2, rfl⟩, mem_star_oneOf.2 ((allowed rest).2 valid.1.2.2), rfl⟩

theorem dot_not_mem_segment (valid : validEventSegment cs = true) : '.' ∉ cs := by
  intro mem
  simp only [validEventSegment, Bool.and_eq_true, List.all_eq_true] at valid
  exact absurd (valid.1.2 '.' mem) (by decide)

/-- The segments of a name are what `split` makes of it. -/
theorem mem_namePattern :
    cs ∈ namePattern.matches' ↔ ∃ first remaining, cs.splitOn '.' = first :: remaining ∧ remaining ≠ [] ∧
      validEventSegment first = true ∧ ∀ segment ∈ remaining, validEventSegment segment = true := by
  simp only [namePattern, mem_separated, mem_segmentPattern]
  constructor
  · rintro ⟨first, remaining, some, valid, all, rfl⟩
    have plain : ∀ segment ∈ first :: remaining, '.' ∉ segment :=
      List.forall_mem_cons.2 ⟨dot_not_mem_segment valid, fun segment mem => dot_not_mem_segment (all segment mem)⟩
    exact ⟨first, remaining, List.splitOn_intercalate '.' plain (List.cons_ne_nil _ _), some, valid, all⟩
  · rintro ⟨first, remaining, parts, some, valid, all⟩
    refine ⟨first, remaining, some, valid, all, ?_⟩
    rw [← parts, List.intercalate_splitOn]

end Patterns

/-! ## The parser -/

variable {digits : List Char}

theorem dot_not_mem_digits (all : digits ∈ digitsPattern.matches') : '.' ∉ digits := by
  intro mem
  exact absurd (List.all_eq_true.1 (mem_digitsPattern.1 all).2 '.' mem) (by decide)

variable {eventType : String} {name : List Char}

/-- What the parser makes of a name and a version without dots. -/
theorem eventTypeVersion_parts (short : eventType.utf8ByteSize ≤ 160) {version : List Char}
    (parts : eventType.toList = name ++ ".v".toList ++ version) (plain : '.' ∉ version)
    (valid : name ∈ namePattern.matches') :
    eventTypeVersion eventType = (Rust.parseU32 (String.ofList version)).map Int.toNat := by
  have split : Rust.rsplitOnce ".v".toList eventType.toList = some (name, version) := by
    rw [parts]
    exact Rust.rsplitOnce_append (by decide) plain name
  obtain ⟨first, remaining, segments, some, head, rest⟩ := mem_namePattern.1 valid
  have none : remaining.any (fun segment => !validEventSegment segment) = false := by
    simpa using rest
  unfold eventTypeVersion
  rw [if_neg (Nat.not_lt.2 short), split]
  simp only [segments, head, none, some, Bool.not_true, Bool.false_eq_true, if_false, or_self]

/-- A type that the parser takes is a name and a version. -/
theorem parts_of_eventTypeVersion {n : Nat} (read : eventTypeVersion eventType = some n) :
    ∃ name version, eventType.toList = name ++ ".v".toList ++ version ∧ name ∈ namePattern.matches' ∧
      (Rust.parseU32 (String.ofList version)).map Int.toNat = some n := by
  unfold eventTypeVersion at read
  split_ifs at read
  rcases split : Rust.rsplitOnce ".v".toList eventType.toList with _ | ⟨name, version⟩
  · rw [split] at read
    cases read
  rw [split] at read
  dsimp only at read
  rcases segments : name.splitOn '.' with _ | ⟨first, remaining⟩
  · rw [segments] at read
    cases read
  rw [segments] at read
  dsimp only at read
  split_ifs at read with head rest
  simp only [not_or, Bool.not_eq_true', List.any_eq_false, Bool.not_eq_false, Bool.not_eq_true] at head rest
  exact ⟨name, version, Rust.rsplitOnce_some split,
    mem_namePattern.2 ⟨first, remaining, segments, rest.1, head, by simpa using rest.2⟩, read⟩

/-- The types that the parser takes, and the number it reads. -/
theorem eventTypeVersion_iff (short : eventType.utf8ByteSize ≤ 160) {n : Nat} :
    eventTypeVersion eventType = some n ↔
      ∃ name digits, (Numbered ".v" eventType name digits ∨ Numbered ".v+" eventType name digits) ∧
        Nat.ofDigitChars 10 digits 0 = n ∧ n ≤ 2 ^ 32 - 1 := by
  constructor
  · intro read
    obtain ⟨name, version, parts, valid, parsed⟩ := parts_of_eventTypeVersion read
    obtain ⟨value, number, rfl⟩ := Option.map_eq_some_iff.1 parsed
    obtain ⟨digits, form, some, all, rfl, high⟩ := Rust.parseU32_iff.1 number
    have listed := mem_digitsPattern.2 ⟨some, all⟩
    refine ⟨name, digits, ?_, by simp, by omega⟩
    rcases form with rfl | rfl
    · exact .inl ⟨parts, valid, listed⟩
    · exact .inr ⟨by rw [parts]; simp, valid, listed⟩
  · rintro ⟨name, digits, numbered, rfl, high⟩
    have parsed {version : List Char} (form : version = digits ∨ version = '+' :: digits)
        (listed : digits ∈ digitsPattern.matches') :
        (Rust.parseU32 (String.ofList version)).map Int.toNat = some (Nat.ofDigitChars 10 digits 0) := by
      obtain ⟨some, all⟩ := mem_digitsPattern.1 listed
      rw [Rust.parseU32_iff.2 ⟨digits, form, some, all, rfl, by omega⟩]
      simp
    rcases numbered with ⟨parts, valid, listed⟩ | ⟨parts, valid, listed⟩
    · rw [eventTypeVersion_parts short parts (dot_not_mem_digits listed) valid]
      exact parsed (.inl rfl) listed
    · have plain : '.' ∉ '+' :: digits := by simpa using dot_not_mem_digits listed
      have marked : eventType.toList = name ++ ".v".toList ++ '+' :: digits := by rw [parts]; simp
      rw [eventTypeVersion_parts short marked plain valid]
      exact parsed (.inr rfl) listed

variable {text : String} {name' : List Char}

/-- The name and the version of a text are its parts around the last `.v`. -/
theorem version_unique {version version' : List Char} (parts : text.toList = name ++ ".v".toList ++ version)
    (plain : '.' ∉ version) (parts' : text.toList = name' ++ ".v".toList ++ version') (plain' : '.' ∉ version') :
    version = version' := by
  have first : Rust.rsplitOnce ".v".toList text.toList = some (name, version) := by
    rw [parts]
    exact Rust.rsplitOnce_append (by decide) plain name
  have second : Rust.rsplitOnce ".v".toList text.toList = some (name', version') := by
    rw [parts']
    exact Rust.rsplitOnce_append (by decide) plain' name'
  rw [first] at second
  cases second
  rfl

theorem Numbered.digits_eq {digits' : List Char} (numbered : Numbered ".v" text name digits)
    (again : Numbered ".v" text name' digits') : digits = digits' :=
  version_unique numbered.parts (dot_not_mem_digits numbered.digits) again.parts (dot_not_mem_digits again.digits)

/-- Digits have no plus before them. -/
theorem Numbered.not_signed {digits' : List Char} (numbered : Numbered ".v" text name digits)
    (signed : Numbered ".v+" text name' digits') : False := by
  have plain : '.' ∉ '+' :: digits' := by simpa using dot_not_mem_digits signed.digits
  have parts : text.toList = name' ++ ".v".toList ++ '+' :: digits' := by rw [signed.parts]; simp
  have same := version_unique numbered.parts (dot_not_mem_digits numbered.digits) parts plain
  have all := (mem_digitsPattern.1 numbered.digits).2
  rw [same, List.all_cons] at all
  exact absurd all (by simp)

/-! ## The contract -/

theorem length_le_utf8ByteSize (text : String) : text.length ≤ text.utf8ByteSize := by
  rw [← String.length_toList, ← String.utf8Len_toList]
  induction text.toList with
  | nil => exact Nat.le_refl 0
  | cons c cs ih =>
    have positive := c.utf8Size_pos
    rw [List.length_cons, String.utf8Len_cons]
    omega

theorem contractAccepts_iff (short : eventType.utf8ByteSize ≤ 160) :
    ContractAccepts eventType ↔ ∃ n, Denotes eventType n := by
  unfold ContractAccepts eventTypePattern
  rw [and_iff_left ((length_le_utf8ByteSize eventType).trans short)]
  simp only [mem_mul, mem_literal]
  constructor
  · rintro ⟨name, _, valid, ⟨_, digits, rfl, listed, rfl⟩, parts⟩
    exact ⟨_, name, digits, ⟨by rw [parts, List.append_assoc], valid, listed⟩, rfl⟩
  · rintro ⟨_, name, digits, ⟨parts, valid, listed⟩, _⟩
    exact ⟨name, _, valid, ⟨_, digits, rfl, listed, rfl⟩, by rw [parts, List.append_assoc]⟩

theorem metadataError_ne {metadata : List (String × Postgres.Jsonb)} :
    metadataError metadata ≠ some .invalidEventType := by
  induction metadata with
  | nil => exact nofun
  | cons entry rest ih =>
    unfold metadataError
    split_ifs
    · exact nofun
    · exact nofun
    · exact ih

/-- `validate` refuses the type of an envelope exactly where the parser reads no number. -/
theorem validate_invalidEventType {envelope : EventEnvelope} {most : Nat} :
    envelope.validate most = .error .invalidEventType ↔ eventTypeVersion envelope.eventType = none := by
  unfold EventEnvelope.validate
  rcases eventTypeVersion envelope.eventType with _ | version
  · simp
  · refine iff_of_false (fun refused => ?_) nofun
    have other := @metadataError_ne envelope.metadata
    generalize metadataError envelope.metadata = failure at refused other
    rcases failure with _ | e
    · dsimp only at refused
      split_ifs at refused
      all_goals exact nomatch refused
    · dsimp only at refused
      split_ifs at refused
      iterate 5 exact nomatch refused
      cases refused
      exact other rfl

/-- An envelope of the type. -/
def envelopeOf (eventType : String) : EventEnvelope where
  eventId := sampleUuid 0
  eventType := eventType
  eventVersion := 0
  occurredAt := 0
  producer := platformProbeProducer
  correlationId := none
  causationId := none
  aggregateKey := "probe"
  orderingKey := none
  payload := .empty
  metadata := []

/-- **Event types.** A type of at most 160 bytes is read as the contract has it, unless its number has a plus or is
no `u32`. -/
theorem event_type_grammar_iff {eventType : String} (short : eventType.utf8ByteSize ≤ 160) :
    MatchesGrammar eventType ↔ ¬ Signed eventType ∧ ¬ Oversized eventType := by
  constructor
  · intro grammar
    refine ⟨?_, ?_⟩
    · rintro ⟨name, digits, numbered, small⟩
      have read := (eventTypeVersion_iff short).2 ⟨name, digits, .inr numbered, rfl, small⟩
      obtain ⟨_, _, plain, _⟩ := ((grammar.version _).1 read).1
      exact plain.not_signed numbered
    · rintro ⟨n, ⟨name, digits, numbered, rfl⟩, large⟩
      have contract := (contractAccepts_iff short).2 ⟨_, name, digits, numbered, rfl⟩
      have accepted := (grammar.accepted (envelopeOf eventType) 4096 rfl).2 contract
      obtain ⟨m, read⟩ := Option.ne_none_iff_exists'.1 (mt validate_invalidEventType.2 accepted)
      obtain ⟨⟨_, digits', again, value⟩, high⟩ := (grammar.version m).1 read
      rw [numbered.digits_eq again, value] at large
      omega
  · rintro ⟨unsigned, small⟩
    have version (n : Nat) : eventTypeVersion eventType = some n ↔ Denotes eventType n ∧ n ≤ 2 ^ 32 - 1 := by
      rw [eventTypeVersion_iff short]
      constructor
      · rintro ⟨name, digits, plain | signed, value, high⟩
        · exact ⟨⟨name, digits, plain, value⟩, high⟩
        · exact absurd ⟨name, digits, signed, value.trans_le high⟩ unsigned
      · rintro ⟨⟨name, digits, plain, value⟩, high⟩
        exact ⟨name, digits, .inl plain, value, high⟩
    refine ⟨version, ?_⟩
    rintro envelope most rfl
    rw [ne_eq, validate_invalidEventType, contractAccepts_iff short, ← ne_eq, Option.ne_none_iff_exists']
    refine exists_congr fun n => (version n).trans (and_iff_left_of_imp fun denotes => ?_)
    exact Nat.le_of_not_lt fun large => small ⟨n, denotes, large⟩

theorem probe_event_type_grammar : platformProbeEvent.utf8ByteSize ≤ 160 ∧
    (MatchesGrammar platformProbeEvent ↔ ¬ Signed platformProbeEvent ∧ ¬ Oversized platformProbeEvent) :=
  ⟨by decide, event_type_grammar_iff (by decide)⟩

/-- `str::parse` takes the plus of `a.b.v+1`, which the contract's pattern does not. -/
theorem signed_version_accepted :
    "a.b.v+1".utf8ByteSize ≤ 160 ∧ eventTypeVersion "a.b.v+1" = some 1 ∧ ¬ ContractAccepts "a.b.v+1" := by
  refine ⟨by decide, by decide, fun contract => ?_⟩
  obtain ⟨_, name, digits, numbered, _⟩ := (contractAccepts_iff (by decide)).1 contract
  have signed : Numbered ".v+" "a.b.v+1" "a.b".toList "1".toList :=
    ⟨by decide, mem_namePattern.2 ⟨['a'], [['b']], by decide⟩, mem_digitsPattern.2 (by decide)⟩
  exact numbered.not_signed signed

end Liqi.V0
