import DiceNotation.Proofs.Validation

set_option autoImplicit false

namespace DiceNotation

open Text Reading

structure Span.Within (span : Span) (code : String) : Prop where
  start_le_stop : span.start ≤ span.stop
  stop_le : span.stop ≤ code.utf8ByteSize
  start_valid : String.Pos.Raw.IsValid code ⟨span.start⟩
  stop_valid : String.Pos.Raw.IsValid code ⟨span.stop⟩

theorem isValid_byteLength {code : String} {front back : List Char}
    (whole : code.toList = front ++ back) : String.Pos.Raw.IsValid code ⟨byteLength front⟩ := by
  rw [String.Pos.Raw.isValid_iff_exists_take_toList]
  exact ⟨front.length, by simp [whole, byteLength_eq_utf8ByteSize]⟩

theorem Span.within_of_append {code : String} {front part back : List Char}
    (whole : code.toList = front ++ part ++ back) :
    Span.Within ⟨byteLength front, byteLength front + byteLength part⟩ code := by
  have stop := isValid_byteLength whole
  rw [byteLength_append] at stop
  refine ⟨Nat.le_add_right .., ?_, isValid_byteLength (by rw [whole, List.append_assoc]), stop⟩
  have size := congrArg byteLength whole
  rw [byteLength_eq_utf8ByteSize, String.ofList_toList] at size
  simp only [byteLength_append] at size
  dsimp only
  omega

structure Literal where
  before : List Char
  digits : List Char

namespace Literal

def span (literal : Literal) : Span :=
  ⟨byteLength literal.before, byteLength literal.before + byteLength literal.digits⟩

def tooLarge (literal : Literal) : Bool :=
  largestNumber < Decimal.value literal.digits

end Literal

-- A clause that the code leaves out has no digits; it is never too large, wherever it is placed.
def Reading.placed (reading : Reading) : List Literal :=
  let head := reading.count ++ [reading.letter]
  [⟨[], reading.count⟩,
    ⟨head, reading.faces⟩,
    ⟨head ++ reading.faces ++ ['.'], reading.threshold⟩,
    ⟨head ++ reading.tail.takeWhile (! isSign ·) ++ reading.fromSign.take 1, reading.modifier⟩]

inductive Refused (code : String) : Misfit → Prop
  | missingMode {die : List Char} (cut : die = code.toList.takeWhile (! isSign ·))
      (unlettered : ∀ c ∈ die, c.isAlpha = false) :
      Refused code ⟨.missingMode, ⟨0, byteLength die⟩⟩
  | badCount {before after : List Char} {letter : Char}
      (whole : code.toList = before ++ letter :: after)
      (plain : ∀ c ∈ before, isSign c = false ∧ c.isAlpha = false)
      (first : letter.isAlpha = true) (other : ∃ c ∈ before, c.isDigit = false) :
      Refused code ⟨.badCount, ⟨0, byteLength before⟩⟩
  | unknownMode {reading : Reading} (cuts : reading.Cuts code)
      (unknown : reading.letter ∉ ['d', 'x', 'e', 'k', 'K', 'n', 'N']) :
      Refused code ⟨.unknownMode reading.letter,
        ⟨byteLength reading.count, byteLength reading.count + 1⟩⟩
  | numberTooLarge {reading : Reading} {literal : Literal} (cuts : reading.Cuts code)
      (known : reading.letter ∈ ['d', 'x', 'e', 'k', 'K', 'n', 'N'])
      (member : literal ∈ reading.placed) (large : literal.tooLarge = true)
      (leftmost : ∀ other ∈ reading.placed, other.tooLarge = true →
        literal.span.start ≤ other.span.start) :
      Refused code ⟨.numberTooLarge, literal.span⟩

theorem find?_eq_some_iff_least {α : Type} {test : α → Bool} (place : α → Nat) {items : List α}
    (ordered : items.Pairwise fun first second =>
      test first = true → test second = true → place first < place second) (item : α) :
    items.find? test = some item ↔
      item ∈ items ∧ test item = true ∧
        ∀ other ∈ items, test other = true → place item ≤ place other := by
  induction items with
  | nil => simp
  | cons first rest ih =>
    obtain ⟨ahead, later⟩ := List.pairwise_cons.mp ordered
    have tail := ih later
    by_cases passes : test first = true
    · rw [List.find?_cons_of_pos passes]
      constructor
      · rintro ⟨rfl⟩
        refine ⟨by simp, passes, ?_⟩
        rintro other (_ | ⟨_, member⟩) tested
        · exact Nat.le_refl _
        · exact Nat.le_of_lt (ahead other member passes tested)
      · rintro ⟨_ | ⟨_, member⟩, tested, least⟩
        · rfl
        · have before := ahead item member passes tested
          have after := least first (by simp) passes
          omega
    · rw [List.find?_cons_of_neg passes, tail]
      simp [passes]
      rintro tested least rfl
      exact absurd tested passes

namespace Reading

theorem ofText_unlettered {text : List Char}
    (unlettered : ∀ c ∈ text.takeWhile (! isSign ·), c.isAlpha = false) :
    ofText text = .error ⟨.missingMode, ⟨0, byteLength (text.takeWhile (! isSign ·))⟩⟩ := by
  have none_left : (text.takeWhile (! isSign ·)).dropWhile (! Char.isAlpha ·) = [] :=
    List.dropWhile_eq_nil_iff.mpr fun c member => by simp [unlettered c member]
  simp [ofText, none_left]

theorem ofText_lettered {before after : List Char} {letter : Char}
    (plain : ∀ c ∈ before, isSign c = false ∧ c.isAlpha = false)
    (first : letter.isAlpha = true) :
    ofText (before ++ letter :: after) =
      if before.all Char.isDigit then .ok ⟨before, letter, after⟩
      else .error ⟨.badCount, ⟨0, byteLength before⟩⟩ := by
  have unsigned : ∀ c ∈ before, (! isSign c) = true := fun c member => by
    simp [(plain c member).1]
  have unlettered : ∀ c ∈ before, (! c.isAlpha) = true := fun c member => by
    simp [(plain c member).2]
  have unmarked : isSign letter = false := by
    by_contra sign
    simp [isAlpha_eq_false_of_isSign (by simpa using sign)] at first
  simp [ofText, List.takeWhile_append_of_pos unsigned, List.dropWhile_append_of_pos unsigned,
    List.takeWhile_append_of_pos unlettered, List.dropWhile_append_of_pos unlettered, unmarked,
    first]

theorem exists_first_letter {text : List Char}
    (lettered : ∃ c ∈ text.takeWhile (! isSign ·), c.isAlpha = true) :
    ∃ before letter after, text = before ++ letter :: after ∧
      (∀ c ∈ before, isSign c = false ∧ c.isAlpha = false) ∧ letter.isAlpha = true := by
  induction text with
  | nil => simp at lettered
  | cons c rest ih =>
    by_cases sign : isSign c = true
    · simp [sign] at lettered
    · by_cases first : c.isAlpha = true
      · exact ⟨[], c, rest, rfl, by simp, first⟩
      · rw [Bool.not_eq_true] at sign first
        have later : ∃ c ∈ rest.takeWhile (! isSign ·), c.isAlpha = true := by
          simpa [sign, first] using lettered
        obtain ⟨before, letter, after, rfl, plain, found⟩ := ih later
        exact ⟨c :: before, letter, after, rfl, by simpa [sign, first] using plain, found⟩

theorem exists_cons_of_dottedRun {text : List Char} (given : dottedRun text ≠ []) :
    ∃ rest, text = '.' :: rest := by
  cases text with
  | nil => contradiction
  | cons c rest =>
    by_cases dot : c = '.'
    · exact ⟨rest, by rw [dot]⟩
    · simp [dottedRun, dot] at given

theorem isDigit_of_mem_threshold {reading : Reading} {c : Char} (member : c ∈ reading.threshold) :
    c.isDigit = true := by
  obtain ⟨rest, behind⟩ := exists_cons_of_dottedRun (List.ne_nil_of_mem member)
  rw [threshold, behind] at member
  exact List.mem_takeWhile_imp member

theorem exists_tail_of_threshold {reading : Reading} (given : reading.threshold ≠ []) :
    ∃ back, reading.tail = reading.faces ++ '.' :: reading.threshold ++ back := by
  obtain ⟨rest, behind⟩ := exists_cons_of_dottedRun given
  refine ⟨rest.dropWhile Char.isDigit, ?_⟩
  have whole := List.takeWhile_append_dropWhile (p := Char.isDigit) (l := reading.tail)
  rw [behind] at whole
  rw [threshold, faces, behind, dottedRun, List.append_assoc, List.cons_append,
    List.takeWhile_append_dropWhile, whole]

theorem threshold_before_sign {reading : Reading} (given : reading.threshold ≠ []) :
    reading.faces ++ '.' :: reading.threshold <+: reading.tail.takeWhile (! isSign ·) := by
  obtain ⟨back, whole⟩ := exists_tail_of_threshold given
  have unsigned {c : Char} (digit : c.isDigit = true) : (! isSign c) = true := by
    rw [isSign_eq_false_of_isDigit digit]
    rfl
  have kept : ∀ c ∈ reading.faces ++ '.' :: reading.threshold, (! isSign c) = true := by
    intro c member
    rcases List.mem_append.mp member with member | member
    · exact unsigned (isDigit_of_mem_faces member)
    · cases member with
      | head => rfl
      | tail _ member => exact unsigned (isDigit_of_mem_threshold member)
  rw [whole, List.takeWhile_append_of_pos kept]
  exact List.prefix_append ..

theorem append_digits_prefix {reading : Reading} {literal : Literal}
    (member : literal ∈ reading.placed) (given : literal.digits ≠ []) :
    literal.before ++ literal.digits <+: reading.text := by
  have signed := List.takeWhile_append_dropWhile (p := (! isSign ·)) (l := reading.tail)
  have modified := List.takeWhile_append_dropWhile (p := Char.isDigit) (l := reading.fromSign.tail)
  simp only [placed, List.mem_cons, List.not_mem_nil, or_false] at member
  obtain rfl | rfl | rfl | rfl := member
  · exact ⟨reading.letter :: reading.tail, rfl⟩
  · exact ⟨reading.tail.dropWhile Char.isDigit, by simp [text, faces]⟩
  · obtain ⟨back, whole⟩ := exists_tail_of_threshold given
    exact ⟨back, by simp [text, whole]⟩
  · refine ⟨reading.fromSign.tail.dropWhile Char.isDigit, ?_⟩
    calc
      _ = reading.count ++ reading.letter :: (reading.tail.takeWhile (! isSign ·) ++
          (reading.fromSign.take 1 ++ (reading.modifier ++
            reading.fromSign.tail.dropWhile Char.isDigit))) := by simp
      _ = reading.text := by
        rw [modifier, modified, ← List.drop_one, List.take_append_drop, fromSign, signed, text]

theorem placed_ordered (reading : Reading) :
    reading.placed.Pairwise fun first second =>
      first.digits ≠ [] → second.digits ≠ [] → first.span.start < second.span.start := by
  have letter_pos := reading.letter.utf8Size_pos
  have dot_size : '.'.utf8Size = 1 := rfl
  have sign_pos (given : reading.modifier ≠ []) : 0 < byteLength (reading.fromSign.take 1) := by
    cases rest : reading.fromSign with
    | nil => simp [modifier, rest] at given
    | cons sign digits => simp [byteLength, sign.utf8Size_pos]
  -- The modifier is placed behind the sign, so the threshold has to end before the sign is met.
  have threshold_fits (given : reading.threshold ≠ []) :
      byteLength reading.faces + 1 < byteLength (reading.tail.takeWhile (! isSign ·)) := by
    obtain ⟨back, whole⟩ := threshold_before_sign given
    have some_digit := byteLength_pos given
    rw [← whole]
    simp [byteLength, dot_size]
    omega
  simp only [placed, Literal.span, byteLength, byteLength_append, dot_size, List.pairwise_cons,
    List.forall_mem_cons]
  refine ⟨⟨?_, ?_, ?_, by simp⟩, ⟨?_, ?_, by simp⟩, ⟨?_, by simp⟩, by simp⟩
  · omega
  · omega
  · omega
  · omega
  · intro _ given
    have sized := sign_pos given
    omega
  · intro given _
    have fits := threshold_fits given
    omega

theorem tokens_outline (reading : Reading) :
    [reading.outline.count, reading.outline.faces, reading.outline.threshold,
      reading.outline.modifier.bind (·.digits)] =
    reading.placed.map fun literal => Token.run? literal.span.start literal.digits := by
  cases rest : reading.fromSign <;>
    simp [outline, placed, Literal.span, byteLength, modifierAt, modifier, rest, Nat.add_assoc,
      Token.run?]

end Reading

theorem Literal.digits_ne_nil {literal : Literal} (large : literal.tooLarge = true) :
    literal.digits ≠ [] := by
  intro empty
  simp [tooLarge, empty, Decimal.value] at large

theorem Literal.numberOr_run? (before digits : List Char) (absent : Nat) :
    Token.numberOr absent (Token.run? (Literal.span ⟨before, digits⟩).start digits) =
      if Literal.tooLarge ⟨before, digits⟩ then
        .error ⟨.numberTooLarge, Literal.span ⟨before, digits⟩⟩
      else .ok (if digits = [] then absent else Decimal.value digits) := by
  by_cases empty : digits = []
  · simp [Token.run?, empty, Token.numberOr, tooLarge, Decimal.value]
  · by_cases fits : Decimal.value digits ≤ largestNumber
    · simp [Token.run?, empty, Token.numberOr, Token.number, tooLarge, fits]
    · simp [Token.run?, empty, Token.numberOr, Token.number, tooLarge, fits, span, Token.span]

theorem Spec.ofOutline_outline {reading : Reading} {mode : Mode} (code : String)
    (known : reading.letter = mode.letter) :
    ofOutline code reading.outline =
      match reading.placed.find? Literal.tooLarge with
      | some literal => .error ⟨.numberTooLarge, literal.span⟩
      | none => .ok (reading.spec code mode) := by
  cases found : reading.placed.find? Literal.tooLarge with
  | none =>
    refine (ofOutline_eq_ok_iff code reading _).mpr ⟨mode, known, ?_, rfl⟩
    simpa [placed, literals, Literal.tooLarge] using found
  | some literal =>
    have tokens := reading.tokens_outline
    simp only [placed, List.map_cons, List.map_nil, List.cons.injEq, and_true] at tokens
    obtain ⟨count, faces, threshold, modifier⟩ := tokens
    rw [ofOutline, (reading.mode_outline mode).mpr known]
    simp only [count, faces, threshold, modifier, Literal.numberOr_run?]
    simp only [placed, List.find?_cons] at found
    -- The numbers are read in the order of their places, and the first that fails is the last read.
    repeat' split at found
    all_goals simp_all [bind, Except.bind]

namespace Reading

variable {reading : Reading} {code : String}

theorem find?_tooLarge_eq_some_iff (reading : Reading) (literal : Literal) :
    reading.placed.find? Literal.tooLarge = some literal ↔
      literal ∈ reading.placed ∧ literal.tooLarge = true ∧
        ∀ other ∈ reading.placed, other.tooLarge = true →
          literal.span.start ≤ other.span.start := by
  refine find?_eq_some_iff_least (fun literal => literal.span.start) ?_ literal
  refine reading.placed_ordered.imp fun ordered large otherLarge => ?_
  exact ordered (Literal.digits_ne_nil large) (Literal.digits_ne_nil otherLarge)

theorem Cuts.parse_eq (cuts : reading.Cuts code) :
    Spec.parse code =
      (Spec.ofOutline code reading.outline).mapError (.malformed code) := by
  rw [Spec.parse, cuts.outline]
  rfl

theorem Cuts.count_within (cuts : reading.Cuts code) :
    Span.Within ⟨0, byteLength reading.count⟩ code := by
  have whole : code.toList = [] ++ reading.count ++ reading.letter :: reading.tail := cuts.whole
  simpa [byteLength] using Span.within_of_append whole

theorem Cuts.letter_within (cuts : reading.Cuts code) :
    Span.Within ⟨byteLength reading.count, byteLength reading.count + 1⟩ code := by
  have whole : code.toList = reading.count ++ [reading.letter] ++ reading.tail := by
    simp [cuts.whole, text]
  simpa [byteLength, utf8Size_of_isAlpha cuts.letter] using Span.within_of_append whole

end Reading

theorem Mode.exists_letter_iff (letter : Char) :
    (∃ mode : Mode, letter = mode.letter) ↔ letter ∈ ['d', 'x', 'e', 'k', 'K', 'n', 'N'] := by
  constructor
  · rintro ⟨mode, rfl⟩
    cases mode <;> decide
  · intro member
    simp only [List.mem_cons, List.not_mem_nil, or_false] at member
    obtain rfl | rfl | rfl | rfl | rfl | rfl | rfl := member
    · exact ⟨.sum, rfl⟩
    · exact ⟨.explode, rfl⟩
    · exact ⟨.explodeAll, rfl⟩
    · exact ⟨.keepHighest, rfl⟩
    · exact ⟨.keepLowest, rfl⟩
    · exact ⟨.countMin, rfl⟩
    · exact ⟨.countMax, rfl⟩

namespace Spec

variable {code : String} {misfit : Misfit}

theorem ofOutline_of_unknown {reading : Reading} (letter : reading.letter.isAlpha = true)
    (unknown : reading.letter ∉ ['d', 'x', 'e', 'k', 'K', 'n', 'N']) :
    ofOutline code reading.outline =
      .error ⟨.unknownMode reading.letter,
        ⟨byteLength reading.count, byteLength reading.count + 1⟩⟩ := by
  have no_mode : Mode.ofLetter? reading.letter = none := by
    rw [Option.eq_none_iff_forall_ne_some]
    intro mode found
    exact unknown ((Mode.exists_letter_iff _).mp ⟨mode, (Mode.ofLetter?_eq_some_iff _ _).mp found⟩)
  have mode : reading.outline.mode = .error ⟨.unknownMode reading.letter,
      ⟨byteLength reading.count, byteLength reading.count + 1⟩⟩ := by
    simp [Outline.mode, Reading.outline, no_mode, Token.span, byteLength,
      utf8Size_of_isAlpha letter]
  rw [ofOutline, mode]
  rfl

theorem parse_of_refused (refused : Refused code misfit) :
    parse code = .error (.malformed code misfit) := by
  cases refused with
  | missingMode cut unlettered =>
    subst cut
    rw [parse, Outline.ofCode, Outline.ofTokens_scan, ofText_unlettered unlettered]
    rfl
  | @badCount before after letter whole plain first other =>
    have undigited : ¬ before.all Char.isDigit = true := by simpa using other
    rw [parse, Outline.ofCode, Outline.ofTokens_scan, whole, ofText_lettered plain first,
      if_neg undigited]
    rfl
  | unknownMode cuts unknown =>
    rw [cuts.parse_eq, ofOutline_of_unknown cuts.letter unknown]
    rfl
  | numberTooLarge cuts known member large leftmost =>
    obtain ⟨mode, known⟩ := (Mode.exists_letter_iff _).mpr known
    have found := (find?_tooLarge_eq_some_iff _ _).mpr ⟨member, large, leftmost⟩
    rw [cuts.parse_eq, ofOutline_outline code known, found]
    rfl

theorem exists_refused_or_parse (code : String) :
    (∃ misfit, Refused code misfit) ∨ ∃ spec, parse code = .ok spec := by
  by_cases lettered : ∃ c ∈ code.toList.takeWhile (! isSign ·), c.isAlpha = true
  · obtain ⟨before, letter, after, whole, plain, first⟩ := exists_first_letter lettered
    by_cases digits : ∀ c ∈ before, c.isDigit = true
    · have cuts : Reading.Cuts ⟨before, letter, after⟩ code := ⟨whole, digits, first⟩
      by_cases known : letter ∈ ['d', 'x', 'e', 'k', 'K', 'n', 'N']
      · obtain ⟨mode, same⟩ := (Mode.exists_letter_iff letter).mpr known
        cases found : (Reading.placed ⟨before, letter, after⟩).find? Literal.tooLarge with
        | none =>
          right
          rw [cuts.parse_eq, ofOutline_outline code same, found]
          exact ⟨_, rfl⟩
        | some literal =>
          obtain ⟨member, large, leftmost⟩ := (find?_tooLarge_eq_some_iff _ _).mp found
          exact .inl ⟨_, .numberTooLarge cuts known member large leftmost⟩
      · exact .inl ⟨_, .unknownMode cuts known⟩
    · simp only [not_forall, Bool.not_eq_true] at digits
      obtain ⟨c, member, other⟩ := digits
      exact .inl ⟨_, .badCount whole plain first ⟨c, member, other⟩⟩
  · simp only [not_exists, not_and, Bool.not_eq_true] at lettered
    exact .inl ⟨_, .missingMode rfl lettered⟩

theorem within_of_refused (refused : Refused code misfit) : misfit.span.Within code := by
  cases refused with
  | missingMode cut unlettered =>
    have whole : code.toList = [] ++ _ ++ _ :=
      (List.takeWhile_append_dropWhile (p := (! isSign ·)) (l := code.toList)).symm
    simpa [cut, byteLength] using Span.within_of_append whole
  | @badCount before after letter whole plain first other =>
    have parts : code.toList = [] ++ before ++ letter :: after := whole
    simpa [byteLength] using Span.within_of_append parts
  | unknownMode cuts unknown => exact cuts.letter_within
  | numberTooLarge cuts known member large leftmost =>
    obtain ⟨back, whole⟩ := append_digits_prefix member (Literal.digits_ne_nil large)
    exact Span.within_of_append (cuts.whole.trans whole.symm)

theorem parse_points_at_culprit (code : String) :
    (∀ error, parse code = .error error ↔
      ∃ misfit, Refused code misfit ∧ error = .malformed code misfit) ∧
    (∀ first second, Refused code first → Refused code second → first = second) ∧
    ((∃ spec, parse code = .ok spec) ↔ ∀ misfit, ¬ Refused code misfit) ∧
    (∀ spec, parse code = .ok spec → ∃ reading : Reading, reading.Cuts code ∧
      ∀ broken misfit, spec.validate = .error (.malformed broken misfit) ↔
        broken = code ∧
          (2 < reading.count.length ∧ misfit = ⟨.countTooLong, ⟨0, byteLength reading.count⟩⟩ ∨
            reading.count.length ≤ 2 ∧ reading.faces = [] ∧
              misfit = ⟨.missingFaces,
                ⟨byteLength reading.count, byteLength reading.count + 1⟩⟩)) ∧
    ∀ misfit, (parse code = .error (.malformed code misfit) ∨
        ∃ spec, parse code = .ok spec ∧ spec.validate = .error (.malformed code misfit)) →
      misfit.span.Within code := by
  have refusal (error : CodeError) : parse code = .error error ↔
      ∃ misfit, Refused code misfit ∧ error = .malformed code misfit := by
    constructor
    · intro failed
      obtain ⟨misfit, refused⟩ | ⟨spec, read⟩ := exists_refused_or_parse code
      · have said := parse_of_refused refused
        rw [failed] at said
        exact ⟨misfit, refused, Except.error.inj said⟩
      · simp [read] at failed
    · rintro ⟨misfit, refused, rfl⟩
      exact parse_of_refused refused
  refine ⟨refusal, ?_, ?_, ?_, ?_⟩
  · intro first second refused also
    have said := (parse_of_refused refused).symm.trans (parse_of_refused also)
    simpa using said
  · constructor
    · rintro ⟨spec, read⟩ misfit refused
      simp [parse_of_refused refused] at read
    · intro accepted
      obtain ⟨misfit, refused⟩ | read := exists_refused_or_parse code
      · exact absurd refused (accepted misfit)
      · exact read
  · intro spec read
    obtain ⟨reading, mode, cuts, -, -, rfl⟩ := exists_cuts_of_parse read
    exact ⟨reading, cuts, Reading.Cuts.validate_eq_malformed_iff cuts⟩
  · rintro misfit (failed | ⟨spec, read, failed⟩)
    · obtain ⟨_, refused, same⟩ := (refusal _).mp failed
      obtain ⟨-, rfl⟩ := CodeError.malformed.inj same
      exact within_of_refused refused
    · obtain ⟨reading, mode, cuts, -, -, rfl⟩ := exists_cuts_of_parse read
      obtain ⟨-, ⟨-, rfl⟩ | ⟨-, -, rfl⟩⟩ :=
        (Reading.Cuts.validate_eq_malformed_iff cuts code misfit).mp failed
      · exact cuts.count_within
      · exact cuts.letter_within

end Spec

end DiceNotation
