import DiceNotation.Proofs.Parse
import DiceNotation.Proofs.Tokenization

set_option autoImplicit false

namespace DiceNotation

open Text

def Text.Behind (position : Nat) (text rest : List Char) : Prop :=
  ∃ front, text = front ++ rest ∧ byteLength front = position

def ModifierClause.tokens (modifier : ModifierClause) : List Token :=
  modifier.sign :: modifier.digits.toList

namespace Outline

def modifierTokens (outline : Outline) : List Token :=
  outline.modifier.toList.flatMap ModifierClause.tokens

def dieTokens (outline : Outline) : List Token :=
  outline.count.toList ++ outline.letter :: (outline.faces.toList ++ outline.threshold.toList)

def numbers (outline : Outline) : List Token :=
  outline.count.toList ++ outline.faces.toList ++ outline.threshold.toList ++
    (outline.modifier.bind (·.digits)).toList

def facesStop (outline : Outline) : Nat :=
  (outline.faces.getD outline.letter).span.stop

structure InPlace (outline : Outline) (code : String) : Prop where
  scanned : ∀ token ∈ outline.dieTokens ++ outline.modifierTokens, token ∈ Token.scan code.toList
  count_span : ∀ count ∈ outline.count, count.span = ⟨0, outline.letter.start⟩
  letter_start : outline.count = none → outline.letter.start = 0
  faces_start : ∀ faces ∈ outline.faces, faces.start = outline.letter.span.stop
  threshold_start : ∀ threshold ∈ outline.threshold,
    threshold.start = outline.facesStop + 1 ∧
      ∃ rest, Behind outline.facesStop code.toList ('.' :: rest)
  sign_first : ∀ modifier ∈ outline.modifier, ∃ before sign rest,
    code.toList = before ++ sign :: rest ∧ byteLength before = modifier.sign.start ∧
      modifier.sign.text = [sign] ∧ (sign = '+' ∨ sign = '-') ∧ ∀ c ∈ before, c ≠ '+' ∧ c ≠ '-'
  unsigned : outline.modifier = none → ∀ c ∈ code.toList, c ≠ '+' ∧ c ≠ '-'
  sign_behind : ∀ modifier ∈ outline.modifier, ∀ token ∈ outline.dieTokens,
    token.span.stop ≤ modifier.sign.start
  modifier_start : ∀ modifier ∈ outline.modifier, ∀ digits ∈ modifier.digits,
    digits.start = modifier.sign.span.stop
  number_stop : ∀ number ∈ outline.numbers, number.isDigits = true ∧
    ∃ rest, Behind number.span.stop code.toList rest ∧ ∀ c ∈ rest.head?, c.isDigit = false

structure Laid (outline : Outline) (tokens die dots skipped rest : List Token) : Prop where
  whole : tokens = die ++ (outline.modifierTokens ++ rest)
  die_whole : die = outline.count.toList ++ outline.letter ::
    (outline.faces.toList ++ (dots ++ (outline.threshold.toList ++ skipped)))
  dotted : outline.threshold ≠ none → ∃ dot, dots = [dot] ∧ dot.kind = .dot
  numbers : ∀ number ∈ outline.numbers, number.isDigits = true
  unsigned : ∀ token ∈ die, token.isSign = false
  signed : ∀ modifier ∈ outline.modifier, modifier.sign.isSign = true
  ended : outline.modifier = none → rest = []

end Outline

namespace Token.Tokenizes

variable {tokens front back : List Token} {token first second : Token} {code : List Char}

theorem behind (tokenizes : Tokenizes tokens code) (split : tokens = front ++ token :: back) :
    Behind token.span.stop code (back.flatMap Token.text) := by
  refine ⟨front.flatMap Token.text ++ token.text, ?_, ?_⟩
  next => simp [← tokenizes.whole, split]
  next => simp [span, tokenizes.placed front token back split]

theorem start_next (tokenizes : Tokenizes tokens code)
    (split : tokens = front ++ first :: second :: back) : second.start = first.span.stop := by
  have at_first := tokenizes.placed front first (second :: back) split
  have at_second := tokenizes.placed (front ++ [first]) second back (by simp [split])
  simp [at_second, span, at_first]

theorem stop_le (tokenizes : Tokenizes tokens code) (split : tokens = front ++ first :: back)
    (member : token ∈ front) : token.span.stop ≤ first.start := by
  obtain ⟨before, after, rfl⟩ := List.append_of_mem member
  have at_token := tokenizes.placed before token (after ++ first :: back) (by simp [split])
  have at_first := tokenizes.placed _ first back split
  simp [span, at_token, at_first, ← Nat.add_assoc]

theorem number_stop (tokenizes : Tokenizes tokens code) (member : token ∈ tokens)
    (run : token.isDigits = true) :
    ∃ rest, Behind token.span.stop code rest ∧ ∀ c ∈ rest.head?, c.isDigit = false := by
  have fits (other : Token) (inside : other ∈ tokens) : other.Fits :=
    (fits_iff_spells other).mpr (tokenizes.spelled other inside)
  obtain ⟨front, back, split⟩ := List.append_of_mem member
  refine ⟨back.flatMap Token.text, tokenizes.behind split, ?_⟩
  rw [split] at fits
  -- The next token is no run of digits, or the two would be one.
  have joined : Joined (token :: back) := (List.isChain_append.mp (split ▸ tokenizes.joined)).2.1
  have apart := apart_of_joined (fun other inside => fits other (by simp_all)) joined
  have digits := fits token (by simp)
  rw [Fits, if_pos run] at digits
  have last := List.getLast?_eq_some_getLast digits.1
  exact fun c first => apart _ last c first (digits.2 _ (List.mem_of_getLast? last))

theorem isSign_of_mem (tokenizes : Tokenizes tokens code) (member : token ∈ tokens) {c : Char}
    (inside : c ∈ token.text) : token.isSign = Reading.isSign c := by
  have kind := Kind.ofChar_of_spells (tokenizes.spelled token member) inside
  exact isSign_token kind.symm

theorem text_of_isSign (tokenizes : Tokenizes tokens code) (member : token ∈ tokens)
    (sign : token.isSign = true) : ∃ c, token.text = [c] ∧ (c = '+' ∨ c = '-') := by
  have spelled := tokenizes.spelled token member
  generalize token.text = text at spelled
  rcases of_decide_eq_true sign with plus | minus
  next =>
    rw [plus] at spelled
    cases spelled
    exact ⟨'+', rfl, .inl rfl⟩
  next =>
    rw [minus] at spelled
    cases spelled
    exact ⟨'-', rfl, .inr rfl⟩

theorem text_of_dot (tokenizes : Tokenizes tokens code) (member : token ∈ tokens)
    (dot : token.kind = .dot) : token.text = ['.'] := by
  have spelled := tokenizes.spelled token member
  generalize token.text = text at spelled
  rw [dot] at spelled
  cases spelled
  rfl

end Token.Tokenizes

theorem leadingDigits?_laid (tokens : List Token) :
    ∃ rest, tokens = (leadingDigits? tokens).toList ++ rest ∧
      ∀ digits ∈ leadingDigits? tokens, digits.isDigits = true := by
  cases tokens with
  | nil => exact ⟨[], rfl, by simp [leadingDigits?]⟩
  | cons token rest =>
    by_cases run : token.isDigits = true
    next => exact ⟨rest, by simp [leadingDigits?, run]⟩
    next => exact ⟨token :: rest, by simp [leadingDigits?, run]⟩

theorem dottedDigits?_laid (tokens : List Token) :
    ∃ dots rest, tokens = dots ++ ((dottedDigits? tokens).toList ++ rest) ∧
      (∀ digits ∈ dottedDigits? tokens, digits.isDigits = true) ∧
      (dottedDigits? tokens ≠ none → ∃ dot, dots = [dot] ∧ dot.kind = .dot) := by
  cases tokens with
  | nil => exact ⟨[], [], rfl, by simp [dottedDigits?], by simp [dottedDigits?]⟩
  | cons dot behind =>
    by_cases dotted : dot.kind = .dot
    next =>
      obtain ⟨rest, whole, digits⟩ := leadingDigits?_laid behind
      rw [dottedDigits?, if_pos dotted]
      exact ⟨[dot], rest, by rw [← whole]; rfl, digits, fun _ => ⟨dot, rfl, dotted⟩⟩
    next =>
      rw [dottedDigits?, if_neg dotted]
      exact ⟨[], dot :: behind, rfl, by simp, by simp⟩

theorem FaceClause.ofTokens_laid (tokens : List Token) :
    let face := ofTokens tokens
    ∃ dots rest, tokens = face.faces.toList ++ (dots ++ (face.threshold.toList ++ rest)) ∧
      (∀ faces ∈ face.faces, faces.isDigits = true) ∧
      (∀ threshold ∈ face.threshold, threshold.isDigits = true) ∧
      (face.threshold ≠ none → ∃ dot, dots = [dot] ∧ dot.kind = .dot) := by
  intro face
  obtain ⟨behind, whole, digits⟩ := leadingDigits?_laid tokens
  obtain ⟨dots, rest, later, number, dotted⟩ := dottedDigits?_laid behind
  have found : face = ⟨leadingDigits? tokens, dottedDigits? behind⟩ := by
    cases first : leadingDigits? tokens with
    | none =>
      have same : tokens = behind := by simpa [first] using whole
      simp [face, ofTokens, first, ← same]
    | some faces =>
      have same : tokens = faces :: behind := by simpa [first] using whole
      have tail : tokens.tail = behind := congrArg List.tail same
      simp [face, ofTokens, first, tail]
  rw [found]
  exact ⟨dots, rest, by rw [← later, ← whole], digits, number, dotted⟩

theorem countOf_laid {tokens : List Token} {count : Option Token}
    (found : countOf tokens = .ok count) :
    tokens = count.toList ∧ ∀ digits ∈ count, digits.isDigits = true := by
  match tokens with
  | [] =>
    obtain rfl : none = count := Except.ok.inj found
    simp
  | [token] =>
    by_cases run : token.isDigits = true
    next =>
      obtain rfl : some token = count := by simpa [countOf, run] using found
      simp [run]
    next => simp [countOf, run] at found
  | first :: second :: rest => simp [countOf] at found

theorem DieClause.laid_of_ofTokens {tokens : List Token} {die : DieClause}
    (found : ofTokens tokens = .ok die) :
    tokens = die.count.toList ++ die.letter :: die.rest ∧
      ∀ count ∈ die.count, count.isDigits = true := by
  have whole := List.takeWhile_append_dropWhile (p := (! ·.isLetter)) (l := tokens)
  rw [ofTokens] at found
  cases cut : tokens.dropWhile (! ·.isLetter) with
  | nil => simp [cut] at found
  | cons letter rest =>
    rw [cut] at whole found
    cases counted : countOf (tokens.takeWhile (! ·.isLetter)) with
    | error misfit => simp [counted, Except.map] at found
    | ok count =>
      obtain rfl : ⟨count, letter, rest⟩ = die := by simpa [counted, Except.map] using found
      obtain ⟨before, digits⟩ := countOf_laid counted
      rw [before] at whole
      exact ⟨whole.symm, digits⟩

theorem ModifierClause.cut_laid (tokens : List Token) :
    let parts := cut tokens
    ∃ rest, tokens = parts.1 ++ (parts.2.toList.flatMap ModifierClause.tokens ++ rest) ∧
      (∀ token ∈ parts.1, token.isSign = false) ∧
      (∀ modifier ∈ parts.2, modifier.sign.isSign = true ∧
        ∀ digits ∈ modifier.digits, digits.isDigits = true) ∧
      (parts.2 = none → rest = []) := by
  have whole := List.takeWhile_append_dropWhile (p := (! ·.isSign)) (l := tokens)
  have unsigned (token : Token) (member : token ∈ tokens.takeWhile (! ·.isSign)) :
      token.isSign = false := by
    simpa using List.mem_takeWhile_imp member
  have stops := List.head?_dropWhile_not (! ·.isSign) tokens
  rw [cut]
  cases found : tokens.dropWhile (! ·.isSign) with
  | nil =>
    rw [found, List.append_nil] at whole
    rw [whole] at unsigned
    exact ⟨[], by simp, unsigned, by simp, fun _ => rfl⟩
  | cons sign behind =>
    rw [found] at whole stops
    obtain ⟨rest, later, digits⟩ := leadingDigits?_laid behind
    have signed : sign.isSign = true := by simpa using stops
    refine ⟨rest, ?_, unsigned, by simpa [signed] using digits, by simp⟩
    simpa [ModifierClause.tokens, ← later] using whole.symm

namespace Outline

variable {outline : Outline} {tokens die dots skipped rest : List Token} {code : String}

theorem exists_laid (found : ofTokens tokens = .ok outline) :
    ∃ die dots skipped rest, outline.Laid tokens die dots skipped rest := by
  obtain ⟨rest, whole, unsigned, signed, ended⟩ := ModifierClause.cut_laid tokens
  rw [ofTokens, bind_eq_ok_iff] at found
  obtain ⟨die, cut, found⟩ := found
  obtain ⟨front, count⟩ := DieClause.laid_of_ofTokens cut
  obtain ⟨dots, skipped, behind, faces, threshold, dotted⟩ := FaceClause.ofTokens_laid die.rest
  obtain rfl := Except.ok.inj found
  rw [behind] at front
  have numbers (number : Token) : number ∈ die.count.toList ∨
      number ∈ (FaceClause.ofTokens die.rest).faces.toList ∨
      number ∈ (FaceClause.ofTokens die.rest).threshold.toList ∨
      number ∈ ((ModifierClause.cut tokens).2.bind (·.digits)).toList →
        number.isDigits = true := by
    rintro (member | member | member | member)
    next => exact count number (Option.mem_toList.mp member)
    next => exact faces number (Option.mem_toList.mp member)
    next => exact threshold number (Option.mem_toList.mp member)
    next =>
      obtain ⟨modifier, inside, digits⟩ := Option.bind_eq_some_iff.mp (Option.mem_toList.mp member)
      exact (signed modifier inside).2 number digits
  refine ⟨_, dots, skipped, rest, whole, front, dotted, ?_, unsigned, ?_, ended⟩
  next => simpa [Outline.numbers, or_assoc] using numbers
  next => exact fun modifier given => (signed modifier given).1

theorem mem_of_mem_numbers {number : Token} (member : number ∈ outline.numbers) :
    number ∈ outline.dieTokens ++ outline.modifierTokens := by
  simp only [numbers, List.mem_append, Option.mem_toList, Option.bind_eq_some_iff] at member
  rcases member with ((count | faces) | threshold) | ⟨modifier, given, digits⟩
  next => simp [dieTokens, count]
  next => simp [dieTokens, faces]
  next => simp [dieTokens, threshold]
  next => simp [modifierTokens, ModifierClause.tokens, given, digits]

namespace Laid

theorem mem_die (laid : outline.Laid tokens die dots skipped rest) {token : Token}
    (member : token ∈ outline.dieTokens) : token ∈ die := by
  rw [laid.die_whole]
  simp only [dieTokens, List.mem_append, List.mem_cons] at member ⊢
  tauto

theorem mem_tokens (laid : outline.Laid tokens die dots skipped rest) {token : Token}
    (member : token ∈ outline.dieTokens ++ outline.modifierTokens) : token ∈ tokens := by
  rw [laid.whole]
  rcases List.mem_append.mp member with inDie | inModifier
  next => exact List.mem_append_left _ (laid.mem_die inDie)
  next => exact List.mem_append_right _ (List.mem_append_left _ inModifier)

theorem split_count (laid : outline.Laid tokens die dots skipped rest) {count : Token}
    (given : count ∈ outline.count) :
    ∃ back, tokens = [] ++ count :: outline.letter :: back := by
  rw [laid.whole, laid.die_whole, Option.mem_def.mp given]
  exact ⟨_, rfl⟩

theorem split_faces (laid : outline.Laid tokens die dots skipped rest) {faces : Token}
    (given : faces ∈ outline.faces) :
    ∃ front back, tokens = front ++ outline.letter :: faces :: back := by
  rw [laid.whole, laid.die_whole, Option.mem_def.mp given, List.append_assoc]
  exact ⟨_, _, rfl⟩

theorem split_threshold (laid : outline.Laid tokens die dots skipped rest) {threshold : Token}
    (given : threshold ∈ outline.threshold) :
    ∃ front dot back, dot.kind = .dot ∧
      tokens = front ++ outline.faces.getD outline.letter :: dot :: threshold :: back := by
  obtain ⟨dot, rfl, kind⟩ := laid.dotted (Option.ne_none_iff_exists'.mpr ⟨threshold, given⟩)
  rw [laid.whole, laid.die_whole, Option.mem_def.mp given]
  cases outline.faces with
  | none =>
    exact ⟨outline.count.toList, dot, skipped ++ (outline.modifierTokens ++ rest), kind, by simp⟩
  | some faces =>
    exact ⟨outline.count.toList ++ [outline.letter], dot,
      skipped ++ (outline.modifierTokens ++ rest), kind, by simp⟩

theorem split_sign (laid : outline.Laid tokens die dots skipped rest) {modifier : ModifierClause}
    (given : modifier ∈ outline.modifier) :
    tokens = die ++ modifier.sign :: (modifier.digits.toList ++ rest) := by
  rw [laid.whole, modifierTokens, Option.mem_def.mp given]
  simp [ModifierClause.tokens]

theorem plain (laid : outline.Laid tokens die dots skipped rest)
    (tokenizes : Token.Tokenizes tokens code.toList) :
    ∀ c ∈ die.flatMap Token.text, c ≠ '+' ∧ c ≠ '-' := by
  intro c member
  obtain ⟨token, inside, spelled⟩ := List.mem_flatMap.mp member
  have scanned : token ∈ tokens := laid.whole ▸ List.mem_append_left _ inside
  have sign := tokenizes.isSign_of_mem scanned spelled
  rw [laid.unsigned token inside] at sign
  simpa [Reading.isSign] using sign.symm

theorem in_place (laid : outline.Laid tokens die dots skipped rest)
    (tokenizes : Token.Tokenizes tokens code.toList) : outline.InPlace code where
  scanned token member := by
    rw [← (Token.tokenizes_iff tokens code.toList).mp tokenizes]
    exact laid.mem_tokens member
  count_span := by
    intro count given
    obtain ⟨back, split⟩ := laid.split_count given
    have first := tokenizes.placed [] count _ split
    rw [tokenizes.start_next split, Token.span, first]
    rfl
  letter_start none := by
    apply tokenizes.placed []
    rw [laid.whole, laid.die_whole, none]
    rfl
  faces_start := by
    intro faces given
    obtain ⟨front, back, split⟩ := laid.split_faces given
    exact tokenizes.start_next split
  threshold_start := by
    intro threshold given
    obtain ⟨front, dot, back, kind, split⟩ := laid.split_threshold given
    have inside : dot ∈ tokens := by simp [split]
    have text : dot.text = ['.'] := tokenizes.text_of_dot inside kind
    have dot_start := tokenizes.start_next split
    have behind_last : tokens =
        front ++ [outline.faces.getD outline.letter] ++ dot :: threshold :: back := by
      rw [split, List.append_assoc]
      rfl
    have start := tokenizes.start_next behind_last
    have behind := tokenizes.behind split
    rw [List.flatMap_cons, text] at behind
    rw [start, Token.span, dot_start, text]
    exact ⟨rfl, _, behind⟩
  sign_first := by
    intro modifier given
    have split := laid.split_sign given
    have inside : modifier.sign ∈ tokens := by simp [split]
    obtain ⟨sign, text, mark⟩ := tokenizes.text_of_isSign inside (laid.signed modifier given)
    refine ⟨die.flatMap Token.text, sign, (modifier.digits.toList ++ rest).flatMap Token.text,
      ?_, ?_, text, mark, laid.plain tokenizes⟩
    next => rw [← tokenizes.whole, split]; simp [text]
    next => exact (tokenizes.placed die _ _ split).symm
  unsigned none := by
    have whole : code.toList = die.flatMap Token.text := by
      rw [← tokenizes.whole, laid.whole, laid.ended none, modifierTokens, none]
      simp
    rw [whole]
    exact laid.plain tokenizes
  sign_behind := by
    intro modifier given token member
    exact tokenizes.stop_le (laid.split_sign given) (laid.mem_die member)
  modifier_start := by
    intro modifier given digits also
    have split := laid.split_sign given
    rw [Option.mem_def.mp also] at split
    exact tokenizes.start_next split
  number_stop number member :=
    ⟨laid.numbers number member,
      tokenizes.number_stop (laid.mem_tokens (mem_of_mem_numbers member))
        (laid.numbers number member)⟩

end Laid

theorem clauses_stand_in_place {outline : Outline} (found : ofCode code = .ok outline) :
    outline.InPlace code := by
  obtain ⟨die, dots, skipped, rest, laid⟩ := exists_laid found
  exact laid.in_place (Token.tokenizes_scan code.toList)

theorem ignored_text_keeps_clauses_in_place :
    let outline : Outline :=
      { count := some ⟨.digits, ['1', '2'], 0⟩
        letter := ⟨.letter, ['k'], 2⟩
        faces := some ⟨.digits, ['0', '6'], 3⟩
        threshold := some ⟨.digits, ['3'], 6⟩
        modifier := some ⟨⟨.minus, ['-'], 10⟩, some ⟨.digits, ['0', '7'], 11⟩⟩ }
    ofCode "12k06.3é.-07+x" = .ok outline ∧ outline.InPlace "12k06.3é.-07+x" := by
  intro outline
  have found : ofCode "12k06.3é.-07+x" = .ok outline := by decide
  exact ⟨found, clauses_stand_in_place found⟩

end Outline

end DiceNotation
