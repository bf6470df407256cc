import DiceNotation.Proofs.Tokens
import DiceNotation.Outline
import Mathlib.Data.List.TakeWhile

set_option autoImplicit false

namespace DiceNotation

structure Reading where
  count : List Char
  letter : Char
  tail : List Char

namespace Reading

open Text

def text (reading : Reading) : List Char :=
  reading.count ++ reading.letter :: reading.tail

def isSign (c : Char) : Bool :=
  c = '+' || c = '-'

def dottedRun : List Char → List Char
  | '.' :: rest => rest.takeWhile Char.isDigit
  | _ => []

def faces (reading : Reading) : List Char :=
  reading.tail.takeWhile Char.isDigit

def threshold (reading : Reading) : List Char :=
  dottedRun (reading.tail.dropWhile Char.isDigit)

def fromSign (reading : Reading) : List Char :=
  reading.tail.dropWhile (! isSign ·)

def modifier (reading : Reading) : List Char :=
  reading.fromSign.tail.takeWhile Char.isDigit

def ofText (text : List Char) : Except Misfit Reading :=
  let die := text.takeWhile (! isSign ·)
  let count := die.takeWhile (! ·.isAlpha)
  match die.dropWhile (! ·.isAlpha) with
  | [] => .error ⟨.missingMode, ⟨0, byteLength die⟩⟩
  | letter :: tail =>
    if count.all Char.isDigit then
      .ok ⟨count, letter, tail ++ text.dropWhile (! isSign ·)⟩
    else
      .error ⟨.badCount, ⟨0, byteLength count⟩⟩

def modifierAt (start : Nat) : List Char → Option ModifierClause
  | [] => none
  | sign :: rest =>
    some ⟨⟨.ofChar sign, [sign], start⟩,
      Token.run? (start + sign.utf8Size) (rest.takeWhile Char.isDigit)⟩

def outline (reading : Reading) : Outline :=
  let letterStart := byteLength reading.count
  let facesStart := letterStart + reading.letter.utf8Size
  let thresholdStart := facesStart + byteLength reading.faces + '.'.utf8Size
  let signStart := facesStart + byteLength (reading.tail.takeWhile (! isSign ·))
  { count := Token.run? 0 reading.count
    letter := ⟨.letter, [reading.letter], letterStart⟩
    faces := Token.run? facesStart reading.faces
    threshold := Token.run? thresholdStart reading.threshold
    modifier := modifierAt signStart reading.fromSign }

end Reading

open Text Reading

theorem isDigit_eq_false_of_isSign {c : Char} (sign : isSign c = true) : c.isDigit = false := by
  simp only [isSign, Bool.or_eq_true, decide_eq_true_eq] at sign
  obtain rfl | rfl := sign <;> rfl

theorem isSign_eq_false_of_isDigit {c : Char} (digit : c.isDigit = true) : isSign c = false := by
  by_contra sign
  simp [isDigit_eq_false_of_isSign (by simpa using sign)] at digit

theorem ne_dot_of_isSign {c : Char} (sign : isSign c = true) : c ≠ '.' := by
  rintro rfl
  simp [isSign] at sign

theorem isAlpha_eq_false_of_isSign {c : Char} (sign : isSign c = true) : c.isAlpha = false := by
  simp only [isSign, Bool.or_eq_true, decide_eq_true_eq] at sign
  obtain rfl | rfl := sign <;> rfl

theorem isSign_token {token : Token} {c : Char} (kind : token.kind = .ofChar c) :
    token.isSign = isSign c := by
  simp [Token.isSign, isSign, kind, Bool.decide_or]

theorem isLetter_token {token : Token} {c : Char} (kind : token.kind = .ofChar c) :
    token.isLetter = c.isAlpha := by
  simp [Token.isLetter, kind]

theorem cut_scanFrom (start : Nat) (text : List Char) {test : Token → Bool} {mark : Char → Bool}
    (same : ∀ token c, token.kind = .ofChar c → test token = mark c)
    (plain : ∀ c, mark c = true → c.isDigit = false) :
    (Token.scanFrom start text).takeWhile (! test ·) =
        Token.scanFrom start (text.takeWhile (! mark ·)) ∧
      (Token.scanFrom start text).dropWhile (! test ·) =
        Token.scanFrom (start + byteLength (text.takeWhile (! mark ·)))
          (text.dropWhile (! mark ·)) := by
  have whole := List.takeWhile_append_dropWhile (p := fun c => ! mark c) (l := text)
  have stops := List.head?_dropWhile_not (! mark ·) text
  have kept (c : Char) (inside : c ∈ text.takeWhile (! mark ·)) : mark c = false := by
    have holds := List.mem_takeWhile_imp inside
    simpa using holds
  generalize text.takeWhile (! mark ·) = front at *
  generalize text.dropWhile (! mark ·) = back at *
  subst whole
  have unmarked : ∀ token ∈ Token.scanFrom start front, (! test token) = true := by
    intro token member
    obtain ⟨c, inside, kind⟩ := Token.kind_of_mem_scanFrom member
    simp [same token c kind, kept c inside]
  cases back with
  | nil =>
    rw [List.append_nil, List.takeWhile_eq_self_iff.mpr unmarked,
      List.dropWhile_eq_nil_iff.mpr unmarked]
    exact ⟨rfl, rfl⟩
  | cons first rest =>
    have marked : mark first = true := by simpa using stops
    have apart : Token.Apart front (first :: rest) :=
      Token.apart_of_head (by simpa using plain first marked)
    rw [Token.scanFrom_append start apart, List.takeWhile_append_of_pos unmarked,
      List.dropWhile_append_of_pos unmarked,
      Token.scanFrom_cons_of_not_isDigit _ (plain first marked)]
    have tested := same ⟨.ofChar first, [first], start + byteLength front⟩ first rfl
    simp [tested, marked]

section Boundary

variable {test : Char → Bool} {back : List Char}

theorem takeWhile_append_of_head (front : List Char)
    (boundary : ∀ c ∈ back.head?, test c = false) :
    (front ++ back).takeWhile test = front.takeWhile test := by
  induction front with
  | nil => cases back <;> simp_all
  | cons c rest ih => by_cases passes : test c <;> simp [passes, ih]

theorem dropWhile_append_of_head (front : List Char)
    (boundary : ∀ c ∈ back.head?, test c = false) :
    (front ++ back).dropWhile test = front.dropWhile test ++ back := by
  induction front with
  | nil => cases back <;> simp_all
  | cons c rest ih => by_cases passes : test c <;> simp [passes, ih]

end Boundary

section Run

variable {run back : List Char}

theorem takeWhile_run (digits : ∀ c ∈ run, c.isDigit = true)
    (boundary : ∀ c ∈ back.head?, c.isDigit = false) :
    (run ++ back).takeWhile Char.isDigit = run := by
  rw [takeWhile_append_of_head run boundary, List.takeWhile_eq_self_iff.mpr digits]

theorem dropWhile_run (digits : ∀ c ∈ run, c.isDigit = true)
    (boundary : ∀ c ∈ back.head?, c.isDigit = false) :
    (run ++ back).dropWhile Char.isDigit = back := by
  rw [dropWhile_append_of_head run boundary, List.dropWhile_eq_nil_iff.mpr digits, List.nil_append]

end Run

theorem dottedRun_append_of_head (front : List Char) {back : List Char}
    (boundary : ∀ c ∈ back.head?, c.isDigit = false ∧ c ≠ '.') :
    dottedRun (front ++ back) = dottedRun front := by
  cases front with
  | nil =>
    cases back with
    | nil => rfl
    | cons c rest => simp [dottedRun, (boundary c (by simp)).2]
  | cons c rest =>
    by_cases dot : c = '.'
    · subst c
      exact takeWhile_append_of_head rest fun c member => (boundary c member).1
    · simp [dottedRun, dot]

theorem head?_dropWhile_isDigit (text : List Char) :
    ∀ c ∈ (text.dropWhile Char.isDigit).head?, c.isDigit = false := by
  intro c member
  have stops := List.head?_dropWhile_not Char.isDigit text
  rw [Option.mem_def.mp member] at stops
  exact stops

theorem head?_dropWhile_isSign (text : List Char) :
    ∀ c ∈ (text.dropWhile (! isSign ·)).head?, isSign c = true := by
  intro c member
  have stops := List.head?_dropWhile_not (! isSign ·) text
  rw [Option.mem_def.mp member] at stops
  simpa using stops

theorem scanFrom_eq_run_append (start : Nat) (text : List Char) :
    Token.scanFrom start text =
      (Token.run? start (text.takeWhile Char.isDigit)).toList ++
        Token.scanFrom (start + byteLength (text.takeWhile Char.isDigit))
          (text.dropWhile Char.isDigit) := by
  have digits : (text.takeWhile Char.isDigit).all Char.isDigit = true :=
    List.all_eq_true.mpr fun c inside => List.mem_takeWhile_imp inside
  have whole := List.takeWhile_append_dropWhile (p := Char.isDigit) (l := text)
  rw [← Token.scanFrom_run start digits,
    ← Token.scanFrom_append start (Token.apart_of_head (head?_dropWhile_isDigit text)), whole]

theorem leadingDigits?_scanFrom_of_head (start : Nat) {text : List Char}
    (boundary : ∀ c ∈ text.head?, c.isDigit = false) :
    leadingDigits? (Token.scanFrom start text) = none := by
  cases text with
  | nil => rfl
  | cons c rest =>
    have other := boundary c (by simp)
    rw [Token.scanFrom_cons_of_not_isDigit start other]
    simp [leadingDigits?, Token.isDigits, other]

theorem leadingDigits?_scanFrom (start : Nat) (text : List Char) :
    leadingDigits? (Token.scanFrom start text) =
      Token.run? start (text.takeWhile Char.isDigit) := by
  rw [scanFrom_eq_run_append]
  by_cases empty : text.takeWhile Char.isDigit = []
  · simp [Token.run?, empty, leadingDigits?_scanFrom_of_head _ (head?_dropWhile_isDigit text)]
  · simp [Token.run?, empty, leadingDigits?, Token.isDigits]

theorem dottedDigits?_scanFrom (start : Nat) (text : List Char) :
    dottedDigits? (Token.scanFrom start text) =
      Token.run? (start + '.'.utf8Size) (dottedRun text) := by
  cases text with
  | nil => rfl
  | cons c rest =>
    by_cases dot : c = '.'
    · subst c
      rw [Token.scanFrom_cons_of_not_isDigit start rfl]
      simp only [dottedDigits?, Token.Kind.ofChar_eq_dot_iff, if_true, leadingDigits?_scanFrom]
      rfl
    · obtain ⟨head, tokens, scanned, kind⟩ := Token.head?_scanFrom_cons start c rest
      simp [scanned, dottedDigits?, kind, dot, dottedRun, Token.run?]

theorem FaceClause.ofTokens_scanFrom (start : Nat) (text : List Char) :
    FaceClause.ofTokens (Token.scanFrom start text) =
      ⟨Token.run? start (text.takeWhile Char.isDigit),
        Token.run? (start + byteLength (text.takeWhile Char.isDigit) + '.'.utf8Size)
          (dottedRun (text.dropWhile Char.isDigit))⟩ := by
  rw [FaceClause.ofTokens, leadingDigits?_scanFrom, ← dottedDigits?_scanFrom,
    scanFrom_eq_run_append]
  by_cases empty : text.takeWhile Char.isDigit = [] <;> simp [Token.run?, empty]

theorem countOf_scanFrom (start : Nat) (text : List Char) :
    countOf (Token.scanFrom start text) =
      if text.all Char.isDigit then .ok (Token.run? start text)
      else .error ⟨.badCount, ⟨start, start + byteLength text⟩⟩ := by
  by_cases digits : text.all Char.isDigit = true
  · rw [Token.scanFrom_run start digits, if_pos digits]
    by_cases empty : text = [] <;> simp [Token.run?, empty, countOf, Token.isDigits]
  · have some_text : text ≠ [] := by
      rintro rfl
      simp at digits
    have covered := Token.covering_scanFrom start some_text
    have whole := Token.flatMap_text_scanFrom start text
    have fits := @Token.fits_of_mem_scanFrom start text
    rw [if_neg digits, ← covered]
    generalize Token.scanFrom start text = tokens at whole fits
    cases tokens with
    | nil => exact absurd whole.symm some_text
    | cons token rest =>
      cases rest with
      | nil =>
        have other : token.isDigits = false := by
          by_contra run
          have fit := fits token (by simp)
          simp only [List.flatMap_cons, List.flatMap_nil, List.append_nil] at whole
          rw [Bool.not_eq_false] at run
          rw [Token.Fits, if_pos run, whole] at fit
          exact digits (List.all_eq_true.mpr fit.2)
        simp [countOf, other, Token.covering]
        rfl
      | cons second rest => rfl

theorem ModifierClause.cut_scan (text : List Char) :
    ModifierClause.cut (Token.scan text) =
      (Token.scanFrom 0 (text.takeWhile (! isSign ·)),
        modifierAt (byteLength (text.takeWhile (! isSign ·)))
          (text.dropWhile (! isSign ·))) := by
  obtain ⟨taken, dropped⟩ := cut_scanFrom 0 text (fun _ _ => isSign_token)
    (fun _ => isDigit_eq_false_of_isSign)
  have boundary := head?_dropWhile_isSign text
  have whole := List.takeWhile_append_dropWhile (p := fun c => ! isSign c) (l := text)
  rw [ModifierClause.cut, Token.scan, dropped, taken]
  generalize text.dropWhile (! isSign ·) = back at *
  cases back with
  | nil =>
    rw [List.append_nil] at whole
    simp [Token.scanFrom, modifierAt, whole]
  | cons sign rest =>
    have marked := boundary sign (by simp)
    rw [Token.scanFrom_cons_of_not_isDigit _ (isDigit_eq_false_of_isSign marked)]
    simp [modifierAt, leadingDigits?_scanFrom]

theorem Reading.outline_append (count : List Char) (letter : Char) {tail back : List Char}
    (plain : ∀ c ∈ tail, isSign c = false) (boundary : ∀ c ∈ back.head?, isSign c = true) :
    (⟨count, letter, tail ++ back⟩ : Reading).outline =
      let facesStart := byteLength count + letter.utf8Size
      let face := FaceClause.ofTokens (Token.scanFrom facesStart tail)
      { count := Token.run? 0 count
        letter := ⟨.letter, [letter], byteLength count⟩
        faces := face.faces
        threshold := face.threshold
        modifier := modifierAt (facesStart + byteLength tail) back } := by
  have unsigned : ∀ c ∈ tail, (! isSign c) = true := fun c inside => by simp [plain c inside]
  have stop : ∀ c ∈ back.head?, (! isSign c) = false := fun c inside => by
    simp [boundary c inside]
  have other : ∀ c ∈ back.head?, c.isDigit = false ∧ c ≠ '.' := fun c inside =>
    ⟨isDigit_eq_false_of_isSign (boundary c inside), ne_dot_of_isSign (boundary c inside)⟩
  have before : (tail ++ back).takeWhile (! isSign ·) = tail := by
    rw [takeWhile_append_of_head tail stop, List.takeWhile_eq_self_iff.mpr unsigned]
  have behind : (tail ++ back).dropWhile (! isSign ·) = back := by
    rw [dropWhile_append_of_head tail stop, List.dropWhile_eq_nil_iff.mpr unsigned,
      List.nil_append]
  simp only [outline, faces, threshold, fromSign, before, behind, FaceClause.ofTokens_scanFrom,
    takeWhile_append_of_head tail fun c inside => (other c inside).1,
    dropWhile_append_of_head tail fun c inside => (other c inside).1,
    dottedRun_append_of_head _ other]

theorem Outline.ofTokens_scan (text : List Char) :
    Outline.ofTokens (Token.scan text) = (Reading.ofText text).map Reading.outline := by
  obtain ⟨taken, dropped⟩ := cut_scanFrom 0 (text.takeWhile (! isSign ·))
    (fun _ _ => isLetter_token) (fun _ => isDigit_eq_false_of_isAlpha)
  have plain (c : Char) (inside : c ∈ text.takeWhile (! isSign ·)) : isSign c = false := by
    have holds := List.mem_takeWhile_imp inside
    simpa using holds
  have boundary := head?_dropWhile_isSign text
  rw [Outline.ofTokens, ModifierClause.cut_scan]
  simp only [DieClause.ofTokens, dropped, taken, countOf_scanFrom, Reading.ofText]
  generalize text.takeWhile (! isSign ·) = die at *
  generalize text.dropWhile (! isSign ·) = back at *
  have whole := List.takeWhile_append_dropWhile (p := fun c : Char => ! c.isAlpha) (l := die)
  have letters := List.head?_dropWhile_not (! Char.isAlpha ·) die
  generalize die.takeWhile (! Char.isAlpha ·) = count at *
  generalize die.dropWhile (! Char.isAlpha ·) = rest at *
  subst whole
  cases rest with
  | nil =>
    by_cases empty : count = []
    · subst count
      rfl
    · simp only [Token.scanFrom, List.append_nil, Token.covering_scanFrom 0 empty]
      simp [Except.map]
  | cons letter tail =>
    have isLetter : letter.isAlpha = true := by simpa using letters
    have later (c : Char) (inside : c ∈ tail) : isSign c = false := plain c (by simp [inside])
    rw [Token.scanFrom_cons_of_not_isDigit _ (isDigit_eq_false_of_isAlpha isLetter)]
    by_cases digits : count.all Char.isDigit
    · have kind := (Token.Kind.ofChar_eq_letter_iff letter).mpr isLetter
      simp [digits, kind, Except.map, Reading.outline_append count letter later boundary,
        byteLength, Nat.add_assoc]
    · simp [digits]
      rfl

theorem Reading.ofText_eq_ok_iff (text : List Char) (reading : Reading) :
    ofText text = .ok reading ↔
      text = reading.text ∧ reading.count.all Char.isDigit = true ∧
        reading.letter.isAlpha = true := by
  constructor
  · intro read
    have outer := List.takeWhile_append_dropWhile (p := fun c => ! isSign c) (l := text)
    have inner := List.takeWhile_append_dropWhile (p := fun c : Char => ! c.isAlpha)
      (l := text.takeWhile (! isSign ·))
    have letters := List.head?_dropWhile_not (! Char.isAlpha ·) (text.takeWhile (! isSign ·))
    simp only [ofText] at read
    split at read
    next => simp at read
    next letter tail found =>
      split at read
      next digits =>
        obtain rfl := Except.ok.inj read
        rw [found] at inner letters
        refine ⟨?_, digits, by simpa using letters⟩
        calc text
          _ = text.takeWhile (! isSign ·) ++ text.dropWhile (! isSign ·) := outer.symm
          _ = _ ++ letter :: tail ++ text.dropWhile (! isSign ·) := by rw [inner]
          _ = Reading.text ⟨_, letter, tail ++ text.dropWhile (! isSign ·)⟩ := by
            simp [Reading.text]
      next => simp at read
  · rintro ⟨rfl, digits, letter⟩
    have unsigned : ∀ c ∈ reading.count, (! isSign c) = true := by
      intro c inside
      have digit := List.all_eq_true.mp digits c inside
      by_contra sign
      simp [isDigit_eq_false_of_isSign (by simpa using sign)] at digit
    have unlettered : ∀ c ∈ reading.count, (! c.isAlpha) = true := by
      intro c inside
      have digit := List.all_eq_true.mp digits c inside
      by_contra alpha
      simp [isDigit_eq_false_of_isAlpha (by simpa using alpha)] at digit
    have plain : isSign reading.letter = false := by
      by_contra sign
      simp [isAlpha_eq_false_of_isSign (by simpa using sign)] at letter
    simp [ofText, Reading.text, List.takeWhile_append_of_pos unsigned,
      List.dropWhile_append_of_pos unsigned, List.takeWhile_append_of_pos unlettered,
      List.dropWhile_append_of_pos unlettered, plain, letter, digits]

end DiceNotation
