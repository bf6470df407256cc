import DiceNotation.Proofs.Numerals
import DiceNotation.Token

set_option autoImplicit false

namespace DiceNotation

theorem toNat_of_isAlpha {c : Char} (letter : c.isAlpha = true) :
    'A'.toNat ≤ c.toNat ∧ c.toNat ≤ 'Z'.toNat ∨ 'a'.toNat ≤ c.toNat ∧ c.toNat ≤ 'z'.toNat := by
  delta Char.isAlpha Char.isUpper Char.isLower at letter
  simpa [UInt32.le_iff_toNat_le] using letter

theorem isDigit_eq_false_of_isAlpha {c : Char} (letter : c.isAlpha = true) : c.isDigit = false := by
  rw [Bool.eq_false_iff]
  intro digit
  have low := (Decimal.toNat_of_isDigit digit).2
  have high := toNat_of_isAlpha letter
  simp at low high
  omega

namespace Token

namespace Kind

@[simp] theorem ofChar_eq_digits_iff (c : Char) : ofChar c = .digits ↔ c.isDigit = true := by
  unfold ofChar
  repeat' split
  all_goals simp_all

@[simp] theorem ofChar_eq_letter_iff (c : Char) : ofChar c = .letter ↔ c.isAlpha = true := by
  have apart := @isDigit_eq_false_of_isAlpha c
  unfold ofChar
  repeat' split
  all_goals simp_all

@[simp] theorem ofChar_eq_dot_iff (c : Char) : ofChar c = .dot ↔ c = '.' := by
  constructor
  · unfold ofChar
    repeat' split
    all_goals simp_all
  · rintro rfl
    rfl

@[simp] theorem ofChar_eq_plus_iff (c : Char) : ofChar c = .plus ↔ c = '+' := by
  constructor
  · unfold ofChar
    repeat' split
    all_goals simp_all
  · rintro rfl
    rfl

@[simp] theorem ofChar_eq_minus_iff (c : Char) : ofChar c = .minus ↔ c = '-' := by
  constructor
  · unfold ofChar
    repeat' split
    all_goals simp_all
  · rintro rfl
    rfl

end Kind

def Fits (token : Token) : Prop :=
  if token.isDigits then token.text ≠ [] ∧ ∀ c ∈ token.text, c.isDigit = true
  else ∃ c, token.text = [c] ∧ Kind.ofChar c = token.kind

def Placed : Nat → List Token → Prop
  | _, [] => True
  | start, token :: rest => token.start = start ∧ Placed token.span.stop rest

theorem attach_of_not_isDigits {head : Token} (other : head.isDigits = false) (rest : List Token) :
    attach head rest = head :: rest := by
  cases rest <;> simp [attach, other]

theorem scanFrom_cons_of_not_isDigit (start : Nat) {c : Char} (other : c.isDigit = false)
    (rest : List Char) :
    scanFrom start (c :: rest) =
      ⟨.ofChar c, [c], start⟩ :: scanFrom (start + c.utf8Size) rest := by
  rw [scanFrom, attach_of_not_isDigits]
  simp [isDigits, other]

theorem fits_attach {head : Token} {rest : List Token} (first : head.Fits)
    (others : ∀ token ∈ rest, token.Fits) : ∀ token ∈ attach head rest, token.Fits := by
  cases rest with
  | nil => simpa [attach] using first
  | cons next rest =>
    by_cases joined : head.isDigits && next.isDigits
    · have digits := others next (by simp)
      simp only [Bool.and_eq_true] at joined
      simp only [attach, joined, Bool.and_self, if_true, List.mem_cons]
      rintro token (rfl | member)
      · simp only [Fits, joined, if_true] at first digits
        simp only [Fits, isDigits] at joined ⊢
        simp only [joined, if_true]
        refine ⟨by simp [first.1], ?_⟩
        intro c member
        rcases List.mem_append.mp member with member | member
        · exact first.2 c member
        · exact digits.2 c member
      · exact others token (by simp [member])
    · simp only [attach, joined]
      intro token member
      rcases List.mem_cons.mp member with rfl | member
      · exact first
      · exact others token member

theorem fits_of_mem_scanFrom {start : Nat} {text : List Char} :
    ∀ token ∈ scanFrom start text, token.Fits := by
  induction text generalizing start with
  | nil => simp [scanFrom]
  | cons c rest ih =>
    refine fits_attach ?_ ih
    by_cases digit : c.isDigit <;> simp [Fits, isDigits, digit]

theorem kind_of_fits {token : Token} (fits : token.Fits) :
    ∃ c ∈ token.text, token.kind = .ofChar c := by
  unfold Fits at fits
  split at fits
  next digits =>
    obtain ⟨c, member⟩ := List.exists_mem_of_ne_nil _ fits.1
    refine ⟨c, member, ?_⟩
    rw [(Kind.ofChar_eq_digits_iff c).mpr (fits.2 c member)]
    simpa [isDigits] using digits
  next =>
    obtain ⟨c, text, kind⟩ := fits
    exact ⟨c, by simp [text], kind.symm⟩

theorem kind_of_mem_scanFrom {start : Nat} {text : List Char} {token : Token}
    (member : token ∈ scanFrom start text) : ∃ c ∈ text, token.kind = .ofChar c := by
  obtain ⟨c, inside, kind⟩ := kind_of_fits (fits_of_mem_scanFrom token member)
  refine ⟨c, ?_, kind⟩
  rw [← flatMap_text_scanFrom start text]
  exact List.mem_flatMap.mpr ⟨token, member, inside⟩

theorem placed_attach {start : Nat} {head : Token} {rest : List Token}
    (at_start : head.start = start) (placed : Placed head.span.stop rest) :
    Placed start (attach head rest) := by
  cases rest with
  | nil => exact ⟨at_start, trivial⟩
  | cons next rest =>
    by_cases joined : head.isDigits && next.isDigits
    · obtain ⟨start_next, placed⟩ := placed
      simp only [attach, joined, if_true, Placed]
      refine ⟨at_start, ?_⟩
      simpa [span, start_next, Nat.add_assoc] using placed
    · simpa [attach, joined, Placed, at_start] using placed

theorem placed_scanFrom (start : Nat) (text : List Char) : Placed start (scanFrom start text) := by
  induction text generalizing start with
  | nil => trivial
  | cons c rest ih =>
    refine placed_attach rfl ?_
    simpa [span, Text.byteLength] using ih (start + c.utf8Size)

theorem stop_getLast_of_placed {start : Nat} {tokens : List Token} (placed : Placed start tokens)
    (some_token : tokens ≠ []) :
    (tokens.getLast some_token).span.stop = start + Text.byteLength (tokens.flatMap text) := by
  induction tokens generalizing start with
  | nil => contradiction
  | cons token rest ih =>
    obtain ⟨at_start, placed⟩ := placed
    cases rest with
    | nil => simp [span, at_start]
    | cons next rest =>
      have last := ih placed (by simp)
      rw [List.getLast_cons (by simp), last]
      simp [span, at_start, Nat.add_assoc]

theorem covering_scanFrom (start : Nat) {text : List Char} (some_text : text ≠ []) :
    covering (scanFrom start text) = ⟨start, start + Text.byteLength text⟩ := by
  have whole := flatMap_text_scanFrom start text
  have placed := placed_scanFrom start text
  generalize scanFrom start text = tokens at whole placed
  cases tokens with
  | nil => exact absurd whole.symm some_text
  | cons token rest =>
    have last := stop_getLast_of_placed placed (by simp)
    rw [whole] at last
    simp [covering, List.getLast?_eq_some_getLast, last, placed.1]

def Apart (front back : List Char) : Prop :=
  ∀ last ∈ front.getLast?, ∀ first ∈ back.head?, last.isDigit = true → first.isDigit = false

theorem apart_of_head {front back : List Char}
    (boundary : ∀ first ∈ back.head?, first.isDigit = false) : Apart front back :=
  fun _ _ first member _ => boundary first member

theorem head?_scanFrom_cons (start : Nat) (c : Char) (rest : List Char) :
    ∃ head tokens, scanFrom start (c :: rest) = head :: tokens ∧ head.kind = .ofChar c := by
  rw [scanFrom]
  cases scanFrom (start + c.utf8Size) rest with
  | nil => exact ⟨_, _, rfl, rfl⟩
  | cons next tokens =>
    by_cases joined : (⟨.ofChar c, [c], start⟩ : Token).isDigits && next.isDigits
    · exact ⟨_, tokens, by simp only [attach, joined, if_true]; rfl, rfl⟩
    · exact ⟨_, next :: tokens, by simp only [attach, joined]; rfl, rfl⟩

theorem attach_append {head next : Token} {rest back : List Token} :
    attach head (next :: rest ++ back) = attach head (next :: rest) ++ back := by
  by_cases joined : head.isDigits && next.isDigits <;> simp [attach, joined]

theorem scanFrom_append (start : Nat) {front back : List Char} (apart : Apart front back) :
    scanFrom start (front ++ back) =
      scanFrom start front ++ scanFrom (start + Text.byteLength front) back := by
  induction front generalizing start with
  | nil => simp [scanFrom, Text.byteLength]
  | cons c rest ih =>
    cases rest with
    | nil =>
      cases back with
      | nil => simp [scanFrom]
      | cons d back =>
        obtain ⟨next, tokens, scanned, kind⟩ := head?_scanFrom_cons (start + c.utf8Size) d back
        have other : ((⟨.ofChar c, [c], start⟩ : Token).isDigits && next.isDigits) = false := by
          have boundary := apart c (by simp) d (by simp)
          by_cases digit : c.isDigit <;> simp_all [isDigits]
        have alone : scanFrom start [c] = [⟨.ofChar c, [c], start⟩] := rfl
        rw [List.cons_append, List.nil_append, scanFrom, scanned, alone]
        simp only [attach, other, Text.byteLength, Nat.add_zero, scanned]
        rfl
    | cons d rest =>
      obtain ⟨next, tokens, scanned, -⟩ := head?_scanFrom_cons (start + c.utf8Size) d rest
      have later := ih (start + c.utf8Size) (by simpa [Apart] using apart)
      rw [List.cons_append, scanFrom, later, scanned, attach_append, ← scanned, ← scanFrom,
        Nat.add_assoc, ← Text.byteLength]

def run? (start : Nat) (run : List Char) : Option Token :=
  if run = [] then none else some ⟨.digits, run, start⟩

theorem scanFrom_run (start : Nat) {run : List Char} (digits : run.all Char.isDigit = true) :
    scanFrom start run = (run? start run).toList := by
  induction run generalizing start with
  | nil => rfl
  | cons c rest ih =>
    simp only [List.all_cons, Bool.and_eq_true] at digits
    rw [scanFrom, ih _ digits.2]
    by_cases empty : rest = [] <;> simp [run?, empty, attach, isDigits, digits.1]

end Token

end DiceNotation
