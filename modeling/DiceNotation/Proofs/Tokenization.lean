import DiceNotation.Proofs.Tokens
import Mathlib.Data.List.Chain

set_option autoImplicit false

namespace DiceNotation.Token

inductive Kind.Spells : Kind → List Char → Prop
  | digits {run : List Char} (some_digit : run ≠ []) (digits : ∀ c ∈ run, c.isDigit = true) :
      Spells .digits run
  | letter {c : Char} (alpha : c.isAlpha = true) : Spells .letter [c]
  | dot : Spells .dot ['.']
  | plus : Spells .plus ['+']
  | minus : Spells .minus ['-']
  | other {c : Char} (undigited : c.isDigit = false) (unlettered : c.isAlpha = false)
      (unmarked : c ∉ ['.', '+', '-']) : Spells .other [c]

def Joined (tokens : List Token) : Prop :=
  tokens.IsChain fun first second => first.isDigits = true → second.isDigits = false

structure Tokenizes (tokens : List Token) (code : List Char) : Prop where
  whole : tokens.flatMap text = code
  placed : ∀ front token back, tokens = front ++ token :: back →
    token.start = Text.byteLength (front.flatMap text)
  spelled : ∀ token ∈ tokens, token.kind.Spells token.text
  joined : Joined tokens

def Longest (run rest : List Char) : Prop :=
  ∀ kind more, Kind.Spells kind more → more <+: run ++ rest → more.length ≤ run.length

-- Each time the longest text that some kind spells, or else one character of no use.
inductive Lexes : Nat → List Char → List Token → Prop
  | nil {start : Nat} : Lexes start [] []
  | token {start : Nat} {kind : Kind} {run rest : List Char} {tokens : List Token}
      (named : kind ≠ .other) (spells : kind.Spells run) (longest : Longest run rest)
      (later : Lexes (start + Text.byteLength run) rest tokens) :
      Lexes start (run ++ rest) (⟨kind, run, start⟩ :: tokens)
  | skip {start : Nat} {c : Char} {rest : List Char} {tokens : List Token}
      (unmatched : ∀ kind run, kind ≠ Kind.other → kind.Spells run → ¬ run <+: c :: rest)
      (later : Lexes (start + c.utf8Size) rest tokens) :
      Lexes start (c :: rest) (⟨.other, [c], start⟩ :: tokens)

def shift (offset : Nat) (token : Token) : Token :=
  { token with start := offset + token.start }

theorem Kind.spells_ofChar (c : Char) : (ofChar c).Spells [c] := by
  unfold ofChar
  repeat' split
  next digit => exact .digits (by simp) (by simpa using digit)
  next alpha => exact .letter alpha
  next dot => exact dot ▸ .dot
  next plus => exact plus ▸ .plus
  next minus => exact minus ▸ .minus
  next digit alpha dot plus minus =>
    exact .other (by simpa using digit) (by simpa using alpha) (by simp [dot, plus, minus])

theorem Kind.ofChar_of_spells {kind : Kind} {text : List Char} {c : Char}
    (spells : kind.Spells text) (member : c ∈ text) : ofChar c = kind := by
  cases spells with
  | digits some_digit digits => simpa using digits c member
  | letter alpha => simp_all
  | dot => simp_all
  | plus => simp_all
  | minus => simp_all
  | other undigited unlettered unmarked => simp_all [ofChar]

theorem Kind.Spells.ne_nil {kind : Kind} {run : List Char} (spells : kind.Spells run) :
    run ≠ [] := by
  cases spells with
  | digits some_digit digits => exact some_digit
  | _ => simp

theorem Kind.Spells.head_mem {kind : Kind} {run rest : List Char} {c : Char}
    (spells : kind.Spells run) (found : run <+: c :: rest) : c ∈ run := by
  obtain ⟨first, more, rfl⟩ := List.exists_cons_of_ne_nil spells.ne_nil
  obtain ⟨rfl, -⟩ := List.cons_prefix_cons.mp found
  exact List.mem_cons_self

theorem apart_of_longest {kind : Kind} {run rest : List Char} (spells : kind.Spells run)
    (longest : Longest run rest) : Apart run rest := by
  intro last last_member first first_member digit
  have same := Kind.ofChar_of_spells spells (List.mem_of_getLast? last_member)
  rw [(Kind.ofChar_eq_digits_iff last).mpr digit] at same
  obtain ⟨behind, rfl⟩ := List.head?_eq_some_iff.mp first_member
  by_contra also
  have longer : Kind.digits.Spells (run ++ [first]) := by
    apply Kind.Spells.digits (by simp)
    intro c member
    rcases List.mem_append.mp member with before | new
    next => simpa [← same] using Kind.ofChar_of_spells spells before
    next => simpa [List.mem_singleton.mp new] using also
  have bound := longest .digits (run ++ [first]) longer ⟨behind, by simp⟩
  rw [List.length_append, List.length_singleton] at bound
  omega

theorem longest_of_apart {kind : Kind} {run rest : List Char} (spells : kind.Spells run)
    (apart : Apart run rest) : Longest run rest := by
  intro rival more spelled found
  have some_char := List.length_pos_iff.mpr spells.ne_nil
  cases spelled with
  -- Only digits spell more than one character, so a longer text goes on with a digit.
  | digits some_digit digits =>
    by_contra longer
    obtain ⟨extra, rfl⟩ := List.prefix_of_prefix_length_le (List.prefix_append run rest) found
      (Nat.le_of_lt (Nat.not_le.mp longer))
    cases extra with
    | nil => simp at longer
    | cons first extra =>
      obtain ⟨behind, rfl⟩ := (List.prefix_append_right_inj run).mp found
      have last := List.getLast?_eq_some_getLast spells.ne_nil
      have digit := digits (run.getLast spells.ne_nil) (by simp)
      have other := apart _ last first (by simp) digit
      simp [digits first (by simp)] at other
  | _ => exact some_char

theorem fits_iff_spells (token : Token) : token.Fits ↔ token.kind.Spells token.text := by
  obtain ⟨kind, text, start⟩ := token
  by_cases run : kind = .digits
  next =>
    subst run
    simp only [Fits, isDigits, decide_true, if_true]
    constructor
    next => exact fun fits => .digits fits.1 fits.2
    next =>
      intro spells
      cases spells with
      | digits some_digit digits => exact ⟨some_digit, digits⟩
  next =>
    simp only [Fits, isDigits, run, decide_false]
    constructor
    next =>
      rintro ⟨c, rfl, rfl⟩
      exact Kind.spells_ofChar c
    next =>
      intro spells
      have single : ∃ c, text = [c] := by cases spells <;> simp_all
      obtain ⟨c, rfl⟩ := single
      exact ⟨c, rfl, Kind.ofChar_of_spells spells (by simp)⟩

theorem placed_iff (start : Nat) (tokens : List Token) :
    Placed start tokens ↔ ∀ front token back, tokens = front ++ token :: back →
      token.start = start + Text.byteLength (front.flatMap text) := by
  induction tokens generalizing start with
  | nil => simp [Placed]
  | cons first rest ih =>
    rw [Placed, ih]
    constructor
    next =>
      rintro ⟨at_start, later⟩ front token back split
      cases front with
      | nil =>
        obtain ⟨rfl, rfl⟩ := List.cons.inj split
        exact at_start
      | cons head front =>
        obtain ⟨rfl, same⟩ := List.cons.inj split
        rw [later front token back same, span, at_start]
        simp [Nat.add_assoc]
    next =>
      intro split
      have at_start : first.start = start := split [] first rest rfl
      apply And.intro at_start
      intro front token back same
      rw [split (first :: front) token back (by simp [same]), span, at_start]
      simp [Nat.add_assoc]

theorem scanFrom_text {token : Token} (fits : token.Fits) :
    scanFrom token.start token.text = [token] := by
  obtain ⟨kind, text, start⟩ := token
  by_cases run : kind = .digits
  next =>
    subst run
    simp only [Fits, isDigits, decide_true, if_true] at fits
    rw [scanFrom_run start (List.all_eq_true.mpr fits.2), run?, if_neg fits.1]
    rfl
  next =>
    simp only [Fits, isDigits, run, decide_false] at fits
    obtain ⟨c, rfl, rfl⟩ := fits
    exact scanFrom_cons_of_not_isDigit start (by simpa using run) []

theorem isDigits_of_mem {token : Token} {c : Char} (fits : token.Fits) (member : c ∈ token.text)
    (digit : c.isDigit = true) : token.isDigits = true := by
  have kind := Kind.ofChar_of_spells ((fits_iff_spells token).mp fits) member
  simp [isDigits, ← kind, digit]

theorem apart_of_joined {token : Token} {rest : List Token}
    (fits : ∀ other ∈ token :: rest, other.Fits) (joined : Joined (token :: rest)) :
    Apart token.text (rest.flatMap text) := by
  intro last last_member first first_member digit
  cases rest with
  | nil => simp at first_member
  | cons next rest =>
    have next_fits := fits next (by simp)
    have run := isDigits_of_mem (fits token (by simp)) (List.mem_of_getLast? last_member) digit
    have parted := (List.isChain_cons_cons.mp joined).1 run
    have spells := (fits_iff_spells next).mp next_fits
    obtain ⟨c, behind, spelled⟩ := List.exists_cons_of_ne_nil spells.ne_nil
    obtain rfl : c = first := by simpa [spelled] using first_member
    by_contra second
    have also := isDigits_of_mem next_fits (by simp [spelled]) (Bool.not_eq_false _ ▸ second)
    simp [also] at parted

theorem Lexes.eq_scanFrom {start : Nat} {code : List Char} {tokens : List Token}
    (lexes : Lexes start code tokens) : tokens = scanFrom start code := by
  induction lexes with
  | nil => rfl
  | @token start kind run rest tokens named spells longest later ih =>
    have fits : Fits ⟨kind, run, start⟩ := (fits_iff_spells _).mpr spells
    rw [scanFrom_append start (apart_of_longest spells longest), scanFrom_text fits, ih]
    rfl
  | @skip start c rest tokens unmatched later ih =>
    have kind : Kind.ofChar c = .other := by
      by_contra named
      exact unmatched _ [c] named (Kind.spells_ofChar c) ⟨rest, rfl⟩
    have plain : c.isDigit = false := by
      by_contra digit
      simp_all [Kind.ofChar]
    rw [scanFrom_cons_of_not_isDigit start plain, kind, ih]

theorem lexes_of_joined {start : Nat} {tokens : List Token} (placed : Placed start tokens)
    (fits : ∀ token ∈ tokens, token.Fits) (joined : Joined tokens) :
    Lexes start (tokens.flatMap text) tokens := by
  induction tokens generalizing start with
  | nil => exact .nil
  | cons token rest ih =>
    obtain ⟨rfl, later⟩ := placed
    have behind := ih later (fun other member => fits other (by simp [member])) joined.tail
    have spells := (fits_iff_spells token).mp (fits token (by simp))
    rw [List.flatMap_cons]
    by_cases named : token.kind = .other
    next =>
      obtain ⟨kind, text, start⟩ := token
      obtain rfl : kind = .other := named
      cases spells with
      | @other c undigited unlettered unmarked =>
        refine .skip ?_ (by simpa [span, Text.byteLength] using behind)
        intro kind run matched spells found
        have first := Kind.ofChar_of_spells spells (spells.head_mem found)
        simp_all [Kind.ofChar]
    next => exact .token named spells (longest_of_apart spells (apart_of_joined fits joined)) behind

theorem joined_attach {head : Token} {rest : List Token} (joined : Joined rest) :
    Joined (attach head rest) := by
  cases rest with
  | nil => exact .singleton _
  | cons next rest =>
    by_cases runs : head.isDigits && next.isDigits
    next =>
      have digits : next.isDigits = true := (Bool.and_eq_true_iff.mp runs).2
      have parted := List.isChain_cons.mp joined
      rw [attach, if_pos runs]
      exact List.isChain_cons.mpr ⟨fun other member _ => parted.1 other member digits, parted.2⟩
    next =>
      rw [attach, if_neg runs]
      refine List.isChain_cons_cons.mpr ⟨fun first => ?_, joined⟩
      simpa [first] using runs

theorem joined_scanFrom (start : Nat) (code : List Char) : Joined (scanFrom start code) := by
  induction code generalizing start with
  | nil => exact .nil
  | cons c rest ih => exact joined_attach (ih (start + c.utf8Size))

theorem lexes_iff (tokens : List Token) (code : List Char) :
    Lexes 0 code tokens ↔ tokens = scan code := by
  constructor
  next => exact Lexes.eq_scanFrom
  next =>
    rintro rfl
    have lexes := lexes_of_joined (placed_scanFrom 0 code) fits_of_mem_scanFrom
      (joined_scanFrom 0 code)
    rwa [flatMap_text_scanFrom] at lexes

theorem tokenizes_scan (code : List Char) : Tokenizes (scan code) code where
  whole := flatMap_text_scan code
  placed front token back split := by
    rw [(placed_iff 0 _).mp (placed_scanFrom 0 code) front token back split, Nat.zero_add]
  spelled token member := (fits_iff_spells token).mp (fits_of_mem_scanFrom token member)
  joined := joined_scanFrom 0 code

theorem tokenizes_iff (tokens : List Token) (code : List Char) :
    Tokenizes tokens code ↔ tokens = scan code := by
  constructor
  next =>
    intro tokenizes
    have placed : Placed 0 tokens := by
      apply (placed_iff 0 tokens).mpr
      intro front token back split
      rw [tokenizes.placed front token back split, Nat.zero_add]
    have fits (token : Token) (member : token ∈ tokens) : token.Fits :=
      (fits_iff_spells token).mpr (tokenizes.spelled token member)
    have lexes := lexes_of_joined placed fits tokenizes.joined
    rw [tokenizes.whole] at lexes
    exact (lexes_iff tokens code).mp lexes
  next =>
    rintro rfl
    exact tokenizes_scan code

theorem map_shift_attach (offset : Nat) (head : Token) (rest : List Token) :
    (attach head rest).map (shift offset) =
      attach (head.shift offset) (rest.map (shift offset)) := by
  cases rest with
  | nil => rfl
  | cons next rest =>
    have same : ((head.shift offset).isDigits && (next.shift offset).isDigits) =
      (head.isDigits && next.isDigits) := rfl
    rw [List.map_cons, attach, attach, same]
    by_cases runs : head.isDigits && next.isDigits
    next => rw [if_pos runs, if_pos runs, List.map_cons]; rfl
    next => rw [if_neg runs, if_neg runs, List.map_cons, List.map_cons]

theorem scanFrom_add (offset start : Nat) (code : List Char) :
    scanFrom (offset + start) code = (scanFrom start code).map (shift offset) := by
  induction code generalizing start with
  | nil => rfl
  | cons c rest ih => rw [scanFrom, scanFrom, map_shift_attach, Nat.add_assoc, ih, shift]

theorem scan_is_only_tokenization (code : String) :
    (∀ tokens, Tokenizes tokens code.toList ↔ tokens = scan code.toList) ∧
      (∀ tokens, Lexes 0 code.toList tokens ↔ tokens = scan code.toList) ∧
      ∀ more : String, Apart code.toList more.toList →
        scan (code ++ more).toList =
          scan code.toList ++ (scan more.toList).map (shift code.utf8ByteSize) := by
  refine ⟨fun tokens => tokenizes_iff tokens code.toList,
    fun tokens => lexes_iff tokens code.toList, ?_⟩
  intro more apart
  have size : Text.byteLength code.toList = code.utf8ByteSize := by
    rw [Text.byteLength_eq_utf8ByteSize, String.ofList_toList]
  have behind : scanFrom code.utf8ByteSize more.toList =
      (scan more.toList).map (shift code.utf8ByteSize) := scanFrom_add _ 0 more.toList
  rw [String.toList_append, scan, scanFrom_append 0 apart, Nat.zero_add, size, behind]
  rfl

theorem accented_text_is_scanned_in_two_parts :
    Apart "é10".toList "d06+".toList ∧
      scan ("é10" ++ "d06+").toList =
        [⟨.other, ['é'], 0⟩, ⟨.digits, ['1', '0'], 2⟩, ⟨.letter, ['d'], 4⟩,
          ⟨.digits, ['0', '6'], 5⟩, ⟨.plus, ['+'], 7⟩] := by
  have apart : Apart "é10".toList "d06+".toList := apart_of_head (by simp)
  apply And.intro apart
  rw [(scan_is_only_tokenization "é10").2.2 "d06+" apart]
  decide

end DiceNotation.Token
