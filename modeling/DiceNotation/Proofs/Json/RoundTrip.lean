import DiceNotation.Json.Parse
import DiceNotation.Json.Render
import DiceNotation.Proofs.Reading

set_option autoImplicit false

namespace DiceNotation.Json

theorem readString_of_unescape? {escaped c : Char} (known : unescape? escaped = some c)
    (rest : List Char) :
    readString ('\\' :: escaped :: rest) =
      (readString rest).map fun (pieces, rest) => (.character c :: pieces, rest) := by
  have short : escaped ≠ 'u' := by
    rintro rfl
    contradiction
  rw [readString]
  · rw [known]
    cases readString rest <;> rfl
  · intro a b c d rest same
    exact absurd same short

theorem value?_hexDigits {unit : Nat} (control : unit < 32) :
    Hexadecimal.value? (hexDigits unit) = some unit := by
  have each : ∀ unit < 32, Hexadecimal.value? (hexDigits unit) = some unit := by decide
  exact each unit control

theorem readString_of_control {c : Char} (control : c < ' ') (rest : List Char) :
    readString ('\\' :: 'u' :: hexDigits c.toNat ++ rest) =
      (readString rest).map fun (pieces, rest) => (.character c :: pieces, rest) := by
  have small : c.toNat < 32 := control
  have unit : Piece.ofUnit c.toNat = .character c := by
    rw [Piece.ofUnit, if_neg (by omega), Char.ofNat_toNat]
  have hex := value?_hexDigits small
  simp only [hexDigits, List.map_cons, List.map_nil] at hex ⊢
  simp only [List.cons_append, List.nil_append, readString, hex, Option.bind_eq_bind,
    Option.bind_some, unit]
  cases readString rest <;> rfl

theorem readString_of_plain {c : Char} (quote : c ≠ '"') (slash : c ≠ '\\') (visible : ¬ c < ' ')
    (rest : List Char) :
    readString (c :: rest) =
      (readString rest).map fun (pieces, rest) => (.character c :: pieces, rest) := by
  rw [readString]
  · rw [if_neg visible]
    cases readString rest <;> rfl
  · exact quote
  · intro _ _ _ _ _ same
    exact absurd same slash
  · intro _ _ same
    exact absurd same slash

theorem readString_escape (c : Char) (rest : List Char) :
    readString (escape c ++ rest) =
      (readString rest).map fun (pieces, rest) => (.character c :: pieces, rest) := by
  unfold escape
  split_ifs with quote slash back feed line ret tab control
  · subst quote
    exact readString_of_unescape? rfl rest
  · subst slash
    exact readString_of_unescape? rfl rest
  · subst back
    exact readString_of_unescape? rfl rest
  · subst feed
    exact readString_of_unescape? rfl rest
  · subst line
    exact readString_of_unescape? rfl rest
  · subst ret
    exact readString_of_unescape? rfl rest
  · subst tab
    exact readString_of_unescape? rfl rest
  · exact readString_of_control control rest
  · exact readString_of_plain quote slash control rest

theorem readString_pieces (text rest : List Char) :
    readString ((pieces text).flatMap Piece.render ++ '"' :: rest) = some (pieces text, rest) := by
  induction text with
  | nil => rfl
  | cons c text ih =>
    rw [pieces, List.map_cons, List.flatMap_cons, List.append_assoc, Piece.render,
      readString_escape, ← pieces, ih]
    rfl

-- What may stand behind a value: nothing of it goes on with a number.
def Ends (rest : List Char) : Prop :=
  ∀ c ∈ rest.head?, c ∈ [',', ']', '\x7d']

theorem Ends.head?_isDigit {rest : List Char} (ends : Ends rest) :
    ∀ c ∈ rest.head?, c.isDigit = false := by
  intro c first
  have marks : ∀ c ∈ [',', ']', '\x7d'], c.isDigit = false := by simp
  exact marks c (ends c first)

theorem readDigits_run {run rest : List Char} (digits : ∀ c ∈ run, c.isDigit = true)
    (some_digit : run ≠ []) (boundary : ∀ c ∈ rest.head?, c.isDigit = false) :
    readDigits (run ++ rest) = some (run, rest) := by
  obtain ⟨first, others, rfl⟩ := List.exists_cons_of_ne_nil some_digit
  rw [readDigits, takeWhile_run digits boundary, dropWhile_run digits boundary]

theorem readWhole_digits (n : Nat) {rest : List Char}
    (boundary : ∀ c ∈ rest.head?, c.isDigit = false) :
    readWhole (Decimal.digits n ++ rest) = some (Decimal.digits n, rest) := by
  have led : ¬ ((Decimal.digits n).head? = some '0' ∧ (Decimal.digits n).length ≠ 1) := by
    rintro ⟨zero, long⟩
    rcases Nat.eq_zero_or_pos n with rfl | positive
    · exact long rfl
    · exact Decimal.head?_digits_ne_zero positive zero
  rw [readWhole, readDigits_run (fun _ => Decimal.isDigit_of_mem_digits)
    (Decimal.digits_ne_nil n) boundary]
  exact if_neg led

theorem readFraction_of_ends {rest : List Char} (ends : Ends rest) :
    readFraction rest = some ([], rest) := by
  cases rest with
  | nil => rfl
  | cons c rest =>
    have other : c ≠ '.' := by
      rintro rfl
      simpa using ends '.' (by simp)
    rw [readFraction]
    intro _ same
    exact absurd (List.cons.inj same).1 other

theorem readExponent_of_ends {rest : List Char} (ends : Ends rest) :
    readExponent rest = some ([], rest) := by
  cases rest with
  | nil => rfl
  | cons c rest =>
    have marks : ∀ c ∈ [',', ']', '\x7d'], ¬ (c = 'e' ∨ c = 'E') := by simp
    simp only [readExponent, if_neg (marks c (ends c (by simp)))]

def Starts (c : Char) : Prop :=
  c = '-' ∨ c.isDigit = true

theorem exists_digits (n : Nat) :
    ∃ c rest, Decimal.digits n = c :: rest ∧ c.isDigit = true ∧ c ≠ '-' := by
  obtain ⟨c, rest, shown⟩ := List.exists_cons_of_ne_nil (Decimal.digits_ne_nil n)
  have digit : c.isDigit = true := Decimal.isDigit_of_mem_digits (n := n) (by simp [shown])
  refine ⟨c, rest, shown, digit, ?_⟩
  rintro rfl
  contradiction

theorem exists_signed (value : Int) :
    ∃ c rest, Decimal.signed value = c :: rest ∧ Starts c := by
  cases value with
  | ofNat n =>
    obtain ⟨c, rest, shown, digit, -⟩ := exists_digits n
    exact ⟨c, rest, shown, .inr digit⟩
  | negSucc n => exact ⟨_, _, rfl, .inl rfl⟩

theorem Starts.ne {c : Char} (starts : Starts c) :
    ∀ other ∈ ['n', 't', 'f', '"', '[', ']', '\x7b', ' ', '\n', '\r', '\t'], c ≠ other := by
  have marks : ∀ other ∈ ['n', 't', 'f', '"', '[', ']', '\x7b', ' ', '\n', '\r', '\t'],
      other ≠ '-' ∧ other.isDigit = false := by simp
  rintro other member rfl
  rcases starts with rfl | digit
  · exact (marks _ member).1 rfl
  · simp [(marks c member).2] at digit

theorem Starts.isBlank {c : Char} (starts : Starts c) : isBlank c = false := by
  simp [Json.isBlank, starts.ne]

theorem readNumber_digits (n : Nat) {rest : List Char} (ends : Ends rest) :
    readNumber (Decimal.digits n ++ rest) = some (Decimal.digits n, rest) := by
  have read := readWhole_digits n ends.head?_isDigit
  obtain ⟨c, others, shown, -, unsigned⟩ := exists_digits n
  rw [shown, List.cons_append] at read ⊢
  simp [readNumber, unsigned, read, readFraction_of_ends ends, readExponent_of_ends ends]

theorem readNumber_signed (value : Int) {rest : List Char} (ends : Ends rest) :
    readNumber (Decimal.signed value ++ rest) = some (Decimal.signed value, rest) := by
  cases value with
  | ofNat n => exact readNumber_digits n ends
  | negSucc n =>
    simp [Decimal.signed, readNumber, readWhole_digits _ ends.head?_isDigit,
      readFraction_of_ends ends, readExponent_of_ends ends]

theorem skipBlanks_cons {c : Char} (visible : isBlank c = false) (rest : List Char) :
    skipBlanks (c :: rest) = c :: rest := by
  simp [skipBlanks, visible]

inductive Written : Value → Prop
  | bool (value : Bool) : Written (.bool value)
  | number (value : Int) : Written (.ofInt value)
  | text (text : List Char) : Written (.ofText text)
  | array {items : List Value} (each : ∀ item ∈ items, Written item) : Written (.array items)
  | record {fields : List (String × Value)} (each : ∀ field ∈ fields, Written field.2) :
      Written (.record fields)

theorem exists_render {value : Value} (written : Written value) :
    ∃ c rest, value.render = c :: rest ∧ isBlank c = false ∧ c ≠ ']' := by
  cases written with
  | bool value => cases value <;> exact ⟨_, _, rfl, rfl, by decide⟩
  | number value =>
    obtain ⟨c, rest, shown, starts⟩ := exists_signed value
    exact ⟨c, rest, shown, starts.isBlank, starts.ne ']' (by simp)⟩
  | text text => exact ⟨_, _, rfl, rfl, by decide⟩
  | array each => exact ⟨_, _, rfl, rfl, by decide⟩
  | record each => exact ⟨_, _, rfl, rfl, by decide⟩

theorem readValue_of_starts (fuel : Nat) {c : Char} (starts : Starts c) (rest : List Char) :
    readValue (fuel + 1) (c :: rest) =
      (readNumber (c :: rest)).map fun (literal, rest) => (.number literal, rest) := by
  have apart := starts.ne
  simp only [List.forall_mem_cons] at apart
  rw [readValue, skipBlanks_cons starts.isBlank]
  split
  all_goals simp_all

def Reads (value : Value) : Prop :=
  ∀ (fuel : Nat) (rest : List Char), value.render.length < fuel → Ends rest →
    readValue fuel (value.render ++ rest) = some (value, rest)

theorem reads_of_succ {value : Value}
    (read : ∀ (fuel : Nat) (rest : List Char), value.render.length ≤ fuel → Ends rest →
      readValue (fuel + 1) (value.render ++ rest) = some (value, rest)) : Reads value := by
  intro fuel rest enough ends
  obtain ⟨fuel, rfl⟩ := Nat.exists_eq_add_one_of_ne_zero (Nat.ne_zero_of_lt enough)
  exact read fuel rest (Nat.le_of_lt_succ enough) ends

theorem ends_cons {c : Char} (mark : c ∈ [',', ']', '\x7d']) (rest : List Char) :
    Ends (c :: rest) := by
  simpa [Ends] using mark

theorem reads_bool (value : Bool) : Reads (.bool value) := by
  refine reads_of_succ ?_
  intro fuel rest _ _
  cases value <;> simp [Value.render, readValue, skipBlanks_cons, isBlank]

theorem reads_number (value : Int) : Reads (.ofInt value) := by
  refine reads_of_succ ?_
  intro fuel rest _ ends
  have read := readNumber_signed value ends
  obtain ⟨c, others, shown, starts⟩ := exists_signed value
  simp only [Value.ofInt, Value.render, shown, List.cons_append] at read ⊢
  rw [readValue_of_starts fuel starts, read]
  rfl

theorem renderString_append (text rest : List Char) :
    renderString (pieces text) ++ rest =
      '"' :: ((pieces text).flatMap Piece.render ++ '"' :: rest) := by
  simp [renderString]

theorem reads_text (text : List Char) : Reads (.ofText text) := by
  refine reads_of_succ ?_
  intro fuel rest _ _
  rw [Value.ofText, Value.render, renderString_append, readValue, skipBlanks_cons (by rfl)]
  simp only [readString_pieces, Option.map_some]

theorem renderItems_cons_cons (item next : Value) (items : List Value) :
    renderItems (item :: next :: items) = item.render ++ ',' :: renderItems (next :: items) := by
  rw [renderItems]
  exact fun same => List.cons_ne_nil _ _ same

theorem renderMembers_cons_cons (key : List Piece) (value : Value) (next : List Piece × Value)
    (members : List (List Piece × Value)) :
    renderMembers ((key, value) :: next :: members) =
      renderString key ++ ':' :: value.render ++ ',' :: renderMembers (next :: members) := by
  rw [renderMembers]
  exact fun same => List.cons_ne_nil _ _ same

theorem readItems_render {items : List Value} (some_item : items ≠ [])
    (each : ∀ item ∈ items, Reads item) (fuel : Nat) (rest : List Char)
    (enough : (renderItems items).length + 1 < fuel) :
    readItems fuel (renderItems items ++ ']' :: rest) = some (items, rest) := by
  induction items generalizing fuel with
  | nil => contradiction
  | cons item items ih =>
    obtain ⟨fuel, rfl⟩ := Nat.exists_eq_add_one_of_ne_zero (Nat.ne_zero_of_lt enough)
    cases items with
    | nil =>
      have read := each item (by simp) fuel (']' :: rest) (by simp [renderItems] at enough; omega)
        (ends_cons (by decide) rest)
      simp [readItems, renderItems, read, skipBlanks_cons, isBlank]
    | cons next items =>
      simp only [renderItems_cons_cons, List.length_append, List.length_cons] at enough
      have read := each item (by simp) fuel (',' :: (renderItems (next :: items) ++ ']' :: rest))
        (by omega) (ends_cons (by decide) _)
      have later := ih (by simp) (fun other member => each other (by simp [member])) fuel (by omega)
      simp [readItems, renderItems_cons_cons, read, skipBlanks_cons, isBlank, later]

theorem exists_renderItems {item : Value} (written : Written item) (items : List Value) :
    ∃ c rest, renderItems (item :: items) = c :: rest ∧ isBlank c = false ∧ c ≠ ']' := by
  obtain ⟨c, rest, shown, visible, other⟩ := exists_render written
  cases items with
  | nil => exact ⟨c, rest, by rw [renderItems, shown], visible, other⟩
  | cons next items =>
    refine ⟨c, rest ++ ',' :: renderItems (next :: items), ?_, visible, other⟩
    rw [renderItems_cons_cons, shown, List.cons_append]

theorem reads_array {items : List Value} (each : ∀ item ∈ items, Written item)
    (read : ∀ item ∈ items, Reads item) : Reads (.array items) := by
  refine reads_of_succ ?_
  intro fuel rest enough _
  cases items with
  | nil => simp [Value.render, renderItems, readValue, skipBlanks_cons, isBlank]
  | cons item items =>
    have inner := readItems_render (by simp) read fuel rest
      (by simp [Value.render] at enough; omega)
    obtain ⟨c, others, shown, visible, other⟩ :=
      exists_renderItems (each item (by simp)) items
    rw [shown, List.cons_append] at inner
    simp only [Value.render, shown, List.cons_append, List.append_assoc, List.nil_append]
    rw [readValue, skipBlanks_cons (by rfl)]
    simp only [skipBlanks_cons visible]
    split
    next same => exact absurd (List.cons.inj same).1 other
    next => rw [inner, Option.map_some]

theorem readMembers_render {members : List (List Piece × Value)} (some_member : members ≠ [])
    (each : ∀ member ∈ members, (∃ text, member.1 = pieces text) ∧ Reads member.2) (fuel : Nat)
    (rest : List Char) (enough : (renderMembers members).length + 1 < fuel) :
    readMembers fuel (renderMembers members ++ '\x7d' :: rest) = some (members, rest) := by
  induction members generalizing fuel with
  | nil => contradiction
  | cons member members ih =>
    obtain ⟨fuel, rfl⟩ := Nat.exists_eq_add_one_of_ne_zero (Nat.ne_zero_of_lt enough)
    obtain ⟨key, value⟩ := member
    obtain ⟨⟨text, rfl⟩, reads : Reads value⟩ := each (key, value) (by simp)
    cases members with
    | nil =>
      simp only [renderMembers, List.length_append, List.length_cons] at enough
      have read := reads fuel ('\x7d' :: rest) (by omega) (ends_cons (by decide) rest)
      simp [readMembers, renderMembers, renderString_append, skipBlanks_cons, isBlank,
        readString_pieces, read]
    | cons next members =>
      simp only [renderMembers_cons_cons, List.length_append, List.length_cons] at enough
      have read := reads fuel (',' :: (renderMembers (next :: members) ++ '\x7d' :: rest))
        (by omega) (ends_cons (by decide) _)
      have later := ih (by simp) (fun other member => each other (by simp [member])) fuel (by omega)
      simp [readMembers, renderMembers_cons_cons, renderString_append, skipBlanks_cons, isBlank,
        readString_pieces, read, later]

theorem exists_renderMembers (member : List Piece × Value)
    (members : List (List Piece × Value)) :
    ∃ rest, renderMembers (member :: members) = '"' :: rest := by
  obtain ⟨key, value⟩ := member
  cases members with
  | nil => exact ⟨_, rfl⟩
  | cons next members => exact ⟨_, by rw [renderMembers_cons_cons]; rfl⟩

theorem reads_object {members : List (List Piece × Value)}
    (each : ∀ member ∈ members, (∃ text, member.1 = pieces text) ∧ Reads member.2) :
    Reads (.object members) := by
  refine reads_of_succ ?_
  intro fuel rest enough _
  cases members with
  | nil => simp [Value.render, renderMembers, readValue, skipBlanks_cons, isBlank]
  | cons member members =>
    have inner := readMembers_render (by simp) each fuel rest
      (by simp [Value.render] at enough; omega)
    obtain ⟨others, shown⟩ := exists_renderMembers member members
    rw [shown, List.cons_append] at inner
    simp only [Value.render, shown, List.cons_append, List.append_assoc, List.nil_append]
    rw [readValue, skipBlanks_cons (by rfl)]
    simp [skipBlanks_cons, isBlank, inner]

theorem forall_mem_record (holds : Value → Prop) {fields : List (String × Value)}
    (each : ∀ field ∈ fields, holds field.2) :
    ∀ member ∈ fields.map fun field => (pieces field.1.toList, field.2),
      (∃ text, member.1 = pieces text) ∧ holds member.2 := by
  intro member inside
  obtain ⟨field, inFields, rfl⟩ := List.mem_map.mp inside
  exact ⟨⟨_, rfl⟩, each field inFields⟩

theorem reads_of_written {value : Value} (written : Written value) : Reads value := by
  induction written with
  | bool value => exact reads_bool value
  | number value => exact reads_number value
  | text text => exact reads_text text
  | array each ih => exact reads_array each ih
  | record each ih => exact reads_object (forall_mem_record Reads ih)

theorem parse?_render {value : Value} (written : Written value) :
    parse? value.render = some value := by
  have read := reads_of_written written (value.render.length + 1) [] (by omega) (by simp [Ends])
  rw [List.append_nil] at read
  rw [parse?, read]
  rfl

end DiceNotation.Json
