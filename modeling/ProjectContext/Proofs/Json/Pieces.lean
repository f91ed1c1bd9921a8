import Mathlib.Data.Option.Basic
import ProjectContext.Proofs.Json.RoundTrip
import ProjectContext.Proofs.Pattern.Tracking

/-!
# Texts taken apart

What the reader accepts as a value is a piece of the text that it reads in the same way wherever the
piece stands (`Piece`, `readValue_splits`). So the text between the brackets of an object is made of
the texts of its members, with commas between them, and the value of each member is the one that its
own text has alone (`read_eq_object`).
-/

namespace ProjectContext.Json

open Value Pattern

variable {text rest piece : List Char}

/-! ## Texts -/

theorem readParts_takes {parts : List TextPart} (read : readParts text = some (parts, rest)) :
    ∃ piece, text = piece ++ rest ∧ ∀ after, readParts (piece ++ after) = some (parts, after) := by
  fun_induction readParts text generalizing parts with
  | case1 => cases read
  | case2 later =>
    cases read
    exact ⟨['"'], rfl, fun after => rfl⟩
  | case3 a b c d later ih =>
    simp only [Option.bind_eq_bind, Option.bind_eq_some_iff, Option.pure_def,
      Option.some.injEq, Prod.mk.injEq] at read
    obtain ⟨n, number, ⟨parts, last⟩, others, rfl, rfl⟩ := read
    obtain ⟨piece, rfl, takes⟩ := ih others
    refine ⟨'\\' :: 'u' :: a :: b :: c :: d :: piece, rfl, fun after => ?_⟩
    simp only [List.cons_append]
    rw [readParts_numbered number, takes]
    rfl
  | case4 e later unnumbered ih =>
    simp only [Option.bind_eq_bind, Option.bind_eq_some_iff, Option.pure_def,
      Option.some.injEq, Prod.mk.injEq] at read
    obtain ⟨c, escape, ⟨parts, last⟩, others, rfl, rfl⟩ := read
    obtain ⟨piece, rfl, takes⟩ := ih others
    refine ⟨'\\' :: e :: piece, rfl, fun after => ?_⟩
    simp only [List.cons_append]
    rw [readParts_escaped escape, takes]
    rfl
  | case5 => simp at read
  | case6 c later quote numbered escaped plain ih =>
    simp only [Option.bind_eq_bind, Option.bind_eq_some_iff, Option.pure_def,
      Option.some.injEq, Prod.mk.injEq] at read
    obtain ⟨⟨parts, last⟩, others, rfl, rfl⟩ := read
    obtain ⟨piece, rfl, takes⟩ := ih others
    refine ⟨c :: piece, rfl, fun after => ?_⟩
    simp only [Bool.or_eq_true, decide_eq_true_eq, beq_iff_eq, not_or] at plain
    rw [List.cons_append, readParts_plain quote plain.2 plain.1, takes]
    rfl

theorem readText_takes {s : Option String} (read : readText text = some (s, rest)) :
    ∃ piece, text = piece ++ rest ∧ ∀ after, readText (piece ++ after) = some (s, after) := by
  unfold readText at read
  simp only [Option.bind_eq_bind, Option.bind_eq_some_iff, Option.pure_def, Option.some.injEq,
    Prod.mk.injEq] at read
  obtain ⟨⟨parts, last⟩, spelled, rfl, rfl⟩ := read
  obtain ⟨piece, same, takes⟩ := readParts_takes spelled
  refine ⟨piece, same, fun after => ?_⟩
  rw [readText, takes]
  rfl

/-! ## Numbers -/

/-- The characters that a number can go on with. -/
def goesOn (c : Char) : Bool := isDigit c || c == '.' || c == 'e' || c == 'E'

theorem readDigits_eq (text : List Char) : readDigits text = run? isDigit text := by
  rw [readDigits, List.span_eq_takeWhile_dropWhile]
  cases text with
  | nil => rfl
  | cons c text =>
    cases digit : isDigit c <;> simp [run?, digit]

theorem readDigits_takes {digits : List Char} (read : readDigits text = some (digits, rest)) :
    text = digits ++ rest ∧ IsRun isDigit digits ∧
      ∀ after, Stops isDigit after → readDigits (digits ++ after) = some (digits, after) := by
  rw [readDigits_eq, run?_eq_some_iff] at read
  refine ⟨read.1, read.2.1, fun after stops => ?_⟩
  rw [readDigits_eq, run?_eq_some_iff]
  exact ⟨rfl, read.2.1, stops⟩

theorem readInteger_takes {integer : List Char} (read : readInteger text = some (integer, rest)) :
    text = integer ++ rest ∧ IsRun isDigit integer ∧
      ∀ after, Stops isDigit after → readInteger (integer ++ after) = some (integer, after) := by
  unfold readInteger at read
  split at read
  next later =>
    cases read
    exact ⟨rfl, by decide, fun after _ => rfl⟩
  next unzero =>
    obtain ⟨rfl, run, takes⟩ := readDigits_takes read
    refine ⟨rfl, run, fun after stops => ?_⟩
    rw [readInteger]
    · exact takes after stops
    · intro later same
      obtain ⟨c, digits, rfl⟩ := List.exists_cons_of_ne_nil run.1
      cases same
      exact unzero _ rfl

theorem readFraction_takes {fraction : List Char}
    (read : readFraction text = some (fraction, rest)) :
    text = fraction ++ rest ∧ ∀ after, Stops isDigit after → after.head? ≠ some '.' →
      readFraction (fraction ++ after) = some (fraction, after) ∧
        Stops isDigit (fraction ++ after) := by
  unfold readFraction at read
  split at read
  next later =>
    simp only [Option.bind_eq_bind, Option.bind_eq_some_iff, Option.pure_def, Option.some.injEq,
      Prod.mk.injEq] at read
    obtain ⟨⟨digits, last⟩, digital, rfl, rfl⟩ := read
    obtain ⟨rfl, run, takes⟩ := readDigits_takes digital
    refine ⟨rfl, fun after stops _ => ⟨?_, ?_⟩⟩
    · rw [List.cons_append, readFraction, takes after stops]
      rfl
    · rintro c ⟨⟩
      rfl
  next pointless =>
    cases read
    refine ⟨rfl, fun after stops point => ⟨?_, stops⟩⟩
    rw [List.nil_append, readFraction]
    rintro later rfl
    exact point rfl

theorem of_goesOn {c : Char} (stops : goesOn c = false) :
    isDigit c = false ∧ c ≠ '.' ∧ c ≠ 'e' ∧ c ≠ 'E' := by
  simp only [goesOn, Bool.or_eq_false_iff, beq_eq_false_iff_ne] at stops
  exact ⟨stops.1.1.1, stops.1.1.2, stops.1.2, stops.2⟩

theorem stops_of_goesOn (stops : Stops goesOn rest) : Stops isDigit rest ∧ rest.head? ≠ some '.' :=
  ⟨fun c first => (of_goesOn (stops c first)).1, fun point => (of_goesOn (stops '.' point)).2.1 rfl⟩

theorem readExponent_stopped (stops : Stops goesOn text) : readExponent text = some ([], text) := by
  cases text with
  | nil => rfl
  | cons c later =>
    obtain ⟨-, -, lower, upper⟩ := of_goesOn (stops c rfl)
    simp [readExponent, lower, upper]

theorem readExponent_takes {exponent : List Char}
    (read : readExponent text = some (exponent, rest)) :
    text = exponent ++ rest ∧ ∀ after, Stops goesOn after →
      readExponent (exponent ++ after) = some (exponent, after) ∧
        Stops isDigit (exponent ++ after) ∧ (exponent ++ after).head? ≠ some '.' := by
  unfold readExponent at read
  split at read
  next =>
    cases read
    exact ⟨rfl, fun after stops => ⟨readExponent_stopped stops, stops_of_goesOn stops⟩⟩
  next c later =>
    split at read
    next marked =>
      have begins (tail : List Char) :
          Stops isDigit (c :: tail) ∧ (c :: tail).head? ≠ some '.' := by
        simp only [Bool.or_eq_true, beq_iff_eq] at marked
        rcases marked with rfl | rfl <;> exact ⟨by rintro _ ⟨⟩; rfl, by simp⟩
      split at read
      all_goals
        simp only [Option.bind_eq_bind, Option.bind_eq_some_iff, Option.pure_def, Option.some.injEq,
          Prod.mk.injEq] at read
        obtain ⟨⟨digits, last⟩, spelled, rfl, rfl⟩ := read
        obtain ⟨rfl, run, takes⟩ := readDigits_takes spelled
        refine ⟨rfl, fun after stops => ⟨?_, begins _⟩⟩
        have digital := takes after (stops_of_goesOn stops).1
      · simp [readExponent, marked, digital]
      · simp [readExponent, marked, digital]
      · next plus minus =>
        -- Without a sign the digits stand right behind the mark, and none of them is a sign.
        obtain ⟨d, digits, rfl⟩ := List.exists_cons_of_ne_nil run.1
        simp only [List.cons_append] at plus minus digital ⊢
        rw [readExponent, if_pos marked]
        · simp [digital]
        · exact fun _ same => plus _ (by rw [(List.cons.inj same).1])
        · exact fun _ same => minus _ (by rw [(List.cons.inj same).1])
    next unmarked =>
      cases read
      exact ⟨rfl, fun after stops => ⟨readExponent_stopped stops, stops_of_goesOn stops⟩⟩

def readUnsigned (text : List Char) : Option (List Char × List Char) := do
  let (integer, rest) ← readInteger text
  let (fraction, rest) ← readFraction rest
  let (exponent, rest) ← readExponent rest
  return (integer ++ fraction ++ exponent, rest)

theorem readNumber_signed (text : List Char) :
    readNumber ('-' :: text) = (readUnsigned text).map fun r => ('-' :: r.1, r.2) := by
  simp only [readNumber, readUnsigned, Option.bind_eq_bind, Option.map_bind, Function.comp_def]
  rfl

theorem readNumber_unsigned (signless : ∀ later, text ≠ '-' :: later) :
    readNumber text = readUnsigned text := by
  unfold readNumber
  split
  next sign unsigned same =>
    split at same
    next later => exact (signless later rfl).elim
    next =>
      cases same
      rfl

theorem readUnsigned_takes {literal : List Char} (read : readUnsigned text = some (literal, rest)) :
    text = literal ++ rest ∧ (∃ c later, literal = c :: later ∧ isDigit c) ∧
      ∀ after, Stops goesOn after → readUnsigned (literal ++ after) = some (literal, after) := by
  simp only [readUnsigned, Option.bind_eq_bind, Option.bind_eq_some_iff, Option.pure_def,
    Option.some.injEq, Prod.mk.injEq, Prod.exists] at read
  obtain ⟨integer, middle, first, fraction, last, second, exponent, _, third, rfl, rfl⟩ := read
  obtain ⟨rfl, run, integral⟩ := readInteger_takes first
  obtain ⟨rfl, fractional⟩ := readFraction_takes second
  obtain ⟨rfl, exponential⟩ := readExponent_takes third
  refine ⟨by simp, ?_, fun after stops => ?_⟩
  · obtain ⟨c, digits, rfl⟩ := List.exists_cons_of_ne_nil run.1
    exact ⟨c, _, rfl, run.2 c List.mem_cons_self⟩
  · obtain ⟨third, digitless, pointless⟩ := exponential after stops
    obtain ⟨second, stopped⟩ := fractional _ digitless pointless
    have first := integral _ stopped
    simp only [List.append_assoc] at first ⊢
    simp [readUnsigned, first, second, third]

theorem readNumber_takes {literal : List Char} (read : readNumber text = some (literal, rest)) :
    text = literal ++ rest ∧ (∃ c later, literal = c :: later ∧ (c = '-' ∨ isDigit c)) ∧
      ∀ after, Stops goesOn after → readNumber (literal ++ after) = some (literal, after) := by
  by_cases signed : ∃ later, text = '-' :: later
  · obtain ⟨later, rfl⟩ := signed
    rw [readNumber_signed, Option.map_eq_some_iff] at read
    obtain ⟨⟨digits, last⟩, unsigned, same⟩ := read
    obtain ⟨rfl, rfl⟩ := Prod.mk.inj same
    obtain ⟨rfl, -, takes⟩ := readUnsigned_takes unsigned
    refine ⟨rfl, ⟨'-', digits, rfl, .inl rfl⟩, fun after stops => ?_⟩
    rw [List.cons_append, readNumber_signed, takes after stops]
    rfl
  · rw [readNumber_unsigned fun later same => signed ⟨later, same⟩] at read
    obtain ⟨rfl, ⟨c, later, rfl, digit⟩, takes⟩ := readUnsigned_takes read
    refine ⟨rfl, ⟨c, later, rfl, .inr digit⟩, fun after stops => ?_⟩
    rw [readNumber_unsigned, takes after stops]
    intro others same
    exact signed ⟨_, by rw [List.cons_append, (List.cons.inj same).1]⟩

/-! ## Values -/

theorem blanks_split (text : List Char) :
    ∃ blanks, text = blanks ++ skipBlanks text ∧ ∀ c ∈ blanks, isBlank c :=
  ⟨text.takeWhile isBlank, List.takeWhile_append_dropWhile.symm, fun _ => List.mem_takeWhile_imp⟩

theorem skipBlanks_blanks {blanks : List Char} (blank : ∀ c ∈ blanks, isBlank c)
    (text : List Char) : skipBlanks (blanks ++ text) = skipBlanks text :=
  List.dropWhile_append_of_pos blank

theorem stops_blanks {blanks : List Char} (blank : ∀ c ∈ blanks, isBlank c) :
    Stops goesOn blanks := by
  intro c first
  have member := blank c (List.mem_of_mem_head? first)
  simp only [isBlank, Bool.or_eq_true, beq_iff_eq] at member
  rcases member with ((rfl | rfl) | rfl) | rfl <;> rfl

theorem stops_mark {blanks : List Char} (blank : ∀ d ∈ blanks, isBlank d) {c : Char}
    (ends : goesOn c = false) (after : List Char) : Stops goesOn (blanks ++ c :: after) := by
  cases blanks with
  | nil =>
    rintro _ ⟨⟩
    exact ends
  | cons d blanks =>
    rintro _ ⟨⟩
    exact stops_blanks blank d rfl

theorem skipBlanks_mark {blanks : List Char} (blank : ∀ d ∈ blanks, isBlank d) {c : Char}
    (solid : isBlank c = false) (after : List Char) :
    skipBlanks (blanks ++ c :: after) = c :: after := by
  rw [skipBlanks_blanks blank, skipBlanks_of_solid solid]

/-! ## Pieces -/

/-- A piece of text that the reader takes off the front of whatever a number could not go on with,
given as many steps as the piece has characters. -/
structure Piece {α : Type*} (read : Nat → List Char → Option (α × List Char)) (piece : List Char)
    (a : α) : Prop where
  solid : ∃ c later, piece = c :: later ∧ isBlank c = false
  takes : ∀ fuel after, piece.length ≤ fuel → Stops goesOn after →
    read fuel (piece ++ after) = some (a, after)

theorem Piece.skipBlanks {α : Type*} {read : Nat → List Char → Option (α × List Char)} {a : α}
    (here : Piece read piece a) (after : List Char) :
    skipBlanks (piece ++ after) = piece ++ after := by
  obtain ⟨⟨c, later, rfl, stops⟩, -⟩ := here
  exact skipBlanks_of_solid stops _

def Splits {α : Type*} (read : Nat → List Char → Option (α × List Char)) (fuel : Nat) : Prop :=
  ∀ text a rest, read fuel text = some (a, rest) →
    ∃ piece, text = piece ++ rest ∧ Piece read piece a

/-- Texts with commas between them, each of which spells an element. -/
inductive CommaList {α : Type*} (spells : List Char → α → Prop) : List Char → List α → Prop
  | last {text : List Char} {a : α} (here : spells text a) : CommaList spells text [a]
  | more {text later : List Char} {a : α} {as : List α} (here : spells text a)
    (others : CommaList spells later as) : CommaList spells (text ++ ',' :: later) (a :: as)

def Padded {α : Type*} (spells : List Char → α → Prop) (text : List Char) (a : α) : Prop :=
  ∃ front piece back, text = front ++ (piece ++ back) ∧ (∀ c ∈ front, isBlank c) ∧
    (∀ c ∈ back, isBlank c) ∧ spells piece a

theorem CommaList.blanks {α : Type*} {spells : List Char → α → Prop} {as : List α}
    (spelled : CommaList (Padded spells) text as) {blanks : List Char}
    (blank : ∀ c ∈ blanks, isBlank c) : CommaList (Padded spells) (blanks ++ text) as := by
  have widen {text : List Char} {a : α} (here : Padded spells text a) :
      Padded spells (blanks ++ text) a := by
    obtain ⟨front, piece, back, rfl, before, behind, here⟩ := here
    refine ⟨blanks ++ front, piece, back, by simp, ?_, behind, here⟩
    exact List.forall_mem_append.mpr ⟨blank, before⟩
  cases spelled with
  | last here => exact .last (widen here)
  | more here others =>
    rw [← List.append_assoc]
    exact .more (widen here) others

/-! ## Sequences -/

section Sequences

variable {α : Type*} {element : Nat → List Char → Option (α × List Char)} {close : Char}

/-- Reading on behind an element: it was the last one, or a comma and more elements follow. -/
def readOn (more : List Char → Option (List α × List Char)) (close : Char) (a : α) :
    List Char → Option (List α × List Char)
  | [] => none
  | mark :: rest =>
    if mark = close then some ([a], rest)
    else if mark = ',' then (more (skipBlanks rest)).map fun r => (a :: r.1, r.2)
    else none

theorem readOn_eq_none {more : List Char → Option (List α × List Char)} {a : α}
    (open_ : ∀ rest, text = close :: rest → False) (single : ∀ rest, text = ',' :: rest → False) :
    readOn more close a text = none := by
  cases text with
  | nil => rfl
  | cons mark rest =>
    rw [readOn, if_neg, if_neg]
    · rintro rfl
      exact single rest rfl
    · rintro rfl
      exact open_ rest rfl

def readSequence (element : Nat → List Char → Option (α × List Char)) (close : Char) :
    Nat → List Char → Option (List α × List Char)
  | 0, _ => none
  | fuel + 1, text => (element fuel text).bind fun read =>
    readOn (readSequence element close fuel) close read.1 (skipBlanks read.2)

theorem piece_last (ends : goesOn close = false) (solid : isBlank close = false) {a : α}
    (here : Piece element piece a) {blanks : List Char} (blank : ∀ c ∈ blanks, isBlank c) :
    Piece (readSequence element close) (piece ++ (blanks ++ [close])) [a] := by
  obtain ⟨c, later, rfl, start⟩ := here.solid
  refine ⟨⟨c, _, rfl, start⟩, ?_⟩
  rintro (_ | fuel) after enough -
  · simp at enough
  · simp only [List.length_append, List.length_cons, List.length_nil] at enough
    have taken := here.takes fuel _ (by simp; omega) (stops_mark blank ends after)
    have tail : c :: later ++ (blanks ++ [close]) ++ after =
        c :: later ++ (blanks ++ close :: after) := by simp
    rw [tail, readSequence, taken]
    simp [readOn, skipBlanks_mark blank solid]

theorem piece_more (comma : ',' ≠ close) {a : α} {as : List α} (here : Piece element piece a)
    {blanks gap later : List Char} (blank : ∀ c ∈ blanks, isBlank c)
    (gap_blank : ∀ c ∈ gap, isBlank c) (others : Piece (readSequence element close) later as) :
    Piece (readSequence element close) (piece ++ (blanks ++ ',' :: (gap ++ later))) (a :: as) := by
  obtain ⟨c, front, rfl, start⟩ := here.solid
  refine ⟨⟨c, _, rfl, start⟩, ?_⟩
  rintro (_ | fuel) after enough stops
  · simp at enough
  · simp only [List.length_append, List.length_cons] at enough
    have taken := here.takes fuel _ (by simp; omega)
      (stops_mark blank (c := ',') rfl (gap ++ (later ++ after)))
    have rest := others.takes fuel after (by omega) stops
    have tail : c :: front ++ (blanks ++ ',' :: (gap ++ later)) ++ after =
        c :: front ++ (blanks ++ ',' :: (gap ++ (later ++ after))) := by simp
    rw [tail, readSequence, taken]
    simp [readOn, skipBlanks_mark blank (c := ',') rfl, comma, skipBlanks_blanks gap_blank,
      others.skipBlanks, rest]

theorem readSequence_splits (ends : goesOn close = false) (solid : isBlank close = false)
    (comma : ',' ≠ close) {fuel : Nat} (splits : ∀ n < fuel, Splits element n) {as : List α}
    (read : readSequence element close fuel text = some (as, rest)) :
    ∃ inner, text = inner ++ close :: rest ∧
      Piece (readSequence element close) (inner ++ [close]) as ∧
        CommaList (Padded (Piece element)) inner as := by
  -- The reader takes one element and one mark in a step, so the induction is on the steps.
  induction fuel generalizing text as rest with
  | zero => cases read
  | succ fuel ih =>
    simp only [readSequence, Option.bind_eq_some_iff] at read
    obtain ⟨⟨a, behind⟩, first, read⟩ := read
    obtain ⟨piece, rfl, here⟩ := splits fuel (by omega) _ _ _ first
    obtain ⟨blanks, split, blank⟩ := blanks_split behind
    have padded : Padded (Piece element) (piece ++ blanks) a :=
      ⟨[], piece, blanks, rfl, by simp, blank, here⟩
    cases marked : skipBlanks behind with
    | nil => simp [marked, readOn] at read
    | cons mark later =>
      simp only [marked, readOn] at read
      rw [marked] at split
      subst split
      split at read
      next closed =>
        cases read
        subst closed
        refine ⟨piece ++ blanks, by simp, ?_, .last padded⟩
        rw [List.append_assoc]
        exact piece_last ends solid here blank
      next =>
        split at read
        next separated =>
          subst separated
          obtain ⟨⟨others, last⟩, more, final⟩ := Option.map_eq_some_iff.mp read
          cases final
          obtain ⟨gap, split, gap_blank⟩ := blanks_split later
          obtain ⟨inner, start, tail, spelled⟩ := ih (fun n small => splits n (by omega)) more
          rw [start] at split
          subst split
          refine ⟨piece ++ blanks ++ ',' :: (gap ++ inner), by simp, ?_, ?_⟩
          · have whole := piece_more comma here blank gap_blank tail
            simpa using whole
          · exact .more padded (spelled.blanks gap_blank)
        next => cases read

def readBracketed (element : Nat → List Char → Option (α × List Char)) (close : Char) (fuel : Nat)
    (text : List Char) : Option (List α × List Char) :=
  if (skipBlanks text).head? = some close then some ([], (skipBlanks text).tail)
  else readSequence element close fuel (skipBlanks text)

/-- The text between brackets: nothing but blanks, or elements with commas between them. -/
def Elements {α : Type*} (spells : List Char → α → Prop) (inner : List Char) (as : List α) : Prop :=
  (as = [] ∧ ∀ c ∈ inner, isBlank c) ∨ CommaList spells inner as

theorem readBracketed_splits (ends : goesOn close = false) (solid : isBlank close = false)
    (comma : ',' ≠ close) {fuel : Nat} (splits : ∀ n < fuel, Splits element n) {as : List α}
    (read : readBracketed element close fuel text = some (as, rest)) :
    ∃ inner, text = inner ++ close :: rest ∧ Elements (Padded (Piece element)) inner as ∧
      ∀ steps after, inner.length < steps → Stops goesOn after →
        readBracketed element close steps (inner ++ close :: after) = some (as, after) := by
  obtain ⟨blanks, split, blank⟩ := blanks_split text
  unfold readBracketed at read
  split at read
  next closed =>
    cases read
    rw [← List.cons_head?_tail closed] at split
    refine ⟨blanks, split, .inl ⟨rfl, blank⟩, fun steps after _ _ => ?_⟩
    simp [readBracketed, skipBlanks_mark blank solid]
  next open_ =>
    obtain ⟨inner, start, piece, spelled⟩ := readSequence_splits ends solid comma splits read
    refine ⟨blanks ++ inner, by rw [split, start]; simp, .inr (spelled.blanks blank), ?_⟩
    intro steps after enough stops
    simp only [List.length_append] at enough
    have taken := piece.takes steps after (by simp; omega) stops
    have kept : skipBlanks (blanks ++ inner ++ close :: after) = inner ++ close :: after := by
      have front := piece.skipBlanks after
      simpa [skipBlanks_blanks blank] using front
    have opened : (inner ++ close :: after).head? ≠ some close := by
      cases inner with
      | nil => exact (open_ (by rw [start]; rfl)).elim
      | cons c inner => simpa [start] using open_
    rw [readBracketed, kept, if_neg opened]
    simpa using taken

end Sequences

/-! ## Lists and objects -/

def behindColon? : List Char → Option (List Char)
  | ':' :: rest => some rest
  | _ => none

theorem behindColon?_eq_none (colonless : ∀ rest, text = ':' :: rest → False) :
    behindColon? text = none := by
  unfold behindColon?
  split
  next rest => exact (colonless rest rfl).elim
  next => rfl

theorem behindColon?_eq_some (behind : behindColon? text = some rest) : text = ':' :: rest := by
  unfold behindColon? at behind
  split at behind
  next => rw [Option.some.inj behind]
  next => cases behind

def readMember (fuel : Nat) : List Char → Option ((Option String × Value) × List Char)
  | '"' :: text => do
    let (name, rest) ← readText text
    let rest ← behindColon? (skipBlanks rest)
    let (value, rest) ← readValue fuel (skipBlanks rest)
    return ((name, value), rest)
  | _ => none

theorem readItems_eq (fuel : Nat) (text : List Char) :
    readItems fuel text = readSequence readValue ']' fuel text := by
  induction fuel generalizing text with
  | zero => rfl
  | succ fuel ih =>
    rw [readItems, readSequence]
    refine Option.bind_congr fun read _ => ?_
    dsimp only
    split
    next same => simp [same, readOn]
    next same => simp [same, readOn, ih, Option.map_eq_bind]
    next open_ single => rw [readOn_eq_none open_ single]

theorem readMember_quoted (fuel : Nat) (text : List Char) :
    readMember fuel ('"' :: text) = (readText text).bind fun named =>
      (behindColon? (skipBlanks named.2)).bind fun rest =>
        (readValue fuel (skipBlanks rest)).map fun valued => ((named.1, valued.1), valued.2) := by
  simp [readMember, Option.map_eq_bind]

theorem readMembers_eq (fuel : Nat) (text : List Char) :
    readMembers fuel text = readSequence readMember '\x7D' fuel text := by
  induction fuel generalizing text with
  | zero => rfl
  | succ fuel ih =>
    rw [readSequence]
    by_cases quoted : ∃ later, text = '"' :: later
    · obtain ⟨later, rfl⟩ := quoted
      rw [readMembers, readMember_quoted, Option.bind_assoc]
      refine Option.bind_congr fun named _ => ?_
      dsimp only
      split
      next rest colon =>
        rw [colon, behindColon?, Option.bind_some, Option.bind_map]
        refine Option.bind_congr fun valued _ => ?_
        dsimp only [Function.comp_def]
        split
        next same => simp [same, readOn]
        next same => simp [same, readOn, ih, Option.map_eq_bind]
        next open_ single => rw [readOn_eq_none open_ single]
      next colonless => rw [behindColon?_eq_none colonless, Option.bind_none, Option.bind_none]
    · have other : ∀ later, text = '"' :: later → False := fun later same => quoted ⟨later, same⟩
      rw [readMember, Option.bind_none, readMembers] <;> exact other

theorem readMember_eq_some {fuel : Nat} {s : Option String} {v : Value}
    (read : readMember fuel text = some ((s, v), rest)) :
    ∃ name between gap later, text = '"' :: (name ++ (between ++ ':' :: (gap ++ later))) ∧
      (∀ c ∈ between, isBlank c) ∧ (∀ c ∈ gap, isBlank c) ∧
        (∀ after, readText (name ++ after) = some (s, after)) ∧
          readValue fuel later = some (v, rest) := by
  by_cases quoted : ∃ later, text = '"' :: later
  · obtain ⟨later, rfl⟩ := quoted
    rw [readMember_quoted, Option.bind_eq_some_iff] at read
    obtain ⟨⟨name, behind⟩, named, read⟩ := read
    obtain ⟨later, colon, read⟩ := Option.bind_eq_some_iff.mp read
    obtain ⟨⟨v, last⟩, valued, final⟩ := Option.map_eq_some_iff.mp read
    cases final
    obtain ⟨letters, rfl, spelled⟩ := readText_takes named
    obtain ⟨blanks, split, blank⟩ := blanks_split behind
    obtain ⟨gap, space, gap_blank⟩ := blanks_split later
    rw [behindColon?_eq_some colon, space] at split
    exact ⟨letters, blanks, gap, _, by rw [split], blank, gap_blank, spelled, valued⟩
  · rw [readMember] at read
    · cases read
    · exact fun later same => quoted ⟨later, same⟩

theorem readMember_splits {fuel : Nat} (splits : Splits readValue fuel) :
    Splits readMember fuel := by
  rintro text ⟨s, v⟩ rest read
  obtain ⟨name, between, gap, later, rfl, between_blank, gap_blank, named, valued⟩ :=
    readMember_eq_some read
  obtain ⟨piece, rfl, here⟩ := splits _ _ _ valued
  refine ⟨'"' :: (name ++ (between ++ ':' :: (gap ++ piece))), by simp, ⟨'"', _, rfl, rfl⟩,
    fun steps after enough stops => ?_⟩
  simp only [List.length_append, List.length_cons] at enough
  have taken := here.takes steps after (by omega) stops
  have colon := skipBlanks_mark between_blank (c := ':') rfl (gap ++ (piece ++ after))
  simp only [List.cons_append, List.append_assoc]
  rw [readMember_quoted, named]
  simp [colon, behindColon?, skipBlanks_blanks gap_blank, here.skipBlanks, taken]

theorem readValue_array (fuel : Nat) (text : List Char) :
    readValue (fuel + 1) ('[' :: text) =
      (readBracketed readValue ']' fuel text).map fun read => (.array read.1, read.2) := by
  rw [readValue, readBracketed]
  split
  next same => simp [same]
  next open_ =>
    rw [if_neg, readItems_eq]
    · simp [Option.map_eq_bind]
    · exact fun closed => open_ _ (List.cons_head?_tail closed).symm

theorem readValue_object (fuel : Nat) (text : List Char) :
    readValue (fuel + 1) ('\x7B' :: text) =
      (readBracketed readMember '\x7D' fuel text).map fun read => (.object read.1, read.2) := by
  rw [readValue, readBracketed]
  split
  next same => simp [same]
  next open_ =>
    rw [if_neg, readMembers_eq]
    · simp [Option.map_eq_bind]
    · exact fun closed => open_ _ (List.cons_head?_tail closed).symm

theorem readValue_number {c : Char} (begins : c = '-' ∨ isDigit c) (fuel : Nat) (text : List Char) :
    readValue (fuel + 1) (c :: text) =
      (readNumber (c :: text)).map fun read => (.number (String.ofList read.1), read.2) := by
  have other {d : Char} {later : List Char} (apart : d ≠ '-' ∧ isDigit d = false)
      (same : c :: text = d :: later) : False := by
    rw [(List.cons.inj same).1] at begins
    rcases begins with rfl | digit
    · exact apart.1 rfl
    · rw [apart.2] at digit
      cases digit
  unfold readValue
  split
  case h_7 => rw [Option.map_eq_bind]; rfl
  all_goals
    rename_i same
    exact (other (by decide) same).elim

theorem readValue_bracketed {α : Type*} {element : Nat → List Char → Option (α × List Char)}
    {opening close : Char} {wrap : List α → Value}
    (equation : ∀ fuel text, readValue (fuel + 1) (opening :: text) =
      (readBracketed element close fuel text).map fun read => (wrap read.1, read.2))
    (solid : isBlank opening = false) (ends : goesOn close = false) (closes : isBlank close = false)
    (comma : ',' ≠ close) {fuel : Nat} (splits : ∀ n < fuel, Splits element n) {v : Value}
    (read : readValue (fuel + 1) (opening :: text) = some (v, rest)) :
    ∃ inner as, v = wrap as ∧ text = inner ++ close :: rest ∧
      Elements (Padded (Piece element)) inner as ∧
        Piece readValue (opening :: (inner ++ [close])) v := by
  rw [equation, Option.map_eq_some_iff] at read
  obtain ⟨⟨as, last⟩, bracketed, final⟩ := read
  cases final
  obtain ⟨inner, rfl, spelled, takes⟩ := readBracketed_splits ends closes comma splits bracketed
  refine ⟨inner, as, rfl, rfl, spelled, ⟨opening, _, rfl, solid⟩, ?_⟩
  rintro (_ | steps) after enough stops
  · simp at enough
  · simp only [List.length_append, List.length_cons, List.length_nil] at enough
    have taken := takes steps after (by omega) stops
    have tail : opening :: (inner ++ [close]) ++ after = opening :: (inner ++ close :: after) := by
      simp
    rw [tail, equation, taken]
    rfl

theorem piece_of_start {c : Char} {letters : List Char} {v : Value} (solid : isBlank c = false)
    (read : ∀ fuel after, Stops goesOn after →
      readValue (fuel + 1) (c :: letters ++ after) = some (v, after)) :
    Piece readValue (c :: letters) v := by
  refine ⟨⟨c, letters, rfl, solid⟩, ?_⟩
  rintro (_ | fuel) after enough stops
  · simp at enough
  · exact read fuel after stops

theorem piece_of_readText {s : Option String} (read : readText text = some (s, rest)) :
    ∃ letters, text = letters ++ rest ∧ Piece readValue ('"' :: letters) (.text s) := by
  obtain ⟨letters, split, takes⟩ := readText_takes read
  refine ⟨letters, split, piece_of_start rfl fun fuel after _ => ?_⟩
  simp [readValue, takes]

theorem piece_of_readNumber {literal : List Char} (read : readNumber text = some (literal, rest)) :
    text = literal ++ rest ∧ Piece readValue literal (.number (String.ofList literal)) := by
  obtain ⟨split, ⟨c, later, rfl, begins⟩, takes⟩ := readNumber_takes read
  have solid : isBlank c = false := by
    rcases begins with rfl | digit
    · rfl
    · exact solid_of_digit digit
  refine ⟨split, piece_of_start solid fun fuel after stops => ?_⟩
  have taken := takes after stops
  rw [List.cons_append] at taken ⊢
  rw [readValue_number begins, taken]
  rfl

theorem readValue_splits (fuel : Nat) : Splits readValue fuel := by
  -- What stands in brackets was read in fewer steps, but not in one less each time.
  induction fuel using Nat.strongRecOn with
  | ind fuel ih =>
    intro text v rest read
    cases fuel with
    | zero => cases read
    | succ fuel =>
      have whole := read
      unfold readValue at read
      split at read
      next =>
        cases read
        exact ⟨['n', 'u', 'l', 'l'], rfl, piece_of_start rfl fun _ _ _ => rfl⟩
      next =>
        cases read
        exact ⟨['t', 'r', 'u', 'e'], rfl, piece_of_start rfl fun _ _ _ => rfl⟩
      next =>
        cases read
        exact ⟨['f', 'a', 'l', 's', 'e'], rfl, piece_of_start rfl fun _ _ _ => rfl⟩
      next later =>
        simp only [Option.bind_eq_bind, Option.bind_eq_some_iff, Option.pure_def,
          Option.some.injEq, Prod.mk.injEq, Prod.exists] at read
        obtain ⟨s, _, spelled, rfl, rfl⟩ := read
        obtain ⟨letters, rfl, here⟩ := piece_of_readText spelled
        exact ⟨_, rfl, here⟩
      next later =>
        obtain ⟨inner, items, rfl, rfl, -, here⟩ := readValue_bracketed readValue_array rfl rfl rfl
          (by decide) (fun n small => ih n (by omega)) whole
        exact ⟨_, by simp, here⟩
      next later =>
        obtain ⟨inner, members, rfl, rfl, -, here⟩ := readValue_bracketed readValue_object rfl rfl
          rfl (by decide) (fun n small => readMember_splits (ih n (by omega))) whole
        exact ⟨_, by simp, here⟩
      next =>
        simp only [Option.bind_eq_bind, Option.bind_eq_some_iff, Option.pure_def,
          Option.some.injEq, Prod.mk.injEq, Prod.exists] at read
        obtain ⟨literal, _, number, rfl, rfl⟩ := read
        exact ⟨literal, piece_of_readNumber number⟩

/-! ## Members in the text -/

/-- The text of a member: its name between quotes, a colon and the text of its value. -/
inductive SpellsMember : List Char → Option String × Value → Prop
  | mk {front name between text : List Char} {s : Option String} {v : Value}
    (front_blank : ∀ c ∈ front, isBlank c) (name_read : readText name = some (s, []))
    (between_blank : ∀ c ∈ between, isBlank c) (value_read : Value.read (.ofList text) = some v) :
    SpellsMember (front ++ '"' :: (name ++ (between ++ ':' :: text))) (s, v)

theorem Piece.read {v : Value} (here : Piece readValue piece v) {front back : List Char}
    (before : ∀ c ∈ front, isBlank c) (behind : ∀ c ∈ back, isBlank c) :
    Value.read (String.ofList (front ++ (piece ++ back))) = some v := by
  have steps : piece.length ≤ 2 * (front ++ (piece ++ back)).length + 1 := by
    simp only [List.length_append]
    omega
  have empty : Json.skipBlanks back = [] := List.dropWhile_eq_nil_iff.mpr behind
  simp only [Value.read, String.toList_ofList, skipBlanks_blanks before, here.skipBlanks]
  rw [here.takes _ back steps (stops_blanks behind)]
  simp [empty]

theorem spellsMember_of_padded {member : Option String × Value}
    (padded : Padded (Piece readMember) text member) : SpellsMember text member := by
  obtain ⟨front, piece, back, rfl, before, behind, here⟩ := padded
  obtain ⟨s, v⟩ := member
  have read := here.takes piece.length [] le_rfl nofun
  rw [List.append_nil] at read
  obtain ⟨name, between, gap, later, rfl, between_blank, gap_blank, named, valued⟩ :=
    readMember_eq_some read
  obtain ⟨piece, rfl, value⟩ := readValue_splits _ _ _ _ valued
  have tail : front ++ ('"' :: (name ++ (between ++ ':' :: (gap ++ (piece ++ [])))) ++ back) =
      front ++ '"' :: (name ++ (between ++ ':' :: (gap ++ (piece ++ back)))) := by simp
  rw [tail]
  refine .mk before ?_ between_blank (value.read gap_blank behind)
  simpa using named []

theorem CommaList.imp {α : Type*} {R S : List Char → α → Prop} {as : List α}
    (weaker : ∀ {text a}, R text a → S text a) (spelled : CommaList R text as) :
    CommaList S text as := by
  induction spelled with
  | last here => exact .last (weaker here)
  | more here _ ih => exact .more (weaker here) ih

theorem starts_of_object {fuel : Nat} {members : List (Option String × Value)}
    (read : readValue fuel text = some (.object members, rest)) :
    ∃ later, text = '\x7B' :: later := by
  cases fuel with
  | zero => cases read
  | succ fuel =>
    unfold readValue at read
    split at read
    case h_6 later => exact ⟨later, rfl⟩
    case h_4 | h_7 =>
      obtain ⟨_, -, same⟩ := Option.bind_eq_some_iff.mp read
      cases same
    case h_5 =>
      split at read
      · cases read
      · obtain ⟨_, -, same⟩ := Option.bind_eq_some_iff.mp read
        cases same
    all_goals cases read

theorem read_eq_object {text : String} {members : List (Option String × Value)}
    (read : Value.read text = some (.object members)) :
    ∃ front inner back, text.toList = front ++ '\x7B' :: (inner ++ '\x7D' :: back) ∧
      (∀ c ∈ front ++ back, isBlank c) ∧ Elements SpellsMember inner members := by
  unfold Value.read at read
  simp only [Option.bind_eq_bind, Option.bind_eq_some_iff, Option.pure_def] at read
  obtain ⟨⟨v, back⟩, whole, read⟩ := read
  obtain ⟨front, split, before⟩ := blanks_split text.toList
  split at read
  next nothing =>
    cases read
    have behind : ∀ c ∈ back, isBlank c :=
      List.dropWhile_eq_nil_iff.mp (List.isEmpty_iff.mp nothing)
    obtain ⟨later, start⟩ := starts_of_object whole
    rw [start] at whole split
    obtain ⟨inner, others, same, rfl, spelled, -⟩ := readValue_bracketed readValue_object rfl rfl
      rfl (by decide) (fun n _ => readMember_splits (readValue_splits n)) whole
    cases same
    refine ⟨front, inner, back, split, List.forall_mem_append.mpr ⟨before, behind⟩, ?_⟩
    exact spelled.imp_right fun listed => listed.imp spellsMember_of_padded
  next => cases read

end ProjectContext.Json
