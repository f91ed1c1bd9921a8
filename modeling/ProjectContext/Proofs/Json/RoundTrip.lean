import Mathlib.Data.List.TakeDrop
import ProjectContext.Json.Reader

/-!
# Reading what was printed

The reader gives back every value that is printed from texts, natural numbers, lists and objects of
such (`Value.read_pretty`). The proof goes along the value: what follows it in the text is left for
the reader of the list or the object around it (`ReadsBack`), and the length of the text bounds the
steps.
-/

namespace ProjectContext.Json

open Value

/-! ## Blanks -/

theorem skipBlanks_newline (level : Nat) (rest : List Char) :
    skipBlanks (newline level ++ rest) = skipBlanks rest := by
  have blank : ∀ c ∈ newline level, isBlank c = true := by
    intro c member
    rcases List.mem_cons.mp member with rfl | indent
    · decide
    · rw [List.eq_of_mem_replicate indent]
      decide
  exact List.dropWhile_append_of_pos blank

theorem skipBlanks_of_solid {c : Char} (solid : isBlank c = false) (rest : List Char) :
    skipBlanks (c :: rest) = c :: rest := by
  simp [skipBlanks, solid]

/-! ## Texts -/

theorem unit?_control : ∀ n < 32, unit? '0' '0' (hexDigit (n / 16)) (hexDigit (n % 16)) = some n := by
  decide

theorem readParts_escaped {e c : Char} (escape : escaped? e = some c) (rest : List Char) :
    readParts ('\\' :: e :: rest) = (readParts rest).map fun r => (.char c :: r.1, r.2) := by
  rw [readParts.eq_def]
  split
  case h_3 same =>
    -- No escape of one character has the letter of the numbered ones.
    obtain ⟨rfl, -⟩ : e = 'u' ∧ _ := by simpa using same
    cases escape
  case h_4 same =>
    obtain ⟨rfl, rfl⟩ : _ ∧ _ := by simpa using same
    rw [escape]
    cases readParts rest <;> rfl
  case h_5 other same =>
    obtain ⟨rfl, rfl⟩ : '\\' = _ ∧ e :: rest = _ := by simpa using same
    exact (other e rest rfl rfl).elim
  all_goals simp_all

theorem readParts_numbered {a b c d : Char} {n : Nat} (number : unit? a b c d = some n)
    (rest : List Char) :
    readParts ('\\' :: 'u' :: a :: b :: c :: d :: rest) =
      (readParts rest).map fun r => (.unit n :: r.1, r.2) := by
  rw [readParts, number]
  cases readParts rest <;> rfl

theorem readParts_plain {c : Char} (quote : c ≠ '"') (backslash : c ≠ '\\')
    (printable : ¬ c.toNat < 0x20) (rest : List Char) :
    readParts (c :: rest) = (readParts rest).map fun r => (.char c :: r.1, r.2) := by
  rw [readParts.eq_def]
  split
  case h_5 same =>
    obtain ⟨rfl, rfl⟩ : _ ∧ _ := by simpa using same
    simp only [printable, backslash, beq_iff_eq, decide_false, Bool.false_or, if_false]
    cases readParts rest <;> rfl
  all_goals simp_all

theorem readParts_escapeChar (c : Char) :
    ∃ part, (∀ rest, readParts (escapeChar c ++ rest) =
        (readParts rest).map fun r => (part :: r.1, r.2)) ∧
      ∀ parts, joinParts (part :: parts) = (joinParts parts).map (c :: ·) := by
  unfold escapeChar
  split
  case h_8 _ quote backslash _ _ _ _ _ =>
    by_cases control : c.toNat < 0x20
    · refine ⟨.unit c.toNat, fun rest => ?_, fun parts => ?_⟩
      · rw [if_pos control]
        exact readParts_numbered (unit?_control c.toNat control) rest
      · have high : isHighSurrogate c.toNat = false := by simp [isHighSurrogate]; omega
        have low : isLowSurrogate c.toNat = false := by simp [isLowSurrogate]; omega
        rw [joinParts.eq_def]
        simp only [high, low, Bool.false_eq_true, if_false, Char.ofNat_toNat]
    · refine ⟨.char c, fun rest => ?_, fun parts => rfl⟩
      rw [if_neg control, List.singleton_append]
      exact readParts_plain quote backslash control rest
  all_goals exact ⟨.char _, fun rest => readParts_escaped rfl rest, fun parts => rfl⟩

theorem readParts_quoted (chars rest : List Char) :
    ∃ parts, readParts (chars.flatMap escapeChar ++ '"' :: rest) = some (parts, rest) ∧
      joinParts parts = some chars := by
  induction chars with
  | nil => exact ⟨[], by simp [readParts], rfl⟩
  | cons c chars ih =>
    obtain ⟨parts, read, joined⟩ := ih
    obtain ⟨part, first, join⟩ := readParts_escapeChar c
    refine ⟨part :: parts, ?_, ?_⟩
    · rw [List.flatMap_cons, List.append_assoc, first, read]
      rfl
    · rw [join, joined]
      rfl

theorem readText_quoted (s : String) (rest : List Char) :
    readText (s.toList.flatMap escapeChar ++ '"' :: rest) = some (some s, rest) := by
  obtain ⟨parts, read, joined⟩ := readParts_quoted s.toList rest
  simp [readText, read, joined, String.ofList_toList]

/-! ## Numbers -/

/-- What stands behind a value that is printed: nothing, a comma or a line break. -/
def Ends (rest : List Char) : Prop := ∀ c ∈ rest.head?, c = ',' ∨ c = '\n'

theorem isDigit_of_mem_toDigits {n : Nat} {c : Char} (member : c ∈ Nat.toDigits 10 n) :
    isDigit c = true := by
  show c.isDigit = true
  exact Nat.isDigit_of_mem_toDigits (by decide) (by decide) member

theorem toDigits_of_zero_start {n : Nat} {digits : List Char}
    (zero : Nat.toDigits 10 n = '0' :: digits) : n = 0 := by
  induction n using Nat.strongRecOn generalizing digits with
  | ind n ih =>
    by_cases small : n < 10
    · rw [Nat.toDigits_of_lt_base small] at zero
      have one : ∀ k < 10, k.digitChar = '0' → k = 0 := by decide
      exact one n small (List.cons.inj zero).1
    · rw [Nat.toDigits_of_base_le (by decide) (by omega)] at zero
      cases front : Nat.toDigits 10 (n / 10) with
      | nil => exact absurd front Nat.toDigits_ne_nil
      | cons c rest =>
        rw [front, List.cons_append, List.cons.injEq] at zero
        have none := ih (n / 10) (by omega) (front.trans (by rw [zero.1]))
        omega

theorem span_digits {digits rest : List Char} (all : ∀ c ∈ digits, isDigit c = true)
    (ends : Ends rest) : (digits ++ rest).span isDigit = (digits, rest) := by
  rw [List.span_eq_takeWhile_dropWhile, List.takeWhile_append_of_pos all,
    List.dropWhile_append_of_pos all]
  cases rest with
  | nil => simp
  | cons c rest =>
    have stop : isDigit c = false := by
      rcases ends c rfl with rfl | rfl <;> decide
    simp [stop]

theorem readInteger_toDigits (n : Nat) {rest : List Char} (ends : Ends rest) :
    readInteger (Nat.toDigits 10 n ++ rest) = some (Nat.toDigits 10 n, rest) := by
  have span := span_digits (fun c => isDigit_of_mem_toDigits (n := n)) ends
  cases digits : Nat.toDigits 10 n with
  | nil => exact absurd digits Nat.toDigits_ne_nil
  | cons c later =>
    rw [digits] at span
    by_cases zero : c = '0'
    · subst zero
      obtain rfl := toDigits_of_zero_start digits
      cases digits
      rfl
    · have other : readInteger (c :: later ++ rest) = readDigits (c :: later ++ rest) := by
        rw [List.cons_append, readInteger]
        intro rest same
        exact absurd (List.cons.inj same).1 zero
      rw [other, readDigits, span]

theorem readNumber_toDigits (n : Nat) {rest : List Char} (ends : Ends rest) :
    readNumber (Nat.toDigits 10 n ++ rest) = some (Nat.toDigits 10 n, rest) := by
  have integer := readInteger_toDigits n ends
  have fraction : readFraction rest = some ([], rest) := by
    cases rest with
    | nil => rfl
    | cons c rest => rcases ends c rfl with rfl | rfl <;> rfl
  have exponent : readExponent rest = some ([], rest) := by
    cases rest with
    | nil => rfl
    | cons c rest => rcases ends c rfl with rfl | rfl <;> rfl
  have unsigned : ∀ later, Nat.toDigits 10 n ++ rest ≠ '-' :: later := by
    intro later sign
    cases digits : Nat.toDigits 10 n with
    | nil => exact absurd digits Nat.toDigits_ne_nil
    | cons c front =>
      rw [digits] at sign
      have digit : isDigit c = true := isDigit_of_mem_toDigits (digits ▸ List.mem_cons_self)
      rw [(List.cons.inj sign).1] at digit
      cases digit
  unfold readNumber
  split
  next sign text start =>
    obtain ⟨rfl, rfl⟩ : [] = sign ∧ Nat.toDigits 10 n ++ rest = text := by
      split at start
      next later signed => exact absurd signed (unsigned later)
      next => exact ⟨congrArg Prod.fst start, congrArg Prod.snd start⟩
    simp [integer, fraction, exponent]

theorem toList_toString (n : UInt64) : (toString n).toList = Nat.toDigits 10 n.toNat := by
  show (toString n.toNat).toList = _
  rw [Nat.toString_eq_ofList_toDigits, String.toList_ofList]

theorem word?_ofWord (n : UInt64) : (ofWord n).word? = some n := by
  have all : (Nat.toDigits 10 n.toNat).all isDigit = true :=
    List.all_eq_true.mpr fun c => isDigit_of_mem_toDigits
  have value : (Nat.toDigits 10 n.toNat).foldl (fun n c => n * 10 + (c.toNat - 48)) 0 = n.toNat := by
    have value := Nat.ofDigitChars_ten_toDigits (n := n.toNat)
    simp only [Nat.ofDigitChars, Nat.mul_comm 10] at value
    exact value
  unfold word? ofWord
  simp only [toList_toString, all, value, if_true, if_pos n.toNat_lt]
  exact congrArg some UInt64.ofNat_toNat

/-! ## Values -/

/-- The values that this library prints. -/
inductive Printable : Value → Prop
  | null : Printable .null
  | boolean (b : Bool) : Printable (.boolean b)
  | natural (n : Nat) : Printable (.number (toString n))
  | text (s : String) : Printable (ofString s)
  | array {items : List Value} (each : ∀ item ∈ items, Printable item) : Printable (.array items)
  | object {members : List (Option String × Value)} (named : ∀ member ∈ members, member.1.isSome)
    (each : ∀ member ∈ members, Printable member.2) : Printable (.object members)

theorem solid_of_digit {c : Char} (digit : isDigit c = true) : isBlank c = false := by
  cases blank : isBlank c with
  | false => rfl
  | true =>
    simp only [isBlank, Bool.or_eq_true, beq_iff_eq] at blank
    rcases blank with ((rfl | rfl) | rfl) | rfl <;> cases digit

/-- The reader takes the printed value off the front of a text. -/
def ReadsBack (v : Value) : Prop :=
  ∀ level fuel rest, (v.render level).length < fuel → Ends rest →
    readValue fuel (v.render level ++ rest) = some (v, rest)

/-- A printed value begins with a character that neither is blank nor ends a list. -/
theorem render_start {v : Value} (printable : Printable v) (level : Nat) :
    ∃ c later, v.render level = c :: later ∧ isBlank c = false ∧ c ≠ ']' := by
  cases printable with
  | null => exact ⟨'n', _, rfl, by decide, by decide⟩
  | boolean b =>
    cases b with
    | true => exact ⟨'t', _, rfl, by decide, by decide⟩
    | false => exact ⟨'f', _, rfl, by decide, by decide⟩
  | natural n =>
    cases digits : Nat.toDigits 10 n with
    | nil => exact absurd digits Nat.toDigits_ne_nil
    | cons c later =>
      have digit : isDigit c = true := isDigit_of_mem_toDigits (digits ▸ List.mem_cons_self)
      refine ⟨c, later, ?_, ?_, ?_⟩
      · rw [render, Nat.toString_eq_ofList_toDigits, String.toList_ofList, digits]
      · exact solid_of_digit digit
      · rintro rfl
        cases digit
  | text s => exact ⟨'"', _, rfl, by decide, by decide⟩
  | @array items each =>
    cases items with
    | nil => exact ⟨'[', _, rfl, by decide, by decide⟩
    | cons item items => exact ⟨'[', _, rfl, by decide, by decide⟩
  | @object members named each =>
    cases members with
    | nil => exact ⟨'\x7B', _, rfl, by decide, by decide⟩
    | cons member members => exact ⟨'\x7B', _, rfl, by decide, by decide⟩

theorem readsBack_natural (n : Nat) : ReadsBack (.number (toString n)) := by
  intro level fuel rest enough ends
  cases fuel with
  | zero => exact absurd enough (Nat.not_lt_zero _)
  | succ fuel =>
    rw [render, Nat.toString_eq_ofList_toDigits, String.toList_ofList]
    have number := readNumber_toDigits n ends
    cases digits : Nat.toDigits 10 n with
    | nil => exact absurd digits Nat.toDigits_ne_nil
    | cons c later =>
      have digit : isDigit c = true := isDigit_of_mem_toDigits (digits ▸ List.mem_cons_self)
      -- No other kind of value begins with a digit.
      have other {d : Char} {later' : List Char} (sign : isDigit d = false)
          (same : c :: later ++ rest = d :: later') : False := by
        rw [(List.cons.inj same).1, sign] at digit
        cases digit
      rw [digits] at number
      rw [readValue.eq_def]
      simp only
      split
      case h_7 =>
        rw [number]
        rfl
      all_goals
        rename_i same
        exact (other rfl same).elim

theorem ends_newline (level : Nat) (rest : List Char) : Ends (newline level ++ rest) := by
  rintro c same
  cases same
  exact .inr rfl

theorem ends_comma (rest : List Char) : Ends (',' :: rest) := by
  rintro c same
  cases same
  exact .inl rfl

theorem skipBlanks_render {v : Value} (printable : Printable v) (level : Nat) (rest : List Char) :
    skipBlanks (newline level ++ (v.render level ++ rest)) = v.render level ++ rest := by
  obtain ⟨c, later, start, solid, -⟩ := render_start printable level
  rw [skipBlanks_newline, start, List.cons_append, skipBlanks_of_solid solid]

/-! ## Lists -/

theorem renderItems_cons (level : Nat) (item : Value) (items : List Value) (rest : List Char) :
    renderItems level (item :: items) ++ rest =
      ',' :: (newline level ++ (item.render level ++ (renderItems level items ++ rest))) := by
  simp [renderItems]

theorem render_array (level : Nat) (item : Value) (items : List Value) (rest : List Char) :
    (array (item :: items)).render level ++ rest =
      '[' :: (newline (level + 1) ++ (item.render (level + 1) ++
        (renderItems (level + 1) items ++ (newline level ++ ']' :: rest)))) := by
  simp [render]

theorem readItems_render {level : Nat} {items : List Value}
    (each : ∀ item ∈ items, Printable item ∧ ReadsBack item) {item : Value}
    (first : ReadsBack item) {fuel : Nat}
    (enough : (item.render level).length + (renderItems level items).length + 1 < fuel)
    (outer : Nat) (rest : List Char) :
    readItems fuel
        (item.render level ++ (renderItems level items ++ (newline outer ++ ']' :: rest))) =
      some (item :: items, rest) := by
  induction items generalizing item fuel with
  | nil =>
    cases fuel with
    | zero => exact absurd enough (Nat.not_lt_zero _)
    | succ fuel =>
      have read := first level fuel (newline outer ++ ']' :: rest) (by omega)
        (ends_newline outer _)
      have close : skipBlanks (newline outer ++ ']' :: rest) = ']' :: rest := by
        rw [skipBlanks_newline, skipBlanks_of_solid (by decide)]
      rw [readItems, renderItems, List.nil_append, read]
      simp [close]
  | cons next items ih =>
    cases fuel with
    | zero => exact absurd enough (Nat.not_lt_zero _)
    | succ fuel =>
      obtain ⟨⟨printable, second⟩, others⟩ := List.forall_mem_cons.mp each
      simp only [renderItems, List.length_append, List.length_cons] at enough
      have fits : (next.render level).length + (renderItems level items).length + 1 < fuel := by
        omega
      have later := ih others second fits
      rw [readItems, renderItems_cons, first level fuel _ (by omega) (ends_comma _)]
      simp only [Option.bind_eq_bind, Option.bind_some]
      rw [skipBlanks_of_solid (by decide)]
      simp [skipBlanks_render printable, later]

theorem readsBack_array {items : List Value}
    (each : ∀ item ∈ items, Printable item ∧ ReadsBack item) : ReadsBack (.array items) := by
  intro level fuel rest enough ends
  cases fuel with
  | zero => exact absurd enough (Nat.not_lt_zero _)
  | succ fuel =>
    cases items with
    | nil => rfl
    | cons item items =>
      obtain ⟨⟨printable, first⟩, others⟩ := List.forall_mem_cons.mp each
      obtain ⟨c, later, start, -, unclosed⟩ := render_start printable (level + 1)
      simp only [render, List.length_append, List.length_cons, newline, List.length_nil] at enough
      have fits : (item.render (level + 1)).length + (renderItems (level + 1) items).length + 1 <
          fuel := by omega
      have read := readItems_render others first fits level rest
      rw [render_array, readValue, skipBlanks_render printable]
      rw [start, List.cons_append] at read ⊢
      split
      case h_1 same => exact absurd (List.cons.inj same).1 unclosed
      case h_2 =>
        rw [read]
        rfl

/-! ## Objects -/

def memberText (level : Nat) (name : Option String) (v : Value) (rest : List Char) : List Char :=
  quoted (name.getD "") ++ ([':', ' '] ++ (v.render level ++ rest))

theorem renderMembers_cons (level : Nat) (name : Option String) (v : Value)
    (members : List (Option String × Value)) (rest : List Char) :
    renderMembers level ((name, v) :: members) ++ rest =
      ',' :: (newline level ++ memberText level name v (renderMembers level members ++ rest)) := by
  simp [renderMembers, memberText]

theorem render_object (level : Nat) (name : Option String) (v : Value)
    (members : List (Option String × Value)) (rest : List Char) :
    (object ((name, v) :: members)).render level ++ rest =
      '\x7B' :: (newline (level + 1) ++ memberText (level + 1) name v
        (renderMembers (level + 1) members ++ (newline level ++ '\x7D' :: rest))) := by
  simp [render, memberText]

theorem skipBlanks_memberText (level : Nat) (name : Option String) (v : Value) (rest : List Char) :
    skipBlanks (newline level ++ memberText level name v rest) = memberText level name v rest := by
  rw [skipBlanks_newline]
  exact skipBlanks_of_solid (by decide) _

/-- Reading one member, up to the comma or the brace behind it. -/
theorem readMembers_member {level fuel : Nat} {name : Option String} {v : Value} {rest : List Char}
    (named : name.isSome) (printable : Printable v) (first : ReadsBack v)
    (enough : (v.render level).length < fuel) (ends : Ends rest) :
    (∀ after, skipBlanks rest = '\x7D' :: after →
      readMembers (fuel + 1) (memberText level name v rest) = some ([(name, v)], after)) ∧
    ∀ later members after, skipBlanks rest = ',' :: later →
      readMembers fuel (skipBlanks later) = some (members, after) →
      readMembers (fuel + 1) (memberText level name v rest) =
        some ((name, v) :: members, after) := by
  obtain ⟨text, rfl⟩ := Option.isSome_iff_exists.mp named
  obtain ⟨c, later, start, solid, -⟩ := render_start printable level
  have read := readText_quoted text (':' :: ' ' :: (v.render level ++ rest))
  have colon : skipBlanks (':' :: ' ' :: (v.render level ++ rest)) =
      ':' :: ' ' :: (v.render level ++ rest) := skipBlanks_of_solid (by decide) _
  have blank : skipBlanks (' ' :: (v.render level ++ rest)) = v.render level ++ rest := by
    rw [start]
    exact skipBlanks_of_solid solid (later ++ rest)
  have value := first level fuel rest enough ends
  have spelled : memberText level (some text) v rest =
      '"' :: (text.toList.flatMap escapeChar ++ '"' :: ':' :: ' ' :: (v.render level ++ rest)) := by
    simp [memberText, quoted]
  rw [spelled, readMembers]
  constructor
  · intro after close
    simp [read, colon, blank, value, close]
  · intro later members after comma others
    simp [read, colon, blank, value, comma, others]

theorem readMembers_render {level : Nat} {members : List (Option String × Value)}
    (each : ∀ member ∈ members, member.1.isSome ∧ Printable member.2 ∧ ReadsBack member.2)
    {name : Option String} {v : Value} (named : name.isSome) (printable : Printable v)
    (first : ReadsBack v) {fuel : Nat}
    (enough : (v.render level).length + (renderMembers level members).length + 1 < fuel)
    (outer : Nat) (rest : List Char) :
    readMembers fuel (memberText level name v
        (renderMembers level members ++ (newline outer ++ '\x7D' :: rest))) =
      some ((name, v) :: members, rest) := by
  induction members generalizing name v fuel with
  | nil =>
    cases fuel with
    | zero => exact absurd enough (Nat.not_lt_zero _)
    | succ fuel =>
      have close : skipBlanks (newline outer ++ '\x7D' :: rest) = '\x7D' :: rest := by
        rw [skipBlanks_newline, skipBlanks_of_solid (by decide)]
      rw [renderMembers, List.nil_append]
      exact (readMembers_member named printable first (by omega) (ends_newline outer _)).1 rest close
  | cons next members ih =>
    cases fuel with
    | zero => exact absurd enough (Nat.not_lt_zero _)
    | succ fuel =>
      obtain ⟨⟨named', printable', second⟩, others⟩ := List.forall_mem_cons.mp each
      simp only [renderMembers, List.length_append, List.length_cons] at enough
      have fits : (next.2.render level).length + (renderMembers level members).length + 1 < fuel := by
        omega
      have later := ih others named' printable' second fits
      rw [renderMembers_cons]
      refine (readMembers_member named printable first (by omega) (ends_comma _)).2 _ _ _
        (skipBlanks_of_solid (by decide) _) ?_
      rw [skipBlanks_memberText, later]

theorem readsBack_object {members : List (Option String × Value)}
    (each : ∀ member ∈ members, member.1.isSome ∧ Printable member.2 ∧ ReadsBack member.2) :
    ReadsBack (.object members) := by
  intro level fuel rest enough ends
  cases fuel with
  | zero => exact absurd enough (Nat.not_lt_zero _)
  | succ fuel =>
    cases members with
    | nil => rfl
    | cons member members =>
      obtain ⟨name, v⟩ := member
      obtain ⟨⟨named, printable, first⟩, others⟩ := List.forall_mem_cons.mp each
      simp only [render, List.length_append, List.length_cons, newline, List.length_nil] at enough
      have fits : (v.render (level + 1)).length + (renderMembers (level + 1) members).length + 1 <
          fuel := by omega
      have read := readMembers_render others named printable first fits level rest
      rw [render_object, readValue, skipBlanks_memberText]
      split
      case h_1 same => exact absurd (List.cons.inj same).1 (by decide)
      case h_2 =>
        rw [read]
        rfl

/-! ## The whole text -/

theorem Printable.readsBack {v : Value} (printable : Printable v) : ReadsBack v := by
  induction printable with
  | null =>
    rintro level (_ | fuel) rest enough ends
    · exact absurd enough (Nat.not_lt_zero _)
    · rfl
  | boolean b =>
    rintro level (_ | fuel) rest enough ends
    · exact absurd enough (Nat.not_lt_zero _)
    · cases b <;> rfl
  | natural n => exact readsBack_natural n
  | text s =>
    rintro level (_ | fuel) rest enough ends
    · exact absurd enough (Nat.not_lt_zero _)
    · have spelled : (ofString s).render level ++ rest =
          '"' :: (s.toList.flatMap escapeChar ++ '"' :: rest) := by
        simp [ofString, render, quoted]
      rw [spelled, readValue, readText_quoted]
      rfl
  | array each ih => exact readsBack_array fun item member => ⟨each item member, ih item member⟩
  | object named each ih =>
    exact readsBack_object fun member listed =>
      ⟨named member listed, each member listed, ih member listed⟩

theorem Value.read_pretty {v : Value} (printable : Printable v) : Value.read v.pretty = some v := by
  obtain ⟨c, later, start, solid, -⟩ := render_start printable 0
  have read := printable.readsBack 0 (2 * (v.render 0).length + 1) [] (by omega) (by simp [Ends])
  have front : skipBlanks (v.render 0) = v.render 0 := by
    rw [start, skipBlanks_of_solid solid]
  rw [List.append_nil] at read
  unfold Value.read pretty
  simp only [String.toList_ofList, front, read]
  rfl

end ProjectContext.Json
