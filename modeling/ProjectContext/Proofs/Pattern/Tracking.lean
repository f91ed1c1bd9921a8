import Mathlib.Data.List.Basic
import Mathlib.Data.List.TakeWhile
import ProjectContext.Proofs.Pattern.Scanning
import ProjectContext.Proofs.Text.Classes

/-!
# Reading along a pattern

Readers of texts that never go back, and patterns that go on from a place as such a reader goes on
in the text behind it (`Tracks`). A literal reads what it says (`tracks_literal`), a lazy run over a
line stops in front of the first mark (`tracks_lazyLine`), and a greedy run is read to its end where
what follows does not break it up (`attempt_many`).
-/

namespace ProjectContext.Pattern

/-! ## Reading texts -/

/-- The text behind one character of a kind. -/
def one? (f : Char → Bool) : List Char → Option (List Char)
  | [] => none
  | c :: rest => if f c then some rest else none

/-- The longest run of characters of a kind at the start of a text, if there is one, and the text
behind it. -/
def run? (f : Char → Bool) : List Char → Option (List Char × List Char)
  | [] => none
  | c :: rest => if f c then some (c :: rest.takeWhile f, rest.dropWhile f) else none

/-- The text behind the first place on the line where `mark` stands. -/
def behindOnLine? (mark : List Char) : List Char → Option (List Char)
  | [] => none
  | c :: rest =>
    match mark.isPrefixOf? (c :: rest) with
    | some behind => some behind
    | none => if c = '\n' then none else behindOnLine? mark rest

/-- Characters of a kind, at least one. -/
def IsRun (f : Char → Bool) (run : List Char) : Prop := run ≠ [] ∧ ∀ c ∈ run, f c

instance (f : Char → Bool) (run : List Char) : Decidable (IsRun f run) :=
  decidable_of_iff (run ≠ [] ∧ run.all f) (by rw [IsRun, List.all_eq_true])

/-- No character of a kind is at the start of a text. -/
def Stops (f : Char → Bool) (text : List Char) : Prop := ∀ c ∈ text.head?, f c = false

instance (f : Char → Bool) (text : List Char) : Decidable (Stops f text) :=
  decidable_of_iff (text.head?.all (!f ·)) (by simp [Stops, Option.all_eq_true])

theorem isPrefixOf?_of_ne {c d : Char} (other : d ≠ c) (word text : List Char) :
    (c :: word).isPrefixOf? (d :: text) = none := by
  rw [List.isPrefixOf?, if_neg]
  simpa using other.symm

theorem isPrefixOf?_of_stops {f : Char → Bool} {word : List Char} (nonempty : word ≠ [])
    (stops : Stops f word) {c : Char} (member : f c) (text : List Char) :
    word.isPrefixOf? (c :: text) = none := by
  obtain ⟨d, word, rfl⟩ := List.exists_cons_of_ne_nil nonempty
  refine isPrefixOf?_of_ne ?_ word text
  rintro rfl
  rw [stops c rfl] at member
  cases member

/-- Neither word begins the other one. -/
def Apart (word other : List Char) : Prop := ¬ word <+: other ∧ ¬ other <+: word

theorem Apart.symm {word other : List Char} (apart : Apart word other) : Apart other word :=
  ⟨apart.2, apart.1⟩

instance (word other : List Char) : Decidable (Apart word other) :=
  inferInstanceAs (Decidable (_ ∧ _))

theorem isPrefixOf?_of_apart {word other text : List Char} (apart : Apart word other)
    (first : word <+: text) : other.isPrefixOf? text = none := by
  rw [Option.eq_none_iff_forall_ne_some]
  intro rest found
  have second : other <+: text := ⟨rest, List.isPrefixOf?_eq_some_iff_append_eq.mp found⟩
  exact (List.prefix_or_prefix_of_prefix first second).elim apart.1 apart.2

theorem findSome?_isPrefixOf? {words : List (List Char)} (apart : words.Pairwise Apart)
    {word : List Char} (member : word ∈ words) (rest : List Char) :
    words.findSome? (·.isPrefixOf? (word ++ rest)) = some rest := by
  obtain ⟨front, back, rfl⟩ := List.append_of_mem member
  refine List.findSome?_eq_some_iff.mpr ⟨front, word, back, rfl,
    List.isPrefixOf?_eq_some_iff_append_eq.mpr rfl, fun other earlier => ?_⟩
  have split := (List.pairwise_append.mp apart).2.2 other earlier word List.mem_cons_self
  exact isPrefixOf?_of_apart split.symm (List.prefix_append word rest)

theorem isPrefixOf?_append (a b text : List Char) :
    (a ++ b).isPrefixOf? text = (a.isPrefixOf? text).bind b.isPrefixOf? := by
  induction a generalizing text with
  | nil => rfl
  | cons c a ih =>
    cases text with
    | nil => rfl
    | cons d text =>
      rw [List.cons_append, List.isPrefixOf?, List.isPrefixOf?]
      split
      · exact ih text
      · rfl

theorem run?_eq_some {f : Char → Bool} {text run rest : List Char}
    (read : run? f text = some (run, rest)) : text = run ++ rest ∧ run ≠ [] := by
  cases text with
  | nil => cases read
  | cons c text =>
    rw [run?] at read
    split at read
    · cases read
      exact ⟨congrArg (c :: ·) List.takeWhile_append_dropWhile.symm, List.cons_ne_nil _ _⟩
    · cases read

theorem stops_of_run {f g : Char → Bool} (apart : ∀ c, g c → f c = false) {run : List Char}
    (isRun : IsRun g run) (rest : List Char) : Stops f (run ++ rest) := by
  obtain ⟨nonempty, all⟩ := isRun
  obtain ⟨c, run, rfl⟩ := List.exists_cons_of_ne_nil nonempty
  rintro _ ⟨⟩
  exact apart c (all c List.mem_cons_self)

theorem takeWhile_of_stops {f : Char → Bool} {run rest : List Char} (all : ∀ c ∈ run, f c)
    (stops : Stops f rest) : (run ++ rest).takeWhile f = run ∧ (run ++ rest).dropWhile f = rest := by
  rw [List.takeWhile_append_of_pos all, List.dropWhile_append_of_pos all]
  cases rest with
  | nil => simp
  | cons c rest =>
    have other : f c = false := stops c rfl
    simp [other]

/-- A text has one cut behind its characters of a kind. -/
theorem append_unique {f : Char → Bool} {run run' rest rest' : List Char} (all : ∀ c ∈ run, f c)
    (stops : Stops f rest) (all' : ∀ c ∈ run', f c) (stops' : Stops f rest')
    (same : run ++ rest = run' ++ rest') : run = run' ∧ rest = rest' := by
  obtain ⟨taken, dropped⟩ := takeWhile_of_stops all stops
  obtain ⟨taken', dropped'⟩ := takeWhile_of_stops all' stops'
  rw [same] at taken dropped
  exact ⟨taken.symm.trans taken', dropped.symm.trans dropped'⟩

theorem run?_eq_some_iff {f : Char → Bool} {text run rest : List Char} :
    run? f text = some (run, rest) ↔ text = run ++ rest ∧ IsRun f run ∧ Stops f rest := by
  constructor
  · intro read
    obtain ⟨whole, nonempty⟩ := run?_eq_some read
    refine ⟨whole, ⟨nonempty, ?_⟩, ?_⟩
    · cases text with
      | nil => cases read
      | cons c text =>
        rw [run?] at read
        split at read
        · next first =>
          cases read
          exact List.forall_mem_cons.mpr ⟨first, fun d => List.mem_takeWhile_imp⟩
        · cases read
    · cases text with
      | nil => cases read
      | cons c text =>
        rw [run?] at read
        split at read
        · cases read
          intro d first
          have stopped := List.head?_dropWhile_not f text
          rw [Option.mem_def.mp first] at stopped
          exact stopped
        · cases read
  · rintro ⟨rfl, ⟨nonempty, all⟩, stops⟩
    obtain ⟨c, run, rfl⟩ := List.exists_cons_of_ne_nil nonempty
    obtain ⟨first, others⟩ := List.forall_mem_cons.mp all
    obtain ⟨taken, dropped⟩ := takeWhile_of_stops others stops
    rw [List.cons_append, run?, if_pos first, taken, dropped]

/-- The text behind a mark that comes behind some characters of a kind. -/
theorem isPrefixOf?_dropWhile_eq_some (f : Char → Bool) (c : Char) (other : f c = false)
    {text rest : List Char} : [c].isPrefixOf? (text.dropWhile f) = some rest ↔
      ∃ run, text = run ++ c :: rest ∧ ∀ d ∈ run, f d := by
  rw [List.isPrefixOf?_eq_some_iff_append_eq]
  constructor
  · intro found
    refine ⟨text.takeWhile f, ?_, fun d => List.mem_takeWhile_imp⟩
    exact List.takeWhile_append_dropWhile.symm.trans (congrArg _ found.symm)
  · rintro ⟨run, rfl, all⟩
    have stops : Stops f (c :: rest) := by
      rintro _ ⟨⟩
      exact other
    rw [(takeWhile_of_stops all stops).2]
    rfl

theorem behindOnLine?_suffix {mark text rest : List Char}
    (read : behindOnLine? mark text = some rest) : rest <:+ text := by
  induction text with
  | nil => cases read
  | cons c text ih =>
    rw [behindOnLine?] at read
    split at read
    · next behind found =>
      cases read
      exact ⟨mark, List.isPrefixOf?_eq_some_iff_append_eq.mp found⟩
    · split at read
      · cases read
      · exact (ih read).trans (List.suffix_cons c text)

namespace Place

variable {p q : Place} {set : CharSet} {step next : Place → Option Place}
  {f g : List Char → Option (List Char)}

/-- Going on from a place comes to where a text has been read to. -/
structure Arrives (p : Place) (found : Option Place) (read : Option (List Char)) : Prop where
  fails : read = none → found = none
  succeeds : ∀ rest, read = some rest →
    ∃ q, found = some q ∧ q.rest = rest ∧ p.Reaches q ∧ q.group = p.group

/-- The step goes on from each place as `f` reads on in the text. -/
def Tracks (step : Place → Option Place) (f : List Char → Option (List Char)) : Prop :=
  ∀ p : Place, p.Arrives (step p) (f p.rest)

theorem arrives_none (p : Place) : p.Arrives none none := ⟨fun _ => rfl, nofun⟩

theorem arrives_some (reached : p.Reaches q) (group : q.group = p.group) :
    p.Arrives (some q) (some q.rest) :=
  ⟨nofun, fun _ read => ⟨q, rfl, Option.some.inj read, reached, group⟩⟩

theorem Arrives.of_reaches {found : Option Place} {read : Option (List Char)}
    (arrives : q.Arrives found read) (reached : p.Reaches q) (group : q.group = p.group) :
    p.Arrives found read where
  fails := arrives.fails
  succeeds rest text := by
    obtain ⟨r, found, same, further, kept⟩ := arrives.succeeds rest text
    exact ⟨r, found, same, reached.trans further, kept.trans group⟩

theorem Tracks.steady (tracks : Tracks step f) : Steady step := by
  intro p q alike
  obtain ⟨-, same⟩ := alike
  cases read : f p.rest with
  | none => rw [(tracks p).fails read, (tracks q).fails (same ▸ read)]
  | some rest =>
    obtain ⟨r, first, -⟩ := (tracks p).succeeds rest read
    obtain ⟨s, second, -⟩ := (tracks q).succeeds rest (same ▸ read)
    rw [first, second]
    rfl

theorem tracks_some : Tracks some some := fun p => arrives_some (.refl p) rfl

theorem Tracks.bind (first : Tracks step f) (second : Tracks next g) :
    Tracks (fun p => (step p).bind next) (fun text => (f text).bind g) := by
  intro p
  cases read : f p.rest with
  | none =>
    simp only [read, (first p).fails read, Option.bind_none]
    exact arrives_none p
  | some rest =>
    obtain ⟨q, found, rfl, reached, group⟩ := (first p).succeeds rest read
    simp only [read, found, Option.bind_some]
    exact (second q).of_reaches reached group

theorem Tracks.or (first : Tracks step f) (second : Tracks next g) :
    Tracks (fun p => (step p).or (next p)) (fun text => (f text).or (g text)) := by
  intro p
  cases read : f p.rest with
  | none =>
    simp only [read, (first p).fails read, Option.none_or]
    exact second p
  | some rest =>
    have tried := first p
    obtain ⟨q, found, -⟩ := tried.succeeds rest read
    simp only [read, found, Option.some_or] at tried ⊢
    exact tried

theorem Tracks.skip (tracks : Tracks step f) (set : CharSet) :
    Tracks (fun p => step (p.skip set)) (fun text => f (text.dropWhile set.mem)) := by
  intro p
  obtain ⟨reached, group⟩ := reaches_skip set p
  simp only [← skip_rest set p]
  exact (tracks _).of_reaches reached group

theorem single_mem (c d : Char) : (CharSet.single c).mem d = (c == d) := by
  have order : (c ≤ d ∧ d ≤ c) ↔ c = d :=
    ⟨fun ⟨le, ge⟩ => Char.le_antisymm le ge, by rintro rfl; simp⟩
  rw [Bool.eq_iff_iff]
  simpa [CharSet.single, CharSet.mem] using order

theorem mem_single (c : Char) : (CharSet.single c).mem = (· == c) := by
  funext d
  rw [single_mem, Bool.beq_comm]

theorem mem_compl_single (c : Char) : (CharSet.compl (.single c)).mem = (· != c) := by
  funext d
  rw [CharSet.mem, mem_single]
  rfl

theorem mem_other (c d : Char) : (CharSet.compl (.single c)).mem d ↔ d ≠ c := by
  rw [CharSet.mem, single_mem, Bool.not_eq_true', beq_eq_false_iff_ne]
  exact ne_comm

/-- Reading the characters of a text one after the other. -/
def literal? : List Char → Place → Option Place
  | [], p => some p
  | c :: cs, p => (p.read? (.single c)).bind (literal? cs)

theorem tracks_literal? (cs : List Char) : Tracks (literal? cs) cs.isPrefixOf? := by
  induction cs with
  | nil => exact fun p => arrives_some (.refl p) rfl
  | cons c cs ih =>
    intro p
    cases text : p.rest with
    | nil =>
      rw [literal?, read?_of_nil text]
      exact arrives_none p
    | cons d rest =>
      rw [List.isPrefixOf?, literal?, ← single_mem]
      by_cases same : (CharSet.single c).mem d
      · rw [if_pos same, read?_of_mem text same, Option.bind_some]
        exact (ih _).of_reaches ⟨[d], text, rfl⟩ rfl
      · rw [if_neg same, read?_of_not_mem text same]
        exact arrives_none p

theorem tracks_read? (set : CharSet) : Tracks (read? set) (one? set.mem) := by
  intro p
  cases text : p.rest with
  | nil =>
    rw [read?_of_nil text]
    exact arrives_none p
  | cons c rest =>
    by_cases member : set.mem c
    · rw [read?_of_mem text member, one?, if_pos member]
      exact arrives_some ⟨[c], text, rfl⟩ rfl
    · rw [read?_of_not_mem text member, one?, if_neg member]
      exact arrives_none p

theorem tracks_findSome? (words : List (List Char)) :
    Tracks (fun p => words.findSome? fun word => p.literal? word)
      (fun text => words.findSome? (·.isPrefixOf? text)) := by
  induction words with
  | nil => exact arrives_none
  | cons word words ih =>
    have unfolded {α : Type} (f : List Char → Option α) :
        (word :: words).findSome? f = (f word).or (words.findSome? f) := by
      rw [List.findSome?_cons]
      cases f word <;> rfl
    simp only [unfolded]
    exact (tracks_literal? word).or ih

/-- The end of the longest run of characters of a set, if that is not empty. -/
def over? (set : CharSet) (p : Place) : Option Place := (p.read? set).map (·.skip set)

theorem tracks_over? (set : CharSet) :
    Tracks (over? set) (fun text => (run? set.mem text).map (·.2)) := by
  intro p
  cases text : p.rest with
  | nil =>
    rw [over?, read?_of_nil text]
    exact arrives_none p
  | cons c rest =>
    by_cases member : set.mem c
    · simp only [over?, run?, read?_of_mem text member, if_pos member, Option.map_some]
      exact (tracks_some.skip set _).of_reaches ⟨[c], text, rfl⟩ rfl
    · simp only [over?, run?, read?_of_not_mem text member, if_neg member, Option.map_none]
      exact arrives_none p

end Place

namespace Node

open Place

variable {set : CharSet} {k : Place → Option Place} {tail : List Char → Option (List Char)}
  {nodes : List Node}

theorem attempt_literal (steady : Steady k) (cs : List Char) (p : Place) :
    (literal cs).attempt k p = (p.literal? cs).bind k := by
  induction cs generalizing p with
  | nil => exact attempt_empty k p
  | cons c cs ih =>
    cases cs with
    | nil => simp [literal, literal?, attempt_chars]
    | cons d cs =>
      have unfolded : literal (c :: d :: cs) = .seq (.chars (.single c)) (literal (d :: cs)) := rfl
      rw [unfolded, attempt_seq (.chars _) (plain_literal (List.cons_ne_nil d cs)) steady,
        attempt_chars, literal?, Option.bind_assoc]
      exact congrArg _ (funext ih)

theorem tracks_literal (word : List Char) (tracks : Tracks k tail) :
    Tracks ((literal word).attempt k) (fun text => (word.isPrefixOf? text).bind tail) := by
  rw [funext (attempt_literal tracks.steady word)]
  exact (tracks_literal? word).bind tracks

/-- A greedy run in front of a text that begins with no character of the run. -/
theorem tracks_run_literal (set : CharSet) (c : Char) (other : ¬ set.mem c) (word : List Char)
    (tracks : Tracks k tail) :
    Tracks ((run none true set).attempt ((literal (c :: word)).attempt k))
      (fun text => ((c :: word).isPrefixOf? (text.dropWhile set.mem)).bind tail) := by
  have marked := tracks_literal (c :: word) tracks
  have stuck (q r : Place) (read : q.read? set = some r) :
      (literal (c :: word)).attempt k q = none := by
    obtain ⟨-, -, d, member, text⟩ := reaches_of_read? read
    have apart : d ≠ c := fun same => other (same ▸ member)
    have unread : ((c :: word).isPrefixOf? q.rest).bind tail = none := by
      rw [text, isPrefixOf?_of_ne apart]
      rfl
    exact (marked q).fails unread
  rw [funext (attempt_run_greedy stuck)]
  exact marked.skip set

/-- As few characters of the line as possible. -/
def lazyLine : Node := .run none false (.compl (.single '\n'))

theorem plain_lazyLine : Plain lazyLine := .run false _

/-- A lazy run over a line stops in front of the first mark. -/
theorem tracks_lazyLine {mark : List Char} (nonempty : mark ≠ [])
    (tracks : Tracks k mark.isPrefixOf?) : Tracks (lazyLine.attempt k) (behindOnLine? mark) := by
  intro p
  induction p using run_induction (.compl (.single '\n')) with
  | stop p stop =>
    have tried := tracks p
    rw [lazyLine, attempt_run_lazy, stop, Option.bind_none, Option.or_none]
    cases text : p.rest with
    | nil =>
      obtain ⟨c, mark, rfl⟩ := List.exists_cons_of_ne_nil nonempty
      rwa [text] at tried
    | cons c rest =>
      have newline : c = '\n' := by
        by_cases member : (CharSet.compl (.single '\n')).mem c
        · rw [read?_of_mem text member] at stop
          cases stop
        · exact Decidable.not_not.mp (mt (mem_other '\n' c).mpr member)
      rw [text] at tried
      rw [behindOnLine?, if_pos newline]
      cases marked : mark.isPrefixOf? (c :: rest) with
      | none => rwa [marked] at tried
      | some behind => rwa [marked] at tried
  | read p q read ih =>
    obtain ⟨reached, group, c, member, text⟩ := reaches_of_read? read
    have other : c ≠ '\n' := (mem_other '\n' c).mp member
    have tried := tracks p
    rw [text] at tried
    rw [lazyLine, attempt_run_lazy, read, Option.bind_some, text, behindOnLine?, if_neg other]
    cases marked : mark.isPrefixOf? (c :: q.rest) with
    | none =>
      rw [marked] at tried
      rw [tried.fails rfl, Option.none_or]
      exact ih.of_reaches reached group
    | some behind =>
      rw [marked] at tried
      obtain ⟨r, found, -⟩ := tried.succeeds behind rfl
      rw [found] at tried ⊢
      exact tried

/-- Where one of two ways on rules out the other, it does not matter what follows. -/
theorem or_bind {a b : Option Place} (apart : a.isSome → b = none) (k : Place → Option Place) :
    (a.bind k).or (b.bind k) = (a.or b).bind k := by
  cases a with
  | none => rfl
  | some q =>
    rw [apart rfl, Option.bind_none, Option.or_none]
    rfl

theorem isPrefixOf_of_literal? {word : List Char} {p : Place} (read : (p.literal? word).isSome) :
    word <+: p.rest := by
  cases found : word.isPrefixOf? p.rest with
  | none =>
    rw [(tracks_literal? word p).fails found] at read
    cases read
  | some rest => exact ⟨rest, List.isPrefixOf?_eq_some_iff_append_eq.mp found⟩

/-- A choice between words that cannot be mistaken for one another. -/
theorem attempt_words (steady : Steady k) (words front : List (List Char))
    (apart : (front ++ words).Pairwise Apart) {x : Node} {p : Place}
    (chosen : x.attempt k p = (front.findSome? fun word => p.literal? word).bind k) :
    (words.foldl (fun x word => .alt x (literal word)) x).attempt k p =
      ((front ++ words).findSome? fun word => p.literal? word).bind k := by
  induction words generalizing front x with
  | nil => rwa [List.append_nil]
  | cons word words ih =>
    have rearranged : front ++ word :: words = (front ++ [word]) ++ words := by simp
    rw [rearranged] at apart ⊢
    refine ih (front ++ [word]) apart ?_
    rw [attempt_alt, chosen, attempt_literal steady, List.findSome?_append, ← or_bind]
    · simp
    · intro found
      obtain ⟨q, found⟩ := Option.isSome_iff_exists.mp found
      obtain ⟨other, member, read⟩ := List.exists_of_findSome?_eq_some found
      have split := (List.pairwise_append.mp (List.pairwise_append.mp apart).1).2.2 other member word
        (List.mem_singleton_self word)
      have begins := isPrefixOf_of_literal? (Option.isSome_of_eq_some read)
      simp [(tracks_literal? word p).fails (isPrefixOf?_of_apart split begins)]

/-- A run of characters of a set that is not empty. -/
def many (set : CharSet) : Node := .seq (.chars set) (.run none true set)

theorem plain_many (set : CharSet) : Plain (many set) := .seq (.chars set) (.run true set)

theorem attempt_many_carried (steady : Steady k)
    (carries : ∀ q r, q.read? set = some r → (k q).isSome → (k r).isSome) (p : Place) :
    (many set).attempt k p = (p.over? set).bind k := by
  rw [many, attempt_seq (.chars set) (.run true set) steady, attempt_chars, over?, Option.bind_map]
  exact congrArg _ (funext (attempt_run_carried carries))

/-- Going on needs a character of the set. -/
def Begins (set : CharSet) (k : Place → Option Place) : Prop := ∀ q, q.read? set = none → k q = none

theorem begins_over? (set : CharSet) (k : Place → Place → Option Place) :
    Begins set fun p => (p.over? set).bind (k p) := by
  intro q unread
  have nothing : q.over? set = none := by
    rw [over?, unread]
    rfl
  simp only [nothing, Option.bind_none]

/-- A run is read to its end where a character comes next that it does not hold. -/
theorem attempt_many {next : CharSet} (steady : Steady k) (begins : Begins next k)
    (apart : ∀ c, set.mem c → next.mem c = false) (p : Place) :
    (many set).attempt k p = (p.over? set).bind k := by
  refine attempt_many_carried steady (fun q r read success => ?_) p
  obtain ⟨-, -, c, member, text⟩ := reaches_of_read? read
  have unread : q.read? next = none := read?_of_not_mem text (by simp [apart c member])
  rw [begins q unread] at success
  cases success

end Node

end ProjectContext.Pattern
