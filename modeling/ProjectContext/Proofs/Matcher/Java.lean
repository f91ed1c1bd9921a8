import ProjectContext.Proofs.Matcher.JavaScript

/-!
# Methods of Java

A method begins with a modifier or a space character; blanks, its type, space, its name, perhaps
blanks, and parameters in parentheses follow. A text begins in this way with one method head at most
(`MethodHead.unique`), and the built-in pattern for Java finds what a scanner finds that never goes
back (`java_methods_scanned`).
-/

namespace ProjectContext

open Pattern Pattern.Place Pattern.Node

def modifiers : List (List Char) :=
  ["public".toList, "private".toList, "protected".toList, "static".toList]

def isTypeChar (c : Char) : Bool :=
  Unicode.isWord c || c == '<' || c == '>' || c == '[' || c == ']'

/-! ## The reader -/

/-- Behind a modifier or one space character. -/
def methodStart? (text : List Char) : Option (List Char) :=
  (modifiers.findSome? (·.isPrefixOf? text)).or (one? Unicode.isSpace text)

def behindRun? (f : Char → Bool) (text : List Char) : Option (List Char) := (run? f text).map (·.2)

/-- Up to the name of a method. -/
def methodLead? (text : List Char) : Option (List Char) := do
  let text ← methodStart? text
  let text ← behindRun? (· == ' ') text
  let text ← behindRun? isTypeChar text
  behindRun? Unicode.isSpace text

/-- Behind blanks and an opening brace, if one comes there. -/
def behindBrace (text : List Char) : List Char :=
  let text := text.dropWhile (· == ' ')
  (['\x7B'].isPrefixOf? text).getD text

/-- Behind the name of a method. -/
def methodTail? (text : List Char) : Option (List Char) := do
  let text ← ['('].isPrefixOf? (text.dropWhile (· == ' '))
  let text ← [')'].isPrefixOf? (text.dropWhile (· != ')'))
  return behindBrace text

/-- The ways in which a method may begin. -/
def IsMethodStart (start : List Char) : Prop :=
  start ∈ modifiers ∨ ∃ c, Unicode.isSpace c ∧ start = [c]

theorem modifiers_apart : modifiers.Pairwise Apart := by decide

theorem modifiers_spaceless : ∀ word ∈ modifiers, word ≠ [] ∧ Stops Unicode.isSpace word := by decide

theorem findSome?_modifiers_of_space {c : Char} (space : Unicode.isSpace c) (rest : List Char) :
    modifiers.findSome? (·.isPrefixOf? (c :: rest)) = none := by
  rw [List.findSome?_eq_none_iff]
  intro word member
  obtain ⟨nonempty, stops⟩ := modifiers_spaceless word member
  exact isPrefixOf?_of_stops nonempty stops space rest

theorem methodStart?_eq_some {text rest : List Char} : methodStart? text = some rest ↔
    ∃ start, IsMethodStart start ∧ text = start ++ rest := by
  rw [methodStart?, Option.or_eq_some_iff]
  constructor
  · rintro (found | ⟨-, found⟩)
    · obtain ⟨word, member, read⟩ := List.exists_of_findSome?_eq_some found
      exact ⟨word, .inl member, (List.isPrefixOf?_eq_some_iff_append_eq.mp read).symm⟩
    · cases text with
      | nil => cases found
      | cons c text =>
        rw [one?] at found
        split at found
        · next space =>
          cases found
          exact ⟨[c], .inr ⟨c, space, rfl⟩, rfl⟩
        · cases found
  · rintro ⟨start, member | ⟨c, space, rfl⟩, rfl⟩
    · exact .inl (findSome?_isPrefixOf? modifiers_apart member rest)
    · refine .inr ⟨findSome?_modifiers_of_space space rest, ?_⟩
      rw [List.singleton_append, one?, if_pos space]

theorem not_isTypeChar_of_isSpace {c : Char} (space : Unicode.isSpace c) : isTypeChar c = false := by
  have mark {d : Char} (other : ¬ Unicode.isSpace d) : (c == d) = false := by
    rw [beq_eq_false_iff_ne]
    rintro rfl
    exact other space
  simp only [isTypeChar, Unicode.not_isWord_of_isSpace space, Bool.false_or]
  rw [mark (by decide), mark (by decide), mark (by decide), mark (by decide)]
  rfl

theorem not_isSpace_of_isTypeChar {c : Char} (member : isTypeChar c) : Unicode.isSpace c = false := by
  cases space : Unicode.isSpace c with
  | false => rfl
  | true =>
    rw [not_isTypeChar_of_isSpace space] at member
    cases member

theorem not_blank_of_isTypeChar {c : Char} (member : isTypeChar c) : (c == ' ') = false := by
  rw [beq_eq_false_iff_ne]
  rintro rfl
  exact absurd member (by decide +kernel)

theorem behindRun?_eq_some {f : Char → Bool} {text rest : List Char} :
    behindRun? f text = some rest ↔ ∃ run, text = run ++ rest ∧ IsRun f run ∧ Stops f rest := by
  simp only [behindRun?, Option.map_eq_some_iff, Prod.exists, run?_eq_some_iff]
  constructor
  · rintro ⟨run, _, read, rfl⟩
    exact ⟨run, read⟩
  · rintro ⟨run, read⟩
    exact ⟨run, rest, read, rfl⟩

theorem methodLead?_eq_some {text rest : List Char} : methodLead? text = some rest ↔
    ∃ start gap type space, text = start ++ (gap ++ (type ++ (space ++ rest))) ∧
      IsMethodStart start ∧ IsRun (· == ' ') gap ∧ IsRun isTypeChar type ∧
      IsRun Unicode.isSpace space ∧ Stops Unicode.isSpace rest := by
  simp only [methodLead?, Option.bind_eq_bind, Option.bind_eq_some_iff, methodStart?_eq_some,
    behindRun?_eq_some]
  constructor
  · rintro ⟨_, ⟨start, starts, rfl⟩, _, ⟨gap, rfl, blank, -⟩, _, ⟨type, rfl, typed, -⟩, space, rfl,
      spaced, stops⟩
    exact ⟨start, gap, type, space, rfl, starts, blank, typed, spaced, stops⟩
  · rintro ⟨start, gap, type, space, rfl, starts, blank, typed, spaced, stops⟩
    exact ⟨_, ⟨start, starts, rfl⟩, _,
      ⟨gap, rfl, blank, stops_of_run (fun _ => not_blank_of_isTypeChar) typed _⟩, _,
      ⟨type, rfl, typed, stops_of_run (fun _ => not_isTypeChar_of_isSpace) spaced rest⟩,
      space, rfl, spaced, stops⟩

theorem methodTail?_eq_some {text rest : List Char} : methodTail? text = some rest ↔
    ∃ inset parameters behind, text = inset ++ '(' :: (parameters ++ ')' :: behind) ∧
      (∀ c ∈ inset, c = ' ') ∧ ')' ∉ parameters ∧ behindBrace behind = rest := by
  have opened := @isPrefixOf?_dropWhile_eq_some (· == ' ') '(' (by decide)
  have closed := @isPrefixOf?_dropWhile_eq_some (· != ')') ')' (by decide)
  simp only [methodTail?, Option.bind_eq_bind, Option.bind_eq_some_iff, Option.pure_def,
    Option.some.injEq, opened, closed, beq_iff_eq, bne_iff_ne]
  constructor
  · rintro ⟨_, ⟨inset, rfl, blank⟩, behind, ⟨parameters, rfl, inner⟩, rfl⟩
    exact ⟨inset, parameters, behind, rfl, blank, fun member => inner ')' member rfl, rfl⟩
  · rintro ⟨inset, parameters, behind, rfl, blank, inner, rfl⟩
    exact ⟨_, ⟨inset, rfl, blank⟩, behind,
      ⟨parameters, rfl, fun c member same => inner (same ▸ member)⟩, rfl⟩

theorem methodLead?_suffix {text rest : List Char} (read : methodLead? text = some rest) :
    rest <:+ text := by
  obtain ⟨start, gap, type, space, rfl, -⟩ := methodLead?_eq_some.mp read
  exact ⟨start ++ gap ++ type ++ space, by simp⟩

theorem behindBrace_suffix (text : List Char) : behindBrace text <:+ text := by
  have dropped : text.dropWhile (· == ' ') <:+ text := List.dropWhile_suffix _
  unfold behindBrace
  cases brace : ['\x7B'].isPrefixOf? (text.dropWhile (· == ' ')) with
  | none => simpa [brace] using dropped
  | some rest =>
    have inner : rest <:+ text.dropWhile (· == ' ') :=
      ⟨['\x7B'], List.isPrefixOf?_eq_some_iff_append_eq.mp brace⟩
    simpa [brace] using inner.trans dropped

theorem methodTail?_suffix {text rest : List Char} (read : methodTail? text = some rest) :
    rest <:+ text := by
  obtain ⟨inset, parameters, behind, rfl, -, -, rfl⟩ := methodTail?_eq_some.mp read
  exact (behindBrace_suffix behind).trans ⟨inset ++ '(' :: (parameters ++ [')']), by simp⟩

def javaMethods : DeclarationReader :=
  .named methodLead? methodTail? methodLead?_suffix methodTail?_suffix

/-! ## The parts of a method -/

/-- The parts of a method up to the parenthesis that closes its parameters. -/
structure MethodHead where
  start : List Char
  gap : List Char
  type : List Char
  space : List Char
  name : List Char
  inset : List Char
  parameters : List Char

namespace MethodHead

def inFrontOf (h : MethodHead) (behind : List Char) : List Char :=
  h.start ++ (h.gap ++ (h.type ++ (h.space ++ (h.name ++ (h.inset ++
    '(' :: (h.parameters ++ ')' :: behind))))))

/-- Each part is of its kind, however long it is. -/
structure Sound (h : MethodHead) : Prop where
  start : IsMethodStart h.start
  gap : IsRun (· == ' ') h.gap
  type : IsRun isTypeChar h.type
  space : IsRun Unicode.isSpace h.space
  name : IsRun Unicode.isWord h.name
  inset : ∀ c ∈ h.inset, c = ' '
  parameters : ')' ∉ h.parameters

theorem start_unique {start start' rest rest' : List Char} (starts : IsMethodStart start)
    (starts' : IsMethodStart start') (same : start ++ rest = start' ++ rest') :
    start = start' ∧ rest = rest' := by
  have first : methodStart? (start ++ rest) = some rest :=
    methodStart?_eq_some.mpr ⟨start, starts, rfl⟩
  have second : methodStart? (start ++ rest) = some rest' :=
    methodStart?_eq_some.mpr ⟨start', starts', same⟩
  obtain rfl : rest = rest' := Option.some.inj (first.symm.trans second)
  exact ⟨List.append_cancel_right same, rfl⟩

theorem stops_inset {f : Char → Bool} (blank : f ' ' = false) (parenthesis : f '(' = false)
    {inset : List Char} (blanks : ∀ c ∈ inset, c = ' ') (rest : List Char) :
    Stops f (inset ++ '(' :: rest) := by
  cases inset with
  | nil =>
    rintro _ ⟨⟩
    exact parenthesis
  | cons c inset =>
    rintro _ ⟨⟩
    rw [blanks c List.mem_cons_self]
    exact blank

variable {h h' : MethodHead} {text name rest behind behind' : List Char}

/-- A text begins with one method head at most: each part ends where the next one begins. -/
theorem unique (sound : h.Sound) (sound' : h'.Sound)
    (same : h.inFrontOf behind = h'.inFrontOf behind') : h = h' ∧ behind = behind' := by
  obtain ⟨starts, gap, type, space, name, inset, parameters⟩ := sound
  obtain ⟨starts', gap', type', space', name', inset', parameters'⟩ := sound'
  obtain ⟨start, same⟩ := start_unique starts starts' same
  obtain ⟨first, same⟩ := append_unique gap.2 (stops_of_run (fun _ => not_blank_of_isTypeChar) type _)
    gap'.2 (stops_of_run (fun _ => not_blank_of_isTypeChar) type' _) same
  obtain ⟨second, same⟩ := append_unique type.2
    (stops_of_run (fun _ => not_isTypeChar_of_isSpace) space _) type'.2
    (stops_of_run (fun _ => not_isTypeChar_of_isSpace) space' _) same
  obtain ⟨third, same⟩ := append_unique space.2
    (stops_of_run (fun _ => Unicode.not_isSpace_of_isWord) name _) space'.2
    (stops_of_run (fun _ => Unicode.not_isSpace_of_isWord) name' _) same
  have blank : Unicode.isWord ' ' = false := by decide +kernel
  have parenthesis : Unicode.isWord '(' = false := by decide +kernel
  obtain ⟨fourth, same⟩ := append_unique name.2 (stops_inset blank parenthesis inset _) name'.2
    (stops_inset blank parenthesis inset' _) same
  have opens (rest : List Char) : Stops (· == ' ') ('(' :: rest) := by
    rintro _ ⟨⟩
    rfl
  obtain ⟨fifth, same⟩ := append_unique (fun c member => beq_iff_eq.mpr (inset c member)) (opens _)
    (fun c member => beq_iff_eq.mpr (inset' c member)) (opens _) same
  have closes (rest : List Char) : Stops (· != ')') (')' :: rest) := by
    rintro _ ⟨⟩
    rfl
  have inner {parameters : List Char} (none : ')' ∉ parameters) : ∀ c ∈ parameters, (c != ')') :=
    fun c member => bne_iff_ne.mpr fun equal => none (equal ▸ member)
  obtain ⟨sixth, same⟩ := append_unique (inner parameters) (closes behind) (inner parameters')
    (closes behind') (List.cons.inj same).2
  refine ⟨?_, (List.cons.inj same).2⟩
  rw [MethodHead.mk.injEq]
  exact ⟨start, first, second, third, fourth, fifth, sixth⟩

end MethodHead

theorem read_javaMethods {text name rest : List Char} :
    javaMethods.read text = some (name, rest) ↔ ∃ h : MethodHead, ∃ behind,
      h.Sound ∧ text = h.inFrontOf behind ∧ h.name = name ∧ behindBrace behind = rest := by
  rw [javaMethods, read_named]
  simp only [Option.bind_eq_some_iff, Option.map_eq_some_iff, Prod.exists, Prod.mk.injEq,
    methodLead?_eq_some, run?_eq_some_iff, methodTail?_eq_some]
  constructor
  · rintro ⟨_, ⟨start, gap, type, space, rfl, starts, blank, typed, spaced, -⟩, name, _,
      ⟨rfl, named, -⟩, _, ⟨inset, parameters, behind, rfl, blanks, inner, rfl⟩, rfl, rfl⟩
    exact ⟨⟨start, gap, type, space, name, inset, parameters⟩, behind,
      ⟨starts, blank, typed, spaced, named, blanks, inner⟩, rfl, rfl, rfl⟩
  · rintro ⟨⟨start, gap, type, space, name, inset, parameters⟩, behind, sound, rfl, rfl, rfl⟩
    have spaces : Stops Unicode.isSpace (name ++ (inset ++ '(' :: (parameters ++ ')' :: behind))) :=
      stops_of_run (fun _ => Unicode.not_isSpace_of_isWord) sound.name _
    have word : Stops Unicode.isWord (inset ++ '(' :: (parameters ++ ')' :: behind)) :=
      MethodHead.stops_inset (by decide +kernel) (by decide +kernel) sound.inset _
    exact ⟨_, ⟨start, gap, type, space, rfl, sound.start, sound.gap, sound.type, sound.space, spaces⟩,
      name, _, ⟨rfl, sound.name, word⟩, _,
      ⟨inset, parameters, behind, rfl, sound.inset, sound.parameters, rfl⟩, rfl, rfl⟩

/-! ## The pattern -/

def typeSet : CharSet :=
  .union (.union (.union (.union (.union .nothing .word) (.single '<')) (.single '>'))
    (.single '[')) (.single ']')

def modifierNode : Node :=
  ["private".toList, "protected".toList, "static".toList].foldl
    (fun x word => .alt x (literal word)) (literal "public".toList)

def methodLeadNodes : List Node :=
  [.join none (.alt modifierNode (.chars .space)), many (.single ' '), many typeSet, many .space]

def braceNode : Node := .join none (.upTo true [literal ['\x7B']])

def methodTailNodes : List Node :=
  [.run none true (.single ' '), literal ['('], .run none true (.compl (.single ')')), literal [')'],
    .run none true (.single ' '), braceNode]

set_option maxRecDepth 1000 in
theorem read_methodPattern : Node.read .standard (Convention.functionPattern .java).toList =
    .ok (sequence (methodLeadNodes ++ group (many .word) :: methodTailNodes)) := rfl

theorem mem_typeSet : typeSet.mem = isTypeChar := by
  funext c
  simp only [typeSet, CharSet.mem, mem_single, isTypeChar, Bool.false_or]

theorem plain_modifierNode : Plain modifierNode :=
  .alt (.alt (.alt (plain_literal nofun) (plain_literal nofun)) (plain_literal nofun))
    (plain_literal nofun)

theorem plain_braceNode : Plain braceNode := .join (.option true (plain_literal nofun))

theorem plain_methodNodes :
    ∀ x ∈ methodLeadNodes ++ group (many .word) :: methodTailNodes, Plain x := by
  simp only [methodLeadNodes, methodTailNodes, List.cons_append, List.nil_append,
    List.forall_mem_cons]
  exact ⟨.join (.alt plain_modifierNode (.chars _)), plain_many _, plain_many _, plain_many _,
    .group (plain_many _), .run true _, plain_literal nofun, .run true _, plain_literal nofun,
    .run true _, plain_braceNode, List.forall_mem_nil _⟩

/-! ## Up to the name -/

def methodStartStep (p : Place) : Option Place :=
  (modifiers.findSome? fun word => p.literal? word).or (p.read? .space)

def methodStep (p : Place) : Option Place :=
  (methodStartStep p).bind fun p => (p.over? (.single ' ')).bind fun p =>
    (p.over? typeSet).bind (over? .space)

theorem attempt_methodStart {k : Place → Option Place} (steady : Steady k) (p : Place) :
    (join none (alt modifierNode (.chars .space))).attempt k p = (methodStartStep p).bind k := by
  have words : modifierNode.attempt k p =
      (modifiers.findSome? fun word => p.literal? word).bind k :=
    attempt_words steady _ ["public".toList] modifiers_apart
      (by rw [attempt_literal steady, List.findSome?_singleton])
  have apart (found : (modifiers.findSome? fun word => p.literal? word).isSome) :
      p.read? .space = none := by
    cases text : p.rest with
    | nil => exact read?_of_nil text _
    | cons c rest =>
      refine read?_of_not_mem text fun space => ?_
      have absent : modifiers.findSome? (·.isPrefixOf? p.rest) = none := by
        rw [text]
        exact findSome?_modifiers_of_space space rest
      have unread : (modifiers.findSome? fun word => p.literal? word) = none :=
        (tracks_findSome? modifiers p).fails absent
      rw [unread] at found
      cases found
  rw [attempt_join (.alt plain_modifierNode (.chars _)) steady, attempt_alt, words, attempt_chars,
    or_bind apart, methodStartStep]

theorem leads_method : Leads methodLeadNodes methodStep := by
  intro k steady begins p
  -- From the last run to the first: each one ends where what follows it begins.
  have space (q : Place) : (many .space).attempt k q = (q.over? .space).bind k := by
    refine attempt_many steady begins (fun c member => ?_) q
    exact Unicode.not_isWord_of_isSpace member
  have steady₁ : Steady ((many .space).attempt k) := (plain_many _).steady_attempt steady
  have type (q : Place) : (many typeSet).attempt ((many .space).attempt k) q =
      (q.over? typeSet).bind fun q => (q.over? .space).bind k := by
    rw [attempt_many steady₁ (funext space ▸ begins_over? .space fun _ => k) fun c member => ?_]
    · exact congrArg _ (funext space)
    · rw [mem_typeSet] at member
      exact not_isSpace_of_isTypeChar member
  have steady₂ : Steady ((many typeSet).attempt ((many .space).attempt k)) :=
    (plain_many _).steady_attempt steady₁
  have gap (q : Place) :
      (many (.single ' ')).attempt ((many typeSet).attempt ((many .space).attempt k)) q =
        (q.over? (.single ' ')).bind fun q => (q.over? typeSet).bind fun q =>
          (q.over? .space).bind k := by
    rw [attempt_many steady₂ (funext type ▸ begins_over? typeSet fun _ => _) fun c member => ?_]
    · exact congrArg _ (funext type)
    · rw [mem_single, beq_iff_eq] at member
      rw [mem_typeSet, member]
      decide +kernel
  have steady₃ : Steady
      ((many (.single ' ')).attempt ((many typeSet).attempt ((many .space).attempt k))) :=
    (plain_many _).steady_attempt steady₂
  simp only [methodLeadNodes, List.foldr_cons, List.foldr_nil]
  rw [attempt_methodStart steady₃, funext gap, methodStep]
  simp only [Option.bind_assoc]

theorem tracks_methodLead : Tracks methodStep methodLead? := by
  have blanks : Tracks (over? (.single ' ')) (behindRun? (· == ' ')) :=
    mem_single ' ' ▸ tracks_over? (.single ' ')
  have type : Tracks (over? typeSet) (behindRun? isTypeChar) := mem_typeSet ▸ tracks_over? typeSet
  have start : Tracks methodStartStep methodStart? :=
    (tracks_findSome? modifiers).or (tracks_read? .space)
  exact start.bind (blanks.bind (type.bind (tracks_over? .space)))

/-! ## Behind the name -/

theorem tracks_brace : Tracks ((run none true (.single ' ')).attempt (braceNode.attempt some))
    fun text => some (behindBrace text) := by
  have brace : Tracks (braceNode.attempt some)
      fun text => (['\x7B'].isPrefixOf? text).or (some text) := by
    have opens := tracks_literal ['\x7B'] tracks_some
    simp only [Option.bind_fun_some] at opens
    have optional : Plain (.upTo true [literal ['\x7B']]) := .option true (plain_literal nofun)
    have tried (p : Place) : braceNode.attempt some p =
        ((literal ['\x7B']).attempt some p).or (some p) := by
      rw [braceNode, attempt_join optional steady_some, attempt_option, if_pos rfl]
    rw [funext tried]
    exact opens.or tracks_some
  have always (p : Place) : (braceNode.attempt some p).isSome := by
    obtain ⟨q, found, -⟩ := (brace p).succeeds _ (Option.or_some)
    rw [found]
    rfl
  rw [funext (attempt_run_carried fun q r _ _ => always r)]
  have skipped := brace.skip (.single ' ')
  simp only [mem_single, Option.or_some] at skipped
  exact skipped

theorem tracks_methodTail : Tracks (methodTailNodes.foldr attempt some) methodTail? := by
  have closed := tracks_run_literal (.compl (.single ')')) ')' (by decide) [] tracks_brace
  have opened := tracks_run_literal (.single ' ') '(' (by decide) [] closed
  simp only [mem_single, mem_compl_single] at opened
  exact opened

theorem methodTail?_stops (c : Char) (rest : List Char) (word : Unicode.isWord c) :
    methodTail? (c :: rest) = none := by
  have spaceless : c ≠ ' ' := by
    rintro rfl
    exact absurd word (by decide +kernel)
  have other : c ≠ '(' := by
    rintro rfl
    exact absurd word (by decide +kernel)
  rw [methodTail?, List.dropWhile_cons_of_neg (by simpa using spaceless), isPrefixOf?_of_ne other]
  rfl

theorem reads_javaMethods :
    Reads (sequence (methodLeadNodes ++ group (many .word) :: methodTailNodes)) javaMethods := by
  refine reads_named plain_methodNodes methodLead?_suffix methodTail?_suffix leads_method
    tracks_methodLead tracks_methodTail fun c rest word success => ?_
  rw [methodTail?_stops c rest word] at success
  cases success

/-- The scanner reads what a method head says, and there is one way at most to read a method at the
start of a text. -/
theorem java_methods_scanned :
    ∃ m, Convention.java.matcher? = .ok m ∧
      (∀ text : String, m.functions text = javaMethods.scan text.toList) ∧
      (∀ text name rest, javaMethods.read text = some (name, rest) ↔
        ∃ h : MethodHead, ∃ behind, h.Sound ∧ text = h.inFrontOf behind ∧ h.name = name ∧
          behindBrace behind = rest) ∧
      ∀ (h h' : MethodHead) (behind behind' : List Char), h.Sound → h'.Sound →
        h.inFrontOf behind = h'.inFrontOf behind' → h = h' ∧ behind = behind' := by
  refine ⟨_, Convention.matcher?_eq read_methodPattern (read_namePattern .java nofun), fun text => ?_,
    fun _ _ _ => read_javaMethods, fun _ _ _ _ => MethodHead.unique⟩
  exact groupTexts_eq_scan reads_javaMethods _

theorem static_method_scanned :
    ∃ m, Convention.java.matcher? = .ok m ∧ m.functions "static List<T>\nof(x) \x7B" = ["of"] := by
  obtain ⟨m, built, scanned, read, -⟩ := java_methods_scanned
  let head : MethodHead := ⟨"static".toList, " ".toList, "List<T>".toList, "\n".toList, "of".toList,
    [], "x".toList⟩
  have sound : head.Sound :=
    ⟨.inl (by decide), by decide, by decide +kernel, by decide +kernel, by decide +kernel,
      List.forall_mem_nil _, by decide⟩
  have first : javaMethods.read "static List<T>\nof(x) \x7B".toList = some ("of".toList, []) :=
    (read _ _ _).mpr ⟨head, " \x7B".toList, sound, rfl, rfl, rfl⟩
  refine ⟨m, built, ?_⟩
  rw [scanned, DeclarationReader.scan_of_read first, DeclarationReader.scan_nil]
  rfl

end ProjectContext
