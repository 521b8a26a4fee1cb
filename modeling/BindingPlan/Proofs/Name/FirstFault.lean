import BindingPlan.Proofs.Name.Completion

/-! # The first fault in the text of a type

Where a type cannot be read, the offset that is named is that of the first character that is wrong
(`firstFault_exactly`): the text in front of it can go on to a type (`Viable`), and with the character it
cannot. The first half is the completion of what was read. The second half is about the reader alone,
which looks at a character only when it gets there and never goes back: where it stops in front of a
character, with a type or with a fault, it stops there whatever the text behind that character is
(`Local`). Readers that go on from one another have that property if each of them has it
(`local_andThen`), and so has the whole reader (`local_read`). -/

namespace BindingPlan.TypeRef

open TypeGrammar

/-! ### Readers -/

/-- What reads a value at the start of a text and leaves the rest. -/
abbrev Reader (α : Type) :=
  List Char → Except Stop (α × List Char)

section Readers
variable {α β : Type}

/-- Takes nothing. -/
def answer (a : α) : Reader α :=
  fun s => .ok (a, s)

/-- Stops where it stands. -/
def expect (expectation : Expectation) : Reader α :=
  fun s => .error (.unexpected expectation s)

/-- Takes the characters of one sort. -/
def run (p : Char → Bool) : Reader (List Char) :=
  fun s => .ok (s.takeWhile p, s.dropWhile p)

/-- Judges the characters of a name that have been taken. -/
def judge (chars : List Char) : Reader ClassName :=
  fun s => className chars >>= fun name => .ok (name, s)

/-- Goes on from what has been read. -/
def andThen (read : Reader α) (next : α → Reader β) : Reader β :=
  fun s => read s >>= fun x => next x.1 x.2

/-- Takes the character and goes on behind it if it is next, and else leaves what there is. -/
def ifNext (c : Char) (behind other : Reader α) : Reader α
  | [] => other []
  | d :: s => if d = c then behind s else other (d :: s)

theorem ifNext_of_eq {c : Char} {behind other : Reader α} {s rest : List Char} (h : s = c :: rest) :
    ifNext c behind other s = behind rest := by
  rw [h, ifNext, if_pos rfl]

theorem ifNext_of_ne {c : Char} {behind other : Reader α} {s : List Char}
    (h : ∀ rest, s ≠ c :: rest) : ifNext c behind other s = other s := by
  cases s with
  | nil => rfl
  | cons d s =>
    have differs : d ≠ c := fun e => h s (e ▸ rfl)
    rw [ifNext, if_neg differs]

/-- Where a reader stopped, unless at a bad name. -/
def restOf? : Except Stop (α × List Char) → Option (List Char)
  | .ok (_, rest) => some rest
  | .error (.unexpected _ rest) => some rest
  | .error (.badName _) => none

/-- The same answer in front of another rest. -/
def withRest (rest : List Char) : Except Stop (α × List Char) → Except Stop (α × List Char)
  | .ok (a, _) => .ok (a, rest)
  | .error (.unexpected expectation _) => .error (.unexpected expectation rest)
  | .error (.badName text) => .error (.badName text)

/-- A reader takes a front of the text, and where it stops in front of a character it depends on nothing
behind that character. -/
structure Local (read : Reader α) : Prop where
  suffix : ∀ {s rest : List Char}, restOf? (read s) = some rest → rest <:+ s
  ahead : ∀ (front front' : List Char) {s : List Char} {c : Char},
    restOf? (read (front ++ c :: s)) = some (front' ++ c :: s) →
      ∀ s', read (front ++ c :: s') = withRest (front' ++ c :: s') (read (front ++ c :: s))

theorem andThen_run {p : Char → Bool} {next : List Char → Reader β} {s : List Char} :
    andThen (run p) next s = next (s.takeWhile p) (s.dropWhile p) :=
  rfl

theorem andThen_judge {chars : List Char} {next : ClassName → Reader β} {s : List Char} :
    andThen (judge chars) next s = className chars >>= fun name => next name s := by
  rw [andThen, judge]
  cases className chars <;> rfl

/-! ### Local readers -/

theorem Local.of_eq {read read' : Reader α} (h : Local read') (same : ∀ s, read s = read' s) :
    Local read :=
  funext same ▸ h

theorem local_of_stays {read : Reader α} (stays : ∀ s rest, restOf? (read s) = some rest → rest = s)
    (blind : ∀ s s', read s' = withRest s' (read s)) : Local read where
  suffix := by
    intro s rest stopped
    obtain rfl := stays s rest stopped
    exact List.suffix_refl rest
  ahead := by
    intro front front' s c stopped s'
    rw [List.append_cancel_right (stays _ _ stopped)]
    exact blind _ _

theorem local_answer (a : α) : Local (answer a) := by
  refine local_of_stays ?_ fun _ _ => rfl
  rintro s _ ⟨⟩
  rfl

theorem local_expect (expectation : Expectation) : Local (expect expectation : Reader α) := by
  refine local_of_stays ?_ fun _ _ => rfl
  rintro s _ ⟨⟩
  rfl

theorem local_judge (chars : List Char) : Local (judge chars) := by
  cases judged : className chars with
  | ok name =>
    refine (local_answer name).of_eq fun s => ?_
    rw [judge, judged]
    rfl
  | error stop =>
    cases stop with
    | badName text =>
      have bad : judge chars = fun _ => .error (.badName text) := by
        funext s
        rw [judge, judged]
        rfl
      exact bad ▸ local_of_stays nofun fun _ _ => rfl
    | unexpected expectation rest => exact absurd judged className_ne_unexpected

/-- A run that ends in front of a character is the same run whatever is behind that. -/
theorem run_ahead {p : Char → Bool} {c : Char} {s : List Char} : ∀ {front front' : List Char},
    (front ++ c :: s).dropWhile p = front' ++ c :: s → ∀ s',
      (front ++ c :: s').takeWhile p = (front ++ c :: s).takeWhile p ∧
        (front ++ c :: s').dropWhile p = front' ++ c :: s'
  | [], front', h, s' => by
    cases own : p c with
    | true =>
      have shorter := (List.dropWhile_suffix p (l := s)).length_le
      rw [List.nil_append, List.dropWhile_cons_of_pos own] at h
      rw [h, List.length_append, List.length_cons] at shorter
      omega
    | false =>
      rw [List.nil_append, List.dropWhile_cons_of_neg (by simp [own])] at h
      obtain rfl : front' = [] := by simpa using h
      simp [own]
  | d :: front, front', h, s' => by
    cases own : p d with
    | true =>
      rw [List.cons_append, List.dropWhile_cons_of_pos own] at h
      obtain ⟨same, left⟩ := run_ahead h s'
      simp [own, same, left]
    | false =>
      rw [List.cons_append, List.dropWhile_cons_of_neg (by simp [own]), ← List.cons_append] at h
      rw [← List.append_cancel_right h]
      simp [own]

theorem local_run (p : Char → Bool) : Local (run p) where
  suffix := by
    rintro s _ ⟨⟩
    exact List.dropWhile_suffix p
  ahead := by
    intro front front' s c h s'
    obtain ⟨same, left⟩ := run_ahead (Option.some.inj h) s'
    rw [run, same, left]
    rfl

/-- **Local readers one behind the other** are a local reader. -/
theorem local_andThen {read : Reader α} {next : α → Reader β} (h : Local read)
    (h' : ∀ a, Local (next a)) : Local (andThen read next) where
  suffix := by
    intro s rest stopped
    rw [andThen] at stopped
    cases first : read s with
    | ok x =>
      rw [first] at stopped
      exact ((h' x.1).suffix stopped).trans (h.suffix (by rw [first]; rfl))
    | error stop =>
      rw [first] at stopped
      refine h.suffix ?_
      rw [first, ← stopped]
      cases stop <;> rfl
  ahead := by
    intro front front' s c stopped s'
    rw [andThen] at stopped
    rw [andThen, andThen]
    cases first : read (front ++ c :: s) with
    | ok x =>
      obtain ⟨a, s₁⟩ := x
      rw [first] at stopped
      replace stopped : restOf? (next a s₁) = some (front' ++ c :: s) := stopped
      -- the second reader stops in front of the character, so the first one did
      obtain ⟨taken, rfl⟩ := (h' a).suffix stopped
      rw [← List.append_assoc] at first stopped
      have before := h.ahead _ _ (by rw [first]; rfl) s'
      rw [before, first, ← List.append_assoc]
      exact (h' a).ahead _ _ stopped s'
    | error stop =>
      have own : restOf? (read (front ++ c :: s)) = some (front' ++ c :: s) := by
        rw [first] at stopped ⊢
        cases stop <;> exact stopped
      rw [h.ahead _ _ own s', first]
      cases stop <;> rfl

theorem local_ifNext {c : Char} {behind other : Reader α} (h : Local behind) (h' : Local other) :
    Local (ifNext c behind other) where
  suffix := by
    intro s rest stopped
    by_cases next : ∃ s', s = c :: s'
    · obtain ⟨s', rfl⟩ := next
      rw [ifNext_of_eq rfl] at stopped
      exact (h.suffix stopped).trans (List.suffix_cons c s')
    · rw [ifNext_of_ne (not_exists.mp next)] at stopped
      exact h'.suffix stopped
  ahead := by
    intro front front' s d stopped s'
    cases front with
    | nil =>
      by_cases same : d = c
      · -- behind the character, a reader does not stop in front of it
        subst same
        rw [List.nil_append, ifNext_of_eq rfl] at stopped
        have shorter := (h.suffix stopped).length_le
        rw [List.length_append, List.length_cons] at shorter
        omega
      · have differs : ∀ s rest, d :: s ≠ c :: rest := fun _ _ e => same (List.cons.inj e).1
        rw [List.nil_append, ifNext_of_ne (differs s)] at stopped
        rw [List.nil_append, List.nil_append, ifNext_of_ne (differs s), ifNext_of_ne (differs s')]
        exact h'.ahead [] _ stopped s'
    | cons e front =>
      by_cases same : e = c
      · subst same
        rw [List.cons_append, ifNext_of_eq rfl] at stopped
        rw [List.cons_append, List.cons_append, ifNext_of_eq rfl, ifNext_of_eq rfl]
        exact h.ahead _ _ stopped s'
      · have differs : ∀ s rest, e :: s ≠ c :: rest := fun _ _ e => same (List.cons.inj e).1
        rw [List.cons_append, ifNext_of_ne (differs _)] at stopped
        rw [List.cons_append, List.cons_append, ifNext_of_ne (differs _), ifNext_of_ne (differs _)]
        exact h'.ahead (e :: front) _ stopped s'

theorem Local.skipBlanks {read : Reader α} (h : Local read) :
    Local fun s => read (skipBlanks s) :=
  local_andThen (local_run Text.isBlank) fun _ => h

end Readers

/-! ### The reader of types -/

theorem local_readAnnotations : ∀ steps : Nat, Local (readAnnotations steps)
  | 0 => (local_answer []).skipBlanks
  | steps + 1 => by
    have annotation := local_andThen (local_run isNameChar) fun chars =>
      local_andThen (local_judge chars) fun name =>
        local_andThen (local_readAnnotations steps) fun names => local_answer (name :: names)
    refine (local_ifNext (c := '@') annotation (local_answer [])).skipBlanks.of_eq fun s => ?_
    by_cases at_sign : ∃ rest, skipBlanks s = '@' :: rest
    · obtain ⟨rest, first⟩ := at_sign
      rw [readAnnotations_of_at first, ifNext_of_eq first, andThen_run, andThen_judge]
      rfl
    · rw [readAnnotations_of_not_at (not_exists.mp at_sign), ifNext_of_ne (not_exists.mp at_sign)]
      rfl

theorem local_readClass : Local readClass := by
  have name : ∀ chars, Local (if chars = [] then expect .typeRef else judge chars) := by
    intro chars
    split
    · exact local_expect .typeRef
    · exact local_judge chars
  refine (local_andThen (local_run isNameChar) name).of_eq fun s => ?_
  rw [readClass, andThen_run]
  split
  next none =>
    have all : s.dropWhile isNameChar = s := by
      have parts : s.takeWhile isNameChar ++ s.dropWhile isNameChar = s :=
        List.takeWhile_append_dropWhile
      rwa [none] at parts
    rw [if_pos none, all]
    rfl
  next some =>
    rw [if_neg some]
    rfl

theorem local_readBracketed {steps : Nat} (h : Local (readArguments steps)) :
    Local (readBracketed steps) := by
  refine (local_ifNext (c := '<') h (local_answer [])).skipBlanks.of_eq fun s => ?_
  by_cases opens : ∃ rest, skipBlanks s = '<' :: rest
  · obtain ⟨rest, opens⟩ := opens
    rw [readBracketed_of_open opens, ifNext_of_eq opens]
  · rw [readBracketed_of_not_open (not_exists.mp opens), ifNext_of_ne (not_exists.mp opens)]
    rfl

/-- The mark for null, as one reader among the others. -/
def readMark : Reader Bool :=
  fun s => .ok (readNullable s)

theorem local_readMark : Local readMark := by
  refine (local_ifNext (c := '?') (local_answer true) (local_answer false)).skipBlanks.of_eq
    fun s => ?_
  rw [readMark, readNullable]
  split
  next rest marked =>
    rw [ifNext_of_eq marked]
    rfl
  next unmarked =>
    rw [ifNext_of_ne unmarked]
    rfl

/-- **The reader of types is local**, and so is the reader of arguments. -/
theorem local_read : ∀ steps : Nat, Local (readType steps) ∧ Local (readArguments steps)
  | 0 => ⟨local_expect .typeRef, local_expect .typeRef⟩
  | steps + 1 => by
    -- by the number of steps, for both at once: a type asks for arguments, and these ask for types
    obtain ⟨type, arguments⟩ := local_read steps
    constructor
    · have parts := local_andThen (local_readAnnotations steps) fun names =>
        local_andThen local_readClass fun raw =>
          local_andThen (local_readBracketed arguments) fun bracketed =>
            local_andThen local_readMark fun nullable =>
              local_answer (⟨raw, bracketed, nullable, names⟩ : TypeRef)
      exact parts.of_eq (readType_succ steps)
    · have behind : ∀ argument, Local fun s => ifNext ','
          (andThen (readArguments steps) fun more => answer (argument :: more))
          (ifNext '>' (answer [argument]) (expect .commaOrEnd)) (skipBlanks s) := fun argument =>
        (local_ifNext (local_andThen arguments fun more => local_answer (argument :: more))
          (local_ifNext (local_answer [argument]) (local_expect .commaOrEnd))).skipBlanks
      refine (local_andThen type behind).of_eq fun s => ?_
      rw [readArguments_succ, andThen]
      refine bind_congr_of_ok fun reference _ => ?_
      split
      next rest comma =>
        rw [ifNext_of_eq comma]
        rfl
      next rest bracket =>
        rw [ifNext_of_ne (by simp [bracket]), ifNext_of_eq bracket]
        rfl
      next no_comma no_bracket =>
        rw [ifNext_of_ne no_comma, ifNext_of_ne no_bracket]
        rfl

/-! ### The whole text -/

/-- Nothing may be left. -/
def atEnd (type : TypeRef) : Reader TypeRef
  | [] => .ok (type, [])
  | rest => .error (.unexpected .endOfInput rest)

theorem local_atEnd (type : TypeRef) : Local (atEnd type) where
  suffix := by
    intro s rest stopped
    cases s <;> cases stopped <;> exact List.suffix_refl _
  ahead := by
    intro front front' s c stopped s'
    cases front with
    | nil =>
      rw [← List.append_cancel_right (Option.some.inj stopped)]
      rfl
    | cons d front =>
      have same : d :: front = front' := List.append_cancel_right (Option.some.inj stopped)
      rw [← same]
      rfl

/-- A type that takes the whole text, as one reader among the others. -/
def readToEnd (steps : Nat) : Reader TypeRef :=
  andThen (readType steps) fun type s => atEnd type (skipBlanks s)

theorem local_readToEnd (steps : Nat) : Local (readToEnd steps) :=
  local_andThen (local_read steps).1 fun type => (local_atEnd type).skipBlanks

/-- A text read to its end has the type it has, with as many steps as it asks for. -/
theorem readWhole_eq_map {s : List Char} {steps : Nat} (enough : 2 * s.length + 2 ≤ steps) :
    readWhole s = (readToEnd steps s).map Prod.fst := by
  rw [readWhole, (read_steps _).1 steps s le_rfl enough, readToEnd, andThen]
  cases readType steps s with
  | error stop => rfl
  | ok x =>
    show (match skipBlanks x.2 with
      | [] => .ok x.1
      | rest => .error (.unexpected .endOfInput rest)) = (atEnd x.1 (skipBlanks x.2)).map Prod.fst
    cases skipBlanks x.2 <;> rfl

theorem readWhole_eq_unexpected_iff {s rest : List Char} {expectation : Expectation} {steps : Nat}
    (enough : 2 * s.length + 2 ≤ steps) : readWhole s = .error (.unexpected expectation rest) ↔
      readToEnd steps s = .error (.unexpected expectation rest) := by
  rw [readWhole_eq_map enough]
  cases readToEnd steps s <;> simp [Except.map]

/-- **A fault in front of a character stays** whatever stands behind the character. -/
theorem readWhole_ahead {front s : List Char} {c : Char} {expectation : Expectation}
    (h : readWhole (front ++ c :: s) = .error (.unexpected expectation (c :: s))) (s' : List Char) :
    readWhole (front ++ c :: s') = .error (.unexpected expectation (c :: s')) := by
  -- as many steps as either text asks for
  obtain ⟨steps, enough, enough'⟩ : ∃ steps, 2 * (front ++ c :: s).length + 2 ≤ steps ∧
      2 * (front ++ c :: s').length + 2 ≤ steps := ⟨_, le_max_left _ _, le_max_right _ _⟩
  rw [readWhole_eq_unexpected_iff enough] at h
  rw [readWhole_eq_unexpected_iff enough',
    (local_readToEnd steps).ahead front [] (by rw [h]; rfl) s', h]
  rfl

/-! ### Offsets -/

theorem byteLength_eq (s : List Char) : byteLength s = (String.ofList s).utf8ByteSize := by
  induction s with
  | nil => rfl
  | cons c s ih => simp [byteLength, ih]

theorem ofText?_eq_notAType_iff {text text' : String} {offset : Nat} {expectation : Expectation} :
    ofText? text = .error (.notAType text' offset expectation) ↔ text' = text ∧ ∃ rest,
      readWhole text.toList = .error (.unexpected expectation rest) ∧
        offset = byteLength text.toList - byteLength rest := by
  unfold ofText?
  cases readWhole text.toList with
  | ok type => simp
  | error stop =>
    cases stop with
    | badName name => simp
    | unexpected expectation' rest =>
      simp only [Except.error.injEq, NameFault.notAType.injEq, Stop.unexpected.injEq]
      constructor
      · rintro ⟨rfl, rfl, rfl⟩
        exact ⟨rfl, rest, ⟨rfl, rfl⟩, rfl⟩
      · rintro ⟨rfl, _, ⟨rfl, rfl⟩, rfl⟩
        exact ⟨rfl, rfl, rfl⟩

/-! ### The first fault -/

/-- The text is the beginning of a text that a type is read from. -/
def Viable (front : String) : Prop :=
  ∃ tail type, ofText? (front ++ tail) = .ok type

/-- With a character that is not expected, the beginning of a text is not that of any type. -/
theorem not_viable_of_readWhole {front s : List Char} {c : Char} {expectation : Expectation}
    (h : readWhole (front ++ c :: s) = .error (.unexpected expectation (c :: s))) :
    ¬ Viable ((String.ofList front).push c) := by
  rintro ⟨tail, type, read⟩
  have fault := readWhole_ahead h tail.toList
  have chars : ((String.ofList front).push c ++ tail).toList = front ++ c :: tail.toList := by simp
  rw [← chars] at fault
  rw [ofText?_eq_notAType_iff.mpr ⟨rfl, _, fault, rfl⟩] at read
  cases read

/-- **The fault in a text is its first one.** The offset that is named lies at the start of a character
of the text or at its end. What stands in front of it can go on to a type, and with the character that
stands at it, if there is one, nothing can. -/
theorem firstFault_exactly {text text' : String} {offset : Nat} {expectation : Expectation}
    (h : ofText? text = .error (.notAType text' offset expectation)) :
    text' = text ∧ offset ≤ text.utf8ByteSize ∧ ∃ front behind : String, text = front ++ behind ∧
      front.utf8ByteSize = offset ∧ Viable front ∧
      (offset < text.utf8ByteSize → ∃ c behind', text = front.push c ++ behind' ∧
        ¬ Viable (front.push c)) := by
  obtain ⟨rfl, rest, fault, rfl⟩ := ofText?_eq_notAType_iff.mp h
  obtain ⟨front, tail, split, type, input⟩ := exists_input_of_readWhole fault
  have parts : text' = String.ofList front ++ String.ofList rest := by
    rw [← String.ofList_append, ← split, String.ofList_toList]
  have size : text'.utf8ByteSize = (String.ofList front).utf8ByteSize + byteLength rest := by
    rw [byteLength_eq, ← String.utf8ByteSize_append, ← parts]
  have offset : byteLength text'.toList - byteLength rest = (String.ofList front).utf8ByteSize := by
    rw [byteLength_eq text'.toList, String.ofList_toList]
    omega
  rw [offset]
  refine ⟨rfl, by omega, _, _, parts, rfl, ?_, fun before => ?_⟩
  · rw [String.ofList_append] at input
    exact ⟨_, type, ofText?_eq_ok_iff.mpr input⟩
  · cases rest with
    | nil => exact absurd size (Nat.ne_of_gt before)
    | cons c s =>
      have behind : text' = (String.ofList front).push c ++ String.ofList s :=
        String.toList_inj.mp (by simp [split])
      rw [split] at fault
      exact ⟨c, String.ofList s, behind, not_viable_of_readWhole fault⟩

/-- The fault in `é<b c>` is its `c`. -/
theorem firstFault_exactly_exampleComma :
    ofText? "é<b c>" = .error (.notAType "é<b c>" 5 .commaOrEnd) ∧
      ∃ front behind : String, "é<b c>" = front ++ behind ∧ front.utf8ByteSize = 5 ∧
        Viable front ∧ ∃ c behind', "é<b c>" = front.push c ++ behind' ∧ ¬ Viable (front.push c) := by
  have fault : ofText? "é<b c>" = .error (.notAType "é<b c>" 5 .commaOrEnd) := by decide +kernel
  obtain ⟨-, -, front, behind, parts, size, viable, first⟩ := firstFault_exactly fault
  exact ⟨fault, front, behind, parts, size, viable, first (by decide)⟩

end BindingPlan.TypeRef
