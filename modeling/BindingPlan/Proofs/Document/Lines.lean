import BindingPlan.Document.Container
import BindingPlan.Pass
import BindingPlan.Proofs.Document.RoundTrip
import BindingPlan.Proofs.Json.OneLine
import BindingPlan.Proofs.Sequence

/-! # Containers as lines

A pass that delivers its containers as lines leaves a text with one line for each of them, whatever
the names and texts in them are: the text is split at its line breaks into the documents of the
containers, and each line is read back as the document of its container (`planInto_lines`).

A receiver of any other sort has taken exactly the containers before the one that it refuses, each
in the state in which the one before has left it, and its error is the result. -/

namespace BindingPlan

open Json (IsPlain)

/-! ### Documents of containers -/

theorem Installation.isPlain_toJson (installation : Installation) :
    installation.toJson.IsPlain := by
  cases installation with
  | production scope => exact ⟨trivial, trivial, trivial⟩
  | test scope replaces => exact ⟨trivial, trivial, trivial, trivial⟩

theorem CallTarget.isPlain_toJson (target : CallTarget) : target.toJson.IsPlain := by
  cases target with
  | parameter name => exact ⟨trivial, trivial, trivial⟩
  | object owner => exact ⟨trivial, trivial, trivial⟩
  | nothing => exact ⟨trivial, trivial⟩

theorem Body.isPlain_toJson (body : Body) : body.toJson.IsPlain := by
  cases body with
  | reference implementation => exact ⟨trivial, trivial, trivial⟩
  | call target function arguments =>
    exact ⟨trivial, target.isPlain_toJson, trivial, Json.arePlain_map fun _ _ => trivial, trivial⟩

theorem Member.isPlain_toJson (member : Member) : member.toJson.IsPlain :=
  ⟨trivial, trivial, trivial, Json.arePlain_map fun parameter _ => parameter.isPlain_toJson,
    trivial, member.body.isPlain_toJson, isPlain_annotationsToJson member.annotations, trivial⟩

theorem Container.isPlain_toJson (container : Container) : container.toJson.IsPlain :=
  ⟨trivial, trivial, trivial, container.installation.isPlain_toJson,
    isPlain_annotationsToJson container.annotations,
    Json.arePlain_map fun member _ => member.isPlain_toJson, Json.arePlain_map fun _ _ => trivial,
    trivial⟩

/-! ### The text -/

/-- The lines of some containers, each with its line break. -/
def linesOf (containers : List Container) : List Char :=
  containers.flatMap fun container => container.toJson.write ++ ['\n']

/-- Between the line breaks stand the documents, one after the other, and nothing stands behind the
last line break. -/
theorem splitOn_linesOf (containers : List Container) :
    (linesOf containers).splitOn '\n' = containers.map (·.toJson.write) ++ [[]] := by
  induction containers with
  | nil => rfl
  | cons container rest ih =>
    have line : linesOf (container :: rest) = container.toJson.write ++ '\n' :: linesOf rest := by
      simp [linesOf]
    have whole : container.toJson.write.splitOn '\n' = [container.toJson.write] :=
      List.splitOn_eq_singleton (Json.newline_not_mem_write _)
    rw [line, List.splitOn_append_cons_self, whole, ih]
    rfl

/-- The text holds the containers as lines: it splits at its line breaks into as many lines as there
are containers, all of them ended, and each line is read as the document of its container, if the
doubles in that document are read back. -/
structure HoldsLines (containers : List Container) (text : List Char) : Prop where
  ended : ∃ lines, text.splitOn '\n' = lines ++ [[]] ∧ lines.length = containers.length
  decoded : ∀ (i : Nat) (container : Container), containers[i]? = some container →
    (∀ x ∈ container.toJson.decimals, x.ReadsBack) →
      ∃ line, (text.splitOn '\n')[i]? = some line ∧
        Json.ofText? (String.ofList line) = some container.toJson

theorem holdsLines_linesOf (containers : List Container) :
    HoldsLines containers (linesOf containers) where
  ended := ⟨_, splitOn_linesOf containers, List.length_map _⟩
  decoded := by
    intro i container here back
    have position : i < (containers.map (·.toJson.write)).length := by
      rw [List.length_map]
      exact (List.getElem?_eq_some_iff.mp here).1
    have line : ((linesOf containers).splitOn '\n')[i]? = some container.toJson.write := by
      rw [splitOn_linesOf, List.getElem?_append_left position, List.getElem?_map, here]
      rfl
    exact ⟨_, line, Json.ofText?_toText container.isPlain_toJson back⟩

/-! ### Delivery -/

theorem deliver_write (before : List Char) (containers : List Container) :
    deliver LineSink.write ⟨before, none⟩ containers =
      (⟨before ++ linesOf containers, none⟩, .ok ()) := by
  induction containers generalizing before with
  | nil => simp [deliver, linesOf]
  | cons container rest ih =>
    have taken : LineSink.write ⟨before, none⟩ container =
        .ok ⟨before ++ (container.toJson.write ++ ['\n']), none⟩ := by
      simp [LineSink.write, LineSink.isFull]
    simp only [deliver, taken, ih]
    simp [linesOf]

section Receivers
variable {σ : Type} {receive : σ → Container → Except BindingError σ}

theorem deliver_cons_ok {start middle : σ} {container : Container}
    (taken : receive start container = .ok middle) (rest : List Container) :
    deliver receive start (container :: rest) = deliver receive middle rest := by
  simp only [deliver, taken]

theorem deliver_cons_error {start : σ} {container : Container} {error : BindingError}
    (refused : receive start container = .error error) (rest : List Container) :
    deliver receive start (container :: rest) = (start, .error error) := by
  simp only [deliver, refused]

/-- A delivery succeeds if every container is taken in its turn. -/
theorem deliver_eq_ok_iff {containers : List Container} {start state : σ} :
    deliver receive start containers = (state, .ok ()) ↔
      containers.foldlM receive start = .ok state := by
  induction containers generalizing start with
  | nil => simp [deliver, pure, Except.pure]
  | cons container rest ih =>
    rw [List.foldlM_cons]
    cases head : receive start container with
    | ok middle => exact deliver_cons_ok head rest ▸ ih
    | error error =>
      rw [deliver_cons_error head]
      constructor
      · intro h
        cases h
      · intro h
        cases h

/-- **A delivery fails at the first container that is refused**, and all before it were taken. -/
theorem deliver_eq_error_iff {containers : List Container} {start state : σ}
    {error : BindingError} : deliver receive start containers = (state, .error error) ↔
      ∃ (k : Nat) (container : Container), containers[k]? = some container ∧
        (containers.take k).foldlM receive start = .ok state ∧
        receive state container = .error error := by
  induction containers generalizing start with
  | nil => simp [deliver]
  | cons container rest ih =>
    cases head : receive start container with
    | error first =>
      rw [deliver_cons_error head]
      constructor
      · rintro ⟨⟩
        exact ⟨0, container, rfl, rfl, head⟩
      · rintro ⟨k, refused, here, taken, failed⟩
        cases k with
        | zero =>
          cases here
          cases taken
          rw [head] at failed
          cases failed
          rfl
        | succ k =>
          -- the first container would have been taken
          rw [List.take_succ_cons, List.foldlM_cons, head] at taken
          cases taken
    | ok middle =>
      rw [deliver_cons_ok head, ih]
      constructor
      · rintro ⟨k, refused, here, taken, failed⟩
        refine ⟨k + 1, refused, here, ?_, failed⟩
        rw [List.take_succ_cons, List.foldlM_cons, head]
        exact taken
      · rintro ⟨k, refused, here, taken, failed⟩
        cases k with
        | zero =>
          cases here
          cases taken
          rw [head] at failed
          cases failed
        | succ k =>
          rw [List.take_succ_cons, List.foldlM_cons, head] at taken
          exact ⟨k, refused, here, taken, failed⟩

end Receivers

/-! ### Passes -/

section Passes
variable (config : Config) (program : Program) {σ : Type}
  {receive : σ → Container → Except BindingError σ} {start state : σ}

theorem planInto_eq_ok_iff {diagnostics : List Diagnostic} :
    program.planInto config receive start = (state, .ok diagnostics) ↔
      deliver receive start (program.plan config).containers = (state, .ok ()) ∧
        (program.plan config).diagnostics = diagnostics := by
  rw [Program.planInto]
  rcases deliver receive start (program.plan config).containers with ⟨last, _ | _⟩
  · simp [Except.map]
  · simp [Except.map]

theorem planInto_eq_error_iff {error : BindingError} :
    program.planInto config receive start = (state, .error error) ↔
      deliver receive start (program.plan config).containers = (state, .error error) := by
  rw [Program.planInto]
  rcases deliver receive start (program.plan config).containers with ⟨last, _ | _⟩
  · simp [Except.map]
  · simp [Except.map]

end Passes

/-- **Delivery is framed and complete.** As lines, the containers of a pass come out one on each
line and are read back from it, with the diagnostics of the pass. Any receiver has either taken all
containers in order, or exactly those before the one it refuses; then its error is the result. -/
theorem planInto_lines (config : Config) (program : Program) :
    (∃ text, (∀ before, program.planInto config LineSink.write ⟨before, none⟩ =
        (⟨before ++ text, none⟩, .ok (program.plan config).diagnostics)) ∧
      HoldsLines (program.plan config).containers text) ∧
    ∀ {σ : Type} (receive : σ → Container → Except BindingError σ) (start state : σ),
      (∀ diagnostics, program.planInto config receive start = (state, .ok diagnostics) ↔
        (program.plan config).containers.foldlM receive start = .ok state ∧
          (program.plan config).diagnostics = diagnostics) ∧
      ∀ error, program.planInto config receive start = (state, .error error) ↔
        ∃ (k : Nat) (container : Container), (program.plan config).containers[k]? = some container ∧
          ((program.plan config).containers.take k).foldlM receive start = .ok state ∧
          receive state container = .error error := by
  constructor
  · refine ⟨linesOf (program.plan config).containers, fun before => ?_, holdsLines_linesOf _⟩
    exact (planInto_eq_ok_iff config program).mpr ⟨deliver_write before _, rfl⟩
  · intro σ receive start state
    refine ⟨fun diagnostics => ?_, fun error => ?_⟩
    · rw [planInto_eq_ok_iff, deliver_eq_ok_iff]
    · rw [planInto_eq_error_iff, deliver_eq_error_iff]

/-- A class with a note on it, whose text has a line break. -/
def exampleNoted : ClassDeclaration :=
  { name := ⟨"com.example", ["Noted"]⟩
    form := .plainClass
    isAbstract := false
    supertypes := []
    annotations :=
      [.ofClass (MarkerClasses.default.classOf ⟨.bind, .production⟩),
        ⟨⟨"com.example", ["Note"]⟩, [⟨"text", .string "one\ntwo"⟩, ⟨"weight", .float
          ⟨false, 6755399441055744, -52, by decide, by decide, by decide, .inl (by decide)⟩⟩], []⟩]
    visibility := .publicAccess
    location := some ⟨"Noted.kt", "com.example"⟩ }

theorem planInto_lines_exampleNoted :
    let program : Program := ⟨[.type exampleNoted], []⟩
    ∃ container text line, (program.plan .default).containers = [container] ∧
      container.toJson.decimals ≠ [] ∧ (∀ x ∈ container.toJson.decimals, x.ReadsBack) ∧
      program.planInto .default LineSink.write (.empty none) =
        (⟨text, none⟩, .ok (program.plan .default).diagnostics) ∧
      text.splitOn '\n' = [line, []] ∧
      Json.ofText? (String.ofList line) = some container.toJson := by
  intro program
  have found : (program.plan .default).containers.length = 1 ∧
      ∀ container ∈ (program.plan .default).containers,
        container.toJson.decimals ≠ [] ∧ ∀ x ∈ container.toJson.decimals, x.ReadsBack := by
    decide +kernel
  obtain ⟨container, single⟩ := List.length_eq_one_iff.mp found.1
  obtain ⟨numbered, back⟩ := found.2 container (by rw [single]; exact List.mem_cons_self)
  obtain ⟨⟨text, written, holds⟩, -⟩ := planInto_lines .default program
  rw [single] at holds
  obtain ⟨lines, ended, one⟩ := holds.ended
  obtain ⟨line, rfl⟩ := List.length_eq_one_iff.mp one
  obtain ⟨_, first, read⟩ := holds.decoded 0 container rfl back
  rw [ended] at first
  cases first
  exact ⟨container, text, line, single, numbered, back, written [], ended, read⟩

end BindingPlan
