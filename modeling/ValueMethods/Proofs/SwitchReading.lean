import ValueMethods.Synthesis.Switches

/-!
# What an argument list comes to

Whether the generator is enabled is a matter of the whole argument list, while an argument that is
refused is refused where it stands.  So with the generator enabled, the first malformed argument
decides, and without it, the first argument that is meant for the generator at all.  Reading a list
passes over arguments by a test of its own before it takes account of them; taking account of all of
them one after another gives the same.
-/

namespace ValueMethods

namespace Text

theorem isSome_dropPrefix?_iff {opening text : List Char} :
    (dropPrefix? opening text).isSome = true ↔ opening <+: text := by
  induction opening generalizing text with
  | nil => simp [dropPrefix?]
  | cons first rest ih => cases text with
    | nil => simp [dropPrefix?]
    | cons c text =>
        rw [dropPrefix?, List.cons_prefix_cons]
        split
        · next same => simp [same, ih]
        · next other => simp [other]

end Text

namespace Switch

/-- The argument, without blanks around it, is meant for the generator. -/
def IsMeant (token : String) : Prop :=
  enableText.toList <+: token.toList

instance : DecidablePred IsMeant := fun token =>
  inferInstanceAs (Decidable (enableText.toList <+: token.toList))

/-- The argument is meant for the generator, but it is neither of the switches. -/
def IsMalformed (token : String) : Prop :=
  IsMeant token ∧ token ≠ enableText ∧ token ≠ skipToStringText

instance : DecidablePred IsMalformed := fun token =>
  inferInstanceAs (Decidable (IsMeant token ∧ _ ∧ _))

/-- The argument only enables the generator, or it is meant for someone else. -/
def IsPassedOver (token : String) : Prop :=
  token = enableText ∨ ¬IsMeant token

theorem isMeant_enableText : IsMeant enableText :=
  List.prefix_rfl

theorem isMeant_skipToStringText : IsMeant skipToStringText := by
  decide

theorem skipToStringText_ne_enableText : skipToStringText ≠ enableText := by
  decide

theorem isMeant_iff {token : String} :
    IsMeant token ↔ token = enableText ∨ token = skipToStringText ∨ IsMalformed token := by
  constructor
  · intro meant
    by_cases enables : token = enableText
    · exact .inl enables
    · by_cases skips : token = skipToStringText
      · exact .inr (.inl skips)
      · exact .inr (.inr ⟨meant, enables, skips⟩)
  · rintro (rfl | rfl | malformed)
    · exact isMeant_enableText
    · exact isMeant_skipToStringText
    · exact malformed.1

theorem startsWith_iff {token : String} :
    Text.startsWith token enableText = true ↔ IsMeant token :=
  Text.isSome_dropPrefix?_iff

/-- The test by which reading a list passes over an argument. -/
theorem passed_iff {token : String} :
    (token = enableText || !Text.startsWith token enableText) = true ↔ IsPassedOver token := by
  rw [Bool.or_eq_true, decide_eq_true_eq, Bool.not_eq_true', ← Bool.not_eq_true, startsWith_iff,
    IsPassedOver]

/-- The test by which an argument that is taken account of is refused is the opposite one. -/
theorem refused_iff {token : String} :
    (token ≠ enableText && Text.startsWith token enableText) = true ↔ ¬IsPassedOver token := by
  rw [Bool.and_eq_true, decide_eq_true_eq, startsWith_iff, IsPassedOver, not_or,
    Decidable.not_not]

/-- An argument is passed over, or it is one of two kinds. -/
theorem passed_or (token : String) :
    IsPassedOver token ∨ token = skipToStringText ∨ IsMalformed token := by
  by_cases meant : IsMeant token
  · rcases isMeant_iff.mp meant with enables | skips | malformed
    · exact .inl (.inl enables)
    · exact .inr (.inl skips)
    · exact .inr (.inr malformed)
  · exact .inl (.inr meant)

theorem not_passed_skipToStringText : ¬IsPassedOver skipToStringText := by
  rintro (enables | unmeant)
  · exact skipToStringText_ne_enableText enables
  · exact unmeant isMeant_skipToStringText

theorem IsMalformed.not_passed {token : String} (malformed : IsMalformed token) :
    ¬IsPassedOver token := by
  rintro (enables | unmeant)
  · exact malformed.2.1 enables
  · exact unmeant malformed.1

end Switch

namespace Switches

open Switch

/-- The arguments without blanks around them. -/
def tokens (arguments : List String) : List String :=
  arguments.map Text.trimmed

@[simp]
theorem tokens_nil : tokens [] = [] := rfl

@[simp]
theorem tokens_cons (argument : String) (rest : List String) :
    tokens (argument :: rest) = Text.trimmed argument :: tokens rest := rfl

/-- Takes account of all arguments from left to right, up to the first that is refused; whether
`toString` is left out. -/
def consumeAll (arguments : List String) : Except SwitchError Bool :=
  (List.range arguments.length).foldlM
    (fun skip index => (consume skip arguments index).map Prod.snd) false

/-- What is wrong with an argument that is meant for the generator if nothing enables it. -/
def refusal (token : String) : SwitchError :=
  if token = skipToStringText then .requiresEnabling token else .unknownOption token

theorem enabled_iff (arguments : List String) :
    enabled arguments = true ↔ enableText ∈ tokens arguments := by
  simp [enabled, tokens]

/-! ### One argument -/

section OneArgument

variable {arguments : List String} {argument : String} {index : Nat} (skip : Bool)

theorem scan_passed (enabled : Bool) (rest : List (String × Nat))
    (passed : IsPassedOver (Text.trimmed argument)) :
    scan enabled arguments skip ((argument, index) :: rest) =
      scan enabled arguments skip rest := by
  simp only [scan, if_pos (passed_iff.mpr passed)]

variable (here : arguments[index]? = some argument)
include here

theorem consume_passed (passed : IsPassedOver (Text.trimmed argument)) :
    consume skip arguments index = .ok (0, skip) := by
  have other : Text.trimmed argument ≠ skipToStringText := fun same =>
    not_passed_skipToStringText (same ▸ passed)
  simp only [consume, here, if_neg other, if_neg fun refused => refused_iff.mp refused passed]

theorem consume_skipToString (skips : Text.trimmed argument = skipToStringText) :
    consume skip arguments index = .ok (1, true) := by
  simp only [consume, here, if_pos skips]

theorem consume_malformed (malformed : IsMalformed (Text.trimmed argument)) :
    consume skip arguments index = .error (.unknownOption (Text.trimmed argument)) := by
  simp only [consume, here, if_neg malformed.2.2, if_pos (refused_iff.mpr malformed.not_passed)]

variable (enabled : Bool) (rest : List (String × Nat))

theorem scan_skipToString (skips : Text.trimmed argument = skipToStringText) :
    scan enabled arguments skip ((argument, index) :: rest) =
      if enabled then scan enabled arguments true rest
      else .error (.requiresEnabling skipToStringText) := by
  have kept := mt passed_iff.mp (skips ▸ not_passed_skipToStringText)
  simp only [scan, if_neg kept, consume_skipToString skip here skips]
  rw [skips]

theorem scan_malformed (malformed : IsMalformed (Text.trimmed argument)) :
    scan enabled arguments skip ((argument, index) :: rest) =
      .error (.unknownOption (Text.trimmed argument)) := by
  have kept := mt passed_iff.mp malformed.not_passed
  simp only [scan, if_neg kept, consume_malformed skip here malformed]

end OneArgument

/-! ### Arguments with their positions -/

section Scan

variable {arguments : List String} {listed : List (String × Nat)}

/-- With the generator enabled, the first malformed argument decides. -/
theorem scan_enabled (skip : Bool)
    (places : ∀ entry ∈ listed, arguments[entry.2]? = some entry.1) :
    scan true arguments skip listed =
      match (tokens (listed.map Prod.fst)).find? (IsMalformed ·) with
      | some token => .error (.unknownOption token)
      | none => .ok (skip || decide (skipToStringText ∈ tokens (listed.map Prod.fst))) := by
  induction listed generalizing skip with
  | nil => simp [scan]
  | cons entry rest ih =>
      obtain ⟨argument, index⟩ := entry
      obtain ⟨here, later⟩ := List.forall_mem_cons.mp places
      rw [List.map_cons, tokens_cons]
      rcases passed_or (Text.trimmed argument) with passed | skips | malformed
      · have formed : ¬IsMalformed (Text.trimmed argument) := fun malformed =>
          malformed.not_passed passed
        have other : skipToStringText ≠ Text.trimmed argument := fun same =>
          not_passed_skipToStringText (same ▸ passed)
        rw [scan_passed skip true rest passed, ih skip later,
          List.find?_cons_of_neg (by simpa using formed)]
        simp [other]
      · have formed : ¬IsMalformed skipToStringText := fun malformed => malformed.2.2 rfl
        rw [scan_skipToString skip here true rest skips, if_pos rfl, ih true later, skips,
          List.find?_cons_of_neg (by simpa using formed)]
        simp
      · rw [scan_malformed skip here true rest malformed,
          List.find?_cons_of_pos (by simpa using malformed)]

/-- Without the generator enabled, the first argument that is meant for it decides. -/
theorem scan_disabled (skip : Bool)
    (places : ∀ entry ∈ listed, arguments[entry.2]? = some entry.1)
    (disabled : enableText ∉ tokens (listed.map Prod.fst)) :
    scan false arguments skip listed =
      match (tokens (listed.map Prod.fst)).find? (IsMeant ·) with
      | some token => .error (refusal token)
      | none => .ok skip := by
  induction listed with
  | nil => rfl
  | cons entry rest ih =>
      obtain ⟨argument, index⟩ := entry
      obtain ⟨here, later⟩ := List.forall_mem_cons.mp places
      rw [List.map_cons, tokens_cons, List.mem_cons, not_or] at disabled
      rw [List.map_cons, tokens_cons]
      rcases passed_or (Text.trimmed argument) with passed | skips | malformed
      · have unmeant : ¬IsMeant (Text.trimmed argument) := passed.resolve_left (Ne.symm disabled.1)
        rw [scan_passed skip false rest passed, ih later disabled.2,
          List.find?_cons_of_neg (by simpa using unmeant)]
      · rw [scan_skipToString skip here false rest skips, skips,
          List.find?_cons_of_pos (by simpa using isMeant_skipToStringText)]
        simp [refusal]
      · rw [scan_malformed skip here false rest malformed,
          List.find?_cons_of_pos (by simpa using malformed.1)]
        simp [refusal, malformed.2.2]

/-- Taking account of the arguments at the positions, passed over or not, is to go through them with
the generator enabled. -/
theorem foldlM_consume (skip : Bool)
    (places : ∀ entry ∈ listed, arguments[entry.2]? = some entry.1) :
    (listed.map Prod.snd).foldlM
        (fun skip index => (consume skip arguments index).map Prod.snd) skip =
      scan true arguments skip listed := by
  induction listed generalizing skip with
  | nil => rfl
  | cons entry rest ih =>
      obtain ⟨argument, index⟩ := entry
      obtain ⟨here, later⟩ := List.forall_mem_cons.mp places
      rw [List.map_cons, List.foldlM_cons]
      rcases passed_or (Text.trimmed argument) with passed | skips | malformed
      · rw [scan_passed skip true rest passed, consume_passed skip here passed]
        exact ih skip later
      · rw [scan_skipToString skip here true rest skips, consume_skipToString skip here skips]
        exact ih true later
      · rw [scan_malformed skip here true rest malformed, consume_malformed skip here malformed]
        rfl

end Scan

/-- The arguments stand at their positions. -/
theorem getElem?_of_mem_zipIdx {arguments : List String} :
    ∀ entry ∈ arguments.zipIdx, arguments[entry.2]? = some entry.1 := fun _ member =>
  List.mem_zipIdx_iff_getElem?.mp member

theorem consumeAll_eq_scan (arguments : List String) :
    consumeAll arguments = scan true arguments false arguments.zipIdx := by
  rw [← foldlM_consume false getElem?_of_mem_zipIdx, List.zipIdx_map_snd, consumeAll,
    List.range_eq_range']

/-! ### Reading a whole list -/

section Read

variable {arguments : List String}

theorem read_of_enabled (present : enableText ∈ tokens arguments) :
    read arguments =
      match (tokens arguments).find? (IsMalformed ·) with
      | some token => .error (.unknownOption token)
      | none => .ok (some (decide (skipToStringText ∈ tokens arguments))) := by
  rw [read, (enabled_iff arguments).mpr present, scan_enabled false getElem?_of_mem_zipIdx,
    List.zipIdx_map_fst]
  cases (tokens arguments).find? (IsMalformed ·) with
  | some token => rfl
  | none => simp

theorem read_of_disabled (absent : enableText ∉ tokens arguments) :
    read arguments =
      match (tokens arguments).find? (IsMeant ·) with
      | some token => .error (refusal token)
      | none => .ok none := by
  have disabled : enabled arguments = false :=
    Bool.eq_false_iff.mpr (mt (enabled_iff arguments).mp absent)
  have others : enableText ∉ tokens (arguments.zipIdx.map Prod.fst) := by
    rwa [List.zipIdx_map_fst]
  rw [read, disabled, scan_disabled false getElem?_of_mem_zipIdx others, List.zipIdx_map_fst]
  cases (tokens arguments).find? (IsMeant ·) with
  | some token => rfl
  | none => rfl

theorem read_eq_ok_none_iff :
    read arguments = .ok none ↔ ∀ token ∈ tokens arguments, ¬IsMeant token := by
  by_cases present : enableText ∈ tokens arguments
  · rw [read_of_enabled present]
    refine iff_of_false ?_ fun unmeant => unmeant _ present isMeant_enableText
    cases (tokens arguments).find? (IsMalformed ·) <;> simp
  · rw [read_of_disabled present]
    cases first : (tokens arguments).find? (IsMeant ·) with
    | none => simpa using first
    | some token =>
        have meant : IsMeant token := by simpa using List.find?_some first
        exact iff_of_false (by simp) fun unmeant =>
          unmeant token (List.mem_of_find?_eq_some first) meant

theorem read_eq_ok_some_iff {skip : Bool} :
    read arguments = .ok (some skip) ↔ enableText ∈ tokens arguments ∧
      (∀ token ∈ tokens arguments,
        IsMeant token → token = enableText ∨ token = skipToStringText) ∧
      (skip = true ↔ skipToStringText ∈ tokens arguments) := by
  by_cases present : enableText ∈ tokens arguments
  · rw [read_of_enabled present]
    cases first : (tokens arguments).find? (IsMalformed ·) with
    | none =>
        have formed : ∀ token ∈ tokens arguments, ¬IsMalformed token := by simpa using first
        have known (token : String) (member : token ∈ tokens arguments) (meant : IsMeant token) :
            token = enableText ∨ token = skipToStringText := by
          rcases isMeant_iff.mp meant with enables | skips | malformed
          · exact .inl enables
          · exact .inr skips
          · exact absurd malformed (formed token member)
        simp only [Except.ok.injEq, Option.some.injEq]
        exact ⟨fun same => ⟨present, known, by simp [← same]⟩,
          fun ⟨_, _, same⟩ => Bool.eq_iff_iff.mpr (by simpa using same.symm)⟩
    | some token =>
        have malformed : IsMalformed token := by simpa using List.find?_some first
        refine iff_of_false (by simp) fun ⟨_, known, _⟩ => ?_
        rcases known token (List.mem_of_find?_eq_some first) malformed.1 with enables | skips
        · exact malformed.2.1 enables
        · exact malformed.2.2 skips
  · rw [read_of_disabled present]
    refine iff_of_false ?_ fun ⟨enables, _⟩ => present enables
    cases (tokens arguments).find? (IsMeant ·) <;> simp

theorem read_eq_error_iff {error : SwitchError} :
    read arguments = .error error ↔
      (enableText ∈ tokens arguments ∧ ∃ token,
        (tokens arguments).find? (IsMalformed ·) = some token ∧ error = .unknownOption token) ∨
      (enableText ∉ tokens arguments ∧ ∃ token,
        (tokens arguments).find? (IsMeant ·) = some token ∧ error = refusal token) := by
  by_cases present : enableText ∈ tokens arguments
  · rw [read_of_enabled present]
    cases (tokens arguments).find? (IsMalformed ·) <;> simp [present, eq_comm]
  · rw [read_of_disabled present]
    cases (tokens arguments).find? (IsMeant ·) <;> simp [present, eq_comm]

/-- With the generator enabled, both ways to read the arguments agree. -/
theorem map_consumeAll (present : enableText ∈ tokens arguments) :
    (consumeAll arguments).map some = read arguments := by
  rw [consumeAll_eq_scan, read, (enabled_iff arguments).mpr present]
  cases scan true arguments false arguments.zipIdx with
  | ok skip => rfl
  | error error => rfl

theorem refusal_ne_notEnabled (token : String) (listed : List String) :
    refusal token ≠ .notEnabled listed := by
  unfold refusal
  split <;> simp

/-! ### Arguments on top of options -/

theorem apply_of_ne_nil (options : Options) (nonempty : arguments ≠ []) :
    apply options arguments =
      match read arguments with
      | .error error => .error error
      | .ok none => .error (.notEnabled arguments)
      | .ok (some skip) => .ok { options with skipToString := options.skipToString || skip } :=
  if_neg (by simpa using nonempty)

theorem apply_eq_notEnabled_iff {options : Options} {listed : List String} :
    apply options arguments = .error (.notEnabled listed) ↔
      arguments ≠ [] ∧ read arguments = .ok none ∧ listed = arguments := by
  by_cases empty : arguments = []
  · simp [apply, empty]
  · rw [apply_of_ne_nil options empty]
    split
    · next error refused =>
        have other : error ≠ .notEnabled listed := by
          rcases read_eq_error_iff.mp refused with ⟨_, token, _, rfl⟩ | ⟨_, token, _, rfl⟩
          · simp
          · exact refusal_ne_notEnabled token listed
        simp [refused, other]
    · next unmeant => simp [empty, unmeant, eq_comm]
    · next skip accepted => simp [accepted]

theorem apply_eq_ok_iff {options changed : Options} (nonempty : arguments ≠ []) :
    apply options arguments = .ok changed ↔ ∃ skip, read arguments = .ok (some skip) ∧
      changed = { options with skipToString := options.skipToString || skip } := by
  rw [apply_of_ne_nil options nonempty]
  split
  · next error refused => simp [refused]
  · next unmeant => simp [unmeant]
  · next skip accepted => simp [accepted, eq_comm]

theorem apply_of_read_error {options : Options} {error : SwitchError}
    (refused : read arguments = .error error) : apply options arguments = .error error := by
  have nonempty : arguments ≠ [] := by
    rintro rfl
    simp [read, scan] at refused
  rw [apply_of_ne_nil options nonempty, refused]

end Read

/-- A list means nothing to the generator exactly if none of its arguments is meant for it.  It is
accepted exactly if it enables the generator and has no malformed argument, and it leaves out
`toString` if some argument says so.  Otherwise the first malformed argument is reported, or, where
nothing enables the generator, the first one that is meant for it.  Taking account of the arguments
one after another agrees with that, and on top of options they can only turn `toString` off. -/
theorem arguments_read_exactly (arguments : List String) :
    (read arguments = .ok none ↔ ∀ token ∈ tokens arguments, ¬IsMeant token) ∧
    (∀ skip, read arguments = .ok (some skip) ↔ enableText ∈ tokens arguments ∧
      (∀ token ∈ tokens arguments,
        IsMeant token → token = enableText ∨ token = skipToStringText) ∧
      (skip = true ↔ skipToStringText ∈ tokens arguments)) ∧
    (∀ error, read arguments = .error error ↔
      (enableText ∈ tokens arguments ∧ ∃ token,
        (tokens arguments).find? (IsMalformed ·) = some token ∧ error = .unknownOption token) ∨
      (enableText ∉ tokens arguments ∧ ∃ token,
        (tokens arguments).find? (IsMeant ·) = some token ∧ error = refusal token)) ∧
    (enableText ∈ tokens arguments → (consumeAll arguments).map some = read arguments) ∧
    ∀ options : Options,
      (arguments = [] → apply options arguments = .ok options) ∧
      (∀ listed, apply options arguments = .error (.notEnabled listed) ↔
        arguments ≠ [] ∧ read arguments = .ok none ∧ listed = arguments) ∧
      (∀ error, read arguments = .error error → apply options arguments = .error error) ∧
      (arguments ≠ [] → ∀ changed, apply options arguments = .ok changed ↔
        ∃ skip, read arguments = .ok (some skip) ∧
          changed = { options with skipToString := options.skipToString || skip }) := by
  refine ⟨read_eq_ok_none_iff, fun skip => read_eq_ok_some_iff, fun error => read_eq_error_iff,
    map_consumeAll, fun options => ⟨?_, fun listed => apply_eq_notEnabled_iff,
      fun error => apply_of_read_error, fun nonempty changed => apply_eq_ok_iff nonempty⟩⟩
  rintro rfl
  rfl

/-- Both switches with blanks around them, behind an argument for someone else. -/
def paddedArguments : List String :=
  ["-npa", "\t-Xguava:skipToString ", " -Xguava"]

/-- The switch for `toString` in front of two malformed arguments. -/
def malformedArguments : List String :=
  ["-Xguava:skipToString", " -XguavaFoo", "-Xguava:skiptostring"]

/-- The padded switches leave out `toString`.  Of the malformed arguments the first is reported if
the generator is enabled behind them; otherwise the switch in front of them is. -/
theorem arguments_read_exactly_on_malformed :
    (paddedArguments ≠ [] ∧ enableText ∈ tokens paddedArguments ∧
      read paddedArguments = .ok (some true) ∧
      (consumeAll paddedArguments).map some = read paddedArguments ∧
      apply .default paddedArguments = .ok { Options.default with skipToString := true }) ∧
    read (malformedArguments ++ ["-Xguava"]) = .error (.unknownOption "-XguavaFoo") ∧
    read malformedArguments = .error (.requiresEnabling "-Xguava:skipToString") ∧
    apply .default malformedArguments = .error (.requiresEnabling "-Xguava:skipToString") := by
  obtain ⟨_, accepted, _, agrees, onTop⟩ := arguments_read_exactly paddedArguments
  have enables : enableText ∈ tokens paddedArguments := by decide +kernel
  have skips : read paddedArguments = .ok (some true) :=
    (accepted true).mpr ⟨enables, by decide +kernel, by decide +kernel⟩
  obtain ⟨_, _, refused, _, _⟩ := arguments_read_exactly (malformedArguments ++ ["-Xguava"])
  have reported := (refused (.unknownOption "-XguavaFoo")).mpr
    (.inl ⟨by decide +kernel, "-XguavaFoo", by decide +kernel, rfl⟩)
  obtain ⟨_, _, refusedToo, _, onTopToo⟩ := arguments_read_exactly malformedArguments
  have reportedToo := (refusedToo (.requiresEnabling "-Xguava:skipToString")).mpr
    (.inr ⟨by decide +kernel, "-Xguava:skipToString", by decide +kernel, by decide +kernel⟩)
  exact ⟨⟨by decide, enables, skips, agrees enables,
    ((onTop .default).2.2.2 (by decide) _).mpr ⟨true, skips, rfl⟩⟩, reported, reportedToo,
    (onTopToo .default).2.2.1 _ reportedToo⟩

end Switches
end ValueMethods
