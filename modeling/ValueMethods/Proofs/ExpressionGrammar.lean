import ValueMethods.Proofs.Tokens

/-!
# The grammar of expressions

Which tokens are a Java expression, and of which structure.  Selections and calls bind tighter than
casts, casts tighter than `==` and `!=`, and these tighter than `&&`; operators associate to the
left, and parentheses group.  No tokens have two structures: they can be read from left to right,
with the operands, casts and brackets that are still open on a stack, and what is read is every
structure that the grammar gives them.
-/

namespace ValueMethods

/-! ## Structures -/

/-- The structure of an expression. -/
inductive SyntaxTree where
  /-- The current object. -/
  | this
  /-- The null reference. -/
  | null
  /-- A truth value. -/
  | bool (value : Bool)
  /-- A string literal, as it is written. -/
  | literal (text : String)
  /-- A name that stands alone. -/
  | name (name : String)
  /-- A name selected from what is on its left. -/
  | field (target : SyntaxTree) (name : String)
  /-- A call of a method by its name alone. -/
  | call (method : String) (arguments : List SyntaxTree)
  /-- A call of a method of what is on its left. -/
  | callOn (target : SyntaxTree) (method : String) (arguments : List SyntaxTree)
  /-- A cast. -/
  | cast (type : String) (operand : SyntaxTree)
  /-- A binary operation. -/
  | binary (operator : Operator) (left right : SyntaxTree)

/-! ## The grammar -/

/-- Token lists with commas between them. -/
def separated : List (List Token) → List Token
  | [] => []
  | [last] => last
  | first :: next :: rest => first ++ .comma :: separated (next :: rest)

/-- The levels of the grammar, the tightest first. -/
inductive Level where
  /-- Names, literals, groups, selections and calls. -/
  | primary
  /-- Casts. -/
  | unary
  /-- Operations with `==` and `!=`. -/
  | equality
  /-- Operations with `&&`, and so all expressions. -/
  | conjunction
  deriving DecidableEq

/-- The tokens are an expression of a level, and it has the structure. -/
inductive Derives : Level → List Token → SyntaxTree → Prop
  | this : Derives .primary [.word "this"] .this
  | null : Derives .primary [.word "null"] .null
  | trueWord : Derives .primary [.word "true"] (.bool true)
  | falseWord : Derives .primary [.word "false"] (.bool false)
  | literal (text : String) : Derives .primary [.literal text] (.literal text)
  | name {name : String} : name ∉ reservedWords → Derives .primary [.word name] (.name name)
  | call {method : String} {arguments : List (List Token × SyntaxTree)} :
      method ∉ reservedWords →
      (∀ argument ∈ arguments, Derives .conjunction argument.1 argument.2) →
      Derives .primary
        (.word method :: .opening :: (separated (arguments.map Prod.fst) ++ [.closing]))
        (.call method (arguments.map Prod.snd))
  | group {tokens : List Token} {tree : SyntaxTree} : Derives .conjunction tokens tree →
      Derives .primary (.opening :: (tokens ++ [.closing])) tree
  | field {tokens : List Token} {target : SyntaxTree} {name : String} :
      Derives .primary tokens target → name ∉ reservedWords →
      Derives .primary (tokens ++ [.dot, .word name]) (.field target name)
  | callOn {tokens : List Token} {target : SyntaxTree} {method : String}
      {arguments : List (List Token × SyntaxTree)} :
      Derives .primary tokens target → method ∉ reservedWords →
      (∀ argument ∈ arguments, Derives .conjunction argument.1 argument.2) →
      Derives .primary
        (tokens ++ .dot :: .word method :: .opening ::
          (separated (arguments.map Prod.fst) ++ [.closing]))
        (.callOn target method (arguments.map Prod.snd))
  | cast {type : String} {tokens : List Token} {operand : SyntaxTree} :
      type ∉ reservedWords → Derives .unary tokens operand →
      Derives .unary (.opening :: .word type :: .closing :: tokens) (.cast type operand)
  | equality {operator : Operator} {front back : List Token} {left right : SyntaxTree} :
      operator ≠ .both → Derives .equality front left → Derives .unary back right →
      Derives .equality (front ++ .operator operator :: back) (.binary operator left right)
  | conjunction {front back : List Token} {left right : SyntaxTree} :
      Derives .conjunction front left → Derives .equality back right →
      Derives .conjunction (front ++ .operator .both :: back) (.binary .both left right)
  | ofPrimary {tokens : List Token} {tree : SyntaxTree} :
      Derives .primary tokens tree → Derives .unary tokens tree
  | ofUnary {tokens : List Token} {tree : SyntaxTree} :
      Derives .unary tokens tree → Derives .equality tokens tree
  | ofEquality {tokens : List Token} {tree : SyntaxTree} :
      Derives .equality tokens tree → Derives .conjunction tokens tree

/-! ## Reading from left to right -/

/-- A name that may be followed by arguments. -/
inductive Callee where
  /-- A name that stands alone. -/
  | own (name : String)
  /-- A name selected from what is on its left. -/
  | of (target : SyntaxTree) (name : String)

/-- The structure of the name without arguments. -/
def Callee.tree : Callee → SyntaxTree
  | .own name => .name name
  | .of target name => .field target name

/-- The structure of the name with arguments. -/
def Callee.call (arguments : List SyntaxTree) : Callee → SyntaxTree
  | .own name => .call name arguments
  | .of target name => .callOn target name arguments

/-- What is open on the left of an operand. -/
inductive Frame where
  /-- A parenthesis that groups. -/
  | group
  /-- The arguments of a call, with those before the one that is being read. -/
  | arguments (callee : Callee) (earlier : List SyntaxTree)
  /-- A cast. -/
  | cast (type : String)
  /-- An operator with its left operand. -/
  | left (operator : Operator) (operand : SyntaxTree)

/-- What has been read last. -/
inductive Reading where
  /-- Nothing that belongs to the operand that comes next. -/
  | start
  /-- The parenthesis in front of arguments. -/
  | opened
  /-- An operand. -/
  | value (tree : SyntaxTree)
  /-- A name. -/
  | named (callee : Callee)
  /-- The dot behind an operand. -/
  | select (target : SyntaxTree)
  /-- A name in parentheses, which is a cast if an operand follows. -/
  | bracketed (name : String)

namespace Reading

/-- The operand that has been read, if one has. -/
def tree? : Reading → Option SyntaxTree
  | .value tree => some tree
  | .named callee => some callee.tree
  | .bracketed name => some (.name name)
  | _ => none

/-- What is open if an operand begins now, unless it must not. -/
def operandFrames? (frames : List Frame) : Reading → Option (List Frame)
  | .start => some frames
  | .opened => some frames
  | .bracketed name => some (.cast name :: frames)
  | _ => none

end Reading

/-- The level at which an operator joins operands. -/
def Operator.level : Operator → Level
  | .same => .equality
  | .different => .equality
  | .both => .conjunction

/-- Completes the casts and the operations up to a level that are open at the end. -/
def complete (level : Level) : List Frame → SyntaxTree → List Frame × SyntaxTree
  | .cast type :: below, tree => complete level below (.cast type tree)
  | .left operator operand :: below, tree =>
      if operator = .both ∧ level ≠ .conjunction then
        (.left operator operand :: below, tree)
      else
        complete level below (.binary operator operand tree)
  | frames, tree => (frames, tree)

/-- Reads a word that is an operand or the beginning of one. -/
def readWord (word : String) : Option Reading :=
  if word = "this" then some (.value .this)
  else if word = "null" then some (.value .null)
  else if word = "true" then some (.value (.bool true))
  else if word = "false" then some (.value (.bool false))
  else if word ∈ reservedWords then none
  else some (.named (.own word))

/-- Closes what is innermost when everything on its right is complete. -/
def close : List Frame × SyntaxTree → Option (List Frame × Reading)
  | (.group :: below, tree) => some (below, .value tree)
  | (.arguments callee earlier :: below, tree) =>
      some (below, .value (callee.call (earlier ++ [tree])))
  | _ => none

/-- Goes on to the next argument of the innermost call. -/
def nextArgument : List Frame × SyntaxTree → Option (List Frame × Reading)
  | (.arguments callee earlier :: below, tree) =>
      some (.arguments callee (earlier ++ [tree]) :: below, .start)
  | _ => none

/-- Reads one token. -/
def shift : Token → List Frame × Reading → Option (List Frame × Reading)
  | .word word, (frames, .select target) =>
      if word ∈ reservedWords then none else some (frames, .named (.of target word))
  | .word word, (frames, reading) =>
      (reading.operandFrames? frames).bind fun base => (readWord word).map (base, ·)
  | .literal text, (frames, reading) =>
      (reading.operandFrames? frames).map (·, .value (.literal text))
  | .opening, (frames, .named callee) => some (.arguments callee [] :: frames, .opened)
  | .opening, (frames, reading) =>
      (reading.operandFrames? frames).map fun base => (.group :: base, .start)
  | .dot, (frames, reading) => reading.tree?.map (frames, .select ·)
  | .operator operator, (frames, reading) =>
      reading.tree?.map fun tree =>
        let (below, operand) := complete operator.level frames tree
        (.left operator operand :: below, .start)
  | .comma, (frames, reading) =>
      reading.tree?.bind fun tree => nextArgument (complete .conjunction frames tree)
  | .closing, (.arguments callee [] :: below, .opened) => some (below, .value (callee.call []))
  | .closing, (.group :: below, .named (.own name)) => some (below, .bracketed name)
  | .closing, (frames, reading) =>
      reading.tree?.bind fun tree => close (complete .conjunction frames tree)

/-- Reads tokens in order. -/
def shiftAll : List Token → List Frame × Reading → Option (List Frame × Reading)
  | [], state => some state
  | token :: rest, state => (shift token state).bind (shiftAll rest)

/-- The structure that is read from tokens: all of them are read, and nothing is left open. -/
def readTree (tokens : List Token) : Option SyntaxTree :=
  (shiftAll tokens ([], .start)).bind fun (frames, reading) =>
    reading.tree?.bind fun tree =>
      match complete .conjunction frames tree with
      | ([], tree) => some tree
      | _ => none

/-! ## What is left open -/

/-- A level is complete before a frame if no cast and no operation of the level ends there. -/
@[simp]
def Level.StopsAt : Level → Frame → Prop
  | .equality, .cast _ => False
  | .equality, .left operator _ => operator = .both
  | .conjunction, .cast _ => False
  | .conjunction, .left _ _ => False
  | _, _ => True

/-- An expression of the level may begin on top of the frames. -/
def Level.Stops (level : Level) (frames : List Frame) : Prop :=
  ∀ frame ∈ frames.head?, level.StopsAt frame

@[simp]
theorem Level.stops_nil (level : Level) : level.Stops [] := by
  simp [Stops]

@[simp]
theorem Level.stops_cons (level : Level) (frame : Frame) (below : List Frame) :
    level.Stops (frame :: below) ↔ level.StopsAt frame := by
  simp [Stops]

theorem complete_of_stops {frames : List Frame} (tree : SyntaxTree) :
    (Level.equality.Stops frames → complete .equality frames tree = (frames, tree)) ∧
      (Level.conjunction.Stops frames → complete .conjunction frames tree = (frames, tree)) := by
  cases frames with
  | nil => exact ⟨fun _ => rfl, fun _ => rfl⟩
  | cons frame below =>
      cases frame <;> simp +contextual [complete]

theorem Level.Stops.of_conjunction {frames : List Frame}
    (stops : Level.conjunction.Stops frames) : Level.equality.Stops frames := by
  cases frames with
  | nil => simp
  | cons frame below => cases frame <;> simp_all

/-- What has been completed up to `==` is completed further up to `&&`. -/
theorem complete_complete (frames : List Frame) (tree : SyntaxTree) :
    complete .conjunction (complete .equality frames tree).1 (complete .equality frames tree).2 =
      complete .conjunction frames tree := by
  fun_induction complete .equality frames tree with
  | case1 type below tree ih => rw [ih, complete]
  | case2 operator operand below tree stopped => rfl
  | case3 operator operand below tree joined ih => rw [ih, complete, if_neg (by simp)]
  | case4 frames tree => rfl

/-! ## Every derived structure is read -/

/-- An operand has been read and the frames are the given ones, up to what a level completes. -/
def Level.Ends (base : List Frame) (tree : SyntaxTree) :
    Level → List Frame × SyntaxTree → Prop
  | .primary, state => state = (base, tree)
  | .unary, (frames, operand) => complete .equality frames operand = complete .equality base tree
  | .equality, (frames, operand) => complete .equality frames operand = (base, tree)
  | .conjunction, (frames, operand) => complete .conjunction frames operand = (base, tree)

/-- Wherever an operand may begin and an expression of the level may end, the tokens are read as
the structure. -/
def Reads (level : Level) (tokens : List Token) (tree : SyntaxTree) : Prop :=
  ∀ frames reading base, reading.operandFrames? frames = some base → level.Stops base →
    ∃ after next operand, shiftAll tokens (frames, reading) = some (after, next) ∧
      next.tree? = some operand ∧ level.Ends base tree (after, operand)

theorem shiftAll_append (front back : List Token) (state : List Frame × Reading) :
    shiftAll (front ++ back) state = (shiftAll front state).bind (shiftAll back) := by
  induction front generalizing state with
  | nil => rfl
  | cons token rest ih =>
      rw [List.cons_append, shiftAll, shiftAll, Option.bind_assoc]
      exact congrArg _ (funext ih)

section Tokens

variable {frames base : List Frame} {reading : Reading}

theorem shift_word (begins : reading.operandFrames? frames = some base) (word : String) :
    shift (.word word) (frames, reading) = (readWord word).map (base, ·) := by
  cases reading <;> simp_all [shift, Reading.operandFrames?]

theorem shift_opening (begins : reading.operandFrames? frames = some base) :
    shift .opening (frames, reading) = some (.group :: base, .start) := by
  cases reading <;> simp_all [shift, Reading.operandFrames?]

theorem readWord_of_not_mem {name : String} (free : name ∉ reservedWords) :
    readWord name = some (.named (.own name)) := by
  have this : name ≠ "this" := fun same => free (by rw [same]; decide)
  have null : name ≠ "null" := fun same => free (by rw [same]; decide)
  have true : name ≠ "true" := fun same => free (by rw [same]; decide)
  have false : name ≠ "false" := fun same => free (by rw [same]; decide)
  simp [readWord, this, null, true, false, free]

variable {after : List Frame} {next : Reading} {operand tree : SyntaxTree}

/-- The parenthesis behind an argument completes the call. -/
theorem shift_closing_arguments {callee : Callee} {earlier : List SyntaxTree}
    (read : next.tree? = some operand)
    (ends : complete .conjunction after operand = (.arguments callee earlier :: base, tree)) :
    shift .closing (after, next) = some (base, .value (callee.call (earlier ++ [tree]))) := by
  unfold shift
  split
  all_goals simp_all [Reading.tree?, complete, close]

/-- The parenthesis behind a group leaves its structure. -/
theorem shift_closing_group (read : next.tree? = some operand)
    (ends : complete .conjunction after operand = (.group :: base, tree)) :
    ∃ last, shift .closing (after, next) = some (base, last) ∧ last.tree? = some tree := by
  unfold shift
  split
  all_goals simp_all [Reading.tree?, complete, close, Callee.tree]

theorem shift_comma {callee : Callee} {earlier : List SyntaxTree}
    (read : next.tree? = some operand)
    (ends : complete .conjunction after operand = (.arguments callee earlier :: base, tree)) :
    shift .comma (after, next) = some (.arguments callee (earlier ++ [tree]) :: base, .start) := by
  simp [shift, read, ends, nextArgument]

end Tokens

/-- The arguments of a call are read one after the other. -/
theorem shiftAll_arguments {arguments : List (List Token × SyntaxTree)}
    (reads : ∀ argument ∈ arguments, Reads .conjunction argument.1 argument.2) (callee : Callee)
    (base : List Frame) :
    shiftAll (separated (arguments.map Prod.fst) ++ [.closing])
        (.arguments callee [] :: base, .opened) =
      some (base, .value (callee.call (arguments.map Prod.snd))) := by
  cases arguments with
  | nil => rfl
  | cons first rest =>
      -- The induction is on the arguments that are still to be read.
      suffices further : ∀ (earlier : List SyntaxTree) (reading : Reading),
          reading.operandFrames? (.arguments callee earlier :: base) =
            some (.arguments callee earlier :: base) →
          shiftAll (separated ((first :: rest).map Prod.fst) ++ [.closing])
              (.arguments callee earlier :: base, reading) =
            some (base, .value (callee.call (earlier ++ (first :: rest).map Prod.snd))) from
        further [] .opened rfl
      induction rest generalizing first with
      | nil =>
          intro earlier reading begins
          obtain ⟨after, next, operand, run, read, ends⟩ :=
            reads first (by simp) _ _ _ begins (by simp)
          rw [List.map_singleton, separated, shiftAll_append, run, Option.bind_some, shiftAll,
            shift_closing_arguments read ends]
          rfl
      | cons second rest ih =>
          intro earlier reading begins
          obtain ⟨after, next, operand, run, read, ends⟩ :=
            reads first (by simp) _ _ _ begins (by simp)
          have later := ih second (fun argument member => reads argument (by simp [member]))
            (earlier ++ [first.2]) .start rfl
          rw [List.map_cons, List.map_cons, separated, List.append_assoc, shiftAll_append, run,
            Option.bind_some, List.cons_append, shiftAll, shift_comma read ends, Option.bind_some,
            ← List.map_cons, later]
          simp

/-! One lemma for each rule of the grammar. -/

namespace Reads

variable {tokens front back : List Token} {tree target left right : SyntaxTree} {name : String}
  {arguments : List (List Token × SyntaxTree)}

theorem ofWord {word : String} {reading : Reading} (read : readWord word = some reading)
    (operand : reading.tree? = some tree) : Reads .primary [.word word] tree := by
  intro frames before base begins _
  exact ⟨base, reading, tree, by simp [shiftAll, shift_word begins, read], operand, rfl⟩

theorem literal (text : String) : Reads .primary [.literal text] (.literal text) := by
  intro frames reading base begins _
  exact ⟨base, .value (.literal text), _, by simp [shiftAll, shift, begins], rfl, rfl⟩

theorem call (free : name ∉ reservedWords)
    (reads : ∀ argument ∈ arguments, Reads .conjunction argument.1 argument.2) :
    Reads .primary
      (.word name :: .opening :: (separated (arguments.map Prod.fst) ++ [.closing]))
      (.call name (arguments.map Prod.snd)) := by
  intro frames reading base begins _
  refine ⟨base, .value (.call name (arguments.map Prod.snd)), _, ?_, rfl, rfl⟩
  rw [shiftAll, shift_word begins, readWord_of_not_mem free, Option.map_some, Option.bind_some]
  exact shiftAll_arguments reads (.own name) base

theorem group (reads : Reads .conjunction tokens tree) :
    Reads .primary (.opening :: (tokens ++ [.closing])) tree := by
  intro frames reading base begins _
  obtain ⟨after, next, operand, run, read, ends⟩ := reads (.group :: base) .start _ rfl (by simp)
  obtain ⟨last, closed, structured⟩ := shift_closing_group read ends
  refine ⟨base, last, tree, ?_, structured, rfl⟩
  rw [shiftAll, shift_opening begins, Option.bind_some, shiftAll_append, run, Option.bind_some,
    shiftAll, closed]
  rfl

theorem field (reads : Reads .primary tokens target) (free : name ∉ reservedWords) :
    Reads .primary (tokens ++ [.dot, .word name]) (.field target name) := by
  intro frames reading base begins stops
  obtain ⟨after, next, operand, run, read, ends⟩ := reads frames reading base begins stops
  obtain ⟨rfl, rfl⟩ := Prod.mk.inj ends
  refine ⟨after, .named (.of operand name), _, ?_, rfl, rfl⟩
  rw [shiftAll_append, run]
  simp [shiftAll, shift, read, free]

theorem callOn (reads : Reads .primary tokens target) (free : name ∉ reservedWords)
    (readsArguments : ∀ argument ∈ arguments, Reads .conjunction argument.1 argument.2) :
    Reads .primary
      (tokens ++ .dot :: .word name :: .opening ::
        (separated (arguments.map Prod.fst) ++ [.closing]))
      (.callOn target name (arguments.map Prod.snd)) := by
  intro frames reading base begins stops
  obtain ⟨after, next, operand, run, read, ends⟩ := reads frames reading base begins stops
  obtain ⟨rfl, rfl⟩ := Prod.mk.inj ends
  refine ⟨after, .value ((Callee.of operand name).call (arguments.map Prod.snd)), _, ?_, rfl, rfl⟩
  have called := shiftAll_arguments readsArguments (.of operand name) after
  rw [shiftAll_append, run]
  simpa [shiftAll, shift, read, free] using called

/-- A name in parentheses becomes a cast when its operand begins. -/
theorem cast (free : name ∉ reservedWords) (reads : Reads .unary tokens tree) :
    Reads .unary (.opening :: .word name :: .closing :: tokens) (.cast name tree) := by
  intro frames reading base begins _
  obtain ⟨after, next, operand, run, read, ends⟩ :=
    reads base (.bracketed name) (.cast name :: base) rfl (by simp)
  refine ⟨after, next, operand, ?_, read, ends⟩
  rw [shiftAll, shift_opening begins]
  simpa [shiftAll, shift, readWord_of_not_mem free, Reading.operandFrames?] using run

theorem equality {operator : Operator} (different : operator ≠ .both)
    (reads : Reads .equality front left) (readsRight : Reads .unary back right) :
    Reads .equality (front ++ .operator operator :: back) (.binary operator left right) := by
  intro frames reading base begins stops
  obtain ⟨after, next, operand, run, read, ends⟩ := reads frames reading base begins stops
  obtain ⟨further, last, second, runRight, readRight, endsRight⟩ :=
    readsRight (.left operator left :: base) .start _ rfl (by simp)
  refine ⟨further, last, second, ?_, readRight, ?_⟩
  · have level : operator.level = .equality := by
      cases operator <;> simp_all [Operator.level]
    have reached : complete .equality after operand = (base, left) := ends
    rw [shiftAll_append, run]
    simpa [shiftAll, shift, read, level, reached] using runRight
  · have joined : complete .equality further second =
        complete .equality (.left operator left :: base) right := endsRight
    rw [complete, if_neg (by simp [different])] at joined
    exact joined.trans ((complete_of_stops _).1 stops)

theorem conjunction (reads : Reads .conjunction front left)
    (readsRight : Reads .equality back right) :
    Reads .conjunction (front ++ .operator .both :: back) (.binary .both left right) := by
  intro frames reading base begins stops
  obtain ⟨after, next, operand, run, read, ends⟩ := reads frames reading base begins stops
  obtain ⟨further, last, second, runRight, readRight, endsRight⟩ :=
    readsRight (.left .both left :: base) .start _ rfl (by simp)
  refine ⟨further, last, second, ?_, readRight, ?_⟩
  · have reached : complete .conjunction after operand = (base, left) := ends
    rw [shiftAll_append, run]
    simpa [shiftAll, shift, read, Operator.level, reached] using runRight
  · -- The right operand ends at its own level, and what is completed then goes on to the left one.
    have joined : complete .equality further second = (.left .both left :: base, right) :=
      endsRight
    have whole := complete_complete further second
    rw [joined, complete, if_neg (by simp)] at whole
    exact whole.symm.trans ((complete_of_stops _).2 stops)

theorem ofPrimary (reads : Reads .primary tokens tree) : Reads .unary tokens tree := by
  intro frames reading base begins _
  obtain ⟨after, next, operand, run, read, ends⟩ :=
    reads frames reading base begins (by simp [Level.Stops])
  obtain ⟨rfl, rfl⟩ := Prod.mk.inj ends
  exact ⟨after, next, operand, run, read, rfl⟩

theorem ofUnary (reads : Reads .unary tokens tree) : Reads .equality tokens tree := by
  intro frames reading base begins stops
  obtain ⟨after, next, operand, run, read, ends⟩ :=
    reads frames reading base begins (by simp [Level.Stops])
  exact ⟨after, next, operand, run, read, ends.trans ((complete_of_stops _).1 stops)⟩

theorem ofEquality (reads : Reads .equality tokens tree) : Reads .conjunction tokens tree := by
  intro frames reading base begins stops
  obtain ⟨after, next, operand, run, read, ends⟩ :=
    reads frames reading base begins stops.of_conjunction
  have reached : complete .equality after operand = (base, tree) := ends
  have whole := complete_complete after operand
  rw [reached] at whole
  exact ⟨after, next, operand, run, read, whole.symm.trans ((complete_of_stops _).2 stops)⟩

end Reads

/-- What the grammar derives is read. -/
theorem reads_of_derives {level : Level} {tokens : List Token} {tree : SyntaxTree}
    (derives : Derives level tokens tree) : Reads level tokens tree := by
  induction derives with
  | this => exact .ofWord rfl rfl
  | null => exact .ofWord rfl rfl
  | trueWord => exact .ofWord rfl rfl
  | falseWord => exact .ofWord rfl rfl
  | literal text => exact .literal text
  | name free => exact .ofWord (readWord_of_not_mem free) rfl
  | call free _ ih => exact .call free ih
  | group _ ih => exact ih.group
  | field _ free ih => exact ih.field free
  | callOn _ free _ ih ihArguments => exact ih.callOn free ihArguments
  | cast free _ ih => exact .cast free ih
  | equality different _ _ ih ihRight => exact .equality different ih ihRight
  | conjunction _ _ ih ihRight => exact .conjunction ih ihRight
  | ofPrimary _ ih => exact ih.ofPrimary
  | ofUnary _ ih => exact ih.ofUnary
  | ofEquality _ ih => exact ih.ofEquality

/-- An expression is read as its structure. -/
theorem readTree_of_derives {tokens : List Token} {tree : SyntaxTree}
    (derives : Derives .conjunction tokens tree) : readTree tokens = some tree := by
  obtain ⟨after, next, operand, run, read, ends⟩ :=
    reads_of_derives derives [] .start [] rfl (by simp)
  have reached : complete .conjunction after operand = ([], tree) := ends
  simp [readTree, run, read, reached]

/-- No tokens are an expression in two ways. -/
theorem Derives.unique {tokens : List Token} {first second : SyntaxTree}
    (derives : Derives .conjunction tokens first) (also : Derives .conjunction tokens second) :
    first = second := by
  have read := readTree_of_derives derives
  rw [readTree_of_derives also] at read
  exact (Option.some.inj read).symm

end ValueMethods
