import ValueMethods.Proofs.ExpressionGrammar

/-!
# Reading expressions back

The text of an expression, nested or not, has exactly one structure, and it is that of the code
tree.  The structure says as little about names as the text does: a local variable and a field of
the current object look alike, a static call looks like a call on a name, and a listing is the
chain of its calls.
-/

namespace ValueMethods

/-! ## Structures and tokens of code trees -/

/-- The structure of the chain of calls that a listing is written as. -/
def Listing.erasure (content : Listing) : SyntaxTree :=
  let begun := .callOn (.name content.helper.name) "toStringHelper" [.this]
  let chosen := if content.omitNulls then .callOn begun "omitNullValues" [] else begun
  let filled := content.entries.foldl (fun chain entry =>
    .callOn chain "add" [.literal (stringLiteral entry.label), .name entry.field]) chosen
  .callOn filled "toString" []

mutual

/-- The structure of an expression as it is written. -/
def Expr.erasure : Expr → SyntaxTree
  | .this => .this
  | .null => .null
  | .bool value => .bool value
  | .local name => .name name
  | .ownField name => .name name
  | .fieldOf target name => .field target.erasure name
  | .ownCall method arguments => .call method (Expr.erasures arguments)
  | .callOn target method arguments => .callOn target.erasure method (Expr.erasures arguments)
  | .staticCall owner method arguments =>
      .callOn (.name owner.name) method (Expr.erasures arguments)
  | .cast type operand => .cast type operand.erasure
  | .binary operator left right => .binary operator left.erasure right.erasure
  | .listing content => content.erasure

/-- The structures of expressions, in order. -/
def Expr.erasures : List Expr → List SyntaxTree
  | [] => []
  | first :: rest => first.erasure :: Expr.erasures rest

end

/-- The tokens of arguments in parentheses. -/
def bracketed (arguments : List (List Token)) : List Token :=
  .opening :: (separated arguments ++ [.closing])

/-- The tokens of a call behind a dot. -/
def callTokens (method : String) (arguments : List (List Token)) : List Token :=
  .dot :: .word method :: bracketed arguments

/-- The tokens of a listing. -/
def Listing.tokens (content : Listing) : List Token :=
  .word content.helper.name :: (callTokens "toStringHelper" [[.word "this"]] ++
    ((if content.omitNulls then callTokens "omitNullValues" [] else []) ++
      (content.entries.flatMap (fun entry =>
        callTokens "add" [[.literal (stringLiteral entry.label)], [.word entry.field]]) ++
          callTokens "toString" [])))

mutual

/-- The tokens of an expression.  As in its text, a nested operation is in parentheses. -/
def Expr.tokens (nested : Bool) : Expr → List Token
  | .this => [.word "this"]
  | .null => [.word "null"]
  | .bool true => [.word "true"]
  | .bool false => [.word "false"]
  | .local name => [.word name]
  | .ownField name => [.word name]
  | .fieldOf target name => target.tokens true ++ [.dot, .word name]
  | .ownCall method arguments => .word method :: bracketed (Expr.tokensOfAll arguments)
  | .callOn target method arguments =>
      target.tokens true ++ callTokens method (Expr.tokensOfAll arguments)
  | .staticCall owner method arguments =>
      .word owner.name :: callTokens method (Expr.tokensOfAll arguments)
  | .cast type operand =>
      .opening :: .opening :: .word type :: .closing :: (operand.tokens true ++ [.closing])
  | .binary operator left right =>
      let inner := left.tokens true ++ .operator operator :: right.tokens true
      if nested then .opening :: (inner ++ [.closing]) else inner
  | .listing content => content.tokens

/-- The tokens of each argument of a call. -/
def Expr.tokensOfAll : List Expr → List (List Token)
  | [] => []
  | first :: rest => first.tokens false :: Expr.tokensOfAll rest

end

theorem Expr.erasures_eq_map (arguments : List Expr) :
    Expr.erasures arguments = arguments.map Expr.erasure := by
  induction arguments with
  | nil => rfl
  | cons first rest ih => rw [Expr.erasures, ih, List.map_cons]

theorem Expr.tokensOfAll_eq_map (arguments : List Expr) :
    Expr.tokensOfAll arguments = arguments.map (Expr.tokens false) := by
  induction arguments with
  | nil => rfl
  | cons first rest ih => rw [Expr.tokensOfAll, ih, List.map_cons]

/-! ## Code trees that can be read back -/

/-- The helper and the fields of a listing are identifiers, and its labels have no carriage
returns.  Line feeds are escaped where a label is written. -/
structure Listing.Readable (alphabet : Alphabet) (content : Listing) : Prop where
  helper : alphabet.IsIdentifier content.helper.name
  fields : ∀ entry ∈ content.entries, alphabet.IsIdentifier entry.field
  labels : ∀ entry ∈ content.entries, '\r' ∉ entry.label.toList

/-- All names in an expression are identifiers. -/
inductive Expr.Readable (alphabet : Alphabet) : Expr → Prop
  | this : Readable alphabet .this
  | null : Readable alphabet .null
  | bool (value : Bool) : Readable alphabet (.bool value)
  | local {name : String} : alphabet.IsIdentifier name → Readable alphabet (.local name)
  | ownField {name : String} : alphabet.IsIdentifier name → Readable alphabet (.ownField name)
  | fieldOf {target : Expr} {name : String} : Readable alphabet target →
      alphabet.IsIdentifier name → Readable alphabet (.fieldOf target name)
  | ownCall {method : String} {arguments : List Expr} : alphabet.IsIdentifier method →
      (∀ argument ∈ arguments, Readable alphabet argument) →
      Readable alphabet (.ownCall method arguments)
  | callOn {target : Expr} {method : String} {arguments : List Expr} : Readable alphabet target →
      alphabet.IsIdentifier method → (∀ argument ∈ arguments, Readable alphabet argument) →
      Readable alphabet (.callOn target method arguments)
  | staticCall {owner : TypeName} {method : String} {arguments : List Expr} :
      alphabet.IsIdentifier owner.name → alphabet.IsIdentifier method →
      (∀ argument ∈ arguments, Readable alphabet argument) →
      Readable alphabet (.staticCall owner method arguments)
  | cast {type : String} {operand : Expr} : alphabet.IsIdentifier type →
      Readable alphabet operand → Readable alphabet (.cast type operand)
  | binary {left right : Expr} (operator : Operator) : Readable alphabet left →
      Readable alphabet right → Readable alphabet (.binary operator left right)
  | listing {content : Listing} : content.Readable alphabet → Readable alphabet (.listing content)

/-! ## The tokens have the structure -/

namespace Derives

variable {tokens : List Token} {target : SyntaxTree} {method : String} {arguments : List Expr}

theorem ofPrimaryToConjunction {tree : SyntaxTree} (derives : Derives .primary tokens tree) :
    Derives .conjunction tokens tree :=
  derives.ofPrimary.ofUnary.ofEquality

/-- An operation is an expression of the whole grammar if its operands are in parentheses. -/
theorem binary (operator : Operator) {front back : List Token} {left right : SyntaxTree}
    (derives : Derives .primary front left) (derivesRight : Derives .primary back right) :
    Derives .conjunction (front ++ .operator operator :: back) (.binary operator left right) := by
  cases operator with
  | same => exact (equality (by decide) derives.ofPrimary.ofUnary derivesRight.ofPrimary).ofEquality
  | different =>
      exact (equality (by decide) derives.ofPrimary.ofUnary derivesRight.ofPrimary).ofEquality
  | both => exact conjunction derives.ofPrimaryToConjunction derivesRight.ofPrimary.ofUnary

/-- Expressions of the whole grammar as arguments. -/
theorem arguments_of_forall
    (each : ∀ argument ∈ arguments, Derives .conjunction (argument.tokens false) argument.erasure) :
    ∀ argument ∈ arguments.map fun argument => (argument.tokens false, argument.erasure),
      Derives .conjunction argument.1 argument.2 := by
  intro argument member
  obtain ⟨expression, isArgument, rfl⟩ := List.mem_map.mp member
  exact each expression isArgument

theorem callExprs (free : method ∉ reservedWords)
    (each : ∀ argument ∈ arguments, Derives .conjunction (argument.tokens false) argument.erasure) :
    Derives .primary (.word method :: bracketed (Expr.tokensOfAll arguments))
      (.call method (Expr.erasures arguments)) := by
  have called := Derives.call free (arguments_of_forall each)
  rw [List.map_map, List.map_map] at called
  rw [Expr.tokensOfAll_eq_map, Expr.erasures_eq_map]
  exact called

theorem callExprsOn (derives : Derives .primary tokens target) (free : method ∉ reservedWords)
    (each : ∀ argument ∈ arguments, Derives .conjunction (argument.tokens false) argument.erasure) :
    Derives .primary (tokens ++ callTokens method (Expr.tokensOfAll arguments))
      (.callOn target method (Expr.erasures arguments)) := by
  have called := derives.callOn free (arguments_of_forall each)
  rw [List.map_map, List.map_map] at called
  rw [Expr.tokensOfAll_eq_map, Expr.erasures_eq_map]
  exact called

end Derives

namespace Listing

theorem derives_entries {entries : List LabelledField}
    (fields : ∀ entry ∈ entries, entry.field ∉ reservedWords) {tokens : List Token}
    {chain : SyntaxTree} (derives : Derives .primary tokens chain) :
    Derives .primary
      (tokens ++ entries.flatMap fun entry =>
        callTokens "add" [[.literal (stringLiteral entry.label)], [.word entry.field]])
      (entries.foldl (fun chain entry =>
        .callOn chain "add" [.literal (stringLiteral entry.label), .name entry.field]) chain) := by
  induction entries generalizing tokens chain with
  | nil => simpa using derives
  | cons entry rest ih =>
      obtain ⟨here, later⟩ := List.forall_mem_cons.mp fields
      have arguments : ∀ argument ∈
          [([Token.literal (stringLiteral entry.label)],
            SyntaxTree.literal (stringLiteral entry.label)),
            ([.word entry.field], .name entry.field)],
          Derives .conjunction argument.1 argument.2 := by
        simpa using And.intro (Derives.literal (stringLiteral entry.label)).ofPrimaryToConjunction
          (Derives.name here).ofPrimaryToConjunction
      have added := ih later (derives.callOn (by decide : "add" ∉ reservedWords) arguments)
      rw [List.append_assoc] at added
      exact added

/-- A listing is a chain of calls, each on what is before it. -/
theorem derives {content : Listing} (helper : content.helper.name ∉ reservedWords)
    (fields : ∀ entry ∈ content.entries, entry.field ∉ reservedWords) :
    Derives .primary content.tokens content.erasure := by
  have current : ∀ argument ∈ [([Token.word "this"], SyntaxTree.this)],
      Derives .conjunction argument.1 argument.2 := by
    simpa using Derives.this.ofPrimaryToConjunction
  have nothing : ∀ argument ∈ ([] : List (List Token × SyntaxTree)),
      Derives .conjunction argument.1 argument.2 := by simp
  have begun := (Derives.name helper).callOn (by decide : "toStringHelper" ∉ reservedWords) current
  have chosen : Derives .primary
      ([.word content.helper.name] ++ callTokens "toStringHelper" [[.word "this"]] ++
        if content.omitNulls then callTokens "omitNullValues" [] else [])
      (if content.omitNulls then
        .callOn (.callOn (.name content.helper.name) "toStringHelper" [.this]) "omitNullValues" []
      else
        .callOn (.name content.helper.name) "toStringHelper" [.this]) := by
    split
    · exact begun.callOn (by decide : "omitNullValues" ∉ reservedWords) nothing
    · exact (List.append_nil _).symm ▸ begun
  have whole := (derives_entries fields chosen).callOn (by decide : "toString" ∉ reservedWords)
    nothing
  simp only [List.append_assoc] at whole
  exact whole

end Listing

/-- The tokens of a nested expression are one operand, and those of any expression are an
expression. -/
theorem Expr.Readable.derives {alphabet : Alphabet} {expression : Expr}
    (readable : expression.Readable alphabet) :
    Derives .primary (expression.tokens true) expression.erasure ∧
      Derives .conjunction (expression.tokens false) expression.erasure := by
  -- Only operations are written in two ways.
  have alike {one : Expr} (same : one.tokens false = one.tokens true)
      (derives : Derives .primary (one.tokens true) one.erasure) :
      Derives .primary (one.tokens true) one.erasure ∧
        Derives .conjunction (one.tokens false) one.erasure :=
    ⟨derives, same ▸ derives.ofPrimaryToConjunction⟩
  induction readable with
  | this => exact alike rfl .this
  | null => exact alike rfl .null
  | bool value =>
      cases value with
      | true => exact alike rfl .trueWord
      | false => exact alike rfl .falseWord
  | «local» name => exact alike rfl (.name name.notReserved)
  | ownField name => exact alike rfl (.name name.notReserved)
  | fieldOf _ name ih => exact alike rfl (ih.1.field name.notReserved)
  | ownCall method _ ih =>
      exact alike rfl (.callExprs method.notReserved fun argument member => (ih argument member).2)
  | callOn _ method _ ih ihArguments =>
      exact alike rfl (ih.1.callExprsOn method.notReserved fun argument member =>
        (ihArguments argument member).2)
  | staticCall owner method _ ih =>
      have called := (Derives.name owner.notReserved).callExprsOn method.notReserved
        fun argument member => (ih argument member).2
      exact alike rfl called
  | cast type _ ih =>
      have cast := (Derives.cast type.notReserved ih.1.ofPrimary).ofUnary.ofEquality.group
      exact alike rfl cast
  | binary operator _ _ ih ihRight =>
      have derives := ih.1.binary operator ihRight.1
      exact ⟨derives.group, derives⟩
  | listing content =>
      exact alike rfl (Listing.derives content.helper.notReserved fun entry member =>
        (content.fields entry member).notReserved)

/-! ## The text has the tokens -/

namespace Alphabet.Spells

variable {alphabet : Alphabet} {text : List Char} {tokens : List Token}

/-- A selection behind a text. -/
theorem selection (spells : alphabet.Spells text tokens) {name : String}
    (isWord : alphabet.IsWord name) :
    alphabet.Spells (text ++ '.' :: name.toList) (tokens ++ [.dot, .word name]) :=
  have dot := alphabet.not_continues '.' (by decide)
  spells.append_cons dot (isWord.spells.cons dot rfl)

/-- A word with arguments in parentheses. -/
theorem applied {method : String} (isWord : alphabet.IsWord method) {arguments : List Char}
    {each : List (List Token)} (spells : alphabet.Spells arguments (separated each)) :
    alphabet.Spells (method.toList ++ '(' :: (arguments ++ [')']))
      (.word method :: bracketed each) :=
  isWord.spells.append_cons (alphabet.not_continues '(' (by decide)) spells.parenthesized

/-- A call behind a text. -/
theorem called (spells : alphabet.Spells text tokens) {method : String}
    (isWord : alphabet.IsWord method) {arguments : List Char} {each : List (List Token)}
    (spellsArguments : alphabet.Spells arguments (separated each)) :
    alphabet.Spells (text ++ '.' :: (method.toList ++ '(' :: (arguments ++ [')'])))
      (tokens ++ callTokens method each) :=
  have dot := alphabet.not_continues '.' (by decide)
  spells.append_cons dot ((applied isWord spellsArguments).cons dot rfl)

/-- A comma and a blank between two texts. -/
theorem comma (spells : alphabet.Spells text tokens) {more : List Char} {others : List Token}
    (further : alphabet.Spells more others) :
    alphabet.Spells (text ++ ',' :: ' ' :: more) (tokens ++ .comma :: others) := by
  have comma := alphabet.not_continues ',' (by decide)
  have blank := alphabet.not_continues ' ' (by decide)
  exact spells.append_cons comma ((further.cons blank rfl).cons comma rfl)

/-- The arguments of a call. -/
theorem arguments {arguments : List Expr}
    (each : ∀ argument ∈ arguments,
      alphabet.Spells (argument.text false).toList (argument.tokens false)) :
    alphabet.Spells (Expr.argumentText arguments).toList
      (separated (Expr.tokensOfAll arguments)) := by
  induction arguments with
  | nil => exact .nil
  | cons first rest ih =>
      obtain ⟨here, later⟩ := List.forall_mem_cons.mp each
      cases rest with
      | nil => exact here
      | cons next rest =>
          have both := here.comma (ih later)
          have written : (Expr.argumentText (first :: next :: rest)).toList =
              (first.text false).toList ++
                ',' :: ' ' :: (Expr.argumentText (next :: rest)).toList := by
            simp [Expr.argumentText]
          rw [written]
          exact both

end Alphabet.Spells

namespace Listing

variable {alphabet : Alphabet}

theorem spells_entries {entries : List LabelledField}
    (fields : ∀ entry ∈ entries, alphabet.IsIdentifier entry.field)
    (labels : ∀ entry ∈ entries, '\r' ∉ entry.label.toList) {text : List Char}
    {tokens : List Token} (spells : alphabet.Spells text tokens) :
    alphabet.Spells (text ++ (Text.concat (entries.map entryText)).toList)
      (tokens ++ entries.flatMap fun entry =>
        callTokens "add" [[.literal (stringLiteral entry.label)], [.word entry.field]]) := by
  induction entries generalizing text tokens with
  | nil => simpa using spells
  | cons entry rest ih =>
      obtain ⟨field, otherFields⟩ := List.forall_mem_cons.mp fields
      obtain ⟨label, otherLabels⟩ := List.forall_mem_cons.mp labels
      have literal : alphabet.Spells (stringLiteral entry.label).toList
          [.literal (stringLiteral entry.label)] := by
        simpa using Alphabet.Spells.nil.literal label
      have add : alphabet.IsWord "add" := alphabet.isWord_of_letters (by decide) (by decide)
      have arguments : alphabet.Spells
          ((stringLiteral entry.label).toList ++ ',' :: ' ' :: entry.field.toList)
          (separated [[.literal (stringLiteral entry.label)], [.word entry.field]]) :=
        literal.comma field.spells
      have further := ih otherFields otherLabels (spells.called add arguments)
      have written : (text ++ '.' :: ("add".toList ++ '(' :: ((stringLiteral entry.label).toList ++
          ',' :: ' ' :: entry.field.toList ++ [')'])) ++
            (Text.concat (rest.map entryText)).toList) =
          text ++ (Text.concat ((entry :: rest).map entryText)).toList := by
        simp [entryText]
      rw [written, List.append_assoc] at further
      exact further

/-- What a listing opens with, in front of its entries. -/
theorem spells_opening {content : Listing} (helper : alphabet.IsIdentifier content.helper.name) :
    alphabet.Spells
      (content.helper.name.toList ++ ".toStringHelper(this)".toList ++
        (if content.omitNulls then ".omitNullValues()" else "").toList)
      ([.word content.helper.name] ++ callTokens "toStringHelper" [[.word "this"]] ++
        if content.omitNulls then callTokens "omitNullValues" [] else []) := by
  have word {name : String} (nonempty : name.toList ≠ [])
      (letters : name.toList.all Char.isAlpha = true) : alphabet.IsWord name :=
    alphabet.isWord_of_letters nonempty letters
  have current : alphabet.Spells "this".toList (separated [[.word "this"]]) :=
    (word (by decide) (by decide)).spells
  have begun := helper.spells.called
    (word (by decide) (by decide) : alphabet.IsWord "toStringHelper") current
  split
  · have nothing : alphabet.Spells [] (separated []) := .nil
    exact begun.called (word (by decide) (by decide) : alphabet.IsWord "omitNullValues") nothing
  · simpa using begun

theorem Readable.spells {content : Listing} (readable : content.Readable alphabet) :
    alphabet.Spells content.text.toList content.tokens := by
  have last : alphabet.IsWord "toString" := alphabet.isWord_of_letters (by decide) (by decide)
  have opening := spells_opening readable.helper
  have nothing : alphabet.Spells [] (separated []) := .nil
  have whole := (spells_entries readable.fields readable.labels opening).called last nothing
  have written : content.helper.name.toList ++ ".toStringHelper(this)".toList ++
      (if content.omitNulls then ".omitNullValues()" else "").toList ++
        (Text.concat (content.entries.map entryText)).toList ++
          '.' :: ("toString".toList ++ '(' :: ([] ++ [')'])) = content.text.toList := by
    simp [text]
  rw [written] at whole
  simp only [List.append_assoc] at whole
  exact whole

end Listing

/-- The text of an expression falls into its tokens. -/
theorem Expr.Readable.spells {alphabet : Alphabet} {expression : Expr}
    (readable : expression.Readable alphabet) (nested : Bool) :
    alphabet.Spells (expression.text nested).toList (expression.tokens nested) := by
  have reserved {word : String} (nonempty : word.toList ≠ [])
      (letters : word.toList.all Char.isAlpha = true) :
      alphabet.Spells word.toList [.word word] :=
    (alphabet.isWord_of_letters nonempty letters).spells
  induction readable generalizing nested with
  | this => exact (reserved (by decide) (by decide) : alphabet.Spells "this".toList _)
  | null => exact (reserved (by decide) (by decide) : alphabet.Spells "null".toList _)
  | bool value =>
      cases value with
      | true => exact (reserved (by decide) (by decide) : alphabet.Spells "true".toList _)
      | false => exact (reserved (by decide) (by decide) : alphabet.Spells "false".toList _)
  | «local» name => exact name.spells
  | ownField name => exact name.spells
  | @fieldOf target name _ isName ih =>
      have written : (Expr.text nested (.fieldOf target name)).toList =
          (target.text true).toList ++ '.' :: name.toList := by
        simp [Expr.text]
      rw [written]
      exact (ih true).selection isName.toIsWord
  | @ownCall method arguments isName _ ih =>
      have written : (Expr.text nested (.ownCall method arguments)).toList =
          method.toList ++ '(' :: ((Expr.argumentText arguments).toList ++ [')']) := by
        simp [Expr.text]
      rw [written]
      exact .applied isName.toIsWord (.arguments fun argument member => ih argument member false)
  | @callOn target method arguments _ isName _ ih ihArguments =>
      have written : (Expr.text nested (.callOn target method arguments)).toList =
          (target.text true).toList ++ '.' :: (method.toList ++
            '(' :: ((Expr.argumentText arguments).toList ++ [')'])) := by
        simp [Expr.text]
      rw [written]
      exact (ih true).called isName.toIsWord
        (.arguments fun argument member => ihArguments argument member false)
  | @staticCall owner method arguments isOwner isName _ ih =>
      have written : (Expr.text nested (.staticCall owner method arguments)).toList =
          owner.name.toList ++ '.' :: (method.toList ++
            '(' :: ((Expr.argumentText arguments).toList ++ [')'])) := by
        simp [Expr.text]
      rw [written]
      exact isOwner.spells.called isName.toIsWord
        (.arguments fun argument member => ih argument member false)
  | @cast type operand isName _ ih =>
      have written : (Expr.text nested (.cast type operand)).toList =
          '(' :: ('(' :: (type.toList ++ [')']) ++ ' ' :: (operand.text true).toList ++ [')']) := by
        simp [Expr.text]
      have blank := alphabet.not_continues ' ' (by decide)
      have cast := (isName.spells.parenthesized.append_cons blank
        ((ih true).cons blank rfl)).parenthesized
      rw [written]
      simpa [Expr.tokens] using cast
  | @binary left right operator _ _ ih ihRight =>
      have blank := alphabet.not_continues ' ' (by decide)
      have inner := (ih true).append_cons blank
        ((((ihRight true).cons blank rfl).operator operator).cons blank rfl)
      cases nested with
      | true =>
          have written : (Expr.text true (.binary operator left right)).toList =
              '(' :: ((left.text true).toList ++ ' ' :: (operator.symbol.toList ++
                ' ' :: (right.text true).toList) ++ [')']) := by
            simp [Expr.text]
          rw [written]
          exact inner.parenthesized
      | false =>
          have written : (Expr.text false (.binary operator left right)).toList =
              (left.text true).toList ++ ' ' :: (operator.symbol.toList ++
                ' ' :: (right.text true).toList) := by
            simp [Expr.text]
          rw [written]
          exact inner
  | listing content => exact content.spells

/-! ## Reading back -/

/-- The text is an expression of Java with that structure. -/
def Alphabet.Parses (alphabet : Alphabet) (text : String) (tree : SyntaxTree) : Prop :=
  ∃ tokens, alphabet.tokens? text = some tokens ∧ Derives .conjunction tokens tree

/-- A text has at most one structure. -/
theorem Alphabet.Parses.unique {alphabet : Alphabet} {text : String} {first second : SyntaxTree}
    (parses : alphabet.Parses text first) (also : alphabet.Parses text second) :
    first = second := by
  obtain ⟨tokens, read, derives⟩ := parses
  obtain ⟨others, readToo, derivesToo⟩ := also
  obtain rfl : tokens = others := Option.some.inj (read.symm.trans readToo)
  exact derives.unique derivesToo

theorem Expr.Readable.parses {alphabet : Alphabet} {expression : Expr}
    (readable : expression.Readable alphabet) (nested : Bool) :
    alphabet.Parses (expression.text nested) expression.erasure := by
  refine ⟨expression.tokens nested, ?_, ?_⟩
  · have spelled := readable.spells nested [] (by simp [Alphabet.EndsWord])
    simpa [Alphabet.tokens?, Alphabet.scan] using spelled
  · cases nested with
    | true => exact readable.derives.1.ofPrimaryToConjunction
    | false => exact readable.derives.2

/-- In any alphabet, the text of an expression with identifiers for names parses, nested or not, and
its structure is the erasure of the expression and no other.  So two expressions with one text have
one erasure. -/
theorem text_parses_iff_erasure {alphabet : Alphabet} {expression : Expr}
    (readable : expression.Readable alphabet) (nested : Bool) :
    (∀ tree, alphabet.Parses (expression.text nested) tree ↔ tree = expression.erasure) ∧
    ∀ (other : Expr) (nestedToo : Bool), other.Readable alphabet →
      other.text nestedToo = expression.text nested → other.erasure = expression.erasure := by
  have parses := readable.parses nested
  constructor
  · intro tree
    constructor
    · exact fun also => also.unique parses
    · rintro rfl
      exact parses
  · intro other nestedToo readableToo same
    have parsesToo := readableToo.parses nestedToo
    rw [same] at parsesToo
    exact parsesToo.unique parses

/-! ### An expression of all kinds -/

/-- The identifiers of English letters, digits, underscores and dollar signs. -/
def asciiAlphabet : Alphabet where
  opens c := c.isAlpha || c == '_' || c == '$'
  continues c := c.isAlphanum || c == '_' || c == '$'
  continues_of_opens c opens := by
    simp only [Bool.or_eq_true, Char.isAlphanum] at opens ⊢
    exact opens.imp_left (Or.imp_left .inl)
  opens_of_letter c letter := by simp [letter]
  not_continues := by
    simp only [List.forall_mem_cons, List.not_mem_nil, false_implies, implies_true, and_true]
    decide

/-- Casts as targets and as operands, operations under operations and among arguments, and a listing
with quotes in its label. -/
def tangled : Expr :=
  .binary .both
    (.binary .different
      (.fieldOf (.cast "T" (.callOn (.binary .same (.local "a") .null) "f"
        [.binary .both (.local "x") (.ownField "y"), .this])) "g")
      (.ownCall "h" []))
    (.binary .same
      (.staticCall ⟨some "p", "C"⟩ "k" [.cast "U" (.cast "T" (.ownField "z")), .bool true])
      (.listing ⟨⟨some "q", "H"⟩, "C", true, [⟨"the \"x\"", "x"⟩]⟩))

theorem readable_tangled : tangled.Readable asciiAlphabet := by
  have name {name : String} (isIdentifier : decide (asciiAlphabet.IsIdentifier name) = true) :
      asciiAlphabet.IsIdentifier name :=
    of_decide_eq_true isIdentifier
  have both : Expr.Readable asciiAlphabet (.binary .both (.local "x") (.ownField "y")) :=
    .binary _ (.local (name rfl)) (.ownField (name rfl))
  have casts : Expr.Readable asciiAlphabet (.cast "U" (.cast "T" (.ownField "z"))) :=
    .cast (name rfl) (.cast (name rfl) (.ownField (name rfl)))
  have target : Expr.Readable asciiAlphabet (.callOn (.binary .same (.local "a") .null) "f"
      [.binary .both (.local "x") (.ownField "y"), .this]) :=
    .callOn (.binary _ (.local (name rfl)) .null) (name rfl) (by simp [both, Expr.Readable.this])
  have static : Expr.Readable asciiAlphabet (.staticCall ⟨some "p", "C"⟩ "k"
      [.cast "U" (.cast "T" (.ownField "z")), .bool true]) :=
    .staticCall (name rfl) (name rfl) (by simp [casts, Expr.Readable.bool])
  have listing : Expr.Readable asciiAlphabet
      (.listing ⟨⟨some "q", "H"⟩, "C", true, [⟨"the \"x\"", "x"⟩]⟩) :=
    .listing ⟨name rfl, by simpa using name rfl, by simp⟩
  exact .binary _
    (.binary _ (.fieldOf (.cast (name rfl) target) (name rfl)) (.ownCall (name rfl) (by simp)))
    (.binary _ static listing)

theorem text_parses_as_tangled :
    tangled.Readable asciiAlphabet ∧
      tangled.text false =
        "(((T) (a == null).f(x && y, this)).g != h()) && (C.k(((U) ((T) z)), true) == " ++
          "H.toStringHelper(this).omitNullValues().add(\"the \\\"x\\\"\", x).toString())" ∧
      asciiAlphabet.Parses (tangled.text false) tangled.erasure ∧
      ¬asciiAlphabet.Parses (tangled.text false) .this := by
  have structured := (text_parses_iff_erasure readable_tangled false).1
  refine ⟨readable_tangled, by decide +kernel, (structured _).mpr rfl, fun parses => ?_⟩
  have same : SyntaxTree.this = tangled.erasure := (structured _).mp parses
  simp [tangled, Expr.erasure] at same

end ValueMethods
