import Mathlib.Data.String.Basic
import ValueMethods.Source.Unit

/-!
# Imports

The import lines of a unit ascend, and they are those of the classes that the generated methods call
by name and that neither `java.lang` nor the package of the class offers.  What the methods call is
found by going through their trees, and what is printed is found by marking the class names in their
text; the two agree, so each line is needed and none is missing.
-/

namespace ValueMethods

/-! ## Ascending texts -/

theorem mem_insertSorted_iff (text other : String) (texts : List String) :
    other ∈ insertSorted text texts ↔ other = text ∨ other ∈ texts := by
  induction texts with
  | nil => simp [insertSorted]
  | cons first rest ih =>
      rw [insertSorted]
      split
      · next same => simp [same]
      · split
        · exact List.mem_cons
        · rw [List.mem_cons, ih, List.mem_cons]
          exact or_left_comm

theorem mem_sortedTexts_iff (texts : List String) (text : String) :
    text ∈ sortedTexts texts ↔ text ∈ texts := by
  induction texts with
  | nil => simp [sortedTexts]
  | cons first rest ih =>
      rw [sortedTexts, List.foldr_cons, ← sortedTexts, mem_insertSorted_iff, ih, List.mem_cons]

theorem pairwise_insertSorted {texts : List String} (ascending : texts.Pairwise (· < ·))
    (text : String) : (insertSorted text texts).Pairwise (· < ·) := by
  induction texts with
  | nil => exact List.pairwise_singleton _ _
  | cons first rest ih =>
      obtain ⟨above, later⟩ := List.pairwise_cons.mp ascending
      rw [insertSorted]
      split
      · exact ascending
      · next different =>
          split
          · next below =>
              refine List.pairwise_cons.mpr ⟨fun other member => ?_, ascending⟩
              rcases List.mem_cons.mp member with rfl | further
              · exact below
              · exact lt_trans below (above other further)
          · next notBelow =>
              refine List.pairwise_cons.mpr ⟨fun other member => ?_, ih later⟩
              rcases (mem_insertSorted_iff text other rest).mp member with rfl | further
              · exact lt_of_le_of_ne (le_of_not_gt notBelow) (Ne.symm different)
              · exact above other further

theorem pairwise_sortedTexts (texts : List String) : (sortedTexts texts).Pairwise (· < ·) := by
  induction texts with
  | nil => exact .nil
  | cons first rest ih => exact pairwise_insertSorted ih first

/-! ## Classes that trees call -/

/-- The class that an expression calls by name, its parts aside. -/
def Expr.callee? : Expr → Option TypeName
  | .staticCall owner _ _ => some owner
  | .listing content => some content.helper
  | _ => none

/-- The expressions that an expression is put together from. -/
def Expr.parts : Expr → List Expr
  | .fieldOf target _ => [target]
  | .ownCall _ arguments => arguments
  | .callOn target _ arguments => target :: arguments
  | .staticCall _ _ arguments => arguments
  | .cast _ operand => [operand]
  | .binary _ left right => [left, right]
  | _ => []

/-- The expression calls the class by name, somewhere inside it. -/
inductive Expr.Calls (type : TypeName) : Expr → Prop
  | here {expr : Expr} (named : expr.callee? = some type) : Calls type expr
  | inside {expr part : Expr} (member : part ∈ expr.parts) (calls : Calls type part) :
      Calls type expr

/-- The statement calls the class by name, somewhere inside it. -/
inductive Stmt.Calls (type : TypeName) : Stmt → Prop
  | condition {condition : Expr} (body : List Stmt) (calls : condition.Calls type) :
      Calls type (.branch condition body)
  | body {condition : Expr} {body : List Stmt} {stmt : Stmt} (member : stmt ∈ body)
      (calls : Calls type stmt) : Calls type (.branch condition body)
  | initial {initial : Expr} (declared name : String) (calls : initial.Calls type) :
      Calls type (.declare declared name initial)
  | result {value : Expr} (calls : value.Calls type) : Calls type (.result value)

/-- A statement in the body of the method calls the class by name. -/
def Method.Calls (type : TypeName) (method : Method) : Prop :=
  ∃ stmt ∈ method.body, stmt.Calls type

namespace Expr

theorem typesOfAll_eq_flatMap (exprs : List Expr) : typesOfAll exprs = exprs.flatMap types := by
  induction exprs with
  | nil => rfl
  | cons first rest ih => rw [typesOfAll, ih, List.flatMap_cons]

theorem mem_types_iff_parts (expr : Expr) (type : TypeName) :
    type ∈ expr.types ↔ expr.callee? = some type ∨ ∃ part ∈ expr.parts, type ∈ part.types := by
  cases expr <;> simp [types, callee?, parts, typesOfAll_eq_flatMap, eq_comm]

theorem sizeOf_lt_of_mem_parts {expr part : Expr} (member : part ∈ expr.parts) :
    sizeOf part < sizeOf expr := by
  cases expr with
  | fieldOf target name =>
      obtain rfl := List.mem_singleton.mp member
      simp only [fieldOf.sizeOf_spec]
      omega
  | cast type operand =>
      obtain rfl := List.mem_singleton.mp member
      simp only [cast.sizeOf_spec]
      omega
  | binary operator left right =>
      rcases List.mem_pair.mp member with rfl | rfl <;> simp only [binary.sizeOf_spec] <;> omega
  | ownCall method arguments =>
      have smaller := List.sizeOf_lt_of_mem (show part ∈ arguments from member)
      simp only [ownCall.sizeOf_spec]
      omega
  | callOn target method arguments =>
      simp only [callOn.sizeOf_spec]
      rcases List.mem_cons.mp member with rfl | argument
      · omega
      · have smaller := List.sizeOf_lt_of_mem argument
        omega
  | staticCall owner method arguments =>
      have smaller := List.sizeOf_lt_of_mem (show part ∈ arguments from member)
      simp only [staticCall.sizeOf_spec]
      omega
  | _ => exact absurd member List.not_mem_nil

theorem mem_types_iff_calls (expr : Expr) (type : TypeName) :
    type ∈ expr.types ↔ expr.Calls type := by
  constructor
  · intro member
    rcases (expr.mem_types_iff_parts type).mp member with named | ⟨part, inside, further⟩
    · exact .here named
    · exact .inside inside ((mem_types_iff_calls part type).mp further)
  · intro calls
    induction calls with
    | here named => exact (mem_types_iff_parts _ type).mpr (.inl named)
    | inside member _ ih => exact (mem_types_iff_parts _ type).mpr (.inr ⟨_, member, ih⟩)
termination_by sizeOf expr
decreasing_by exact sizeOf_lt_of_mem_parts inside

end Expr

namespace Stmt

theorem typesOfAll_eq_flatMap (stmts : List Stmt) : typesOfAll stmts = stmts.flatMap types := by
  induction stmts with
  | nil => rfl
  | cons first rest ih => rw [typesOfAll, ih, List.flatMap_cons]

theorem mem_types_iff_calls (stmt : Stmt) (type : TypeName) :
    type ∈ stmt.types ↔ stmt.Calls type := by
  constructor
  · intro member
    cases stmt with
    | branch condition body =>
        rw [types, typesOfAll_eq_flatMap, List.mem_append, List.mem_flatMap] at member
        rcases member with first | ⟨part, inside, further⟩
        · exact .condition body ((condition.mem_types_iff_calls type).mp first)
        · exact .body inside ((mem_types_iff_calls part type).mp further)
    | declare declared name initial =>
        exact .initial declared name ((initial.mem_types_iff_calls type).mp member)
    | result value => exact .result ((value.mem_types_iff_calls type).mp member)
  · intro calls
    induction calls with
    | @condition condition body calls =>
        exact List.mem_append_left _ ((condition.mem_types_iff_calls type).mpr calls)
    | body member _ ih =>
        rw [types, typesOfAll_eq_flatMap]
        exact List.mem_append_right _ (List.mem_flatMap.mpr ⟨_, member, ih⟩)
    | @initial initial declared name calls => exact (initial.mem_types_iff_calls type).mpr calls
    | @result value calls => exact (value.mem_types_iff_calls type).mpr calls
termination_by sizeOf stmt
decreasing_by
  have smaller := List.sizeOf_lt_of_mem inside
  simp only [branch.sizeOf_spec]
  omega

end Stmt

theorem Method.mem_types_iff_calls (method : Method) (type : TypeName) :
    type ∈ method.types ↔ method.Calls type := by
  rw [types, Stmt.typesOfAll_eq_flatMap, List.mem_flatMap]
  exact exists_congr fun stmt => and_congr_right fun _ => stmt.mem_types_iff_calls type

/-! ## Class names in printed code -/

/-- A piece of printed code. -/
inductive Fragment where
  /-- Text without a class that is called by name. -/
  | verbatim (text : String)
  /-- The simple name of a class that is called. -/
  | className (type : TypeName)

namespace Fragment

/-- The piece as it is printed. -/
def text : Fragment → String
  | verbatim text => text
  | className type => type.name

/-- The class whose name the piece is. -/
def class? : Fragment → Option TypeName
  | verbatim _ => none
  | className type => some type

/-- The pieces printed one after the other. -/
def print (fragments : List Fragment) : String :=
  Text.concat (fragments.map text)

/-- The classes whose names are among the pieces, in order and repeats kept. -/
def classes (fragments : List Fragment) : List TypeName :=
  fragments.filterMap class?

theorem mem_classes_iff (fragments : List Fragment) (type : TypeName) :
    type ∈ classes fragments ↔ className type ∈ fragments := by
  rw [classes, List.mem_filterMap]
  constructor
  · rintro ⟨fragment, member, named⟩
    cases fragment with
    | verbatim text => simp [class?] at named
    | className other =>
        obtain rfl := Option.some.inj named
        exact member
  · exact fun member => ⟨_, member, rfl⟩

@[simp]
theorem print_nil : print [] = "" := rfl

@[simp]
theorem print_cons (fragment : Fragment) (rest : List Fragment) :
    print (fragment :: rest) = fragment.text ++ print rest := rfl

@[simp]
theorem print_append (front back : List Fragment) :
    print (front ++ back) = print front ++ print back := by
  rw [print, List.map_append, Text.concat_append]
  rfl

@[simp]
theorem classes_nil : classes [] = [] := rfl

@[simp]
theorem classes_verbatim (text : String) (rest : List Fragment) :
    classes (verbatim text :: rest) = classes rest := rfl

@[simp]
theorem classes_className (type : TypeName) (rest : List Fragment) :
    classes (className type :: rest) = type :: classes rest := rfl

@[simp]
theorem classes_append (front back : List Fragment) :
    classes (front ++ back) = classes front ++ classes back :=
  List.filterMap_append

end Fragment

/-- The calls of a listing behind the name of its helper. -/
def Listing.chainText (content : Listing) : String :=
  ".toStringHelper(this)" ++ ((if content.omitNulls then ".omitNullValues()" else "") ++
    (Text.concat (content.entries.map entryText) ++ ".toString()"))

theorem Listing.text_eq (content : Listing) :
    content.text = content.helper.name ++ content.chainText := by
  have regroup (first second third fourth fifth : String) :
      first ++ second ++ third ++ fourth ++ fifth =
        first ++ (second ++ (third ++ (fourth ++ fifth))) := by
    simp only [String.append_assoc]
  exact regroup ..

mutual

/-- The pieces of the text of an expression. -/
def Expr.fragments (nested : Bool) : Expr → List Fragment
  | .this => [.verbatim "this"]
  | .null => [.verbatim "null"]
  | .bool true => [.verbatim "true"]
  | .bool false => [.verbatim "false"]
  | .local name => [.verbatim name]
  | .ownField name => [.verbatim name]
  | .fieldOf target name => target.fragments true ++ [.verbatim ".", .verbatim name]
  | .ownCall method arguments =>
      .verbatim method :: .verbatim "(" :: (Expr.argumentFragments arguments ++ [.verbatim ")"])
  | .callOn target method arguments =>
      target.fragments true ++ .verbatim "." :: .verbatim method :: .verbatim "(" ::
        (Expr.argumentFragments arguments ++ [.verbatim ")"])
  | .staticCall owner method arguments =>
      .className owner :: .verbatim "." :: .verbatim method :: .verbatim "(" ::
        (Expr.argumentFragments arguments ++ [.verbatim ")"])
  | .cast type operand =>
      .verbatim "((" :: .verbatim type :: .verbatim ") " ::
        (operand.fragments true ++ [.verbatim ")"])
  | .binary operator left right =>
      let inner := left.fragments true ++ .verbatim " " :: .verbatim operator.symbol ::
        .verbatim " " :: right.fragments true
      if nested then .verbatim "(" :: (inner ++ [.verbatim ")"]) else inner
  | .listing content => [.className content.helper, .verbatim content.chainText]

/-- The pieces of the arguments of a call. -/
def Expr.argumentFragments : List Expr → List Fragment
  | [] => []
  | [last] => last.fragments false
  | first :: next :: rest =>
      first.fragments false ++ .verbatim ", " :: Expr.argumentFragments (next :: rest)

end

mutual

/-- The pieces of a statement at the given depth. -/
def Stmt.fragments (depth : Nat) : Stmt → List Fragment
  | .branch condition body =>
      .verbatim (indentation depth) :: .verbatim "if (" :: (condition.fragments false ++
        .verbatim ") \x7b\n" :: (Stmt.fragmentsOfAll (depth + 1) body ++
          [.verbatim (indentation depth), .verbatim "\x7d\n"]))
  | .declare type name initial =>
      .verbatim (indentation depth) :: .verbatim "final " :: .verbatim type :: .verbatim " " ::
        .verbatim name :: .verbatim " = " :: (initial.fragments false ++ [.verbatim ";\n"])
  | .result value =>
      .verbatim (indentation depth) :: .verbatim "return " ::
        (value.fragments false ++ [.verbatim ";\n"])

/-- The pieces of the statements of a list at the given depth. -/
def Stmt.fragmentsOfAll (depth : Nat) : List Stmt → List Fragment
  | [] => []
  | first :: rest => first.fragments depth ++ Stmt.fragmentsOfAll depth rest

end

/-- The pieces of a method at the given depth. -/
def Method.fragments (method : Method) (depth : Nat) : List Fragment :=
  method.annotations.flatMap (fun annotation =>
      [.verbatim (indentation depth), .verbatim "@", .verbatim annotation, .verbatim "\n"]) ++
    .verbatim (indentation depth) :: .verbatim method.headText :: .verbatim "\n" ::
      (Stmt.fragmentsOfAll (depth + 1) method.body ++
        [.verbatim (indentation depth), .verbatim "\x7d\n"])

open Fragment

mutual

theorem Expr.print_fragments (nested : Bool) :
    ∀ expr : Expr, print (expr.fragments nested) = expr.text nested
  | .this => rfl
  | .null => rfl
  | .bool true => rfl
  | .bool false => rfl
  | .local name => by simp [fragments, Fragment.text, text]
  | .ownField name => by simp [fragments, Fragment.text, text]
  | .fieldOf target name => by
      simp [fragments, Fragment.text, text, target.print_fragments true, String.append_assoc]
  | .ownCall method arguments => by
      simp [fragments, Fragment.text, text, Expr.print_argumentFragments arguments,
        String.append_assoc]
  | .callOn target method arguments => by
      simp [fragments, Fragment.text, text, target.print_fragments true,
        Expr.print_argumentFragments arguments, String.append_assoc]
  | .staticCall owner method arguments => by
      simp [fragments, Fragment.text, text, Expr.print_argumentFragments arguments,
        String.append_assoc]
  | .cast type operand => by
      simp [fragments, Fragment.text, text, operand.print_fragments true, String.append_assoc]
  | .binary operator left right => by
      cases nested <;>
        simp [fragments, Fragment.text, text, left.print_fragments true,
          right.print_fragments true, String.append_assoc]
  | .listing content => by
      rw [fragments, print_cons, print_cons, print_nil, String.append_empty, Expr.text,
        content.text_eq]
      rfl

theorem Expr.print_argumentFragments :
    ∀ arguments : List Expr,
      print (Expr.argumentFragments arguments) = Expr.argumentText arguments
  | [] => rfl
  | [last] => by rw [argumentFragments, argumentText, last.print_fragments false]
  | first :: next :: rest => by
      simp [argumentFragments, argumentText, Fragment.text, first.print_fragments false,
        Expr.print_argumentFragments (next :: rest), String.append_assoc]

end

mutual

theorem Expr.classes_fragments (nested : Bool) :
    ∀ expr : Expr, classes (expr.fragments nested) = expr.types
  | .this => rfl
  | .null => rfl
  | .bool true => rfl
  | .bool false => rfl
  | .local name => rfl
  | .ownField name => rfl
  | .fieldOf target name => by simp [fragments, types, target.classes_fragments true]
  | .ownCall method arguments => by
      simp [fragments, types, Expr.classes_argumentFragments arguments]
  | .callOn target method arguments => by
      simp [fragments, types, target.classes_fragments true,
        Expr.classes_argumentFragments arguments]
  | .staticCall owner method arguments => by
      simp [fragments, types, Expr.classes_argumentFragments arguments]
  | .cast type operand => by simp [fragments, types, operand.classes_fragments true]
  | .binary operator left right => by
      cases nested <;>
        simp [fragments, types, left.classes_fragments true, right.classes_fragments true]
  | .listing content => rfl

theorem Expr.classes_argumentFragments :
    ∀ arguments : List Expr,
      classes (Expr.argumentFragments arguments) = Expr.typesOfAll arguments
  | [] => rfl
  | [last] => by simp [argumentFragments, typesOfAll, last.classes_fragments false]
  | first :: next :: rest => by
      rw [argumentFragments, typesOfAll, classes_append, classes_verbatim,
        first.classes_fragments false, Expr.classes_argumentFragments (next :: rest)]

end

mutual

theorem Stmt.print_fragments (margin depth : Nat) :
    ∀ stmt : Stmt, print (stmt.fragments (margin + depth)) =
      Text.concat ((stmt.lines depth).map (CodeLine.layout margin))
  | .branch condition body => by
      have inner := Stmt.print_fragmentsOfAll margin (depth + 1) body
      rw [← Nat.add_assoc] at inner
      simp [fragments, lines, CodeLine.layout, Fragment.text, condition.print_fragments false,
        inner, Text.concat_append, String.append_assoc]
  | .declare type name initial => by
      simp [fragments, lines, CodeLine.layout, Fragment.text, initial.print_fragments false,
        String.append_assoc]
  | .result value => by
      simp [fragments, lines, CodeLine.layout, Fragment.text, value.print_fragments false,
        String.append_assoc]

theorem Stmt.print_fragmentsOfAll (margin depth : Nat) :
    ∀ stmts : List Stmt, print (Stmt.fragmentsOfAll (margin + depth) stmts) =
      Text.concat ((Stmt.linesOfAll depth stmts).map (CodeLine.layout margin))
  | [] => rfl
  | first :: rest => by
      rw [fragmentsOfAll, linesOfAll, print_append, first.print_fragments margin depth,
        Stmt.print_fragmentsOfAll margin depth rest, List.map_append, Text.concat_append]

end

mutual

theorem Stmt.classes_fragments (depth : Nat) :
    ∀ stmt : Stmt, classes (stmt.fragments depth) = stmt.types
  | .branch condition body => by
      simp [fragments, types, condition.classes_fragments false,
        Stmt.classes_fragmentsOfAll (depth + 1) body]
  | .declare type name initial => by simp [fragments, types, initial.classes_fragments false]
  | .result value => by simp [fragments, types, value.classes_fragments false]

theorem Stmt.classes_fragmentsOfAll (depth : Nat) :
    ∀ stmts : List Stmt, classes (Stmt.fragmentsOfAll depth stmts) = Stmt.typesOfAll stmts
  | [] => rfl
  | first :: rest => by
      rw [fragmentsOfAll, typesOfAll, classes_append, first.classes_fragments depth,
        Stmt.classes_fragmentsOfAll depth rest]

end

namespace Method

variable (method : Method) (depth : Nat)

/-- The pieces of a method make up its text. -/
theorem print_fragments : print (method.fragments depth) = method.text depth := by
  have marks (annotations : List String) :
      print (annotations.flatMap fun annotation => [.verbatim (indentation depth), .verbatim "@",
        .verbatim annotation, .verbatim "\n"]) =
      Text.concat ((annotations.map fun annotation => ⟨0, "@" ++ annotation⟩).map
        (CodeLine.layout depth)) := by
    induction annotations with
    | nil => rfl
    | cons annotation rest ih =>
        rw [List.flatMap_cons, print_append, ih]
        simp [CodeLine.layout, Fragment.text, String.append_assoc]
  have body := Stmt.print_fragmentsOfAll depth 1 method.body
  rw [fragments, print_append, marks, text, lines, List.map_append, Text.concat_append]
  simp [CodeLine.layout, Fragment.text, body, Text.concat_append, String.append_assoc]

/-- The class names in the text of a method are those of the classes that it calls. -/
theorem className_mem_fragments_iff (type : TypeName) :
    .className type ∈ method.fragments depth ↔ method.Calls type := by
  have noMarks (annotations : List String) :
      classes (annotations.flatMap fun annotation => [.verbatim (indentation depth), .verbatim "@",
        .verbatim annotation, .verbatim "\n"]) = [] := by
    induction annotations with
    | nil => rfl
    | cons annotation rest ih =>
        rw [List.flatMap_cons, classes_append, ih]
        rfl
  rw [← mem_classes_iff, ← mem_types_iff_calls, types, fragments, classes_append, noMarks]
  simp [Stmt.classes_fragmentsOfAll]

end Method

/-! ## Import lines -/

/-- The class lies in a package that is neither `java.lang` nor that of the declared class. -/
def ClassDecl.IsElsewhere (decl : ClassDecl) (type : TypeName) : Prop :=
  ∃ package, type.package = some package ∧ package ≠ "java.lang" ∧ some package ≠ decl.package

theorem ClassDecl.importsType_iff_isElsewhere (decl : ClassDecl) (type : TypeName) :
    decl.importsType type = true ↔ decl.IsElsewhere type := by
  rw [importsType, TypeName.needsImport, IsElsewhere]
  cases type.package <;> simp

theorem ClassDecl.mem_imports_iff_calls (decl : ClassDecl) (name : String) :
    name ∈ decl.imports ↔
      ∃ method ∈ decl.generated, ∃ type, method.Calls type ∧ decl.IsElsewhere type ∧
        type.qualified = name := by
  simp only [imports, mem_sortedTexts_iff, List.mem_map, List.mem_filter, List.mem_flatMap,
    Method.mem_types_iff_calls, importsType_iff_isElsewhere]
  constructor
  · rintro ⟨type, ⟨⟨method, member, calls⟩, elsewhere⟩, rfl⟩
    exact ⟨method, member, type, calls, elsewhere, rfl⟩
  · rintro ⟨method, member, type, calls, elsewhere, rfl⟩
    exact ⟨type, ⟨⟨method, member, calls⟩, elsewhere⟩, rfl⟩

namespace ClassModel

/-- The unit of a class with the names in its import lines. -/
def unitImporting (model : ClassModel) (decl : ClassDecl) (names : List String) : String :=
  "// Generated by valuegen. Do not edit manually.\n" ++ decl.packageText ++
    (if names.isEmpty then ""
      else "\n" ++ Text.concat (names.map fun name => "import " ++ name ++ ";\n")) ++
    "\n" ++ model.headText decl ++ decl.fieldsText ++
    Text.concat (decl.declaredMethods.map decl.declaredText) ++
    Text.concat (decl.generated.map fun method => "\n" ++ method.text 1) ++ "\x7d\n"

/-- The import lines of a unit ascend without repeats, and they are those of the classes outside of
`java.lang` and of the own package that the generated methods call.  The text of a generated method
names exactly the classes that it calls, so no class name lacks its import line, and no line is
there without a class name. -/
theorem imports_complete_and_minimal (model : ClassModel) (decl : ClassDecl) :
    model.unitOf decl = model.unitImporting decl decl.imports ∧
    decl.imports.Pairwise (· < ·) ∧
    (∀ name, name ∈ decl.imports ↔ ∃ method ∈ decl.generated, ∃ type, method.Calls type ∧
      decl.IsElsewhere type ∧ type.qualified = name) ∧
    ∀ depth,
      (∀ method ∈ decl.generated, method.text depth = Fragment.print (method.fragments depth) ∧
        ∀ type, (.className type ∈ method.fragments depth ↔ method.Calls type) ∧
          (.className type ∈ method.fragments depth → decl.IsElsewhere type →
            type.qualified ∈ decl.imports)) ∧
      ∀ name ∈ decl.imports, ∃ method ∈ decl.generated, ∃ type,
        .className type ∈ method.fragments depth ∧ type.qualified = name := by
  have lines := decl.mem_imports_iff_calls
  refine ⟨rfl, pairwise_sortedTexts _, lines, fun depth => ⟨fun method member => ?_, ?_⟩⟩
  · have named (type : TypeName) := method.className_mem_fragments_iff depth type
    refine ⟨(method.print_fragments depth).symm, fun type => ⟨named type, ?_⟩⟩
    intro printed elsewhere
    exact (lines _).mpr ⟨method, member, type, (named type).mp printed, elsewhere, rfl⟩
  · intro name listed
    obtain ⟨method, member, type, calls, _, named⟩ := (lines name).mp listed
    exact ⟨method, member, type, (method.className_mem_fragments_iff depth type).mpr calls, named⟩

/-- A class with a method that calls classes of four packages, one of them in a nested branch and
one of them twice. -/
def manyCallees : ClassDecl :=
  let call (package name : String) (arguments : List Expr) : Expr :=
    .staticCall ⟨some package, name⟩ "test" arguments
  let body : List Stmt :=
    [.branch (call "q" "Second" [call "java.lang" "Integer" []])
        [.branch (.binary .both .this (.cast "C" (call "p" "First" []))) [.result (.bool true)]],
      .declare "int" "x" (.callOn (call "own" "Third" []) "test" [call "q" "Second" []])]
  ⟨"C", some "own", false, [], none, [], [⟨.hashCode, "int", [], [], body⟩]⟩

example : manyCallees.imports = ["p.First", "q.Second"] := by decide +kernel

end ClassModel
end ValueMethods
